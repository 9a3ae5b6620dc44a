import SchemaSdk.Json.Value
import SchemaSdk.Report.Style
import SchemaSdk.Schema.Model

/-!
# Reports on models and files

What is printed about ordered models, as JSON, as bare names, or as numbered lines with the number
of fields and the models each refers to, and about the files that were written.
-/
namespace SchemaSdk.Report

open SchemaSdk.Schema

/-- How the models are printed. -/
inductive Format where
  | json
  | compact
  | pretty
  deriving DecidableEq

namespace Format

/-- The format with a name. -/
def ofName? : String → Option Format
  | "json" => some json
  | "compact" => some compact
  | "pretty" => some pretty
  | _ => none

/-- How a format is called. -/
def name : Format → String
  | json => "json"
  | compact => "compact"
  | pretty => "pretty"

end Format

/-- The other models that a model refers to. -/
def modelDependencies (c : Collection) (m : Model) : List String :=
  m.dependencies.filter fun name => name != m.name && (c.model? name).isSome

/-- A model in the JSON format. -/
def modelJson (c : Collection) (m : Model) : Json :=
  .object [
    ("dependencies", .array ((modelDependencies c m).map .string)),
    ("fields", .ofNat m.fields.length),
    ("name", .string m.name)]

/-- How many fields there are, in words. -/
def fieldCount (n : Nat) : String :=
  if n = 1 then "1 field" else toString n ++ " fields"

/-- A number behind blanks that fill it up to a width. -/
def alignRight (width n : Nat) : String :=
  let digits := toString n
  String.ofList (List.replicate (width - digits.length) ' ') ++ digits

/-- The line of a model at a position. -/
def modelLine (c : Collection) (styles : Bool) (width position : Nat) (m : Model) : String :=
  let dependencies := modelDependencies c m
  alignRight width position ++ ". " ++ styled styles .bold m.name ++ " " ++
    styled styles .dimmed ("(" ++ fieldCount m.fields.length ++ ")") ++
    if dependencies.isEmpty then ""
    else " " ++ styled styles .grey "<-" ++ " " ++
      styled styles .cyan (", ".intercalate dependencies)

/-- Ordered models in a format. -/
def models (c : Collection) (ordered : List Model) (format : Format) (styles : Bool) : String :=
  match format with
  | .json => (Json.array (ordered.map (modelJson c))).text
  | .compact => "\n".intercalate (ordered.map (·.name))
  | .pretty =>
    if ordered.isEmpty then "No models"
    else
      let width := (toString ordered.length).length
      "\n".intercalate (ordered.zipIdx.map fun (m, i) => modelLine c styles width (i + 1) m)

/-- The files that were written. -/
def written (paths : List String) (styles : Bool) : String :=
  "\n".intercalate (paths.map fun p => styled styles .boldGreen "+" ++ " " ++ p)

end SchemaSdk.Report
