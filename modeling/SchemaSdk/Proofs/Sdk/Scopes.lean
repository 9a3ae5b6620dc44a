import SchemaSdk.Proofs.Sdk.Outline

/-!
# The scopes of a schema module

Every declaration of a schema module opens a scope: an alias an empty one, an enum that of its
variants and a struct that of its fields. The scopes are read off the text line by line, on top of
what the outline reads there; a variant is an identifier alone on its line, with a comma.
-/
namespace SchemaSdk.Sdk

open SchemaSdk.Schema SchemaSdk.Text

/-! ## Reading a module -/

/-- What a line of a schema module declares: a type, or a member of the one before it. -/
inductive ScopeLine where
  | opens (ident : String)
  | member (ident : String)
  deriving DecidableEq

/-- The variant that a line declares, if it does. -/
def variantOf : List Char → Option String
  | ' ' :: ' ' :: ' ' :: ' ' :: r =>
    if r.dropWhile Identifier.isPart = [','] then
      some (String.ofList (r.takeWhile Identifier.isPart))
    else none
  | _ => none

namespace ScopeLine

/-- What a line of the outline declares. -/
def ofLine : Line → Option ScopeLine
  | .synonym i | .enumeration i | .struct i => some (opens i)
  | .field i _ => some (member i)
  | .close => none

/-- What a line declares, if it does. -/
def read (l : List Char) : Option ScopeLine :=
  match Line.read l with
  | some c => ofLine c
  | none => (variantOf l).map member

end ScopeLine

/-- The members that lines declare before they open a scope. -/
def membersFrom : List ScopeLine → List String
  | .member i :: ls => i :: membersFrom ls
  | _ => []

/-- The scopes that lines open, each with its members. -/
def scopesFrom : List ScopeLine → List (String × List String)
  | [] => []
  | .opens i :: ls => (i, membersFrom ls) :: scopesFrom ls
  | .member _ :: ls => scopesFrom ls

/-- The types that a schema module declares in the order of its text, each with the identifiers of
its variants or fields. -/
def declaredScopes (text : String) : List (String × List String) :=
  scopesFrom ((visibleLines text.toList).filterMap ScopeLine.read)

/-! ## Lines as they are printed -/

namespace ScopeLine

variable {l : String}

theorem readsLine_of_line {c : Line} (h : ReadsLine Line.read l (some c)) :
    ReadsLine read l (ofLine c) := by
  refine ⟨h.1, ?_⟩
  rw [read, h.2]

/-- A line that the outline passes over is passed over if it does not start like a variant. -/
theorem readsLine_of_start {s r : List Char} (h : ReadsLine Line.read l none)
    (hl : l.toList = s ++ r) (hs : trimEnd s = s) (hvariant : ∀ t, variantOf (s ++ t) = none) :
    ReadsLine read l none := by
  have hstart : ∃ t, trimEnd l.toList = s ++ t := by
    rw [hl]
    by_cases hr : trimEnd r = []
    · exact ⟨[], by rw [trimEnd_append_of_eq_nil hr, hs, List.append_nil]⟩
    · exact ⟨trimEnd r, trimEnd_append hr⟩
  obtain ⟨t, ht⟩ := hstart
  refine ⟨h.1, ?_⟩
  rw [read, h.2, ht]
  simp [hvariant t]

theorem readsLine_variant {i : String} (hi : OneWord i) (hparts : Uses Identifier.isPart i) :
    ReadsLine read ("    " ++ i ++ ",") (some (member i)) := by
  have h := Sdk.readsLine_variant hi
  have hcomma : trimEnd ("    " ++ i ++ ",").toList =
      ' ' :: ' ' :: ' ' :: ' ' :: (i.toList ++ [',']) := by
    rw [trimEnd_append_comma]
    simp
  have hvariant : variantOf (' ' :: ' ' :: ' ' :: ' ' :: (i.toList ++ [','])) = some i := by
    have hmark : Identifier.isPart ',' = false := rfl
    rw [variantOf, List.dropWhile_append_of_pos (uses_iff.mp hparts),
      List.takeWhile_append_of_pos (uses_iff.mp hparts)]
    simp [hmark]
  refine ⟨h.1, ?_⟩
  rw [read, h.2, hcomma, hvariant]
  rfl

theorem readsLines_docComment {indent : String} (h : indent = "" ∨ indent = "    ")
    {doc : List String} (hdoc : ∀ l ∈ doc, '\n' ∉ l.toList) :
    ReadsLines read (docComment indent doc) [] := by
  refine .skipAll fun l hl => ?_
  obtain ⟨d, hd, rfl⟩ := List.mem_map.mp hl
  have hline : ReadsLine Line.read (indent ++ "/// " ++ d) none := by
    refine readsLine_iff.mpr ⟨?_, said_comment h d⟩
    rcases h with rfl | rfl <;> simp [hdoc d hd]
  rcases h with rfl | rfl
  · exact readsLine_of_start (s := "///".toList) (r := ' ' :: d.toList) hline (by simp) (by decide)
      fun _ => rfl
  · exact readsLine_of_start (s := "    ///".toList) (r := ' ' :: d.toList) hline (by simp)
      (by decide) fun _ => rfl

theorem readsLine_rename {name mark : String} (hname : '\n' ∉ name.toList)
    (hmark : '\n' ∉ mark.toList ∧ trimEnd mark.toList ≠ []) :
    ReadsLine read ("    #[serde(rename = \"" ++ name ++ mark) none :=
  readsLine_of_start (s := "    #[serde(rename = \"".toList) (r := (name ++ mark).toList)
    (Sdk.readsLine_rename hname hmark) (by simp) (by decide) fun _ => rfl

end ScopeLine

open ScopeLine (readsLine_of_line readsLine_of_start)

/-! ## Declarations as they are printed -/

theorem Member.readsLines_scope {m : Member} (h : m.Printable) :
    ReadsLines ScopeLine.read m.lines [.member m.ident] := by
  have hattribute : ReadsLines ScopeLine.read m.serdeAttribute [] := by
    unfold serdeAttribute
    split
    · exact .skip (ScopeLine.readsLine_rename h.name.2 (by decide)) .nil
    · exact .skip (ScopeLine.readsLine_rename h.name.2 (by decide)) .nil
    · exact .skip (.of_ofList (by decide)) .nil
    · exact .nil
  have hfield := ReadsLines.nil.cons (readsLine_of_line (readsLine_field h.ident h.type))
  exact ((ScopeLine.readsLines_docComment (.inr rfl) h.doc).append hattribute).append hfield

theorem Variant.readsLines_scope {v : Variant} (h : v.Printable)
    (hparts : Uses Identifier.isPart v.ident) :
    ReadsLines ScopeLine.read v.lines [.member v.ident] := by
  have hvariant := ReadsLines.nil.cons (ScopeLine.readsLine_variant h.ident hparts)
  unfold lines
  split
  · exact hvariant
  · exact hvariant.skip (ScopeLine.readsLine_rename h.value.2 (by decide))

namespace Declaration

/-- The identifiers of the variants are spelled like identifiers. -/
def VariantsUseParts : Declaration → Prop
  | enumeration _ _ vs => ∀ v ∈ vs, Uses Identifier.isPart v.ident
  | _ => True

/-- The identifiers of the variants or fields. -/
def memberIdents : Declaration → List String
  | synonym _ => []
  | enumeration _ _ vs => vs.map (·.ident)
  | struct _ _ _ ms => ms.map (·.ident)

/-- What the lines of a declaration declare. -/
def scopeLines (d : Declaration) : List ScopeLine := .opens d.ident :: d.memberIdents.map .member

theorem readsLines_scope {d : Declaration} (h : d.Printable) (hparts : d.VariantsUseParts) :
    ReadsLines ScopeLine.read d.lines d.scopeLines := by
  have hclose : ReadsLine ScopeLine.read "\x7d" none := .of_ofList (by decide)
  have hempty : ReadsLine ScopeLine.read "" none := .of_ofList (by decide)
  cases d with
  | synonym i =>
    have hcomment : ReadsLine ScopeLine.read
        ("/// Custom scalar \x60" ++ i ++ "\x60, carried as its string representation.") none :=
      readsLine_of_start (s := "///".toList)
        (r := (" Custom scalar \x60" ++ i ++ "\x60, carried as its string representation.").toList)
        (readsLine_scalarComment h) (by simp) (by decide) fun _ => rfl
    exact (ReadsLines.nil.cons (readsLine_of_line (readsLine_synonym h))).skip hcomment
  | enumeration i doc vs =>
    obtain ⟨hi, hdoc, hvs⟩ := h
    have hvariants : ReadsLines ScopeLine.read (vs.flatMap (·.lines))
        (vs.flatMap fun v => [.member v.ident]) :=
      .flatMap fun v hv => v.readsLines_scope (hvs v hv) (hparts v hv)
    have hopen := ((ReadsLines.nil.cons (readsLine_of_line (readsLine_enumeration hi))).skip
      (l := "#[derive(Debug, Clone, Copy, PartialEq, Eq, Hash, Serialize, Deserialize)]")
      (.of_ofList (by decide)))
    have hlines := (((ScopeLine.readsLines_docComment (.inl rfl) hdoc).append hopen).append
      hvariants).append ((ReadsLines.nil.skip hempty).skip hclose)
    rw [← List.map_eq_flatMap] at hlines
    simpa [lines, scopeLines, ident, memberIdents, Function.comp_def] using hlines
  | struct i model doc ms =>
    obtain ⟨hi, hmodel, hdoc, hms⟩ := h
    have hmembers : ReadsLines ScopeLine.read (ms.flatMap (·.lines))
        (ms.flatMap fun m => [.member m.ident]) :=
      .flatMap fun m hm => m.readsLines_scope (hms m hm)
    have hopen := ((ReadsLines.nil.cons (readsLine_of_line (readsLine_struct hi))).skip
      (l := "#[derive(Debug, Clone, PartialEq, Serialize, Deserialize)]")
      (.of_ofList (by decide)))
    have himpl : ReadsLine ScopeLine.read ("impl " ++ i ++ " \x7b") none :=
      readsLine_of_start (s := "impl".toList) (r := (" " ++ i ++ " \x7b").toList)
        (readsLine_impl hi) (by simp) (by decide) fun _ => rfl
    have htypeName : ReadsLine ScopeLine.read
        ("    pub const TYPE_NAME: &\x27static str = \"" ++ model ++ "\";") none :=
      readsLine_of_start (s := "    pub const TYPE_NAME: &\x27static str = \"".toList)
        (r := (model ++ "\";").toList) (readsLine_typeName hmodel.2) (by simp) (by decide)
        fun _ => rfl
    have hname := (((ReadsLines.nil.skip hempty).skip hclose).skip htypeName).skip
      (l := "    /// Name of the GraphQL type this struct mirrors.") (.of_ofList (by decide))
    have hlines := (((ScopeLine.readsLines_docComment (.inl rfl) hdoc).append hopen).append
      hmembers).append (((hname.skip himpl).skip hempty).skip hclose)
    rw [← List.map_eq_flatMap] at hlines
    simpa [lines, scopeLines, ident, memberIdents, Function.comp_def] using hlines

/-! ## Modules -/

theorem membersFrom_append {names : List String} {ls : List ScopeLine} (h : membersFrom ls = []) :
    membersFrom (names.map .member ++ ls) = names := by
  induction names with
  | nil => exact h
  | cons name names ih => rw [List.map_cons, List.cons_append, membersFrom, ih]

theorem scopesFrom_append (names : List String) (ls : List ScopeLine) :
    scopesFrom (names.map .member ++ ls) = scopesFrom ls := by
  induction names with
  | nil => rfl
  | cons name names ih => rw [List.map_cons, List.cons_append, scopesFrom, ih]

theorem scopesFrom_scopeLines (ds : List Declaration) :
    scopesFrom (ds.flatMap (·.scopeLines)) = ds.map fun d => (d.ident, d.memberIdents) := by
  induction ds with
  | nil => rfl
  | cons d ds ih =>
    have hnext : membersFrom (ds.flatMap (·.scopeLines)) = [] := by cases ds <;> rfl
    rw [List.flatMap_cons, scopeLines, List.cons_append, scopesFrom, membersFrom_append hnext,
      scopesFrom_append, ih, List.map_cons]

end Declaration

/-- **The scopes of a module are read back.** -/
theorem SchemaModule.declaredScopes_lines {m : SchemaModule}
    (h : ∀ d ∈ m.declarations, d.Printable ∧ d.VariantsUseParts) :
    declaredScopes (layout m.lines) = m.declarations.map fun d => (d.ident, d.memberIdents) := by
  obtain ⟨haliases, htypes⟩ := List.forall_mem_append.mp h
  have hheader : ReadsLines ScopeLine.read header [] := by
    unfold header
    repeat refine ReadsLines.skip (.of_ofList (by decide)) ?_
    exact .nil
  have hgap : ReadsLines ScopeLine.read [""] [] := .skip (.of_ofList (by decide)) .nil
  have hlines : ReadsLines ScopeLine.read m.lines (m.declarations.flatMap (·.scopeLines)) := by
    have hflat {ds : List Declaration} (hds : ∀ d ∈ ds, d.Printable ∧ d.VariantsUseParts) :
        ReadsLines ScopeLine.read (ds.flatMap (·.lines)) (ds.flatMap (·.scopeLines)) :=
      .flatMap fun d hd => Declaration.readsLines_scope (hds d hd).1 (hds d hd).2
    have hall := ((hheader.append (hflat haliases)).append hgap).append (hflat htypes)
    rw [declarations, List.flatMap_append]
    simpa [lines] using hall
  rw [declaredScopes, filterMap_visibleLines_layout hlines rfl, Declaration.scopesFrom_scopeLines]

/-- The scopes of the module of a schema are those of its scalars, enumerations and models. -/
theorem declaredScopes_ofModels {c : Collection} (h : c.WellFormed) {models : List Model}
    (hmodels : ∀ m ∈ models, m ∈ c.models) :
    declaredScopes (layout (SchemaModule.ofModels c models).lines) =
      c.scalars.map (fun s => (Identifier.ofType s, [])) ++
        c.enums.map (fun e => (Identifier.ofType e.name, e.values.map Identifier.ofType)) ++
          models.map fun m =>
            (Identifier.ofType m.name, m.fields.map fun f => Identifier.ofField f.name) := by
  have hprintable := SchemaModule.printable_ofModels h hmodels
  have hparts : ∀ d ∈ (SchemaModule.ofModels c models).declarations, d.VariantsUseParts := by
    intro d hd
    simp only [SchemaModule.declarations, SchemaModule.ofModels, List.mem_append,
      List.mem_map] at hd
    rcases hd with ⟨s, _, rfl⟩ | ⟨e, he, rfl⟩ | ⟨m, _, rfl⟩
    · trivial
    · intro v hv
      obtain ⟨value, hvalue, rfl⟩ := List.mem_map.mp hv
      have hname := (h.enums_spelled e he).2 value hvalue
      dsimp only
      exact uses_iff.mpr fun _ hc => Identifier.isPart_of_mem_ofType hname hc
    · trivial
  rw [SchemaModule.declaredScopes_lines fun d hd => ⟨hprintable d hd, hparts d hd⟩]
  simp [SchemaModule.declarations, SchemaModule.ofModels, Function.comp_def, Declaration.ofScalar,
    Declaration.ofEnum, Declaration.ofModel, Declaration.ident, Declaration.memberIdents,
    Member.ofField]

end SchemaSdk.Sdk
