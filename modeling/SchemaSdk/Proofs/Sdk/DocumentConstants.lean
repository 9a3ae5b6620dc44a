import SchemaSdk.Proofs.Sdk.ClientNames
import SchemaSdk.Proofs.Sdk.ModuleParts
import SchemaSdk.Proofs.Text.StringLiterals

/-!
# Constants with request documents

A client module declares a constant for the document of every operation, as a raw string literal on
a line of its own before the client type. No document has a quotation mark or a break of lines, so
the literal denotes it, and it ends in a brace, so tidying leaves the line alone. Nothing of that
depends on the endpoint, which is printed further down.
-/
namespace SchemaSdk.Sdk

open SchemaSdk.Schema SchemaSdk.Text

/-! ## Reading constants -/

/-- The constant that a line declares, with the value of its raw literal, if it declares one. -/
def constant? (l : List Char) : Option (String × String) := do
  let rest ← "const ".toList.isPrefixOf? l
  let literal ← ": &str = ".toList.isPrefixOf? (rest.dropWhile Identifier.isPart)
  let (value, behind) ← rawLiteral? literal
  if behind = [';'] then some (ClientLine.identifier rest, String.ofList value) else none

/-- The constants that a client module declares before the client type. -/
def declaredConstants (text : String) : List (String × String) :=
  (constantLines text).filterMap constant?

theorem readsStarts_constant : ReadsStarts ["const ".toList] constant? := by
  intro l h
  rw [constant?, isPrefixOf?_eq_none (h _ List.mem_cons_self), Option.bind_eq_bind,
    Option.bind_none]

namespace Call

variable {k : Call}

theorem constant?_documentLine (hconstant : Uses Identifier.isPart k.constant)
    (hquote : '"' ∉ k.document.toList) (hreturn : '\r' ∉ k.document.toList) :
    constant? k.documentLine.toList = some (k.constant, k.document) := by
  have hline : k.documentLine.toList = "const ".toList ++ (k.constant.toList ++ ':' ::
      (" &str = ".toList ++ ("r#\"".toList ++ k.document.toList ++ "\"#".toList ++ [';']))) := by
    simp [documentLine]
  have hrest : (k.constant.toList ++ ':' :: (" &str = ".toList ++ ("r#\"".toList ++
      k.document.toList ++ "\"#".toList ++ [';']))).dropWhile Identifier.isPart =
        ": &str = ".toList ++ ("r#\"".toList ++ k.document.toList ++ "\"#".toList ++ [';']) := by
    rw [List.dropWhile_append_of_pos (uses_iff.mp hconstant),
      List.dropWhile_cons_of_neg (by decide)]
    rfl
  rw [constant?, hline, isPrefixOf?_append, Option.bind_eq_bind, Option.bind_some, hrest,
    isPrefixOf?_append, Option.bind_eq_bind, Option.bind_some, rawLiteral?_append hquote hreturn]
  simp [ClientLine.identifier_append hconstant (c := ':') rfl]

theorem trimEnd_documentLine (k : Call) : trimEnd k.documentLine.toList = k.documentLine.toList :=
  trimEnd_toList_append _ rfl (by decide)

theorem Printable.readsLine_constant (h : k.Printable) (hreturn : '\r' ∉ k.document.toList) :
    ReadsLine constant? k.documentLine (some (k.constant, k.document)) := by
  refine ⟨(readsLine_documentLine h).1, ?_⟩
  rw [trimEnd_documentLine, constant?_documentLine h.constant h.document.1 hreturn]

/-- Tidying leaves the lines of the documents, and no empty lines come between them. -/
theorem visibleLines_documentLines {calls : List Call} (h : ∀ k ∈ calls, k.Printable) :
    visibleLines (layout (calls.map (·.documentLine))).toList =
      calls.map fun k => k.documentLine.toList := by
  have hprinted : ∀ k ∈ calls, printedLines [k.documentLine] = [k.documentLine.toList] := by
    intro k hk
    rw [printedLines_singleton (readsLine_documentLine (h k hk)).1, trimEnd_documentLine]
  have hvisible : ∀ k : Call, (!k.documentLine.toList.isEmpty) = true := by
    simp [documentLine]
  induction calls with
  | nil => decide
  | cons k calls ih =>
    obtain ⟨hk, hcalls⟩ := List.forall_mem_cons.mp h
    obtain ⟨hline, hlines⟩ := List.forall_mem_cons.mp hprinted
    have hrest := ih hcalls hlines
    rw [visibleLines_layout] at hrest ⊢
    rw [List.map_cons, printedLines_cons, hline, List.singleton_append, List.filter_cons,
      if_pos (hvisible k), hrest, List.map_cons]

end Call

namespace ClientModule

variable {m : ClientModule}

theorem readsLines_constant_header (h : m.PrintableNames) : ReadsLines constant? m.header [] := by
  have hschema : ReadsLine constant? ("use super::" ++ m.schemaModule ++ "::*;") none :=
    readsStarts_constant.readsLine_around (by decide) h.schemaModule (by decide)
  have hclient : ReadsLine constant? ("/// Errors returned by [\x60" ++ m.client ++ "\x60].")
      none :=
    readsStarts_constant.readsLine_around (by decide) h.client (by decide)
  unfold header
  iterate 13 refine ReadsLines.skip (.of_ofList (by decide)) ?_
  refine .skip hschema (.skip (.of_ofList (by decide)) (.skip hclient ?_))
  repeat refine ReadsLines.skip (.of_ofList (by decide)) ?_
  exact .nil

/-- **The constants of a module are read back**, whatever its endpoint is. -/
theorem declaredConstants_layout (h : m.PrintableNames)
    (hreturn : ∀ k ∈ m.calls, '\r' ∉ k.document.toList) :
    declaredConstants (layout m.lines) = m.calls.map fun k => (k.constant, k.document) := by
  have hdocuments : ReadsLines constant? (m.calls.map (·.documentLine))
      (m.calls.map fun k => (k.constant, k.document)) := by
    rw [List.map_eq_flatMap, List.map_eq_flatMap]
    exact .flatMap fun k hk => .cons ((h.calls k hk).readsLine_constant (hreturn k hk)) .nil
  rw [declaredConstants, constantLines_layout h,
    filterMap_visibleLines_layout ((readsLines_constant_header h).append hdocuments) rfl,
    List.nil_append]

/-- The constants of a generated client are those of the operations. -/
theorem declaredConstants_of_parse {sdl : String} {c : Collection}
    (hparse : Collection.parse sdl = .ok c) {calls : List Call}
    (hcalls : Call.ofCollection c = .ok calls) (o : Options) :
    declaredConstants (layout (ClientModule.mk (Identifier.client o.clientName)
      (Identifier.schemaModule o.schemaName) o.endpoint calls).lines) =
        c.operations.map fun op => (op.constant, (c.requestFor op).text) := by
  have hwell := Collection.wellFormed_of_parse hparse
  have hreturn : ∀ k ∈ calls, '\r' ∉ k.document.toList := by
    intro k hk
    obtain ⟨op, hop, _, rfl⟩ := Call.exists_operation_of_mem hcalls hk
    exact (Collection.uses_requestText hwell hop).notMem rfl
  rw [declaredConstants_layout (printableNames_of_parse hparse hcalls o) hreturn]
  exact Call.map_document hcalls

end ClientModule

/-- **The constants of a generated client**, whatever its options are: before the client type one is
declared for every operation, in their order, and its raw literal denotes the request document. The
document has no quotation mark and no break of lines, and the line is in the tidied module as it is
printed. -/
theorem declaredConstants_of_generate {sdl : String} {o : Options} {p : Package}
    (h : generate sdl o = .ok p) :
    ∃ c, Collection.parse sdl = .ok c ∧
      declaredConstants p.client.text =
        c.operations.map (fun op => (op.constant, (c.requestFor op).text)) ∧
      (∃ before after, visibleLines p.client.text.toList = before ++
        c.operations.map (fun op => ("const " ++ op.constant ++ ": &str = r#\"" ++
          (c.requestFor op).text ++ "\"#;").toList) ++ after) ∧
      ∀ op ∈ c.operations, '"' ∉ (c.requestFor op).text.toList ∧
        '\n' ∉ (c.requestFor op).text.toList ∧ '\r' ∉ (c.requestFor op).text.toList := by
  obtain ⟨c, order, calls, hparse, _, hcalls, htext, _⟩ := exists_parts_of_generate h
  have hnames := ClientModule.printableNames_of_parse hparse hcalls o
  refine ⟨c, hparse, ?_, ?_, fun op hop => ?_⟩
  · rw [htext]
    exact ClientModule.declaredConstants_of_parse hparse hcalls o
  · have hlines : calls.map (fun k => k.documentLine.toList) =
        c.operations.map fun op => ("const " ++ op.constant ++ ": &str = r#\"" ++
          (c.requestFor op).text ++ "\"#;").toList :=
      Call.map_of_ofCollection hcalls fun _ _ => rfl
    rw [htext, ← hlines, ← Call.visibleLines_documentLines hnames.calls]
    simp only [ClientModule.lines, visibleLines_layout_append, List.append_assoc]
    exact ⟨_, _, rfl⟩
  · have hdocument := Collection.uses_requestText (Collection.wellFormed_of_parse hparse) hop
    exact ⟨hdocument.notMem rfl, hdocument.notMem rfl, hdocument.notMem rfl⟩

/-- An endpoint that looks like the line of a constant declares none. -/
theorem declaredConstants_of_generate_endpoint :
    ∃ p, generate "type Query { films(limit: Int): [String!]! }"
        ⟨"Cine", none, some "\");\nconst A: &str = r#\"b\"#;"⟩ = .ok p ∧
      declaredConstants p.client.text =
        [("FILMS_QUERY", "query Films($limit: Int) \x7b films(limit: $limit) \x7d")] := by
  have hok : (Collection.parse "type Query { films(limit: Int): [String!]! }").toOption.any (fun c =>
      (render c ⟨"Cine", none, some "\");\nconst A: &str = r#\"b\"#;"⟩).toOption.any fun _ =>
        decide ((∀ op ∈ c.operations, c.model? op.field.typeName = none) ∧
          c.operations.map (fun op =>
            (op.constant, { c.requestFor op with fragments := [] }.text)) =
              [("FILMS_QUERY", "query Films($limit: Int) \x7b films(limit: $limit) \x7d")])) =
      true := by
    decide
  obtain ⟨c, p, hparse, h, hcheck⟩ := exists_generated_of_any hok
  obtain ⟨hnone, htexts⟩ := of_decide_eq_true hcheck
  have hrequests : ∀ op ∈ c.operations,
      c.requestFor op = { c.requestFor op with fragments := [] } := fun op hop => by
    simp only [Collection.requestFor, Collection.fragmentModels,
      Collection.visit_cons_of_none (hnone op hop), Collection.visit, List.map_nil]
  obtain ⟨c', hparse', hconstants, _, _⟩ := declaredConstants_of_generate h
  obtain rfl := Except.ok.inj (hparse.symm.trans hparse')
  refine ⟨p, h, ?_⟩
  rw [hconstants, ← htexts]
  exact List.map_congr_left fun op hop => by rw [← hrequests op hop]

end SchemaSdk.Sdk
