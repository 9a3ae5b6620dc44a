import SchemaSdk.Proofs.Sdk.MethodNames
import SchemaSdk.Proofs.Sdk.Outline
import SchemaSdk.Proofs.Sdk.RequestText
import SchemaSdk.Proofs.Text.SnakeCase

/-!
# Client modules read back

A client module is read by its lines: one that starts as a constant declares a document, one that
starts as a function declares the function, and one that sends a document does so in the function
before it. What is read of a generated module is what it was made from, as long as no name, document
or comment in it breaks a line.
-/
namespace SchemaSdk.Sdk

open SchemaSdk.Schema SchemaSdk.Text

/-! ## Reading a module -/

/-- What a line of a client module declares or sends. -/
inductive ClientLine where
  | document (constant text : String)
  | function (name : String)
  | request (constant : String)
  deriving DecidableEq

namespace ClientLine

/-- The identifier that a text starts with. -/
def identifier (s : List Char) : String := String.ofList (s.takeWhile Identifier.isPart)

/-- What stands between the first two quotation marks of a text. -/
def quoted (s : List Char) : String :=
  String.ofList (((s.dropWhile (· != '"')).drop 1).takeWhile (· != '"'))

/-- How the lines start that declare or send something, and what is read behind that. -/
def starts : List (String × (List Char → ClientLine)) := [
  ("const ", fun r => .document (identifier r) (quoted r)),
  ("    pub fn ", fun r => .function (identifier r)),
  ("    pub async fn ", fun r => .function (identifier r)),
  ("        let mut data = self.execute(", fun r => .request (identifier r))]

/-- What a line declares or sends, if it does. -/
def read (l : List Char) : Option ClientLine :=
  starts.findSome? fun (start, sense) => (start.toList.isPrefixOf? l).map sense

end ClientLine

/-- The lines of a client module that declare or send something. -/
def clientLines (text : String) : List ClientLine :=
  (visibleLines text.toList).filterMap ClientLine.read

/-- The constants whose documents are sent before anything else is declared. -/
def sentFrom : List ClientLine → List String
  | .request constant :: ls => constant :: sentFrom ls
  | _ => []

/-- The functions that lines declare, each with the constants whose documents it sends. -/
def functionsFrom : List ClientLine → List (String × List String)
  | [] => []
  | .function name :: ls => (name, sentFrom ls) :: functionsFrom ls
  | _ :: ls => functionsFrom ls

/-- The documents that lines declare, each with the name of its constant. -/
def documentsFrom (ls : List ClientLine) : List (String × String) :=
  ls.filterMap fun | .document constant text => some (constant, text) | _ => none

/-- The functions of a client module in the order of its text. -/
def declaredFunctions (text : String) : List (String × List String) :=
  functionsFrom (clientLines text)

/-- The documents of a client module in the order of its text. -/
def declaredDocuments (text : String) : List (String × String) :=
  documentsFrom (clientLines text)

namespace ClientLine

/-! ## Single lines -/

theorem identifier_append {i : String} (hi : Uses Identifier.isPart i) {c : Char}
    (hc : Identifier.isPart c = false) (r : List Char) : identifier (i.toList ++ c :: r) = i := by
  rw [identifier, List.takeWhile_append_of_pos (uses_iff.mp hi),
    List.takeWhile_cons_of_neg (by simp [hc]), List.append_nil, String.ofList_toList]

theorem quoted_append {s t : String} (hs : '"' ∉ s.toList) (ht : '"' ∉ t.toList) (r : List Char) :
    quoted (s.toList ++ '"' :: (t.toList ++ '"' :: r)) = t := by
  have hne : ∀ u : String, '"' ∉ u.toList → ∀ c ∈ u.toList, (c != '"') = true := by
    intro u hu c hc
    rw [bne_iff_ne]
    exact fun heq => hu (heq ▸ hc)
  rw [quoted, List.dropWhile_append_of_pos (hne s hs)]
  simp [List.takeWhile_append_of_pos (hne t ht)]

/-- What a printed line declares or sends once it is tidied. -/
def said (l : String) : Option ClientLine := read (trimEnd l.toList)

/-- No line that starts so declares or sends anything: it is told from every start before either
ends. -/
def Silent (s : List Char) : Prop :=
  ∀ p ∈ starts.map (·.1), ¬ p.toList <+: s ∧ ¬ s <+: p.toList

instance : DecidablePred Silent := fun s =>
  inferInstanceAs (Decidable (∀ p ∈ starts.map (·.1), ¬ p.toList <+: s ∧ ¬ s <+: p.toList))

theorem read_eq_none_iff {l : List Char} :
    read l = none ↔ ∀ p ∈ starts.map (·.1), ¬ p.toList <+: l := by
  have hstart : ∀ p : String, p.toList.isPrefixOf? l = none ↔ ¬ p.toList <+: l := by
    intro p
    rw [← Option.not_isSome_iff_eq_none, List.isSome_isPrefixOf?_eq_isPrefixOf,
      List.isPrefixOf_iff_prefix]
  simp only [read, List.findSome?_eq_none_iff, List.forall_mem_map, Option.map_eq_none_iff, hstart]

theorem said_of_silent {l : String} {s r : List Char} (hl : l.toList = s ++ r) (h : Silent s) :
    said l = none := by
  refine read_eq_none_iff.mpr fun p hp hstart => ?_
  have hline : p.toList <+: s ++ r := hl ▸ hstart.trans (isPrefix_trimEnd _)
  rcases List.prefix_or_prefix_of_prefix hline (List.prefix_append s r) with hshort | hlong
  · exact (h p hp).1 hshort
  · exact (h p hp).2 hlong

/-- A line that ends visibly is read as it is. -/
theorem said_append (s : String) {r : String} (hr : trimEnd r.toList = r.toList)
    (hne : r.toList ≠ []) : said (s ++ r) = read (s ++ r).toList := by
  rw [said, trimEnd_toList_append s hr hne]

theorem read_const (r : List Char) :
    read ("const ".toList ++ r) = some (.document (identifier r) (quoted r)) := rfl

theorem read_pubAsyncFn (r : List Char) :
    read ("    pub async fn ".toList ++ r) = some (.function (identifier r)) := rfl

theorem read_execute (r : List Char) :
    read ("        let mut data = self.execute(".toList ++ r) = some (.request (identifier r)) :=
  rfl

theorem said_documentLine {k : Call} (hconstant : Uses Identifier.isPart k.constant)
    (hdocument : '"' ∉ k.document.toList) :
    said k.documentLine = some (.document k.constant k.document) := by
  have hbefore : '"' ∉ (k.constant ++ ": &str = r#").toList := by
    have hmark := hconstant.notMem (c := '"') rfl
    simp [hmark]
  have hquoted := quoted_append hbefore hdocument "#;".toList
  have hname := identifier_append hconstant (c := ':') rfl
    (" &str = r#".toList ++ '"' :: (k.document.toList ++ '"' :: "#;".toList))
  have hline : k.documentLine.toList = "const ".toList ++ ((k.constant ++ ": &str = r#").toList ++
      '"' :: (k.document.toList ++ '"' :: "#;".toList)) := by
    simp [Call.documentLine]
  have hsplit : (k.constant ++ ": &str = r#").toList = k.constant.toList ++
      ':' :: " &str = r#".toList := by simp
  rw [← List.cons_append, ← List.append_assoc, ← hsplit] at hname
  rw [Call.documentLine, said_append _ rfl (by decide), ← Call.documentLine, hline, read_const,
    hquoted, hname]

/-- The line that starts a method. -/
theorem said_method {name : String} (h : Uses Identifier.isPart name) (parameters result : String) :
    said ("    pub async fn " ++ name ++ "(&self" ++ parameters ++ ") -> Result<" ++ result ++
      ", ClientError> \x7b") = some (.function name) := by
  have hline : ("    pub async fn " ++ name ++ "(&self" ++ parameters ++ ") -> Result<" ++ result ++
      ", ClientError> \x7b").toList = "    pub async fn ".toList ++ (name.toList ++
        '(' :: ("&self" ++ parameters ++ ") -> Result<" ++ result ++
          ", ClientError> \x7b").toList) := by
    simp
  rw [said_append _ rfl (by decide), hline, read_pubAsyncFn, identifier_append h rfl]

theorem said_request {constant : String} (h : Uses Identifier.isPart constant) :
    said ("        let mut data = self.execute(" ++ constant ++ ", variables).await?;") =
      some (.request constant) := by
  have hline : ("        let mut data = self.execute(" ++ constant ++
      ", variables).await?;").toList = "        let mut data = self.execute(".toList ++
        (constant.toList ++ ',' :: " variables).await?;".toList) := by
    simp
  rw [said_append _ rfl (by decide), hline, read_execute, identifier_append h rfl]

/-! ## Printed lines -/

/-- A line around a text that does not break it is passed over if it starts silently. -/
theorem readsLine_around {s t : List Char} (hs : Silent s ∧ '\n' ∉ s) {x : String}
    (hx : '\n' ∉ x.toList) (ht : '\n' ∉ t) :
    ReadsLine read (String.ofList s ++ x ++ String.ofList t) none := by
  have hl : (String.ofList s ++ x ++ String.ofList t).toList = s ++ (x.toList ++ t) := by simp
  exact ⟨by simp [hs.2, hx, ht], said_of_silent hl hs.1⟩

theorem readsLines_comment {doc : List String} (h : ∀ d ∈ doc, '\n' ∉ d.toList) :
    ReadsLines read (docComment "    " doc) [] := by
  refine .skipAll fun l hl => ⟨not_mem_docComment (by decide) h l hl, ?_⟩
  obtain ⟨d, _, rfl⟩ := List.mem_map.mp hl
  have hline : ("    " ++ "/// " ++ d).toList = ("    ".toList ++ "/// ".toList) ++ d.toList := by
    simp
  exact said_of_silent hline (by decide)

/-- The lines of a layout are read as they were printed. -/
theorem clientLines_layout {ls : List String} {cs : List ClientLine} (h : ReadsLines read ls cs) :
    clientLines (layout ls) = cs := by
  rw [clientLines, filterMap_visibleLines_layout h rfl]

end ClientLine

open ClientLine

/-! ## Calls -/

namespace Call

/-- The names of a call are identifiers and words, its document stays between quotation marks on its
line, and its comment is made of lines. -/
structure Printable (k : Call) : Prop where
  method : Uses Identifier.isPart k.method
  field : OneWord k.field
  constant : Uses Identifier.isPart k.constant
  doc : ∀ l ∈ k.doc, '\n' ∉ l.toList
  document : '"' ∉ k.document.toList ∧ '\n' ∉ k.document.toList
  parameters : ∀ p ∈ k.parameters, p.Printable
  result : OneWord k.result

variable {k : Call}

theorem Printable.not_mem_parameterText (h : k.Printable) : '\n' ∉ k.parameterText.toList := by
  have hmember : ∀ p ∈ k.parameters, '\n' ∉ p.ident.toList ∧ '\n' ∉ p.type.toList :=
    fun p hp => ⟨(h.parameters p hp).ident.2, (h.parameters p hp).type.2⟩
  simpa [parameterText] using hmember

theorem Printable.not_mem_variablesText (h : k.Printable) : '\n' ∉ k.variablesText.toList := by
  have huses : Uses (· != '\n') k.variablesText := by
    refine .intercalate (by decide) fun t ht => ?_
    obtain ⟨p, hp, rfl⟩ := List.mem_map.mp ht
    have hprintable := h.parameters p hp
    have hnotMem : '\n' ∉ ("\"" ++ p.name ++ "\": " ++ p.ident).toList := by
      simp [hprintable.name.2, hprintable.ident.2]
    refine uses_iff.mpr fun c hc => ?_
    rw [bne_iff_ne]
    exact fun heq => hnotMem (heq ▸ hc)
  exact huses.notMem rfl

/-- The line that starts the method. -/
def signatureLine (k : Call) : String :=
  "    pub async fn " ++ k.method ++ "(&self" ++ k.parameterText ++ ") -> Result<" ++ k.result ++
    ", ClientError> \x7b"

theorem Printable.not_mem_signatureLine (h : k.Printable) : '\n' ∉ k.signatureLine.toList := by
  have hmethod : '\n' ∉ k.method.toList := h.method.notMem rfl
  have hparameters := h.not_mem_parameterText
  have hresult := h.result.2
  unfold signatureLine
  simp [hmethod, hparameters, hresult]

/-- Around the line that starts the method nothing is declared, and its document is sent. -/
theorem exists_lines_eq (h : k.Printable) :
    ∃ before after, k.lines = before ++ k.signatureLine :: after ∧ ReadsLines read before [] ∧
      ReadsLines read after [.request k.constant] := by
  have hconstant : '\n' ∉ k.constant.toList := h.constant.notMem rfl
  have hsent : ReadsLine read ("        let mut data = self.execute(" ++ k.constant ++
      ", variables).await?;") (some (.request k.constant)) :=
    ⟨by simp [hconstant], said_request h.constant⟩
  have hvariables :
      ReadsLine read ("        let variables = json!(\x7b " ++ k.variablesText ++ " \x7d);") none :=
    readsLine_around (by decide) h.not_mem_variablesText (by decide)
  have hfield : ReadsLine read ("            .get_mut(\"" ++ k.field ++ "\")") none :=
    readsLine_around (by decide) h.field.2 (by decide)
  have hbefore : ReadsLines read ([""] ++ docComment "    " k.doc) [] :=
    (ReadsLines.skip (.of_ofList (by decide)) .nil).append (readsLines_comment h.doc)
  refine ⟨[""] ++ docComment "    " k.doc, _, rfl, hbefore, ?_⟩
  refine .skip hvariables (.cons hsent (.skip (.of_ofList (by decide)) (.skip hfield ?_)))
  repeat refine ReadsLines.skip (.of_ofList (by decide)) ?_
  exact .nil

/-- A method is declared and sends its document. -/
theorem readsLines (h : k.Printable) :
    ReadsLines read k.lines [.function k.method, .request k.constant] := by
  obtain ⟨before, after, hlines, hbefore, hafter⟩ := exists_lines_eq h
  have hdeclared : ReadsLine read k.signatureLine (some (.function k.method)) :=
    ⟨h.not_mem_signatureLine, said_method h.method _ _⟩
  rw [hlines]
  exact hbefore.append (.cons hdeclared hafter)

theorem readsLine_documentLine (h : k.Printable) :
    ReadsLine read k.documentLine (some (.document k.constant k.document)) := by
  have hconstant : '\n' ∉ k.constant.toList := h.constant.notMem rfl
  exact ⟨by simp [documentLine, hconstant, h.document.2],
    said_documentLine h.constant h.document.1⟩

end Call

/-! ## Modules -/

namespace ClientModule

/-- Nothing that a module is made from breaks a line. -/
structure Printable (m : ClientModule) : Prop where
  client : '\n' ∉ m.client.toList
  schemaModule : '\n' ∉ m.schemaModule.toList
  endpoint : ∀ e ∈ m.endpoint, '\n' ∉ e.toList
  calls : ∀ k ∈ m.calls, k.Printable

/-- The functions that every client has, and the one for the default endpoint if there is a visible
one. -/
def fixedNames (endpoint : Option String) : List String :=
  ["new", "with_http_client"] ++
    (if endpoint.any (!·.isEmpty) then ["default_endpoint"] else []) ++
    ["endpoint", "execute", "query"]

variable {m : ClientModule}

theorem readsLines_header (h : m.Printable) : ReadsLines read m.header [] := by
  have hschema : ReadsLine read ("use super::" ++ m.schemaModule ++ "::*;") none :=
    readsLine_around (by decide) h.schemaModule (by decide)
  have hclient : ReadsLine read ("/// Errors returned by [\x60" ++ m.client ++ "\x60].") none :=
    readsLine_around (by decide) h.client (by decide)
  unfold header
  iterate 13 refine ReadsLines.skip (.of_ofList (by decide)) ?_
  refine .skip hschema (.skip (.of_ofList (by decide)) (.skip hclient ?_))
  repeat refine ReadsLines.skip (.of_ofList (by decide)) ?_
  exact .nil

theorem readsLines_construction (h : m.Printable) :
    ReadsLines read m.construction [.function "new", .function "with_http_client"] := by
  have hstruct : ReadsLine read ("pub struct " ++ m.client ++ " \x7b") none :=
    readsLine_around (by decide) h.client (by decide)
  have himpl : ReadsLine read ("impl " ++ m.client ++ " \x7b") none :=
    readsLine_around (by decide) h.client (by decide)
  unfold construction
  refine .skip (.of_ofList (by decide)) (.skip (.of_ofList (by decide)) (.skip hstruct ?_))
  iterate 4 refine ReadsLines.skip (.of_ofList (by decide)) ?_
  refine .skip himpl ?_
  repeat first
    | refine ReadsLines.skip (.of_ofList (by decide)) ?_
    | refine ReadsLines.cons (.of_ofList (by decide)) ?_
  exact .nil

theorem readsLines_defaultEndpoint (h : m.Printable) : ReadsLines read m.defaultEndpoint
    (if m.endpoint.any (!·.isEmpty) then [.function "default_endpoint"] else []) := by
  unfold defaultEndpoint
  cases hendpoint : m.endpoint with
  | none => exact .nil
  | some e =>
    have hself : ReadsLine read ("        Self::new(\"" ++ e ++ "\")") none :=
      readsLine_around (by decide) (h.endpoint e hendpoint) (by decide)
    by_cases hempty : e.isEmpty = true
    · simp only [hempty, if_true, Option.any_some, Bool.not_true, Bool.false_eq_true, if_false]
      exact .nil
    · simp only [hempty, Bool.false_eq_true, if_false, Option.any_some, Bool.not_false, if_true]
      refine .skip (.of_ofList (by decide)) (.cons (.of_ofList (by decide)) (.skip hself ?_))
      exact .skip (.of_ofList (by decide)) .nil

theorem readsLines_fixedMethods : ReadsLines read fixedMethods
    [.function "endpoint", .function "execute", .function "query"] := by
  unfold fixedMethods
  repeat first
    | refine ReadsLines.skip (.of_ofList (by decide)) ?_
    | refine ReadsLines.cons (.of_ofList (by decide)) ?_
  exact .nil

theorem readsLines (h : m.Printable) : ReadsLines read m.lines
    (m.calls.map (fun k => ClientLine.document k.constant k.document) ++
      (fixedNames m.endpoint).map ClientLine.function ++
      m.calls.flatMap fun k => [ClientLine.function k.method, .request k.constant]) := by
  have hdocuments : ReadsLines read (m.calls.map (·.documentLine))
      (m.calls.map fun k => .document k.constant k.document) := by
    rw [List.map_eq_flatMap, List.map_eq_flatMap]
    exact .flatMap fun k hk => .cons (Call.readsLine_documentLine (h.calls k hk)) .nil
  have hcalls := ReadsLines.flatMap fun k hk => Call.readsLines (h.calls k hk)
  have hfixed := ((readsLines_construction h).append (readsLines_defaultEndpoint h)).append
    readsLines_fixedMethods
  have hend : ReadsLines read ["\x7d"] [] := .skip (.of_ofList (by decide)) .nil
  have hlines :=
    ((((readsLines_header h).append hdocuments).append hfixed).append hcalls).append hend
  have hnames : (fixedNames m.endpoint).map ClientLine.function =
      [ClientLine.function "new", .function "with_http_client"] ++
        (if m.endpoint.any (!·.isEmpty) then [ClientLine.function "default_endpoint"] else []) ++
        [ClientLine.function "endpoint", .function "execute", .function "query"] := by
    unfold fixedNames
    split <;> rfl
  rw [hnames]
  simpa [lines, List.append_assoc] using hlines

/-! ## What is read of a module -/

theorem functionsFrom_documents (documents : List (String × String)) (rest : List ClientLine) :
    functionsFrom (documents.map (fun d => .document d.1 d.2) ++ rest) = functionsFrom rest := by
  induction documents with
  | nil => rfl
  | cons d documents ih => exact ih

theorem functionsFrom_functions (names : List String) {rest : List ClientLine}
    (h : sentFrom rest = []) :
    functionsFrom (names.map ClientLine.function ++ rest) =
      names.map (·, []) ++ functionsFrom rest := by
  induction names with
  | nil => rfl
  | cons name names ih =>
    have hnone : sentFrom (names.map ClientLine.function ++ rest) = [] := by
      cases names with
      | nil => exact h
      | cons name names => rfl
    rw [List.map_cons, List.cons_append, functionsFrom, ih, hnone]
    rfl

theorem sentFrom_calls (calls : List Call) :
    sentFrom (calls.flatMap fun k => [.function k.method, .request k.constant]) = [] := by
  cases calls with
  | nil => rfl
  | cons k calls => rfl

theorem functionsFrom_calls (calls : List Call) :
    functionsFrom (calls.flatMap fun k => [.function k.method, .request k.constant]) =
      calls.map fun k => (k.method, [k.constant]) := by
  induction calls with
  | nil => rfl
  | cons k calls ih =>
    have hrequest : ∀ constant ls, functionsFrom (.request constant :: ls) = functionsFrom ls :=
      fun _ _ => rfl
    rw [List.flatMap_cons, List.cons_append, List.singleton_append, functionsFrom, hrequest,
      sentFrom, sentFrom_calls, ih, List.map_cons]

/-- **The functions of a module are read back**: the fixed ones, which send no document, and the
calls, each of which sends its own. -/
theorem declaredFunctions_layout (h : m.Printable) :
    declaredFunctions (layout m.lines) = (fixedNames m.endpoint).map (·, []) ++
      m.calls.map fun k => (k.method, [k.constant]) := by
  have hdocuments : m.calls.map (fun k => ClientLine.document k.constant k.document) =
      (m.calls.map fun k => (k.constant, k.document)).map fun d => .document d.1 d.2 := by
    rw [List.map_map]
    rfl
  rw [declaredFunctions, clientLines_layout (readsLines h), hdocuments, List.append_assoc,
    functionsFrom_documents, functionsFrom_functions _ (sentFrom_calls _), functionsFrom_calls]

/-- **The documents of a module are read back.** -/
theorem declaredDocuments_layout (h : m.Printable) :
    declaredDocuments (layout m.lines) = m.calls.map fun k => (k.constant, k.document) := by
  have hcalls : documentsFrom
      (m.calls.flatMap fun k => [.function k.method, .request k.constant]) = [] := by
    rw [documentsFrom, List.filterMap_eq_nil_iff]
    intro l hl
    obtain ⟨k, _, hl⟩ := List.mem_flatMap.mp hl
    rcases List.mem_cons.mp hl with rfl | hl
    · rfl
    · rw [List.mem_singleton.mp hl]
  rw [documentsFrom] at hcalls
  rw [declaredDocuments, clientLines_layout (readsLines h), documentsFrom, List.filterMap_append,
    List.filterMap_append, hcalls, List.filterMap_map, List.filterMap_map]
  simp [List.filterMap_eq_map']

end ClientModule

end SchemaSdk.Sdk

namespace SchemaSdk.Identifier

open SchemaSdk.Text

/-! ## The modules of a schema -/

theorem feed_notMem_client (name : String) : '\n' ∉ (client name).toList := by
  have hpascal := notMem_pascalCase (x := '\n') (by decide) (by decide) name
  unfold client
  simp only
  split
  · exact hpascal
  · simp [hpascal]

theorem feed_notMem_schemaModule (name : Option String) :
    '\n' ∉ (schemaModule name).toList := by
  have hdefault : '\n' ∉ "schema".toList := by decide
  unfold schemaModule
  split
  · split
    · exact hdefault
    · exact notMem_snakeCase (by decide) (by decide) _
  · exact hdefault

theorem isPart_of_isNamePart {c : Char} (h : Schema.isNamePart c = true) : isPart c = true := by
  simp [isPart, h]

end SchemaSdk.Identifier

namespace SchemaSdk.Schema.Operation

open SchemaSdk.Text

variable {o : Operation} (h : IsName o.field.name)

include h

theorem uses_constant : Uses isNamePart o.constant := by
  have hascii : ∀ c ∈ snakeChars o.field.name.toList, c.toNat < 0x80 := fun c hc =>
    ascii_of_mem_snakeChars (ascii_of_spellsName h) hc
  have hsnake : Uses isNamePart (upperCase (snakeCase o.field.name)) := by
    refine uses_iff.mpr fun c hc => ?_
    rw [upperCase, snakeCase, String.toList_ofList, String.toList_ofList,
      flatMap_uppercase_of_ascii hascii] at hc
    obtain ⟨d, hd, rfl⟩ := List.mem_map.mp hc
    have hpart := isNamePart_of_mem_snakeChars (ascii_of_spellsName h) hd
    simp only [isNamePart, Bool.or_eq_true, beq_iff_eq] at hpart ⊢
    rcases hpart with rfl | halnum
    · exact .inl rfl
    · exact .inr (isAlphanum_toUpper (hascii d hd) halnum)
  have hkeyword : Uses isNamePart ("_" ++ upperCase o.kind.keyword) := by
    cases o.kind <;> decide
  rw [constant, String.append_assoc]
  exact hsnake.append hkeyword

theorem uses_method (taken : List String) : Uses Identifier.isPart (o.method taken) := by
  have hascii := ascii_of_spellsName h
  have hsuffixed : ∀ c ∈ (snakeCase o.field.name ++ "_mutation").toList, c.toNat < 0x80 := by
    intro c hc
    rw [String.toList_append, snakeCase, String.toList_ofList] at hc
    rcases List.mem_append.mp hc with hc | hc
    · exact ascii_of_mem_snakeChars hascii hc
    · have hmark : Uses isNamePart "_mutation" := by decide
      exact ascii_of_isNamePart (uses_iff.mp hmark c hc)
  unfold method
  split
  · exact uses_iff.mpr fun c hc => Identifier.isPart_of_mem_ofField_of_ascii hsuffixed hc
  · exact uses_iff.mpr fun c hc => Identifier.isPart_of_mem_ofField h hc

end SchemaSdk.Schema.Operation

namespace SchemaSdk.Sdk

open SchemaSdk.Schema SchemaSdk.Text

/-- The calls of a schema can be printed and read back. -/
theorem Call.printable_ofCollection {c : Collection} (h : c.WellFormed) {calls : List Call}
    (hcalls : Call.ofCollection c = .ok calls) : ∀ k ∈ calls, k.Printable := by
  intro k hk
  obtain ⟨o, ho, taken, rfl⟩ := exists_operation_of_mem hcalls hk
  obtain ⟨hfield, harguments⟩ := h.operations_spelled o ho
  have hdocument := Collection.uses_requestText h ho
  have hquote : '"' ∉ (c.requestFor o).text.toList := hdocument.notMem rfl
  have hfeed : '\n' ∉ (c.requestFor o).text.toList := hdocument.notMem rfl
  have hconstant : Uses Identifier.isPart o.constant := uses_iff.mpr fun d hd =>
    Identifier.isPart_of_isNamePart (uses_iff.mp (Operation.uses_constant hfield.name) d hd)
  have hparameters : ∀ p ∈ o.arguments.map (Member.ofField c), p.Printable := by
    intro p hp
    obtain ⟨a, ha, rfl⟩ := List.mem_map.mp hp
    exact Member.printable_ofField c (harguments a ha)
  constructor
  · exact Operation.uses_method hfield.name taken
  · exact oneWord_of_isName hfield.name
  · exact hconstant
  · exact not_mem_docLines o.field.description
  · exact ⟨hquote, hfeed⟩
  · exact hparameters
  · exact oneWord_rustTypeOf hfield.base

/-- The endpoint can stand between quotation marks as it is: it neither ends nor escapes anything
and stays on its line. -/
def Options.Quotable (o : Options) : Prop :=
  ∀ e ∈ o.endpoint, '"' ∉ e.toList ∧ '\\' ∉ e.toList ∧ '\n' ∉ e.toList

/-- The client module of a parsed schema can be printed and read back. -/
theorem ClientModule.printable_of_quotable {c : Collection} (h : c.WellFormed) {calls : List Call}
    (hcalls : Call.ofCollection c = .ok calls) {o : Options} (hquotable : o.Quotable) :
    (ClientModule.mk (Identifier.client o.clientName) (Identifier.schemaModule o.schemaName)
      o.endpoint calls).Printable := by
  constructor
  · dsimp only
    exact Identifier.feed_notMem_client o.clientName
  · dsimp only
    exact Identifier.feed_notMem_schemaModule o.schemaName
  · dsimp only
    exact fun e he => (hquotable e he).2.2
  · dsimp only
    exact Call.printable_ofCollection h hcalls

/-- **Generated clients are read back**: the functions of a client are the fixed ones and the calls
of its operations, and its documents are those of the operations. -/
theorem declared_of_generate {sdl : String} {o : Options} {p : Package}
    (h : generate sdl o = .ok p) :
    ∃ c calls, Collection.parse sdl = .ok c ∧ Call.ofCollection c = .ok calls ∧
      (o.Quotable →
        declaredFunctions p.client.text = (ClientModule.fixedNames o.endpoint).map (·, []) ++
          calls.map (fun k => (k.method, [k.constant])) ∧
        declaredDocuments p.client.text = calls.map fun k => (k.constant, k.document)) := by
  obtain ⟨c, order, calls, hparse, _, hcalls, htext, _⟩ := exists_parts_of_generate h
  refine ⟨c, calls, hparse, hcalls, fun hquotable => ?_⟩
  have hprintable := ClientModule.printable_of_quotable (Collection.wellFormed_of_parse hparse)
    hcalls hquotable
  rw [htext]
  exact ⟨ClientModule.declaredFunctions_layout hprintable,
    ClientModule.declaredDocuments_layout hprintable⟩

end SchemaSdk.Sdk
