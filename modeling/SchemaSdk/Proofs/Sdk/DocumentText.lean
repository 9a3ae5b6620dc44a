import SchemaSdk.Proofs.Sdk.DocumentPhrases
import SchemaSdk.Proofs.Sdk.Fragments
import SchemaSdk.Schema.Order

/-!
# Request documents are documents

The text of a request is read by the grammar of documents if its names are names and all its
fragments select something. What is made from a schema has names, but for the name of an operation:
where the case is changed, a digit may come to stand first, and then the text is no document. Nor is
it one where a model has no fields to select.
-/
namespace SchemaSdk.Executable

open SchemaSdk.Schema

variable {s r : String}

/-! ## Parts of a document -/

/-- A type with the mark of a required one or without it. -/
theorem writes_type (h : Writes (.symbol .nullableType) s) (required : Bool) :
    Writes (.symbol .type) (s ++ if required then "!" else "") := by
  refine .symbol (h.cons (.last .nil ?_) ?_)
  · cases required with
    | true => exact (Writes.mark_only (m := .bang) rfl rfl).optional
    | false => exact .empty (.missing _)
  · cases required with
    | true => exact startsApart_mark .bang []
    | false => rfl

theorem writes_sdlType {f : Field} (h : IsName f.base) : Writes (.symbol .type) f.sdlType := by
  have hbase : Writes (.symbol .nullableType) f.base :=
    .symbol (.one List.mem_cons_self (.name h fun n _ => .name n))
  have hlist : Writes (.symbol .nullableType)
      ("[" ++ (f.base ++ if f.itemRequired then "!" else "") ++ "]") :=
    .symbol (.one (List.mem_cons_of_mem _ List.mem_cons_self)
      (.enclosed (o := .leftBracket) (c := .rightBracket) rfl rfl
        (writes_type hbase f.itemRequired)))
  have hassoc : "[" ++ f.base ++ (if f.itemRequired then "!" else "") ++ "]" =
      "[" ++ (f.base ++ if f.itemRequired then "!" else "") ++ "]" :=
    congrArg (· ++ "]") String.append_assoc
  have hinner : Writes (.symbol .nullableType) (if f.list then
      "[" ++ f.base ++ (if f.itemRequired then "!" else "") ++ "]" else f.base) := by
    by_cases hf : f.list = true
    · rw [if_pos hf, hassoc]
      exact hlist
    · rw [if_neg hf]
      exact hbase
  have htype := writes_type hinner f.required
  rw [Field.sdlType]
  by_cases hrequired : f.required = true
  · rw [if_pos hrequired] at htype ⊢
    exact htype
  · rw [if_neg hrequired, String.append_empty] at htype
    rw [if_neg hrequired]
    exact htype

theorem writes_dollarName (h : IsName s) : Writes .dollarName ("$" ++ s) :=
  .mark (m := .dollar) rfl rfl (.last .nil (.name h fun n _ => .name n))

theorem writes_variableDefinition {t : String} (hs : IsName s) (ht : Writes (.symbol .type) t) :
    Writes (.symbol .variableDefinition) ("$" ++ s ++ ": " ++ t) := by
  have hparts : "$" ++ s ++ ": " ++ t = "$" ++ s ++ (":" ++ (" " ++ t)) := by
    simp [← String.toList_inj]
  rw [hparts]
  refine .symbol ((writes_dollarName hs).cons (.mark (m := .colon) rfl rfl (.last ?_ ht.space)) ?_)
  · exact fun r => .cons (.missing _ r) (.cons (.done _ r) (.nil r))
  · exact startsApart_mark_append .colon _

theorem writes_argument (hs : IsName s) (hr : IsName r) :
    Writes (.symbol (.argument false)) (s ++ ": $" ++ r) := by
  have hparts : s ++ ": $" ++ r = s ++ (":" ++ (" " ++ ("$" ++ r))) := by
    simp [← String.toList_inj]
  have hvalue : Writes (.symbol (.value false)) ("$" ++ r) :=
    .symbol (.one List.mem_cons_self (writes_dollarName hr))
  rw [hparts]
  refine .symbol (.cons (.name hs fun n _ => .name n)
    (.mark (m := .colon) rfl rfl (.last .nil hvalue.space)) ?_)
  exact startsApart_mark_append .colon _

/-- Items in parentheses, which are left out if there are none. -/
theorem writes_parenthesized {x : Symbol} {p : Phrase} (hx : x.rule = p.some.parenthesized)
    {items : List String} (h : ∀ s ∈ items, Writes p s) :
    Writes (Phrase.symbol x).optional (parenthesized items) := by
  cases items with
  | nil => exact .empty (.missing _)
  | cons s items =>
    have hitems : Writes p.some (", ".intercalate (s :: items)) :=
      .intercalate rfl rfl (List.cons_ne_nil s items) h
    refine .optional (.symbol ?_)
    rw [hx]
    exact .enclosed (o := .leftParen) (c := .rightParen) rfl rfl hitems

theorem startsApart_parenthesized (items : List String) :
    StartsApart (parenthesized items).toList := by
  unfold parenthesized
  split
  · rfl
  · rw [String.toList_append, String.toList_append, List.append_assoc]
    exact startsApart_mark .leftParen _

theorem writes_braced (h : Writes (Phrase.symbol .selection).some s) :
    Writes (.symbol .selectionSet) (braced s) := by
  have hparts : braced s = "\x7b" ++ (" " ++ s ++ " ") ++ "\x7d" := by
    simp [← String.toList_inj, braced]
  rw [hparts]
  exact .symbol (.enclosed (o := .leftBrace) (c := .rightBrace) rfl rfl h.space.append_space)

/-- A selected field with its arguments and what is selected of it, which both may be missing. -/
theorem writes_field (hs : IsName s) {arguments selected : String}
    (harguments : Writes (Phrase.symbol (.arguments false)).optional arguments)
    (hselected : Writes (Phrase.symbol .selectionSet).optional selected)
    (hapart : StartsApart arguments.toList) (hapart' : StartsApart selected.toList) :
    Writes (.symbol .selection) (s ++ (arguments ++ selected)) := by
  have hrest : Writes (.all [(Phrase.symbol (.arguments false)).optional, .directives false,
      (Phrase.symbol .selectionSet).optional]) (arguments ++ selected) :=
    harguments.cons (.skip (.done _) (.last .nil hselected)) hapart'
  refine .symbol (.one List.mem_cons_self (.symbol (.skip (.missing _) ?_)))
  refine .cons (.name hs fun n _ => .name n) hrest ?_
  rw [String.toList_append]
  exact hapart.append hapart'

theorem writes_fieldName (hs : IsName s) : Writes (.symbol .selection) s := by
  have hfield := writes_field hs (.empty (.missing _)) (.empty (.missing _)) rfl rfl
  simpa using hfield

theorem isName_append (hs : IsName s) (hr : r.toList.all isNamePart = true) :
    IsName (s ++ r) := by
  unfold IsName at hs ⊢
  rw [String.toList_append]
  cases hchars : s.toList with
  | nil =>
    rw [hchars] at hs
    cases hs
  | cons c cs =>
    rw [hchars, spellsName, Bool.and_eq_true] at hs
    rw [List.cons_append, spellsName, Bool.and_eq_true, List.all_append, Bool.and_eq_true]
    exact ⟨hs.1, hs.2, hr⟩

theorem isName_fragmentName (h : IsName s) : IsName (fragmentName s) :=
  isName_append h rfl

theorem fragmentName_ne_on (s : String) : fragmentName s ≠ "on" := by
  intro h
  have hlength := congrArg (·.toList.length) h
  simp [fragmentName] at hlength

theorem writes_fragmentName (h : IsName s) : Writes (.nameBut "on") (fragmentName s) := by
  refine .name (isName_fragmentName h) fun n hn r => .nameBut n ?_ r
  rw [hn]
  exact fragmentName_ne_on s

end SchemaSdk.Executable

namespace SchemaSdk.Schema

open SchemaSdk.Executable

/-! ## Requests with names -/

/-- The model of a selection has a name. -/
def Selection.Spelled : Selection → Prop
  | fragment m => IsName m
  | typeName => True

theorem Selection.writes_text {s : Selection} (h : s.Spelled) :
    Writes (.symbol .selectionSet) s.text := by
  cases s with
  | fragment m =>
    have hspread : Writes (.symbol .spread) ("..." ++ fragmentName m) := by
      refine .symbol (.mark (m := .ellipsis) rfl rfl (.last ?_ (writes_fragmentName h)))
      exact fun r => .cons (.done _ r) (.nil r)
    refine writes_braced (.once (.symbol (.one ?_ hspread)))
    simp
  | typeName => exact writes_braced (.once (writes_fieldName (s := "__typename") rfl))

/-- What is written behind a field to select from it. -/
def selectedText (selection : Option Selection) : String :=
  match selection with
  | some s => " " ++ s.text
  | none => ""

theorem writes_selectedText {selection : Option Selection} (h : ∀ s ∈ selection, s.Spelled) :
    Writes (Phrase.symbol .selectionSet).optional (selectedText selection) := by
  cases selection with
  | none => exact .empty (.missing _)
  | some s => exact (s.writes_text (h s rfl)).space.optional

theorem startsApart_selectedText (selection : Option Selection) :
    StartsApart (selectedText selection).toList := by
  cases selection with
  | none => rfl
  | some s => exact startsApart_space s.text

/-- A selected field and its selection have names. -/
structure SelectedField.Spelled (f : SelectedField) : Prop where
  name : IsName f.name
  selection : ∀ s ∈ f.selection, s.Spelled

theorem SelectedField.text_eq (f : SelectedField) :
    f.text = f.name ++ selectedText f.selection := by
  obtain ⟨name, selection⟩ := f
  cases selection with
  | none => exact String.append_empty.symm
  | some s => exact String.append_assoc

theorem SelectedField.writes_text {f : SelectedField} (h : f.Spelled) :
    Writes (.symbol .selection) f.text := by
  have hfield := writes_field h.name (.empty (.missing _)) (writes_selectedText h.selection) rfl
    (startsApart_selectedText f.selection)
  rw [String.empty_append] at hfield
  rw [text_eq]
  exact hfield

/-- A fragment has names, and it selects something. -/
structure Fragment.Spelled (f : Fragment) : Prop where
  model : IsName f.model
  fields : ∀ g ∈ f.fields, g.Spelled
  fields_ne_nil : f.fields ≠ []

theorem Fragment.writes_text {f : Fragment} (h : f.Spelled) :
    Writes (.symbol .fragment) f.text := by
  have hfields : Writes (Phrase.symbol .selection).some
      (" ".intercalate (f.fields.map (·.text))) := by
    refine .intercalate rfl rfl (by simpa using h.fields_ne_nil) fun s hs => ?_
    obtain ⟨g, hg, rfl⟩ := List.mem_map.mp hs
    exact g.writes_text (h.fields g hg)
  have hcondition : Writes (.symbol .typeCondition) ("on" ++ (" " ++ f.model)) := by
    refine .symbol (.cons (.name rfl fun n hn r => .word n hn r)
      (.last .nil (.space (.name h.model fun n _ => .name n))) (startsApart_space _))
  have hparts : f.text = "fragment" ++ (" " ++ fragmentName f.model ++ (" " ++ ("on" ++
      (" " ++ f.model)) ++ (" " ++ braced (" ".intercalate (f.fields.map (·.text)))))) := by
    simp [← String.toList_inj, text]
  have hset : Writes (.all [.directives false, .symbol .selectionSet])
      (" " ++ braced (" ".intercalate (f.fields.map (·.text)))) :=
    .skip (.done _) (.last .nil (writes_braced hfields).space)
  rw [hparts]
  refine .symbol (.cons (.name rfl fun n hn r => .word n hn r)
    (.cons (writes_fragmentName h.model).space
      (.cons hcondition.space hset (startsApart_space _)) ?_) ?_)
  · rw [String.append_assoc]
    exact startsApart_space _
  · rw [String.append_assoc]
    exact startsApart_space _

/-- A request whose names are names, but that its operation need not have one, and whose fragments
all select something. -/
structure Request.Spelled (r : Request) : Prop where
  name : r.name = "" ∨ IsName r.name
  header : ∀ v ∈ r.header, IsName v.name ∧ Writes (.symbol .type) v.type
  field : IsName r.field
  bindings : ∀ b ∈ r.bindings, IsName b.1 ∧ IsName b.2
  selection : ∀ s ∈ r.selection, s.Spelled
  fragments : ∀ f ∈ r.fragments, f.Spelled

namespace Request

variable {r : Request}

/-- What is written of an operation behind its name. -/
def bodyText (r : Request) : String :=
  parenthesized (r.header.map fun v => "$" ++ v.name ++ ": " ++ v.type) ++ (" " ++
    braced (r.field ++ (parenthesized (r.bindings.map fun (a, v) => a ++ ": $" ++ v) ++
      selectedText r.selection)))

/-- The operation of a request as it is written. -/
def operationText (r : Request) : String := r.kind.keyword ++ (" " ++ r.name ++ r.bodyText)

theorem text_eq (r : Request) :
    r.text = " ".intercalate (r.operationText :: r.fragments.map (·.text)) := by
  simp only [text, operationText, bodyText, String.append_assoc]
  rfl

/-- A document starts with the kind and the name of its operation. -/
theorem exists_text_eq (r : Request) :
    ∃ rest, r.text = r.kind.keyword ++ " " ++ r.name ++ rest := by
  obtain ⟨rest, hrest⟩ := Text.exists_intercalate_eq " " r.operationText (r.fragments.map (·.text))
  refine ⟨r.bodyText ++ rest, ?_⟩
  rw [text_eq, hrest]
  simp only [operationText, String.append_assoc]

theorem writes_variables (h : r.Spelled) : Writes (Phrase.symbol .variableDefinitions).optional
    (parenthesized (r.header.map fun v => "$" ++ v.name ++ ": " ++ v.type)) := by
  refine writes_parenthesized rfl fun s hs => ?_
  obtain ⟨v, hv, rfl⟩ := List.mem_map.mp hs
  exact writes_variableDefinition (h.header v hv).1 (h.header v hv).2

theorem writes_arguments (h : r.Spelled) : Writes (Phrase.symbol (.arguments false)).optional
    (parenthesized (r.bindings.map fun (a, v) => a ++ ": $" ++ v)) := by
  refine writes_parenthesized rfl fun s hs => ?_
  obtain ⟨b, hb, rfl⟩ := List.mem_map.mp hs
  exact writes_argument (h.bindings b hb).1 (h.bindings b hb).2

theorem writes_operationText (h : r.Spelled) : Writes (.symbol .operation) r.operationText := by
  have hkind : Writes (.symbol .operationKind) r.kind.keyword := by
    cases r.kind with
    | query =>
      exact .symbol (.one List.mem_cons_self (.name rfl fun n hn r => .word n hn r))
    | mutation =>
      exact .symbol (.one (List.mem_cons_of_mem _ List.mem_cons_self)
        (.name rfl fun n hn r => .word n hn r))
  have hname : Writes Phrase.name.optional r.name := by
    rcases h.name with hempty | hname
    · rw [hempty]
      exact .empty (.missing _)
    · exact (Writes.name hname fun n _ => .name n).optional
  have hset : Writes (.all [.directives false, .symbol .selectionSet]) _ :=
    .skip (.done _) (.last .nil (writes_braced (.once (writes_field h.field (writes_arguments h)
      (writes_selectedText h.selection) (startsApart_parenthesized _)
      (startsApart_selectedText r.selection)))).space)
  refine .symbol (.one (List.mem_cons_of_mem _ List.mem_cons_self)
    (hkind.cons (hname.space.cons ((writes_variables h).cons hset (startsApart_space _)) ?_) ?_))
  · rw [bodyText, String.toList_append]
    exact (startsApart_parenthesized _).append (startsApart_space _)
  · rw [String.append_assoc]
    exact startsApart_space _

/-- The text of a request with names is a document. -/
theorem isDocument_text (h : r.Spelled) : IsDocument r.text := by
  have hdefinitions : ∀ s ∈ r.operationText :: r.fragments.map (·.text),
      Writes (.symbol .definition) s := by
    refine List.forall_mem_cons.mpr ⟨?_, fun s hs => ?_⟩
    · exact .symbol (.one List.mem_cons_self (writes_operationText h))
    · obtain ⟨f, hf, rfl⟩ := List.mem_map.mp hs
      exact .symbol (.one (List.mem_cons_of_mem _ List.mem_cons_self)
        (f.writes_text (h.fragments f hf)))
  have hdocument : Writes (Phrase.symbol .definition).some r.text := by
    rw [text_eq]
    exact .intercalate rfl rfl (List.cons_ne_nil _ _) hdefinitions
  exact (Writes.symbol (x := .document) hdocument).isDocument

end Request

/-! ## The requests of a schema -/

/-- Whether a digit comes first in a text. -/
def startsWithDigit (s : String) : Bool := s.toList.head?.any Char.isDigit

/-- A changed case keeps a name one unless it brings a digit to the start or leaves nothing. -/
theorem isName_pascalCase {s : String} (h : IsName s)
    (hdigit : startsWithDigit (Text.pascalCase s) = false) :
    Text.pascalCase s = "" ∨ IsName (Text.pascalCase s) := by
  have hparts := fun c hc => Identifier.isNamePart_of_mem_pascalCase h (c := c) hc
  unfold IsName
  unfold startsWithDigit at hdigit
  cases hchars : (Text.pascalCase s).toList with
  | nil => exact .inl (String.toList_eq_nil_iff.mp hchars)
  | cons c r =>
    rw [hchars] at hdigit hparts
    obtain ⟨hc, hr⟩ := List.forall_mem_cons.mp hparts
    have hnodigit : c.isDigit = false := hdigit
    have hstart : isNameStart c = true := by
      simpa [isNameStart, isNamePart, Char.isAlphanum, hnodigit] using hc
    refine .inr ?_
    rw [spellsName, hstart, Bool.true_and]
    exact List.all_eq_true.mpr hr

namespace Collection

variable {c : Collection}

theorem spelled_of_selectionOf (h : c.WellFormed) {f : Field} {s : Selection}
    (hs : c.selectionOf f = some s) : s.Spelled := by
  cases s with
  | typeName => trivial
  | fragment name =>
    obtain ⟨_, _, m, hm⟩ := selectionOf_eq_fragment hs
    obtain ⟨hmem, rfl⟩ := mem_of_model? hm
    exact (h.models_spelled m hmem).1

theorem spelled_fragmentOf (h : c.WellFormed) {m : Model} (hm : m ∈ c.models)
    (hfields : m.fields ≠ []) : (c.fragmentOf m).Spelled := by
  obtain ⟨hname, hspelled⟩ := h.models_spelled m hm
  refine ⟨hname, fun g hg => ?_, by simpa [fragmentOf] using hfields⟩
  obtain ⟨f, hf, rfl⟩ := List.mem_map.mp hg
  exact ⟨(hspelled f hf).name, fun s hs => spelled_of_selectionOf h hs⟩

theorem spelled_requestFor (h : c.WellFormed) {o : Operation} (ho : o ∈ c.operations)
    (hdigit : startsWithDigit (c.requestFor o).name = false)
    (hfields : ∀ m ∈ c.fragmentModels o.field, m.fields ≠ []) : (c.requestFor o).Spelled := by
  obtain ⟨hfield, harguments⟩ := h.operations_spelled o ho
  constructor
  · exact isName_pascalCase hfield.name hdigit
  · intro v hv
    obtain ⟨a, ha, rfl⟩ := List.mem_map.mp hv
    exact ⟨(harguments a ha).name, writes_sdlType (harguments a ha).base⟩
  · exact hfield.name
  · intro b hb
    obtain ⟨a, ha, rfl⟩ := List.mem_map.mp hb
    exact ⟨(harguments a ha).name, (harguments a ha).name⟩
  · exact fun s hs => spelled_of_selectionOf h hs
  · intro f hf
    obtain ⟨m, hm, rfl⟩ := List.mem_map.mp hf
    exact spelled_fragmentOf h (mem_of_model? (model?_of_mem_visit m hm).1).1 (hfields m hm)

/-- **Requests are documents.** The text of a request is a document of the query language, unless
its name starts with a digit or one of its fragments has no fields to select. -/
theorem isDocument_of_parse {sdl : String} (h : parse sdl = .ok c) {o : Operation}
    (ho : o ∈ c.operations) (hdigit : startsWithDigit (Text.pascalCase o.field.name) = false)
    (hfields : ∀ m ∈ c.fragmentModels o.field, m.fields ≠ []) :
    IsDocument (c.requestFor o).text :=
  Request.isDocument_text (spelled_requestFor (wellFormed_of_parse h) ho hdigit hfields)

/-- Underscores may start the names, and digits may follow them. -/
theorem isDocument_of_parse_underscores :
    ∃ c o, parse "type Query { _p(_1: [Int!]!): [_P!] } type _P { _2: ID t: T } type T { n: Int }" =
        .ok c ∧ (∃ order, c.topologicalOrder = .ok order) ∧ o ∈ c.operations ∧
      (c.requestFor o).name = "P" ∧ (c.requestFor o).selection = some (.fragment "_P") ∧
      IsDocument (c.requestFor o).text := by
  have hread : (parse
      "type Query { _p(_1: [Int!]!): [_P!] } type _P { _2: ID t: T } type T { n: Int }"
      ).toOption.any (fun c => c.topologicalOrder.toOption.any fun _ =>
        decide ((∀ m ∈ c.models, m.fields ≠ []) ∧ ∃ o ∈ c.operations,
          Text.pascalCase o.field.name = "P" ∧
            c.selectionOf o.field = some (.fragment "_P"))) = true := by
    decide +kernel
  obtain ⟨c, h, hc⟩ := exists_eq_ok_of_any hread
  obtain ⟨order, horder, hc⟩ := exists_eq_ok_of_any hc
  obtain ⟨hfields, o, ho, hname, hselection⟩ := of_decide_eq_true hc
  have hdigit : startsWithDigit (Text.pascalCase o.field.name) = false := by
    rw [hname]
    decide
  exact ⟨c, o, h, ⟨order, horder⟩, ho, hname, hselection, isDocument_of_parse h ho hdigit
    fun m hm => hfields m (mem_of_model? (model?_of_mem_visit m hm).1).1⟩

/-- A request whose name starts with a digit is no document. -/
theorem not_isDocument_of_startsWithDigit {o : Operation}
    (h : startsWithDigit (Text.pascalCase o.field.name) = true) :
    ¬ IsDocument (c.requestFor o).text := by
  unfold startsWithDigit at h
  cases hname : (Text.pascalCase o.field.name).toList with
  | nil =>
    rw [hname] at h
    cases h
  | cons d ds =>
    rw [hname] at h
    have hkeyword : IsName o.kind.keyword := by
      cases o.kind with
      | query => rfl
      | mutation => rfl
    obtain ⟨rest, hrest⟩ := Request.exists_text_eq (c.requestFor o)
    have hchars : (c.requestFor o).text.toList =
        o.kind.keyword.toList ++ ' ' :: d :: (ds ++ rest.toList) := by
      rw [hrest]
      simp [requestFor, hname]
    exact not_isDocument_of_digit (n := ⟨o.kind.keyword, hkeyword⟩) h hchars

/-- The name `_1` has a digit at the start once it is cased. -/
theorem not_isDocument_of_parse :
    ∃ c o, parse "type Query { _1: Int! }" = .ok c ∧ (∃ order, c.topologicalOrder = .ok order) ∧
      o ∈ c.operations ∧ ¬ IsDocument (c.requestFor o).text := by
  have hread : (parse "type Query { _1: Int! }").toOption.any (fun c =>
      c.topologicalOrder.toOption.any fun _ =>
        decide (∃ o ∈ c.operations, startsWithDigit (Text.pascalCase o.field.name) = true)) =
      true := by
    decide +kernel
  obtain ⟨c, h, hc⟩ := exists_eq_ok_of_any hread
  obtain ⟨order, horder, hc⟩ := exists_eq_ok_of_any hc
  obtain ⟨o, ho, hdigit⟩ := of_decide_eq_true hc
  exact ⟨c, o, h, ⟨order, horder⟩, ho, not_isDocument_of_startsWithDigit hdigit⟩

theorem fragmentModels_of_fields_eq_nil {f : Field} {m : Model}
    (hm : c.model? f.typeName = some m) (hfields : m.fields = []) : c.fragmentModels f = [m] := by
  have hreferences : references m = [] := by
    rw [references, hfields]
    rfl
  rw [fragmentModels, visit_cons_of_new hm (by simp), hreferences, List.nil_append, visit]

/-- A model without fields gives a fragment that selects nothing. -/
theorem not_isDocument_of_parse_no_fields :
    ∃ c o, parse "type Query { e: E } type E" = .ok c ∧ (∃ order, c.topologicalOrder = .ok order) ∧
      o ∈ c.operations ∧ ¬ IsDocument (c.requestFor o).text := by
  have hread : (parse "type Query { e: E } type E").toOption.any (fun c =>
      c.topologicalOrder.toOption.any fun _ => decide (∃ o ∈ c.operations, ∃ m ∈ c.models,
        c.model? o.field.typeName = some m ∧ m.fields = [] ∧
          (tokens? { c.requestFor o with fragments := [c.fragmentOf m] }.text).all fun ts =>
            decide ([] ∉ rests 60 (.symbol .document) ts))) = true := by
    decide +kernel
  obtain ⟨c, h, hc⟩ := exists_eq_ok_of_any hread
  obtain ⟨order, horder, hc⟩ := exists_eq_ok_of_any hc
  obtain ⟨o, ho, m, _, hm, hfields, hrests⟩ := of_decide_eq_true hc
  have hrequest : c.requestFor o = { c.requestFor o with fragments := [c.fragmentOf m] } := by
    simp only [requestFor, fragmentModels_of_fields_eq_nil hm hfields, List.map_cons, List.map_nil]
  refine ⟨c, o, h, ⟨order, horder⟩, ho, ?_⟩
  rintro ⟨ts, hts, hreads, _⟩
  rw [← hrequest, hts] at hrests
  exact of_decide_eq_true hrests (hreads.mem_rests 60)

end Collection

end SchemaSdk.Schema
