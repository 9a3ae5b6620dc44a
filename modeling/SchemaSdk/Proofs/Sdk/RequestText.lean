import SchemaSdk.Proofs.Schema.Parsed
import SchemaSdk.Proofs.Sdk.Fragments
import SchemaSdk.Proofs.Text.Words

/-!
# Request documents read back

A document is read word by word: a word of three periods and a name spreads a fragment, and a
definition that starts with `fragment` defines the one named next. The documents of a schema give
back the spreads and the fragments of the request, so each defines all that it spreads, and nothing
twice.
-/
namespace SchemaSdk.Schema

open SchemaSdk.Text

variable {c : Collection}

/-! ## Reading a document -/

/-- The fragment that a word of a document spreads, if it spreads one. -/
def spread? (word : String) : Option String :=
  match word.toList with
  | '.' :: '.' :: '.' :: name => some (String.ofList name)
  | _ => none

/-- The fragments that a document spreads. -/
def spreadNames (text : String) : List String :=
  (spacedWords text.toList).filterMap spread?

/-- How many braces of a definition are open after a word; nothing once the last one is closed. -/
def depthAfter (depth : Nat) (word : String) : Option Nat :=
  if word = "\x7b" then some (depth + 1)
  else if word = "\x7d" then if depth ≤ 1 then none else some (depth - 1)
  else some depth

/-- The fragments that words define. A definition ends where its braces are closed, and the next
word starts another one; `fragment` is followed by a name. -/
def definedFrom : Option Nat → List String → List String
  | _, [] => []
  | none, w :: ws => (if w = "fragment" then ws.head?.toList else []) ++ definedFrom (some 0) ws
  | some d, w :: ws => definedFrom (depthAfter d w) ws

/-- The fragments that a document defines. -/
def definedNames (text : String) : List String :=
  definedFrom none (spacedWords text.toList)

/-! ## Documents as they are written -/

/-- Whether a character is neither a brace nor a period. -/
def isPlain (c : Char) : Bool := !(c == '.' || c == '\x7b' || c == '\x7d')

/-- The text has no braces and no periods. -/
def Plain (s : String) : Prop := s.toList.all isPlain = true

instance : DecidablePred Plain := fun s =>
  inferInstanceAs (Decidable (s.toList.all isPlain = true))

theorem plain_iff {s : String} : Plain s ↔ ∀ c ∈ s.toList, isPlain c = true := uses_iff

theorem Plain.append {s r : String} (hs : Plain s) (hr : Plain r) : Plain (s ++ r) :=
  Uses.append hs hr

/-- Texts in parentheses have the characters of the texts and of the marks between them. -/
theorem uses_parenthesized {p : Char → Bool} (hmarks : Uses p "(, )") {items : List String}
    (h : ∀ s ∈ items, Uses p s) : Uses p (parenthesized items) := by
  have hmark : ∀ s : String, s.toList ⊆ "(, )".toList → Uses p s := fun s hs =>
    uses_iff.mpr fun c hc => uses_iff.mp hmarks c (hs hc)
  unfold parenthesized
  split
  · rfl
  · exact ((hmark "(" (by decide)).append (.intercalate (hmark ", " (by decide)) h)).append
      (hmark ")" (by decide))

theorem Plain.parenthesized {items : List String} (h : ∀ s ∈ items, Plain s) :
    Plain (parenthesized items) :=
  uses_parenthesized (by decide) h

/-- A text that stands inside the braces of a definition: what it opens it also closes. `names` are
the fragments that it spreads. -/
structure IsBody (s : String) (names : List String) : Prop where
  spreadNames_eq : spreadNames s = names
  closed : ∀ d rest, 1 ≤ d →
    definedFrom (some d) (spacedWords s.toList ++ rest) = definedFrom (some d) rest

theorem spacedWords_space (s r : String) :
    spacedWords (s ++ " " ++ r).toList = spacedWords s.toList ++ spacedWords r.toList := by
  rw [← spacedWords_append_space]
  congr 1
  simp

theorem spacedWords_intercalate {α : Type} (s : String) (text : α → String) (xs : List α) :
    spacedWords (" ".intercalate (s :: xs.map text)).toList =
      spacedWords s.toList ++ xs.flatMap fun x => spacedWords (text x).toList := by
  induction xs generalizing s with
  | nil => simp
  | cons x xs ih =>
    rw [List.map_cons, String.intercalate_cons_cons, spacedWords_space, ih, List.flatMap_cons]

theorem spreadNames_space (s r : String) :
    spreadNames (s ++ " " ++ r) = spreadNames s ++ spreadNames r := by
  rw [spreadNames, spacedWords_space, List.filterMap_append]
  rfl

theorem Plain.of_mem_spacedWords {s w : String} (h : Plain s) (hw : w ∈ spacedWords s.toList) :
    Plain w :=
  plain_iff.mpr fun c hc => plain_iff.mp h c (mem_of_mem_spacedWords hw hc)

theorem Plain.spread?_eq_none {w : String} (h : Plain w) : spread? w = none := by
  unfold spread?
  split
  · rename_i heq
    have hdot := plain_iff.mp h '.' (by rw [heq]; exact List.mem_cons_self)
    cases hdot
  · rfl

theorem Plain.depthAfter_eq {w : String} (h : Plain w) (d : Nat) : depthAfter d w = some d := by
  have hopen : w ≠ "\x7b" := by
    rintro rfl
    exact absurd h (by decide)
  have hclose : w ≠ "\x7d" := by
    rintro rfl
    exact absurd h (by decide)
  rw [depthAfter, if_neg hopen, if_neg hclose]

theorem Plain.spreadNames_eq_nil {s : String} (h : Plain s) : spreadNames s = [] := by
  rw [spreadNames, List.filterMap_eq_nil_iff]
  exact fun w hw => (h.of_mem_spacedWords hw).spread?_eq_none

theorem definedFrom_append_of_plain {ws : List String} (h : ∀ w ∈ ws, Plain w) (d : Nat)
    (rest : List String) : definedFrom (some d) (ws ++ rest) = definedFrom (some d) rest := by
  induction ws with
  | nil => rfl
  | cons w ws ih =>
    obtain ⟨hw, hws⟩ := List.forall_mem_cons.mp h
    rw [List.cons_append, definedFrom, hw.depthAfter_eq, ih hws]

theorem spacedWords_braced (s : String) :
    spacedWords (braced s).toList = "\x7b" :: (spacedWords s.toList ++ ["\x7d"]) := by
  have hchars : (braced s).toList = "\x7b".toList ++ ' ' :: (s.toList ++ ' ' :: "\x7d".toList) := by
    simp [braced]
  rw [hchars, spacedWords_append_space, spacedWords_append_space]
  rfl

theorem spreadNames_braced (s : String) : spreadNames (braced s) = spreadNames s := by
  rw [spreadNames, spacedWords_braced, List.filterMap_cons_none rfl, List.filterMap_append,
    List.filterMap_cons_none rfl, List.filterMap_nil, List.append_nil, spreadNames]

namespace IsBody

theorem of_plain {s : String} (h : Plain s) : IsBody s [] where
  spreadNames_eq := h.spreadNames_eq_nil
  closed d rest _ := definedFrom_append_of_plain (fun _ hw => h.of_mem_spacedWords hw) d rest

theorem space {s r : String} {m n : List String} (hs : IsBody s m) (hr : IsBody r n) :
    IsBody (s ++ " " ++ r) (m ++ n) where
  spreadNames_eq := by rw [spreadNames_space, hs.spreadNames_eq, hr.spreadNames_eq]
  closed d rest hd := by
    rw [spacedWords_space, List.append_assoc, hs.closed d _ hd, hr.closed d _ hd]

/-- Behind the braces the reader stands where the closing brace takes it. -/
theorem definedFrom_braced {s : String} {names : List String} (h : IsBody s names) (d : Nat)
    (rest : List String) :
    definedFrom (some d) (spacedWords (Schema.braced s).toList ++ rest) =
      definedFrom (depthAfter (d + 1) "\x7d") rest := by
  have hopen : depthAfter d "\x7b" = some (d + 1) := by simp [depthAfter]
  rw [spacedWords_braced, List.cons_append, List.append_assoc, definedFrom, hopen,
    h.closed (d + 1) _ (by omega), List.singleton_append, definedFrom]

theorem braced {s : String} {names : List String} (h : IsBody s names) :
    IsBody (braced s) names where
  spreadNames_eq := by rw [spreadNames_braced, h.spreadNames_eq]
  closed d rest hd := by
    have hclose : depthAfter (d + 1) "\x7d" = some d := by
      have hd' : ¬ d + 1 ≤ 1 := by omega
      simp [depthAfter, hd']
    rw [h.definedFrom_braced, hclose]

/-- A spread is a body by itself. -/
theorem of_spread {model : String} (h : ' ' ∉ model.toList) :
    IsBody ("..." ++ fragmentName model) [fragmentName model] := by
  have hwords :
      spacedWords ("..." ++ fragmentName model).toList = ["..." ++ fragmentName model] := by
    rw [spacedWords_of_not_mem, String.ofList_toList]
    simpa [fragmentName] using h
  have hspread : spread? ("..." ++ fragmentName model) = some (fragmentName model) := by
    simp [spread?]
  constructor
  · rw [spreadNames, hwords]
    simp [hspread]
  · intro d rest _
    have hopen : "..." ++ fragmentName model ≠ "\x7b" := by
      intro heq
      rw [heq] at hspread
      cases hspread
    have hclose : "..." ++ fragmentName model ≠ "\x7d" := by
      intro heq
      rw [heq] at hspread
      cases hspread
    rw [hwords, List.singleton_append, definedFrom, depthAfter, if_neg hopen, if_neg hclose]

theorem intercalate {α : Type} {text : α → String} {names : α → List String} {xs : List α}
    (h : ∀ x ∈ xs, IsBody (text x) (names x)) :
    IsBody (" ".intercalate (xs.map text)) (xs.flatMap names) := by
  induction xs with
  | nil => exact of_plain (s := "") (by decide)
  | cons x xs ih =>
    obtain ⟨hx, hxs⟩ := List.forall_mem_cons.mp h
    by_cases hnil : xs = []
    · subst hnil
      simpa using hx
    · rw [List.map_cons, String.intercalate_cons_of_ne_nil (by simpa using hnil), List.flatMap_cons]
      exact hx.space (ih hxs)

end IsBody

/-- The model of a selection is a word. -/
def Selection.Printable : Selection → Prop
  | fragment m => ' ' ∉ m.toList
  | typeName => True

theorem Selection.isBody_text {s : Selection} (h : s.Printable) :
    IsBody s.text (s.model?.toList.map fragmentName) := by
  cases s with
  | fragment m => exact (IsBody.of_spread h).braced
  | typeName => exact (IsBody.of_plain (by decide)).braced

/-- The name of a selected field is plain, and its selection can be read back. -/
structure SelectedField.Printable (f : SelectedField) : Prop where
  name : Plain f.name
  selection : ∀ s ∈ f.selection, s.Printable

theorem SelectedField.isBody_text {f : SelectedField} (h : f.Printable) :
    IsBody f.text (f.spreads.map fragmentName) := by
  obtain ⟨name, selection⟩ := f
  cases selection with
  | none => exact IsBody.of_plain h.name
  | some s => exact (IsBody.of_plain h.name).space (s.isBody_text (h.selection s rfl))

/-- The model of a fragment is a plain word, and its fields can be read back. -/
structure Fragment.Printable (f : Fragment) : Prop where
  plain : Plain f.model
  word : ' ' ∉ f.model.toList
  fields : ∀ g ∈ f.fields, g.Printable

/-- A definition is read up to the brace that closes it. -/
theorem definedFrom_definition {keyword name : String} {ws : List String}
    (hws : ∀ w ∈ name :: ws, Plain w) {body : String} {names : List String}
    (hbody : IsBody body names) (rest : List String) :
    definedFrom none (keyword :: name :: ws ++ spacedWords (braced body).toList ++ rest) =
      (if keyword = "fragment" then [name] else []) ++ definedFrom none rest := by
  have hclose : depthAfter 1 "\x7d" = none := rfl
  rw [List.cons_append, List.cons_append, definedFrom, List.append_assoc,
    definedFrom_append_of_plain hws, hbody.definedFrom_braced, hclose]
  rfl

namespace Fragment

variable {f : Fragment}

theorem spacedWords_text (h : f.Printable) :
    spacedWords f.text.toList = "fragment" :: fragmentName f.model :: ["on", f.model] ++
      spacedWords (braced (" ".intercalate (f.fields.map (·.text)))).toList := by
  have hchars : f.text.toList = "fragment".toList ++ ' ' :: ((fragmentName f.model).toList ++
      ' ' :: ("on".toList ++ ' ' :: (f.model.toList ++ ' ' ::
        (braced (" ".intercalate (f.fields.map (·.text)))).toList))) := by
    simp [text]
  have hname : ' ' ∉ (fragmentName f.model).toList := by simpa [fragmentName] using h.word
  rw [hchars, spacedWords_append_space, spacedWords_cons hname, spacedWords_append_space,
    spacedWords_cons h.word, String.ofList_toList, String.ofList_toList]
  rfl

theorem isBody_fields (h : f.Printable) :
    IsBody (" ".intercalate (f.fields.map (·.text))) (f.spreads.map fragmentName) := by
  rw [spreads, List.map_flatMap]
  exact IsBody.intercalate fun (g : SelectedField) hg => g.isBody_text (h.fields g hg)

theorem plain_header (h : f.Printable) : ∀ w ∈ [fragmentName f.model, "on", f.model], Plain w := by
  simp only [List.forall_mem_cons, List.not_mem_nil, false_implies, implies_true, and_true]
  exact ⟨h.plain.append (by decide), by decide, h.plain⟩

theorem definedFrom_text (h : f.Printable) (rest : List String) :
    definedFrom none (spacedWords f.text.toList ++ rest) =
      fragmentName f.model :: definedFrom none rest := by
  rw [spacedWords_text h, definedFrom_definition (plain_header h) (isBody_fields h)]
  rfl

theorem spreadNames_text (h : f.Printable) :
    spreadNames f.text = f.spreads.map fragmentName := by
  have hheader : ("fragment" :: [fragmentName f.model, "on", f.model]).filterMap spread? = [] := by
    rw [List.filterMap_eq_nil_iff]
    intro w hw
    rcases List.mem_cons.mp hw with rfl | hw
    · rfl
    · exact (plain_header h w hw).spread?_eq_none
  rw [spreadNames, spacedWords_text h, List.filterMap_append, hheader]
  exact (isBody_fields h).braced.spreadNames_eq

end Fragment

/-- The names and types of a request are plain, and its selections can be read back. -/
structure Request.Printable (r : Request) : Prop where
  name : Plain r.name
  header : ∀ v ∈ r.header, Plain v.name ∧ Plain v.type
  field : Plain r.field
  bindings : ∀ b ∈ r.bindings, Plain b.1 ∧ Plain b.2
  selection : ∀ s ∈ r.selection, s.Printable
  fragments : ∀ f ∈ r.fragments, f.Printable

namespace Request

variable {r : Request}

/-- What stands before the braces of the operation, but for its keyword. -/
def signature (r : Request) : String :=
  r.name ++ parenthesized (r.header.map fun v => "$" ++ v.name ++ ": " ++ v.type)

/-- What stands between the braces of the operation. -/
def rootText (r : Request) : String :=
  r.field ++ parenthesized (r.bindings.map fun (a, v) => a ++ ": $" ++ v) ++
    match r.selection with
    | some s => " " ++ s.text
    | none => ""

theorem plain_signature (h : r.Printable) : Plain r.signature := by
  refine h.name.append (Plain.parenthesized fun s hs => ?_)
  obtain ⟨v, hv, rfl⟩ := List.mem_map.mp hs
  obtain ⟨hname, htype⟩ := h.header v hv
  exact ((Plain.append (by decide) hname).append (by decide)).append htype

theorem isBody_rootText (h : r.Printable) :
    IsBody r.rootText ((r.selection.bind (·.model?)).toList.map fragmentName) := by
  have hfield :
      Plain (r.field ++ parenthesized (r.bindings.map fun (a, v) => a ++ ": $" ++ v)) := by
    refine h.field.append (Plain.parenthesized fun s hs => ?_)
    obtain ⟨b, hb, rfl⟩ := List.mem_map.mp hs
    obtain ⟨hargument, hvariable⟩ := h.bindings b hb
    exact (hargument.append (by decide)).append hvariable
  unfold rootText
  cases hselection : r.selection with
  | none => simpa using IsBody.of_plain hfield
  | some s =>
    have hbody := (IsBody.of_plain hfield).space (s.isBody_text (h.selection s hselection))
    simpa [String.append_assoc] using hbody

theorem spacedWords_operation (r : Request) :
    spacedWords (r.kind.keyword ++ " " ++ r.signature ++ " " ++ braced r.rootText).toList =
      r.kind.keyword :: spacedWords r.signature.toList ++
        spacedWords (braced r.rootText).toList := by
  have hkeyword : spacedWords r.kind.keyword.toList = [r.kind.keyword] := by
    cases r.kind <;> rfl
  rw [spacedWords_space, spacedWords_space, hkeyword]
  rfl

theorem spacedWords_text (r : Request) :
    spacedWords r.text.toList = r.kind.keyword :: spacedWords r.signature.toList ++
      spacedWords (braced r.rootText).toList ++
        r.fragments.flatMap fun f => spacedWords f.text.toList := by
  have hsignature : r.kind.keyword ++ " " ++ r.signature = r.kind.keyword ++ " " ++ r.name ++
      parenthesized (r.header.map fun v => "$" ++ v.name ++ ": " ++ v.type) := by
    rw [signature, ← String.append_assoc]
  rw [← spacedWords_operation, hsignature, ← spacedWords_intercalate]
  rfl

/-- **A document is read back**: it defines the fragments of the request. -/
theorem definedNames_text (h : r.Printable) :
    definedNames r.text = r.fragments.map fun f => fragmentName f.model := by
  have hfragments : ∀ fs : List Fragment, (∀ f ∈ fs, f.Printable) →
      definedFrom none (fs.flatMap fun f => spacedWords f.text.toList) =
        fs.map fun f => fragmentName f.model := by
    intro fs hfs
    induction fs with
    | nil => rfl
    | cons f fs ih =>
      obtain ⟨hf, hfs⟩ := List.forall_mem_cons.mp hfs
      rw [List.flatMap_cons, f.definedFrom_text hf, ih hfs, List.map_cons]
  have hsignature : ∀ w ∈ spacedWords r.signature.toList, Plain w :=
    fun w hw => (plain_signature h).of_mem_spacedWords hw
  have hkeyword : r.kind.keyword ≠ "fragment" := by
    cases r.kind <;> decide
  cases hwords : spacedWords r.signature.toList with
  | nil => exact absurd hwords (spacedWords_ne_nil _)
  | cons w ws =>
    rw [hwords] at hsignature
    rw [definedNames, spacedWords_text, hwords,
      definedFrom_definition hsignature (isBody_rootText h), if_neg hkeyword, List.nil_append,
      hfragments r.fragments h.fragments]

theorem spreadNames_text (h : r.Printable) :
    spreadNames r.text = r.spreads.map fragmentName := by
  have hkeyword : spread? r.kind.keyword = none := by
    cases r.kind <;> rfl
  have hfragments : (r.fragments.flatMap fun f => spacedWords f.text.toList).filterMap spread? =
      (r.fragments.flatMap (·.spreads)).map fragmentName := by
    rw [List.filterMap_flatMap, List.map_flatMap]
    exact List.flatMap_congr fun f hf => f.spreadNames_text (h.fragments f hf)
  have hsignature : (spacedWords r.signature.toList).filterMap spread? = [] :=
    (plain_signature h).spreadNames_eq_nil
  have hroot : (spacedWords (braced r.rootText).toList).filterMap spread? = _ :=
    (isBody_rootText h).braced.spreadNames_eq
  rw [spreadNames, spacedWords_text, List.filterMap_append, List.filterMap_append,
    List.filterMap_cons_none hkeyword, hsignature, hroot, hfragments, List.nil_append, spreads,
    List.map_append]

end Request

/-! ## The requests of a schema -/

theorem plain_of_isNamePart {s : String} (h : ∀ c ∈ s.toList, isNamePart c = true) : Plain s := by
  refine plain_iff.mpr fun c hc => ?_
  have hpart := h c hc
  by_contra hmark
  simp only [isPlain, Bool.not_eq_true', Bool.not_eq_false, Bool.or_eq_true, beq_iff_eq] at hmark
  rcases hmark with (rfl | rfl) | rfl
  · cases hpart
  · cases hpart
  · cases hpart

theorem plain_of_isName {s : String} (h : IsName s) : Plain s :=
  plain_of_isNamePart (isNamePart_of_spellsName h)

theorem space_not_mem_of_isName {s : String} (h : IsName s) : ' ' ∉ s.toList := h.notMem rfl

/-- A type has the characters of its base and of the marks around it. -/
theorem Field.uses_sdlType {p : Char → Bool} (hmarks : Uses p "[]!") {f : Field}
    (h : Uses p f.base) : Uses p f.sdlType := by
  have hmark : ∀ s : String, s.toList ⊆ "[]!".toList → Uses p s := fun s hs =>
    uses_iff.mpr fun c hc => uses_iff.mp hmarks c (hs hc)
  have hitem : Uses p (if f.itemRequired then "!" else "") := by
    split
    · exact hmark "!" (by decide)
    · rfl
  have hinner : Uses p (if f.list then
      "[" ++ f.base ++ (if f.itemRequired then "!" else "") ++ "]" else f.base) := by
    split
    · exact (((hmark "[" (by decide)).append h).append hitem).append (hmark "]" (by decide))
    · exact h
  rw [sdlType]
  by_cases hrequired : f.required = true
  · rw [if_pos hrequired]
    exact hinner.append (hmark "!" (by decide))
  · rw [if_neg hrequired]
    exact hinner

theorem Field.plain_sdlType {f : Field} (h : IsName f.base) : Plain f.sdlType :=
  uses_sdlType (by decide) (plain_of_isName h)

namespace Collection

theorem printable_of_selectionOf (h : c.WellFormed) {f : Field} {s : Selection}
    (hs : c.selectionOf f = some s) : s.Printable := by
  cases s with
  | typeName => trivial
  | fragment name =>
    obtain ⟨_, _, m, hm⟩ := selectionOf_eq_fragment hs
    obtain ⟨hmem, rfl⟩ := mem_of_model? hm
    exact space_not_mem_of_isName (h.models_spelled m hmem).1

theorem printable_fragmentOf (h : c.WellFormed) {m : Model} (hm : m ∈ c.models) :
    (c.fragmentOf m).Printable := by
  obtain ⟨hname, hfields⟩ := h.models_spelled m hm
  refine ⟨plain_of_isName hname, space_not_mem_of_isName hname, fun g hg => ?_⟩
  obtain ⟨f, hf, rfl⟩ := List.mem_map.mp hg
  exact ⟨plain_of_isName (hfields f hf).name, fun s hs => printable_of_selectionOf h hs⟩

theorem printable_requestFor (h : c.WellFormed) {o : Operation} (ho : o ∈ c.operations) :
    (c.requestFor o).Printable := by
  obtain ⟨hfield, harguments⟩ := h.operations_spelled o ho
  constructor
  · exact plain_of_isNamePart fun d hd => Identifier.isNamePart_of_mem_pascalCase hfield.name hd
  · intro v hv
    obtain ⟨a, ha, rfl⟩ := List.mem_map.mp hv
    exact ⟨plain_of_isName (harguments a ha).name, Field.plain_sdlType (harguments a ha).base⟩
  · exact plain_of_isName hfield.name
  · intro b hb
    obtain ⟨a, ha, rfl⟩ := List.mem_map.mp hb
    exact ⟨plain_of_isName (harguments a ha).name, plain_of_isName (harguments a ha).name⟩
  · exact fun s hs => printable_of_selectionOf h hs
  · intro f hf
    obtain ⟨m, hm, rfl⟩ := List.mem_map.mp hf
    exact printable_fragmentOf h (mem_of_model? (model?_of_mem_visit m hm).1).1

/-- **The fragments of a document.** Every fragment that is spread anywhere in it is defined in it
exactly once, and no fragment is defined twice. -/
theorem fragments_of_parse {sdl : String} (h : parse sdl = .ok c) {o : Operation}
    (ho : o ∈ c.operations) :
    (∀ name ∈ spreadNames (c.requestFor o).text,
      (definedNames (c.requestFor o).text).count name = 1) ∧
      (definedNames (c.requestFor o).text).Nodup := by
  have hprintable := printable_requestFor (wellFormed_of_parse h) ho
  have hnodup : (definedNames (c.requestFor o).text).Nodup := by
    have hnames := (nodup_fragments c o).map fragmentName_injective
    rw [List.map_map] at hnames
    rw [Request.definedNames_text hprintable]
    exact hnames
  refine ⟨fun name hname => ?_, hnodup⟩
  rw [Request.spreadNames_text hprintable] at hname
  obtain ⟨model, hmodel, rfl⟩ := List.mem_map.mp hname
  obtain ⟨f, hf, rfl⟩ := List.mem_map.mp (mem_fragments_of_mem_spreads hmodel)
  refine List.count_eq_one_of_mem hnodup ?_
  rw [Request.definedNames_text hprintable]
  exact List.mem_map_of_mem hf

/-- Models that refer to each other have one fragment each. -/
theorem fragments_of_parse_mutual :
    ∃ c o, parse "type Query { a: A } type A { b: B } type B { a: A }" = .ok c ∧
      o ∈ c.operations ∧ "AFields" ∈ spreadNames (c.requestFor o).text ∧
      (definedNames (c.requestFor o).text).count "AFields" = 1 ∧
      (definedNames (c.requestFor o).text).Nodup := by
  have hread : (parse "type Query { a: A } type A { b: B } type B { a: A }").toOption.any (fun c =>
      decide (∃ o ∈ c.operations, c.selectionOf o.field = some (.fragment "A"))) = true := by
    decide
  obtain ⟨c, h, hc⟩ := exists_eq_ok_of_any hread
  obtain ⟨o, ho, hselection⟩ := of_decide_eq_true hc
  have hspread : "AFields" ∈ spreadNames (c.requestFor o).text := by
    rw [Request.spreadNames_text (printable_requestFor (wellFormed_of_parse h) ho)]
    refine List.mem_map.mpr ⟨"A", List.mem_append_left _ ?_, rfl⟩
    simp [requestFor, hselection, Selection.model?]
  obtain ⟨hdefined, hnodup⟩ := fragments_of_parse h ho
  exact ⟨c, o, h, ho, hspread, hdefined _ hspread, hnodup⟩

end Collection

/-! ## The characters of a request -/

/-- The characters that requests are written with. -/
def isRequestPart (c : Char) : Bool := isNamePart c || " !$(),.:[]\x7b\x7d".toList.contains c

theorem IsName.isRequestPart {s : String} (h : IsName s) : Uses isRequestPart s :=
  h.uses fun c hc => by simp [Schema.isRequestPart, hc]

theorem uses_braced {s : String} (h : Uses isRequestPart s) : Uses isRequestPart (braced s) :=
  (Uses.append (by decide) h).append (by decide)

namespace Collection

theorem uses_selectionText (h : c.WellFormed) {f : Field} {s : Selection}
    (hs : c.selectionOf f = some s) : Uses isRequestPart s.text := by
  cases s with
  | typeName => exact uses_braced (by decide)
  | fragment name =>
    obtain ⟨_, _, m, hm⟩ := selectionOf_eq_fragment hs
    obtain ⟨hmem, rfl⟩ := mem_of_model? hm
    have hname := (h.models_spelled m hmem).1.isRequestPart
    exact uses_braced (Uses.append (by decide) (hname.append (by decide)))

theorem uses_fragmentText (h : c.WellFormed) {m : Model} (hm : m ∈ c.models) :
    Uses isRequestPart (c.fragmentOf m).text := by
  obtain ⟨hname, hfields⟩ := h.models_spelled m hm
  have hmodel := hname.isRequestPart
  have hbody : Uses isRequestPart (" ".intercalate ((c.fragmentOf m).fields.map (·.text))) := by
    refine .intercalate (by decide) fun t ht => ?_
    simp only [fragmentOf, List.map_map, List.mem_map, Function.comp_apply] at ht
    obtain ⟨f, hf, rfl⟩ := ht
    have hfield := (hfields f hf).name.isRequestPart
    cases hselection : c.selectionOf f with
    | none => exact hfield
    | some s => exact (hfield.append (by decide)).append (uses_selectionText h hselection)
  exact ((((Uses.append (by decide) (hmodel.append (by decide))).append (by decide)).append
    hmodel).append (by decide)).append (uses_braced hbody)

/-- A request is written with the characters of names and a few marks. -/
theorem uses_requestText (h : c.WellFormed) {o : Operation} (ho : o ∈ c.operations) :
    Uses isRequestPart (c.requestFor o).text := by
  obtain ⟨hfield, harguments⟩ := h.operations_spelled o ho
  have hkeyword : Uses isRequestPart (o.kind.keyword ++ " ") := by cases o.kind <;> decide
  have hname : Uses isRequestPart (pascalCase o.field.name) := uses_iff.mpr fun d hd => by
    simp [isRequestPart, Identifier.isNamePart_of_mem_pascalCase hfield.name hd]
  have hheader : Uses isRequestPart (parenthesized ((c.requestFor o).header.map fun v =>
      "$" ++ v.name ++ ": " ++ v.type)) := by
    refine uses_parenthesized (by decide) fun t ht => ?_
    simp only [requestFor, List.map_map, List.mem_map, Function.comp_apply] at ht
    obtain ⟨a, ha, rfl⟩ := ht
    have hargument := harguments a ha
    have htype := Field.uses_sdlType (by decide) hargument.base.isRequestPart
    exact ((Uses.append (by decide) hargument.name.isRequestPart).append (by decide)).append htype
  have hbindings : Uses isRequestPart (parenthesized ((c.requestFor o).bindings.map fun (a, v) =>
      a ++ ": $" ++ v)) := by
    refine uses_parenthesized (by decide) fun t ht => ?_
    simp only [requestFor, List.map_map, List.mem_map, Function.comp_apply] at ht
    obtain ⟨a, ha, rfl⟩ := ht
    have hargument := (harguments a ha).name.isRequestPart
    exact (hargument.append (by decide)).append hargument
  have hroot : Uses isRequestPart (c.requestFor o).rootText := by
    refine (hfield.name.isRequestPart.append hbindings).append ?_
    cases hselection : c.selectionOf o.field with
    | none =>
      simp only [requestFor, hselection]
      rfl
    | some s =>
      simp only [requestFor, hselection]
      exact Uses.append (by decide) (uses_selectionText h hselection)
  refine Uses.intercalate (by decide) fun t ht => ?_
  rcases List.mem_cons.mp ht with rfl | ht
  · exact (((hkeyword.append hname).append hheader).append (by decide)).append (uses_braced hroot)
  · obtain ⟨f, hf, rfl⟩ := List.mem_map.mp ht
    obtain ⟨m, hm, rfl⟩ := List.mem_map.mp hf
    exact uses_fragmentText h (mem_of_model? (model?_of_mem_visit m hm).1).1

end Collection

end SchemaSdk.Schema
