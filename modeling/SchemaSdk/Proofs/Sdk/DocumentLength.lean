import Mathlib.Algebra.BigOperators.Ring.List
import SchemaSdk.Proofs.Sdk.DepthFirst
import SchemaSdk.Proofs.Sdk.DocumentText

/-!
# The length of a request document

Every part of a document is as long as the names that it is made from, but for a bounded number of
marks between them. A model is spelled out once, however many fields refer to it, so the length of
a document is linear in that of the names of its operation and of the schema. Lengths are those of
the texts in bytes.
-/
namespace SchemaSdk.Schema

variable {c : Collection}

/-! ## The names of a schema -/

/-- The length of the name of a field and of its type's. -/
def Field.nameSize (f : Field) : Nat := f.name.utf8ByteSize + f.base.utf8ByteSize

/-- The length of the name of a model and of those of its fields and their types. -/
def Model.nameSize (m : Model) : Nat := m.name.utf8ByteSize + (m.fields.map (·.nameSize)).sum

/-- The length of the names of an operation and its arguments and of those of their types. -/
def Operation.nameSize (o : Operation) : Nat :=
  o.field.nameSize + (o.arguments.map (·.nameSize)).sum

/-- The length of the names of all models. -/
def Collection.nameSize (c : Collection) : Nat := (c.models.map (·.nameSize)).sum

theorem IsName.utf8ByteSize_pos {s : String} (h : IsName s) : 0 < s.utf8ByteSize := by
  refine Nat.pos_of_ne_zero fun hzero => ?_
  rw [String.utf8ByteSize_eq_zero_iff] at hzero
  subst hzero
  cases h

theorem IsName.utf8ByteSize_pascalCase_le {s : String} (h : IsName s) :
    (Text.pascalCase s).utf8ByteSize ≤ s.utf8ByteSize := by
  have hascii := ascii_of_spellsName h
  have hcased : ∀ d ∈ Text.pascalChars s.toList, d.toNat < 0x80 := by
    intro d hd
    refine ascii_of_isNamePart (Identifier.isNamePart_of_mem_pascalCase h ?_)
    rwa [Text.pascalCase, String.toList_ofList]
  calc
    (Text.pascalCase s).utf8ByteSize = (Text.pascalChars s.toList).length :=
      Text.utf8ByteSize_ofList_of_ascii hcased
    _ ≤ s.toList.length := Text.length_pascalChars_le hascii
    _ = (String.ofList s.toList).utf8ByteSize := (Text.utf8ByteSize_ofList_of_ascii hascii).symm
    _ = s.utf8ByteSize := by rw [String.ofList_toList]

/-! ## Texts put together -/

theorem utf8ByteSize_braced (s : String) : (braced s).utf8ByteSize = s.utf8ByteSize + 4 := by
  have hopen : "\x7b ".utf8ByteSize = 2 := rfl
  have hclose : " \x7d".utf8ByteSize = 2 := rfl
  rw [braced, String.utf8ByteSize_append, String.utf8ByteSize_append, hopen, hclose]
  omega

theorem utf8ByteSize_fragmentName (model : String) :
    (fragmentName model).utf8ByteSize = model.utf8ByteSize + 6 := by
  rw [fragmentName, String.utf8ByteSize_append]
  rfl

theorem utf8ByteSize_intercalate_cons (sep s : String) (texts : List String) :
    (sep.intercalate (s :: texts)).utf8ByteSize =
      s.utf8ByteSize + (texts.map fun t => sep.utf8ByteSize + t.utf8ByteSize).sum := by
  induction texts generalizing s with
  | nil => simp
  | cons t texts ih =>
    rw [String.intercalate_cons_cons, String.utf8ByteSize_append, String.utf8ByteSize_append, ih,
      List.map_cons, List.sum_cons]
    omega

/-- Joined texts are no longer than the texts with a separator before each. -/
theorem utf8ByteSize_intercalate_le (sep : String) (texts : List String) :
    (sep.intercalate texts).utf8ByteSize ≤
      (texts.map fun t => sep.utf8ByteSize + t.utf8ByteSize).sum := by
  cases texts with
  | nil => simp
  | cons t texts =>
    rw [utf8ByteSize_intercalate_cons, List.map_cons, List.sum_cons]
    omega

theorem utf8ByteSize_parenthesized_le (items : List String) :
    (parenthesized items).utf8ByteSize ≤ (items.map fun s => 2 + s.utf8ByteSize).sum + 2 := by
  have hopen : "(".utf8ByteSize = 1 := rfl
  have hclose : ")".utf8ByteSize = 1 := rfl
  have hcomma : ", ".utf8ByteSize = 2 := rfl
  have hitems := utf8ByteSize_intercalate_le ", " items
  rw [hcomma] at hitems
  unfold parenthesized
  split
  · simp
  · rw [String.utf8ByteSize_append, String.utf8ByteSize_append, hopen, hclose]
    omega

/-- Texts for the elements of a list are linear in what the elements amount to if each text is. -/
theorem sum_map_le_mul {α : Type} {k : Nat} {size bound : α → Nat} {xs : List α}
    (h : ∀ x ∈ xs, size x ≤ k * bound x) : (xs.map size).sum ≤ k * (xs.map bound).sum := by
  rw [← List.sum_map_mul_left]
  exact List.sum_le_sum h

/-- A list in parentheses is linear in what its elements amount to if each text is. -/
theorem utf8ByteSize_parenthesized_map_le {α : Type} {k : Nat} {text : α → String}
    {bound : α → Nat} {xs : List α} (h : ∀ x ∈ xs, 2 + (text x).utf8ByteSize ≤ k * bound x) :
    (parenthesized (xs.map text)).utf8ByteSize ≤ k * (xs.map bound).sum + 2 := by
  have hlist := utf8ByteSize_parenthesized_le (xs.map text)
  rw [List.map_map] at hlist
  exact hlist.trans (Nat.add_le_add_right (sum_map_le_mul h) 2)

/-! ## The parts of a document -/

theorem Field.Spelled.nameSize_pos {f : Field} (h : f.Spelled) : 0 < f.nameSize := by
  have hname := h.name.utf8ByteSize_pos
  unfold Field.nameSize
  omega

/-- No more than four marks stand around the base of a type. -/
theorem Field.utf8ByteSize_sdlType_le (f : Field) :
    f.sdlType.utf8ByteSize ≤ f.base.utf8ByteSize + 4 := by
  have hopen : "[".utf8ByteSize = 1 := rfl
  have hclose : "]".utf8ByteSize = 1 := rfl
  have hbang : "!".utf8ByteSize = 1 := rfl
  cases hlist : f.list <;> cases hitem : f.itemRequired <;> cases hrequired : f.required <;>
    simp only [Field.sdlType, hlist, hitem, hrequired, if_true, if_false, Bool.false_eq_true,
      String.utf8ByteSize_append, String.utf8ByteSize_empty, hopen, hclose, hbang] <;>
    omega

namespace Collection

theorem utf8ByteSize_selectedText_le (c : Collection) (f : Field) :
    (selectedText (c.selectionOf f)).utf8ByteSize ≤ f.base.utf8ByteSize + 15 := by
  have hspace : " ".utf8ByteSize = 1 := rfl
  have hspread : "...".utf8ByteSize = 3 := rfl
  cases hselection : c.selectionOf f with
  | none => simp [selectedText]
  | some s =>
    rw [selectedText, String.utf8ByteSize_append, hspace]
    cases s with
    | fragment name =>
      obtain ⟨_, hbase, _⟩ := selectionOf_eq_fragment hselection
      rw [Selection.text, utf8ByteSize_braced, String.utf8ByteSize_append, hspread,
        utf8ByteSize_fragmentName, hbase]
      omega
    | typeName =>
      have htext : Selection.typeName.text.utf8ByteSize = 14 := rfl
      omega

theorem utf8ByteSize_selectedField_le (c : Collection) (f : Field) :
    (SelectedField.mk f.name (c.selectionOf f)).text.utf8ByteSize ≤ f.nameSize + 15 := by
  have hselection := c.utf8ByteSize_selectedText_le f
  simp only [SelectedField.text_eq, String.utf8ByteSize_append, Field.nameSize]
  omega

/-- A fragment and the space before it are linear in the names of the model. The factor is owed to
models with a name of one byte and no fields, around which 25 bytes of marks stand. -/
theorem utf8ByteSize_fragmentOf_le (h : c.WellFormed) {m : Model} (hm : m ∈ c.models) :
    1 + (c.fragmentOf m).text.utf8ByteSize ≤ 30 * m.nameSize := by
  obtain ⟨hname, hspelled⟩ := h.models_spelled m hm
  have hpos := hname.utf8ByteSize_pos
  have hfragment : "fragment ".utf8ByteSize = 9 := rfl
  have hon : " on ".utf8ByteSize = 4 := rfl
  have hspace : " ".utf8ByteSize = 1 := rfl
  have hmodel : (c.fragmentOf m).model = m.name := rfl
  have hfields : ((c.fragmentOf m).fields.map fun g => 1 + g.text.utf8ByteSize).sum ≤
      30 * (m.fields.map (·.nameSize)).sum := by
    rw [fragmentOf, List.map_map]
    refine sum_map_le_mul fun f hf => ?_
    have hfield := c.utf8ByteSize_selectedField_le f
    have hfieldpos := (hspelled f hf).nameSize_pos
    rw [Function.comp_apply]
    omega
  have hbody : (" ".intercalate ((c.fragmentOf m).fields.map (·.text))).utf8ByteSize ≤
      30 * (m.fields.map (·.nameSize)).sum := by
    have hjoined := utf8ByteSize_intercalate_le " " ((c.fragmentOf m).fields.map (·.text))
    rw [List.map_map, hspace] at hjoined
    exact hjoined.trans hfields
  simp only [Fragment.text, String.utf8ByteSize_append, utf8ByteSize_braced,
    utf8ByteSize_fragmentName, hfragment, hon, hspace, hmodel, Model.nameSize]
  omega

/-- The operation of a document is linear in its own names. -/
theorem utf8ByteSize_operationText_le (h : c.WellFormed) {o : Operation} (ho : o ∈ c.operations) :
    (c.requestFor o).operationText.utf8ByteSize ≤ 30 * o.nameSize := by
  obtain ⟨hfield, harguments⟩ := h.operations_spelled o ho
  have hname := hfield.name.utf8ByteSize_pos
  have hbase := hfield.base.utf8ByteSize_pos
  have hspace : " ".utf8ByteSize = 1 := rfl
  have hdollar : "$".utf8ByteSize = 1 := rfl
  have hcolon : ": ".utf8ByteSize = 2 := rfl
  have hbind : ": $".utf8ByteSize = 3 := rfl
  have hsize : o.field.nameSize = o.field.name.utf8ByteSize + o.field.base.utf8ByteSize := rfl
  have hkeyword : o.kind.keyword.utf8ByteSize ≤ 8 := by
    cases o.kind with
    | query => decide
    | mutation => decide
  have hpascal := hfield.name.utf8ByteSize_pascalCase_le
  have hselection := c.utf8ByteSize_selectedText_le o.field
  have hvariables :
      (parenthesized (o.arguments.map fun a => "$" ++ a.name ++ ": " ++ a.sdlType)).utf8ByteSize ≤
        15 * (o.arguments.map (·.nameSize)).sum + 2 := by
    refine utf8ByteSize_parenthesized_map_le fun a ha => ?_
    have htype := a.utf8ByteSize_sdlType_le
    have hpos := (harguments a ha).nameSize_pos
    simp only [String.utf8ByteSize_append, hdollar, hcolon]
    unfold Field.nameSize at hpos ⊢
    omega
  have hbindings :
      (parenthesized (o.arguments.map fun a => a.name ++ ": $" ++ a.name)).utf8ByteSize ≤
        15 * (o.arguments.map (·.nameSize)).sum + 2 := by
    refine utf8ByteSize_parenthesized_map_le fun a ha => ?_
    have hpos := (harguments a ha).nameSize_pos
    simp only [String.utf8ByteSize_append, hbind]
    unfold Field.nameSize at hpos ⊢
    omega
  simp only [Request.operationText, Request.bodyText, requestFor, String.utf8ByteSize_append,
    utf8ByteSize_braced, hspace, List.map_map, Function.comp_def, Operation.nameSize, hsize]
  omega

/-- **Documents grow linearly with the schema.** A document is at most thirty times as long as the
names of its operation and of all models, with those of their fields and of the types, however often
models are shared. -/
theorem utf8ByteSize_text_of_parse {sdl : String} (h : parse sdl = .ok c) {o : Operation}
    (ho : o ∈ c.operations) :
    (c.requestFor o).text.utf8ByteSize ≤ 30 * (o.nameSize + c.nameSize) := by
  have hwell := wellFormed_of_parse h
  have hoperation := utf8ByteSize_operationText_le hwell ho
  have hspace : " ".utf8ByteSize = 1 := rfl
  have hfragments : (((c.requestFor o).fragments.map (·.text)).map
      fun t => 1 + t.utf8ByteSize).sum ≤ 30 * c.nameSize := by
    calc
      (((c.requestFor o).fragments.map (·.text)).map fun t => 1 + t.utf8ByteSize).sum
          = ((c.fragmentModels o.field).map
              fun m => 1 + (c.fragmentOf m).text.utf8ByteSize).sum := by
            simp only [requestFor, List.map_map, Function.comp_def]
      _ ≤ 30 * ((c.fragmentModels o.field).map (·.nameSize)).sum :=
        sum_map_le_mul fun m hm => utf8ByteSize_fragmentOf_le hwell (c.fragmentModels_subset _ hm)
      _ ≤ 30 * c.nameSize := Nat.mul_le_mul_left 30 (c.sum_fragmentModels_le o.field _)
  rw [Request.text_eq, utf8ByteSize_intercalate_cons, hspace]
  omega

/-- A model that another one refers to twice is spelled out once. -/
theorem utf8ByteSize_text_of_parse_shared :
    ∃ c o, parse "type Query { top(n: Int): T } type T { a: S b: S } type S { n: Int }" = .ok c ∧
      o ∈ c.operations ∧ o.nameSize + c.nameSize = 18 ∧
      (c.requestFor o).text.utf8ByteSize ≤ 30 * 18 := by
  have hread : (parse "type Query { top(n: Int): T } type T { a: S b: S } type S { n: Int }"
      ).toOption.any (fun c => decide (∃ o ∈ c.operations, o.nameSize + c.nameSize = 18)) =
      true := by
    decide +kernel
  obtain ⟨c, h, hc⟩ := exists_eq_ok_of_any hread
  obtain ⟨o, ho, hsize⟩ := of_decide_eq_true hc
  have hle := utf8ByteSize_text_of_parse h ho
  rw [hsize] at hle
  exact ⟨c, o, h, ho, hsize, hle⟩

end Collection

end SchemaSdk.Schema
