import SchemaSdk.Proofs.Text.Tidy
import SchemaSdk.Proofs.Text.Words
import SchemaSdk.Sdk.Package

/-!
# Printed declarations

The declarations of a schema module can be read back off its text, line by line: what stands in
comments, attributes and implementations is passed over, whatever the descriptions of a schema say,
and tidying the text changes nothing of it.
-/
namespace SchemaSdk.Sdk

open SchemaSdk.Text

/-! ## Reading a module -/

/-- A declaration as the text of a module has it. A field has an identifier and a type. -/
inductive Item where
  | synonym (ident : String)
  | enumeration (ident : String)
  | struct (ident : String) (fields : List (String × String))
  deriving DecidableEq

/-- The identifier that is declared. -/
def Item.ident : Item → String
  | synonym i | enumeration i | struct i _ => i

@[simp] theorem Item.ident_synonym (i : String) : (Item.synonym i).ident = i := rfl

@[simp] theorem Item.ident_enumeration (i : String) : (Item.enumeration i).ident = i := rfl

@[simp] theorem Item.ident_struct (i : String) (fields : List (String × String)) :
    (Item.struct i fields).ident = i := rfl

/-- What a line says about declarations. -/
inductive Line where
  | synonym (ident : String)
  | enumeration (ident : String)
  | struct (ident : String)
  | field (ident type : String)
  | close
  deriving DecidableEq

/-- What the words of a line say, if anything. -/
def Line.ofWords : List String → Option Line
  | ["pub", "type", i, "=", "String;"] => some (synonym i)
  | ["pub", "enum", i, "\x7b"] => some (enumeration i)
  | ["pub", "struct", i, "\x7b"] => some (struct i)
  | ["", "", "", "", "pub", ident, type] =>
    match ident.toList.getLast?, type.toList.getLast? with
    | some ':', some ',' =>
      some (field (String.ofList ident.toList.dropLast) (String.ofList type.toList.dropLast))
    | _, _ => none
  | ["\x7d"] => some close
  | _ => none

/-- The fields that come before a closing brace. -/
def fieldsOf : List Line → List (String × String)
  | [] => []
  | .close :: _ => []
  | .field i t :: ls => (i, t) :: fieldsOf ls
  | _ :: ls => fieldsOf ls

/-- The declarations that lines make. -/
def itemsOf : List Line → List Item
  | [] => []
  | .synonym i :: ls => .synonym i :: itemsOf ls
  | .enumeration i :: ls => .enumeration i :: itemsOf ls
  | .struct i :: ls => .struct i (fieldsOf ls) :: itemsOf ls
  | _ :: ls => itemsOf ls

/-- The declarations of a module in the order of its text. -/
def outline (text : String) : List Item :=
  itemsOf ((visibleLines text.toList).filterMap fun l => Line.ofWords (spacedWords l))

/-- What a line says, if anything. -/
def Line.read (l : List Char) : Option Line := Line.ofWords (spacedWords l)

/-! ## Lines as they are printed -/

/-- The text is neither broken by a space nor by a line feed. -/
def OneWord (s : String) : Prop := ' ' ∉ s.toList ∧ '\n' ∉ s.toList

instance : DecidablePred OneWord := fun s =>
  inferInstanceAs (Decidable (' ' ∉ s.toList ∧ '\n' ∉ s.toList))

theorem OneWord.append {s r : String} (hs : OneWord s) (hr : OneWord r) : OneWord (s ++ r) := by
  simp only [OneWord, String.toList_append, List.mem_append, not_or]
  exact ⟨⟨hs.1, hr.1⟩, hs.2, hr.2⟩

theorem OneWord.spacedWords_eq {s : String} (h : OneWord s) : spacedWords s.toList = [s] := by
  rw [spacedWords_of_not_mem h.1, String.ofList_toList]

/-- What a printed line says once it is tidied. -/
def said (l : String) : Option Line :=
  Line.ofWords (spacedWords (trimEnd l.toList))

theorem readsLine_iff {l : String} {c : Option Line} :
    ReadsLine Line.read l c ↔ '\n' ∉ l.toList ∧ said l = c := Iff.rfl

/-- The words of a printed line that is visible behind a space. -/
theorem said_of_append {l : String} {s r : List Char} (hl : l.toList = s ++ ' ' :: r)
    (hr : trimEnd r ≠ []) :
    said l = Line.ofWords (spacedWords s ++ spacedWords (trimEnd r)) := by
  have htrim : trimEnd (' ' :: r) = ' ' :: trimEnd r := by rw [trimEnd_cons, if_neg hr]
  have hne : trimEnd (' ' :: r) ≠ [] := by simp [htrim]
  rw [said, hl, trimEnd_append hne, htrim, spacedWords_append_space]

/-- The words of a printed line around an identifier. -/
theorem said_around {l i : String} {s r : List Char}
    (hl : l.toList = s ++ ' ' :: (i.toList ++ ' ' :: r)) (hi : OneWord i) (hr : trimEnd r ≠ []) :
    said l = Line.ofWords (spacedWords s ++ i :: spacedWords (trimEnd r)) := by
  have htrim : trimEnd (i.toList ++ ' ' :: r) = i.toList ++ ' ' :: trimEnd r := by
    have hspace : trimEnd (' ' :: r) = ' ' :: trimEnd r := by rw [trimEnd_cons, if_neg hr]
    rw [trimEnd_append (by simp [hspace]), hspace]
  rw [said_of_append hl (by simp [htrim]), htrim, spacedWords_cons hi.1, String.ofList_toList]

/-- The words of a line that is a keyword, an identifier and what closes it. -/
theorem readsLine_keyword {keyword i closing : String} {s r : List Char}
    (hs : keyword.toList = s ++ [' ']) (hr : closing.toList = ' ' :: r)
    (hfeed : '\n' ∉ s ∧ '\n' ∉ r) (hi : OneWord i) (hvisible : trimEnd r ≠ []) :
    ReadsLine Line.read (keyword ++ i ++ closing)
      (Line.ofWords (spacedWords s ++ i :: spacedWords (trimEnd r))) := by
  have hl : (keyword ++ i ++ closing).toList = s ++ ' ' :: (i.toList ++ ' ' :: r) := by
    rw [String.toList_append, String.toList_append, hs, hr]
    simp
  refine readsLine_iff.mpr ⟨?_, said_around hl hi hvisible⟩
  simp [hl, hfeed, hi.2]

theorem readsLine_synonym {i : String} (hi : OneWord i) :
    ReadsLine Line.read ("pub type " ++ i ++ " = String;") (some (.synonym i)) :=
  readsLine_keyword (s := "pub type".toList) (r := "= String;".toList) rfl rfl (by decide) hi
    (by decide)

theorem readsLine_enumeration {i : String} (hi : OneWord i) :
    ReadsLine Line.read ("pub enum " ++ i ++ " \x7b") (some (.enumeration i)) :=
  readsLine_keyword (s := "pub enum".toList) (r := "\x7b".toList) rfl rfl (by decide) hi (by decide)

theorem readsLine_struct {i : String} (hi : OneWord i) :
    ReadsLine Line.read ("pub struct " ++ i ++ " \x7b") (some (.struct i)) :=
  readsLine_keyword (s := "pub struct".toList) (r := "\x7b".toList) rfl rfl (by decide) hi
    (by decide)

theorem readsLine_impl {i : String} (hi : OneWord i) :
    ReadsLine Line.read ("impl " ++ i ++ " \x7b") none :=
  readsLine_keyword (s := "impl".toList) (r := "\x7b".toList) rfl rfl (by decide) hi (by decide)

/-- A visible end keeps a text from being trimmed. -/
theorem trimEnd_toList_append (s : String) {r : String} (hr : trimEnd r.toList = r.toList)
    (hne : r.toList ≠ []) : trimEnd (s ++ r).toList = (s ++ r).toList := by
  rw [String.toList_append, trimEnd_append (hr.symm ▸ hne), hr]

theorem trimEnd_append_comma (s : String) : trimEnd (s ++ ",").toList = (s ++ ",").toList :=
  trimEnd_toList_append s rfl (by decide)

theorem readsLine_field {i t : String} (hi : OneWord i) (ht : OneWord t) :
    ReadsLine Line.read ("    pub " ++ i ++ ": " ++ t ++ ",") (some (.field i t)) := by
  have hl : ("    pub " ++ i ++ ": " ++ t ++ ",").toList =
      "    pub".toList ++ ' ' :: ((i ++ ":").toList ++ ' ' :: (t ++ ",").toList) := by simp
  have hcomma := trimEnd_append_comma t
  have hne : trimEnd (t ++ ",").toList ≠ [] := by
    rw [hcomma]
    simp
  have hwords : spacedWords "    pub".toList = ["", "", "", "", "pub"] := rfl
  refine readsLine_iff.mpr ⟨by simp [hi.2, ht.2], ?_⟩
  rw [said_around hl (hi.append (by decide)) hne, hcomma, (ht.append (by decide)).spacedWords_eq,
    hwords]
  simp [Line.ofWords]

theorem readsLine_variant {i : String} (hi : OneWord i) :
    ReadsLine Line.read ("    " ++ i ++ ",") none := by
  have hl : ("    " ++ i ++ ",").toList = "   ".toList ++ ' ' :: (i ++ ",").toList := by simp
  have hcomma := trimEnd_append_comma i
  have hne : trimEnd (i ++ ",").toList ≠ [] := by
    rw [hcomma]
    simp
  have hwords : spacedWords "   ".toList = ["", "", "", ""] := rfl
  refine readsLine_iff.mpr ⟨by simp [hi.2], ?_⟩
  rw [said_of_append hl hne, hcomma, (hi.append (by decide)).spacedWords_eq, hwords]
  simp [Line.ofWords]

theorem readsLine_rename {name mark : String} (hname : '\n' ∉ name.toList)
    (hmark : '\n' ∉ mark.toList ∧ trimEnd mark.toList ≠ []) :
    ReadsLine Line.read ("    #[serde(rename = \"" ++ name ++ mark) none := by
  have hl : ("    #[serde(rename = \"" ++ name ++ mark).toList =
      "    #[serde(rename".toList ++ ' ' :: ("= \"" ++ name ++ mark).toList := by simp
  have hne : trimEnd ("= \"" ++ name ++ mark).toList ≠ [] := by
    rw [String.toList_append, trimEnd_append hmark.2]
    simp
  refine readsLine_iff.mpr ⟨by simp [hname, hmark.1], ?_⟩
  rw [said_of_append hl hne]
  rfl

theorem readsLine_typeName {model : String} (hmodel : '\n' ∉ model.toList) :
    ReadsLine Line.read ("    pub const TYPE_NAME: &\x27static str = \"" ++ model ++ "\";")
      none := by
  have hl : ("    pub const TYPE_NAME: &\x27static str = \"" ++ model ++ "\";").toList =
      "    pub const TYPE_NAME: &\x27static str".toList ++
        ' ' :: ("= \"" ++ model ++ "\";").toList := by simp
  have hne : trimEnd ("= \"" ++ model ++ "\";").toList ≠ [] := by
    rw [String.toList_append, trimEnd_append (by decide)]
    simp
  refine readsLine_iff.mpr ⟨by simp [hmodel], ?_⟩
  rw [said_of_append hl hne]
  rfl

/-! ## Comments -/

theorem not_mem_docComment {i : String} (hi : '\n' ∉ i.toList) {doc : List String}
    (hdoc : ∀ l ∈ doc, '\n' ∉ l.toList) : ∀ l ∈ docComment i doc, '\n' ∉ l.toList := by
  intro l hl
  obtain ⟨d, hd, rfl⟩ := List.mem_map.mp hl
  simp [hi, hdoc d hd]

/-- A comment says nothing, whatever its text. -/
theorem said_comment {indent : String} (h : indent = "" ∨ indent = "    ") (l : String) :
    said (indent ++ "/// " ++ l) = none := by
  have hl : (indent ++ "/// " ++ l).toList = (indent ++ "///").toList ++ ' ' :: l.toList := by simp
  by_cases hempty : trimEnd l.toList = []
  · have htrim : trimEnd (' ' :: l.toList) = [] := by
      rw [trimEnd_cons, if_pos hempty]
      rfl
    rw [said, hl, trimEnd_append_of_eq_nil htrim]
    rcases h with rfl | rfl
    · rfl
    · rfl
  · rw [said_of_append hl hempty]
    rcases h with rfl | rfl
    · rfl
    · rfl

theorem readsLine_scalarComment {i : String} (hi : OneWord i) : ReadsLine Line.read
    ("/// Custom scalar \x60" ++ i ++ "\x60, carried as its string representation.") none := by
  have htext : "/// Custom scalar \x60" ++ i ++ "\x60, carried as its string representation." =
      "" ++ "/// " ++
        ("Custom scalar \x60" ++ i ++ "\x60, carried as its string representation.") := by
    simp [← String.toList_inj]
  refine readsLine_iff.mpr ⟨by simp [hi.2], ?_⟩
  rw [htext]
  exact said_comment (.inl rfl) _

theorem readsLines_docComment {indent : String} (h : indent = "" ∨ indent = "    ")
    {doc : List String} (hdoc : ∀ l ∈ doc, '\n' ∉ l.toList) :
    ReadsLines Line.read (docComment indent doc) [] := by
  have hindent : '\n' ∉ indent.toList := by
    rcases h with rfl | rfl
    · decide
    · decide
  refine .skipAll fun l hl => readsLine_iff.mpr ⟨not_mem_docComment hindent hdoc l hl, ?_⟩
  obtain ⟨d, _, rfl⟩ := List.mem_map.mp hl
  exact said_comment h d

/-! ## Declarations as they are printed -/

/-- The names and the type of a member are words, and its documentation is made of lines. -/
structure Member.Printable (m : Member) : Prop where
  ident : OneWord m.ident
  name : OneWord m.name
  type : OneWord m.type
  doc : ∀ l ∈ m.doc, '\n' ∉ l.toList

/-- The identifier and the value of a variant are words. -/
structure Variant.Printable (v : Variant) : Prop where
  ident : OneWord v.ident
  value : OneWord v.value

theorem Member.readsLines {m : Member} (h : m.Printable) :
    ReadsLines Line.read m.lines [.field m.ident m.type] := by
  have hattribute : ReadsLines Line.read m.serdeAttribute [] := by
    unfold serdeAttribute
    split
    · exact .skip (readsLine_rename h.name.2 (by decide)) .nil
    · exact .skip (readsLine_rename h.name.2 (by decide)) .nil
    · exact .skip (.of_ofList (by decide)) .nil
    · exact .nil
  have hfield := ReadsLines.nil.cons (readsLine_field h.ident h.type)
  exact ((readsLines_docComment (.inr rfl) h.doc).append hattribute).append hfield

theorem Variant.readsLines {v : Variant} (h : v.Printable) :
    ReadsLines Line.read v.lines [] := by
  have hvariant := ReadsLines.nil.skip (readsLine_variant h.ident)
  unfold lines
  split
  · exact hvariant
  · exact hvariant.skip (readsLine_rename h.value.2 (by decide))

namespace Declaration

/-- The names of a declaration are words, and its documentation is made of lines. -/
def Printable : Declaration → Prop
  | synonym i => OneWord i
  | enumeration i doc vs => OneWord i ∧ (∀ l ∈ doc, '\n' ∉ l.toList) ∧ ∀ v ∈ vs, v.Printable
  | struct i model doc ms =>
    OneWord i ∧ OneWord model ∧ (∀ l ∈ doc, '\n' ∉ l.toList) ∧ ∀ m ∈ ms, m.Printable

/-- What is read of a declaration. -/
def item : Declaration → Item
  | synonym i => .synonym i
  | enumeration i _ _ => .enumeration i
  | struct i _ _ ms => .struct i (ms.map fun m => (m.ident, m.type))

/-- What the lines of a declaration say. -/
def saidLines : Declaration → List Line
  | synonym i => [.synonym i]
  | enumeration i _ _ => [.enumeration i, .close]
  | struct i _ _ ms => .struct i :: ms.map (fun m => .field m.ident m.type) ++ [.close, .close]

theorem readsLines {d : Declaration} (h : d.Printable) :
    ReadsLines Line.read d.lines d.saidLines := by
  have hclose : ReadsLine Line.read "\x7d" (some .close) := .of_ofList (by decide)
  have hempty : ReadsLine Line.read "" none := .of_ofList (by decide)
  cases d with
  | synonym i => exact (ReadsLines.nil.cons (readsLine_synonym h)).skip (readsLine_scalarComment h)
  | enumeration i doc vs =>
    obtain ⟨hi, hdoc, hvs⟩ := h
    have hvariants : ReadsLines Line.read (vs.flatMap (·.lines)) [] :=
      .skipFlatMap fun v hv => v.readsLines (hvs v hv)
    have hopen := ((ReadsLines.nil.cons (readsLine_enumeration hi)).skip
      (l := "#[derive(Debug, Clone, Copy, PartialEq, Eq, Hash, Serialize, Deserialize)]")
      (.of_ofList (by decide)))
    have hlines := (((readsLines_docComment (.inl rfl) hdoc).append hopen).append hvariants).append
      ((ReadsLines.nil.skip hempty).cons hclose)
    simpa [lines, saidLines] using hlines
  | struct i model doc ms =>
    obtain ⟨hi, hmodel, hdoc, hms⟩ := h
    have hmembers : ReadsLines Line.read (ms.flatMap (·.lines))
        (ms.flatMap fun m => [.field m.ident m.type]) :=
      .flatMap fun m hm => m.readsLines (hms m hm)
    have hopen := ((ReadsLines.nil.cons (readsLine_struct hi)).skip
      (l := "#[derive(Debug, Clone, PartialEq, Serialize, Deserialize)]")
      (.of_ofList (by decide)))
    have hname := (((ReadsLines.nil.skip hempty).cons hclose).skip
      (readsLine_typeName hmodel.2)).skip
        (l := "    /// Name of the GraphQL type this struct mirrors.") (.of_ofList (by decide))
    have hlines := (((readsLines_docComment (.inl rfl) hdoc).append hopen).append hmembers).append
      (((hname.skip (readsLine_impl hi)).skip hempty).cons hclose)
    rw [← List.map_eq_flatMap] at hlines
    simpa [lines, saidLines] using hlines

theorem fieldsOf_members (ms : List Member) (rest : List Line) :
    fieldsOf (ms.map (fun m => Line.field m.ident m.type) ++ .close :: rest) =
      ms.map fun m => (m.ident, m.type) := by
  induction ms with
  | nil => rfl
  | cons m ms ih => simp [fieldsOf, ih]

theorem itemsOf_members (ms : List Member) (rest : List Line) :
    itemsOf (ms.map (fun m => Line.field m.ident m.type) ++ rest) = itemsOf rest := by
  induction ms with
  | nil => rfl
  | cons m ms ih => simpa [itemsOf] using ih

/-- **A printed declaration is read back**, and what follows it is read as before. -/
theorem itemsOf_saidLines (d : Declaration) (rest : List Line) :
    itemsOf (d.saidLines ++ rest) = d.item :: itemsOf rest := by
  cases d with
  | synonym i => rfl
  | enumeration i doc vs => rfl
  | struct i model doc ms =>
    simp [saidLines, itemsOf, fieldsOf_members, itemsOf_members, item]

theorem itemsOf_flatMap_saidLines (ds : List Declaration) :
    itemsOf (ds.flatMap (·.saidLines)) = ds.map (·.item) := by
  induction ds with
  | nil => rfl
  | cons d ds ih => rw [List.flatMap_cons, itemsOf_saidLines, ih, List.map_cons]

end Declaration

/-! ## Modules as they are printed -/

/-- What is read of the visible lines of a module is what is read of the lines that it is laid out
from. -/
theorem filterMap_visibleLines_layout {α : Type} {read : List Char → Option α} {ls : List String}
    {cs : List α} (h : ReadsLines read ls cs) (hread : read [] = none) :
    (visibleLines (layout ls).toList).filterMap read = cs := by
  rw [layout, tidy, String.toList_ofList, String.toList_ofList]
  exact h.filterMap_visibleLines hread

/-- The declarations of a module are read back in their order. -/
theorem SchemaModule.outline_lines {m : SchemaModule} (h : ∀ d ∈ m.declarations, d.Printable) :
    outline (layout m.lines) = m.declarations.map (·.item) := by
  obtain ⟨haliases, htypes⟩ := List.forall_mem_append.mp h
  have hheader : ReadsLines Line.read header [] := by
    unfold header
    repeat refine ReadsLines.skip (.of_ofList (by decide)) ?_
    exact .nil
  have hgap : ReadsLines Line.read [""] [] := .skip (.of_ofList (by decide)) .nil
  have hlines : ReadsLines Line.read m.lines (m.declarations.flatMap (·.saidLines)) := by
    have hflat {ds : List Declaration} (hds : ∀ d ∈ ds, d.Printable) :
        ReadsLines Line.read (ds.flatMap (·.lines)) (ds.flatMap (·.saidLines)) :=
      .flatMap fun d hd => Declaration.readsLines (hds d hd)
    have hall := ((hheader.append (hflat haliases)).append hgap).append (hflat htypes)
    rw [declarations, List.flatMap_append]
    simpa [lines] using hall
  rw [← Declaration.itemsOf_flatMap_saidLines, ← filterMap_visibleLines_layout hlines rfl]
  rfl

end SchemaSdk.Sdk
