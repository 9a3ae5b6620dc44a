import SchemaSdk.Proofs.Lookup
import SchemaSdk.Proofs.Report.Styles

/-!
# Reports read back

Every format of a report tells the names of the models in their order, and the JSON text and the
numbered lines tell the same about each model. The readers here know nothing of the schema: what
they find in a text is all that it says.
-/
namespace SchemaSdk.Report

open SchemaSdk.Text SchemaSdk.Schema

/-- What a report tells about a model. -/
structure Entry where
  name : String
  fields : Nat
  dependencies : List String
  deriving DecidableEq

/-- What is to be told about a model. -/
def Entry.ofModel (c : Collection) (m : Model) : Entry :=
  ⟨m.name, m.fields.length, modelDependencies c m⟩

/-- The lines of a report, which line feeds separate. -/
def reportLines (text : String) : List (List Char) := text.toList.splitOn '\n'

theorem reportLines_intercalate {texts : List String} (hne : texts ≠ [])
    (h : ∀ t ∈ texts, '\n' ∉ t.toList) :
    reportLines ("\n".intercalate texts) = texts.map String.toList := by
  rw [reportLines, String.toList_intercalate]
  refine List.splitOn_intercalate '\n' ?_ (by simpa using hne)
  intro l hl
  obtain ⟨t, ht, rfl⟩ := List.mem_map.mp hl
  exact h t ht

/-! ## Bare names -/

/-- The names in the compact report. -/
def listedNames (text : String) : List String := (reportLines text).map String.ofList

/-! ## JSON -/

/-- The string that a value is. -/
def stringOf? : Json → Option String
  | .string s => some s
  | _ => none

/-- The natural number, of any size, that a value is. -/
def numberOf? : Json → Option Nat
  | .number digits => numberIn? 10 digits
  | _ => none

/-- The list, with items of a kind, that a value is. -/
def listOf? {α : Type} (item? : Json → Option α) : Json → Option (List α)
  | .array items => items.mapM item?
  | _ => none

/-- What an object tells about a model. -/
def Entry.ofJson? : Json → Option Entry
  | .object members => do
    let name ← (members.lookup "name").bind stringOf?
    let fields ← (members.lookup "fields").bind numberOf?
    let dependencies ← (members.lookup "dependencies").bind (listOf? stringOf?)
    return ⟨name, fields, dependencies⟩
  | _ => none

/-- What the JSON report tells about the models. -/
def jsonEntries? (text : String) : Option (List Entry) :=
  (Json.ofText? text.toList).bind (listOf? Entry.ofJson?)

theorem ofJson?_modelJson (c : Collection) (m : Model) :
    Entry.ofJson? (modelJson c m) = some (Entry.ofModel c m) := by
  have hnumber : numberOf? (.ofNat m.fields.length) = some m.fields.length :=
    Json.numberIn?_toDigits _
  have hlist : listOf? stringOf? (.array ((modelDependencies c m).map .string)) =
      some (modelDependencies c m) := by
    have hstrings : ∀ d ∈ modelDependencies c m, stringOf? (.string d) = some (id d) :=
      fun _ _ => rfl
    rw [listOf?, mapM_map_eq_some hstrings, List.map_id]
  simp [Entry.ofJson?, modelJson, List.lookup_cons, hnumber, hlist, stringOf?, Entry.ofModel]

/-- The JSON report is read back. -/
theorem jsonEntries?_text (c : Collection) (ordered : List Model) :
    jsonEntries? (Json.array (ordered.map (modelJson c))).text =
      some (ordered.map (Entry.ofModel c)) := by
  rw [jsonEntries?, (plain_modelsJson c ordered).ofText?_text, Option.bind_some, listOf?]
  exact mapM_map_eq_some fun m _ => ofJson?_modelJson c m

/-! ## Numbered lines -/

/-- What a numbered line tells: its number, how wide the column is that the number ends, and what
follows about a model. -/
structure Row where
  width : Nat
  position : Nat
  entry : Entry
  deriving DecidableEq

/-- The names behind the arrow at the end of a line, if there is one. -/
def dependencies? : List String → Option (List String)
  | [] => some []
  | "<-" :: names => some (names.map fun name => String.ofList (name.toList.takeWhile (· != ',')))
  | _ => none

/-- The row that a line is: a number that ends its column, a point, a name, the number of fields in
parentheses, and names behind an arrow. -/
def Row.ofLine? (line : List Char) : Option Row :=
  let column := line.takeWhile (· != '.')
  match spacedWords (line.drop (column.length + 2)) with
  | name :: count :: _ :: rest => do
    let position ← numberIn? 10 (column.dropWhile (· == ' '))
    let fields ← numberIn? 10 (count.toList.drop 1)
    let dependencies ← dependencies? rest
    return ⟨column.length, position, name, fields, dependencies⟩
  | _ => none

/-- The rows of the numbered report. -/
def prettyRows? (text : String) : Option (List Row) := (reportLines text).mapM Row.ofLine?

/-- The rows that are to be read: the models in order, numbered from one in a column as wide as the
last number. -/
def rowsOf (c : Collection) (ordered : List Model) : List Row :=
  (ordered.zipIdx 1).map fun e => ⟨(toString ordered.length).length, e.2, Entry.ofModel c e.1⟩

theorem map_entry_rowsOf (c : Collection) (ordered : List Model) :
    (rowsOf c ordered).map (·.entry) = ordered.map (Entry.ofModel c) := by
  have hfirst := congrArg (List.map (Entry.ofModel c)) (List.zipIdx_map_fst 1 ordered)
  rw [List.map_map] at hfirst
  rw [rowsOf, List.map_map]
  exact hfirst

theorem length_toDigits_mono {m n : Nat} (h : m ≤ n) :
    (Nat.toDigits 10 m).length ≤ (Nat.toDigits 10 n).length := by
  have hpos : 0 < (Nat.toDigits 10 n).length := List.length_pos_iff.mpr Nat.toDigits_ne_nil
  rw [Nat.length_toDigits_le_iff (by decide) hpos]
  exact Nat.lt_of_le_of_lt h ((Nat.length_toDigits_le_iff (by decide) hpos).mp le_rfl)

theorem toList_alignRight (width n : Nat) :
    (alignRight width n).toList =
      List.replicate (width - (Nat.toDigits 10 n).length) ' ' ++ Nat.toDigits 10 n := by
  rw [alignRight, String.toList_append, Nat.toString_eq_ofList_toDigits, String.length_ofList,
    String.toList_ofList, String.toList_ofList]

theorem length_alignRight {width n : Nat} (h : (Nat.toDigits 10 n).length ≤ width) :
    (alignRight width n).toList.length = width := by
  rw [toList_alignRight, List.length_append, List.length_replicate]
  omega

theorem numberIn?_alignRight (width n : Nat) :
    numberIn? 10 ((alignRight width n).toList.dropWhile (· == ' ')) = some n := by
  have hblank : ∀ d ∈ List.replicate (width - (Nat.toDigits 10 n).length) ' ', (d == ' ') = true :=
    fun d hd => by simp [List.eq_of_mem_replicate hd]
  have hdigits : (Nat.toDigits 10 n).dropWhile (· == ' ') = Nat.toDigits 10 n := by
    have hdigit := Json.isDigit_toDigits n
    cases hds : Nat.toDigits 10 n with
    | nil => rfl
    | cons d ds =>
      refine List.dropWhile_cons_of_neg fun heq => ?_
      rw [eq_of_beq heq] at hds
      exact absurd (hdigit ' ' (by simp [hds])) (by decide)
  rw [toList_alignRight, List.dropWhile_append_of_pos hblank, hdigits, Json.numberIn?_toDigits]

theorem takeWhile_alignRight (width n : Nat) (r : List Char) :
    ((alignRight width n).toList ++ '.' :: r).takeWhile (· != '.') = (alignRight width n).toList := by
  have hcolumn : ∀ x ∈ (alignRight width n).toList, (x != '.') = true := by
    intro x hx
    rw [bne_iff_ne]
    rintro rfl
    rw [toList_alignRight, List.mem_append] at hx
    rcases hx with hx | hx
    · exact absurd (List.eq_of_mem_replicate hx) (by decide)
    · exact absurd (Json.isDigit_toDigits n _ hx) (by decide)
  rw [List.takeWhile_append_of_pos hcolumn, List.takeWhile_cons_of_neg (by decide), List.append_nil]

/-- The word for fields behind their number. -/
def fieldNoun (n : Nat) : String := if n = 1 then "field" else "fields"

theorem fieldCount_eq (n : Nat) : fieldCount n = toString n ++ " " ++ fieldNoun n := by
  by_cases h : n = 1
  · subst h
    rfl
  · rw [fieldCount, fieldNoun, if_neg h, if_neg h, String.append_assoc]
    rfl

/-- Names are read back from a list of them with commas. -/
theorem map_spacedWords_intercalate {d : String} {ds : List String}
    (h : ∀ e ∈ d :: ds, ' ' ∉ e.toList ∧ ',' ∉ e.toList) :
    ((spacedWords (", ".intercalate (d :: ds)).toList).map fun name =>
      String.ofList (name.toList.takeWhile (· != ','))) = d :: ds := by
  have hname {e : String} (he : ',' ∉ e.toList) : ∀ x ∈ e.toList, (x != ',') = true := by
    intro x hx
    rw [bne_iff_ne]
    rintro rfl
    exact he hx
  induction ds generalizing d with
  | nil =>
    obtain ⟨hspace, hcomma⟩ := h d List.mem_cons_self
    have htake := List.takeWhile_eq_self_iff.mpr (hname hcomma)
    rw [String.intercalate_singleton, spacedWords_of_not_mem hspace]
    simp [htake]
  | cons e es ih =>
    obtain ⟨⟨hspace, hcomma⟩, hes⟩ := List.forall_mem_cons.mp h
    have htext : (", ".intercalate (d :: e :: es)).toList =
        (d.toList ++ [',']) ++ ' ' :: (", ".intercalate (e :: es)).toList := by
      simp [String.intercalate_cons_cons]
    have htake : (d.toList ++ [',']).takeWhile (· != ',') = d.toList := by
      rw [List.takeWhile_append_of_pos (hname hcomma)]
      simp
    rw [htext, spacedWords_cons (by simp [hspace]), List.map_cons, ih hes, String.toList_ofList,
      htake, String.ofList_toList]

section Collection

variable {c : Collection} (hc : c.WellFormed)

include hc

theorem exists_spacedWords_dependencyText (m : Model) {w : List Char} (hw : ' ' ∉ w) :
    ∃ words, spacedWords (w ++ (dependencyText c false m).toList) = String.ofList w :: words ∧
      dependencies? words = some (modelDependencies c m) := by
  have hnames : ∀ d ∈ modelDependencies c m, ' ' ∉ d.toList ∧ ',' ∉ d.toList := fun d hd =>
    have hname := isName_of_mem_modelDependencies hc hd
    ⟨hname.notMem (by decide), hname.notMem (by decide)⟩
  cases hds : modelDependencies c m with
  | nil =>
    refine ⟨[], ?_, rfl⟩
    simp [dependencyText, hds, spacedWords_of_not_mem hw]
  | cons d ds =>
    rw [hds] at hnames
    have htext : (dependencyText c false m).toList =
        ' ' :: ("<-".toList ++ ' ' :: (", ".intercalate (d :: ds)).toList) := by
      simp [dependencyText, hds, styled]
    refine ⟨"<-" :: spacedWords (", ".intercalate (d :: ds)).toList, ?_, ?_⟩
    · rw [htext, spacedWords_cons hw, spacedWords_cons (by decide), String.ofList_toList]
    · rw [dependencies?, map_spacedWords_intercalate hnames]

/-- A line is read back. -/
theorem ofLine?_modelLine {m : Model} (hm : m ∈ c.models) {width position : Nat}
    (h : (Nat.toDigits 10 position).length ≤ width) :
    Row.ofLine? (modelLine c false width position m).toList =
      some ⟨width, position, Entry.ofModel c m⟩ := by
  have hname : ' ' ∉ m.name.toList := (hc.models_spelled m hm).1.notMem (by decide)
  have hcount : ' ' ∉ '(' :: Nat.toDigits 10 m.fields.length := by
    rw [List.mem_cons, not_or]
    exact ⟨by decide, fun hmem => absurd (Json.isDigit_toDigits _ _ hmem) (by decide)⟩
  have hnoun : ' ' ∉ (fieldNoun m.fields.length).toList ++ [')'] := by
    rw [fieldNoun]
    split <;> decide
  obtain ⟨words, hwords, hdependencies⟩ := exists_spacedWords_dependencyText hc m hnoun
  have hline : (modelLine c false width position m).toList =
      (alignRight width position).toList ++ '.' :: ' ' :: (m.name.toList ++ ' ' ::
        ('(' :: Nat.toDigits 10 m.fields.length ++ ' ' ::
          ((fieldNoun m.fields.length).toList ++ [')'] ++ (dependencyText c false m).toList))) := by
    simp [modelLine_eq, styled, fieldCount_eq]
  simp only [Row.ofLine?]
  rw [hline, takeWhile_alignRight]
  have hdrop (a r : List Char) : (a ++ '.' :: ' ' :: r).drop (a.length + 2) = r := by simp
  rw [hdrop, spacedWords_cons hname, spacedWords_cons hcount, hwords]
  simp [numberIn?_alignRight, hdependencies, Json.numberIn?_toDigits, length_alignRight h,
    Entry.ofModel]

example : Row.ofLine? " 3. C (2 fields) <- A, B".toList = some ⟨2, 3, "C", 2, ["A", "B"]⟩ := by
  decide

/-- The compact report is read back. -/
theorem listedNames_models {ordered : List Model} (hmem : ∀ m ∈ ordered, m ∈ c.models)
    (hne : ordered ≠ []) (styles : Bool) :
    listedNames (models c ordered .compact styles) = ordered.map (·.name) := by
  have hlines : reportLines ("\n".intercalate (ordered.map (·.name))) =
      (ordered.map (·.name)).map String.toList := by
    refine reportLines_intercalate (by simpa using hne) fun t ht => ?_
    obtain ⟨m, hm, rfl⟩ := List.mem_map.mp ht
    exact (uses_modelName hc (hmem m hm)).notMem (by decide)
  rw [listedNames, models, hlines, List.map_map, List.map_map]
  simp

theorem uses_modelLine {m : Model} (hm : m ∈ c.models) (width position : Nat) :
    Uses isReportPart (modelLine c false width position m) := by
  have hblank : Uses isReportPart " " := by decide
  have hcolumn : Uses isReportPart (alignRight width position ++ ". ") :=
    (uses_alignRight width position).append (by decide)
  have hdependencies : Uses isReportPart (dependencyText c false m) := by
    unfold dependencyText
    split
    · decide
    · exact .append (by decide) (uses_modelDependencies hc m)
  rw [modelLine_eq, styled_false, styled_false]
  exact (((hcolumn.append (uses_modelName hc hm)).append hblank).append
    (uses_fieldCount m.fields.length)).append hdependencies

/-- The numbered report is read back. -/
theorem prettyRows?_models {ordered : List Model} (hmem : ∀ m ∈ ordered, m ∈ c.models)
    (hne : ordered ≠ []) :
    prettyRows? (models c ordered .pretty false) = some (rowsOf c ordered) := by
  have hlines : reportLines ("\n".intercalate (modelLines c false ordered)) =
      (modelLines c false ordered).map String.toList := by
    refine reportLines_intercalate (by simpa [modelLines] using hne) fun t ht => ?_
    obtain ⟨e, he, rfl⟩ := List.mem_map.mp ht
    exact (uses_modelLine hc (hmem _ (List.fst_mem_of_mem_zipIdx he)) _ _).notMem (by decide)
  have hread : ∀ e ∈ ordered.zipIdx,
      Row.ofLine? (modelLine c false (toString ordered.length).length (e.2 + 1) e.1).toList =
        some ⟨(toString ordered.length).length, e.2 + 1, Entry.ofModel c e.1⟩ := by
    intro e he
    have hposition : e.2 + 1 ≤ ordered.length := by
      have hlt := List.snd_lt_add_of_mem_zipIdx he
      omega
    refine ofLine?_modelLine hc (hmem _ (List.fst_mem_of_mem_zipIdx he)) ?_
    rw [Nat.toString_eq_ofList_toDigits, String.length_ofList]
    exact length_toDigits_mono hposition
  have hrows : rowsOf c ordered = ordered.zipIdx.map fun e =>
      ⟨(toString ordered.length).length, e.2 + 1, Entry.ofModel c e.1⟩ := by
    simp [rowsOf, List.zipIdx_succ, Function.comp_def]
  rw [models_pretty, if_neg (by simpa using hne), prettyRows?, hlines, modelLines, List.map_map,
    hrows]
  exact mapM_map_eq_some hread

end Collection

/-- Before an entry there is one for each model that it refers to. -/
theorem exists_earlier {c : Collection} (hnames : (c.models.map (·.name)).Nodup)
    {ordered : List Model} (horder : c.topologicalOrder = .ok ordered) {i : Nat} {e : Entry}
    (he : (ordered.map (Entry.ofModel c))[i]? = some e) {d : String} (hd : d ∈ e.dependencies) :
    ∃ j < i, ∃ e', (ordered.map (Entry.ofModel c))[j]? = some e' ∧ e'.name = d := by
  have hperm := Collection.perm_of_topologicalOrder hnames horder
  rw [List.getElem?_map, Option.map_eq_some_iff] at he
  obtain ⟨m, hm, rfl⟩ := he
  obtain ⟨hmem, hfound⟩ := List.mem_filter.mp hd
  rw [Bool.and_eq_true] at hfound
  obtain ⟨a, ha⟩ := Option.isSome_iff_exists.mp hfound.2
  obtain ⟨hamem, rfl⟩ := Collection.mem_of_model? ha
  have hdepends : c.DependsOn m a :=
    ⟨hperm.mem_iff.mp (List.mem_of_getElem? hm), hamem, Model.mem_dependencies.mp hmem⟩
  obtain ⟨j, hj⟩ := List.mem_iff_getElem?.mp (hperm.mem_iff.mpr hamem)
  refine ⟨j, Collection.lt_of_dependsOn hnames horder hm hj hdepends, Entry.ofModel c a, ?_, rfl⟩
  rw [List.getElem?_map, hj, Option.map_some]

/-- **Every format tells the same.** The compact report lists the names of the models in their
order. The JSON text tells the number of fields of each and the models it refers to, and so do the
numbered lines, whose numbers count from one and end one column. A model that an entry refers to has
an entry before it. -/
theorem readBack_models {sdl : String} {c : Collection} (h : Collection.parse sdl = .ok c)
    {ordered : List Model} (horder : c.topologicalOrder = .ok ordered) (hne : c.models ≠ [])
    (styles : Bool) :
    listedNames (models c ordered .compact styles) = ordered.map (·.name) ∧
      jsonEntries? (models c ordered .json styles) = some (ordered.map (Entry.ofModel c)) ∧
      (∃ rows, prettyRows? (withoutColors (models c ordered .pretty styles)) = some rows ∧
        rows.map (·.entry) = ordered.map (Entry.ofModel c) ∧
        rows.map (·.position) = List.range' 1 ordered.length ∧
        ∀ row ∈ rows, row.width = (toString ordered.length).length) ∧
      ∀ (i : Nat) (e : Entry), (ordered.map (Entry.ofModel c))[i]? = some e →
        ∀ d ∈ e.dependencies, ∃ j < i, ∃ e', (ordered.map (Entry.ofModel c))[j]? = some e' ∧
          e'.name = d := by
  have hc := Collection.wellFormed_of_parse h
  have hperm := Collection.perm_of_topologicalOrder hc.nodup_modelNames horder
  have hmem : ∀ m ∈ ordered, m ∈ c.models := fun m hm => hperm.mem_iff.mp hm
  have hordered : ordered ≠ [] := by
    rintro rfl
    exact hne hperm.nil_eq.symm
  refine ⟨?_, jsonEntries?_text c ordered, ⟨rowsOf c ordered, ?_, ?_, ?_, ?_⟩, ?_⟩
  · exact listedNames_models hc hmem hordered styles
  · rw [(uncolors_models hc hmem .pretty styles).withoutColors_eq,
      prettyRows?_models hc hmem hordered]
  · exact map_entry_rowsOf c ordered
  · simp [rowsOf, Function.comp_def]
  · intro row hrow
    obtain ⟨_, _, rfl⟩ := List.mem_map.mp hrow
    rfl
  · intro i e he d hd
    exact exists_earlier hc.nodup_modelNames horder he hd

/-- A model that refers to one which is defined behind it. -/
theorem readBack_models_reference :
    ∃ c ordered, Collection.parse "type B { a: A! y: Int } type A { x: Int }" = .ok c ∧
      c.topologicalOrder = .ok ordered ∧ c.models ≠ [] ∧
      listedNames (models c ordered .compact true) = ["A", "B"] ∧
      jsonEntries? (models c ordered .json true) = some [⟨"A", 1, []⟩, ⟨"B", 2, ["A"]⟩] := by
  have hread : (Collection.parse "type B { a: A! y: Int } type A { x: Int }").toOption.any
      (fun c => !c.models.isEmpty && c.topologicalOrder.toOption.any fun ordered =>
        ordered.map (Entry.ofModel c) == [⟨"A", 1, []⟩, ⟨"B", 2, ["A"]⟩]) = true := by
    decide +kernel
  obtain ⟨c, h, hc⟩ := exists_eq_ok_of_any hread
  rw [Bool.and_eq_true, Bool.not_eq_true', List.isEmpty_eq_false_iff] at hc
  obtain ⟨ordered, horder, hentries⟩ := exists_eq_ok_of_any hc.2
  rw [beq_iff_eq] at hentries
  obtain ⟨hnames, hjson, _⟩ := readBack_models h horder hc.1 true
  have htold : ordered.map (·.name) = (ordered.map (Entry.ofModel c)).map (·.name) := by
    rw [List.map_map]
    rfl
  exact ⟨c, ordered, h, horder, hc.1, by rw [hnames, htold, hentries]; rfl, by
    rw [hjson, hentries]⟩

end SchemaSdk.Report
