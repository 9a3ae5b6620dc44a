import SchemaSdk.Proofs.Json.ReadBack
import SchemaSdk.Proofs.Order.Topological
import SchemaSdk.Report.Models

/-!
# Reports without their colours

A coloured report is the plain one with control sequences put in: without them it is the plain one
again, in every format. Nothing in a report could be mistaken for a control sequence, for the names
of a schema are plain and a JSON text escapes all that is not.
-/
namespace SchemaSdk.Json

/-! ## The characters of JSON texts -/

section Control

variable {x : Char} (hx : x.toNat < 0x20)

include hx

theorem ne_of_visible {d : Char} (hd : ¬ d.toNat < 0x20) : x ≠ d := by
  rintro rfl
  exact hd hx

theorem notMem_escapeChar (c : Char) : x ∉ escapeChar c := by
  have hdigits : ∀ n < 0x20, ((if n < 0x10 then ['0', '0', '0'] else ['0', '0']) ++
      Text.hexDigits n).all (0x20 ≤ ·.toNat) = true := by decide
  have hmark : x ≠ '\\' := ne_of_visible hx (by decide)
  rcases escapeChar_cases c with ⟨e, hescape, he⟩ | ⟨hcontrol, hescape⟩ | ⟨_, _, hc, hescape⟩
  · have hletter : x ≠ e := by
      rintro rfl
      unfold simpleEscape? at he
      split at he
      case h_9 => cases he
      all_goals exact absurd hx (by decide)
    simp [hescape, hmark, hletter]
  · rw [hescape, List.mem_cons, List.mem_cons, not_or, not_or]
    refine ⟨hmark, ne_of_visible hx (by decide), fun hmem => ?_⟩
    have hle := List.all_eq_true.mp (hdigits _ hcontrol) x hmem
    exact Nat.not_lt.mpr (of_decide_eq_true hle) hx
  · simp [hescape, ne_of_visible hx hc]

theorem notMem_stringChars (s : String) : x ∉ stringChars s := by
  have hquote : x ≠ '"' := ne_of_visible hx (by decide)
  simp only [stringChars, List.mem_cons, List.mem_append, List.mem_flatMap, List.not_mem_nil,
    or_false, not_or, not_exists, not_and]
  exact ⟨⟨hquote, fun c _ => notMem_escapeChar hx c⟩, hquote⟩

theorem notMem_itemChars {vs : List Json} (h : ∀ v ∈ vs, x ∉ v.chars) : x ∉ itemChars vs := by
  have hcomma : x ≠ ',' := ne_of_visible hx (by decide)
  have hclose : x ≠ ']' := ne_of_visible hx (by decide)
  induction vs with
  | nil => simp [itemChars, hclose]
  | cons v vs ih =>
    obtain ⟨hv, hvs⟩ := List.forall_mem_cons.mp h
    simp [itemChars, hcomma, hv, ih hvs]

theorem notMem_memberChars {ms : List (String × Json)} (h : ∀ m ∈ ms, x ∉ m.2.chars) :
    x ∉ memberChars ms := by
  have hcomma : x ≠ ',' := ne_of_visible hx (by decide)
  have hcolon : x ≠ ':' := ne_of_visible hx (by decide)
  have hclose : x ≠ '\x7d' := ne_of_visible hx (by decide)
  induction ms with
  | nil => simp [memberChars, hclose]
  | cons m ms ih =>
    obtain ⟨hv, hms⟩ := List.forall_mem_cons.mp h
    simp [memberChars, hcomma, hcolon, hv, ih hms, notMem_stringChars hx]

/-- **The text of a value has no control characters**: a string escapes them. -/
theorem Plain.notMem_chars {v : Json} (h : v.Plain) : x ∉ v.chars := by
  have hmark {d : Char} (hd : ¬ d.toNat < 0x20) : x ≠ d := ne_of_visible hx hd
  induction h with
  | null => simp [chars, hmark]
  | bool b => cases b <;> simp [chars, hmark]
  | ofNat n =>
    intro hmem
    have hdigit := isDigit_toDigits n x hmem
    exact absurd hdigit (Text.forall_ascii (P := fun c => c.toNat < 0x20 → ¬ c.isDigit = true)
      (by decide) x (Nat.lt_trans hx (by decide)) hx)
  | string s => exact notMem_stringChars hx s
  | array items _ ih =>
    cases items with
    | nil => simp [chars, hmark]
    | cons v vs =>
      obtain ⟨hv, hvs⟩ := List.forall_mem_cons.mp ih
      simp [chars, hmark, hv, notMem_itemChars hx hvs]
  | object members _ ih =>
    cases members with
    | nil => simp [chars, hmark]
    | cons m ms =>
      obtain ⟨hv, hms⟩ := List.forall_mem_cons.mp ih
      simp [chars, hmark, hv, notMem_memberChars hx hms, notMem_stringChars hx]

end Control

end SchemaSdk.Json

namespace SchemaSdk.Report

open SchemaSdk.Text SchemaSdk.Schema

/-! ## Colour sequences -/

/-- The length of the colour sequence that a text starts with: an escape, a bracket, digits and an
`m`. It is zero if the text starts with none. -/
def colorLength : List Char → Nat
  | '\x1b' :: '[' :: r =>
    let digits := r.takeWhile Char.isDigit
    if digits ≠ [] ∧ (r.drop digits.length).head? = some 'm' then digits.length + 3 else 0
  | _ => 0

/-- A text without its colour sequences, when so many of its characters belong to one already. -/
def withoutColorsFrom : Nat → List Char → List Char
  | _, [] => []
  | skip + 1, _ :: r => withoutColorsFrom skip r
  | 0, c :: r =>
    match colorLength (c :: r) with
    | 0 => c :: withoutColorsFrom 0 r
    | skip + 1 => withoutColorsFrom skip r

/-- A text without its colour sequences. -/
def withoutColors (s : String) : String := String.ofList (withoutColorsFrom 0 s.toList)

theorem styled_false (s : Style) (text : String) : styled false s text = text := rfl

theorem colorLength_cons_of_ne {c : Char} (hc : c ≠ '\x1b') (r : List Char) :
    colorLength (c :: r) = 0 := by
  rw [colorLength]
  exact fun _ heq => hc (List.cons.inj heq).1

theorem withoutColorsFrom_append (s r : List Char) :
    withoutColorsFrom s.length (s ++ r) = withoutColorsFrom 0 r := by
  induction s with
  | nil => rfl
  | cons c s ih => rwa [List.cons_append, List.length_cons, withoutColorsFrom]

theorem colorLength_control {digits : List Char} (hne : digits ≠ [])
    (hdigits : ∀ d ∈ digits, d.isDigit = true) (r : List Char) :
    colorLength ('\x1b' :: '[' :: (digits ++ 'm' :: r)) = digits.length + 3 := by
  have htake : (digits ++ 'm' :: r).takeWhile Char.isDigit = digits := by
    rw [List.takeWhile_append_of_pos hdigits, List.takeWhile_cons_of_neg (by decide),
      List.append_nil]
  simp [colorLength, htake, hne]

/-! ## Texts with and without colours -/

/-- The first text is the second, in which there is no escape, with colour sequences put in. -/
structure Uncolors (t u : String) : Prop where
  strips : ∀ r, withoutColorsFrom 0 (t.toList ++ r) = u.toList ++ withoutColorsFrom 0 r
  plain : '\x1b' ∉ u.toList

namespace Uncolors

variable {t u t' u' : String}

theorem of_notMem (h : '\x1b' ∉ t.toList) : Uncolors t t := by
  refine ⟨fun r => ?_, h⟩
  generalize t.toList = s at h
  induction s with
  | nil => rfl
  | cons c s ih =>
    rw [List.mem_cons, not_or] at h
    rw [List.cons_append, withoutColorsFrom, colorLength_cons_of_ne (Ne.symm h.1), List.cons_append]
    exact congrArg (c :: ·) (ih h.2)

theorem append (h : Uncolors t u) (h' : Uncolors t' u') : Uncolors (t ++ t') (u ++ u') where
  strips r := by
    rw [String.toList_append, String.toList_append, List.append_assoc, h.strips, h'.strips,
      List.append_assoc]
  plain := by simp [h.plain, h'.plain]

theorem control {parameters : String} (hne : parameters ≠ "")
    (hdigits : Uses Char.isDigit parameters) : Uncolors (control parameters) "" := by
  refine ⟨fun r => ?_, by simp⟩
  have hchars : (Report.control parameters).toList ++ r =
      '\x1b' :: '[' :: (parameters.toList ++ 'm' :: r) := by simp [Report.control]
  have hskip := withoutColorsFrom_append ('[' :: (parameters.toList ++ ['m'])) r
  simp only [List.length_cons, List.length_append, List.length_nil, List.cons_append,
    List.append_assoc, List.nil_append] at hskip
  rw [hchars, withoutColorsFrom,
    colorLength_control (by simpa [String.toList_eq_nil_iff] using hne)
      (uses_iff.mp hdigits)]
  exact hskip

/-- A style of one parameter goes with its colour sequences. -/
theorem styled {s : Style} (hs : s ≠ .boldGreen) {text : String} (h : '\x1b' ∉ text.toList)
    (on : Bool) : Uncolors (styled on s text) (styled false s text) := by
  have hstyle : s.parameters ≠ "" ∧ Uses Char.isDigit s.parameters := by
    cases s with
    | boldGreen => exact absurd rfl hs
    | _ => decide
  cases on with
  | false => exact of_notMem h
  | true =>
    have hend : Uncolors (Report.control "0") "" := control (by decide) (by decide)
    have hstyled := ((control hstyle.1 hstyle.2).append (of_notMem h)).append hend
    rw [String.empty_append, String.append_empty] at hstyled
    exact hstyled

theorem intercalate {α : Type} {f g : α → String} {xs : List α} (hsep : '\x1b' ∉ t.toList)
    (h : ∀ x ∈ xs, Uncolors (f x) (g x)) :
    Uncolors (t.intercalate (xs.map f)) (t.intercalate (xs.map g)) := by
  induction xs with
  | nil => exact of_notMem (by simp)
  | cons x xs ih =>
    obtain ⟨hx, hxs⟩ := List.forall_mem_cons.mp h
    cases xs with
    | nil => simpa using hx
    | cons y xs =>
      rw [List.map_cons, List.map_cons, List.map_cons, List.map_cons,
        String.intercalate_cons_cons, String.intercalate_cons_cons]
      exact (hx.append (of_notMem hsep)).append (ih hxs)

theorem withoutColors_eq (h : Uncolors t u) : withoutColors t = u := by
  have hall := h.strips []
  rw [List.append_nil, withoutColorsFrom, List.append_nil] at hall
  rw [withoutColors, hall, String.ofList_toList]

end Uncolors

/-! ## Reports -/

/-- The characters of a line of a report: those of names, blanks and a few marks. -/
def isReportPart (c : Char) : Bool := isNamePart c || " .()<-,".toList.contains c

theorem isReportPart_of_isNamePart {c : Char} (h : isNamePart c = true) : isReportPart c = true := by
  simp [isReportPart, h]

theorem Uncolors.of_uses {t : String} (h : Uses isReportPart t) : Uncolors t t :=
  .of_notMem (h.notMem (by decide))

theorem uses_toString (n : Nat) : Uses isReportPart (toString n) := by
  refine uses_iff.mpr fun c hc => isReportPart_of_isNamePart ?_
  rw [Nat.toString_eq_ofList_toDigits, String.toList_ofList] at hc
  simp [isNamePart, Char.isAlphanum, Json.isDigit_toDigits n c hc]

theorem uses_alignRight (width n : Nat) : Uses isReportPart (alignRight width n) := by
  refine .append (uses_iff.mpr fun c hc => ?_) (uses_toString n)
  rw [String.toList_ofList] at hc
  rw [List.eq_of_mem_replicate hc]
  decide

theorem uses_fieldCount (n : Nat) : Uses isReportPart ("(" ++ fieldCount n ++ ")") := by
  refine .append (.append (by decide) ?_) (by decide)
  unfold fieldCount
  split
  · decide
  · exact (uses_toString n).append (by decide)

theorem plain_modelJson (c : Collection) (m : Model) : (modelJson c m).Plain := by
  refine .object _ fun e he => ?_
  simp only [List.mem_cons, List.not_mem_nil, or_false] at he
  rcases he with rfl | rfl | rfl
  · refine .array _ fun v hv => ?_
    obtain ⟨d, _, rfl⟩ := List.mem_map.mp hv
    exact .string d
  · exact .ofNat _
  · exact .string _

theorem plain_modelsJson (c : Collection) (ordered : List Model) :
    (Json.array (ordered.map (modelJson c))).Plain := by
  refine .array _ fun v hv => ?_
  obtain ⟨m, _, rfl⟩ := List.mem_map.mp hv
  exact plain_modelJson c m

/-- How a line ends: with the models that its model refers to. -/
def dependencyText (c : Collection) (on : Bool) (m : Model) : String :=
  if (modelDependencies c m).isEmpty then ""
  else " " ++ styled on .grey "<-" ++ " " ++
    styled on .cyan (", ".intercalate (modelDependencies c m))

theorem modelLine_eq (c : Collection) (on : Bool) (width position : Nat) (m : Model) :
    modelLine c on width position m = alignRight width position ++ ". " ++
      styled on .bold m.name ++ " " ++
      styled on .dimmed ("(" ++ fieldCount m.fields.length ++ ")") ++ dependencyText c on m := rfl

/-- The lines of the numbered report. -/
def modelLines (c : Collection) (on : Bool) (ordered : List Model) : List String :=
  ordered.zipIdx.map fun e =>
    modelLine c on (toString ordered.length).length (e.2 + 1) e.1

theorem models_pretty (c : Collection) (on : Bool) (ordered : List Model) :
    models c ordered .pretty on =
      if ordered.isEmpty then "No models" else "\n".intercalate (modelLines c on ordered) := rfl

section Collection

variable {c : Collection} (hc : c.WellFormed)

include hc

theorem isName_of_mem_modelDependencies {m : Model} {name : String}
    (h : name ∈ modelDependencies c m) : IsName name := by
  have hfound := (List.mem_filter.mp h).2
  rw [Bool.and_eq_true] at hfound
  obtain ⟨a, ha⟩ := Option.isSome_iff_exists.mp hfound.2
  obtain ⟨hmem, rfl⟩ := Collection.mem_of_model? ha
  exact (hc.models_spelled a hmem).1

theorem uses_modelName {m : Model} (hm : m ∈ c.models) : Uses isReportPart m.name :=
  (hc.models_spelled m hm).1.uses fun _ => isReportPart_of_isNamePart

theorem uses_modelDependencies (m : Model) :
    Uses isReportPart (", ".intercalate (modelDependencies c m)) :=
  .intercalate (by decide) fun _ hd =>
    (isName_of_mem_modelDependencies hc hd).uses fun _ => isReportPart_of_isNamePart

theorem uncolors_dependencyText (m : Model) (on : Bool) :
    Uncolors (dependencyText c on m) (dependencyText c false m) := by
  have hblank : Uncolors " " " " := .of_uses (by decide)
  have harrow : Uncolors (styled on .grey "<-") (styled false .grey "<-") :=
    .styled (by decide) (by decide) on
  have hnames := (uses_modelDependencies hc m).notMem (c := '\x1b') (by decide)
  unfold dependencyText
  split
  · exact .of_uses (by decide)
  · exact ((hblank.append harrow).append hblank).append (.styled (by decide) hnames on)

/-- A coloured line is the plain one with colour sequences put in. -/
theorem uncolors_modelLine {m : Model} (hm : m ∈ c.models) (on : Bool) (width position : Nat) :
    Uncolors (modelLine c on width position m) (modelLine c false width position m) := by
  have hposition := (uses_alignRight width position).append (show Uses isReportPart ". " by decide)
  have hname : Uncolors (styled on .bold m.name) (styled false .bold m.name) :=
    .styled (by decide) ((uses_modelName hc hm).notMem (by decide)) on
  have hblank : Uncolors " " " " := .of_uses (by decide)
  have hcount : Uncolors (styled on .dimmed ("(" ++ fieldCount m.fields.length ++ ")"))
      (styled false .dimmed ("(" ++ fieldCount m.fields.length ++ ")")) :=
    .styled (by decide) ((uses_fieldCount _).notMem (by decide)) on
  rw [modelLine_eq, modelLine_eq]
  exact ((((Uncolors.of_uses hposition).append hname).append hblank).append hcount).append
    (uncolors_dependencyText hc m on)

/-- A coloured report is the plain one with colour sequences put in. -/
theorem uncolors_models {ordered : List Model} (hmem : ∀ m ∈ ordered, m ∈ c.models)
    (format : Format) (on : Bool) :
    Uncolors (models c ordered format on) (models c ordered format false) := by
  cases format with
  | json =>
    have hescape := (plain_modelsJson c ordered).notMem_chars (x := '\x1b') (by decide)
    rw [← String.toList_ofList (l := Json.chars _)] at hescape
    exact .of_notMem hescape
  | compact =>
    refine Uncolors.intercalate (t := "\n") (f := fun m : Model => m.name) (g := fun m => m.name)
      (by decide) fun m hm => ?_
    exact .of_uses (uses_modelName hc (hmem m hm))
  | pretty =>
    rw [models_pretty, models_pretty]
    split
    · exact .of_uses (by decide)
    · refine Uncolors.intercalate (by decide) fun e he => ?_
      exact uncolors_modelLine hc (hmem e.1 (List.fst_mem_of_mem_zipIdx he)) on _ _

end Collection

/-- **Colours add nothing.** Without its colour sequences the coloured report on the models of a
schema is the plain one, in which there is no escape at all. -/
theorem withoutColors_models {sdl : String} {c : Collection} (h : Collection.parse sdl = .ok c)
    {ordered : List Model} (horder : c.topologicalOrder = .ok ordered) (format : Format) :
    withoutColors (models c ordered format true) = models c ordered format false ∧
      '\x1b' ∉ (models c ordered format false).toList := by
  have hc := Collection.wellFormed_of_parse h
  have hmem : ∀ m ∈ ordered, m ∈ c.models := fun m hm =>
    (Collection.perm_of_topologicalOrder hc.nodup_modelNames horder).mem_iff.mp hm
  have hcolored := uncolors_models hc hmem format true
  exact ⟨hcolored.withoutColors_eq, hcolored.plain⟩

/-- A model that refers to one which is defined behind it. -/
theorem withoutColors_models_reference :
    ∃ c ordered, Collection.parse "type B { a: A! y: Int } type A { x: Int }" = .ok c ∧
      c.topologicalOrder = .ok ordered ∧
      models c ordered .pretty true ≠ models c ordered .pretty false ∧
      withoutColors (models c ordered .pretty true) = "1. A (1 field)\n2. B (2 fields) <- A" := by
  have hread : (Collection.parse "type B { a: A! y: Int } type A { x: Int }").toOption.any
      (fun c => c.topologicalOrder.toOption.any fun ordered =>
        models c ordered .pretty true != models c ordered .pretty false &&
          models c ordered .pretty false == "1. A (1 field)\n2. B (2 fields) <- A") = true := by
    decide +kernel
  obtain ⟨c, h, hc⟩ := exists_eq_ok_of_any hread
  obtain ⟨ordered, horder, htexts⟩ := exists_eq_ok_of_any hc
  rw [Bool.and_eq_true, bne_iff_ne, beq_iff_eq] at htexts
  exact ⟨c, ordered, h, horder, htexts.1, by
    rw [(withoutColors_models h horder .pretty).1, htexts.2]⟩

end SchemaSdk.Report
