import SchemaSdk.Proofs.Toml.Strings
import SchemaSdk.Toml.Document

/-!
# Written sections read back

The text of sections reads as their statements in order: a header for each, and an entry for each
key below it.
-/
namespace SchemaSdk.Toml

/-- The value that stands behind a key. -/
def Content.toToml : Content → Toml
  | one s => .string s
  | many items => .array (items.map .string)

/-- What a section says. -/
def Section.statements (s : Section) : List Statement :=
  .table s.path :: s.entries.map fun (key, v) => .entry [key] v.toToml

/-! ## Starts of texts -/

/-- Whether a character starts a part of a key or a string. -/
def isOpening (c : Char) : Bool := isBare c || c == '"' || c == '\''

/-- The text starts with a part of a key or a string. -/
def Opens (s : List Char) : Prop := ∃ c t, s = c :: t ∧ isOpening c = true

theorem Opens.append {s : List Char} (h : Opens s) (r : List Char) : Opens (s ++ r) := by
  obtain ⟨c, t, rfl, hc⟩ := h
  exact ⟨c, t ++ r, rfl, hc⟩

theorem Opens.ne_cons {s : List Char} (h : Opens s) {c : Char} (hc : isOpening c = false)
    (r : List Char) : s ≠ c :: r := by
  obtain ⟨d, t, rfl, hd⟩ := h
  intro heq
  rw [(List.cons.inj heq).1, hc] at hd
  cases hd

theorem Opens.skipSpace_eq {s : List Char} (h : Opens s) : skipSpace s = s := by
  obtain ⟨c, t, rfl, hc⟩ := h
  refine List.dropWhile_cons_of_neg fun hspace => ?_
  simp only [isSpace, Bool.or_eq_true, beq_iff_eq] at hspace
  rcases hspace with rfl | rfl
  · exact absurd hc (by decide)
  · exact absurd hc (by decide)

theorem Opens.skipLines_eq {s : List Char} (h : Opens s) : skipLines s = s := by
  have hspace := h.skipSpace_eq
  obtain ⟨c, t, rfl, hc⟩ := h
  rw [skipLines.eq_2, if_neg]
  · intro hblank
    rw [Bool.or_eq_true, beq_iff_eq] at hblank
    rcases hblank with hblank | rfl
    · simp only [isSpace, Bool.or_eq_true, beq_iff_eq] at hblank
      rcases hblank with rfl | rfl
      · exact absurd hc (by decide)
      · exact absurd hc (by decide)
    · exact absurd hc (by decide)
  · rintro r rfl
    exact absurd hc (by decide)

theorem opens_write (s : List Char) (f : StringForm) : Opens (f.write s) := by
  cases f with
  | basic => exact ⟨'"', s ++ ['"'], rfl, rfl⟩
  | literal => exact ⟨'\'', s ++ ['\''], rfl, rfl⟩
  | longBasic => exact ⟨'"', _, rfl, rfl⟩
  | longLiteral => exact ⟨'\'', _, rfl, rfl⟩
  | escaped => exact ⟨'"', _, rfl, rfl⟩
  | longEscaped => exact ⟨'"', _, rfl, rfl⟩

theorem opens_writeKey (s : String) : Opens (writeKey s) := by
  unfold writeKey
  split_ifs with hbare
  · simp only [Bool.and_eq_true, List.all_eq_true] at hbare
    cases hs : s.toList with
    | nil =>
      rw [String.toList_eq_nil_iff.mp hs] at hbare
      exact absurd hbare.1 (by decide)
    | cons c t =>
      have hc := hbare.2 c (by rw [hs]; exact List.mem_cons_self)
      exact ⟨c, t, rfl, by simp [isOpening, hc]⟩
  · exact opens_write _ _

/-! ## Keys -/

theorem opens_writePath {parts : List String} (h : parts ≠ []) : Opens (writePath parts) := by
  fun_cases writePath parts with
  | case1 => exact absurd rfl h
  | case2 part => exact opens_writeKey part
  | case3 part parts => exact (opens_writeKey part).append _

/-- A key is read with the blanks behind it. -/
theorem readPath_writePath {parts : List String} (hne : parts ≠ []) {fuel : Nat}
    (hfuel : parts.length ≤ fuel) {r : List Char} (hr : EndsKey r)
    (hdot : ∀ t, skipSpace r ≠ '.' :: t) :
    readPath fuel (writePath parts ++ r) = some (parts, skipSpace r) := by
  fun_induction writePath parts generalizing fuel with
  | case1 => exact absurd rfl hne
  | case2 part =>
    obtain ⟨fuel, rfl⟩ := Nat.exists_eq_succ_of_ne_zero (Nat.ne_zero_of_lt hfuel)
    rw [readPath, ((opens_writeKey part).append r).skipSpace_eq, readKeyPart_writeKey part hr]
    dsimp only
    split
    case h_1 t heq => exact absurd heq (hdot t)
    case h_2 => rfl
  | case3 part parts hparts ih =>
    obtain ⟨fuel, rfl⟩ := Nat.exists_eq_succ_of_ne_zero (Nat.ne_zero_of_lt hfuel)
    have hdotted : EndsKey ('.' :: (writePath parts ++ r)) := by
      rintro c ⟨⟩
      rfl
    rw [List.append_assoc, List.cons_append, readPath,
      ((opens_writeKey part).append _).skipSpace_eq, readKeyPart_writeKey part hdotted]
    dsimp only
    change (readPath fuel (writePath parts ++ r)).map _ = _
    rw [ih (fun heq => hparts heq) (Nat.le_of_succ_le_succ hfuel)]
    rfl

/-! ## Values -/

/-- A text goes on with neither kind of quotes. -/
def EndsString (r : List Char) : Prop := GoesOn '"' r ∧ GoesOn '\'' r

theorem endsString_cons {c : Char} (h : isOpening c = false) (r : List Char) :
    EndsString (c :: r) := by
  constructor
  · rintro ⟨⟩
    cases h
  · rintro ⟨⟩
    cases h

theorem opens_writeString (s : String) : Opens (writeString s) := opens_write _ _

theorem readValue_writeString (depth : Nat) (s : String) {r : List Char} (hr : EndsString r) :
    readValue depth (writeString s ++ r) = some (.string s, r) := by
  have hread := readString_writeString s hr.1 hr.2
  have hquote : ∃ q t, writeString s ++ r = q :: t ∧ (q = '"' ∨ q = '\'') := by
    unfold writeString
    cases form s.toList with
    | basic => exact ⟨'"', _, rfl, .inl rfl⟩
    | literal => exact ⟨'\'', _, rfl, .inr rfl⟩
    | longBasic => exact ⟨'"', _, rfl, .inl rfl⟩
    | longLiteral => exact ⟨'\'', _, rfl, .inr rfl⟩
    | escaped => exact ⟨'"', _, rfl, .inl rfl⟩
    | longEscaped => exact ⟨'"', _, rfl, .inl rfl⟩
  obtain ⟨q, t, heq, rfl | rfl⟩ := hquote
  · rw [heq] at hread ⊢
    rw [readValue, hread, Option.map_some]
    dsimp only
    rw [String.ofList_toList]
  · rw [heq] at hread ⊢
    rw [readValue, hread, Option.map_some]
    dsimp only
    rw [String.ofList_toList]

theorem skipFill_eq {s : List Char} (hne : s ≠ []) (hcomment : ∀ t, skipLines s ≠ '#' :: t) :
    skipFill s.length s = some (skipLines s) := by
  obtain ⟨fuel, hfuel⟩ := Nat.exists_eq_succ_of_ne_zero (mt List.length_eq_zero_iff.mp hne)
  rw [hfuel, skipFill]
  split
  case h_1 t heq => exact absurd heq (hcomment t)
  case h_2 => rfl

theorem Opens.skipFill_eq {s : List Char} (h : Opens s) : skipFill s.length s = some s := by
  have hne : s ≠ [] := by
    obtain ⟨c, t, rfl, _⟩ := h
    exact List.cons_ne_nil c t
  rw [Toml.skipFill_eq hne, h.skipLines_eq]
  rw [h.skipLines_eq]
  exact fun t => h.ne_cons (by decide) t

section Arrays

variable {read : List Char → Option (Toml × List Char)} {fuel : Nat} {s t u r : List Char}
  {v : Toml}

theorem readArray_close (hfill : skipFill s.length s = some (']' :: r)) :
    readArray read (fuel + 1) s = some ([], r) := by
  rw [readArray, hfill]
  rfl

theorem readArray_last (hfill : skipFill s.length s = some t) (ht : Opens t)
    (hread : read t = some (v, u)) (hclose : skipFill u.length u = some (']' :: r)) :
    readArray read (fuel + 1) s = some ([v], r) := by
  rw [readArray, hfill]
  simp only [Option.bind_eq_bind, Option.bind_some]
  split
  case h_1 x => exact absurd rfl (ht.ne_cons rfl x)
  case h_2 =>
    rw [hread, Option.bind_some, hclose]
    rfl

theorem readArray_more (hfill : skipFill s.length s = some t) (ht : Opens t)
    (hread : read t = some (v, ',' :: u)) :
    readArray read (fuel + 1) s = (readArray read fuel u).map fun (vs, rest) => (v :: vs, rest) := by
  rw [readArray, hfill]
  simp only [Option.bind_eq_bind, Option.bind_some]
  split
  case h_1 x => exact absurd rfl (ht.ne_cons rfl x)
  case h_2 =>
    have hcomma : skipFill (',' :: u).length (',' :: u) = some (',' :: u) := rfl
    rw [hread, Option.bind_some, hcomma]
    simp only [Option.bind_some]
    cases readArray read fuel u <;> rfl

end Arrays

/-- The lines of an array with more than one string. -/
def itemLines (items : List String) : List Char :=
  items.flatMap fun s => [' ', ' ', ' ', ' '] ++ writeString s ++ [',', '\n']

theorem skipLines_indented (s : List Char) :
    skipLines ('\n' :: ' ' :: ' ' :: ' ' :: ' ' :: s) = skipLines s := by
  simp [skipLines, isSpace]

theorem readArray_itemLines (depth : Nat) (items : List String) {fuel : Nat}
    (hfuel : items.length < fuel) (r : List Char) :
    readArray (readValue depth) fuel ('\n' :: (itemLines items ++ ']' :: r)) =
      some (items.map .string, r) := by
  induction items generalizing fuel with
  | nil =>
    obtain ⟨fuel, rfl⟩ := Nat.exists_eq_add_of_lt hfuel
    exact readArray_close rfl
  | cons s items ih =>
    rw [List.length_cons] at hfuel
    obtain ⟨fuel, rfl⟩ := Nat.exists_eq_succ_of_ne_zero (Nat.ne_zero_of_lt hfuel)
    have hline : '\n' :: (itemLines (s :: items) ++ ']' :: r) = '\n' :: ' ' :: ' ' :: ' ' :: ' ' ::
        (writeString s ++ ',' :: '\n' :: (itemLines items ++ ']' :: r)) := by
      simp [itemLines]
    have hopens := (opens_writeString s).append (',' :: '\n' :: (itemLines items ++ ']' :: r))
    have hfill := skipFill_eq (List.cons_ne_nil '\n' (' ' :: ' ' :: ' ' :: ' ' ::
      (writeString s ++ ',' :: '\n' :: (itemLines items ++ ']' :: r))))
    rw [skipLines_indented, hopens.skipLines_eq] at hfill
    rw [hline, readArray_more (hfill fun t => hopens.ne_cons rfl t) hopens
      (readValue_writeString depth s (endsString_cons rfl _)), ih (by omega)]
    rfl

theorem length_le_length_itemLines (items : List String) :
    items.length ≤ (itemLines items).length := by
  induction items with
  | nil => exact Nat.le_refl 0
  | cons s items ih =>
    rw [itemLines, List.flatMap_cons, List.length_append, List.length_cons]
    rw [itemLines] at ih
    simp only [List.length_append, List.length_cons]
    omega

theorem readValue_writeStrings (depth : Nat) (items : List String) (r : List Char) :
    readValue (depth + 1) (writeStrings items ++ r) = some (.array (items.map .string), r) := by
  match items with
  | [] =>
    change readValue (depth + 1) ('[' :: ']' :: r) = _
    rw [readValue, List.length_cons, readArray_close rfl]
    rfl
  | [s] =>
    have hopens := (opens_writeString s).append (']' :: r)
    have hline : writeStrings [s] ++ r = '[' :: (writeString s ++ ']' :: r) := by
      simp [writeStrings]
    rw [hline, readValue, List.length_cons,
      readArray_last hopens.skipFill_eq hopens
        (readValue_writeString depth s (endsString_cons rfl _)) rfl]
    rfl
  | s :: t :: items =>
    have hline : writeStrings (s :: t :: items) ++ r =
        '[' :: '\n' :: (itemLines (s :: t :: items) ++ ']' :: r) := by
      simp [writeStrings, itemLines]
    rw [hline, readValue, readArray_itemLines]
    · rfl
    · have hlength := length_le_length_itemLines (s :: t :: items)
      simp only [List.length_cons, List.length_append] at hlength ⊢
      omega

theorem readValue_write (depth : Nat) (v : Content) (r : List Char) :
    readValue (depth + 1) (v.write ++ '\n' :: r) = some (v.toToml, '\n' :: r) := by
  cases v with
  | one s => exact readValue_writeString (depth + 1) s (endsString_cons rfl r)
  | many items => exact readValue_writeStrings depth items _

theorem skipSpace_write (v : Content) (r : List Char) :
    skipSpace (' ' :: (v.write ++ r)) = v.write ++ r := by
  have hskip : skipSpace (' ' :: (v.write ++ r)) = skipSpace (v.write ++ r) := rfl
  rw [hskip]
  cases v with
  | one s => exact ((opens_writeString s).append r).skipSpace_eq
  | many items =>
    match items with
    | [] => rfl
    | [_] => rfl
    | _ :: _ :: _ => rfl

/-! ## Statements -/

/-- The line of an entry, without its end. -/
def entryText (key : String) (v : Content) : List Char := writeKey key ++ [' ', '=', ' '] ++ v.write

theorem opens_entryText (key : String) (v : Content) : Opens (entryText key v) :=
  ((opens_writeKey key).append _).append _

theorem readStatement_entry (key : String) (v : Content) (r : List Char) :
    readStatement (entryText key v ++ '\n' :: r) =
      some (.entry [key] v.toToml, '\n' :: r) := by
  have hopens := (opens_entryText key v).append ('\n' :: r)
  have htext : entryText key v ++ '\n' :: r =
      writePath [key] ++ ' ' :: '=' :: ' ' :: (v.write ++ '\n' :: r) := by
    simp [entryText, writePath]
  have hkey : readKey (writePath [key] ++ ' ' :: '=' :: ' ' :: (v.write ++ '\n' :: r)) =
      some ([key], '=' :: ' ' :: (v.write ++ '\n' :: r)) := by
    refine readPath_writePath (List.cons_ne_nil key []) (by simp [maxDepth]) ?_ ?_
    · rintro c ⟨⟩
      rfl
    · intro t heq
      cases heq
  rw [readStatement.eq_3 _ (fun t => hopens.ne_cons rfl _) (fun t => hopens.ne_cons rfl _), htext,
    readEntry, hkey]
  simp only [Option.bind_eq_bind, Option.bind_some, skipSpace_write]
  rw [show maxDepth = 78 + 1 from rfl, readValue_write]
  rfl

theorem readStatement_table {path : List String} (hne : path ≠ []) (hlength : path.length ≤ maxDepth)
    (r : List Char) : readStatement ('[' :: (writePath path ++ ']' :: r)) =
      some (.table path, r) := by
  have hkey : readKey (writePath path ++ ']' :: r) = some (path, ']' :: r) := by
    refine readPath_writePath hne hlength ?_ ?_
    · rintro c ⟨⟩
      rfl
    · intro t heq
      cases heq
  have hopens := (opens_writePath hne).append (']' :: r)
  rw [readStatement.eq_2 _ (fun t => hopens.ne_cons rfl _), hkey]
  rfl

/-! ## Documents -/

theorem skipLines_cons {c : Char} (hspace : isSpace c = false) (hfeed : c ≠ '\n') (hreturn : c ≠ '\r')
    (r : List Char) : skipLines (c :: r) = c :: r := by
  rw [skipLines.eq_2 c r (by rintro t rfl; exact absurd rfl hreturn), if_neg]
  simp [hspace, hfeed]

/-- A statement at the start of a line is the first one of the document. -/
theorem readStatements_cons {s t u : List Char} {c : Char} {statement : Statement} (fuel : Nat)
    (hskip : skipLines s = c :: t) (hcomment : c ≠ '#')
    (hread : readStatement (c :: t) = some (statement, '\n' :: u)) :
    readStatements (fuel + 1) s = (readStatements fuel u).map (statement :: ·) := by
  have hend : lineEnd? ('\n' :: u) = some u := rfl
  rw [readStatements, hskip]
  split
  case h_1 heq => cases heq
  case h_2 r heq => exact absurd (List.cons.inj heq).1 hcomment
  case h_3 =>
    rw [hread]
    simp only [Option.bind_eq_bind, Option.bind_some, hend]
    cases readStatements fuel u <;> rfl

theorem readStatements_entry (fuel : Nat) (key : String) (v : Content) (r : List Char) :
    readStatements (fuel + 1) (entryText key v ++ '\n' :: r) =
      (readStatements fuel r).map (.entry [key] v.toToml :: ·) := by
  have hopens := (opens_entryText key v).append ('\n' :: r)
  obtain ⟨c, t, heq, hc⟩ := id hopens
  refine readStatements_cons (c := c) (t := t) fuel ?_ ?_ ?_
  · rw [← heq]
    exact hopens.skipLines_eq
  · rintro rfl
    cases hc
  · rw [← heq]
    exact readStatement_entry key v r

/-- The lines of entries. -/
def entriesText (entries : List (String × Content)) : List Char :=
  entries.flatMap fun (key, v) => writeKey key ++ [' ', '=', ' '] ++ v.write ++ ['\n']

theorem entriesText_cons (key : String) (v : Content) (entries : List (String × Content)) :
    entriesText ((key, v) :: entries) = entryText key v ++ '\n' :: entriesText entries := by
  simp [entriesText, entryText]

theorem length_le_length_entriesText (entries : List (String × Content)) :
    entries.length ≤ (entriesText entries).length := by
  induction entries with
  | nil => exact Nat.le_refl 0
  | cons e entries ih =>
    rw [entriesText_cons, List.length_append, List.length_cons, List.length_cons]
    omega

theorem readStatements_entriesText (fuel : Nat) (entries : List (String × Content))
    (r : List Char) :
    readStatements (entries.length + fuel) (entriesText entries ++ r) =
      (readStatements fuel r).map
        ((entries.map fun (key, v) => Statement.entry [key] v.toToml) ++ ·) := by
  induction entries with
  | nil =>
    rw [List.length_nil, Nat.zero_add]
    cases h : readStatements fuel r <;> simp [entriesText, h]
  | cons e entries ih =>
    rw [entriesText_cons, List.append_assoc, List.cons_append, List.length_cons,
      Nat.add_right_comm, readStatements_entry, ih, Option.map_map]
    rfl

/-- What can stand as a header: a path with some parts, but not too many. -/
def Section.HasPath (s : Section) : Prop := s.path ≠ [] ∧ s.path.length ≤ maxDepth

theorem length_statements (s : Section) : s.statements.length = s.entries.length + 1 := by
  simp [Section.statements]

theorem readStatements_write {s : Section} (hs : s.HasPath) (fuel : Nat) (r : List Char) :
    readStatements (s.statements.length + fuel) (s.write ++ r) =
      (readStatements fuel r).map (s.statements ++ ·) := by
  have htext : s.write ++ r =
      '[' :: (writePath s.path ++ ']' :: '\n' :: (entriesText s.entries ++ r)) := by
    simp [Section.write, entriesText]
  rw [htext, length_statements, Nat.add_right_comm,
    readStatements_cons _ (skipLines_cons rfl (by decide) (by decide) _) (by decide)
      (readStatement_table hs.1 hs.2 _),
    readStatements_entriesText, Option.map_map]
  rfl

theorem readStatements_newline (fuel : Nat) (s : List Char) :
    readStatements (fuel + 1) ('\n' :: s) = readStatements (fuel + 1) s := by
  have hskip : skipLines ('\n' :: s) = skipLines s := rfl
  rw [readStatements, readStatements, hskip]

theorem readStatements_writeSections {ss : List Section} (hss : ∀ s ∈ ss, s.HasPath) (fuel : Nat) :
    readStatements ((ss.flatMap Section.statements).length + (fuel + 1)) (writeSections ss) =
      some (ss.flatMap Section.statements) := by
  fun_induction writeSections ss with
  | case1 => rw [List.flatMap_nil, List.length_nil, Nat.zero_add]; rfl
  | case2 s =>
    have hread := readStatements_write (hss s List.mem_cons_self) (fuel + 1) []
    rw [List.append_nil] at hread
    rw [List.flatMap_singleton, hread]
    simp [readStatements, skipLines]
  | case3 s rest _ ih =>
    have hread := readStatements_write (hss s List.mem_cons_self)
      ((rest.flatMap Section.statements).length + (fuel + 1)) ('\n' :: writeSections rest)
    rw [List.flatMap_cons, List.length_append, Nat.add_assoc, hread, ← Nat.add_assoc,
      readStatements_newline, Nat.add_assoc, ih fun s hs => hss s (List.mem_cons_of_mem _ hs)]
    rfl

theorem length_statements_le_length_write (s : Section) :
    s.statements.length ≤ s.write.length := by
  have hentries := length_le_length_entriesText s.entries
  have hwrite : s.write = '[' :: (writePath s.path ++ [']', '\n'] ++ entriesText s.entries) := by
    simp [Section.write, entriesText]
  rw [length_statements, hwrite, List.length_cons, List.length_append]
  omega

theorem length_statements_le_length_writeSections (ss : List Section) :
    (ss.flatMap Section.statements).length ≤ (writeSections ss).length := by
  fun_induction writeSections ss with
  | case1 => exact Nat.le_refl 0
  | case2 s =>
    rw [List.flatMap_singleton]
    exact length_statements_le_length_write s
  | case3 s rest _ ih =>
    have hs := length_statements_le_length_write s
    rw [List.flatMap_cons, List.length_append, List.length_append, List.length_cons]
    omega

/-- The text of sections says what their statements make. -/
theorem parse_writeSections {ss : List Section} (hss : ∀ s ∈ ss, s.HasPath) :
    parse (String.ofList (writeSections ss)) = ofStatements (ss.flatMap Section.statements) := by
  have hmark : dropMark (writeSections ss) = writeSections ss := by
    fun_cases writeSections ss with
    | case1 => rfl
    | case2 s => rfl
    | case3 s rest _ => rfl
  obtain ⟨fuel, hfuel⟩ :=
    Nat.exists_eq_add_of_le (length_statements_le_length_writeSections ss)
  rw [parse, String.toList_ofList]
  rw [hmark, hfuel, Nat.add_assoc, readStatements_writeSections hss fuel, Option.bind_some]

end SchemaSdk.Toml
