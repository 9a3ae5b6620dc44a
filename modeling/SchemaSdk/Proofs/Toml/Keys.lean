import Mathlib.Tactic.SplitIfs
import SchemaSdk.Proofs.Lookup
import SchemaSdk.Toml.Document

/-!
# Keys of TOML tables

No table of a document has a key twice, whether headers, dotted keys or braces made it. Entries
under construction keep their keys apart, since a key is added only where it is missing.
-/
namespace SchemaSdk.Toml

/-! ## Entries -/

namespace Entries

theorem lookup_append_self {es : Entries} {key : String} (h : key ∉ es.map Prod.fst) (b : Branch) :
    List.lookup key (es ++ [(key, b)]) = some b := by
  simp [List.lookup_append, lookup_eq_none_iff_notMem_keys.mpr h]

theorem replace_append_self {es : Entries} {key : String} (h : key ∉ es.map Prod.fst)
    (b b' : Branch) : replace (es ++ [(key, b)]) key b' = es ++ [(key, b')] := by
  have hes : replace es key b' = es := by
    refine (List.map_congr_left fun e he => ?_).trans (List.map_id es)
    rw [if_neg]
    · rfl
    · rw [beq_iff_eq]
      rintro rfl
      exact h (List.mem_map_of_mem he)
  rw [replace, List.map_append]
  congr 1
  simp

theorem keys_replace (es : Entries) (key : String) (b : Branch) :
    (es.replace key b).map Prod.fst = es.map Prod.fst :=
  keys_map_set es key b

theorem mem_replace {es : Entries} {key : String} {b : Branch} {e : String × Branch}
    (h : e ∈ es.replace key b) : e = (key, b) ∨ e ∈ es := by
  obtain ⟨e', he', rfl⟩ := List.mem_map.mp h
  split_ifs
  · exact .inl rfl
  · exact .inr he'

end Entries

/-! ## Tables without a key twice -/

/-- No table within a value has a key twice. -/
inductive Distinct : Toml → Prop
  | string (s : String) : Distinct (.string s)
  | bool (b : Bool) : Distinct (.bool b)
  | number (text : String) : Distinct (.number text)
  | dateTime (text : String) : Distinct (.dateTime text)
  | array {items : List Toml} : (∀ v ∈ items, Distinct v) → Distinct (.array items)
  | table {entries : List (String × Toml)} : (entries.map Prod.fst).Nodup →
    (∀ e ∈ entries, Distinct e.2) → Distinct (.table entries)

/-- No table within a branch has a key twice. -/
inductive Branch.Distinct : Branch → Prop
  | value {v : Toml} : v.Distinct → Distinct (.value v)
  | table {origin : Origin} {es : List (String × Branch)} : (es.map Prod.fst).Nodup →
    (∀ e ∈ es, e.2.Distinct) → Distinct (.table origin es)
  | items {tables : List (List (String × Branch))} : (∀ es ∈ tables, (es.map Prod.fst).Nodup) →
    (∀ es ∈ tables, ∀ e ∈ es, e.2.Distinct) → Distinct (.items tables)

/-- Neither the table of entries nor one within them has a key twice. -/
structure Entries.Distinct (es : Entries) : Prop where
  keys : (es.map Prod.fst).Nodup
  branches : ∀ e ∈ es, e.2.Distinct

namespace Entries.Distinct

variable {es : Entries} {key : String} {b : Branch}

theorem nil : Distinct [] := ⟨List.nodup_nil, fun _ he => absurd he List.not_mem_nil⟩

theorem append (h : es.Distinct) (hkey : es.lookup key = none) (hb : b.Distinct) :
    Distinct (es ++ [(key, b)]) := by
  refine ⟨?_, fun e he => ?_⟩
  · rw [List.map_append, List.nodup_append]
    refine ⟨h.keys, List.nodup_singleton key, fun k hk k' hk' => ?_⟩
    rintro rfl
    rw [List.map_singleton, List.mem_singleton] at hk'
    rw [hk'] at hk
    exact lookup_eq_none_iff_notMem_keys.mp hkey hk
  · rcases List.mem_append.mp he with he | he
    · exact h.branches e he
    · rw [List.mem_singleton.mp he]
      exact hb

theorem replace (h : es.Distinct) (hb : b.Distinct) : (es.replace key b).Distinct := by
  refine ⟨?_, fun e he => ?_⟩
  · rw [Entries.keys_replace]
    exact h.keys
  · rcases Entries.mem_replace he with rfl | he
    · exact hb
    · exact h.branches e he

theorem lookup (h : es.Distinct) (hkey : es.lookup key = some b) : b.Distinct :=
  h.branches _ (mem_of_lookup_eq_some hkey)

theorem toBranch (h : es.Distinct) (origin : Origin) : (Branch.table origin es).Distinct :=
  .table h.keys h.branches

theorem ofTable {origin : Origin} {sub : Entries} (h : (Branch.table origin sub).Distinct) :
    sub.Distinct := by
  cases h with
  | table hkeys hbranches => exact ⟨hkeys, hbranches⟩

theorem ofItems {tables : List (List (String × Branch))} {sub : Entries}
    (h : (Branch.items tables).Distinct) (hsub : sub ∈ tables) : sub.Distinct := by
  cases h with
  | items hkeys hbranches => exact ⟨hkeys sub hsub, hbranches sub hsub⟩

theorem toItems {tables : List (List (String × Branch))}
    (h : ∀ sub ∈ tables, Entries.Distinct sub) : (Branch.items tables).Distinct :=
  .items (fun sub hsub => (h sub hsub).keys) fun sub hsub => (h sub hsub).branches

end Entries.Distinct

/-! ## What changes entries -/

namespace Entries

/-- A change of the table that a path leads to keeps keys apart if it does so in that table. -/
theorem within_distinct {origin : Origin} {change : Origin → Entries → Option Entries}
    (hchange : ∀ o es es', change o es = some es' → es.Distinct → es'.Distinct)
    {path : List String} {o : Origin} {es es' : Entries}
    (h : within origin change path o es = some es') (hes : es.Distinct) : es'.Distinct := by
  induction path generalizing o es es' with
  | nil => exact hchange o es es' h hes
  | cons key path ih =>
    rw [within] at h
    split at h
    case h_1 hkey =>
      obtain ⟨sub, hsub, rfl⟩ := Option.map_eq_some_iff.mp h
      exact hes.append hkey ((ih hsub .nil).toBranch origin)
    case h_2 => cases h
    case h_3 o' sub hkey =>
      split_ifs at h
      obtain ⟨sub', hsub', rfl⟩ := Option.map_eq_some_iff.mp h
      exact hes.replace ((ih hsub' (.ofTable (hes.lookup hkey))).toBranch o')
    case h_4 tables hkey =>
      split at h
      case h_1 => cases h
      case h_2 last hlast =>
        obtain ⟨last', hlast', rfl⟩ := Option.map_eq_some_iff.mp h
        have htables := hes.lookup hkey
        have hmem : last ∈ tables := List.mem_of_getLast? hlast
        refine hes.replace (Distinct.toItems fun sub hsub => ?_)
        rcases List.mem_append.mp hsub with hsub | hsub
        · exact .ofItems htables ((tables.dropLast_sublist.subset hsub))
        · rw [List.mem_singleton.mp hsub]
          exact ih hlast' (.ofItems htables hmem)

theorem put_distinct {path : List String} {v : Toml} {es es' : Entries}
    (h : put path v es = some es') (hv : v.Distinct) (hes : es.Distinct) : es'.Distinct := by
  rw [put] at h
  split at h
  case h_1 => cases h
  case h_2 key hkey =>
    refine within_distinct (fun o sub sub' hsub hdistinct => ?_) h hes
    split_ifs at hsub with horigin hpresent
    cases hsub
    exact hdistinct.append (Option.not_isSome_iff_eq_none.mp hpresent) (.value hv)

theorem openTable_distinct {path : List String} {es es' : Entries}
    (h : openTable path es = some es') (hes : es.Distinct) : es'.Distinct := by
  rw [openTable] at h
  split at h
  case h_1 => cases h
  case h_2 key hkey =>
    refine within_distinct (fun o sub sub' hsub hdistinct => ?_) h hes
    split at hsub
    case h_1 hnone =>
      cases hsub
      exact hdistinct.append hnone (Distinct.nil.toBranch .header)
    case h_2 hpassed =>
      cases hsub
      exact hdistinct.replace ((Distinct.ofTable (hdistinct.lookup hpassed)).toBranch .header)
    case h_3 => cases hsub

theorem openItem_distinct {path : List String} {es es' : Entries}
    (h : openItem path es = some es') (hes : es.Distinct) : es'.Distinct := by
  rw [openItem] at h
  split at h
  case h_1 => cases h
  case h_2 key hkey =>
    refine within_distinct (fun o sub sub' hsub hdistinct => ?_) h hes
    split at hsub
    case h_1 hnone =>
      cases hsub
      refine hdistinct.append hnone (Distinct.toItems fun table htable => ?_)
      rw [List.mem_singleton.mp htable]
      exact .nil
    case h_2 tables hitems =>
      cases hsub
      refine hdistinct.replace (Distinct.toItems fun table htable => ?_)
      rcases List.mem_append.mp htable with htable | htable
      · exact .ofItems (hdistinct.lookup hitems) htable
      · rw [List.mem_singleton.mp htable]
        exact .nil
    case h_3 => cases hsub

end Entries

/-! ## Finished entries -/

theorem finishedEntries_eq_map (es : Entries) :
    finishedEntries es = es.map fun e => (e.1, e.2.finished) := by
  induction es with
  | nil => rw [finishedEntries, List.map_nil]
  | cons e es ih => rw [finishedEntries, ih, List.map_cons]

theorem finishedTables_eq_map (tables : List (List (String × Branch))) :
    finishedTables tables = tables.map fun es => .table (finishedEntries es) := by
  induction tables with
  | nil => rw [finishedTables, List.map_nil]
  | cons es tables ih => rw [finishedTables, ih, List.map_cons]

theorem keys_finishedEntries (es : Entries) :
    (finishedEntries es).map Prod.fst = es.map Prod.fst := by
  rw [finishedEntries_eq_map, List.map_map]
  rfl

/-- A table of finished entries has the keys of the entries. -/
theorem distinct_table_finishedEntries {es : Entries} (hkeys : (es.map Prod.fst).Nodup)
    (hbranches : ∀ e ∈ es, e.2.finished.Distinct) : (Toml.table (finishedEntries es)).Distinct := by
  refine .table (by rwa [keys_finishedEntries]) fun e he => ?_
  rw [finishedEntries_eq_map] at he
  obtain ⟨e', he', rfl⟩ := List.mem_map.mp he
  exact hbranches e' he'

theorem Branch.Distinct.finished {b : Branch} (h : b.Distinct) : b.finished.Distinct := by
  induction h with
  | value hv =>
    rw [Branch.finished]
    exact hv
  | table hkeys _ ih =>
    rw [Branch.finished]
    exact distinct_table_finishedEntries hkeys ih
  | items hkeys _ ih =>
    rw [Branch.finished, finishedTables_eq_map]
    refine .array fun v hv => ?_
    obtain ⟨es, hes, rfl⟩ := List.mem_map.mp hv
    exact distinct_table_finishedEntries (hkeys es hes) (ih es hes)

theorem Entries.Distinct.finished {es : Entries} (h : es.Distinct) :
    (Toml.table (finishedEntries es)).Distinct :=
  distinct_table_finishedEntries h.keys fun e he => (h.branches e he).finished

/-! ## What is read -/

/-- What each step keeps holds after all of them. -/
theorem of_foldlM {α β : Type} {step : β → α → Option β} {P : β → Prop} {as : List α}
    (hstep : ∀ a ∈ as, ∀ b b', step b a = some b' → P b → P b') {b b' : β}
    (h : as.foldlM step b = some b') (hb : P b) : P b' := by
  induction as generalizing b with
  | nil =>
    cases h
    exact hb
  | cons a as ih =>
    rw [List.foldlM_cons, Option.bind_eq_bind, Option.bind_eq_some_iff] at h
    obtain ⟨next, hnext, h⟩ := h
    exact ih (fun a ha => hstep a (List.mem_cons_of_mem _ ha)) h
      (hstep a List.mem_cons_self b next hnext hb)

theorem tableOf_distinct {entries : List (List String × Toml)} {v : Toml}
    (h : tableOf entries = some v) (hentries : ∀ e ∈ entries, e.2.Distinct) : v.Distinct := by
  obtain ⟨es, hes, rfl⟩ := Option.map_eq_some_iff.mp h
  refine Entries.Distinct.finished (of_foldlM (fun e he sub sub' hput hsub => ?_) hes .nil)
  exact Entries.put_distinct hput (hentries e he) hsub

theorem readScalar_distinct {s rest : List Char} {v : Toml} (h : readScalar s = some (v, rest)) :
    v.Distinct := by
  rw [readScalar] at h
  dsimp only at h
  split at h
  case h_1 found hdated =>
    split at hdated
    case h_1 =>
      split_ifs at hdated
      cases hdated
      cases h
      exact .dateTime _
    case h_2 => cases hdated
  case h_2 =>
    split_ifs at h
    · cases h
      exact .bool true
    · cases h
      exact .bool false
    · cases h
      exact .number _
    · cases h
      exact .dateTime _

section Reading

variable {read : List Char → Option (Toml × List Char)}

theorem readArray_all (hread : ∀ s v rest, read s = some (v, rest) → v.Distinct) {fuel : Nat}
    {s rest : List Char} {vs : List Toml} (h : readArray read fuel s = some (vs, rest)) :
    ∀ v ∈ vs, v.Distinct := by
  induction fuel generalizing s vs with
  | zero => cases h
  | succ fuel ih =>
    simp only [readArray, Option.bind_eq_bind, Option.bind_eq_some_iff] at h
    obtain ⟨t, _, h⟩ := h
    split at h
    case h_1 =>
      cases h
      exact fun v hv => absurd hv List.not_mem_nil
    case h_2 =>
      obtain ⟨⟨v, u⟩, hv, h⟩ := Option.bind_eq_some_iff.mp h
      obtain ⟨w, _, h⟩ := Option.bind_eq_some_iff.mp h
      have hfirst := hread _ v u hv
      split at h
      case h_1 =>
        cases h
        exact fun v' hv' => List.mem_singleton.mp hv' ▸ hfirst
      case h_2 =>
        obtain ⟨⟨vs', rest'⟩, hvs, h⟩ := Option.bind_eq_some_iff.mp h
        cases h
        exact List.forall_mem_cons.mpr ⟨hfirst, ih hvs⟩
      case h_3 => cases h

theorem readEntry_distinct (hread : ∀ s v rest, read s = some (v, rest) → v.Distinct)
    {s rest : List Char} {e : List String × Toml} (h : readEntry read s = some (e, rest)) :
    e.2.Distinct := by
  simp only [readEntry, Option.bind_eq_bind, Option.bind_eq_some_iff] at h
  obtain ⟨t, _, h⟩ := h
  split at h
  case h_1 =>
    obtain ⟨⟨v, u⟩, hv, h⟩ := Option.bind_eq_some_iff.mp h
    cases h
    exact hread _ v u hv
  case h_2 => cases h

theorem readInline_all (hread : ∀ s v rest, read s = some (v, rest) → v.Distinct) {fuel : Nat}
    {s rest : List Char} {es : List (List String × Toml)}
    (h : readInline read fuel s = some (es, rest)) : ∀ e ∈ es, e.2.Distinct := by
  induction fuel generalizing s es with
  | zero => cases h
  | succ fuel ih =>
    simp only [readInline, Option.bind_eq_bind, Option.bind_eq_some_iff] at h
    obtain ⟨⟨e, t⟩, he, h⟩ := h
    have hfirst := readEntry_distinct hread he
    split at h
    case h_1 =>
      cases h
      exact fun e' he' => List.mem_singleton.mp he' ▸ hfirst
    case h_2 =>
      obtain ⟨⟨es', rest'⟩, hes, h⟩ := Option.bind_eq_some_iff.mp h
      cases h
      exact List.forall_mem_cons.mpr ⟨hfirst, ih hes⟩
    case h_3 => cases h

end Reading

theorem readString_value_distinct {s : List Char} {v : Toml} {rest : List Char}
    (h : (readString s).map (fun (v, rest) => (Toml.string (String.ofList v), rest)) =
      some (v, rest)) : v.Distinct := by
  obtain ⟨found, _, heq⟩ := Option.map_eq_some_iff.mp h
  cases heq
  exact .string _

theorem readValue_distinct {depth : Nat} {s rest : List Char} {v : Toml}
    (h : readValue depth s = some (v, rest)) : v.Distinct := by
  induction depth using Nat.strongRecOn generalizing s v rest with
  | ind depth ih =>
    unfold readValue at h
    split at h
    case h_1 => exact readString_value_distinct h
    case h_2 => exact readString_value_distinct h
    case h_3 => cases h
    case h_4 r depth =>
      obtain ⟨found, hfound, heq⟩ := Option.map_eq_some_iff.mp h
      cases heq
      exact .array (readArray_all (fun s v rest => ih depth (Nat.lt_succ_self depth)) hfound)
    case h_5 => cases h
    case h_6 r depth =>
      split at h
      case h_1 =>
        cases h
        exact .table List.nodup_nil fun e he => absurd he List.not_mem_nil
      case h_2 =>
        split at h
        case h_1 => cases h
        case h_2 es rest' hes =>
          obtain ⟨v', hv', heq⟩ := Option.map_eq_some_iff.mp h
          cases heq
          exact tableOf_distinct hv'
            (readInline_all (fun s v rest => ih depth (Nat.lt_succ_self depth)) hes)
    case h_7 => exact readScalar_distinct h

/-- A statement whose value, if it has one, has no table with a key twice. -/
def Statement.Distinct : Statement → Prop
  | .entry _ v => v.Distinct
  | _ => True

theorem readStatement_distinct {s rest : List Char} {statement : Statement}
    (h : readStatement s = some (statement, rest)) : statement.Distinct := by
  unfold readStatement at h
  split at h
  case h_1 =>
    simp only [Option.bind_eq_bind, Option.bind_eq_some_iff] at h
    obtain ⟨t, _, h⟩ := h
    split at h
    case h_1 =>
      cases h
      trivial
    case h_2 => cases h
  case h_2 =>
    simp only [Option.bind_eq_bind, Option.bind_eq_some_iff] at h
    obtain ⟨t, _, h⟩ := h
    split at h
    case h_1 =>
      cases h
      trivial
    case h_2 => cases h
  case h_3 =>
    obtain ⟨found, hfound, heq⟩ := Option.map_eq_some_iff.mp h
    cases heq
    exact readEntry_distinct (fun s v rest => readValue_distinct) hfound

theorem readStatements_all {fuel : Nat} {s : List Char} {statements : List Statement}
    (h : readStatements fuel s = some statements) : ∀ t ∈ statements, t.Distinct := by
  induction fuel generalizing s statements with
  | zero => cases h
  | succ fuel ih =>
    rw [readStatements] at h
    split at h
    case h_1 =>
      cases h
      exact fun t ht => absurd ht List.not_mem_nil
    case h_2 =>
      obtain ⟨rest, _, h⟩ := Option.bind_eq_some_iff.mp h
      exact ih h
    case h_3 =>
      simp only [Option.bind_eq_bind, Option.bind_eq_some_iff] at h
      obtain ⟨⟨first, t⟩, hfirst, u, _, rest, hrest, h⟩ := h
      cases h
      exact List.forall_mem_cons.mpr ⟨readStatement_distinct hfirst, ih hrest⟩

/-! ## Documents -/

theorem Draft.add_distinct {d d' : Draft} {statement : Statement}
    (h : d.add statement = some d') (hstatement : statement.Distinct) (hd : d.root.Distinct) :
    d'.root.Distinct := by
  cases statement with
  | table path =>
    obtain ⟨root, hroot, rfl⟩ := Option.map_eq_some_iff.mp h
    exact Entries.openTable_distinct hroot hd
  | item path =>
    obtain ⟨root, hroot, rfl⟩ := Option.map_eq_some_iff.mp h
    exact Entries.openItem_distinct hroot hd
  | entry path v =>
    obtain ⟨root, hroot, rfl⟩ := Option.map_eq_some_iff.mp h
    exact Entries.within_distinct
      (fun o es es' hput hes => Entries.put_distinct hput hstatement hes) hroot hd

/-- No table that a text says has a key twice. -/
theorem parse_distinct {text : String} {entries : List (String × Toml)}
    (h : parse text = some entries) : (Toml.table entries).Distinct := by
  obtain ⟨statements, hread, hmake⟩ := Option.bind_eq_some_iff.mp h
  obtain ⟨d, hd, rfl⟩ := Option.map_eq_some_iff.mp hmake
  refine Entries.Distinct.finished (of_foldlM (P := fun d : Draft => d.root.Distinct)
    (fun t ht d d' hadd hd => ?_) hd .nil)
  exact Draft.add_distinct hadd (readStatements_all hread t ht) hd

end SchemaSdk.Toml
