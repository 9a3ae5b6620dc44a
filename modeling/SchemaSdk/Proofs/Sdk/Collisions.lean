import SchemaSdk.Proofs.Sdk.Clashes
import SchemaSdk.Proofs.Sdk.MethodNames

/-!
# Collisions of methods

Identifiers are the same exactly if the names they come from are, in the case that they are written
in. So the methods of two operations collide only where their names come together in snake case: an
operation that finds all its candidates taken finds them taken before any escape.
-/
namespace SchemaSdk.Schema

open SchemaSdk.Text

namespace Operation

/-- The names that an operation may have in snake case, before they are escaped. -/
def casedNames (o : Operation) : List String :=
  match o.kind with
  | .query => [snakeCase o.field.name]
  | .mutation => [snakeCase o.field.name, snakeCase (snakeCase o.field.name ++ "_mutation")]

/-- Operations clash at a method in their case: each of the names that one of them may have in snake
case is a name in snake case of an operation before it. The method is the last of them, escaped. -/
def CaseClash (ops : List Operation) (method : String) : Prop :=
  ∃ before o after, ops = before ++ o :: after ∧
    (∀ n ∈ o.casedNames, ∃ p ∈ before, n ∈ p.casedNames) ∧
    o.casedNames.getLast?.map Identifier.escape = some method

variable {o : Operation} {ops : List Operation} {taken names : List String}

theorem candidates_eq (o : Operation) : o.candidates = o.casedNames.map Identifier.escape := by
  cases h : o.kind <;> simp only [candidates, casedNames, h, List.map, Identifier.ofField]

theorem unmarked_of_mem_casedNames (h : IsName o.field.name) {n : String}
    (hn : n ∈ o.casedNames) : Identifier.Unmarked n := by
  have hplain := Identifier.unmarked_snakeCase h
  have hsuffixed : Identifier.Unmarked (snakeCase (snakeCase o.field.name ++ "_mutation")) := by
    refine Identifier.unmarked_snakeCase_of_ascii fun c hc => ?_
    rw [String.toList_append, List.mem_append, snakeCase, String.toList_ofList] at hc
    rcases hc with hc | hc
    · exact ascii_of_isNamePart (isNamePart_of_mem_snakeChars (ascii_of_spellsName h) hc)
    · have hascii : "_mutation".toList.all (·.toNat < 0x80) = true := by decide +kernel
      exact of_decide_eq_true (List.all_eq_true.mp hascii c hc)
  cases hkind : o.kind with
  | query =>
    simp only [casedNames, hkind, List.mem_singleton] at hn
    exact hn ▸ hplain
  | mutation =>
    simp only [casedNames, hkind, List.mem_pair] at hn
    rcases hn with rfl | rfl
    · exact hplain
    · exact hsuffixed

/-- A name that is given is a candidate of an operation. -/
theorem Named.exists_candidate (h : Named taken ops names) {n : String} (hn : n ∈ names) :
    ∃ o ∈ ops, n ∈ o.candidates := by
  obtain ⟨i, hi⟩ := List.mem_iff_getElem?.mp hn
  have hlt : i < ops.length := by
    rw [← h.length_eq]
    exact (List.getElem?_eq_some_iff.mp hi).1
  have hfound := h.getElem?_eq i _ (List.getElem?_eq_getElem hlt)
  rw [hi] at hfound
  exact ⟨ops[i], List.getElem_mem hlt, List.mem_of_find?_eq_some hfound.symm⟩

theorem caseClash_of_methods (hops : ∀ o ∈ ops, IsName o.field.name) {e : MethodCollision}
    (h : methods [] ops = .error e) : CaseClash ops e.method := by
  obtain ⟨before, o, after, given, rfl, hnamed, hall, hlast⟩ := methods_eq_error_iff.mp h
  refine ⟨before, o, after, rfl, fun n hn => ?_, ?_⟩
  · have hmem : Identifier.escape n ∈ given := by
      simpa using hall _ (o.candidates_eq ▸ List.mem_map_of_mem hn)
    obtain ⟨p, hp, hcandidate⟩ := hnamed.exists_candidate hmem
    rw [candidates_eq] at hcandidate
    obtain ⟨m, hm, heq⟩ := List.mem_map.mp hcandidate
    have hunmarked := unmarked_of_mem_casedNames (hops p (by simp [hp])) hm
    have hunmarked' := unmarked_of_mem_casedNames (hops o (by simp)) hn
    obtain rfl := (Identifier.escape_eq_escape_iff hunmarked hunmarked').mp heq
    exact ⟨p, hp, hm⟩
  · rwa [candidates_eq, List.getLast?_map] at hlast

/-- Operations whose fields have names of their own are called after them. -/
theorem methods_of_nodup (hnodup : (ops.map plainMethod).Nodup)
    (htaken : ∀ n ∈ ops.map plainMethod, n ∉ taken) :
    methods taken ops = .ok (ops.map plainMethod) := by
  induction ops generalizing taken with
  | nil => rfl
  | cons o ops ih =>
    obtain ⟨hplain, hnodup⟩ := List.nodup_cons.mp hnodup
    obtain ⟨hfree, htaken⟩ := List.forall_mem_cons.mp htaken
    have hmethod : o.method taken = o.plainMethod := by simp [method, hfree]
    have hrest : methods (o.plainMethod :: taken) ops = .ok (ops.map plainMethod) :=
      ih hnodup fun n hn =>
      List.not_mem_cons_of_ne_of_not_mem (fun heq => hplain (heq ▸ hn)) (htaken n hn)
    simp [methods, hmethod, hfree, hrest, Except.map]

end Operation
end SchemaSdk.Schema

namespace SchemaSdk.Sdk

open SchemaSdk.Schema SchemaSdk.Text

variable {sdl : String} {o : Options} {e : MethodCollision}

/-- The generation ends at a collision when the models have an order and the methods collide. -/
theorem generate_eq_collision_iff : generate sdl o = .error (.collision e) ↔
    ∃ c order, Collection.parse sdl = .ok c ∧ c.topologicalOrder = .ok order ∧
      Operation.methods [] c.operations = .error e := by
  constructor
  · intro h
    unfold generate render at h
    split at h
    · cases h
    case h_2 c hparse =>
      split at h
      · cases h
      case h_2 order horder =>
        split at h
        case h_1 e' he =>
          cases h
          exact ⟨c, order, hparse, horder, Call.ofCollection_eq_error_iff.mp he⟩
        · cases h
  · rintro ⟨c, order, hparse, horder, hmethods⟩
    have hcalls := Call.ofCollection_eq_error_iff.mpr hmethods
    unfold generate render
    rw [hparse]
    dsimp only
    rw [horder, hcalls]

/-- **Only cases clash.** Two names become one identifier of a field exactly if they are the same in
snake case, and one of a type exactly if they are in pascal case. So the generation ends at a
collision of methods only if the names of two operations are the same in snake case, and the
operation that is refused has no name in snake case that an operation before it does not have. -/
theorem caseClash_of_collision {a b : String} (ha : IsName a) (hb : IsName b) :
    (Identifier.ofField a = Identifier.ofField b ↔ snakeCase a = snakeCase b) ∧
    (Identifier.ofType a = Identifier.ofType b ↔ pascalCase a = pascalCase b) ∧
    ∀ (sdl : String) (o : Options) (e : MethodCollision),
      generate sdl o = .error (.collision e) →
        ∃ c, Collection.parse sdl = .ok c ∧
          ¬ (c.operations.map fun op => snakeCase op.field.name).Nodup ∧
          Operation.CaseClash c.operations e.method := by
  refine ⟨Identifier.ofField_eq_ofField_iff ha hb, Identifier.ofType_eq_ofType_iff ha hb, ?_⟩
  intro sdl o e h
  obtain ⟨c, _, hparse, _, hmethods⟩ := generate_eq_collision_iff.mp h
  have hnames : ∀ op ∈ c.operations, IsName op.field.name := fun op hop =>
    ((Collection.wellFormed_of_parse hparse).operations_spelled op hop).field.name
  refine ⟨c, hparse, fun hnodup => ?_, Operation.caseClash_of_methods hnames hmethods⟩
  have hplain : (c.operations.map Operation.plainMethod).Nodup := by
    have hiff := Identifier.nodup_map_ofField_iff (List.forall_mem_map.mpr hnames)
    simp only [List.map_map, Function.comp_def] at hiff
    exact hiff.mpr hnodup
  rw [Operation.methods_of_nodup hplain fun _ _ => List.not_mem_nil] at hmethods
  cases hmethods

/-- Names that become reserved words stay apart, and two that differ in their capitals collide. -/
theorem caseClash_of_collision_fooBar :
    Identifier.ofField "self" ≠ Identifier.ofField "self_2" ∧
    ∃ c, Collection.parse "type Query { fooBar: Int foo_bar: Int }" = .ok c ∧
      ¬ (c.operations.map fun op => snakeCase op.field.name).Nodup ∧
      Operation.CaseClash c.operations "foo_bar" := by
  have hself : IsName "self" := by
    unfold IsName
    decide
  have hsecond : IsName "self_2" := by
    unfold IsName
    decide
  obtain ⟨hfield, _, hcollision⟩ := caseClash_of_collision hself hsecond
  have hread : (Collection.parse "type Query { fooBar: Int foo_bar: Int }").toOption.any (fun c =>
      c.topologicalOrder.toOption.any fun _ =>
        decide (Operation.methods [] c.operations = .error ⟨"foo_bar"⟩)) = true := by
    decide +kernel
  obtain ⟨c, hparse, hc⟩ := exists_eq_ok_of_any hread
  obtain ⟨order, horder, hmethods⟩ := exists_eq_ok_of_any hc
  have h : generate "type Query { fooBar: Int foo_bar: Int }" ⟨"Api", none, none⟩ =
      .error (.collision ⟨"foo_bar"⟩) :=
    generate_eq_collision_iff.mpr ⟨c, order, hparse, horder, of_decide_eq_true hmethods⟩
  exact ⟨fun heq => absurd (hfield.mp heq) (by decide), hcollision _ _ _ h⟩

end SchemaSdk.Sdk
