import Mathlib.Data.List.Nodup
import SchemaSdk.Proofs.Schema.Merged
import SchemaSdk.Sdk.Client

/-!
# The names of methods

Operations take their method names one after another, queries before mutations. Each takes the
first of the names it may have that no operation before it has taken, and the first one that finds
them all taken ends the generation.
-/
namespace SchemaSdk.Schema

namespace Operation

/-- The names that an operation may have as a method, in the order in which they are tried. -/
def candidates (o : Operation) : List String :=
  match o.kind with
  | .query => [Identifier.ofField o.field.name]
  | .mutation =>
    [Identifier.ofField o.field.name,
      Identifier.ofField (Text.snakeCase o.field.name ++ "_mutation")]

/-- Every operation has the first of its candidates that neither is taken nor belongs to an
operation before it. -/
structure Named (taken : List String) (ops : List Operation) (names : List String) : Prop where
  length_eq : names.length = ops.length
  getElem?_eq : ∀ (i : Nat) (o : Operation), ops[i]? = some o →
    names[i]? = o.candidates.find? fun n => decide (n ∉ names.take i ++ taken)

variable {taken names : List String} {o : Operation} {ops : List Operation}

/-! ## One operation -/

theorem candidates_of_query (h : o.kind = .query) : o.candidates = [o.plainMethod] := by
  simp only [candidates, h, plainMethod]

theorem candidates_of_mutation (h : o.kind = .mutation) :
    o.candidates = [o.plainMethod, o.mutationMethod] := by
  simp only [candidates, h, plainMethod, mutationMethod]

theorem method_of_query (h : o.kind = .query) : o.method taken = o.plainMethod := by
  rw [method, if_neg (by simp [h])]

/-- The method of an operation is its first free candidate, if there is one. -/
theorem find?_candidates (taken : List String) (o : Operation) :
    (o.candidates.find? fun n => decide (n ∉ taken)) =
      if o.method taken ∈ taken then none else some (o.method taken) := by
  cases hkind : o.kind with
  | query => by_cases h : o.plainMethod ∈ taken <;> simp [candidates_of_query, method, hkind, h]
  | mutation =>
    by_cases h : o.plainMethod ∈ taken
    · by_cases h' : o.mutationMethod ∈ taken <;>
        simp [candidates_of_mutation, method, hkind, h, h']
    · simp [candidates_of_mutation, method, hkind, h]

/-- The method of an operation is taken only if all its candidates are. -/
theorem method_mem_iff : o.method taken ∈ taken ↔ ∀ n ∈ o.candidates, n ∈ taken := by
  have hnone : (o.candidates.find? fun n => decide (n ∉ taken)) = none ↔
      ∀ n ∈ o.candidates, n ∈ taken := by simp
  rw [← hnone, find?_candidates]
  by_cases h : o.method taken ∈ taken <;> simp [h]

/-- Where every candidate is taken, the last one was tried last. -/
theorem getLast?_candidates (h : o.method taken ∈ taken) :
    o.candidates.getLast? = some (o.method taken) := by
  have hall := method_mem_iff.mp h
  cases hkind : o.kind with
  | query => simp [candidates_of_query, method, hkind]
  | mutation =>
    have hplain : o.plainMethod ∈ taken :=
      hall _ (by rw [candidates_of_mutation hkind]; exact List.mem_cons_self)
    simp [candidates_of_mutation, method, hkind, hplain]

/-! ## All operations -/

theorem named_nil_iff : Named taken [] names ↔ names = [] := by
  constructor
  · intro h
    exact List.length_eq_zero_iff.mp h.length_eq
  · intro h
    subst h
    exact ⟨rfl, fun i o ho => by simp at ho⟩

/-- The first operation takes its name, and the others are named where that is taken too. -/
theorem named_cons_iff : Named taken (o :: ops) names ↔
    ∃ rest, names = o.method taken :: rest ∧ o.method taken ∉ taken ∧
      Named (o.method taken :: taken) ops rest := by
  -- The names before an operation and those taken at the start are only asked for membership.
  have hfree : ∀ (name : String) (rest : List String) (i : Nat) (p : Operation),
      (p.candidates.find? fun n => decide (n ∉ (name :: rest).take (i + 1) ++ taken)) =
        p.candidates.find? fun n => decide (n ∉ rest.take i ++ name :: taken) := by
    intro name rest i p
    congr 1
    funext n
    simp [and_left_comm]
  constructor
  · intro h
    cases names with
    | nil => simpa using h.length_eq
    | cons name rest =>
      have hfirst := h.getElem?_eq 0 o rfl
      rw [List.take_zero, List.nil_append, find?_candidates] at hfirst
      by_cases htaken : o.method taken ∈ taken
      · rw [if_pos htaken] at hfirst
        cases hfirst
      · rw [if_neg htaken] at hfirst
        obtain rfl : name = o.method taken := by simpa using hfirst
        refine ⟨rest, rfl, htaken, by simpa using h.length_eq, fun i p hp => ?_⟩
        rw [← hfree]
        exact h.getElem?_eq (i + 1) p hp
  · intro h
    obtain ⟨rest, rfl, htaken, hrest⟩ := h
    refine ⟨by simpa using hrest.length_eq, fun i p hp => ?_⟩
    cases i with
    | zero =>
      obtain rfl : o = p := by simpa using hp
      rw [List.take_zero, List.nil_append, find?_candidates, if_neg htaken]
      rfl
    | succ i =>
      rw [hfree]
      exact hrest.getElem?_eq i p hp

theorem methods_cons_of_taken (h : o.method taken ∈ taken) :
    methods taken (o :: ops) = .error ⟨o.method taken⟩ := by
  simp [methods, h]

theorem methods_cons_of_free (h : o.method taken ∉ taken) :
    methods taken (o :: ops) =
      (methods (o.method taken :: taken) ops).map (o.method taken :: ·) := by
  simp [methods, h]

theorem methods_eq_ok_iff : methods taken ops = .ok names ↔ Named taken ops names := by
  induction ops generalizing taken names with
  | nil =>
    rw [named_nil_iff, methods, Except.ok.injEq]
    exact eq_comm
  | cons o ops ih =>
    rw [named_cons_iff]
    by_cases htaken : o.method taken ∈ taken
    · simp [methods_cons_of_taken, htaken]
    · simp only [methods_cons_of_free, htaken, not_false_eq_true, true_and, ← ih]
      cases methods (o.method taken :: taken) ops with
      | error e => simp [Except.map]
      | ok rest => simp [Except.map, eq_comm]

/-- The operations before some one have their names, and all candidates of that one are taken by
then. The last of them is the given one. -/
def StopsAt (taken : List String) (ops : List Operation) (name : String) : Prop :=
  ∃ before o after given, ops = before ++ o :: after ∧ Named taken before given ∧
    (∀ n ∈ o.candidates, n ∈ given ++ taken) ∧ o.candidates.getLast? = some name

theorem stopsAt_cons_of_taken {name : String} (h : o.method taken ∈ taken) :
    StopsAt taken (o :: ops) name ↔ o.method taken = name := by
  constructor
  · rintro ⟨before, p, after, given, heq, hnamed, -, hlast⟩
    cases before with
    | nil =>
      obtain ⟨rfl, rfl⟩ := List.cons.inj heq
      rw [getLast?_candidates h] at hlast
      exact Option.some.inj hlast
    | cons q before =>
      obtain ⟨rfl, rfl⟩ := List.cons.inj heq
      obtain ⟨_, _, hfree, _⟩ := named_cons_iff.mp hnamed
      exact absurd h hfree
  · rintro rfl
    exact ⟨[], o, ops, [], rfl, named_nil_iff.mpr rfl, method_mem_iff.mp h, getLast?_candidates h⟩

theorem stopsAt_cons_of_free {name : String} (h : o.method taken ∉ taken) :
    StopsAt taken (o :: ops) name ↔ StopsAt (o.method taken :: taken) ops name := by
  constructor
  · rintro ⟨before, p, after, given, heq, hnamed, hall, hlast⟩
    cases before with
    | nil =>
      obtain ⟨rfl, rfl⟩ := List.cons.inj heq
      rw [named_nil_iff.mp hnamed, List.nil_append] at hall
      exact absurd (method_mem_iff.mpr hall) h
    | cons q before =>
      obtain ⟨rfl, rfl⟩ := List.cons.inj heq
      obtain ⟨given, rfl, _, hnamed⟩ := named_cons_iff.mp hnamed
      refine ⟨before, p, after, given, rfl, hnamed, ?_, hlast⟩
      simpa [or_left_comm] using hall
  · rintro ⟨before, p, after, given, rfl, hnamed, hall, hlast⟩
    refine ⟨o :: before, p, after, o.method taken :: given, rfl,
      named_cons_iff.mpr ⟨given, rfl, h, hnamed⟩, ?_, hlast⟩
    simpa [or_left_comm] using hall

/-- The names stop at the first operation all of whose candidates are taken. -/
theorem methods_eq_error_iff {e : MethodCollision} :
    methods taken ops = .error e ↔ StopsAt taken ops e.method := by
  induction ops generalizing taken with
  | nil => simp [methods, StopsAt]
  | cons o ops ih =>
    by_cases htaken : o.method taken ∈ taken
    · cases e
      simp [methods_cons_of_taken htaken, stopsAt_cons_of_taken htaken]
    · rw [methods_cons_of_free htaken, stopsAt_cons_of_free htaken, ← ih]
      cases methods (o.method taken :: taken) ops <;> simp [Except.map]

namespace Named

theorem not_mem_taken (h : Named taken ops names) : ∀ n ∈ names, n ∉ taken := by
  intro n hn htaken
  obtain ⟨i, hi⟩ := List.mem_iff_getElem?.mp hn
  have hlt : i < ops.length := by
    rw [← h.length_eq]
    exact (List.getElem?_eq_some_iff.mp hi).1
  have hfound := h.getElem?_eq i _ (List.getElem?_eq_getElem hlt)
  rw [hi] at hfound
  have hfree := List.find?_some hfound.symm
  simp [htaken] at hfree

theorem nodup (h : Named taken ops names) : names.Nodup := by
  induction ops generalizing taken names with
  | nil =>
    rw [named_nil_iff.mp h]
    exact List.nodup_nil
  | cons o ops ih =>
    obtain ⟨rest, rfl, _, hrest⟩ := named_cons_iff.mp h
    refine List.nodup_cons.mpr ⟨fun hmem => ?_, ih hrest⟩
    exact hrest.not_mem_taken _ hmem List.mem_cons_self

/-- Every operation has its method for the names that the operations before it have. -/
theorem getElem?_eq_method (h : Named [] ops names) {i : Nat} (hi : ops[i]? = some o) :
    names[i]? = some (o.method (names.take i)) := by
  have hlt : i < names.length := by
    rw [h.length_eq]
    exact (List.getElem?_eq_some_iff.mp hi).1
  have hfound := h.getElem?_eq i o hi
  rw [List.append_nil, find?_candidates] at hfound
  by_cases htaken : o.method (names.take i) ∈ names.take i
  · rw [if_pos htaken, List.getElem?_eq_getElem hlt] at hfound
    cases hfound
  · rw [hfound, if_neg htaken]

end Named

end Operation
end SchemaSdk.Schema

namespace SchemaSdk.Sdk.Call

open SchemaSdk.Schema

variable {c : Collection}

/-! ## The calls of a collection -/

theorem ofCollection_eq_ok_iff {calls : List Call} : ofCollection c = .ok calls ↔
    ∃ names, Operation.Named [] c.operations names ∧
      calls = c.operations.zipWith (ofOperation c) names := by
  simp only [← Operation.methods_eq_ok_iff, ofCollection]
  cases Operation.methods [] c.operations with
  | error e => simp [Except.map]
  | ok names => simp [Except.map, eq_comm]

/-- A call is that of the operation in its place under the method that the names before it leave. -/
theorem exists_operation_of_getElem? {calls : List Call} (h : ofCollection c = .ok calls) {k : Call}
    {i : Nat} (hk : calls[i]? = some k) :
    ∃ o taken, c.operations[i]? = some o ∧ k = ofOperation c o (o.method taken) := by
  obtain ⟨names, hnamed, rfl⟩ := ofCollection_eq_ok_iff.mp h
  obtain ⟨o, name, ho, hname, rfl⟩ := List.getElem?_zipWith_eq_some.mp hk
  rw [hnamed.getElem?_eq_method ho, Option.some.injEq] at hname
  exact ⟨o, names.take i, ho, by rw [hname]⟩

theorem exists_operation_of_mem {calls : List Call} (h : ofCollection c = .ok calls) {k : Call}
    (hk : k ∈ calls) :
    ∃ o ∈ c.operations, ∃ taken, k = ofOperation c o (o.method taken) := by
  obtain ⟨i, hi⟩ := List.mem_iff_getElem?.mp hk
  obtain ⟨o, taken, ho, heq⟩ := exists_operation_of_getElem? h hi
  exact ⟨o, List.mem_of_getElem? ho, taken, heq⟩

theorem ofCollection_eq_error_iff {e : MethodCollision} :
    ofCollection c = .error e ↔ Operation.methods [] c.operations = .error e := by
  rw [ofCollection]
  cases Operation.methods [] c.operations <;> simp [Except.map]

theorem map_method_zipWith {ops : List Operation} {names : List String}
    (h : names.length = ops.length) :
    (ops.zipWith (ofOperation c) names).map (·.method) = names := by
  calc (ops.zipWith (ofOperation c) names).map (·.method)
      = (ops.zip names).map Prod.snd := by
        rw [List.map_zipWith, List.zip_eq_zipWith, List.map_zipWith]
        rfl
    _ = names := List.map_snd_zip (Nat.le_of_eq h)

/-- **The methods of a client.** If no two operations collide, every operation has a call in its
place. A query is called after its field; a mutation is too, unless a query or a mutation before it
has that name, and then its own name says that it is a mutation. They collide exactly if an
operation finds all its candidates among the names of those before it, and the last one of the first
such operation is reported. -/
theorem ofCollection_ends (c : Collection) :
    (∀ calls, ofCollection c = .ok calls →
      calls.length = c.operations.length ∧ (calls.map (·.method)).Nodup ∧
      ∀ (i : Nat) (o : Operation), c.operations[i]? = some o →
        calls[i]? = some (ofOperation c o
          (if o.kind = .mutation ∧ Identifier.ofField o.field.name ∈ (calls.take i).map (·.method)
            then Identifier.ofField (Text.snakeCase o.field.name ++ "_mutation")
            else Identifier.ofField o.field.name))) ∧
    ∀ e, ofCollection c = .error e ↔
      ∃ before o after given, c.operations = before ++ o :: after ∧
        Operation.Named [] before given ∧ (∀ n ∈ o.candidates, n ∈ given) ∧
        o.candidates.getLast? = some e.method := by
  constructor
  · intro calls hcalls
    obtain ⟨names, hnamed, rfl⟩ := ofCollection_eq_ok_iff.mp hcalls
    have hmethods := map_method_zipWith (c := c) hnamed.length_eq
    refine ⟨by simp [hnamed.length_eq], by rw [hmethods]; exact hnamed.nodup, ?_⟩
    intro i o ho
    have hname := hnamed.getElem?_eq_method ho
    rw [List.map_take, hmethods, List.getElem?_zipWith, ho, hname]
    simp only [Operation.method, Operation.plainMethod, Operation.mutationMethod,
      List.contains_iff_mem]
  · intro e
    rw [ofCollection_eq_error_iff, Operation.methods_eq_error_iff]
    simp only [Operation.StopsAt, List.append_nil]

end SchemaSdk.Sdk.Call
