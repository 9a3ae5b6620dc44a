import Mathlib.Algebra.Order.BigOperators.Group.List
import Mathlib.Algebra.Order.Group.Nat
import Mathlib.Algebra.Ring.Nat
import Mathlib.Data.List.Perm.Subperm
import Mathlib.Logic.Relation
import SchemaSdk.Proofs.Sdk.Fragments

/-!
# The models of a request in depth first order

The models whose fragments a request defines are collected by a loop with a stack, which holds a
model as often as it was met and drops it when it comes up again. The loop ends for every
collection, also for one with cycles, and collects what a recursive search enters: from a model it
goes into the types of the fields from left to right, and it enters no model twice. So each model
that can be reached is collected once.
-/
namespace SchemaSdk.Schema

variable {c : Collection}

namespace Collection

/-! ## The search as a recursion -/

/-- Seeing more names leaves no more models unseen. -/
theorem unseen_append_le (c : Collection) (names seen : List String) :
    c.unseen (names ++ seen) ≤ c.unseen seen := by
  refine List.countP_mono_left fun m _ hm => ?_
  simp only [Bool.not_eq_true', List.contains_eq_mem, List.mem_append, decide_eq_false_iff_not,
    not_or] at hm ⊢
  exact hm.2

/-- The models that a depth first search of the named types enters, in the order in which it enters
them. From a model it goes on into the types that its fields name, from left to right, and what it
has entered below one type it does not enter again below a later one. -/
def depthFirst (c : Collection) (seen : List String) : List String → List Model
  | [] => []
  | name :: names =>
    match _found : c.model? name with
    | none => depthFirst c seen names
    | some m =>
      if _new : seen.contains name then depthFirst c seen names
      else
        let below := depthFirst c (name :: seen) (references m)
        m :: below ++ depthFirst c (below.map (·.name) ++ name :: seen) names
termination_by names => (c.unseen seen, names.length)
decreasing_by
  · exact .right _ (by simp)
  · exact .right _ (by simp)
  · exact .left _ _ (unseen_lt _found (by simpa using _new))
  · refine .left _ _ ((unseen_append_le c _ _).trans_lt ?_)
    exact unseen_lt _found (by simpa using _new)

/-- Only which names were seen matters, and not in what order. -/
theorem visit_congr {seen seen' waiting : List String} (h : ∀ name, name ∈ seen ↔ name ∈ seen') :
    c.visit seen waiting = c.visit seen' waiting := by
  fun_induction visit c seen waiting generalizing seen' with
  | case1 seen => rw [visit]
  | case2 seen name waiting hfound ih => rw [visit_cons_of_none hfound, ih h]
  | case3 seen name waiting m hfound hseen ih =>
    have hseen' : seen'.contains name = true := by simpa [h] using hseen
    rw [visit_cons_of_seen hseen', ih h]
  | case4 seen name waiting m hfound hnew ih =>
    have hnew' : ¬ seen'.contains name = true := by simpa [h] using hnew
    rw [visit_cons_of_new hfound hnew']
    congr 1
    exact ih fun other => by simp [h]

/-- The loop first enters what the search of the names on top of the stack enters, and then goes on
with the names below them. -/
theorem visit_append (seen names waiting : List String) :
    c.visit seen (names ++ waiting) = c.depthFirst seen names ++
      c.visit ((c.depthFirst seen names).map (·.name) ++ seen) waiting := by
  fun_induction depthFirst c seen names generalizing waiting with
  | case1 seen => rfl
  | case2 seen name names hfound ih => rw [List.cons_append, visit_cons_of_none hfound, ih]
  | case3 seen name names m hfound hseen ih => rw [List.cons_append, visit_cons_of_seen hseen, ih]
  | case4 seen name names m hfound hnew below ihbelow ih =>
    have hname := (mem_of_model? hfound).2
    rw [List.cons_append, visit_cons_of_new hfound hnew, ihbelow, ih]
    simp only [List.map_cons, List.map_append, List.cons_append, List.append_assoc, hname]
    congr 3
    -- Both sides go on with the same names seen, listed in different orders.
    refine visit_congr fun other => ?_
    simp only [List.mem_append, List.mem_cons, below]
    tauto

theorem fragmentModels_eq_depthFirst (c : Collection) (f : Field) :
    c.fragmentModels f = c.depthFirst [] [f.typeName] := by
  have happend := visit_append (c := c) [] [f.typeName] []
  rwa [List.append_nil, visit, List.append_nil] at happend

/-! ## What can be reached -/

/-- One model refers to another if it has a field of the type that the other one is found as. -/
def RefersTo (c : Collection) (b a : Model) : Prop :=
  ∃ f ∈ b.fields, f.isNamed = true ∧ c.model? f.typeName = some a

theorem mem_models_of_refersTo {b a : Model} (h : c.RefersTo b a) : a ∈ c.models := by
  obtain ⟨_, _, _, ha⟩ := h
  exact (mem_of_model? ha).1

theorem refersTo_iff {b a : Model} :
    c.RefersTo b a ↔ ∃ name ∈ references b, c.model? name = some a := by
  simp only [RefersTo, references, List.mem_map, List.mem_filter]
  constructor
  · rintro ⟨f, hf, hnamed, ha⟩
    rw [typeName_of_isNamed hnamed] at ha
    exact ⟨f.base, ⟨f, ⟨hf, hnamed⟩, rfl⟩, ha⟩
  · rintro ⟨_, ⟨f, ⟨hf, hnamed⟩, rfl⟩, ha⟩
    refine ⟨f, hf, hnamed, ?_⟩
    rw [typeName_of_isNamed hnamed, ha]

/-- A model can be reached from a field if fields lead to it from the model that the type of the
field is found as. -/
def Reaches (c : Collection) (f : Field) (m : Model) : Prop :=
  ∃ start, c.model? f.typeName = some start ∧ Relation.ReflTransGen c.RefersTo start m

/-- What is visited can be reached from what waits. -/
theorem exists_path_of_mem_visit {seen waiting : List String} :
    ∀ m ∈ c.visit seen waiting, ∃ name ∈ waiting, ∃ start, c.model? name = some start ∧
      Relation.ReflTransGen c.RefersTo start m := by
  fun_induction visit c seen waiting with
  | case1 seen => simp
  | case2 seen name waiting hfound ih =>
    intro m hm
    obtain ⟨other, hother, hpath⟩ := ih m hm
    exact ⟨other, List.mem_cons_of_mem name hother, hpath⟩
  | case3 seen name waiting m hfound hseen ih =>
    intro a ha
    obtain ⟨other, hother, hpath⟩ := ih a ha
    exact ⟨other, List.mem_cons_of_mem name hother, hpath⟩
  | case4 seen name waiting m hfound hnew ih =>
    refine List.forall_mem_cons.mpr ⟨⟨name, List.mem_cons_self, m, hfound, .refl⟩, ?_⟩
    intro a ha
    obtain ⟨other, hother, start, hstart, hpath⟩ := ih a ha
    -- The path starts at a model that waited before, or at one that the visited model refers to.
    rcases List.mem_append.mp hother with hbelow | hwaiting
    · exact ⟨name, List.mem_cons_self, m, hfound,
        .head (refersTo_iff.mpr ⟨other, hbelow, hstart⟩) hpath⟩
    · exact ⟨other, List.mem_cons_of_mem name hwaiting, start, hstart, hpath⟩

theorem mem_fragmentModels_iff {f : Field} {m : Model} :
    m ∈ c.fragmentModels f ↔ c.Reaches f m := by
  constructor
  · intro hm
    obtain ⟨name, hname, start, hstart, hpath⟩ := exists_path_of_mem_visit m hm
    rw [List.mem_singleton.mp hname] at hstart
    exact ⟨start, hstart, hpath⟩
  · rintro ⟨start, hstart, hpath⟩
    have hentered : ∀ {name : String} {a : Model}, c.model? name = some a →
        (name ∈ [f.typeName] ∨ ∃ b ∈ c.fragmentModels f, name ∈ references b) →
          a ∈ c.fragmentModels f := by
      intro name a ha hneeded
      exact (mem_visit ha hneeded).resolve_left List.not_mem_nil
    induction hpath with
    | refl => exact hentered hstart (.inl List.mem_cons_self)
    | tail _ hrefers ih =>
      obtain ⟨name, hname, ha⟩ := refersTo_iff.mp hrefers
      exact hentered ha (.inr ⟨_, ih, hname⟩)

theorem fragmentModels_eq_nil_iff {f : Field} :
    c.fragmentModels f = [] ↔ c.model? f.typeName = none := by
  simp only [List.eq_nil_iff_forall_not_mem, mem_fragmentModels_iff, Reaches,
    Option.eq_none_iff_forall_ne_some]
  constructor
  · intro h start hstart
    exact h start ⟨start, hstart, .refl⟩
  · rintro h m ⟨start, hstart, _⟩
    exact h start hstart

theorem nodup_fragmentModels (c : Collection) (f : Field) : (c.fragmentModels f).Nodup :=
  List.Nodup.of_map _ nodup_visit

theorem fragmentModels_subset (c : Collection) (f : Field) : c.fragmentModels f ⊆ c.models := by
  intro m hm
  exact (mem_of_model? (model?_of_mem_visit m hm).1).1

/-- What models amount to together is no more for those of a request than for all. -/
theorem sum_fragmentModels_le (c : Collection) (f : Field) (size : Model → Nat) :
    ((c.fragmentModels f).map size).sum ≤ (c.models.map size).sum := by
  obtain ⟨models, hperm, hsublist⟩ :=
    (nodup_fragmentModels c f).subperm (c.fragmentModels_subset f)
  rw [← (hperm.map size).sum_eq]
  exact (hsublist.map size).sum_le_sum fun _ _ => Nat.zero_le _

end Collection

/-! ## The loop with a stack -/

/-- How far the collection of models has come: the names of those collected, the models in the order
in which they were collected, and those that wait. The last of these comes next. -/
structure Search where
  seen : List String
  collected : List Model
  stack : List Model

namespace Search

/-- The models that the fields of a model refer to, from left to right. -/
def referred (c : Collection) (m : Model) : List Model :=
  (m.fields.filter (·.isNamed)).filterMap fun f => c.model? f.typeName

theorem referred_eq (m : Model) :
    referred c m = (Collection.references m).filterMap c.model? := by
  rw [referred, Collection.references, List.filterMap_map]
  refine List.filterMap_congr fun f hf => ?_
  rw [Function.comp_apply, Collection.typeName_of_isNamed (List.mem_filter.mp hf).2]

/-- The search before the first turn. -/
def start (c : Collection) (f : Field) : Search := ⟨[], [], (c.model? f.typeName).toList⟩

/-- One turn of the loop, if there is another: the model on top of the stack is dropped if it was
collected before, or collected and replaced by those that it refers to, the leftmost on top. -/
def turn (c : Collection) (s : Search) : Option Search :=
  s.stack.getLast?.map fun m =>
    if s.seen.contains m.name then ⟨s.seen, s.collected, s.stack.dropLast⟩
    else ⟨m.name :: s.seen, s.collected ++ [m], s.stack.dropLast ++ (referred c m).reverse⟩

/-- The loop ends in a state after a number of turns. -/
inductive Ends (c : Collection) : Nat → Search → Search → Prop where
  | finished {s : Search} (h : s.turn c = none) : Ends c 0 s s
  | turned {n : Nat} {s t u : Search} (h : s.turn c = some t) (hend : Ends c n t u) :
    Ends c (n + 1) s u

/-- A turn leaves no choice, so the loop has one end. -/
theorem Ends.unique {n n' : Nat} {s t t' : Search} (h : Ends c n s t) (h' : Ends c n' s t') :
    t = t' := by
  induction h generalizing n' with
  | finished hnone =>
    cases h' with
    | finished _ => rfl
    | turned hturn _ =>
      rw [hnone] at hturn
      cases hturn
  | turned hturn _ ih =>
    cases h' with
    | finished hnone =>
      rw [hnone] at hturn
      cases hturn
    | turned hturn' hend =>
      obtain rfl := Option.some.inj (hturn.symm.trans hturn')
      exact ih hend

/-- The stack on which named types wait, the first one on top. -/
def stackOf (c : Collection) (names : List String) : List Model :=
  (names.filterMap c.model?).reverse

theorem stackOf_append (names waiting : List String) :
    stackOf c (names ++ waiting) = stackOf c waiting ++ stackOf c names := by
  rw [stackOf, List.filterMap_append, List.reverse_append]
  rfl

theorem stackOf_cons_of_some {name : String} {m : Model} (h : c.model? name = some m)
    (waiting : List String) : stackOf c (name :: waiting) = stackOf c waiting ++ [m] := by
  simp [stackOf, h]

theorem turn_of_seen {s : Search} {stack : List Model} {m : Model} (hstack : s.stack = stack ++ [m])
    (h : s.seen.contains m.name = true) : s.turn c = some ⟨s.seen, s.collected, stack⟩ := by
  rw [turn, hstack, List.getLast?_concat, List.dropLast_concat, Option.map_some, if_pos h]

theorem turn_of_new {s : Search} {stack : List Model} {m : Model} (hstack : s.stack = stack ++ [m])
    (h : ¬ s.seen.contains m.name = true) :
    s.turn c = some ⟨m.name :: s.seen, s.collected ++ [m], stack ++ (referred c m).reverse⟩ := by
  rw [turn, hstack, List.getLast?_concat, List.dropLast_concat, Option.map_some, if_neg h]

/-- The loop collects what is visited from the names that wait on its stack. It takes a turn for
every model that is on the stack or that comes onto it. -/
theorem ends_visit (collected : List Model) (seen waiting : List String) :
    ∃ seen', Ends c
      ((stackOf c waiting).length + ((c.visit seen waiting).map fun m => (referred c m).length).sum)
      ⟨seen, collected, stackOf c waiting⟩ ⟨seen', collected ++ c.visit seen waiting, []⟩ := by
  fun_induction Collection.visit c seen waiting generalizing collected with
  | case1 seen => exact ⟨seen, by simpa using .finished rfl⟩
  | case2 seen name waiting hfound ih => simpa [stackOf, hfound] using ih collected
  | case3 seen name waiting m hfound hseen ih =>
    obtain ⟨seen', hend⟩ := ih collected
    rw [← (Collection.mem_of_model? hfound).2] at hseen
    rw [stackOf_cons_of_some hfound, List.length_append, List.length_singleton, Nat.add_right_comm]
    exact ⟨seen', .turned (turn_of_seen rfl hseen) hend⟩
  | case4 seen name waiting m hfound hnew ih =>
    obtain ⟨seen', hend⟩ := ih (collected ++ [m])
    have hbelow : stackOf c (Collection.references m ++ waiting) =
        stackOf c waiting ++ (referred c m).reverse := by
      rw [stackOf_append, referred_eq]
      rfl
    have hname := (Collection.mem_of_model? hfound).2
    rw [hbelow, List.length_append, List.length_reverse, List.append_assoc, ← hname,
      Nat.add_assoc] at hend
    rw [← hname] at hnew
    rw [stackOf_cons_of_some hfound, List.length_append, List.length_singleton, List.map_cons,
      List.sum_cons, ← hname, Nat.add_right_comm]
    exact ⟨seen', .turned (turn_of_new rfl hnew) hend⟩

theorem length_referred_le (c : Collection) (m : Model) :
    (referred c m).length ≤ m.fields.length :=
  (List.length_filterMap_le _ _).trans (List.length_filter_le _ _)

theorem stackOf_typeName (c : Collection) (f : Field) :
    stackOf c [f.typeName] = (start c f).stack := by
  cases h : c.model? f.typeName <;> simp [stackOf, start, h]

/-- From the first turn the loop comes to the models of the request. It takes no more turns than
there are fields, and one for the model that it starts with. -/
theorem ends_fragmentModels (c : Collection) (f : Field) :
    ∃ n seen, Ends c n (start c f) ⟨seen, c.fragmentModels f, []⟩ ∧
      n ≤ 1 + (c.models.map (·.fields.length)).sum := by
  obtain ⟨seen, hend⟩ := ends_visit (c := c) [] [] [f.typeName]
  rw [stackOf_typeName, List.nil_append] at hend
  refine ⟨_, seen, hend, Nat.add_le_add ?_ ?_⟩
  · exact Option.length_toList_le
  · calc
      ((c.fragmentModels f).map fun m => (referred c m).length).sum
          ≤ (c.models.map fun m => (referred c m).length).sum := c.sum_fragmentModels_le f _
      _ ≤ (c.models.map (·.fields.length)).sum :=
        List.sum_le_sum fun m _ => length_referred_le c m

end Search

/-- **The models of a request.** For every collection and every field, the loop with a stack ends,
and it has then collected what the recursive search enters, in the same order. These are the models
that can be reached from the field, each once. -/
theorem Collection.fragmentModels_depthFirst (c : Collection) (f : Field) :
    (∃ n s, Search.Ends c n (.start c f) s ∧ n ≤ 1 + (c.models.map (·.fields.length)).sum) ∧
      (∀ n s, Search.Ends c n (.start c f) s → s.collected = c.fragmentModels f) ∧
      c.fragmentModels f = c.depthFirst [] [f.typeName] ∧
      (c.fragmentModels f).Nodup ∧
      ∀ m, m ∈ c.fragmentModels f ↔ c.Reaches f m := by
  obtain ⟨n, seen, hend, hturns⟩ := Search.ends_fragmentModels c f
  refine ⟨⟨n, _, hend, hturns⟩, ?_, fragmentModels_eq_depthFirst c f, nodup_fragmentModels c f,
    fun _ => mem_fragmentModels_iff⟩
  intro n' s hend'
  rw [hend'.unique hend]

end SchemaSdk.Schema
