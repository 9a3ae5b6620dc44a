import SchemaSdk.Proofs.Lookup
import SchemaSdk.Schema.Collect

/-!
# What a document defines

A document with its extensions merged in, said without the order in which they are applied: a type
has its own fields and then those of all extensions of its name. Reading a document gives this
collection unless a name is defined twice or an extension finds nothing to extend, and it reports
the first such place.
-/
namespace SchemaSdk.Schema

/-- The fields of an object or interface type. -/
def TypeBody.fields : TypeBody → List FieldDef
  | .object fields | .interface fields => fields
  | _ => []

/-- The values of an enumeration. -/
def TypeBody.values : TypeBody → List ValueDef
  | .enumeration values => values
  | _ => []

def TypeBody.isObject : TypeBody → Bool
  | .object _ => true
  | _ => false

def TypeBody.isEnumeration : TypeBody → Bool
  | .enumeration _ => true
  | _ => false

def TypeBody.isScalar : TypeBody → Bool
  | .scalar => true
  | _ => false

/-- The name is in the list after the same name, and no name before that repeats one. -/
def IsFirstRepeated (n : String) (names : List String) : Prop :=
  ∃ before after, names = before ++ n :: after ∧ n ∈ before ∧ before.Nodup

namespace Document

/-- The names of the type definitions. -/
def typeNames (d : Document) : List String := d.types.map (·.name.text)

/-- Whether the name is that of a root type. -/
def isRoot (d : Document) (name : String) : Bool :=
  (d.roots.kindOf name).isSome || d.roots.isSubscription name

/-- Whether what is defined or extended is a model: an interface, or an object type that is no
root. -/
def concernsModel (d : Document) (name : Name) : TypeBody → Bool
  | .object _ => !d.isRoot name.text
  | .interface _ => true
  | _ => false

/-- The definitions of models. -/
def modelDefs (d : Document) : List TypeDef :=
  d.types.filter fun t => d.concernsModel t.name t.body

/-- The definitions of enumerations. -/
def enumDefs (d : Document) : List TypeDef := d.types.filter (·.body.isEnumeration)

/-- The fields that extensions add to a model. -/
def addedFields (d : Document) (es : List TypeExtension) (name : String) : List FieldDef :=
  (es.filter fun e => d.concernsModel e.name e.body && e.name.text == name).flatMap (·.body.fields)

/-- The values that extensions add to an enumeration. -/
def addedValues (es : List TypeExtension) (name : String) : List ValueDef :=
  (es.filter fun e => e.body.isEnumeration && e.name.text == name).flatMap (·.body.values)

/-- The fields of the root for a kind of operations, those of definitions before those of
extensions. -/
def operationDefs (d : Document) (kind : OperationKind) : List FieldDef :=
  (d.types.filter fun t => t.body.isObject && d.roots.kindOf t.name.text == some kind).flatMap
      (·.body.fields) ++
    (d.extensions.filter fun e =>
      e.body.isObject && d.roots.kindOf e.name.text == some kind).flatMap (·.body.fields)

/-- The collection of a document after some of its extensions. -/
def merged (d : Document) (es : List TypeExtension) : Collection where
  models := d.modelDefs.map fun t =>
    ⟨t.name.text, t.description, (t.body.fields ++ d.addedFields es t.name.text).map .ofDef⟩
  enums := d.enumDefs.map fun t =>
    ⟨t.name.text, t.description, (t.body.values ++ addedValues es t.name.text).map (·.name.text)⟩
  scalars := (d.types.filter (·.body.isScalar)).map (·.name.text)
  queries := (d.operationDefs .query).map .ofDef
  mutations := (d.operationDefs .mutation).map .ofDef

/-- The extension is one of a model or an enumeration that the document does not define. -/
def Dangling (d : Document) (e : TypeExtension) : Prop :=
  (d.concernsModel e.name e.body = true ∧ ∀ t ∈ d.modelDefs, t.name.text ≠ e.name.text) ∨
    (e.body.isEnumeration = true ∧ ∀ t ∈ d.enumDefs, t.name.text ≠ e.name.text)

instance (d : Document) : DecidablePred d.Dangling := fun _ => inferInstanceAs (Decidable (_ ∨ _))

/-- The roots are those that the first schema block lists, or the conventional ones if there is no
schema block. -/
def HasRoots (d : Document) (roots : Roots) : Prop :=
  (∃ before after, d = before ++ .schema roots :: after ∧ ∀ r, .schema r ∉ before) ∨
    (∀ r, .schema r ∉ d) ∧ roots = ⟨some "Query", some "Mutation", some "Subscription"⟩

/-- The name is that of the first dangling extension. -/
def IsFirstDangling (d : Document) (n : String) : Prop :=
  ∃ before e after, d.extensions = before ++ e :: after ∧ d.Dangling e ∧
    (∀ x ∈ before, ¬ d.Dangling x) ∧ e.name.text = n

end Document

/-! ## Repeated names -/

theorem firstRepeated_eq_none_iff {seen names : List String} :
    firstRepeated seen names = none ↔ names.Nodup ∧ ∀ n ∈ names, n ∉ seen := by
  induction names generalizing seen with
  | nil => simp [firstRepeated]
  | cons n ns ih =>
    rw [List.nodup_cons, List.forall_mem_cons]
    by_cases h : n ∈ seen
    · simp [firstRepeated, h]
    · simp only [firstRepeated, List.contains_eq_mem, h, decide_false, Bool.false_eq_true, if_false,
        ih, List.mem_cons, not_or]
      constructor
      · rintro ⟨hns, hseen⟩
        exact ⟨⟨fun hn => (hseen n hn).1 rfl, hns⟩, not_false, fun m hm => (hseen m hm).2⟩
      · rintro ⟨⟨hn, hns⟩, _, hseen⟩
        exact ⟨hns, fun m hm => ⟨fun hmn => hn (hmn ▸ hm), hseen m hm⟩⟩

/-- Before the name that is reported stand different names, none of them seen earlier. -/
theorem firstRepeated_eq_some_iff {seen names : List String} {n : String} :
    firstRepeated seen names = some n ↔ ∃ before after, names = before ++ n :: after ∧
      (n ∈ seen ∨ n ∈ before) ∧ before.Nodup ∧ ∀ m ∈ before, m ∉ seen := by
  induction names generalizing seen with
  | nil => simp [firstRepeated]
  | cons m ms ih =>
    by_cases h : m ∈ seen
    · simp only [firstRepeated, List.contains_eq_mem, h, decide_true, if_true, Option.some.injEq]
      constructor
      · rintro rfl
        exact ⟨[], ms, rfl, Or.inl h, List.nodup_nil, by simp⟩
      · rintro ⟨before, after, heq, _, _, hseen⟩
        cases before with
        | nil => exact (List.cons.inj heq).1
        | cons k ks =>
          obtain ⟨rfl, _⟩ := List.cons.inj heq
          exact absurd h (hseen m List.mem_cons_self)
    · simp only [firstRepeated, List.contains_eq_mem, h, decide_false, Bool.false_eq_true, if_false,
        ih]
      constructor
      · rintro ⟨before, after, rfl, hn, hbefore, hseen⟩
        have hm : m ∉ before := fun hmem => hseen m hmem List.mem_cons_self
        refine ⟨m :: before, after, rfl, ?_, List.nodup_cons.mpr ⟨hm, hbefore⟩, ?_⟩
        · simpa [or_assoc, or_comm, or_left_comm] using hn
        · exact List.forall_mem_cons.mpr
            ⟨h, fun k hk hmem => hseen k hk (List.mem_cons_of_mem m hmem)⟩
      · rintro ⟨before, after, heq, hn, hbefore, hseen⟩
        cases before with
        | nil =>
          obtain ⟨rfl, _⟩ := List.cons.inj heq
          exact absurd (by simpa using hn) h
        | cons k ks =>
          obtain ⟨rfl, rfl⟩ := List.cons.inj heq
          obtain ⟨hm, hks⟩ := List.nodup_cons.mp hbefore
          refine ⟨ks, after, rfl, by simpa [or_assoc, or_comm, or_left_comm] using hn, hks, ?_⟩
          intro k hk hmem
          rcases List.mem_cons.mp hmem with rfl | hmem
          · exact hm hk
          · exact hseen k (List.mem_cons_of_mem m hk) hmem

theorem firstRepeated_nil_eq_some_iff {names : List String} {n : String} :
    firstRepeated [] names = some n ↔ IsFirstRepeated n names := by
  simp [firstRepeated_eq_some_iff, IsFirstRepeated]

/-- Some name is the first repeated exactly if the names are not all different. -/
theorem exists_isFirstRepeated_iff {names : List String} :
    (∃ n, IsFirstRepeated n names) ↔ ¬ names.Nodup := by
  have hnone : firstRepeated [] names = none ↔ names.Nodup := by
    simp [firstRepeated_eq_none_iff]
  rw [← hnone, ← ne_eq, Option.ne_none_iff_exists']
  simp only [firstRepeated_nil_eq_some_iff]

/-! ## Applying extensions -/

namespace Document

variable {d : Document} {es : List TypeExtension} {e : TypeExtension}

theorem models_ofTypes (d : Document) : (Collection.ofTypes d).models = (d.merged []).models := by
  simp only [Collection.ofTypes, merged, modelDefs, addedFields, ← List.filterMap_eq_map,
    List.filterMap_filter]
  refine List.filterMap_congr fun t _ => ?_
  obtain ⟨description, name, body⟩ := t
  cases body with
  | object fields =>
    by_cases h : d.isRoot name.text = true
    · have h' := h
      simp only [isRoot, Bool.or_eq_true] at h'
      simp [TypeDef.model?, concernsModel, h, h']
    · have h' := h
      simp only [isRoot, Bool.or_eq_true] at h'
      simp [TypeDef.model?, concernsModel, TypeBody.fields, h, h']
  | interface fields => simp [TypeDef.model?, concernsModel, TypeBody.fields]
  | _ => rfl

theorem enums_ofTypes (d : Document) : (Collection.ofTypes d).enums = (d.merged []).enums := by
  simp only [Collection.ofTypes, merged, enumDefs, addedValues, ← List.filterMap_eq_map,
    List.filterMap_filter]
  refine List.filterMap_congr fun t _ => ?_
  obtain ⟨description, name, body⟩ := t
  cases body <;> simp [TypeDef.enum?, TypeBody.isEnumeration, TypeBody.values]

theorem scalars_ofTypes (d : Document) :
    (Collection.ofTypes d).scalars = (d.merged []).scalars := by
  simp only [Collection.ofTypes, merged, ← List.filterMap_eq_map, List.filterMap_filter]
  refine List.filterMap_congr fun t _ => ?_
  obtain ⟨description, name, body⟩ := t
  cases body <;> rfl

/-- The fields of a body are operations if it is that of an object type that is a root. -/
theorem rootFields_eq (roots : Roots) (kind : OperationKind) (name : String) (body : TypeBody) :
    body.rootFields roots kind name =
      if body.isObject && roots.kindOf name == some kind then body.fields.map .ofDef else [] := by
  cases body <;> simp [TypeBody.rootFields, TypeBody.isObject, TypeBody.fields]

theorem flatMap_ite {α β : Type} (p : α → Bool) (f : α → List β) (l : List α) :
    l.flatMap (fun a => if p a then f a else []) = (l.filter p).flatMap f := by
  induction l with
  | nil => rfl
  | cons a l ih => by_cases h : p a <;> simp [h, ih]

theorem rootFields_eq_map_operationDefs (d : Document) (kind : OperationKind) :
    d.rootFields kind = (d.operationDefs kind).map .ofDef := by
  simp only [rootFields, rootFields_eq, flatMap_ite, operationDefs, List.map_append,
    List.map_flatMap]

theorem ofTypes_eq_merged (d : Document) : Collection.ofTypes d = d.merged [] := by
  have hmodels := models_ofTypes d
  have henums := enums_ofTypes d
  have hscalars := scalars_ofTypes d
  have hqueries := rootFields_eq_map_operationDefs d .query
  have hmutations := rootFields_eq_map_operationDefs d .mutation
  simp only [Collection.ofTypes] at hmodels henums hscalars ⊢
  rw [hmodels, henums, hscalars, hqueries, hmutations]
  rfl

theorem addedFields_append (d : Document) (es : List TypeExtension) (e : TypeExtension)
    (name : String) : d.addedFields (es ++ [e]) name = d.addedFields es name ++
      if d.concernsModel e.name e.body = true ∧ e.name.text = name then e.body.fields else [] := by
  by_cases h : d.concernsModel e.name e.body = true ∧ e.name.text = name
  · simp [addedFields, h]
  · simp [addedFields, h]

theorem addedValues_append (es : List TypeExtension) (e : TypeExtension) (name : String) :
    addedValues (es ++ [e]) name = addedValues es name ++
      if e.body.isEnumeration = true ∧ e.name.text = name then e.body.values else [] := by
  by_cases h : e.body.isEnumeration = true ∧ e.name.text = name
  · simp [addedValues, h]
  · simp [addedValues, h]

/-- An extension of neither a model nor an enumeration adds nothing. -/
theorem merged_append_of_other (hmodel : d.concernsModel e.name e.body = false)
    (henum : e.body.isEnumeration = false) : d.merged (es ++ [e]) = d.merged es := by
  simp [merged, addedFields_append, addedValues_append, hmodel, henum]

theorem isSome_model?_merged {name : String} :
    ((d.merged es).model? name).isSome = true ↔ ∃ t ∈ d.modelDefs, t.name.text = name := by
  simp [Collection.model?, merged]

theorem isEnum_merged {name : String} :
    (d.merged es).isEnum name = true ↔ ∃ t ∈ d.enumDefs, t.name.text = name := by
  simp [Collection.isEnum, merged]

/-- The fields of an extension go to the end of the fields of the model it names. -/
theorem extendModel_merged (hmodel : d.concernsModel e.name e.body = true)
    (henum : e.body.isEnumeration = false) :
    (d.merged es).extendModel e.name.text (e.body.fields.map .ofDef) =
      if d.Dangling e then .error (.undefinedExtension e.name.text)
      else .ok (d.merged (es ++ [e])) := by
  have hdangling : d.Dangling e ↔ ¬ ∃ t ∈ d.modelDefs, t.name.text = e.name.text := by
    simp [Dangling, hmodel, henum]
  rw [Collection.extendModel]
  by_cases h : ∃ t ∈ d.modelDefs, t.name.text = e.name.text
  · rw [if_pos (isSome_model?_merged.mpr h), if_neg (fun hd => hdangling.mp hd h)]
    simp only [merged, addedFields_append, addedValues_append, hmodel, henum, List.map_map,
      true_and, Bool.false_eq_true, false_and, if_false, List.append_nil]
    congr 2
    refine List.map_congr_left fun t _ => ?_
    by_cases ht : t.name.text = e.name.text
    · simp [ht]
    · simp [ht, Ne.symm ht]
  · rw [if_neg (mt isSome_model?_merged.mp h), if_pos (hdangling.mpr h)]

/-- The values of an extension go to the end of the values of the enumeration it names. -/
theorem extendEnum_merged (hmodel : d.concernsModel e.name e.body = false)
    (henum : e.body.isEnumeration = true) :
    (d.merged es).extendEnum e.name.text (e.body.values.map (·.name.text)) =
      if d.Dangling e then .error (.undefinedExtension e.name.text)
      else .ok (d.merged (es ++ [e])) := by
  have hdangling : d.Dangling e ↔ ¬ ∃ t ∈ d.enumDefs, t.name.text = e.name.text := by
    simp [Dangling, hmodel, henum]
  rw [Collection.extendEnum]
  by_cases h : ∃ t ∈ d.enumDefs, t.name.text = e.name.text
  · rw [if_pos (isEnum_merged.mpr h), if_neg (fun hd => hdangling.mp hd h)]
    simp only [merged, addedFields_append, addedValues_append, hmodel, henum, List.map_map,
      true_and, Bool.false_eq_true, false_and, if_false, List.append_nil]
    congr 2
    refine List.map_congr_left fun t _ => ?_
    by_cases ht : t.name.text = e.name.text
    · simp [ht]
    · simp [ht, Ne.symm ht]
  · rw [if_neg (mt isEnum_merged.mp h), if_pos (hdangling.mpr h)]

/-- An extension is refused exactly if it is dangling, and otherwise merged in. -/
theorem extend_merged (d : Document) (es : List TypeExtension) (e : TypeExtension) :
    (d.merged es).extend d.roots e =
      if d.Dangling e then .error (.undefinedExtension e.name.text)
      else .ok (d.merged (es ++ [e])) := by
  obtain ⟨name, body⟩ := e
  have hother : ∀ b, d.concernsModel name b = false → b.isEnumeration = false →
      Except.ok (d.merged es) =
        if d.Dangling ⟨name, b⟩ then .error (SchemaError.undefinedExtension name.text)
        else .ok (d.merged (es ++ [⟨name, b⟩])) := by
    intro b hmodel henum
    have hdangling : ¬ d.Dangling ⟨name, b⟩ := by simp [Dangling, hmodel, henum]
    rw [if_neg hdangling, merged_append_of_other hmodel henum]
  cases body with
  | object fields =>
    by_cases h : d.isRoot name.text = true
    · rw [← hother (.object fields) (by simp [concernsModel, h]) rfl]
      simp only [isRoot] at h
      simp only [Collection.extend, h, if_true]
    · have h' := h
      simp only [isRoot] at h
      rw [← extendModel_merged (by simp [concernsModel, h']) rfl]
      simp only [Collection.extend, h]
      rfl
  | interface fields => exact extendModel_merged rfl rfl
  | enumeration values => exact extendEnum_merged rfl rfl
  | scalar => exact hother .scalar rfl rfl
  | union members => exact hother (.union members) rfl rfl
  | input fields => exact hother (.input fields) rfl rfl

/-- Extensions none of which is dangling are all merged in. -/
theorem foldlM_extend_of_not_dangling (d : Document) (es rest : List TypeExtension)
    (h : ∀ e ∈ rest, ¬ d.Dangling e) :
    rest.foldlM (Collection.extend d.roots) (d.merged es) = .ok (d.merged (es ++ rest)) := by
  induction rest generalizing es with
  | nil => simp [pure, Except.pure]
  | cons e rest ih =>
    obtain ⟨he, hrest⟩ := List.forall_mem_cons.mp h
    rw [List.foldlM_cons, extend_merged, if_neg he]
    simpa [bind, Except.bind] using ih (es ++ [e]) hrest

/-- The first dangling extension ends the merging. -/
theorem foldlM_extend_of_dangling (d : Document) (before after : List TypeExtension)
    (hbefore : ∀ x ∈ before, ¬ d.Dangling x) (he : d.Dangling e) :
    (before ++ e :: after).foldlM (Collection.extend d.roots) (d.merged []) =
      .error (.undefinedExtension e.name.text) := by
  rw [List.foldlM_append, foldlM_extend_of_not_dangling d [] before hbefore]
  simp [List.foldlM_cons, extend_merged, he, bind, Except.bind]

/-- Either no extension is dangling or one is the first. -/
theorem forall_not_dangling_or_isFirstDangling (d : Document) :
    (∀ e ∈ d.extensions, ¬ d.Dangling e) ∨ ∃ n, d.IsFirstDangling n := by
  cases h : d.extensions.find? (fun e => decide (d.Dangling e)) with
  | none => left; simpa using h
  | some e =>
    right
    obtain ⟨he, before, after, heq, hbefore⟩ := List.find?_eq_some_iff_append.mp h
    exact ⟨_, before, e, after, heq, by simpa using he, by simpa using hbefore, rfl⟩

end Document

/-! ## Reading a document -/

theorem Document.hasRoots_roots (d : Document) : d.HasRoots d.roots := by
  unfold Document.roots
  generalize h : List.findSome? _ d = found
  cases found with
  | none =>
    refine Or.inr ⟨fun r hr => ?_, rfl⟩
    simpa using List.findSome?_eq_none_iff.mp h _ hr
  | some r =>
    obtain ⟨before, x, after, heq, hx, hbefore⟩ := List.findSome?_eq_some_iff.mp h
    cases x with
    | schema r' =>
      obtain rfl : r' = r := by simpa using hx
      refine Or.inl ⟨before, after, heq, fun s hs => ?_⟩
      simpa using hbefore _ hs
    | _ => simp at hx

namespace Collection

open Document

variable {sdl : String} {d : Document} {c : Collection} {n : String}

theorem parse_eq_ofDocument (h : Document.parse sdl = .ok d) : parse sdl = ofDocument d := by
  -- Making an equation for `parse` would run into the grammar; its body alone is enough.
  delta parse
  rw [h]

theorem ofDocument_of_isFirstRepeated (h : IsFirstRepeated n d.typeNames) :
    ofDocument d = .error (.duplicateType n) := by
  have hfirst := firstRepeated_nil_eq_some_iff.mpr h
  rw [typeNames] at hfirst
  rw [ofDocument, hfirst]

theorem ofDocument_of_nodup (h : d.typeNames.Nodup) :
    ofDocument d = d.extensions.foldlM (extend d.roots) (d.merged []) := by
  have hnone : firstRepeated [] (d.types.map (·.name.text)) = none :=
    firstRepeated_eq_none_iff.mpr ⟨h, by simp⟩
  rw [ofDocument, hnone, ofTypes_eq_merged]

theorem ofDocument_of_isFirstDangling (h : d.typeNames.Nodup) (hn : d.IsFirstDangling n) :
    ofDocument d = .error (.undefinedExtension n) := by
  obtain ⟨before, e, after, heq, he, hbefore, rfl⟩ := hn
  rw [ofDocument_of_nodup h, heq, foldlM_extend_of_dangling d before after hbefore he]

theorem ofDocument_of_not_dangling (h : d.typeNames.Nodup)
    (hd : ∀ e ∈ d.extensions, ¬ d.Dangling e) : ofDocument d = .ok (d.merged d.extensions) := by
  rw [ofDocument_of_nodup h, foldlM_extend_of_not_dangling d [] _ hd, List.nil_append]

/-- Reading a document ends in one of three ways. -/
theorem ofDocument_cases (d : Document) :
    (∃ n, IsFirstRepeated n d.typeNames ∧ ofDocument d = .error (.duplicateType n)) ∨
    (d.typeNames.Nodup ∧ ∃ n, d.IsFirstDangling n ∧ ofDocument d = .error (.undefinedExtension n)) ∨
    (d.typeNames.Nodup ∧ (∀ e ∈ d.extensions, ¬ d.Dangling e) ∧
      ofDocument d = .ok (d.merged d.extensions)) := by
  by_cases hnodup : d.typeNames.Nodup
  · rcases forall_not_dangling_or_isFirstDangling d with hd | ⟨n, hn⟩
    · exact Or.inr (Or.inr ⟨hnodup, hd, ofDocument_of_not_dangling hnodup hd⟩)
    · exact Or.inr (Or.inl ⟨hnodup, n, hn, ofDocument_of_isFirstDangling hnodup hn⟩)
  · obtain ⟨n, hn⟩ := exists_isFirstRepeated_iff.mpr hnodup
    exact Or.inl ⟨n, hn, ofDocument_of_isFirstRepeated hn⟩

theorem ofDocument_eq_duplicateType_iff :
    ofDocument d = .error (.duplicateType n) ↔ IsFirstRepeated n d.typeNames := by
  refine ⟨fun h => ?_, ofDocument_of_isFirstRepeated⟩
  rcases ofDocument_cases d with ⟨m, hm, heq⟩ | ⟨_, m, _, heq⟩ | ⟨_, _, heq⟩
  · rw [heq, Except.error.injEq, SchemaError.duplicateType.injEq] at h
    exact h ▸ hm
  all_goals
    rw [heq] at h
    cases h

theorem ofDocument_eq_undefinedExtension_iff (hnodup : d.typeNames.Nodup) :
    ofDocument d = .error (.undefinedExtension n) ↔ d.IsFirstDangling n := by
  refine ⟨fun h => ?_, ofDocument_of_isFirstDangling hnodup⟩
  rcases ofDocument_cases d with ⟨m, _, heq⟩ | ⟨_, m, hm, heq⟩ | ⟨_, _, heq⟩
  · rw [heq] at h
    cases h
  · rw [heq, Except.error.injEq, SchemaError.undefinedExtension.injEq] at h
    exact h ▸ hm
  · rw [heq] at h
    cases h

/-- What a document defines, if it defines anything, has different names and all extensions merged
in. -/
theorem eq_merged_of_parse (hd : Document.parse sdl = .ok d) (h : parse sdl = .ok c) :
    d.typeNames.Nodup ∧ c = d.merged d.extensions := by
  rw [parse_eq_ofDocument hd] at h
  rcases ofDocument_cases d with ⟨_, _, heq⟩ | ⟨_, _, _, heq⟩ | ⟨hnodup, _, heq⟩
  · rw [heq] at h
    cases h
  · rw [heq] at h
    cases h
  · rw [heq, Except.ok.injEq] at h
    exact ⟨hnodup, h.symm⟩

theorem exists_read_of_parse (h : parse sdl = .ok c) : ∃ d, Document.parse sdl = .ok d := by
  cases hd : Document.parse sdl with
  | error f =>
    delta parse at h
    rw [hd] at h
    cases h
  | ok d => exact ⟨d, rfl⟩

theorem exists_document_of_parse (h : parse sdl = .ok c) :
    ∃ d : Document, d.typeNames.Nodup ∧ c = d.merged d.extensions := by
  obtain ⟨d, hd⟩ := exists_read_of_parse h
  exact ⟨d, eq_merged_of_parse hd h⟩

/-- **What a schema text defines.** A name defined twice is reported first, then an extension of
what is not defined; otherwise every model and enumeration has its own members followed by those of
its extensions, wherever these are written, and the operations are the fields of the query root
followed by those of the mutation root. -/
theorem parse_of_document (h : Document.parse sdl = .ok d) :
    d.HasRoots d.roots ∧
    (∀ n, parse sdl = .error (.duplicateType n) ↔ IsFirstRepeated n d.typeNames) ∧
    ((∃ n, parse sdl = .error (.duplicateType n)) ↔ ¬ d.typeNames.Nodup) ∧
    (d.typeNames.Nodup →
      (∀ n, parse sdl = .error (.undefinedExtension n) ↔ d.IsFirstDangling n) ∧
      ((∃ n, parse sdl = .error (.undefinedExtension n)) ↔ ∃ e ∈ d.extensions, d.Dangling e)) ∧
    (d.typeNames.Nodup → (∀ e ∈ d.extensions, ¬ d.Dangling e) →
      parse sdl = .ok (d.merged d.extensions)) ∧
    (d.merged d.extensions).operations =
      (d.operationDefs .query).map (fun f => ⟨.ofDef f, .query⟩) ++
        (d.operationDefs .mutation).map fun f => ⟨.ofDef f, .mutation⟩ := by
  rw [parse_eq_ofDocument h]
  refine ⟨d.hasRoots_roots, fun n => ofDocument_eq_duplicateType_iff, ?_, fun hnodup => ⟨fun n =>
    ofDocument_eq_undefinedExtension_iff hnodup, ?_⟩, ofDocument_of_not_dangling, ?_⟩
  · simp only [ofDocument_eq_duplicateType_iff]
    exact exists_isFirstRepeated_iff
  · simp only [ofDocument_eq_undefinedExtension_iff hnodup]
    constructor
    · rintro ⟨n, before, e, after, heq, he, _, _⟩
      exact ⟨e, heq ▸ List.mem_append_right before List.mem_cons_self, he⟩
    · rintro ⟨e, hmem, he⟩
      exact (forall_not_dangling_or_isFirstDangling d).resolve_left fun hd => hd e hmem he
  · simp only [operations, merged, List.map_map]
    rfl

/-- Extensions of a root and of a model, the latter before its definition. -/
theorem parse_of_document_extension_first :
    ∃ d, Document.parse "extend type A { y: Int } extend type Query { a: A } type A { x: Int }" =
        .ok d ∧ d.extensions.length = 2 ∧
      parse "extend type A { y: Int } extend type Query { a: A } type A { x: Int }" =
        .ok (d.merged d.extensions) := by
  have hread : (Document.parse
      "extend type A { y: Int } extend type Query { a: A } type A { x: Int }").toOption.any
      (fun d => decide (d.extensions.length = 2 ∧ d.typeNames.Nodup ∧
        ∀ e ∈ d.extensions, ¬ d.Dangling e)) = true := by decide +kernel
  obtain ⟨d, h, hd⟩ := exists_eq_ok_of_any hread
  obtain ⟨hlen, hnodup, hdangling⟩ := of_decide_eq_true hd
  exact ⟨d, h, hlen, (parse_of_document h).2.2.2.2.1 hnodup hdangling⟩

end Collection
end SchemaSdk.Schema
