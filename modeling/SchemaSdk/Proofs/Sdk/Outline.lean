import SchemaSdk.Proofs.Order.Topological
import SchemaSdk.Proofs.Sdk.Printed

/-!
# The outline of a schema module

The declarations that are read off the text of a generated module are those that the schema defines,
in an order in which every type that a field uses is declared before the struct of the field.
-/
namespace SchemaSdk.Sdk

open SchemaSdk.Schema SchemaSdk.Text

/-! ## Types of fields -/

/-- The type inside of any options and lists. -/
def baseType : List Char → List Char
  | 'O' :: 'p' :: 't' :: 'i' :: 'o' :: 'n' :: '<' :: t => baseType t
  | 'V' :: 'e' :: 'c' :: '<' :: t => baseType t
  | t => t.takeWhile (· != '>')

/-- The name of the type inside of any options and lists. -/
def baseOf (type : String) : String := String.ofList (baseType type.toList)

theorem baseType_option (t : List Char) : baseType ("Option<".toList ++ t) = baseType t := rfl

theorem baseType_vec (t : List Char) : baseType ("Vec<".toList ++ t) = baseType t := rfl

/-- What has no brackets itself ends where the brackets around it close. -/
theorem baseType_append {base r : List Char} (hopen : '<' ∉ base) (hclose : '>' ∉ base)
    (hr : ∀ c ∈ r, c = '>') : baseType (base ++ r) = base := by
  have hnone : '<' ∉ base ++ r := by
    intro hmem
    rcases List.mem_append.mp hmem with hmem | hmem
    · exact hopen hmem
    · exact absurd (hr _ hmem) (by decide)
  have htake : (base ++ r).takeWhile (· != '>') = base := by
    have hbase : ∀ c ∈ base, (c != '>') = true := by
      intro c hc
      rw [bne_iff_ne]
      rintro rfl
      exact hclose hc
    rw [List.takeWhile_append_of_pos hbase]
    cases r with
    | nil => simp
    | cons c r => simp [hr c List.mem_cons_self]
  unfold baseType
  split
  · rename_i heq
    rw [heq] at hnone
    simp at hnone
  · rename_i heq
    rw [heq] at hnone
    simp at hnone
  · exact htake

theorem baseOf_wrap (f : Field) {base : String} (hopen : '<' ∉ base.toList)
    (hclose : '>' ∉ base.toList) : baseOf (f.wrap base) = base := by
  have hself : baseType base.toList = base.toList := by
    have happend := baseType_append (r := []) hopen hclose (by simp)
    rwa [List.append_nil] at happend
  have hbase : baseType (f.wrap base).toList = base.toList := by
    cases hlist : f.list <;> cases hitem : f.itemRequired <;> cases hrequired : f.required <;>
      simp only [Field.wrap, hlist, hitem, hrequired, if_true, if_false, Bool.false_eq_true,
        String.toList_append, List.append_assoc, baseType_option, baseType_vec]
    all_goals first
      | exact hself
      | exact baseType_append hopen hclose (by simp)
  rw [baseOf, hbase, String.ofList_toList]

/-- The types that the generated code has without declaring them. -/
def foreignTypes : List String := ["String", "i32", "f64", "bool", "serde_json::Value"]

theorem typeName_mem_foreignTypes {f : Field} (h : f.isNamed = false) :
    f.typeName ∈ foreignTypes := by
  have hbuiltin : f.base ∈ builtinScalars := by simpa [Field.isNamed] using h
  have hall : ∀ b ∈ builtinScalars, (primitive? b).getD b ∈ foreignTypes := by decide
  exact hall f.base hbuiltin

/-- The base of a field's type is the identifier of what the schema declares, or foreign. -/
theorem baseOf_rustTypeOf {c : Collection} {f : Field} (h : IsName f.base) :
    baseOf (c.rustTypeOf f) ∈ foreignTypes ∨
      f.isNamed = true ∧ c.declares f.base = true ∧
        baseOf (c.rustTypeOf f) = Identifier.ofType f.base := by
  have hforeign : ∀ t ∈ foreignTypes, '<' ∉ t.toList ∧ '>' ∉ t.toList := by decide
  unfold Collection.rustTypeOf Field.rustType
  split
  · rename_i hdeclared
    cases hnamed : f.isNamed with
    | false =>
      have hmem := typeName_mem_foreignTypes hnamed
      obtain ⟨hopen, hclose⟩ := hforeign _ hmem
      left
      simpa [baseOf_wrap f hopen hclose] using hmem
    | true =>
      right
      have hopen : '<' ∉ (Identifier.ofType f.base).toList := by
        intro hmem
        cases Identifier.isPart_of_mem_ofType h hmem
      have hclose : '>' ∉ (Identifier.ofType f.base).toList := by
        intro hmem
        cases Identifier.isPart_of_mem_ofType h hmem
      exact ⟨rfl, by simpa [hnamed] using hdeclared, by simp [baseOf_wrap f hopen hclose]⟩
  · left
    obtain ⟨hopen, hclose⟩ := hforeign jsonValue (by decide)
    rw [baseOf_wrap f hopen hclose]
    decide

/-! ## The modules of a schema -/

theorem oneWord_of_isPart {s : String} (h : ∀ c ∈ s.toList, Identifier.isPart c = true) :
    OneWord s := by
  constructor
  · intro hmem
    cases h _ hmem
  · intro hmem
    cases h _ hmem

theorem oneWord_of_isName {s : String} (h : IsName s) : OneWord s :=
  oneWord_of_isPart fun c hc => by simp [Identifier.isPart, isNamePart_of_spellsName h c hc]

theorem oneWord_ofType {s : String} (h : IsName s) : OneWord (Identifier.ofType s) :=
  oneWord_of_isPart fun _ hc => Identifier.isPart_of_mem_ofType h hc

theorem oneWord_ofField {s : String} (h : IsName s) : OneWord (Identifier.ofField s) :=
  oneWord_of_isPart fun _ hc => Identifier.isPart_of_mem_ofField h hc

theorem OneWord.wrap (f : Field) {base : String} (h : OneWord base) : OneWord (f.wrap base) := by
  have hoption : ∀ t, OneWord t → OneWord ("Option<" ++ t ++ ">") := by
    intro t ht
    exact (OneWord.append (by decide) ht).append (by decide)
  have hvec : ∀ t, OneWord t → OneWord ("Vec<" ++ t ++ ">") := by
    intro t ht
    exact (OneWord.append (by decide) ht).append (by decide)
  have hinner : OneWord (if f.list then
      "Vec<" ++ (if f.itemRequired then base else "Option<" ++ base ++ ">") ++ ">" else base) := by
    split
    · split
      · exact hvec _ h
      · exact hvec _ (hoption _ h)
    · exact h
  rw [Field.wrap]
  by_cases hrequired : f.required = true
  · rw [if_pos hrequired]
    exact hinner
  · rw [if_neg hrequired]
    exact hoption _ hinner

theorem oneWord_rustTypeOf {c : Collection} {f : Field} (h : IsName f.base) :
    OneWord (c.rustTypeOf f) := by
  unfold Collection.rustTypeOf Field.rustType
  split
  · refine OneWord.wrap f ?_
    split
    · exact oneWord_ofType h
    · rename_i hnamed
      have hall : ∀ t ∈ foreignTypes, OneWord t := by decide
      exact hall _ (typeName_mem_foreignTypes (by simpa using hnamed))
  · exact OneWord.wrap f (by decide)

theorem not_mem_docLines (description : Option String) :
    ∀ l ∈ docLines description, '\n' ∉ l.toList := by
  intro l hl hmem
  cases description with
  | none => cases hl
  | some d =>
    obtain ⟨m, hm, rfl⟩ := List.mem_map.mp hl
    rw [String.toList_ofList] at hmem
    exact not_mem_of_mem_lines hm (mem_of_mem_trimEnd hmem)

theorem Member.printable_ofField (c : Collection) {f : Field} (h : f.Spelled) :
    (Member.ofField c f).Printable := by
  constructor
  · dsimp only [Member.ofField]
    exact oneWord_ofField h.name
  · dsimp only [Member.ofField]
    exact oneWord_of_isName h.name
  · dsimp only [Member.ofField]
    exact oneWord_rustTypeOf h.base
  · exact not_mem_docLines f.description

/-- All that a parsed schema declares can be printed and read back. -/
theorem SchemaModule.printable_ofModels {c : Collection} (h : c.WellFormed) {models : List Model}
    (hmodels : ∀ m ∈ models, m ∈ c.models) :
    ∀ d ∈ (ofModels c models).declarations, d.Printable := by
  intro d hd
  simp only [declarations, ofModels, List.mem_append, List.mem_map] at hd
  rcases hd with ⟨s, hs, rfl⟩ | ⟨e, he, rfl⟩ | ⟨m, hm, rfl⟩
  · exact oneWord_ofType (h.scalars_spelled s hs)
  · obtain ⟨hname, hvalues⟩ := h.enums_spelled e he
    rw [Declaration.ofEnum, Declaration.Printable]
    refine ⟨oneWord_ofType hname, not_mem_docLines _, fun v hv => ?_⟩
    obtain ⟨value, hvalue, rfl⟩ := List.mem_map.mp hv
    have hspelled := hvalues value hvalue
    constructor
    · dsimp only
      exact oneWord_ofType hspelled
    · dsimp only
      exact oneWord_of_isName hspelled
  · obtain ⟨hname, hfields⟩ := h.models_spelled m (hmodels m hm)
    rw [Declaration.ofModel, Declaration.Printable]
    refine ⟨oneWord_ofType hname, oneWord_of_isName hname, not_mem_docLines _, fun f hf => ?_⟩
    obtain ⟨field, hfield, rfl⟩ := List.mem_map.mp hf
    exact Member.printable_ofField c (hfields field hfield)

/-- The items for the scalars and enumerations of a collection. -/
def simpleItems (c : Collection) : List Item :=
  c.scalars.map (fun s => Item.synonym (Identifier.ofType s)) ++
    c.enums.map fun e => Item.enumeration (Identifier.ofType e.name)

/-- The item for a model. -/
def itemOfModel (c : Collection) (m : Model) : Item :=
  .struct (Identifier.ofType m.name)
    (m.fields.map fun f => (Identifier.ofField f.name, c.rustTypeOf f))

theorem outline_ofModels {c : Collection} (h : c.WellFormed) {models : List Model}
    (hmodels : ∀ m ∈ models, m ∈ c.models) :
    outline (layout (SchemaModule.ofModels c models).lines) =
      simpleItems c ++ models.map (itemOfModel c) := by
  rw [SchemaModule.outline_lines (SchemaModule.printable_ofModels h hmodels)]
  simp [SchemaModule.declarations, SchemaModule.ofModels, simpleItems, itemOfModel,
    Function.comp_def, Declaration.ofScalar, Declaration.ofEnum, Declaration.ofModel,
    Declaration.item, Member.ofField]

theorem ne_struct_of_mem_simpleItems {c : Collection} {d : Item} (h : d ∈ simpleItems c)
    (ident : String) (fields : List (String × String)) : d ≠ .struct ident fields := by
  rcases List.mem_append.mp h with h | h
  · obtain ⟨s, _, rfl⟩ := List.mem_map.mp h
    simp
  · obtain ⟨e, _, rfl⟩ := List.mem_map.mp h
    simp

/-- What is declared and no model has an item of its own. -/
theorem exists_simpleItem_or_model {c : Collection} {name : String} (h : c.declares name = true) :
    (∃ d ∈ simpleItems c, d.ident = Identifier.ofType name) ∨ ∃ a ∈ c.models, a.name = name := by
  simp only [Collection.declares, Bool.or_eq_true] at h
  rcases h with (hmodel | henum) | hscalar
  · obtain ⟨a, ha⟩ := Option.isSome_iff_exists.mp hmodel
    exact .inr ⟨a, Collection.mem_of_model? ha⟩
  · obtain ⟨e, he, hname⟩ := List.any_eq_true.mp henum
    rw [beq_iff_eq] at hname
    subst hname
    have hitem := List.mem_map_of_mem (f := fun e => Item.enumeration (Identifier.ofType e.name)) he
    exact .inl ⟨_, List.mem_append_right _ hitem, Item.ident_enumeration _⟩
  · have hmem : name ∈ c.scalars := List.contains_iff_mem.mp hscalar
    have hitem := List.mem_map_of_mem (f := fun s => Item.synonym (Identifier.ofType s)) hmem
    exact .inl ⟨_, List.mem_append_left _ hitem, Item.ident_synonym _⟩

/-- In the order of dependencies a field uses what stands before its struct. -/
theorem declared_of_topologicalOrder {c : Collection} (h : c.WellFormed) {order : List Model}
    (horder : c.topologicalOrder = .ok order) {k : Nat} {ident : String}
    {fields : List (String × String)}
    (hitem : (simpleItems c ++ order.map (itemOfModel c))[k]? = some (.struct ident fields))
    {field : String × String} (hfield : field ∈ fields) :
    baseOf field.2 ∈ foreignTypes ∨
      ∃ d ∈ (simpleItems c ++ order.map (itemOfModel c)).take k, d.ident = baseOf field.2 := by
  have hperm := Collection.perm_of_topologicalOrder h.nodup_modelNames horder
  -- A struct stands behind the aliases and enums, at the place of its model in the order.
  have hk : (simpleItems c).length ≤ k := by
    by_contra hlt
    rw [List.getElem?_append_left (by omega)] at hitem
    exact ne_struct_of_mem_simpleItems (List.mem_of_getElem? hitem) _ _ rfl
  rw [List.getElem?_append_right hk, List.getElem?_map, Option.map_eq_some_iff] at hitem
  obtain ⟨m, hm, heq⟩ := hitem
  obtain ⟨rfl, rfl⟩ := Item.struct.inj heq
  obtain ⟨f, hf, rfl⟩ := List.mem_map.mp hfield
  have hmodel : m ∈ c.models := hperm.mem_iff.mp (List.mem_of_getElem? hm)
  rw [List.take_append, List.take_of_length_le hk, ← List.map_take]
  rcases baseOf_rustTypeOf ((h.models_spelled m hmodel).2 f hf).base with
    hforeign | ⟨hnamed, hdeclared, hbase⟩
  · exact .inl hforeign
  · right
    rw [hbase]
    rcases exists_simpleItem_or_model hdeclared with ⟨d, hd, hident⟩ | ⟨a, ha, hname⟩
    · exact ⟨d, List.mem_append_left _ hd, hident⟩
    · obtain ⟨j, hj⟩ := List.mem_iff_getElem?.mp (hperm.mem_iff.mpr ha)
      have hlt : j < k - (simpleItems c).length :=
        Collection.lt_of_dependsOn h.nodup_modelNames horder hm hj
          ⟨hmodel, ha, f, hf, hnamed, hname.symm⟩
      have htake : a ∈ order.take (k - (simpleItems c).length) := by
        apply List.mem_of_getElem?
        rw [List.getElem?_take_of_lt hlt, hj]
      refine ⟨itemOfModel c a, List.mem_append_right _ (List.mem_map_of_mem htake), ?_⟩
      rw [itemOfModel, Item.ident_struct, hname]

/-- The modules of a package are made of the models in order and of the calls of all operations. -/
theorem exists_parts_of_render {c : Collection} {o : Options} {p : Package}
    (h : render c o = .ok p) :
    ∃ order calls, c.topologicalOrder = .ok order ∧ Call.ofCollection c = .ok calls ∧
      p.client.text = layout (ClientModule.mk (Identifier.client o.clientName)
        (Identifier.schemaModule o.schemaName) o.endpoint calls).lines ∧
      p.schema.text = layout (SchemaModule.ofModels c order).lines := by
  unfold render at h
  split at h
  · cases h
  · rename_i order horder
    split at h
    · cases h
    · rename_i calls hcalls
      refine ⟨order, calls, horder, hcalls, ?_, ?_⟩
      · rw [← Except.ok.inj h]
      · rw [← Except.ok.inj h]

theorem exists_parts_of_generate {sdl : String} {o : Options} {p : Package}
    (h : generate sdl o = .ok p) :
    ∃ c order calls, Collection.parse sdl = .ok c ∧ c.topologicalOrder = .ok order ∧
      Call.ofCollection c = .ok calls ∧
      p.client.text = layout (ClientModule.mk (Identifier.client o.clientName)
        (Identifier.schemaModule o.schemaName) o.endpoint calls).lines ∧
      p.schema.text = layout (SchemaModule.ofModels c order).lines := by
  unfold generate at h
  split at h
  · cases h
  · rename_i c hparse
    obtain ⟨order, calls, hparts⟩ := exists_parts_of_render h
    exact ⟨c, order, calls, hparse, hparts⟩

/-- The schema module of a package is made of the models in order. -/
theorem exists_order_of_generate {sdl : String} {o : Options} {p : Package}
    (h : generate sdl o = .ok p) :
    ∃ c order, Collection.parse sdl = .ok c ∧ c.topologicalOrder = .ok order ∧
      p.schema.text = layout (SchemaModule.ofModels c order).lines := by
  obtain ⟨c, order, _, hparse, horder, _, _, htext⟩ := exists_parts_of_generate h
  exact ⟨c, order, hparse, horder, htext⟩

theorem generate_of_parse {sdl : String} {c : Collection} (h : Collection.parse sdl = .ok c)
    (o : Options) : generate sdl o = render c o := by
  unfold generate
  rw [h]

/-- What a text is read to can be checked in the same run that shows it to be generated from. -/
theorem exists_generated_of_any {sdl : String} {o : Options} {check : Collection → Bool}
    (h : (Collection.parse sdl).toOption.any
      (fun c => (render c o).toOption.any fun _ => check c) = true) :
    ∃ c p, Collection.parse sdl = .ok c ∧ generate sdl o = .ok p ∧ check c = true := by
  obtain ⟨c, hparse, h⟩ := exists_eq_ok_of_any h
  obtain ⟨p, hrender, hcheck⟩ := exists_eq_ok_of_any h
  exact ⟨c, p, hparse, (generate_of_parse hparse o).trans hrender, hcheck⟩

/-- **The outline of a generated module.** It has an alias for each scalar, an enum for each
enumeration and a struct for each model, with a field for each field of the model. The base of a
field's type is foreign or declared before the struct. -/
theorem outline_of_generate {sdl : String} {o : Options} {p : Package}
    (h : generate sdl o = .ok p) :
    ∃ (c : Collection) (order : List Model),
      Collection.parse sdl = .ok c ∧ c.topologicalOrder = .ok order ∧ order.Perm c.models ∧
      (c.scalars ++ c.enums.map (·.name) ++ c.models.map (·.name)).Nodup ∧
      outline p.schema.text =
        c.scalars.map (fun s => Item.synonym (Identifier.ofType s)) ++
          c.enums.map (fun e => Item.enumeration (Identifier.ofType e.name)) ++
            order.map (fun m => Item.struct (Identifier.ofType m.name)
              (m.fields.map fun f => (Identifier.ofField f.name, c.rustTypeOf f))) ∧
      ∀ (k : Nat) (ident : String) (fields : List (String × String)),
        (outline p.schema.text)[k]? = some (.struct ident fields) → ∀ field ∈ fields,
          baseOf field.2 ∈ ["String", "i32", "f64", "bool", "serde_json::Value"] ∨
            ∃ d ∈ (outline p.schema.text).take k, d.ident = baseOf field.2 := by
  obtain ⟨c, order, hparse, horder, htext⟩ := exists_order_of_generate h
  have hwf := Collection.wellFormed_of_parse hparse
  have hperm := Collection.perm_of_topologicalOrder hwf.nodup_modelNames horder
  have houtline := outline_ofModels hwf fun m hm => hperm.mem_iff.mp hm
  rw [← htext] at houtline
  refine ⟨c, order, hparse, horder, hperm, hwf.names_nodup, houtline, ?_⟩
  intro k ident fields hitem field hfield
  rw [houtline] at hitem ⊢
  exact declared_of_topologicalOrder hwf horder hitem hfield

/-- A struct that is used before it is defined comes first. -/
theorem outline_of_generate_forward_reference :
    ∃ p, generate "type A { b: [B]! } type B { x: Int! }" ⟨"api", none, none⟩ = .ok p ∧
      outline p.schema.text =
        [.struct "B" [("x", "i32")], .struct "A" [("b", "Vec<Option<B>>")]] := by
  have hok : (generate "type A { b: [B]! } type B { x: Int! }" ⟨"api", none, none⟩).toOption.any
      (fun _ => true) = true := by decide +kernel
  have hread : (Collection.parse "type A { b: [B]! } type B { x: Int! }").toOption.any (fun c =>
      c.topologicalOrder.toOption.any fun order =>
        c.scalars.map (fun s => Item.synonym (Identifier.ofType s)) ++
          c.enums.map (fun e => Item.enumeration (Identifier.ofType e.name)) ++
            order.map (fun m => Item.struct (Identifier.ofType m.name)
              (m.fields.map fun f => (Identifier.ofField f.name, c.rustTypeOf f))) ==
          [.struct "B" [("x", "i32")], .struct "A" [("b", "Vec<Option<B>>")]]) = true := by
    decide +kernel
  obtain ⟨p, h, _⟩ := exists_eq_ok_of_any hok
  obtain ⟨c, order, hparse, horder, _, _, houtline, _⟩ := outline_of_generate h
  rw [hparse] at hread
  obtain ⟨_, hc, hread⟩ := exists_eq_ok_of_any hread
  obtain rfl := Except.ok.inj hc
  rw [horder] at hread
  exact ⟨p, h, houtline.trans (eq_of_beq hread)⟩

end SchemaSdk.Sdk
