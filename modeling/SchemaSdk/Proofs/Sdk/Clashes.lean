import SchemaSdk.Proofs.Sdk.ClientNames
import SchemaSdk.Proofs.Sdk.Scopes
import SchemaSdk.Proofs.Sdk.Signatures
import SchemaSdk.Proofs.Text.IdentifierCharacters

/-!
# Clashes between identifiers

Escaping undoes no difference between cased names: the marks that it adds are in none of them, so
what was escaped is found again. Whatever clashes in the generated code therefore clashes in its
case already. So the types of a schema module, the members of each and the parameters of a method
have identifiers of their own exactly if the names they come from, which the schema keeps apart,
stay apart in pascal or in snake case.
-/
namespace SchemaSdk.Identifier

open SchemaSdk.Schema SchemaSdk.Text

/-! ## Escapes -/

/-- The text has none of the marks that an escape adds. -/
structure Unmarked (s : String) : Prop where
  raw : '#' ∉ s.toList
  start : s.toList.head? ≠ some '_'
  ending : s.toList.getLast? ≠ some '_'

/-- What was escaped. -/
def unescape : List Char → List Char
  | 'r' :: '#' :: r => r
  | '_' :: r => r
  | s => if s.getLast? = some '_' then s.dropLast else s

theorem unescape_of_unmarked {s : String} (h : Unmarked s) : unescape s.toList = s.toList := by
  have hraw := h.raw
  have hstart := h.start
  unfold unescape
  split
  · next hs => simp [hs] at hraw
  · next hs => simp [hs] at hstart
  · exact if_neg h.ending

/-- **Escaping can be undone** on what has none of its marks. -/
theorem unescape_escape {s : String} (h : Unmarked s) : unescape (escape s).toList = s.toList := by
  have hreserved : ∀ k ∈ reservedKeywords, unescape (k ++ "_").toList = k.toList := by decide
  unfold escape
  split
  · next hmem => exact hreserved s (List.contains_iff_mem.mp hmem)
  split
  · have htoList : ("r#" ++ s).toList = 'r' :: '#' :: s.toList := by simp
    rw [htoList]
    rfl
  split
  · have htoList : ("_" ++ s).toList = '_' :: s.toList := by simp
    rw [htoList]
    rfl
  · exact unescape_of_unmarked h

theorem escape_eq_escape_iff {s t : String} (hs : Unmarked s) (ht : Unmarked t) :
    escape s = escape t ↔ s = t := by
  refine ⟨fun heq => ?_, congrArg escape⟩
  rw [← String.toList_inj, ← unescape_escape hs, ← unescape_escape ht, heq]

/-! ## Casings -/

theorem unmarked_snakeCase_of_ascii {name : String} (hascii : ∀ c ∈ name.toList, c.toNat < 0x80) :
    Unmarked (snakeCase name) := by
  constructor
  · intro hmem
    rw [snakeCase, String.toList_ofList] at hmem
    cases isNamePart_of_mem_snakeChars hascii hmem
  · rw [snakeCase, String.toList_ofList]
    exact head?_snakeChars_ne _
  · rw [snakeCase, String.toList_ofList]
    rcases List.eq_nil_or_concat (letters name.toList) with hnil | ⟨r, c, hletters⟩
    · simp [snakeChars_eq_nil_iff.mpr hnil]
    · rw [List.concat_eq_append] at hletters
      have hc : c ∈ letters name.toList := by simp [hletters]
      obtain ⟨hmem, halnum⟩ := List.mem_filter.mp hc
      have hlow := hascii c hmem
      rw [isAlphanumeric_of_ascii hlow] at halnum
      have hsigma : c ≠ 'Σ' := by
        rintro rfl
        exact absurd hlow (by decide)
      rw [getLast?_snakeChars hletters hsigma, lowercase_of_ascii hlow]
      intro hlast
      have hlower := isAlphanum_toLower hlow halnum
      rw [show c.toLower = '_' from Option.some.inj hlast] at hlower
      cases hlower

section Name

variable {name : String} (h : IsName name)

include h

theorem unmarked_pascalCase : Unmarked (pascalCase name) := by
  have hpart : ∀ c ∈ (pascalCase name).toList, c.isAlphanum = true := fun c hc => by
    rw [pascalCase, String.toList_ofList] at hc
    exact isAlphanum_of_mem_pascalChars (ascii_of_spellsName h) hc
  have hmark : '_'.isAlphanum = false := by decide
  constructor
  · intro hmem
    cases hpart _ hmem
  · intro hhead
    cases hmark.symm.trans (hpart _ (List.mem_of_head? hhead))
  · intro hlast
    cases hmark.symm.trans (hpart _ (List.mem_of_getLast? hlast))

theorem unmarked_snakeCase : Unmarked (snakeCase name) :=
  unmarked_snakeCase_of_ascii (ascii_of_spellsName h)

theorem ofType_eq_ofType_iff {other : String} (h' : IsName other) :
    ofType name = ofType other ↔ pascalCase name = pascalCase other :=
  escape_eq_escape_iff (unmarked_pascalCase h) (unmarked_pascalCase h')

theorem ofField_eq_ofField_iff {other : String} (h' : IsName other) :
    ofField name = ofField other ↔ snakeCase name = snakeCase other :=
  escape_eq_escape_iff (unmarked_snakeCase h) (unmarked_snakeCase h')

end Name

theorem nodup_map_ofType_iff {names : List String} (h : ∀ n ∈ names, IsName n) :
    (names.map ofType).Nodup ↔ (names.map pascalCase).Nodup := by
  rw [List.Nodup, List.pairwise_map, List.pairwise_map]
  exact List.Pairwise.iff_of_mem fun hm hn => (ofType_eq_ofType_iff (h _ hm) (h _ hn)).not

theorem nodup_map_ofField_iff {names : List String} (h : ∀ n ∈ names, IsName n) :
    (names.map ofField).Nodup ↔ (names.map snakeCase).Nodup := by
  rw [List.Nodup, List.pairwise_map, List.pairwise_map]
  exact List.Pairwise.iff_of_mem fun hm hn => (ofField_eq_ofField_iff (h _ hm) (h _ hn)).not

/-- The types that the generated code relies on without declaring them. -/
def reliedTypes : List String := ["String", "Option", "Vec", "Serialize", "Deserialize"]

/-- No escape makes or hides a clash with the types that are relied on. -/
theorem nodup_map_ofType_append_iff {names : List String} (h : ∀ n ∈ names, IsName n) :
    (names.map ofType ++ reliedTypes).Nodup ↔ (names.map pascalCase ++ reliedTypes).Nodup := by
  have hnames : ∀ n ∈ reliedTypes, IsName n := by
    unfold IsName
    decide
  have hpascal : reliedTypes.map pascalCase = reliedTypes := by decide
  have htypes : reliedTypes.map ofType = reliedTypes := by decide
  have hiff := nodup_map_ofType_iff (List.forall_mem_append.mpr ⟨h, hnames⟩)
  rwa [List.map_append, List.map_append, htypes, hpascal] at hiff

end SchemaSdk.Identifier

namespace SchemaSdk.Sdk

open SchemaSdk.Schema
open SchemaSdk.Identifier (reliedTypes)

/-! ## Generated packages -/

/-- No identifiers of a schema module clash: the types that it declares have names of their own,
which are not those of the types that it relies on, and so have the members of each. -/
def DistinctScopes (text : String) : Prop :=
  ((declaredScopes text).map (·.1) ++ reliedTypes).Nodup ∧
    ∀ scope ∈ declaredScopes text, scope.2.Nodup

section Collection

variable {c : Collection} (h : c.WellFormed)

include h

theorem isName_of_mem_typeNames :
    ∀ n ∈ c.scalars ++ c.enums.map (·.name) ++ c.models.map (·.name), IsName n := by
  intro n hn
  simp only [List.mem_append, List.mem_map] at hn
  rcases hn with (hscalar | ⟨e, he, rfl⟩) | ⟨m, hm, rfl⟩
  · exact h.scalars_spelled n hscalar
  · exact (h.enums_spelled e he).1
  · exact (h.models_spelled m hm).1

/-- The scopes of a schema module are distinct exactly if the cased names are. -/
theorem distinctScopes_iff {order : List Model} (hperm : order.Perm c.models) {text : String}
    (hscopes : declaredScopes text =
      c.scalars.map (fun s => (Identifier.ofType s, [])) ++
        c.enums.map (fun e => (Identifier.ofType e.name, e.values.map Identifier.ofType)) ++
          order.map fun m =>
            (Identifier.ofType m.name, m.fields.map fun f => Identifier.ofField f.name)) :
    DistinctScopes text ↔
      ((c.scalars ++ c.enums.map (·.name) ++ c.models.map (·.name)).map Text.pascalCase ++
        reliedTypes).Nodup ∧
      (∀ e ∈ c.enums, (e.values.map Text.pascalCase).Nodup) ∧
      ∀ m ∈ c.models, (m.fields.map fun f => Text.snakeCase f.name).Nodup := by
  have htypes : (declaredScopes text).map (·.1) =
      (c.scalars ++ c.enums.map (·.name) ++ order.map (·.name)).map Identifier.ofType := by
    rw [hscopes]
    simp only [List.map_append, List.map_map, Function.comp_def]
  have horder : (c.scalars ++ c.enums.map (·.name) ++ order.map (·.name)).Perm
      (c.scalars ++ c.enums.map (·.name) ++ c.models.map (·.name)) :=
    (hperm.map _).append_left _
  have henums : ∀ e ∈ c.enums, ((e.values.map Identifier.ofType).Nodup ↔
      (e.values.map Text.pascalCase).Nodup) := fun e he =>
    Identifier.nodup_map_ofType_iff (h.enums_spelled e he).2
  have hmodels : ∀ m ∈ c.models, ((m.fields.map fun f => Identifier.ofField f.name).Nodup ↔
      (m.fields.map fun f => Text.snakeCase f.name).Nodup) := by
    intro m hm
    have hnames : ∀ n ∈ m.fields.map (·.name), IsName n := List.forall_mem_map.mpr fun f hf =>
      ((h.models_spelled m hm).2 f hf).name
    have hiff := Identifier.nodup_map_ofField_iff hnames
    simpa only [List.map_map, Function.comp_def] using hiff
  have hmembers : (∀ scope ∈ declaredScopes text, scope.2.Nodup) ↔
      (∀ e ∈ c.enums, (e.values.map Identifier.ofType).Nodup) ∧
        ∀ m ∈ c.models, (m.fields.map fun f => Identifier.ofField f.name).Nodup := by
    rw [hscopes, List.forall_mem_append, List.forall_mem_append, List.forall_mem_map,
      List.forall_mem_map, List.forall_mem_map]
    simp only [List.nodup_nil, implies_true, true_and, hperm.mem_iff]
  rw [DistinctScopes, htypes, ((horder.map _).append_right _).nodup_iff, hmembers,
    Identifier.nodup_map_ofType_append_iff (isName_of_mem_typeNames h),
    forall₂_congr henums, forall₂_congr hmodels]

/-- The parameters of the calls are distinct exactly if the cased names of the arguments are. -/
theorem nodup_parameters_iff {calls : List Call} (hcalls : Call.ofCollection c = .ok calls) :
    (∀ k ∈ calls, (k.parameters.map (·.ident)).Nodup) ↔
      ∀ op ∈ c.operations, (op.arguments.map fun a => Text.snakeCase a.name).Nodup := by
  have hidents : calls.map (fun k => k.parameters.map (·.ident)) =
      c.operations.map fun op => op.arguments.map fun a => Identifier.ofField a.name :=
    Call.map_of_ofCollection hcalls fun o name => by
      simp only [Call.ofOperation, List.map_map, Function.comp_def, Member.ofField]
  have harguments : ∀ op ∈ c.operations,
      ((op.arguments.map fun a => Identifier.ofField a.name).Nodup ↔
        (op.arguments.map fun a => Text.snakeCase a.name).Nodup) := by
    intro op hop
    have hnames : ∀ n ∈ op.arguments.map (·.name), IsName n := List.forall_mem_map.mpr fun a ha =>
      ((h.operations_spelled op hop).arguments a ha).name
    have hiff := Identifier.nodup_map_ofField_iff hnames
    simpa only [List.map_map, Function.comp_def] using hiff
  rw [← forall₂_congr harguments,
    ← List.forall_mem_map (P := List.Nodup) (f := fun k : Call => k.parameters.map (·.ident)),
    hidents, List.forall_mem_map]

end Collection

/-- **Clashes in a generated package.** The types that the schema module declares are distinct, are
none that it relies on, and have distinct variants and fields exactly if the names of the types, of
the values of each enumeration and of the fields of each model are so in the case that they are
written in. Likewise the parameters of each method are distinct exactly if the names of the
arguments of each root field are. -/
theorem clashes_of_generate {sdl : String} {o : Options} {p : Package}
    (h : generate sdl o = .ok p) :
    ∃ (c : Collection) (order : List Model) (calls : List Call),
      Collection.parse sdl = .ok c ∧ order.Perm c.models ∧ Call.ofCollection c = .ok calls ∧
      declaredScopes p.schema.text =
        c.scalars.map (fun s => (Identifier.ofType s, [])) ++
          c.enums.map (fun e => (Identifier.ofType e.name, e.values.map Identifier.ofType)) ++
            order.map (fun m =>
              (Identifier.ofType m.name, m.fields.map fun f => Identifier.ofField f.name)) ∧
      (DistinctScopes p.schema.text ↔
        ((c.scalars ++ c.enums.map (·.name) ++ c.models.map (·.name)).map Text.pascalCase ++
          reliedTypes).Nodup ∧
        (∀ e ∈ c.enums, (e.values.map Text.pascalCase).Nodup) ∧
        ∀ m ∈ c.models, (m.fields.map fun f => Text.snakeCase f.name).Nodup) ∧
      (o.Quotable →
        declaredSignatures p.client.text = ("execute", ["document", "variables"]) ::
          calls.map (fun k => (k.method, k.parameters.map (·.ident))) ∧
        ((∀ signature ∈ declaredSignatures p.client.text, signature.2.Nodup) ↔
          ∀ op ∈ c.operations, (op.arguments.map fun a => Text.snakeCase a.name).Nodup)) := by
  obtain ⟨c, order, calls, hparse, horder, hcalls, hclient, hschema⟩ := exists_parts_of_generate h
  have hwf := Collection.wellFormed_of_parse hparse
  have hperm := Collection.perm_of_topologicalOrder hwf.nodup_modelNames horder
  have hscopes := declaredScopes_ofModels hwf fun m hm => hperm.mem_iff.mp hm
  rw [← hschema] at hscopes
  refine ⟨c, order, calls, hparse, hperm, hcalls, hscopes, distinctScopes_iff hwf hperm hscopes,
    fun hquotable => ?_⟩
  have hsignatures := ClientModule.declaredSignatures_layout
    (ClientModule.printable_of_quotable hwf hcalls hquotable)
  rw [← hclient] at hsignatures
  refine ⟨hsignatures, ?_⟩
  rw [hsignatures, List.forall_mem_cons, List.forall_mem_map, ← nodup_parameters_iff hwf hcalls]
  exact and_iff_right (by decide)

/-- Names that become keywords or come close to one another clash nowhere. -/
theorem clashes_of_generate_keywords :
    ∃ p, generate
        "enum E { self } type Query { f(type: Int): string_2 } type string_2 { crate: Int }"
        ⟨"Api", none, none⟩ = .ok p ∧
      DistinctScopes p.schema.text ∧
      ∀ signature ∈ declaredSignatures p.client.text, signature.2.Nodup := by
  have hread : (Collection.parse
      "enum E { self } type Query { f(type: Int): string_2 } type string_2 { crate: Int }"
        ).toOption.any (fun c => (render c ⟨"Api", none, none⟩).toOption.any fun _ => decide (
          (((c.scalars ++ c.enums.map (·.name) ++ c.models.map (·.name)).map Text.pascalCase ++
              reliedTypes).Nodup ∧
            (∀ e ∈ c.enums, (e.values.map Text.pascalCase).Nodup) ∧
            ∀ m ∈ c.models, (m.fields.map fun f => Text.snakeCase f.name).Nodup) ∧
          ∀ op ∈ c.operations,
            (op.arguments.map fun a => Text.snakeCase a.name).Nodup)) = true := by
    decide +kernel
  have hquotable : Options.Quotable ⟨"Api", none, none⟩ := fun e he => by cases he
  obtain ⟨c, p, hparse, h, hread⟩ := exists_generated_of_any hread
  obtain ⟨hnames, harguments⟩ := of_decide_eq_true hread
  obtain ⟨c', order, calls, hparse', _, _, _, hscopes, hsignatures⟩ := clashes_of_generate h
  obtain rfl := Except.ok.inj (hparse.symm.trans hparse')
  exact ⟨p, h, hscopes.mpr hnames, (hsignatures hquotable).2.mpr harguments⟩

/-- Two types that differ in their underscores and capitals become two structs of one name. -/
theorem clashes_of_fooBar :
    ∃ p, generate "type Query { x: Int } type FooBar { a: Int } type foo_bar { b: Int }"
        ⟨"Api", none, none⟩ = .ok p ∧
      declaredScopes p.schema.text = [("FooBar", ["a"]), ("FooBar", ["b"])] ∧
      ¬ DistinctScopes p.schema.text := by
  have hread : (Collection.parse
      "type Query { x: Int } type FooBar { a: Int } type foo_bar { b: Int }").toOption.any (fun c =>
        (render c ⟨"Api", none, none⟩).toOption.any fun _ =>
          c.topologicalOrder.toOption.any fun order =>
            (c.scalars.map (fun s => (Identifier.ofType s, ([] : List String))) ++
              c.enums.map (fun e => (Identifier.ofType e.name, e.values.map Identifier.ofType)) ++
                order.map fun m =>
                  (Identifier.ofType m.name, m.fields.map fun f => Identifier.ofField f.name)) ==
              [("FooBar", ["a"]), ("FooBar", ["b"])]) = true := by
    decide +kernel
  obtain ⟨c, p, hparse, h, hread⟩ := exists_generated_of_any hread
  obtain ⟨c', order, hparse', horder, htext⟩ := exists_order_of_generate h
  obtain rfl := Except.ok.inj (hparse.symm.trans hparse')
  have hwf := Collection.wellFormed_of_parse hparse
  have hperm := Collection.perm_of_topologicalOrder hwf.nodup_modelNames horder
  have hscopes := declaredScopes_ofModels hwf fun m hm => hperm.mem_iff.mp hm
  rw [← htext] at hscopes
  rw [horder] at hread
  have hall : declaredScopes p.schema.text = [("FooBar", ["a"]), ("FooBar", ["b"])] :=
    hscopes.trans (eq_of_beq hread)
  refine ⟨p, h, hall, ?_⟩
  rw [DistinctScopes, hall]
  decide

end SchemaSdk.Sdk
