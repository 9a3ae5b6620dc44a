import SchemaSdk.Proofs.Sdk.ClientText

/-!
# Names in a client module

The methods of operations are told from one another when they are named, but not from the functions
that every client has, and the constants of the documents have names of their own. So a client has
two functions of one name exactly if a root field is called like one of the fixed functions, and two
constants of one name exactly if two mutations have one name in snake case.
-/
namespace SchemaSdk.Identifier

/-! ## Identifiers that are the name itself -/

/-- An identifier without the marks of changed ones is the name that it was made from. -/
theorem eq_of_escape_eq {name ident : String} (h : escape name = ident)
    (hraw : ¬ "r#".toList <+: ident.toList) (hdigit : ident.toList.head? ≠ some '_')
    (hreserved : ident.toList.getLast? ≠ some '_') : name = ident := by
  unfold escape at h
  split at h
  · subst h
    simp at hreserved
  · split at h
    · subst h
      simp at hraw
    · split at h
      · subst h
        simp at hdigit
      · exact h

end SchemaSdk.Identifier

namespace SchemaSdk.Sdk.ClientModule

open SchemaSdk.Schema

/-- The functions that a client may have without any operation. -/
theorem mem_of_mem_fixedNames {endpoint : Option String} {name : String}
    (h : name ∈ fixedNames endpoint) :
    name ∈ ["new", "with_http_client", "default_endpoint", "endpoint", "execute", "query"] := by
  unfold fixedNames at h
  split at h
  · simpa using h
  · simp only [List.append_nil, List.cons_append, List.nil_append, List.mem_cons,
      List.not_mem_nil, or_false] at h ⊢
    tauto

theorem nodup_fixedNames (endpoint : Option String) : (fixedNames endpoint).Nodup := by
  unfold fixedNames
  split
  · decide
  · decide

/-- A fixed name is its own identifier, has no marks of changed identifiers, and does not speak of
mutations. -/
theorem fixedNames_plain {endpoint : Option String} {name : String}
    (h : name ∈ fixedNames endpoint) :
    Identifier.escape name = name ∧ ¬ "r#".toList <+: name.toList ∧
      name.toList.head? ≠ some '_' ∧ name.toList.getLast? ≠ some '_' ∧
      ¬ "mutation".toList <:+: name.toList := by
  have hall : ∀ n ∈ ["new", "with_http_client", "default_endpoint", "endpoint", "execute", "query"],
      Identifier.escape n = n ∧ ¬ "r#".toList <+: n.toList ∧ n.toList.head? ≠ some '_' ∧
        n.toList.getLast? ≠ some '_' ∧ ¬ "mutation".toList <:+: n.toList := by decide
  exact hall name (mem_of_mem_fixedNames h)

/-- An identifier is a fixed name only if it was made from that name. -/
theorem escape_mem_fixedNames_iff {endpoint : Option String} {name : String} :
    Identifier.escape name ∈ fixedNames endpoint ↔ name ∈ fixedNames endpoint := by
  constructor
  · intro h
    obtain ⟨_, hraw, hdigit, hreserved, _⟩ := fixedNames_plain h
    rwa [Identifier.eq_of_escape_eq rfl hraw hdigit hreserved]
  · intro h
    rwa [(fixedNames_plain h).1]

/-- The name that says that an operation is a mutation is no fixed one. -/
theorem mutationMethod_notMem_fixedNames (endpoint : Option String) (o : Operation) :
    o.mutationMethod ∉ fixedNames endpoint := by
  intro h
  rw [Operation.mutationMethod, Identifier.ofField, escape_mem_fixedNames_iff] at h
  refine (fixedNames_plain h).2.2.2.2 ?_
  have hword : "mutation".toList ∈ Text.words "mutation".toList := by decide
  have hlower : Text.lowercaseWord "mutation".toList = "mutation".toList := by decide
  have hinfix := Text.infix_snakeChars_append (Text.snakeCase o.field.name).toList hword
  have hchars : (Text.snakeCase o.field.name ++ "_mutation").toList =
      (Text.snakeCase o.field.name).toList ++ '_' :: "mutation".toList := by simp
  have hsnake : ∀ s, (Text.snakeCase s).toList = Text.snakeChars s.toList := fun _ =>
    String.toList_ofList
  rw [hlower, ← hchars, ← hsnake] at hinfix
  exact hinfix

end SchemaSdk.Sdk.ClientModule

namespace SchemaSdk.Schema.Operation.Named

open SchemaSdk.Sdk.ClientModule (fixedNames)

variable {ops : List Operation} {names : List String} (h : Named [] ops names)

include h

/-! ## Methods and fixed functions -/

/-- The name of its field is the method of an operation or of one before it. -/
theorem plainMethod_mem {o : Operation} (ho : o ∈ ops) : o.plainMethod ∈ names := by
  obtain ⟨i, hi⟩ := List.mem_iff_getElem?.mp ho
  have hname := h.getElem?_eq_method hi
  by_cases htaken : o.kind = .mutation ∧ (names.take i).contains o.plainMethod
  · exact List.mem_of_mem_take (List.contains_iff_mem.mp htaken.2)
  · rw [method, if_neg htaken] at hname
    exact List.mem_of_getElem? hname

theorem eq_plainMethod_or_mutationMethod {name : String} (hname : name ∈ names) :
    ∃ o ∈ ops, name = o.plainMethod ∨ name = o.mutationMethod := by
  obtain ⟨i, hi⟩ := List.mem_iff_getElem?.mp hname
  have hlt : i < ops.length := by
    rw [← h.length_eq]
    exact (List.getElem?_eq_some_iff.mp hi).1
  have ho := List.getElem?_eq_getElem hlt
  rw [h.getElem?_eq_method ho, Option.some.injEq] at hi
  refine ⟨ops[i], List.getElem_mem hlt, ?_⟩
  rw [← hi, method]
  split
  · exact .inr rfl
  · exact .inl rfl

/-- The methods are told from the fixed functions exactly if no field is called like one. -/
theorem nodup_fixedNames_append_iff (endpoint : Option String) :
    (fixedNames endpoint ++ names).Nodup ↔
      ∀ o ∈ ops, Text.snakeCase o.field.name ∉ fixedNames endpoint := by
  rw [List.nodup_append']
  constructor
  · rintro ⟨_, _, hdisjoint⟩ o ho hfixed
    refine hdisjoint ?_ (h.plainMethod_mem ho)
    rwa [plainMethod, Identifier.ofField, Sdk.ClientModule.escape_mem_fixedNames_iff]
  · intro hfree
    refine ⟨Sdk.ClientModule.nodup_fixedNames endpoint, h.nodup, fun name hfixed hname => ?_⟩
    obtain ⟨o, ho, hname⟩ := h.eq_plainMethod_or_mutationMethod hname
    rcases hname with hname | hname
    · rw [hname, plainMethod, Identifier.ofField,
        Sdk.ClientModule.escape_mem_fixedNames_iff] at hfixed
      exact hfree o ho hfixed
    · rw [hname] at hfixed
      exact Sdk.ClientModule.mutationMethod_notMem_fixedNames endpoint o hfixed

end SchemaSdk.Schema.Operation.Named

namespace SchemaSdk.Schema

/-! ## Constants -/

/-- What the constants of a kind end in. -/
def OperationKind.last : OperationKind → Char
  | query => 'Y'
  | mutation => 'N'

namespace Operation

theorem getLast?_constant (o : Operation) : o.constant.toList.getLast? = some o.kind.last := by
  have hkeyword : ∀ k : OperationKind,
      (Text.upperCase k.keyword).toList.getLast? = some k.last := by
    intro k
    cases k
    · decide
    · decide
  have hne : (Text.upperCase o.kind.keyword).toList ≠ [] := by
    intro hnil
    simpa [hnil] using hkeyword o.kind
  rw [constant, String.toList_append, List.getLast?_append_of_ne_nil _ hne, hkeyword]

/-- Constants are the same exactly if their kinds and the names in snake case are. -/
theorem constant_eq_iff {o p : Operation} (ho : IsName o.field.name) (hp : IsName p.field.name) :
    o.constant = p.constant ↔
      o.kind = p.kind ∧ Text.snakeCase o.field.name = Text.snakeCase p.field.name := by
  constructor
  · intro h
    have hlast : o.kind.last = p.kind.last := by
      rw [← Option.some.injEq, ← getLast?_constant, ← getLast?_constant, h]
    have hkind : o.kind = p.kind := by
      cases hok : o.kind <;> cases hpk : p.kind <;> simp_all [OperationKind.last]
    refine ⟨hkind, ?_⟩
    have hcase : Text.upperCase (Text.snakeCase o.field.name) =
        Text.upperCase (Text.snakeCase p.field.name) := by
      rw [constant, constant, hkind, String.append_assoc, String.append_assoc] at h
      exact (String.append_left_inj _).mp h
    exact Text.snakeCase_inj_of_upperCase (ascii_of_spellsName ho) (ascii_of_spellsName hp) hcase
  · rintro ⟨hkind, hcase⟩
    rw [constant, constant, hkind, hcase]

end Operation

namespace Collection

variable {c : Collection}

/-- Two queries of one name in snake case would have one method. -/
theorem nodup_queryNames {names : List String} (h : Operation.Named [] c.operations names) :
    (c.queries.map fun q => Text.snakeCase q.field.name).Nodup := by
  have hnames : names.take c.queries.length =
      c.queries.map fun q => Identifier.ofField q.field.name := by
    refine List.ext_getElem? fun i => ?_
    rw [List.getElem?_map]
    by_cases hi : i < c.queries.length
    · have hquery : c.operations[i]? = some ⟨c.queries[i], .query⟩ := by
        rw [operations, List.getElem?_append_left (by simpa using hi), List.getElem?_map,
          List.getElem?_eq_getElem hi, Option.map_some]
      have hname := h.getElem?_eq_method hquery
      rw [Operation.method_of_query rfl] at hname
      rw [List.getElem?_take_of_lt hi, hname, List.getElem?_eq_getElem hi, Option.map_some,
        Operation.plainMethod]
    · have hle : c.queries.length ≤ i := Nat.le_of_not_lt hi
      rw [List.getElem?_eq_none (by simpa using .inl hle), List.getElem?_eq_none hle]
      rfl
  have hnodup : (names.take c.queries.length).Nodup := h.nodup.sublist (List.take_sublist _ _)
  have hescaped : (c.queries.map fun q => Identifier.ofField q.field.name) =
      (c.queries.map fun q => Text.snakeCase q.field.name).map Identifier.escape := by
    rw [List.map_map]
    exact List.map_congr_left fun q _ => by rw [Function.comp_apply, Identifier.ofField]
  rw [hnames, hescaped] at hnodup
  exact hnodup.of_map _

/-- The constants of operations of one kind are distinct exactly if the names in snake case are. -/
theorem nodup_constants_iff_of_kind {fields : List RootField} {kind : OperationKind}
    (h : ∀ f ∈ fields, IsName f.field.name) :
    (fields.map fun f => Operation.constant ⟨f, kind⟩).Nodup ↔
      (fields.map fun f => Text.snakeCase f.field.name).Nodup := by
  have hiff : ∀ f ∈ fields, ∀ g ∈ fields, Operation.constant ⟨f, kind⟩ =
      Operation.constant ⟨g, kind⟩ ↔ Text.snakeCase f.field.name = Text.snakeCase g.field.name := by
    intro f hf g hg
    have heq := Operation.constant_eq_iff (o := ⟨f, kind⟩) (p := ⟨g, kind⟩) (h f hf) (h g hg)
    rw [heq]
    exact ⟨fun hboth => hboth.2, fun hname => ⟨rfl, hname⟩⟩
  unfold List.Nodup
  rw [List.pairwise_map, List.pairwise_map]
  exact List.Pairwise.iff_of_mem fun hf hg => not_congr (hiff _ hf _ hg)

/-- **The constants of a client** are distinct exactly if no two mutations have one name in snake
case. -/
theorem nodup_constants_iff (h : c.WellFormed) {names : List String}
    (hnamed : Operation.Named [] c.operations names) :
    (c.operations.map (·.constant)).Nodup ↔
      (c.mutations.map fun m => Text.snakeCase m.field.name).Nodup := by
  have hquery : ∀ q ∈ c.queries, IsName q.field.name := fun q hq =>
    (h.operations_spelled ⟨q, .query⟩
      (List.mem_append_left _ (List.mem_map_of_mem hq))).field.name
  have hmutation : ∀ m ∈ c.mutations, IsName m.field.name := fun m hm =>
    (h.operations_spelled ⟨m, .mutation⟩
      (List.mem_append_right _ (List.mem_map_of_mem hm))).field.name
  have hsplit : c.operations.map (·.constant) =
      c.queries.map (fun q => Operation.constant ⟨q, .query⟩) ++
        c.mutations.map fun m => Operation.constant ⟨m, .mutation⟩ := by
    rw [operations, List.map_append, List.map_map, List.map_map]
    rfl
  have hdisjoint : List.Disjoint (c.queries.map fun q => Operation.constant ⟨q, .query⟩)
      (c.mutations.map fun m => Operation.constant ⟨m, .mutation⟩) := by
    intro name hq hm
    obtain ⟨q, hq, hname⟩ := List.mem_map.mp hq
    obtain ⟨m, hm, heq⟩ := List.mem_map.mp hm
    have hiff := Operation.constant_eq_iff (o := ⟨m, .mutation⟩) (p := ⟨q, .query⟩)
      (hmutation m hm) (hquery q hq)
    cases (hiff.mp (heq.trans hname.symm)).1
  rw [hsplit, List.nodup_append', nodup_constants_iff_of_kind hquery,
    nodup_constants_iff_of_kind hmutation]
  exact ⟨fun hall => hall.2.1, fun hall => ⟨nodup_queryNames hnamed, hall, hdisjoint⟩⟩

end Collection
end SchemaSdk.Schema

namespace SchemaSdk.Sdk

open SchemaSdk.Schema

/-! ## Generated clients -/

/-- The function of a client module with the name sends the document. -/
def Sends (text name document : String) : Prop :=
  ∃ constants constant, (name, constants) ∈ declaredFunctions text ∧ constant ∈ constants ∧
    (constant, document) ∈ declaredDocuments text

namespace Call

variable {c : Collection} {calls : List Call} (h : ofCollection c = .ok calls)

include h

theorem named_of_ofCollection : Operation.Named [] c.operations (calls.map (·.method)) := by
  obtain ⟨names, hnamed, rfl⟩ := ofCollection_eq_ok_iff.mp h
  rwa [map_method_zipWith hnamed.length_eq]

/-- The calls stand in the order of the operations: what depends on a call only through its
operation is what it is of the operations. -/
theorem map_of_ofCollection {α : Type} {f : Call → α} {g : Operation → α}
    (hcall : ∀ o name, f (ofOperation c o name) = g o) : calls.map f = c.operations.map g := by
  obtain ⟨names, hnamed, rfl⟩ := ofCollection_eq_ok_iff.mp h
  have hzip : c.operations.zipWith (fun o _ => g o) names =
      ((c.operations.zip names).map Prod.fst).map g := by
    rw [List.map_map, List.zip_eq_zipWith, List.map_zipWith]
    rfl
  rw [List.map_zipWith]
  simp only [hcall]
  rw [hzip, List.map_fst_zip (Nat.le_of_eq hnamed.length_eq.symm)]

/-- The calls hold the documents of the operations in their order. -/
theorem map_document : calls.map (fun k => (k.constant, k.document)) =
    c.operations.map fun o => (o.constant, (c.requestFor o).text) :=
  map_of_ofCollection h fun _ _ => by simp only [ofOperation]

end Call

/-- Whoever sends the document of a constant sends the only one that is declared under it, if the
constants are distinct. -/
theorem eq_of_mem_documents {c : Collection} (hnodup : (c.operations.map (·.constant)).Nodup)
    {op : Operation} (hop : op ∈ c.operations) {document : String} :
    (op.constant, document) ∈ c.operations.map (fun o => (o.constant, (c.requestFor o).text)) ↔
      document = (c.requestFor op).text := by
  constructor
  · intro h
    obtain ⟨o, ho, heq⟩ := List.mem_map.mp h
    obtain ⟨hconstant, rfl⟩ := Prod.mk.inj heq
    rw [List.inj_on_of_nodup_map hnodup ho hop hconstant]
  · intro h
    exact List.mem_map.mpr ⟨op, hop, by rw [h]⟩

/-- The names of the functions of a client are the fixed ones and the methods of its calls. -/
theorem functionNames_of_generate {sdl : String} {o : Options} {p : Package}
    (h : generate sdl o = .ok p) :
    ∃ c calls, Collection.parse sdl = .ok c ∧ Call.ofCollection c = .ok calls ∧
      (o.Quotable → (declaredFunctions p.client.text).map (·.1) =
        ClientModule.fixedNames o.endpoint ++ calls.map (·.method)) := by
  obtain ⟨c, calls, hparse, hcalls, hread⟩ := declared_of_generate h
  refine ⟨c, calls, hparse, hcalls, fun hquotable => ?_⟩
  rw [(hread hquotable).1, List.map_append, List.map_map, List.map_map]
  simp only [Function.comp_def, List.map_id']

/-- **The functions of a client** are the fixed ones and one method for each operation. No two of
them have one name exactly if no root field is called like a fixed function in snake case. -/
theorem functions_of_generate {sdl : String} {o : Options} {p : Package}
    (h : generate sdl o = .ok p) :
    ∃ c calls, Collection.parse sdl = .ok c ∧ Call.ofCollection c = .ok calls ∧
      (o.Quotable → (declaredFunctions p.client.text).map (·.1) =
        ClientModule.fixedNames o.endpoint ++ calls.map (·.method)) ∧
      ((ClientModule.fixedNames o.endpoint ++ calls.map (·.method)).Nodup ↔
        ∀ op ∈ c.operations,
          Text.snakeCase op.field.name ∉ ClientModule.fixedNames o.endpoint) := by
  obtain ⟨c, calls, hparse, hcalls, hread⟩ := functionNames_of_generate h
  refine ⟨c, calls, hparse, hcalls, hread, ?_⟩
  exact (Call.named_of_ofCollection hcalls).nodup_fixedNames_append_iff o.endpoint

/-- Fields that come close to fixed functions, and a mutation that is called like a query. -/
theorem functions_of_generate_endpoint :
    ∃ p, generate "type Query { a: Int news: Int self_endpoint: Int } type Mutation { a: Int }"
        ⟨"Api", none, some "https://api.example.com/graphql"⟩ = .ok p ∧
      (declaredFunctions p.client.text).map (·.1) = ["new", "with_http_client", "default_endpoint",
        "endpoint", "execute", "query", "a", "news", "self_endpoint", "a_mutation"] ∧
      ((declaredFunctions p.client.text).map (·.1)).Nodup := by
  have hok : (generate "type Query { a: Int news: Int self_endpoint: Int } type Mutation { a: Int }"
      ⟨"Api", none, some "https://api.example.com/graphql"⟩).toOption.any
        (fun _ => true) = true := by
    decide +kernel
  have hread : (Collection.parse
      "type Query { a: Int news: Int self_endpoint: Int } type Mutation { a: Int }").toOption.any
        (fun c => (Call.ofCollection c).toOption.any fun calls =>
          decide (calls.map (·.method) = ["a", "news", "self_endpoint", "a_mutation"] ∧
            ∀ op ∈ c.operations, Text.snakeCase op.field.name ∉
              ClientModule.fixedNames (some "https://api.example.com/graphql"))) = true := by
    decide +kernel
  have hquotable : Options.Quotable ⟨"Api", none, some "https://api.example.com/graphql"⟩ := by
    intro e he
    obtain rfl := Option.mem_some_iff.mp he
    decide
  have hfixed : ClientModule.fixedNames (some "https://api.example.com/graphql") =
      ["new", "with_http_client", "default_endpoint", "endpoint", "execute", "query"] := by decide
  obtain ⟨p, h, _⟩ := exists_eq_ok_of_any hok
  obtain ⟨c, calls, hparse, hcalls, hnames, hnodup⟩ := functions_of_generate h
  rw [hparse] at hread
  obtain ⟨_, hc, hread⟩ := exists_eq_ok_of_any hread
  obtain rfl := Except.ok.inj hc
  rw [hcalls] at hread
  obtain ⟨hmethods, hfree⟩ := of_decide_eq_true hread
  refine ⟨p, h, ?_, ?_⟩
  · rw [hnames hquotable, hmethods, hfixed]
    rfl
  · rw [hnames hquotable]
    exact hnodup.mpr hfree

/-- A query called `new` makes a second function of that name. -/
theorem functions_of_new :
    ∃ p, generate "type Query { new: Int }" ⟨"Api", none, none⟩ = .ok p ∧
      (declaredFunctions p.client.text).map (·.1) =
        ["new", "with_http_client", "endpoint", "execute", "query", "new"] ∧
      ¬ ((declaredFunctions p.client.text).map (·.1)).Nodup := by
  have hok : (generate "type Query { new: Int }" ⟨"Api", none, none⟩).toOption.any
      (fun _ => true) = true := by decide +kernel
  have hread : (Collection.parse "type Query { new: Int }").toOption.any (fun c =>
      (Call.ofCollection c).toOption.any fun calls =>
        calls.map (·.method) == ["new"]) = true := by
    decide +kernel
  have hquotable : Options.Quotable ⟨"Api", none, none⟩ := fun e he => by cases he
  have hfixed : ClientModule.fixedNames none =
      ["new", "with_http_client", "endpoint", "execute", "query"] := by decide
  obtain ⟨p, h, _⟩ := exists_eq_ok_of_any hok
  obtain ⟨c, calls, hparse, hcalls, hnames⟩ := functionNames_of_generate h
  rw [hparse] at hread
  obtain ⟨_, hc, hread⟩ := exists_eq_ok_of_any hread
  obtain rfl := Except.ok.inj hc
  rw [hcalls] at hread
  have hall : (declaredFunctions p.client.text).map (·.1) =
      ["new", "with_http_client", "endpoint", "execute", "query", "new"] := by
    rw [hnames hquotable, hfixed, show calls.map (·.method) = ["new"] from eq_of_beq hread]
    rfl
  refine ⟨p, h, hall, ?_⟩
  rw [hall]
  decide

/-- The documents of a client are those of its operations, and each method sends what is declared
under the constant of its operation. -/
theorem sends_of_generate {sdl : String} {o : Options} {p : Package}
    (h : generate sdl o = .ok p) :
    ∃ c calls, Collection.parse sdl = .ok c ∧ Call.ofCollection c = .ok calls ∧
      (o.Quotable →
        declaredDocuments p.client.text =
          c.operations.map (fun op => (op.constant, (c.requestFor op).text)) ∧
        ∀ (i : Nat) (op : Operation) (k : Call), c.operations[i]? = some op →
          calls[i]? = some k → ∀ document, Sends p.client.text k.method document ↔
            (op.constant, document) ∈ declaredDocuments p.client.text) := by
  obtain ⟨c, calls, hparse, hcalls, hread⟩ := declared_of_generate h
  refine ⟨c, calls, hparse, hcalls, fun hquotable => ?_⟩
  obtain ⟨hfunctions, hdocuments⟩ := hread hquotable
  refine ⟨by rw [hdocuments, Call.map_document hcalls], fun i op k hop hk document => ?_⟩
  have hconstant : k.constant = op.constant := by
    obtain ⟨op', taken, hop', rfl⟩ := Call.exists_operation_of_getElem? hcalls hk
    obtain rfl : op' = op := Option.some.inj (hop'.symm.trans hop)
    simp only [Call.ofOperation]
  have hmem : k ∈ calls := List.mem_of_getElem? hk
  rw [Sends, hfunctions]
  constructor
  · rintro ⟨constants, constant, hfunction, hsent, hdocument⟩
    rcases List.mem_append.mp hfunction with hfixed | hcall
    · obtain ⟨_, _, heq⟩ := List.mem_map.mp hfixed
      rw [← (Prod.mk.inj heq).2] at hsent
      cases hsent
    · obtain ⟨k', hk', heq⟩ := List.mem_map.mp hcall
      obtain ⟨hmethod, rfl⟩ := Prod.mk.inj heq
      have hsame : k' = k := List.inj_on_of_nodup_map
        (Call.named_of_ofCollection hcalls).nodup hk' hmem hmethod
      rwa [← hconstant, ← hsame, ← List.mem_singleton.mp hsent]
  · intro hdocument
    rw [← hconstant] at hdocument
    exact ⟨[k.constant], k.constant, List.mem_append_right _ (List.mem_map_of_mem hmem),
      List.mem_singleton_self _, hdocument⟩

/-- **The documents of a client.** Every operation has a constant with its document. The constants
have distinct names exactly if no two mutations have one name in snake case, and then every method
sends the document of its own operation and no other. -/
theorem documents_of_generate {sdl : String} {o : Options} {p : Package}
    (h : generate sdl o = .ok p) :
    ∃ c calls, Collection.parse sdl = .ok c ∧ Call.ofCollection c = .ok calls ∧
      ((c.operations.map (·.constant)).Nodup ↔
        (c.mutations.map fun m => Text.snakeCase m.field.name).Nodup) ∧
      (o.Quotable →
        declaredDocuments p.client.text =
          c.operations.map (fun op => (op.constant, (c.requestFor op).text)) ∧
        ((c.mutations.map fun m => Text.snakeCase m.field.name).Nodup →
          ∀ (i : Nat) (op : Operation) (k : Call), c.operations[i]? = some op →
            calls[i]? = some k → ∀ document,
              Sends p.client.text k.method document ↔ document = (c.requestFor op).text)) := by
  obtain ⟨c, calls, hparse, hcalls, hread⟩ := sends_of_generate h
  have hiff := Collection.nodup_constants_iff (Collection.wellFormed_of_parse hparse)
    (Call.named_of_ofCollection hcalls)
  refine ⟨c, calls, hparse, hcalls, hiff, fun hquotable => ?_⟩
  obtain ⟨hdocuments, hsends⟩ := hread hquotable
  refine ⟨hdocuments, fun hnodup i op k hop hk document => ?_⟩
  rw [hsends i op k hop hk, hdocuments]
  exact eq_of_mem_documents (hiff.mpr hnodup) (List.mem_of_getElem? hop)

/-- A mutation that has the name of a query in snake case sends its own document. -/
theorem documents_of_generate_sameName :
    ∃ p c op, generate "type Query { fooBar: Int } type Mutation { foo_bar: Int foo: Int }"
        ⟨"Api", none, none⟩ = .ok p ∧
      Collection.parse "type Query { fooBar: Int } type Mutation { foo_bar: Int foo: Int }" =
        .ok c ∧
      op ∈ c.operations ∧ op.kind = .mutation ∧ op.field.name = "foo_bar" ∧
      ((declaredDocuments p.client.text).map (·.1)).Nodup ∧
      ∀ document, Sends p.client.text "foo_bar_mutation" document ↔
        document = (c.requestFor op).text := by
  have hok : (generate "type Query { fooBar: Int } type Mutation { foo_bar: Int foo: Int }"
      ⟨"Api", none, none⟩).toOption.any (fun _ => true) = true := by
    decide +kernel
  have hread : (Collection.parse
      "type Query { fooBar: Int } type Mutation { foo_bar: Int foo: Int }").toOption.any
        (fun c => (Call.ofCollection c).toOption.any fun calls =>
          decide ((c.mutations.map fun m => Text.snakeCase m.field.name).Nodup ∧
            (∃ op, c.operations[1]? = some op ∧ op.kind = .mutation ∧ op.field.name = "foo_bar") ∧
            ∃ k, calls[1]? = some k ∧ k.method = "foo_bar_mutation")) = true := by
    decide +kernel
  have hquotable : Options.Quotable ⟨"Api", none, none⟩ := fun e he => by cases he
  obtain ⟨p, h, _⟩ := exists_eq_ok_of_any hok
  obtain ⟨c, calls, hparse, hcalls, hconstants, hdocuments⟩ := documents_of_generate h
  rw [hparse] at hread
  obtain ⟨_, hc, hread⟩ := exists_eq_ok_of_any hread
  obtain rfl := Except.ok.inj hc
  rw [hcalls] at hread
  obtain ⟨hnodup, ⟨op, hop, hkind, hname⟩, k, hk, hmethod⟩ := of_decide_eq_true hread
  obtain ⟨hdeclared, hsends⟩ := hdocuments hquotable
  refine ⟨p, c, op, h, hparse, List.mem_of_getElem? hop, hkind, hname, ?_, ?_⟩
  · rw [hdeclared, List.map_map]
    exact hconstants.mpr hnodup
  · rw [← hmethod]
    exact hsends hnodup 1 op k hop hk

/-- Two mutations of one name in snake case have two constants of one name. -/
theorem documents_of_fooBar :
    ∃ p, generate "type Query { x: Int } type Mutation { fooBar: Int foo_bar: Int }"
        ⟨"Api", none, none⟩ = .ok p ∧
      (declaredDocuments p.client.text).map (·.1) =
        ["X_QUERY", "FOO_BAR_MUTATION", "FOO_BAR_MUTATION"] ∧
      ¬ ((declaredDocuments p.client.text).map (·.1)).Nodup := by
  have hok : (generate "type Query { x: Int } type Mutation { fooBar: Int foo_bar: Int }"
      ⟨"Api", none, none⟩).toOption.any (fun _ => true) = true := by
    decide +kernel
  have hread : (Collection.parse
      "type Query { x: Int } type Mutation { fooBar: Int foo_bar: Int }").toOption.any (fun c =>
        c.operations.map (·.constant) == ["X_QUERY", "FOO_BAR_MUTATION", "FOO_BAR_MUTATION"]) =
          true := by
    decide +kernel
  have hquotable : Options.Quotable ⟨"Api", none, none⟩ := fun e he => by cases he
  obtain ⟨p, h, _⟩ := exists_eq_ok_of_any hok
  obtain ⟨c, calls, hparse, hcalls, hdocuments⟩ := sends_of_generate h
  rw [hparse] at hread
  obtain ⟨_, hc, hread⟩ := exists_eq_ok_of_any hread
  obtain rfl := Except.ok.inj hc
  have hall : (declaredDocuments p.client.text).map (·.1) =
      ["X_QUERY", "FOO_BAR_MUTATION", "FOO_BAR_MUTATION"] := by
    rw [(hdocuments hquotable).1, List.map_map]
    exact eq_of_beq hread
  refine ⟨p, h, hall, ?_⟩
  rw [hall]
  decide

end SchemaSdk.Sdk
