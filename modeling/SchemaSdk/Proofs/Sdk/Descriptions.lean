import SchemaSdk.Proofs.Sdk.Outline
import SchemaSdk.Proofs.Sdk.Undescribed
import SchemaSdk.Proofs.Text.DocComments

/-!
# Descriptions in the generated modules

A description is printed as a documentation comment before a visible line, and nowhere else. So
schema texts that differ only in their descriptions have packages that differ only in documentation
comments.
-/
namespace SchemaSdk.Sdk

open SchemaSdk.Schema SchemaSdk.Text

theorem docComment_nil (indent : String) : docComment indent [] = [] := rfl

/-- An indented comment is printed as one, whatever it says, even if nothing. -/
theorem printsComment_docComment {indent : String} (hindent : indent.toList.all isBlank = true)
    (hfeed : '\n' ∉ indent.toList) {doc : List String} (hdoc : ∀ l ∈ doc, '\n' ∉ l.toList) :
    ∀ d ∈ docComment indent doc, PrintsComment d := by
  intro d hd
  refine ⟨not_mem_docComment hfeed hdoc d hd, ?_⟩
  obtain ⟨l, _, rfl⟩ := List.mem_map.mp hd
  have hslash : isBlank '/' = false := by decide
  have htrim : trimEnd (indent ++ "/// " ++ l).toList =
      indent.toList ++ '/' :: '/' :: '/' :: trimEnd (' ' :: l.toList) := by
    have hrest : trimEnd ('/' :: '/' :: '/' :: ' ' :: l.toList) =
        '/' :: '/' :: '/' :: trimEnd (' ' :: l.toList) := by
      simp only [trimEnd_cons_of_visible hslash]
    rw [String.toList_append, String.toList_append, List.append_assoc]
    change trimEnd (indent.toList ++ '/' :: '/' :: '/' :: ' ' :: l.toList) = _
    rw [trimEnd_append (by simp [hrest]), hrest]
  rw [htrim, isDocComment, trimStart, List.dropWhile_append_of_pos (List.all_eq_true.mp hindent)]
  rfl

/-! ## The schema module -/

namespace Member

/-- A member without its documentation. -/
def undocumented (m : Member) : Member := { m with doc := [] }

theorem ofField_undescribed (c : Collection) (f : Field) :
    ofField c.undescribed f.undescribed = (ofField c f).undocumented := by
  simp [ofField, undocumented, Collection.rustTypeOf_undescribed, docLines]

theorem startsVisible_serdeAttribute (m : Member) : ∀ l ∈ m.serdeAttribute, StartsVisible l := by
  have hname : StartsVisible "    #[serde(rename = \"" := startsVisible (by decide) (by decide)
  have hdefault : StartsVisible "    #[serde(default)]" := startsVisible (by decide) (by decide)
  unfold serdeAttribute
  split
  · simpa using (hname.append _).append _
  · simpa using (hname.append _).append _
  · simpa using hdefault
  · simp

theorem documented_lines {m : Member} (hdoc : ∀ l ∈ m.doc, '\n' ∉ l.toList) :
    Documented m.lines m.undocumented.lines := by
  have hcomment : ∀ d ∈ docComment "    " m.doc, PrintsComment d :=
    printsComment_docComment (by decide) (by decide) hdoc
  have hattribute := m.startsVisible_serdeAttribute
  have hpub : StartsVisible "    pub " := startsVisible (by decide) (by decide)
  have hbare : m.undocumented.lines =
      m.serdeAttribute ++ ["    pub " ++ m.ident ++ ": " ++ m.type ++ ","] := by
    simp only [undocumented, lines, docComment_nil, List.nil_append, serdeAttribute, isRenamed]
  rw [hbare, lines, List.append_assoc]
  -- The line that follows the comment is the attribute if there is one, and else the field.
  cases hlines : m.serdeAttribute with
  | nil => exact .comment _ hcomment ((((hpub.append _).append _).append _).append _) .nil
  | cons a as => exact .comment a hcomment (hattribute a (hlines ▸ List.mem_cons_self)) (.refl _)

end Member

namespace Declaration

theorem documented_ofEnum (e : Enumeration) :
    Documented (ofEnum e).lines (ofEnum e.undescribed).lines := by
  have hcomment : ∀ d ∈ docComment "" (docLines e.description), PrintsComment d :=
    printsComment_docComment (by decide) (by decide) (not_mem_docLines _)
  have hderive : StartsVisible
      "#[derive(Debug, Clone, Copy, PartialEq, Eq, Hash, Serialize, Deserialize)]" :=
    startsVisible (by decide) (by decide)
  rw [ofEnum, ofEnum, lines, lines]
  simp only [List.append_assoc, List.cons_append]
  exact .comment _ hcomment hderive (.refl _)

theorem documented_ofModel (c : Collection) (m : Model) :
    Documented (ofModel c m).lines (ofModel c.undescribed m.undescribed).lines := by
  have hcomment : ∀ d ∈ docComment "" (docLines m.description), PrintsComment d :=
    printsComment_docComment (by decide) (by decide) (not_mem_docLines _)
  have hderive : StartsVisible
      "#[derive(Debug, Clone, PartialEq, Serialize, Deserialize)]" :=
    startsVisible (by decide) (by decide)
  have hmembers : Documented ((m.fields.map (Member.ofField c)).flatMap (·.lines))
      ((m.undescribed.fields.map (Member.ofField c.undescribed)).flatMap (·.lines)) := by
    simp only [Model.fields_undescribed, List.flatMap_map, Member.ofField_undescribed]
    exact .flatMap fun f _ => Member.documented_lines (not_mem_docLines f.description)
  rw [ofModel, ofModel, lines, lines]
  simp only [List.append_assoc, List.cons_append]
  exact .comment _ hcomment hderive (.line _ (hmembers.append (.refl _)))

end Declaration

theorem SchemaModule.documented_ofModels (c : Collection) (models : List Model) :
    Documented (ofModels c models).lines
      (ofModels c.undescribed (models.map (·.undescribed))).lines := by
  have htypes : Documented ((ofModels c models).types.flatMap (·.lines))
      ((ofModels c.undescribed (models.map (·.undescribed))).types.flatMap (·.lines)) := by
    simp only [ofModels, Collection.undescribed, List.flatMap_append, List.flatMap_map]
    refine .append (.flatMap fun e _ => Declaration.documented_ofEnum e) ?_
    exact .flatMap fun m _ => Declaration.documented_ofModel c m
  exact .append (.refl _) htypes

/-! ## The client module -/

namespace Call

/-- A call without its documentation. -/
def undocumented (k : Call) : Call :=
  { k with doc := [], parameters := k.parameters.map (·.undocumented) }

theorem ofOperation_undescribed (c : Collection) (o : Operation) (method : String) :
    ofOperation c.undescribed o.undescribed method = (ofOperation c o method).undocumented := by
  simp [ofOperation, undocumented, Collection.requestFor_undescribed,
    Collection.rustTypeOf_undescribed, Member.ofField_undescribed, docLines]

theorem parameterText_undocumented (k : Call) :
    k.undocumented.parameterText = k.parameterText := by
  simp [parameterText, undocumented, Member.undocumented, Function.comp_def]

theorem variablesText_undocumented (k : Call) :
    k.undocumented.variablesText = k.variablesText := by
  simp [variablesText, undocumented, Member.undocumented, Function.comp_def]

theorem documented_lines {k : Call} (hdoc : ∀ l ∈ k.doc, '\n' ∉ l.toList) :
    Documented k.lines k.undocumented.lines := by
  have hcomment : ∀ d ∈ docComment "    " k.doc, PrintsComment d :=
    printsComment_docComment (by decide) (by decide) hdoc
  have hsignature : StartsVisible "    pub async fn " := startsVisible (by decide) (by decide)
  rw [lines, lines, parameterText_undocumented, variablesText_undocumented]
  simp only [undocumented, docComment_nil, List.cons_append, List.nil_append]
  refine .line "" (.comment _ hcomment ?_ (.refl _))
  exact (((((hsignature.append _).append _).append _).append _).append _).append _

/-- The calls are made from the same operations and names, or the same two methods collide. -/
theorem ofCollection_undescribed (c : Collection) :
    (∃ e, ofCollection c = .error e ∧ ofCollection c.undescribed = .error e) ∨
      ∃ named : List (Operation × String),
        ofCollection c = .ok (named.map fun x => ofOperation c x.1 x.2) ∧
        ofCollection c.undescribed =
          .ok (named.map fun x => ofOperation c.undescribed x.1.undescribed x.2) := by
  rw [ofCollection, ofCollection, Collection.operations_undescribed, Operation.methods_undescribed]
  cases Operation.methods [] c.operations with
  | error e => exact .inl ⟨e, rfl, rfl⟩
  | ok names =>
    refine .inr ⟨c.operations.zip names, ?_, ?_⟩
    · rw [List.map_zip_eq_zipWith]
      rfl
    · rw [List.map_zip_eq_zipWith]
      simp only [Except.map, List.zipWith_map_left]
      rfl

end Call

theorem ClientModule.documented_lines (c : Collection) (named : List (Operation × String))
    (client schemaModule : String) (endpoint : Option String) :
    Documented
      (ClientModule.mk client schemaModule endpoint
        (named.map fun x => Call.ofOperation c x.1 x.2)).lines
      (ClientModule.mk client schemaModule endpoint
        (named.map fun x => Call.ofOperation c.undescribed x.1.undescribed x.2)).lines := by
  have hconstants : ∀ x : Operation × String,
      (Call.ofOperation c.undescribed x.1.undescribed x.2).documentLine =
        (Call.ofOperation c x.1 x.2).documentLine := fun x => by
    rw [Call.ofOperation_undescribed]
    rfl
  have hmethods : Documented (named.flatMap fun x => (Call.ofOperation c x.1 x.2).lines)
      (named.flatMap fun x => (Call.ofOperation c.undescribed x.1.undescribed x.2).lines) := by
    refine .flatMap fun x _ => ?_
    rw [Call.ofOperation_undescribed]
    exact Call.documented_lines (not_mem_docLines x.1.field.description)
  simp only [lines, List.map_map, List.flatMap_map, Function.comp_def, hconstants]
  exact (Documented.append (.refl _) hmethods).append (.refl _)

/-! ## Packages -/

/-- A package whose modules have no documentation comments. -/
def Package.withoutDocComments (p : Package) : Package where
  client := ⟨p.client.name, Text.withoutDocComments p.client.text⟩
  schema := ⟨p.schema.name, Text.withoutDocComments p.schema.text⟩

/-- A collection has the same package without its descriptions, up to documentation comments. -/
theorem withoutDocComments_render_undescribed (c : Collection) (o : Options) :
    (render c.undescribed o).map (·.withoutDocComments) =
      (render c o).map (·.withoutDocComments) := by
  rw [render, render, Collection.topologicalOrder_undescribed]
  cases c.topologicalOrder with
  | error e => rfl
  | ok models =>
    rcases Call.ofCollection_undescribed c with ⟨e, hcalls, hbare⟩ | ⟨named, hcalls, hbare⟩
    · simp only [hcalls, hbare, Except.map]
    · have hclient := ClientModule.documented_lines c named (Identifier.client o.clientName)
        (Identifier.schemaModule o.schemaName) o.endpoint
      have hschema := SchemaModule.documented_ofModels c models
      simp only [hcalls, hbare, Except.map, Package.withoutDocComments, layout,
        hclient.withoutDocComments_tidy, hschema.withoutDocComments_tidy]

/-- The package of a document. -/
def packageOf (d : Document) (o : Options) : Except GenerateError Package :=
  match Collection.ofDocument d with
  | .error e => .error (.schema e)
  | .ok c => render c o

theorem generate_eq_packageOf {sdl : String} {d : Document} (h : Document.parse sdl = .ok d)
    (o : Options) : generate sdl o = packageOf d o := by
  delta generate packageOf
  cases hd : Collection.ofDocument d with
  | error e => simp only [Collection.parse_eq_ofDocument h, hd]
  | ok c => simp only [Collection.parse_eq_ofDocument h, hd]

theorem withoutDocComments_packageOf_undescribed (d : Document) (o : Options) :
    (packageOf d.undescribed o).map (·.withoutDocComments) =
      (packageOf d o).map (·.withoutDocComments) := by
  rw [packageOf, packageOf, Collection.ofDocument_undescribed]
  cases Collection.ofDocument d with
  | error e => rfl
  | ok c => exact withoutDocComments_render_undescribed c o

theorem exists_eq_ok_of_map {ε α β : Type} {x : Except ε α} {f : α → β} {b : β}
    (h : x.map f = .ok b) : ∃ a, x = .ok a ∧ f a = b := by
  cases x with
  | error e => cases h
  | ok a => exact ⟨a, rfl, Except.ok.inj h⟩

/-- **Descriptions stay in documentation comments.** If a package is generated for a schema text,
one is generated for every text that says the same up to its descriptions. The modules of both have
the same lines beside documentation comments, and those are the lines that the modules have if
there are no descriptions at all. -/
theorem withoutDocComments_of_generate {sdl sdl' : String} {d d' : Document}
    (hd : Document.parse sdl = .ok d) (hd' : Document.parse sdl' = .ok d')
    (hsame : d'.undescribed = d.undescribed) {o : Options} {p : Package}
    (h : generate sdl o = .ok p) :
    (∃ p', generate sdl' o = .ok p' ∧ p'.withoutDocComments = p.withoutDocComments) ∧
      ∃ q, packageOf d.undescribed o = .ok q ∧ p.withoutDocComments = q.withoutDocComments := by
  rw [generate_eq_packageOf hd] at h
  have hbare := withoutDocComments_packageOf_undescribed d o
  have hbare' := withoutDocComments_packageOf_undescribed d' o
  rw [h] at hbare
  rw [hsame, hbare] at hbare'
  obtain ⟨p', hp', hcode'⟩ := exists_eq_ok_of_map hbare'.symm
  obtain ⟨q, hq, hcode⟩ := exists_eq_ok_of_map hbare
  exact ⟨⟨p', (generate_eq_packageOf hd' o).trans hp', hcode'⟩, q, hq, hcode.symm⟩

/-- A schema with descriptions that hold quotes, code, empty lines and line breaks. -/
def describedSchema : String :=
  "\"\"\"\n\\\"\"\"\n\n fn f\"\"\" type A \x7b \"b\\n\\r\" x: E \x7d enum E \x7b \"c\" V \x7d " ++
    "type Query \x7b \"\\u2028 d\" a(\"e\" n: Int): A \x7d"

/-- The same schema with other descriptions in other places. -/
def redescribedSchema : String :=
  "type A \x7b x: E \x7d \"\" enum E \x7b V \x7d type Query \x7b a(n: Int): A \x7d"

theorem withoutDocComments_of_generate_redescribed :
    ∃ d d' p p', Document.parse describedSchema = .ok d ∧
      Document.parse redescribedSchema = .ok d' ∧ d'.undescribed = d.undescribed ∧
      generate describedSchema ⟨"api", none, none⟩ = .ok p ∧
      generate redescribedSchema ⟨"api", none, none⟩ = .ok p' ∧
      p'.withoutDocComments = p.withoutDocComments := by
  have hread : (Document.parse describedSchema).toOption.any (fun d =>
      (Document.parse redescribedSchema).toOption.any fun d' =>
        d'.undescribed == d.undescribed &&
          (packageOf d ⟨"api", none, none⟩).toOption.any fun _ => true) = true := by
    decide +kernel
  obtain ⟨d, hd, hread⟩ := exists_eq_ok_of_any hread
  obtain ⟨d', hd', hread⟩ := exists_eq_ok_of_any hread
  rw [Bool.and_eq_true, beq_iff_eq] at hread
  obtain ⟨p, hp, _⟩ := exists_eq_ok_of_any hread.2
  rw [← generate_eq_packageOf hd] at hp
  obtain ⟨⟨p', hp', hcode⟩, _⟩ := withoutDocComments_of_generate hd hd' hread.1 hp
  exact ⟨d, d', p, p', hd, hd', hread.1, hp, hp', hcode⟩

end SchemaSdk.Sdk
