import SchemaSdk.Proofs.Sdk.RequestText

/-!
# The types of variables

A request declares a variable for every argument of its operation. The type of the variable is
printed from what a field keeps of a type, which is less than the type where lists stand in lists:
of these only the outermost one is left, with what is at the bottom as its items.
-/
namespace SchemaSdk.Schema

open SchemaSdk.Text

/-! ## Collapsed types -/

namespace TypeExpr

/-- How many lists of a type stand in one another. -/
def depth : TypeExpr → Nat
  | named _ _ => 0
  | list item _ => item.depth + 1

/-- A type with all its lists as one. It keeps the marks of the outermost list and of the items of
that list. -/
def collapsed : TypeExpr → TypeExpr
  | named n required => named n required
  | list item required => list (named item.base item.isRequired) required

theorem collapsed_collapsed (t : TypeExpr) : t.collapsed.collapsed = t.collapsed := by
  cases t with
  | named n required => rfl
  | list item required => rfl

theorem depth_collapsed (t : TypeExpr) : t.collapsed.depth = min t.depth 1 := by
  cases t with
  | named n required => rfl
  | list item required =>
    rw [collapsed, depth, depth, depth]
    omega

theorem collapsed_eq_self {t : TypeExpr} (h : t.depth ≤ 1) : t.collapsed = t := by
  cases t with
  | named n required => rfl
  | list item required =>
    cases item with
    | named n r => rfl
    | list item r =>
      rw [depth, depth] at h
      omega

/-- Every list of a type opens a bracket, and nothing else does. -/
theorem count_text (t : TypeExpr) : t.text.toList.count '[' = t.depth := by
  have hmark : ∀ required : Bool, (if required then "!" else "").toList.count '[' = 0 := by decide
  have hopen : "[".toList.count '[' = 1 := rfl
  have hclose : "]".toList.count '[' = 0 := rfl
  induction t with
  | named n required =>
    have hname : n.text.toList.count '[' = 0 := List.count_eq_zero.mpr fun hmem => by
      cases isNamePart_of_spellsName n.spells _ hmem
    rw [text, String.toList_append, List.count_append, hname, hmark, depth]
  | list item required ih =>
    simp only [text, String.toList_append, List.count_append, hopen, ih, hclose, hmark, depth]
    omega

/-- A type is written as its collapsed one exactly if no list stands in a list. -/
theorem text_collapsed_eq_iff {t : TypeExpr} : t.collapsed.text = t.text ↔ t.depth ≤ 1 := by
  constructor
  · intro h
    have hdepth : t.collapsed.depth = t.depth := by rw [← count_text, ← count_text, h]
    rw [depth_collapsed] at hdepth
    omega
  · intro h
    rw [collapsed_eq_self h]

end TypeExpr

/-- A field prints the type it was made from with the lists collapsed. -/
theorem Field.sdlType_ofTyped (name : Name) (t : TypeExpr) (description : Option String) :
    (Field.ofTyped name t description).sdlType = t.collapsed.text := by
  cases t with
  | named n required =>
    have hflags : (ofTyped name (.named n required) description).sdlType =
        if required then n.text ++ "!" else n.text := rfl
    rw [hflags, TypeExpr.collapsed, TypeExpr.text]
    cases required <;> simp
  | list item required =>
    have hflags : (ofTyped name (.list item required) description).sdlType =
        let inner := "[" ++ item.base.text ++ (if item.isRequired then "!" else "") ++ "]"
        if required then inner ++ "!" else inner := rfl
    rw [hflags, TypeExpr.collapsed, TypeExpr.text, TypeExpr.text]
    cases required <;> simp [String.append_assoc]

/-! ## Variables read back -/

/-- The variable that is read behind a dollar sign. Its name ends at a colon, and its type, which a
space stands before, at a comma or a parenthesis. -/
def variableOf (s : List Char) : Variable where
  name := String.ofList (s.takeWhile (· != ':'))
  type := String.ofList (((s.dropWhile (· != ':')).drop 2).takeWhile fun c => c != ',' && c != ')')

/-- The variables that a request declares, which it does before its first brace. -/
def declaredVariables (text : String) : List Variable :=
  ((text.toList.takeWhile (· != '\x7b')).splitOn '$').tail.map variableOf

/-- No mark that the reader looks for is in the name or the type of the variable. -/
structure Variable.Printable (v : Variable) : Prop where
  name : ':' ∉ v.name.toList ∧ '$' ∉ v.name.toList
  type : '$' ∉ v.type.toList ∧ ',' ∉ v.type.toList ∧ ')' ∉ v.type.toList

namespace Variable

variable {v : Variable}

/-- A variable as the header of a request writes it. -/
def text (v : Variable) : String := "$" ++ v.name ++ ": " ++ v.type

/-- The text of a variable behind its dollar sign. -/
def body (v : Variable) : List Char := v.name.toList ++ ':' :: ' ' :: v.type.toList

theorem toList_text (v : Variable) : v.text.toList = '$' :: v.body := by simp [text, body]

theorem Printable.not_mem_body (h : v.Printable) : '$' ∉ v.body := by
  simp [body, h.name.2, h.type.1]

theorem variableOf_body (h : v.Printable) {c : Char} (hc : c = ',' ∨ c = ')') (r : List Char) :
    variableOf (v.body ++ c :: r) = v := by
  have hname : ∀ d ∈ v.name.toList, (d != ':') = true := fun d hd => by
    rw [bne_iff_ne]
    exact fun heq => h.name.1 (heq ▸ hd)
  have htype : ∀ d ∈ v.type.toList, (d != ',' && d != ')') = true := fun d hd => by
    rw [Bool.and_eq_true, bne_iff_ne, bne_iff_ne]
    exact ⟨fun heq => h.type.2.1 (heq ▸ hd), fun heq => h.type.2.2 (heq ▸ hd)⟩
  have hend : (c :: r).takeWhile (fun c => c != ',' && c != ')') = [] := by
    rcases hc with rfl | rfl <;> rfl
  rw [variableOf, body, List.append_assoc, List.takeWhile_append_of_pos hname,
    List.dropWhile_append_of_pos hname]
  simp [List.takeWhile_append_of_pos htype, hend]

/-- The variables of a list are read back one after another. -/
theorem splitOn_texts {vs : List Variable} (hv : v.Printable) (hvs : ∀ w ∈ vs, w.Printable)
    {start closing : List Char} (hstart : '$' ∉ start) (hclosing : '$' ∉ closing) :
    ∃ rest, rest.map variableOf = v :: vs ∧
      (start ++ (", ".intercalate ((v :: vs).map text)).toList ++ ')' :: closing).splitOn '$' =
        start :: rest := by
  induction vs generalizing v start with
  | nil =>
    have hlast : '$' ∉ v.body ++ ')' :: closing := by simp [hv.not_mem_body, hclosing]
    have htext : start ++ (", ".intercalate ([v].map text)).toList ++ ')' :: closing =
        start ++ '$' :: (v.body ++ ')' :: closing) := by simp [toList_text]
    refine ⟨[v.body ++ ')' :: closing], ?_, ?_⟩
    · rw [List.map_singleton, variableOf_body hv (.inr rfl)]
    · rw [htext, List.splitOn_append_cons_self_of_not_mem hstart, List.splitOn_eq_singleton hlast]
  | cons w vs ih =>
    obtain ⟨hw, hvs⟩ := List.forall_mem_cons.mp hvs
    have hbody : '$' ∉ v.body ++ [',', ' '] := by simp [hv.not_mem_body]
    obtain ⟨rest, hrest, hsplit⟩ := ih hw hvs hbody
    have htext : start ++ (", ".intercalate ((v :: w :: vs).map text)).toList ++ ')' :: closing =
        start ++ '$' :: (v.body ++ [',', ' '] ++ (", ".intercalate ((w :: vs).map text)).toList ++
          ')' :: closing) := by
      simp [toList_text, String.intercalate_cons_cons]
    refine ⟨(v.body ++ [',', ' ']) :: rest, ?_, ?_⟩
    · rw [List.map_cons, variableOf_body hv (.inl rfl), hrest]
    · rw [htext, List.splitOn_append_cons_self_of_not_mem hstart, hsplit]

end Variable

namespace Request

variable {r : Request}

theorem signature_eq (r : Request) :
    r.signature = r.name ++ parenthesized (r.header.map (·.text)) := rfl

/-- What stands before the braces of the operation. -/
def start (r : Request) : String := r.kind.keyword ++ " " ++ r.signature ++ " "

theorem exists_toList_text_eq (r : Request) : ∃ rest, r.text.toList =
    r.start.toList ++ '\x7b' :: ' ' :: (r.rootText.toList ++ ' ' :: '\x7d' :: rest) := by
  obtain ⟨rest, hrest⟩ :=
    exists_intercalate_eq " " (r.start ++ braced r.rootText) (r.fragments.map (·.text))
  have htext : r.text = r.start ++ braced r.rootText ++ rest := by
    rw [← hrest, start, signature, ← String.append_assoc]
    rfl
  refine ⟨rest.toList, ?_⟩
  rw [htext]
  simp [braced]

theorem plain_start (h : r.Printable) : Plain r.start := by
  have hkeyword : Plain (r.kind.keyword ++ " ") := by cases r.kind <;> decide
  exact (hkeyword.append (plain_signature h)).append (by decide)

/-- **The header of a request is read back.** -/
theorem declaredVariables_text (h : r.Printable) (hname : '$' ∉ r.name.toList)
    (hheader : ∀ v ∈ r.header, v.Printable) : declaredVariables r.text = r.header := by
  obtain ⟨rest, htext⟩ := r.exists_toList_text_eq
  have hbrace : ∀ c ∈ r.start.toList, (c != '\x7b') = true := by
    intro c hc
    rw [bne_iff_ne]
    rintro rfl
    cases plain_iff.mp (plain_start h) _ hc
  have hdeclared :
      declaredVariables r.text = (r.start.toList.splitOn '$').tail.map variableOf := by
    rw [declaredVariables, htext, List.takeWhile_append_of_pos hbrace]
    simp
  have hkeyword : '$' ∉ r.kind.keyword.toList := by cases r.kind <;> decide
  rw [hdeclared, start, signature_eq]
  cases hvs : r.header with
  | nil =>
    have hnone : '$' ∉ (r.kind.keyword ++ " " ++ (r.name ++ parenthesized []) ++ " ").toList := by
      simp [parenthesized, hkeyword, hname]
    rw [List.map_nil, List.splitOn_eq_singleton hnone]
    rfl
  | cons v vs =>
    rw [hvs] at hheader
    obtain ⟨hv, hvs⟩ := List.forall_mem_cons.mp hheader
    have hstart : '$' ∉ (r.kind.keyword ++ " " ++ r.name ++ "(").toList := by
      simp [hkeyword, hname]
    have hclosing : '$' ∉ [' '] := by decide
    obtain ⟨rest, hrest, hsplit⟩ := Variable.splitOn_texts hv hvs hstart hclosing
    have htext : (r.kind.keyword ++ " " ++
        (r.name ++ parenthesized ((v :: vs).map (·.text))) ++ " ").toList =
          (r.kind.keyword ++ " " ++ r.name ++ "(").toList ++
            (", ".intercalate ((v :: vs).map (·.text))).toList ++ [')', ' '] := by
      simp [parenthesized]
    rw [htext, hsplit, List.tail_cons, hrest]

end Request

namespace Collection

variable {c : Collection}

theorem declaredVariables_requestFor (h : c.WellFormed) {o : Operation} (ho : o ∈ c.operations) :
    declaredVariables (c.requestFor o).text = o.arguments.map fun a => ⟨a.name, a.sdlType⟩ := by
  obtain ⟨hfield, harguments⟩ := h.operations_spelled o ho
  refine Request.declaredVariables_text (printable_requestFor h ho) ?_ fun v hv => ?_
  · intro hmem
    cases Identifier.isNamePart_of_mem_pascalCase hfield.name hmem
  · obtain ⟨a, ha, rfl⟩ := List.mem_map.mp hv
    obtain ⟨hname, hbase⟩ := harguments a ha
    have htype : Uses (fun c => "[]!".toList.contains c || isNamePart c) a.sdlType :=
      Field.uses_sdlType (by decide) (hbase.uses fun c hc => by simp [hc])
    exact ⟨⟨hname.notMem rfl, hname.notMem rfl⟩, htype.notMem rfl, htype.notMem rfl,
      htype.notMem rfl⟩

/-- The arguments of the operations are those of the root fields of the document, in their order. -/
theorem map_arguments_operations {sdl : String} {d : Document} (hd : Document.parse sdl = .ok d)
    (h : parse sdl = .ok c) : c.operations.map (·.arguments) =
      (d.operationDefs .query ++ d.operationDefs .mutation).map fun f =>
        f.arguments.map .ofInput := by
  obtain ⟨-, rfl⟩ := eq_merged_of_parse hd h
  simp only [operations, Document.merged, List.map_append, List.map_map]
  rfl

/-- The requests of a schema declare the arguments of its operations, with collapsed types. -/
theorem map_declaredVariables {sdl : String} {d : Document} (hd : Document.parse sdl = .ok d)
    (h : parse sdl = .ok c) :
    c.operations.map (fun o => declaredVariables (c.requestFor o).text) =
      (d.operationDefs .query ++ d.operationDefs .mutation).map fun f =>
        f.arguments.map fun a => ⟨a.name.text, a.type.collapsed.text⟩ := by
  have hwell := wellFormed_of_parse h
  have hdeclared : c.operations.map (fun o => declaredVariables (c.requestFor o).text) =
      (c.operations.map (·.arguments)).map fun as => as.map fun a => ⟨a.name, a.sdlType⟩ := by
    rw [List.map_map]
    exact List.map_congr_left fun o ho => declaredVariables_requestFor hwell ho
  rw [hdeclared, map_arguments_operations hd h, List.map_map]
  refine List.map_congr_left fun f _ => ?_
  rw [Function.comp_apply, List.map_map]
  refine List.map_congr_left fun a _ => ?_
  rw [Function.comp_apply, Field.ofInput, Field.sdlType_ofTyped]
  rfl

/-- **The types of variables.** Every operation declares its arguments in their order, each with the
type of the schema as it is once its lists are collapsed. That is the type as the schema writes it
exactly if no list stands in a list, and collapsing it again changes nothing. -/
theorem declaredVariables_of_parse {sdl : String} {d : Document}
    (hd : Document.parse sdl = .ok d) (h : parse sdl = .ok c) :
    c.operations.map (fun o => declaredVariables (c.requestFor o).text) =
      (d.operationDefs .query ++ d.operationDefs .mutation).map (fun f =>
        f.arguments.map fun a => ⟨a.name.text, a.type.collapsed.text⟩) ∧
    ∀ a : InputDef, (Field.ofInput a).sdlType = a.type.collapsed.text ∧
      ((Field.ofInput a).sdlType = a.type.text ↔ a.type.depth ≤ 1) ∧
      a.type.collapsed.collapsed = a.type.collapsed := by
  refine ⟨map_declaredVariables hd h, fun a => ⟨Field.sdlType_ofTyped _ _ _, ?_,
    a.type.collapsed_collapsed⟩⟩
  rw [Field.ofInput, Field.sdlType_ofTyped, TypeExpr.text_collapsed_eq_iff]

/-- Of three lists the outermost is left. -/
theorem declaredVariables_of_parse_matrix :
    ∃ d c, Document.parse "type Query { f(m: [[[Int!]]!], n: [ID!]!): Int }" = .ok d ∧
      parse "type Query { f(m: [[[Int!]]!], n: [ID!]!): Int }" = .ok c ∧
      c.operations.map (fun o => declaredVariables (c.requestFor o).text) =
        [[⟨"m", "[Int!]"⟩, ⟨"n", "[ID!]!"⟩]] := by
  have hread : (Document.parse "type Query { f(m: [[[Int!]]!], n: [ID!]!): Int }").toOption.any
      (fun d => decide ((d.operationDefs .query ++ d.operationDefs .mutation).map (fun f =>
        f.arguments.map fun a => Variable.mk a.name.text a.type.collapsed.text) =
          [[⟨"m", "[Int!]"⟩, ⟨"n", "[ID!]!"⟩]])) = true := by
    decide
  have hparse : (parse "type Query { f(m: [[[Int!]]!], n: [ID!]!): Int }").toOption.any
      (fun _ => true) = true := by
    decide
  obtain ⟨d, hd, heq⟩ := exists_eq_ok_of_any hread
  obtain ⟨c, h, _⟩ := exists_eq_ok_of_any hparse
  refine ⟨d, c, hd, h, ?_⟩
  rw [(declaredVariables_of_parse hd h).1]
  exact of_decide_eq_true heq

/-- An argument that is a list of lists is declared as a list, and not as the schema writes it. -/
theorem declared_type_ne_written :
    ∃ d c f a, Document.parse "type Query { f(m: [[Int!]!]!): Int }" = .ok d ∧
      parse "type Query { f(m: [[Int!]!]!): Int }" = .ok c ∧
      f ∈ d.operationDefs .query ∧ a ∈ f.arguments ∧ a.type.text = "[[Int!]!]!" ∧
      (Field.ofInput a).sdlType = "[Int!]!" ∧
      c.operations.map (fun o => declaredVariables (c.requestFor o).text) =
        [[⟨"m", "[Int!]!"⟩]] := by
  have hread : (Document.parse "type Query { f(m: [[Int!]!]!): Int }").toOption.any
      (fun d => decide ((∃ f ∈ d.operationDefs .query, ∃ a ∈ f.arguments,
        a.type.text = "[[Int!]!]!" ∧ (Field.ofInput a).sdlType = "[Int!]!") ∧
        (d.operationDefs .query ++ d.operationDefs .mutation).map (fun f =>
          f.arguments.map fun a => Variable.mk a.name.text a.type.collapsed.text) =
            [[⟨"m", "[Int!]!"⟩]])) = true := by
    decide
  have hparse : (parse "type Query { f(m: [[Int!]!]!): Int }").toOption.any
      (fun _ => true) = true := by
    decide
  obtain ⟨d, hd, heq⟩ := exists_eq_ok_of_any hread
  obtain ⟨c, h, _⟩ := exists_eq_ok_of_any hparse
  obtain ⟨⟨f, hf, a, ha, hwritten, hprinted⟩, hdeclared⟩ := of_decide_eq_true heq
  refine ⟨d, c, f, a, hd, h, hf, ha, hwritten, hprinted, ?_⟩
  rw [map_declaredVariables hd h, hdeclared]

end Collection

end SchemaSdk.Schema
