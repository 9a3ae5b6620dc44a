import SchemaSdk.Proofs.Sdk.ClientText
import SchemaSdk.Proofs.Text.Spacing

/-!
# Parts of a client module

Whatever the endpoint of a client is, and however many lines it takes, what is printed before and
behind it can be told from it: the documents stand before the first line that starts the client
type, and the calls behind the last one that starts the method for any query. Both are found in the
tidied text as if they were tidied alone.
-/
namespace SchemaSdk.Sdk

open SchemaSdk.Schema SchemaSdk.Text

theorem forall_bne_of_notMem {α : Type} [BEq α] [LawfulBEq α] {a : α} {as : List α} (h : a ∉ as) :
    ∀ b ∈ as, (b != a) = true :=
  fun _ hb => bne_iff_ne.mpr fun heq => h (heq ▸ hb)

/-! ## Readers that look for starts of lines -/

/-- The reader finds nothing on a line that has none of the given starts. -/
def ReadsStarts {α : Type} (starts : List (List Char)) (read : List Char → Option α) : Prop :=
  ∀ l, (∀ p ∈ starts, ¬ p <+: l) → read l = none

namespace ReadsStarts

variable {α : Type} {starts : List (List Char)} {read : List Char → Option α} {s : List Char}
variable (h : ReadsStarts starts read)
variable (hs : (∀ p ∈ starts, ¬ p <+: s ∧ ¬ s <+: p) ∧ '\n' ∉ s)

include h hs

/-- A line around a text that does not break it is passed over if it starts otherwise. -/
theorem readsLine_around {x : String} (hx : '\n' ∉ x.toList) {t : List Char} (ht : '\n' ∉ t) :
    ReadsLine read (String.ofList s ++ x ++ String.ofList t) none := by
  have hl : (String.ofList s ++ x ++ String.ofList t).toList = s ++ (x.toList ++ t) := by simp
  refine ⟨by simp [hs.2, hx, ht], h _ fun p hp hstart => ?_⟩
  have hline : trimEnd (s ++ (x.toList ++ t)) <+: s ++ (x.toList ++ t) := isPrefix_trimEnd _
  rw [hl] at hstart
  rcases List.prefix_or_prefix_of_prefix (hstart.trans hline) (List.prefix_append s _) with
    hshort | hlong
  · exact (hs.1 p hp).1 hshort
  · exact (hs.1 p hp).2 hlong

theorem readsLines_docComment {indent : String} (hindent : indent.toList ++ "/// ".toList = s)
    {doc : List String} (hdoc : ∀ d ∈ doc, '\n' ∉ d.toList) :
    ReadsLines read (docComment indent doc) [] := by
  refine .skipAll fun l hl => ?_
  obtain ⟨d, hd, rfl⟩ := List.mem_map.mp hl
  have hline : indent ++ "/// " ++ d = String.ofList s ++ d ++ String.ofList [] := by
    simp [← hindent]
  rw [hline]
  exact h.readsLine_around hs (hdoc d hd) List.not_mem_nil

end ReadsStarts

/-! ## Lines that part a text -/

/-- Finds the lines that are one of the given ones. -/
def mark? (marks : List (List Char)) (l : List Char) : Option Unit :=
  if l ∈ marks then some () else none

theorem visibleLines_layout (ls : List String) :
    visibleLines (layout ls).toList = (printedLines ls).filter (!·.isEmpty) := by
  rw [layout, tidy, String.toList_ofList, String.toList_ofList, visibleLines_tidyChars_printed]

theorem visibleLines_layout_append (ls ms : List String) :
    visibleLines (layout (ls ++ ms)).toList =
      visibleLines (layout ls).toList ++ visibleLines (layout ms).toList := by
  simp only [visibleLines_layout, printedLines_append, List.filter_append]

section Marks

variable {marks : List (List Char)} {mark : List Char} {ls : List String}

theorem readsStarts_mark (marks : List (List Char)) : ReadsStarts marks (mark? marks) :=
  fun l h => if_neg fun hmark => h l hmark (List.prefix_refl l)

theorem mem_printedLines {l : List Char} (hfeed : ∀ l ∈ ls, '\n' ∉ l.toList)
    (hl : l ∈ printedLines ls) : ∃ s ∈ ls, l = trimEnd s.toList := by
  obtain ⟨s, hs, hl⟩ := List.mem_flatMap.mp hl
  rw [List.splitOn_eq_singleton (hfeed s hs), List.map_singleton, List.mem_singleton] at hl
  exact ⟨s, hs, hl⟩

theorem notMem_printedLines (h : ReadsLines (mark? marks) ls []) (hmark : mark ∈ marks) :
    mark ∉ printedLines ls := by
  intro hmem
  obtain ⟨l, hl, heq⟩ := mem_printedLines h.1 hmem
  have hnone := List.filterMap_eq_nil_iff.mp h.2 l hl
  rw [← heq, mark?, if_pos hmark] at hnone
  cases hnone

theorem notMem_visibleLines (h : ReadsLines (mark? marks) ls []) (hmark : mark ∈ marks) :
    mark ∉ visibleLines (layout ls).toList := by
  rw [visibleLines_layout]
  exact fun hmem => notMem_printedLines h hmark (List.mem_of_mem_filter hmem)

theorem takeWhile_ne_append {α : Type} [BEq α] [LawfulBEq α] {a : α} {as : List α} (h : a ∉ as)
    (bs : List α) : (as ++ a :: bs).takeWhile (· != a) = as := by
  rw [List.takeWhile_append_of_pos (forall_bne_of_notMem h)]
  simp

end Marks

section Parts

variable {mark : String} (hfeed : '\n' ∉ mark.toList) (hne : mark.toList ≠ [])
variable (htrim : trimEnd mark.toList = mark.toList)

include hfeed hne htrim

theorem visibleLines_layout_mark (before after : List String) :
    visibleLines (layout (before ++ mark :: after)).toList =
      visibleLines (layout before).toList ++
        mark.toList :: visibleLines (layout after).toList := by
  have hmark : printedLines [mark] = [mark.toList] := by rw [printedLines_singleton hfeed, htrim]
  rw [visibleLines_layout, visibleLines_layout, visibleLines_layout, printedLines_append,
    printedLines_cons, hmark]
  simp [hne]

/-- The part of a text before a line. -/
theorem takeWhile_visibleLines_layout {before : List String} {marks : List (List Char)}
    (h : ReadsLines (mark? marks) before []) (hmem : mark.toList ∈ marks) (after : List String) :
    (visibleLines (layout (before ++ mark :: after)).toList).takeWhile (· != mark.toList) =
      visibleLines (layout before).toList := by
  rw [visibleLines_layout_mark hfeed hne htrim, takeWhile_ne_append (notMem_visibleLines h hmem)]

/-- The part of a text behind a line. -/
theorem reverse_takeWhile_visibleLines_layout {after : List String} {marks : List (List Char)}
    (h : ReadsLines (mark? marks) after []) (hmem : mark.toList ∈ marks) (before : List String) :
    ((visibleLines (layout (before ++ mark :: after)).toList).reverse.takeWhile
      (· != mark.toList)).reverse = visibleLines (layout after).toList := by
  have hnot : mark.toList ∉ (visibleLines (layout after).toList).reverse := fun hrev =>
    notMem_visibleLines h hmem (List.mem_reverse.mp hrev)
  rw [visibleLines_layout_mark hfeed hne htrim, List.reverse_append, List.reverse_cons,
    List.append_assoc, List.singleton_append, takeWhile_ne_append hnot, List.reverse_reverse]

end Parts

/-! ## Parts of a module -/

/-- The line that starts the client type. -/
def typeMark : String := "#[derive(Debug, Clone)]"

/-- The line that starts the function for the default endpoint. -/
def endpointMark : String := "    pub fn default_endpoint() -> Self \x7b"

/-- The line that starts the method for any query, which is the last that every client has. -/
def queryMark : String := "    pub async fn query<T: DeserializeOwned>("

/-- The lines of the method for any query behind its first one. -/
def queryLines : List String := ClientModule.fixedMethods.drop 28

/-- The visible lines of a client module before the client type. -/
def constantLines (text : String) : List (List Char) :=
  (visibleLines text.toList).takeWhile (· != typeMark.toList)

/-- The visible lines of a client module behind the last line that starts the method for any
query. -/
def callLines (text : String) : List (List Char) :=
  ((visibleLines text.toList).reverse.takeWhile (· != queryMark.toList)).reverse

/-- The marks that stand behind the documents. -/
def laterMarks : List (List Char) := [typeMark.toList, endpointMark.toList]

namespace Call

variable {k : Call}

/-- No call has the first line of the method for any query, which has type parameters. -/
theorem trimEnd_signatureLine_ne (h : k.Printable) :
    trimEnd k.signatureLine.toList ≠ queryMark.toList := by
  have hline : trimEnd k.signatureLine.toList = "    pub async fn ".toList ++ (k.method.toList ++
      '(' :: ("&self" ++ k.parameterText ++ ") -> Result<" ++ k.result ++
        ", ClientError> \x7b").toList) := by
    unfold signatureLine
    rw [trimEnd_toList_append _ rfl (by decide)]
    simp
  have hquery : queryMark.toList =
      "    pub async fn ".toList ++ ("query".toList ++ "<T: DeserializeOwned>(".toList) := by
    decide
  rw [hline, hquery, ne_eq, List.append_right_inj]
  intro heq
  have hrest := congrArg (List.dropWhile Identifier.isPart) heq
  have hbehind : ("query".toList ++ "<T: DeserializeOwned>(".toList).dropWhile Identifier.isPart =
      "<T: DeserializeOwned>(".toList := by decide
  rw [List.dropWhile_append_of_pos (uses_iff.mp h.method), hbehind,
    List.dropWhile_cons_of_neg (by decide)] at hrest
  have hfirst := congrArg List.head? hrest
  rw [List.head?_cons] at hfirst
  exact absurd hfirst (by decide)

theorem readsLines_mark (h : k.Printable) : ReadsLines (mark? [queryMark.toList]) k.lines [] := by
  have hstarts := readsStarts_mark [queryMark.toList]
  have hcomment : ReadsLines (mark? [queryMark.toList]) (docComment "    " k.doc) [] :=
    hstarts.readsLines_docComment (by decide) rfl h.doc
  have hsignature : ReadsLine (mark? [queryMark.toList]) k.signatureLine none :=
    ⟨h.not_mem_signatureLine, if_neg (by simpa using trimEnd_signatureLine_ne h)⟩
  have hvariables : ReadsLine (mark? [queryMark.toList])
      ("        let variables = json!(\x7b " ++ k.variablesText ++ " \x7d);") none :=
    hstarts.readsLine_around (by decide) h.not_mem_variablesText (by decide)
  have hsent : ReadsLine (mark? [queryMark.toList])
      ("        let mut data = self.execute(" ++ k.constant ++ ", variables).await?;") none :=
    hstarts.readsLine_around (by decide) (h.constant.notMem rfl) (by decide)
  have hfield : ReadsLine (mark? [queryMark.toList])
      ("            .get_mut(\"" ++ k.field ++ "\")") none :=
    hstarts.readsLine_around (by decide) h.field.2 (by decide)
  refine (ReadsLines.skip (.of_ofList (by decide)) hcomment).append ?_
  refine .skip hsignature (.skip hvariables (.skip hsent (.skip (.of_ofList (by decide)) ?_)))
  refine .skip hfield ?_
  repeat refine ReadsLines.skip (.of_ofList (by decide)) ?_
  exact .nil

end Call

namespace ClientModule

/-- The names and the calls of a module can be printed, whatever its endpoint is. -/
structure PrintableNames (m : ClientModule) : Prop where
  client : '\n' ∉ m.client.toList
  schemaModule : '\n' ∉ m.schemaModule.toList
  calls : ∀ k ∈ m.calls, k.Printable

variable {m : ClientModule}

theorem readsLines_mark_constants (h : m.PrintableNames) :
    ReadsLines (mark? laterMarks) (m.header ++ m.calls.map (·.documentLine)) [] := by
  have hstarts := readsStarts_mark laterMarks
  have hschema : ReadsLine (mark? laterMarks) ("use super::" ++ m.schemaModule ++ "::*;") none :=
    hstarts.readsLine_around (by decide) h.schemaModule (by decide)
  have hclient : ReadsLine (mark? laterMarks)
      ("/// Errors returned by [\x60" ++ m.client ++ "\x60].") none :=
    hstarts.readsLine_around (by decide) h.client (by decide)
  have hheader : ReadsLines (mark? laterMarks) m.header [] := by
    unfold header
    iterate 13 refine ReadsLines.skip (.of_ofList (by decide)) ?_
    refine .skip hschema (.skip (.of_ofList (by decide)) (.skip hclient ?_))
    repeat refine ReadsLines.skip (.of_ofList (by decide)) ?_
    exact .nil
  refine hheader.append (.skipAll fun l hl => ?_)
  obtain ⟨k, hk, rfl⟩ := List.mem_map.mp hl
  have hfeed := (Call.readsLine_documentLine (h.calls k hk)).1
  have hline : k.documentLine = String.ofList "const ".toList ++
      (k.constant ++ ": &str = r#\"" ++ k.document ++ "\"#;") ++ String.ofList [] := by
    simp [Call.documentLine, String.append_assoc]
  rw [hline] at hfeed ⊢
  refine hstarts.readsLine_around (by decide) (fun hmem => hfeed ?_) (by decide)
  rw [String.toList_append, String.toList_append]
  exact List.mem_append_left _ (List.mem_append_right _ hmem)

/-- **The part before the client type** has the documents. -/
theorem constantLines_layout (h : m.PrintableNames) : constantLines (layout m.lines) =
    visibleLines (layout (m.header ++ m.calls.map (·.documentLine))).toList := by
  have hblank : ReadsLines (mark? laterMarks) [""] [] := .skip (.of_ofList (by decide)) .nil
  have hlines : m.lines = (m.header ++ m.calls.map (·.documentLine) ++ [""]) ++ typeMark ::
      (m.construction.drop 2 ++ m.defaultEndpoint ++ fixedMethods ++
        m.calls.flatMap (·.lines) ++ ["\x7d"]) := by
    simp [lines, construction, typeMark]
  have hempty : visibleLines (layout [""]).toList = [] := by decide
  rw [constantLines, hlines, takeWhile_visibleLines_layout (by decide) (by decide) (by decide)
    ((readsLines_mark_constants h).append hblank) List.mem_cons_self, visibleLines_layout_append,
    hempty, List.append_nil]

/-- **The part behind the method for any query** has the calls. -/
theorem callLines_layout (h : m.PrintableNames) : callLines (layout m.lines) =
    visibleLines (layout (queryLines ++ m.calls.flatMap (·.lines) ++ ["\x7d"])).toList := by
  have hfixed : ReadsLines (mark? [queryMark.toList]) (queryLines) [] := by
    unfold queryLines fixedMethods
    repeat refine ReadsLines.skip (.of_ofList (by decide)) ?_
    exact .nil
  have hcalls : ReadsLines (mark? [queryMark.toList]) (m.calls.flatMap (·.lines)) [] :=
    .skipFlatMap fun k hk => Call.readsLines_mark (h.calls k hk)
  have hend : ReadsLines (mark? [queryMark.toList]) ["\x7d"] [] :=
    .skip (.of_ofList (by decide)) .nil
  have hlines : m.lines = (m.header ++ m.calls.map (·.documentLine) ++ m.construction ++
      m.defaultEndpoint ++ fixedMethods.take 27) ++ queryMark ::
        (queryLines ++ m.calls.flatMap (·.lines) ++ ["\x7d"]) := by
    simp [lines, fixedMethods, queryLines, queryMark]
  rw [callLines, hlines, reverse_takeWhile_visibleLines_layout (by decide) (by decide) (by decide)
    ((hfixed.append hcalls).append hend) List.mem_cons_self]

/-- The names of a generated client can be printed. -/
theorem printableNames_of_parse {sdl : String} {c : Collection}
    (hparse : Collection.parse sdl = .ok c) {calls : List Call}
    (hcalls : Call.ofCollection c = .ok calls) (o : Options) :
    (ClientModule.mk (Identifier.client o.clientName) (Identifier.schemaModule o.schemaName)
      o.endpoint calls).PrintableNames := by
  constructor
  · dsimp only
    exact Identifier.feed_notMem_client o.clientName
  · dsimp only
    exact Identifier.feed_notMem_schemaModule o.schemaName
  · dsimp only
    exact Call.printable_ofCollection (Collection.wellFormed_of_parse hparse) hcalls

end ClientModule

end SchemaSdk.Sdk
