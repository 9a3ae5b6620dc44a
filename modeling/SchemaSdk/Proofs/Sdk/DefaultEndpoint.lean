import SchemaSdk.Proofs.Sdk.ModuleParts
import SchemaSdk.Proofs.Text.StringLiterals

/-!
# The default endpoint

The endpoint that a client knows by itself is printed between two quotation marks as it is, and
tidied with the module. So the literal denotes the endpoint exactly if nothing in the endpoint has
to be escaped, and the statement that it is printed in is tidy on all the lines that it takes.
-/
namespace SchemaSdk.Sdk

open SchemaSdk.Schema SchemaSdk.Text

/-! ## Reading the endpoint -/

/-- The text behind the first line that is the given one. -/
def behindLine (line text : String) : List Char :=
  ['\n'].intercalate (((text.toList.splitOn '\n').dropWhile (· != line.toList)).drop 1)

/-- What stands before the characters of the literal. -/
def literalStart : String := "        Self::new(\""

/-- The statement that makes the client for the default endpoint. -/
def endpointStatement (endpoint : String) : String := literalStart ++ endpoint ++ "\")"

/-- The function for the default endpoint starts with the statement that makes the client, and the
literal in that denotes the value. -/
def ReadsEndpoint (text : String) (value : List Char) : Prop :=
  ∃ raw rest, behindLine endpointMark text = literalStart.toList ++ raw ++ '"' :: rest ∧
    Denotes raw value

/-! ## The text behind a line -/

/-- Behind a line that is printed once the tidied text goes on with what is printed there. -/
theorem behindLine_layout {mark : String} (hfeed : '\n' ∉ mark.toList) (hne : mark.toList ≠ [])
    (htrim : trimEnd mark.toList = mark.toList) {before : List String}
    (hbefore : mark.toList ∉ printedLines before) (after : List String) :
    behindLine mark (layout (before ++ mark :: after)) =
      unlines (spacedFrom true false (printedLines after)) := by
  have hprinted : printedLines (before ++ mark :: after) =
      printedLines before ++ mark.toList :: printedLines after := by
    rw [printedLines_append, printedLines_cons, printedLines_singleton hfeed, htrim]
    rfl
  have hspaced : mark.toList ∉ spacedBefore false false (printedLines before) := by
    intro hmem
    exact (eq_nil_or_mem_of_mem_spacedBefore _ hmem).elim hne hbefore
  have hlines : (layout (before ++ mark :: after)).toList.splitOn '\n' =
      spacedBefore false false (printedLines before) ++
        mark.toList :: (spacedFrom true false (printedLines after) ++ [[]]) := by
    rw [layout, tidy, String.toList_ofList, String.toList_ofList, splitOn_tidyChars,
      tidyLines_printed, hprinted, spacedFrom_append hne, if_neg (by simp), List.append_assoc,
      List.cons_append]
  rw [behindLine, hlines, List.dropWhile_append_of_pos (forall_bne_of_notMem hspaced),
    List.dropWhile_cons_of_neg (by simp), List.drop_one, List.tail_cons, intercalate_append_nil]

namespace ClientModule

variable {m : ClientModule}

theorem endpointMark_notMem (h : m.PrintableNames) : endpointMark.toList ∉
    printedLines (m.header ++ m.calls.map (·.documentLine) ++ m.construction ++ [""]) := by
  have hstarts := readsStarts_mark [endpointMark.toList]
  have hstruct : ReadsLine (mark? [endpointMark.toList]) ("pub struct " ++ m.client ++ " \x7b")
      none :=
    hstarts.readsLine_around (by decide) h.client (by decide)
  have himpl : ReadsLine (mark? [endpointMark.toList]) ("impl " ++ m.client ++ " \x7b") none :=
    hstarts.readsLine_around (by decide) h.client (by decide)
  have hconstruction : ReadsLines (mark? [endpointMark.toList]) (m.construction ++ [""]) [] := by
    unfold construction
    refine .skip (.of_ofList (by decide)) (.skip (.of_ofList (by decide)) (.skip hstruct ?_))
    iterate 4 refine ReadsLines.skip (.of_ofList (by decide)) ?_
    refine .skip himpl ?_
    repeat refine ReadsLines.skip (.of_ofList (by decide)) ?_
    exact .nil
  rw [List.append_assoc, printedLines_append, List.mem_append, not_or]
  exact ⟨notMem_printedLines (readsLines_mark_constants h) (List.mem_of_getElem? (i := 1) rfl),
    notMem_printedLines hconstruction List.mem_cons_self⟩

/-- The function for the default endpoint consists of the statement, as tidying leaves it: blanks
may be lost from the endpoint, and none are exactly if the statement is tidy. -/
theorem exists_behindLine_endpoint (h : m.PrintableNames) {e : String}
    (he : m.endpoint = some e) (hne : e ≠ "") :
    ∃ left more, behindLine endpointMark (layout m.lines) =
        left ++ "\")\n    \x7d\n".toList ++ more ∧
      left.Sublist (literalStart.toList ++ e.toList) ∧
      left.count '"' = (literalStart.toList ++ e.toList).count '"' ∧
      (left = literalStart.toList ++ e.toList ↔ IsTidy (endpointStatement e).toList) := by
  have hvisible : e.isEmpty = false := by
    rw [← Bool.not_eq_true, String.isEmpty_iff]
    exact hne
  let after := fixedMethods ++ m.calls.flatMap (·.lines) ++ ["\x7d"]
  have hlines : m.lines = (m.header ++ m.calls.map (·.documentLine) ++ m.construction ++ [""]) ++
      endpointMark :: endpointStatement e :: "    \x7d" :: after := by
    simp [lines, defaultEndpoint, he, hvisible, endpointMark, endpointStatement, literalStart,
      after, String.append_assoc]
  have hstatement : (endpointStatement e).toList =
      literalStart.toList ++ e.toList ++ "\")".toList := by
    simp [endpointStatement]
  have hprinted : printedLines (endpointStatement e :: "    \x7d" :: after) =
      ((endpointStatement e).toList.splitOn '\n').map trimEnd ++
        "    \x7d".toList :: printedLines after := by
    have hclose : printedLines ["    \x7d"] = ["    \x7d".toList] := by decide
    rw [printedLines_cons, printedLines_cons "    \x7d", hclose]
    simp [printedLines]
  obtain ⟨xs, l, hspaced, hsub, hcount, htidy⟩ :=
    exists_spacedFrom_printed (literalStart.toList ++ e.toList) "\")".toList (by decide) (by decide)
      (by decide) ("    \x7d".toList :: printedLines after)
  have hclosed : spacedFrom true false ("    \x7d".toList :: printedLines after) =
      "    \x7d".toList :: spacedFrom true false (printedLines after) :=
    spacedFrom_append (by decide) true false [] _
  rw [← hstatement] at hspaced htidy
  refine ⟨unlines xs ++ l, unlines (spacedFrom true false (printedLines after)), ?_, hsub,
    hcount '"' (by decide), htidy⟩
  rw [hlines, behindLine_layout (by decide) (by decide) (by decide) (endpointMark_notMem h),
    hprinted, hspaced, hclosed, unlines_append, unlines_cons, unlines_cons]
  simp

/-- **The default endpoint is read back** exactly if nothing in it has to be escaped and tidying
leaves the statement that it is printed in. -/
theorem readsEndpoint_layout_iff (h : m.PrintableNames) {e : String} (he : m.endpoint = some e)
    (hne : e ≠ "") : ReadsEndpoint (layout m.lines) e.toList ↔
      Unescaped e.toList ∧ IsTidy (endpointStatement e).toList := by
  obtain ⟨left, more, htext, hsub, hcount, htidy⟩ := exists_behindLine_endpoint h he hne
  rw [ReadsEndpoint, htext, ← htidy]
  constructor
  · rintro ⟨raw, rest, heq, hdenotes⟩
    have hquote : left ++ "\")\n    \x7d\n".toList ++ more =
        left ++ '"' :: (")\n    \x7d\n".toList ++ more) := by simp
    obtain ⟨hleft, _, hunescaped⟩ := hdenotes.eq_of_sublist hsub hcount (heq.symm.trans hquote)
    exact ⟨hunescaped, hleft⟩
  · rintro ⟨hunescaped, rfl⟩
    exact ⟨e.toList, ")\n    \x7d\n".toList ++ more, by simp, hunescaped.denotes⟩

end ClientModule

/-- A statement that takes one line is tidy. -/
theorem isTidy_endpointStatement {e : String} (h : '\n' ∉ e.toList) :
    IsTidy (endpointStatement e).toList := by
  have hfeed : '\n' ∉ (endpointStatement e).toList := by simp [endpointStatement, literalStart, h]
  have htrim : trimEnd (endpointStatement e).toList = (endpointStatement e).toList :=
    trimEnd_toList_append _ rfl (by decide)
  constructor
  · rw [List.splitOn_eq_singleton hfeed]
    exact List.forall_mem_singleton.mpr htrim
  · rw [List.splitOn_eq_singleton hfeed]
    exact .singleton _

/-- **The literal of the default endpoint** denotes the given endpoint exactly if the endpoint has
no quotation mark, no backslash and no carriage return, and the statement that it is printed in is
tidy, as it is if it takes one line. Then the statement is all that the function consists of. -/
theorem readsEndpoint_of_generate {sdl : String} {o : Options} {p : Package}
    (h : generate sdl o = .ok p) {e : String} (he : o.endpoint = some e) (hne : e ≠ "") :
    (ReadsEndpoint p.client.text e.toList ↔
      Unescaped e.toList ∧ IsTidy (endpointStatement e).toList) ∧
    (IsTidy (endpointStatement e).toList → ∃ more, behindLine endpointMark p.client.text =
      (endpointStatement e ++ "\n    \x7d\n").toList ++ more) ∧
    ('\n' ∉ e.toList → IsTidy (endpointStatement e).toList) := by
  obtain ⟨c, order, calls, hparse, _, hcalls, htext, _⟩ := exists_parts_of_generate h
  have hnames := ClientModule.printableNames_of_parse hparse hcalls o
  rw [htext]
  refine ⟨ClientModule.readsEndpoint_layout_iff hnames he hne, fun htidy => ?_,
    isTidy_endpointStatement⟩
  obtain ⟨left, more, hbehind, _, _, hleft⟩ :=
    ClientModule.exists_behindLine_endpoint hnames he hne
  refine ⟨more, ?_⟩
  rw [hbehind, hleft.mpr htidy]
  simp [endpointStatement]

/-- An endpoint with marks that stand for themselves, on three lines of which one is empty. -/
theorem readsEndpoint_of_generate_lines :
    ∃ p, generate "type Query { x: Int }" ⟨"Cine", none, some "https://a/#'\n\n  b"⟩ = .ok p ∧
      ReadsEndpoint p.client.text "https://a/#'\n\n  b".toList ∧
      ∃ more, behindLine endpointMark p.client.text =
        "        Self::new(\"https://a/#'\n\n  b\")\n    \x7d\n".toList ++ more := by
  have hok : (generate "type Query { x: Int }"
      ⟨"Cine", none, some "https://a/#'\n\n  b"⟩).toOption.any (fun _ => true) = true := by
    decide
  have hunescaped : Unescaped "https://a/#'\n\n  b".toList := by decide
  have htidy : IsTidy (endpointStatement "https://a/#'\n\n  b").toList := ⟨by decide, by decide⟩
  obtain ⟨p, h, _⟩ := exists_eq_ok_of_any hok
  obtain ⟨hiff, hwhole, _⟩ := readsEndpoint_of_generate h rfl (by decide)
  exact ⟨p, h, hiff.mpr ⟨hunescaped, htidy⟩, hwhole htidy⟩

/-- An endpoint with quotation marks ends its literal before its end. -/
theorem readsEndpoint_of_quotationMarks :
    ∃ p more, generate "type Query { x: Int }" ⟨"Cine", none, some "https://a/\"q\""⟩ = .ok p ∧
      behindLine endpointMark p.client.text =
        "        Self::new(\"https://a/\"q\"\")\n    \x7d\n".toList ++ more ∧
      ¬ ReadsEndpoint p.client.text "https://a/\"q\"".toList := by
  have hok : (generate "type Query { x: Int }"
      ⟨"Cine", none, some "https://a/\"q\""⟩).toOption.any (fun _ => true) = true := by
    decide
  have hescaped : ¬ Unescaped "https://a/\"q\"".toList := by decide
  obtain ⟨p, h, _⟩ := exists_eq_ok_of_any hok
  obtain ⟨c, order, calls, hparse, _, hcalls, htext, _⟩ := exists_parts_of_generate h
  have hnames := ClientModule.printableNames_of_parse hparse hcalls
    ⟨"Cine", none, some "https://a/\"q\""⟩
  obtain ⟨left, more, hbehind, _, _, hleft⟩ :=
    ClientModule.exists_behindLine_endpoint hnames rfl (by decide)
  refine ⟨p, more, h, ?_, ?_⟩
  · rw [htext, hbehind, hleft.mpr (isTidy_endpointStatement (by decide))]
    rfl
  · rw [htext, ClientModule.readsEndpoint_layout_iff hnames rfl (by decide)]
    exact fun hboth => hescaped hboth.1

end SchemaSdk.Sdk
