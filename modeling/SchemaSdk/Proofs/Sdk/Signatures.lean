import SchemaSdk.Proofs.Sdk.ClientText

/-!
# Signatures read back

The functions of a client that run asynchronously and take the client itself stand with their
parameters on one line each. Its words show the name of the function up to a parenthesis, and up to
the arrow the names of the parameters, each of which ends at a colon.
-/
namespace SchemaSdk.Sdk

open SchemaSdk.Schema SchemaSdk.Text

/-! ## Reading a module -/

/-- The parameters among words. -/
def parameterNames (ws : List String) : List String :=
  ws.filterMap fun w =>
    if w.toList.getLast? = some ':' then some (String.ofList w.toList.dropLast) else none

/-- The function whose name and parameters the words show, if they do. -/
def signatureOfWords (ws : List String) : Option (String × List String) :=
  ws.head?.bind fun w =>
    if ["(&self,".toList, "(&self)".toList].contains (w.toList.dropWhile Identifier.isPart) then
      some (ClientLine.identifier w.toList, parameterNames (ws.takeWhile (· != "->")))
    else none

/-- The function and the parameters that a line declares, if it declares a function with all of
them. -/
def signatureOf (l : List Char) : Option (String × List String) :=
  ("    pub async fn ".toList.isPrefixOf? l).bind fun r => signatureOfWords (spacedWords r)

/-- The functions whose signatures a client module has on one line, in the order of its text, each
with its parameters. -/
def declaredSignatures (text : String) : List (String × List String) :=
  (visibleLines text.toList).filterMap signatureOf

/-! ## Words of a signature -/

/-- The words of parameters behind a word. -/
def signatureWords (w : String) : List Member → List String
  | [] => [w ++ ")"]
  | p :: ps => (w ++ ",") :: (p.ident ++ ":") :: signatureWords p.type ps

/-- A word of a signature ends in one of three marks; those that end in a colon are the names of
the parameters. -/
theorem parameterNames_signatureWords (w : String) (ps : List Member) :
    parameterNames (signatureWords w ps) = ps.map (·.ident) := by
  induction ps generalizing w with
  | nil => simp [signatureWords, parameterNames]
  | cons p ps ih =>
    have hrest := ih p.type
    rw [parameterNames] at hrest ⊢
    simp [signatureWords, hrest]

theorem ne_arrow_of_mem_signatureWords {w : String} {ps : List Member} :
    ∀ v ∈ signatureWords w ps, (v != "->") = true := by
  have hmark : ∀ (u : String) (c : Char), c ≠ '>' → (u ++ String.singleton c != "->") = true := by
    intro u c hc
    rw [bne_iff_ne]
    intro heq
    have hlast := congrArg (fun t => t.toList.getLast?) heq
    simp [hc] at hlast
  induction ps generalizing w with
  | nil => exact List.forall_mem_singleton.mpr (hmark w ')' (by decide))
  | cons p ps ih =>
    exact List.forall_mem_cons.mpr ⟨hmark w ',' (by decide),
      List.forall_mem_cons.mpr ⟨hmark p.ident ':' (by decide), ih⟩⟩

/-- The words of parameters as they are printed. -/
theorem spacedWords_parameters {w : String} (hw : OneWord w) {ps : List Member}
    (hps : ∀ p ∈ ps, p.Printable) (r : List Char) :
    spacedWords (w.toList ++ (String.join (ps.map fun p => ", " ++ p.ident ++ ": " ++ p.type)).toList
      ++ ')' :: ' ' :: r) = signatureWords w ps ++ spacedWords r := by
  induction ps generalizing w with
  | nil =>
    have htext : w.toList ++ (String.join []).toList ++ ')' :: ' ' :: r =
        (w ++ ")").toList ++ ' ' :: r := by simp
    rw [List.map_nil, htext, spacedWords_append_space, (hw.append (by decide)).spacedWords_eq]
    rfl
  | cons p ps ih =>
    obtain ⟨hp, hps⟩ := List.forall_mem_cons.mp hps
    have htext : w.toList ++ (String.join ((p :: ps).map fun p => ", " ++ p.ident ++ ": " ++
        p.type)).toList ++ ')' :: ' ' :: r =
          (w ++ ",").toList ++ ' ' :: ((p.ident ++ ":").toList ++ ' ' :: (p.type.toList ++
            (String.join (ps.map fun p => ", " ++ p.ident ++ ": " ++ p.type)).toList ++
              ')' :: ' ' :: r)) := by
      simp
    rw [htext, spacedWords_append_space, spacedWords_append_space, ih hp.type hps,
      (hw.append (by decide)).spacedWords_eq, (hp.ident.append (by decide)).spacedWords_eq]
    rfl

/-- What is read of the words of a signature. -/
theorem signatureOfWords_append {method : String} (hmethod : Uses Identifier.isPart method)
    (ps : List Member) (ws : List String) :
    signatureOfWords (signatureWords (method ++ "(&self") ps ++ "->" :: ws) =
      some (method, ps.map (·.ident)) := by
  have hfirst : ∃ w mark, (mark = ',' ∨ mark = ')') ∧
      (signatureWords (method ++ "(&self") ps ++ "->" :: ws).head? = some w ∧
      w.toList = method.toList ++ ("(&self".toList ++ [mark]) := by
    cases ps with
    | nil => exact ⟨_, ')', .inr rfl, rfl, by simp⟩
    | cons p ps => exact ⟨_, ',', .inl rfl, rfl, by simp⟩
  obtain ⟨w, mark, hmark, hhead, hw⟩ := hfirst
  have hstop : ("(&self".toList ++ [mark]).dropWhile Identifier.isPart =
      "(&self".toList ++ [mark] := rfl
  have hrest : (method.toList ++ ("(&self".toList ++ [mark])).dropWhile Identifier.isPart =
      "(&self".toList ++ [mark] := by
    rw [List.dropWhile_append_of_pos (uses_iff.mp hmethod), hstop]
  have hname : ClientLine.identifier (method.toList ++ ("(&self".toList ++ [mark])) = method :=
    ClientLine.identifier_append hmethod (c := '(') rfl ("&self".toList ++ [mark])
  have hcontains : ["(&self,".toList, "(&self)".toList].contains ("(&self".toList ++ [mark]) =
      true := by
    rcases hmark with rfl | rfl <;> rfl
  rw [signatureOfWords, hhead, Option.bind_some, hw, hrest, if_pos hcontains,
    hname, List.takeWhile_append_of_pos ne_arrow_of_mem_signatureWords,
    List.takeWhile_cons_of_neg (by simp), List.append_nil, parameterNames_signatureWords]

/-! ## Lines as they are printed -/

theorem signatureOf_append (r : List Char) :
    signatureOf ("    pub async fn ".toList ++ r) = signatureOfWords (spacedWords r) := rfl

theorem readsLine_signature {k : Call} (h : k.Printable) :
    ReadsLine signatureOf k.signatureLine (some (k.method, k.parameters.map (·.ident))) := by
  have hname : OneWord (k.method ++ "(&self") :=
    (oneWord_of_isPart (uses_iff.mp h.method)).append (by decide)
  have hwords := spacedWords_parameters hname h.parameters
    ("->".toList ++ ' ' :: ("Result<" ++ k.result ++ ", ClientError> \x7b").toList)
  have htrim : trimEnd k.signatureLine.toList = "    pub async fn ".toList ++
      ((k.method ++ "(&self").toList ++ k.parameterText.toList ++
        ')' :: ' ' :: ("->".toList ++
          ' ' :: ("Result<" ++ k.result ++ ", ClientError> \x7b").toList)) := by
    unfold Call.signatureLine
    rw [trimEnd_toList_append _ rfl (by decide)]
    simp
  refine ⟨h.not_mem_signatureLine, ?_⟩
  have harrow : spacedWords "->".toList = ["->"] := rfl
  rw [htrim, signatureOf_append, Call.parameterText, hwords, spacedWords_append_space, harrow]
  exact signatureOfWords_append h.method k.parameters _

/-- A line that declares no function to the reader of a client module has no signature. -/
theorem readsLine_of_clientLine {l : String} {c : Option ClientLine}
    (h : ReadsLine ClientLine.read l c) (hc : ∀ name, c ≠ some (.function name)) :
    ReadsLine signatureOf l none := by
  refine ⟨h.1, ?_⟩
  rw [signatureOf, Option.bind_eq_none_iff]
  intro r hr
  have hline := List.isPrefixOf?_eq_some_iff_append_eq.mp hr
  exact absurd (h.2.symm.trans (hline ▸ ClientLine.read_pubAsyncFn r)) (hc _)

theorem readsLines_of_clientLines {ls : List String} {cs : List ClientLine}
    (h : ReadsLines ClientLine.read ls cs) (hcs : ∀ c ∈ cs, ∀ name, c ≠ .function name) :
    ReadsLines signatureOf ls [] := by
  refine .skipAll fun l hl => readsLine_of_clientLine ⟨h.1 l hl, rfl⟩ fun name hread => ?_
  have hmem : ClientLine.function name ∈ cs := by
    rw [← h.2]
    exact List.mem_filterMap.mpr ⟨l, hl, hread⟩
  exact hcs _ hmem name rfl

theorem Call.readsLines_signature {k : Call} (h : k.Printable) :
    ReadsLines signatureOf k.lines [(k.method, k.parameters.map (·.ident))] := by
  obtain ⟨before, after, hlines, hbefore, hafter⟩ := exists_lines_eq h
  have hskipBefore := readsLines_of_clientLines hbefore (by simp)
  have hskipAfter := readsLines_of_clientLines hafter (by simp)
  rw [hlines]
  exact hskipBefore.append (.cons (readsLine_signature h) hskipAfter)

/-! ## Modules -/

namespace ClientModule

variable {m : ClientModule}

theorem readsLines_signature_construction (h : m.Printable) :
    ReadsLines signatureOf m.construction [] := by
  have hstruct : ReadsLine ClientLine.read ("pub struct " ++ m.client ++ " \x7b") none :=
    ClientLine.readsLine_around (by decide) h.client (by decide)
  have himpl : ReadsLine ClientLine.read ("impl " ++ m.client ++ " \x7b") none :=
    ClientLine.readsLine_around (by decide) h.client (by decide)
  unfold construction
  refine .skip (.of_ofList (by decide)) (.skip (.of_ofList (by decide))
    (.skip (readsLine_of_clientLine hstruct nofun) ?_))
  iterate 4 refine ReadsLines.skip (.of_ofList (by decide)) ?_
  refine .skip (readsLine_of_clientLine himpl nofun) ?_
  repeat refine ReadsLines.skip (.of_ofList (by decide)) ?_
  exact .nil

theorem readsLines_signature_defaultEndpoint (h : m.Printable) :
    ReadsLines signatureOf m.defaultEndpoint [] := by
  unfold defaultEndpoint
  split
  · exact .nil
  · next e hendpoint =>
    have hself : ReadsLine ClientLine.read ("        Self::new(\"" ++ e ++ "\")") none :=
      ClientLine.readsLine_around (by decide) (h.endpoint e hendpoint) (by decide)
    split
    · exact .nil
    · refine .skip (.of_ofList (by decide)) (.skip (.of_ofList (by decide)) ?_)
      exact .skip (readsLine_of_clientLine hself nofun) (.skip (.of_ofList (by decide)) .nil)

/-- The one fixed function whose signature is on one line. -/
theorem readsLines_signature_fixedMethods :
    ReadsLines signatureOf fixedMethods [("execute", ["document", "variables"])] := by
  unfold fixedMethods
  repeat first
    | refine ReadsLines.skip (.of_ofList (by decide)) ?_
    | refine ReadsLines.cons (.of_ofList (by decide)) ?_
  exact .nil

/-- **The signatures of a module are read back.** -/
theorem declaredSignatures_layout (h : m.Printable) :
    declaredSignatures (layout m.lines) = ("execute", ["document", "variables"]) ::
      m.calls.map fun k => (k.method, k.parameters.map (·.ident)) := by
  have hheader := readsLines_of_clientLines (readsLines_header h) (by simp)
  have hdocuments : ReadsLines signatureOf (m.calls.map (·.documentLine)) [] := by
    refine .skipAll fun l hl => ?_
    obtain ⟨k, hk, rfl⟩ := List.mem_map.mp hl
    exact readsLine_of_clientLine (Call.readsLine_documentLine (h.calls k hk)) nofun
  have hcalls := ReadsLines.flatMap fun k hk => Call.readsLines_signature (h.calls k hk)
  have hend : ReadsLines signatureOf ["\x7d"] [] := .skip (.of_ofList (by decide)) .nil
  have hlines := (((((hheader.append hdocuments).append (readsLines_signature_construction h)).append
    (readsLines_signature_defaultEndpoint h)).append readsLines_signature_fixedMethods).append
      hcalls).append hend
  rw [← List.map_eq_flatMap] at hlines
  rw [declaredSignatures, lines, filterMap_visibleLines_layout hlines rfl]
  simp

end ClientModule
end SchemaSdk.Sdk
