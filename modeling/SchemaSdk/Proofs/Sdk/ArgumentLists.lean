import SchemaSdk.Proofs.Sdk.DocumentConstants
import SchemaSdk.Proofs.Sdk.VariableTypes

/-!
# Arguments of generated methods

The arguments of an operation are written four times: as the variables that its request declares and
as those that its root field binds, as the parameters of the method and as the keys of the object of
variables that the method sends. Each of the four is read on its own from the generated text, as a
list of entries with commas between them, and all are the list of the schema.
-/
namespace SchemaSdk.Sdk

open SchemaSdk.Schema SchemaSdk.Text

/-! ## Lists of entries -/

/-- A name and a value, which a colon and a space stand between. -/
def entry (s : List Char) : String × String :=
  let s := s.dropWhile (· == ' ')
  (String.ofList (s.takeWhile (· != ':')),
    String.ofList (((s.dropWhile (· != ':')).drop 2).takeWhile (· != ' ')))

/-- The entries of a list with commas between them. -/
def entries (s : List Char) : List (String × String) :=
  if s.all (· == ' ') then [] else (s.splitOn ',').map entry

/-- A name and a value as an entry. -/
def entryText (e : String × String) : String := e.1 ++ ": " ++ e.2

/-- No mark that the reader looks for is in the name or the value. -/
structure IsEntry (e : String × String) : Prop where
  name : ' ' ∉ e.1.toList ∧ ',' ∉ e.1.toList ∧ ':' ∉ e.1.toList
  value : ' ' ∉ e.2.toList ∧ ',' ∉ e.2.toList

section Entries

variable {before after : List Char}
variable (hbefore : ∀ c ∈ before, c = ' ') (hafter : ∀ c ∈ after, c = ' ')

include hbefore hafter

theorem entry_text {e : String × String} (h : IsEntry e) :
    entry (before ++ (entryText e).toList ++ after) = e := by
  have hblank : ∀ c ∈ before, (c == ' ') = true := fun c hc => beq_iff_eq.mpr (hbefore c hc)
  have hname := forall_bne_of_notMem h.name.2.2
  have hvalue := forall_bne_of_notMem h.value.1
  have hend : after.takeWhile (· != ' ') = [] := by
    cases after with
    | nil => rfl
    | cons c r =>
      rw [hafter c List.mem_cons_self]
      rfl
  have hstart : (before ++ (entryText e).toList ++ after).dropWhile (· == ' ') =
      e.1.toList ++ ':' :: ' ' :: (e.2.toList ++ after) := by
    have hvisible : (e.1.toList ++ ':' :: ' ' :: (e.2.toList ++ after)).dropWhile (· == ' ') =
        e.1.toList ++ ':' :: ' ' :: (e.2.toList ++ after) := by
      cases hchars : e.1.toList with
      | nil => rfl
      | cons c r =>
        have hc : c ≠ ' ' := fun heq => h.name.1 (by simp [hchars, heq])
        rw [List.cons_append, List.dropWhile_cons_of_neg (by simpa using hc)]
    rw [List.append_assoc, List.dropWhile_append_of_pos hblank, ← hvisible]
    simp [entryText]
  rw [entry, hstart, List.takeWhile_append_of_pos hname, List.dropWhile_append_of_pos hname]
  simp [List.takeWhile_append_of_pos hvalue, hend]

theorem map_entry_splitOn {e : String × String} {es : List (String × String)} (he : IsEntry e)
    (hes : ∀ e ∈ es, IsEntry e) :
    ((before ++ (", ".intercalate ((e :: es).map entryText)).toList ++ after).splitOn ',').map
      entry = e :: es := by
  have hfree {e : String × String} (he : IsEntry e) {b : List Char} (hb : ∀ c ∈ b, c = ' ') :
      ',' ∉ b ++ (entryText e).toList := by
    have hspace : ',' ∉ b := fun hmem => by cases hb _ hmem
    simp [entryText, hspace, he.name.2.1, he.value.2]
  induction es generalizing e before with
  | nil =>
    have hlast : ',' ∉ after := fun hmem => by cases hafter _ hmem
    have hitem : ',' ∉ before ++ (entryText e).toList ++ after := by
      simpa [hlast] using hfree he hbefore
    rw [List.map_singleton, String.intercalate_singleton, List.splitOn_eq_singleton hitem,
      List.map_singleton, entry_text hbefore hafter he]
  | cons f es ih =>
    obtain ⟨hf, hes⟩ := List.forall_mem_cons.mp hes
    have htext : before ++ (", ".intercalate ((e :: f :: es).map entryText)).toList ++ after =
        before ++ (entryText e).toList ++ ',' :: ([' '] ++
          (", ".intercalate ((f :: es).map entryText)).toList ++ after) := by
      simp [String.intercalate_cons_cons]
    have hself := entry_text hbefore (List.forall_mem_nil _) he
    rw [List.append_nil] at hself
    rw [htext, List.splitOn_append_cons_self_of_not_mem (hfree he hbefore), List.map_cons, hself,
      ih (show ∀ c ∈ [' '], c = ' ' by simp) hf hes]

/-- **The entries of a printed list are read back.** -/
theorem entries_texts {es : List (String × String)} (h : ∀ e ∈ es, IsEntry e) :
    entries (before ++ (", ".intercalate (es.map entryText)).toList ++ after) = es := by
  cases es with
  | nil =>
    have hblank : (before ++ (", ".intercalate ([].map entryText)).toList ++ after).all (· == ' ') =
        true := by
      simpa [or_imp, forall_and] using And.intro hbefore hafter
    rw [entries, if_pos hblank]
  | cons e es =>
    obtain ⟨he, hes⟩ := List.forall_mem_cons.mp h
    obtain ⟨rest, hrest⟩ := exists_intercalate_eq ", " (entryText e) (es.map entryText)
    have hvisible : (before ++ (", ".intercalate ((e :: es).map entryText)).toList ++ after).all
        (· == ' ') = false := by
      refine List.all_eq_false.mpr ⟨':', ?_, by decide⟩
      rw [List.map_cons, hrest]
      simp [entryText]
    rw [entries, if_neg (by rw [hvisible]; exact Bool.false_ne_true),
      map_entry_splitOn hbefore hafter he hes]

end Entries

theorem entries_intercalate {es : List (String × String)} (h : ∀ e ∈ es, IsEntry e) :
    entries (", ".intercalate (es.map entryText)).toList = es := by
  have hread := entries_texts (List.forall_mem_nil _) (List.forall_mem_nil _) h
  rwa [List.nil_append, List.append_nil] at hread

end SchemaSdk.Sdk

namespace SchemaSdk.Schema

open SchemaSdk.Sdk SchemaSdk.Text

/-! ## Variables that a request binds -/

/-- The entries in the first parentheses of a text. -/
def parenthesizedEntries (s : List Char) : List (String × String) :=
  entries (((s.dropWhile (· != '(')).drop 1).takeWhile (· != ')'))

/-- The arguments of the root field of a request, each with what it is bound to. They stand in
parentheses between the first brace and the second. -/
def boundArguments (text : String) : List (String × String) :=
  parenthesizedEntries (((text.toList.dropWhile (· != '\x7b')).drop 1).takeWhile fun c =>
    c != '\x7b' && c != '\x7d')

/-- Entries in parentheses are read back; if there are none there are no parentheses. -/
theorem parenthesizedEntries_append {before after : List Char} (hbefore : '(' ∉ before)
    (hafter : '(' ∉ after) {es : List (String × String)}
    (hes : ∀ e ∈ es, IsEntry e ∧ ')' ∉ (entryText e).toList) :
    parenthesizedEntries (before ++ (parenthesized (es.map entryText)).toList ++ after) = es := by
  cases es with
  | nil =>
    have hnone : '(' ∉ before ++ (parenthesized []).toList ++ after := by
      simp [parenthesized, hbefore, hafter]
    rw [parenthesizedEntries, List.map_nil, ← List.append_nil (_ ++ _ ++ after),
      List.dropWhile_append_of_pos (forall_bne_of_notMem hnone)]
    rfl
  | cons e es =>
    have hinner : Uses (· != ')') (", ".intercalate ((e :: es).map entryText)) := by
      refine .intercalate (by decide) fun t ht => ?_
      obtain ⟨f, hf, rfl⟩ := List.mem_map.mp ht
      exact uses_iff.mpr (forall_bne_of_notMem (hes f hf).2)
    have htext : before ++ (parenthesized ((e :: es).map entryText)).toList ++ after =
        before ++ '(' :: ((", ".intercalate ((e :: es).map entryText)).toList ++ ')' :: after) := by
      simp [parenthesized]
    have hentries := entries_intercalate fun e he => (hes e he).1
    rw [parenthesizedEntries, htext, List.dropWhile_append_of_pos (forall_bne_of_notMem hbefore),
      List.dropWhile_cons_of_neg (by simp), List.drop_one, List.tail_cons,
      List.takeWhile_append_of_pos (uses_iff.mp hinner), List.takeWhile_cons_of_neg (by simp),
      List.append_nil, hentries]

namespace Request

variable {r : Request}

/-- The root field with its arguments, without what is selected of it. -/
def rootCall (r : Request) : String :=
  r.field ++ parenthesized ((r.bindings.map fun (a, v) => (a, "$" ++ v)).map entryText)

/-- Behind the first brace of a request its root field stands with the arguments before the second
one. -/
theorem exists_rootCall (r : Request) : ∃ brace rest, (brace = '\x7b' ∨ brace = '\x7d') ∧
    r.text.toList =
      r.start.toList ++ '\x7b' :: (' ' :: r.rootCall.toList ++ [' '] ++ brace :: rest) := by
  have hcall : r.rootCall =
      r.field ++ parenthesized (r.bindings.map fun (a, v) => a ++ ": $" ++ v) := by
    rw [rootCall, List.map_map]
    congr 2
    refine List.map_congr_left fun b _ => ?_
    have hmark : ": $" = ": " ++ "$" := by decide
    change b.1 ++ ": " ++ ("$" ++ b.2) = b.1 ++ ": $" ++ b.2
    rw [hmark, ← String.append_assoc, ← String.append_assoc]
  obtain ⟨rest, htext⟩ := r.exists_toList_text_eq
  cases hselection : r.selection with
  | none =>
    refine ⟨'\x7d', rest, .inr rfl, ?_⟩
    rw [htext, rootText, hselection, hcall]
    simp
  | some s =>
    obtain ⟨body, hbody⟩ : ∃ body, s.text = braced body := by
      cases s with
      | fragment model => exact ⟨_, rfl⟩
      | typeName => exact ⟨_, rfl⟩
    refine ⟨'\x7b', (" " ++ body ++ " \x7d").toList ++ ' ' :: '\x7d' :: rest, .inl rfl, ?_⟩
    rw [htext, rootText, hselection, hcall]
    simp [hbody, braced]

/-- **The bindings of a request are read back.** -/
theorem boundArguments_text (h : r.Printable) (hfield : '(' ∉ r.field.toList)
    (hbindings : ∀ b ∈ r.bindings,
      IsEntry (b.1, "$" ++ b.2) ∧ ')' ∉ (entryText (b.1, "$" ++ b.2)).toList) :
    boundArguments r.text = r.bindings.map fun b => (b.1, "$" ++ b.2) := by
  have hplain : Plain r.rootCall := by
    refine h.field.append (Plain.parenthesized fun t ht => ?_)
    obtain ⟨e, he, rfl⟩ := List.mem_map.mp ht
    obtain ⟨b, hb, rfl⟩ := List.mem_map.mp he
    obtain ⟨hargument, hvariable⟩ := h.bindings b hb
    exact (hargument.append (by decide)).append (Plain.append (by decide) hvariable)
  have hroot : ∀ d ∈ ' ' :: r.rootCall.toList ++ [' '], (d != '\x7b' && d != '\x7d') = true := by
    have hspaced : Plain (" " ++ r.rootCall ++ " ") :=
      (Plain.append (by decide) hplain).append (by decide)
    have hchars : ' ' :: r.rootCall.toList ++ [' '] = (" " ++ r.rootCall ++ " ").toList := by simp
    intro d hd
    have hmark := plain_iff.mp hspaced d (hchars ▸ hd)
    simp only [isPlain, Bool.not_eq_true', Bool.or_eq_false_iff] at hmark
    simp [bne, hmark.1.2, hmark.2]
  obtain ⟨brace, rest, hbrace, htext⟩ := r.exists_rootCall
  have hstart : '\x7b' ∉ r.start.toList := fun hmem => by cases plain_iff.mp (plain_start h) _ hmem
  have hend : (brace :: rest).takeWhile (fun d => d != '\x7b' && d != '\x7d') = [] := by
    rcases hbrace with rfl | rfl <;> rfl
  have hsegment : ((r.text.toList.dropWhile (· != '\x7b')).drop 1).takeWhile
      (fun d => d != '\x7b' && d != '\x7d') = ' ' :: r.rootCall.toList ++ [' '] := by
    rw [htext, List.dropWhile_append_of_pos (forall_bne_of_notMem hstart),
      List.dropWhile_cons_of_neg (by simp), List.drop_one, List.tail_cons,
      List.takeWhile_append_of_pos hroot, hend, List.append_nil]
  have hcall : ' ' :: r.rootCall.toList ++ [' '] = (' ' :: r.field.toList) ++ (parenthesized
      ((r.bindings.map fun b => (b.1, "$" ++ b.2)).map entryText)).toList ++ [' '] := by
    simp [rootCall]
  rw [boundArguments, hsegment, hcall]
  refine parenthesizedEntries_append (by simp [hfield]) (by decide) fun e he => ?_
  obtain ⟨b, hb, rfl⟩ := List.mem_map.mp he
  exact hbindings b hb

end Request

/-- **The root field of a request binds every argument** to the variable of its name. -/
theorem Collection.boundArguments_requestFor {c : Collection} (h : c.WellFormed) {o : Operation}
    (ho : o ∈ c.operations) :
    boundArguments (c.requestFor o).text = o.arguments.map fun a => (a.name, "$" ++ a.name) := by
  obtain ⟨hfield, harguments⟩ := h.operations_spelled o ho
  have hbound := Request.boundArguments_text (printable_requestFor h ho) (hfield.name.notMem rfl)
    fun b hb => by
      obtain ⟨a, ha, rfl⟩ := List.mem_map.mp hb
      have hname := (harguments a ha).name
      have hspace : ' ' ∉ a.name.toList := hname.notMem rfl
      have hcomma : ',' ∉ a.name.toList := hname.notMem rfl
      have hcolon : ':' ∉ a.name.toList := hname.notMem rfl
      have hclose : ')' ∉ a.name.toList := hname.notMem rfl
      refine ⟨⟨⟨hspace, hcomma, hcolon⟩, ?_, ?_⟩, ?_⟩
      · simp [hspace]
      · simp [hcomma]
      · simp [entryText, hclose]
  rw [hbound, requestFor, List.map_map]
  rfl

/-- What is read from a request: the variables that it declares and the arguments that it binds are
those of its operation. -/
theorem Collection.readArguments_requestFor {c : Collection} (h : c.WellFormed) {o : Operation}
    (ho : o ∈ c.operations) :
    ((declaredVariables (c.requestFor o).text).map (·.name),
        boundArguments (c.requestFor o).text) =
      (o.arguments.map (·.name), o.arguments.map fun a => (a.name, "$" ++ a.name)) := by
  rw [declaredVariables_requestFor h ho, boundArguments_requestFor h ho, List.map_map]
  rfl

end SchemaSdk.Schema

namespace SchemaSdk.Sdk

open SchemaSdk.Schema SchemaSdk.Text

/-! ## Arguments of methods -/

/-- What a line of a method says about its arguments and its request. -/
inductive CallLine where
  | parameters (ps : List (String × String))
  | sent (vs : List (String × String))
  | request (constant : String)

/-- How the lines start that say something, and what is read behind that. Parameters stand behind
the client itself, each with its type; variables stand in braces, each key with its value. -/
def CallLine.starts : List (String × (List Char → Option CallLine)) := [
  ("    pub async fn ", fun r =>
    ("(&self".toList.isPrefixOf? (r.dropWhile Identifier.isPart)).map fun s =>
      .parameters (entries ((s.takeWhile (· != ')')).drop 2))),
  ("        let variables = json!(\x7b", fun r =>
    some (.sent ((entries (r.takeWhile (· != '\x7d'))).map fun e =>
      (ClientLine.quoted e.1.toList, e.2)))),
  ("        let mut data = self.execute(", fun r => some (.request (ClientLine.identifier r)))]

/-- What a line says, if it says something. -/
def CallLine.read (l : List Char) : Option CallLine :=
  starts.findSome? fun (start, sense) => (start.toList.isPrefixOf? l).bind sense

/-- A method that sends a request: its parameters with their types, the variables that it sends with
their values, and the constant of the request. -/
structure SendingMethod where
  parameters : List (String × String)
  sent : List (String × String)
  constant : String
  deriving DecidableEq

/-- The methods that lines make up. -/
def sendingMethodsFrom : List CallLine → List SendingMethod
  | .parameters ps :: .sent vs :: .request constant :: ls =>
    ⟨ps, vs, constant⟩ :: sendingMethodsFrom ls
  | _ => []

/-- The methods of a client module that send the requests of its operations. -/
def sendingMethods (text : String) : List SendingMethod :=
  sendingMethodsFrom ((callLines text).filterMap CallLine.read)

/-- The characters of the types of generated code. -/
def isTypePart (c : Char) : Bool := Identifier.isPart c || "<>:".toList.contains c

/-- The name, the identifier and the type of a member have their own characters only. -/
structure Member.Spelled (m : Member) : Prop where
  name : IsName m.name
  ident : Uses Identifier.isPart m.ident
  type : Uses isTypePart m.type

theorem uses_rustTypeOf {c : Collection} {f : Field} (h : IsName f.base) :
    Uses isTypePart (c.rustTypeOf f) := by
  have hwrap {base : String} (hbase : Uses isTypePart base) : Uses isTypePart (f.wrap base) := by
    have hoption {t : String} (ht : Uses isTypePart t) : Uses isTypePart ("Option<" ++ t ++ ">") :=
      (Uses.append (by decide) ht).append (by decide)
    have hvec {t : String} (ht : Uses isTypePart t) : Uses isTypePart ("Vec<" ++ t ++ ">") :=
      (Uses.append (by decide) ht).append (by decide)
    unfold Field.wrap
    cases f.required <;> cases f.list <;> cases f.itemRequired
    · exact hoption hbase
    · exact hoption hbase
    · exact hoption (hvec (hoption hbase))
    · exact hoption (hvec hbase)
    · exact hbase
    · exact hbase
    · exact hvec (hoption hbase)
    · exact hvec hbase
  unfold Collection.rustTypeOf Field.rustType
  split
  · refine hwrap ?_
    split
    · refine uses_iff.mpr fun d hd => ?_
      simp [isTypePart, Identifier.isPart_of_mem_ofType h hd]
    · next hnamed =>
      have hall : ∀ t ∈ foreignTypes, Uses isTypePart t := by decide
      exact hall _ (typeName_mem_foreignTypes (by simpa using hnamed))
  · exact hwrap (by decide)

theorem Member.spelled_ofField (c : Collection) {f : Field} (h : f.Spelled) :
    (Member.ofField c f).Spelled := by
  constructor
  · exact h.name
  · dsimp only [Member.ofField]
    exact uses_iff.mpr fun _ hd => Identifier.isPart_of_mem_ofField h.name hd
  · dsimp only [Member.ofField]
    exact uses_rustTypeOf h.base

/-- A parameter with its type is an entry. -/
theorem Member.Spelled.isEntry_parameter {p : Member} (h : p.Spelled) :
    IsEntry (p.ident, p.type) where
  name := ⟨h.ident.notMem rfl, h.ident.notMem rfl, h.ident.notMem rfl⟩
  value := ⟨h.type.notMem rfl, h.type.notMem rfl⟩

/-- A name in quotes with its parameter is an entry, and no brace is in it. -/
theorem Member.Spelled.isEntry_sent {p : Member} (h : p.Spelled) :
    IsEntry ("\"" ++ p.name ++ "\"", p.ident) ∧
      '\x7d' ∉ (entryText ("\"" ++ p.name ++ "\"", p.ident)).toList := by
  have hfree {c : Char} (hc : isNamePart c = false) (hmark : c ≠ '"') :
      c ∉ ("\"" ++ p.name ++ "\"").toList := by
    simp [hmark, h.name.notMem hc]
  have hname : '\x7d' ∉ p.name.toList := h.name.notMem rfl
  have hident : '\x7d' ∉ p.ident.toList := h.ident.notMem rfl
  refine ⟨⟨⟨hfree rfl (by decide), hfree rfl (by decide), hfree rfl (by decide)⟩,
    h.ident.notMem rfl, h.ident.notMem rfl⟩, ?_⟩
  simp [entryText, hname, hident]

namespace CallLine

theorem readsStarts_read : ReadsStarts (starts.map (·.1.toList)) read := by
  intro l h
  refine List.findSome?_eq_none_iff.mpr fun p hp => ?_
  have hstart := h p.1.toList (List.mem_map_of_mem hp)
  exact congrArg (Option.bind · p.2) (isPrefixOf?_eq_none hstart)

theorem read_parameters {r s : List Char}
    (h : r.dropWhile Identifier.isPart = "(&self".toList ++ s) :
    read ("    pub async fn ".toList ++ r) =
      some (.parameters (entries ((s.takeWhile (· != ')')).drop 2))) := by
  simp only [read, starts, List.findSome?_cons, isPrefixOf?_append, Option.bind_some, h,
    Option.map_some]

theorem read_sent (r : List Char) : read ("        let variables = json!(\x7b".toList ++ r) =
    some (.sent ((entries (r.takeWhile (· != '\x7d'))).map fun e =>
      (ClientLine.quoted e.1.toList, e.2))) := rfl

theorem read_request (r : List Char) : read ("        let mut data = self.execute(".toList ++ r) =
    some (.request (ClientLine.identifier r)) := rfl

end CallLine

namespace Call

variable {k : Call}

/-- The parameters as entries. -/
def parameterEntries (k : Call) : List (String × String) :=
  k.parameters.map fun p => (p.ident, p.type)

theorem join_eq_intercalate {texts : List String} (h : texts ≠ []) :
    String.join (texts.map (", " ++ ·)) = ", " ++ ", ".intercalate texts := by
  induction texts with
  | nil => exact absurd rfl h
  | cons t texts ih =>
    cases texts with
    | nil => simp
    | cons u texts =>
      rw [List.map_cons, String.join_cons, ih nofun, String.intercalate_cons_cons]
      simp [String.append_assoc]

theorem drop_parameterText (k : Call) : k.parameterText.toList.drop 2 =
    (", ".intercalate (k.parameterEntries.map entryText)).toList := by
  have htexts :
      k.parameterText = String.join ((k.parameterEntries.map entryText).map (", " ++ ·)) := by
    simp [parameterText, parameterEntries, entryText, Function.comp_def, String.append_assoc]
  rw [htexts]
  by_cases hnone : k.parameterEntries.map entryText = []
  · simp [hnone]
  · rw [join_eq_intercalate hnone]
    simp

/-- The values that a method sends as entries, each under its name in quotes. -/
def sentEntries (k : Call) : List (String × String) :=
  k.parameters.map fun p => ("\"" ++ p.name ++ "\"", p.ident)

theorem variablesText_eq (k : Call) :
    k.variablesText = ", ".intercalate (k.sentEntries.map entryText) := by
  rw [variablesText, sentEntries, List.map_map]
  congr 1
  refine List.map_congr_left fun p _ => ?_
  rw [Function.comp_apply, entryText, ← String.toList_inj]
  simp

/-- The names in quotes stand for the names. -/
theorem map_quoted_sentEntries (hspelled : ∀ p ∈ k.parameters, p.Spelled) :
    k.sentEntries.map (fun e => (ClientLine.quoted e.1.toList, e.2)) =
      k.parameters.map fun p => (p.name, p.ident) := by
  rw [sentEntries, List.map_map]
  refine List.map_congr_left fun p hp => ?_
  have hquote : '"' ∉ p.name.toList := (hspelled p hp).name.notMem rfl
  have hquoted := ClientLine.quoted_append (s := "") (by decide) hquote []
  rw [Function.comp_apply]
  simpa using hquoted

/-- The lines of a call give its parameters, the variables that it sends and its request. -/
def saidLines (k : Call) : List CallLine := [
  .parameters (k.parameters.map fun p => (p.ident, p.type)),
  .sent (k.parameters.map fun p => (p.name, p.ident)),
  .request k.constant]

section Lines

variable (h : k.Printable) (hspelled : ∀ p ∈ k.parameters, p.Spelled)

include h hspelled

theorem readsLine_parameters : ReadsLine CallLine.read k.signatureLine
    (some (.parameters (k.parameters.map fun p => (p.ident, p.type)))) := by
  have hentries : ∀ e ∈ k.parameterEntries, IsEntry e := by
    intro e he
    obtain ⟨p, hp, rfl⟩ := List.mem_map.mp he
    exact (hspelled p hp).isEntry_parameter
  have hclose : ')' ∉ k.parameterText.toList := by
    have hmember : ∀ p ∈ k.parameters, ')' ∉ p.ident.toList ∧ ')' ∉ p.type.toList := fun p hp =>
      ⟨(hspelled p hp).ident.notMem rfl, (hspelled p hp).type.notMem rfl⟩
    simpa [parameterText] using hmember
  have htrim : trimEnd k.signatureLine.toList = "    pub async fn ".toList ++ (k.method.toList ++
      ("(&self".toList ++ (k.parameterText.toList ++
        ')' :: (" -> Result<" ++ k.result ++ ", ClientError> \x7b").toList))) := by
    unfold signatureLine
    rw [trimEnd_toList_append _ rfl (by decide)]
    simp
  have hrest : (k.method.toList ++ ("(&self".toList ++ (k.parameterText.toList ++
      ')' :: (" -> Result<" ++ k.result ++ ", ClientError> \x7b").toList))).dropWhile
        Identifier.isPart = "(&self".toList ++ (k.parameterText.toList ++
          ')' :: (" -> Result<" ++ k.result ++ ", ClientError> \x7b").toList) := by
    rw [List.dropWhile_append_of_pos (uses_iff.mp h.method)]
    rfl
  refine ⟨h.not_mem_signatureLine, ?_⟩
  rw [htrim, CallLine.read_parameters hrest,
    List.takeWhile_append_of_pos (forall_bne_of_notMem hclose),
    List.takeWhile_cons_of_neg (by simp), List.append_nil, drop_parameterText]
  rw [entries_intercalate hentries, parameterEntries]

theorem readsLine_sent : ReadsLine CallLine.read
    ("        let variables = json!(\x7b " ++ k.variablesText ++ " \x7d);")
      (some (.sent (k.parameters.map fun p => (p.name, p.ident)))) := by
  have hentries : ∀ e ∈ k.sentEntries, IsEntry e ∧ '\x7d' ∉ (entryText e).toList := by
    intro e he
    obtain ⟨p, hp, rfl⟩ := List.mem_map.mp he
    exact (hspelled p hp).isEntry_sent
  have hbrace : Uses (· != '\x7d') (" " ++ k.variablesText ++ " ") := by
    refine (Uses.append (by decide) ?_).append (by decide)
    rw [variablesText_eq]
    refine .intercalate (by decide) fun t ht => ?_
    obtain ⟨e, he, rfl⟩ := List.mem_map.mp ht
    exact uses_iff.mpr (forall_bne_of_notMem (hentries e he).2)
  have hline : ("        let variables = json!(\x7b " ++ k.variablesText ++ " \x7d);").toList =
      "        let variables = json!(\x7b".toList ++
        ((" " ++ k.variablesText ++ " ").toList ++ '\x7d' :: ");".toList) := by simp
  have hread : entries (" " ++ k.variablesText ++ " ").toList = k.sentEntries := by
    rw [String.toList_append, String.toList_append, variablesText_eq]
    have hblank : ∀ c ∈ " ".toList, c = ' ' := by simp
    exact entries_texts hblank hblank fun e he => (hentries e he).1
  refine ⟨by simp [h.not_mem_variablesText], ?_⟩
  rw [trimEnd_toList_append _ rfl (by decide), hline, CallLine.read_sent,
    List.takeWhile_append_of_pos (uses_iff.mp hbrace), List.takeWhile_cons_of_neg (by simp),
    List.append_nil, hread, map_quoted_sentEntries hspelled]

/-- A method is read as its parameters, its variables and its request. -/
theorem readsLines_saidLines : ReadsLines CallLine.read k.lines k.saidLines := by
  have hcomment : ReadsLines CallLine.read (docComment "    " k.doc) [] :=
    CallLine.readsStarts_read.readsLines_docComment (by decide) rfl h.doc
  have hrequest : ReadsLine CallLine.read
      ("        let mut data = self.execute(" ++ k.constant ++ ", variables).await?;")
        (some (.request k.constant)) := by
    have hconstant : '\n' ∉ k.constant.toList := h.constant.notMem rfl
    have hline : ("        let mut data = self.execute(" ++ k.constant ++
        ", variables).await?;").toList = "        let mut data = self.execute(".toList ++
          (k.constant.toList ++ ',' :: " variables).await?;".toList) := by simp
    refine ⟨by simp [hconstant], ?_⟩
    rw [trimEnd_toList_append _ rfl (by decide), hline, CallLine.read_request,
      ClientLine.identifier_append h.constant rfl]
  have hfield : ReadsLine CallLine.read ("            .get_mut(\"" ++ k.field ++ "\")") none :=
    CallLine.readsStarts_read.readsLine_around (by decide) h.field.2 (by decide)
  refine (ReadsLines.skip (.of_ofList (by decide)) hcomment).append ?_
  refine .cons (readsLine_parameters h hspelled) (.cons (readsLine_sent h hspelled) ?_)
  refine .cons hrequest (.skip (.of_ofList (by decide)) (.skip hfield ?_))
  repeat refine ReadsLines.skip (.of_ofList (by decide)) ?_
  exact .nil

end Lines

/-- The parameters of a method and the values that it sends are those of its operation. -/
theorem map_parameters_of_ofCollection {c : Collection} {calls : List Call}
    (h : ofCollection c = .ok calls) :
    calls.map (fun k => (k.parameters.map fun p => (p.ident, p.type),
        k.parameters.map fun p => (p.name, p.ident))) =
      c.operations.map fun o =>
        (o.arguments.map fun a => (Identifier.ofField a.name, c.rustTypeOf a),
          o.arguments.map fun a => (a.name, Identifier.ofField a.name)) :=
  map_of_ofCollection h fun o name => by
    simp [ofOperation, Member.ofField, Function.comp_def]

end Call

theorem sendingMethodsFrom_flatMap (calls : List Call) :
    sendingMethodsFrom (calls.flatMap (·.saidLines)) = calls.map fun k =>
      ⟨k.parameters.map fun p => (p.ident, p.type), k.parameters.map fun p => (p.name, p.ident),
        k.constant⟩ := by
  induction calls with
  | nil => rfl
  | cons k calls ih =>
    rw [List.flatMap_cons, List.map_cons, ← ih]
    rfl

/-- **The methods of a module are read back**, whatever its endpoint is. -/
theorem ClientModule.sendingMethods_layout {m : ClientModule} (h : m.PrintableNames)
    (hspelled : ∀ k ∈ m.calls, ∀ p ∈ k.parameters, p.Spelled) :
    sendingMethods (layout m.lines) = m.calls.map fun k =>
      ⟨k.parameters.map fun p => (p.ident, p.type), k.parameters.map fun p => (p.name, p.ident),
        k.constant⟩ := by
  have hfixed : ReadsLines CallLine.read queryLines [] := by
    unfold queryLines fixedMethods
    repeat refine ReadsLines.skip (.of_ofList (by decide)) ?_
    exact .nil
  have hcalls : ReadsLines CallLine.read (m.calls.flatMap (·.lines))
      (m.calls.flatMap (·.saidLines)) :=
    .flatMap fun k hk => Call.readsLines_saidLines (h.calls k hk) (hspelled k hk)
  have hend : ReadsLines CallLine.read ["\x7d"] [] := .skip (.of_ofList (by decide)) .nil
  rw [sendingMethods, callLines_layout h,
    filterMap_visibleLines_layout ((hfixed.append hcalls).append hend) rfl, List.nil_append,
    List.append_nil, sendingMethodsFrom_flatMap]

/-- **The arguments of generated clients**, whatever their options are. Operation by operation and
argument by argument in the order of the schema, the requests declare the arguments as variables,
their root fields bind each to the variable of its name, the methods take each as the parameter with
its identifier and type, and send each under its name with that parameter as the value, with the
request of the operation. -/
theorem arguments_of_generate {sdl : String} {o : Options} {p : Package}
    (h : generate sdl o = .ok p) :
    ∃ d c, Document.parse sdl = .ok d ∧ Collection.parse sdl = .ok c ∧
      (declaredConstants p.client.text).map (fun k =>
          ((declaredVariables k.2).map (·.name), boundArguments k.2)) =
        (d.operationDefs .query ++ d.operationDefs .mutation).map (fun f =>
          (f.arguments.map fun a => a.name.text,
            f.arguments.map fun a => (a.name.text, "$" ++ a.name.text))) ∧
      (sendingMethods p.client.text).map (fun k => (k.parameters, k.sent)) =
        (d.operationDefs .query ++ d.operationDefs .mutation).map (fun f =>
          (f.arguments.map fun a => (Identifier.ofField a.name.text, c.rustTypeOf (.ofInput a)),
            f.arguments.map fun a => (a.name.text, Identifier.ofField a.name.text))) ∧
      (sendingMethods p.client.text).map (·.constant) =
        (declaredConstants p.client.text).map (·.1) := by
  obtain ⟨c, order, calls, hparse, _, hcalls, htext, _⟩ := exists_parts_of_generate h
  obtain ⟨d, hd⟩ := Collection.exists_read_of_parse hparse
  have hwell := Collection.wellFormed_of_parse hparse
  have hspelled : ∀ k ∈ calls, ∀ p ∈ k.parameters, p.Spelled := by
    intro k hk p hp
    obtain ⟨op, hop, _, rfl⟩ := Call.exists_operation_of_mem hcalls hk
    obtain ⟨a, ha, rfl⟩ := List.mem_map.mp hp
    exact Member.spelled_ofField c ((hwell.operations_spelled op hop).arguments a ha)
  have hconstants := ClientModule.declaredConstants_of_parse hparse hcalls o
  have hmethods := ClientModule.sendingMethods_layout
    (ClientModule.printableNames_of_parse hparse hcalls o) hspelled
  rw [← htext] at hconstants hmethods
  have harguments := Collection.map_arguments_operations hd hparse
  refine ⟨d, c, hd, hparse, ?_, ?_, ?_⟩
  · have hoperations := congrArg (List.map fun as : List Field =>
      (as.map (·.name), as.map fun a => (a.name, "$" ++ a.name))) harguments
    rw [hconstants, List.map_map]
    refine (List.map_congr_left fun op hop =>
      Collection.readArguments_requestFor hwell hop).trans ?_
    simpa [Function.comp_def, Field.ofInput, Field.ofTyped] using hoperations
  · have hoperations := congrArg (List.map fun as : List Field =>
      (as.map fun a => (Identifier.ofField a.name, c.rustTypeOf a),
        as.map fun a => (a.name, Identifier.ofField a.name))) harguments
    rw [hmethods, List.map_map]
    refine (Call.map_parameters_of_ofCollection hcalls : _ = _).trans ?_
    simpa [Function.comp_def, Field.ofInput, Field.ofTyped] using hoperations
  · rw [hmethods, hconstants, List.map_map, List.map_map]
    exact Call.map_of_ofCollection hcalls fun _ _ => rfl

/-- Arguments whose identifiers are not their names, and an endpoint that has the line before the
calls in it. -/
theorem arguments_of_generate_identifiers :
    ∃ p, generate "type Query { f(type: Int!, perPage: [ID!]): Int g: Int }"
        ⟨"Cine", none, some "a\n    pub async fn query<T: DeserializeOwned>(\n"⟩ = .ok p ∧
      (declaredConstants p.client.text).map (fun k =>
          ((declaredVariables k.2).map (·.name), boundArguments k.2)) =
        [(["type", "perPage"], [("type", "$type"), ("perPage", "$perPage")]), ([], [])] ∧
      (sendingMethods p.client.text).map (fun k => (k.parameters, k.sent)) =
        [([("r#type", "i32"), ("per_page", "Option<Vec<String>>")],
          [("type", "r#type"), ("perPage", "per_page")]), ([], [])] := by
  have hok : (Document.parse "type Query { f(type: Int!, perPage: [ID!]): Int g: Int }").toOption.any
      (fun d => (Collection.parse
        "type Query { f(type: Int!, perPage: [ID!]): Int g: Int }").toOption.any fun c =>
          (render c ⟨"Cine", none,
            some "a\n    pub async fn query<T: DeserializeOwned>(\n"⟩).toOption.any fun _ => decide (
          (d.operationDefs .query ++ d.operationDefs .mutation).map (fun f =>
            (f.arguments.map fun a => a.name.text,
              f.arguments.map fun a => (a.name.text, "$" ++ a.name.text))) =
            [(["type", "perPage"], [("type", "$type"), ("perPage", "$perPage")]), ([], [])] ∧
          (d.operationDefs .query ++ d.operationDefs .mutation).map (fun f =>
            (f.arguments.map fun a => (Identifier.ofField a.name.text, c.rustTypeOf (.ofInput a)),
              f.arguments.map fun a => (a.name.text, Identifier.ofField a.name.text))) =
            [([("r#type", "i32"), ("per_page", "Option<Vec<String>>")],
              [("type", "r#type"), ("perPage", "per_page")]), ([], [])])) = true := by
    decide
  obtain ⟨d, hd, hok⟩ := exists_eq_ok_of_any hok
  obtain ⟨c, p, hparse, h, hcheck⟩ := exists_generated_of_any hok
  obtain ⟨hrequests, hmethods⟩ := of_decide_eq_true hcheck
  obtain ⟨d', c', hd', hparse', hdeclared, hsent, _⟩ := arguments_of_generate h
  obtain rfl := Except.ok.inj (hd.symm.trans hd')
  obtain rfl := Except.ok.inj (hparse.symm.trans hparse')
  exact ⟨p, h, hdeclared.trans hrequests, hsent.trans hmethods⟩

end SchemaSdk.Sdk
