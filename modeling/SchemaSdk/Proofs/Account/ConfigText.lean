import SchemaSdk.Account.Config
import SchemaSdk.Proofs.Toml.Keys
import SchemaSdk.Proofs.Toml.Sections

/-!
# Configurations as text

A configuration whose names differ is read back from its text, and only such configurations are
read from a text. What is kept on disk is therefore the configuration itself.
-/
namespace SchemaSdk.Account

open SchemaSdk.Toml

/-! ## Tables of strings -/

/-- The branch that a written entry becomes. -/
def entryBranch (e : String × Content) : String × Branch := (e.1, .value e.2.toToml)

theorem put_fresh {es : Entries} {key : String} (h : key ∉ es.map Prod.fst) (v : Toml) :
    es.put [key] v = some (es ++ [(key, .value v)]) := by
  have hlookup := lookup_eq_none_iff_notMem_keys.mpr h
  simp [Entries.put, Entries.within, hlookup]

/-- Entries below a header go to the table that it has opened, one after another. `around` is what
the document makes of that table. -/
theorem foldlM_add_entries (around : Entries → Entries) {path : List String}
    (hwithin : ∀ change sub, Entries.within .passed change path .header (around sub) =
      (change .header sub).map around)
    (entries : List (String × Content)) (sub : Entries)
    (hkeys : (sub.map Prod.fst ++ entries.map Prod.fst).Nodup) :
    (entries.map fun (key, v) => Statement.entry [key] v.toToml).foldlM Draft.add
        ⟨around sub, path⟩ =
      some ⟨around (sub ++ entries.map entryBranch), path⟩ := by
  induction entries generalizing sub with
  | nil => simp
  | cons e entries ih =>
    obtain ⟨key, v⟩ := e
    rw [List.map_cons, List.nodup_append] at hkeys
    obtain ⟨hsub, hrest, hdisjoint⟩ := hkeys
    rw [List.nodup_cons] at hrest
    have hfresh : key ∉ sub.map Prod.fst := fun hmem =>
      hdisjoint key hmem key List.mem_cons_self rfl
    have hadd : Draft.add ⟨around sub, path⟩ (.entry [key] v.toToml) =
        some ⟨around (sub ++ [(key, .value v.toToml)]), path⟩ := by
      rw [Draft.add, hwithin, put_fresh hfresh]
      rfl
    rw [List.map_cons, List.foldlM_cons, hadd, Option.bind_eq_bind, Option.bind_some, ih]
    · rw [List.append_assoc, List.map_cons]
      rfl
    · rw [List.map_append, List.append_assoc, List.nodup_append]
      refine ⟨hsub, List.nodup_cons.mpr hrest, hdisjoint⟩

/-! ## The document of a configuration -/

namespace Config

/-- No name occurs twice in a configuration. -/
def Distinct (c : Config) : Prop := (c.profiles.map Prod.fst).Nodup

/-- What the sections of profiles make. -/
def profileBranches (profiles : List (String × Profile)) : Entries :=
  profiles.map fun (name, p) =>
    (name, .table .header ((profileSection name p).entries.map entryBranch))

/-- The table of settings. -/
def settingsBranch (active : String) : Branch :=
  .table .header [("active_profile", .value (.string active))]

/-- The document with the settings, and tables below those of the profiles. -/
def draftRoot (active : String) (origin : Origin) (tables : Entries) : Entries :=
  [("settings", settingsBranch active), ("profiles", .table origin tables)]

theorem within_draftRoot (active : String) (tables : Entries) {name : String}
    (hname : name ∉ tables.map Prod.fst) (change : Origin → Entries → Option Entries)
    (sub : Entries) :
    Entries.within .passed change ["profiles", name] .header
        (draftRoot active .passed (tables ++ [(name, .table .header sub)])) =
      (change .header sub).map fun sub =>
        draftRoot active .passed (tables ++ [(name, .table .header sub)]) := by
  have hprofiles : (draftRoot active .passed (tables ++ [(name, .table .header sub)])).lookup
      "profiles" = some (.table .passed (tables ++ [(name, .table .header sub)])) := rfl
  have hfound := Entries.lookup_append_self hname (.table .header sub)
  simp only [Entries.within, hprofiles, hfound]
  cases change .header sub with
  | none => rfl
  | some sub' =>
    simp only [Option.map_some, Entries.replace_append_self hname]
    rfl

/-- The document with the settings and some of the profiles. -/
def draftWith (active : String) : List (String × Profile) → Entries
  | [] => [("settings", settingsBranch active)]
  | profiles => draftRoot active .passed (profileBranches profiles)

theorem keys_profileBranches (profiles : List (String × Profile)) :
    (profileBranches profiles).map Prod.fst = profiles.map Prod.fst := by
  simp [profileBranches]

theorem openTable_draftWith (active : String) {profiles : List (String × Profile)} {name : String}
    (hname : name ∉ profiles.map Prod.fst) :
    Entries.openTable ["profiles", name] (draftWith active profiles) =
      some (draftRoot active .passed (profileBranches profiles ++ [(name, .table .header [])])) := by
  cases profiles with
  | nil => rfl
  | cons e profiles =>
    rw [← keys_profileBranches] at hname
    have hfresh := lookup_eq_none_iff_notMem_keys.mpr hname
    have hprofiles : (draftRoot active .passed (profileBranches (e :: profiles))).lookup
        "profiles" = some (.table .passed (profileBranches (e :: profiles))) := rfl
    simp only [Entries.openTable, draftWith, List.getLast?_cons_cons, List.getLast?_singleton,
      List.dropLast, Entries.within, hprofiles, hfresh]
    rfl

theorem nodup_entries_profileSection (name : String) (p : Profile) :
    ((profileSection name p).entries.map Prod.fst).Nodup := by
  obtain ⟨clientId, authority, authorization, token, scopes⟩ := p
  cases authority <;> cases authorization <;> cases token <;> cases scopes <;>
    simp [profileSection, optionalEntry]

theorem foldlM_add_profileSection (active : String) {profiles : List (String × Profile)}
    {name : String} (p : Profile) (hname : name ∉ profiles.map Prod.fst) (current : List String) :
    (profileSection name p).statements.foldlM Draft.add ⟨draftWith active profiles, current⟩ =
      some ⟨draftWith active (profiles ++ [(name, p)]), ["profiles", name]⟩ := by
  have hopen : Draft.add ⟨draftWith active profiles, current⟩ (.table ["profiles", name]) =
      some ⟨draftRoot active .passed (profileBranches profiles ++ [(name, .table .header [])]),
        ["profiles", name]⟩ := by
    rw [Draft.add, openTable_draftWith active hname]
    rfl
  have hentries := foldlM_add_entries
    (fun sub =>
      draftRoot active .passed (profileBranches profiles ++ [(name, .table .header sub)]))
    (within_draftRoot active (profileBranches profiles)
      (by rwa [keys_profileBranches]))
    (profileSection name p).entries [] (by simpa using nodup_entries_profileSection name p)
  have hpath : (profileSection name p).path = ["profiles", name] := rfl
  rw [Section.statements, hpath, List.foldlM_cons, hopen, Option.bind_eq_bind, Option.bind_some,
    hentries]
  cases profiles <;> simp [draftWith, profileBranches]

theorem foldlM_add_profileSections (active : String) (done profiles : List (String × Profile))
    (hnames : ((done ++ profiles).map Prod.fst).Nodup) (current : List String) :
    ∃ current', ((profiles.map fun (name, p) => profileSection name p).flatMap
        Section.statements).foldlM Draft.add ⟨draftWith active done, current⟩ =
      some ⟨draftWith active (done ++ profiles), current'⟩ := by
  induction profiles generalizing done current with
  | nil => exact ⟨current, by simp⟩
  | cons e profiles ih =>
    obtain ⟨name, p⟩ := e
    have hname : name ∉ done.map Prod.fst := by
      intro hmem
      rw [List.map_append, List.nodup_append] at hnames
      exact hnames.2.2 name hmem name List.mem_cons_self rfl
    obtain ⟨current', hrest⟩ := ih (done ++ [(name, p)]) (by simpa using hnames)
      ["profiles", name]
    refine ⟨current', ?_⟩
    rw [List.map_cons, List.flatMap_cons, List.foldlM_append,
      foldlM_add_profileSection active p hname current, Option.bind_eq_bind, Option.bind_some,
      hrest, List.append_assoc, List.singleton_append]

/-- The document of a configuration. -/
def branches (c : Config) : Entries :=
  match c.profiles with
  | [] => draftRoot c.active .header []
  | profiles => draftRoot c.active .passed (profileBranches profiles)

theorem ofStatements_sections (c : Config) (hnames : c.Distinct) :
    ofStatements (c.sections.flatMap Section.statements) = some (finishedEntries c.branches) := by
  obtain ⟨active, profiles⟩ := c
  cases profiles with
  | nil => rfl
  | cons e profiles =>
    obtain ⟨current, hrun⟩ :=
      foldlM_add_profileSections active [] (e :: profiles) hnames ["settings"]
    have hsettings : (Section.mk ["settings"] [("active_profile", .one active)]).statements.foldlM
        Draft.add Draft.empty = some ⟨draftWith active [], ["settings"]⟩ := rfl
    rw [ofStatements, sections, if_neg (by simp), List.flatMap_cons, List.foldlM_append, hsettings,
      Option.bind_eq_bind, Option.bind_some, hrun]
    rfl

theorem parse_text (c : Config) (hnames : c.Distinct) :
    Toml.parse c.text = some (finishedEntries c.branches) := by
  have hpaths : ∀ s ∈ c.sections, s.HasPath := by
    intro s hs
    rcases List.mem_cons.mp hs with rfl | hs
    · simp [Section.HasPath, maxDepth]
    · split at hs
      · rw [List.mem_singleton.mp hs]
        simp [Section.HasPath, maxDepth]
      · obtain ⟨e, _, rfl⟩ := List.mem_map.mp hs
        simp [Section.HasPath, profileSection, maxDepth]
  rw [text, parse_writeSections hpaths, ofStatements_sections c hnames]

/-! ## Reading it back -/

theorem asStrings?_strings (items : List String) :
    Toml.asStrings? (.array (items.map .string)) = some items := by
  have hitems : ∀ s ∈ items, Toml.asString? (.string s) = some (id s) := fun _ _ => rfl
  rw [Toml.asStrings?, mapM_map_eq_some hitems, List.map_id]

theorem profileOf?_profileSection (name : String) (p : Profile) :
    profileOf? (.table ((profileSection name p).entries.map fun e => (e.1, e.2.toToml))) =
      some p := by
  obtain ⟨clientId, authority, authorization, token, scopes⟩ := p
  have hscopes := asStrings?_strings scopes
  cases authority <;> cases authorization <;> cases token <;> cases scopes <;>
    simp_all [profileSection, optionalEntry, profileOf?, string?, optionalString?, strings?,
      List.lookup_cons, Content.toToml, Toml.asString?]

theorem finished_entryBranches (entries : List (String × Content)) :
    finishedEntries (entries.map entryBranch) = entries.map fun e => (e.1, e.2.toToml) := by
  rw [finishedEntries_eq_map, List.map_map]
  refine List.map_congr_left fun e _ => ?_
  simp [entryBranch, Branch.finished]

theorem profilesOf?_profileBranches (profiles : List (String × Profile)) :
    profilesOf? (.table (finishedEntries (profileBranches profiles))) = some profiles := by
  rw [profilesOf?, finishedEntries_eq_map, profileBranches, List.map_map,
    mapM_map_eq_some (k := id), List.map_id]
  rintro ⟨name, p⟩ _
  simp [Branch.finished, finished_entryBranches, profileOf?_profileSection]

/-- A configuration whose names differ is what its text says. -/
theorem ofText?_text (c : Config) (hnames : c.Distinct) :
    ofText? c.text = some c := by
  obtain ⟨active, profiles⟩ := c
  rw [ofText?, parse_text _ hnames, Option.bind_some]
  cases profiles with
  | nil => rfl
  | cons e profiles =>
    have hsettings : (finishedEntries (branches ⟨active, e :: profiles⟩)).lookup "settings" =
        some (.table [("active_profile", .string active)]) := by
      simp [branches, draftRoot, settingsBranch, finishedEntries, Branch.finished]
    have hprofiles : (finishedEntries (branches ⟨active, e :: profiles⟩)).lookup "profiles" =
        some (.table (finishedEntries (profileBranches (e :: profiles)))) := by
      simp [branches, draftRoot, finishedEntries, Branch.finished, List.lookup_cons]
    simp only [ofToml?, hsettings, hprofiles, profilesOf?_profileBranches]
    rfl

theorem keys_of_mapM {α β : Type} {f : α → Option β} {entries : List (String × α)}
    {found : List (String × β)}
    (h : (entries.mapM fun (name, v) => (f v).map (name, ·)) = some found) :
    found.map Prod.fst = entries.map Prod.fst := by
  induction entries generalizing found with
  | nil =>
    cases h
    rfl
  | cons e entries ih =>
    simp only [List.mapM_cons, Option.bind_eq_bind, Option.bind_eq_some_iff,
      Option.map_eq_some_iff] at h
    obtain ⟨first, ⟨b, _, rfl⟩, rest, hrest, h⟩ := h
    cases h
    rw [List.map_cons, List.map_cons, ih hrest]

theorem nodup_of_profilesOf? {v : Toml} {profiles : List (String × Profile)}
    (h : profilesOf? v = some profiles) (hv : v.Distinct) : (profiles.map Prod.fst).Nodup := by
  cases hv with
  | table hkeys _ =>
    rw [keys_of_mapM h]
    exact hkeys
  | _ => cases h

theorem profiles_of_ofToml? {entries : List (String × Toml)} {c : Config}
    (h : ofToml? entries = some c) :
    c.profiles = [] ∨ ∃ v, entries.lookup "profiles" = some v ∧ profilesOf? v = some c.profiles := by
  cases hprofiles : entries.lookup "profiles" with
  | none =>
    left
    cases hsettings : entries.lookup "settings" with
    | none =>
      simp only [ofToml?, hprofiles, hsettings] at h
      cases h
      rfl
    | some v =>
      simp only [ofToml?, hprofiles, hsettings, Option.bind_eq_bind, Option.bind_eq_some_iff] at h
      obtain ⟨active, _, profiles, hnil, h⟩ := h
      cases h
      cases hnil
      rfl
  | some v =>
    right
    refine ⟨v, rfl, ?_⟩
    cases hsettings : entries.lookup "settings" with
    | none =>
      simp only [ofToml?, hprofiles, hsettings, Option.bind_eq_bind, Option.bind_eq_some_iff] at h
      obtain ⟨active, _, profiles, hfound, h⟩ := h
      cases h
      exact hfound
    | some settings =>
      simp only [ofToml?, hprofiles, hsettings, Option.bind_eq_bind, Option.bind_eq_some_iff] at h
      obtain ⟨active, _, profiles, hfound, h⟩ := h
      cases h
      exact hfound

/-- No name occurs twice in a configuration that a text says. -/
theorem distinct_of_ofText? {s : String} {c : Config} (h : ofText? s = some c) :
    c.Distinct := by
  obtain ⟨entries, hparse, hmake⟩ := Option.bind_eq_some_iff.mp h
  rcases profiles_of_ofToml? hmake with hnone | ⟨v, hv, hprofiles⟩
  · rw [Distinct, hnone]
    exact List.nodup_nil
  · refine nodup_of_profilesOf? hprofiles ?_
    cases Toml.parse_distinct hparse with
    | table _ hentries =>
      exact hentries ("profiles", v) (mem_of_lookup_eq_some hv)

end Config
end SchemaSdk.Account
