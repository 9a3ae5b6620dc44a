import SchemaSdk.Account.Session
import SchemaSdk.Proofs.Account.ConfigText
import SchemaSdk.Proofs.Files.Kept

/-!
# The configuration on disk

How sessions run one after the other, and what they load from a machine: the configuration of its
file, or the empty one where no file is.
-/
namespace SchemaSdk.Account

/-! ## Profiles of a configuration -/

namespace Config

variable {c : Config}

@[simp] theorem profile?_setProfile (c : Config) (name : String) (p : Profile) (other : String) :
    (c.setProfile name p).profile? other = if other = name then some p else c.profile? other := by
  rw [profile?, profile?, ← lookup_set, setProfile]

@[simp] theorem profile?_removeProfile (c : Config) (name other : String) :
    (c.removeProfile name).profile? other = if other = name then none else c.profile? other :=
  lookup_filter_ne c.profiles name other

@[simp] theorem profile?_activate (c : Config) (name other : String) :
    (c.activate name).profile? other = c.profile? other := rfl

theorem distinct_empty : empty.Distinct := List.nodup_nil

theorem Distinct.setProfile (h : c.Distinct) (name : String) (p : Profile) :
    (c.setProfile name p).Distinct := by
  rw [Distinct, Config.setProfile]
  dsimp only
  split
  · rw [keys_map_set]
    exact h
  · next habsent =>
    rw [List.map_append, List.nodup_append]
    refine ⟨h, by simp, ?_⟩
    intro a ha b hb hab
    rw [List.map_singleton, List.mem_singleton] at hb
    rw [hab, hb] at ha
    exact habsent (any_key_eq_true_iff.mpr ha)

theorem Distinct.removeProfile (h : c.Distinct) (name : String) :
    (c.removeProfile name).Distinct :=
  List.Nodup.sublist (List.filter_sublist.map _) h

theorem Distinct.activate (h : c.Distinct) (name : String) : (c.activate name).Distinct := h

end Config

/-! ## Running sessions -/

section Run

variable {α β : Type}

theorem run_bind (x : Session α) (f : α → Session β) (m : Machine) :
    (x >>= f).run.run m = match x.run.run m with
      | (.ok a, m') => (f a).run.run m'
      | (.error e, m') => (.error e, m') := by
  have hbind : (x >>= f).run.run m = (ExceptT.bindCont f (x.run.run m).1).run (x.run.run m).2 := rfl
  rw [hbind]
  rcases x.run.run m with ⟨_ | a, m'⟩ <;> rfl

/-- A session that goes on after another one ends where one of them ends. -/
theorem run_bind_cases {x : Session α} {f : α → Session β} {m m' : Machine}
    {answer : Except AccountError β} (h : (x >>= f).run.run m = (answer, m')) :
    (∃ e, x.run.run m = (.error e, m') ∧ answer = .error e) ∨
      ∃ a next, x.run.run m = (.ok a, next) ∧ (f a).run.run next = (answer, m') := by
  rw [run_bind] at h
  rcases hx : x.run.run m with ⟨e | a, next⟩
  · rw [hx] at h
    cases h
    exact .inl ⟨e, rfl, rfl⟩
  · rw [hx] at h
    exact .inr ⟨a, next, rfl, h⟩

@[simp] theorem run_get_bind (f : Machine → Session α) (m : Machine) :
    (get >>= f).run.run m = (f m).run.run m := rfl

end Run

theorem run_onFiles (error : OsError → AccountError)
    (change : FileSystem → Location → FileSystem × Except OsError Unit) (m : Machine) :
    (onFiles error change).run.run m = ((change m.files m.cwd).2.mapError error,
      { m with files := (change m.files m.cwd).1 }) := by
  rw [onFiles, run_get_bind]
  rcases change m.files m.cwd with ⟨files, _ | _⟩ <;> rfl

/-! ## Loading -/

/-- What is loaded from a machine. -/
def loaded (m : Machine) : Except AccountError Config :=
  if !m.files.pathExists m.cwd m.configPath then .ok Config.empty
  else match m.files.read m.cwd m.configPath with
    | .error e => .error (.unreadable m.configPath e)
    | .ok text =>
      match Config.ofText? text with
      | some c => .ok c
      | none => .error (.malformed m.configPath)

/-- Loading changes nothing. -/
theorem run_loadConfig (m : Machine) : loadConfig.run.run m = (loaded m, m) := by
  rw [loadConfig, run_get_bind, loadConfigFrom, run_get_bind, loaded]
  by_cases hexists : m.files.pathExists m.cwd m.configPath = true
  · rw [if_neg (by simp [hexists]), if_neg (by simp [hexists])]
    cases m.files.read m.cwd m.configPath with
    | error e => rfl
    | ok text =>
      dsimp only
      cases Config.ofText? text <;> rfl
  · rw [if_pos (by simp [hexists]), if_pos (by simp [hexists])]
    rfl

/-- The configuration that a machine has. There is none if its file cannot be read. -/
def Machine.config? (m : Machine) : Option Config := (loaded m).toOption

/-- The configuration that a file of a machine says. -/
def Machine.Keeps (m : Machine) (c : Config) : Prop :=
  ∃ text, m.files.read m.cwd m.configPath = .ok text ∧ Config.ofText? text = some c

variable {m m' : Machine} {c : Config}

theorem config?_eq_some_iff : m.config? = some c ↔ loaded m = .ok c := by
  rw [Machine.config?]
  cases loaded m <;> simp [Except.toOption]

theorem run_loadConfig_of_config? (h : m.config? = some c) :
    loadConfig.run.run m = (.ok c, m) := by
  rw [run_loadConfig, config?_eq_some_iff.mp h]

theorem Machine.Keeps.config? (h : m.Keeps c) : m.config? = some c := by
  obtain ⟨text, hread, htext⟩ := h
  rw [config?_eq_some_iff, loaded, FileSystem.pathExists_of_read hread, hread]
  simp [htext]

/-- A configuration is that of a file, or the empty one where no file is. -/
theorem keeps_of_config? (h : m.config? = some c) :
    m.Keeps c ∨ m.files.pathExists m.cwd m.configPath = false ∧ c = Config.empty := by
  rw [config?_eq_some_iff, loaded] at h
  by_cases hexists : m.files.pathExists m.cwd m.configPath = true
  · rw [if_neg (by simp [hexists])] at h
    split at h
    · cases h
    · next text hread =>
      split at h
      · next found htext =>
        cases h
        exact .inl ⟨text, hread, htext⟩
      · cases h
  · rw [if_pos (by simp [hexists])] at h
    cases h
    exact .inr ⟨by simpa using hexists, rfl⟩

theorem distinct_of_config? (h : m.config? = some c) : c.Distinct := by
  rcases keeps_of_config? h with ⟨text, _, htext⟩ | ⟨_, rfl⟩
  · exact Config.distinct_of_ofText? htext
  · exact Config.distinct_empty

end SchemaSdk.Account
