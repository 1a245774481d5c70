import LiveBoard.CommandLine.Report
import LiveBoard.Proofs.Connection.Outage
import LiveBoard.Proofs.Json.Tree

/-!
# Timings that rest

Settings are checked where a file is read, and nowhere else. The check refuses a heartbeat without a
pause, a first delay of zero and a limit below it, and says nothing about the factor. This is enough
for good: the environment and the command line override no timing, no delay is computed below the
base or above the limit whatever the factor, and a connection machine waits for no other delays.

## Main definitions

* `Settings.IsPatient`: what the check asks for.

## Main results

* `Settings.check_eq_ok_iff`: the check refuses nothing else.
* `Settings.exists_given_of_resolveSettings`: where the settings of a command line come from.
* `Settings.isPatient_of_resolveSettings`: the settings that the program works with.
* `Settings.IsPatient.delay_bounds`: the reconnect timers of any run.
* `Settings.never_spins`: all of it for the text of a file.
-/

namespace LiveBoard.Settings

open Connection CommandLine

variable {s : Settings} {text : String}

/-- There are pauses between heartbeats and before attempts to reconnect, and the limit of the
pauses leaves room for the first one. -/
structure IsPatient (s : Settings) : Prop where
  heartbeat : 1 ≤ s.heartbeatMs
  base : 1 ≤ s.backoff.baseMs
  limit : s.backoff.baseMs ≤ s.backoff.maxMs

/-! ### Reading -/

theorem one_le_iff_ne_zero {n : UInt64} : 1 ≤ n ↔ n ≠ 0 := by
  rw [UInt64.le_iff_toNat_le, ne_eq, ← UInt64.toNat_inj]
  exact Nat.one_le_iff_ne_zero

/-- **What the check asks for**, and no more. -/
theorem check_eq_ok_iff : s.check = .ok () ↔ s.IsPatient := by
  rw [check]
  split
  · next hzero => exact iff_of_false nofun fun h => one_le_iff_ne_zero.mp h.heartbeat hzero
  · next hheartbeat =>
    split
    · next hzero => exact iff_of_false nofun fun h => one_le_iff_ne_zero.mp h.base hzero
    · next hbase =>
      split
      · next hlimit => exact iff_of_false nofun fun h => UInt64.not_lt.mpr h.limit hlimit
      · next hlimit =>
        exact iff_of_true rfl ⟨one_le_iff_ne_zero.mpr hheartbeat, one_le_iff_ne_zero.mpr hbase,
          UInt64.not_lt.mp hlimit⟩

theorem isPatient_standard : standard.IsPatient := check_eq_ok_iff.mp rfl

theorem isPatient_of_ofToml (h : ofToml text = .ok s) : s.IsPatient := by
  rw [ofToml] at h
  split at h
  · cases h
  · split at h
    · next hcheck =>
      cases h
      exact check_eq_ok_iff.mp hcheck
    · cases h

/-! ### Layers -/

/-- The environment overrides no timing. -/
theorem IsPatient.override (h : s.IsPatient) (env : Environment) : (s.override env).IsPatient :=
  ⟨h.heartbeat, h.base, h.limit⟩

/-- The options of a command line override no timing. -/
theorem IsPatient.apply (h : s.IsPatient) (o : Overrides) : (o.apply s).IsPatient :=
  ⟨h.heartbeat, h.base, h.limit⟩

theorem exists_of_ofFile {files : Files} {path : String} (h : ofFile files path = .ok s) :
    ∃ text, ofToml text = .ok s := by
  rw [ofFile] at h
  split at h
  · exact ⟨_, h⟩
  · cases h

/-- **Where the settings of a command line come from:** they are the standard ones or those of a
file, under the environment and the options. -/
theorem exists_given_of_resolveSettings {o : Overrides} {surroundings : Surroundings}
    (h : resolveSettings o surroundings = .ok s) :
    ∃ given, (given = standard ∨ ∃ text, ofToml text = .ok given) ∧
      s = o.apply (given.override surroundings.environment) := by
  rw [resolveSettings] at h
  split at h
  · next loaded hload =>
    cases h
    rw [load] at hload
    split at hload
    · next path _ =>
      cases hfile : ofFile surroundings.files path with
      | error e =>
        rw [hfile] at hload
        cases hload
      | ok given =>
        rw [hfile] at hload
        cases hload
        exact ⟨given, .inr (exists_of_ofFile hfile), rfl⟩
    · cases hload
      exact ⟨standard, .inl rfl, rfl⟩
  · cases h

/-- **The settings that the program works with**, whatever it is started with. -/
theorem isPatient_of_resolveSettings {o : Overrides} {surroundings : Surroundings}
    (h : resolveSettings o surroundings = .ok s) : s.IsPatient := by
  obtain ⟨given, hgiven, rfl⟩ := exists_given_of_resolveSettings h
  have hpatient : given.IsPatient := by
    rcases hgiven with rfl | ⟨text, htext⟩
    · exact isPatient_standard
    · exact isPatient_of_ofToml htext
  exact (hpatient.override _).apply o

/-! ### Waiting -/

/-- The pause between heartbeats need not be corrected. -/
theorem IsPatient.heartbeatInterval_eq (h : s.IsPatient) : s.heartbeatInterval = s.heartbeatMs := by
  show (if s.heartbeatMs ≤ 1 then 1 else s.heartbeatMs) = s.heartbeatMs
  split
  · next hone => exact UInt64.le_antisymm h.heartbeat hone
  · rfl

/-- **The reconnect timers of any run** keep to the bounds of the settings. -/
theorem IsPatient.delay_bounds (h : s.IsPatient) (active : Bool) (events : List Event) :
    ∀ timer ∈ schedules ((Machine.start s.backoff active).effects events),
      s.backoff.baseMs.toNat ≤ timer.2 ∧ timer.2 ≤ s.backoff.maxMs.toNat ∧ 1 ≤ timer.2 := by
  intro timer htimer
  obtain ⟨attempt, hdelay⟩ :=
    (Machine.isSteady_start s.backoff active).exists_delay events timer htimer
  have hbase : 1 ≤ s.backoff.baseMs.toNat := UInt64.le_iff_toNat_le.mp h.base
  have hlimit : s.backoff.baseMs.toNat ≤ s.backoff.maxMs.toNat :=
    UInt64.le_iff_toNat_le.mp h.limit
  have hleast := s.backoff.min_le_delay attempt
  rw [Nat.min_eq_left hlimit] at hleast
  rw [hdelay]
  exact ⟨hleast, s.backoff.delay_le_maxMs attempt, Nat.le_trans hbase hleast⟩

/-- **Settings from a file never spin.** Whatever the text of a file is that settings can be read
from, and whatever the environment and the command line say afterwards: the timings are those of the
file, heartbeats come at least a millisecond apart, and every reconnect timer that a connection
machine starts in any run waits for at least the base, at most the limit, and at least a
millisecond. -/
theorem never_spins (h : ofToml text = .ok s) (env : Environment) (o : Overrides) :
    let s' := o.apply (s.override env)
    s'.backoff = s.backoff ∧ s'.heartbeatInterval = s.heartbeatMs ∧ 1 ≤ s'.heartbeatInterval ∧
      ∀ active events, ∀ timer ∈ schedules ((Machine.start s'.backoff active).effects events),
        s.backoff.baseMs.toNat ≤ timer.2 ∧ timer.2 ≤ s.backoff.maxMs.toNat ∧ 1 ≤ timer.2 := by
  intro s'
  have hpatient : s'.IsPatient := ((isPatient_of_ofToml h).override env).apply o
  have hinterval : s'.heartbeatInterval = s.heartbeatMs := hpatient.heartbeatInterval_eq
  exact ⟨rfl, hinterval, hinterval ▸ hpatient.heartbeat, hpatient.delay_bounds⟩

/-- A factor of zero, a limit that is the base, and a command line that overrides what it can. -/
theorem never_spins_of_zero :
    let text := "heartbeat_interval_ms = 1\n[backoff]\nbase_ms = 5\nmultiplier = 0\nmax_ms = 5\n"
    let s : Settings := { standard with heartbeatMs := 1, backoff := ⟨5, 0, 5⟩ }
    let o : Overrides := ⟨false, none, some "http://r", some "t", some "", none⟩
    let s' := o.apply (s.override fun name => some name)
    let m := Machine.start s'.backoff true
    let events : List Event := [.connect, .closed 1 1006, .reconnectDue 1, .closed 2 1006]
    ofToml text = .ok s ∧ s'.apiUrl = "http://r" ∧ s'.heartbeatInterval = 1 ∧
      schedules (m.effects events) = [(1, 5), (2, 5)] ∧
      ∀ timer ∈ schedules (m.effects events), 5 ≤ timer.2 ∧ timer.2 ≤ 5 ∧ 1 ≤ timer.2 := by
  intro text s o s' m events
  have htext : ofToml text = .ok s := by decide +kernel
  obtain ⟨-, hinterval, -, hbounds⟩ := never_spins htext (fun name => some name) o
  exact ⟨htext, rfl, hinterval, by decide +kernel, hbounds true events⟩

end LiveBoard.Settings
