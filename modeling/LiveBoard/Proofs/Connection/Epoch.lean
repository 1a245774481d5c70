import LiveBoard.Proofs.Connection.Ledger

/-!
# Epochs

Every attempt to open a socket begins a new epoch, and so does a disconnection. What is heard of a
socket or of a reconnect timer names the epoch that it belongs to, and may be late: by then the
machine can be in another epoch.

What is late does no harm. A machine that is told of another epoch than its own stays as it is, so
a run with such reports put in is the run without them. And what a machine acts on comes in order.
Within an epoch the socket opens, closes, and the timer fires, each at most once, and then the epoch
is over. As long as the epochs do not run out, every report that a machine acts on is therefore
about a later moment than those before it, where a moment is an epoch and the stage in it.

## Main definitions

* `Machine.IsStale`: an event about another epoch.
* `Machine.Entry`, `Machine.record`: a run in which some events are marked as put in.
* `Machine.acted`: the events of a run that the machine acts on.
* `Machine.turns`: the number of epochs that a run begins.
* `Event.moment?`, `Machine.moment`: the moment that an event is about, and that of a machine.

## Main results

* `Machine.record_kept`: a run with stale events put in.
* `Machine.Outcome.moment_le_and_lt`: the moment of one event that a machine acts on.
* `Machine.pairwise_moments_acted`: the moments of a whole run.
* `Machine.late_events_harmless`: all of it for every run from the start.
-/

namespace LiveBoard.Connection

/-- The epoch that an event is about, if it is heard of a socket or a timer. -/
def Event.epoch? : Event → Option UInt64
  | .opened epoch => some epoch
  | .closed epoch _ => some epoch
  | .reconnectDue epoch => some epoch
  | .connect | .disconnect | .shutdown => none

/-- The event says that the socket of an epoch has closed. -/
def Event.isClosed (epoch : UInt64) : Event → Bool
  | .closed closing _ => closing == epoch
  | _ => false

namespace Machine

/-- The event is about an epoch that the machine is not in. -/
def IsStale (m : Machine) (e : Event) : Prop := ∃ epoch ∈ e.epoch?, epoch ≠ m.epoch

instance (m : Machine) (e : Event) : Decidable (m.IsStale e) :=
  inferInstanceAs (Decidable (∃ epoch ∈ e.epoch?, epoch ≠ m.epoch))

variable {m m' : Machine} {e : Event} {effects : List Effect}

theorem handle_of_isStale (h : m.IsStale e) : m.handle e = (m, []) := by
  obtain ⟨epoch, hepoch, hne⟩ := h
  refine handle_eq_self fun hawaits => ?_
  obtain ⟨-, hawaits⟩ := hawaits
  cases e with
  | opened k => exact hne (Option.mem_some.mp hepoch ▸ hawaits.1)
  | closed k code => exact hne (Option.mem_some.mp hepoch ▸ hawaits.1)
  | reconnectDue k => exact hne (Option.mem_some.mp hepoch ▸ hawaits.1)
  | connect | disconnect | shutdown => cases hepoch

/-! ### Events put into a run -/

/-- An event of a run, and whether it was put in. -/
structure Entry where
  event : Event
  extra : Bool
  deriving Repr, DecidableEq

/-- The events of a run, with what was put in. -/
def Entry.events (entries : List Entry) : List Event := entries.map (·.event)

/-- The run without what was put in. -/
def Entry.kept (entries : List Entry) : List Entry := entries.filter fun entry => !entry.extra

/-- What follows from every event of a run. -/
def record (m : Machine) : List Entry → List (Entry × List Effect)
  | [] => []
  | entry :: entries =>
    (entry, (m.handle entry.event).2) :: record (m.handle entry.event).1 entries

/-- Every event that was put in is stale where it stands. -/
def ExtrasAreStale (m : Machine) : List Entry → Prop
  | [] => True
  | entry :: entries =>
    (entry.extra = true → m.IsStale entry.event) ∧
      ExtrasAreStale (m.handle entry.event).1 entries

instance decidableExtrasAreStale :
    ∀ (m : Machine) (entries : List Entry), Decidable (m.ExtrasAreStale entries)
  | _, [] => .isTrue trivial
  | m, entry :: entries =>
    have := decidableExtrasAreStale (m.handle entry.event).1 entries
    inferInstanceAs (Decidable (_ ∧ _))

/-- **A run with stale events put in** ends as it would without them, what follows from the other
events is the same, and nothing follows from those that were put in. -/
theorem record_kept {entries : List Entry} (h : m.ExtrasAreStale entries) :
    m.run (Entry.events (Entry.kept entries)) = m.run (Entry.events entries) ∧
      m.record (Entry.kept entries) = (m.record entries).filter (fun line => !line.1.extra) ∧
      ∀ line ∈ m.record entries, line.1.extra = true → line.2 = [] := by
  induction entries generalizing m with
  | nil => exact ⟨rfl, rfl, by simp [record]⟩
  | cons entry entries ih =>
    obtain ⟨hstale, hrest⟩ := h
    obtain ⟨hrun, hrecord, hnone⟩ := ih hrest
    cases hextra : entry.extra with
    | true =>
      have hself := handle_of_isStale (hstale hextra)
      rw [hself] at hrun hrecord hnone
      have hkept : Entry.kept (entry :: entries) = Entry.kept entries := by
        simp [Entry.kept, hextra]
      refine ⟨?_, ?_, ?_⟩
      · rw [hkept, hrun]
        simp only [Entry.events, List.map_cons, run_cons, hself]
      · simp [hkept, hrecord, record, hself, hextra]
      · simpa [record, hself] using hnone
    | false =>
      have hkept : Entry.kept (entry :: entries) = entry :: Entry.kept entries := by
        simp [Entry.kept, hextra]
      refine ⟨?_, ?_, ?_⟩
      · rw [hkept]
        exact hrun
      · simp [hkept, hrecord, record, hextra]
      · simpa [record, hextra] using hnone

/-! ### Epochs of a run -/

/-- The number of epochs that an event begins. -/
def turn (m : Machine) (e : Event) : Nat := if (m.handle e).1.epoch = m.epoch then 0 else 1

/-- The number of epochs that a run begins. -/
def turns (m : Machine) : List Event → Nat
  | [] => 0
  | e :: es => m.turn e + turns (m.handle e).1 es

theorem turns_append (m : Machine) (es fs : List Event) :
    m.turns (es ++ fs) = m.turns es + (m.run es).turns fs := by
  induction es generalizing m with
  | nil => exact (Nat.zero_add _).symm
  | cons e es ih =>
    rw [List.cons_append, turns, turns, ih, run_cons, Nat.add_assoc]

/-- The epochs of the sockets that are to be opened, in order. -/
def openedEpochs (effects : List Effect) : List UInt64 :=
  effects.filterMap fun effect =>
    match effect with
    | .openSocket epoch => some epoch
    | _ => none

theorem openedEpochs_append (effects later : List Effect) :
    openedEpochs (effects ++ later) = openedEpochs effects ++ openedEpochs later :=
  List.filterMap_append

theorem mem_openedEpochs {epoch : UInt64} :
    epoch ∈ openedEpochs effects ↔ .openSocket epoch ∈ effects := by
  rw [openedEpochs, List.mem_filterMap]
  constructor
  · rintro ⟨effect, heffect, hepoch⟩
    cases effect with
    | openSocket k => exact Option.some.inj hepoch ▸ heffect
    | _ => cases hepoch
  · exact fun h => ⟨_, h, rfl⟩

@[simp] theorem openedEpochs_stops (m : Machine) : openedEpochs m.stops = [] := by
  rw [stops]
  split <;> split <;> rfl

@[simp] theorem openedEpochs_farewell (m : Machine) : openedEpochs m.farewell = [] := by
  rw [farewell, openedEpochs_append, openedEpochs_append, openedEpochs_stops]
  split <;> split <;> rfl

/-- An event leaves the epoch as it is, or begins the next one. A socket is opened for the epoch
that begins. -/
theorem Outcome.epoch_cases (h : m.Outcome e m' effects) :
    m'.epoch = m.epoch ∧ openedEpochs effects = [] ∨
      m'.epoch = m.epoch + 1 ∧ (openedEpochs effects = [] ∨ openedEpochs effects = [m'.epoch]) := by
  cases h with
  | connect alive active state => exact .inr ⟨rfl, .inr rfl⟩
  | opened alive state => exact .inl ⟨rfl, rfl⟩
  | rejected code alive socket terminal =>
    refine .inl ⟨rfl, ?_⟩
    rw [openedEpochs_append, openedEpochs_stops]
    rfl
  | lost code alive socket transient =>
    refine .inl ⟨rfl, ?_⟩
    rw [openedEpochs_append, openedEpochs_stops]
    rfl
  | retry alive state => exact .inr ⟨rfl, .inr rfl⟩
  | disconnect alive => exact .inr ⟨rfl, .inl (openedEpochs_farewell m)⟩
  | shutdown alive => exact .inr ⟨rfl, .inl (openedEpochs_farewell m)⟩
  | ignored hn => exact .inl ⟨rfl, rfl⟩

/-- The epochs have not run out between two machines. -/
def Climbs (m m' : Machine) : Prop :=
  m'.epoch = m.epoch ∨ m'.epoch.toNat = m.epoch.toNat + 1

theorem Climbs.epoch_le (h : m.Climbs m') : m.epoch ≤ m'.epoch := by
  rw [UInt64.le_iff_toNat_le]
  rcases h with heq | hnat
  · exact Nat.le_of_eq (congrArg UInt64.toNat heq.symm)
  · omega

/-- The epoch in numbers counts the epochs that were begun, as long as they have not run out. -/
theorem IsSteady.toNat_epoch_handle (hm : m.IsSteady)
    (h : m.epoch.toNat + m.turn e < UInt64.size) :
    (m.handle e).1.epoch.toNat = m.epoch.toNat + m.turn e := by
  have hsize : UInt64.size = 18446744073709551616 := rfl
  rw [turn] at h ⊢
  split at h
  · next heq => rw [if_pos heq, heq, Nat.add_zero]
  · next hne =>
    rcases (outcome_handle hm e).epoch_cases with ⟨heq, -⟩ | ⟨heq, -⟩
    · exact absurd heq hne
    · rw [if_neg hne, heq, UInt64.toNat_add]
      have hone : (1 : UInt64).toNat = 1 := rfl
      omega

theorem IsSteady.climbs_handle (hm : m.IsSteady)
    (h : m.epoch.toNat + m.turn e < UInt64.size) : m.Climbs (m.handle e).1 := by
  have hnat := hm.toNat_epoch_handle h
  rw [turn] at hnat
  split at hnat
  · next heq => exact .inl heq
  · exact .inr hnat

section Run

variable {es : List Event}

theorem IsSteady.toNat_epoch_run (hm : m.IsSteady)
    (h : m.epoch.toNat + m.turns es < UInt64.size) :
    (m.run es).epoch.toNat = m.epoch.toNat + m.turns es := by
  induction es generalizing m with
  | nil => rfl
  | cons e es ih =>
    rw [turns] at h ⊢
    have hnat : (m.handle e).1.epoch.toNat = m.epoch.toNat + m.turn e :=
      hm.toNat_epoch_handle (by omega)
    rw [run_cons, ih (hm.handle e) (by omega), hnat, Nat.add_assoc]

theorem IsSteady.epoch_le_run (hm : m.IsSteady)
    (h : m.epoch.toNat + m.turns es < UInt64.size) : m.epoch ≤ (m.run es).epoch := by
  rw [UInt64.le_iff_toNat_le, hm.toNat_epoch_run h]
  exact Nat.le_add_right _ _

/-- The sockets that a run opens are of later and later epochs, from the one after the epoch in
which it begins up to the one in which it ends. -/
theorem IsSteady.openedEpochs_effects (hm : m.IsSteady)
    (h : m.epoch.toNat + m.turns es < UInt64.size) :
    (openedEpochs (m.effects es)).Pairwise (· < ·) ∧
      ∀ epoch ∈ openedEpochs (m.effects es), m.epoch < epoch ∧ epoch ≤ (m.run es).epoch := by
  induction es generalizing m with
  | nil => exact ⟨List.Pairwise.nil, by simp [effects, openedEpochs]⟩
  | cons e es ih =>
    rw [turns] at h
    have hturn : m.epoch.toNat + m.turn e < UInt64.size := by omega
    have hnat := hm.toNat_epoch_handle hturn
    have hroom : (m.handle e).1.epoch.toNat + (m.handle e).1.turns es < UInt64.size := by omega
    obtain ⟨hpairwise, hbetween⟩ := ih (hm.handle e) hroom
    have hclimb := (hm.climbs_handle hturn).epoch_le
    have hlater := (hm.handle e).epoch_le_run hroom
    have hrest : ∀ k ∈ openedEpochs ((m.handle e).1.effects es),
        m.epoch < k ∧ k ≤ ((m.handle e).1.run es).epoch :=
      fun k hk => ⟨UInt64.lt_of_le_of_lt hclimb (hbetween k hk).1, (hbetween k hk).2⟩
    rw [effects, openedEpochs_append, run_cons]
    rcases (outcome_handle hm e).epoch_cases with ⟨-, hnone⟩ | ⟨hnext, hnone | hone⟩
    · rw [hnone, List.nil_append]
      exact ⟨hpairwise, hrest⟩
    · rw [hnone, List.nil_append]
      exact ⟨hpairwise, hrest⟩
    · have hnew : m.epoch < (m.handle e).1.epoch := by
        refine UInt64.lt_of_le_of_ne hclimb fun heq => ?_
        rw [← heq] at hnext
        simp at hnext
      rw [hone, List.singleton_append]
      refine ⟨List.pairwise_cons.mpr ⟨fun k hk => (hbetween k hk).1, hpairwise⟩, ?_⟩
      intro k hk
      rcases List.mem_cons.mp hk with rfl | hk
      · exact ⟨hnew, hlater⟩
      · exact hrest k hk

end Run

end Machine

/-! ### Moments -/

/-- The moment that an event is about, if it is heard of a socket or a timer: its epoch, and
whether the socket of it opens or closes, or the timer of it fires. -/
def Event.moment? : Event → Option Nat
  | .opened epoch => some (3 * epoch.toNat)
  | .closed epoch _ => some (3 * epoch.toNat + 1)
  | .reconnectDue epoch => some (3 * epoch.toNat + 2)
  | .connect | .disconnect | .shutdown => none

theorem Event.moment?_of_isClosed {e : Event} {epoch : UInt64} (h : e.isClosed epoch = true) :
    e.moment? = some (3 * epoch.toNat + 1) := by
  cases e with
  | closed k code => rw [moment?, show k = epoch from eq_of_beq h]
  | _ => cases h

namespace Machine

/-- The earliest moment that a machine still waits for: in its epoch the socket is yet to open, it
is yet to close, or only the timer is yet to fire. -/
def moment (m : Machine) : Nat :=
  3 * m.epoch.toNat +
    match m.state with
    | .connecting => 0
    | .connected => 1
    | .reconnecting => 2
    | .disconnected => 2

theorem moment_le_of_hasSocket {m : Machine} (h : m.hasSocket = true) :
    m.moment ≤ 3 * m.epoch.toNat + 1 := by
  rcases hasSocket_iff.mp h with hs | hs <;> simp [moment, hs]

theorem moment_le (m : Machine) : m.moment ≤ 3 * m.epoch.toNat + 2 := by
  rw [moment]
  split <;> omega

theorem le_moment (m : Machine) : 3 * m.epoch.toNat ≤ m.moment :=
  Nat.le_add_right _ _

variable {m m' : Machine} {e : Event} {effects : List Effect}

/-- A machine never waits for an earlier moment again. -/
theorem Outcome.moment_le (h : m.Outcome e m' effects) (hclimb : m.Climbs m') :
    m.moment ≤ m'.moment := by
  -- The next epoch is later than all of this one.
  have hnext : m'.epoch = m.epoch + 1 → m.moment ≤ m'.moment := fun hepoch => by
    rcases hclimb with heq | hnat
    · rw [hepoch] at heq
      simp at heq
    · have hupper := m.moment_le
      have hlower := m'.le_moment
      omega
  cases h with
  | connect alive active state => exact hnext rfl
  | opened alive state =>
    rw [moment, moment, state]
    exact Nat.le_succ _
  | rejected code alive socket terminal =>
    have hupper := moment_le_of_hasSocket socket
    exact Nat.le_trans hupper (Nat.le_succ _)
  | lost code alive socket transient =>
    have hupper := moment_le_of_hasSocket socket
    exact Nat.le_trans hupper (Nat.le_succ _)
  | retry alive state => exact hnext rfl
  | disconnect alive => exact hnext rfl
  | shutdown alive => exact hnext rfl
  | ignored hn => exact Nat.le_refl _

/-- **One event that a machine acts on** is about a moment that the machine waits for, and after
it the machine only waits for later ones. -/
theorem Outcome.moment_le_and_lt (h : m.Outcome e m' effects) (he : m.Awaits e)
    (hclimb : m.Climbs m') {moment : Nat} (hmoment : moment ∈ e.moment?) :
    m.moment ≤ moment ∧ moment < m'.moment := by
  cases h with
  | opened alive state =>
    obtain rfl := Option.mem_some.mp hmoment
    rw [Machine.moment, Machine.moment, state]
    exact ⟨Nat.le_refl _, Nat.lt_succ_self _⟩
  | rejected code alive socket terminal =>
    obtain rfl := Option.mem_some.mp hmoment
    exact ⟨moment_le_of_hasSocket socket, Nat.lt_succ_self _⟩
  | lost code alive socket transient =>
    obtain rfl := Option.mem_some.mp hmoment
    exact ⟨moment_le_of_hasSocket socket, Nat.lt_succ_self _⟩
  | retry alive state =>
    obtain rfl := Option.mem_some.mp hmoment
    refine ⟨m.moment_le, ?_⟩
    rcases hclimb with heq | hnat
    · simp at heq
    · rw [Machine.moment]
      omega
  | connect alive active state => cases hmoment
  | disconnect alive => cases hmoment
  | shutdown alive => cases hmoment
  | ignored hn => exact absurd he hn

/-! ### What a machine acts on -/

/-- The events of a run that the machine acts on. -/
def acted (m : Machine) : List Event → List Event
  | [] => []
  | e :: es => if m.actsOn e then e :: acted (m.handle e).1 es else acted m es

theorem IsSteady.acted_cons_of_awaits (hm : m.IsSteady) (he : m.Awaits e) (es : List Event) :
    m.acted (e :: es) = e :: (m.handle e).1.acted es :=
  if_pos (hm.actsOn_iff.mpr he)

theorem IsSteady.acted_cons_of_not_awaits (hm : m.IsSteady) (he : ¬m.Awaits e)
    (es : List Event) : m.acted (e :: es) = m.acted es :=
  if_neg (mt hm.actsOn_iff.mp he)

/-- **The moments of a whole run**: those of the events that the machine acts on come in order, and
none is before the moment at which the run begins. -/
theorem IsSteady.pairwise_moments_acted (hm : m.IsSteady) {es : List Event}
    (h : m.epoch.toNat + m.turns es < UInt64.size) :
    ((m.acted es).filterMap Event.moment?).Pairwise (· < ·) ∧
      ∀ moment ∈ (m.acted es).filterMap Event.moment?, m.moment ≤ moment := by
  induction es generalizing m with
  | nil => exact ⟨List.Pairwise.nil, by simp [acted]⟩
  | cons e es ih =>
    rw [turns] at h
    have hturn : m.epoch.toNat + m.turn e < UInt64.size := by omega
    have hroom : (m.handle e).1.epoch.toNat + (m.handle e).1.turns es < UInt64.size := by
      rw [hm.toNat_epoch_handle hturn]
      omega
    obtain ⟨hpairwise, hlower⟩ := ih (hm.handle e) hroom
    have hout := outcome_handle hm e
    have hclimb := hm.climbs_handle hturn
    have hlater : ∀ moment ∈ ((m.handle e).1.acted es).filterMap Event.moment?,
        m.moment ≤ moment :=
      fun moment hmoment => Nat.le_trans (hout.moment_le hclimb) (hlower moment hmoment)
    by_cases he : m.Awaits e
    · rw [hm.acted_cons_of_awaits he]
      cases hmoment : e.moment? with
      | none =>
        rw [List.filterMap_cons_none hmoment]
        exact ⟨hpairwise, hlater⟩
      | some moment =>
        obtain ⟨hle, hlt⟩ := hout.moment_le_and_lt he hclimb hmoment
        rw [List.filterMap_cons_some hmoment]
        refine ⟨List.pairwise_cons.mpr ⟨fun k hk => ?_, hpairwise⟩, ?_⟩
        · exact Nat.lt_of_lt_of_le hlt (hlower k hk)
        · exact List.forall_mem_cons.mpr ⟨hle, hlater⟩
    · rw [hm.acted_cons_of_not_awaits he]
      rw [handle_eq_self he] at hpairwise hlower
      exact ⟨hpairwise, hlower⟩

/-- Of events whose moments come in order, at most one is about a given moment. -/
theorem countP_le_one {p : Event → Bool} (moment : Nat)
    (hp : ∀ e, p e = true → e.moment? = some moment) {es : List Event}
    (h : (es.filterMap Event.moment?).Pairwise (· < ·)) : es.countP p ≤ 1 := by
  induction es with
  | nil => simp
  | cons e es ih =>
    have htail : (es.filterMap Event.moment?).Pairwise (· < ·) :=
      h.sublist ((List.sublist_cons_self e es).filterMap _)
    by_cases he : p e = true
    · rw [List.filterMap_cons_some (hp e he), List.pairwise_cons] at h
      have hnone : es.countP p = 0 := by
        rw [List.countP_eq_zero]
        intro f hf hpf
        exact Nat.lt_irrefl moment (h.1 moment (List.mem_filterMap.mpr ⟨f, hf, hp f hpf⟩))
      exact Nat.le_of_eq (by rw [List.countP_cons_of_pos he, hnone])
    · rw [List.countP_cons_of_neg he]
      exact ih htail

/-- Only the close of a socket makes a machine wait for its timer. -/
theorem Outcome.exists_eq_closed (h : m.Outcome e m' effects) (he : m.Awaits e)
    (hstate : m'.state = .reconnecting) : ∃ code, e = .closed m'.epoch code := by
  cases h with
  | lost code alive socket transient => exact ⟨code, rfl⟩
  | ignored hn => exact absurd he hn
  | connect | opened | rejected | retry | disconnect | shutdown => cases hstate

/-- A reconnect timer that a machine acts on was started in the run, by the close of a socket of its
epoch, unless the machine was waiting for it when the run began. -/
theorem IsSteady.closed_before_reconnectDue (hm : m.IsSteady) {es before after : List Event}
    {epoch : UInt64} (h : m.acted es = before ++ .reconnectDue epoch :: after) :
    (∃ code, .closed epoch code ∈ before) ∨ m.state = .reconnecting ∧ m.epoch = epoch := by
  induction es generalizing m before with
  | nil => cases before <;> cases h
  | cons e es ih =>
    by_cases he : m.Awaits e
    · rw [hm.acted_cons_of_awaits he] at h
      cases before with
      | nil =>
        obtain ⟨rfl, -⟩ := List.cons.inj h
        exact .inr ⟨he.2.2, he.2.1.symm⟩
      | cons b before =>
        rw [List.cons_append] at h
        obtain ⟨rfl, hrest⟩ := List.cons.inj h
        rcases ih (hm.handle e) hrest with ⟨code, hcode⟩ | ⟨hstate, rfl⟩
        · exact .inl ⟨code, List.mem_cons_of_mem _ hcode⟩
        · obtain ⟨code, hclosed⟩ := (outcome_handle hm e).exists_eq_closed he hstate
          exact .inl ⟨code, hclosed ▸ List.mem_cons_self⟩
    · rw [hm.acted_cons_of_not_awaits he] at h
      exact ih hm h

/-- Once a socket of a later epoch was opened, or once somebody has disconnected, nothing follows
from an event that is about an epoch before. -/
theorem IsSteady.handle_of_superseded (hm : m.IsSteady) {before : List Event}
    (h : m.epoch.toNat + m.turns before < UInt64.size) {old : UInt64} (hold : old ∈ e.epoch?)
    (hlate : (∃ epoch, .openSocket epoch ∈ m.effects before ∧ old < epoch) ∨
      ∃ past rest, before = past ++ .disconnect :: rest ∧ old ≤ (m.run past).epoch) :
    (m.run before).handle e = (m.run before, []) := by
  have hstale : old < (m.run before).epoch → (m.run before).handle e = (m.run before, []) :=
    fun hlt => handle_of_isStale ⟨old, hold, UInt64.ne_of_lt hlt⟩
  rcases hlate with ⟨epoch, hopen, hlt⟩ | ⟨past, rest, rfl, hle⟩
  · have hlast := ((hm.openedEpochs_effects h).2 epoch (mem_openedEpochs.mpr hopen)).2
    exact hstale (UInt64.lt_of_lt_of_le hlt hlast)
  · have hpast : (m.run past).IsSteady := hm.run past
    cases halive : (m.run past).alive with
    | false =>
      rw [run_append, run_of_not_alive halive]
      exact handle_of_not_alive halive e
    | true =>
      refine hstale (UInt64.lt_of_le_of_lt hle ?_)
      rw [turns_append, turns] at h
      have hnat : (m.run past).epoch.toNat = m.epoch.toNat + m.turns past :=
        hm.toNat_epoch_run (by omega)
      have hturn : (m.run past).epoch.toNat + (m.run past).turn .disconnect < UInt64.size := by
        omega
      have hnext : (m.run past).epoch < ((m.run past).handle .disconnect).1.epoch := by
        refine UInt64.lt_of_le_of_ne (hpast.climbs_handle hturn).epoch_le fun heq => ?_
        simp [Machine.handle, halive, hpast.onDisconnect_eq, disconnected] at heq
      rw [run_append]
      refine UInt64.lt_of_lt_of_le hnext ((hpast.handle .disconnect).epoch_le_run ?_)
      rw [hpast.toNat_epoch_handle hturn]
      omega

/-- **Late events do no harm.** In every run of a machine with any policy, events about an epoch
that the machine is not in can be put in anywhere: what follows from the other events and how the
run ends stay the same, and nothing follows from what was put in. As long as the epochs of a run do
not run out, the sockets that it opens are of later and later epochs, and the machine acts on at
most one open, one close and one timer of an epoch, on a timer only after the close of its epoch.
Once a socket of a later epoch was opened, or somebody has disconnected, nothing ever follows from
an event of an epoch before. -/
theorem late_events_harmless (policy : BackoffPolicy) (active : Bool) :
    let m := start policy active
    (∀ entries, m.ExtrasAreStale entries →
      m.run (Entry.events (Entry.kept entries)) = m.run (Entry.events entries) ∧
      m.record (Entry.kept entries) = (m.record entries).filter (fun line => !line.1.extra) ∧
      ∀ line ∈ m.record entries, line.1.extra = true → line.2 = []) ∧
    ∀ events, m.turns events < UInt64.size →
      (openedEpochs (m.effects events)).Pairwise (· < ·) ∧
      (∀ epoch, (m.acted events).count (.opened epoch) ≤ 1 ∧
        (m.acted events).countP (Event.isClosed epoch) ≤ 1 ∧
        (m.acted events).count (.reconnectDue epoch) ≤ 1) ∧
      (∀ epoch before after, m.acted events = before ++ .reconnectDue epoch :: after →
        ∃ code, .closed epoch code ∈ before) ∧
      ∀ before e after, events = before ++ e :: after → ∀ old ∈ e.epoch?,
        (∃ epoch, .openSocket epoch ∈ m.effects before ∧ old < epoch) ∨
          (∃ past rest, before = past ++ .disconnect :: rest ∧ old ≤ (m.run past).epoch) →
        (m.run before).handle e = (m.run before, []) := by
  intro m
  have hm : m.IsSteady := isSteady_start policy active
  refine ⟨fun entries h => record_kept h, fun events h => ?_⟩
  have hroom : m.epoch.toNat + m.turns events < UInt64.size := by
    rw [show m.epoch.toNat = 0 from rfl, Nat.zero_add]
    exact h
  have hmoments := (hm.pairwise_moments_acted hroom).1
  refine ⟨(hm.openedEpochs_effects hroom).1, fun epoch => ⟨?_, ?_, ?_⟩, ?_, ?_⟩
  · refine countP_le_one (3 * epoch.toNat) (fun e he => ?_) hmoments
    rw [eq_of_beq he, Event.moment?]
  · exact countP_le_one _ (fun e he => Event.moment?_of_isClosed he) hmoments
  · refine countP_le_one (3 * epoch.toNat + 2) (fun e he => ?_) hmoments
    rw [eq_of_beq he, Event.moment?]
  · intro epoch before after hacted
    rcases hm.closed_before_reconnectDue hacted with hclosed | ⟨hstate, -⟩
    · exact hclosed
    · cases hstate
  · rintro before e after rfl old hold hlate
    rw [turns_append] at hroom
    exact hm.handle_of_superseded (by omega) hold hlate

/-- A connection is lost and opened anew, and closed by its owner. What is heard of its first socket
comes late, twice, or of an epoch that never was. -/
theorem late_events_harmless_of_reconnect :
    let m := start .standard true
    let entries : List Entry := [⟨.connect, false⟩, ⟨.opened 9, true⟩, ⟨.opened 1, false⟩,
      ⟨.closed 1 1006, false⟩, ⟨.reconnectDue 1, false⟩, ⟨.closed 1 4001, true⟩,
      ⟨.reconnectDue 1, true⟩, ⟨.opened 2, false⟩, ⟨.disconnect, false⟩, ⟨.closed 2 1006, true⟩]
    let lost : List Event := [.connect, .opened 1, .closed 1 1006, .reconnectDue 1]
    let events := lost ++ [.closed 1 4001, .opened 2]
    m.ExtrasAreStale entries ∧
      m.run (Entry.events (Entry.kept entries)) = m.run (Entry.events entries) ∧
      m.turns events < UInt64.size ∧ (m.acted events).count (.opened 1) ≤ 1 ∧
      .openSocket 2 ∈ m.effects lost ∧
      (m.run lost).handle (.closed 1 4001) = (m.run lost, []) := by
  intro m entries lost events
  obtain ⟨hharmless, hruns⟩ := late_events_harmless .standard true
  have hstale : m.ExtrasAreStale entries := by decide +kernel
  have hturns : m.turns events < UInt64.size := by decide +kernel
  have hopen : .openSocket 2 ∈ m.effects lost := by decide +kernel
  obtain ⟨-, honce, -, hlate⟩ := hruns events hturns
  exact ⟨hstale, (hharmless entries hstale).1, hturns, (honce 1).1, hopen,
    hlate lost (.closed 1 4001) [.opened 2] rfl 1 rfl (.inl ⟨2, hopen, by decide⟩)⟩

end Machine

end LiveBoard.Connection
