import LiveBoard.Proofs.Json.Tree

/-!
# Trees that can be kept

A tree can be kept within some levels if every part of it can, the levels of its containers do not
run out, and every container is closed. So whether it can be kept does not depend on the order of
its members, and a tree that can is still one when a member is left out.

## Main definitions

* `Node.IsReadable`: a tree that can be kept.

## Main results

* `isReadable_array`, `isReadable_object`: containers can be kept when their contents can.
* `Node.IsReadable.isWhole`, `Node.IsWhole.skip`: nothing in it is broken, and it can be skipped.
-/

namespace LiveBoard.Json

/-- The tree can be kept within some levels of arrays and objects. -/
def Node.IsReadable (room : Nat) (n : Node) : Prop := ∃ v, n.keep room = .ok v

/-- The member has a name and a value that can be kept. -/
def ReadableMember (room : Nat) (m : Key × Node) : Prop :=
  (∃ k, m.1 = .ok k) ∧ m.2.IsReadable room

variable {room : Nat} {ending : Ending}

theorem kept_eq_ok : ending.kept = .ok () ↔ ending = .closed := by
  cases ending <;> simp [Ending.kept]

theorem keepItems_eq_ok {ns : List Node} :
    (∃ vs, keepItems room ns = .ok vs) ↔ ∀ n ∈ ns, n.IsReadable room := by
  induction ns with
  | nil => simp [keepItems]
  | cons n ns ih =>
    rw [List.forall_mem_cons, ← ih]
    constructor
    · rintro ⟨vs, h⟩
      obtain ⟨v, hv, h⟩ := bind_eq_ok h
      obtain ⟨vs, hvs, -⟩ := bind_eq_ok h
      exact ⟨⟨v, hv⟩, vs, hvs⟩
    · rintro ⟨⟨v, hv⟩, vs, hvs⟩
      exact ⟨v :: vs, by rw [keepItems, hv, hvs]; rfl⟩

theorem keepMembers_eq_ok {ms : List (Key × Node)} :
    (∃ vs, keepMembers room ms = .ok vs) ↔ ∀ m ∈ ms, ReadableMember room m := by
  induction ms with
  | nil => simp [keepMembers]
  | cons m ms ih =>
    obtain ⟨k, n⟩ := m
    rw [List.forall_mem_cons, ← ih]
    constructor
    · rintro ⟨vs, h⟩
      obtain ⟨key, hkey, h⟩ := bind_eq_ok h
      obtain ⟨v, hv, h⟩ := bind_eq_ok h
      obtain ⟨vs, hvs, -⟩ := bind_eq_ok h
      exact ⟨⟨⟨key, hkey⟩, v, hv⟩, vs, hvs⟩
    · rintro ⟨⟨⟨key, hkey⟩, v, hv⟩, vs, hvs⟩
      obtain rfl : k = .ok key := hkey
      exact ⟨(key, v) :: vs, by rw [keepMembers, hv, hvs]; rfl⟩

theorem isReadable_string (s : String) : (Node.string (.ok s)).IsReadable room := ⟨.string s, rfl⟩

theorem isReadable_array {ns : List Node} : (Node.array ns ending).IsReadable room ↔
    ∃ inner, room = inner + 1 ∧ ending = .closed ∧ ∀ n ∈ ns, n.IsReadable inner := by
  constructor
  · rintro ⟨v, h⟩
    cases room with
    | zero => cases h
    | succ inner =>
      obtain ⟨vs, hvs, h⟩ := bind_eq_ok h
      obtain ⟨⟨⟩, hclosed, -⟩ := bind_eq_ok h
      exact ⟨inner, rfl, kept_eq_ok.mp hclosed, keepItems_eq_ok.mp ⟨vs, hvs⟩⟩
  · rintro ⟨inner, rfl, rfl, h⟩
    obtain ⟨vs, hvs⟩ := keepItems_eq_ok.mpr h
    exact ⟨.array vs, by rw [Node.keep, hvs]; rfl⟩

theorem isReadable_object {ms : List (Key × Node)} : (Node.object ms ending).IsReadable room ↔
    ∃ inner, room = inner + 1 ∧ ending = .closed ∧ ∀ m ∈ ms, ReadableMember inner m := by
  constructor
  · rintro ⟨v, h⟩
    cases room with
    | zero => cases h
    | succ inner =>
      obtain ⟨vs, hvs, h⟩ := bind_eq_ok h
      obtain ⟨⟨⟩, hclosed, -⟩ := bind_eq_ok h
      exact ⟨inner, rfl, kept_eq_ok.mp hclosed, keepMembers_eq_ok.mp ⟨vs, hvs⟩⟩
  · rintro ⟨inner, rfl, rfl, h⟩
    obtain ⟨vs, hvs⟩ := keepMembers_eq_ok.mpr h
    exact ⟨.object (canonicalMembers vs), by rw [Node.keep, hvs]; rfl⟩

/-- Nothing is missing or broken in a tree that can be kept. -/
theorem Node.IsReadable.isWhole {n : Node} (h : n.IsReadable room) : n.IsWhole := by
  induction room using Nat.strongRecOn generalizing n with
  | ind room ih =>
    cases n with
    | null => exact .null
    | bool b => exact .bool b
    | number m => exact .number m
    | string s =>
      obtain ⟨v, h⟩ := h
      obtain ⟨s, rfl, -⟩ := map_eq_ok h
      exact .string s
    | array ns ending =>
      obtain ⟨inner, rfl, rfl, hns⟩ := isReadable_array.mp h
      exact .array fun n hn => ih inner (Nat.lt_succ_self _) (hns n hn)
    | object ms ending =>
      obtain ⟨inner, rfl, rfl, hms⟩ := isReadable_object.mp h
      exact .object (fun m hm => (hms m hm).1) fun m hm =>
        ih inner (Nat.lt_succ_self _) (hms m hm).2
    | missing | broken => nomatch h

/-! ### Skipping -/

theorem skipItems_eq_ok {ns : List Node} (h : ∀ n ∈ ns, n.skip = .ok ()) :
    skipItems ns = .ok () := by
  induction ns with
  | nil => rfl
  | cons n ns ih =>
    obtain ⟨hn, hns⟩ := List.forall_mem_cons.mp h
    rw [skipItems, hn]
    exact ih hns

theorem skipMembers_eq_ok {ms : List (Key × Node)} (h : ∀ m ∈ ms, m.2.skip = .ok ()) :
    skipMembers ms = .ok () := by
  induction ms with
  | nil => rfl
  | cons m ms ih =>
    obtain ⟨hm, hms⟩ := List.forall_mem_cons.mp h
    rw [skipMembers, hm]
    exact ih hms

/-- A whole tree can be skipped. -/
theorem Node.IsWhole.skip {n : Node} (h : n.IsWhole) : n.skip = .ok () := by
  induction h with
  | null | bool | number | string => rfl
  | array _ ih =>
    rw [Node.skip, skipItems_eq_ok ih]
    rfl
  | object _ _ ih =>
    rw [Node.skip, skipMembers_eq_ok ih]
    rfl

end LiveBoard.Json
