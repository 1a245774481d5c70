import LiveBoard.Proofs.Json.Numeral
import LiveBoard.Proofs.Json.Record

/-!
# Values of texts

A value that is kept from a text is in canonical form: the members of its objects are sorted by
name, each name once, and its numbers are ones that a text can stand for. It has no more levels
than there was room for. Such a value is what its own tree is kept as, so whoever writes it and
reads it again has the same value.

## Main definitions

* `Value.IsSound`: a value that a text can stand for.

## Main results

* `isSound_of_keep`: what is kept from a tree is sound and has room.
* `keep_node_of_isSound`: a sound value is kept as it is.
-/

namespace LiveBoard.Json

/-! ### Canonical objects -/

/-- The members are sorted by name, each name once. -/
def Sorted (ms : List (String × Value)) : Prop := ms.Pairwise fun m n => m.1 < n.1

section Sorted

variable {key : String} {v : Value} {ms : List (String × Value)}

theorem mem_insertMember {m : String × Value} (h : m ∈ insertMember key v ms) :
    m = (key, v) ∨ m ∈ ms := by
  induction ms with
  | nil => exact .inl (List.mem_singleton.mp h)
  | cons n ms ih =>
    rw [insertMember] at h
    split at h
    · exact List.mem_cons.mp h
    · split at h
      · exact (List.mem_cons.mp h).imp_right (List.mem_cons_of_mem n)
      · rcases List.mem_cons.mp h with rfl | h
        · exact .inr List.mem_cons_self
        · exact (ih h).imp_right (List.mem_cons_of_mem n)

theorem sorted_insertMember (h : Sorted ms) : Sorted (insertMember key v ms) := by
  induction ms with
  | nil => exact List.pairwise_singleton _ _
  | cons n ms ih =>
    obtain ⟨hn, hms⟩ := List.pairwise_cons.mp h
    rw [insertMember]
    split
    · next hlt =>
      refine List.pairwise_cons.mpr ⟨fun m hm => ?_, h⟩
      rcases List.mem_cons.mp hm with rfl | hm
      · exact hlt
      · exact String.lt_trans hlt (hn m hm)
    · next hle =>
      split
      · next heq => exact List.pairwise_cons.mpr ⟨fun m hm => heq ▸ hn m hm, hms⟩
      · next hne =>
        have hlt : n.1 < key := String.not_le.mp fun h =>
          hne (String.le_antisymm h (String.not_lt.mp hle))
        refine List.pairwise_cons.mpr ⟨fun m hm => ?_, ih hms⟩
        rcases mem_insertMember hm with rfl | hm
        · exact hlt
        · exact hn m hm

theorem foldl_insertMember {acc : List (String × Value)} (hacc : Sorted acc)
    (ms : List (String × Value)) :
    Sorted (ms.foldl (fun acc m => insertMember m.1 m.2 acc) acc) ∧
      ∀ m ∈ ms.foldl (fun acc m => insertMember m.1 m.2 acc) acc, m ∈ acc ∨ m ∈ ms := by
  induction ms generalizing acc with
  | nil => exact ⟨hacc, fun m hm => .inl hm⟩
  | cons n ms ih =>
    obtain ⟨hsorted, hmem⟩ := ih (@sorted_insertMember n.1 n.2 acc hacc)
    refine ⟨hsorted, fun m hm => ?_⟩
    rcases hmem m hm with hm | hm
    · rcases mem_insertMember hm with rfl | hm
      · exact .inr List.mem_cons_self
      · exact .inl hm
    · exact .inr (List.mem_cons_of_mem n hm)

theorem sorted_canonicalMembers (ms : List (String × Value)) : Sorted (canonicalMembers ms) :=
  (foldl_insertMember List.Pairwise.nil ms).1

theorem mem_of_mem_canonicalMembers {m : String × Value} (h : m ∈ canonicalMembers ms) : m ∈ ms :=
  ((foldl_insertMember List.Pairwise.nil ms).2 m h).resolve_left List.not_mem_nil

/-- A member whose name is greater than all others goes to the end. -/
theorem insertMember_of_forall_lt (h : ∀ m ∈ ms, m.1 < key) :
    insertMember key v ms = ms ++ [(key, v)] := by
  induction ms with
  | nil => rfl
  | cons n ms ih =>
    obtain ⟨hn, hms⟩ := List.forall_mem_cons.mp h
    have hne : key ≠ n.1 := fun heq => String.lt_irrefl key (heq ▸ hn)
    rw [insertMember, if_neg (String.lt_asymm hn), if_neg hne, ih hms, List.cons_append]

/-- Sorted members are in canonical form already. -/
theorem canonicalMembers_of_sorted (h : Sorted ms) : canonicalMembers ms = ms := by
  have hfold : ∀ ms acc, Sorted (acc ++ ms) →
      ms.foldl (fun acc m => insertMember m.1 m.2 acc) acc = acc ++ ms := by
    intro ms
    induction ms with
    | nil => exact fun acc _ => (List.append_nil acc).symm
    | cons n ms ih =>
      intro acc hsorted
      have hlt : ∀ m ∈ acc, m.1 < n.1 := fun m hm =>
        (List.pairwise_append.mp hsorted).2.2 m hm n List.mem_cons_self
      rw [List.foldl_cons, insertMember_of_forall_lt hlt]
      have happend : acc ++ [(n.1, n.2)] ++ ms = acc ++ n :: ms := by simp
      rw [ih _ (by rwa [happend]), happend]
  exact hfold ms [] h

end Sorted

/-! ### Sound values -/

/-- A value that a text can stand for: its objects are in canonical form, and its numbers are ones
that a text can stand for. -/
inductive Value.IsSound : Value → Prop
  | null : IsSound .null
  | bool (b : Bool) : IsSound (.bool b)
  | number {n : Number} (h : n.IsSound) : IsSound (.number n)
  | string (s : String) : IsSound (.string s)
  | array {vs : List Value} (h : ∀ v ∈ vs, v.IsSound) : IsSound (.array vs)
  | object {ms : List (String × Value)} (hsorted : Sorted ms) (h : ∀ m ∈ ms, m.2.IsSound) :
      IsSound (.object ms)

mutual

/-- **What is kept from a tree** is sound, and there was room for its levels. -/
theorem isSound_of_keep : ∀ (n : Node) (room : Nat) (v : Value), n.keep room = .ok v →
    v.IsSound ∧ v.depth ≤ room
  | .null, _, _, h => by
    cases h
    exact ⟨.null, Nat.zero_le _⟩
  | .bool b, _, _, h => by
    cases h
    exact ⟨.bool b, Nat.zero_le _⟩
  | .number n, _, _, h => by
    obtain ⟨number, hn, rfl⟩ := map_eq_ok h
    exact ⟨.number (Numeral.isSound_of_value hn), Nat.zero_le _⟩
  | .string s, _, _, h => by
    obtain ⟨s, -, rfl⟩ := map_eq_ok h
    exact ⟨.string s, Nat.zero_le _⟩
  | .array items ending, 0, _, h => by cases h
  | .array items ending, room + 1, _, h => by
    obtain ⟨vs, hvs, h⟩ := bind_eq_ok h
    obtain ⟨-, -, h⟩ := bind_eq_ok h
    cases h
    have hitems := isSound_of_keepItems items room vs hvs
    refine ⟨.array fun v hv => (hitems v hv).1, ?_⟩
    rw [Value.depth, Nat.add_le_add_iff_right, Value.itemDepth_le_iff]
    exact fun v hv => (hitems v hv).2
  | .object members ending, 0, _, h => by cases h
  | .object members ending, room + 1, _, h => by
    obtain ⟨ms, hms, h⟩ := bind_eq_ok h
    obtain ⟨-, -, h⟩ := bind_eq_ok h
    cases h
    have hmembers : ∀ m ∈ canonicalMembers ms, m.2.IsSound ∧ m.2.depth ≤ room := fun m hm =>
      isSound_of_keepMembers members room ms hms m (mem_of_mem_canonicalMembers hm)
    refine ⟨.object (sorted_canonicalMembers ms) fun m hm => (hmembers m hm).1, ?_⟩
    rw [Value.depth, Nat.add_le_add_iff_right, Value.memberDepth_le_iff]
    exact fun m hm => (hmembers m hm).2
  | .missing, _, _, h => by cases h
  | .broken _ _ _, _, _, h => by cases h

theorem isSound_of_keepItems : ∀ (ns : List Node) (room : Nat) (vs : List Value),
    keepItems room ns = .ok vs → ∀ v ∈ vs, v.IsSound ∧ v.depth ≤ room
  | [], _, _, h => by
    cases h
    simp
  | n :: ns, room, _, h => by
    obtain ⟨v, hv, h⟩ := bind_eq_ok h
    obtain ⟨vs, hvs, h⟩ := bind_eq_ok h
    cases h
    exact List.forall_mem_cons.mpr
      ⟨isSound_of_keep n room v hv, isSound_of_keepItems ns room vs hvs⟩

theorem isSound_of_keepMembers : ∀ (ns : List (Key × Node)) (room : Nat)
    (ms : List (String × Value)), keepMembers room ns = .ok ms →
    ∀ m ∈ ms, m.2.IsSound ∧ m.2.depth ≤ room
  | [], _, _, h => by
    cases h
    simp
  | (k, n) :: ns, room, _, h => by
    obtain ⟨key, -, h⟩ := bind_eq_ok h
    obtain ⟨v, hv, h⟩ := bind_eq_ok h
    obtain ⟨ms, hms, h⟩ := bind_eq_ok h
    cases h
    exact List.forall_mem_cons.mpr
      ⟨isSound_of_keep n room v hv, isSound_of_keepMembers ns room ms hms⟩

end

/-! ### Keeping a sound value -/

mutual

/-- **A sound value is kept as it is** where its numbers read back and its levels have room. -/
theorem keep_node_of_isSound : ∀ (v : Value) (room : Nat), v.IsSound → v.Fits room →
    v.node.keep room = .ok v
  | .null, _, _, _ => rfl
  | .bool _, _, _, _ => rfl
  | .number n, _, _, hfits => by
    have hn := (hfits.1 n (List.mem_singleton_self n)).value_numeral
    rw [Value.node, Node.keep, hn]
    rfl
  | .string _, _, _, _ => rfl
  | .array vs, 0, _, hfits => by simpa [Value.depth] using hfits.2
  | .array vs, room + 1, .array h, hfits => by
    rw [Value.fits_array] at hfits
    rw [Value.node, Node.keep, keepItems_of_isSound vs room h hfits]
    rfl
  | .object ms, 0, _, hfits => by simpa [Value.depth] using hfits.2
  | .object ms, room + 1, .object hsorted h, hfits => by
    rw [Value.fits_object] at hfits
    rw [Value.node, Node.keep, keepMembers_of_isSound ms room h hfits]
    exact congrArg (fun ms => Except.ok (Value.object ms)) (canonicalMembers_of_sorted hsorted)

theorem keepItems_of_isSound : ∀ (vs : List Value) (room : Nat), (∀ v ∈ vs, v.IsSound) →
    (∀ v ∈ vs, v.Fits room) → keepItems room (Value.itemNodes vs) = .ok vs
  | [], _, _, _ => rfl
  | v :: vs, room, h, hfits => by
    obtain ⟨hv, hvs⟩ := List.forall_mem_cons.mp h
    obtain ⟨hfit, hfits⟩ := List.forall_mem_cons.mp hfits
    rw [Value.itemNodes, keepItems, keep_node_of_isSound v room hv hfit,
      keepItems_of_isSound vs room hvs hfits]
    rfl

theorem keepMembers_of_isSound : ∀ (ms : List (String × Value)) (room : Nat),
    (∀ m ∈ ms, m.2.IsSound) → (∀ m ∈ ms, m.2.Fits room) →
    keepMembers room (Value.memberNodes ms) = .ok ms
  | [], _, _, _ => rfl
  | (k, v) :: ms, room, h, hfits => by
    obtain ⟨hv, hms⟩ := List.forall_mem_cons.mp h
    obtain ⟨hfit, hfits⟩ := List.forall_mem_cons.mp hfits
    rw [Value.memberNodes, keepMembers, keep_node_of_isSound v room hv hfit,
      keepMembers_of_isSound ms room hms hfits]
    rfl

end

end LiveBoard.Json
