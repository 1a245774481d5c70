import LiveBoard.Proofs.Json.Reading
import Mathlib.Data.List.Pairwise

/-!
# The order of members

The members of an object fill the slots of a record one after the other. Two slots that are places
of the same draft do not get in each other's way, and a slot takes only one member. So a record
that is read from its members is read from them in any other order, and comes out the same.

## Main definitions

* `Slot.Passes`: a slot that may be filled before another one.
* `RecordShape.IsLawful`: the slots of a record are places of their own.

## Main results

* `RecordShape.IsLawful.members_perm`: the order of the members does not matter.
-/

namespace LiveBoard.Json

variable {σ α β γ : Type}

/-! ### Slots -/

/-- What is filled into `t` after `s` may be filled into it before, and nothing else changes. -/
def Slot.Passes (s t : Slot σ) : Prop :=
  ∀ ⦃ctx : Context⦄ ⦃m n : Node⦄ ⦃d d₁ d₂ : σ⦄, s.held d = false → s.fill ctx m d = .ok d₁ →
    t.held d₁ = false → t.fill ctx n d₁ = .ok d₂ →
      t.held d = false ∧ ∃ e, t.fill ctx n d = .ok e ∧ s.held e = false ∧ s.fill ctx m e = .ok d₂

/-- Each of the two slots may be filled before the other one. -/
structure Slot.Independent (s t : Slot σ) : Prop where
  left : s.Passes t
  right : t.Passes s

instance : Std.Symm (@Slot.Independent σ) := ⟨fun _ _ h => ⟨h.right, h.left⟩⟩

/-- A slot that was filled has something. -/
def Slot.Holds (s : Slot σ) : Prop :=
  ∀ ⦃ctx : Context⦄ ⦃n : Node⦄ ⦃d d' : σ⦄, s.fill ctx n d = .ok d' → s.held d' = true

section Places

variable {key key' : String} {required required' : Bool} {get : σ → Option β} {set : σ → β → σ}
  {get' : σ → Option γ} {set' : σ → γ → σ} {dec : Decoder β} {dec' : Decoder γ}

/-- A place that is set leaves the other one as it is, and it does not matter which is set first. -/
theorem Slot.passes_of (hget : ∀ d x, get' (set d x) = get' d)
    (hget' : ∀ d y, get (set' d y) = get d) (hset : ∀ d x y, set' (set d x) y = set (set' d y) x) :
    (Slot.of key required get set dec).Passes (.of key' required' get' set' dec') := by
  intro ctx m n d d₁ d₂ hheld hfill hheld' hfill'
  obtain ⟨x, hx, rfl⟩ := fill_eq_ok hfill
  obtain ⟨y, hy, rfl⟩ := fill_eq_ok hfill'
  refine ⟨(congrArg Option.isSome (hget d x)).symm.trans hheld', set' d y,
    congrArg (Except.map (set' d)) hy, (congrArg Option.isSome (hget' d y)).trans hheld, ?_⟩
  calc Except.map (set (set' d y)) (dec ctx m)
      = .ok (set (set' d y) x) := congrArg (Except.map (set (set' d y))) hx
    _ = .ok (set' (set d x) y) := by rw [hset]

/-- Two places of a written out draft are independent by computation. -/
@[simp] theorem Slot.independent_of (hget : ∀ d x, get' (set d x) = get' d)
    (hget' : ∀ d y, get (set' d y) = get d) (hset : ∀ d x y, set' (set d x) y = set (set' d y) x) :
    (Slot.of key required get set dec).Independent (.of key' required' get' set' dec') :=
  ⟨passes_of hget hget' hset, passes_of hget' hget fun d y x => (hset d x y).symm⟩

/-- A place that is set has something. -/
@[simp] theorem Slot.holds_of (hset : ∀ d x, get (set d x) = some x) :
    (Slot.of key required get set dec).Holds := by
  intro ctx n d d' h
  obtain ⟨x, -, rfl⟩ := fill_eq_ok h
  exact congrArg Option.isSome (hset d x)

end Places

/-! ### Members -/

namespace RecordShape

variable {shape : RecordShape σ α}

/-- The slots of a record are places of their own in its draft. -/
structure IsLawful (shape : RecordShape σ α) : Prop where
  holds : ∀ s ∈ shape.slots, s.Holds
  independent : shape.slots.Pairwise Slot.Independent

namespace IsLawful

variable (h : shape.IsLawful) {ctx : Context}
include h

theorem passes {s t : Slot σ} (hs : s ∈ shape.slots) (ht : t ∈ shape.slots) : s.Passes t := by
  by_cases heq : s = t
  · -- a slot that was filled takes nothing more
    subst heq
    intro ctx m n d d₁ d₂ _ hfill hheld
    rw [h.holds s hs hfill] at hheld
    cases hheld
  · exact (h.independent.forall hs ht heq).left

/-- Two members that follow each other may change places. -/
theorem puts_comm {d d₁ d₂ : σ} {j k : Key} {m n : Node} (hm : shape.Puts ctx d j m d₁)
    (hn : shape.Puts ctx d₁ k n d₂) : ∃ e, shape.Puts ctx d k n e ∧ shape.Puts ctx e j m d₂ := by
  cases hm with
  | skip hnone hskip => exact ⟨d₂, hn, .skip hnone hskip⟩
  | fill hs hheld hfill =>
    cases hn with
    | skip hnone hskip => exact ⟨d, .skip hnone hskip, .fill hs hheld hfill⟩
    | fill ht hheld' hfill' =>
      obtain ⟨hfree, e, he, hfree', he'⟩ := h.passes (List.mem_of_find?_eq_some hs)
        (List.mem_of_find?_eq_some ht) hheld hfill hheld' hfill'
      exact ⟨e, .fill ht hfree he, .fill hs hfree' he'⟩

/-- **The order of the members** of a record does not matter. -/
theorem members_perm {ms ns : List (Key × Node)} (hperm : ms.Perm ns) {d d' : σ}
    (hread : shape.members ctx d ms = .ok d') : shape.members ctx d ns = .ok d' := by
  induction hperm generalizing d with
  | nil => exact hread
  | cons m _ ih =>
    obtain ⟨d₁, hm, hread⟩ := bind_eq_ok hread
    rw [members, hm]
    exact ih hread
  | swap m n ns =>
    obtain ⟨d₁, hn, hread⟩ := bind_eq_ok hread
    obtain ⟨d₂, hm, hread⟩ := bind_eq_ok hread
    obtain ⟨e, hm', hn'⟩ := h.puts_comm (member_eq_ok.mp hn) (member_eq_ok.mp hm)
    rw [members, member_eq_ok.mpr hm']
    show shape.members ctx e (n :: ns) = .ok d'
    rw [members, member_eq_ok.mpr hn']
    exact hread
  | trans _ _ ih₁ ih₂ => exact ih₂ (ih₁ hread)

end IsLawful

end RecordShape

end LiveBoard.Json
