import LiveBoard.Proofs.Json.Tree

/-!
# What a reading has done

A decoder that has given a result is taken apart into what it has done on the way. A record that
was read comes from a draft, and every member that was read before it has filled the empty slot of
its name or was skipped.

## Main definitions

* `RecordShape.Puts`: what reading one member does to a draft.

## Main results

* `RecordShape.member_eq_ok`: reading a member does one of two things.
* `RecordShape.exists_of_decoder`: an invariant of the drafts of a record.
-/

namespace LiveBoard.Json

theorem fromFault_eq_ok {α : Type} {x : Except Fault α} {a : α} (h : fromFault x = .ok a) :
    x = .ok a := by
  cases x with
  | error f => cases h
  | ok b =>
    cases h
    rfl

/-- The context inside an array or object has one level less. -/
theorem Context.room_of_inside {ctx inner : Context} (h : ctx.inside = .ok inner) :
    inner.room + 1 = ctx.room := by
  rw [inside] at h
  split at h
  · cases h
  · next heq =>
    cases h
    exact heq.symm

theorem Slot.fill_eq_ok {σ α : Type} {key : String} {required : Bool} {get : σ → Option α}
    {set : σ → α → σ} {dec : Decoder α} {ctx : Context} {n : Node} {d d' : σ}
    (h : (Slot.of key required get set dec).fill ctx n d = .ok d') :
    ∃ a, dec ctx n = .ok a ∧ set d a = d' :=
  map_eq_ok h

/-- A value of a text is that of its tree, and nothing is left behind the tree. -/
theorem decodeText_eq_ok {α : Type} {d : Decoder α} {text : String} {a : α} :
    decodeText d text = .ok a ↔
      ∃ n, Document.ofText text = ⟨n, false⟩ ∧ d .direct n = .ok a := by
  rw [decodeText]
  constructor
  · intro h
    obtain ⟨b, hb, h⟩ := bind_eq_ok h
    split at h
    · cases h
    · next htrailing =>
      cases h
      refine ⟨_, ?_, hb⟩
      rw [← Bool.eq_false_iff.mpr htrailing]
  · rintro ⟨n, hdoc, h⟩
    rw [hdoc]
    simp only [h, bind, Except.bind]
    rfl

namespace RecordShape

variable {σ α : Type} {shape : RecordShape σ α} {ctx : Context}

/-! ### Members -/

/-- What reading one member does to a draft. -/
inductive Puts (shape : RecordShape σ α) (ctx : Context) (d : σ) : Key → Node → σ → Prop
  /-- The member goes to the slot of its name, which is empty before. -/
  | fill {key : String} {n : Node} {slot : Slot σ} {d' : σ}
      (hslot : shape.slots.find? (fun s => s.key == key) = some slot)
      (hheld : slot.held d = false) (hfill : slot.fill ctx n d = .ok d') :
      Puts shape ctx d (.ok key) n d'
  /-- There is no slot of its name. -/
  | skip {key : String} {n : Node} (hnone : shape.slots.find? (fun s => s.key == key) = none)
      (hskip : n.skip = .ok ()) : Puts shape ctx d (.ok key) n d

/-- **Reading a member** fills a slot or skips the member. -/
theorem member_eq_ok {d d' : σ} {k : Key} {n : Node} :
    shape.member ctx d k n = .ok d' ↔ shape.Puts ctx d k n d' := by
  constructor
  · intro h
    obtain ⟨key, hkey, hmember⟩ := bind_eq_ok h
    obtain rfl := fromFault_eq_ok hkey
    split at hmember
    · next slot hslot =>
      split at hmember
      · cases hmember
      · next hheld => exact .fill hslot (Bool.eq_false_iff.mpr hheld) hmember
    · next hnone =>
      obtain ⟨⟨⟩, hskip, hmember⟩ := bind_eq_ok hmember
      cases hmember
      exact .skip hnone (fromFault_eq_ok hskip)
  · rintro (⟨hslot, hheld, hfill⟩ | ⟨hnone, hskip⟩)
    · simp only [member, fromFault, bind, Except.bind, hslot, hheld]
      exact hfill
    · simp only [member, fromFault, bind, Except.bind, hnone, hskip]
      rfl

/-! ### Invariants of drafts -/

variable {I : σ → Prop}

theorem invariant_members
    (hslot : ∀ slot ∈ shape.slots, ∀ n d d', I d → slot.fill ctx n d = .ok d' → I d')
    {ms : List (Key × Node)} {d d' : σ} (hd : I d) (h : shape.members ctx d ms = .ok d') :
    I d' := by
  induction ms generalizing d with
  | nil =>
    cases h
    exact hd
  | cons m ms ih =>
    obtain ⟨k, n⟩ := m
    obtain ⟨d₁, hmember, h⟩ := bind_eq_ok h
    refine ih ?_ h
    cases member_eq_ok.mp hmember with
    | fill hfind _ hfill => exact hslot _ (List.mem_of_find?_eq_some hfind) n d d₁ hd hfill
    | skip => exact hd

theorem invariant_fillItems {slots : List (Slot σ)}
    (hslot : ∀ slot ∈ slots, ∀ n d d', I d → slot.fill ctx n d = .ok d' → I d')
    {ns : List Node} {d d' : σ} (hd : I d) (h : fillItems ctx d slots ns = .ok d') : I d' := by
  induction slots generalizing d ns with
  | nil =>
    cases h
    exact hd
  | cons slot slots ih =>
    obtain ⟨hfirst, hslots⟩ := List.forall_mem_cons.mp hslot
    cases ns with
    | nil =>
      cases h
      exact hd
    | cons n ns =>
      obtain ⟨d₁, hfill, h⟩ := bind_eq_ok h
      exact ih hslots (hfirst n d d₁ hd hfill) h

theorem build_of_complete {d : σ} {a : α} (h : shape.complete d = .ok a) :
    shape.build d = some a := by
  rw [complete] at h
  split at h
  · next hbuild => rw [hbuild, Except.ok.inj h]
  · split at h <;> cases h

/-- **An invariant of the drafts** of a record holds of the draft that a record which was read
came from, in whichever form the record was written. -/
theorem exists_of_decoder {n : Node} {a : α} (hblank : I shape.blank)
    (hslot : ∀ inner, ctx.inside = .ok inner → ∀ slot ∈ shape.slots, ∀ n d d', I d →
      slot.fill inner n d = .ok d' → I d')
    (h : shape.decoder ctx n = .ok a) : ∃ d, I d ∧ shape.build d = some a := by
  cases n with
  | object ms ending =>
    obtain ⟨inner, hinner, h⟩ := bind_eq_ok h
    obtain ⟨d, hd, h⟩ := bind_eq_ok h
    obtain ⟨-, -, h⟩ := bind_eq_ok h
    exact ⟨d, invariant_members (hslot inner hinner) hblank hd, build_of_complete h⟩
  | array ns ending =>
    obtain ⟨inner, hinner, h⟩ := bind_eq_ok h
    obtain ⟨d, hd, h⟩ := bind_eq_ok h
    refine ⟨d, invariant_fillItems (hslot inner hinner) hblank hd, ?_⟩
    split at h
    · split at h <;> cases h
    · obtain ⟨-, -, h⟩ := bind_eq_ok h
      split at h
      · cases h
      · exact build_of_complete h
  | _ => cases h

end RecordShape

end LiveBoard.Json
