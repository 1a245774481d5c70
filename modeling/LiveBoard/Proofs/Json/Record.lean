import LiveBoard.Json.Members
import LiveBoard.Proofs.Json.Tree

/-!
# Reading written records

A record is read back from the members that it was written with: every member goes to the slot of
its name, and the draft that comes of it has the field. Fields that are written only if they have a
value are read in one step either way, so that a record with many of them needs no cases.

## Main definitions

* `Value.Fits`: a value that reads back from its text within some levels.
* `Decoder.Reads`: a decoder that reads what a writer wrote.
* `RecordShape.Takes`: the draft after some written members.

## Main results

* `Decoder.Reads.list`: lists are read when their items are.
* `RecordShape.takes_fieldIfAny`: the draft after a field that may have been left out.
-/

namespace LiveBoard.Json

/-! ### Values within some levels -/

/-- The value reads back from its text and has at most `room` levels. -/
def Value.Fits (room : Nat) (v : Value) : Prop := v.IsReadable ∧ v.depth ≤ room

namespace Value

theorem itemNumbers_eq_flatMap (vs : List Value) : itemNumbers vs = vs.flatMap numbers := by
  induction vs with
  | nil => rfl
  | cons v vs ih => rw [itemNumbers, ih, List.flatMap_cons]

theorem memberNumbers_eq_flatMap (ms : List (String × Value)) :
    memberNumbers ms = ms.flatMap fun m => m.2.numbers := by
  induction ms with
  | nil => rfl
  | cons m ms ih => rw [memberNumbers, ih, List.flatMap_cons]

theorem itemDepth_le_iff {vs : List Value} {n : Nat} :
    itemDepth vs ≤ n ↔ ∀ v ∈ vs, v.depth ≤ n := by
  induction vs with
  | nil => simp [itemDepth]
  | cons v vs ih => rw [itemDepth, Nat.max_le, ih, List.forall_mem_cons]

theorem memberDepth_le_iff {ms : List (String × Value)} {n : Nat} :
    memberDepth ms ≤ n ↔ ∀ m ∈ ms, m.2.depth ≤ n := by
  induction ms with
  | nil => simp [memberDepth]
  | cons m ms ih => rw [memberDepth, Nat.max_le, ih, List.forall_mem_cons]

variable {room : Nat}

@[simp] theorem fits_null : Fits room .null := ⟨by simp [IsReadable, numbers], Nat.zero_le _⟩

@[simp] theorem fits_string (s : String) : Fits room (.string s) :=
  ⟨by simp [IsReadable, numbers], Nat.zero_le _⟩

@[simp] theorem fits_optionalString (o : Option String) : Fits room (optionalString o) := by
  cases o <;> simp [optionalString, optional]

@[simp] theorem fits_array {vs : List Value} :
    Fits (room + 1) (.array vs) ↔ ∀ v ∈ vs, Fits room v := by
  simp only [Fits, IsReadable, numbers, depth, itemNumbers_eq_flatMap, List.forall_mem_flatMap,
    Nat.add_le_add_iff_right, itemDepth_le_iff, forall_and]

@[simp] theorem fits_object {ms : List (String × Value)} :
    Fits (room + 1) (.object ms) ↔ ∀ m ∈ ms, Fits room m.2 := by
  simp only [Fits, IsReadable, numbers, depth, memberNumbers_eq_flatMap, List.forall_mem_flatMap,
    Nat.add_le_add_iff_right, memberDepth_le_iff, forall_and]

theorem Fits.mono {v : Value} {n : Nat} (h : Fits room v) (hn : room ≤ n) : Fits n v :=
  ⟨h.1, Nat.le_trans h.2 hn⟩

theorem Fits.keep_node {v : Value} (h : Fits room v) : ∃ w, v.node.keep room = .ok w :=
  LiveBoard.Json.keep_node v room h.1 h.2

end Value

/-- The members of a field that may be left out are those of its value, if there is one. -/
theorem forall_mem_fieldIfAny {α : Type} {key : String} {f : α → Value} {o : Option α}
    {p : String × Value → Prop} :
    (∀ m ∈ fieldIfAny key f o, p m) ↔ ∀ a ∈ o, p (key, f a) := by
  cases o <;> simp [fieldIfAny]

/-! ### Decoders -/

/-- The decoder reads what was written with `f`, given room for its levels. -/
def Decoder.Reads {α : Type} (d : Decoder α) (f : α → Value) : Prop :=
  ∀ (ctx : Context) (a : α), (f a).depth ≤ ctx.room → d ctx (f a).node = .ok a

namespace Decoder

variable {α : Type}

theorem items_of_reads {d : Decoder α} {f : α → Value} (h : d.Reads f) (ctx : Context)
    (as : List α) (hdepth : ∀ a ∈ as, (f a).depth ≤ ctx.room) :
    items d ctx (Value.itemNodes (as.map f)) = .ok as := by
  induction as with
  | nil => rfl
  | cons a as ih =>
    rw [List.map_cons, Value.itemNodes, items, h ctx a (hdepth a List.mem_cons_self),
      ih fun b hb => hdepth b (List.mem_cons_of_mem _ hb)]
    rfl

/-- Lists are read when their items are. -/
theorem Reads.list {d : Decoder α} {f : α → Value} (h : d.Reads f) :
    (list d).Reads fun as => .array (as.map f) := by
  rintro ⟨buffered, room⟩ as hdepth
  cases room with
  | zero => simp [Value.depth] at hdepth
  | succ room =>
    have hitems : ∀ a ∈ as, (f a).depth ≤ room := by
      simpa [Value.depth, Value.itemDepth_le_iff] using hdepth
    calc Decoder.list d ⟨buffered, room + 1⟩ (Value.array (as.map f)).node
        = (items d ⟨buffered, room⟩ (Value.itemNodes (as.map f))).bind fun as => .ok as := rfl
      _ = .ok as := by rw [items_of_reads h ⟨buffered, room⟩ as hitems]; rfl

end Decoder

/-! ### Records -/

namespace RecordShape

variable {σ α : Type} (shape : RecordShape σ α)

theorem members_append (ctx : Context) (d : σ) (ms ns : List (Key × Node)) :
    shape.members ctx d (ms ++ ns) =
      (shape.members ctx d ms).bind fun d => shape.members ctx d ns := by
  induction ms generalizing d with
  | nil => rfl
  | cons m ms ih =>
    rw [List.cons_append, members, members]
    cases shape.member ctx d m.1 m.2 with
    | error e => rfl
    | ok d => exact ih d

/-- The draft `d` becomes `d'` when the written members are read. -/
def Takes (ctx : Context) (d : σ) (ms : List (String × Value)) (d' : σ) : Prop :=
  shape.members ctx d (Value.memberNodes ms) = .ok d'

variable {shape} {ctx : Context}

theorem Takes.append {d d' d'' : σ} {ms ns : List (String × Value)}
    (h : shape.Takes ctx d ms d') (h' : shape.Takes ctx d' ns d'') :
    shape.Takes ctx d (ms ++ ns) d'' := by
  rw [Takes, Value.memberNodes_append, members_append, h]
  exact h'

theorem member_of_slot {slot : Slot σ} {key : String} {d : σ}
    (hslot : shape.slots.find? (fun s => s.key == key) = some slot) (hheld : slot.held d = false)
    (n : Node) : shape.member ctx d (.ok key) n = slot.fill ctx n d := by
  simp only [member, fromFault, bind, Except.bind, hslot, hheld]
  rfl

/-- A written member goes to the slot of its name, which is empty before. -/
theorem Takes.cons {γ : Type} {key : String} {required : Bool} {get : σ → Option γ}
    {set : σ → γ → σ} {dec : Decoder γ} {v : Value} {c : γ} {d d' : σ}
    {ms : List (String × Value)}
    (hslot : shape.slots.find? (fun s => s.key == key) = some (.of key required get set dec))
    (hget : get d = none) (hread : dec ctx v.node = .ok c) (h : shape.Takes ctx (set d c) ms d') :
    shape.Takes ctx d ((key, v) :: ms) d' := by
  have hheld : (Slot.of key required get set dec).held d = false :=
    congrArg Option.isSome hget
  have hfill : (Slot.of key required get set dec).fill ctx v.node d = .ok (set d c) :=
    congrArg (Except.map (set d)) hread
  rw [Takes, Value.memberNodes, members, member_of_slot hslot hheld, hfill]
  exact h

/-- A field that may have been left out is taken either way; `put` sets or clears it. -/
theorem takes_fieldIfAny {β γ : Type} {key : String} {required : Bool} {get : σ → Option γ}
    {set : σ → γ → σ} {dec : Decoder γ} {f : β → Value} {g : β → γ} {d : σ} {o : Option β}
    (put : σ → Option γ → σ)
    (hslot : shape.slots.find? (fun s => s.key == key) = some (.of key required get set dec))
    (hget : get d = none) (hnone : put d none = d) (hsome : ∀ c, put d (some c) = set d c)
    (hread : ∀ a, dec ctx (f a).node = .ok (g a)) :
    shape.Takes ctx d (fieldIfAny key f o) (put d (o.map g)) := by
  cases o with
  | none => exact congrArg Except.ok hnone.symm
  | some a =>
    rw [Option.map_some, hsome]
    exact Takes.cons hslot hget (hread a) rfl

theorem Takes.consIfAny {β γ : Type} {key : String} {required : Bool} {get : σ → Option γ}
    {set : σ → γ → σ} {dec : Decoder γ} {f : β → Value} {g : β → γ} {d d' : σ} {o : Option β}
    {ms : List (String × Value)} (put : σ → Option γ → σ)
    (hslot : shape.slots.find? (fun s => s.key == key) = some (.of key required get set dec))
    (hget : get d = none) (hnone : put d none = d) (hsome : ∀ c, put d (some c) = set d c)
    (hread : ∀ a, dec ctx (f a).node = .ok (g a)) (h : shape.Takes ctx (put d (o.map g)) ms d') :
    shape.Takes ctx d (fieldIfAny key f o ++ ms) d' :=
  (takes_fieldIfAny put hslot hget hnone hsome hread).append h

/-- A record is read from its written members. -/
theorem Takes.decoder {buffered : Bool} {room : Nat} {d : σ} {a : α} {ms : List (String × Value)}
    (h : shape.Takes ⟨buffered, room⟩ shape.blank ms d) (ha : shape.build d = some a) :
    shape.decoder ⟨buffered, room + 1⟩ (Value.object ms).node = .ok a := by
  calc shape.decoder ⟨buffered, room + 1⟩ (Value.object ms).node
      = (shape.members ⟨buffered, room⟩ shape.blank (Value.memberNodes ms)).bind
          fun d => shape.complete d := rfl
    _ = shape.complete d := by rw [h]; rfl
    _ = .ok a := by rw [complete, ha]

end RecordShape

end LiveBoard.Json
