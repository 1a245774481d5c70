import LiveBoard.Proofs.Json.Canonical
import LiveBoard.Proofs.Json.Reading
import LiveBoard.Proofs.Message.RoundTrip

/-!
# Messages that were received

What a message can hold depends on where it comes from. A suggestion that was made up may have any
double for its confidence and any value for its payload, and then its frame may be no message. One
that was read from a frame has a finite confidence, and its payload is sound and leaves room for
the levels around it. So it is read back from its own frame as it is, however the frame that it came
in was spelled, and with it every message that was received.

What is assumed of decimals is assumed of the doubles of the message at hand: that a finite one
reads back from the decimal that it is written with.

## Main definitions

* `Suggestion.IsReceived`: what a suggestion that was read has.
* `ServerMessage.doubles`: the doubles of a message.

## Main results

* `Suggestion.isReceived_of_decoder`: suggestions that are read.
* `Suggestion.decoder_node`: suggestions that are read back.
* `ServerMessage.decode_encode_of_decode`: a received message is read back from its frame.
-/

namespace LiveBoard

open Json

/-! ### Doubles and values that are read -/

namespace Json

/-- A double that is read is finite. -/
theorem isFinite_of_double {ctx : Context} {n : Node} {x : Float}
    (h : Decoder.double ctx n = .ok x) : x.isFinite = true := by
  cases n with
  | number m =>
    obtain ⟨number, hvalue, h⟩ := bind_eq_ok h
    have hsound := Numeral.isSound_of_value (fromFault_eq_ok hvalue)
    cases number with
    | integer i =>
      cases h
      obtain ⟨hlow, hhigh⟩ := hsound
      refine Decimal.isFinite_ofInt ?_
      simp only [UInt64.size]
      omega
    | double y =>
      cases h
      exact hsound
  | _ => cases h

/-- Only the text `null` stands for `null`. -/
theorem eq_null_of_keep {n : Node} {room : Nat} (h : n.keep room = .ok .null) : n = .null := by
  cases n with
  | null => rfl
  | bool | missing | broken => cases h
  | number m =>
    obtain ⟨a, -, hv⟩ := map_eq_ok h
    cases hv
  | string s =>
    obtain ⟨a, -, hv⟩ := map_eq_ok h
    cases hv
  | array | object =>
    rcases eq_array_or_eq_object_of_keep h trivial with ⟨vs, hv⟩ | ⟨ms, hv⟩ <;> cases hv

theorem Decoder.optional_of_ne_null {α : Type} {d : Decoder α} {ctx : Context} {n : Node}
    (h : n ≠ .null) : Decoder.optional d ctx n = (d ctx n).map some := by
  cases n with
  | null => exact absurd rfl h
  | _ => rfl

/-- A value that is read where there need not be one. -/
theorem isSound_of_optional_kept {ctx : Context} {n : Node} {v : Value}
    (h : Decoder.optional Decoder.kept ctx n = .ok (some v)) :
    v ≠ .null ∧ v.IsSound ∧ v.depth ≤ ctx.room := by
  have hne : n ≠ .null := by
    rintro rfl
    cases h
  rw [Decoder.optional_of_ne_null hne] at h
  obtain ⟨w, hw, hv⟩ := map_eq_ok h
  cases hv
  have hkeep := fromFault_eq_ok hw
  refine ⟨?_, isSound_of_keep n ctx.room v hkeep⟩
  rintro rfl
  exact hne (eq_null_of_keep hkeep)

/-- A value that need not be there is read back if it is. -/
theorem optional_kept_node {ctx : Context} {v : Value} (hv : v ≠ .null) (hsound : v.IsSound)
    (hfits : v.Fits ctx.room) : Decoder.optional Decoder.kept ctx v.node = .ok (some v) := by
  have hkeep := keep_node_of_isSound v ctx.room hsound hfits
  have hne : v.node ≠ .null := by
    intro heq
    rw [heq] at hkeep
    exact hv (Except.ok.inj hkeep).symm
  rw [Decoder.optional_of_ne_null hne, Decoder.kept, hkeep]
  rfl

/-- The doubles of a value. -/
def Value.doubles (v : Value) : List Float :=
  v.numbers.filterMap fun n => match n with
    | .integer _ => none
    | .double x => some x

theorem Value.IsSound.isSound_of_mem_numbers {v : Value} (h : v.IsSound) :
    ∀ n ∈ v.numbers, n.IsSound := by
  induction h with
  | null | bool | string => simp [numbers]
  | number h => simpa [numbers] using h
  | array _ ih => simpa [numbers, itemNumbers_eq_flatMap] using fun n v hv hn => ih v hv n hn
  | object _ _ ih =>
    rw [numbers, memberNumbers_eq_flatMap, List.forall_mem_flatMap]
    exact ih

/-- A sound value whose doubles read back reads back. -/
theorem Value.IsSound.isReadable {v : Value} (h : v.IsSound)
    (hd : ∀ x ∈ v.doubles, x.isFinite = true → ReadsBack x) : v.IsReadable := by
  intro n hn
  have hsound := h.isSound_of_mem_numbers n hn
  cases n with
  | integer i => exact Number.isReadable_integer hsound
  | double x =>
    have hx : x ∈ v.doubles := List.mem_filterMap.mpr ⟨.double x, hn, rfl⟩
    exact Number.isReadable_double hsound (hd x hx hsound)

end Json

/-! ### Suggestions -/

namespace Suggestion

/-- What a suggestion that was read has: a finite confidence, and a payload that a text can stand
for within some levels. -/
structure IsReceived (room : Nat) (s : Suggestion) : Prop where
  confidence : s.confidence.isFinite = true
  payload : ∀ v ∈ s.payload, v ≠ .null ∧ v.IsSound ∧ v.depth ≤ room

/-- What the draft of a suggestion that is read has. -/
structure Draft.IsReceived (room : Nat) (d : Draft) : Prop where
  confidence : ∀ x ∈ d.confidence, x.isFinite = true
  payload : ∀ v, d.payload = some (some v) → v ≠ .null ∧ v.IsSound ∧ v.depth ≤ room

theorem Draft.isReceived_fill {inner : Context} {slot : Slot Draft} (hslot : slot ∈ shape.slots)
    {n : Node} {d d' : Draft} (hd : d.IsReceived inner.room)
    (h : slot.fill inner n d = .ok d') : d'.IsReceived inner.room := by
  simp only [shape, List.mem_cons, List.not_mem_nil, or_false] at hslot
  obtain rfl | rfl | rfl | rfl | rfl | rfl | rfl | rfl | rfl := hslot <;>
    obtain ⟨a, ha, rfl⟩ := Slot.fill_eq_ok h
  case inr.inr.inr.inr.inr.inl =>
    refine ⟨?_, hd.payload⟩
    rintro x ⟨⟩
    exact isFinite_of_double ha
  case inr.inr.inr.inr.inr.inr.inr.inl =>
    refine ⟨hd.confidence, ?_⟩
    rintro v ⟨⟩
    exact isSound_of_optional_kept ha
  all_goals exact ⟨hd.confidence, hd.payload⟩

/-- **A suggestion that is read** has a finite confidence and a sound payload. -/
theorem isReceived_of_decoder {ctx : Context} {n : Node} {s : Suggestion} {room : Nat}
    (hroom : ctx.room = room + 1) (h : decoder ctx n = .ok s) : s.IsReceived room := by
  have hslot : ∀ inner, ctx.inside = .ok inner → ∀ slot ∈ shape.slots, ∀ n d d',
      d.IsReceived room → slot.fill inner n d = .ok d' → d'.IsReceived room := by
    intro inner hinner slot hslot n d d' hd hfill
    have hinner := Context.room_of_inside hinner
    obtain rfl : inner.room = room := by omega
    exact Draft.isReceived_fill hslot hd hfill
  obtain ⟨d, ⟨hconfidence, hpayload⟩, hbuild⟩ :=
    RecordShape.exists_of_decoder (I := Draft.IsReceived room) ⟨by simp [shape], by simp [shape]⟩
      hslot h
  simp only [shape, Draft.build, Option.bind_eq_bind, Option.bind_eq_some_iff] at hbuild
  obtain ⟨_, -, _, -, _, -, _, -, x, hx, _, -, _, -, hs⟩ := hbuild
  cases hs
  exact ⟨hconfidence x hx, fun v hv => hpayload v (Option.join_eq_some_iff.mp hv)⟩

/-- The doubles of a suggestion. -/
def doubles (s : Suggestion) : List Float :=
  s.confidence :: match s.payload with
    | some v => v.doubles
    | none => []

theorem payload_fits {room : Nat} {s : Suggestion} (h : s.IsReceived room)
    (hd : ∀ x ∈ s.doubles, x.isFinite = true → ReadsBack x) {v : Value} (hv : v ∈ s.payload) :
    v.Fits room := by
  obtain ⟨-, hsound, hdepth⟩ := h.payload v hv
  refine ⟨hsound.isReadable fun x hx => hd x (List.mem_cons_of_mem _ ?_), hdepth⟩
  rw [Option.mem_def.mp hv]
  exact hx

theorem isReadable_confidence {room : Nat} {s : Suggestion} (h : s.IsReceived room)
    (hd : ∀ x ∈ s.doubles, x.isFinite = true → ReadsBack x) :
    (Number.double s.confidence).IsReadable :=
  Number.isReadable_double h.confidence (hd _ List.mem_cons_self h.confidence)

theorem fits_toValue {room : Nat} {s : Suggestion} (h : s.IsReceived room)
    (hd : ∀ x ∈ s.doubles, x.isFinite = true → ReadsBack x) : s.toValue.Fits (room + 1) := by
  have hconfidence : (Value.number (.double s.confidence)).Fits room :=
    ⟨by simpa [Value.IsReadable, Value.numbers] using isReadable_confidence h hd, Nat.zero_le _⟩
  simp only [toValue, Value.fits_object, List.forall_mem_append, forall_mem_fieldIfAny]
  simp [field, hconfidence]
  exact fun v hv => payload_fits h hd hv

/-- **A received suggestion is read back** from its written form. -/
theorem decoder_node {room : Nat} {s : Suggestion} (h : s.IsReceived room)
    (hd : ∀ x ∈ s.doubles, x.isFinite = true → ReadsBack x) (buffered : Bool) :
    decoder ⟨buffered, room + 1⟩ s.toValue.node = .ok s := by
  have hconfidence : Decoder.double ⟨buffered, room⟩ (Value.number (.double s.confidence)).node =
      .ok s.confidence := by
    simp only [Value.node, Decoder.double, (isReadable_confidence h hd).value_numeral]
    rfl
  have hpayload : ∀ {d : Draft}, d.payload = none → shape.Takes ⟨buffered, room⟩ d
      (fieldIfAny "payload" (fun v => v) s.payload) { d with payload := s.payload.map some } := by
    intro d hnone
    have hfits := fun v hv => payload_fits h hd (v := v) hv
    have hreceived := h.payload
    cases hv : s.payload with
    | none =>
      rw [Option.map_none, ← hnone]
      rfl
    | some v =>
      obtain ⟨hne, hsound, -⟩ := hreceived v hv
      exact .cons rfl hnone (optional_kept_node hne hsound (hfits v hv)) rfl
  refine RecordShape.Takes.decoder (d := ⟨some s.id, some s.title, some s.description, some s.kind,
    some s.priority, some s.confidence, some s.status, s.payload.map some, some s.createdAt⟩) ?_ ?_
  · show shape.Takes _ {} _ _
    simp only [List.append_assoc]
    refine .cons rfl rfl rfl ?_; dsimp only
    refine .cons rfl rfl rfl ?_; dsimp only
    refine .cons rfl rfl (Decoder.optionalString_node _ _) ?_; dsimp only
    refine .cons rfl rfl rfl ?_; dsimp only
    refine .cons rfl rfl rfl ?_; dsimp only
    refine .cons rfl rfl hconfidence ?_; dsimp only
    refine .cons rfl rfl rfl ?_; dsimp only
    refine (hpayload rfl).append ?_; dsimp only
    exact .cons rfl rfl rfl rfl
  · cases s with
    | mk id title description kind priority confidence status payload createdAt =>
      cases payload <;> rfl

end Suggestion

/-! ### Server messages -/

namespace ServerMessage

/-- The doubles of a message. -/
def doubles : ServerMessage → List Float
  | .suggestionNew s => s.doubles
  | _ => []

/-- A suggestion that was received leaves room for the levels around it. -/
theorem isReceived_of_decode {text : String} {s : Suggestion}
    (h : decode text = .ok (.suggestionNew s)) : s.IsReceived 125 := by
  obtain ⟨n, -, hm⟩ := decodeText_eq_ok.mp h
  obtain ⟨t, -, hcontent⟩ := bind_eq_ok hm
  cases hkind : t.tag with
  | suggestionNew =>
    rw [hkind] at hcontent
    obtain ⟨s', hread, hs⟩ := map_eq_ok hcontent
    cases hs
    have hslot : ∀ inner, Context.inside { Context.direct with buffered := true } = .ok inner →
        ∀ slot ∈ suggestionShape.slots, ∀ n d d', (∀ s ∈ d, s.IsReceived 125) →
          slot.fill inner n d = .ok d' → ∀ s ∈ d', s.IsReceived 125 := by
      intro inner hinner slot hslot n d d' _ hfill s hs
      obtain rfl := List.mem_singleton.mp hslot
      obtain ⟨a, ha, rfl⟩ := Slot.fill_eq_ok hfill
      cases hs
      cases hinner
      exact Suggestion.isReceived_of_decoder rfl ha
    obtain ⟨d, hd, hbuild⟩ := RecordShape.exists_of_decoder
      (I := fun d => ∀ s ∈ d, Suggestion.IsReceived 125 s) (by simp [suggestionShape]) hslot hread
    exact hd s hbuild
  | _ =>
    rw [hkind] at hcontent
    obtain ⟨a, -, ha⟩ := map_eq_ok hcontent
    cases ha

/-- A suggestion is read back from its frame where its payload leaves room for the levels around
it. -/
theorem decode_suggestionNew {s : Suggestion} (hs : s.IsReceived 125)
    (hd : ∀ x ∈ s.doubles, x.isFinite = true → ReadsBack x) :
    decode (encode (.suggestionNew s)) = .ok (.suggestionNew s) := by
  have hread : suggestionShape.decoder ⟨true, 127⟩
      (Value.object (field "suggestion" s.toValue)).node = .ok s := by
    refine RecordShape.Takes.decoder (d := some s) ?_ rfl
    exact .cons rfl rfl (Suggestion.decoder_node hs hd true) rfl
  refine decode_tagged ?_ (congrArg (Except.map suggestionNew) hread)
  simpa [field, Tagged.key] using Suggestion.fits_toValue hs hd

/-- **A received message is read back from its frame** as it was received, however the frame that
it came in was spelled. -/
theorem decode_encode_of_decode {text : String} {m : ServerMessage} (h : decode text = .ok m)
    (hd : ∀ x ∈ m.doubles, x.isFinite = true → ReadsBack x) : decode m.encode = .ok m := by
  cases m with
  | suggestionNew s => exact decode_suggestionNew (isReceived_of_decode h) hd
  | _ => exact decode_encode (m := _) (by trivial)

set_option maxRecDepth 2000 in
/-- The frame is an array with a suggestion of other fields, another order and other spellings than
the suggestion is written with. Its payload has a name twice and the largest integer of 64 bits. -/
theorem decode_encode_of_decode_of_respelled :
    let text := "[ \"suggestion.new\", \x7b \"title\":\"\", \"id\":\"s\", \"other\":[\x7b\x7d, 1e9],
      \"payload\":\x7b\"b\":-0, \"a\":18446744073709551615, \"b\":[1.50, \"\\u00e9\\n\"]\x7d,
      \"suggestion_type\":\"t\", \"priority\":\"p\", \"confidence\":5e-1, \"status\":\"new\",
      \"created_at\":\"now\" \x7d ]"
    let m := suggestionNew ⟨"s", "", none, "t", "p", 0.5, "new", some (.object
      [("a", .number (.integer 18446744073709551615)),
        ("b", .array [.number (.double 1.5), .string "é\n"])]), "now"⟩
    decode text = .ok m ∧ (∀ x ∈ m.doubles, x.isFinite = true → ReadsBack x) ∧
      decode m.encode = .ok m := by
  intro text m
  have hdecode : decode text = .ok m := by
    -- The characters of a literal are at hand. To compute them from its bytes takes long.
    have hchars : text.toList = _ := String.toList_ofList
    rw [decode, decodeText, Document.ofText, hchars]
    decide +kernel
  have hdoubles : ∀ x ∈ m.doubles, x.isFinite = true → ReadsBack x := by decide +kernel
  exact ⟨hdecode, hdoubles, decode_encode_of_decode hdecode hdoubles⟩

end ServerMessage

end LiveBoard
