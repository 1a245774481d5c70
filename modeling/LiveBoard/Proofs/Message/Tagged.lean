import LiveBoard.Message.Wire
import LiveBoard.Proofs.Json.Respell

/-!
# Tagged documents

A tagged document is read as a whole before its content is looked at. So it must be one that can be
kept, and exactly one of its members is the tag, wherever it stands. The content is made of the
others in their order. A change to the document that leaves the tag alone is a change to the
content, so that a document that was written anew is decoded as before if the decoder of its content
tolerates such changes.

## Main definitions

* `Tagged.isTag`: the members that have the name of a tag.

## Main results

* `Tagged.read_object`, `Tagged.read_array`: what reading a tagged document does.
* `Tagged.read_change`: a change to a tagged document.
* `Tagged.decodeText_of_respells`: what is decoded from a text that was written anew.
-/

namespace LiveBoard.Json.Tagged

variable {τ : Type} {name : String} {known : String → Except ReadError τ} {ctx : Context}
  {room : Nat} {n : Node} {ms rest : List (Key × Node)} {t : τ} {x : Option τ × List (Key × Node)}

/-- The member has the name of a tag. -/
def isTag (m : Key × Node) : Bool :=
  match m.1 with
  | .ok k => k == key
  | .error _ => false

/-! ### Taking out the tag -/

theorem readTag_eq_ok :
    readTag known n = .ok t ↔ ∃ s, n = .string (.ok s) ∧ known s = .ok t := by
  constructor
  · intro h
    cases n with
    | string s =>
      obtain ⟨s, hs, h⟩ := bind_eq_ok h
      exact ⟨s, congrArg Node.string (fromFault_eq_ok hs), h⟩
    | _ => cases h
  · rintro ⟨s, rfl, h⟩
    exact h

theorem fromMembers_cons_of_ne {tag : Option τ} {k : String} (hk : k ≠ key) :
    fromMembers known room tag ((.ok k, n) :: ms) = .ok x ↔
      n.IsReadable room ∧ ∃ y, fromMembers known room tag ms = .ok y ∧
        x = (y.1, (.ok k, n) :: y.2) := by
  have hstep : fromMembers known room tag ((.ok k, n) :: ms) = (do
      let _ ← fromFault (n.keep room)
      let y ← fromMembers known room tag ms
      return (y.1, (.ok k, n) :: y.2)) := if_neg hk
  rw [hstep]
  constructor
  · intro h
    obtain ⟨v, hv, h⟩ := bind_eq_ok h
    obtain ⟨y, hy, h⟩ := bind_eq_ok h
    exact ⟨⟨v, fromFault_eq_ok hv⟩, y, hy, (Except.ok.inj h).symm⟩
  · rintro ⟨⟨v, hv⟩, y, hy, rfl⟩
    rw [hv, hy]
    rfl

theorem fromMembers_cons_tag : fromMembers known room none ((.ok key, n) :: ms) = .ok x ↔
    ∃ t, readTag known n = .ok t ∧ fromMembers known room (some t) ms = .ok x := by
  have hstep : fromMembers known room none ((.ok key, n) :: ms) =
      readTag known n >>= fun t => fromMembers known room (some t) ms := rfl
  rw [hstep]
  constructor
  · exact bind_eq_ok
  · rintro ⟨t, ht, h⟩
    rw [ht]
    exact h

/-- Behind the tag every member is kept, and none of them is another tag. -/
theorem fromMembers_some : fromMembers known room (some t) ms = .ok x ↔
    x = (some t, ms) ∧ ∀ m ∈ ms, ReadableMember room m ∧ isTag m = false := by
  induction ms generalizing x with
  | nil => exact ⟨fun h => ⟨(Except.ok.inj h).symm, nofun⟩, fun h => congrArg Except.ok h.1.symm⟩
  | cons m ms ih =>
    obtain ⟨k | k, n⟩ := m
    · exact ⟨nofun, fun h => nomatch (h.2 _ List.mem_cons_self).1.1⟩
    · rw [List.forall_mem_cons]
      by_cases hk : k = key
      · subst hk
        exact ⟨nofun, fun h => nomatch h.2.1.2⟩
      · rw [fromMembers_cons_of_ne hk]
        constructor
        · rintro ⟨hn, y, hy, rfl⟩
          obtain ⟨rfl, hms⟩ := ih.mp hy
          exact ⟨rfl, ⟨⟨⟨k, rfl⟩, hn⟩, beq_false_of_ne hk⟩, hms⟩
        · rintro ⟨rfl, ⟨⟨-, hn⟩, -⟩, hms⟩
          exact ⟨hn, _, ih.mpr ⟨rfl, hms⟩, rfl⟩

/-- **Taking out the tag**: the members can be kept, one of them is the tag, and the others are left
in order. -/
theorem fromMembers_none : fromMembers known room none ms = .ok (some t, rest) ↔
    (∀ m ∈ ms, ReadableMember room m) ∧ rest = ms.filter (!isTag ·) ∧
      ∃ s, ms.filter isTag = [(.ok key, .string (.ok s))] ∧ known s = .ok t := by
  induction ms generalizing rest with
  | nil => simp [fromMembers]
  | cons m ms ih =>
    obtain ⟨k | k, n⟩ := m
    · exact ⟨nofun, fun h => nomatch (h.1 _ List.mem_cons_self).1⟩
    · rw [List.forall_mem_cons]
      by_cases hk : k = key
      · subst hk
        have htag : isTag (.ok key, n) = true := rfl
        rw [fromMembers_cons_tag, List.filter_cons_of_pos htag,
          List.filter_cons_of_neg (by simp [htag])]
        constructor
        · rintro ⟨t', ht', h⟩
          obtain ⟨s, rfl, hs⟩ := readTag_eq_ok.mp ht'
          obtain ⟨heq, hms⟩ := fromMembers_some.mp h
          cases heq
          refine ⟨⟨⟨⟨key, rfl⟩, isReadable_string s⟩, fun m hm => (hms m hm).1⟩, ?_, s, ?_, hs⟩
          · rw [List.filter_eq_self.mpr fun m hm => by simp [(hms m hm).2]]
          · rw [List.filter_eq_nil_iff.mpr fun m hm => by simp [(hms m hm).2]]
        · rintro ⟨⟨-, hms⟩, rfl, s, htags, hs⟩
          obtain ⟨heq, hnone⟩ := List.cons.inj htags
          cases heq
          have hother : ∀ m ∈ ms, isTag m = false := by simpa using hnone
          refine ⟨t, readTag_eq_ok.mpr ⟨s, rfl, hs⟩, fromMembers_some.mpr ⟨?_, fun m hm => ?_⟩⟩
          · rw [List.filter_eq_self.mpr fun m hm => by simp [hother m hm]]
          · exact ⟨hms m hm, hother m hm⟩
      · have htag : isTag (.ok k, n) = false := beq_false_of_ne hk
        rw [fromMembers_cons_of_ne hk, List.filter_cons_of_pos (by simp [htag]),
          List.filter_cons_of_neg (by simp [htag])]
        constructor
        · rintro ⟨hn, ⟨tag, others⟩, hy, heq⟩
          cases heq
          obtain ⟨hms, rfl, s, htags, hs⟩ := ih.mp hy
          exact ⟨⟨⟨⟨k, rfl⟩, hn⟩, hms⟩, rfl, s, htags, hs⟩
        · rintro ⟨⟨⟨-, hn⟩, hms⟩, rfl, s, htags, hs⟩
          exact ⟨hn, _, ih.mpr ⟨hms, rfl, s, htags, hs⟩, rfl⟩

/-! ### Reading -/

/-- **Reading an object with a tag**: the object can be kept, one of its members is the tag, and the
content is made of the others. -/
theorem read_object {ending : Ending} {x : Tagged τ} :
    read name known ctx (.object ms ending) = .ok x ↔
      (Node.object ms ending).IsReadable ctx.room ∧
        x.content = .object (ms.filter (!isTag ·)) .closed ∧
          ∃ s, ms.filter isTag = [(.ok key, .string (.ok s))] ∧ known s = .ok x.tag := by
  obtain ⟨buffered, room⟩ := ctx
  obtain ⟨t, content⟩ := x
  rw [isReadable_object]
  constructor
  · intro h
    obtain ⟨inner, hinner, h⟩ := bind_eq_ok h
    obtain ⟨⟨tag, rest⟩, hrest, h⟩ := bind_eq_ok h
    obtain ⟨⟨⟩, hclosed, h⟩ := bind_eq_ok h
    cases tag with
    | none => cases h
    | some t' =>
      cases h
      obtain ⟨hms, rfl, s, htags, hs⟩ := fromMembers_none.mp hrest
      exact ⟨⟨inner.room, (Context.room_of_inside hinner).symm,
        kept_eq_ok.mp (fromFault_eq_ok hclosed), hms⟩, rfl, s, htags, hs⟩
  · rintro ⟨⟨inner, rfl, rfl, hms⟩, rfl, s, htags, hs⟩
    have hrest := fromMembers_none.mpr ⟨hms, rfl, s, htags, hs⟩
    show fromMembers known inner none ms >>= _ = _
    rw [hrest]
    rfl

/-- **Reading an array with a tag**: the array can be kept, its first item is the tag, and the
content is made of the others. -/
theorem read_array {ns : List Node} {ending : Ending} {x : Tagged τ} :
    read name known ctx (.array ns ending) = .ok x ↔
      (Node.array ns ending).IsReadable ctx.room ∧
        ∃ s rest, ns = .string (.ok s) :: rest ∧ x.content = .array rest .closed ∧
          known s = .ok x.tag := by
  obtain ⟨buffered, room⟩ := ctx
  obtain ⟨t, content⟩ := x
  rw [isReadable_array]
  constructor
  · intro h
    cases ns with
    | nil =>
      obtain ⟨inner, hinner, h⟩ := bind_eq_ok h
      obtain ⟨⟨⟩, -, h⟩ := bind_eq_ok h
      cases h
    | cons n ns =>
      obtain ⟨inner, hinner, h⟩ := bind_eq_ok h
      obtain ⟨t', ht', h⟩ := bind_eq_ok h
      obtain ⟨vs, hvs, h⟩ := bind_eq_ok h
      obtain ⟨⟨⟩, hclosed, h⟩ := bind_eq_ok h
      cases h
      obtain ⟨s, rfl, hs⟩ := readTag_eq_ok.mp ht'
      refine ⟨⟨inner.room, (Context.room_of_inside hinner).symm,
        kept_eq_ok.mp (fromFault_eq_ok hclosed), ?_⟩, s, ns, rfl, rfl, hs⟩
      exact List.forall_mem_cons.mpr
        ⟨isReadable_string s, keepItems_eq_ok.mp ⟨vs, fromFault_eq_ok hvs⟩⟩
  · rintro ⟨⟨inner, rfl, rfl, hns⟩, s, rest, rfl, rfl, hs⟩
    obtain ⟨vs, hvs⟩ := keepItems_eq_ok.mpr (List.forall_mem_cons.mp hns).2
    show known s >>= _ = _
    rw [hs]
    show fromFault (keepItems inner rest) >>= _ = _
    rw [hvs]
    rfl

theorem isReadable_of_read {x : Tagged τ} (h : read name known ctx n = .ok x) :
    n.IsReadable ctx.room := by
  cases n with
  | object => exact (read_object.mp h).1
  | array => exact (read_array.mp h).1
  | _ => cases h

theorem exists_known {x : Tagged τ} (h : read name known ctx n = .ok x) :
    ∃ s, known s = .ok x.tag := by
  cases n with
  | object =>
    obtain ⟨-, -, s, -, hs⟩ := read_object.mp h
    exact ⟨s, hs⟩
  | array =>
    obtain ⟨-, s, -, -, -, hs⟩ := read_array.mp h
    exact ⟨s, hs⟩
  | _ => cases h

/-! ### Changes -/

/-- **A change to a tagged document** leaves its tag, and is a change to its content. -/
theorem read_change {fields : List (String × Form)} (hkey : key ∉ fields.map Prod.fst)
    {n n' : Node} (hchange : (Form.record ((key, .plain) :: fields)).Changes n n')
    (hread : n'.IsReadable ctx.room) {x : Tagged τ} (h : read name known ctx n = .ok x) :
    ∃ content, read name known ctx n' = .ok ⟨x.tag, content⟩ ∧
      (Form.record fields).Changes x.content content ∧ content.IsReadable ctx.room := by
  have hsound {ms : List (Key × Node)} {ending : Ending}
      (h : (Node.object ms ending).IsReadable ctx.room) :
      (Node.object (ms.filter (!isTag ·)) .closed).IsReadable ctx.room := by
    obtain ⟨inner, hroom, rfl, hms⟩ := isReadable_object.mp h
    exact isReadable_object.mpr ⟨inner, hroom, rfl, fun m hm => hms m (List.mem_filter.mp hm).1⟩
  cases hchange with
  | order hperm =>
    obtain ⟨-, hcontent, s, htags, hs⟩ := read_object.mp h
    rw [hcontent]
    refine ⟨_, read_object.mpr ⟨hread, rfl, s, ?_, hs⟩, .order (hperm.filter _), hsound hread⟩
    exact List.perm_singleton.mp (htags ▸ (hperm.filter isTag).symm)
  | @member _ ms _ k n hnew =>
    obtain ⟨hne, hnew⟩ : k ≠ key ∧ k ∉ fields.map Prod.fst := by simpa using hnew
    have htag : isTag (.ok k, n) = false := beq_false_of_ne hne
    obtain ⟨-, hcontent, s, htags, hs⟩ := read_object.mp h
    rw [hcontent]
    refine ⟨_, read_object.mpr ⟨hread, rfl, s, ?_, hs⟩, ?_, hsound hread⟩
    · rw [List.filter_cons_of_neg (by simp [htag]), htags]
    · rw [List.filter_cons_of_pos (by simp [htag])]
      exact .member hnew
  | @field _ before after _ k form n n' hknown hchange =>
    rcases List.mem_cons.mp hknown with heq | hknown
    · cases heq
      cases hchange
    · have hne : k ≠ key := fun heq => hkey (heq ▸ List.mem_map_of_mem hknown)
      have htag (n : Node) : isTag (.ok k, n) = false := beq_false_of_ne hne
      obtain ⟨-, hcontent, s, htags, hs⟩ := read_object.mp h
      rw [hcontent]
      refine ⟨_, read_object.mpr ⟨hread, rfl, s, ?_, hs⟩, ?_, hsound hread⟩
      · rw [List.filter_append, List.filter_cons_of_neg (by simp [htag])] at htags ⊢
        exact htags
      · rw [List.filter_append, List.filter_append, List.filter_cons_of_pos (by simp [htag]),
          List.filter_cons_of_pos (by simp [htag])]
        exact .field hknown hchange
  | @element _ before after _ k form n n' hknown hchange =>
    obtain ⟨-, s, rest, hns, hcontent, hs⟩ := read_array.mp h
    cases before with
    | nil =>
      cases hknown
      cases hchange
    | cons m before =>
      obtain ⟨rfl, rfl⟩ := List.cons.inj hns
      obtain ⟨inner, hroom, rfl, hns'⟩ := isReadable_array.mp hread
      rw [hcontent]
      exact ⟨_, read_array.mpr ⟨hread, s, _, rfl, rfl, hs⟩, .element hknown hchange,
        isReadable_array.mpr ⟨inner, hroom, rfl, (List.forall_mem_cons.mp hns').2⟩⟩

/-- **A tagged document that was written anew** is decoded as it was before, if the decoder of its
content tolerates changes. -/
theorem decodeText_of_respells {α : Type} {content : τ → Decoder α} {a : α}
    {fields : List (String × Form)} {text text' : String} (hkey : key ∉ fields.map Prod.fst)
    (hcontent : ∀ {s t ctx c c'}, known s = .ok t → (Form.record fields).Changes c c' →
      c'.IsReadable ctx.room → content t ctx c = .ok a → content t ctx c' = .ok a)
    (hrespells :
      Relation.ReflTransGen (Form.record ((key, .plain) :: fields)).Respells text text')
    (h : decodeText (fun ctx n => do
      let tagged ← Tagged.read name known ctx n
      content tagged.tag { ctx with buffered := true } tagged.content) text = .ok a) :
    decodeText (fun ctx n => do
      let tagged ← Tagged.read name known ctx n
      content tagged.tag { ctx with buffered := true } tagged.content) text' = .ok a := by
  refine Json.decodeText_of_respells (fun hm => ?_) (fun hchange hread hm => ?_) hrespells h
  · obtain ⟨x, hx, -⟩ := bind_eq_ok hm
    exact isReadable_of_read hx
  · obtain ⟨x, hx, hm⟩ := bind_eq_ok hm
    obtain ⟨s, hs⟩ := exists_known hx
    obtain ⟨c, hc, hinner, hreadable⟩ := read_change hkey hchange hread hx
    rw [hc]
    exact hcontent hs hinner hreadable hm

end LiveBoard.Json.Tagged
