import LiveBoard.Message.Wire
import LiveBoard.Proofs.Json.Record

/-!
# Messages read back from their frames

A message that is written as a frame is read back from it as it was. The exception is a new
suggestion: its confidence is a double that need not survive, and the frame of it may be no
message at all. If it is one, it is a new suggestion.

## Main results

* `Task.reads`, `Patch.reads`: tasks and patches are read back.
* `ServerMessage.decode_encode`, `ClientMessage.decode_encode`: messages are read back.
* `ServerMessage.eq_suggestionNew_of_decode`: what the frame of a suggestion may be read as.
-/

namespace LiveBoard

open Json

/-! ### Tasks and patches -/

theorem Status.reads : Status.decoder.Reads Status.toValue := by
  rintro ctx (_ | _ | _ | _) _ <;> rfl

theorem Status.reads_optional (ctx : Context) (s : Status) :
    Decoder.optional Status.decoder ctx s.toValue.node = .ok (some s) := by
  cases s <;> rfl

@[simp] theorem Status.fits_toValue (room : Nat) (s : Status) : s.toValue.Fits room :=
  Value.fits_string s.name

theorem Decoder.optionalString_node (ctx : Context) (o : Option String) :
    Decoder.optional Decoder.string ctx (Value.optionalString o).node = .ok o := by
  cases o <;> rfl

theorem Task.fits_toValue (t : Task) : t.toValue.Fits 1 := by
  simp [Task.toValue]

/-- A task is read back from its written form. -/
theorem Task.reads : Task.decoder.Reads Task.toValue := by
  rintro ⟨buffered, _ | room⟩ t hdepth
  · simp [Task.toValue, Value.depth] at hdepth
  · refine RecordShape.Takes.decoder (d := ⟨some t.id, some t.boardId, some t.title,
      some t.description, some t.status, some t.priority, some t.dueAt, some t.assignedAgentId,
      some t.createdByUserId, some t.createdAt, some t.updatedAt⟩) ?_ rfl
    -- after every step the draft is written out again, so that it does not grow
    show Task.shape.Takes _ {} _ _
    refine .cons rfl rfl rfl ?_; dsimp only
    refine .cons rfl rfl rfl ?_; dsimp only
    refine .cons rfl rfl rfl ?_; dsimp only
    refine .cons rfl rfl (Decoder.optionalString_node _ _) ?_; dsimp only
    refine .cons rfl rfl (Status.reads _ _ (Status.fits_toValue room t.status).2) ?_; dsimp only
    refine .cons rfl rfl rfl ?_; dsimp only
    refine .cons rfl rfl (Decoder.optionalString_node _ _) ?_; dsimp only
    refine .cons rfl rfl (Decoder.optionalString_node _ _) ?_; dsimp only
    refine .cons rfl rfl (Decoder.optionalString_node _ _) ?_; dsimp only
    refine .cons rfl rfl rfl ?_; dsimp only
    refine .cons rfl rfl rfl ?_
    rfl

theorem Patch.fits_toValue (p : Patch) : p.toValue.Fits 1 := by
  simp only [Patch.toValue, Value.fits_object, List.forall_mem_append, forall_mem_fieldIfAny]
  simp

/-- A patch is read back from its written form: a field that was left out stays so, and one that
was cleared is cleared. -/
theorem Patch.reads : Patch.decoder.Reads Patch.toValue := by
  rintro ⟨buffered, _ | room⟩ p hdepth
  · simp [Patch.toValue, Value.depth] at hdepth
  · refine RecordShape.Takes.decoder (d := ⟨p.boardId.map some, p.title.map some,
      p.description.map id, p.status.map some, p.previousStatus.map some, p.priority.map some,
      p.dueAt.map id, p.assignedAgentId.map id, p.createdByUserId.map id, p.createdAt.map some,
      p.updatedAt.map some⟩) ?_ ?_
    · have hstring : ∀ s, Decoder.optional Decoder.string ⟨buffered, room⟩ (Value.string s).node =
          .ok (some s) := fun _ => rfl
      have hcleared := Decoder.optionalString_node ⟨buffered, room⟩
      have hstatus := Status.reads_optional ⟨buffered, room⟩
      show Patch.shape.Takes _ {} _ _
      simp only [List.append_assoc]
      refine .consIfAny (fun d o => { d with boardId := o }) rfl rfl rfl (fun _ => rfl) hstring ?_
      dsimp only
      refine .consIfAny (fun d o => { d with title := o }) rfl rfl rfl (fun _ => rfl) hstring ?_
      dsimp only
      refine .consIfAny (fun d o => { d with description := o }) rfl rfl rfl (fun _ => rfl)
        hcleared ?_
      dsimp only
      refine .consIfAny (fun d o => { d with status := o }) rfl rfl rfl (fun _ => rfl) hstatus ?_
      dsimp only
      refine .consIfAny (fun d o => { d with previousStatus := o }) rfl rfl rfl (fun _ => rfl)
        hstatus ?_
      dsimp only
      refine .consIfAny (fun d o => { d with priority := o }) rfl rfl rfl (fun _ => rfl) hstring ?_
      dsimp only
      refine .consIfAny (fun d o => { d with dueAt := o }) rfl rfl rfl (fun _ => rfl) hcleared ?_
      dsimp only
      refine .consIfAny (fun d o => { d with assignedAgentId := o }) rfl rfl rfl (fun _ => rfl)
        hcleared ?_
      dsimp only
      refine .consIfAny (fun d o => { d with createdByUserId := o }) rfl rfl rfl (fun _ => rfl)
        hcleared ?_
      dsimp only
      refine .consIfAny (fun d o => { d with createdAt := o }) rfl rfl rfl (fun _ => rfl) hstring ?_
      dsimp only
      exact RecordShape.takes_fieldIfAny (fun (d : Patch.Draft) o => { d with updatedAt := o })
        rfl rfl rfl (fun _ => rfl) hstring
    · have hjoin : ∀ {α : Type} (o : Option α), (o.map some).join = o := by
        rintro _ (_ | _) <;> rfl
      simp only [Patch.shape, Patch.Draft.build, hjoin, Option.map_id, id]

/-! ### Tagged documents -/

namespace Json

/-- Written members that are no tags are kept as they are. -/
theorem Tagged.fromMembers_memberNodes {τ : Type} (known : String → Except ReadError τ)
    (room : Nat) (tag : Option τ) {ms : List (String × Value)}
    (h : ∀ m ∈ ms, m.1 ≠ Tagged.key ∧ m.2.Fits room) :
    Tagged.fromMembers known room tag (Value.memberNodes ms) =
      .ok (tag, Value.memberNodes ms) := by
  induction ms with
  | nil => rfl
  | cons m ms ih =>
    obtain ⟨⟨hkey, hfits⟩, hms⟩ := List.forall_mem_cons.mp h
    obtain ⟨w, hw⟩ := hfits.keep_node
    simp only [Value.memberNodes, Tagged.fromMembers, fromFault, bind, Except.bind, if_neg hkey,
      hw, ih hms, pure, Except.pure]

/-- The tag of a written record is read, and its fields are kept. -/
theorem Tagged.read_tagged {τ : Type} (name tag : String)
    (known : String → Except ReadError τ) {t : τ} {fields : List (String × Value)}
    (htag : known tag = .ok t)
    (h : ∀ m ∈ fields, m.1 ≠ Tagged.key ∧ m.2.Fits 126) :
    Tagged.read name known .direct (Value.tagged tag fields).node =
      .ok ⟨t, (Value.object fields).node⟩ := by
  have hmembers : Tagged.fromMembers known 126 none
      (Value.memberNodes ((Tagged.key, .string tag) :: fields)) =
        .ok (some t, Value.memberNodes fields) :=
    calc Tagged.fromMembers known 126 none
          (Value.memberNodes ((Tagged.key, .string tag) :: fields))
        = (known tag).bind fun t => Tagged.fromMembers known 126 (some t)
            (Value.memberNodes fields) := rfl
      _ = .ok (some t, Value.memberNodes fields) := by
          rw [htag, Except.bind, Tagged.fromMembers_memberNodes known 126 (some t) h]
  have hnode : (Value.tagged tag fields).node =
      .object (Value.memberNodes ((Tagged.key, .string tag) :: fields)) .closed := rfl
  have hinside : Context.direct.inside = .ok ⟨false, 126⟩ := rfl
  rw [hnode, Tagged.read, hinside]
  simp only [bind, Except.bind, hmembers]
  rfl

/-- The written form of a tagged record reads back from its text. -/
theorem Value.isReadable_tagged {tag : String} {fields : List (String × Value)}
    (h : ∀ m ∈ fields, m.1 ≠ Tagged.key ∧ m.2.Fits 126) : (Value.tagged tag fields).IsReadable := by
  have hfits : (Value.tagged tag fields).Fits 127 := by
    rw [Value.tagged, Value.fits_object, List.forall_mem_cons]
    exact ⟨Value.fits_string tag, fun m hm => (h m hm).2⟩
  exact hfits.1

/-- **A tagged record is read back from its text** when its content is. -/
theorem decodeText_tagged {τ α : Type} (name tag : String) (known : String → Except ReadError τ)
    (content : τ → Decoder α) {t : τ} {a : α} {fields : List (String × Value)}
    (htag : known tag = .ok t) (h : ∀ m ∈ fields, m.1 ≠ Tagged.key ∧ m.2.Fits 126)
    (hcontent : content t ⟨true, 127⟩ (Value.object fields).node = .ok a) :
    decodeText (fun ctx n => do
      let tagged ← Tagged.read name known ctx n
      content tagged.tag { ctx with buffered := true } tagged.content)
      (Value.tagged tag fields).print = .ok a := by
  have hread := Tagged.read_tagged name tag known htag h
  simp only [decodeText, ofText_print (Value.isReadable_tagged h), hread, bind, Except.bind]
  rw [show Context.direct.room = 127 from rfl, hcontent]
  rfl

end Json

/-! ### Server messages -/

namespace ServerMessage

theorem decode_tagged {tag : String} {fields : List (String × Value)} {m : ServerMessage}
    (h : ∀ m ∈ fields, m.1 ≠ Tagged.key ∧ m.2.Fits 126)
    (hcontent : content (Kind.ofName tag) ⟨true, 127⟩ (Value.object fields).node = .ok m) :
    decode (Value.tagged tag fields).print = .ok m :=
  decodeText_tagged "ServerMessage" tag (fun name => .ok (Kind.ofName name)) content rfl h hcontent

/-- The message is not a new suggestion. -/
def IsPlain : ServerMessage → Prop
  | .suggestionNew _ => False
  | _ => True

theorem fits_tasks (ts : List Task) : (Value.array (ts.map Task.toValue)).Fits 2 := by
  rw [Value.fits_array, List.forall_mem_map]
  exact fun t _ => t.fits_toValue

/-- **A server message is read back from its frame**, unless it is a new suggestion. -/
theorem decode_encode {m : ServerMessage} (h : m.IsPlain) : decode m.encode = .ok m := by
  cases m with
  | boardState s =>
    have htasks := (fits_tasks s.tasks).mono (show 2 ≤ 126 by decide)
    refine decode_tagged (by simp [Snapshot.fields, field, Tagged.key, htasks]) ?_
    have hread : Snapshot.shape.decoder ⟨true, 127⟩ (Value.object s.fields).node = .ok s := by
      refine RecordShape.Takes.decoder (d := ⟨some s.tasks, some s.timestamp⟩) ?_ rfl
      exact .cons rfl rfl (Task.reads.list _ _ htasks.2) (.cons rfl rfl rfl rfl)
    exact congrArg (Except.map ServerMessage.boardState) hread
  | taskUpdated u =>
    have hchanges := u.changes.fits_toValue.mono (show 1 ≤ 126 by decide)
    refine decode_tagged ?_ ?_
    · simp only [TaskUpdate.fields, List.forall_mem_append, forall_mem_fieldIfAny]
      simp [field, Tagged.key, hchanges]
    · have hread : TaskUpdate.shape.decoder ⟨true, 127⟩ (Value.object u.fields).node = .ok u := by
        refine RecordShape.Takes.decoder
          (d := ⟨some u.taskId, some u.changes, u.updatedBy.map some, some u.timestamp⟩) ?_ ?_
        · show TaskUpdate.shape.Takes _ {} _ _
          simp only [TaskUpdate.fields, List.append_assoc]
          refine .cons rfl rfl rfl ?_; dsimp only
          refine .cons rfl rfl (Patch.reads ⟨true, 126⟩ u.changes hchanges.2) ?_; dsimp only
          refine .consIfAny (fun d o => { d with updatedBy := o }) rfl rfl rfl (fun _ => rfl)
            (fun _ => rfl) ?_
          exact .cons rfl rfl rfl rfl
        · cases u with
          | mk taskId changes updatedBy timestamp => cases updatedBy <;> rfl
      exact congrArg (Except.map ServerMessage.taskUpdated) hread
  | taskCreated c =>
    have htask := c.task.fits_toValue.mono (show 1 ≤ 126 by decide)
    refine decode_tagged (by simp [TaskCreated.fields, field, Tagged.key, htask]) ?_
    have hread : TaskCreated.shape.decoder ⟨true, 127⟩ (Value.object c.fields).node = .ok c := by
      refine RecordShape.Takes.decoder (d := ⟨some c.task, some c.timestamp⟩) ?_ rfl
      exact .cons rfl rfl (Task.reads ⟨true, 126⟩ c.task htask.2) (.cons rfl rfl rfl rfl)
    exact congrArg (Except.map ServerMessage.taskCreated) hread
  | taskDeleted d => exact decode_tagged (by simp [TaskDeleted.fields, field, Tagged.key]) rfl
  | suggestionNew s => exact h.elim
  | heartbeatAck id =>
    refine decode_tagged ?_ ?_
    · simp only [forall_mem_fieldIfAny]
      simp [Tagged.key]
    · cases id <;> rfl
  | unknown => exact decode_tagged (by simp) rfl

end ServerMessage

/-! ### Suggestions -/

namespace Json

namespace Tagged

variable {τ : Type} {known : String → Except ReadError τ} {t : τ}

theorem tag_of_fromMembers {room : Nat} {ms : List (Key × Node)} {x : Option τ × List (Key × Node)}
    (h : fromMembers known room (some t) ms = .ok x) : x.1 = some t := by
  induction ms generalizing x with
  | nil => cases h; rfl
  | cons m ms ih =>
    obtain ⟨name, -, h⟩ := bind_eq_ok h
    split at h
    · cases h
    · obtain ⟨-, -, h⟩ := bind_eq_ok h
      obtain ⟨y, hy, h⟩ := bind_eq_ok h
      cases h
      exact (ih hy : y.1 = some t)

/-- A tagged document whose first member is a tag has that tag. -/
theorem tag_of_begins {name tag : String} {ctx : Context} {n : Node} {x : Tagged τ}
    (htag : known tag = .ok t) (hn : n.Begins (.ok key, .string (.ok tag)))
    (h : read name known ctx n = .ok x) : x.tag = t := by
  cases n with
  | object ms ending =>
    obtain ⟨ms, rfl⟩ := List.head?_eq_some_iff.mp hn
    obtain ⟨inner, -, h⟩ := bind_eq_ok h
    obtain ⟨y, hy, h⟩ := bind_eq_ok h
    obtain ⟨-, -, h⟩ := bind_eq_ok h
    have hfirst : fromMembers known inner.room (some t) ms = .ok y := by
      rw [← hy]
      simp [fromMembers, fromFault, readTag, htag, bind, Except.bind]
    rw [tag_of_fromMembers hfirst] at h
    cases h
    rfl
  | _ => exact hn.elim

end Tagged

end Json

namespace ServerMessage

/-- **What the frame of a suggestion may be read as**: a suggestion, or no message at all. -/
theorem eq_suggestionNew_of_decode {s : Suggestion} {m : ServerMessage}
    (h : decode (encode (.suggestionNew s)) = .ok m) : ∃ s', m = .suggestionNew s' := by
  obtain ⟨m', hm', h⟩ := bind_eq_ok h
  obtain ⟨t, ht, hcontent⟩ := bind_eq_ok hm'
  have htag : t.tag = .suggestionNew :=
    Tagged.tag_of_begins rfl (ofText_print_object Tagged.key "suggestion.new" _) ht
  have hmap : (suggestionShape.decoder ⟨true, 127⟩ t.content).map suggestionNew = .ok m' := by
    rw [htag] at hcontent
    exact hcontent
  split at h
  · cases h
  · cases h
    cases hread : suggestionShape.decoder ⟨true, 127⟩ t.content with
    | error e => rw [hread] at hmap; cases hmap
    | ok s' =>
      rw [hread] at hmap
      cases hmap
      exact ⟨s', rfl⟩

end ServerMessage

/-! ### Client messages -/

namespace ClientMessage

theorem decode_tagged {tag : String} {d : Decoder ClientMessage} {fields : List (String × Value)}
    {m : ClientMessage} (htag : Decoder.named contents tag = .ok d)
    (h : ∀ m ∈ fields, m.1 ≠ Tagged.key ∧ m.2.Fits 126)
    (hcontent : d ⟨true, 127⟩ (Value.object fields).node = .ok m) :
    decode (Value.tagged tag fields).print = .ok m :=
  decodeText_tagged "ClientMessage" tag (Decoder.named contents) (fun d => d) htag h hcontent

/-- **A client message is read back from its frame.** -/
theorem decode_encode (m : ClientMessage) : decode m.encode = .ok m := by
  cases m with
  | taskMove id status =>
    refine decode_tagged (d := moveShape.decoder) rfl (by simp [field, Tagged.key]) ?_
    cases status <;> rfl
  | taskCreate title status assignee =>
    refine decode_tagged (d := createShape.decoder) rfl ?_ ?_
    · simp only [List.forall_mem_append, forall_mem_fieldIfAny]
      simp [field, Tagged.key]
    · cases assignee <;> cases status <;> rfl
  | heartbeat id =>
    refine decode_tagged (d := heartbeatShape.decoder) rfl ?_ ?_
    · simp only [forall_mem_fieldIfAny]
      simp [Tagged.key]
    · cases id <;> rfl

end ClientMessage

end LiveBoard
