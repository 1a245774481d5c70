import LiveBoard.Connection.Transport
import LiveBoard.Proofs.Message.Tagged

/-!
# Messages from newer writers

A relay or a client of a later version may say things that this one does not know. A server message
of an unknown kind is read as such, and changes nothing. A message of a known kind may hold members
that are not known, in the message or in a task, a patch or a suggestion inside it, and its members
may come in any order. It is read as if there were none of them.

## Main definitions

* `ServerMessage.form`, `ClientMessage.form`: what is known of the frame of a message.

## Main results

* `ServerMessage.decode_of_unknown`: a message of an unknown kind.
* `ServerMessage.decode_of_respells`, `ClientMessage.decode_of_respells`: messages that are written
  anew.
* `decoding_is_forward_compatible`: messages from newer writers.
-/

namespace LiveBoard

open Json

/-! ### Forms -/

/-- The form of a task. -/
def Task.form : Form := .record (Task.shape.fields fun _ => .plain)

/-- The form of a patch. -/
def Patch.form : Form := .record (Patch.shape.fields fun _ => .plain)

/-- The form of a suggestion. Its payload is whatever it is. -/
def Suggestion.form : Form := .record (Suggestion.shape.fields fun _ => .plain)

theorem Task.isLawful : Task.shape.IsLawful := ⟨by simp [shape], by simp [shape]⟩

theorem Patch.isLawful : Patch.shape.IsLawful := ⟨by simp [shape], by simp [shape]⟩

theorem Suggestion.isLawful : Suggestion.shape.IsLawful := ⟨by simp [shape], by simp [shape]⟩

theorem Task.tolerates : Task.decoder.Tolerates Task.form :=
  Task.isLawful.tolerates_plain

theorem Patch.tolerates : Patch.decoder.Tolerates Patch.form :=
  Patch.isLawful.tolerates_plain

theorem Suggestion.tolerates : Suggestion.decoder.Tolerates Suggestion.form :=
  Suggestion.isLawful.tolerates_plain

/-! ### Server messages -/

namespace ServerMessage

/-- The form of what is inside a server message, by the name of the field. -/
def inside : String → Form
  | "tasks" => .items Task.form
  | "task" => Task.form
  | "changes" => Patch.form
  | "suggestion" => Suggestion.form
  | _ => .plain

/-- The fields of a message besides its tag. -/
def fields : ServerMessage → List (String × Form)
  | .boardState _ => Snapshot.shape.fields inside
  | .taskUpdated _ => TaskUpdate.shape.fields inside
  | .taskCreated _ => TaskCreated.shape.fields inside
  | .taskDeleted _ => TaskDeleted.shape.fields inside
  | .suggestionNew _ => suggestionShape.fields inside
  | .heartbeatAck _ => heartbeatAckShape.fields inside
  | .unknown => []

/-- The form of a message. -/
def form (m : ServerMessage) : Form := .record ((Tagged.key, .plain) :: m.fields)

theorem key_notMem_fields (m : ServerMessage) : Tagged.key ∉ m.fields.map Prod.fst := by
  cases m
  case unknown => exact List.not_mem_nil
  all_goals
    rw [fields, RecordShape.fields_map_fst]
    decide

theorem tolerates_snapshot :
    Snapshot.shape.decoder.Tolerates (.record (Snapshot.shape.fields inside)) := by
  have hlawful : Snapshot.shape.IsLawful := ⟨by simp [Snapshot.shape], by simp [Snapshot.shape]⟩
  refine hlawful.tolerates (List.forall_mem_cons.mpr ⟨?_, ?_⟩)
  · exact Task.tolerates.list.slot _ _ _ _
  · exact List.forall_mem_singleton.mpr (Slot.tolerates_plain _)

theorem tolerates_taskUpdate :
    TaskUpdate.shape.decoder.Tolerates (.record (TaskUpdate.shape.fields inside)) := by
  have hlawful : TaskUpdate.shape.IsLawful :=
    ⟨by simp [TaskUpdate.shape], by simp [TaskUpdate.shape]⟩
  refine hlawful.tolerates (List.forall_mem_cons.mpr
    ⟨Slot.tolerates_plain _, List.forall_mem_cons.mpr ⟨?_, List.forall_mem_cons.mpr
      ⟨Slot.tolerates_plain _, List.forall_mem_singleton.mpr (Slot.tolerates_plain _)⟩⟩⟩)
  exact Patch.tolerates.slot _ _ _ _

theorem tolerates_taskCreated :
    TaskCreated.shape.decoder.Tolerates (.record (TaskCreated.shape.fields inside)) := by
  have hlawful : TaskCreated.shape.IsLawful :=
    ⟨by simp [TaskCreated.shape], by simp [TaskCreated.shape]⟩
  refine hlawful.tolerates (List.forall_mem_cons.mpr ⟨?_, ?_⟩)
  · exact Task.tolerates.slot _ _ _ _
  · exact List.forall_mem_singleton.mpr (Slot.tolerates_plain _)

theorem tolerates_taskDeleted :
    TaskDeleted.shape.decoder.Tolerates (.record (TaskDeleted.shape.fields inside)) := by
  have hlawful : TaskDeleted.shape.IsLawful :=
    ⟨by simp [TaskDeleted.shape], by simp [TaskDeleted.shape]⟩
  exact hlawful.tolerates (List.forall_mem_cons.mpr
    ⟨Slot.tolerates_plain _, List.forall_mem_singleton.mpr (Slot.tolerates_plain _)⟩)

theorem tolerates_suggestion :
    suggestionShape.decoder.Tolerates (.record (suggestionShape.fields inside)) := by
  have hlawful : suggestionShape.IsLawful :=
    ⟨by simp [suggestionShape], by simp [suggestionShape]⟩
  exact hlawful.tolerates (List.forall_mem_singleton.mpr (Suggestion.tolerates.slot _ _ _ _))

theorem tolerates_heartbeatAck :
    heartbeatAckShape.decoder.Tolerates (.record (heartbeatAckShape.fields inside)) := by
  have hlawful : heartbeatAckShape.IsLawful :=
    ⟨by simp [heartbeatAckShape], by simp [heartbeatAckShape]⟩
  exact hlawful.tolerates (List.forall_mem_singleton.mpr (Slot.tolerates_plain _))

theorem tolerates_nothing : Decoder.nothing.Tolerates (.record []) := by
  rintro ctx n n' ⟨⟩ (_ | _ | _ | ⟨hknown, _⟩) _ h
  · exact h
  · exact h
  · exact h
  · cases hknown

/-- **The content of a message tolerates changes.** -/
theorem content_change {kind : Kind} {ctx : Context} {n n' : Node} {m : ServerMessage}
    (hchange : (Form.record m.fields).Changes n n') (hread : n'.IsReadable ctx.room)
    (h : content kind ctx n = .ok m) : content kind ctx n' = .ok m := by
  cases kind with
  | boardState =>
    obtain ⟨s, hs, rfl⟩ := map_eq_ok h
    exact congrArg (Except.map boardState) (tolerates_snapshot hchange hread hs)
  | taskUpdated =>
    obtain ⟨u, hu, rfl⟩ := map_eq_ok h
    exact congrArg (Except.map taskUpdated) (tolerates_taskUpdate hchange hread hu)
  | taskCreated =>
    obtain ⟨c, hc, rfl⟩ := map_eq_ok h
    exact congrArg (Except.map taskCreated) (tolerates_taskCreated hchange hread hc)
  | taskDeleted =>
    obtain ⟨d, hd, rfl⟩ := map_eq_ok h
    exact congrArg (Except.map taskDeleted) (tolerates_taskDeleted hchange hread hd)
  | suggestionNew =>
    obtain ⟨s, hs, rfl⟩ := map_eq_ok h
    exact congrArg (Except.map suggestionNew) (tolerates_suggestion hchange hread hs)
  | heartbeatAck =>
    obtain ⟨id, hid, rfl⟩ := map_eq_ok h
    exact congrArg (Except.map heartbeatAck) (tolerates_heartbeatAck hchange hread hid)
  | unknown =>
    obtain ⟨⟨⟩, hnothing, rfl⟩ := map_eq_ok h
    exact congrArg (Except.map fun _ => unknown) (tolerates_nothing hchange hread hnothing)

/-- **A text that was written anew** is read as the same message. -/
theorem decode_of_respells {text text' : String} {m : ServerMessage}
    (hrespells : Relation.ReflTransGen m.form.Respells text text')
    (h : decode text = .ok m) : decode text' = .ok m :=
  Tagged.decodeText_of_respells m.key_notMem_fields (fun _ => content_change) hrespells h

/-- The names of the kinds that are known. -/
def knownNames : List String :=
  ["board.state", "task.updated", "task.created", "task.deleted", "suggestion.new",
    "heartbeat_ack"]

theorem ofName_of_notMem {name : String} (h : name ∉ knownNames) :
    Kind.ofName name = .unknown := by
  unfold Kind.ofName
  split <;> simp_all [knownNames]

/-- **A message of an unknown kind** is read as such, whatever else it holds. -/
theorem decode_of_unknown {text name : String} {ms : List (Key × Node)} {ending : Ending}
    {v : Value}
    (hread : Value.ofText maxDepth text = .ok v)
    (hroot : (Document.ofText text).root = .object ms ending)
    (htags : ms.filter Tagged.isTag = [(.ok Tagged.key, .string (.ok name))])
    (hname : name ∉ knownNames) : decode text = .ok .unknown := by
  obtain ⟨w, hkeep, h⟩ := bind_eq_ok hread
  split at h
  · cases h
  · next htrailing =>
    have hdoc : Document.ofText text = ⟨.object ms ending, false⟩ := by
      rw [← hroot, ← Bool.eq_false_iff.mpr htrailing]
    refine decodeText_eq_ok.mpr ⟨_, hdoc, ?_⟩
    have htag : Tagged.read "ServerMessage" (fun name => .ok (Kind.ofName name)) .direct
        (.object ms ending) = .ok ⟨.unknown, .object (ms.filter (!Tagged.isTag ·)) .closed⟩ :=
      Tagged.read_object.mpr ⟨⟨w, hroot ▸ hkeep⟩, rfl, name, htags,
        congrArg Except.ok (ofName_of_notMem hname)⟩
    show Tagged.read _ _ _ _ >>= _ = _
    rw [htag]
    rfl

end ServerMessage

/-! ### Client messages -/

namespace ClientMessage

/-- The fields of a message besides its tag. -/
def fields : ClientMessage → List (String × Form)
  | .taskMove _ _ => moveShape.fields fun _ => .plain
  | .taskCreate _ _ _ => createShape.fields fun _ => .plain
  | .heartbeat _ => heartbeatShape.fields fun _ => .plain

/-- The form of a message. -/
def form (m : ClientMessage) : Form := .record ((Tagged.key, .plain) :: m.fields)

theorem key_notMem_fields (m : ClientMessage) : Tagged.key ∉ m.fields.map Prod.fst := by
  cases m
  all_goals
    rw [fields, RecordShape.fields_map_fst]
    decide

theorem tolerates_move :
    moveShape.decoder.Tolerates (.record (moveShape.fields fun _ => .plain)) := by
  have hlawful : moveShape.IsLawful := ⟨by simp [moveShape], by simp [moveShape]⟩
  exact hlawful.tolerates_plain

theorem tolerates_create :
    createShape.decoder.Tolerates (.record (createShape.fields fun _ => .plain)) := by
  have hlawful : createShape.IsLawful := ⟨by simp [createShape], by simp [createShape]⟩
  exact hlawful.tolerates_plain

theorem tolerates_heartbeat :
    heartbeatShape.decoder.Tolerates (.record (heartbeatShape.fields fun _ => .plain)) := by
  have hlawful : heartbeatShape.IsLawful := ⟨by simp [heartbeatShape], by simp [heartbeatShape]⟩
  exact hlawful.tolerates_plain

/-- A message that is read from a kind of record has the fields of that record. -/
theorem exists_build {σ : Type} {shape : RecordShape σ ClientMessage} {ctx : Context} {n : Node}
    {m : ClientMessage} (h : shape.decoder ctx n = .ok m) : ∃ d, shape.build d = some m := by
  obtain ⟨d, -, hd⟩ :=
    RecordShape.exists_of_decoder (I := fun _ => True) trivial (fun _ _ _ _ _ _ _ _ _ => trivial) h
  exact ⟨d, hd⟩

/-- **The content of a message tolerates changes.** -/
theorem content_change {name : String} {d : Decoder ClientMessage} {ctx : Context} {n n' : Node}
    {m : ClientMessage} (hd : Decoder.named contents name = .ok d)
    (hchange : (Form.record m.fields).Changes n n') (hread : n'.IsReadable ctx.room)
    (h : d ctx n = .ok m) : d ctx n' = .ok m := by
  have hmem : d ∈ contents.map Prod.snd := by
    rw [Decoder.named] at hd
    split at hd
    · next k hk =>
      cases hd
      exact List.mem_map_of_mem (List.mem_of_find?_eq_some hk)
    · cases hd
  obtain rfl | rfl | rfl : d = moveShape.decoder ∨ d = createShape.decoder ∨
      d = heartbeatShape.decoder := by simpa [contents] using hmem
  · obtain ⟨draft, hbuild⟩ := exists_build h
    obtain ⟨id, -, hbuild⟩ := Option.bind_eq_some_iff.mp hbuild
    obtain ⟨status, -, hbuild⟩ := Option.bind_eq_some_iff.mp hbuild
    cases hbuild
    exact tolerates_move hchange hread h
  · obtain ⟨draft, hbuild⟩ := exists_build h
    obtain ⟨title, -, hbuild⟩ := Option.bind_eq_some_iff.mp hbuild
    obtain ⟨status, -, hbuild⟩ := Option.bind_eq_some_iff.mp hbuild
    cases hbuild
    exact tolerates_create hchange hread h
  · obtain ⟨draft, hbuild⟩ := exists_build h
    cases hbuild
    exact tolerates_heartbeat hchange hread h

/-- **A text that was written anew** is read as the same message. -/
theorem decode_of_respells {text text' : String} {m : ClientMessage}
    (hrespells : Relation.ReflTransGen m.form.Respells text text')
    (h : decode text = .ok m) : decode text' = .ok m :=
  Tagged.decodeText_of_respells m.key_notMem_fields content_change hrespells h

end ClientMessage

/-! ### Forward compatibility -/

/-- **Messages from newer writers.** A text that can be kept and holds an object with one member
`type`, a name that is not known, is read as an unknown message: the transport that it comes to does
nothing, no listener is told, and a shared board stays as it is and wakes nobody. A text that is
read as a message can be written anew, with white space between its tokens, the members of its
records in any order and unknown members among them, and is read as the same message, as long as all
of it can be kept. -/
theorem decoding_is_forward_compatible :
    (∀ {text name : String} {ms : List (Key × Node)} {ending : Ending} {v : Value},
      Value.ofText maxDepth text = .ok v → (Document.ofText text).root = .object ms ending →
        ms.filter Tagged.isTag = [(.ok Tagged.key, .string (.ok name))] →
          name ∉ ServerMessage.knownNames →
            ServerMessage.decode text = .ok .unknown ∧ Notice.ofMessage? .unknown = none ∧
              (∀ t : Transport, Transport.onFrame (.text text) t = (t, [])) ∧
                ∀ b : SharedBoard, b.receive .unknown = b) ∧
      (∀ {text text' : String} {m : ServerMessage}, ServerMessage.decode text = .ok m →
        Relation.ReflTransGen m.form.Respells text text' → ServerMessage.decode text' = .ok m) ∧
      ∀ {text text' : String} {m : ClientMessage}, ClientMessage.decode text = .ok m →
        Relation.ReflTransGen m.form.Respells text text' → ClientMessage.decode text' = .ok m := by
  refine ⟨fun hread hroot htags hname => ?_, fun h hrespells => ?_, fun h hrespells => ?_⟩
  · have hdecode := ServerMessage.decode_of_unknown hread hroot htags hname
    refine ⟨hdecode, rfl, fun t => ?_, fun b => rfl⟩
    rw [Transport.onFrame, hdecode]
    rfl
  · exact ServerMessage.decode_of_respells hrespells h
  · exact ClientMessage.decode_of_respells hrespells h

/-- An agent that types; a patch with a color in it, in a message that ends with its type; and a
heartbeat with some white space. -/
theorem decoding_is_forward_compatible_of_newer :
    let typing := "\x7b\"agent\":[true],\"type\":\"agent.typing\"\x7d"
    let update := "\x7b\"type\":\"task.updated\",\"task_id\":\"t\",\"changes\":\x7b\x7d\x7d"
    let newer :=
      "\x7b\"changes\":\x7b\"color\":[null]\x7d,\"task_id\":\"t\",\"type\":\"task.updated\"\x7d"
    let m := ServerMessage.taskUpdated ⟨"t", {}, none, ""⟩
    let beat := "\x7b\"type\":\"heartbeat\"\x7d"
    let spaced := "\x7b \"type\":\"heartbeat\"\x7d"
    ServerMessage.decode typing = .ok .unknown ∧
      (ServerMessage.decode update = .ok m ∧
        Relation.ReflTransGen m.form.Respells update newer ∧ ServerMessage.decode newer = .ok m) ∧
      ClientMessage.decode beat = .ok (.heartbeat none) ∧
        Relation.ReflTransGen (ClientMessage.heartbeat none).form.Respells beat spaced ∧
          ClientMessage.decode spaced = .ok (.heartbeat none) := by
  intro typing update newer m beat spaced
  obtain ⟨hunknown, hserver, hclient⟩ := decoding_is_forward_compatible
  have htyping : ServerMessage.decode typing = .ok .unknown := by
    let v : Value := .object [("agent", .array [.bool true]), ("type", .string "agent.typing")]
    have hprint : v.print = typing := by decide +kernel
    have hdoc : Document.ofText typing = ⟨v.node, false⟩ :=
      hprint ▸ ofText_print fun _ h => (List.not_mem_nil h).elim
    have hvalue : Value.ofText maxDepth typing = .ok v := by
      rw [Value.ofText, hdoc]
      rfl
    exact (hunknown hvalue (congrArg Document.root hdoc) rfl (by decide)).1
  have hnewer : Relation.ReflTransGen m.form.Respells update newer := by
    let color : Value := .object [("color", .array [.null])]
    let before : Value := .object
      [("type", .string "task.updated"), ("task_id", .string "t"), ("changes", .object [])]
    let between : Value := .object
      [("type", .string "task.updated"), ("task_id", .string "t"), ("changes", color)]
    let after : Value := .object
      [("changes", color), ("task_id", .string "t"), ("type", .string "task.updated")]
    have hcolor : m.form.Changes before.node between.node :=
      @Form.Changes.field _ [(.ok "type", .string (.ok "task.updated")),
        (.ok "task_id", .string (.ok "t"))] [] .closed "changes" Patch.form _ _
        (.tail _ (.tail _ (.head _))) (.member (by decide))
    have horder : m.form.Changes between.node after.node :=
      .order (List.reverse_perm _).symm
    have hbefore : before.print = update := by decide +kernel
    have hafter : after.print = newer := by decide +kernel
    rw [← hbefore, ← hafter]
    exact .single (.changed (Value.spelled fun _ h => (List.not_mem_nil h).elim)
      (.tail (.single hcolor) horder) (Value.spelled fun _ h => (List.not_mem_nil h).elim) ⟨_, rfl⟩)
  have hspaced :
      Relation.ReflTransGen (ClientMessage.heartbeat none).form.Respells beat spaced := by
    let rest : List Char := "\"type\":\"heartbeat\"\x7d".toList
    have hgap : tokens (['\x7b'] ++ rest) = tokens ['\x7b'] ++ tokens rest := by
      rw [List.singleton_append, tokens_openBrace rest, tokens_openBrace [], tokens,
        List.singleton_append]
    exact .single (@Form.Respells.spaced _ _ rest [' '] hgap (List.forall_mem_singleton.mpr rfl))
  have hupdate : ServerMessage.decode update = .ok m := by decide +kernel
  have hbeat : ClientMessage.decode beat = .ok (.heartbeat none) := by decide +kernel
  exact ⟨htyping, ⟨hupdate, hnewer, hserver hupdate hnewer⟩, hbeat, hspaced, hclient hbeat hspaced⟩

end LiveBoard
