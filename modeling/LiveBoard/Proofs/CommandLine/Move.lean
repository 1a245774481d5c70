import LiveBoard.CommandLine.TaskCommands
import LiveBoard.Proofs.Board.Reachable
import LiveBoard.Proofs.Relay.Guest
import LiveBoard.Proofs.Relay.Token
import LiveBoard.Proofs.Session.Link

/-!
# Moving a task from the command line

A command that moves a task joins the board, moves the task on its own board, and asks the relay to
do the same. It succeeds when the relay has told it of the move, which its own move alone would not
make it believe: the relay writes down another time. So when it succeeds the relay has moved the
task, unless there was nothing to move, and when it fails nothing has happened on the relay.

## Main definitions

* `Settings.Addresses`: settings address a board of a network.
* `CommandLine.IsLetIn`: a client may join the board that its settings address.
* `CommandLine.CanMove`: what a command that moves a task has to be given.
* `CommandLine.Report.Leaves`: the relay that a command leaves behind.

## Main results

* `CommandLine.sync_of_isLetIn`, `CommandLine.sync_of_not_isLetIn`: who has a session that has
  synced.
* `CommandLine.moveIn_of_ne`: a task is moved.
* `CommandLine.moveTask_reports_truly`: when the command succeeds, and what has happened then.
-/

namespace LiveBoard

/-- Settings address a board of a network: the relay is reached at their address, and reads the id
of the board in it. An address that is encrypted where the relay is not, or has another port, does
not lead there. -/
def Settings.Addresses (settings : Settings) (n : Network) (board : String) : Prop :=
  ∃ address segment, settings.socketAddress = .ok address ∧ n.isReachedAt address = true ∧
    Route.ofPath? (Relay.socketRequest (String.ofList address.target)).path =
      some (.sync segment) ∧
    Route.decodeSegment? segment = some board

namespace CommandLine

/-- A client may join the board that its settings address, and there are these tasks on it. -/
structure IsLetIn (settings : Settings) (n : Network) (board : String) (tasks : List Task) :
    Prop where
  active : settings.isActive = true
  addresses : settings.Addresses n board
  authorized : n.relay.isAuthorized settings.bearerToken = true
  listed : n.relay.tasks? board = some tasks

/-- What a command that moves a task has to be given: the way to a board, a status, and a task that
is on the board. -/
structure CanMove (settings : Settings) (id word : String) (n : Network) (board : String)
    (tasks : List Task) (status : Status) (t : Task) : Prop
    extends IsLetIn settings n board tasks where
  status : Status.parse word = some status
  task : Task.resolve tasks id = .ok t

/-- The relay that a command leaves behind on a network that is as it was. The number of the next
receiver does not matter. -/
def Report.Leaves (r : Relay) (n : Network) (report : Report) : Prop :=
  ∃ next, report.network = { n with relay := { r with nextReceiver := next } }

variable {settings : Settings} {board : String} {tasks : List Task} {patience : Nat}
  {s : Surroundings}

/-! ### Who is let in -/

/-- A client asks for the board that its settings address, with the token that they have. -/
theorem accept_of_addresses {n : Network} (h : settings.Addresses n board) :
    ∃ address, settings.socketAddress = .ok address ∧ n.isReachedAt address = true ∧
      ∀ (r : Relay) client now, r.accept (String.ofList address.target) client now =
        r.welcome board settings.bearerToken client now := by
  obtain ⟨address, segment, haddress, hreached, hroute, hsegment⟩ := h
  obtain ⟨-, token, -, -, htoken, -⟩ := Settings.socketAddress_eq_ok haddress
  have hquery := Settings.queryToken_socketAddress haddress htoken
  exact ⟨address, haddress, hreached, Relay.accept_eq_welcome hroute hsegment (htoken ▸ hquery)⟩

/-- A client that is accepted is let in. -/
theorem isLetIn_of_accept {n : Network} {address : Url.Address} {client now : String}
    {k : SyncSocket} {r : Relay} (hactive : settings.isActive = true)
    (haddress : settings.socketAddress = .ok address) (hreached : n.isReachedAt address = true)
    (h : n.relay.accept (String.ofList address.target) client now = .joined k r) :
    ∃ board tasks, IsLetIn settings n board tasks := by
  obtain ⟨-, token, -, -, htoken, -⟩ := Settings.socketAddress_eq_ok haddress
  have hquery := Settings.queryToken_socketAddress haddress htoken
  have hauthorized := Relay.isAuthorized_of_accept h hquery
  obtain ⟨segment, board, _, hroute, hsegment, -, hwelcome⟩ := Relay.exists_welcome_of_accept h
  obtain ⟨snapshot, hjoin, -⟩ := Relay.welcome_eq_joined hwelcome
  obtain ⟨-, htasks, -⟩ := Relay.join_eq_ok hjoin
  exact ⟨board, snapshot.tasks, hactive,
    ⟨address, segment, haddress, hreached, hroute, hsegment⟩,
    htoken ▸ hauthorized, htasks⟩

/-- Who is let in joins the board. -/
theorem IsLetIn.exists_join {n : Network} (h : IsLetIn settings n board tasks) (now : String) :
    ∃ who r, n.relay.join board settings.bearerToken now = .ok (⟨tasks, now⟩, who, r) := by
  obtain ⟨room, hroom, htasks⟩ := Option.map_eq_some_iff.mp h.listed
  rw [Relay.join, if_pos h.authorized, hroom, ← htasks]
  exact ⟨_, _, rfl⟩

/-! ### Sessions that have synced -/

/-- **Who is let in** has a session that has synced: it has joined the board and has its tasks. -/
theorem sync_of_isLetIn (hnumbered : s.network.relay.IsNumbered) (hpatience : 0 < patience)
    (h : IsLetIn settings s.network board tasks) :
    ∃ l who r, s.network.relay.join board settings.bearerToken s.moment.now =
        .ok (⟨tasks, s.moment.now⟩, who, r) ∧
      sync settings patience s = .ok l ∧ l.IsOpen ⟨who, s.moment.client, []⟩ ∧
      l.network = { s.network with relay := r } ∧
      l.session.board.store.tasks = dedupById tasks := by
  obtain ⟨address, haddress, hreached, haccept⟩ := accept_of_addresses h.addresses
  obtain ⟨who, r, hjoin⟩ := h.exists_join s.moment.now
  have hjoined : s.network.relay.accept (String.ofList address.target) s.moment.client
      s.moment.now =
        .joined ⟨who, s.moment.client, [.boardState ⟨tasks, s.moment.now⟩]⟩ r := by
    rw [haccept, Relay.welcome, hjoin]
  obtain ⟨l, hstart, hopen, hnetwork, hstore⟩ := Link.start_of_joined (m := s.moment) h.active
    haddress hreached hjoined (Relay.mailbox?_join hnumbered hjoin)
  have hsynced : hasSynced l = true := by
    have hstate : l.session.state = .connected :=
      hopen.coherent.published_eq_connected_iff.mpr hopen.connected
    rw [hasSynced, hstate, hstore, BoardStore.authoritative_read_encode (by trivial)]
    rfl
  refine ⟨l, who, r, hjoin, ?_, hopen, hnetwork, ?_⟩
  · simp [sync, h.active, hstart, hpatience, hsynced]
  · rw [hstore, BoardStore.tasks_read_encode]
    rfl

/-- **Who is not let in** has no session that has synced, and leaves the network as it is. -/
theorem sync_of_not_isLetIn (h : ¬∃ board tasks, IsLetIn settings s.network board tasks)
    (patience : Nat) :
    ∃ report chain, sync settings patience s = .error report ∧ report.ending = .failed chain ∧
      report.network = s.network := by
  by_cases hactive : settings.isActive = true
  · cases haddress : settings.socketAddress with
    | error e =>
      have hstart : Link.start s.moment settings none s.network = .error e := by
        rw [Link.start, Session.start, Transport.spawn, if_pos hactive, haddress]
        rfl
      exact ⟨s.failed e.chain, e.chain, by simp [sync, hactive, hstart], rfl, rfl⟩
    | ok address =>
      obtain ⟨l, hstart, hnetwork, hsocket, hcoherent, hstore⟩ :=
        Link.start_of_not_joined (m := s.moment) (n := s.network) hactive haddress
          fun hreached k r haccept => h (isLetIn_of_accept hactive haddress hreached haccept)
      have hsynced : hasSynced l = false := by simp [hasSynced, hstore, BoardStore.empty]
      simp only [sync, hactive, hstart, hsynced, Bool.not_true, Bool.and_false,
        Bool.false_eq_true, if_false]
      refine ⟨_, _, rfl, rfl, ?_⟩
      exact (Link.command_shutdown_of_none hcoherent hsocket).trans hnetwork
  · exact ⟨s.failed [notConfigured], [notConfigured], by simp [sync, hactive], rfl, rfl⟩

/-! ### A move in a session -/

section MoveIn

variable {id word : String} {status : Status} {l : Link} {who : Receiver} {r : Relay} {t : Task}

/-- A command that ends its session leaves the board that it has joined. -/
theorem network_closing {k : SyncSocket} (hopen : l.IsOpen k) (lines : List Terminal.Line)
    (ending : Ending) (waited : Nat) :
    (closing l lines ending waited s).network =
      { l.network with relay := l.network.relay.leave k.receiver } :=
  Link.command_shutdown_of_isOpen hopen

/-- The update that a move is announced with. -/
def moveUpdate (t : Task) (status : Status) (m : Moment) : TaskUpdate :=
  ⟨t.id, Relay.movePatch t status m.now, some m.client, m.now⟩

/-- The relay posts the update to everybody who has joined the board. -/
theorem posts_move (htasks : r.tasks? board = some tasks)
    (ht : (tasks.find? fun u => u.id == t.id) = some t) (m : Moment) :
    (Relay.Operation.move t.id status (some m.client)).posts board m.now r =
      [.taskUpdated (moveUpdate t status m)] := by
  rw [Relay.Operation.posts, htasks, Option.bind_some, Relay.Operation.news, ht]
  rfl

/-- **A task is moved** in a session that has joined its board: the relay moves it and tells the
session, whose board then has the task with the time of the relay. -/
theorem moveTask_of_isOpen (hopen : l.IsOpen ⟨who, s.moment.client, []⟩)
    (htasks : l.network.relay.tasks? who.board = some l.session.board.store.tasks)
    (hbox : l.network.relay.mailbox? who = some .empty) {before after : List Task}
    (ht : l.session.board.store.HasOnce before t after) (status : Status) :
    let l' := (l.moveTask s.moment t.id status).2
    l'.IsOpen ⟨who, s.moment.client, []⟩ ∧
      l'.network = { l.network with
        relay := (l.network.relay.perform (.move t.id status (some s.moment.client)) who.board
          s.moment.now).setMailbox who .empty } ∧
      l'.session.board.store.task? t.id =
        some { t with status, updatedAt := s.moment.now } := by
  intro l'
  obtain ⟨board, hmoved, hmove⟩ := Link.moveTask_of_isOpen (m := s.moment) hopen t.id status
  have hposted : (l.network.relay.perform (.move t.id status (some s.moment.client)) who.board
      s.moment.now).mailbox? who = some ⟨[.taskUpdated (moveUpdate t status s.moment)], 0⟩ := by
    rw [Relay.mailbox?_perform, hbox, posts_move htasks ht.task?]
    rfl
  have hsent : Link.IsOpen ⟨who, s.moment.client, []⟩
      { l.withRelay (l.network.relay.perform (.move t.id status (some s.moment.client)) who.board
        s.moment.now) with session := { l.session with board } } :=
    ⟨hopen.coherent, hopen.connected, hopen.socket⟩
  obtain ⟨board', hread, hdeliver⟩ :=
    Link.deliver_of_flush (m := s.moment) hsent (SyncSocket.flush_of_posted rfl hposted)
  rw [show l' = _ from hmove.trans hdeliver]
  refine ⟨⟨hopen.coherent, hopen.connected, rfl⟩, rfl, ?_⟩
  -- the board has the move of the session first, and the update of the relay on top of it
  have hlocal : board.store.HasOnce before { t with status } after := by
    rw [hmoved, ht.moveLocally]
    exact ⟨rfl, ht.notMem_before, ht.notMem_after⟩
  have hlast : board'.store.HasOnce before { t with status, updatedAt := s.moment.now } after := by
    refine ⟨?_, ht.notMem_before, ht.notMem_after⟩
    rw [hread]
    exact (BoardStore.tasks_read_encode _ board.store).trans (hlocal.updateFirst_tasks _)
  exact hlast.task?

end MoveIn

/-! ### The command -/

section Command

variable {id word : String} {status : Status} {t : Task}

/-- The task that is meant is one of those given. -/
theorem mem_of_resolve (h : Task.resolve tasks id = .ok t) : t ∈ tasks := by
  rw [Task.resolve] at h
  split at h
  · next u hfind =>
    cases h
    exact List.mem_of_find?_eq_some hfind
  · split at h
    · cases h
    · split at h
      · next u hfilter =>
        cases h
        exact (List.mem_filter.mp (hfilter ▸ List.mem_singleton_self t)).1
      · cases h
      · cases h

/-- **A command that can move a task** succeeds, and the relay has moved the task, if it was to be
moved. -/
theorem moveTask_of_canMove (hnumbered : s.network.relay.IsNumbered) (hpatience : 0 < patience)
    (h : CanMove settings id word s.network board tasks status t) (hids : (ids tasks).Nodup)
    (hclock : t.updatedAt ≠ s.moment.now) :
    (moveTask settings id word patience s).ending = .done ∧
      (moveTask settings id word patience s).Leaves
        (if t.status = status then s.network.relay
        else (s.network.relay.moveTask board t.id status (some s.moment.client) s.moment.now).2)
        s.network := by
  obtain ⟨l, who, r, hjoin, hsync, hopen, hnetwork, hstore⟩ :=
    sync_of_isLetIn hnumbered hpatience h.toIsLetIn
  rw [dedupById_eq_self hids] at hstore
  obtain ⟨hwho, -, -⟩ := Relay.join_eq_ok hjoin
  have hboard : who.board = board := by rw [hwho]
  have hresolve : Task.resolve l.session.board.store.tasks id = .ok t := hstore ▸ h.task
  have hcommand : moveTask settings id word patience s = moveIn l id status patience s := by
    simp only [moveTask, readStatus, h.status, hsync]
  rw [hcommand, moveIn, hresolve]
  dsimp only
  split
  · refine ⟨rfl, s.network.relay.nextReceiver + 1, ?_⟩
    rw [network_closing hopen, hnetwork]
    exact congrArg (fun relay => { s.network with relay }) (Relay.leave_join hnumbered hjoin)
  · have htasks : l.network.relay.tasks? who.board = some l.session.board.store.tasks := by
      rw [hnetwork, hstore, hboard, Relay.tasks?_join hjoin, h.listed]
    have hbox : l.network.relay.mailbox? who = some .empty := by
      rw [hnetwork]
      exact Relay.mailbox?_join hnumbered hjoin
    obtain ⟨before, after, ht⟩ :=
      BoardStore.exists_hasOnce_of_mem (hstore ▸ hids) (hstore ▸ mem_of_resolve h.task)
    obtain ⟨hopen', hnetwork', htask⟩ := moveTask_of_isOpen hopen htasks hbox ht status
    have hmoved : isMoved t status (l.moveTask s.moment t.id status).2 = true := by
      rw [isMoved, htask]
      simp [Ne.symm hclock]
    rw [if_pos hmoved]
    refine ⟨rfl, s.network.relay.nextReceiver + 1, ?_⟩
    rw [network_closing hopen', hnetwork', hnetwork, hboard]
    exact congrArg (fun relay => { s.network with relay })
      (Relay.leave_perform_of_join hnumbered hjoin _ _ _)

/-- **A command that cannot move a task** fails, and nothing has happened on the relay. -/
theorem moveTask_of_not_canMove (hnumbered : s.network.relay.IsNumbered) (hpatience : 0 < patience)
    (hids : ∀ board tasks, s.network.relay.tasks? board = some tasks → (ids tasks).Nodup)
    (h : ¬∃ board tasks status t, CanMove settings id word s.network board tasks status t) :
    (∃ chain, (moveTask settings id word patience s).ending = .failed chain) ∧
      (moveTask settings id word patience s).Leaves s.network.relay s.network := by
  have hleft : ∀ report : Report, report.network = s.network →
      report.Leaves s.network.relay s.network := fun report hreport =>
    ⟨s.network.relay.nextReceiver, hreport⟩
  cases hstatus : Status.parse word with
  | none =>
    rw [moveTask, readStatus, hstatus]
    exact ⟨⟨_, rfl⟩, hleft _ rfl⟩
  | some status =>
    rw [moveTask, readStatus, hstatus]
    dsimp only
    by_cases hletIn : ∃ board tasks, IsLetIn settings s.network board tasks
    · obtain ⟨board, tasks, hletIn⟩ := hletIn
      obtain ⟨l, who, r, hjoin, hsync, hopen, hnetwork, hstore⟩ :=
        sync_of_isLetIn hnumbered hpatience hletIn
      rw [dedupById_eq_self (hids board tasks hletIn.listed)] at hstore
      rw [hsync]
      dsimp only
      rw [moveIn, hstore]
      cases htask : Task.resolve tasks id with
      | ok t => exact absurd ⟨board, tasks, status, t, hletIn, hstatus, htask⟩ h
      | error e =>
        refine ⟨⟨_, rfl⟩, s.network.relay.nextReceiver + 1, ?_⟩
        dsimp only
        rw [network_closing hopen, hnetwork]
        exact congrArg (fun relay => { s.network with relay }) (Relay.leave_join hnumbered hjoin)
    · obtain ⟨report, chain, hsync, hending, hreport⟩ := sync_of_not_isLetIn hletIn patience
      rw [hsync]
      exact ⟨⟨chain, hending⟩, hleft report hreport⟩

/-- A move on a relay gives one task another status and another time, and no other task. -/
theorem tasks?_moveTask {r : Relay} (h : r.tasks? board = some tasks) (hids : (ids tasks).Nodup)
    (ht : t ∈ tasks) (status : Status) (mover : Option String) (now : String) :
    ∃ before after, tasks = before ++ t :: after ∧
      (r.moveTask board t.id status mover now).2.tasks? board =
        some (before ++ { t with status, updatedAt := now } :: after) := by
  obtain ⟨before, after, honce⟩ :=
    BoardStore.exists_hasOnce_of_mem (s := { BoardStore.empty with tasks }) hids ht
  have hfind : (tasks.find? fun u => u.id == t.id) = some t := honce.task?
  have hperform := Relay.tasks?_perform h (.move t.id status mover) now
  rw [Relay.Operation.news, hfind] at hperform
  exact ⟨before, after, honce.tasks,
    hperform.trans (congrArg some (honce.updateFirst_tasks fun u => u.apply _))⟩

/-- **The command does what it reports**, when nobody else acts, all messages come in time, no two
tasks of a board have the same id, and the relay does not write down the very time that the task
has already. It succeeds exactly if the settings let it connect, lead to a board of this relay and
have a token that is accepted there, the word is a status, and a task of the board is meant. Then
the relay is left as it was, with nothing posted to anybody, if the task had the status already;
otherwise the relay has moved the task, as it would have been asked to by anybody, which gives this
one task the status and the time and leaves everything else as it was. If the command fails, the
relay is left as it was. -/
theorem moveTask_reports_truly (settings : Settings) (id word : String) {patience : Nat}
    {s : Surroundings} (hnumbered : s.network.relay.IsNumbered) (hpatience : 0 < patience)
    (hids : ∀ board tasks, s.network.relay.tasks? board = some tasks → (ids tasks).Nodup)
    (hclock : ∀ board tasks status t, CanMove settings id word s.network board tasks status t →
      t.updatedAt ≠ s.moment.now) :
    let report := moveTask settings id word patience s
    let relay := s.network.relay
    (report.ending = .done ↔
      ∃ board tasks status t, CanMove settings id word s.network board tasks status t) ∧
    (∀ board tasks status t, CanMove settings id word s.network board tasks status t →
      (t.status = status → report.Leaves relay s.network) ∧
      (t.status ≠ status →
        report.Leaves (relay.moveTask board t.id status (some s.moment.client) s.moment.now).2
          s.network ∧
        (∀ b, b ≠ board → report.network.relay.room? b = relay.room? b) ∧
        ∃ before after, tasks = before ++ t :: after ∧
          report.network.relay.tasks? board =
            some (before ++ { t with status, updatedAt := s.moment.now } :: after))) ∧
    (report.ending ≠ .done →
      (∃ chain, report.ending = .failed chain) ∧ report.Leaves relay s.network) := by
  intro report relay
  have hfails (h : ¬∃ board tasks status t,
      CanMove settings id word s.network board tasks status t) :=
    moveTask_of_not_canMove hnumbered hpatience hids h
  have hmoves {board : String} {tasks : List Task} {status : Status} {t : Task}
      (h : CanMove settings id word s.network board tasks status t) :=
    moveTask_of_canMove hnumbered hpatience h (hids board tasks h.listed)
      (hclock board tasks status t h)
  have hiff : report.ending = .done ↔
      ∃ board tasks status t, CanMove settings id word s.network board tasks status t := by
    constructor
    · intro hdone
      refine Classical.byContradiction fun h => ?_
      obtain ⟨⟨chain, hfailed⟩, -⟩ := hfails h
      rw [show report.ending = _ from hfailed] at hdone
      cases hdone
    · rintro ⟨board, tasks, status, t, h⟩
      exact (hmoves h).1
  refine ⟨hiff, fun board tasks status t h => ⟨fun hstatus => ?same, fun hstatus => ?moved⟩,
    fun hdone => hfails (mt hiff.mpr hdone)⟩
  case same =>
    have hleaves := (hmoves h).2
    rwa [if_pos hstatus] at hleaves
  case moved =>
    have hleaves := (hmoves h).2
    rw [if_neg hstatus] at hleaves
    obtain ⟨next, hnetwork⟩ := hleaves
    have hrelay : report.network.relay = { (relay.moveTask board t.id status
        (some s.moment.client) s.moment.now).2 with nextReceiver := next } :=
      congrArg Network.relay hnetwork
    refine ⟨⟨next, hnetwork⟩, fun b hb => ?_, ?_⟩
    · rw [hrelay]
      exact (Relay.room?_perform (.move t.id status (some s.moment.client)) board s.moment.now b
        relay).trans (if_neg hb)
    · rw [hrelay]
      exact tasks?_moveTask h.listed (hids board tasks h.listed) (mem_of_resolve h.task) status _ _

/-- A task is moved that is named by the beginning of its id, with another word for its status.
Somebody else has joined the board. An address that is encrypted, or has the port of encrypted
connections, does not lead to the relay. -/
theorem moveTask_reports_truly_of_prefix :
    let task (id : String) : Task := Relay.newTask "b" "Plan" .inbox none none id "t0"
    let moved : Task := { task "plan-1" with status := .inProgress, updatedAt := "t1" }
    let relay : Relay := ⟨["k"], [("b", ⟨[task "plan-1", task "pan-2"], [(0, .empty)]⟩)], 1⟩
    let settings : Settings :=
      { Settings.standard with apiUrl := "http://[::1]", boardId := "b", token := some "k" }
    let server : Url.Server := ⟨false, .ipv6 [0, 0, 0, 0, 0, 0, 0, 1], 80⟩
    let s : Surroundings :=
      ⟨fun _ => none, ⟨fun _ => false, fun _ => .error ""⟩, ⟨server, relay, true⟩,
        ⟨"t1", "2", "cli"⟩⟩
    let posted : ServerMessage := .taskUpdated
      ⟨"plan-1", Relay.movePatch (task "plan-1") .inProgress "t1", some "cli", "t1"⟩
    (moveTask settings "pl" "Doing" 1 s).ending = .done ∧
      (moveTask settings "pl" "Doing" 1 s).Leaves
        ⟨["k"], [("b", ⟨[moved, task "pan-2"], [(0, ⟨[posted], 0⟩)]⟩)], 1⟩ s.network ∧
      ∀ apiUrl ∈ ["https://[::1]", "http://[::1]:443"],
        (∃ chain, (moveTask { settings with apiUrl } "pl" "Doing" 1 s).ending = .failed chain) ∧
          (moveTask { settings with apiUrl } "pl" "Doing" 1 s).Leaves relay s.network := by
  intro task moved relay settings server s posted
  let address : Url.Address :=
    { scheme := "ws", userinfo := none, host := .ipv6 [0, 0, 0, 0, 0, 0, 0, 1], port := none
      path := ["ws".toList, "board".toList, "b".toList, "sync".toList]
      query := some "token=k".toList, fragment := none }
  have hrooms : ∀ board room, relay.room? board = some room →
      room = ⟨[task "plan-1", task "pan-2"], [(0, .empty)]⟩ := by
    intro board room h
    obtain ⟨entry, hentry, rfl⟩ := Option.map_eq_some_iff.mp h
    rw [List.mem_singleton.mp (List.mem_of_find?_eq_some hentry)]
  have htasks : ∀ board tasks, relay.tasks? board = some tasks →
      tasks = [task "plan-1", task "pan-2"] := by
    intro board tasks h
    obtain ⟨room, hroom, rfl⟩ := Option.map_eq_some_iff.mp h
    rw [hrooms board room hroom]
  have hnumbered : s.network.relay.IsNumbered := by
    intro board room hroom n hn
    rw [hrooms board room hroom] at hn
    rw [List.mem_singleton.mp hn]
    decide
  have hcan : CanMove settings "pl" "Doing" s.network "b" [task "plan-1", task "pan-2"] .inProgress
      (task "plan-1") :=
    ⟨⟨by decide +kernel, ⟨address, "b", by decide +kernel⟩, by decide +kernel, rfl⟩,
      by decide +kernel, by decide +kernel⟩
  have hids : ∀ board tasks, relay.tasks? board = some tasks → (ids tasks).Nodup := by
    intro board tasks h
    rw [htasks board tasks h]
    decide
  have hclock (settings : Settings) : ∀ board tasks status t,
      CanMove settings "pl" "Doing" s.network board tasks status t → t.updatedAt ≠ "t1" := by
    intro board tasks status t h
    have ht := mem_of_resolve h.task
    rw [htasks board tasks h.listed] at ht
    have hold : ∀ t ∈ [task "plan-1", task "pan-2"], t.updatedAt ≠ "t1" := by decide
    exact hold t ht
  obtain ⟨hdone, hmove, -⟩ := moveTask_reports_truly settings "pl" "Doing" hnumbered
    (show 0 < 1 by decide) hids (hclock settings)
  have hmoved : (relay.moveTask "b" "plan-1" .inProgress (some "cli") "t1").2 =
      ⟨["k"], [("b", ⟨[moved, task "pan-2"], [(0, ⟨[posted], 0⟩)]⟩)], 1⟩ := by
    decide +kernel
  obtain ⟨hleaves, -⟩ := (hmove _ _ _ _ hcan).2 (by decide)
  refine ⟨hdone.mpr ⟨_, _, _, _, hcan⟩, hmoved ▸ hleaves, fun apiUrl hapiUrl => ?_⟩
  have helsewhere : ∀ apiUrl ∈ ["https://[::1]", "http://[::1]:443"],
      ∀ address ∈ { settings with apiUrl }.socketAddress.toOption,
        ¬s.network.isReachedAt address = true := by decide +kernel
  obtain ⟨hdone, -, hfailed⟩ := moveTask_reports_truly { settings with apiUrl } "pl" "Doing"
    hnumbered (show 0 < 1 by decide) hids (hclock _)
  refine hfailed (mt hdone.mp ?_)
  rintro ⟨board, tasks, status, t, h⟩
  obtain ⟨address, -, haddress, hreached, -⟩ := h.addresses
  exact helsewhere apiUrl hapiUrl address (by rw [haddress]; rfl) hreached

end Command

end CommandLine

end LiveBoard
