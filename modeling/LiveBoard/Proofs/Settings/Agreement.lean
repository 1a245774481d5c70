import LiveBoard.Proofs.Settings.Addresses
import LiveBoard.Proofs.Url.Slash

/-!
# The two addresses of a relay

The socket and the list of tasks are at one relay, but their addresses are not made in the same way.
For the socket the text that is configured is shortened by the slashes at its end and gets another
scheme before it is read; for the tasks it is read as it is. Where the scheme is spelled in lower
case, and the slashes are behind a character that is read or behind the path, either both addresses
can be made or none, and they agree on user, host, port and scheme. They also agree on the path
that the names are pushed on, unless there are several slashes.

## Main definitions

* `Settings.Spells`: how the address of a relay is spelled.
* `Settings.socketScheme`: the scheme of sockets that goes with one of the web.

## Main results

* `Settings.addresses_agree`: the two addresses of a board are at the same relay.
-/

namespace LiveBoard.Settings

open Url

/-! ### Spelling -/

/-- An address is spelled as a scheme in lower case, a text that does not end in a slash, and
slashes that can be left out without harm to the authority. -/
structure Spells (address scheme : String) (base slashes : List Char) : Prop where
  scheme_mem : scheme ∈ ["http", "https"]
  trimChars_eq : Text.trimChars address.toList =
    scheme.toList ++ "://".toList ++ (base ++ slashes)
  ne_of_last : ∃ c ∈ base.getLast?, c ≠ '/'
  eq_of_mem : ∀ c ∈ slashes, c = '/'
  isSpare : IsSpare base slashes

/-- The scheme of sockets that goes with one of the web. -/
def socketScheme (scheme : String) : String := if scheme = "https" then "wss" else "ws"

section Spells

variable {s : Settings} {scheme : String} {base slashes : List Char}

theorem socketScheme_mem (h : scheme ∈ ["http", "https"]) :
    socketScheme scheme ∈ ["http", "https", "ws", "wss"] := by
  revert scheme
  decide

theorem defaultPort?_socketScheme (h : scheme ∈ ["http", "https"]) :
    defaultPort? (socketScheme scheme) = defaultPort? scheme := by
  simp only [List.mem_cons, List.not_mem_nil, or_false] at h
  rcases h with rfl | rfl <;> rfl

theorem Spells.socketBase (h : Spells s.apiUrl scheme base slashes) :
    s.socketBase =
      .ok (String.ofList ((socketScheme scheme).toList ++ "://".toList ++ base)) := by
  have hbase : ((Text.trimChars s.apiUrl.toList).reverse.dropWhile (· == '/')).reverse =
      scheme.toList ++ "://".toList ++ base := by
    obtain ⟨c, hc, hne⟩ := h.ne_of_last
    have hall : ∀ d ∈ slashes.reverse, (d == '/') = true := fun d hd => by
      simpa using h.eq_of_mem d (List.mem_reverse.mp hd)
    have hlast : ∀ d ∈ (scheme.toList ++ "://".toList ++ base).reverse.head?,
        (d == '/') = false := by
      intro d hd
      rw [List.head?_reverse, List.getLast?_append, Option.mem_def.mp hc] at hd
      obtain rfl : c = d := Option.some.inj hd
      simpa using hne
    rw [h.trimChars_eq, ← List.append_assoc, List.reverse_append,
      List.dropWhile_append_of_pos hall, Text.dropWhile_eq_self_of_head hlast, List.reverse_reverse]
  rw [Settings.socketBase, hbase]
  have hscheme := h.scheme_mem
  simp only [List.mem_cons, List.not_mem_nil, or_false] at hscheme
  rcases hscheme with rfl | rfl <;> rfl

theorem webAddress_eq {text : String} {read : Except ParseError Address}
    (h : parse text = read.map .web) : s.webAddress text = read.mapError .address := by
  rw [webAddress, h]
  cases read <;> rfl

/-- **The relay of the two addresses**: they differ in their schemes and in the tails that were
read. -/
theorem Spells.webAddress (h : Spells s.apiUrl scheme base slashes) :
    ∃ (text : String) (read : Except SettingsError Address) (tail tail' : List Char),
      s.socketBase = .ok text ∧
      s.webAddress text = read.map
        (fun a => { a.withTail (parseTail tail) with scheme := socketScheme scheme }) ∧
      s.webAddress (Text.trim s.apiUrl) = read.map
        (fun a => { a.withTail (parseTail tail') with scheme }) ∧
      (IsBrief base slashes → popped (parseTail tail').1 = popped (parseTail tail).1) := by
  obtain ⟨rest, hvisible, hspare, hbrief⟩ := h.isSpare.visible
  have hspare' : IsSpare ('/' :: '/' :: visible base) rest := hspare.append_left ['/', '/']
  have hport := defaultPort?_socketScheme h.scheme_mem
  have hsocket : parse (String.ofList ((socketScheme scheme).toList ++ "://".toList ++ base)) =
      (parseWeb (socketScheme scheme) ('/' :: '/' :: visible base)).map .web :=
    parse_eq (socketScheme_mem h.scheme_mem) base
  have htasks : parse (Text.trim s.apiUrl) =
      (parseWeb scheme ('/' :: '/' :: visible base ++ rest)).map .web := by
    rw [Text.trim, h.trimChars_eq, parse_eq (List.mem_append_left ["ws", "wss"] h.scheme_mem),
      hvisible]
    rfl
  have hread := hspare'.parseWeb_append scheme
  have hread' := (Parts.of ('/' :: '/' :: visible base)).parseWeb scheme
  have hpath := hspare'.popped_parseTail_append
  generalize Parts.of ('/' :: '/' :: visible base) = parts at *
  refine ⟨_, (parseWeb scheme parts.authority).mapError .address, parts.tail, parts.tail ++ rest,
    h.socketBase, ?_, ?_, fun h => hpath ((hbrief h).append_left ['/', '/'])⟩
  · rw [webAddress_eq hsocket, parseWeb_scheme hport, hread']
    cases parseWeb scheme parts.authority <;> rfl
  · rw [webAddress_eq htasks, parseWeb_scheme (rfl : defaultPort? scheme = _), hread]
    cases parseWeb scheme parts.authority <;> rfl

end Spells

/-! ### Agreement -/

/-- Two addresses, of the socket and of the tasks, are at one relay. -/
structure ShareRelay (scheme : String) (a b : Address) : Prop where
  userinfo : a.userinfo = b.userinfo
  host : a.host = b.host
  port : a.port.or (defaultPort? a.scheme) = b.port.or (defaultPort? b.scheme)
  socket : a.scheme = socketScheme scheme
  tasks : b.scheme = scheme

variable {s : Settings}

theorem requireBoard_of_isBlankText (h : Text.isBlankText s.boardId = false) :
    s.requireBoard = .ok () := by
  rw [requireBoard, h]
  rfl

theorem socketAddress_eq {token text : String} (htoken : s.bearerToken = some token)
    (hboard : Text.isBlankText s.boardId = false) (htext : s.socketBase = .ok text) :
    s.socketAddress = (s.webAddress text).map fun a =>
      (a.popIfEmpty.pushSegments ["ws", "board", s.boardId, "sync"]).withField "token" token := by
  simp only [socketAddress, htoken, requireBoard_of_isBlankText hboard, htext, bind, Except.bind]
  cases s.webAddress text <;> rfl

theorem tasksAddress_eq (hboard : Text.isBlankText s.boardId = false)
    (hscheme : ∀ a, s.webAddress (Text.trim s.apiUrl) = .ok a →
      a.scheme = "http" ∨ a.scheme = "https") :
    s.tasksAddress = (s.webAddress (Text.trim s.apiUrl)).map fun a =>
      a.popIfEmpty.pushSegments ["api", "v1", "boards", s.boardId, "tasks"] := by
  simp only [tasksAddress, requireBoard_of_isBlankText hboard, bind, Except.bind]
  cases h : s.webAddress (Text.trim s.apiUrl) with
  | error e => rfl
  | ok a => simp only [if_pos (hscheme a h), Except.map, pure, Except.pure]

/-- **The two addresses of a board are at one relay.** Where the scheme of the relay is spelled in
lower case and the slashes at the end of its address can be left out without harm to the authority,
either both addresses can be made or none. They agree on user, host, port and scheme, and unless
there are several slashes also on the path before the names. -/
theorem addresses_agree {scheme : String} {base slashes : List Char}
    (htoken : s.bearerToken.isSome = true) (hboard : Text.isBlankText s.boardId = false)
    (hspells : Spells s.apiUrl scheme base slashes) :
    ((∃ a, s.socketAddress = .ok a) ↔ ∃ b, s.tasksAddress = .ok b) ∧
    ∀ a b, s.socketAddress = .ok a → s.tasksAddress = .ok b →
      ShareRelay scheme a b ∧
      ∃ front front',
        a.path = front ++
          (placed (["ws", "board"].map String.toList) s.boardId ++ ["sync".toList]) ∧
        b.path = front' ++
          (placed (["api", "v1", "boards"].map String.toList) s.boardId ++ ["tasks".toList]) ∧
        (IsBrief base slashes → front' = front) := by
  obtain ⟨token, htoken⟩ := Option.isSome_iff_exists.mp htoken
  obtain ⟨text, read, tail, tail', htext, hsocket, htasks, hpath⟩ := hspells.webAddress
  rw [socketAddress_eq htoken hboard htext, tasksAddress_eq hboard, hsocket, htasks]
  · cases read with
    | error e => simp [Except.map]
    | ok found =>
      refine ⟨⟨fun _ => ⟨_, rfl⟩, fun _ => ⟨_, rfl⟩⟩, ?_⟩
      intro a b ha hb
      rw [← Except.ok.inj ha, ← Except.ok.inj hb]
      refine ⟨⟨?userinfo, ?host, ?port, ?socket, ?tasks⟩, trunk (popped (parseTail tail).1),
        trunk (popped (parseTail tail').1), ?path, ?path', fun hbrief => by rw [hpath hbrief]⟩
      case path =>
        refine (Address.path_pushSegments isLiteral_socket (by decide)
          (show IsLiteral "sync" by decide) _ s.boardId).trans ?_
        rw [Address.popIfEmpty_eq]
        rfl
      case path' =>
        refine (Address.path_pushSegments isLiteral_tasks (by decide)
          (show IsLiteral "tasks" by decide) _ s.boardId).trans ?_
        rw [Address.popIfEmpty_eq]
        rfl
      all_goals
        simp only [Address.pushSegments_eq, Address.popIfEmpty_eq, Address.withField,
          Address.withTail, defaultPort?_socketScheme hspells.scheme_mem]
  · intro a ha
    rw [htasks] at ha
    have hscheme := hspells.scheme_mem
    obtain ⟨found, -, rfl⟩ := Json.map_eq_ok ha
    simpa using hscheme

/-- A relay with a user, the port of its scheme and a path of its own, written with a slash behind
it. -/
theorem addresses_agree_of_path :
    let s : Settings := { standard with
      apiUrl := " https://u:p@[::1]:443/base/ ", boardId := "a/b", token := some "t" }
    ∃ a b front, s.socketAddress = .ok a ∧ s.tasksAddress = .ok b ∧ ShareRelay "https" a b ∧
      a.path = front ++
        (placed (["ws", "board"].map String.toList) s.boardId ++ ["sync".toList]) ∧
      b.path = front ++
        (placed (["api", "v1", "boards"].map String.toList) s.boardId ++ ["tasks".toList]) := by
  intro s
  have htoken : s.bearerToken.isSome = true := by decide +kernel
  have hboard : Text.isBlankText s.boardId = false := by decide +kernel
  have hspells : Spells s.apiUrl "https" "u:p@[::1]:443/base".toList ['/'] :=
    ⟨by decide, by decide +kernel, ⟨'e', rfl, by decide⟩, fun _ => List.mem_singleton.mp,
      .inr (.inr ⟨fun _ => List.mem_singleton.mp, 'e', rfl, rfl⟩)⟩
  obtain ⟨hiff, hagree⟩ := addresses_agree htoken hboard hspells
  have hsocket : s.socketAddress.isOk = true := by decide +kernel
  cases ha : s.socketAddress with
  | error e =>
    rw [ha] at hsocket
    cases hsocket
  | ok a =>
    obtain ⟨b, hb⟩ := hiff.mp ⟨a, ha⟩
    obtain ⟨hshare, front, front', hpath, hpath', hsame⟩ := hagree a b ha hb
    obtain rfl := hsame (.inr (by decide))
    exact ⟨a, b, front', rfl, hb, hshare, hpath, hpath'⟩

/-- Spellings for which the two addresses do not agree: a scheme in upper case, several slashes at
the end, and a blank before the slash. -/
theorem addresses_differ_of_spelling :
    let s : Settings := { standard with boardId := "b", token := some "t" }
    let upper : Settings := { s with apiUrl := "HTTP://[::1]:8000" }
    let slashes : Settings := { s with apiUrl := "http://[::1]/a//" }
    let blank : Settings := { s with apiUrl := "http://[::1] /" }
    upper.socketAddress.map Address.print = .error (.notWeb "HTTP://[::1]:8000") ∧
      upper.tasksAddress.map Address.print =
        .ok "http://[::1]:8000/api/v1/boards/b/tasks" ∧
      slashes.socketAddress.map Address.print = .ok "ws://[::1]/a/ws/board/b/sync?token=t" ∧
      slashes.tasksAddress.map Address.print = .ok "http://[::1]/a//api/v1/boards/b/tasks" ∧
      blank.socketAddress.map Address.print = .ok "ws://[::1]/ws/board/b/sync?token=t" ∧
      blank.tasksAddress.map Address.print = .error (.address .invalidIpv6) := by
  decide +kernel

end LiveBoard.Settings
