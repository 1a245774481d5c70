import LiveBoard.Proofs.Text.Boundary
import LiveBoard.Url.Parser

/-!
# Addresses read part by part

An address of the web is read from two parts: its authority, up to the first character at which an
authority ends, and the tail from there on. User, host and port are read from the authority alone,
and path, query and fragment from the tail. Of the scheme nothing but its port matters.

## Main definitions

* `Url.visible`: what is read of the last part of a text.
* `Url.IsAuthority`, `Url.IsTail`: the two parts.
* `Url.Parts`: an address taken apart.

## Main results

* `Url.parse_eq`: an address is read from what is visible behind its scheme.
* `Url.parseWeb_append`, `Url.Parts.parseWeb`: it is read from its authority and its tail.
* `Url.parseWeb_scheme`: addresses whose schemes have the same port are read alike.
-/

namespace LiveBoard.Url

/-! ### The text that is read -/

/-- A character that is left out at the ends of an address. -/
def isMargin (c : Char) : Bool := c.toNat ≤ 0x20

/-- What is read of the last part of a text: nothing of the control characters and spaces at its
end, and nothing that is passed over. -/
def visible (cs : List Char) : List Char :=
  (cs.reverse.dropWhile isMargin).reverse.filter fun c => !isPassedOver c

theorem isPassedOver_eq_false {c : Char} (h : 0x20 < c.toNat) : isPassedOver c = false := by
  cases hc : isPassedOver c with
  | false => rfl
  | true =>
    have hcases : (c = '\t' ∨ c = '\n') ∨ c = '\r' := by simpa [isPassedOver] using hc
    rcases hcases with (rfl | rfl) | rfl <;> exact absurd h (by decide)

theorem isMargin_eq_false {c : Char} (h : 0x20 < c.toNat) : isMargin c = false := by
  simpa [isMargin] using h

theorem filter_isPassedOver {cs : List Char} (h : ∀ c ∈ cs, 0x20 < c.toNat) :
    cs.filter (fun c => !isPassedOver c) = cs :=
  List.filter_eq_self.mpr fun c hc => by rw [isPassedOver_eq_false (h c hc)]; rfl

theorem dropWhile_isMargin {c : Char} (h : 0x20 < c.toNat) {cs : List Char}
    (hc : c ∈ cs.getLast?) : cs.reverse.dropWhile isMargin = cs.reverse := by
  obtain ⟨init, rfl⟩ := List.getLast?_eq_some_iff.mp hc
  rw [List.reverse_append, List.reverse_singleton, List.singleton_append,
    List.dropWhile_cons_of_neg (by simp [isMargin_eq_false h])]

theorem visible_of_getLast? {c : Char} (h : 0x20 < c.toNat) {cs : List Char}
    (hc : c ∈ cs.getLast?) : visible cs = cs.filter fun c => !isPassedOver c := by
  rw [visible, dropWhile_isMargin h hc, List.reverse_reverse]

theorem getLast?_visible {c : Char} (h : 0x20 < c.toNat) {cs : List Char}
    (hc : c ∈ cs.getLast?) : c ∈ (visible cs).getLast? := by
  have hlast : [c].filter (fun c => !isPassedOver c) = [c] :=
    filter_isPassedOver (by simpa using h)
  rw [visible_of_getLast? h hc]
  obtain ⟨init, rfl⟩ := List.getLast?_eq_some_iff.mp hc
  rw [List.filter_append, hlast, List.getLast?_concat]
  rfl

/-- What is read of a text is read again where more follows. -/
theorem visible_prefix (cs ds : List Char) : visible cs <+: visible (cs ++ ds) := by
  have hkept : (cs.reverse.dropWhile isMargin).reverse <+: cs := by
    rw [← List.reverse_suffix, List.reverse_reverse]
    exact List.dropWhile_suffix isMargin
  rw [visible, visible, List.reverse_append, List.dropWhile_append]
  split
  · exact List.prefix_refl _
  · rw [List.reverse_append, List.reverse_reverse, List.filter_append]
    exact (hkept.filter _).trans (List.prefix_append _ _)

theorem mem_visible {c : Char} (h : 0x20 < c.toNat) {cs : List Char} (hc : c ∈ cs) :
    c ∈ visible cs := by
  refine List.mem_filter.mpr ⟨List.mem_reverse.mpr ?_, by rw [isPassedOver_eq_false h]; rfl⟩
  have hmem : c ∈ cs.reverse.takeWhile isMargin ++ cs.reverse.dropWhile isMargin := by
    rw [List.takeWhile_append_dropWhile]
    exact List.mem_reverse.mpr hc
  refine (List.mem_append.mp hmem).resolve_left fun htake => ?_
  have hmargin := List.mem_takeWhile_imp htake
  rw [isMargin_eq_false h] at hmargin
  cases hmargin

/-- The front of a text is all read if nothing of it is left out or passed over, and what is read
of the rest does not depend on it. -/
theorem significant_append {front : List Char} (hne : front ≠ [])
    (h : ∀ c ∈ front, 0x20 < c.toNat) (cs : List Char) :
    significant (String.ofList (front ++ cs)) = front ++ visible cs := by
  have hstart : (front ++ cs).dropWhile isMargin = front ++ cs := by
    obtain ⟨f, fs, rfl⟩ := List.exists_cons_of_ne_nil hne
    exact List.dropWhile_cons_of_neg (by simp [isMargin_eq_false (h f List.mem_cons_self)])
  have hend : front.reverse.dropWhile isMargin = front.reverse := by
    have hlast : front.getLast hne ∈ front.getLast? := List.getLast?_eq_some_getLast hne
    exact dropWhile_isMargin (h _ (List.getLast_mem hne)) hlast
  have htrim : (front ++ cs).reverse.dropWhile isMargin =
      cs.reverse.dropWhile isMargin ++ front.reverse := by
    rw [List.reverse_append, List.dropWhile_append]
    split
    · next hempty => rw [hend, List.isEmpty_iff.mp hempty, List.nil_append]
    · rfl
  show (((String.ofList (front ++ cs)).toList.dropWhile isMargin).reverse.dropWhile
    isMargin).reverse.filter _ = _
  rw [String.toList_ofList, hstart, htrim, List.reverse_append, List.reverse_reverse,
    List.filter_append, filter_isPassedOver h, visible]

/-- **An address of the web** is read from what is visible behind its scheme. -/
theorem parse_eq {scheme : String} (h : scheme ∈ ["http", "https", "ws", "wss"]) (cs : List Char) :
    parse (String.ofList (scheme.toList ++ "://".toList ++ cs)) =
      (parseWeb scheme ('/' :: '/' :: visible cs)).map .web := by
  simp only [List.mem_cons, List.not_mem_nil, or_false] at h
  have hall : (scheme.toList ++ "://".toList).all (fun c => 0x20 < c.toNat) = true := by
    rcases h with rfl | rfl | rfl | rfl <;> decide
  have hread : ∀ c ∈ scheme.toList ++ "://".toList, 0x20 < c.toNat := fun c hc =>
    of_decide_eq_true (List.all_eq_true.mp hall c hc)
  rw [parse, significant_append (by simp) hread]
  rcases h with rfl | rfl | rfl | rfl <;> rfl

/-! ### Authority and tail -/

/-- A sign that may stand for a slash. -/
def isSlash (c : Char) : Bool := c == '/' || c == '\\'

/-- A sign at which a path ends. -/
def endsPath (c : Char) : Bool := c == '?' || c == '#'

/-- None of the characters at which an authority ends is in it. -/
def IsAuthority (cs : List Char) : Prop := ∀ c ∈ cs, endsAuthority true c = false

/-- What follows an authority starts with a character at which an authority ends. -/
def IsTail (cs : List Char) : Prop := ∀ c ∈ cs.head?, endsAuthority true c = true

theorem endsAuthority_eq (c : Char) : endsAuthority true c = (isSlash c || endsPath c) := by
  rw [endsAuthority, isSlash, endsPath, Bool.true_and]
  ac_rfl

theorem isSlash_of_endsPath {c : Char} (h : endsPath c = true) :
    isSlash c = false ∧ endsAuthority true c = true := by
  have hcases : c = '?' ∨ c = '#' := by simpa [endsPath] using h
  rcases hcases with rfl | rfl <;> decide

/-- An address with path, query and fragment of another text. -/
def Address.withTail (a : Address)
    (tail : List (List Char) × Option (List Char) × Option (List Char)) : Address :=
  { a with path := tail.1, query := tail.2.1, fragment := tail.2.2 }

/-- The port behind a host, and what follows it. -/
def portAfter : List Char → Except ParseError (Option Nat × List Char)
  | ':' :: rest => parsePort rest
  | rest => .ok (none, rest)

/-- Reads an address from behind the user. -/
def parseHost (scheme : String) (userinfo : Option (List Char)) (cs : List Char) :
    Except ParseError Address :=
  let length := hostLength true false cs
  if length = 0 then .error .emptyHost
  else do
    let host ← Host.parse (cs.take length)
    let (port, cs) ← portAfter (cs.drop length)
    let (path, query, fragment) := parseTail cs
    return {
      scheme, userinfo, host
      port := if port = defaultPort? scheme then none else port
      path, query, fragment }

theorem parseWeb_eq (scheme : String) (cs : List Char) :
    parseWeb scheme cs =
      (splitUserinfo true (cs.dropWhile isSlash)).bind fun (u, cs) => parseHost scheme u cs := by
  show (splitUserinfo true (cs.dropWhile isSlash)).bind _ = _
  congr 1
  funext ⟨userinfo, rest⟩
  dsimp only [parseHost]
  split
  · rfl
  · refine congrArg (Except.bind _) (funext fun host => ?_)
    split
    · next hcolon => rw [hcolon]; rfl
    · next hother => rw [portAfter.eq_2 _ hother]

section Authority

variable {front tail : List Char}

theorem IsAuthority.tail_append {c : Char} {cs : List Char} (h : IsAuthority (c :: cs)) :
    IsAuthority cs := fun d hd => h d (List.mem_cons_of_mem _ hd)

theorem IsTail.head_eq_false (htail : IsTail tail) {p : Char → Bool}
    (hp : ∀ c, endsAuthority true c = true → p c = false) : ∀ c ∈ tail.head?, p c = false :=
  fun c hc => hp c (htail c hc)

theorem takeWhile_authority (hfront : IsAuthority front) :
    front.takeWhile (fun c => !endsAuthority true c) = front :=
  List.takeWhile_eq_self_iff.mpr fun c hc => by rw [hfront c hc]; rfl

theorem takeWhile_authority_append (hfront : IsAuthority front) (htail : IsTail tail) :
    (front ++ tail).takeWhile (fun c => !endsAuthority true c) = front := by
  rw [(Text.takeWhile_append_of_head (htail.head_eq_false (by simp)) front).1,
    takeWhile_authority hfront]

theorem hostLength_append (hfront : IsAuthority front) (htail : IsTail tail) (bracketed : Bool) :
    hostLength true bracketed (front ++ tail) = hostLength true bracketed front := by
  induction front generalizing bracketed with
  | nil =>
    cases tail with
    | nil => rfl
    | cons c cs => simp [hostLength, htail c rfl]
  | cons c cs ih => simp only [List.cons_append, hostLength, ih hfront.tail_append]

theorem hostLength_le (bracketed : Bool) (cs : List Char) :
    hostLength true bracketed cs ≤ cs.length := by
  induction cs generalizing bracketed with
  | nil => exact Nat.le_refl _
  | cons c cs ih =>
    rw [hostLength]
    split
    · exact Nat.zero_le _
    · exact Nat.succ_le_succ (ih _)

/-- The host goes up to a colon or to the end of the authority. -/
theorem drop_hostLength (hfront : IsAuthority front) (bracketed : Bool) :
    front.drop (hostLength true bracketed front) = [] ∨
      ∃ rest, front.drop (hostLength true bracketed front) = ':' :: rest := by
  induction front generalizing bracketed with
  | nil => exact .inl rfl
  | cons c cs ih =>
    rw [hostLength]
    split
    · next hstop =>
      obtain rfl : c = ':' := by
        simp [hfront c List.mem_cons_self] at hstop
        exact hstop.1
      exact .inr ⟨cs, rfl⟩
    · exact ih hfront.tail_append _

theorem parsePort_append (hfront : IsAuthority front) (htail : IsTail tail) :
    parsePort (front ++ tail) = (parsePort front).map fun (port, _) => (port, tail) := by
  have hdigit : ∀ c, endsAuthority true c = true → c.isDigit = false := by
    intro c hc
    have hends : ((c = '/' ∨ c = '?') ∨ c = '#') ∨ c = '\\' := by
      simpa [endsAuthority] using hc
    rcases hends with ((rfl | rfl) | rfl) | rfl <;> rfl
  obtain ⟨htake, hdrop⟩ := Text.takeWhile_append_of_head (htail.head_eq_false hdigit) front
  rw [parsePort, parsePort, htake, hdrop]
  dsimp only
  split
  · rfl
  · split
    · rfl
    · cases hrest : front.dropWhile Char.isDigit with
      | nil =>
        cases tail with
        | nil => rfl
        | cons c cs => simp [htail c rfl, Except.map]
      | cons c cs =>
        have hc : c ∈ front := (List.dropWhile_suffix _).subset (hrest ▸ List.mem_cons_self)
        simp [hfront c hc, Except.map]

theorem portAfter_append (hfront : IsAuthority front)
    (hcolon : front = [] ∨ ∃ rest, front = ':' :: rest) (htail : IsTail tail) :
    portAfter (front ++ tail) = (portAfter front).map fun (port, _) => (port, tail) := by
  rcases hcolon with rfl | ⟨rest, rfl⟩
  · rw [List.nil_append, portAfter]
    · rfl
    · rintro rest rfl
      cases htail ':' rfl
  · exact parsePort_append hfront.tail_append htail

theorem parseHost_append (scheme : String) (userinfo : Option (List Char))
    (hfront : IsAuthority front) (htail : IsTail tail) :
    parseHost scheme userinfo (front ++ tail) =
      (parseHost scheme userinfo front).map (·.withTail (parseTail tail)) := by
  rw [parseHost, parseHost, hostLength_append hfront htail]
  dsimp only
  split
  · rfl
  · have hle := hostLength_le false front
    rw [List.take_append_of_le_length hle, List.drop_append_of_le_length hle]
    cases Host.parse (front.take (hostLength true false front)) with
    | error e => rfl
    | ok host =>
      have hrest : IsAuthority (front.drop (hostLength true false front)) := fun c hc =>
        hfront c (List.mem_of_mem_drop hc)
      show (portAfter (_ ++ tail) >>= _) = _
      rw [portAfter_append hrest (drop_hostLength hfront false) htail]
      cases portAfter (front.drop (hostLength true false front)) <;> rfl

theorem mem_of_splitLastAt {cs user after : List Char} (h : splitLastAt cs = some (user, after)) :
    ∀ c ∈ after, c ∈ cs := by
  rw [splitLastAt] at h
  split at h
  · cases h
    intro c hc
    have hsub := (List.takeWhile_sublist (· != '@')).subset (List.mem_reverse.mp hc)
    exact List.mem_reverse.mp hsub
  · cases h

/-- What is behind the user is part of the authority. -/
theorem isAuthority_of_splitUserinfo {user : Option (List Char)} {rest : List Char}
    (hfront : IsAuthority front) (h : splitUserinfo true front = .ok (user, rest)) :
    IsAuthority rest := by
  rw [splitUserinfo, takeWhile_authority hfront, List.drop_length] at h
  split at h
  · cases h
    exact hfront
  · next after hsplit =>
    split at h <;> cases h
    rw [List.append_nil]
    exact fun c hc => hfront c (mem_of_splitLastAt hsplit c hc)
  · next user after _ hsplit =>
    cases h
    rw [List.append_nil]
    exact fun c hc => hfront c (mem_of_splitLastAt hsplit c hc)

/-- The user is found where it was before. A sign behind an empty user is an error where something
follows, and otherwise there is no host. -/
theorem splitUserinfo_append (hfront : IsAuthority front) (htail : IsTail tail) :
    splitUserinfo true (front ++ tail) =
        (splitUserinfo true front).map (fun (user, rest) => (user, rest ++ tail)) ∨
      splitUserinfo true (front ++ tail) = .error .emptyHost ∧
        splitUserinfo true front = .ok (none, []) := by
  rw [splitUserinfo, splitUserinfo, takeWhile_authority_append hfront htail,
    takeWhile_authority hfront, List.drop_left, List.drop_length]
  dsimp only
  cases splitLastAt front with
  | none => exact .inl rfl
  | some parts =>
    obtain ⟨user, after⟩ := parts
    cases user with
    | cons c cs => exact .inl (by simp [Except.map])
    | nil =>
      cases after with
      | cons c cs => exact .inl (by simp [Except.map])
      | nil =>
        cases tail with
        | nil => exact .inl rfl
        | cons c cs => exact .inr ⟨rfl, rfl⟩

/-- **An address is read from its authority and its tail.** -/
theorem parseWeb_append (scheme : String) (hfront : IsAuthority front) (htail : IsTail tail)
    (hroot : ∀ c ∈ (front ++ tail).head?, isSlash c = false) :
    parseWeb scheme (front ++ tail) =
      (parseWeb scheme front).map (·.withTail (parseTail tail)) := by
  have hdrop : (front ++ tail).dropWhile isSlash = front ++ tail :=
    Text.dropWhile_eq_self_of_head hroot
  have hdrop' : front.dropWhile isSlash = front :=
    Text.dropWhile_eq_self_of_head fun c hc => by
      have hends := hfront c (List.mem_of_mem_head? hc)
      rw [endsAuthority_eq, Bool.or_eq_false_iff] at hends
      exact hends.1
  rw [parseWeb_eq, parseWeb_eq, hdrop, hdrop']
  rcases splitUserinfo_append hfront htail with hsplit | ⟨herror, hnone⟩
  · rw [hsplit]
    cases hfound : splitUserinfo true front with
    | error e => rfl
    | ok found =>
      exact parseHost_append scheme found.1 (isAuthority_of_splitUserinfo hfront hfound) htail
  · rw [herror, hnone]
    rfl

end Authority

/-- Slashes before the authority do not matter. -/
theorem parseWeb_slashes (scheme : String) {slashes : List Char}
    (h : ∀ c ∈ slashes, isSlash c = true) (cs : List Char) :
    parseWeb scheme (slashes ++ cs) = parseWeb scheme cs := by
  rw [parseWeb_eq, parseWeb_eq, List.dropWhile_append_of_pos h]

/-- Of the scheme nothing but its port matters. -/
theorem parseWeb_scheme {scheme scheme' : String} (h : defaultPort? scheme = defaultPort? scheme')
    (cs : List Char) :
    parseWeb scheme cs = (parseWeb scheme' cs).map ({ · with scheme }) := by
  rw [parseWeb_eq, parseWeb_eq]
  cases splitUserinfo true (cs.dropWhile isSlash) with
  | error e => rfl
  | ok found =>
    show parseHost scheme found.1 found.2 = (parseHost scheme' found.1 found.2).map _
    rw [parseHost, parseHost, h]
    dsimp only
    split
    · rfl
    · cases Host.parse (found.2.take (hostLength true false found.2)) with
      | error e => rfl
      | ok host =>
        show (portAfter _ >>= _) = (portAfter _ >>= _).map _
        cases portAfter (found.2.drop (hostLength true false found.2)) <;> rfl

/-! ### The parts of an address -/

/-- An address behind the colon of its scheme, taken apart: slashes, the authority, and the tail. -/
structure Parts (cs : List Char) where
  slashes : List Char
  authority : List Char
  tail : List Char
  eq_append : cs = slashes ++ (authority ++ tail)
  isSlash_of_mem : ∀ c ∈ slashes, isSlash c = true
  isSlash_of_head : ∀ c ∈ (authority ++ tail).head?, isSlash c = false
  isAuthority : IsAuthority authority
  isTail : IsTail tail

namespace Parts

variable {cs ds : List Char}

/-- The parts of a text. -/
def of (cs : List Char) : Parts cs where
  slashes := cs.takeWhile isSlash
  authority := (cs.dropWhile isSlash).takeWhile fun c => !endsAuthority true c
  tail := (cs.dropWhile isSlash).dropWhile fun c => !endsAuthority true c
  eq_append := by rw [List.takeWhile_append_dropWhile, List.takeWhile_append_dropWhile]
  isSlash_of_mem c hc := List.mem_takeWhile_imp hc
  isSlash_of_head c hc := by
    rw [List.takeWhile_append_dropWhile] at hc
    exact Text.eq_false_of_mem_head hc
  isAuthority c hc := by simpa using List.mem_takeWhile_imp hc
  isTail c hc := by simpa using Text.eq_false_of_mem_head hc

/-- **An address is read from its authority and its tail.** -/
theorem parseWeb (p : Parts cs) (scheme : String) :
    parseWeb scheme cs =
      (Url.parseWeb scheme p.authority).map (·.withTail (parseTail p.tail)) := by
  calc Url.parseWeb scheme cs
      = Url.parseWeb scheme (p.slashes ++ (p.authority ++ p.tail)) := congrArg _ p.eq_append
    _ = Url.parseWeb scheme (p.authority ++ p.tail) := parseWeb_slashes scheme p.isSlash_of_mem _
    _ = _ := parseWeb_append scheme p.isAuthority p.isTail p.isSlash_of_head

theorem ne_nil (p : Parts cs) (h : ∃ c ∈ cs, isSlash c = false) : p.authority ++ p.tail ≠ [] := by
  obtain ⟨c, hc, hslash⟩ := h
  rw [p.eq_append, List.mem_append] at hc
  rcases hc with hc | hc
  · rw [p.isSlash_of_mem c hc] at hslash
    cases hslash
  · exact List.ne_nil_of_mem hc

/-- A path ends behind the authority. -/
theorem mem_tail (p : Parts cs) {c : Char} (hc : c ∈ cs) (hpath : endsPath c = true) :
    c ∈ p.tail := by
  obtain ⟨hslash, hends⟩ := isSlash_of_endsPath hpath
  rw [p.eq_append, List.mem_append, List.mem_append] at hc
  rcases hc with hc | hc | hc
  · rw [p.isSlash_of_mem c hc] at hslash
    cases hslash
  · rw [p.isAuthority c hc] at hends
    cases hends
  · exact hc

theorem getLast?_tail (p : Parts cs) {c : Char} (hc : c ∈ p.tail.getLast?) : c ∈ cs.getLast? := by
  rw [p.eq_append, List.getLast?_append, List.getLast?_append, Option.mem_def.mp hc]
  rfl

/-- More text behind an address belongs to its tail. -/
def append (p : Parts cs) (ds : List Char) (hne : p.authority ++ p.tail ≠ [])
    (htail : p.tail = [] → IsTail ds) : Parts (cs ++ ds) where
  slashes := p.slashes
  authority := p.authority
  tail := p.tail ++ ds
  eq_append := by rw [← List.append_assoc, ← List.append_assoc, List.append_assoc p.slashes,
    ← p.eq_append]
  isSlash_of_mem := p.isSlash_of_mem
  isSlash_of_head := by
    obtain ⟨d, rest, hcons⟩ := List.exists_cons_of_ne_nil hne
    intro c hc
    rw [← List.append_assoc, hcons] at hc
    exact p.isSlash_of_head c (hcons ▸ hc)
  isAuthority := p.isAuthority
  isTail := by
    cases h : p.tail with
    | nil => exact htail h
    | cons c cs =>
      intro d hd
      refine p.isTail d ?_
      rw [h]
      exact hd

end Parts

end LiveBoard.Url
