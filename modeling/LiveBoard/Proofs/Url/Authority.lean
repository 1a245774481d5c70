import LiveBoard.Proofs.Url.Target

/-!
# The front of an address

Whoever reads the text of an address cuts it at its first number sign, and what is left at its first
question mark. In front of the path stands neither. Schemes and ports have no such signs, and in
user names they are written after a percent sign. A host is written with digits and colons, or it is
a domain: its labels have letters and signs that a domain may hold, or digits of their ASCII form,
whatever script they come in. So the query of an address is what its text is cut to.

## Main definitions

* `Url.Idna.IsClean`: a text that a domain may hold.
* `Url.Address.IsPlain`: nothing in front of the query of an address cuts its text.
* `Url.queryPart`: what the text of an address is cut to.

## Main results

* `Url.Idna.isClean_of_toAscii`: the ASCII form of a domain holds nothing that is denied.
* `Url.isPlain_of_parse`, `Url.Address.IsPlain.pushSegments`: the addresses that are read and built
  on are plain.
* `Url.Address.IsPlain.queryPart_chars`: the query of an address is cut out of its text.
-/

namespace LiveBoard

namespace Url

/-! ### Domains -/

namespace Idna

/-- A text without characters that no domain holds. -/
def IsClean (cs : List Char) : Prop := ∀ c ∈ cs, isDenied c = false

variable {cs ds label name : List Char}

theorem IsClean.append (hcs : IsClean cs) (hds : IsClean ds) : IsClean (cs ++ ds) :=
  List.forall_mem_append.mpr ⟨hcs, hds⟩

theorem IsClean.mono (h : IsClean cs) (hsub : ds ⊆ cs) : IsClean ds := fun c hc => h c (hsub hc)

theorem IsClean.endsPath (h : IsClean cs) : ∀ c ∈ cs, endsPath c = false := by
  intro c hc
  rw [endsPath_eq_false_iff]
  constructor <;> rintro rfl <;> exact absurd (h _ hc) (by decide)

end Idna

namespace Punycode

open Idna

theorem isDenied_digit {n : Nat} (h : n < 36) : isDenied (digit n) = false := by
  have hall : ∀ m < 36, isDenied (digit m) = false := by decide
  exact hall n h

theorem isClean_digits (bias k n : Nat) : IsClean (digits bias k n) := by
  induction k, n using digits.induct bias with
  | case1 k n t hlast =>
    have hbound : n < 36 := hlast.trans_le ((threshold_le k bias).trans (by decide))
    rw [digits, if_pos hlast]
    exact List.forall_mem_singleton.mpr (isDenied_digit hbound)
  | case2 k n t hmore ih =>
    have hbound : t + (n - t) % (36 - t) < 36 := by
      have ht : t ≤ 26 := threshold_le k bias
      have hmod : (n - t) % (36 - t) < 36 - t := Nat.mod_lt _ (by omega)
      omega
    rw [digits, if_neg hmore]
    exact List.forall_mem_cons.mpr ⟨isDenied_digit hbound, ih⟩

theorem isClean_visit {w : Writer} (h : IsClean w.out) (basic n : Nat) (c : Char) :
    IsClean (w.visit basic n c).out := by
  rw [Writer.visit]
  split
  · exact h
  · split
    · exact h.append (isClean_digits _ _ _)
    · exact h

theorem isClean_foldl_visit {w : Writer} (h : IsClean w.out) (basic n : Nat) (label : List Char) :
    IsClean (label.foldl (Writer.visit basic n) w).out := by
  induction label generalizing w with
  | nil => exact h
  | cons c label ih => exact ih (isClean_visit h basic n c)

theorem isClean_place {w : Writer} (h : IsClean w.out) (label : List Char) (basic : Nat)
    (ns : List Nat) (start : Nat) : IsClean (place label basic ns start w).out := by
  induction ns generalizing start w with
  | nil => exact h
  | cons n ns ih =>
    refine ih ?_ (n + 1)
    refine isClean_foldl_visit ?_ basic n label
    exact h

/-- The ASCII form of a label has no characters but its own and digits, and a hyphen. -/
theorem isClean_encode {label : List Char} (h : IsClean label) : IsClean (encode label) := by
  have hbasic : IsClean (label.filter fun c => c.toNat < 0x80) := h.mono List.filter_sublist.subset
  refine isClean_place ?_ _ _ _ _
  dsimp only
  split
  · exact nofun
  · exact hbasic.append (List.forall_mem_singleton.mpr (by decide))

end Punycode

namespace Idna

variable {cs ds label name : List Char}

theorem isClean_asciiFront : IsClean asciiFront := by
  have hall : (asciiFront.all fun c => !isDenied c) = true := by decide
  simpa [IsClean] using hall

theorem isClean_labelToAscii (hlabel : IsClean label) (h : labelToAscii? label = some cs) :
    IsClean cs := by
  rw [labelToAscii?] at h
  split at h
  · have hsame : label = cs := by
      split at h
      · split at h
        · split at h
          · exact Option.some.inj h
          · cases h
        · cases h
      · exact Option.some.inj h
    exact hsame ▸ hlabel
  · split at h
    · cases h
      exact isClean_asciiFront.append (Punycode.isClean_encode hlabel)
    · cases h

theorem subset_of_mem_labels (h : label ∈ labels cs) : label ⊆ cs := by
  induction cs generalizing label with
  | nil =>
    obtain rfl := List.mem_singleton.mp h
    exact List.nil_subset _
  | cons c cs ih =>
    rw [labels] at h
    split at h
    · rcases List.mem_cons.mp h with rfl | h
      · exact List.nil_subset _
      · exact List.subset_cons_of_subset c (ih h)
    · split at h
      · obtain rfl := List.mem_singleton.mp h
        exact List.cons_subset_cons c (List.nil_subset cs)
      · next first rest hlabels =>
        rcases List.mem_cons.mp h with rfl | h
        · exact List.cons_subset_cons c (ih (hlabels ▸ List.mem_cons_self))
        · exact List.subset_cons_of_subset c (ih (hlabels ▸ List.mem_cons_of_mem _ h))

theorem isClean_joinLabels {parts : List (List Char)} (h : ∀ part ∈ parts, IsClean part) :
    IsClean (joinLabels parts) := by
  induction parts using joinLabels.induct with
  | case1 => exact nofun
  | case2 label => exact h label List.mem_cons_self
  | case3 label rest hrest ih =>
    obtain ⟨hlabel, hparts⟩ := List.forall_mem_cons.mp h
    rw [joinLabels.eq_3 label rest hrest]
    exact hlabel.append (List.forall_mem_cons.mpr ⟨by decide, ih hparts⟩)

theorem isClean_of_mapM {ls parts : List (List Char)} (hls : ∀ label ∈ ls, IsClean label)
    (h : ls.mapM labelToAscii? = some parts) : ∀ part ∈ parts, IsClean part := by
  induction ls generalizing parts with
  | nil =>
    cases h
    exact nofun
  | cons label ls ih =>
    obtain ⟨hlabel, hls⟩ := List.forall_mem_cons.mp hls
    rw [List.mapM_cons] at h
    obtain ⟨part, hpart, h⟩ := Option.bind_eq_some_iff.mp h
    obtain ⟨rest, hrest, h⟩ := Option.bind_eq_some_iff.mp h
    cases h
    exact List.forall_mem_cons.mpr ⟨isClean_labelToAscii hlabel hpart, ih hls hrest⟩

/-- **The ASCII form of a domain** holds nothing that is denied. -/
theorem isClean_of_toAscii (h : toAscii? cs = some name) : IsClean name := by
  obtain ⟨domain, -, h⟩ := Option.bind_eq_some_iff.mp h
  split at h
  · cases h
  · next hdenied =>
    have hdomain : IsClean domain := by simpa [IsClean] using hdenied
    obtain ⟨parts, hparts, h⟩ := Option.bind_eq_some_iff.mp h
    split at h
    · cases h
      refine isClean_joinLabels (isClean_of_mapM (fun label hlabel => ?_) hparts)
      exact hdomain.mono (subset_of_mem_labels hlabel)
    · cases h

end Idna

/-! ### Hosts -/

theorem endsPath_toDigits {b : Nat} (hb : 1 < b) (hb' : b ≤ 16) (n : Nat) :
    ∀ c ∈ Nat.toDigits b n, endsPath c = false := by
  have hdigit : ∀ d < 16, endsPath (Nat.digitChar d) = false := by decide
  induction n using Nat.strongRecOn with
  | ind n ih =>
    by_cases hn : n < b
    · rw [Nat.toDigits_of_lt_base hn]
      exact List.forall_mem_singleton.mpr (hdigit n (hn.trans_le hb'))
    · have hpos : 0 < n := by omega
      have hlast : n % b < 16 := (Nat.mod_lt n (by omega)).trans_le hb'
      rw [Nat.toDigits_of_base_le hb (by omega), List.forall_mem_append]
      exact ⟨ih _ (Nat.div_lt_self hpos hb), List.forall_mem_singleton.mpr (hdigit _ hlast)⟩

theorem endsPath_ipv4Chars (n : Nat) : ∀ c ∈ ipv4Chars n, endsPath c = false := by
  simp only [ipv4Chars, List.forall_mem_append, List.forall_mem_cons]
  have hpart (m : Nat) : ∀ c ∈ Nat.toDigits 10 m, endsPath c = false :=
    endsPath_toDigits (by decide) (by decide) m
  exact ⟨hpart _, by decide, hpart _, by decide, hpart _, by decide, hpart _⟩

theorem endsPath_colonJoined (groups : List Nat) : ∀ c ∈ colonJoined groups, endsPath c = false := by
  have hgroup (n : Nat) : ∀ c ∈ Nat.toDigits 16 n, endsPath c = false :=
    endsPath_toDigits (by decide) (by decide) n
  induction groups using colonJoined.induct with
  | case1 => exact nofun
  | case2 n => exact hgroup n
  | case3 n ns hns ih =>
    rw [colonJoined.eq_3 n ns hns, List.forall_mem_append, List.forall_mem_cons]
    exact ⟨hgroup n, by decide, ih⟩

theorem endsPath_ipv6Chars (groups : List Nat) : ∀ c ∈ ipv6Chars groups, endsPath c = false := by
  dsimp only [ipv6Chars]
  split
  · exact endsPath_colonJoined groups
  · simp only [List.forall_mem_append, List.forall_mem_cons]
    exact ⟨endsPath_colonJoined _, by decide, by decide, endsPath_colonJoined _⟩

theorem Host.exists_toAscii_of_parse {cs name : List Char} (h : Host.parse cs = .ok (.domain name)) :
    ∃ ds, Idna.toAscii? ds = some name := by
  rw [Host.parse] at h
  split at h
  · rw [parseBracketed] at h
    repeat' split at h
    all_goals cases h
  · split at h
    · cases h
    · cases h
    · next hname =>
      split at h
      · obtain ⟨_, -, heq⟩ := Json.map_eq_ok h
        cases heq
      · cases h
        obtain ⟨ds, -, hds⟩ := Option.bind_eq_some_iff.mp hname
        exact ⟨ds, hds⟩

/-- **No host that is read** has a sign in it behind which a query or a fragment stands. -/
theorem endsPath_host {cs : List Char} {host : Host} (h : Host.parse cs = .ok host) :
    ∀ c ∈ host.chars, endsPath c = false := by
  cases host with
  | ipv4 n => exact endsPath_ipv4Chars n
  | ipv6 groups =>
    rw [Host.chars, List.forall_mem_cons, List.forall_mem_append]
    exact ⟨by decide, endsPath_ipv6Chars groups, List.forall_mem_singleton.mpr (by decide)⟩
  | domain name =>
    obtain ⟨ds, hds⟩ := Host.exists_toAscii_of_parse h
    exact (Idna.isClean_of_toAscii hds).endsPath

/-! ### The front of an address -/

theorem endsPath_scheme {scheme : String} (h : schemeKind scheme = .web) :
    ∀ c ∈ scheme.toList, endsPath c = false := by
  have hport : (defaultPort? scheme).isSome = true := by
    rw [schemeKind] at h
    split at h
    · assumption
    · split at h <;> cases h
  have hall : (scheme.toList.all fun c => !endsPath c) = true := by
    unfold defaultPort? at hport
    split at hport
    all_goals first | decide | cases hport
  simpa using hall

theorem exists_userinfoChars {special : Bool} {cs rest userinfo : List Char}
    (h : splitUserinfo special cs = .ok (some userinfo, rest)) :
    ∃ user, userinfoChars user = some userinfo := by
  simp only [splitUserinfo] at h
  split at h
  · cases h
  · split at h <;> cases h
  · exact ⟨_, congrArg Prod.fst (Except.ok.inj h)⟩

theorem endsPath_userinfoChars {user userinfo : List Char}
    (h : userinfoChars user = some userinfo) : ∀ c ∈ userinfo, endsPath c = false := by
  have hwritten : ∀ cs, ∀ c ∈ percentEncode inUserinfo cs, endsPath c = false :=
    endsPath_percentEncode (by decide) (by decide)
  have hchars := (Option.ite_none_left_eq_some.mp h).2
  rw [← Option.some.inj hchars, List.forall_mem_append]
  refine ⟨hwritten _, ?_⟩
  split
  · exact nofun
  · exact List.forall_mem_cons.mpr ⟨by decide, hwritten _⟩

namespace Address

/-- The text of an address in front of its path. -/
def front (a : Address) : List Char :=
  a.scheme.toList ++ ':' :: '/' :: '/' ::
    ((match a.userinfo with
      | some u => u ++ ['@']
      | none => [])
      ++ a.authority)

/-- The text of an address behind its query. -/
def fragmentChars (a : Address) : List Char :=
  match a.fragment with
  | some f => '#' :: f
  | none => []

theorem head_fragmentChars (a : Address) : ∀ c ∈ a.fragmentChars.head?, c = '#' := by
  rw [fragmentChars]
  cases a.fragment <;> simp

theorem chars_eq (a : Address) : a.chars = a.front ++ (a.target ++ a.fragmentChars) := by
  obtain ⟨scheme, userinfo, host, port, path, query, fragment⟩ := a
  cases userinfo <;> cases fragment <;> simp [chars, front, fragmentChars]

/-- Nothing in front of the query of an address cuts its text. -/
structure IsPlain (a : Address) : Prop where
  front : ∀ c ∈ a.front, endsPath c = false
  path : IsPlainPath a.path

variable {a : Address}

theorem IsPlain.popIfEmpty (h : a.IsPlain) : a.popIfEmpty.IsPlain := by
  refine ⟨?_, h.path.popIfEmpty⟩
  rw [Address.popIfEmpty]
  split <;> exact h.front

/-- **An address stays plain** whatever names are pushed on its path. -/
theorem IsPlain.pushSegments (h : a.IsPlain) (names : List String) :
    (a.pushSegments names).IsPlain := by
  refine ⟨?_, h.path.pushSegments names⟩
  rw [pushSegments_eq]
  exact h.front

theorem IsPlain.withField (h : a.IsPlain) (name value : String) :
    (a.withField name value).IsPlain := ⟨h.front, h.path⟩

/-- **The query of an address** is cut out of its text. -/
theorem IsPlain.queryPart_chars (h : a.IsPlain) {query : List Char} (hquery : a.query = some query)
    (hfragment : '#' ∉ query) : queryPart a.chars = some query := by
  have hchars : a.chars = (a.front ++ a.pathChars) ++ '?' :: (query ++ a.fragmentChars) := by
    rw [chars_eq, target, hquery]
    simp
  rw [hchars]
  exact queryPart_append (List.forall_mem_append.mpr ⟨h.front, h.path.pathChars⟩) hfragment
    a.head_fragmentChars

end Address

/-- **An address that is read** is plain. -/
theorem isPlain_of_parse {text : String} {a : Address} (h : parse text = .ok (.web a)) :
    a.IsPlain := by
  refine ⟨?_, isPlainPath_of_parse h⟩
  obtain ⟨scheme, cs, hkind, hweb⟩ := parseWeb_of_parse h
  obtain ⟨hscheme, ⟨rest, huser⟩, ⟨host, hhost⟩, -⟩ := parseWeb_eq_ok hweb
  have hport : ∀ n, ∀ c ∈ Nat.toDigits 10 n, endsPath c = false :=
    endsPath_toDigits (by decide) (by decide)
  rw [Address.front, Address.authority, hscheme]
  simp only [List.forall_mem_append, List.forall_mem_cons]
  refine ⟨endsPath_scheme hkind, by decide, by decide, by decide, ?_, endsPath_host hhost, ?_⟩
  · split
    · next u hu =>
      rw [hu] at huser
      obtain ⟨user, huser⟩ := exists_userinfoChars huser
      exact List.forall_mem_append.mpr
        ⟨endsPath_userinfoChars huser, List.forall_mem_singleton.mpr (by decide)⟩
    · exact nofun
  · split
    · exact List.forall_mem_cons.mpr ⟨by decide, hport _⟩
    · exact nofun

end Url

end LiveBoard
