import LiveBoard.Proofs.Settings.Timing
import LiveBoard.Proofs.Toml.Bounded
import LiveBoard.Proofs.Toml.Document

/-!
# Settings that are read back

The lines of a file with settings say what the settings are, and the tables made of them are read as
the settings again, with or without a token. A file holds integers of 64 bits with a sign only, and
the settings have room for more. But integers come from files alone, so the settings that the
program works with can always be written.

## Main definitions

* `Settings.IsWritable`: the integers fit into a file.
* `Settings.said`: the lines of a file, and what they say.
* `Settings.members`: its tables.

## Main results

* `Settings.ofToml_of_tomlLines?`: what is written is read back.
* `Settings.isWritable_of_resolveSettings`: the settings that the program works with.
-/

namespace LiveBoard

open Toml

variable {n : Nat}

theorem Toml.Item.unsigned?_natCast {bits : Nat} (h : n < Nat.pow 2 bits) :
    (Item.integer n).unsigned? bits = some n := by
  rw [unsigned?, if_pos ⟨Int.natCast_nonneg n, Int.ofNat_lt.mpr h⟩, Int.toNat_natCast]

namespace Settings

variable {s : Settings} {text : String}

/-- The integers of the settings fit into a file. -/
structure IsWritable (s : Settings) : Prop where
  heartbeat : s.heartbeatMs.toNat < Nat.pow 2 63
  base : s.backoff.baseMs.toNat < Nat.pow 2 63
  limit : s.backoff.maxMs.toNat < Nat.pow 2 63

/-- A line with a string, and what it says. -/
def stringLine (key text : String) : String × Statement :=
  (tomlLine key (written text), .line ⟨[], key, .string text⟩)

/-- A line with an integer, and what it says. -/
def integerLine (key : String) (n : Nat) : String × Statement :=
  (tomlLine key (Nat.toDigits 10 n), .line ⟨[], key, .integer n⟩)

/-- A line with a truth value, and what it says. -/
def booleanLine (key : String) (b : Bool) : String × Statement :=
  (tomlLine key (if b then "true".toList else "false".toList), .line ⟨[], key, .boolean b⟩)

/-- The lines of a file with settings, and what they say. -/
def said (s : Settings) : List (String × Statement) :=
  [stringLine "api_url" s.apiUrl, stringLine "board_id" s.boardId]
    ++ (s.token.map (stringLine "token")).toList
    ++ [booleanLine "enabled" s.enabled,
      integerLine "heartbeat_interval_ms" s.heartbeatMs.toNat,
      ("", .blank),
      ("[backoff]", .header false [] "backoff"),
      integerLine "base_ms" s.backoff.baseMs.toNat,
      integerLine "multiplier" s.backoff.multiplier.toNat,
      integerLine "max_ms" s.backoff.maxMs.toNat]

/-- The tables of a file with settings. -/
def members (s : Settings) : Members :=
  [("api_url", .string s.apiUrl), ("board_id", .string s.boardId)]
    ++ (s.token.map fun token => ("token", Item.string token)).toList
    ++ [("enabled", .boolean s.enabled), ("heartbeat_interval_ms", .integer s.heartbeatMs.toNat),
      ("backoff", .table .header
        [("base_ms", .integer s.backoff.baseMs.toNat),
          ("multiplier", .integer s.backoff.multiplier.toNat),
          ("max_ms", .integer s.backoff.maxMs.toNat)])]

theorem lt_of_tomlInteger? {n : UInt64} {w : List Char} (h : tomlInteger? n = some w) :
    n.toNat < Nat.pow 2 63 := by
  rw [tomlInteger?] at h
  split at h
  · assumption
  · cases h

theorem tomlLines?_eq (h : s.IsWritable) : s.tomlLines? = some (s.said.map Prod.fst) := by
  rw [tomlLines?, tomlInteger?, if_pos h.heartbeat, tomlInteger?, if_pos h.base, tomlInteger?,
    if_pos h.limit]
  cases htoken : s.token <;> simp [said, stringLine, integerLine, booleanLine, htoken]

theorem says_stringLine {key : String} (hkey : isBare key = true) (text : String) :
    Says (stringLine key text).1 (stringLine key text).2 :=
  says_line hkey (reads_written text)

theorem says_integerLine {key : String} (hkey : isBare key = true) (hn : n < Nat.pow 2 63) :
    Says (integerLine key n).1 (integerLine key n).2 :=
  says_line hkey (reads_toDigits hn)

theorem says_booleanLine {key : String} (hkey : isBare key = true) (b : Bool) :
    Says (booleanLine key b).1 (booleanLine key b).2 :=
  says_line hkey (reads_boolean b)

/-- **The lines of a file** say what they should. -/
theorem says_said (h : s.IsWritable) : ∀ l ∈ s.said, Says l.1 l.2 := by
  have hmultiplier : s.backoff.multiplier.toNat < Nat.pow 2 63 :=
    Nat.lt_trans s.backoff.multiplier.toNat_lt (by decide)
  have hheader : Says ("[" ++ "backoff" ++ "]") (.header false [] "backoff") :=
    says_header (by decide)
  have htoken : ∀ l ∈ (s.token.map (stringLine "token")).toList, Says l.1 l.2 := by
    cases s.token with
    | none => exact List.forall_mem_nil _
    | some token => exact List.forall_mem_singleton.mpr (says_stringLine (by decide) token)
  simp only [said, List.forall_mem_append, List.forall_mem_cons]
  refine ⟨⟨⟨says_stringLine ?_ _, says_stringLine ?_ _, List.forall_mem_nil _⟩, htoken⟩,
    says_booleanLine ?_ _, says_integerLine ?_ h.heartbeat, says_blank, hheader,
    says_integerLine ?_ h.base, says_integerLine ?_ hmultiplier, says_integerLine ?_ h.limit,
    List.forall_mem_nil _⟩ <;> decide

theorem ofSections_said (s : Settings) :
    ofSections (sections none [] (s.said.map Prod.snd)) = some s.members := by
  cases htoken : s.token <;>
    simp [said, stringLine, integerLine, booleanLine, members, htoken, sections, ofSections,
      Section.addTo, insertLines, insertDotted, within, lookup, assign, openTable]

theorem ofItem?_backoff (p : BackoffPolicy) :
    BackoffPolicy.ofItem? (.table .header [("base_ms", .integer p.baseMs.toNat),
      ("multiplier", .integer p.multiplier.toNat), ("max_ms", .integer p.maxMs.toNat)]) =
        some p := by
  have hbase := Item.unsigned?_natCast p.baseMs.toNat_lt
  have hmultiplier := Item.unsigned?_natCast p.multiplier.toNat_lt
  have hlimit := Item.unsigned?_natCast p.maxMs.toNat_lt
  simp [BackoffPolicy.ofItem?, field, lookup, hbase, hmultiplier, hlimit]

theorem ofMembers?_members (s : Settings) : ofMembers? s.members = some s := by
  obtain ⟨apiUrl, boardId, token, enabled, heartbeatMs, backoff⟩ := s
  have hheartbeat := Item.unsigned?_natCast heartbeatMs.toNat_lt
  cases token <;>
    simp [ofMembers?, members, field, lookup, Item.string?, Item.boolean?, hheartbeat,
      ofItem?_backoff, standard]

/-! ### Reading back -/

theorem isWritable_of_tomlLines? {lines : List String} (h : s.tomlLines? = some lines) :
    s.IsWritable := by
  obtain ⟨_, hheartbeat, h⟩ := Option.bind_eq_some_iff.mp h
  obtain ⟨_, hbase, h⟩ := Option.bind_eq_some_iff.mp h
  obtain ⟨_, hlimit, -⟩ := Option.bind_eq_some_iff.mp h
  exact ⟨lt_of_tomlInteger? hheartbeat, lt_of_tomlInteger? hbase, lt_of_tomlInteger? hlimit⟩

/-- **What is written is read back**, if the timings can be used. -/
theorem ofToml_of_tomlLines? {lines : List String} (h : s.tomlLines? = some lines)
    (hpatient : s.IsPatient) : ofToml (String.join (lines.map (· ++ "\n"))) = .ok s := by
  have hwritable := isWritable_of_tomlLines? h
  have hmark : ∀ c ∈ (textOf (s.said.map Prod.fst)).head?, c ≠ '\uFEFF' := by
    have hhead : (textOf (s.said.map Prod.fst)).head? = some 'a' := by
      simp [said, stringLine, textOf, tomlLine]
    intro c hc
    cases hhead.symm.trans hc
    decide
  rw [tomlLines?_eq hwritable] at h
  cases h
  rw [ofToml, read?_of_says (says_said hwritable) hmark, ofSections_said, Option.bind_some,
    ofMembers?_members]
  dsimp only
  rw [check_eq_ok_iff.mpr hpatient]

/-! ### What can be written -/

theorem isWritable_standard : standard.IsWritable := by
  constructor <;> decide

theorem lt_of_unsigned? {bits : Nat} {item : Item} (hitem : item.IsBounded)
    (h : item.unsigned? bits = some n) : n < Nat.pow 2 63 := by
  rw [Item.unsigned?.eq_def] at h
  split at h
  · next m =>
    cases hitem with
    | integer hm =>
      split at h
      · next hrange =>
        cases h
        exact Int.ofNat_lt.mp ((Int.toNat_of_nonneg hrange.1).symm ▸ hm)
      · cases h
  · cases h

theorem toNat_lt_of_unsigned? {item : Item} {m : UInt64} (hitem : item.IsBounded)
    (h : (item.unsigned? 64).map Nat.toUInt64 = some m) : m.toNat < Nat.pow 2 63 := by
  obtain ⟨n, hn, rfl⟩ := Option.map_eq_some_iff.mp h
  exact Nat.lt_of_le_of_lt (Nat.mod_le _ _) (lt_of_unsigned? hitem hn)

theorem cases_of_field {α : Type} {ms : Members} {key : String} {default a : α}
    {read : Item → Option α} (hms : AreBounded ms) (h : field ms key default read = some a) :
    a = default ∨ ∃ item : Item, item.IsBounded ∧ read item = some a := by
  rw [field] at h
  split at h
  · next item hitem => exact .inr ⟨item, hms.lookup hitem, h⟩
  · exact .inl (Option.some.inj h).symm

theorem toNat_lt_of_field {ms : Members} {key : String} {default n : UInt64}
    (hms : AreBounded ms) (hdefault : default.toNat < Nat.pow 2 63)
    (h : (field ms key default fun i => (i.unsigned? 64).map Nat.toUInt64) = some n) :
    n.toNat < Nat.pow 2 63 := by
  rcases cases_of_field hms h with rfl | ⟨item, hitem, h⟩
  · exact hdefault
  · exact toNat_lt_of_unsigned? hitem h

theorem exists_of_mem_mapM {α β : Type} {f : α → Option β} {as : List α} {bs : List β}
    (h : as.mapM f = some bs) : ∀ b ∈ bs, ∃ a ∈ as, f a = some b := by
  induction as generalizing bs with
  | nil =>
    cases h
    exact nofun
  | cons a as ih =>
    rw [List.mapM_cons] at h
    obtain ⟨b, hb, h⟩ := Option.bind_eq_some_iff.mp h
    obtain ⟨rest, hrest, h⟩ := Option.bind_eq_some_iff.mp h
    cases h
    refine List.forall_mem_cons.mpr ⟨⟨a, List.mem_cons_self, hb⟩, fun c hc => ?_⟩
    obtain ⟨a', ha', hf⟩ := ih hrest c hc
    exact ⟨a', List.mem_cons_of_mem _ ha', hf⟩

theorem toNat_lt_of_getElem? {numbers : List Nat} (h : ∀ n ∈ numbers, n < Nat.pow 2 63) (i : Nat)
    {default : UInt64} (hdefault : default.toNat < Nat.pow 2 63) :
    ((numbers[i]?.map Nat.toUInt64).getD default).toNat < Nat.pow 2 63 := by
  cases hi : numbers[i]? with
  | none => exact hdefault
  | some n => exact Nat.lt_of_le_of_lt (Nat.mod_le _ _) (h n (List.mem_of_getElem? hi))

/-- The integers of a policy that is read fit, whether it is read from a table or from an array. -/
theorem toNat_lt_of_ofItem? {item : Item} {p : BackoffPolicy} (hitem : item.IsBounded)
    (h : BackoffPolicy.ofItem? item = some p) :
    p.baseMs.toNat < Nat.pow 2 63 ∧ p.maxMs.toNat < Nat.pow 2 63 := by
  have hstandard := isWritable_standard
  rw [BackoffPolicy.ofItem?.eq_def] at h
  split at h
  · cases hitem with
    | table _ hms =>
      obtain ⟨base, hbase, h⟩ := Option.bind_eq_some_iff.mp h
      obtain ⟨multiplier, -, h⟩ := Option.bind_eq_some_iff.mp h
      obtain ⟨max, hmax, h⟩ := Option.bind_eq_some_iff.mp h
      cases h
      exact ⟨toNat_lt_of_field hms hstandard.base hbase,
        toNat_lt_of_field hms hstandard.limit hmax⟩
  · next items =>
    obtain ⟨numbers, hnumbers, h⟩ := Option.bind_eq_some_iff.mp h
    cases h
    -- Numbers that the array does not have are those of the standard policy.
    have hlt : ∀ n ∈ numbers, n < Nat.pow 2 63 := by
      intro n hn
      obtain ⟨⟨i, bits⟩, hi, hread⟩ := exists_of_mem_mapM hnumbers n hn
      cases hitem with
      | array hitems =>
        exact lt_of_unsigned? (hitems i (List.mem_of_mem_take (List.of_mem_zip hi).1)) hread
    exact ⟨toNat_lt_of_getElem? hlt 0 hstandard.base, toNat_lt_of_getElem? hlt 2 hstandard.limit⟩
  · cases h
    exact ⟨hstandard.base, hstandard.limit⟩
  · cases h

theorem isWritable_of_ofMembers? {ms : Members} (hms : AreBounded ms)
    (h : ofMembers? ms = some s) : s.IsWritable := by
  obtain ⟨apiUrl, -, h⟩ := Option.bind_eq_some_iff.mp h
  obtain ⟨boardId, -, h⟩ := Option.bind_eq_some_iff.mp h
  obtain ⟨token, -, h⟩ := Option.bind_eq_some_iff.mp h
  obtain ⟨enabled, -, h⟩ := Option.bind_eq_some_iff.mp h
  obtain ⟨heartbeat, hheartbeat, h⟩ := Option.bind_eq_some_iff.mp h
  obtain ⟨backoff, hbackoff, h⟩ := Option.bind_eq_some_iff.mp h
  cases h
  have hpolicy : backoff.baseMs.toNat < Nat.pow 2 63 ∧ backoff.maxMs.toNat < Nat.pow 2 63 := by
    rcases cases_of_field hms hbackoff with rfl | ⟨item, hitem, hread⟩
    · exact ⟨isWritable_standard.base, isWritable_standard.limit⟩
    · exact toNat_lt_of_ofItem? hitem hread
  exact ⟨toNat_lt_of_field hms isWritable_standard.heartbeat hheartbeat, hpolicy.1, hpolicy.2⟩

theorem isWritable_of_ofToml (h : ofToml text = .ok s) : s.IsWritable := by
  rw [ofToml] at h
  split at h
  · cases h
  · next given hgiven =>
    obtain ⟨ms, hms, hgiven⟩ := Option.bind_eq_some_iff.mp hgiven
    split at h
    · cases h
      exact isWritable_of_ofMembers? (areBounded_read? hms) hgiven
    · cases h

/-- **The settings that the program works with** can be written. -/
theorem isWritable_of_resolveSettings {o : CommandLine.Overrides}
    {surroundings : CommandLine.Surroundings}
    (h : CommandLine.resolveSettings o surroundings = .ok s) : s.IsWritable := by
  obtain ⟨given, hgiven, rfl⟩ := exists_given_of_resolveSettings h
  have hwritable : given.IsWritable := by
    rcases hgiven with rfl | ⟨text, htext⟩
    · exact isWritable_standard
    · exact isWritable_of_ofToml htext
  exact ⟨hwritable.heartbeat, hwritable.base, hwritable.limit⟩

end Settings

end LiveBoard
