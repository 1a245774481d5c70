import LiveBoard.Json.Node

/-!
# Trees and their tokens

A whole tree, one in which nothing is missing or broken, is spelled by a list of tokens. The tree of
a text is whole exactly if the tokens of the text spell it: no two whole trees are spelled alike,
and nothing but its spelling is read as a whole tree.

## Main definitions

* `Node.IsWhole`: a tree in which nothing is missing or broken.
* `Node.tokens`: the tokens that spell a tree.

## Main results

* `Node.IsWhole.delivers`: the tokens of a tree deliver it.
* `ofChars_eq_of_tokens`: a text that spells a whole tree has that tree.
* `tokens_eq_of_ofChars`: a text with a whole tree spells it.
-/

namespace LiveBoard.Json

/-- The token is complete, and what it says can be kept. -/
def Token.IsWhole : Token → Prop
  | .broken _ _ _ => False
  | .string (.error _) => False
  | _ => True

namespace Node

/-- Nothing in the tree is missing or broken. Numbers may still be out of range, and levels may be
too many. -/
inductive IsWhole : Node → Prop
  | null : IsWhole .null
  | bool (b : Bool) : IsWhole (.bool b)
  | number (n : Numeral) : IsWhole (.number n)
  | string (s : String) : IsWhole (.string (.ok s))
  | array {ns : List Node} : (∀ n ∈ ns, IsWhole n) → IsWhole (.array ns .closed)
  | object {ms : List (Key × Node)} : (∀ m ∈ ms, ∃ k, m.1 = .ok k) → (∀ m ∈ ms, IsWhole m.2) →
    IsWhole (.object ms .closed)

mutual

/-- The tokens that spell a tree, every container closed. -/
def tokens : Node → List Token
  | .null => [.null]
  | .bool b => [.bool b]
  | .number n => [.number n]
  | .string s => [.string s]
  | .array [] _ => [.openBracket, .closeBracket]
  | .array (n :: ns) _ => .openBracket :: (tokens n ++ itemTokens ns)
  | .object [] _ => [.openBrace, .closeBrace]
  | .object ((k, n) :: ms) _ =>
    .openBrace :: .string k :: .colon :: (tokens n ++ memberTokens ms)
  | .missing => []
  | .broken kept skipped quoted => [.broken kept skipped quoted]

/-- The tokens of the items after the first, with the closing bracket. -/
def itemTokens : List Node → List Token
  | [] => [.closeBracket]
  | n :: ns => .comma :: (tokens n ++ itemTokens ns)

/-- The tokens of the members after the first, with the closing brace. -/
def memberTokens : List (Key × Node) → List Token
  | [] => [.closeBrace]
  | (k, n) :: ms => .comma :: .string k :: .colon :: (tokens n ++ memberTokens ms)

end

end Node

/-! ### Whole tokens -/

theorem isWhole_of_mem_itemTokens {ns : List Node}
    (h : ∀ n ∈ ns, ∀ t ∈ n.tokens, t.IsWhole) : ∀ t ∈ Node.itemTokens ns, t.IsWhole := by
  induction ns with
  | nil => simp [Node.itemTokens, Token.IsWhole]
  | cons n ns ih =>
    obtain ⟨hn, hns⟩ := List.forall_mem_cons.mp h
    rw [Node.itemTokens, List.forall_mem_cons, List.forall_mem_append]
    exact ⟨trivial, hn, ih hns⟩

theorem isWhole_of_mem_memberTokens {ms : List (Key × Node)} (hkeys : ∀ m ∈ ms, ∃ k, m.1 = .ok k)
    (h : ∀ m ∈ ms, ∀ t ∈ m.2.tokens, t.IsWhole) : ∀ t ∈ Node.memberTokens ms, t.IsWhole := by
  induction ms with
  | nil => simp [Node.memberTokens, Token.IsWhole]
  | cons m ms ih =>
    obtain ⟨⟨k, hk⟩, hrest⟩ := List.forall_mem_cons.mp hkeys
    obtain ⟨hm, hms⟩ := List.forall_mem_cons.mp h
    obtain ⟨key, n⟩ := m
    obtain rfl : key = .ok k := hk
    rw [Node.memberTokens]
    simp only [List.forall_mem_cons, List.forall_mem_append]
    exact ⟨trivial, trivial, trivial, hm, ih hrest hms⟩

/-- The tokens of a whole tree are complete. -/
theorem Node.IsWhole.isWhole_of_mem_tokens {n : Node} (h : n.IsWhole) :
    ∀ t ∈ n.tokens, t.IsWhole := by
  induction h with
  | null | bool | number | string => simp [tokens, Token.IsWhole]
  | @array ns _ ih =>
    cases ns with
    | nil => simp [tokens, Token.IsWhole]
    | cons n ns =>
      obtain ⟨hn, hns⟩ := List.forall_mem_cons.mp ih
      rw [tokens, List.forall_mem_cons, List.forall_mem_append]
      exact ⟨trivial, hn, isWhole_of_mem_itemTokens hns⟩
  | @object ms hkeys _ ih =>
    cases ms with
    | nil => simp [tokens, Token.IsWhole]
    | cons m ms =>
      have htail := isWhole_of_mem_memberTokens hkeys ih
      obtain ⟨k, n⟩ := m
      rw [memberTokens, List.forall_mem_cons] at htail
      rw [tokens, List.forall_mem_cons]
      exact ⟨trivial, htail.2⟩

/-! ### From tokens to trees -/

/-- The rest of a document after a step. -/
def Progress.resume : Progress → List Token → Document
  | .going frames expect, ts => build frames expect ts
  | .done root, ts => ⟨root, !ts.isEmpty⟩

theorem build_cons (frames : List Frame) (expect : Expect) (t : Token) (ts : List Token) :
    build frames expect (t :: ts) = (advance frames expect t).resume ts := by
  rw [build]
  cases advance frames expect t <;> rfl

/-- The tokens of the tree deliver it to the open frames. -/
def Node.Delivers (n : Node) : Prop :=
  ∀ (frames : List Frame) (ts : List Token),
    build frames .value (n.tokens ++ ts) = (deliver n frames).resume ts

theorem build_itemTokens_append {ns : List Node} (h : ∀ n ∈ ns, n.Delivers) (before : List Node)
    (frames : List Frame) (ts : List Token) :
    build (.array before :: frames) .separator (Node.itemTokens ns ++ ts) =
      (deliver (.array (before.reverse ++ ns) .closed) frames).resume ts := by
  induction ns generalizing before with
  | nil =>
    rw [Node.itemTokens, List.cons_append, List.nil_append, build_cons, List.append_nil]
    rfl
  | cons n ns ih =>
    obtain ⟨hn, hns⟩ := List.forall_mem_cons.mp h
    rw [Node.itemTokens, List.cons_append, List.append_assoc, build_cons]
    calc build (.array before :: frames) .value (n.tokens ++ (Node.itemTokens ns ++ ts))
        = build (.array (n :: before) :: frames) .separator (Node.itemTokens ns ++ ts) := hn _ _
      _ = (deliver (.array ((n :: before).reverse ++ ns) .closed) frames).resume ts :=
          ih hns (n :: before)
      _ = (deliver (.array (before.reverse ++ n :: ns) .closed) frames).resume ts := by
          rw [List.reverse_cons, List.append_assoc]; rfl

/-- A member goes to the innermost frame. -/
theorem build_member {n : Node} (hn : n.Delivers) (before : List (Key × Node)) (k : Key)
    (frames : List Frame) (ts : List Token) :
    build (.object before (some k) :: frames) .colon (.colon :: (n.tokens ++ ts)) =
      build (.object ((k, n) :: before) none :: frames) .separator ts := by
  rw [build_cons]
  exact hn (.object before (some k) :: frames) ts

theorem build_memberTokens_append {ms : List (Key × Node)} (h : ∀ m ∈ ms, m.2.Delivers)
    (before : List (Key × Node)) (frames : List Frame) (ts : List Token) :
    build (.object before none :: frames) .separator (Node.memberTokens ms ++ ts) =
      (deliver (.object (before.reverse ++ ms) .closed) frames).resume ts := by
  induction ms generalizing before with
  | nil =>
    rw [Node.memberTokens, List.cons_append, List.nil_append, build_cons, List.append_nil]
    rfl
  | cons m ms ih =>
    obtain ⟨hm, hms⟩ := List.forall_mem_cons.mp h
    obtain ⟨k, n⟩ := m
    rw [Node.memberTokens, List.cons_append, List.cons_append, List.cons_append,
      List.append_assoc, build_cons]
    calc build (.object before none :: frames) .key
          (.string k :: .colon :: (n.tokens ++ (Node.memberTokens ms ++ ts)))
        = build (.object before (some k) :: frames) .colon
            (.colon :: (n.tokens ++ (Node.memberTokens ms ++ ts))) := build_cons _ _ _ _
      _ = build (.object ((k, n) :: before) none :: frames) .separator
            (Node.memberTokens ms ++ ts) := build_member hm before k frames _
      _ = (deliver (.object (((k, n) :: before).reverse ++ ms) .closed) frames).resume ts :=
          ih hms ((k, n) :: before)
      _ = (deliver (.object (before.reverse ++ (k, n) :: ms) .closed) frames).resume ts := by
          rw [List.reverse_cons, List.append_assoc]; rfl

/-- Where a first item may stand, a value is read like anywhere else. -/
theorem build_firstItem {n : Node} (h : n.IsWhole) (frames : List Frame) (ts : List Token) :
    build frames .firstItem (n.tokens ++ ts) = build frames .value (n.tokens ++ ts) := by
  cases h with
  | @array ns _ => cases ns <;> rfl
  | @object ms _ _ => cases ms <;> rfl
  | _ => rfl

/-- **The tokens of a whole tree deliver it** to the open frames. -/
theorem Node.IsWhole.delivers {n : Node} (h : n.IsWhole) : n.Delivers := by
  induction h with
  | null | bool | number | string =>
    intro frames ts
    exact build_cons frames .value _ ts
  | @array ns hns ih =>
    intro frames ts
    cases ns with
    | nil =>
      rw [tokens, List.cons_append, List.cons_append, List.nil_append, build_cons]
      exact build_cons (.array [] :: frames) .firstItem .closeBracket ts
    | cons n ns =>
      obtain ⟨hn, hrest⟩ := List.forall_mem_cons.mp ih
      rw [tokens, List.cons_append, List.append_assoc, build_cons]
      calc build (.array [] :: frames) .firstItem (n.tokens ++ (itemTokens ns ++ ts))
          = build (.array [] :: frames) .value (n.tokens ++ (itemTokens ns ++ ts)) :=
            build_firstItem (hns n List.mem_cons_self) _ _
        _ = build (.array [n] :: frames) .separator (itemTokens ns ++ ts) := hn _ _
        _ = (deliver (.array (n :: ns) .closed) frames).resume ts :=
            build_itemTokens_append hrest [n] frames ts
  | @object ms hkeys hms ih =>
    intro frames ts
    cases ms with
    | nil =>
      rw [tokens, List.cons_append, List.cons_append, List.nil_append, build_cons]
      exact build_cons (.object [] none :: frames) .firstKey .closeBrace ts
    | cons m ms =>
      obtain ⟨hm, hrest⟩ := List.forall_mem_cons.mp ih
      obtain ⟨k, n⟩ := m
      rw [tokens, List.cons_append, List.cons_append, List.cons_append, List.append_assoc,
        build_cons]
      calc build (.object [] none :: frames) .firstKey
            (.string k :: .colon :: (n.tokens ++ (memberTokens ms ++ ts)))
          = build (.object [] (some k) :: frames) .colon
              (.colon :: (n.tokens ++ (memberTokens ms ++ ts))) := build_cons _ _ _ _
        _ = build (.object [(k, n)] none :: frames) .separator (memberTokens ms ++ ts) :=
            build_member hm [] k frames _
        _ = (deliver (.object ((k, n) :: ms) .closed) frames).resume ts :=
            build_memberTokens_append hrest [(k, n)] frames ts

/-- **A text that spells a whole tree** has that tree, with nothing behind it. -/
theorem ofChars_eq_of_tokens {cs : List Char} {n : Node} (hn : n.IsWhole)
    (h : tokens cs = n.tokens) : Document.ofChars cs = ⟨n, false⟩ := by
  have hbuild := hn.delivers [] []
  rw [List.append_nil] at hbuild
  rw [Document.ofChars, h, hbuild]
  rfl

/-! ### From trees to tokens -/

theorem not_isWhole_finish {ending : Ending} (h : ending ≠ .closed) (f : Frame) :
    ¬(f.finish ending).IsWhole := by
  cases f <;>
    · intro hwhole
      cases hwhole
      exact h rfl

theorem not_isWhole_enclose {n : Node} (h : ¬n.IsWhole) (fs : List Frame) :
    ¬(enclose n fs).IsWhole := by
  induction fs generalizing n with
  | nil => exact h
  | cons f fs ih => exact ih (not_isWhole_finish (by simp) _)

theorem not_isWhole_breakOff {ending : Ending} (h : ending ≠ .closed) (fs : List Frame) :
    ¬(breakOff ending fs).IsWhole := by
  cases fs with
  | nil =>
    intro hwhole
    cases hwhole
  | cons f fs => exact not_isWhole_enclose (not_isWhole_finish h f) fs

section Whole

variable {root : Node}

/-- The machine has not broken off: its tree is whole. -/
theorem ne_enclose (hroot : root.IsWhole) {n : Node} (h : ¬n.IsWhole) (frames : List Frame)
    (trailing : Bool) : (⟨enclose n frames, trailing⟩ : Document) ≠ ⟨root, false⟩ := by
  intro heq
  exact not_isWhole_enclose h frames ((Document.mk.inj heq).1 ▸ hroot)

theorem ne_breakOff (hroot : root.IsWhole) {ending : Ending} (h : ending ≠ .closed)
    (frames : List Frame) (trailing : Bool) :
    (⟨breakOff ending frames, trailing⟩ : Document) ≠ ⟨root, false⟩ := by
  intro heq
  exact not_isWhole_breakOff h frames ((Document.mk.inj heq).1 ▸ hroot)

/-- A text with a whole tree does not end before its tree is complete. -/
theorem build_nil_ne (hroot : root.IsWhole) (frames : List Frame) (expect : Expect) :
    build frames expect [] ≠ ⟨root, false⟩ := by
  cases expect with
  | value | colon => exact ne_enclose hroot (by rintro ⟨⟩) frames false
  | firstItem | firstKey | separator | key => exact ne_breakOff hroot (by simp) frames false

theorem exists_of_build_colon (hroot : root.IsWhole) {frames : List Frame} {ts : List Token}
    (h : build frames .colon ts = ⟨root, false⟩) :
    ∃ ts', ts = .colon :: ts' ∧ build frames .value ts' = ⟨root, false⟩ := by
  cases ts with
  | nil => exact absurd h (build_nil_ne hroot _ _)
  | cons t ts =>
    rw [build_cons] at h
    cases t with
    | colon => exact ⟨ts, rfl, h⟩
    | _ => exact absurd h (ne_enclose hroot (by rintro ⟨⟩) frames _)

theorem exists_of_build_key (hroot : root.IsWhole) {before : List (Key × Node)}
    {frames : List Frame} {ts : List Token}
    (h : build (.object before none :: frames) .key ts = ⟨root, false⟩) :
    ∃ k ts', ts = .string k :: .colon :: ts' ∧
      build (.object before (some k) :: frames) .value ts' = ⟨root, false⟩ := by
  cases ts with
  | nil => exact absurd h (build_nil_ne hroot _ _)
  | cons t ts =>
    rw [build_cons] at h
    cases t with
    | string k =>
      obtain ⟨ts', rfl, h⟩ := exists_of_build_colon hroot h
      exact ⟨k, ts', rfl, h⟩
    | broken kept skipped quoted =>
      cases quoted <;> exact absurd h (ne_breakOff hroot (by simp) _ _)
    | _ => exact absurd h (ne_breakOff hroot (by simp) _ _)

/-- An object is closed at once, or its first member comes like any other. -/
theorem cases_of_build_firstKey (hroot : root.IsWhole) {frames : List Frame} {ts : List Token}
    (h : build (.object [] none :: frames) .firstKey ts = ⟨root, false⟩) :
    (∃ ts', ts = .closeBrace :: ts' ∧
      (deliver (.object [] .closed) frames).resume ts' = ⟨root, false⟩) ∨
      build (.object [] none :: frames) .key ts = ⟨root, false⟩ := by
  cases ts with
  | nil => exact absurd h (build_nil_ne hroot _ _)
  | cons t ts =>
    rw [build_cons] at h
    cases t with
    | closeBrace => exact .inl ⟨ts, rfl, h⟩
    | string k => exact .inr ((build_cons _ _ _ _).trans h)
    | broken kept skipped quoted =>
      cases quoted <;> exact absurd h (ne_breakOff hroot (by simp) _ _)
    | _ => exact absurd h (ne_breakOff hroot (by simp) _ _)

/-- An array is closed at once, or its first item comes like any other value. -/
theorem cases_of_build_firstItem (hroot : root.IsWhole) {frames : List Frame} {ts : List Token}
    (h : build (.array [] :: frames) .firstItem ts = ⟨root, false⟩) :
    (∃ ts', ts = .closeBracket :: ts' ∧
      (deliver (.array [] .closed) frames).resume ts' = ⟨root, false⟩) ∨
      build (.array [] :: frames) .value ts = ⟨root, false⟩ := by
  cases ts with
  | nil => exact absurd h (build_nil_ne hroot _ _)
  | cons t ts =>
    rw [build_cons] at h
    cases t with
    | closeBracket => exact .inl ⟨ts, rfl, h⟩
    | _ => exact .inr ((build_cons _ _ _ _).trans h)

/-- What is read where a value may begin: the tokens of a tree that goes to the open frames, and
others behind them. -/
def ReadsValue (root : Node) (ts : List Token) : Prop :=
  ∀ frames, build frames .value ts = ⟨root, false⟩ →
    ∃ n ts', ts = n.tokens ++ ts' ∧ (deliver n frames).resume ts' = ⟨root, false⟩

/-- What is read behind an item of an array: the remaining items, and others behind them. -/
def ReadsItems (root : Node) (ts : List Token) : Prop :=
  ∀ before frames, build (.array before :: frames) .separator ts = ⟨root, false⟩ →
    ∃ ns ts', ts = Node.itemTokens ns ++ ts' ∧
      (deliver (.array (before.reverse ++ ns) .closed) frames).resume ts' = ⟨root, false⟩

/-- What is read behind a member of an object: the remaining members, and others behind them. -/
def ReadsMembers (root : Node) (ts : List Token) : Prop :=
  ∀ before frames, build (.object before none :: frames) .separator ts = ⟨root, false⟩ →
    ∃ ms ts', ts = Node.memberTokens ms ++ ts' ∧
      (deliver (.object (before.reverse ++ ms) .closed) frames).resume ts' = ⟨root, false⟩

/-- Tokens behind others are fewer. -/
theorem length_lt_cons_append (t : Token) (us vs : List Token) :
    vs.length < (t :: (us ++ vs)).length := by
  rw [List.length_cons, List.length_append]
  omega

theorem readsItems (hroot : root.IsWhole) {ts : List Token}
    (hvalue : ∀ us : List Token, us.length < ts.length → ReadsValue root us)
    (hitems : ∀ us : List Token, us.length < ts.length → ReadsItems root us) :
    ReadsItems root ts := by
  intro before frames h
  cases ts with
  | nil => exact absurd h (build_nil_ne hroot _ _)
  | cons t ts =>
    rw [build_cons] at h
    cases t with
    | closeBracket => exact ⟨[], ts, rfl, by rw [List.append_nil]; exact h⟩
    | comma =>
      obtain ⟨n, us, rfl, hn⟩ := hvalue ts (Nat.lt_succ_self _) (.array before :: frames) h
      obtain ⟨ns, us, rfl, hns⟩ := hitems us (length_lt_cons_append _ _ _) (n :: before) frames hn
      rw [List.reverse_cons, List.append_assoc] at hns
      exact ⟨n :: ns, us, by simp [Node.itemTokens], hns⟩
    | _ => exact absurd h (ne_breakOff hroot (by simp) _ _)

theorem readsMembers (hroot : root.IsWhole) {ts : List Token}
    (hvalue : ∀ us : List Token, us.length < ts.length → ReadsValue root us)
    (hmembers : ∀ us : List Token, us.length < ts.length → ReadsMembers root us) :
    ReadsMembers root ts := by
  intro before frames h
  cases ts with
  | nil => exact absurd h (build_nil_ne hroot _ _)
  | cons t ts =>
    rw [build_cons] at h
    cases t with
    | closeBrace => exact ⟨[], ts, rfl, by rw [List.append_nil]; exact h⟩
    | comma =>
      obtain ⟨k, us, rfl, hk⟩ := exists_of_build_key hroot h
      obtain ⟨n, us, rfl, hn⟩ :=
        hvalue us (length_lt_cons_append _ [_, _] _) (.object before (some k) :: frames) hk
      obtain ⟨ms, us, rfl, hms⟩ :=
        hmembers us (length_lt_cons_append _ (_ :: _ :: _) _) ((k, n) :: before) frames hn
      rw [List.reverse_cons, List.append_assoc] at hms
      exact ⟨(k, n) :: ms, us, by simp [Node.memberTokens], hms⟩
    | _ => exact absurd h (ne_breakOff hroot (by simp) _ _)

theorem readsValue (hroot : root.IsWhole) {ts : List Token}
    (hvalue : ∀ us : List Token, us.length < ts.length → ReadsValue root us)
    (hitems : ∀ us : List Token, us.length < ts.length → ReadsItems root us)
    (hmembers : ∀ us : List Token, us.length < ts.length → ReadsMembers root us) :
    ReadsValue root ts := by
  intro frames h
  cases ts with
  | nil => exact absurd h (build_nil_ne hroot _ _)
  | cons t ts =>
    rw [build_cons] at h
    cases t with
    | null => exact ⟨.null, ts, rfl, h⟩
    | bool b => exact ⟨.bool b, ts, rfl, h⟩
    | number m => exact ⟨.number m, ts, rfl, h⟩
    | string s => exact ⟨.string s, ts, rfl, h⟩
    | openBracket =>
      obtain ⟨us, rfl, hclosed⟩ | hfirst := cases_of_build_firstItem hroot h
      · exact ⟨.array [] .closed, us, rfl, hclosed⟩
      · obtain ⟨n, us, rfl, hn⟩ := hvalue ts (Nat.lt_succ_self _) (.array [] :: frames) hfirst
        obtain ⟨ns, us, rfl, hns⟩ := hitems us (length_lt_cons_append _ _ _) [n] frames hn
        exact ⟨.array (n :: ns) .closed, us, by simp [Node.tokens], hns⟩
    | openBrace =>
      obtain ⟨us, rfl, hclosed⟩ | hfirst := cases_of_build_firstKey hroot h
      · exact ⟨.object [] .closed, us, rfl, hclosed⟩
      · obtain ⟨k, us, rfl, hk⟩ := exists_of_build_key hroot hfirst
        obtain ⟨n, us, rfl, hn⟩ :=
          hvalue us (length_lt_cons_append _ [_, _] _) (.object [] (some k) :: frames) hk
        obtain ⟨ms, us, rfl, hms⟩ :=
          hmembers us (length_lt_cons_append _ (_ :: _ :: _) _) [(k, n)] frames hn
        exact ⟨.object ((k, n) :: ms) .closed, us, by simp [Node.tokens], hms⟩
    | _ => exact absurd h (ne_enclose hroot (by rintro ⟨⟩) frames _)

/-- **What a whole tree comes from.** By induction on the length: the items and the members of a
container are read from what its first value leaves. -/
theorem reads (hroot : root.IsWhole) (ts : List Token) :
    ReadsValue root ts ∧ ReadsItems root ts ∧ ReadsMembers root ts := by
  induction hlength : ts.length using Nat.strongRecOn generalizing ts with
  | ind length ih =>
    subst hlength
    have hvalue := fun us (h : us.length < ts.length) => (ih _ h us rfl).1
    have hitems := fun us (h : us.length < ts.length) => (ih _ h us rfl).2.1
    have hmembers := fun us (h : us.length < ts.length) => (ih _ h us rfl).2.2
    exact ⟨readsValue hroot hvalue hitems hmembers, readsItems hroot hvalue hitems,
      readsMembers hroot hvalue hmembers⟩

/-- **A text with a whole tree spells it.** -/
theorem tokens_eq_of_ofChars {cs : List Char} (hroot : root.IsWhole)
    (h : Document.ofChars cs = ⟨root, false⟩) : tokens cs = root.tokens := by
  obtain ⟨n, ts, htokens, h⟩ := (reads hroot (tokens cs)).1 [] h
  obtain ⟨rfl, htrailing⟩ := Document.mk.inj h
  obtain rfl : ts = [] := by simpa using htrailing
  rw [htokens, List.append_nil]

end Whole

end LiveBoard.Json
