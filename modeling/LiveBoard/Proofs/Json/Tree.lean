import LiveBoard.Proofs.Json.Scan
import LiveBoard.Proofs.Json.Spell

/-!
# The tree of printed text

The text of a value has the tree of that value, with every container closed and nothing behind
it. Such a tree can be kept as long as its levels do not run out. Of a value with unreadable
numbers this much is left: where its first member is a string, the tree of its text begins with
that member.

## Main definitions

* `Value.node`: the tree of a value.
* `Value.depth`: the levels of arrays and objects in a value.

## Main results

* `ofText_print`: the document of a printed value.
* `keep_node`, `keep_node_of_lt_depth`: the tree of a value can be kept as far as its levels go.
* `ofText_print_object`: the first member of a printed object.
-/

namespace LiveBoard.Json

namespace Value

mutual

/-- The tree of a value. -/
def node : Value → Node
  | .null => .null
  | .bool b => .bool b
  | .number n => .number n.numeral
  | .string s => .string (.ok s)
  | .array vs => .array (itemNodes vs) .closed
  | .object ms => .object (memberNodes ms) .closed

/-- The trees of the items of an array. -/
def itemNodes : List Value → List Node
  | [] => []
  | v :: vs => node v :: itemNodes vs

/-- The trees of the members of an object. -/
def memberNodes : List (String × Value) → List (Key × Node)
  | [] => []
  | (k, v) :: ms => (.ok k, node v) :: memberNodes ms

end

theorem memberNodes_append (ms ns : List (String × Value)) :
    memberNodes (ms ++ ns) = memberNodes ms ++ memberNodes ns := by
  induction ms with
  | nil => rfl
  | cons m ms ih => rw [List.cons_append, memberNodes, memberNodes, ih, List.cons_append]

end Value

/-! ### Building -/

mutual

/-- The tree of a value is whole. -/
theorem isWhole_node : ∀ v : Value, v.node.IsWhole
  | .null => .null
  | .bool b => .bool b
  | .number n => .number n.numeral
  | .string s => .string s
  | .array vs => .array (isWhole_itemNodes vs)
  | .object ms => .object (fun m hm => (isWhole_memberNodes ms m hm).1)
      (fun m hm => (isWhole_memberNodes ms m hm).2)

theorem isWhole_itemNodes : ∀ (vs : List Value), ∀ n ∈ Value.itemNodes vs, n.IsWhole
  | [] => by simp [Value.itemNodes]
  | v :: vs => List.forall_mem_cons.mpr ⟨isWhole_node v, isWhole_itemNodes vs⟩

theorem isWhole_memberNodes : ∀ (ms : List (String × Value)), ∀ m ∈ Value.memberNodes ms,
    (∃ k, m.1 = .ok k) ∧ m.2.IsWhole
  | [] => by simp [Value.memberNodes]
  | (k, v) :: ms =>
    List.forall_mem_cons.mpr ⟨⟨⟨k, rfl⟩, isWhole_node v⟩, isWhole_memberNodes ms⟩

end

mutual

/-- The tree of a value is spelled like the value. -/
theorem tokens_node : ∀ v : Value, v.node.tokens = v.tokens
  | .null | .bool _ | .number _ | .string _ | .array [] | .object [] => rfl
  | .array (v :: vs) => by
    rw [Value.node, Value.itemNodes, Node.tokens, Value.tokens, tokens_node v,
      itemTokens_itemNodes vs]
  | .object ((k, v) :: ms) => by
    rw [Value.node, Value.memberNodes, Node.tokens, Value.tokens, tokens_node v,
      memberTokens_memberNodes ms]

theorem itemTokens_itemNodes : ∀ vs : List Value,
    Node.itemTokens (Value.itemNodes vs) = Value.itemTokens vs
  | [] => rfl
  | v :: vs => by
    rw [Value.itemNodes, Node.itemTokens, Value.itemTokens, tokens_node v,
      itemTokens_itemNodes vs]

theorem memberTokens_memberNodes : ∀ ms : List (String × Value),
    Node.memberTokens (Value.memberNodes ms) = Value.memberTokens ms
  | [] => rfl
  | (k, v) :: ms => by
    rw [Value.memberNodes, Node.memberTokens, Value.memberTokens, tokens_node v,
      memberTokens_memberNodes ms]

end

/-- **The document of a printed value** is its tree, with nothing behind it. -/
theorem ofText_print {v : Value} (h : v.IsReadable) :
    Document.ofText v.print = ⟨v.node, false⟩ := by
  have htokens : tokens v.chars = v.tokens := by
    have := tokens_chars v h [] endsValue_nil
    rwa [List.append_nil, tokens, List.append_nil] at this
  rw [Document.ofText, Value.print, String.toList_ofList]
  exact ofChars_eq_of_tokens (isWhole_node v) (htokens.trans (tokens_node v).symm)

/-! ### Keeping -/

instance decidableEqExcept {ε α : Type} [DecidableEq ε] [DecidableEq α] :
    DecidableEq (Except ε α)
  | .ok a, .ok b => decidable_of_iff (a = b) ⟨congrArg Except.ok, Except.ok.inj⟩
  | .error e, .error f => decidable_of_iff (e = f) ⟨congrArg Except.error, Except.error.inj⟩
  | .ok _, .error _ => .isFalse (fun h => by cases h)
  | .error _, .ok _ => .isFalse (fun h => by cases h)

/-- A computation that gives a result has given one at every step. -/
theorem bind_eq_ok {ε α β : Type} {x : Except ε α} {f : α → Except ε β} {b : β}
    (h : x >>= f = .ok b) : ∃ a, x = .ok a ∧ f a = .ok b := by
  cases x with
  | error e => cases h
  | ok a => exact ⟨a, rfl, h⟩

theorem map_eq_ok {ε α β : Type} {x : Except ε α} {f : α → β} {b : β} (h : x.map f = .ok b) :
    ∃ a, x = .ok a ∧ f a = b := by
  cases x with
  | error e => cases h
  | ok a => exact ⟨a, rfl, Except.ok.inj h⟩

namespace Value

mutual

/-- The levels of arrays and objects in a value. -/
def depth : Value → Nat
  | .null => 0
  | .bool _ => 0
  | .number _ => 0
  | .string _ => 0
  | .array vs => itemDepth vs + 1
  | .object ms => memberDepth ms + 1

/-- The levels in the items of an array. -/
def itemDepth : List Value → Nat
  | [] => 0
  | v :: vs => max (depth v) (itemDepth vs)

/-- The levels in the members of an object. -/
def memberDepth : List (String × Value) → Nat
  | [] => 0
  | (_, v) :: ms => max (depth v) (memberDepth ms)

end

end Value

mutual

/-- **The tree of a value can be kept** where its levels do not run out. -/
theorem keep_node : ∀ (v : Value) (room : Nat), v.IsReadable → v.depth ≤ room →
    ∃ w, v.node.keep room = .ok w
  | .null, _, _, _ => ⟨_, rfl⟩
  | .bool _, _, _, _ => ⟨_, rfl⟩
  | .number n, _, h, _ => by
    have hn := (h n (List.mem_singleton_self n)).value_numeral
    exact ⟨.number n, by rw [Value.node, Node.keep, hn]; rfl⟩
  | .string _, _, _, _ => ⟨_, rfl⟩
  | .array vs, room + 1, h, hdepth => by
    rw [Value.depth, Nat.add_le_add_iff_right] at hdepth
    obtain ⟨ws, hws⟩ := keepItems_itemNodes vs room h hdepth
    exact ⟨.array ws, by rw [Value.node, Node.keep, hws]; rfl⟩
  | .object ms, room + 1, h, hdepth => by
    rw [Value.depth, Nat.add_le_add_iff_right] at hdepth
    obtain ⟨ws, hws⟩ := keepMembers_memberNodes ms room h hdepth
    exact ⟨.object (canonicalMembers ws), by rw [Value.node, Node.keep, hws]; rfl⟩

theorem keepItems_itemNodes : ∀ (vs : List Value) (room : Nat),
    (∀ n ∈ Value.itemNumbers vs, n.IsReadable) → Value.itemDepth vs ≤ room →
    ∃ ws, keepItems room (Value.itemNodes vs) = .ok ws
  | [], _, _, _ => ⟨[], rfl⟩
  | v :: vs, room, h, hdepth => by
    rw [Value.itemDepth, Nat.max_le] at hdepth
    obtain ⟨w, hw⟩ := keep_node v room (fun n hn => h n (List.mem_append_left _ hn)) hdepth.1
    obtain ⟨ws, hws⟩ :=
      keepItems_itemNodes vs room (fun n hn => h n (List.mem_append_right _ hn)) hdepth.2
    exact ⟨w :: ws, by rw [Value.itemNodes, keepItems, hw, hws]; rfl⟩

theorem keepMembers_memberNodes : ∀ (ms : List (String × Value)) (room : Nat),
    (∀ n ∈ Value.memberNumbers ms, n.IsReadable) → Value.memberDepth ms ≤ room →
    ∃ ws, keepMembers room (Value.memberNodes ms) = .ok ws
  | [], _, _, _ => ⟨[], rfl⟩
  | (k, v) :: ms, room, h, hdepth => by
    rw [Value.memberDepth, Nat.max_le] at hdepth
    obtain ⟨w, hw⟩ := keep_node v room (fun n hn => h n (List.mem_append_left _ hn)) hdepth.1
    obtain ⟨ws, hws⟩ :=
      keepMembers_memberNodes ms room (fun n hn => h n (List.mem_append_right _ hn)) hdepth.2
    exact ⟨(k, w) :: ws, by rw [Value.memberNodes, keepMembers, hw, hws]; rfl⟩

end

mutual

/-- **Where the levels run out** the tree of a value cannot be kept. -/
theorem keep_node_of_lt_depth : ∀ (v : Value) (room : Nat), v.IsReadable → room < v.depth →
    v.node.keep room = .error .malformed
  | .null, _, _, hdepth | .bool _, _, _, hdepth | .number _, _, _, hdepth
  | .string _, _, _, hdepth => absurd hdepth (Nat.not_lt_zero _)
  | .array _, 0, _, _ | .object _, 0, _, _ => rfl
  | .array vs, room + 1, h, hdepth => by
    rw [Value.depth, Nat.add_lt_add_iff_right] at hdepth
    rw [Value.node, Node.keep, keepItems_of_lt_depth vs room h hdepth]
    rfl
  | .object ms, room + 1, h, hdepth => by
    rw [Value.depth, Nat.add_lt_add_iff_right] at hdepth
    rw [Value.node, Node.keep, keepMembers_of_lt_depth ms room h hdepth]
    rfl

theorem keepItems_of_lt_depth : ∀ (vs : List Value) (room : Nat),
    (∀ n ∈ Value.itemNumbers vs, n.IsReadable) → room < Value.itemDepth vs →
    keepItems room (Value.itemNodes vs) = .error .malformed
  | [], _, _, hdepth => absurd hdepth (Nat.not_lt_zero _)
  | v :: vs, room, h, hdepth => by
    have hv : v.IsReadable := fun n hn => h n (List.mem_append_left _ hn)
    rw [Value.itemNodes, keepItems]
    rcases Nat.lt_or_ge room v.depth with hlt | hle
    · rw [keep_node_of_lt_depth v room hv hlt]
      rfl
    · obtain ⟨w, hw⟩ := keep_node v room hv hle
      have hvs : room < Value.itemDepth vs := by
        rw [Value.itemDepth] at hdepth
        omega
      rw [hw, keepItems_of_lt_depth vs room (fun n hn => h n (List.mem_append_right _ hn)) hvs]
      rfl

theorem keepMembers_of_lt_depth : ∀ (ms : List (String × Value)) (room : Nat),
    (∀ n ∈ Value.memberNumbers ms, n.IsReadable) → room < Value.memberDepth ms →
    keepMembers room (Value.memberNodes ms) = .error .malformed
  | [], _, _, hdepth => absurd hdepth (Nat.not_lt_zero _)
  | (k, v) :: ms, room, h, hdepth => by
    have hv : v.IsReadable := fun n hn => h n (List.mem_append_left _ hn)
    rw [Value.memberNodes, keepMembers]
    rcases Nat.lt_or_ge room v.depth with hlt | hle
    · rw [keep_node_of_lt_depth v room hv hlt]
      rfl
    · obtain ⟨w, hw⟩ := keep_node v room hv hle
      have hms : room < Value.memberDepth ms := by
        rw [Value.memberDepth] at hdepth
        omega
      rw [hw, keepMembers_of_lt_depth ms room (fun n hn => h n (List.mem_append_right _ hn)) hms]
      rfl

end

/-! ### The first member -/

/-- The tree of an object that begins with a member. -/
def Node.Begins (m : Key × Node) : Node → Prop
  | .object ms _ => ms.head? = some m
  | _ => False

/-- An open object that began with a member. -/
def Frame.Begins (m : Key × Node) : Frame → Prop
  | .object before _ => before.getLast? = some m
  | .array _ => False

/-- The outermost of the open containers is an object that began with a member. -/
def Rooted (m : Key × Node) : List Frame → Prop
  | [] => False
  | [f] => f.Begins m
  | _ :: f :: fs => Rooted m (f :: fs)

/-- The tree so far is that of an object that began with a member. -/
def Progress.Begins (m : Key × Node) : Progress → Prop
  | .going frames _ => Rooted m frames
  | .done root => root.Begins m

variable {m : Key × Node}

theorem Frame.Begins.push {f : Frame} (h : f.Begins m) (n : Node) : (f.push n).Begins m := by
  rcases f with _ | ⟨before, _ | k⟩
  · exact h
  · exact h
  · rw [Frame.Begins] at h
    rw [Frame.push, Frame.Begins, List.getLast?_cons, h]
    rfl

theorem Frame.Begins.finish {f : Frame} (h : f.Begins m) (ending : Ending) :
    (f.finish ending).Begins m := by
  cases f with
  | array before => exact h
  | object before pending => rwa [Frame.finish, Node.Begins, List.head?_reverse]

theorem Rooted.change {f g : Frame} {fs : List Frame} (h : Rooted m (f :: fs))
    (hfg : f.Begins m → g.Begins m) : Rooted m (g :: fs) := by
  cases fs with
  | nil => exact hfg h
  | cons f' fs => exact h

theorem Rooted.enclose {fs : List Frame} (h : Rooted m fs) (n : Node) :
    (enclose n fs).Begins m := by
  induction fs generalizing n with
  | nil => exact h.elim
  | cons f fs ih =>
    cases fs with
    | nil => exact (Frame.Begins.push h n).finish _
    | cons f' fs => exact ih h _

theorem Rooted.breakOff {fs : List Frame} (h : Rooted m fs) (ending : Ending) :
    (breakOff ending fs).Begins m := by
  rcases fs with _ | ⟨f, _ | ⟨f', fs⟩⟩
  · exact h.elim
  · exact Frame.Begins.finish h ending
  · exact Rooted.enclose (show Rooted m (f' :: fs) from h) _

theorem Rooted.deliver {fs : List Frame} (h : Rooted m fs) (n : Node) :
    (deliver n fs).Begins m := by
  cases fs with
  | nil => exact h.elim
  | cons f fs => exact h.change fun hf => hf.push n

theorem Rooted.close {fs : List Frame} (h : Rooted m fs) : (close fs).Begins m := by
  rcases fs with _ | ⟨f, _ | ⟨f', fs⟩⟩
  · exact h.elim
  · exact Frame.Begins.finish h .closed
  · exact Rooted.deliver (show Rooted m (f' :: fs) from h) _

theorem Rooted.beginMember {fs : List Frame} (h : Rooted m fs) (k : Key) :
    (beginMember k fs).Begins m := by
  rcases fs with _ | ⟨_ | ⟨before, pending⟩, fs⟩
  · exact h
  · exact h
  · exact h.change fun hf => hf

theorem Rooted.beginValue {fs : List Frame} (h : Rooted m fs) (t : Token) :
    (beginValue fs t).Begins m := by
  have hopen : ∀ f, Rooted m (f :: fs) := fun f => by
    cases fs with
    | nil => exact h.elim
    | cons f' fs => exact h
  cases t with
  | openBrace => exact hopen _
  | openBracket => exact hopen _
  | null | bool | number | string => exact h.deliver _
  | closeBrace | closeBracket | colon | comma | broken => exact h.enclose _

theorem Rooted.advance {fs : List Frame} (h : Rooted m fs) (expect : Expect) (t : Token) :
    (advance fs expect t).Begins m := by
  fun_cases LiveBoard.Json.advance fs expect t
  all_goals first
    | exact h.beginValue _
    | exact h.close
    | exact h.beginMember _
    | exact h.breakOff _
    | exact h.enclose _
    | exact h

theorem Rooted.atEnd {fs : List Frame} (h : Rooted m fs) (expect : Expect) :
    (atEnd fs expect).Begins m := by
  cases expect with
  | value | colon => exact h.enclose _
  | firstItem | firstKey | separator | key => exact h.breakOff _

theorem Rooted.build {fs : List Frame} (h : Rooted m fs) (expect : Expect) (ts : List Token) :
    (build fs expect ts).root.Begins m := by
  induction ts generalizing fs expect with
  | nil => exact h.atEnd expect
  | cons t ts ih =>
    have hstep := h.advance expect t
    rw [build_cons]
    cases hnext : LiveBoard.Json.advance fs expect t with
    | going frames' expect' => rw [hnext] at hstep; exact ih hstep expect'
    | done root => rw [hnext] at hstep; exact hstep

/-- **The first member of a printed object** begins its tree, whatever the other members are. -/
theorem ofText_print_object (k s : String) (ms : List (String × Value)) :
    (Document.ofText (Value.object ((k, .string s) :: ms)).print).root.Begins
      (.ok k, .string (.ok s)) := by
  have htokens : tokens (Value.object ((k, .string s) :: ms)).chars =
      .openBrace :: .string (.ok k) :: .colon :: .string (.ok s) ::
        tokens (Value.memberChars ms) := by
    rw [Value.chars, tokens_openBrace, tokens_quote, tokens_colon, Value.chars, tokens_quote]
  rw [Document.ofText, Document.ofChars, Value.print, String.toList_ofList, htokens]
  have hroot : Rooted (.ok k, .string (.ok s)) [.object [(.ok k, .string (.ok s))] none] := rfl
  exact hroot.build .separator _

end LiveBoard.Json
