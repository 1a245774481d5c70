import LiveBoard.Proofs.Json.Form
import LiveBoard.Proofs.Json.Gap

/-!
# Texts that say the same

The tree of a text changes when members are put in another order or new ones are added, and does not
change when white space is put between its tokens. A decoder that tolerates such changes of a
tree, and reads only trees that can be kept, reads the same from the text before and after.

## Main definitions

* `Node.Spelled`: a text that spells a whole tree.
* `Form.Respells`: one way to write a text anew.

## Main results

* `spelled_iff`: a text spells a whole tree exactly if it has that tree.
* `decodeText_of_respells`: what is read from a text that was written anew.
-/

namespace LiveBoard.Json

variable {n n' : Node} {form : Form} {text text' : String}

/-- The text spells the tree, in which nothing is missing or broken. -/
def Node.Spelled (n : Node) (text : String) : Prop :=
  n.IsWhole ∧ Json.tokens text.toList = n.tokens

/-- **A text spells a whole tree** exactly if that is its tree, with nothing behind it. -/
theorem spelled_iff : n.Spelled text ↔ n.IsWhole ∧ Document.ofText text = ⟨n, false⟩ :=
  ⟨fun h => ⟨h.1, ofChars_eq_of_tokens h.1 h.2⟩, fun h => ⟨h.1, tokens_eq_of_ofChars h.1 h.2⟩⟩

/-- A printed value spells its tree. -/
theorem Value.spelled {v : Value} (h : v.IsReadable) : v.node.Spelled v.print :=
  spelled_iff.mpr ⟨isWhole_node v, ofText_print h⟩

/-- One way to write a text of some form anew. -/
inductive Form.Respells (form : Form) : String → String → Prop
  /-- White space is put where one token ends and the next one begins. -/
  | spaced {a b w : List Char} (hgap : tokens (a ++ b) = tokens a ++ tokens b)
      (hw : ∀ c ∈ w, isSpace c = true) :
      Respells form (String.ofList (a ++ b)) (String.ofList (a ++ w ++ b))
  /-- The tree of the text is changed, and can still be kept. -/
  | changed {text text' : String} {n n' : Node} (h : n.Spelled text)
      (hchange : Relation.ReflTransGen form.Changes n n') (h' : n'.Spelled text')
      (hread : n'.IsReadable maxDepth) : Respells form text text'

section Decoding

variable {α : Type} {d : Decoder α} {a : α}

/-- Many changes are tolerated when each of them is. -/
theorem eq_ok_of_changes {ctx : Context} (h : Relation.ReflTransGen form.Changes n n')
    (htolerates : ∀ {m m'}, form.Changes m m' → m'.IsReadable ctx.room → d ctx m = .ok a →
      d ctx m' = .ok a) (hread : n'.IsReadable ctx.room) (hn : d ctx n = .ok a) :
    d ctx n' = .ok a := by
  induction h with
  | refl => exact hn
  | tail _ hchange ih => exact htolerates hchange hread (ih (hchange.isReadable hread))

/-- **What is read from a text that was written anew**, by a decoder that reads whole documents and
tolerates changes, is what was read before. -/
theorem decodeText_of_respells
    (hkeeps : ∀ {m}, d .direct m = .ok a → m.IsReadable maxDepth)
    (htolerates : ∀ {m m'}, form.Changes m m' → m'.IsReadable maxDepth → d .direct m = .ok a →
      d .direct m' = .ok a)
    (hrespells : Relation.ReflTransGen form.Respells text text')
    (h : decodeText d text = .ok a) : decodeText d text' = .ok a := by
  induction hrespells with
  | refl => exact h
  | tail _ hrespell ih =>
    obtain ⟨m, hdoc, hm⟩ := decodeText_eq_ok.mp ih
    cases hrespell with
    | @spaced a b w hgap hw =>
      have hwhole := (hkeeps hm).isWhole
      have htokens : tokens (a ++ b) = m.tokens := by
        rw [Document.ofText, String.toList_ofList] at hdoc
        exact tokens_eq_of_ofChars hwhole hdoc
      have hspaced := tokens_spaced (htokens ▸ hwhole.isWhole_of_mem_tokens) hgap hw
      refine decodeText_eq_ok.mpr ⟨m, ?_, hm⟩
      rw [Document.ofText, String.toList_ofList]
      exact ofChars_eq_of_tokens hwhole (hspaced.trans htokens)
    | changed hbefore hchange hafter hread =>
      have hsame := (spelled_iff.mp hbefore).2
      rw [hdoc] at hsame
      cases hsame
      exact decodeText_eq_ok.mpr
        ⟨_, (spelled_iff.mp hafter).2, eq_ok_of_changes hchange htolerates hread hm⟩

end Decoding

end LiveBoard.Json
