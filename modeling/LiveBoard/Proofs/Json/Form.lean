import LiveBoard.Proofs.Json.Order
import LiveBoard.Proofs.Json.Readable
import LiveBoard.Proofs.Json.Record
import Mathlib.Logic.Relation

/-!
# Trees that say more

A reader who knows the form of a document knows the fields of every record in it. Whoever writes
for such a reader may write the members of a record in any order, and may add members that the
reader does not know. In parts that have no form nothing may change. The decoder of a record
tolerates such changes: it reads the changed tree as it has read the tree before.

## Main definitions

* `Form`: what is known of a document. `RecordShape.fields` are the fields of a record.
* `Form.Changes`: one change to a tree that its readers need not notice.
* `Decoder.Tolerates`: a decoder that does not notice them.

## Main results

* `Form.Changes.isReadable`: what was added can be left out again.
* `RecordShape.IsLawful.tolerates`: records tolerate changes where their fields do.
-/

namespace LiveBoard.Json

/-- What is known of a document. -/
inductive Form
  /-- Nothing inside may change. -/
  | plain
  /-- The items of an array have a form. -/
  | items (form : Form)
  /-- A record with some fields in order. -/
  | record (fields : List (String × Form))

/-- One change to a tree of some form. -/
inductive Form.Changes : Form → Node → Node → Prop
  /-- The members of a record are put in another order. -/
  | order {fields : List (String × Form)} {ms ns : List (Key × Node)} {ending : Ending}
      (hperm : ms.Perm ns) : Changes (.record fields) (.object ms ending) (.object ns ending)
  /-- A record gets a member with a name that is not known. -/
  | member {fields : List (String × Form)} {ms : List (Key × Node)} {ending : Ending} {k : String}
      {n : Node} (hnew : k ∉ fields.map Prod.fst) :
      Changes (.record fields) (.object ms ending) (.object ((.ok k, n) :: ms) ending)
  /-- A field of a record changes. -/
  | field {fields : List (String × Form)} {before after : List (Key × Node)} {ending : Ending}
      {k : String} {form : Form} {n n' : Node} (hknown : (k, form) ∈ fields)
      (hchange : form.Changes n n') :
      Changes (.record fields) (.object (before ++ (.ok k, n) :: after) ending)
        (.object (before ++ (.ok k, n') :: after) ending)
  /-- A field changes in a record that is written as the array of its fields. -/
  | element {fields : List (String × Form)} {before after : List Node} {ending : Ending}
      {k : String} {form : Form} {n n' : Node} (hknown : fields[before.length]? = some (k, form))
      (hchange : form.Changes n n') :
      Changes (.record fields) (.array (before ++ n :: after) ending)
        (.array (before ++ n' :: after) ending)
  /-- An item of an array changes. -/
  | item {form : Form} {before after : List Node} {ending : Ending} {n n' : Node}
      (hchange : form.Changes n n') :
      Changes (.items form) (.array (before ++ n :: after) ending)
        (.array (before ++ n' :: after) ending)

/-- **What was added can be left out**: the tree before a change can be kept if the changed tree
can. -/
theorem Form.Changes.isReadable {form : Form} {n n' : Node} (h : form.Changes n n') {room : Nat}
    (hread : n'.IsReadable room) : n.IsReadable room := by
  induction h generalizing room with
  | order hperm =>
    obtain ⟨inner, rfl, rfl, hms⟩ := isReadable_object.mp hread
    exact isReadable_object.mpr ⟨inner, rfl, rfl, fun m hm => hms m (hperm.subset hm)⟩
  | member =>
    obtain ⟨inner, rfl, rfl, hms⟩ := isReadable_object.mp hread
    exact isReadable_object.mpr ⟨inner, rfl, rfl, (List.forall_mem_cons.mp hms).2⟩
  | field _ _ ih =>
    obtain ⟨inner, rfl, rfl, hms⟩ := isReadable_object.mp hread
    rw [List.forall_mem_append, List.forall_mem_cons] at hms
    obtain ⟨hbefore, ⟨hkey, hn⟩, hafter⟩ := hms
    refine isReadable_object.mpr ⟨inner, rfl, rfl, ?_⟩
    rw [List.forall_mem_append, List.forall_mem_cons]
    exact ⟨hbefore, ⟨hkey, ih hn⟩, hafter⟩
  | element _ _ ih | item _ ih =>
    obtain ⟨inner, rfl, rfl, hns⟩ := isReadable_array.mp hread
    rw [List.forall_mem_append, List.forall_mem_cons] at hns
    obtain ⟨hbefore, hn, hafter⟩ := hns
    refine isReadable_array.mpr ⟨inner, rfl, rfl, ?_⟩
    rw [List.forall_mem_append, List.forall_mem_cons]
    exact ⟨hbefore, ih hn, hafter⟩

/-! ### Decoders that tolerate changes -/

/-- The decoder reads a changed tree that can be kept as it has read the tree before. -/
def Decoder.Tolerates {α : Type} (d : Decoder α) (form : Form) : Prop :=
  ∀ ⦃ctx : Context⦄ ⦃n n' : Node⦄ ⦃a : α⦄, form.Changes n n' → n'.IsReadable ctx.room →
    d ctx n = .ok a → d ctx n' = .ok a

/-- The slot takes a changed tree as it has taken the tree before. -/
def Slot.Tolerates {σ : Type} (slot : Slot σ) (form : Form) : Prop :=
  ∀ ⦃ctx : Context⦄ ⦃n n' : Node⦄ ⦃d d' : σ⦄, form.Changes n n' → n'.IsReadable ctx.room →
    slot.fill ctx n d = .ok d' → slot.fill ctx n' d = .ok d'

theorem Slot.tolerates_plain {σ : Type} (slot : Slot σ) : slot.Tolerates .plain := by
  rintro ctx n n' d d' ⟨⟩

theorem Decoder.Tolerates.slot {σ α : Type} {d : Decoder α} {form : Form} (h : d.Tolerates form)
    (key : String) (required : Bool) (get : σ → Option α) (set : σ → α → σ) :
    (Slot.of key required get set d).Tolerates form := by
  intro ctx n n' draft draft' hchange hread hfill
  obtain ⟨a, ha, rfl⟩ := Slot.fill_eq_ok hfill
  exact congrArg (Except.map (set draft)) (h hchange hread ha)

namespace Decoder

variable {α : Type} {d : Decoder α} {form : Form}

theorem list_array {buffered : Bool} {room : Nat} {ns : List Node} {ending : Ending} :
    list d ⟨buffered, room + 1⟩ (.array ns ending) = (do
      let as ← items d ⟨buffered, room⟩ ns
      fromFault ending.kept
      return as) := rfl

theorem items_change {ctx : Context} {n n' : Node} (h : ∀ a, d ctx n = .ok a → d ctx n' = .ok a)
    {before after : List Node} {as : List α} (hread : items d ctx (before ++ n :: after) = .ok as) :
    items d ctx (before ++ n' :: after) = .ok as := by
  induction before generalizing as with
  | nil =>
    obtain ⟨a, ha, hread⟩ := bind_eq_ok hread
    rw [List.nil_append, items, h a ha]
    exact hread
  | cons m before ih =>
    obtain ⟨a, ha, hread⟩ := bind_eq_ok hread
    obtain ⟨as, has, hread⟩ := bind_eq_ok hread
    rw [List.cons_append, items, ha]
    simp only [bind, Except.bind, ih has]
    exact hread

/-- Lists tolerate changes where their items do. -/
theorem Tolerates.list (h : d.Tolerates form) : (list d).Tolerates (.items form) := by
  rintro ⟨buffered, room⟩ n n' as (_ | _ | _ | _ | ⟨hchange⟩) hread hlist
  obtain ⟨inner, rfl, rfl, hns⟩ := isReadable_array.mp hread
  rw [List.forall_mem_append, List.forall_mem_cons] at hns
  rw [list_array] at hlist ⊢
  obtain ⟨as, has, hlist⟩ := bind_eq_ok hlist
  rw [items_change (fun a ha => h hchange hns.2.1 ha) has]
  exact hlist

end Decoder

/-! ### Records -/

namespace RecordShape

variable {σ α : Type} {shape : RecordShape σ α} {ctx : Context} {n n' : Node}

/-- The fields of a record with the form that each of them has. -/
def fields (shape : RecordShape σ α) (inside : String → Form) : List (String × Form) :=
  shape.slots.map fun slot => (slot.key, inside slot.key)

theorem fields_map_fst (inside : String → Form) :
    (shape.fields inside).map Prod.fst = shape.slots.map Slot.key := by
  rw [fields, List.map_map]
  rfl

theorem form_of_mem_fields {inside : String → Form} {k : String} {form : Form}
    (h : (k, form) ∈ shape.fields inside) : form = inside k := by
  obtain ⟨slot, -, heq⟩ := List.mem_map.mp h
  cases heq
  rfl

theorem decoder_object {buffered : Bool} {room : Nat} {ms : List (Key × Node)} {ending : Ending} :
    shape.decoder ⟨buffered, room + 1⟩ (.object ms ending) =
      shape.fromMembers ⟨buffered, room⟩ ms ending := rfl

theorem decoder_array {buffered : Bool} {room : Nat} {ns : List Node} {ending : Ending} :
    shape.decoder ⟨buffered, room + 1⟩ (.array ns ending) =
      shape.fromItems ⟨buffered, room⟩ ns ending := rfl

/-- A member with a name that no field has is skipped. -/
theorem puts_of_notMem {k : String} {d : σ} (hk : k ∉ shape.slots.map Slot.key) {room : Nat}
    (hn : n.IsReadable room) : shape.Puts ctx d (.ok k) n d := by
  refine .skip ?_ hn.isWhole.skip
  rw [List.find?_eq_none]
  intro slot hslot hkey
  exact hk (List.mem_map.mpr ⟨slot, hslot, beq_iff_eq.mp hkey⟩)

/-- A field takes a changed tree as it has taken the tree before. -/
theorem Puts.change {inside : String → Form}
    (hslots : ∀ slot ∈ shape.slots, slot.Tolerates (inside slot.key)) {k : String} {d d' : σ}
    (hchange : (inside k).Changes n n') (hread : n'.IsReadable ctx.room)
    (h : shape.Puts ctx d (.ok k) n d') : shape.Puts ctx d (.ok k) n' d' := by
  cases h with
  | @fill _ _ slot _ hslot hheld hfill =>
    have hkey : slot.key = k := by simpa using List.find?_some hslot
    have htolerates := hslots slot (List.mem_of_find?_eq_some hslot)
    rw [hkey] at htolerates
    exact .fill hslot hheld (htolerates hchange hread hfill)
  | skip hnone => exact .skip hnone hread.isWhole.skip

theorem members_change {k : Key}
    (h : ∀ d d', shape.Puts ctx d k n d' → shape.Puts ctx d k n' d')
    {before after : List (Key × Node)} {d d' : σ}
    (hread : shape.members ctx d (before ++ (k, n) :: after) = .ok d') :
    shape.members ctx d (before ++ (k, n') :: after) = .ok d' := by
  induction before generalizing d with
  | nil =>
    obtain ⟨d₁, hd, hread⟩ := bind_eq_ok hread
    rw [List.nil_append, members, member_eq_ok.mpr (h d d₁ (member_eq_ok.mp hd))]
    exact hread
  | cons m before ih =>
    obtain ⟨d₁, hd, hread⟩ := bind_eq_ok hread
    rw [List.cons_append, members, hd]
    exact ih hread

theorem fillItems_change {slots : List (Slot σ)} {before after : List Node}
    (h : ∀ slot, slots[before.length]? = some slot → ∀ d d', slot.fill ctx n d = .ok d' →
      slot.fill ctx n' d = .ok d') {d d' : σ}
    (hread : fillItems ctx d slots (before ++ n :: after) = .ok d') :
    fillItems ctx d slots (before ++ n' :: after) = .ok d' := by
  induction before generalizing slots d with
  | nil =>
    cases slots with
    | nil => exact hread
    | cons slot slots =>
      obtain ⟨d₁, hd, hread⟩ := bind_eq_ok hread
      rw [List.nil_append, fillItems, h slot rfl d d₁ hd]
      exact hread
  | cons m before ih =>
    cases slots with
    | nil => exact hread
    | cons slot slots =>
      obtain ⟨d₁, hd, hread⟩ := bind_eq_ok hread
      rw [List.cons_append, fillItems, hd]
      exact ih (fun slot hslot => h slot hslot) hread

/-- **A record tolerates changes** where each of its fields tolerates those of its own form. -/
theorem IsLawful.tolerates (h : shape.IsLawful) {inside : String → Form}
    (hslots : ∀ slot ∈ shape.slots, slot.Tolerates (inside slot.key)) :
    shape.decoder.Tolerates (.record (shape.fields inside)) := by
  rintro ⟨buffered, room⟩ n n' a hchange hread hrecord
  generalize hform : Form.record (shape.fields inside) = form at hchange
  cases hchange with
  | order hperm =>
    obtain ⟨inner, rfl, rfl, -⟩ := isReadable_object.mp hread
    rw [decoder_object] at hrecord ⊢
    obtain ⟨d, hd, hrecord⟩ := bind_eq_ok hrecord
    rw [fromMembers, h.members_perm hperm hd]
    exact hrecord
  | @member fields ms ending k n hnew =>
    cases hform
    rw [fields_map_fst] at hnew
    obtain ⟨inner, rfl, rfl, hms⟩ := isReadable_object.mp hread
    have hn : n.IsReadable inner := (List.forall_mem_cons.mp hms).1.2
    rw [decoder_object] at hrecord ⊢
    rw [fromMembers, members, member_eq_ok.mpr (puts_of_notMem hnew hn)]
    exact hrecord
  | @field fields before after ending k form n n' hknown hchange =>
    cases hform
    rw [form_of_mem_fields hknown] at hchange
    obtain ⟨inner, rfl, rfl, hms⟩ := isReadable_object.mp hread
    rw [List.forall_mem_append, List.forall_mem_cons] at hms
    rw [decoder_object] at hrecord ⊢
    obtain ⟨d, hd, hrecord⟩ := bind_eq_ok hrecord
    rw [fromMembers, members_change (fun _ _ h => h.change hslots hchange hms.2.1.2) hd]
    exact hrecord
  | @element fields before after ending k form n n' hknown hchange =>
    cases hform
    obtain ⟨inner, rfl, rfl, hns⟩ := isReadable_array.mp hread
    rw [List.forall_mem_append, List.forall_mem_cons] at hns
    have hfill : ∀ slot, shape.slots[before.length]? = some slot → ∀ d d',
        slot.fill ⟨buffered, inner⟩ n d = .ok d' → slot.fill ⟨buffered, inner⟩ n' d = .ok d' := by
      intro slot hslot d d' hfill
      rw [RecordShape.fields, List.getElem?_map, hslot] at hknown
      cases hknown
      exact hslots slot (List.mem_of_getElem? hslot) hchange hns.2.1 hfill
    have hlength : (before ++ n' :: after).length = (before ++ n :: after).length := by simp
    rw [decoder_array] at hrecord ⊢
    obtain ⟨d, hd, hrecord⟩ := bind_eq_ok hrecord
    rw [fromItems, fillItems_change hfill hd, hlength]
    exact hrecord
  | item => cases hform

/-- New members and another order are all that a record has to tolerate if nothing is known of what
is inside its fields. -/
theorem IsLawful.tolerates_plain (h : shape.IsLawful) :
    shape.decoder.Tolerates (.record (shape.fields fun _ => .plain)) :=
  h.tolerates fun slot _ => slot.tolerates_plain

end RecordShape

end LiveBoard.Json
