import LiveBoard.Message.Basic

/-!
# Mailboxes

What a receiver of a board has not read yet. A mailbox holds a limited number of messages. When
one more arrives, the oldest is lost, and the receiver learns how many were lost before it reads
the next one.

## Main definitions

* `Mailbox`: unread messages and the number of lost ones.
* `Mailbox.post`, `Mailbox.take?`: a message arrives, and is read.
-/

namespace LiveBoard

/-- What a receiver has not read yet. -/
structure Mailbox where
  /-- The messages, the oldest first. -/
  unread : List ServerMessage
  /-- The number of messages that were lost since the receiver last read. -/
  lost : Nat
  deriving Repr, DecidableEq

/-- What a receiver reads: a message, or how many were lost before the next one. -/
inductive Delivery
  | message (m : ServerMessage)
  | lagged (count : Nat)
  deriving Repr, DecidableEq

namespace Mailbox

/-- The number of messages that a mailbox holds. -/
def capacity : Nat := 128

/-- A mailbox without messages. -/
def empty : Mailbox := ⟨[], 0⟩

/-- A message arrives. -/
def post (m : ServerMessage) (b : Mailbox) : Mailbox :=
  if b.unread.length < capacity then { b with unread := b.unread ++ [m] }
  else ⟨b.unread.drop 1 ++ [m], b.lost + 1⟩

/-- The next thing that the receiver reads. -/
def take? (b : Mailbox) : Option (Delivery × Mailbox) :=
  if b.lost = 0 then
    match b.unread with
    | [] => none
    | m :: ms => some (.message m, { b with unread := ms })
  else some (.lagged b.lost, { b with lost := 0 })

/-- All that the receiver reads when it reads on to the end. -/
def drain (b : Mailbox) : List Delivery :=
  (if b.lost = 0 then [] else [.lagged b.lost]) ++ b.unread.map .message

end Mailbox

end LiveBoard
