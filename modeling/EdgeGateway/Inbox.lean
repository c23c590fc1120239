/-!
# EdgeGateway.Inbox

The bounded queue in front of a task. A sender that does not wait is refused when the queue is
full or its reader is gone. A queue of depth zero holds nothing by itself: it hands an item over
only while its reader is waiting for one.
-/

namespace EdgeGateway

structure Inbox (α : Type) where
  depth : Nat
  items : List α := []
  /-- the reader is there -/
  isOpen : Bool := true
  deriving DecidableEq, Inhabited

namespace Inbox

variable {α : Type}

/-- There is room for an item, `waiting` telling whether the reader waits for one. -/
def hasRoom (q : Inbox α) (waiting : Bool) : Bool :=
  q.items.length < q.depth || (waiting && q.items.isEmpty)

def accepts (q : Inbox α) (waiting : Bool) : Bool := q.isOpen && q.hasRoom waiting

def put (q : Inbox α) (a : α) : Inbox α := { q with items := q.items ++ [a] }

/-- Sending without waiting. -/
def offer (q : Inbox α) (waiting : Bool) (a : α) : Option (Inbox α) :=
  if q.accepts waiting then some (q.put a) else none

/-- Sending what may be lost. -/
def offerOrDrop (q : Inbox α) (waiting : Bool) (a : α) : Inbox α :=
  (q.offer waiting a).getD q

def take? (q : Inbox α) : Option (α × Inbox α) :=
  match q.items with
  | [] => none
  | a :: items => some (a, { q with items })

def clear (q : Inbox α) : Inbox α := { q with items := [] }

/-- The reader goes, and with it what it has not read. -/
def close (q : Inbox α) : Inbox α := { q with items := [], isOpen := false }

end Inbox

end EdgeGateway
