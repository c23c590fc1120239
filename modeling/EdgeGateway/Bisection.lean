/-!
# EdgeGateway.Bisection

Binary search in a list whose items come in order: first those below what is sought, then those
as sought, then those above.

* `narrow`         : halves a range of places until one is left.
* `locate`         : the place of an item as sought, or the place where it would have to stand.
* `partitionPoint` : how many items stand ahead of the first that fails a test.
-/

namespace EdgeGateway.Bisection

/-- One of the `size` places from `base` on: the last that is not above what is sought, unless
all of them are. -/
@[semireducible]
def narrow (order : Nat → Ordering) (base size : Nat) : Nat :=
  if _ : 1 < size then
    let half := size / 2
    narrow order (if order (base + half) = .gt then base else base + half) (size - half)
  else base
termination_by size

variable {α : Type}

/-- How the item at a place compares with what is sought. Places after the last item are above. -/
def orderAt (order : α → Ordering) (items : List α) (place : Nat) : Ordering :=
  match items[place]? with
  | some a => order a
  | none => .gt

/-- The place that is left of all. -/
def pivot (order : α → Ordering) (items : List α) : Nat :=
  narrow (orderAt order items) 0 items.length

/-- The place of an item as sought; an error tells the place where it would have to stand. -/
def locate (order : α → Ordering) (items : List α) : Except Nat Nat :=
  match orderAt order items (pivot order items) with
  | .lt => .error (pivot order items + 1)
  | .eq => .ok (pivot order items)
  | .gt => .error (pivot order items)

/-- The number of items ahead of the first that fails the test. Those that pass come first. -/
def partitionPoint (test : α → Bool) (items : List α) : Nat :=
  match locate (fun a => if test a then .lt else .gt) items with
  | .ok place => place
  | .error place => place

end EdgeGateway.Bisection
