import EdgeGateway.Chunk

/-!
# EdgeGateway.Chunk.Segment

Cutting a message into pieces of a given capacity.

* `pieces`            : a message that fits is a single `last`; otherwise `first`, any number of
  `mid`, and `last`.
* `requests`, `responses` : the pieces as chunks. Without capacity there is no way to cut.
* `responseCapacity`  : the data a response chunk may carry on a connection.
-/

namespace EdgeGateway.Chunk

/-- The pieces of a message; `opening` tells whether the next piece is the first one. -/
def piecesFrom (capacity : Nat) (opening : Bool) (message : Bytes) : List (Indicator × Bytes) :=
  if _ : 0 < capacity ∧ capacity < message.length then
    (if opening then .first else .mid, message.take capacity) ::
      piecesFrom capacity false (message.drop capacity)
  else
    [(.last, message)]
termination_by message.length
decreasing_by simp only [List.length_drop]; omega

def pieces (message : Bytes) (capacity : Nat) : Option (List (Indicator × Bytes)) :=
  if capacity = 0 then none else some (piecesFrom capacity true message)

/-- The chunks a client writes for one command. -/
def requests (handle : UInt32) (command : Bytes) (capacity : Nat) : Option (List Request) :=
  (pieces command (min capacity maxData)).map (·.map fun (i, data) => ⟨handle, i, data⟩)

/-- The chunks that carry one response. -/
def responses (response : Bytes) (capacity : Nat) : Option (List Response) :=
  (pieces response capacity).map (·.map fun (i, data) => ⟨i, data⟩)

/-- Data bytes of a response chunk: what the transmission unit and the characteristic leave after
the header and the reserved tail, as far as the length byte can tell. -/
def responseCapacity (mtu characteristic : Nat) : Option Nat :=
  let room := min mtu characteristic - (responseHeader + reservedTail)
  if room = 0 then none else some (min room maxData)

end EdgeGateway.Chunk
