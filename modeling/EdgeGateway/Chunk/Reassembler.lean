import EdgeGateway.Chunk

/-!
# EdgeGateway.Chunk.Reassembler

The receive buffer of one message. `first` empties it, every chunk appends to it, and `last`
hands the message out and empties it. A chunk that does not fit empties it as well.
-/

namespace EdgeGateway.Chunk

structure Reassembler where
  capacity : Nat
  buffer : Bytes := []
  deriving DecidableEq, Inhabited

/-- What a chunk brought about. -/
inductive Reassembly where
  /-- data was appended -/
  | appended
  /-- a chunk before the last one carried nothing -/
  | empty
  /-- the message is whole -/
  | complete (message : Bytes)
  /-- the last chunk came with nothing to hand out -/
  | nothing
  /-- the message outgrew the buffer and was thrown away -/
  | overflow
  deriving DecidableEq

namespace Reassembler

def clear (r : Reassembler) : Reassembler := { r with buffer := [] }

def push (r : Reassembler) (indicator : Indicator) (data : Bytes) : Reassembler × Reassembly :=
  let start := if indicator = .first then [] else r.buffer
  if r.capacity < start.length + data.length then ({ r with buffer := [] }, .overflow)
  else
    let buffer := start ++ data
    if indicator = .last then
      ({ r with buffer := [] }, if buffer.isEmpty then .nothing else .complete buffer)
    else
      ({ r with buffer }, if data.isEmpty then .empty else .appended)

end Reassembler

end EdgeGateway.Chunk
