import EdgeGateway.Chunk.Reassembler
import EdgeGateway.Chunk.Segment

/-!
# EdgeGateway.Chunk.Transfer

A command on its way: cut into request chunks, written as bytes, and put together by the receiver.

* `Reassembler.receiveAll` : what each of several chunks brings about.
* `transfer`               : the same for the chunks of one command.
-/

namespace EdgeGateway.Chunk

/-- A request chunk as it arrives. Bytes that are no chunk change nothing. -/
def Reassembler.receive (r : Reassembler) (bytes : Bytes) :
    Reassembler × Except DecodeError Reassembly :=
  match Request.decode bytes with
  | .error e => (r, .error e)
  | .ok chunk =>
    let (r, result) := r.push chunk.indicator chunk.data
    (r, .ok result)

def Reassembler.receiveAll : Reassembler → List Bytes → List (Except DecodeError Reassembly)
  | _, [] => []
  | r, bytes :: rest =>
    let (r, result) := r.receive bytes
    result :: r.receiveAll rest

/-- None if the capacity leaves no way to cut the command. -/
def transfer (handle : UInt32) (command : Bytes) (capacity buffer : Nat) :
    Option (List (Except DecodeError Reassembly)) :=
  (requests handle command capacity).map fun chunks =>
    Reassembler.receiveAll { capacity := buffer } (chunks.map Request.encode)

end EdgeGateway.Chunk
