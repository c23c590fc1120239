import EdgeGateway.Chunk.Segment
import Mathlib.Algebra.Order.Floor.Div
import Mathlib.GroupTheory.GroupAction.Ring

/-!
# EdgeGateway.Proofs.Chunk.Pieces

How a message is cut, and how a chunk is read back.

* `cut_induction`                   : induction along the cuts.
* `fullPieces`, `length_piecesFrom` : the pieces before the last one, and so the number of pieces.
* `tags`, `tags_piecesFrom`         : the indicators that many pieces carry.
* `chunksOf`, `requests_of_pos`     : the chunks of a command, for any capacity but zero.
* `Request.decode_encode`           : a chunk whose length byte tells its length is read back.
-/

namespace EdgeGateway.Chunk

theorem toNat_lengthByte {n : Nat} (h : n ≤ maxData) : (UInt8.ofNat n).toNat = n := by
  rw [UInt8.toNat_ofNat']
  exact Nat.mod_eq_of_lt (Nat.lt_succ_of_le h)

theorem Request.decode_encode {c : Request} (h : c.data.length ≤ maxData) :
    decode c.encode = .ok c := by
  simp only [encode, Bytes.ofUInt32, List.cons_append, List.nil_append, decode,
    Indicator.ofByte?_toByte, toNat_lengthByte h, if_true, uint32Of_ofUInt32]

theorem Request.length_encode (c : Request) :
    c.encode.length = requestHeader + c.data.length := by
  simp only [encode, Bytes.ofUInt32, requestHeader, List.length_append, List.length_cons,
    List.length_nil]
  omega

variable {capacity : Nat} {opening : Bool} {message : Bytes}

theorem piecesFrom_of_fits (h : message.length ≤ capacity) :
    piecesFrom capacity opening message = [(.last, message)] := by
  rw [piecesFrom, dif_neg]
  omega

theorem piecesFrom_of_long (hc : 0 < capacity) (h : capacity < message.length) :
    piecesFrom capacity opening message =
      (if opening then .first else .mid, message.take capacity) ::
        piecesFrom capacity false (message.drop capacity) := by
  rw [piecesFrom, dif_pos ⟨hc, h⟩]

/-- A message is cut at its front as long as it is longer than a piece. -/
theorem cut_induction (hc : 0 < capacity) {motive : Bytes → Prop}
    (fits : ∀ message, message.length ≤ capacity → motive message)
    (long : ∀ message, capacity < message.length → motive (message.drop capacity) →
      motive message) (message : Bytes) : motive message :=
  if h : capacity < message.length then
    long message h (cut_induction hc fits long (message.drop capacity))
  else fits message (Nat.le_of_not_lt h)
termination_by message.length
decreasing_by
  rw [List.length_drop]
  omega

theorem length_le_of_mem_piecesFrom (hc : 0 < capacity) {p : Indicator × Bytes}
    (hp : p ∈ piecesFrom capacity opening message) : p.2.length ≤ capacity := by
  induction message using cut_induction hc generalizing opening with
  | fits message h =>
    rw [piecesFrom_of_fits h, List.mem_singleton] at hp
    rwa [hp]
  | long message h ih =>
    rw [piecesFrom_of_long hc h] at hp
    rcases List.mem_cons.mp hp with rfl | hp
    · rw [List.length_take]
      exact Nat.min_le_left ..
    · exact ih hp

theorem flatMap_piecesFrom (hc : 0 < capacity) :
    (piecesFrom capacity opening message).flatMap Prod.snd = message := by
  induction message using cut_induction hc generalizing opening with
  | fits message h => rw [piecesFrom_of_fits h, List.flatMap_singleton]
  | long message h ih =>
    rw [piecesFrom_of_long hc h, List.flatMap_cons, ih, List.take_append_drop]

/-! ## Number and tags -/

/-- The pieces of a message before its last one. All of them are full. -/
def fullPieces (capacity length : Nat) : Nat := (length - 1) / capacity

theorem fullPieces_of_fits {length : Nat} (hc : 0 < capacity) (h : length ≤ capacity) :
    fullPieces capacity length = 0 :=
  Nat.div_eq_of_lt (by omega)

theorem fullPieces_of_long {length : Nat} (hc : 0 < capacity) (h : capacity < length) :
    fullPieces capacity length = fullPieces capacity (length - capacity) + 1 := by
  rw [fullPieces, Nat.div_eq_sub_div hc (by omega), Nat.sub_right_comm, fullPieces]

/-- The last piece has a part of every message, unless the message is empty. -/
theorem fullPieces_mul_lt (capacity : Nat) {length : Nat} (h : 0 < length) :
    fullPieces capacity length * capacity < length := by
  have := Nat.div_mul_le_self (length - 1) capacity
  rw [fullPieces]
  omega

theorem length_piecesFrom (hc : 0 < capacity) :
    (piecesFrom capacity opening message).length = fullPieces capacity message.length + 1 := by
  induction message using cut_induction hc generalizing opening with
  | fits message h => rw [piecesFrom_of_fits h, fullPieces_of_fits hc h, List.length_singleton]
  | long message h ih =>
    rw [piecesFrom_of_long hc h, List.length_cons, ih, List.length_drop, fullPieces_of_long hc h]

theorem fullPieces_add_one (hc : 0 < capacity) (length : Nat) :
    fullPieces capacity length + 1 = max 1 (length ⌈/⌉ capacity) := by
  rw [Nat.ceilDiv_eq_add_pred_div, fullPieces]
  rcases Nat.eq_zero_or_pos length with rfl | hl
  · rw [Nat.zero_sub, Nat.zero_div, Nat.div_eq_of_lt (by omega : 0 + capacity - 1 < capacity)]
    rfl
  · rw [show length + capacity - 1 = length - 1 + capacity by omega, Nat.add_div_right _ hc]
    exact (Nat.max_eq_right (Nat.le_add_left ..)).symm

/-- The indicators of a message of so many pieces. -/
def tags : Nat → List Indicator
  | 0 => []
  | 1 => [.last]
  | n + 2 => .first :: (List.replicate n .mid ++ [.last])

theorem tags_continuing (hc : 0 < capacity) : (piecesFrom capacity false message).map Prod.fst =
    List.replicate (fullPieces capacity message.length) .mid ++ [.last] := by
  induction message using cut_induction hc with
  | fits message h =>
    rw [piecesFrom_of_fits h, fullPieces_of_fits hc h]
    rfl
  | long message h ih =>
    rw [piecesFrom_of_long hc h, List.map_cons, ih, List.length_drop, fullPieces_of_long hc h,
      List.replicate_succ]
    rfl

theorem tags_piecesFrom (hc : 0 < capacity) : (piecesFrom capacity true message).map Prod.fst =
    tags (piecesFrom capacity true message).length := by
  rw [length_piecesFrom hc]
  by_cases h : message.length ≤ capacity
  · rw [piecesFrom_of_fits h, fullPieces_of_fits hc h]
    rfl
  · have h : capacity < message.length := Nat.lt_of_not_le h
    rw [piecesFrom_of_long hc h, fullPieces_of_long hc h, List.map_cons, tags_continuing hc,
      List.length_drop]
    rfl

/-! ## Chunks -/

/-- The chunks of a command, where a capacity allows for any. -/
def chunksOf (handle : UInt32) (capacity : Nat) (command : Bytes) : List Request :=
  (piecesFrom (min capacity maxData) true command).map fun p => ⟨handle, p.1, p.2⟩

section ChunksOf

variable (handle : UInt32) (command : Bytes) (hc : 0 < capacity)
include hc

theorem width_pos : 0 < min capacity maxData := by
  rw [maxData]
  omega

theorem requests_of_pos :
    requests handle command capacity = some (chunksOf handle capacity command) := by
  rw [requests, pieces, if_neg (Nat.ne_of_gt (width_pos hc))]
  rfl

theorem length_chunksOf : (chunksOf handle capacity command).length =
    max 1 (command.length ⌈/⌉ min capacity maxData) := by
  rw [chunksOf, List.length_map, length_piecesFrom (width_pos hc),
    fullPieces_add_one (width_pos hc)]

theorem tags_chunksOf : (chunksOf handle capacity command).map Request.indicator =
    tags (chunksOf handle capacity command).length := by
  rw [chunksOf, List.length_map, ← tags_piecesFrom (width_pos hc), List.map_map]
  rfl

theorem length_le_of_mem_chunksOf {c : Request} (h : c ∈ chunksOf handle capacity command) :
    c.data.length ≤ maxData := by
  obtain ⟨p, hp, rfl⟩ := List.mem_map.mp h
  exact (length_le_of_mem_piecesFrom (width_pos hc) hp).trans (Nat.min_le_right ..)

end ChunksOf

theorem handle_of_mem_chunksOf {handle : UInt32} {c : Request}
    (h : c ∈ chunksOf handle capacity message) : c.handle = handle := by
  obtain ⟨p, -, rfl⟩ := List.mem_map.mp h
  rfl

end EdgeGateway.Chunk
