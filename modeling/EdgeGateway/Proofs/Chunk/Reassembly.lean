import EdgeGateway.Chunk.Transfer
import EdgeGateway.Proofs.Chunk.Pieces
import Mathlib.Data.List.DropRight
import Mathlib.Logic.Relation

/-!
# EdgeGateway.Proofs.Chunk.Reassembly

What the receive buffer makes of the pieces of one message.

* `Reassembler.Reachable`        : the states that any chunks lead to (`reachable_iff`).
* `Reassembler.pushAll`          : pieces pushed one after the other.
* `Reassembler.pushAll_of_room`  : a message that fits beside what is in the buffer.
* `Reassembler.pushAll_wraps`    : a message of any length into a buffer of whole pieces. An
  overflow empties the buffer and the next piece starts to fill it again, so that what is in it at
  the end depends on the number of pieces it has room for.
* `Reassembler.receive_chunksOf` : the same for the chunks that carry the pieces.
-/

namespace EdgeGateway.Chunk

/-- The message a chunk has completed. -/
def Reassembly.message? : Reassembly → Option Bytes
  | .complete message => some message
  | _ => none

namespace Reassembler

variable {r : Reassembler} {capacity width : Nat} {indicator : Indicator} {data message : Bytes}

/-! ## One piece -/

theorem clear_of_nil (h : r.buffer = []) : r.clear = r := by
  cases r
  cases h
  rfl

/-- A first piece does what any other would do in an empty buffer. -/
theorem push_first (r : Reassembler) (data : Bytes) :
    r.push .first data = r.clear.push .mid data := rfl

theorem push_mid_of_room (h : r.buffer.length + data.length ≤ r.capacity) (hd : data ≠ []) :
    r.push .mid data = ({ r with buffer := r.buffer ++ data }, .appended) := by
  have hd : data.isEmpty = false := by simpa using hd
  simp [push, Nat.not_lt.mpr h, hd]

theorem push_last_of_room (h : r.buffer.length + data.length ≤ r.capacity) :
    r.push .last data =
      (r.clear, if (r.buffer ++ data).isEmpty then .nothing else .complete (r.buffer ++ data)) := by
  simp [push, Nat.not_lt.mpr h, clear]

theorem push_of_no_room (h : r.capacity < r.buffer.length + data.length)
    (hi : indicator ≠ .first) : r.push indicator data = (r.clear, .overflow) := by
  simp [push, h, hi, clear]

/-- A piece leaves the buffer empty, or longer by its data. -/
theorem push_cases (r : Reassembler) (indicator : Indicator) (data : Bytes) :
    (r.push indicator data).1 = r.clear ∨
      ∃ start, start.length + data.length ≤ r.capacity ∧
        (r.push indicator data).1 = { r with buffer := start ++ data } := by
  unfold push
  extract_lets start buffer
  split
  · exact .inl rfl
  · rename_i h
    split
    · exact .inl rfl
    · exact .inr ⟨start, Nat.le_of_not_lt h, rfl⟩

/-- A piece joins what has been collected, or it empties the buffer. A message that is handed out
is all of it. -/
theorem push_gathers (r : Reassembler) (indicator : Indicator) (data : Bytes) :
    ((r.push indicator data).1.buffer = (if indicator = .first then [] else r.buffer) ++ data ∨
        (r.push indicator data).1.buffer = []) ∧
      ∀ message, (r.push indicator data).2 = .complete message →
        message = (if indicator = .first then [] else r.buffer) ++ data := by
  unfold push
  extract_lets start buffer
  split
  · exact ⟨.inr rfl, nofun⟩
  · split
    · refine ⟨.inr rfl, fun message h => ?_⟩
      split at h <;> cases h
      rfl
    · refine ⟨.inl rfl, fun message h => ?_⟩
      split at h <;> cases h

/-! ## Reachable states -/

/-- A chunk comes, or the buffer is emptied from outside. -/
inductive Step : Reassembler → Reassembler → Prop where
  | push {r : Reassembler} (indicator : Indicator) (data : Bytes) : Step r (r.push indicator data).1
  | clear {r : Reassembler} : Step r r.clear

def Reachable (capacity : Nat) : Reassembler → Prop :=
  Relation.ReflTransGen Step { capacity }

theorem reachable_iff :
    Reachable capacity r ↔ r.capacity = capacity ∧ r.buffer.length ≤ capacity := by
  constructor
  · intro h
    induction h with
    | refl => exact ⟨rfl, Nat.zero_le _⟩
    | @tail r _ _ hs ih =>
      obtain ⟨hc, -⟩ := ih
      cases hs with
      | clear => exact ⟨hc, Nat.zero_le _⟩
      | push indicator data =>
        rcases r.push_cases indicator data with hp | ⟨start, hlen, hp⟩
        · rw [hp]
          exact ⟨hc, Nat.zero_le _⟩
        · rw [hp]
          refine ⟨hc, ?_⟩
          rw [List.length_append, ← hc]
          exact hlen
  · rintro ⟨rfl, hlen⟩
    have hp : (push { capacity := r.capacity } .first r.buffer).1 = r := by
      simp [push, Nat.not_lt.mpr hlen]
    have hs : Step { capacity := r.capacity } (push { capacity := r.capacity } .first r.buffer).1 :=
      .push .first r.buffer
    rw [hp] at hs
    exact .single hs

/-! ## The pieces of one message -/

/-- The pieces are pushed one after the other. -/
def pushAll : Reassembler → List (Indicator × Bytes) → Reassembler × List Reassembly
  | r, [] => (r, [])
  | r, (indicator, data) :: rest =>
    let (r, result) := r.push indicator data
    let (r, results) := r.pushAll rest
    (r, result :: results)

theorem pushAll_cons (r : Reassembler) (indicator : Indicator) (data : Bytes)
    (rest : List (Indicator × Bytes)) : r.pushAll ((indicator, data) :: rest) =
      (((r.push indicator data).1.pushAll rest).1,
        (r.push indicator data).2 :: ((r.push indicator data).1.pushAll rest).2) := rfl

theorem pushAll_singleton (r : Reassembler) (indicator : Indicator) (data : Bytes) :
    r.pushAll [(indicator, data)] =
      ((r.push indicator data).1, [(r.push indicator data).2]) := rfl

/-- A message of several pieces has a first one; nothing else keeps what was there before out. -/
theorem pushAll_opening (hw : 0 < width) (h : width < message.length ∨ r.buffer = []) :
    r.pushAll (piecesFrom width true message) =
      r.clear.pushAll (piecesFrom width false message) := by
  by_cases hlong : width < message.length
  · rw [piecesFrom_of_long hw hlong, piecesFrom_of_long hw hlong]
    simp only [if_true, Bool.false_eq_true, if_false, pushAll_cons, push_first]
  · rw [piecesFrom_of_fits (Nat.le_of_not_lt hlong), piecesFrom_of_fits (Nat.le_of_not_lt hlong),
      clear_of_nil (h.resolve_left hlong)]

theorem take_ne_nil (hw : 0 < width) (h : width < message.length) : message.take width ≠ [] := by
  intro hnil
  have := congrArg List.length hnil
  rw [List.length_take, List.length_nil] at this
  omega

theorem pushAll_of_room (hw : 0 < width)
    (h : r.buffer.length + message.length ≤ r.capacity) :
    r.pushAll (piecesFrom width false message) =
      (r.clear, List.replicate (fullPieces width message.length) .appended ++
        [if (r.buffer ++ message).isEmpty then .nothing else .complete (r.buffer ++ message)]) := by
  induction message using cut_induction hw generalizing r with
  | fits message hfits =>
    rw [piecesFrom_of_fits hfits, pushAll_singleton, push_last_of_room h,
      fullPieces_of_fits hw hfits]
    rfl
  | long message hlong ih =>
    have hlen : (message.take width).length = width := List.length_take_of_le hlong.le
    rw [piecesFrom_of_long hw hlong, if_neg Bool.false_ne_true, pushAll_cons,
      push_mid_of_room (by omega) (take_ne_nil hw hlong)]
    dsimp only
    rw [ih (by rw [List.length_append, List.length_drop, hlen]; dsimp only; omega),
      List.length_drop, fullPieces_of_long hw hlong, List.append_assoc, List.take_append_drop]
    rfl

/-! ## A message of any length -/

/-- How much of a message is in the buffer once its last piece is, were there room for it, if
there are `n` full pieces in it before: what has come since the last overflow. The buffer has room
for `capacity / width` full pieces, and the one after them empties it. -/
def kept (width capacity n length : Nat) : Nat :=
  (n + fullPieces width length) % (capacity / width + 1) * width +
    (length - fullPieces width length * width)

section Kept

variable {n length : Nat}

theorem kept_of_fits (hw : 0 < width) (hn : n ≤ capacity / width) (h : length ≤ width) :
    kept width capacity n length = n * width + length := by
  rw [kept, fullPieces_of_fits hw h, Nat.add_zero, Nat.mod_eq_of_lt (Nat.lt_succ_of_le hn),
    Nat.zero_mul, Nat.sub_zero]

/-- One full piece more is in the buffer. -/
theorem kept_of_long (hw : 0 < width) (h : width < length) :
    kept width capacity n length = kept width capacity (n + 1) (length - width) := by
  rw [kept, kept, fullPieces_of_long hw h, Nat.succ_mul, Nat.add_comm _ width, ← Nat.sub_sub,
    Nat.add_comm (fullPieces ..) 1, Nat.add_assoc]

/-- A full piece after as many as there is room for leaves an empty buffer. -/
theorem kept_of_full : kept width capacity (capacity / width + 1) length =
    kept width capacity 0 length := by
  rw [kept, kept, Nat.add_mod_left, Nat.zero_add]

theorem kept_le (width capacity : Nat) (h : 0 < length) :
    kept width capacity 0 length ≤ length := by
  have hlt := fullPieces_mul_lt width h
  have hle : (0 + fullPieces width length) % (capacity / width + 1) * width ≤
      fullPieces width length * width := by
    rw [Nat.zero_add]
    exact Nat.mul_le_mul_right width (Nat.mod_le ..)
  rw [kept]
  omega

end Kept

theorem rtake_append {l₁ l₂ : Bytes} {n : Nat} (h : n ≤ l₂.length) :
    (l₁ ++ l₂).rtake n = l₂.rtake n := by
  rw [List.rtake, List.rtake, List.length_append, Nat.add_sub_assoc h,
    List.drop_length_add_append]

theorem rtake_append_of_le_drop {l₁ l₂ : Bytes} {n : Nat} (h : n ≤ (l₂.drop width).length) :
    (l₁ ++ l₂).rtake n = (l₂.drop width).rtake n := by
  conv_lhs => rw [← List.take_append_drop width l₂, ← List.append_assoc]
  exact rtake_append h

theorem pushAll_wraps (hw : 0 < width) (hm : message ≠ []) {n : Nat}
    (hb : r.buffer.length = n * width) (hn : n ≤ r.capacity / width) :
    (r.pushAll (piecesFrom width false message)).2.filterMap Reassembly.message? =
      if kept width r.capacity n message.length ≤ r.capacity then
        [(r.buffer ++ message).rtake (kept width r.capacity n message.length)]
      else [] := by
  induction message using cut_induction hw generalizing r n with
  | fits message hfits =>
    have hkept : kept width r.capacity n message.length = (r.buffer ++ message).length := by
      rw [kept_of_fits hw hn hfits, List.length_append, hb]
    rw [piecesFrom_of_fits hfits, hkept, pushAll_singleton, List.rtake, Nat.sub_self,
      List.drop_zero]
    by_cases hroom : (r.buffer ++ message).length ≤ r.capacity
    · rw [push_last_of_room (by rwa [← List.length_append]), if_pos hroom]
      simp [Reassembly.message?, hm]
    · rw [push_of_no_room (by rw [← List.length_append]; omega) (by simp), if_neg hroom]
      rfl
  | long message hlong ih =>
    have hlen : (message.take width).length = width := List.length_take_of_le hlong.le
    have hrest : message.drop width ≠ [] := by simpa using hlong
    rw [piecesFrom_of_long hw hlong, if_neg Bool.false_ne_true, pushAll_cons, kept_of_long hw hlong,
      ← List.length_drop]
    rcases Nat.lt_or_eq_of_le hn with hroom | hfull
    · -- the piece fits, and one more is in the buffer
      have hbound : (n + 1) * width ≤ r.capacity :=
        (Nat.mul_le_mul_right width hroom).trans (Nat.div_mul_le_self ..)
      rw [Nat.succ_mul] at hbound
      have hfilled : (r.buffer ++ message.take width).length = (n + 1) * width := by
        rw [List.length_append, hlen, hb, Nat.succ_mul]
      have ih := ih (r := { r with buffer := r.buffer ++ message.take width }) hrest hfilled hroom
      rw [List.append_assoc, List.take_append_drop] at ih
      rw [push_mid_of_room (by omega) (take_ne_nil hw hlong), List.filterMap_cons_none rfl]
      exact ih
    · -- it does not, and the next one finds the buffer empty
      have hbound : r.capacity < r.buffer.length + (message.take width).length := by
        rw [hb, hfull, hlen]
        exact Nat.lt_div_mul_add hw
      have hle := kept_le width r.capacity (List.length_pos_of_ne_nil hrest)
      have ih := ih (r := r.clear) hrest (Nat.zero_mul width).symm (Nat.zero_le _)
      rw [push_of_no_room hbound (by simp), List.filterMap_cons_none rfl, hfull, kept_of_full,
        rtake_append_of_le_drop hle]
      exact ih

/-- A message that is too long for what is left of the buffer is found to be so. -/
theorem overflow_mem_pushAll (hw : 0 < width)
    (h : r.capacity < r.buffer.length + message.length) :
    .overflow ∈ (r.pushAll (piecesFrom width false message)).2 := by
  induction message using cut_induction hw generalizing r with
  | fits message hfits =>
    rw [piecesFrom_of_fits hfits, pushAll_singleton, push_of_no_room h (by simp)]
    exact List.mem_singleton_self _
  | long message hlong ih =>
    have hlen : (message.take width).length = width := List.length_take_of_le hlong.le
    rw [piecesFrom_of_long hw hlong, if_neg Bool.false_ne_true, pushAll_cons]
    by_cases hroom : r.buffer.length + (message.take width).length ≤ r.capacity
    · rw [push_mid_of_room hroom (take_ne_nil hw hlong)]
      refine List.mem_cons_of_mem _ (ih ?_)
      rw [List.length_append, List.length_drop, hlen]
      dsimp only
      omega
    · rw [push_of_no_room (Nat.lt_of_not_le hroom) (by simp)]
      exact List.mem_cons_self ..

/-! ## Chunks in bytes -/

/-- The buffer after the chunks. -/
def after (r : Reassembler) (writes : List Bytes) : Reassembler :=
  writes.foldl (fun r bytes => (r.receive bytes).1) r

theorem after_append (r : Reassembler) (xs ys : List Bytes) :
    r.after (xs ++ ys) = (r.after xs).after ys :=
  List.foldl_append ..

theorem receiveAll_append (r : Reassembler) (xs ys : List Bytes) :
    r.receiveAll (xs ++ ys) = r.receiveAll xs ++ (r.after xs).receiveAll ys := by
  induction xs generalizing r with
  | nil => rfl
  | cons x xs ih =>
    simp only [List.cons_append, receiveAll, ih]
    rfl

theorem receive_encode {c : Request} (h : c.data.length ≤ maxData) : r.receive c.encode =
    ((r.push c.indicator c.data).1, .ok (r.push c.indicator c.data).2) := by
  rw [receive, Request.decode_encode h]

theorem receive_pieces (handle : UInt32) {pieces : List (Indicator × Bytes)}
    (h : ∀ p ∈ pieces, p.2.length ≤ maxData) :
    r.after (pieces.map fun p => Request.encode ⟨handle, p.1, p.2⟩) = (r.pushAll pieces).1 ∧
    r.receiveAll (pieces.map fun p => Request.encode ⟨handle, p.1, p.2⟩) =
      (r.pushAll pieces).2.map .ok := by
  induction pieces generalizing r with
  | nil => exact ⟨rfl, rfl⟩
  | cons p rest ih =>
    have hrec := receive_encode (r := r) (c := ⟨handle, p.1, p.2⟩) (h p (List.mem_cons_self ..))
    obtain ⟨hafter, hall⟩ := ih (r := (r.push p.1 p.2).1)
      fun q hq => h q (List.mem_cons_of_mem _ hq)
    constructor
    · rw [List.map_cons, after, List.foldl_cons, hrec]
      exact hafter
    · rw [List.map_cons, receiveAll, hrec]
      exact congrArg _ hall

theorem receive_chunksOf (handle : UInt32) (hc : 0 < capacity) :
    r.after ((chunksOf handle capacity message).map Request.encode) =
      (r.pushAll (piecesFrom (min capacity maxData) true message)).1 ∧
    r.receiveAll ((chunksOf handle capacity message).map Request.encode) =
      (r.pushAll (piecesFrom (min capacity maxData) true message)).2.map .ok := by
  rw [chunksOf, List.map_map]
  exact receive_pieces handle fun p hp =>
    (length_le_of_mem_piecesFrom (width_pos hc) hp).trans (Nat.min_le_right ..)

end Reassembler

end EdgeGateway.Chunk
