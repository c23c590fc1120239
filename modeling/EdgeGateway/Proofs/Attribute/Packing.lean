import EdgeGateway.Proofs.Attribute.Search

/-!
# EdgeGateway.Proofs.Attribute.Packing

What a response to a read by type holds, and what its reader takes from it.

* `packed`              : the attributes a response has pairs of, the first of those that match.
* `listed`              : the handles in a response, read off its bytes.
* `readByType_of_match` : a response lists the first attributes that match, one at least, and is no
  longer than allowed.
-/

namespace EdgeGateway.AttributeTable

variable {maxLength length used : Nat} {a : Attribute} {attributes : List Attribute}

/-! ## Pairs -/

theorem pairLength_le_byte (maxLength : Nat) (a : Attribute) : pairLength maxLength a ≤ 255 :=
  Nat.min_le_right ..

theorem pairLength_lt (hm : 3 ≤ maxLength) (a : Attribute) :
    pairLength maxLength a < maxLength := by
  unfold pairLength
  omega

/-- A pair has the length that is told of it. -/
theorem length_pair (hm : 3 ≤ maxLength) (a : Attribute) :
    (pair (pairLength maxLength a) a).length = pairLength maxLength a := by
  rw [pair, List.length_append, List.length_take, Bytes.ofUInt16, List.length_cons,
    List.length_singleton, pairLength]
  omega

/-! ## Responses -/

/-- The attributes whose pairs have one length, as many as there is room for. -/
def packed (maxLength length : Nat) : Nat → List Attribute → List Attribute
  | _, [] => []
  | used, a :: rest =>
    if pairLength maxLength a ≠ length ∨ maxLength < used + length then []
    else a :: packed maxLength length (used + length) rest

theorem packPairs_eq (used : Nat) (attributes : List Attribute) :
    packPairs maxLength length used attributes =
      (packed maxLength length used attributes).flatMap (pair length) := by
  induction attributes generalizing used with
  | nil => rfl
  | cons a rest ih =>
    rw [packPairs, packed]
    split
    · rfl
    · rw [ih, List.flatMap_cons]

theorem packed_prefix (maxLength length used : Nat) (attributes : List Attribute) :
    packed maxLength length used attributes <+: attributes := by
  induction attributes generalizing used with
  | nil => exact List.prefix_rfl
  | cons a rest ih =>
    rw [packed]
    split
    · exact List.nil_prefix
    · exact (List.prefix_cons_inj a).mpr (ih _)

theorem pairLength_of_mem_packed (h : a ∈ packed maxLength length used attributes) :
    pairLength maxLength a = length := by
  induction attributes generalizing used with
  | nil => cases h
  | cons b rest ih =>
    rw [packed] at h
    split at h
    · cases h
    · rename_i hfits
      rcases List.mem_cons.mp h with rfl | h
      · by_cases heq : pairLength maxLength a = length
        · exact heq
        · exact absurd (.inl heq) hfits
      · exact ih h

theorem packed_cons (hm : 3 ≤ maxLength) (a : Attribute) (rest : List Attribute) :
    packed maxLength (pairLength maxLength a) 1 (a :: rest) =
      a :: packed maxLength (pairLength maxLength a) (1 + pairLength maxLength a) rest := by
  rw [packed, if_neg]
  have := pairLength_lt hm a
  omega

/-- The pairs take no more than the room they were given. -/
theorem packed_room (hu : used ≤ maxLength) :
    used + (packed maxLength length used attributes).length * length ≤ maxLength := by
  induction attributes generalizing used with
  | nil => simpa [packed] using hu
  | cons a rest ih =>
    rw [packed]
    split
    · simpa using hu
    · rename_i hfits
      have hroom : used + length ≤ maxLength := by omega
      have := ih hroom
      rw [List.length_cons, Nat.succ_mul]
      omega

theorem length_flatMap_pair (hm : 3 ≤ maxLength)
    (h : ∀ a ∈ attributes, pairLength maxLength a = length) :
    (attributes.flatMap (pair length)).length = attributes.length * length := by
  induction attributes with
  | nil => simp
  | cons a rest ih =>
    obtain rfl := h a List.mem_cons_self
    rw [List.flatMap_cons, List.length_append, length_pair hm a,
      ih fun b hb => h b (List.mem_cons_of_mem a hb), List.length_cons, Nat.succ_mul]
    omega

/-! ## Reading a response -/

/-- The handles that pairs of a length begin with. -/
def handlesIn (length : Nat) : Bytes → List UInt16
  | low :: high :: rest => uint16Of low high :: handlesIn length (rest.drop (length - 2))
  | _ => []
termination_by pairs => pairs.length
decreasing_by
  simp only [List.length_drop, List.length_cons]
  omega

/-- The handles in a response. Its first byte tells the length of its pairs. -/
def listed : Bytes → List UInt16
  | [] => []
  | length :: pairs => handlesIn length.toNat pairs

theorem handlesIn_pair (hm : 3 ≤ maxLength) (a : Attribute) (rest : Bytes) :
    handlesIn (pairLength maxLength a) (pair (pairLength maxLength a) a ++ rest) =
      a.handle :: handlesIn (pairLength maxLength a) rest := by
  have hvalue :
      (a.value.take (pairLength maxLength a - 2)).length = pairLength maxLength a - 2 := by
    rw [List.length_take, pairLength]
    omega
  simp only [pair, Bytes.ofUInt16, List.cons_append, List.nil_append]
  rw [handlesIn, uint16Of_ofUInt16, List.drop_left' hvalue]

theorem handlesIn_flatMap (hm : 3 ≤ maxLength)
    (h : ∀ a ∈ attributes, pairLength maxLength a = length) :
    handlesIn length (attributes.flatMap (pair length)) = attributes.map (·.handle) := by
  induction attributes with
  | nil => simp [handlesIn]
  | cons a rest ih =>
    obtain rfl := h a List.mem_cons_self
    rw [List.flatMap_cons, handlesIn_pair hm, ih fun b hb => h b (List.mem_cons_of_mem a hb),
      List.map_cons]

/-! ## What is answered -/

variable {t : AttributeTable} {first last type : UInt16}

theorem readByType_of_none (hm : 3 ≤ maxLength) (h : t.matching first last type = []) :
    t.readByType first last type maxLength = .error .attributeNotFound := by
  rw [readByType, if_neg (Nat.not_lt.mpr hm), h]

theorem toNat_pairLengthByte (maxLength : Nat) (a : Attribute) :
    (UInt8.ofNat (pairLength maxLength a)).toNat = pairLength maxLength a := by
  rw [UInt8.toNat_ofNat']
  exact Nat.mod_eq_of_lt (Nat.lt_succ_of_le (pairLength_le_byte maxLength a))

/-- The length of the first match, and the pairs of those that are packed with it. -/
theorem readByType_of_cons (hm : 3 ≤ maxLength) {rest : List Attribute}
    (h : t.matching first last type = a :: rest) :
    t.readByType first last type maxLength = .ok (UInt8.ofNat (pairLength maxLength a) ::
      (packed maxLength (pairLength maxLength a) 1 (a :: rest)).flatMap
        (pair (pairLength maxLength a))) := by
  rw [readByType, if_neg (Nat.not_lt.mpr hm), h]
  dsimp only
  rw [packPairs_eq]

/-- A response lists some of the attributes that match, from the first on. -/
theorem readByType_of_match (hm : 3 ≤ maxLength) (h : t.matching first last type ≠ []) :
    ∃ response taken left, t.readByType first last type maxLength = .ok response ∧
      t.matching first last type = taken ++ left ∧ taken ≠ [] ∧
      listed response = taken.map (·.handle) ∧ response.length ≤ maxLength := by
  obtain ⟨a, rest, hmatch⟩ := List.exists_cons_of_ne_nil h
  let length := pairLength maxLength a
  let taken := packed maxLength length 1 (a :: rest)
  obtain ⟨left, hleft⟩ := packed_prefix maxLength length 1 (a :: rest)
  have hlength : ∀ b ∈ taken, pairLength maxLength b = length := fun b hb =>
    pairLength_of_mem_packed hb
  refine ⟨UInt8.ofNat length :: taken.flatMap (pair length), taken, left,
    readByType_of_cons hm hmatch, ?_, ?_, ?_, ?_⟩
  · rw [hmatch, hleft]
  · rw [show taken = _ from packed_cons hm a rest]
    exact List.cons_ne_nil _ _
  · rw [listed, toNat_pairLengthByte, handlesIn_flatMap hm hlength]
  · rw [List.length_cons, length_flatMap_pair hm hlength]
    have hroom : 1 + taken.length * length ≤ maxLength := packed_room (by omega)
    omega

end EdgeGateway.AttributeTable
