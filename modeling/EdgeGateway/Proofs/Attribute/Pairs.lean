import EdgeGateway.Proofs.Attribute.Listing
import EdgeGateway.Proofs.Attribute.Packing

/-!
# EdgeGateway.Proofs.Attribute.Pairs

What a read by type answers, byte for byte (`answers_by_type`).

* `cut`            : bytes in pieces of one length.
* `asked`          : the attributes asked for, found without a search.
* `Packs`          : what a response is to the attributes asked for, and to those it tells of.
* `prefix_packed`  : no more of them would have gone in.
* `packs_response` : the response that is given is one that packs.
-/

namespace EdgeGateway.AttributeTable

variable {maxLength length used : Nat} {attributes longer : List Attribute}

/-! ## Pieces -/

/-- The pieces of a length, and what is left over at the end. -/
def cut (length : Nat) (bytes : Bytes) : List Bytes :=
  if _ : 0 < length ∧ bytes ≠ [] then bytes.take length :: cut length (bytes.drop length) else []
termination_by bytes.length
decreasing_by
  rw [List.length_drop]
  have := List.length_pos_iff.mpr ‹0 < length ∧ bytes ≠ []›.2
  omega

theorem cut_append {piece : Bytes} (hpos : 0 < length) (hp : piece.length = length)
    (rest : Bytes) : cut length (piece ++ rest) = piece :: cut length rest := by
  have hne : piece ++ rest ≠ [] := by
    intro h
    rw [(List.append_eq_nil_iff.mp h).1] at hp
    exact Nat.ne_of_lt hpos hp
  rw [cut, dif_pos ⟨hpos, hne⟩, List.take_left' hp, List.drop_left' hp]

theorem cut_flatMap {α : Type} {items : List α} {f : α → Bytes} (hpos : 0 < length)
    (h : ∀ a ∈ items, (f a).length = length) : cut length (items.flatMap f) = items.map f := by
  induction items with
  | nil => rw [List.flatMap_nil, cut, dif_neg (fun h => h.2 rfl), List.map_nil]
  | cons a rest ih =>
    rw [List.flatMap_cons, cut_append hpos (h a List.mem_cons_self),
      ih fun b hb => h b (List.mem_cons_of_mem a hb), List.map_cons]

/-! ## What has to be answered -/

/-- The readable attributes of a type with a handle in a range. -/
def asked (first last type : UInt16) (attributes : List Attribute) : List Attribute :=
  attributes.filter fun a =>
    a.readable ∧ a.type = type ∧ first ≤ a.handle ∧ a.handle ≤ last

theorem matching_eq_asked {t : AttributeTable} (h : Ascending t.attributes)
    (first last type : UInt16) :
    t.matching first last type = asked first last type t.attributes := by
  rw [matching_eq_filter h]
  apply List.filter_congr
  intro a _
  rw [Bool.eq_iff_iff]
  simp only [Bool.and_eq_true, decide_eq_true_eq, beq_iff_eq]
  constructor
  · rintro ⟨⟨⟨hfirst, hlast⟩, htype⟩, hread⟩
    exact ⟨hread, htype, hfirst, hlast⟩
  · rintro ⟨hread, htype, hfirst, hlast⟩
    exact ⟨⟨⟨hfirst, hlast⟩, htype⟩, hread⟩

theorem asked_eq_nil_iff {first last type : UInt16} : asked first last type attributes = [] ↔
    ∀ a ∈ attributes, a.readable = true → a.type = type →
      ¬ (first ≤ a.handle ∧ a.handle ≤ last) := by
  simp only [asked, List.filter_eq_nil_iff, decide_eq_true_eq, not_and]

/-- A response tells of `taken`, which are the first of those that were found, in pairs of one
length. -/
structure Packs (maxLength : Nat) (found taken : List Attribute) (length : Nat)
    (response : Bytes) : Prop where
  /-- the first of them sets the length -/
  first : ∃ a rest, found = a :: rest ∧
    length = min (min (a.value.length + 2) (maxLength - 1)) 255
  told : response.head?.map UInt8.toNat = some length
  size : response.length = 1 + taken.length * length
  some : taken ≠ []
  room : response.length ≤ maxLength
  pairs : cut length response.tail =
    taken.map fun a => Bytes.ofUInt16 a.handle ++ a.value.take (length - 2)
  front : taken <+: found
  alike : ∀ a ∈ taken, min (min (a.value.length + 2) (maxLength - 1)) 255 = length
  /-- more of them are not alike, or there is no room for more -/
  longest : ∀ longer, longer <+: found →
    (∀ a ∈ longer, min (min (a.value.length + 2) (maxLength - 1)) 255 = length) →
    1 + longer.length * length ≤ maxLength → longer <+: taken

/-! ## What is answered -/

/-- The handle goes in whole, and a value has all that is taken of it. -/
theorem pairLength_inside (hm : 3 ≤ maxLength) (a : Attribute) :
    2 ≤ pairLength maxLength a ∧ pairLength maxLength a - 2 ≤ a.value.length := by
  unfold pairLength
  omega

theorem prefix_packed (hfront : longer <+: attributes)
    (halike : ∀ a ∈ longer, pairLength maxLength a = length)
    (hroom : used + longer.length * length ≤ maxLength) :
    longer <+: packed maxLength length used attributes := by
  induction attributes generalizing longer used with
  | nil =>
    rw [List.prefix_nil.mp hfront]
    exact List.nil_prefix
  | cons a rest ih =>
    cases longer with
    | nil => exact List.nil_prefix
    | cons b longer =>
      obtain ⟨rfl, hrest⟩ := List.cons_prefix_cons.mp hfront
      rw [List.length_cons, Nat.succ_mul] at hroom
      have hb := halike b List.mem_cons_self
      have hfits : ¬ (pairLength maxLength b ≠ length ∨ maxLength < used + length) := by
        rintro (hne | hlong)
        · exact hne hb
        · omega
      rw [packed, if_neg hfits]
      refine List.cons_prefix_cons.mpr ⟨rfl, ih hrest (fun c hc => ?_) (by omega)⟩
      exact halike c (List.mem_cons_of_mem b hc)

theorem packs_response {a : Attribute} {rest : List Attribute} (hm : 3 ≤ maxLength) :
    Packs maxLength (a :: rest) (packed maxLength (pairLength maxLength a) 1 (a :: rest))
      (pairLength maxLength a) (UInt8.ofNat (pairLength maxLength a) ::
        (packed maxLength (pairLength maxLength a) 1 (a :: rest)).flatMap
          (pair (pairLength maxLength a))) := by
  let length := pairLength maxLength a
  let taken := packed maxLength length 1 (a :: rest)
  have halike : ∀ b ∈ taken, pairLength maxLength b = length := fun b hb =>
    pairLength_of_mem_packed hb
  have hsize : (UInt8.ofNat length :: taken.flatMap (pair length)).length =
      1 + taken.length * length := by
    rw [List.length_cons, length_flatMap_pair hm halike, Nat.add_comm]
  have hpos : 0 < length := by
    have := (pairLength_inside hm a).1
    omega
  exact {
    first := ⟨a, rest, rfl, rfl⟩
    told := by
      rw [List.head?_cons, Option.map_some, toNat_pairLengthByte]
    size := hsize
    some := by
      rw [packed_cons hm a rest]
      exact List.cons_ne_nil _ _
    room := by
      rw [hsize]
      exact packed_room (by omega)
    pairs := by
      refine cut_flatMap hpos fun b hb => ?_
      have hlength := length_pair hm b
      rwa [halike b hb] at hlength
    front := packed_prefix ..
    alike := halike
    longest := fun longer hfront hlonger hroom => prefix_packed hfront hlonger hroom }

/-- However often an accepted table has been written and cleared, a read by type is refused for
its length if not one pair goes in, and else for want of an attribute if there is none. Else its
response is within the length, and tells of as many of the attributes as go in with pairs like the
first, no byte more. What is cut out of the table and out of a value is always there. -/
theorem answers_by_type {t : AttributeTable} (ht : ofList attributes = .ok t)
    (operations : List Operation) (first last type : UInt16) (maxLength : Nat) :
    let now := (t.run operations).1
    let found := asked first last type now.attributes
    (now.readByType first last type maxLength = .error .invalidAttrLength ↔ maxLength < 3) ∧
      (now.readByType first last type maxLength = .error .attributeNotFound ↔
        3 ≤ maxLength ∧ ∀ a ∈ now.attributes, a.readable = true → a.type = type →
          ¬ (first ≤ a.handle ∧ a.handle ≤ last)) ∧
      (3 ≤ maxLength → found ≠ [] → ∃ response taken length,
        now.readByType first last type maxLength = .ok response ∧
          Packs maxLength found taken length response) ∧
      Bisection.partitionPoint (·.handle < first) now.attributes ≤ now.attributes.length ∧
      (3 ≤ maxLength → ∀ a ∈ now.attributes, 2 ≤ pairLength maxLength a ∧
        pairLength maxLength a - 2 ≤ a.value.length) := by
  intro now found
  obtain ⟨rfl, hascending, -⟩ := ofList_eq_ok_iff.mp ht
  have hnow : Ascending now.attributes := ascending_run hascending operations
  have hfound : now.matching first last type = found := matching_eq_asked hnow first last type
  have hshort (hm : maxLength < 3) :
      now.readByType first last type maxLength = .error .invalidAttrLength := by
    rw [readByType, if_pos hm]
  have hnone (hm : 3 ≤ maxLength) (hnil : found = []) :
      now.readByType first last type maxLength = .error .attributeNotFound :=
    readByType_of_none hm (hfound.trans hnil)
  have hsome (hm : 3 ≤ maxLength) (hne : found ≠ []) : ∃ response taken length,
      now.readByType first last type maxLength = .ok response ∧
        Packs maxLength found taken length response := by
    obtain ⟨a, rest, hcons⟩ := List.exists_cons_of_ne_nil hne
    rw [hcons] at hfound ⊢
    exact ⟨_, _, _, readByType_of_cons hm hfound, packs_response hm⟩
  refine ⟨⟨fun h => ?_, hshort⟩, ⟨fun h => ?_, fun h => ?_⟩, hsome, ?_, fun hm a _ => ?_⟩
  · refine Nat.lt_of_not_le fun hm => ?_
    by_cases hnil : found = []
    · rw [hnone hm hnil] at h
      cases h
    · obtain ⟨response, _, _, hread, -⟩ := hsome hm hnil
      rw [hread] at h
      cases h
  · have hm : 3 ≤ maxLength := by
      refine Nat.le_of_not_lt fun hm => ?_
      rw [hshort hm] at h
      cases h
    refine ⟨hm, asked_eq_nil_iff.mp (Decidable.byContradiction fun hne => ?_)⟩
    obtain ⟨response, _, _, hread, -⟩ := hsome hm hne
    rw [hread] at h
    cases h
  · exact hnone h.1 (asked_eq_nil_iff.mpr h.2)
  · apply Bisection.partitionPoint_le_length
    refine hnow.imp fun {a b} hab hb => ?_
    rw [decide_eq_true_eq] at hb ⊢
    exact UInt16.lt_trans hab hb
  · exact pairLength_inside hm a

/-- Two values of four bytes go in. The value at 4 may not be read, and the one at 8 is shorter, so
that there the response ends. -/
theorem answers_by_type_before_a_shorter_value : ∃ t response taken length,
    ofList [.characteristicValue 3 true true 4, .characteristicValue 4 false true 4,
      .characteristicValue 5 true true 4, .characteristicValue 8 true false 4,
      .characteristicValue 9 true true 4] = .ok t ∧
    (t.run [.write 3 [1, 2, 3, 4], .write 5 [5, 6, 7, 8], .store 8 [9],
      .write 9 [1, 1, 1, 1]]).1.readByType 1 0xffff AttributeType.characteristicValue 20 =
        .ok response ∧
    response = [6, 3, 0, 1, 2, 3, 4, 5, 0, 5, 6, 7, 8] ∧
    Packs 20 [⟨3, 0, true, true, 4, [1, 2, 3, 4]⟩, ⟨5, 0, true, true, 4, [5, 6, 7, 8]⟩,
      ⟨8, 0, true, false, 4, [9]⟩, ⟨9, 0, true, true, 4, [1, 1, 1, 1]⟩] taken length response := by
  have ht := ofList_eq_ok_iff (t := ⟨[.characteristicValue 3 true true 4,
    .characteristicValue 4 false true 4, .characteristicValue 5 true true 4,
    .characteristicValue 8 true false 4, .characteristicValue 9 true true 4]⟩).mpr
      ⟨rfl, ascending_iff.mpr (by decide), by decide⟩
  obtain ⟨-, -, hsome, -⟩ := answers_by_type ht [.write 3 [1, 2, 3, 4], .write 5 [5, 6, 7, 8],
    .store 8 [9], .write 9 [1, 1, 1, 1]] 1 0xffff AttributeType.characteristicValue 20
  obtain ⟨response, taken, length, hread, hpacks⟩ := hsome (by decide) (by decide)
  have hbytes : response = [6, 3, 0, 1, 2, 3, 4, 5, 0, 5, 6, 7, 8] :=
    Except.ok.inj (hread.symm.trans rfl)
  exact ⟨_, response, taken, length, ht, hread, hbytes, hpacks⟩

end EdgeGateway.AttributeTable
