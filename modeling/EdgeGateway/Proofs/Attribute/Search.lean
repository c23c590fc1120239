import EdgeGateway.Attribute
import EdgeGateway.Proofs.Bisection

/-!
# EdgeGateway.Proofs.Attribute.Search

What the searches of a table find when its handles ascend.

* `Ascending`           : handles ascend.
* `seek_eq_find?`       : then the attribute found is the one that a search from the front finds.
* `replaceValue_eq_map` : and the value replaced is that of the attribute with the handle.
* `matching_eq_filter`  : and a range of handles leaves out no attribute.
* `ofList_eq_ok_iff`    : what makes a list of attributes a table.
-/

namespace EdgeGateway

/-- The attribute without its value. -/
def Attribute.blank (a : Attribute) : Attribute := { a with value := [] }

namespace AttributeTable

variable {handle : UInt16} {attributes others : List Attribute}

/-- The handles ascend, so that no two attributes share one. -/
def Ascending (attributes : List Attribute) : Prop :=
  attributes.Pairwise fun a b => a.handle < b.handle

theorem ascending_iff :
    Ascending attributes ↔ (attributes.map (·.handle)).Pairwise (· < ·) := by
  rw [List.pairwise_map]
  rfl

/-! ## Tables -/

/-- Neighbours are enough. -/
theorem ascending_cons_cons {a b : Attribute} {rest : List Attribute} :
    Ascending (a :: b :: rest) ↔ a.handle < b.handle ∧ Ascending (b :: rest) := by
  constructor
  · intro h
    obtain ⟨hfirst, hrest⟩ := List.pairwise_cons.mp h
    exact ⟨hfirst b List.mem_cons_self, hrest⟩
  · rintro ⟨hab, hrest⟩
    refine List.pairwise_cons.mpr ⟨fun c hc => ?_, hrest⟩
    rcases List.mem_cons.mp hc with rfl | hc
    · exact hab
    · exact UInt16.lt_trans hab ((List.pairwise_cons.mp hrest).1 c hc)

theorem orderFault?_eq_none_iff : orderFault? attributes = none ↔ Ascending attributes := by
  induction attributes with
  | nil => exact ⟨fun _ => List.Pairwise.nil, fun _ => rfl⟩
  | cons a rest ih =>
    cases rest with
    | nil => exact ⟨fun _ => List.pairwise_singleton _ a, fun _ => rfl⟩
    | cons b rest =>
      rw [ascending_cons_cons, ← ih, orderFault?]
      by_cases heq : a.handle = b.handle
      · rw [if_pos heq, heq]
        simp [UInt16.lt_irrefl]
      · rw [if_neg heq]
        by_cases hlt : b.handle < a.handle
        · rw [if_pos hlt]
          have hnot : ¬ a.handle < b.handle := UInt16.lt_asymm hlt
          simp [hnot]
        · rw [if_neg hlt]
          have hle := UInt16.not_lt.mp hlt
          have hab : a.handle < b.handle := UInt16.lt_of_le_of_ne hle heq
          simp [hab]

theorem ofList_eq_ok_iff {t : AttributeTable} : ofList attributes = .ok t ↔
    t.attributes = attributes ∧ Ascending attributes ∧
      ∀ a ∈ attributes, a.value.length ≤ a.capacity := by
  unfold ofList
  cases ho : orderFault? attributes with
  | some e =>
    refine ⟨nofun, fun h => ?_⟩
    rw [orderFault?_eq_none_iff.mpr h.2.1] at ho
    cases ho
  | none =>
    have hascending := orderFault?_eq_none_iff.mp ho
    dsimp only
    cases hf : attributes.find? fun a => decide (a.capacity < a.value.length) with
    | some a =>
      refine ⟨nofun, fun h => ?_⟩
      have hlong := List.find?_some hf
      have hfits := h.2.2 a (List.mem_of_find?_eq_some hf)
      rw [decide_eq_true_eq] at hlong
      omega
    | none =>
      have hfits : ∀ a ∈ attributes, a.value.length ≤ a.capacity := by
        intro a ha
        have := List.find?_eq_none.mp hf a ha
        simpa using this
      constructor
      · intro h
        cases h
        exact ⟨rfl, hascending, hfits⟩
      · rintro ⟨rfl, -, -⟩
        rfl

theorem attributes_of_ofList {t : AttributeTable} (h : ofList attributes = .ok t) :
    t.attributes = attributes :=
  (ofList_eq_ok_iff.mp h).1

/-! ## Places -/

/-- Only the handles are looked at. -/
theorem place?_congr (h : attributes.map (·.handle) = others.map (·.handle)) :
    place? handle attributes = place? handle others := by
  have key (list : List Attribute) : place? handle list =
      (Bisection.locate (compareOfLessAndEq · handle) (list.map (·.handle))).toOption := by
    rw [Bisection.locate_map]
    rfl
  rw [key, key, h]

theorem handle_of_place? {place : Nat} (h : place? handle attributes = some place) :
    ∃ a, attributes[place]? = some a ∧ a.handle = handle := by
  unfold place? at h
  cases hl : Bisection.locate (fun a => compareOfLessAndEq a.handle handle) attributes with
  | error p =>
    rw [hl] at h
    cases h
  | ok p =>
    rw [hl] at h
    cases h
    obtain ⟨a, ha, heq⟩ := Bisection.locate_ok hl
    refine ⟨a, ha, ?_⟩
    unfold compareOfLessAndEq at heq
    split at heq
    · cases heq
    · split at heq
      · assumption
      · cases heq

theorem inOrder_of_ascending (h : Ascending attributes) (handle : UInt16) :
    Bisection.InOrder (fun a => compareOfLessAndEq a.handle handle) attributes := by
  refine h.imp fun {a b} hab => ?_
  unfold compareOfLessAndEq
  grind

/-- A handle that is there is found. -/
theorem place?_of_mem (h : Ascending attributes) {a : Attribute} (ha : a ∈ attributes) :
    ∃ place, place? a.handle attributes = some place := by
  unfold place?
  cases hl : Bisection.locate (fun b => compareOfLessAndEq b.handle a.handle) attributes with
  | ok place => exact ⟨place, rfl⟩
  | error place =>
    have hne := Bisection.ne_eq_of_locate_error (inOrder_of_ascending h a.handle) hl ha
    simp [compareOfLessAndEq, UInt16.lt_irrefl] at hne

/-- What a new value leaves alone. -/
theorem map_replaceValue {β : Type} {f : Attribute → β}
    (hf : ∀ (a : Attribute) (value : Bytes), f { a with value } = f a) (value : Bytes) :
    (replaceValue handle value attributes).map f = attributes.map f := by
  unfold replaceValue
  split
  · rename_i place _
    apply List.ext_getElem?
    intro i
    rw [List.getElem?_map, List.getElem?_map, List.getElem?_modify]
    cases attributes[i]? with
    | none => rfl
    | some a =>
      by_cases hi : place = i
      · simp [hi, hf]
      · simp [hi]
  · rfl

theorem map_clearSubscriptions {β : Type} {f : Attribute → β}
    (hf : ∀ (a : Attribute) (value : Bytes), f { a with value } = f a) (t : AttributeTable) :
    t.clearSubscriptions.attributes.map f = t.attributes.map f := by
  rw [clearSubscriptions, List.map_map]
  apply List.map_congr_left
  intro a _
  rw [Function.comp_apply]
  split
  · exact hf a [0, 0]
  · rfl

/-! ## Attributes -/

/-- No two attributes share a handle. -/
theorem Ascending.eq_of_handle (h : Ascending attributes) {i j : Nat} {a b : Attribute}
    (ha : attributes[i]? = some a) (hb : attributes[j]? = some b) (hab : a.handle = b.handle) :
    i = j := by
  obtain ⟨hi, rfl⟩ := List.getElem?_eq_some_iff.mp ha
  obtain ⟨hj, rfl⟩ := List.getElem?_eq_some_iff.mp hb
  have key := List.pairwise_iff_getElem.mp h
  rcases Nat.lt_trichotomy i j with hlt | heq | hgt
  · have := key i j hi hj hlt
    rw [hab] at this
    exact absurd this (UInt16.lt_irrefl _)
  · exact heq
  · have := key j i hj hi hgt
    rw [hab] at this
    exact absurd this (UInt16.lt_irrefl _)

theorem seek_eq_find? (h : Ascending attributes) (handle : UInt16) :
    seek handle attributes = attributes.find? fun a => a.handle == handle := by
  unfold seek
  cases hp : place? handle attributes with
  | some place =>
    obtain ⟨a, ha, rfl⟩ := handle_of_place? hp
    obtain ⟨hlt, hget⟩ := List.getElem?_eq_some_iff.mp ha
    rw [Option.bind_some, ha, eq_comm, List.find?_eq_some_iff_getElem]
    refine ⟨beq_self_eq_true _, place, hlt, hget, fun j hj => ?_⟩
    have hj' : attributes[j]? = some attributes[j] := List.getElem?_eq_getElem (by omega)
    have hne : attributes[j].handle ≠ a.handle := by
      intro heq
      have := h.eq_of_handle hj' ha heq
      omega
    simpa using hne
  | none =>
    rw [Option.bind_none, eq_comm, List.find?_eq_none]
    intro a ha heq
    obtain rfl : a.handle = handle := by simpa using heq
    obtain ⟨place, hp'⟩ := place?_of_mem h ha
    rw [hp] at hp'
    cases hp'

theorem replaceValue_eq_map (h : Ascending attributes) (handle : UInt16) (value : Bytes) :
    replaceValue handle value attributes =
      attributes.map fun a => if a.handle = handle then { a with value } else a := by
  unfold replaceValue
  cases hp : place? handle attributes with
  | some place =>
    obtain ⟨a, ha, rfl⟩ := handle_of_place? hp
    apply List.ext_getElem?
    intro i
    rw [List.getElem?_modify, List.getElem?_map]
    cases hi : attributes[i]? with
    | none => rfl
    | some b =>
      by_cases heq : b.handle = a.handle
      · have hplace := h.eq_of_handle hi ha heq
        simp [hplace, heq]
      · have hplace : place ≠ i := by
          rintro rfl
          rw [ha] at hi
          cases hi
          exact heq rfl
        simp [hplace, heq]
  | none =>
    have hid : ∀ a ∈ attributes, (if a.handle = handle then { a with value } else a) = a := by
      intro a ha
      apply if_neg
      rintro rfl
      obtain ⟨place, hp'⟩ := place?_of_mem h ha
      rw [hp] at hp'
      cases hp'
    rw [List.map_congr_left hid, List.map_id']

/-! ## Writes -/

variable {t t' : AttributeTable} {value : Bytes}

theorem store_ok (h : t.store handle value = .ok t') :
    t' = ⟨replaceValue handle value t.attributes⟩ := by
  unfold store at h
  split at h
  · cases h
  · split at h <;> cases h
    rfl

theorem write_ok (h : t.write handle value = .ok t') :
    t' = ⟨replaceValue handle value t.attributes⟩ ∧
      ∃ a, t.get? handle = some a ∧ a.writable = true := by
  unfold write at h
  split at h
  · cases h
  · rename_i a ha
    split at h
    · cases h
    · rename_i hw
      split at h
      · cases h
      · split at h <;> cases h
        exact ⟨rfl, a, ha, by simpa using hw⟩

/-! ## Ranges -/

theorem takeWhile_eq_filter {test : Attribute → Bool}
    (h : attributes.Pairwise fun a b => test b = true → test a = true) :
    attributes.takeWhile test = attributes.filter test := by
  induction attributes with
  | nil => rfl
  | cons a rest ih =>
    obtain ⟨hfirst, hrest⟩ := List.pairwise_cons.mp h
    rw [List.takeWhile_cons, List.filter_cons]
    by_cases ha : test a = true
    · rw [if_pos ha, if_pos ha, ih hrest]
    · rw [if_neg ha, if_neg ha, eq_comm, List.filter_eq_nil_iff]
      intro b hb hpass
      exact ha (hfirst b hb hpass)

theorem matching_eq_filter {t : AttributeTable} (h : Ascending t.attributes)
    (first last type : UInt16) :
    t.matching first last type = t.attributes.filter fun a =>
      first ≤ a.handle && a.handle ≤ last && a.type == type && a.readable := by
  have hdrop : t.attributes.drop (Bisection.partitionPoint (·.handle < first) t.attributes) =
      t.attributes.filter fun a => !decide (a.handle < first) := by
    apply Bisection.drop_partitionPoint
    refine h.imp fun {a b} hab hb => ?_
    rw [decide_eq_true_eq] at hb ⊢
    exact UInt16.lt_trans hab hb
  have htake : (t.attributes.filter fun a => !decide (a.handle < first)).Pairwise fun a b =>
      decide (b.handle ≤ last) = true → decide (a.handle ≤ last) = true := by
    refine (h.filter _).imp fun {a b} hab hb => ?_
    rw [decide_eq_true_eq] at hb ⊢
    exact UInt16.le_trans (UInt16.le_of_lt hab) hb
  unfold matching
  dsimp only
  rw [hdrop, takeWhile_eq_filter htake, List.filter_filter, List.filter_filter]
  apply List.filter_congr
  intro a _
  grind [UInt16.not_lt]

theorem ascending_matching {t : AttributeTable} (h : Ascending t.attributes)
    {first last type : UInt16} : Ascending (t.matching first last type) := by
  rw [matching_eq_filter h]
  exact List.Pairwise.filter _ h

theorem mem_matching {t : AttributeTable} (h : Ascending t.attributes) {first last type : UInt16}
    {a : Attribute} : a ∈ t.matching first last type ↔ a ∈ t.attributes ∧ first ≤ a.handle ∧
      a.handle ≤ last ∧ a.type = type ∧ a.readable = true := by
  rw [matching_eq_filter h, List.mem_filter]
  simp only [Bool.and_eq_true, decide_eq_true_eq, beq_iff_eq, and_assoc]

end AttributeTable

end EdgeGateway
