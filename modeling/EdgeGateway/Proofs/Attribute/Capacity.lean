import Mathlib.Data.List.Induction
import EdgeGateway.Proofs.Attribute.Listing
import EdgeGateway.Proofs.History

/-!
# EdgeGateway.Proofs.Attribute.Capacity

Which values outgrow the capacity of their attribute (`outgrown_iff`). What a client writes and
what the server stores is measured first. Turning the descriptors off measures nothing, and a
descriptor need not have room for what it is turned off with.

* `Attribute.after`         : what an operation makes of one attribute.
* `attributes_run`          : nothing else in the table matters to it.
* `Attribute.Cramped`       : a descriptor without room for its two bytes.
* `outgrown_afterAll_iff`   : such a one outgrows its capacity when it is turned off, until the
  server stores a value that fits. No other attribute ever does.
-/

namespace EdgeGateway

open AttributeTable

namespace Attribute

/-- What an operation makes of an attribute of the table. -/
def after (a : Attribute) : Operation → Attribute
  | .write handle value =>
    if a.handle = handle ∧ a.writable = true ∧
        (a.type = AttributeType.clientConfiguration → value.length = 2) ∧
        value.length ≤ a.capacity then { a with value } else a
  | .store handle value =>
    if a.handle = handle ∧ value.length ≤ a.capacity then { a with value } else a
  | .clearSubscriptions =>
    if a.type = AttributeType.clientConfiguration then { a with value := [0, 0] } else a
  | .get _ | .read _ _ _ | .subscription _ => a

def afterAll (a : Attribute) (operations : List Operation) : Attribute :=
  operations.foldl after a

def Outgrown (a : Attribute) : Prop := a.capacity < a.value.length

/-- A descriptor that has no room for its two bytes. -/
structure Cramped (a : Attribute) : Prop where
  descriptor : a.type = AttributeType.clientConfiguration
  short : a.capacity < 2

end Attribute

namespace AttributeTable

variable {attributes : List Attribute} {t : AttributeTable} {a : Attribute} {handle : UInt16}
  {value : Bytes}

/-! ## One attribute at a time -/

theorem Ascending.find?_of_mem (h : Ascending attributes) (ha : a ∈ attributes) :
    Listing.find? attributes a.handle = some a := by
  unfold Listing.find?
  induction attributes with
  | nil => cases ha
  | cons b rest ih =>
    obtain ⟨hfirst, hrest⟩ := List.pairwise_cons.mp h
    rcases List.mem_cons.mp ha with rfl | ha
    · rw [List.find?_cons_of_pos (by simp)]
    · have hne : b.handle ≠ a.handle := UInt16.ne_of_lt (hfirst a ha)
      rw [List.find?_cons_of_neg (by simpa using hne)]
      exact ih hrest ha

theorem writeFault?_of_mem (h : Ascending attributes) (ha : a ∈ attributes) :
    Listing.writeFault? attributes a.handle value = none ↔ a.writable = true ∧
      (a.type = AttributeType.clientConfiguration → value.length = 2) ∧
      value.length ≤ a.capacity := by
  unfold Listing.writeFault?
  rw [h.find?_of_mem ha]
  grind

theorem storeFault?_of_mem (h : Ascending attributes) (ha : a ∈ attributes) :
    Listing.storeFault? attributes a.handle value = none ↔ value.length ≤ a.capacity := by
  unfold Listing.storeFault?
  rw [h.find?_of_mem ha]
  grind

/-- A value is put where the fault would have been found, and nowhere else. -/
theorem putUnless_eq_map {fault : Option GattStatus} {admits : Attribute → Prop}
    [DecidablePred admits]
    (hfault : ∀ a ∈ attributes, a.handle = handle → (fault = none ↔ admits a)) :
    (Listing.putUnless attributes handle value fault).1 = attributes.map fun a =>
      if a.handle = handle ∧ admits a then { a with value } else a := by
  cases fault with
  | none =>
    refine List.map_congr_left fun a ha => ?_
    by_cases hh : a.handle = handle
    · rw [if_pos hh, if_pos ⟨hh, (hfault a ha hh).mp rfl⟩]
    · rw [if_neg hh, if_neg fun hyes => hh hyes.1]
  | some e =>
    have hsame : ∀ a ∈ attributes,
        (if a.handle = handle ∧ admits a then { a with value } else a) = a := by
      intro a ha
      refine if_neg ?_
      rintro ⟨hh, hadmits⟩
      cases (hfault a ha hh).mpr hadmits
    rw [List.map_congr_left hsame, List.map_id']
    rfl

theorem attributes_act (h : Ascending t.attributes) (operation : Operation) :
    (t.act operation).1.attributes = t.attributes.map (·.after operation) := by
  have hlisting := congrArg Prod.fst (act_eq_listing h operation)
  dsimp only at hlisting
  rw [hlisting]
  cases operation with
  | get | read | subscription => exact (List.map_id' t.attributes).symm
  | clearSubscriptions => rfl
  | write handle value =>
    refine putUnless_eq_map fun a ha hh => ?_
    rw [← hh]
    exact writeFault?_of_mem h ha
  | store handle value =>
    refine putUnless_eq_map fun a ha hh => ?_
    rw [← hh]
    exact storeFault?_of_mem h ha

theorem attributes_run (h : Ascending t.attributes) (operations : List Operation) :
    (t.run operations).1.attributes = t.attributes.map (·.afterAll operations) := by
  induction operations generalizing t with
  | nil => exact (List.map_id' t.attributes).symm
  | cons operation rest ih =>
    have hnext := ih (h.of_map_blank (map_blank_act t operation))
    rw [attributes_act h, List.map_map] at hnext
    exact hnext

/-- The descriptors have been turned off, and the server has stored nothing since that the
attribute has room for. -/
def LeftOff (handle : UInt16) (capacity : Nat) (operations : List Operation) : Prop :=
  Since (fun _ operation => operation = .clearSubscriptions)
    (fun _ operation => ∃ value, operation = .store handle value ∧ value.length ≤ capacity)
    operations

theorem leftOff_append_singleton {operations : List Operation} {operation : Operation}
    {capacity : Nat} : LeftOff handle capacity (operations ++ [operation]) ↔
      operation = .clearSubscriptions ∨ LeftOff handle capacity operations ∧
        ¬ ∃ value, operation = .store handle value ∧ value.length ≤ capacity :=
  Since.append_singleton

end AttributeTable

namespace Attribute

variable {a : Attribute}

/-! ## What becomes of one -/

@[simp] theorem blank_after (a : Attribute) (operation : Operation) :
    (a.after operation).blank = a.blank := by
  unfold after
  split
  · split <;> rfl
  · split <;> rfl
  · split <;> rfl
  all_goals rfl

theorem blank_afterAll (a : Attribute) (operations : List Operation) :
    (a.afterAll operations).blank = a.blank := by
  induction operations generalizing a with
  | nil => rfl
  | cons operation rest ih => exact (ih (a.after operation)).trans (blank_after a operation)

theorem afterAll_append_singleton (a : Attribute) (operations : List Operation)
    (operation : Operation) :
    a.afterAll (operations ++ [operation]) = (a.afterAll operations).after operation := by
  simp only [afterAll, List.foldl_append, List.foldl_cons, List.foldl_nil]

/-- All but a cramped descriptor keep what fits. -/
theorem not_outgrown_after (h : ¬ a.Cramped) (ha : ¬ a.Outgrown) (operation : Operation) :
    ¬ (a.after operation).Outgrown := by
  cases operation with
  | get | read | subscription => exact ha
  | write handle value | store handle value =>
    unfold after
    dsimp only
    split
    · rename_i hfits
      unfold Outgrown
      dsimp only
      omega
    · exact ha
  | clearSubscriptions =>
    unfold after
    dsimp only
    split
    · rename_i hd
      intro hlong
      exact h ⟨hd, hlong⟩
    · exact ha

/-- A client cannot write to a cramped descriptor, which asks for two bytes. -/
theorem outgrown_after_iff (h : a.Cramped) (operation : Operation) :
    (a.after operation).Outgrown ↔ operation = .clearSubscriptions ∨
      a.Outgrown ∧ ¬ ∃ value, operation = .store a.handle value ∧ value.length ≤ a.capacity := by
  have hd := h.descriptor
  have hshort := h.short
  cases operation with
  | get | read | subscription => simp [after]
  | write handle value =>
    have hno : ¬ (a.handle = handle ∧ a.writable = true ∧
        (a.type = AttributeType.clientConfiguration → value.length = 2) ∧
        value.length ≤ a.capacity) := by
      rintro ⟨-, -, htwo, hfits⟩
      have := htwo hd
      omega
    simp [after, hno]
  | store handle value =>
    have hput : (∃ v, Operation.store handle value = .store a.handle v ∧
        v.length ≤ a.capacity) ↔ a.handle = handle ∧ value.length ≤ a.capacity := by
      constructor
      · rintro ⟨v, heq, hfits⟩
        cases heq
        exact ⟨rfl, hfits⟩
      · rintro ⟨rfl, hfits⟩
        exact ⟨value, rfl, hfits⟩
    rw [hput]
    by_cases hfits : a.handle = handle ∧ value.length ≤ a.capacity
    · obtain ⟨rfl, hfits⟩ := hfits
      have hshorter : ¬ Outgrown { a with value } := Nat.not_lt.mpr hfits
      simp [after, hfits, hshorter]
    · simp [after, hfits]
  | clearSubscriptions => simp [after, hd, Outgrown, hshort]

/-- Only the value of an attribute changes. -/
theorem afterAll_eq (a : Attribute) (operations : List Operation) :
    (a.afterAll operations).handle = a.handle ∧ (a.afterAll operations).type = a.type ∧
      (a.afterAll operations).capacity = a.capacity := by
  have h := blank_afterAll a operations
  have hhandle := congrArg Attribute.handle h
  have htype := congrArg Attribute.type h
  have hcapacity := congrArg Attribute.capacity h
  exact ⟨hhandle, htype, hcapacity⟩

theorem cramped_afterAll (operations : List Operation) :
    (a.afterAll operations).Cramped ↔ a.Cramped := by
  obtain ⟨-, htype, hcapacity⟩ := a.afterAll_eq operations
  constructor
  · rintro ⟨hd, hshort⟩
    exact ⟨htype ▸ hd, hcapacity ▸ hshort⟩
  · rintro ⟨hd, hshort⟩
    exact ⟨htype ▸ hd, hcapacity ▸ hshort⟩

theorem outgrown_afterAll_iff (ha : ¬ a.Outgrown) (operations : List Operation) :
    (a.afterAll operations).Outgrown ↔
      a.Cramped ∧ LeftOff a.handle a.capacity operations := by
  induction operations using List.reverseRecOn with
  | nil => exact ⟨fun h => absurd h ha, fun h => absurd h.2 Since.nil⟩
  | append_singleton operations operation ih =>
    obtain ⟨hhandle, -, hcapacity⟩ := a.afterAll_eq operations
    rw [afterAll_append_singleton, leftOff_append_singleton]
    by_cases hc : a.Cramped
    · rw [outgrown_after_iff ((cramped_afterAll operations).mpr hc), ih, hhandle, hcapacity]
      simp only [hc, true_and]
    · have hkept : ¬ (a.afterAll operations).Outgrown := fun h => hc (ih.mp h).1
      have hnext := not_outgrown_after (mt (cramped_afterAll operations).mp hc) hkept operation
      exact ⟨fun h => absurd h hnext, fun h => absurd h.1 hc⟩

end Attribute

namespace AttributeTable

/-- Whatever is asked of a table, a value is longer than its attribute's capacity exactly if it is
that of a descriptor without room for two bytes, the descriptors have been turned off, and the
server has stored nothing that fits there since. So the values of a table always fit if and only
if every descriptor has room for two bytes. -/
theorem outgrown_iff {attributes : List Attribute} {t : AttributeTable}
    (ht : ofList attributes = .ok t) :
    ((∀ operations, ∀ a ∈ (t.run operations).1.attributes, a.value.length ≤ a.capacity) ↔
      ∀ a ∈ attributes, a.type = AttributeType.clientConfiguration → 2 ≤ a.capacity) ∧
    ∀ operations, ∀ a ∈ (t.run operations).1.attributes,
      (a.Outgrown ↔ a.Cramped ∧ LeftOff a.handle a.capacity operations) := by
  obtain ⟨rfl, hascending, hfit⟩ := ofList_eq_ok_iff.mp ht
  have houtgrown (operations : List Operation) (a : Attribute) (ha : a ∈ t.attributes) :
      (a.afterAll operations).Outgrown ↔ a.Cramped ∧ LeftOff a.handle a.capacity operations :=
    Attribute.outgrown_afterAll_iff (Nat.not_lt.mpr (hfit a ha)) operations
  simp only [attributes_run hascending, List.forall_mem_map]
  refine ⟨⟨fun hall a ha hd => ?_, fun hroom operations a ha => ?_⟩, fun operations a ha => ?_⟩
  · refine Nat.le_of_not_lt fun hshort => ?_
    have hcleared : LeftOff a.handle a.capacity ([] ++ [.clearSubscriptions]) :=
      leftOff_append_singleton.mpr (.inl rfl)
    exact Nat.not_lt.mpr (hall [.clearSubscriptions] a ha)
      ((houtgrown _ a ha).mpr ⟨⟨hd, hshort⟩, hcleared⟩)
  · refine Nat.le_of_not_lt fun hlong => ?_
    obtain ⟨⟨hd, hshort⟩, -⟩ := (houtgrown operations a ha).mp hlong
    have := hroom a ha hd
    omega
  · obtain ⟨hhandle, -, hcapacity⟩ := a.afterAll_eq operations
    rw [hhandle, hcapacity, Attribute.cramped_afterAll]
    exact houtgrown operations a ha

def oneByteDescriptor (value : Bytes) : Attribute :=
  ⟨4, AttributeType.clientConfiguration, true, true, 1, value⟩

/-- A descriptor of one byte is turned off with two. -/
theorem one_byte_descriptor_outgrown : ∃ t,
    ofList [oneByteDescriptor [0]] = .ok t ∧
    ∃ a ∈ (t.run [.clearSubscriptions]).1.attributes, a.capacity = 1 ∧ a.value = [0, 0] :=
  ⟨⟨[oneByteDescriptor [0]]⟩, rfl, oneByteDescriptor [0, 0], List.mem_singleton_self _, rfl, rfl⟩

/-- A client's write does not help there, a byte from the server does. -/
theorem one_byte_descriptor_put_right : ∃ t,
    ofList [oneByteDescriptor [0]] = .ok t ∧
    (∀ a ∈ (t.run [.clearSubscriptions, .write 4 [1, 0]]).1.attributes, a.Outgrown) ∧
    ∀ a ∈ (t.run [.clearSubscriptions, .write 4 [1, 0], .store 4 [1]]).1.attributes,
      ¬ a.Outgrown := by
  have hcleared : LeftOff 4 1 ([] ++ [.clearSubscriptions]) :=
    leftOff_append_singleton.mpr (.inl rfl)
  have hwritten : LeftOff 4 1 ([.clearSubscriptions] ++ [.write 4 [1, 0]]) :=
    leftOff_append_singleton.mpr (.inr ⟨hcleared, by simp⟩)
  have hstored : ¬ LeftOff 4 1 ([.clearSubscriptions, .write 4 [1, 0]] ++ [.store 4 [1]]) := by
    rw [leftOff_append_singleton]
    simp
  have ht : ofList [oneByteDescriptor [0]] = .ok ⟨[oneByteDescriptor [0]]⟩ := rfl
  refine ⟨⟨[oneByteDescriptor [0]]⟩, ht, fun a ha => ?_, fun a ha hlong => ?_⟩
  · obtain rfl : a = oneByteDescriptor [0, 0] := List.mem_singleton.mp ha
    exact ((outgrown_iff ht).2 _ _ ha).mpr ⟨⟨rfl, by decide⟩, hwritten⟩
  · obtain rfl : a = oneByteDescriptor [1] := List.mem_singleton.mp ha
    exact hstored (((outgrown_iff ht).2 _ _ ha).mp hlong).2

end AttributeTable

end EdgeGateway
