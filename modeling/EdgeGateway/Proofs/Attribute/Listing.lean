import EdgeGateway.Proofs.Attribute.Search

/-!
# EdgeGateway.Proofs.Attribute.Listing

A table that halves its range for every search answers as a list does that is searched from its
front (`answers_as_listing`).

* `AttributeTable.Operation`, `AttributeTable.run` : what a table may be asked, in any number.
* `Listing.run`    : the same questions put to a list.
* `Changes`        : what an operation that has been answered may have changed.
* `act_eq_listing` : one operation; `run_eq_listing` : any number of them, by induction.
-/

namespace EdgeGateway

namespace AttributeTable

/-! ## Operations -/

inductive Operation where
  | get (handle : UInt16)
  | read (handle : UInt16) (offset maxLength : Nat)
  | write (handle : UInt16) (value : Bytes)
  | store (handle : UInt16) (value : Bytes)
  | subscription (handle : UInt16)
  | clearSubscriptions

inductive Answer where
  | attribute (found : Option Attribute)
  | bytes (r : Except GattStatus Bytes)
  | stored (r : Except GattStatus Unit)
  | bits (w : UInt16)
  | cleared

/-- A new table if there is one; a refusal leaves the table as it is. -/
def renewed (t : AttributeTable) : Except GattStatus AttributeTable → AttributeTable × Answer
  | .ok t' => (t', .stored (.ok ()))
  | .error e => (t, .stored (.error e))

def act (t : AttributeTable) : Operation → AttributeTable × Answer
  | .get handle => (t, .attribute (t.get? handle))
  | .read handle offset maxLength => (t, .bytes (t.read handle offset maxLength))
  | .write handle value => t.renewed (t.write handle value)
  | .store handle value => t.renewed (t.store handle value)
  | .subscription handle => (t, .bits (t.subscription handle))
  | .clearSubscriptions => (t.clearSubscriptions, .cleared)

/-- The table after operations, and their answers. -/
def run (t : AttributeTable) : List Operation → AttributeTable × List Answer
  | [] => (t, [])
  | operation :: rest =>
    let (t, answer) := t.act operation
    let (t, answers) := t.run rest
    (t, answer :: answers)

end AttributeTable

open AttributeTable

/-! ## A list searched from its front -/

namespace Listing

def find? (attributes : List Attribute) (handle : UInt16) : Option Attribute :=
  attributes.find? fun a => a.handle == handle

/-- Another value for the handle, and for nothing else. -/
def put (attributes : List Attribute) (handle : UInt16) (value : Bytes) : List Attribute :=
  attributes.map fun a => if a.handle = handle then { a with value } else a

/-- Every descriptor is turned off, and nothing else is touched. -/
def clear (attributes : List Attribute) : List Attribute :=
  attributes.map fun a =>
    if a.type = AttributeType.clientConfiguration then { a with value := [0, 0] } else a

def read (attributes : List Attribute) (handle : UInt16) (offset maxLength : Nat) :
    Except GattStatus Bytes :=
  match find? attributes handle with
  | none => .error .invalidHandle
  | some a =>
    if a.readable = false then .error .readNotPermitted
    else if offset ≤ a.value.length then .ok (a.value.extract offset (offset + maxLength))
    else .error .invalidOffset

/-- Why a client's write is refused. -/
def writeFault? (attributes : List Attribute) (handle : UInt16) (value : Bytes) :
    Option GattStatus :=
  match find? attributes handle with
  | none => some .invalidHandle
  | some a =>
    if a.writable = false then some .writeNotPermitted
    else if a.type = AttributeType.clientConfiguration ∧ value.length ≠ 2 ∨
        a.capacity < value.length then some .invalidAttrLength
    else none

/-- Why the server's own write is refused. -/
def storeFault? (attributes : List Attribute) (handle : UInt16) (value : Bytes) :
    Option GattStatus :=
  match find? attributes handle with
  | none => some .invalidHandle
  | some a => if a.capacity < value.length then some .invalidAttrLength else none

def subscription (attributes : List Attribute) (handle : UInt16) : UInt16 :=
  match find? attributes handle with
  | none => 0
  | some a =>
    match a.value with
    | low :: high :: _ =>
      if a.type = AttributeType.clientConfiguration then uint16Of low high else 0
    | _ => 0

/-- A value is put unless there is a fault. -/
def putUnless (attributes : List Attribute) (handle : UInt16) (value : Bytes) :
    Option GattStatus → List Attribute × Answer
  | none => (put attributes handle value, .stored (.ok ()))
  | some e => (attributes, .stored (.error e))

def act (attributes : List Attribute) : Operation → List Attribute × Answer
  | .get handle => (attributes, .attribute (find? attributes handle))
  | .read handle offset maxLength => (attributes, .bytes (read attributes handle offset maxLength))
  | .write handle value =>
    putUnless attributes handle value (writeFault? attributes handle value)
  | .store handle value =>
    putUnless attributes handle value (storeFault? attributes handle value)
  | .subscription handle => (attributes, .bits (subscription attributes handle))
  | .clearSubscriptions => (clear attributes, .cleared)

def run (attributes : List Attribute) : List Operation → List Attribute × List Answer
  | [] => (attributes, [])
  | operation :: rest =>
    let (attributes, answer) := act attributes operation
    let (attributes, answers) := run attributes rest
    (attributes, answer :: answers)

end Listing

namespace AttributeTable

variable {t : AttributeTable} {handle : UInt16} {value : Bytes} {offset maxLength : Nat}

/-! ## One operation -/

theorem get?_eq_listing (h : Ascending t.attributes) :
    t.get? handle = Listing.find? t.attributes handle :=
  seek_eq_find? h handle

theorem read_eq_listing (h : Ascending t.attributes) :
    t.read handle offset maxLength = Listing.read t.attributes handle offset maxLength := by
  unfold read Listing.read
  rw [get?_eq_listing h]
  cases Listing.find? t.attributes handle with
  | none => rfl
  | some a =>
    dsimp only
    by_cases hr : a.readable = true
    · by_cases hlt : a.value.length < offset
      · simp [hr, hlt, Nat.not_le.mpr hlt]
      · simp [hr, hlt, Nat.le_of_not_lt hlt, List.extract_eq_take_drop]
    · simp [hr]

theorem subscription_eq_listing (h : Ascending t.attributes) :
    t.subscription handle = Listing.subscription t.attributes handle := by
  unfold subscription Listing.subscription
  rw [get?_eq_listing h]
  cases Listing.find? t.attributes handle with
  | none => rfl
  | some a =>
    dsimp only [Attribute.isClientConfiguration]
    rcases a.value with _ | ⟨low, _ | ⟨high, rest⟩⟩
    · exact ite_self 0
    · exact ite_self 0
    · simp only [beq_iff_eq]

theorem write_eq_listing (h : Ascending t.attributes) :
    t.write handle value = match Listing.writeFault? t.attributes handle value with
      | none => .ok ⟨Listing.put t.attributes handle value⟩
      | some e => .error e := by
  unfold write Listing.writeFault?
  rw [get?_eq_listing h, replaceValue_eq_map h]
  cases Listing.find? t.attributes handle with
  | none => rfl
  | some a =>
    dsimp only [Attribute.isClientConfiguration]
    by_cases hw : a.writable = true
    · by_cases htype : a.type = AttributeType.clientConfiguration ∧ value.length ≠ 2
      · simp [hw, htype]
      · by_cases hlt : a.capacity < value.length
        · simp [hw, hlt]
        · have hfits : ¬ (a.type = AttributeType.clientConfiguration ∧ value.length ≠ 2 ∨
              a.capacity < value.length) := not_or.mpr ⟨htype, hlt⟩
          rw [if_neg (by simp [hw]), if_neg hfits]
          simp [hw, hlt, htype, Listing.put]
    · simp [hw]

theorem store_eq_listing (h : Ascending t.attributes) :
    t.store handle value = match Listing.storeFault? t.attributes handle value with
      | none => .ok ⟨Listing.put t.attributes handle value⟩
      | some e => .error e := by
  unfold store Listing.storeFault?
  rw [get?_eq_listing h, replaceValue_eq_map h]
  cases Listing.find? t.attributes handle with
  | none => rfl
  | some a =>
    by_cases hlt : a.capacity < value.length
    · simp [hlt]
    · simp [hlt, Listing.put]

theorem clearSubscriptions_eq_listing :
    t.clearSubscriptions.attributes = Listing.clear t.attributes := by
  unfold clearSubscriptions Listing.clear
  simp only [Attribute.isClientConfiguration, beq_iff_eq]

theorem act_eq_listing (h : Ascending t.attributes) (operation : Operation) :
    ((t.act operation).1.attributes, (t.act operation).2) =
      Listing.act t.attributes operation := by
  cases operation with
  | get handle => rw [act, Listing.act, get?_eq_listing h]
  | read handle offset maxLength => rw [act, Listing.act, read_eq_listing h]
  | subscription handle => rw [act, Listing.act, subscription_eq_listing h]
  | clearSubscriptions => rw [act, Listing.act, clearSubscriptions_eq_listing]
  | write handle value =>
    rw [act, Listing.act, write_eq_listing h]
    cases Listing.writeFault? t.attributes handle value <;> rfl
  | store handle value =>
    rw [act, Listing.act, store_eq_listing h]
    cases Listing.storeFault? t.attributes handle value <;> rfl

/-! ## What an operation leaves alone -/

/-- An operation that has been answered has changed the value it stored, or the values of the
descriptors. A refused one and one that only reads have changed nothing. -/
def Changes (operation : Operation) (answer : Answer) (before after : List Attribute) : Prop :=
  match operation, answer with
  | .write handle value, .stored (.ok ()) =>
    after = before.map fun a => if a.handle = handle then { a with value } else a
  | .store handle value, .stored (.ok ()) =>
    after = before.map fun a => if a.handle = handle then { a with value } else a
  | .clearSubscriptions, _ =>
    after = before.map fun a =>
      if a.type = AttributeType.clientConfiguration then { a with value := [0, 0] } else a
  | _, _ => after = before

theorem changes_act (h : Ascending t.attributes) (operation : Operation) :
    Changes operation (t.act operation).2 t.attributes (t.act operation).1.attributes := by
  obtain ⟨hattributes, hanswer⟩ := Prod.ext_iff.mp (act_eq_listing h operation)
  dsimp only at hattributes hanswer
  rw [hattributes, hanswer]
  cases operation with
  | get | read | subscription | clearSubscriptions => rfl
  | write handle value =>
    rw [Listing.act]
    cases Listing.writeFault? t.attributes handle value <;> rfl
  | store handle value =>
    rw [Listing.act]
    cases Listing.storeFault? t.attributes handle value <;> rfl

theorem map_blank_act (t : AttributeTable) (operation : Operation) :
    (t.act operation).1.attributes.map Attribute.blank = t.attributes.map Attribute.blank := by
  cases operation with
  | get | read | subscription => rfl
  | clearSubscriptions => exact map_clearSubscriptions (fun _ _ => rfl) t
  | write handle value =>
    rw [act]
    cases hw : t.write handle value with
    | error e => rfl
    | ok t' =>
      rw [(write_ok hw).1]
      exact map_replaceValue (fun _ _ => rfl) value
  | store handle value =>
    rw [act]
    cases hs : t.store handle value with
    | error e => rfl
    | ok t' =>
      rw [store_ok hs]
      exact map_replaceValue (fun _ _ => rfl) value

/-- What holds of an attribute whatever its value holds of the handles, so they ascend still. -/
theorem Ascending.of_map_blank {attributes others : List Attribute} (h : Ascending attributes)
    (hb : others.map Attribute.blank = attributes.map Attribute.blank) : Ascending others := by
  have hhandles (list : List Attribute) :
      list.map (·.handle) = (list.map Attribute.blank).map (·.handle) := by
    rw [List.map_map]
    rfl
  rw [ascending_iff, hhandles] at h ⊢
  rwa [hb]

/-! ## Any number of operations -/

theorem map_blank_run (t : AttributeTable) (operations : List Operation) :
    (t.run operations).1.attributes.map Attribute.blank = t.attributes.map Attribute.blank := by
  induction operations generalizing t with
  | nil => rfl
  | cons operation rest ih => exact (ih (t.act operation).1).trans (map_blank_act t operation)

theorem ascending_run (h : Ascending t.attributes) (operations : List Operation) :
    Ascending (t.run operations).1.attributes :=
  h.of_map_blank (map_blank_run t operations)

theorem run_eq_listing (h : Ascending t.attributes) (operations : List Operation) :
    ((t.run operations).1.attributes, (t.run operations).2) =
      Listing.run t.attributes operations := by
  induction operations generalizing t with
  | nil => rfl
  | cons operation rest ih =>
    have hnext := ih (h.of_map_blank (map_blank_act t operation))
    rw [Listing.run, ← act_eq_listing h operation]
    dsimp only
    rw [← hnext]
    rfl

/-- A list is a table exactly if its handles ascend and its values fit. Whatever a table is asked,
and in whatever order, it answers and becomes what the list does that is searched from its front.
On the way no operation changes more than what it is there to change, and the attributes are those
of the list but for their values. -/
theorem answers_as_listing (attributes : List Attribute) :
    ((∃ t, ofList attributes = .ok t) ↔
      (attributes.map (·.handle)).Pairwise (· < ·) ∧
        ∀ a ∈ attributes, a.value.length ≤ a.capacity) ∧
    ∀ t, ofList attributes = .ok t → ∀ operations : List Operation,
      ((t.run operations).1.attributes, (t.run operations).2) =
        Listing.run attributes operations ∧
      (t.run operations).1.attributes.map Attribute.blank = attributes.map Attribute.blank ∧
      ∀ operation, Changes operation ((t.run operations).1.act operation).2
        (t.run operations).1.attributes ((t.run operations).1.act operation).1.attributes := by
  constructor
  · rw [← ascending_iff]
    constructor
    · rintro ⟨t, ht⟩
      exact (ofList_eq_ok_iff.mp ht).2
    · intro h
      exact ⟨⟨attributes⟩, ofList_eq_ok_iff.mpr ⟨rfl, h⟩⟩
  · intro t ht operations
    obtain ⟨rfl, hascending, -⟩ := ofList_eq_ok_iff.mp ht
    exact ⟨run_eq_listing hascending operations, map_blank_run t operations,
      changes_act (ascending_run hascending operations)⟩

/-- A value, its descriptor, and what is asked of them: three writes are refused. -/
theorem answers_as_listing_around_refusals : ∃ t,
    ofList [.fixed 1 AttributeType.primaryService [0, 0x18], .characteristicValue 3 true true 2,
      .clientConfiguration 4] = .ok t ∧
    (t.run [.write 3 [7, 8], .write 1 [9], .write 3 [1, 2, 3], .write 4 [1], .write 4 [1, 0],
      .subscription 4, .store 5 [], .clearSubscriptions, .subscription 4, .read 3 1 9]).2 =
      [.stored (.ok ()), .stored (.error .writeNotPermitted),
        .stored (.error .invalidAttrLength), .stored (.error .invalidAttrLength),
        .stored (.ok ()), .bits 1, .stored (.error .invalidHandle), .cleared, .bits 0,
        .bytes (.ok [8])] := by
  have hlisting := answers_as_listing [.fixed 1 AttributeType.primaryService [0, 0x18],
    .characteristicValue 3 true true 2, .clientConfiguration 4]
  obtain ⟨t, ht⟩ := hlisting.1.mpr (by decide)
  obtain ⟨hrun, -⟩ := hlisting.2 t ht [.write 3 [7, 8], .write 1 [9], .write 3 [1, 2, 3],
    .write 4 [1], .write 4 [1, 0], .subscription 4, .store 5 [], .clearSubscriptions,
    .subscription 4, .read 3 1 9]
  exact ⟨t, ht, congrArg Prod.snd hrun⟩

end AttributeTable

end EdgeGateway
