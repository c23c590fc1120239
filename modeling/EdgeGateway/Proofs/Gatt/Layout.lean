import EdgeGateway.Proofs.Gatt.Published

/-!
# EdgeGateway.Proofs.Gatt.Layout

What of the attribute server stays as it was laid out.

* `Gatt.Laid`      : the attributes are those of the layout but for their values, and the
  transmission unit is not below the default.
* `Laid.get?`      : so an attribute's capacity and permissions are read off the layout.
* `canNotify_with` : whether a client is told of a value depends on its descriptor alone.
-/

namespace EdgeGateway

namespace AttributeTable

/-- Any value may be stored in an attribute that has room for it. -/
theorem store_of_room {t : AttributeTable} {handle : UInt16} {value : Bytes} {a : Attribute}
    (ha : t.get? handle = some a) (hroom : value.length ≤ a.capacity) :
    t.store handle value = .ok ⟨replaceValue handle value t.attributes⟩ := by
  rw [store, ha]
  exact if_neg (Nat.not_lt.mpr hroom)

theorem write_of_room {t : AttributeTable} {handle : UInt16} {value : Bytes} {a : Attribute}
    (ha : t.get? handle = some a) (hw : a.writable = true)
    (hd : a.isClientConfiguration = false) (hroom : value.length ≤ a.capacity) :
    t.write handle value = .ok ⟨replaceValue handle value t.attributes⟩ := by
  rw [write, ha]
  simp [hw, hd, hroom]

end AttributeTable

namespace Gatt

open AttributeTable

structure Laid (g : Gatt) : Prop where
  table : g.table.attributes.map Attribute.blank =
    (layout g.transreceiveCapacity).map Attribute.blank
  localMtu : defaultMtu ≤ g.localMtu
  mtu : defaultMtu ≤ g.connection.mtu

theorem laid_of_ofCapacity {transreceiveCapacity localMtu : Nat} {g : Gatt}
    (h : ofCapacity transreceiveCapacity localMtu = .ok g) : g.Laid := by
  rw [ofCapacity_ok h]
  exact ⟨rfl, Nat.le_max_right .., Nat.le_refl _⟩

namespace Laid

variable {g : Gatt}

theorem replaced (h : g.Laid) (handle : UInt16) (value : Bytes) :
    Laid { g with table := ⟨replaceValue handle value g.table.attributes⟩ } where
  table := (map_replaceValue (fun _ _ => rfl) value).trans h.table
  localMtu := h.localMtu
  mtu := h.mtu

theorem push (h : g.Laid) (handle : UInt16) (value : Bytes) : (g.push handle value).1.Laid := by
  cases ht : g.table.store handle value with
  | error e =>
    rw [Gatt.push, ht]
    exact h
  | ok table =>
    rw [Shows.push_of_store ht, store_ok ht]
    exact h.replaced handle value

theorem handleWrite (h : g.Laid) (handle : UInt16) (value : Bytes) :
    (g.handleWrite handle value).1.Laid := by
  unfold Gatt.handleWrite
  split
  · exact h
  · rename_i table ht
    have hlaid := h.replaced handle value
    rw [← (write_ok ht).1] at hlaid
    (repeat' split) <;> exact hlaid

theorem handle (h : g.Laid) (e : GattEvent) : (g.handle e).1.Laid := by
  cases e with
  | connected connection peer => exact ⟨h.table, h.localMtu, Nat.le_refl _⟩
  | disconnected connection =>
    refine ⟨?_, h.localMtu, Nat.le_refl _⟩
    exact (map_clearSubscriptions (fun _ _ => rfl) g.table).trans h.table
  | buffer => exact h
  | request r =>
    cases r with
    | write handle value => exact h.handleWrite handle value
    | mtuExchange remote =>
      refine ⟨h.table, h.localMtu, ?_⟩
      exact Nat.le_min.mpr ⟨Nat.le_max_right .., h.localMtu⟩
    | read | readByType | confirmation => exact h

/-- An attribute is the one of the layout, with another value. -/
theorem get? (h : g.Laid) {handle : UInt16} {a : Attribute}
    (ha : (layout g.transreceiveCapacity).find? (fun a => a.handle == handle) = some a) :
    ∃ value, g.table.get? handle = some { a with value } := by
  have hblank : (seek handle g.table.attributes).map Attribute.blank = some a.blank := by
    have hseek (attributes : List Attribute) : seek handle (attributes.map Attribute.blank) =
        (seek handle attributes).map Attribute.blank :=
      seek_map (f := Attribute.blank) (fun _ => rfl) attributes
    rw [← hseek, h.table, hseek, seek_eq_find? (ascending_layout _), ha]
    rfl
  obtain ⟨b, hb, hab⟩ := Option.map_eq_some_iff.mp hblank
  refine ⟨b.value, ?_⟩
  rw [AttributeTable.get?, hb]
  obtain ⟨handle', type, readable, writable, capacity, value⟩ := b
  simp only [Attribute.blank, Attribute.mk.injEq] at hab
  simp [hab]

/-- What the bridge's characteristics have room for. -/
theorem get?_port (h : g.Laid) : ∃ value, g.table.get? Handle.portValue =
    some { Attribute.characteristicValue Handle.portValue false true 33 with value } :=
  h.get? rfl

theorem get?_transreceive (h : g.Laid) : ∃ value, g.table.get? Handle.transreceiveValue =
    some { Attribute.characteristicValue Handle.transreceiveValue false true
      g.transreceiveCapacity with value } :=
  h.get? rfl

theorem get?_ack (h : g.Laid) : ∃ value, g.table.get? Handle.ackValue =
    some { Attribute.characteristicValue Handle.ackValue true false 1 with value } :=
  h.get? rfl

theorem push_transreceive (h : g.Laid) {value : Bytes}
    (hroom : value.length ≤ g.transreceiveCapacity) :
    (g.push Handle.transreceiveValue value).1 =
      { g with table := ⟨replaceValue Handle.transreceiveValue value g.table.attributes⟩ } := by
  obtain ⟨old, ha⟩ := h.get?_transreceive
  exact Shows.push_of_store (store_of_room ha hroom)

theorem push_ack (h : g.Laid) (b : UInt8) :
    (g.push Handle.ackValue [b]).1 =
      { g with table := ⟨replaceValue Handle.ackValue [b] g.table.attributes⟩ } := by
  obtain ⟨old, ha⟩ := h.get?_ack
  exact Shows.push_of_store (store_of_room ha (Nat.le_refl 1))

/-- A chunk that a client writes goes to the bridge if the characteristic has room for it. -/
theorem write_transreceive (h : g.Laid) {value : Bytes}
    (hroom : value.length ≤ g.transreceiveCapacity) :
    g.handle (.request (.write Handle.transreceiveValue value)) =
      ({ g with table := ⟨replaceValue Handle.transreceiveValue value g.table.attributes⟩ },
        .forward (.transreceive value) .written) := by
  obtain ⟨old, ha⟩ := h.get?_transreceive
  have hwrite := write_of_room ha rfl rfl hroom
  simp only [Gatt.handle, handleRequest, Gatt.handleWrite, hwrite]
  rfl

/-- So does the name of a port. -/
theorem write_port (h : g.Laid) {value : Bytes} (hroom : value.length ≤ 33) :
    g.handle (.request (.write Handle.portValue value)) =
      ({ g with table := ⟨replaceValue Handle.portValue value g.table.attributes⟩ },
        .forward (.openPort value) .written) := by
  obtain ⟨old, ha⟩ := h.get?_port
  have hwrite := write_of_room ha rfl rfl hroom
  simp only [Gatt.handle, handleRequest, Gatt.handleWrite, hwrite]
  rfl

/-- The data a response chunk may carry: some, no more than its length byte tells, and no more
than the characteristic has room for. -/
theorem responseCapacity? (h : g.Laid)
    (hroom : Chunk.responseHeader + Chunk.reservedTail < g.transreceiveCapacity) :
    ∃ capacity, g.responseCapacity? = some capacity ∧ 0 < capacity ∧ capacity ≤ Chunk.maxData ∧
      Chunk.responseHeader + capacity ≤ g.transreceiveCapacity := by
  have hmtu := h.mtu
  simp only [defaultMtu, Chunk.responseHeader, Chunk.reservedTail] at hmtu hroom ⊢
  have hpos : min g.connection.mtu g.transreceiveCapacity - (2 + 3) ≠ 0 := by omega
  refine ⟨min (min g.connection.mtu g.transreceiveCapacity - (2 + 3)) Chunk.maxData, ?_, ?_, ?_, ?_⟩
  · exact if_neg hpos
  · simp only [Chunk.maxData]
    omega
  · exact Nat.min_le_right ..
  · omega

end Laid

/-! ## Who is told -/

theorem isSubscribed_replaced (g : Gatt) {handle other : UInt16} (value : Bytes)
    (hne : other + 1 ≠ handle) :
    isSubscribed { g with table := ⟨replaceValue handle value g.table.attributes⟩ } other =
      g.isSubscribed other := by
  simp only [isSubscribed, subscription, get?_replaceValue, if_neg hne]

/-- Another value's descriptor is not touched. -/
theorem canNotify_replaced (g : Gatt) {handle other : UInt16} (value : Bytes)
    (hne : other + 1 ≠ handle) :
    canNotify { g with table := ⟨replaceValue handle value g.table.attributes⟩ } other =
      g.canNotify other :=
  congrArg (g.connectionId?.isSome && ·) (g.isSubscribed_replaced value hne)

end Gatt

end EdgeGateway
