import EdgeGateway.Gatt
import EdgeGateway.Proofs.Attribute.Search

/-!
# EdgeGateway.Proofs.Gatt.Published

Who changes the value of the session characteristic.

* `AttributeTable.get?_replaceValue`, `AttributeTable.get?_clearSubscriptions` : an attribute after
  another one, or all descriptors, have got a new value.
* `Gatt.Shows` : the session characteristic with its value. The server shows the value it has last
  stored there (`Shows.push_session`), whatever else it stores (`Shows.push_other`) and whatever
  clients do (`Shows.handle`).
-/

namespace EdgeGateway

namespace AttributeTable

variable {t t' : AttributeTable} {handle : UInt16} {value : Bytes}

theorem seek_replaceValue (handle sought : UInt16) (value : Bytes) (attributes : List Attribute) :
    seek sought (replaceValue handle value attributes) =
      if sought = handle then (seek handle attributes).map fun a => { a with value }
      else seek sought attributes := by
  have hplace : place? sought (replaceValue handle value attributes) = place? sought attributes :=
    place?_congr (map_replaceValue (fun _ _ => rfl) value)
  unfold seek
  rw [hplace, replaceValue]
  by_cases hs : sought = handle
  · subst hs
    rw [if_pos rfl]
    cases hp : place? sought attributes with
    | none => rfl
    | some place => simp [List.getElem?_modify]
  · rw [if_neg hs]
    cases hp : place? handle attributes with
    | none => rfl
    | some place =>
      cases hp' : place? sought attributes with
      | none => rfl
      | some place' =>
        have hne : place ≠ place' := by
          rintro rfl
          obtain ⟨a, ha, rfl⟩ := handle_of_place? hp
          obtain ⟨b, hb, rfl⟩ := handle_of_place? hp'
          rw [ha] at hb
          cases hb
          exact hs rfl
        simp [List.getElem?_modify, hne]

theorem get?_replaceValue (t : AttributeTable) (handle sought : UInt16) (value : Bytes) :
    get? ⟨replaceValue handle value t.attributes⟩ sought =
      if sought = handle then (t.get? handle).map fun a => { a with value }
      else t.get? sought :=
  seek_replaceValue handle sought value t.attributes

theorem seek_map {f : Attribute → Attribute} (hf : ∀ a, (f a).handle = a.handle)
    (attributes : List Attribute) :
    seek handle (attributes.map f) = (seek handle attributes).map f := by
  have hplace : place? handle (attributes.map f) = place? handle attributes := by
    apply place?_congr
    rw [List.map_map]
    exact List.map_congr_left fun a _ => hf a
  unfold seek
  rw [hplace]
  cases place? handle attributes with
  | none => rfl
  | some place => rw [Option.bind_some, Option.bind_some, List.getElem?_map]

theorem get?_clearSubscriptions (t : AttributeTable) (handle : UInt16) :
    t.clearSubscriptions.get? handle = (t.get? handle).map fun a =>
      if a.isClientConfiguration then { a with value := [0, 0] } else a := by
  refine seek_map (fun a => ?_) t.attributes
  split <;> rfl

end AttributeTable

namespace Gatt

open AttributeTable

variable {g : Gatt} {value : Bytes}

theorem ascending_layout (transreceiveCapacity : Nat) :
    Ascending (layout transreceiveCapacity) := by
  have hhandles : (layout transreceiveCapacity).map (·.handle) = (layout 0).map (·.handle) := rfl
  rw [ascending_iff, hhandles]
  decide

/-- The session characteristic as it was laid out, with the value. -/
def Shows (g : Gatt) (value : Bytes) : Prop :=
  g.table.get? Handle.sessionValue =
    some { Attribute.characteristicValue Handle.sessionValue true false 4 with value }

theorem ofCapacity_ok {transreceiveCapacity localMtu : Nat}
    (h : ofCapacity transreceiveCapacity localMtu = .ok g) :
    g = { table := ⟨layout transreceiveCapacity⟩, transreceiveCapacity,
          localMtu := max localMtu defaultMtu } := by
  unfold ofCapacity at h
  cases ht : ofList (layout transreceiveCapacity) with
  | error e =>
    rw [ht] at h
    cases h
  | ok table =>
    rw [ht] at h
    cases h
    rw [← attributes_of_ofList ht]

theorem shows_of_ofCapacity {transreceiveCapacity localMtu : Nat}
    (h : ofCapacity transreceiveCapacity localMtu = .ok g) : g.Shows [] := by
  rw [ofCapacity_ok h, Shows, get?, seek_eq_find? (ascending_layout _)]
  rfl

namespace Shows

theorem value?_eq (h : g.Shows value) : g.value? Handle.sessionValue = some value := by
  rw [Gatt.value?, h]
  rfl

theorem push_of_store {table : AttributeTable} {handle : UInt16}
    (h : g.table.store handle value = .ok table) : (g.push handle value).1 = { g with table } := by
  unfold push
  rw [h]
  dsimp only
  split
  · rfl
  · split <;> rfl

theorem push_session (h : g.Shows value) {new : Bytes} (hn : new.length ≤ 4) :
    (g.push Handle.sessionValue new).1.Shows new := by
  have hroom : ¬ 4 < new.length := Nat.not_lt.mpr hn
  have hstore : g.table.store Handle.sessionValue new =
      .ok ⟨replaceValue Handle.sessionValue new g.table.attributes⟩ := by
    rw [store, h]
    exact if_neg hroom
  rw [push_of_store hstore, Shows, get?_replaceValue, if_pos rfl, h]
  rfl

theorem push_other (h : g.Shows value) {handle : UInt16} (hne : handle ≠ Handle.sessionValue)
    (new : Bytes) : (g.push handle new).1.Shows value := by
  cases ht : g.table.store handle new with
  | error e =>
    rw [push, ht]
    exact h
  | ok table =>
    rw [push_of_store ht, Shows, store_ok ht, get?_replaceValue, if_neg fun hs => hne hs.symm]
    exact h

theorem handleWrite (h : g.Shows value) (handle : UInt16) (new : Bytes) :
    (g.handleWrite handle new).1.Shows value := by
  unfold Gatt.handleWrite
  split
  · exact h
  · rename_i table ht
    obtain ⟨rfl, a, ha, hw⟩ := write_ok ht
    -- a client may not write the session characteristic itself
    have hne : ¬ Handle.sessionValue = handle := by
      rintro rfl
      cases ha.symm.trans h
      cases hw
    have hshown : Shows { g with table := ⟨replaceValue handle new g.table.attributes⟩ } value := by
      rw [Shows, get?_replaceValue, if_neg hne]
      exact h
    (repeat' split) <;> exact hshown

theorem handle (h : g.Shows value) (e : GattEvent) : (g.handle e).1.Shows value := by
  cases e with
  | connected connection peer => exact h
  | disconnected connection =>
    rw [Shows, Gatt.handle, get?_clearSubscriptions, h]
    rfl
  | buffer => exact h
  | request r =>
    cases r with
    | write handle new => exact h.handleWrite handle new
    | read | readByType | mtuExchange | confirmation => exact h

end Shows

end Gatt

end EdgeGateway
