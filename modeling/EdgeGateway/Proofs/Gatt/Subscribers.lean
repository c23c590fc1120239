import EdgeGateway.Proofs.Gatt.Layout

/-!
# EdgeGateway.Proofs.Gatt.Subscribers

Only a client that has subscribed is notified (`notifies_subscribers`).

* `Gatt.Happening`, `Gatt.play` : events and the server's own updates in any order, and the log of
  what came of them.
* `Gatt.Orderly`    : requests come from a connected client, and one client leaves before the next.
* `Gatt.Subscribed` : what a log tells of who has asked to be notified.
* `Gatt.Tracked`    : the server is where its log says. `Tracked.happen` is one happening, and
  `Tracked.play_iff` any number of them, by induction.
* `Gatt.push_eq_some_iff` : when a notification goes out, as the server sees it.
-/

namespace EdgeGateway

namespace AttributeTable

theorem store_isOk_iff {t : AttributeTable} {handle : UInt16} {value : Bytes} :
    (∃ t', t.store handle value = .ok t') ↔
      ∃ a, t.get? handle = some a ∧ value.length ≤ a.capacity := by
  constructor
  · rintro ⟨t', ht⟩
    unfold store at ht
    split at ht
    · cases ht
    · rename_i a ha
      split at ht
      · cases ht
      · rename_i hroom
        exact ⟨a, ha, Nat.le_of_not_lt hroom⟩
  · rintro ⟨a, ha, hroom⟩
    exact ⟨_, store_of_room ha hroom⟩

/-- A descriptor is written two bytes at a time. -/
theorem bytes_of_write_descriptor {t t' : AttributeTable} {handle : UInt16} {value : Bytes}
    {a : Attribute} (h : t.write handle value = .ok t') (ha : t.get? handle = some a)
    (hd : a.isClientConfiguration = true) : ∃ low high, value = [low, high] := by
  have hlength : value.length = 2 := by
    rw [write, ha] at h
    dsimp only at h
    split at h
    · cases h
    · split at h
      · cases h
      · rename_i hlength
        simpa [hd] using hlength
  rcases value with _ | ⟨low, _ | ⟨high, _ | ⟨next, rest⟩⟩⟩
  · cases hlength
  · cases hlength
  · exact ⟨low, high, rfl⟩
  · simp at hlength

end AttributeTable

namespace Gatt

open AttributeTable

/-! ## What happens -/

inductive Happening where
  | event (e : GattEvent)
  /-- the server stores a value of its own -/
  | update (handle : UInt16) (value : Bytes)

/-- What happened, and what came of it. -/
inductive Entry where
  | event (e : GattEvent) (r : Reaction)
  | update (handle : UInt16) (value : Bytes) (sent : Option Notification)

def happen (g : Gatt) : Happening → Gatt × Entry
  | .event e => ((g.handle e).1, .event e (g.handle e).2)
  | .update handle value =>
    ((g.push handle value).1, .update handle value (g.push handle value).2)

def play (g : Gatt) : List Happening → Gatt × List Entry
  | [] => (g, [])
  | x :: rest =>
    let (g, entry) := g.happen x
    let (g, log) := g.play rest
    (g, entry :: log)

/-- The values that may be notified, going by their declarations. A value has the handle after. -/
def notifying (t : AttributeTable) : List UInt16 :=
  (t.attributes.filter fun a =>
    a.type == AttributeType.characteristic && a.value.head?.any (· &&& mayNotify != 0)).map
      (·.handle + 1)

/-- What may happen while a client is connected, or none is, and who is connected after it. -/
inductive Allowed (t : AttributeTable) : Option UInt16 → Happening → Option UInt16 → Prop where
  | connected {connection : UInt16} {peer : Bytes} :
      Allowed t none (.event (.connected connection peer)) (some connection)
  | disconnected {client : Option UInt16} {connection : UInt16} :
      Allowed t client (.event (.disconnected connection)) none
  | request {connection : UInt16} {r : GattRequest} : connection ≠ 0 →
      Allowed t (some connection) (.event (.request r)) (some connection)
  | buffer {client : Option UInt16} : Allowed t client (.event .buffer) client
  | update {client : Option UInt16} {handle : UInt16} {value : Bytes} : handle ∈ notifying t →
      Allowed t client (.update handle value) client

inductive Orderly (t : AttributeTable) : Option UInt16 → List Happening → Prop where
  | nil {client : Option UInt16} : Orderly t client []
  | cons {client client' : Option UInt16} {x : Happening} {rest : List Happening} :
      Allowed t client x client' → Orderly t client' rest → Orderly t client (x :: rest)

/-! ## What the log tells -/

namespace Entry

/-- A client has come or gone. -/
def isChange : Entry → Bool
  | .event (.connected ..) _ => true
  | .event (.disconnected _) _ => true
  | _ => false

/-- What a client has written to the handle, if it was told that it is written. -/
def writtenTo (handle : UInt16) : Entry → Option Bytes
  | .event (.request (.write written value)) (.answer (.ok .written)) =>
    if written = handle then some value else none
  | _ => none

theorem writtenTo_of_ne {written handle : UInt16} {value : Bytes} {r : Reaction}
    (h : written ≠ handle) :
    writtenTo handle (.event (.request (.write written value)) r) = none := by
  unfold writtenTo
  split
  · rename_i hentry
    cases hentry
    exact if_neg h
  · rfl

end Entry

/-- The client that came or went last. -/
def lastChange? (log : List Entry) : Option Entry := log.reverse.find? Entry.isChange

/-- The value written last, no longer ago than a client came or went. -/
def lastWritten? (handle : UInt16) (log : List Entry) : Option Bytes :=
  (log.reverse.takeWhile fun entry => !entry.isChange).findSome? (Entry.writtenTo handle)

/-- Notifications are on in the number whose bytes are given, or indications. -/
def isOn (low high : UInt8) : Bool :=
  (low.toNat + 256 * high.toNat).testBit 0 || (low.toNat + 256 * high.toNat).testBit 1

/-- The client that came last has not gone, and of what it wrote to the value's descriptor the
latest asks for notifications. -/
def Subscribed (log : List Entry) (connection handle : UInt16) : Prop :=
  (∃ peer r, lastChange? log = some (.event (.connected connection peer) r)) ∧
    ∃ low high, lastWritten? (handle + 1) log = some [low, high] ∧ isOn low high = true

section Log

variable {log : List Entry} {entry : Entry} {handle : UInt16}

theorem lastChange?_concat_change (h : entry.isChange = true) :
    lastChange? (log ++ [entry]) = some entry := by
  simp [lastChange?, h]

theorem lastWritten?_concat_change (h : entry.isChange = true) :
    lastWritten? handle (log ++ [entry]) = none := by
  simp [lastWritten?, h]

theorem lastChange?_concat (h : entry.isChange = false) :
    lastChange? (log ++ [entry]) = lastChange? log := by
  simp [lastChange?, h]

theorem lastWritten?_concat (h : entry.isChange = false) :
    lastWritten? handle (log ++ [entry]) =
      (entry.writtenTo handle).or (lastWritten? handle log) := by
  simp only [lastWritten?, List.reverse_append, List.reverse_singleton, List.singleton_append,
    List.takeWhile_cons, h, Bool.not_false, if_true, List.findSome?_cons]
  cases entry.writtenTo handle <;> rfl

end Log

/-! ## Descriptors -/

section Descriptors

variable {transreceiveCapacity localMtu : Nat} {built g : Gatt} {handle : UInt16}

theorem notifying_of_ofCapacity (h : ofCapacity transreceiveCapacity localMtu = .ok built) :
    notifying built.table =
      [Handle.transreceiveValue, Handle.sessionValue, Handle.ackValue, Handle.statusValue] := by
  rw [ofCapacity_ok h]
  rfl

/-- The descriptor of a value as it was laid out, with these two bytes. -/
def Configured (g : Gatt) (handle : UInt16) (low high : UInt8) : Prop :=
  g.table.get? (handle + 1) =
    some { Attribute.clientConfiguration (handle + 1) with value := [low, high] }

theorem configured_of_ofCapacity (h : ofCapacity transreceiveCapacity localMtu = .ok built)
    (hn : handle ∈ notifying built.table) : built.Configured handle 0 0 := by
  rw [notifying_of_ofCapacity h] at hn
  rw [ofCapacity_ok h, Configured, get?, seek_eq_find? (ascending_layout _)]
  simp only [List.mem_cons, List.not_mem_nil, or_false] at hn
  obtain rfl | rfl | rfl | rfl := hn <;> rfl

/-- A descriptor is no value, and no value that the gateway waits for. -/
theorem descriptor_not_mem (hb : ofCapacity transreceiveCapacity localMtu = .ok built)
    (hn : handle ∈ notifying built.table) :
    handle + 1 ∉ notifying built.table ++
      [Handle.portValue, Handle.closeValue, Handle.transreceiveValue, Handle.controlValue] := by
  rw [notifying_of_ofCapacity hb] at hn ⊢
  simp only [List.mem_cons, List.not_mem_nil, or_false] at hn
  obtain rfl | rfl | rfl | rfl := hn <;> decide

theorem isOn_iff (low high : UInt8) : isOn low high = true ↔ uint16Of low high &&& 3 ≠ 0 := by
  have hlow := low.toNat_lt
  have hhigh := high.toNat_lt
  have hbits : (uint16Of low high &&& 3).toNat = (low.toNat + 256 * high.toNat) % 4 := by
    rw [UInt16.toNat_and, uint16Of, UInt16.toNat_ofNat', Nat.mod_eq_of_lt (by omega)]
    exact Nat.and_two_pow_sub_one_eq_mod _ 2
  rw [isOn, Ne, ← UInt16.toNat_inj, hbits]
  simp only [Nat.testBit_eq_decide_div_mod_eq, Bool.or_eq_true, decide_eq_true_eq]
  change _ ↔ ¬ _ = 0
  omega

theorem Configured.isSubscribed_iff {low high : UInt8} (h : g.Configured handle low high) :
    g.isSubscribed handle = true ↔ isOn low high = true := by
  rw [isOn_iff, isSubscribed, subscription, h]
  exact bne_iff_ne

/-- A notification goes out if there is room for the value, and a client is connected that has
subscribed. -/
theorem push_eq_some_iff {value : Bytes} (hne : handle + 1 ≠ handle) {n : Notification} :
    (g.push handle value).2 = some n ↔
      (∃ a, g.table.get? handle = some a ∧ value.length ≤ a.capacity) ∧ g.connection.id ≠ 0 ∧
        g.isSubscribed handle = true ∧ n = ⟨g.connection.id, handle, value⟩ := by
  rw [← store_isOk_iff, push]
  cases ht : g.table.store handle value with
  | error e => simp
  | ok table =>
    have hsame := g.isSubscribed_replaced value hne
    rw [← store_ok ht] at hsame
    simp only [connectionId?, hsame]
    by_cases hid : g.connection.id = 0
    · simp [hid]
    · by_cases hs : g.isSubscribed handle = true
      · simp [hid, hs, eq_comm]
      · simp [hid, hs]

end Descriptors

/-! ## The server and its log -/

/-- The server is where its log says: who is connected, and what the descriptors hold. -/
structure Tracked (built g : Gatt) (log : List Entry) (client : Option UInt16) : Prop where
  blank : g.table.attributes.map Attribute.blank = built.table.attributes.map Attribute.blank
  id : g.connection.id = client.getD 0
  latest : ∀ connection, (∃ peer r,
    lastChange? log = some (.event (.connected connection peer) r)) ↔ client = some connection
  configured : ∀ handle ∈ notifying built.table, ∃ low high, g.Configured handle low high ∧
    (lastWritten? (handle + 1) log).getD [0, 0] = [low, high]
  quiet : g.connection.id = 0 → ∀ handle, lastWritten? handle log = none

section Tracked

variable {transreceiveCapacity localMtu : Nat} {built g g' : Gatt} {log : List Entry}
  {client client' : Option UInt16} {entry : Entry} {handle : UInt16} {value : Bytes}

theorem tracked_of_ofCapacity (hb : ofCapacity transreceiveCapacity localMtu = .ok built) :
    Tracked built built [] none where
  blank := rfl
  id := by rw [ofCapacity_ok hb]; rfl
  latest := fun connection => ⟨nofun, nofun⟩
  configured := fun handle hn => ⟨0, 0, configured_of_ofCapacity hb hn, rfl⟩
  quiet := fun _ _ => rfl

/-- An entry of the log that is not about coming and going. -/
theorem Tracked.steady (h : Tracked built g log client)
    (hblank : g'.table.attributes.map Attribute.blank = g.table.attributes.map Attribute.blank)
    (hid : g'.connection.id = g.connection.id) (hchange : entry.isChange = false)
    (hquiet : g.connection.id = 0 → ∀ handle, entry.writtenTo handle = none)
    (hconfigured : ∀ handle ∈ notifying built.table,
      (entry.writtenTo (handle + 1) = none ∧
        g'.table.get? (handle + 1) = g.table.get? (handle + 1)) ∨
      ∃ low high, entry.writtenTo (handle + 1) = some [low, high] ∧
        g'.Configured handle low high) :
    Tracked built g' (log ++ [entry]) client where
  blank := hblank.trans h.blank
  id := hid.trans h.id
  latest := by
    rw [lastChange?_concat hchange]
    exact h.latest
  configured := by
    intro handle hn
    rw [lastWritten?_concat hchange]
    obtain ⟨hw, hget⟩ | ⟨low, high, hw, hc⟩ := hconfigured handle hn
    · obtain ⟨low, high, hc, hlast⟩ := h.configured handle hn
      refine ⟨low, high, hget.trans hc, ?_⟩
      rwa [hw, Option.none_or]
    · exact ⟨low, high, hc, by rw [hw]; rfl⟩
  quiet := by
    intro hzero handle
    rw [hid] at hzero
    rw [lastWritten?_concat hchange, hquiet hzero handle, h.quiet hzero handle]
    rfl

theorem Tracked.connected (h : Tracked built g log none) (connection : UInt16) (peer : Bytes) :
    Tracked built (g.happen (.event (.connected connection peer))).1
      (log ++ [(g.happen (.event (.connected connection peer))).2]) (some connection) where
  blank := h.blank
  id := rfl
  latest := by
    intro other
    rw [lastChange?_concat_change rfl]
    constructor
    · rintro ⟨peer', r, hentry⟩
      cases hentry
      rfl
    · intro hother
      cases hother
      exact ⟨peer, _, rfl⟩
  configured := by
    intro handle hn
    obtain ⟨low, high, hc, hlast⟩ := h.configured handle hn
    rw [h.quiet h.id] at hlast
    refine ⟨low, high, hc, ?_⟩
    rwa [lastWritten?_concat_change rfl]
  quiet := fun _ _ => lastWritten?_concat_change rfl

theorem Tracked.disconnected (h : Tracked built g log client) (connection : UInt16) :
    Tracked built (g.happen (.event (.disconnected connection))).1
      (log ++ [(g.happen (.event (.disconnected connection))).2]) none where
  blank := (map_clearSubscriptions (fun _ _ => rfl) g.table).trans h.blank
  id := rfl
  latest := by
    intro other
    rw [lastChange?_concat_change rfl]
    constructor
    · rintro ⟨peer, r, hentry⟩
      cases hentry
    · nofun
  configured := by
    intro handle hn
    obtain ⟨low, high, hc, -⟩ := h.configured handle hn
    rw [lastWritten?_concat_change rfl]
    refine ⟨0, 0, ?_, rfl⟩
    rw [Configured, happen, Gatt.handle, get?_clearSubscriptions, hc]
    rfl
  quiet := fun _ _ => lastWritten?_concat_change rfl

theorem Tracked.update (hb : ofCapacity transreceiveCapacity localMtu = .ok built)
    (h : Tracked built g log client) (hn : handle ∈ notifying built.table) (value : Bytes) :
    Tracked built (g.happen (.update handle value)).1
      (log ++ [(g.happen (.update handle value)).2]) client := by
  have hpush : (g.push handle value).1 = g ∨ (g.push handle value).1 =
      { g with table := ⟨replaceValue handle value g.table.attributes⟩ } := by
    cases ht : g.table.store handle value with
    | error e =>
      left
      rw [push, ht]
    | ok table =>
      right
      rw [Shows.push_of_store ht, store_ok ht]
  obtain hsame | hstored := hpush
  · rw [happen, hsame]
    exact h.steady rfl rfl rfl (fun _ _ => rfl) fun _ _ => .inl ⟨rfl, rfl⟩
  · rw [happen, hstored]
    refine h.steady (map_replaceValue (fun _ _ => rfl) value) rfl rfl (fun _ _ => rfl) ?_
    intro other ho
    have hne : other + 1 ≠ handle := by
      rintro rfl
      exact descriptor_not_mem hb ho (List.mem_append_left _ hn)
    exact .inl ⟨rfl, by rw [get?_replaceValue, if_neg hne]⟩

theorem handleWrite_of_write {table : AttributeTable}
    (ht : g.table.write handle value = .ok table) :
    (g.handleWrite handle value).1 = { g with table } ∧
      (handle ∉ [Handle.portValue, Handle.closeValue, Handle.transreceiveValue,
          Handle.controlValue] →
        (g.handleWrite handle value).2 = .answer (.ok .written)) := by
  unfold Gatt.handleWrite
  rw [ht]
  dsimp only
  constructor
  · (repeat' split) <;> rfl
  · intro hnone
    simp only [List.mem_cons, List.not_mem_nil, or_false, not_or] at hnone
    rw [if_neg hnone.1, if_neg hnone.2.1, if_neg hnone.2.2.1, if_neg hnone.2.2.2]

/-- What a client writes reaches the descriptor it names, and no other. -/
theorem Tracked.write (hb : ofCapacity transreceiveCapacity localMtu = .ok built)
    (h : Tracked built g log client) (hid : g.connection.id ≠ 0) (handle : UInt16)
    (value : Bytes) :
    Tracked built (g.happen (.event (.request (.write handle value)))).1
      (log ++ [(g.happen (.event (.request (.write handle value)))).2]) client := by
  have hquiet {entry : Entry} (hzero : g.connection.id = 0) :
      ∀ handle, entry.writtenTo handle = none := absurd hzero hid
  rw [happen, Gatt.handle, handleRequest]
  cases ht : g.table.write handle value with
  | error e =>
    have hrefused : g.handleWrite handle value = (g, .answer (.error e)) := by
      rw [Gatt.handleWrite, ht]
    rw [hrefused]
    exact h.steady rfl rfl rfl hquiet fun _ _ => .inl ⟨rfl, rfl⟩
  | ok table =>
    obtain ⟨hstate, hanswer⟩ := handleWrite_of_write ht
    obtain ⟨rfl, -⟩ := write_ok ht
    rw [hstate]
    refine h.steady (map_replaceValue (fun _ _ => rfl) value) rfl rfl hquiet ?_
    intro other ho
    by_cases heq : other + 1 = handle
    · subst heq
      right
      obtain ⟨low, high, hc, -⟩ := h.configured other ho
      obtain ⟨low', high', rfl⟩ := bytes_of_write_descriptor ht hc rfl
      refine ⟨low', high', ?_, ?_⟩
      · rw [hanswer fun hm => descriptor_not_mem hb ho (List.mem_append_right _ hm)]
        exact if_pos rfl
      · rw [Configured, get?_replaceValue, if_pos rfl, hc]
        rfl
    · left
      rw [get?_replaceValue, if_neg heq]
      exact ⟨Entry.writtenTo_of_ne fun hw => heq hw.symm, rfl⟩

/-- One happening. -/
theorem Tracked.happen (hb : ofCapacity transreceiveCapacity localMtu = .ok built)
    (h : Tracked built g log client) {x : Happening} (hx : Allowed built.table client x client') :
    Tracked built (g.happen x).1 (log ++ [(g.happen x).2]) client' := by
  cases hx with
  | connected => exact h.connected _ _
  | disconnected => exact h.disconnected _
  | buffer => exact h.steady rfl rfl rfl (fun _ _ => rfl) fun _ _ => .inl ⟨rfl, rfl⟩
  | update hn => exact h.update hb hn _
  | @request connection r hne =>
    have hid : g.connection.id ≠ 0 := by
      rw [h.id]
      exact hne
    cases r with
    | write handle value => exact h.write hb hid handle value
    | read | readByType | mtuExchange | confirmation =>
      exact h.steady rfl rfl rfl (fun hzero => absurd hzero hid) fun _ _ => .inl ⟨rfl, rfl⟩

/-! ## Who is notified -/

theorem Tracked.subscribed_iff (h : Tracked built g log client)
    (hn : handle ∈ notifying built.table) (connection : UInt16) : Subscribed log connection handle ↔
      g.connection.id ≠ 0 ∧ g.isSubscribed handle = true ∧ connection = g.connection.id := by
  obtain ⟨low, high, hc, hlast⟩ := h.configured handle hn
  rw [hc.isSubscribed_iff, Subscribed, h.latest]
  constructor
  · rintro ⟨hclient, low', high', hw, hon⟩
    rw [hw] at hlast
    cases hlast
    refine ⟨fun hzero => ?_, hon, ?_⟩
    · rw [h.quiet hzero] at hw
      cases hw
    · rw [h.id, hclient]
      rfl
  · rintro ⟨hid, hon, rfl⟩
    constructor
    · cases client with
      | none => exact absurd h.id hid
      | some connection => rw [h.id]; rfl
    · cases hw : lastWritten? (handle + 1) log with
      | some value =>
        rw [hw] at hlast
        exact ⟨low, high, congrArg some hlast, hon⟩
      | none =>
        -- what no client has written is off
        rw [hw] at hlast
        cases hlast
        cases hon

theorem Tracked.room_iff (h : Tracked built g log client) :
    (∃ a, g.table.get? handle = some a ∧ value.length ≤ a.capacity) ↔
      ∃ a, built.table.get? handle = some a ∧ value.length ≤ a.capacity := by
  have hroom (g : Gatt) : (∃ a, g.table.get? handle = some a ∧ value.length ≤ a.capacity) ↔
      ∃ a, seek handle (g.table.attributes.map Attribute.blank) = some a ∧
        value.length ≤ a.capacity := by
    rw [seek_map (f := Attribute.blank) fun _ => rfl]
    constructor
    · rintro ⟨a, ha, hlength⟩
      exact ⟨a.blank, congrArg (Option.map Attribute.blank) ha, hlength⟩
    · rintro ⟨b, hb, hlength⟩
      obtain ⟨a, ha, rfl⟩ := Option.map_eq_some_iff.mp hb
      exact ⟨a, ha, hlength⟩
  rw [hroom g, hroom built, h.blank]

theorem Tracked.push_iff (hb : ofCapacity transreceiveCapacity localMtu = .ok built)
    (h : Tracked built g log client) (hn : handle ∈ notifying built.table) (n : Notification) :
    (g.push handle value).2 = some n ↔ n.handle = handle ∧ n.value = value ∧
      Subscribed log n.connection handle ∧
      ∃ a, built.table.get? handle = some a ∧ value.length ≤ a.capacity := by
  have hne : handle + 1 ≠ handle := by
    intro heq
    have hnot := descriptor_not_mem hb hn
    rw [heq] at hnot
    exact hnot (List.mem_append_left _ hn)
  obtain ⟨connection, handle', value'⟩ := n
  rw [push_eq_some_iff hne, h.room_iff, h.subscribed_iff hn, Notification.mk.injEq]
  constructor
  · rintro ⟨hroom, hid, hs, hconnection, hhandle, hvalue⟩
    exact ⟨hhandle, hvalue, ⟨hid, hs, hconnection⟩, hroom⟩
  · rintro ⟨hhandle, hvalue, ⟨hid, hs, hconnection⟩, hroom⟩
    exact ⟨hroom, hid, hs, hconnection, hhandle, hvalue⟩

/-- Wherever the log stands at first, by induction on what happens. -/
theorem Tracked.play_iff (hb : ofCapacity transreceiveCapacity localMtu = .ok built)
    (h : Tracked built g log client) {stream : List Happening}
    (ho : Orderly built.table client stream) {before after : List Entry}
    {sent : Option Notification}
    (hlog : (g.play stream).2 = before ++ .update handle value sent :: after) (n : Notification) :
    sent = some n ↔ n.handle = handle ∧ n.value = value ∧
      Subscribed (log ++ before) n.connection handle ∧
      ∃ a, built.table.get? handle = some a ∧ value.length ≤ a.capacity := by
  induction ho generalizing g log before with
  | nil =>
    rw [play] at hlog
    cases before <;> cases hlog
  | @cons client client' x rest hx hrest ih =>
    rw [play] at hlog
    cases before with
    | nil =>
      obtain ⟨hentry, -⟩ := List.cons.inj hlog
      cases hx with
      | update hn =>
        cases hentry
        rw [List.append_nil]
        exact h.push_iff hb hn n
      | connected | disconnected | request | buffer => cases hentry
    | cons entry before =>
      obtain ⟨hentry, hlater⟩ := List.cons.inj hlog
      have hnext := ih (h.happen hb hx) hlater
      rwa [hentry, List.append_assoc, List.singleton_append] at hnext

end Tracked

/-- Requests come from a client that is connected, and one client leaves before the next comes;
otherwise events and the server's own updates come in any order. Each time the server stores a
value, a notification goes out exactly if the attribute has room for the value and the client that
came last has not left and has subscribed since it came. It goes to that client, and has the
value. -/
theorem notifies_subscribers {transreceiveCapacity localMtu : Nat} {g : Gatt}
    (hg : ofCapacity transreceiveCapacity localMtu = .ok g) {stream : List Happening}
    (ho : Orderly g.table none stream) {before after : List Entry} {handle : UInt16}
    {value : Bytes} {sent : Option Notification}
    (hlog : (g.play stream).2 = before ++ .update handle value sent :: after) (n : Notification) :
    sent = some n ↔ n.handle = handle ∧ n.value = value ∧
      Subscribed before n.connection handle ∧
      ∃ a, g.table.get? handle = some a ∧ value.length ≤ a.capacity :=
  (tracked_of_ofCapacity hg).play_iff hg ho hlog n

/-- A client subscribes to the session and leaves. The next client is not told of it until it has
written to the descriptor itself, which it gets wrong at first. -/
def reconnecting : List Happening :=
  [.event (.connected 7 []), .event (.request (.write 0x32 [1, 0])), .update 0x31 [4],
    .event (.disconnected 7), .event (.connected 9 []), .update 0x31 [5],
    .event (.request (.write 0x32 [1])), .event (.request (.write 0x32 [2, 0])),
    .update 0x31 [6], .event (.request (.write 0x32 [0, 1])), .update 0x31 [7]]

theorem notifies_subscribers_reconnecting : ∃ g before after,
    ofCapacity 512 512 = .ok g ∧ Orderly g.table none reconnecting ∧
      (g.play reconnecting).2 = before ++ .update 0x31 [6] (some ⟨9, 0x31, [6]⟩) :: after ∧
      Subscribed before 9 0x31 := by
  have hg : ofCapacity 512 512 = .ok
      { table := ⟨layout 512⟩, transreceiveCapacity := 512, localMtu := 512 } := rfl
  have ho : Orderly ⟨layout 512⟩ none reconnecting :=
    .cons .connected <| .cons (.request (by decide)) <| .cons (.update (by decide)) <|
    .cons .disconnected <| .cons .connected <| .cons (.update (by decide)) <|
    .cons (.request (by decide)) <| .cons (.request (by decide)) <|
    .cons (.update (by decide)) <| .cons (.request (by decide)) <|
    .cons (.update (by decide)) .nil
  have hlog : (play { table := ⟨layout 512⟩, transreceiveCapacity := 512, localMtu := 512 }
      reconnecting).2 =
        [.event (.connected 7 []) (.answer (.ok .none)),
          .event (.request (.write 0x32 [1, 0])) (.answer (.ok .written)),
          .update 0x31 [4] (some ⟨7, 0x31, [4]⟩),
          .event (.disconnected 7) (.forward .disconnected .none),
          .event (.connected 9 []) (.answer (.ok .none)),
          .update 0x31 [5] none,
          .event (.request (.write 0x32 [1])) (.answer (.error .invalidAttrLength)),
          .event (.request (.write 0x32 [2, 0])) (.answer (.ok .written))] ++
        .update 0x31 [6] (some ⟨9, 0x31, [6]⟩) ::
        [.event (.request (.write 0x32 [0, 1])) (.answer (.ok .written)),
          .update 0x31 [7] none] := rfl
  obtain ⟨-, -, hsubscribed, -⟩ := (notifies_subscribers hg ho hlog ⟨9, 0x31, [6]⟩).mp rfl
  exact ⟨_, _, _, hg, ho, hlog, hsubscribed⟩

end Gatt

end EdgeGateway
