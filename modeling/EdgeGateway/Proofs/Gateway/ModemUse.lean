import EdgeGateway.Proofs.Gateway.Booted
import EdgeGateway.Proofs.Gateway.BroughtUp
import EdgeGateway.Proofs.Gateway.Schedule

/-!
# EdgeGateway.Proofs.Gateway.ModemUse

Whether the modem is up where it is worked.

* `Gateway.Works`  : a thread is in a call that opens, switches or closes the modem.
* `System.Fronted` : how far the bridge is while everything else rests.

In every call that works it the modem is up, unless the call is the bridge's
(`Gateway.modemUp_of_works`), and the bridge does not ask whether it is (`Gateway.modemUp_iff`).
-/

namespace EdgeGateway

/-- What a crew is made of stays. -/
theorem Crew.Step.parts {tidy : Bool} {w w' : Crew} {k k' : Outstanding}
    (h : Step tidy (w, k) (w', k')) :
    w'.bridge.isSome = w.bridge.isSome ∧ w'.arbiter.isSome = w.arbiter.isSome := by
  cases h with
  | link | mqtt | beginLink | beginBridge | endLink | lose => exact ⟨rfl, rfl⟩
  | bridge hb | endBridge hb => exact ⟨by rw [hb]; rfl, rfl⟩
  | enter _ ha | called _ ha | skip _ ha => exact ⟨rfl, by rw [ha]; rfl⟩

theorem Crew.parts_of_run {tidy : Bool} {x y : Crew × Outstanding}
    (h : Relation.ReflTransGen (Step tidy) x y) :
    y.1.bridge.isSome = x.1.bridge.isSome ∧ y.1.arbiter.isSome = x.1.arbiter.isSome := by
  induction h with
  | refl => exact ⟨rfl, rfl⟩
  | tail _ hs ih => exact ⟨hs.parts.1.trans ih.1, hs.parts.2.trans ih.2⟩

/-- Threads call the modem for an errand of their task, and for nothing else. -/
theorem System.Manned.errand_of_modem {s : System} {errand : Task → Option Errand}
    (h : s.Manned errand) {t : Thread} (ht : s.thread? t.id = some t) {c : ModemCall}
    (hc : t.stage = .inside (.modem c)) :
    ∃ j e, t.role.task? = some j ∧ errand j = some e ∧ e.call? = some c := by
  rcases (h.engaged _ t ht).of_inside hc with ⟨e, m, he, hm, hcall⟩ |
    ⟨-, hi | ⟨n, -, -, hn, -⟩ | hi⟩
  · cases hm
    obtain ⟨j, -, hj, herr, -⟩ := h.of_errand ht he
    exact ⟨j, e, hj, herr, hcall⟩
  · have hproper := s.isProper_intent t
    rw [System.call_of_asked? hi] at hproper
    exact hproper.elim
  · cases hn
  · cases hi.2

/-! ## The bridge comes first -/

/-- The thread of the bridge. -/
def Thread.front (stage : Stage) (errand : Option Errand) : Thread :=
  { id := 0, actor := .bridge, role := .bridge, stage, errand }

/-- The thread runs another task, and has not moved. -/
def Thread.Rests (t : Thread) : Prop :=
  t.stage = .free ∧ t.errand = none ∧ (t.role = .mqtt ∨ ∃ kind, t.role = .link kind)

namespace System

/-- How far the bridge is while everything else rests. -/
structure Fronted (s : System) (b : Bridge) (a : Arbiter) (stage : Stage)
    (errand : Option Errand) : Prop where
  bridge : s.bridge = some b
  arbiter : s.arbiter = some a
  gatt : ∃ g, s.gatt = some g ∧ g.Laid
  thread : s.thread? 0 = some (.front stage errand)
  rest : ∀ u ∈ s.threads, u.id = 0 ∨ u.Rests

theorem holds_of_rests (s : System) {u : Thread} (h : u.Rests) (l : Lock) :
    s.holds u l = false := by
  obtain ⟨hf, he, hr | ⟨kind, hr⟩⟩ := h <;> cases l <;> simp [holds, keeps, hf, he, hr]

namespace Fronted

variable {s : System} {b : Bridge} {a : Arbiter} {stage : Stage} {errand : Option Errand}

theorem unlocked (h : s.Fronted b a stage errand) {t : Thread} (ht : t.id = 0) (l : Option Lock) :
    s.locked t l = false := by
  cases l with
  | none => rfl
  | some l =>
    refine List.any_eq_false.mpr fun u hu => ?_
    rcases h.rest u hu with hid | hrest
    · simp [hid, ht]
    · simp [s.holds_of_rests hrest]

theorem setThread (h : s.Fronted b a stage errand) (stage' : Stage) (errand' : Option Errand) :
    (s.setThread (.front stage' errand')).Fronted b a stage' errand' where
  bridge := h.bridge
  arbiter := h.arbiter
  gatt := h.gatt
  thread := thread?_setThread_self (t := .front stage errand) h.thread rfl
  rest u hu := by
    obtain ⟨v, hv, rfl⟩ := List.mem_map.mp hu
    split
    · exact .inl rfl
    · exact h.rest v hv

theorem setBridge (h : s.Fronted b a stage errand) (b' : Bridge) :
    Fronted { s with bridge := some b' } b' a stage errand :=
  ⟨rfl, h.arbiter, h.gatt, h.thread, h.rest⟩

theorem setArbiter (h : s.Fronted b a stage errand) (a' : Arbiter) :
    Fronted { s with arbiter := some a' } b a' stage errand :=
  ⟨h.bridge, rfl, h.gatt, h.thread, h.rest⟩

theorem own (h : s.Fronted b a stage errand) : s.Own := by
  intro i t ht
  rcases h.rest t (List.mem_of_find?_eq_some ht) with hid | ⟨-, -, hr | ⟨kind, hr⟩⟩
  · cases (id_of_thread? ht).symm.trans hid
    cases h.thread.symm.trans ht
    rfl
  · rw [hr]
    rfl
  · rw [hr]
    rfl

variable (tidy : Bool) (k : Outstanding)

open Gateway (Step)

/-! ### What the bridge may do before anything else moves -/

/-- The bridge makes a call. -/
theorem calls (h : s.Fronted b a .free none) (hq : b.request = .askAdvertising) :
    ∃ s', Step tidy ⟨s, k⟩ ⟨s', k⟩ ∧ s'.Fronted b a (.inside .askAdvertising) none := by
  have hn : s.next (.front .free none) = s.tryCall (.front .free none) .askAdvertising := by
    simp only [next, Thread.front, intent, h.bridge, bridgeIntent, hq]
  refine ⟨_, .start (t := .front .free none) (c := .askAdvertising) h.thread ?_,
    h.setThread (.inside .askAdvertising) none⟩
  rw [hn, tryCall, h.unlocked rfl]
  rfl

/-- The bridge gets an answer. -/
theorem gets (h : s.Fronted b a (.inside .askAdvertising) none) (on : Bool) :
    ∃ s', Step tidy ⟨s, k⟩ ⟨s', k⟩ ∧ s'.Fronted (b.resume (.flag on)) a .free none := by
  have hstep : Step tidy ⟨s, k⟩ _ := .answer (t := .front (.inside .askAdvertising) none)
    (c := .askAdvertising) (a := .flag on) h.thread rfl (.inl ⟨on, rfl⟩) nofun
  refine ⟨_, hstep, ?_⟩
  have hset := h.setThread .free none
  show Fronted { s.setThread (.front .free none) with
    bridge := (s.setThread (.front .free none)).bridge.map (·.resume (.flag on)) } _ _ _ _
  rw [hset.bridge]
  exact hset.setBridge _

/-- A client names a port while the bridge waits for a message. -/
theorem named (h : s.Fronted b a .free none) (hp : b.point = .receiving)
    (hi : b.inbox.isOpen = true) (hn : b.inbox.items = []) (value : Bytes)
    (hroom : value.length ≤ 33) :
    ∃ s', Step tidy ⟨s, k⟩ ⟨s', k⟩ ∧
      s'.Fronted { b with inbox := b.inbox.put (.openPort value) } a .free none := by
  obtain ⟨g, hg, hlaid⟩ := h.gatt
  have hoffer : b.inbox.offer b.isReceiving (.openPort value) =
      some (b.inbox.put (.openPort value)) := by
    simp [Inbox.offer, Inbox.accepts, Inbox.hasRoom, Bridge.isReceiving, hp, hi, hn]
  have hevent : (s.handleEvent (.request (.write Handle.portValue value))).1 =
      { s with
        gatt := some (g.handle (.request (.write Handle.portValue value))).1
        bridge := some { b with inbox := b.inbox.put (.openPort value) } } := by
    simp only [handleEvent, hg, hlaid.write_port hroom, postToBridge, h.bridge, hoffer,
      Option.map_some]
  have hnext : Fronted { s with
      gatt := some (g.handle (.request (.write Handle.portValue value))).1
      bridge := some { b with inbox := b.inbox.put (.openPort value) } }
      { b with inbox := b.inbox.put (.openPort value) } a .free none :=
    ⟨rfl, h.arbiter, ⟨_, rfl, hlaid.handle _⟩, h.thread, h.rest⟩
  exact ⟨_, hevent ▸ .event (.gatt _) (hevent ▸ hnext.own), hnext⟩

/-- The bridge reads a message. -/
theorem reads (h : s.Fronted b a .free none) (hp : b.point = .receiving) {m : BridgeMessage}
    {rest : List BridgeMessage} (hi : b.inbox.items = m :: rest) :
    ∃ s', Step tidy ⟨s, k⟩ ⟨s', k⟩ ∧ s'.Fronted
      (Bridge.receive { b with inbox := { b.inbox with items := rest } } m) a .free none := by
  refine ⟨_, .step (t := .front .free none) h.thread ?_, h.setBridge _⟩
  simp only [next, Thread.front, intent, h.bridge, bridgeIntent, Bridge.request, hp, Inbox.take?,
    hi, Bridge.resume]

/-- The bridge begins an errand. -/
theorem begins (h : s.Fronted b a .free none) {timeout : Nat} (hq : b.request = .acquire timeout) :
    ∃ s', Step tidy ⟨s, k⟩ ⟨s', k⟩ ∧ s'.Fronted b a .free (some (.acquire timeout)) := by
  refine ⟨_, .step (t := .front .free none) h.thread ?_,
    h.setThread .free (some (.acquire timeout))⟩
  simp only [next, Thread.front, intent, h.bridge, bridgeIntent, hq]

/-- Its errand is admitted. -/
theorem enters {timeout : Nat} (h : s.Fronted b {} .free (some (.acquire timeout))) :
    ∃ s', Step tidy ⟨s, k⟩ ⟨s', k⟩ ∧
      s'.Fronted b { busy := true } .free (some (.inspect timeout)) := by
  refine ⟨_, .step (t := .front .free (some (.acquire timeout))) h.thread ?_,
    (h.setArbiter { busy := true }).setThread .free (some (.inspect timeout))⟩
  simp only [next, Thread.front, errandMove, h.arbiter]
  rfl

/-- Its errand calls the modem. -/
theorem callsModem {e : Errand} {c : ModemCall} (h : s.Fronted b a .free (some e))
    (hc : e.call? = some c) :
    ∃ s', Step tidy ⟨s, k⟩ ⟨s', k⟩ ∧ s'.Fronted b a (.inside (.modem c)) (some e) := by
  refine ⟨_, .start (t := .front .free (some e)) (c := .modem c) h.thread ?_,
    h.setThread (.inside (.modem c)) (some e)⟩
  have hlock : s.locked (.front .free (some e)) (some .modem) = false := h.unlocked rfl _
  show s.errandMove (.front .free (some e)) e = _
  simp only [errandMove, h.arbiter]
  split
  · cases hc
  · simp only [Errand.isAtModem_of_call? hc, hlock, hc, if_true, Bool.false_eq_true, if_false]
    rfl

/-- The modem is not open, which is why it is to be opened. -/
theorem getsModem {timeout : Nat}
    (h : s.Fronted b a (.inside (.modem .mode)) (some (.inspect timeout))) :
    ∃ s', Step tidy ⟨s, k⟩ ⟨s', k⟩ ∧ s'.Fronted b a .free (some (.openForLease timeout)) := by
  have hstep : Step tidy ⟨s, k⟩ _ := .answer
    (t := .front (.inside (.modem .mode)) (some (.inspect timeout)))
    (c := .modem .mode) (a := .failed (.modem .notOpen)) h.thread rfl (.inr ⟨rfl, _, rfl⟩) nofun
  refine ⟨_, hstep, ?_⟩
  rw [answer_of_errand h.arbiter rfl]
  exact (h.setArbiter a).setThread .free (some (.openForLease timeout))

theorem of_startBridge (hb : s.bridge = some b) (ha : s.arbiter = some a)
    (hg : ∃ g, s.gatt = some g ∧ g.Laid) (ht : s.threads = []) (hn : s.nextThread = 0) :
    s.startBridge.Fronted b a .free none := by
  have hthreads : s.startBridge.threads = [.front .free none] := by
    simp only [startBridge, spawn, ht, hn, List.nil_append, Thread.front]
  refine ⟨hb, ha, hg, ?_, fun u hu => ?_⟩
  · rw [thread?, hthreads]
    rfl
  · rw [hthreads] at hu
    cases List.mem_singleton.mp hu
    exact .inl rfl

/-- Another task is started. -/
theorem start (h : s.Fronted b a stage errand) (x : Bool) (actor : Actor) (role : Role)
    (hr : role = .mqtt ∨ ∃ kind, role = .link kind) :
    (if x = true then s.spawn actor role none else s).Fronted b a stage errand := by
  cases x with
  | false => exact h
  | true =>
    refine ⟨h.bridge, h.arbiter, h.gatt, ?_, fun u hu => ?_⟩
    · rw [if_pos rfl, thread?_spawn, h.thread]
      rfl
    · rcases List.mem_append.mp hu with hu | hu
      · exact h.rest u hu
      · cases List.mem_singleton.mp hu
        exact .inr ⟨rfl, rfl, hr⟩

/-- The bridge is started before the others. -/
theorem started {s' : System} {f : Features}
    (hs : s' = { (let s := if f.bleModem then s.startBridge else s
      let s := if f.wifi then s.startLink .wifi else s
      let s := if f.cellular then s.startLink .cellular else s
      if f.mqtt then s.startMqtt else s) with controlled := f.bleModem })
    (hble : f.bleModem = true) (h : s.startBridge.Fronted b a stage errand) :
    s'.Fronted b a stage errand := by
  have first : (if f.bleModem = true then s.startBridge else s).Fronted b a stage errand := by
    rwa [if_pos hble]
  have all := ((first.start f.wifi .wifi (.link .wifi) (.inr ⟨_, rfl⟩)).start
    f.cellular .ppp (.link .cellular) (.inr ⟨_, rfl⟩)).start f.mqtt .mqtt .mqtt (.inl rfl)
  subst hs
  exact ⟨all.bridge, all.arbiter, all.gatt, all.thread, all.rest⟩

theorem of_boot {settings : Settings} {suffix : String} {p : Provided}
    (h : boot settings suffix p = .ok s) (hble : settings.features.bleModem = true)
    (hmodem : p.modem = true) :
    s.Fronted (Bridge.ofSettings settings.ble true) {} .free none := by
  unfold boot at h
  split at h
  · cases h
  · extract_lets f at h
    split at h
    · cases h
    · rename_i bare s₁ s₂ s₃ finish _ _
      have parts : s₃.settings = settings ∧ s₃.arbiter = some {} ∧ s₃.threads = [] ∧
          s₃.nextThread = 0 := by
        simp only [s₃, s₂, s₁, bare, hmodem, if_true]
        (repeat' split) <;> exact ⟨rfl, rfl, rfl, rfl⟩
      clear_value s₃
      obtain ⟨hset, harb, hthreads, hnext⟩ := parts
      rw [if_pos hble] at h
      unfold addGatt at h
      cases hg : Gatt.ofSettings s₃.addBridge.settings.ble with
      | error e =>
        rw [hg] at h
        cases h
      | ok g =>
        rw [hg] at h
        cases h
        have hbridge : s₃.addBridge.bridge = some (Bridge.ofSettings settings.ble true) := by
          simp only [addBridge, hset, harb, Option.isSome_some]
        have hlaid : g.Laid := Gatt.laid_of_ofCapacity hg
        exact started (f := f) rfl hble (.of_startBridge (by split <;> exact hbridge)
          (by split <;> exact harb) (by split <;> exact ⟨g, rfl, hlaid⟩)
          (by split <;> exact hthreads) (by split <;> exact hnext))

end Fronted

end System

namespace Gateway

variable {g : Gateway} {settings : Settings} {suffix : String} {p : Provided} {s₀ : System}
  {tidy : Bool}

/-- The thread is in a call that opens, switches or closes the modem. -/
def Works (g : Gateway) (t : Thread) : Prop :=
  g.system.thread? t.id = some t ∧ ∃ c, t.stage = .inside (.modem c) ∧ c.drives = true

/-- The modem is up where it is worked, but for the bridge. -/
theorem modemUp_of_works (hb : System.boot settings suffix p = .ok s₀)
    (hr : Relation.ReflTransGen (Step tidy) { system := s₀ } g) {t : Thread} (hw : g.Works t) :
    g.outstanding.modemUp = true ∨
      (t.role.task? = some .bridge ∧ settings.features.bleModem = true ∧ p.modem = true) := by
  have hbooted := System.booted hb
  obtain ⟨errand, hman, -, hrun⟩ := crew_of_run hbooted.manned (.of_new hbooted.new) hr
  obtain ⟨hsound, hup⟩ := Crew.Up.of_run hbooted.new hrun
  obtain ⟨ht, c, hc, -⟩ := hw
  obtain ⟨j, e, hj, herr, hcall⟩ := hman.errand_of_modem ht hc
  refine (hup.of_call hsound herr hcall).imp_right fun ⟨htask, hbridge, harbiter⟩ => ?_
  obtain ⟨hb', ha'⟩ := Crew.parts_of_run hrun
  rw [hb'] at hbridge
  rw [ha'] at harbiter
  refine ⟨htask ▸ hj, ?_, hbooted.arbiter ▸ harbiter⟩
  simpa [System.crew, hbooted.bridge] using hbridge

/-- A client that names a port may get the bridge to the modem before anything else moves. -/
theorem exists_works {b : Bridge} (h : s₀.Fronted b {} .free none) {settings : BleSettings}
    (hbridge : b = .ofSettings settings true) :
    ∃ g t, Relation.ReflTransGen (Step tidy) { system := s₀ } g ∧ g.Works t ∧
      g.outstanding.modemUp = false := by
  subst hbridge
  obtain ⟨s₁, h₁, f₁⟩ := h.calls tidy {} rfl
  obtain ⟨s₂, h₂, f₂⟩ := f₁.gets tidy {} true
  obtain ⟨s₃, h₃, f₃⟩ := f₂.named tidy {} rfl rfl rfl [0x75, 0x63, 0x63, 0x30, 0] (by decide)
  obtain ⟨s₄, h₄, f₄⟩ := f₃.reads tidy {} rfl rfl
  obtain ⟨s₅, h₅, f₅⟩ := f₄.begins tidy {} rfl
  obtain ⟨s₆, h₆, f₆⟩ := f₅.enters tidy {}
  obtain ⟨s₇, h₇, f₇⟩ := f₆.callsModem tidy {} rfl
  obtain ⟨s₈, h₈, f₈⟩ := f₇.getsModem tidy {}
  obtain ⟨s₉, h₉, f₉⟩ := f₈.callsModem tidy {} rfl
  have hrun : Relation.ReflTransGen (Step tidy) ⟨s₀, {}⟩ ⟨s₉, {}⟩ :=
    .head h₁ <| .head h₂ <| .head h₃ <| .head h₄ <| .head h₅ <| .head h₆ <| .head h₇ <|
      .head h₈ <| .single h₉
  have hworks : Works ⟨s₉, {}⟩ (.front (.inside (.modem _)) (some _)) := ⟨f₉.thread, _, rfl, rfl⟩
  exact ⟨_, _, hrun, hworks, rfl⟩

/-- The modem is up in every call that works it exactly if the bridge cannot get at it. -/
theorem modemUp_iff (hb : System.boot settings suffix p = .ok s₀) :
    (∀ g t, Relation.ReflTransGen (Step tidy) { system := s₀ } g → g.Works t →
      g.outstanding.modemUp = true) ↔ ¬ (settings.features.bleModem = true ∧ p.modem = true) := by
  constructor
  · rintro hup ⟨hble, hmodem⟩
    obtain ⟨g, t, hr, hw, hdown⟩ := exists_works (.of_boot hb hble hmodem) rfl
    rw [hup g t hr hw] at hdown
    cases hdown
  · intro hno g t hr hw
    exact (modemUp_of_works hb hr hw).resolve_right fun h => hno h.2

/-- The cellular link and nothing else. -/
def cellularAlone : Settings where
  defaultLink := .cellular
  features := { wifi := false, mqtt := false, bleModem := false, console := false }

/-- The thread of the link in its call. -/
def dialing : Thread :=
  let params := { cellularAlone.cellular.dialParams with tellsLink := true }
  let timeout := System.timeoutMs cellularAlone.cellular.connectTimeoutMs
  { id := 0
    actor := .ppp
    role := .link .cellular
    stage := .inside (.modem (.dial params timeout))
    errand := some (.dial params timeout) }

theorem modemUp_of_cellularAlone : ∃ s₀ : System, System.boot cellularAlone "" {} = .ok s₀ ∧
    (∀ g t, Relation.ReflTransGen (Step true) { system := s₀ } g → g.Works t →
      g.outstanding.modemUp = true) ∧
    (play turn? { system := s₀ }
      [.go 0, .go 0, .go 0, .succeed 0, .go 0, .go 0, .go 0, .go 0]).Works dialing :=
  have hb : System.boot cellularAlone "" {} = .ok _ := rfl
  ⟨_, hb, (modemUp_iff hb).mpr (by decide), rfl, _, rfl, rfl⟩

/-- Wi-Fi and the bridge. Nobody ever brings the modem up. -/
def bridgeBesideWifi : Settings where
  defaultLink := .wifi
  features := { cellular := false, mqtt := false, console := false }

/-- A client names a port, the modem is found closed, and the bridge opens it. -/
def openForClient : List Turn :=
  [.go 0, .succeed 0, .client (.request (.write Handle.portValue [0x75, 0x63, 0x63, 0x30, 0])),
    .go 0, .go 0, .go 0, .go 0, .fail 0, .go 0]

/-- The thread of the bridge in its call. -/
def opening : Thread :=
  .front (.inside (.modem (.dial .commandMode (some 5000)))) (some (.openForLease 5000))

theorem works_while_down : ∃ (s₀ : System) (g : Gateway) (t : Thread),
    System.boot bridgeBesideWifi "" {} = .ok s₀ ∧
    Relation.ReflTransGen (Step true) { system := s₀ } g ∧ g.Works t ∧
    g.outstanding.modemUp = false :=
  ⟨_, _, opening, rfl, run_of_turns _ openForClient, ⟨rfl, _, rfl, rfl⟩, rfl⟩

end Gateway

end EdgeGateway
