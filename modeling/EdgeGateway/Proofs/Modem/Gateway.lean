import EdgeGateway.Boot
import EdgeGateway.Proofs.Modem.Thread

/-!
# EdgeGateway.Proofs.Modem.Gateway

The modem in a running gateway.

* `System.Event` : what happens to a gateway from outside its threads, waits that run out included.
* `System.Goes`  : a move of a thread, or an event.

Every run shows traffic at the arbiter (`System.shows_of_run`), so what is known of traffic is
known of the gateway: no two threads drive the modem, nor does any while a lease is out
(`System.drives_alone`).
-/

namespace EdgeGateway

namespace System

variable {s s' : System} {w : Traffic} {Modem : ModemBehaviour} {mode mode' : Option ModemMode}

inductive Event (s : System) : System → Prop where
  | notifyLink (kind : LinkKind) (c : Command) : Event s (s.notifyLink kind c).1
  | notifyApp (c : Command) : Event s (s.notifyApp c).1
  | ipLost (kind : LinkKind) : Event s (s.ipLost kind).1
  | brokerLost : Event s s.brokerLost
  | brokerMessage (payload : Bytes) : Event s (s.brokerMessage payload)
  | gatt (e : GattEvent) : Event s (s.handleEvent e).1
  | control (bytes : Bytes) : Event s (s.control bytes).1
  | post {m : BridgeMessage} {s' : System} : s.postToBridge m = some s' → Event s s'
  | console : Event s s.startConsole
  | chore (c : Chore) : Event s (s.startChore c)
  | shutdown : Event s s.startShutdown
  | job {e : Errand} : e.IsRequest (·.ppp = true) → Event s (s.startJob e)
  | linkLimit {l : Link} {ms : Nat} : s.link? l.kind = some l → l.request = .wait (some ms) →
      l.pending.bits = 0 → Event s (s.setLink (l.resume (.commands .empty)))
  | mqttLimit {t : Mqtt} {ms : Nat} : s.mqtt = some t → t.request = .wait (some ms) →
      t.pending.bits = 0 → Event s { s with mqtt := some (t.resume (.commands .empty)) }
  | patience {t : Thread} {e e' : Errand} {a a' : Arbiter} : s.thread? t.id = some t →
      t.stage = .free → t.errand = some e → s.arbiter = some a → e.patience.isSome = true →
      a.enter true e = some (a', e') →
      Event s ({ s with arbiter := some a' }.setThread { t with errand := some e' })

/-- A step of the gateway with its modem. -/
inductive Goes (Modem : ModemBehaviour) :
    System × Option ModemMode → System × Option ModemMode → Prop where
  | move {s s' : System} {mode mode' : Option ModemMode} : Moves Modem s mode s' mode' →
      Goes Modem (s, mode) (s', mode')
  | event {s s' : System} {mode : Option ModemMode} : Event s s' →
      Goes Modem (s, mode) (s', mode)

theorem Event.shows (Modem : ModemBehaviour) (h : s.Shows w) (he : Event s s') :
    ∃ w', Relation.ReflGen (Traffic.Step Modem (·.ppp = true)) w w' ∧ s'.Shows w' ∧
      w'.mode = w.mode := by
  have quiet (hu : s.Undisturbed s') : ∃ w', Relation.ReflGen
      (Traffic.Step Modem (·.ppp = true)) w w' ∧ s'.Shows w' ∧ w'.mode = w.mode :=
    ⟨w, .refl, h.undisturbed hu, rfl⟩
  cases he with
  | notifyLink kind c => exact quiet (Commanded.notifyLink s kind c).alike.undisturbed
  | notifyApp c => exact quiet (Commanded.notifyApp s c).alike.undisturbed
  | ipLost kind => exact quiet (Commanded.ipLost s kind).alike.undisturbed
  | brokerLost => exact quiet (Alike.undisturbed ⟨rfl, rfl, rfl⟩)
  | brokerMessage payload => exact quiet (Alike.undisturbed ⟨rfl, rfl, rfl⟩)
  | gatt e => exact quiet (Commanded.handleEvent s e).alike.undisturbed
  | control bytes => exact quiet (Commanded.control s bytes).alike.undisturbed
  | post hp => exact quiet (Commanded.postToBridge hp).alike.undisturbed
  | console =>
    have : s.Undisturbed { s with console := some {} } := Alike.undisturbed ⟨rfl, rfl, rfl⟩
    exact quiet (this.spawn .console .console)
  | chore c =>
    have : s.Undisturbed { s with choreResult := none } := Alike.undisturbed ⟨rfl, rfl, rfl⟩
    exact quiet (this.spawn .main (.chore c))
  | shutdown =>
    have : s.Undisturbed s := Alike.undisturbed ⟨rfl, rfl, rfl⟩
    exact quiet (this.spawn .shutdown (.shutdown .notifying))
  | @job e hreq =>
    have hw : w.errands s.nextThread = none := by
      rw [← h.errands, engagement?, h.orderly.fresh _ (Nat.le_refl _)]
      rfl
    refine ⟨_, .single (.come hw hreq), ⟨h.arbiter, fun i => ?_, fun i e' stage hi => ?_,
      h.orderly.spawn .job .job (some e)⟩, rfl⟩
    · rw [startJob, engagement?_spawn h.orderly]
      by_cases hi : i = s.nextThread
      · subst hi
        simp [Traffic.set]
      · simp [Traffic.set, Function.update_of_ne hi, h.errands]
    · rw [startJob, engagement?_spawn h.orderly] at hi
      by_cases hid : i = s.nextThread
      · subst hid
        rw [Function.update_self] at hi
        cases hi
        exact .inl rfl
      · rw [Function.update_of_ne hid] at hi
        exact h.stages i e' stage hi
  | linkLimit _ _ _ => exact quiet (Commanded.setLink s _).alike.undisturbed
  | mqttLimit _ _ _ => exact quiet (Alike.undisturbed ⟨rfl, rfl, rfl⟩)
  | @patience t e e' a a' ht hs he ha hp henter =>
    cases ha.symm.trans h.arbiter
    have hw : w.errands t.id = some e := by rw [h.errand ht, he]
    have := h.set (u := { t with errand := some e' }) ht rfl (.inl hs) (w.entered t.id e a' e') rfl
    exact ⟨_, .single (.enter hw (fun _ => hp) henter), this, rfl⟩

theorem shows_of_run {g : System × Option ModemMode} (h : s.Shows w)
    (hr : Relation.ReflTransGen (Goes Modem) (s, w.mode) g) :
    ∃ w', Relation.ReflTransGen (Traffic.Step Modem (·.ppp = true)) w w' ∧ g.1.Shows w' ∧
      w'.mode = g.2 := by
  induction hr with
  | refl => exact ⟨w, .refl, h, rfl⟩
  | tail _ hg ih =>
    obtain ⟨w₁, hw₁, h₁, hmode⟩ := ih
    cases hg with
    | move hm =>
      subst hmode
      obtain ⟨w₂, hw₂, h₂⟩ := hm.shows h₁
      exact ⟨w₂, hw₁.trans hw₂.to_reflTransGen, h₂⟩
    | event he =>
      obtain ⟨w₂, hw₂, h₂, hmode₂⟩ := he.shows Modem h₁
      exact ⟨w₂, hw₁.trans hw₂.to_reflTransGen, h₂, hmode₂.trans hmode⟩

/-! ## From boot on -/

theorem Undisturbed.ite {s₁ s₂ : System} (c : Prop) [Decidable c] (h₁ : s.Undisturbed s₁)
    (h₂ : s.Undisturbed s₂) : s.Undisturbed (if c then s₁ else s₂) := by
  split
  · exact h₁
  · exact h₂

theorem undisturbed_addLink (s : System) (kind : LinkKind) :
    s.Undisturbed (s.addLink kind) := by
  cases kind <;> exact Alike.undisturbed ⟨rfl, rfl, rfl⟩

theorem shows_of_nil (ha : s.arbiter = some {}) (ht : s.threads = []) : s.Shows {} := by
  have hnone (i : Nat) : s.thread? i = none := by
    rw [thread?, ht]
    rfl
  refine ⟨ha, fun i => ?_, fun i e stage hi => ?_, fun i _ => hnone i, fun i t hi => ?_⟩
  · rw [engagement?, hnone]
    rfl
  · rw [engagement?, hnone] at hi
    cases hi
  · rw [hnone] at hi
    cases hi

/-- Tasks are started without errands. -/
theorem shows_of_boot {settings : Settings} {suffix : String} {p : Provided}
    (h : boot settings suffix p = .ok s) (hp : p.modem = true) : s.Shows {} := by
  let s₀ := (ofSettings settings suffix).addArbiter
  suffices s₀.Undisturbed s from (shows_of_nil (s := s₀) rfl rfl).undisturbed this
  unfold boot at h
  split at h
  · cases h
  · extract_lets f at h
    split at h
    · cases h
    · rename_i bare s₁ s₂ s₃ finish _ _
      have u₁ : s₀.Undisturbed s₁ := by
        rw [show s₁ = bare.addArbiter from if_pos hp]
        exact Alike.undisturbed ⟨rfl, rfl, rfl⟩
      have u₂ : s₀.Undisturbed s₂ := .ite _ (u₁.trans (undisturbed_addLink s₁ .wifi)) u₁
      have u₃ : s₀.Undisturbed s₃ := .ite _ (u₂.trans (undisturbed_addLink s₂ .cellular)) u₂
      clear_value s₃
      have started {s₄ : System} (u : s₀.Undisturbed s₄) (h : finish s₄ = .ok s) :
          s₀.Undisturbed s := by
        cases h
        have added : s₀.Undisturbed s₄.addMqtt := u.alike ⟨rfl, rfl, rfl⟩
        have u := Undisturbed.ite (f.mqtt = true) added u
        have u := Undisturbed.ite (f.bleModem = true) (u.spawn .bridge .bridge) u
        have u := Undisturbed.ite (f.wifi = true) (u.spawn .wifi (.link .wifi)) u
        have u := Undisturbed.ite (f.cellular = true) (u.spawn .ppp (.link .cellular)) u
        have u := Undisturbed.ite (f.mqtt = true) (u.spawn .mqtt .mqtt) u
        exact u.alike ⟨rfl, rfl, rfl⟩
      split at h
      · unfold addGatt at h
        cases hg : Gatt.ofSettings s₃.addBridge.settings.ble with
        | error e =>
          rw [hg] at h
          cases h
        | ok g =>
          rw [hg] at h
          have u₄ : s₀.Undisturbed { s₃.addBridge with gatt := some g } :=
            u₃.alike ⟨rfl, rfl, rfl⟩
          exact started u₄ h
      · exact started u₃ h

/-- In a gateway that has been booted with a modem no two threads are in modem calls, and none is
while a lease is out. -/
theorem drives_alone {settings : Settings} {suffix : String} {p : Provided} {s₀ : System}
    (hb : boot settings suffix p = .ok s₀) (hp : p.modem = true)
    (hr : Relation.ReflTransGen (Goes Modem) (s₀, none) (s, mode)) {t : Thread} {c : ModemCall}
    (ht : s.thread? t.id = some t) (hc : t.stage = .inside (.modem c)) :
    (∀ (u : Thread) (d : ModemCall), s.thread? u.id = some u → u.stage = .inside (.modem d) →
      u.id = t.id) ∧
    ∀ a, s.arbiter = some a → a.lease = none := by
  obtain ⟨w, hw, h, -⟩ := shows_of_run (shows_of_boot hb hp) hr
  have ho := Traffic.Orderly.reach hw
  have isAt {u : Thread} {d : ModemCall} (hu : s.thread? u.id = some u)
      (hd : u.stage = .inside (.modem d)) : w.IsAt u.id := by
    cases he : u.errand with
    | none =>
      have := h.orderly.calm _ u hu he
      rw [hd] at this
      cases this
    | some e =>
      refine ⟨e, by rw [h.errand hu, he], ?_⟩
      rcases h.stage hu he with hf | ⟨d', hs, hcall⟩
      · rw [hf] at hd
        cases hd
      · exact Errand.isAtModem_of_call? hcall
  refine ⟨fun u d hu hd => ho.alone _ _ (isAt hu hd) (isAt ht hc), fun a ha => ?_⟩
  cases h.arbiter.symm.trans ha
  cases hl : w.arbiter.lease with
  | none => rfl
  | some lease =>
    have hbusy := ho.busy _ (isAt ht hc)
    rw [ho.idle_of_lease (by rw [hl]; rfl)] at hbusy
    cases hbusy

end System

end EdgeGateway
