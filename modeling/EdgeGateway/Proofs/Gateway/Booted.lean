import EdgeGateway.Proofs.Gateway.Run

/-!
# EdgeGateway.Proofs.Gateway.Booted

How a gateway begins.

* `System.Fitted` : which parts there are, all of them new.
* `System.Posted` : which tasks have a thread, and no thread has moved.
* `System.Booted` : a gateway that has been booted. Its tasks are manned, and its crew is new.
-/

namespace EdgeGateway

namespace System

variable {s s' : System} {js : List Task} {arbiter wifi cellular bridge mqtt : Bool}

/-- No task is on an errand yet. -/
def noErrand : Task → Option Errand := fun _ => none

structure Fitted (s : System) (arbiter wifi cellular bridge mqtt : Bool) : Prop where
  new : (s.crew noErrand).New
  plain : s.plainWifi = false
  arbiter : s.arbiter.isSome = arbiter
  wifi : s.wifi.isSome = wifi
  cellular : s.cellular.isSome = cellular
  bridge : s.bridge.isSome = bridge
  mqtt : s.mqtt.isSome = mqtt
  subscriber : s.subscriber = none

structure Posted (s : System) (js : List Task) : Prop where
  fresh : s.Fresh
  distinct : s.Distinct
  idle : ∀ i t, s.thread? i = some t →
    t.errand = none ∧ t.stage = .free ∧ t.role.isTask = true
  alone : ∀ i i' t t' j, s.thread? i = some t → s.thread? i' = some t' →
    t.role.task? = some j → t'.role.task? = some j → i = i'
  runs : ∀ j, j ∈ js ↔ ∃ i t, s.thread? i = some t ∧ t.role.task? = some j

namespace Posted

theorem nil (h : s.threads = []) : s.Posted [] := by
  have hnone (i : Nat) : s.thread? i = none := by
    rw [thread?, h]
    rfl
  refine ⟨fun i _ => hnone i, by simp [Distinct, h], fun i t hi => ?_, fun i i' t t' j hi => ?_,
    fun j => ⟨fun hj => absurd hj List.not_mem_nil, ?_⟩⟩
  · rw [hnone] at hi
    cases hi
  · rw [hnone] at hi
    cases hi
  · rintro ⟨i, t, hi, -⟩
    rw [hnone] at hi
    cases hi

theorem spawn (h : s.Posted js) (actor : Actor) {role : Role} {j : Task}
    (hr : role.task? = some j) (hj : j ∉ js) : (s.spawn actor role none).Posted (j :: js) := by
  have hself : (s.spawn actor role none).thread? s.nextThread =
      some { id := s.nextThread, actor, role } := by
    rw [thread?_spawn, h.fresh _ (Nat.le_refl _), if_pos rfl]
    rfl
  have hkeep {i : Nat} {t : Thread} (hi : s.thread? i = some t) :
      (s.spawn actor role none).thread? i = some t := by
    rw [thread?_spawn, hi]
    rfl
  have hcases {i : Nat} {t : Thread} (hi : (s.spawn actor role none).thread? i = some t) :
      s.thread? i = some t ∨ (i = s.nextThread ∧ t = { id := s.nextThread, actor, role }) := by
    rw [thread?_spawn] at hi
    cases hold : s.thread? i with
    | some t' =>
      rw [hold] at hi
      exact .inl hi
    | none =>
      rw [hold, Option.none_or] at hi
      split at hi <;> cases hi
      exact .inr ⟨Eq.symm ‹_›, rfl⟩
  have hmine {i : Nat} {t : Thread} (hi : s.thread? i = some t) : t.role.task? ≠ some j :=
    fun hj' => hj ((h.runs j).mpr ⟨i, t, hi, hj'⟩)
  refine ⟨fun i hi => ?_, h.distinct.spawn h.fresh actor role none, fun i t hi => ?_,
    fun i i' t t' j' hi hi' hj' hj'' => ?_, fun j' => ?_⟩
  · have hi : s.nextThread + 1 ≤ i := hi
    rw [thread?_spawn, h.fresh i (by omega), if_neg (by omega)]
    rfl
  · rcases hcases hi with hi | ⟨-, rfl⟩
    · exact h.idle i t hi
    · refine ⟨rfl, rfl, ?_⟩
      rw [Role.isTask_eq, hr]
      rfl
  · rcases hcases hi with hi | ⟨rfl, rfl⟩ <;> rcases hcases hi' with hi' | ⟨rfl, rfl⟩
    · exact h.alone i i' t t' j' hi hi' hj' hj''
    · cases hr.symm.trans hj''
      exact absurd hj' (hmine hi)
    · cases hr.symm.trans hj'
      exact absurd hj'' (hmine hi')
    · rfl
  · rw [List.mem_cons]
    constructor
    · rintro (rfl | hmem)
      · exact ⟨_, _, hself, hr⟩
      · obtain ⟨i, t, hi, hj'⟩ := (h.runs j').mp hmem
        exact ⟨i, t, hkeep hi, hj'⟩
    · rintro ⟨i, t, hi, hj'⟩
      rcases hcases hi with hi | ⟨-, rfl⟩
      · exact .inr ((h.runs j').mpr ⟨i, t, hi, hj'⟩)
      · exact .inl (Option.some.inj (hj'.symm.trans hr))

theorem manned (h : s.Posted js) (hf : s.Fitted arbiter wifi cellular bridge mqtt)
    (ho : ∀ j, j ∉ js → s.Over j) : s.Manned noErrand where
  fresh := h.fresh
  distinct := h.distinct
  kinded kind l hl := by
    obtain ⟨policy, heq⟩ := hf.new.link kind l.own (by simp [crew, hl])
    exact congrArg Link.kind heq
  wifi := hf.plain
  own i t hi := Role.isOwn_of_isTask (h.idle i t hi).2.2
  alone := h.alone
  errands i t _ hi _ := (h.idle i t hi).1.symm
  engaged i t hi := .free (h.idle i t hi).1 (h.idle i t hi).2.1
  ends j := by
    by_cases hj : j ∈ js
    · exact .inr ((h.runs j).mp hj)
    · exact .inl (ho j hj)

end Posted

namespace Fitted

theorem ofSettings (settings : Settings) (suffix : String) :
    (ofSettings settings suffix).Fitted false false false false false where
  new := by
    refine ⟨fun kind l hl => ?_, fun b hb => ?_, fun t ht => ?_, fun a ha => ?_, fun _ => rfl⟩
    · cases kind <;> cases hl
    · cases hb
    · cases ht
    · cases ha
  plain := rfl
  arbiter := rfl
  wifi := rfl
  cellular := rfl
  bridge := rfl
  mqtt := rfl
  subscriber := rfl

theorem addArbiter (h : s.Fitted false wifi cellular bridge mqtt) (x : Bool) :
    (if x = true then s.addArbiter else s).Fitted x wifi cellular bridge mqtt := by
  cases x with
  | false => exact h
  | true => exact { h with
      new := { h.new with arbiter := by rintro _ ⟨⟩; rfl }
      arbiter := rfl }

theorem addWifi (h : s.Fitted arbiter false cellular bridge mqtt) (x : Bool) :
    (if x = true then s.addLink .wifi else s).Fitted arbiter x cellular bridge mqtt := by
  cases x with
  | false => exact h
  | true =>
    refine { h with new := { h.new with link := fun kind l hl => ?_ }, wifi := rfl }
    cases kind with
    | wifi =>
      cases hl
      exact ⟨_, rfl⟩
    | cellular => exact h.new.link .cellular l hl
    | none => cases hl

theorem addCellular (h : s.Fitted arbiter wifi false bridge mqtt) (x : Bool) :
    (if x = true then s.addLink .cellular else s).Fitted arbiter wifi x bridge mqtt := by
  cases x with
  | false => exact h
  | true =>
    refine { h with new := { h.new with link := fun kind l hl => ?_ }, cellular := rfl }
    cases kind with
    | wifi => exact h.new.link .wifi l hl
    | cellular =>
      cases hl
      exact ⟨_, rfl⟩
    | none => cases hl

theorem addBridge (h : s.Fitted arbiter wifi cellular false mqtt) (gatt : Option Gatt) :
    ({ s.addBridge with gatt } : System).Fitted arbiter wifi cellular true mqtt := by
  refine { h with new := { h.new with bridge := ?_ }, bridge := rfl }
  rintro _ ⟨⟩
  exact ⟨_, _, rfl⟩

theorem addMqtt (h : s.Fitted arbiter wifi cellular bridge false) (x : Bool) :
    (if x = true then s.addMqtt else s).Fitted arbiter wifi cellular bridge x := by
  cases x with
  | false => exact h
  | true =>
    refine { h with new := { h.new with mqtt := ?_ }, mqtt := rfl }
    rintro _ ⟨⟩
    exact ⟨_, rfl⟩

theorem absent (h : s.Fitted arbiter wifi cellular bridge mqtt) :
    (wifi = false → s.Over (.link .wifi)) ∧ (cellular = false → s.Over (.link .cellular)) ∧
      s.Over (.link .none) ∧ (bridge = false → s.Over .bridge) ∧ (mqtt = false → s.Over .mqtt) := by
  refine ⟨fun hx l hl => ?_, fun hx l hl => ?_, fun l hl => ?_, fun hx b hb => ?_,
    fun hx t ht => ?_⟩
  · have hsome := h.wifi
    rw [show s.wifi = some l from hl, hx] at hsome
    cases hsome
  · have hsome := h.cellular
    rw [show s.cellular = some l from hl, hx] at hsome
    cases hsome
  · cases hl
  · have hsome := h.bridge
    rw [hb, hx] at hsome
    cases hsome
  · have hsome := h.mqtt
    rw [ht, hx] at hsome
    cases hsome

end Fitted

structure Booted (settings : Settings) (p : Provided) (s : System) : Prop where
  manned : s.Manned noErrand
  new : (s.crew noErrand).New
  arbiter : s.arbiter.isSome = p.modem
  bridge : s.bridge.isSome = settings.features.bleModem
  subscriber : s.subscriber = none
  idle : ∀ i t, s.thread? i = some t → t.stage = .free ∧ t.role.isTask = true

theorem Fitted.spawn (h : s.Fitted arbiter wifi cellular bridge mqtt) (x : Bool) (actor : Actor)
    (role : Role) : (if x = true then s.spawn actor role none else s).Fitted
      arbiter wifi cellular bridge mqtt := by
  cases x with
  | false => exact h
  | true => exact ⟨h.new, h.plain, h.arbiter, h.wifi, h.cellular, h.bridge, h.mqtt, h.subscriber⟩

theorem Posted.start (h : s.Posted js) (x : Bool) (actor : Actor) (role : Role) {j : Task}
    (hr : role.task? = some j) (hj : j ∉ js) :
    (if x = true then s.spawn actor role none else s).Posted ((if x then [j] else []) ++ js) := by
  cases x with
  | false => exact h
  | true => exact h.spawn actor hr hj

/-- The tasks of a gateway whose parts are there are started. -/
theorem Fitted.started {settings : Settings} {p : Provided} {f : Features}
    (hf : settings.features = f)
    (h : s.Fitted p.modem f.wifi f.cellular f.bleModem f.mqtt) (hp : s.Posted [])
    (hs : s' = { (let s := if f.bleModem then s.startBridge else s
      let s := if f.wifi then s.startLink .wifi else s
      let s := if f.cellular then s.startLink .cellular else s
      if f.mqtt then s.startMqtt else s) with controlled := f.bleModem }) :
    s'.Booted settings p := by
  have f₁ := (((h.spawn f.bleModem .bridge .bridge).spawn f.wifi .wifi (.link .wifi)).spawn
    f.cellular .ppp (.link .cellular)).spawn f.mqtt .mqtt .mqtt
  have p₁ := hp.start f.bleModem .bridge .bridge rfl nofun
  have p₂ := p₁.start f.wifi .wifi (.link .wifi) rfl (by cases f.bleModem <;> simp)
  have p₃ := p₂.start f.cellular .ppp (.link .cellular) rfl
    (by cases f.bleModem <;> cases f.wifi <;> simp)
  have p₄ := p₃.start f.mqtt .mqtt .mqtt rfl
    (by cases f.bleModem <;> cases f.wifi <;> cases f.cellular <;> simp)
  obtain ⟨hw, hc, hn, hb, hm⟩ := f₁.absent
  have hman := p₄.manned f₁ fun j hj => ?_
  · subst hs
    exact ⟨hman.deliver (.aside rfl) rfl rfl, f₁.new, f₁.arbiter, hf ▸ f₁.bridge, f₁.subscriber,
      fun i t hi => (p₄.idle i t hi).2⟩
  · cases j with
    | link kind =>
      cases kind with
      | wifi => exact hw (Bool.eq_false_iff.mpr fun hx => hj (by simp [hx]))
      | cellular => exact hc (Bool.eq_false_iff.mpr fun hx => hj (by simp [hx]))
      | none => exact hn
    | bridge => exact hb (Bool.eq_false_iff.mpr fun hx => hj (by simp [hx]))
    | mqtt => exact hm (Bool.eq_false_iff.mpr fun hx => hj (by simp [hx]))

theorem booted {settings : Settings} {suffix : String} {p : Provided}
    (h : boot settings suffix p = .ok s) : s.Booted settings p := by
  unfold boot at h
  split at h
  · cases h
  · extract_lets f at h
    split at h
    · cases h
    · rename_i bare s₁ s₂ s₃ finish _ _
      have f₁ : s₁.Fitted p.modem false false false false := (Fitted.ofSettings _ _).addArbiter _
      have f₂ : s₂.Fitted p.modem f.wifi false false false := f₁.addWifi _
      have f₃ : s₃.Fitted p.modem f.wifi f.cellular false false := f₂.addCellular _
      have t₃ : s₃.threads = [] := by
        simp only [s₃, s₂, s₁, bare]
        (repeat' split) <;> rfl
      clear_value s₃
      have started {s₄ : System} (f₄ : s₄.Fitted p.modem f.wifi f.cellular f.bleModem false)
          (t₄ : s₄.threads = []) (h : finish s₄ = .ok s) : s.Booted settings p := by
        cases h
        have f₅ := f₄.addMqtt f.mqtt
        have p₅ : (if f.mqtt = true then s₄.addMqtt else s₄).Posted [] :=
          .nil (by split <;> exact t₄)
        exact f₅.started rfl p₅ rfl
      split at h
      · rename_i hble
        unfold addGatt at h
        cases hg : Gatt.ofSettings s₃.addBridge.settings.ble with
        | error e =>
          rw [hg] at h
          cases h
        | ok g =>
          rw [hg] at h
          have f₄ : System.Fitted { s₃.addBridge with gatt := some g } p.modem f.wifi f.cellular
              f.bleModem false := hble ▸ f₃.addBridge (some g)
          exact started f₄ t₃ h
      · rename_i hble
        exact started (Bool.eq_false_iff.mpr hble ▸ f₃) t₃ h

/-- What is taken over from the settings, and the output that nobody has switched yet. -/
theorem taken_of_boot {settings : Settings} {suffix : String} {p : Provided}
    (h : boot settings suffix p = .ok s) :
    s.settings = settings ∧ s.switch = {} ∧ s.defaultLink = settings.defaultLink := by
  unfold boot at h
  split at h
  · cases h
  · extract_lets f at h
    split at h
    · cases h
    · rename_i bare s₁ s₂ s₃ finish _ _
      have htaken : s₃.settings = settings ∧ s₃.switch = {} ∧
          s₃.defaultLink = settings.defaultLink := by
        simp only [s₃, s₂, s₁, bare]
        (repeat' split) <;> exact ⟨rfl, rfl, rfl⟩
      clear_value s₃
      have started {s₄ : System} (h : finish s₄ = .ok s) : s.settings = s₄.settings ∧
          s.switch = s₄.switch ∧ s.defaultLink = s₄.defaultLink := by
        cases h
        dsimp only
        (repeat' split) <;> exact ⟨rfl, rfl, rfl⟩
      split at h
      · unfold addGatt at h
        cases hg : Gatt.ofSettings s₃.addBridge.settings.ble with
        | error e =>
          rw [hg] at h
          cases h
        | ok g =>
          rw [hg] at h
          obtain ⟨hsettings, hswitch, hdefault⟩ := started h
          exact ⟨hsettings.trans htaken.1, hswitch.trans htaken.2.1,
            hdefault.trans htaken.2.2⟩
      · obtain ⟨hsettings, hswitch, hdefault⟩ := started h
        exact ⟨hsettings.trans htaken.1, hswitch.trans htaken.2.1,
          hdefault.trans htaken.2.2⟩

end System

end EdgeGateway
