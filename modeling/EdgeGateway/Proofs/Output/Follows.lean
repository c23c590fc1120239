import EdgeGateway.Proofs.Gateway.Schedule
import EdgeGateway.Proofs.Output.Tracked

/-!
# EdgeGateway.Proofs.Output.Follows

The device output of a running gateway follows the messages of its broker
(`Gateway.output_follows`).

* `Gateway.OutputStep` : a step of the gateway, and what is done in it about the output.
* `Gateway.OutputRun`  : a run, and all that is done in it. Every run is one
  (`Gateway.exists_outputRun`).
* `Gateway.deedsOf`    : what a turn does about the output, for runs that can be computed.
* `Gateway.FollowsMessages` : the recorded state, the calls and the messages agree.
-/

namespace EdgeGateway

open Output

namespace Gateway

/-- A step of the gateway, whatever fails. -/
inductive OutputStep : Gateway → List Deed → Gateway → Prop where
  | step {s s' : System} {k : Outstanding} {t : Thread} : s.thread? t.id = some t →
      s.next t = .step s' → OutputStep ⟨s, k⟩ (s.stepDeeds t) ⟨s', k⟩
  | start {s s' : System} {k : Outstanding} {t : Thread} {c : Call} : s.thread? t.id = some t →
      s.next t = .start c s' → OutputStep ⟨s, k⟩ c.deeds ⟨s', k⟩
  | answer {s : System} {k : Outstanding} {t : Thread} {c : Call} {a : Answer} :
      s.thread? t.id = some t → s.next t = .inside c → c.Brings a →
      OutputStep ⟨s, k⟩ [] ⟨s.answer t c a, k.after c a⟩
  | event {s s' : System} {k : Outstanding} : s.Event s' → s'.Own → OutputStep ⟨s, k⟩ [] ⟨s', k⟩
  | lose {s : System} {k : Outstanding} (wifi modem : Bool) : OutputStep ⟨s, k⟩ []
      ⟨s, { k with
        wifiConnected := k.wifiConnected && wifi
        modemOpen := k.modemOpen && modem }⟩

inductive OutputRun (g : Gateway) : List Deed → Gateway → Prop where
  | start : OutputRun g [] g
  | step {log deeds : List Deed} {g' g'' : Gateway} : OutputRun g log g' →
      OutputStep g' deeds g'' → OutputRun g (log ++ deeds) g''

variable {g g' g₀ : Gateway} {log deeds : List Deed} {c : MqttSettings}
  {errand : Task → Option Errand}

theorem OutputStep.isStep (h : OutputStep g deeds g') : Step false g g' := by
  cases h with
  | step ht hn => exact .step ht hn
  | start ht hn => exact .start ht hn
  | answer ht hn hb => exact .answer ht hn hb nofun
  | event he ho => exact .event he ho
  | lose wifi modem => exact .lose wifi modem

theorem Step.exists_deeds {tidy : Bool} (h : Step tidy g g') : ∃ deeds, OutputStep g deeds g' := by
  cases h with
  | step ht hn => exact ⟨_, .step ht hn⟩
  | start ht hn => exact ⟨_, .start ht hn⟩
  | answer ht hn hb _ => exact ⟨_, .answer ht hn hb⟩
  | event he ho => exact ⟨_, .event he ho⟩
  | lose wifi modem => exact ⟨_, .lose wifi modem⟩

theorem OutputRun.isRun (h : OutputRun g log g') : Relation.ReflTransGen (Step false) g g' := by
  induction h with
  | start => exact .refl
  | step _ hs ih => exact ih.tail hs.isStep

theorem exists_outputRun {tidy : Bool} (h : Relation.ReflTransGen (Step tidy) g g') :
    ∃ log, OutputRun g log g' := by
  induction h with
  | refl => exact ⟨[], .start⟩
  | tail _ hs ih =>
    obtain ⟨log, hrun⟩ := ih
    obtain ⟨deeds, hs⟩ := hs.exists_deeds
    exact ⟨_, hrun.step hs⟩

/-! ## Turns -/

/-- What a turn does about the output. -/
def deedsOf (g : Gateway) : Turn → List Deed
  | .go i =>
    match g.system.go? i with
    | some (_, some c, _) => c.deeds
    | some (t, none, _) => g.system.stepDeeds t
    | none => []
  | _ => []

theorem deedsOf_of_ne {x : Turn} (hx : ∀ i, x ≠ .go i) : g.deedsOf x = [] := by
  cases x with
  | go i => exact absurd rfl (hx i)
  | succeed | fail | client | message | app | shutdown => rfl

theorem outputStep_of_turn? {x : Turn} (h : g.turn? x = some g') :
    OutputStep g (g.deedsOf x) g' := by
  cases takes_of_turn? h with
  | go hgo =>
    obtain ⟨-, ht, hgoes⟩ := System.goesOn_of_go? hgo
    simp only [deedsOf, hgo]
    cases hgoes with
    | step hm => exact .step ht hm
    | start hm => exact .start ht hm
  | returns hx ht hm hb _ =>
    rw [deedsOf_of_ne hx]
    exact .answer ht hm hb
  | outside hx he hown =>
    rw [deedsOf_of_ne hx]
    exact .event he hown

/-- A turn with what it does about the output. -/
def follow (g : Gateway) (x : Turn) : Option (List Deed × Gateway) :=
  (g.turn? x).map (g.deedsOf x, ·)

theorem OutputRun.play (h : OutputRun g₀ log g) (xs : List Turn) :
    OutputRun g₀ (play (logged follow) (log, g) xs).1 (play (logged follow) (log, g) xs).2 := by
  refine run_of_play_logged follow (fun log g x deeds g' h hfollow => ?_) h xs
  obtain ⟨g', hturn, heq⟩ := Option.map_eq_some_iff.mp hfollow
  cases heq
  exact h.step (outputStep_of_turn? hturn)

/-! ## Steps against the messages -/

theorem OutputStep.tracked (hs : OutputStep g deeds g') (h : g.system.Tracked c log)
    (hserved : g.system.Served) (hman : g.system.Manned errand)
    (hu : ∀ task, g.system.mqtt = some task → task.Undone) :
    g'.system.Tracked c (log ++ deeds) := by
  cases hs with
  | step ht hn => exact h.of_step hserved hman hu ht hn
  | start ht hn => exact h.of_start hserved hman hu ht hn
  | answer ht hn hb =>
    rw [List.append_nil]
    exact h.of_answer hman ht hn hb
  | event he _ =>
    rw [List.append_nil]
    exact h.apart (System.apart_of_event hman he)
  | lose _ _ =>
    rw [List.append_nil]
    exact h

/-! ## A message is carried out -/

/-- The call of a subscriber comes back. -/
theorem exists_settled_of_inside (hman : g.system.Manned errand) {t : Thread}
    (ht : g.system.thread? t.id = some t) (hr : t.role = .subscriber) {call : Call}
    (hc : t.stage = .inside call) : ∃ g', OutputStep g [] g' ∧ g'.system.switching? = none :=
  have hn : g.system.next t = .inside call := by simp only [System.next, hc]
  ⟨_, .answer ht hn (.inl call.succeeds_success), hman.switching?_of_answer ht hr call _⟩

/-- Nobody keeps it from what a message has named, and it needs no further one. -/
theorem exists_settled (h : g.system.Tracked c log) (hserved : g.system.Served)
    (hman : g.system.Manned errand) :
    ∃ deeds g', OutputRun g deeds g' ∧ heard deeds = [] ∧ g'.system.switching? = none := by
  cases hsome : g.system.switching? with
  | none => exact ⟨[], g, .start, rfl, hsome⟩
  | some on =>
    obtain ⟨i, t, ht, hr⟩ := h.serving on hsome
    have ht : g.system.thread? t.id = some t := System.id_of_thread? ht ▸ ht
    obtain ⟨b, hb, hp⟩ := System.switching?_eq_some.mp hsome
    rcases hman.next_of_subscriber ht hr with ⟨call, hc⟩ | ⟨-, hn⟩
    · obtain ⟨g', hs, hnone⟩ := exists_settled_of_inside hman ht hr hc
      exact ⟨[], g', .step .start hs, rfl, hnone⟩
    · rw [h.intent_of_switching hserved hman ht hr hb hp] at hn
      by_cases hon : g.system.switch.on = on
      · rw [if_pos hon] at hn
        have hq : b.request ≠ .receive := by
          rw [Subscriber.request_eq_drive.mpr hp]
          exact nofun
        refine ⟨_, _, .step .start (.step ht hn), ?_, Subscriber.switching?_resume nofun⟩
        rw [System.stepDeeds_of_subscriber hr hb hq]
        rfl
      · rw [if_neg hon] at hn
        have hstart : g.system.next t = .start (.drive on) (g.system.enterCall t (.drive on)) := by
          rw [hn]
          simp only [System.tryCall, Call.lock?, h.unlocked hserved hman ht hr, Bool.false_eq_true,
            if_false]
        let u : Thread := { t with stage := .inside (.drive on) }
        have hu : (g.system.enterCall t (.drive on)).thread? u.id = some u :=
          System.thread?_setThread_self ht rfl
        obtain ⟨g', hs, hnone⟩ := exists_settled_of_inside
          (g := ⟨g.system.enterCall t (.drive on), g.outstanding⟩) (hman.of_start ht hstart).1 hu hr
          rfl
        exact ⟨_, g', .step (.step .start (.start ht hstart)) hs, rfl, hnone⟩

/-! ## Runs -/

/-- The output after all that `log` tells of. -/
structure FollowsMessages (c : MqttSettings) (log : List Deed) (g : Gateway) : Prop where
  /-- after each message the output is in the state that the last one has named, and has been
  driven on each change of that state and at no other time -/
  settled : g.system.switching? = none →
    g.system.switch.on = standing c false (heard log) ∧ log = due c false (heard log)
  /-- while a message is carried out, the change that it asks for may be still to be made -/
  pending : ∀ on, g.system.switching? = some on → on = standing c false (heard log) ∧
    log ++ change g.system.switch.on on = due c false (heard log)
  alternates : Alternates true (driven log)
  recorded : g.system.switch.on = (driven log).getLast?.getD false
  /-- it is carried out without a further message -/
  settles : ∃ deeds g', OutputRun g deeds g' ∧ heard deeds = [] ∧ g'.system.switching? = none

/-- Whatever messages come in, and however often the client is made anew, the output follows
them. -/
theorem output_follows {settings : Settings} {suffix : String} {p : Provided} {s₀ : System}
    (hb : System.boot settings suffix p = .ok s₀) (hr : OutputRun { system := s₀ } log g) :
    g.FollowsMessages settings.mqtt log := by
  have hbooted := System.booted hb
  have htracked : g.system.Tracked settings.mqtt log := by
    induction hr with
    | start => exact .of_boot hb
    | step hr hs ih =>
      obtain ⟨errand, hman, hu⟩ := undone_of_run hbooted hr.isRun
      exact hs.tracked ih (served_of_run hbooted hr.isRun) hman hu
  obtain ⟨errand, hman, -⟩ := undone_of_run hbooted hr.isRun
  have hserved := served_of_run hbooted hr.isRun
  have hdue := htracked.due
  have halternates := alternates_due settings.mqtt false (heard log)
  rw [← hdue, driven_append] at halternates
  refine ⟨fun hnone => ?_, fun on hon => ?_, halternates.of_append, ?_,
    exists_settled htracked hserved hman⟩
  · have hon := htracked.settled hnone
    rw [hon, change_self, List.append_nil] at hdue
    exact ⟨hon, hdue⟩
  · have hwanted := htracked.switching on hon
    exact ⟨hwanted, hwanted ▸ hdue⟩
  · by_cases hon : g.system.switch.on = standing settings.mqtt false (heard log)
    · rw [hon, change_self, List.append_nil] at hdue
      rw [hon, ← getLast?_due, ← hdue]
    · -- what is still to be done is not what has been done last
      rw [change_of_ne (Ne.symm hon)] at halternates
      exact (Bool.eq_not.mpr hon).trans halternates.getLast?_of_concat.symm

/-- The broker task and nothing else. A connect is tried once. -/
def brokerAlone : Settings where
  defaultLink := .none
  features := { wifi := false, cellular := false, bleModem := false, console := false }
  mqtt := { maxRetries := 1 }

/-- A thread moves, or enters a call that succeeds, `n` times. -/
def Turn.rounds (i n : Nat) : List Turn := (List.replicate n [go i, succeed i]).flatten

/-- The output is switched on. The broker cannot be reached, so the subscriber (thread 1) goes with
its client, and another one (thread 2) comes for a new start. The output is switched off. -/
def switchedTwice : List Turn :=
  Turn.rounds 0 5 ++
  (.message (Bytes.ofText "TURN ON") :: Turn.rounds 1 2) ++
  (.message (Bytes.ofText "TURN ON") :: Turn.rounds 1 2) ++
  (.message (Bytes.ofText "blink") :: Turn.rounds 1 1) ++
  Turn.rounds 0 4 ++ Turn.rounds 1 3 ++ (.app .start :: Turn.rounds 0 12) ++
  (.message (Bytes.ofText "TURN OFF") :: Turn.rounds 2 2)

def switchedTwiceLog : List Deed :=
  [.heard (Bytes.ofText "TURN ON"), .driven true, .heard (Bytes.ofText "TURN ON"),
    .heard (Bytes.ofText "blink"), .heard (Bytes.ofText "TURN OFF"), .driven false]

theorem output_follows_a_new_client : ∃ s₀ : System, System.boot brokerAlone "" {} = .ok s₀ ∧
    (play (logged follow) ([], { system := s₀ }) switchedTwice).1 = switchedTwiceLog ∧
    (play (logged follow) ([], { system := s₀ }) switchedTwice).2.FollowsMessages brokerAlone.mqtt
      switchedTwiceLog ∧
    (play (logged follow) ([], { system := s₀ }) switchedTwice).2.system.switching? = none := by
  have hb : System.boot brokerAlone "" {} = .ok _ := rfl
  refine ⟨_, hb, rfl, ?_, rfl⟩
  exact output_follows hb (OutputRun.play .start switchedTwice)

end Gateway

end EdgeGateway
