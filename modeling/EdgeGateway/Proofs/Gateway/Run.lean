import EdgeGateway.Proofs.Gateway.Errands
import EdgeGateway.Proofs.Gateway.Following
import EdgeGateway.Proofs.Modem.Gateway

/-!
# EdgeGateway.Proofs.Gateway.Run

A gateway in operation.

* `Gateway`      : the system with what is outstanding at the parts of the board.
* `Gateway.Step` : a move of a thread, an answer, or something from outside. The gateway runs what
  it runs by itself, and nothing that a bench asks of it.

Every run is a run of the crew (`Gateway.crew_of_run`).
-/

namespace EdgeGateway

structure Gateway where
  system : System
  outstanding : Outstanding := {}

/-- All that runs is what a gateway runs by itself. -/
def System.Own (s : System) : Prop := ∀ i t, s.thread? i = some t → t.role.isOwn = true

namespace Gateway

/-- If the surroundings are `tidy`, nothing fails that undoes something. -/
inductive Step (tidy : Bool) : Gateway → Gateway → Prop where
  | step {s s' : System} {k : Outstanding} {t : Thread} : s.thread? t.id = some t →
      s.next t = .step s' → Step tidy ⟨s, k⟩ ⟨s', k⟩
  | start {s s' : System} {k : Outstanding} {t : Thread} {c : Call} : s.thread? t.id = some t →
      s.next t = .start c s' → Step tidy ⟨s, k⟩ ⟨s', k⟩
  | answer {s : System} {k : Outstanding} {t : Thread} {c : Call} {a : Answer} :
      s.thread? t.id = some t → s.next t = .inside c → c.Brings a →
      (tidy = true → c.undoes = true → a.succeeded = true) →
      Step tidy ⟨s, k⟩ ⟨s.answer t c a, k.after c a⟩
  | event {s s' : System} {k : Outstanding} : s.Event s' → s'.Own → Step tidy ⟨s, k⟩ ⟨s', k⟩
  /-- a connection is lost -/
  | lose {s : System} {k : Outstanding} (wifi modem : Bool) : Step tidy ⟨s, k⟩
      ⟨s, { k with
        wifiConnected := k.wifiConnected && wifi
        modemOpen := k.modemOpen && modem }⟩

end Gateway

namespace System

variable {s s' : System} {t u : Thread} {errand : Task → Option Errand} {tidy : Bool}
  {k : Outstanding}

theorem asked?_setStage {j : Task} (hj : t.role.task? = some j) (stage : Stage) :
    (s.intent { t with stage }).asked? = (s.intent t).asked? :=
  asked?_eq (u := { t with stage }) hj rfl rfl

theorem answer_of_call {c : Call} {a : Answer} (he : t.errand = none)
    (hc : ∀ n, c ≠ .notify n) : s.answer t c a =
      (s.setThread { t with stage := .free }).complete { t with stage := .free } (.answer a) := by
  simp only [answer, he]

theorem answer_of_notify {a : Answer} (he : t.errand = none) (n : Notification) :
    s.answer t (.notify n) a = (s.setThread { t with stage := .free }).complete
      { t with stage := .free } (.pushed a.succeeded) := by
  simp only [answer, he]

theorem exists_answer_eq (he : t.errand = none) (c : Call) (a : Answer) : ∃ x, s.answer t c a =
    (s.setThread { t with stage := .free }).complete { t with stage := .free } x := by
  cases c with
  | notify n => exact ⟨_, answer_of_notify he n⟩
  | _ => exact ⟨_, answer_of_call he fun _ heq => by cases heq⟩

/-! ## A thread on an errand -/

/-- An errand goes on, and the arbiter with it. -/
theorem Manned.setErrand (h : s.Manned errand) (ht : s.thread? t.id = some t) {e e' : Errand}
    (he : t.errand = some e) (hy : ∀ o, e'.Yields o → e.Yields o) (arbiter : Option Arbiter)
    (stage : Stage) (hturn : Thread.InTurn { t with stage, errand := some e' }) {j : Task}
    (hj : t.role.task? = some j) :
    ({ s with arbiter }.setThread { t with stage, errand := some e' }).Manned
      (Function.update errand j (some e')) := by
  obtain ⟨j', e₀, hj', -, -, hi, hy₀⟩ := h.of_errand ht he
  cases hj.symm.trans hj'
  have hs : Spares none s { s with arbiter } := .aside rfl
  have hasked : (System.intent { s with arbiter } { t with stage, errand := some e' }).asked? =
      some (.errand e₀) := by
    rw [hs.asked?_eq (t := t) (u := { t with stage, errand := some e' }) hj nofun rfl rfl, hi]
    rfl
  refine (h.deliver hs rfl rfl).setThread (u := { t with stage, errand := some e' }) ht rfl rfl
    (.errand rfl hturn hasked fun o ho => hy₀ o (hy o ho)) (fun j' hj'' => ?_) fun j' hj'' => ?_
  · cases hj.symm.trans hj''
    exact Function.update_self _ _ _
  · refine Function.update_of_ne ?_ _ _
    rintro rfl
    exact hj'' hj

/-- The thread of a task comes back from an errand. -/
theorem Manned.dropErrand (h : s.Manned errand) (ht : s.thread? t.id = some t) {j : Task}
    (hj : t.role.task? = some j) (hid : u.id = t.id) (hrole : u.role = t.role)
    (hue : u.errand = none) (huf : u.stage = .free) :
    (s.setThread u).Manned (Function.update errand j none) := by
  refine h.setThread ht hid hrole (.free hue huf) (fun j' hj' => ?_) fun j' hj' => ?_
  · cases hj.symm.trans hj'
    rw [Function.update_self, hue]
  · refine Function.update_of_ne ?_ _ _
    rintro rfl
    exact hj' hj

/-- The errand is over, and the task gets its outcome. -/
theorem Manned.endErrand (h : s.Manned errand) (ht : s.thread? t.id = some t) {o : Outcome}
    (he : t.errand = some (.ended o)) (hid : u.id = t.id) (hrole : u.role = t.role)
    (htold : u.told = t.told) (hue : u.errand = none) (huf : u.stage = .free) :
    ∃ errand', ((s.setThread u).complete u (.outcome o)).Manned errand' ∧
      Relation.ReflGen (Crew.Step tidy) (s.crew errand, k)
        (((s.setThread u).complete u (.outcome o)).crew errand', k) := by
  obtain ⟨j, e₀, hj, herr, -, hi, hy⟩ := h.of_errand ht he
  have hgone := h.dropErrand ht hj hid hrole hue huf
  have ht' : (s.setThread u).thread? u.id = some u := thread?_setThread_self ht hid
  have hi' : (s.setThread u).intent u = .errand e₀ := by
    refine errand_of_asked? ?_
    rw [(Spares.aside rfl : Spares none s (s.setThread u)).asked?_eq hj nofun hrole htold, hi]
    rfl
  have hback : Function.update (Function.update errand j none) j (some (.ended o)) = errand := by
    rw [Function.update_idem, ← herr, Function.update_eq_self]
  have hcrew : Crew.Step tidy (_, k) _ :=
    hgone.crew_of_outcome ht' hue hi' (hy o rfl) (hrole ▸ hj)
  rw [hback] at hcrew
  exact ⟨_, hgone.shift ht' hue huf
    (shifts_complete hgone.kinded hgone.fresh ht' (hgone.own _ _ ht') _), .single hcrew⟩

/-- The thread of a task that is on an errand goes on with it. -/
theorem Manned.errandMove (h : s.Manned errand) (ht : s.thread? t.id = some t) {e : Errand}
    (he : t.errand = some e) (hf : t.stage = .free) (hm : s.errandMove t e = .step s') :
    ∃ errand', s'.Manned errand' ∧
      Relation.ReflGen (Crew.Step tidy) (s.crew errand, k) (s'.crew errand', k) := by
  obtain ⟨j, e₀, hj, herr, -⟩ := h.of_errand ht he
  cases ha : s.arbiter with
  | none =>
    simp only [System.errandMove, ha] at hm
    cases hm
  | some a =>
    have hcases := errandMove_cases (t := t) ha e
    rw [hm] at hcases
    cases hcases with
    | ended ho =>
      subst ho
      exact h.endErrand (u := { t with errand := none }) ht he rfl rfl rfl rfl hf
    | skip hat hc =>
      exact ⟨_, h.setErrand ht he (fun _ => Errand.yields_of_answer a) _ t.stage (.inl hf) hj,
        .single (.skip herr ha hat hc)⟩
    | enter henter =>
      exact ⟨_, h.setErrand ht he (fun _ => Errand.yields_of_enter henter) _ t.stage (.inl hf) hj,
        .single (.enter herr ha henter)⟩

/-! ## A thread without an errand -/

/-- A thread gets on with a call. -/
theorem Manned.setStage (h : s.Manned errand) (ht : s.thread? t.id = some t) {stage : Stage}
    (heng : s.Engaged { t with stage }) : (s.setThread { t with stage }).Manned errand := by
  refine h.setThread (u := { t with stage }) ht rfl rfl heng (fun j hj => ?_) fun _ _ => rfl
  exact h.errands _ t j ht hj

/-- A call begins. -/
theorem Manned.enterCall (h : s.Manned errand) (ht : s.thread? t.id = some t) {c : Call}
    (heng : s.Engaged { t with stage := .inside c }) :
    (s.enterCall t c).Manned errand ∧ (s.enterCall t c).crew errand = s.crew errand := by
  have hset := h.setStage ht heng
  unfold System.enterCall
  dsimp only
  split
  · exact ⟨hset.deliver (.aside rfl) rfl rfl, rfl⟩
  · exact ⟨hset.deliver (.aside rfl) rfl rfl, rfl⟩
  · exact ⟨hset, rfl⟩

section Free

variable (h : s.Manned errand) (ht : s.thread? t.id = some t) (he : t.errand = none)
include h ht he

theorem Manned.pushed {handle : UInt16} {value : Bytes} (hf : t.stage = .free)
    (hi : s.intent t = .push handle value) (sent : Bool) :
    (s.complete t (.pushed sent)).Manned errand ∧
      Relation.ReflGen (Crew.Step tidy) (s.crew errand, k)
        ((s.complete t (.pushed sent)).crew errand, k) :=
  ⟨h.shift ht he hf (shifts_complete h.kinded h.fresh ht (h.own _ t ht) _),
    h.crew_of_pushed ht he hi sent⟩

theorem Manned.pushMove {handle : UInt16} {value : Bytes} (hf : t.stage = .free)
    (hi : s.intent t = .push handle value) (hm : s.pushMove t handle value = .step s') :
    s'.Manned errand ∧
      Relation.ReflGen (Crew.Step tidy) (s.crew errand, k) (s'.crew errand, k) := by
  have hasked : (s.intent t).asked? = some (.push handle value) := by
    rw [hi]
    rfl
  cases hj : t.role.task? with
  | none =>
    obtain ⟨c, heq, -⟩ := aside_of_intent (h.own _ t ht) hj hasked
    cases heq
  | some j =>
    have stored {g g' : Gatt} (hg : s.gatt = some g) : Spares none s { s with gatt := some g' } :=
      .setGatt (by rw [hg]; rfl) g'
    unfold System.pushMove at hm
    split at hm
    · cases hm
      exact h.pushed ht he hf hi false
    · rename_i g hg
      split at hm <;> cases hm
      · rename_i g' _
        have hs : Spares none s { s with gatt := some g' } := stored hg
        have hi' : System.intent { s with gatt := some g' } t = .push handle value :=
          push_of_asked? ((hs.asked?_eq hj nofun rfl rfl).trans hasked)
        exact (h.deliver hs rfl rfl).pushed (k := k) ht he hf hi' false
      · rename_i g' n _
        have hs : Spares none s { s with gatt := some g' } := stored hg
        have hasked' : (System.intent { s with gatt := some g' }
            { t with stage := .calling (.notify n) }).asked? = some (.push handle value) :=
          (hs.asked?_eq (u := { t with stage := .calling (.notify n) }) hj nofun rfl rfl).trans
            hasked
        exact ⟨(h.deliver hs rfl rfl).setStage ht (.notice he (.inl rfl) hasked'), .refl⟩

/-- The thread of a task begins an errand. -/
theorem Manned.begin {e : Errand} (hf : t.stage = .free) (hi : s.intent t = .errand e) :
    ∃ errand', (s.setThread { t with errand := some e }).Manned errand' ∧
      Relation.ReflGen (Crew.Step tidy) (s.crew errand, k)
        ((s.setThread { t with errand := some e }).crew errand', k) := by
  have hasked : (s.intent t).asked? = some (.errand e) := by
    rw [hi]
    rfl
  cases hj : t.role.task? with
  | none =>
    obtain ⟨c, heq, -⟩ := aside_of_intent (h.own _ t ht) hj hasked
    cases heq
  | some j =>
    have hasked' : (s.intent { t with errand := some e }).asked? = some (.errand e) :=
      (asked?_eq (u := { t with errand := some e }) hj rfl rfl).trans hasked
    refine ⟨Function.update errand j (some e), ?_, .single (h.crew_of_begin ht he hi hj)⟩
    refine h.setThread (u := { t with errand := some e }) ht rfl rfl
      (.errand rfl (.inl hf) hasked' fun _ => id) (fun j' hj' => ?_) fun j' hj' => ?_
    · cases hj.symm.trans hj'
      exact Function.update_self _ _ _
    · refine Function.update_of_ne ?_ _ _
      rintro rfl
      exact hj' hj

end Free

/-! ## Moves -/

section Moves

variable (h : s.Manned errand) (ht : s.thread? t.id = some t)
include h ht

theorem Manned.of_step (hn : s.next t = .step s') :
    ∃ errand', s'.Manned errand' ∧
      Relation.ReflGen (Crew.Step tidy) (s.crew errand, k) (s'.crew errand', k) := by
  have notTry (c : Call) : s.tryCall t c ≠ .step s' := by
    unfold tryCall
    split <;> exact nofun
  unfold next at hn
  split at hn
  · cases hn
  · exact absurd hn (notTry _)
  · rename_i hf
    cases he : t.errand with
    | some e =>
      simp only [he] at hn
      exact h.errandMove ht he hf hn
    | none =>
      simp only [he] at hn
      split at hn
      · rename_i hi
        cases hn
        exact ⟨errand, h.shift ht he hf (shifts_intent h.kinded ht (h.own _ t ht) hi),
          h.crew_of_proceed ht he hi⟩
      · exact absurd hn (notTry _)
      · rename_i hi
        cases hn
        exact h.begin ht he hf hi
      · rename_i hi
        exact ⟨errand, h.pushMove ht he hf hi hn⟩
      · cases hn

theorem Manned.of_start {c : Call} (hn : s.next t = .start c s') :
    s'.Manned errand ∧ s'.crew errand = s.crew errand := by
  have enters {c' : Call} (heng : s.Engaged { t with stage := .inside c' })
      (hm : s.tryCall t c' = .start c s') : s'.Manned errand ∧ s'.crew errand = s.crew errand := by
    unfold tryCall at hm
    split at hm <;> cases hm
    exact h.enterCall ht heng
  unfold next at hn
  split at hn
  · cases hn
  · rename_i c' hc
    obtain ⟨he, n, handle, value, rfl, hi⟩ := (h.engaged _ t ht).of_calling hc
    cases hj : t.role.task? with
    | none =>
      obtain ⟨c, heq, -⟩ := aside_of_intent (h.own _ t ht) hj hi
      cases heq
    | some j =>
      exact enters (.notice he (.inr rfl) ((asked?_setStage hj _).trans hi)) hn
  · rename_i hf
    cases he : t.errand with
    | some e =>
      obtain ⟨j, e₀, hj, -, -, hi, hy⟩ := h.of_errand ht he
      have hi' : (s.intent t).asked? = some (.errand e₀) := by
        rw [hi]
        rfl
      simp only [he] at hn
      cases ha : s.arbiter with
      | none =>
        simp only [System.errandMove, ha] at hn
        cases hn
      | some a =>
        have hcases := errandMove_cases (t := t) ha e
        rw [hn] at hcases
        cases hcases with
        | call hm =>
          exact h.enterCall ht (.errand he (.inr ⟨e, _, he, hm, rfl⟩)
            ((asked?_setStage hj _).trans hi') hy)
    | none =>
      simp only [he] at hn
      split at hn
      · cases hn
      · rename_i hi
        exact enters (.of_call (h.own _ t ht) hi rfl rfl he rfl) hn
      · cases hn
      · unfold System.pushMove at hn
        (repeat' split at hn) <;> cases hn
      · cases hn

theorem Manned.of_answer (hw : (s.crew errand).Sound) {c : Call} {a : Answer}
    (hn : s.next t = .inside c) (hb : c.Brings a)
    (hu : tidy = true → c.undoes = true → a.succeeded = true) :
    ∃ errand', (s.answer t c a).Manned errand' ∧ Relation.ReflGen (Crew.Step tidy)
      (s.crew errand, k) ((s.answer t c a).crew errand', k.after c a) := by
  have hc := stage_of_inside hn
  have heng := h.engaged _ t ht
  rcases heng.of_inside hc with ⟨e, m, he, rfl, hm⟩ | ⟨he, hi⟩
  · obtain ⟨j, e₀, hj, herr, -, hi, hy⟩ := h.of_errand ht he
    cases ha : s.arbiter with
    | none =>
      have := hw.idle ha j e herr
      rw [Errand.isAtModem_of_call? hm] at this
      cases this
    | some arbiter =>
      rw [answer_of_errand ha he]
      refine ⟨_, h.setErrand ht he (fun _ => Errand.yields_of_answer arbiter) _ .free (.inl rfl) hj,
        .single (.called herr ha hm fun htidy timeout hc => ?_)⟩
      subst hc
      rw [hb.eq_done rfl (hu htidy rfl)]
      rfl
  · have hfree : (s.setThread { t with stage := .free }).Manned errand :=
      h.setStage ht (.free he rfl)
    have ht' := thread?_setThread_self (u := { t with stage := .free }) ht rfl
    have shifts (x : Completion) := hfree.shift ht' he rfl
      (shifts_complete hfree.kinded hfree.fresh ht' (hfree.own _ _ ht') x)
    cases hj : t.role.task? with
    | none =>
      have haside : c.isAside = true := by
        rcases hi with hi | ⟨n, handle, value, -, hi⟩ | ⟨-, ha⟩
        · obtain ⟨c', heq, ha⟩ := aside_of_intent (h.own _ t ht) hj hi
          cases heq
          exact ha
        · obtain ⟨c', heq, -⟩ := aside_of_intent (h.own _ t ht) hj hi
          cases heq
        · exact ha
      have hno (n : Notification) : c ≠ .notify n := by
        rintro rfl
        cases haside
      rw [answer_of_call he hno, k.after_of_aside haside]
      refine ⟨errand, shifts _, ?_⟩
      rw [hfree.crew_of_aside ht' he hj]
      exact .refl
    | some j =>
      have hs : Spares none s (s.setThread { t with stage := .free }) := .aside rfl
      have hasked {q : Asked} (hi : (s.intent t).asked? = some q) :
          ((s.setThread { t with stage := .free }).intent { t with stage := .free }).asked? =
            some q :=
        (hs.asked?_eq (u := { t with stage := .free }) hj nofun rfl rfl).trans hi
      rcases hi with hi | ⟨n, handle, value, rfl, hi⟩ | ⟨hn, -⟩
      · have hno (n : Notification) : c ≠ .notify n := by
          rintro rfl
          have := s.isProper_intent t
          rw [call_of_asked? hi] at this
          exact this
        rw [answer_of_call he hno]
        exact ⟨errand, shifts _, hfree.crew_of_answer ht' he (call_of_asked? (hasked hi)) hb hu⟩
      · exact ⟨errand, answer_of_notify (s := s) (a := a) he n ▸ shifts _,
          answer_of_notify (s := s) (a := a) he n ▸
            hfree.crew_of_pushed ht' he (push_of_asked? (hasked hi)) a.succeeded⟩
      · rw [hj] at hn
        cases hn

end Moves

/-! ## Events -/

theorem Role.eq_of_task? {r : Role} {kind : LinkKind} (h : r.task? = some (.link kind)) :
    r = .link kind := by
  cases r <;> cases h
  rfl

/-- What is delivered changes nothing about the crew. -/
theorem Manned.delivered (h : s.Manned errand) (hs : Spares none s s') (ha : s.Alike s') :
    ∃ errand', s'.Manned errand' ∧
      Relation.ReflGen (Crew.Step tidy) (s.crew errand, k) (s'.crew errand', k) := by
  refine ⟨errand, h.deliver hs ha.threads ha.nextThread, ?_⟩
  rw [crew_of_spares hs ha.arbiter]

/-- A link has waited long enough. -/
theorem Manned.linkLimit (h : s.Manned errand) {l : Link} {ms : Nat}
    (hl : s.link? l.kind = some l) (hq : l.request = .wait (some ms))
    (hp : l.pending.bits = 0) :
    (s.setLink (l.resume (.commands .empty))).Manned errand ∧
      Relation.ReflGen (Crew.Step tidy) (s.crew errand, k)
        ((s.setLink (l.resume (.commands .empty))).crew errand, k) := by
  have hno := Link.announcing_of_wait hq
  have hkind := l.resume_kind (.commands .empty)
  rcases h.ends (.link l.kind) with hover | ⟨i, t, ht, hj⟩
  · have hfinished : l.request = .finished := by simp only [Link.request, hno, hover l hl]
    rw [hq] at hfinished
    cases hfinished
  · have hr := Role.eq_of_task? hj
    have ht : s.thread? t.id = some t := id_of_thread? ht ▸ ht
    have hidle : (s.intent t).asked? = none := by
      simp only [intent, hr, hl, linkIntent, hq, hp]
      (repeat' split) <;> rfl
    obtain ⟨he, hf⟩ := h.free_of_asked? ht hj hidle
    refine ⟨h.shift ht he hf (shifts_setLink h.kinded ht hr hl hkind), ?_⟩
    have hfree : errand (.link l.kind) = none := (h.errands _ t _ ht hj).trans he
    exact .single (crew_link_inner (.setLink h.kinded hl hkind) (Commanded.setLink s _).arbiter hl
      ((h.kinded.link?_setLink hl hkind l.kind).trans (if_pos rfl)) hfree rfl
      (.read hno (Link.reads_of_wait hq .empty)) rfl fun hask => by cases hask)

/-- So has the broker task. -/
theorem Manned.mqttLimit (h : s.Manned errand) {task : Mqtt} {ms : Nat}
    (hm : s.mqtt = some task) (hq : task.request = .wait (some ms)) (hp : task.pending.bits = 0) :
    ({ s with mqtt := some (task.resume (.commands .empty)) } : System).Manned errand ∧
      Relation.ReflGen (Crew.Step tidy) (s.crew errand, k)
        (System.crew { s with mqtt := some (task.resume (.commands .empty)) } errand, k) := by
  have hno := Mqtt.announcing_of_wait hq
  rcases h.ends .mqtt with hover | ⟨i, t, ht, hj⟩
  · have hfinished : task.request = .finished := by simp only [Mqtt.request, hno, hover task hm]
    rw [hq] at hfinished
    cases hfinished
  · have hr : t.role = .mqtt := by
      cases hr : t.role <;> rw [hr] at hj <;> cases hj
    have ht : s.thread? t.id = some t := id_of_thread? ht ▸ ht
    have hidle : (s.intent t).asked? = none := by
      simp only [intent, hr, hm, mqttIntent, hq, hp]
      (repeat' split) <;> rfl
    obtain ⟨he, hf⟩ := h.free_of_asked? ht hj hidle
    have hshift := shifts_setMqtt ht hr (task.resume (.commands .empty)) s.subscriber
    exact ⟨h.shift ht he hf hshift, .single (crew_mqtt_inner (hj ▸ hshift.spares) rfl hm rfl rfl
      (.read hno (Mqtt.reads_of_wait hq .empty)) rfl)⟩

theorem Manned.of_event (h : s.Manned errand) (he : s.Event s') (ho : s'.Own) :
    ∃ errand', s'.Manned errand' ∧
      Relation.ReflGen (Crew.Step tidy) (s.crew errand, k) (s'.crew errand', k) := by
  have spawned (s₀ : System) (hs : Spares none s s₀) (ha : s.Alike s₀) (actor : Actor)
      (role : Role) (hr : role.task? = none) (hown : role.isOwn = true) :
      ∃ errand', (s₀.spawn actor role none).Manned errand' ∧ Relation.ReflGen (Crew.Step tidy)
        (s.crew errand, k) ((s₀.spawn actor role none).crew errand', k) := by
    refine ⟨errand, (h.deliver hs ha.threads ha.nextThread).spawn actor hr hown, ?_⟩
    have hcrew : s₀.crew errand = s.crew errand := crew_of_spares hs ha.arbiter
    exact hcrew ▸ .refl
  -- a thread that comes is seen by `ho`
  have came (s₀ : System) (ha : s.Alike s₀) (actor : Actor) (role : Role) (e : Option Errand)
      (heq : s' = s₀.spawn actor role e) : role.isOwn = true := by
    refine ho s₀.nextThread { id := s₀.nextThread, actor, role, errand := e } ?_
    rw [heq, thread?_spawn, ha.thread?, h.fresh _ (Nat.le_of_eq ha.nextThread.symm), if_pos rfl]
    rfl
  cases he with
  | notifyLink kind c =>
    exact h.delivered (.notifyLink h.kinded kind c) (Commanded.notifyLink s kind c).alike
  | notifyApp c => exact h.delivered (.notifyApp s c) (Commanded.notifyApp s c).alike
  | ipLost kind => exact h.delivered (.ipLost h.kinded kind) (Commanded.ipLost s kind).alike
  | brokerLost => exact h.delivered (.mapMqtt fun t => t.own_offer _) ⟨rfl, rfl, rfl⟩
  | brokerMessage payload => exact h.delivered (.aside rfl) ⟨rfl, rfl, rfl⟩
  | gatt e => exact h.delivered (.handleEvent h.kinded e) (Commanded.handleEvent s e).alike
  | control bytes => exact h.delivered (.control h.kinded bytes) (Commanded.control s bytes).alike
  | post hp => exact h.delivered (.postToBridge hp) (Commanded.postToBridge hp).alike
  | console =>
    exact spawned { s with console := some {} } (.aside rfl) ⟨rfl, rfl, rfl⟩ .console .console
      rfl rfl
  | chore c =>
    have hown := came { s with choreResult := none } ⟨rfl, rfl, rfl⟩ .main (.chore c) none rfl
    exact spawned { s with choreResult := none } (.aside rfl) ⟨rfl, rfl, rfl⟩ .main (.chore c) rfl
      hown
  | shutdown =>
    exact spawned s (.refl _ s) ⟨rfl, rfl, rfl⟩ .shutdown (.shutdown .notifying) rfl rfl
  | @job e _ =>
    have hown := came s ⟨rfl, rfl, rfl⟩ .job .job (some e) rfl
    cases hown
  | linkLimit hl hq hp => exact ⟨errand, h.linkLimit hl hq hp⟩
  | mqttLimit hm hq hp => exact ⟨errand, h.mqttLimit hm hq hp⟩
  | @patience t e e' a a' ht hf he ha hpatient henter =>
    obtain ⟨j, e₀, hj, herr, -⟩ := h.of_errand ht he
    exact ⟨_, h.setErrand ht he (fun _ => Errand.yields_of_enter henter) _ t.stage (.inl hf) hj,
      .single (.enter herr ha henter)⟩

end System

namespace Gateway

variable {g g' : Gateway} {errand : Task → Option Errand} {tidy : Bool}

/-- A step of the gateway is one of its crew, or has nothing to do with it. -/
theorem Step.crew (h : g.system.Manned errand) (hw : (g.system.crew errand).Sound)
    (hs : Step tidy g g') :
    ∃ errand', g'.system.Manned errand' ∧ Relation.ReflGen (Crew.Step tidy)
      (g.system.crew errand, g.outstanding) (g'.system.crew errand', g'.outstanding) := by
  cases hs with
  | step ht hn => exact h.of_step ht hn
  | start ht hn =>
    obtain ⟨h', hcrew⟩ := h.of_start ht hn
    exact ⟨errand, h', hcrew ▸ .refl⟩
  | answer ht hn hb hu => exact h.of_answer ht hw hn hb hu
  | event he ho => exact h.of_event he ho
  | lose wifi modem => exact ⟨errand, h, .single (.lose wifi modem)⟩

/-- A run of the gateway is a run of its crew. -/
theorem crew_of_run (h : g.system.Manned errand) (hw : (g.system.crew errand).Sound)
    (hr : Relation.ReflTransGen (Step tidy) g g') :
    ∃ errand', g'.system.Manned errand' ∧ (g'.system.crew errand').Sound ∧
      Relation.ReflTransGen (Crew.Step tidy)
        (g.system.crew errand, g.outstanding) (g'.system.crew errand', g'.outstanding) := by
  induction hr with
  | refl => exact ⟨errand, h, hw, .refl⟩
  | tail _ hs ih =>
    obtain ⟨errand₁, h₁, hw₁, hr₁⟩ := ih
    obtain ⟨errand₂, h₂, hs₂⟩ := hs.crew h₁ hw₁
    exact ⟨errand₂, h₂, hw₁.of_reflGen hs₂, hr₁.trans hs₂.to_reflTransGen⟩

end Gateway

end EdgeGateway
