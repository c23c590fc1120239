import EdgeGateway.Proofs.Gateway.Schedule
import EdgeGateway.Proofs.Gateway.Served

/-!
# EdgeGateway.Proofs.Gateway.Teardown

A shutdown that returns leaves nothing behind.

* `Gateway.AtRest` : no task runs, nor a subscriber, every task has stopped, and nothing is
  outstanding.
-/

namespace EdgeGateway

namespace Gateway

variable {g : Gateway}

/-- The gateway after a shutdown. What is outstanding are the connections, the card's sessions and
the steps of the broker's client that have not been undone. -/
structure AtRest (g : Gateway) : Prop where
  threads : ∀ t ∈ g.system.threads, t.role.isTask = false ∧ t.role ≠ .subscriber
  subscriber : g.system.subscriber = none
  link : ∀ kind l, g.system.link? kind = some l → l.point = .finished ∧ l.status = .stopped
  mqtt : ∀ t, g.system.mqtt = some t → t.point = .finished ∧ t.status = .stopped
  bridge : ∀ b, g.system.bridge = some b → b.point = .finished
  arbiter : ∀ a, g.system.arbiter = some a → a.dataSession = false ∧ a.lease = none
  outstanding : g.outstanding = {}

/-- When no thread runs a task, every task is over. -/
theorem over_of_idle {s : System} {errand : Task → Option Errand} (h : s.Manned errand)
    (ht : ∀ t ∈ s.threads, t.role.isTask = false) (j : Task) : s.Over j := by
  rcases h.ends j with hover | ⟨i, t, hi, hj⟩
  · exact hover
  · have := ht t (List.mem_of_find?_eq_some hi)
    rw [Role.isTask_eq, hj] at this
    cases this

/-- The last move of a shutdown is made when no thread runs a task any more. -/
theorem idle_of_joined {s s' : System} {errand : Task → Option Errand} (h : s.Manned errand)
    {t : Thread} (ht : s.thread? t.id = some t) (hr : t.role = .shutdown .joining)
    (hn : s.next t = .step s') :
    (∀ u ∈ s.threads, u.role.isTask = false) ∧ s' = s.endThread t := by
  have hintent : s.intent t =
      if s.threads.any (·.role.isTask) then .wait else .proceed (s.endThread t) := by
    simp only [System.intent, hr, System.shutdownIntent]
  have hasked : (s.intent t).asked? = none := by
    rw [hintent]
    split <;> rfl
  cases h.engaged _ t ht with
  | free he hf =>
    by_cases hany : s.threads.any (·.role.isTask) = true
    · simp only [System.next, hf, he, hintent, hany, if_true] at hn
      cases hn
    · simp only [System.next, hf, he, hintent, if_neg hany] at hn
      cases hn
      refine ⟨fun u hu => Bool.eq_false_iff.mpr fun htask => hany ?_, rfl⟩
      exact List.any_eq_true.mpr ⟨u, hu, htask⟩
  | aside _ hc _ _ =>
    simp only [System.next, hc] at hn
    cases hn
  | call _ _ hi | notice _ _ hi | errand _ _ hi _ =>
    rw [hasked] at hi
    cases hi

/-- With the broker task the subscriber is gone. -/
theorem no_subscriber_of_idle {s : System} {errand : Task → Option Errand} (h : s.Served)
    (hman : s.Manned errand) (hidle : ∀ t ∈ s.threads, t.role.isTask = false)
    (hm : ∀ task, s.mqtt = some task → task.subscriber = false) :
    s.subscriber = none ∧ ∀ t ∈ s.threads, t.role ≠ .subscriber := by
  have hsub : s.subscribed = false := by
    cases htask : s.mqtt with
    | none => simp [System.subscribed, htask]
    | some task => simp [System.subscribed, htask, hm task htask]
  constructor
  · refine Option.not_isSome_iff_eq_none.mp fun hsome => ?_
    rcases h.idle hsome with hs | ⟨i, hi⟩
    · rw [hsub] at hs
      cases hs
    · obtain ⟨t, ht, hrole, -⟩ := hman.creates hi
      have := hidle t (List.mem_of_find?_eq_some ht)
      rw [hrole] at this
      cases this
  · intro t ht hrole
    have := (h.serves t.id ⟨t, hman.distinct.thread?_of_mem ht, hrole⟩).2
    rw [hsub] at this
    cases this

/-- Whatever has happened since the gateway was booted, and however its tasks have taken turns:
if nothing has failed that undoes something, a shutdown that returns leaves nothing behind. -/
theorem at_rest_of_joined {settings : Settings} {suffix : String} {p : Provided} {s₀ s' : System}
    (hb : System.boot settings suffix p = .ok s₀)
    (hr : Relation.ReflTransGen (Step true) { system := s₀ } g) {t : Thread}
    (ht : g.system.thread? t.id = some t) (hrole : t.role = .shutdown .joining)
    (hn : g.system.next t = .step s') : AtRest { g with system := s' } := by
  have hbooted := System.booted hb
  obtain ⟨errand, hman, -, hrun⟩ := crew_of_run hbooted.manned (.of_new hbooted.new) hr
  obtain ⟨hsound, hup⟩ := Crew.Up.of_run hbooted.new hrun
  have howns := Crew.Owns.of_run hbooted.new hrun
  obtain ⟨hidle, rfl⟩ := idle_of_joined hman ht hrole hn
  have hover := over_of_idle hman hidle
  have hlink (kind : LinkKind) (l : Link) (hl : g.system.link? kind = some l) :
      l.point = .finished := hover (.link kind) l hl
  have hcrew {kind : LinkKind} {l : Link} (hl : g.system.link? kind = some l) :
      (g.system.crew errand).link kind = some l.own := by simp [System.crew, hl]
  obtain ⟨hk, hsession, hout⟩ : g.outstanding = {} ∧ (g.system.crew errand).session = false ∧
      (g.system.crew errand).out = none := by
    refine howns.nothing_left hsound hup (fun kind l hl => ?_) (fun b hb => ?_) fun task hm => ?_
    · obtain ⟨l₀, hl₀, rfl⟩ := Option.map_eq_some_iff.mp hl
      exact hlink kind l₀ hl₀
    · obtain ⟨b₀, hb₀, rfl⟩ := Option.map_eq_some_iff.mp hb
      exact hover .bridge b₀ hb₀
    · obtain ⟨task₀, hm₀, rfl⟩ := Option.map_eq_some_iff.mp hm
      exact hover .mqtt task₀ hm₀
  have hdown (task : Mqtt) (hm : g.system.mqtt = some task) :
      task.Down ∧ task.status = .stopped := by
    have hu : task.Undone := howns.undone task.own (by simp [System.crew, hm])
    simpa only [Mqtt.Undone, hover .mqtt task hm] using hu
  obtain ⟨hnone, hnobody⟩ := no_subscriber_of_idle (served_of_run hbooted hr) hman hidle
    fun task hm => (hdown task hm).1.2.2.2
  refine ⟨fun u hu => ?_, hnone, fun kind l hl => ?_, fun task hm => ?_, hover .bridge,
    fun a ha => ?_, hk⟩
  · have hu := (List.mem_filter.mp hu).1
    exact ⟨hidle u hu, hnobody u hu⟩
  · have hp := hlink kind l hl
    have hs : l.Sound := Link.sound_own.mp (hsound.link kind _ (hcrew hl))
    simp only [Link.Sound, hp] at hs
    exact ⟨hp, hs.1⟩
  · exact ⟨hover .mqtt task hm, (hdown task hm).2⟩
  · have ha : g.system.arbiter = some a := ha
    simp only [Crew.session, Crew.out, System.crew, ha, Option.any_some, Option.bind_some,
      Arbiter.out, Option.map_eq_none_iff] at hsession hout
    exact ⟨hsession, hout⟩

/-- Wi-Fi and nothing else. -/
def wifiAlone : Settings where
  defaultLink := .wifi
  features := { cellular := false, mqtt := false, bleModem := false, console := false }

/-- Wi-Fi comes up, and goes down again for a shutdown. -/
def upAndDown : List Turn :=
  [.go 0, .go 0, .go 0, .succeed 0, .go 0, .go 0, .succeed 0, .go 0, .succeed 0, .go 0,
    .shutdown, .go 1, .go 1,
    .go 0, .go 0, .go 0, .go 0, .succeed 0, .go 0, .go 0, .go 0, .succeed 0, .go 0]

/-- The thread of the shutdown, when it waits for the tasks. -/
def joiner : Thread := { id := 1, actor := .shutdown, role := .shutdown .joining }

/-- Wi-Fi has been connected on the way, and is not any more. -/
theorem at_rest_behind_wifi : ∃ s₀ s : System, System.boot wifiAlone "" {} = .ok s₀ ∧
    (play turn? { system := s₀ } (upAndDown.take 10)).outstanding.wifiConnected = true ∧
    (play turn? { system := s₀ } upAndDown).system.next joiner = .step s ∧
    AtRest { play turn? { system := s₀ } upAndDown with system := s } :=
  have hb : System.boot wifiAlone "" {} = .ok _ := rfl
  ⟨_, _, hb, rfl, rfl, at_rest_of_joined (t := joiner) hb (run_of_turns _ upAndDown) rfl rfl rfl⟩

end Gateway

end EdgeGateway
