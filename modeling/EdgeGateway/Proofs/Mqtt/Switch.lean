import EdgeGateway.Proofs.Mqtt.Thread
import EdgeGateway.Proofs.Mqtt.Watch

/-!
# EdgeGateway.Proofs.Mqtt.Switch

Whether a change of the default route moves the session with the broker
(`Watch.switch_moves_iff`).

The change is decided with a restart of the broker task. The task ends its loop on an operation
only, and is sent one only while it is started and its queue has room. So a session whose connect
had begun before the change is kept if nothing in the queue ends it (`Watch.Stale`).
-/

namespace EdgeGateway

namespace System

theorem broker?_reroute (s : System) (kind : LinkKind) :
    (s.reroute kind).broker? = s.broker?.map (·.notify .restart) := by
  simp only [broker?, reroute, Option.map_map]
  rfl

end System

namespace Mqtt

/-- Something in the queue ends the session. -/
def WillDrop (t : Mqtt) : Prop :=
  .exitLoop ∈ t.operations.items ∨ .disconnected ∈ t.operations.items

/-- Where the task keeps a session. -/
def Point.inSession : Point → Bool
  | .subscribing _ | .receiving => true
  | _ => false

/-- Where it keeps a session or is about to get one. -/
def Point.nearSession : Point → Bool
  | .connecting _ _ | .subscribing _ | .receiving => true
  | _ => false

theorem WillDrop.offer {t : Mqtt} (h : t.WillDrop) (op : Operation) : (t.offer op).WillDrop :=
  h.imp Inbox.mem_offerOrDrop_of_mem Inbox.mem_offerOrDrop_of_mem

theorem WillDrop.notify {t : Mqtt} (h : t.WillDrop) (c : Command) : (t.notify c).WillDrop := by
  unfold Mqtt.notify
  split
  · split
    · exact h
    · exact h.offer _
  · exact h

theorem WillDrop.of_offer {t : Mqtt} {op : Operation} (h : (t.offer op).WillDrop)
    (hop : op = .subscribeFailed) : t.WillDrop := by
  subst hop
  rcases h with h | h
  · exact .inl ((Inbox.mem_offerOrDrop h).resolve_right nofun)
  · exact .inr ((Inbox.mem_offerOrDrop h).resolve_right nofun)

/-- What is to end the session stays in the queue until there is none to be kept. -/
theorem Turn.willDrop {t t' : Mqtt} {q : Request} {r : Reply} (ht : Turn t q r t')
    (h : t.WillDrop) : t'.WillDrop ∨ t'.point.nearSession = false := by
  cases ht with
  | prepared _ =>
    right
    dsimp only
    split
    · rfl
    · split <;> rfl
  | _ => exact .inl (by simpa [WillDrop, goto, withDeferred] using h)

theorem Goes.willDrop {t t' : Mqtt} (hg : t.Goes t') (h : t.WillDrop) :
    t'.WillDrop ∨ t'.point.nearSession = false := by
  cases hg with
  | same | heard _ => exact .inl h
  | turned _ ht => exact ht.willDrop h
  | @received op operations t' _ htake ht =>
    have hitems := (Inbox.items_of_take htake).1
    rw [WillDrop, hitems, List.mem_cons, List.mem_cons] at h
    cases ht with
    | disconnected _ => right; cases hc : t.connected <;> simp [goto, Point.nearSession]
    | exitLoop _ => exact .inr rfl
    | subscribeFailed _ => exact .inl (by simpa [WillDrop] using h)
  | read _ _ ht | expired _ _ ht => cases ht <;> exact .inl (by simpa [WillDrop, goto] using h)
  | reported => exact .inl (h.offer _)

/-- A session is come by in a connect. -/
theorem Turn.inSession {t t' : Mqtt} {q : Request} {r : Reply} (ht : Turn t q r t')
    (hp : t'.point.inSession = true) :
    t.point.inSession = true ∨ ∃ phase n, t.point = .connecting phase n := by
  cases ht with
  | connected hp' => exact .inr ⟨_, _, hp'⟩
  | started hp' | reconnected hp' => exact .inl (by rw [hp']; rfl)
  | acted _ _ hacts => cases hacts <;> cases hp
  | prepared _ =>
    dsimp only at hp
    split at hp
    · cases hp
    · split at hp <;> cases hp
  | broughtUp _ =>
    dsimp only at hp
    split at hp <;> cases hp
  | _ => simp [goto, withDeferred, Point.inSession] at hp

theorem Goes.inSession {t t' : Mqtt} (hg : t.Goes t') (hp : t'.point.inSession = true) :
    t.point.inSession = true ∨ ∃ phase n, t.point = .connecting phase n := by
  cases hg with
  | same | heard _ | reported => exact .inl hp
  | turned _ ht => exact ht.inSession hp
  | received _ _ ht =>
    have hat : t.point = .receiving := ht.point_eq
    exact .inl (by rw [hat]; rfl)
  | read _ _ ht =>
    cases ht with
    | acted _ _ hacts => cases hacts <;> cases hp
    | _ => simp [goto, Point.inSession] at hp
  | expired _ _ ht => cases ht <;> simp [goto, Point.inSession] at hp

/-- With nothing in the queue to end it, a session goes on. -/
theorem Turn.staysInSession {t t' : Mqtt} {q : Request} {r : Reply} (ht : Turn t q r t')
    (hp : t.point.inSession = true) (hd : ¬ t.WillDrop) :
    t'.point.inSession = true ∧ ¬ t'.WillDrop := by
  cases ht with
  | started _ | reconnected _ => exact ⟨rfl, by simpa [WillDrop, goto] using hd⟩
  | _ hp' => simp [hp', Point.inSession] at hp

theorem Goes.staysInSession {t t' : Mqtt} (hg : t.Goes t') (hp : t.point.inSession = true)
    (hd : ¬ t.WillDrop) : t'.point.inSession = true ∧ ¬ t'.WillDrop := by
  cases hg with
  | same | heard _ => exact ⟨hp, hd⟩
  | turned _ ht => exact ht.staysInSession hp hd
  | @received op operations t' _ htake ht =>
    have hitems := (Inbox.items_of_take htake).1
    simp only [WillDrop, hitems, List.mem_cons, not_or] at hd
    cases ht with
    | disconnected _ => exact absurd rfl hd.2.1
    | exitLoop _ => exact absurd rfl hd.1.1
    | subscribeFailed _ => exact ⟨hp, by simpa [WillDrop] using ⟨hd.1.2, hd.2.2⟩⟩
  | read _ _ ht | expired _ _ ht => cases ht <;> simp_all [Point.inSession]
  | reported => exact ⟨hp, fun h => hd (h.of_offer rfl)⟩

/-- A task that keeps a session asks the client for nothing. -/
theorem call?_of_inSession {t : Mqtt} (hp : t.point.inSession = true) :
    t.request.call? = none := by
  cases ha : t.announcing with
  | some s => simp only [request, ha, Request.call?]
  | none =>
    cases hat : t.point with
    | subscribing _ | receiving => simp only [request, ha, hat, Request.call?]
    | _ => simp [hat, Point.inSession] at hp

theorem nearSession_of_inSession {p : Point} (h : p.inSession = true) : p.nearSession = true := by
  cases p <;> simp_all [Point.inSession, Point.nearSession]

end Mqtt

/-- At rest a broker is started where it waits at its empty queue, and nowhere else. -/
theorem Broker.started_or_not_of_rest {c : MqttSettings} {b : Broker} (h : Sound c b)
    (hr : AtRest (Move c) b) :
    (b.task.point = .receiving ∧ b.task.operations.items = [] ∧ b.task.status = .started) ∨
      (b.task.point.inSession = false ∧ b.task.status ≠ .started) := by
  have htask := h.task
  rcases rest_cases h hr with hq | ⟨hq, hitems⟩ | ⟨hq, -⟩
  · have hp := (Mqtt.point_of_finished hq).2
    simp only [Mqtt.Sound, hp] at htask
    exact .inr ⟨by rw [hp]; rfl, by simp [htask.2]⟩
  · have hp := Mqtt.point_of_receive hq
    simp only [Mqtt.Sound, hp] at htask
    exact .inl ⟨hp, hitems, htask.1⟩
  · obtain ⟨left, hp, -⟩ := Mqtt.point_of_wait hq
    simp only [Mqtt.Sound, hp] at htask
    exact .inr ⟨by rw [hp]; rfl, htask.2.1⟩

namespace Client

/-- A session that is open was so before, or its connect has just ended well. -/
theorem session_of_next {k : Client} {e : Option ClientEvent} {n : Nat}
    (h : (k.next e).session = some n) :
    k.session = some n ∨ e = some (.ended .connect true) ∧ n = k.connects := by
  cases e with
  | none => exact .inl h
  | some e =>
    cases e with
    | began _ | left => exact .inl h
    | ended call ok =>
      cases call with
      | connect =>
        cases ok with
        | false => exact .inl h
        | true =>
          simp only [next_some, see, finish, Option.some.injEq] at h
          exact .inr ⟨rfl, h.symm⟩
      | disconnect => simp [see, finish] at h
      | _ => cases ok <;> exact .inl h

theorem connects_le_next (k : Client) (e : Option ClientEvent) :
    k.connects ≤ (k.next e).connects := by
  cases e with
  | none => exact le_rfl
  | some e =>
    cases e with
    | began call =>
      simp only [next_some, see]
      split <;> omega
    | ended call ok => simp [see]
    | left => exact le_rfl

/-- A connect is inside because it has been, or has just begun. -/
theorem inside_connect_of_next {k : Client} {e : Option ClientEvent}
    (h : (k.next e).inside = some .connect) :
    k.inside = some .connect ∨ k.connects < (k.next e).connects := by
  cases e with
  | none => exact .inl h
  | some e =>
    cases e with
    | began call =>
      simp only [next_some, see_began_inside, Option.some.injEq] at h
      subst h
      exact .inr (Nat.lt_succ_self _)
    | ended _ _ => simp at h
    | left => exact .inl h

end Client

namespace Watch

variable {c : MqttSettings} {w w' : Watch} {n₀ : Nat}

/-- The session that is open or being opened is one of the first `n₀`, and nothing ends it. -/
def Stale (n₀ : Nat) (w : Watch) : Prop :=
  ¬ w.broker.task.WillDrop ∧
  ((w.client.inside = some .connect ∧ w.client.connects ≤ n₀) ∨
    (w.broker.task.point.inSession = true ∧ ∃ n, w.client.session = some n ∧ n ≤ n₀))

/-- The connect that has opened the session is none of the first `n₀`. -/
def FreshSession (n₀ : Nat) (w : Watch) : Prop := ∃ n, w.client.session = some n ∧ n₀ < n

theorem point_of_inside_connect (h : Sound c w) (hi : w.client.inside = some .connect) :
    w.broker.task.request = .connect ∧ ∃ phase n, w.broker.task.point = .connecting phase n := by
  have hengaged := h.engaged
  rw [hi] at hengaged
  rcases hengaged with ⟨hq, -⟩ | ⟨s, -, -, hq⟩
  · have hr := Mqtt.Request.eq_of_call? .connect rfl hq
    exact ⟨hr, Mqtt.point_of_connect hr⟩
  · rcases Subscriber.Request.of_call? hq with hc | hc <;> cases hc

theorem Sound.no_session (h : Sound c w) {phase : Mqtt.Phase} {n : Nat}
    (hp : w.broker.task.point = .connecting phase n) : w.client.session = none := by
  have hbuilt := h.built
  simp only [Mqtt.Built, hp] at hbuilt
  simpa [hbuilt.2.2] using h.knows.connected

theorem Sound.session (h : Sound c w) (hp : w.broker.task.point.inSession = true) :
    ∃ n, w.client.session = some n := by
  rw [← Option.isSome_iff_exists, h.knows.connected]
  have hbuilt := h.built
  cases hat : w.broker.task.point with
  | subscribing _ | receiving =>
    simp only [Mqtt.Built, hat] at hbuilt
    exact hbuilt.2.2
  | _ => simp [hat, Mqtt.Point.inSession] at hp

theorem Step.connects_le (hs : Step c w w') : w.client.connects ≤ w'.client.connects := by
  cases hs with
  | move hm =>
    obtain ⟨-, -⟩ := hm
    rw [client_append]
    exact Client.connects_le_next w.client _
  | event _ => exact le_rfl

namespace Stale

theorem nearSession (h : Sound c w) (hst : Stale n₀ w) :
    w.broker.task.point.nearSession = true := by
  rcases hst.2 with ⟨hi, -⟩ | ⟨hp, -⟩
  · obtain ⟨-, phase, n, hp⟩ := point_of_inside_connect h hi
    rw [hp]
    rfl
  · exact Mqtt.nearSession_of_inSession hp

/-- No step makes a session stale. -/
theorem of_step (h : Sound c w) (hn : n₀ ≤ w.client.connects) (hs : Step c w w')
    (hst : Stale n₀ w') : Stale n₀ w := by
  have hsound := h.step hs
  cases hs with
  | event he =>
    obtain ⟨hd, hst⟩ := hst
    cases he with
    | command cmd =>
      refine ⟨fun hdrop => hd (hdrop.notify cmd), ?_⟩
      rcases hst with hin | ⟨hp, hn⟩
      · exact .inl hin
      · exact .inr ⟨by simpa [Broker.notify] using hp, hn⟩
    | lost => exact ⟨fun hdrop => hd (hdrop.offer _), hst⟩
    | message _ => exact ⟨hd, hst⟩
  | move hm =>
    cases hm with
    | @mk e b hs hserves =>
      have hnear := hst.nearSession hsound
      obtain ⟨hd, hst⟩ := hst
      constructor
      · intro hdrop
        rcases hs.goes.willDrop hdrop with hdrop' | hno
        · exact hd hdrop'
        · cases hno.symm.trans hnear
      · simp only [client_append] at hst
        rcases hst with ⟨hi, hc⟩ | ⟨hp, n, hsession, hle⟩
        · -- a connect that begins only now would be a later one
          rcases Client.inside_connect_of_next hi with hi' | hlt
          · exact .inl ⟨hi', (Client.connects_le_next _ e).trans hc⟩
          · have hle : (w.client.next e).connects ≤ w.client.connects := hc.trans hn
            exact absurd (hlt.trans_le hle) (lt_irrefl _)
        · rcases Client.session_of_next hsession with hopen | ⟨rfl, rfl⟩
          · rcases hs.goes.inSession hp with hp' | ⟨phase, m, hp'⟩
            · exact .inr ⟨hp', n, hopen, hle⟩
            · cases (h.no_session hp').symm.trans hopen
          · exact .inl ⟨hserves _ rfl, hle⟩

theorem of_steps (h : Sound c w) (hn : n₀ ≤ w.client.connects)
    (hs : Relation.ReflTransGen (Step c) w w') (hst : Stale n₀ w') : Stale n₀ w := by
  induction hs using Relation.ReflTransGen.head_induction_on with
  | refl => exact hst
  | head hs _ ih => exact (ih (h.step hs) (hn.trans hs.connects_le)).of_step h hn hs

/-- As long as it can go on, the broker can do so with a stale session. -/
theorem exists_move (h : Sound c w) (hst : Stale n₀ w) (hm : Move c w w') :
    ∃ w', Move c w w' ∧ Stale n₀ w' := by
  obtain ⟨hd, ⟨hi, hc⟩ | ⟨hp, n, hsession, hle⟩⟩ := hst
  · -- the connect ends well
    obtain ⟨hq, -⟩ := point_of_inside_connect h hi
    have hs : w.broker.Shows c (some (.ended .connect true)) (w.broker.replied .done) :=
      .ended (r := .done) (hq ▸ .connect) (hq ▸ rfl) (hq ▸ rfl)
    obtain ⟨phase, ht⟩ := Mqtt.resume_of_connect hq
    refine ⟨_, .shown hs hi, ?_⟩
    rw [Broker.replied, ht]
    exact ⟨hd, .inr ⟨rfl, w.client.connects, by simp [client, Client.see, Client.finish], hc⟩⟩
  · obtain ⟨hs, hserves⟩ := hm
    obtain ⟨hp', hd'⟩ := hs.goes.staysInSession hp hd
    refine ⟨_, .mk hs hserves, hd', .inr ⟨hp', n, ?_, hle⟩⟩
    rename_i e b
    rw [client_append]
    cases e with
    | none => exact hsession
    | some e =>
      cases e with
      | began _ | left => exact hsession
      | ended call ok =>
        rcases hs.of_ended with hcall | hq
        · rw [Client.next_some, (Client.see_service hcall _ ok).2]
          exact hsession
        · cases hq.symm.trans (Mqtt.call?_of_inSession hp)

/-- Moves alone can keep a stale session for good. -/
theorem exists_rest (h : Sound c w) (hst : Stale n₀ w) :
    ∃ w', Relation.ReflTransGen (Move c) w w' ∧ AtRest (Move c) w' ∧
      w'.broker.task.status = .started ∧ ∃ n ≤ n₀, w'.client.session = some n := by
  let Inv (w : Watch) : Prop := Sound c w ∧ Stale n₀ w
  have goes (w w' : Watch) (hi : Inv w) (hm : Move c w w') : ∃ w', Move c w w' ∧ Inv w' := by
    obtain ⟨w₂, hm₂, hst₂⟩ := hi.2.exists_move hi.1 hm
    exact ⟨w₂, hm₂, hi.1.move hm₂, hst₂⟩
  obtain ⟨w', hsteps, hrest, hsound, hst'⟩ :=
    AtRest.exists_of_invariant (measure c) goes (fun _ _ hi hm => Move.falls hi.1 hm) ⟨h, hst⟩
  obtain ⟨hfree, hbroker⟩ := rest hsound hrest
  have hidle : ¬ (w'.client.inside = some .connect ∧ w'.client.connects ≤ n₀) := by simp [hfree]
  obtain ⟨hp, n, hn, hle⟩ := hst'.2.resolve_left hidle
  refine ⟨w', hsteps, hrest, ?_, n, hle, hn⟩
  rcases Broker.started_or_not_of_rest hsound.broker hbroker with ⟨-, -, hs⟩ | ⟨hno, -⟩
  · exact hs
  · cases hno.symm.trans hp

/-- Where a started broker has come to rest without a new session, it keeps a stale one. -/
theorem of_rest (h : Sound c w) (hr : AtRest (Move c) w) (hs : w.broker.task.status = .started)
    (hno : ¬ w.FreshSession n₀) : Stale n₀ w := by
  rcases Broker.started_or_not_of_rest h.broker (rest h hr).2 with ⟨hp, hitems, -⟩ | ⟨-, hdown⟩
  · have hin : w.broker.task.point.inSession = true := by rw [hp]; rfl
    obtain ⟨n, hn⟩ := h.session hin
    refine ⟨by simp [Mqtt.WillDrop, hitems], .inr ⟨hin, n, hn, ?_⟩⟩
    by_contra hlt
    exact hno ⟨n, hn, by omega⟩
  · exact absurd hs hdown

end Stale

theorem switch_moves_iff {s : System} {kind : LinkKind} {b : Broker} (h : Reachable c w)
    (hs : s.broker? = some w.broker) (hb : (s.reroute kind).broker? = some b) :
    ((∀ w', Relation.ReflTransGen (Step c) { w with broker := b } w' → AtRest (Move c) w' →
        w'.broker.task.status = .started → w'.FreshSession w.client.connects) ↔
      ¬ Stale w.client.connects { w with broker := b }) ∧
    (Stale w.client.connects { w with broker := b } →
      ∃ w', Relation.ReflTransGen (Move c) { w with broker := b } w' ∧ AtRest (Move c) w' ∧
        w'.broker.task.status = .started ∧ ∃ n ≤ w.client.connects, w'.client.session = some n) := by
  rw [System.broker?_reroute, hs, Option.map_some, Option.some.injEq] at hb
  subst hb
  have hsound : Sound c (w.notify .restart) := h.sound.step (.event (.command .restart))
  refine ⟨⟨?_, ?_⟩, fun hst => hst.exists_rest hsound⟩
  · intro hall hst
    obtain ⟨w', hsteps, hrest, hstatus, n, hle, hn⟩ := hst.exists_rest hsound
    obtain ⟨m, hm, hlt⟩ := hall w' (hsteps.lift id fun _ _ => .move) hrest hstatus
    cases hm.symm.trans hn
    omega
  · intro hst w' hsteps hrest hstatus
    by_contra hno
    -- what is stale in the end was so when the restart came
    have hst' := Stale.of_rest (hsound.steps hsteps) hrest hstatus hno
    exact hst (hst'.of_steps hsound le_rfl hsteps)

/-- A gateway that has the broker, and its traffic on Wi-Fi. -/
def overWifi (w : Watch) : System where
  settings := {}
  defaultLink := .wifi
  mqtt := some w.broker.task
  subscriber := w.broker.subscriber

/-- A change of the route in a reconnect moves the session: the end of the loop is queued. -/
theorem switch_moves_in_reconnect :
    ∃ (w : Watch) (s : System) (b : Broker), Reachable { maxRetries := 3 } w ∧
      w.client.inside = some .connect ∧ s.broker? = some w.broker ∧
      (s.reroute .cellular).broker? = some b ∧
      ∀ w', Relation.ReflTransGen (Step { maxRetries := 3 }) { w with broker := b } w' →
        AtRest (Move { maxRetries := 3 }) w' → w'.broker.task.status = .started →
        w'.FreshSession w.client.connects := by
  let w := inReconnect { maxRetries := 3 }
  have hdrop : (w.notify .restart).broker.task.WillDrop := .inl (by decide)
  exact ⟨w, w.overWifi, _, reachable_inReconnect, rfl, rfl, rfl,
    (switch_moves_iff (s := w.overWifi) reachable_inReconnect rfl rfl).1.mpr fun hst => hst.1 hdrop⟩

/-- A change of the route in the first connect can leave the session on the old one. -/
theorem switch_ignored_in_first_connect :
    ∃ (w w' : Watch) (s : System) (b : Broker), Reachable { maxRetries := 3 } w ∧
      w.client.inside = some .connect ∧ s.broker? = some w.broker ∧
      (s.reroute .cellular).broker? = some b ∧
      Relation.ReflTransGen (Step { maxRetries := 3 }) { w with broker := b } w' ∧
      AtRest (Move { maxRetries := 3 }) w' ∧ w'.broker.task.status = .started ∧
      ¬ w'.FreshSession w.client.connects := by
  let w := inFirstConnect { maxRetries := 3 }
  have h : Reachable { maxRetries := 3 } w := reachable_inFirstConnect (by decide)
  have hitems : (w.notify .restart).broker.task.operations.items = [] := rfl
  have hst : Stale w.client.connects (w.notify .restart) :=
    ⟨by simp [Mqtt.WillDrop, hitems], .inl ⟨rfl, le_rfl⟩⟩
  obtain ⟨w', hsteps, hrest, hstatus, n, hle, hn⟩ :=
    hst.exists_rest (h.sound.step (.event (.command .restart)))
  have hlifted := hsteps.lift id fun _ _ => Step.move
  refine ⟨w, w', w.overWifi, _, h, rfl, rfl, rfl, hlifted, hrest, hstatus, ?_⟩
  rintro ⟨m, hm, hlt⟩
  cases hm.symm.trans hn
  omega

end Watch

end EdgeGateway
