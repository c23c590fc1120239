import EdgeGateway.Link
import EdgeGateway.Proofs.Commands

/-!
# EdgeGateway.Proofs.Link.Turn

All that a link task can do.

* `Link.Fits`  : the replies a request can get.
* `Link.Turn`  : what the task does with such a reply, one case for each way on.
* `Link.Reads` : the same for the commands a wait has read.
-/

namespace EdgeGateway

namespace Link

@[simp] theorem setStatus_status (l : Link) (s : Status) : (l.setStatus s).status = s := by
  unfold setStatus
  split <;> simp_all
@[simp] theorem setStatus_addressing (l : Link) (s : Status) :
    (l.setStatus s).addressing = l.addressing := by unfold setStatus; split <;> rfl
@[simp] theorem setStatus_policy (l : Link) (s : Status) :
    (l.setStatus s).policy = l.policy := by unfold setStatus; split <;> rfl
@[simp] theorem setStatus_pending (l : Link) (s : Status) :
    (l.setStatus s).pending = l.pending := by unfold setStatus; split <;> rfl
@[simp] theorem setStatus_ready (l : Link) (s : Status) : (l.setStatus s).ready = l.ready := by
  unfold setStatus; split <;> rfl

theorem setStatus_of_eq {l : Link} {s : Status} (h : l.status = s) : l.setStatus s = l := by
  simp only [setStatus, h, if_true]

@[simp] theorem goto_point (l : Link) (p : Point) : (l.goto p).point = p := rfl
@[simp] theorem goto_status (l : Link) (p : Point) : (l.goto p).status = l.status := rfl
@[simp] theorem goto_addressing (l : Link) (p : Point) :
    (l.goto p).addressing = l.addressing := rfl
@[simp] theorem goto_policy (l : Link) (p : Point) : (l.goto p).policy = l.policy := rfl
@[simp] theorem goto_pending (l : Link) (p : Point) : (l.goto p).pending = l.pending := rfl
@[simp] theorem goto_ready (l : Link) (p : Point) : (l.goto p).ready = l.ready := rfl
@[simp] theorem goto_announcing (l : Link) (p : Point) :
    (l.goto p).announcing = l.announcing := rfl

/-- A wait is not answered from outside. -/
inductive Fits : Request → Reply → Prop where
  | proceed : Fits .proceed .done
  | announce {s : Status} : Fits (.announce s) .done
  | bringUp : Fits .bringUp .done
  | bringUpFailed {e : ConnectError} : Fits .bringUp (.failed e)
  | connect {ip : IpAddress} : Fits .connect (.address ip)
  | connectFailed {e : ConnectError} : Fits .connect (.failed e)
  | disconnect : Fits .disconnect .done
  | disconnectFailed {e : ConnectError} : Fits .disconnect (.failed e)
  | askConnected {b : Bool} : Fits .askConnected (.flag b)
  | askServers {dns : List IpAddress} : Fits .askServers (.servers dns)
  | tearDown : Fits .tearDown .done

theorem fits_cases (q : Request) :
    (∃ r, Fits q r) ∨ q = .finished ∨ ∃ limit, q = .wait limit := by
  cases q with
  | proceed => exact .inl ⟨_, .proceed⟩
  | announce s => exact .inl ⟨_, .announce⟩
  | bringUp => exact .inl ⟨_, .bringUp⟩
  | connect => exact .inl ⟨.address default, .connect⟩
  | disconnect => exact .inl ⟨_, .disconnect⟩
  | askConnected => exact .inl ⟨.flag true, .askConnected⟩
  | askServers => exact .inl ⟨.servers [], .askServers⟩
  | tearDown => exact .inl ⟨_, .tearDown⟩
  | wait limit => exact .inr (.inr ⟨limit, rfl⟩)
  | finished => exact .inr (.inl rfl)

/-- Where a reading of commands takes the idle task. -/
inductive Acts (l : Link) (cs : Commands) : Point → Prop where
  | nothing : cs.isEmpty = true → Acts l cs (.idle .empty)
  | confirm : cs.contains .shutdown = false → cs.contains .start = true →
      l.status = .started → Acts l cs .confirming
  | reconnect : cs.contains .shutdown = false →
      cs.contains .restart = true ∨ cs.contains .start = true → Acts l cs (.leaving .reconnect)
  | stop : cs.contains .shutdown = false → cs.contains .start = false →
      cs.contains .restart = false → Acts l cs (.leaving .stay)
  | exit : cs.contains .shutdown = true → Acts l cs (.leaving .exit)

theorem acts (l : Link) (cs : Commands) : ∃ p, l.act cs = l.goto p ∧ Acts l cs p := by
  unfold act
  cases hd : cs.dominant with
  | none => exact ⟨_, rfl, .nothing (Commands.dominant_eq_none.mp hd)⟩
  | some c =>
    have hs : c ≠ .shutdown → cs.contains .shutdown = false := fun hc =>
      Commands.no_shutdown_of_dominant hd hc
    cases c with
    | start =>
      have hstart := Commands.contains_start_of_dominant hd
      dsimp only
      split
      · rename_i hup
        exact ⟨_, rfl, .confirm (hs nofun) hstart (by simpa [isUp] using hup)⟩
      · exact ⟨_, rfl, .reconnect (hs nofun) (.inr hstart)⟩
    | stop =>
      obtain ⟨hstart, hrestart⟩ := Commands.no_other_of_dominant_stop hd
      exact ⟨_, rfl, .stop (hs nofun) hstart hrestart⟩
    | restart =>
      exact ⟨_, rfl, .reconnect (hs nofun) (Commands.contains_of_dominant_restart hd)⟩
    | shutdown => exact ⟨_, rfl, .exit (Commands.dominant_eq_shutdown.mp hd)⟩

/-- What the task does on a reply, listeners apart. -/
inductive Turn (l : Link) : Request → Reply → Link → Prop where
  | opened : l.point = .opening → Turn l .proceed .done
      ((l.setStatus .starting).goto (if l.ready then .trying 1 else .bringingUp))
  | broughtUp : l.point = .bringingUp →
      Turn l .bringUp .done { l with ready := true, point := .trying 1 }
  | notBroughtUp {e : ConnectError} : l.point = .bringingUp →
      Turn l .bringUp (.failed e) (l.giveUp .empty)
  | exhausted {n : Nat} : l.point = .trying n → l.policy.attempts < n →
      Turn l .proceed .done (l.giveUp .empty)
  | first : l.point = .trying 1 → 1 ≤ l.policy.attempts →
      Turn l .proceed .done (l.goto (.connecting 1))
  | pause {n : Nat} : l.point = .trying n → n ≤ l.policy.attempts → n ≠ 1 →
      Turn l .proceed .done (l.goto (.pausing n))
  | connected {n : Nat} {ip : IpAddress} : l.point = .connecting n → ip.isUsable = true →
      Turn l .connect (.address ip) (l.goto (.resolving ip))
  | unusable {n : Nat} {ip : IpAddress} : l.point = .connecting n →
      Turn l .connect (.address ip) ((l.setStatus .stopping).goto (.discarding n))
  | refused {n : Nat} {e : ConnectError} : l.point = .connecting n →
      Turn l .connect (.failed e) (l.giveUp .empty)
  | failed {n : Nat} {e : ConnectError} : l.point = .connecting n →
      Turn l .connect (.failed e) (l.goto (.trying (n + 1)))
  | resolved {ip : IpAddress} {dns : List IpAddress} : l.point = .resolving ip →
      Turn l .askServers (.servers dns)
        (({ l with addressing := ⟨some ip, dns⟩ }.setStatus .started).goto (.idle .empty))
  | discarded {n : Nat} {r : Reply} : l.point = .discarding n →
      Turn l .disconnect r ((l.setStatus .starting).goto (.trying (n + 1)))
  | acted {left : Commands} {p : Point} : l.point = .idle left → left.isEmpty = false →
      Acts l left p → Turn l .proceed .done (l.goto p)
  | confirmed : l.point = .confirming → Turn l .askConnected (.flag true) (l.goto (.idle .empty))
  | denied : l.point = .confirming →
      Turn l .askConnected (.flag false) (l.goto (.leaving .reconnect))
  | takeDown {next : Next} {q : Request} {r : Reply} : l.point = .leaving next →
      q = .proceed ∨ q = .askConnected →
      Turn l q r ((l.setStatus .stopping).goto (.disconnecting next))
  | down {next : Next} : l.point = .leaving next → l.status ≠ .started →
      Turn l .askConnected (.flag false) ((l.setStatus .stopped).goto (.left next))
  | disconnected {next : Next} {r : Reply} : l.point = .disconnecting next →
      Turn l .disconnect r (({ l with addressing := {} }.setStatus .stopped).goto (.left next))
  | stay : l.point = .left .stay → Turn l .proceed .done (l.goto (.idle .empty))
  | reconnect : l.point = .left .reconnect → Turn l .proceed .done (l.goto .opening)
  | exit : l.point = .left .exit → Turn l .proceed .done (l.goto .closing)
  | close : l.point = .closing → Turn l (if l.ready then .tearDown else .proceed) .done
      ((l.setStatus .stopped).goto .finished)

/-- What the task does with the commands a wait has read. -/
inductive Reads (l : Link) (cs : Commands) : Option Nat → Link → Prop where
  | abort {n : Nat} : l.point = .pausing n →
      (cs.contains .stop || cs.contains .shutdown) = true →
      Reads l cs (some l.policy.interval) (l.giveUp ((cs.erase .stop).erase .start))
  | retry {n : Nat} : l.point = .pausing n →
      (cs.contains .stop || cs.contains .shutdown) = false →
      Reads l cs (some l.policy.interval) (l.goto (.connecting n))
  | acted {left : Commands} {p : Point} : l.point = .idle left → left.isEmpty = true →
      Acts l cs p → Reads l cs none (l.goto p)

theorem Turn.pending_eq {l l' : Link} {q : Request} {r : Reply} (ht : Turn l q r l') :
    l'.pending = l.pending := by
  cases ht <;> simp [giveUp]

theorem Reads.pending_eq {l l' : Link} {cs : Commands} {limit : Option Nat}
    (hr : Reads l cs limit l') : l'.pending = l.pending := by
  cases hr <;> simp [giveUp]

theorem Turn.policy_eq {l l' : Link} {q : Request} {r : Reply} (ht : Turn l q r l') :
    l'.policy = l.policy := by
  cases ht <;> simp [giveUp]

theorem Reads.policy_eq {l l' : Link} {cs : Commands} {limit : Option Nat}
    (hr : Reads l cs limit l') : l'.policy = l.policy := by
  cases hr <;> simp [giveUp]

theorem turn_of_fits {l : Link} {r : Reply} (ha : l.announcing = none) (h : Fits l.request r) :
    Turn l l.request r (l.resume r) := by
  have hr : l.resume r = l.move r := by simp only [resume, ha]
  rw [hr]
  cases hp : l.point with
  | opening =>
    simp only [request, move, ha, hp] at h ⊢
    cases h
    exact .opened hp
  | bringingUp =>
    simp only [request, ha, hp] at h ⊢
    cases h with
    | bringUp => simpa only [move, hp] using Turn.broughtUp hp
    | bringUpFailed => simpa only [move, hp] using Turn.notBroughtUp hp
  | trying n =>
    simp only [request, move, ha, hp] at h ⊢
    cases h
    by_cases hn : l.policy.attempts < n
    · simpa only [hn, if_true] using Turn.exhausted hp hn
    · by_cases h1 : n = 1
      · subst h1
        simpa only [hn, if_false, if_true] using Turn.first hp (by omega)
      · simpa only [hn, h1, if_false] using Turn.pause hp (by omega) h1
  | pausing n =>
    simp only [request, ha, hp] at h
    cases h
  | connecting n =>
    simp only [request, ha, hp] at h ⊢
    cases h with
    | @connect ip =>
      simp only [move, hp]
      split
      · rename_i hip
        exact .connected hp hip
      · exact .unusable hp
    | @connectFailed e =>
      simp only [move, hp]
      split
      · exact .failed hp
      · exact .refused hp
  | resolving ip =>
    simp only [request, ha, hp] at h ⊢
    cases h
    simpa only [move, hp] using Turn.resolved hp
  | discarding n =>
    simp only [request, ha, hp] at h ⊢
    cases h <;> simpa only [move, hp] using Turn.discarded hp
  | idle left =>
    simp only [request, move, ha, hp] at h ⊢
    cases hl : left.isEmpty with
    | true => simp only [hl, if_true] at h; cases h
    | false =>
      simp only [hl, Bool.false_eq_true, if_false] at h ⊢
      cases h
      obtain ⟨p, hact, hacts⟩ := l.acts left
      rw [hact]
      exact .acted hp hl hacts
  | confirming =>
    simp only [request, ha, hp] at h ⊢
    cases h with
    | @askConnected b =>
      cases b with
      | true => simpa only [move, hp, if_true] using Turn.confirmed hp
      | false =>
        simpa only [move, hp, Bool.false_eq_true, if_false] using Turn.denied hp
  | leaving next =>
    simp only [request, move, ha, hp] at h ⊢
    cases hup : l.isUp with
    | true =>
      simp only [if_true]
      exact .takeDown hp (.inl rfl)
    | false =>
      simp only [hup, Bool.false_eq_true, if_false] at h ⊢
      cases h with
      | @askConnected b =>
        cases b with
        | true => exact .takeDown hp (.inr rfl)
        | false => exact .down hp (by simpa [isUp] using hup)
  | disconnecting next =>
    simp only [request, ha, hp] at h ⊢
    cases h <;> simpa only [move, hp] using Turn.disconnected hp
  | left next =>
    simp only [request, ha, hp] at h ⊢
    cases h
    cases next with
    | stay => simpa only [move, hp] using Turn.stay hp
    | reconnect => simpa only [move, hp] using Turn.reconnect hp
    | exit => simpa only [move, hp] using Turn.exit hp
  | closing =>
    simp only [request, move, ha, hp] at h ⊢
    have hr : r = .done := by cases hready : l.ready <;> simp [hready] at h <;> cases h <;> rfl
    subst hr
    exact .close hp
  | finished =>
    simp only [request, ha, hp] at h
    cases h

theorem announcing_of_wait {l : Link} {limit : Option Nat} (h : l.request = .wait limit) :
    l.announcing = none := by
  cases ha : l.announcing with
  | none => rfl
  | some s => simp [request, ha] at h

theorem point_of_finished {l : Link} (h : l.request = .finished) :
    l.announcing = none ∧ l.point = .finished := by
  cases ha : l.announcing with
  | some s => simp [request, ha] at h
  | none =>
    simp only [request, ha] at h
    cases hp : l.point with
    | finished => exact ⟨rfl, rfl⟩
    | idle left | leaving next | closing => simp only [hp] at h; split at h <;> cases h
    | _ => simp only [hp] at h; cases h

/-- A wait is either a pause between two tries or the idle task's. -/
theorem reads_of_wait {l : Link} {limit : Option Nat} (h : l.request = .wait limit)
    (cs : Commands) : Reads l cs limit (l.resume (.commands cs)) := by
  have ha := announcing_of_wait h
  simp only [request, ha] at h
  simp only [resume, ha]
  cases hp : l.point with
  | pausing n =>
    simp only [hp, Request.wait.injEq] at h
    subst h
    simp only [move, hp]
    split
    · rename_i hc
      exact .abort hp hc
    · rename_i hc
      exact .retry hp (by simpa using hc)
  | idle left =>
    simp only [hp] at h
    cases hl : left.isEmpty with
    | false => simp [hl] at h
    | true =>
      simp only [hl, if_true, Request.wait.injEq] at h
      subst h
      obtain ⟨p, hact, hacts⟩ := l.acts cs
      simp only [move, hp, hl, if_true, hact]
      exact .acted hp hl hacts
  | leaving next | closing => simp only [hp] at h; split at h <;> cases h
  | _ => simp only [hp] at h; cases h

theorem point_of_wait {l : Link} (h : l.request = .wait none) :
    ∃ left, l.point = .idle left ∧ left.isEmpty = true := by
  have hr := reads_of_wait h .empty
  generalize l.resume (.commands .empty) = l' at hr
  cases hr with
  | acted hp hl _ => exact ⟨_, hp, hl⟩

end Link

end EdgeGateway
