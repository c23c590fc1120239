import EdgeGateway.Call
import EdgeGateway.Control
import EdgeGateway.Proofs.Rest
import Mathlib.Logic.Function.Basic

/-!
# EdgeGateway.Proofs.Route.Routing

Any number of callers that change the default route.

* `Routing`       : the default link, and how far each caller is.
* `Routing.Step`  : one caller goes one step and shows what it did. Only one at a time can be at
  the network stack, from the moment it asks for the route until the change takes effect.
* `Routing.Change` : what one call shows from its beginning to its end.
* `Routing.Kept`   : what the signs so far say of the state. It holds of every run
  (`Routing.kept_of_run`).
-/

namespace EdgeGateway

structure Routing where
  current : LinkKind
  /-- how far a caller is, and whether it is inside a call of the stack's -/
  caller : Nat → Option (Reroute × Bool)

/-- The caller has the network stack for itself. -/
def Reroute.holdsStack : Reroute × Bool → Bool
  | (.routing _, inside) => inside
  | (.resolving .., _) => true
  | (.ended _, _) => false

/-- What a change of the route asks of the stack next. -/
def Reroute.call? : Reroute → Option Call
  | .routing kind => some (.setRoute kind)
  | .resolving _ index (ip :: _) => some (.setServer index ip)
  | _ => none

/-- The link the stack has accepted and that is not yet the default. -/
def Reroute.accepted? : Reroute → Option LinkKind
  | .resolving kind _ _ => some kind
  | _ => none

namespace Routing

inductive Sign where
  /-- a change of the default link is asked for -/
  | asked (kind : LinkKind)
  /-- the stack has answered; the link publishes `servers` at this moment -/
  | routed (kind : LinkKind) (refusal : Option String) (servers : List IpAddress)
  /-- the stack was given a server -/
  | served (index : Nat) (ip : IpAddress) (accepted : Bool)
  /-- the change takes effect, and the application is told to restart -/
  | switched (kind : LinkKind)
  | ended (result : Except ControlError Unit)

/-- Signs with the number of the caller. What is refused at once has no caller of its own. -/
abbrev Log := List (Option Nat × Sign)

namespace Log

/-- The signs of one caller. -/
def of (log : Log) (who : Option Nat) : List Sign :=
  log.filterMap fun e => if e.1 = who then some e.2 else none

/-- The routes the stack has accepted, with the servers published then. -/
def accepted (log : Log) : List (LinkKind × List IpAddress) :=
  log.filterMap fun e =>
    match e.2 with
    | .routed kind none servers => some (kind, servers)
    | _ => none

/-- The changes that have taken effect. -/
def switches (log : Log) : List LinkKind :=
  log.filterMap fun e =>
    match e.2 with
    | .switched kind => some kind
    | _ => none

theorem of_append (log signs : Log) (who : Option Nat) :
    (log ++ signs).of who = log.of who ++ signs.of who := List.filterMap_append

theorem accepted_append (log signs : Log) :
    (log ++ signs).accepted = log.accepted ++ signs.accepted := List.filterMap_append

theorem switches_append (log signs : Log) :
    (log ++ signs).switches = log.switches ++ signs.switches := List.filterMap_append

theorem of_self (who : Option Nat) (x : Sign) : Log.of [(who, x)] who = [x] := by
  simp [of]

theorem of_other {who who' : Option Nat} (h : who ≠ who') (x : Sign) :
    Log.of [(who, x)] who' = [] := by
  simp [of, h]

end Log

/-- A caller that wants the stack can have it. -/
def Free (r : Routing) (i : Nat) : Prop :=
  ∀ j p, j ≠ i → r.caller j = some p → Reroute.holdsStack p = false

/-- Caller `i` is now as far as `p`. -/
def set (r : Routing) (i : Nat) (p : Option (Reroute × Bool)) : Routing :=
  { r with caller := Function.update r.caller i p }

inductive Step (r : Routing) : Log → Routing → Prop where
  | ask {i : Nat} {kind : LinkKind} {registered : Bool} : r.caller i = none →
      Step r [(some i, .asked kind)] (r.set i (some (Reroute.start kind registered, false)))
  | refuse {kind : LinkKind} {registered : Bool} {result : Except ControlError Unit} :
      Reroute.start kind registered = .ended result →
      Step r [(none, .asked kind), (none, .ended result)] r
  | enter {i : Nat} {p : Reroute} {c : Call} : r.caller i = some (p, false) → p.call? = some c →
      r.Free i → Step r [] (r.set i (some (p, true)))
  | route {i : Nat} {kind : LinkKind} {refusal : Option String} {servers : List IpAddress} :
      r.caller i = some (.routing kind, true) →
      Step r [(some i, .routed kind refusal servers)]
        (r.set i (some (Reroute.routed kind refusal servers, false)))
  | serve {i : Nat} {kind : LinkKind} {index : Nat} {ip : IpAddress} {rest : List IpAddress}
      {accepted : Bool} : r.caller i = some (.resolving kind index (ip :: rest), true) →
      Step r [(some i, .served index ip accepted)]
        (r.set i (some (.resolving kind (index + 1) rest, false)))
  | switch {i : Nat} {kind : LinkKind} {index : Nat} :
      r.caller i = some (.resolving kind index [], false) →
      Step r [(some i, .switched kind)]
        { r.set i (some (.ended (.ok ()), false)) with current := kind }
  | finish {i : Nat} {result : Except ControlError Unit} :
      r.caller i = some (.ended result, false) →
      Step r [(some i, .ended result)] (r.set i none)

/-- A run, and what it shows. -/
inductive Run (r : Routing) : Log → Routing → Prop where
  | start : Run r [] r
  | step {log signs : Log} {r' r'' : Routing} : Run r log r' → r'.Step signs r'' →
      Run r (log ++ signs) r''

/-- No caller is about anything. -/
def Idle (r : Routing) : Prop := ∀ i, r.caller i = none

/-- A route is accepted and not yet the default. -/
def Pending (r : Routing) (kind : LinkKind) : Prop :=
  ∃ i p, r.caller i = some p ∧ p.1.accepted? = some kind

/-! ## One call -/

/-- The servers of a link, set one by one from an index on, each with whether it was accepted. -/
def servedFrom : Nat → List (IpAddress × Bool) → List Sign
  | _, [] => []
  | index, (ip, accepted) :: rest => .served index ip accepted :: servedFrom (index + 1) rest

theorem servedFrom_append (index : Nat) (xs : List (IpAddress × Bool)) (x : IpAddress × Bool) :
    servedFrom index (xs ++ [x]) =
      servedFrom index xs ++ [.served (index + xs.length) x.1 x.2] := by
  induction xs generalizing index with
  | nil => simp [servedFrom]
  | cons y ys ih =>
    have hlen : index + 1 + ys.length = index + (ys.length + 1) := by omega
    simp [servedFrom, ih, hlen]

/-- All that a call can show. A call that fails sets no server and switches nothing; one that
succeeds sets just the published servers, in the order of their indices, and then switches. -/
inductive Change : List Sign → Prop where
  | refused {kind : LinkKind} {e : ControlError} :
      Change [.asked kind, .ended (.error e)]
  | rejected {kind : LinkKind} {reason : String} {servers : List IpAddress} :
      Change [.asked kind, .routed kind (some reason) servers, .ended (.error (.netStack reason))]
  | switched {kind : LinkKind} {answers : List (IpAddress × Bool)} :
      Change (.asked kind :: .routed kind none (answers.map Prod.fst) ::
        (servedFrom 0 answers ++ [.switched kind, .ended (.ok ())]))

/-- What a call in progress has shown. -/
inductive Begun : Option Reroute → List Sign → Prop where
  | none : Begun none []
  | routing {kind : LinkKind} : Begun (some (.routing kind)) [.asked kind]
  | resolving {kind : LinkKind} {answers : List (IpAddress × Bool)} {rest : List IpAddress} :
      Begun (some (.resolving kind answers.length rest))
        (.asked kind :: .routed kind none (answers.map Prod.fst ++ rest) :: servedFrom 0 answers)
  | ended {result : Except ControlError Unit} {signs : List Sign} :
      Change (signs ++ [.ended result]) → Begun (some (.ended result)) signs

/-- A call is refused at once or asks the stack. -/
theorem start_cases (kind : LinkKind) (registered : Bool) :
    Reroute.start kind registered = .routing kind ∨
      ∃ e, Reroute.start kind registered = .ended (.error e) := by
  unfold Reroute.start
  split
  · exact .inr ⟨_, rfl⟩
  · split
    · exact .inl rfl
    · exact .inr ⟨_, rfl⟩

theorem Begun.start (kind : LinkKind) (registered : Bool) :
    Begun (some (Reroute.start kind registered)) [.asked kind] := by
  rcases start_cases kind registered with hs | ⟨e, hs⟩ <;> rw [hs]
  · exact .routing
  · exact .ended .refused

theorem Begun.route {kind : LinkKind} {signs : List Sign}
    (h : Begun (some (.routing kind)) signs) (refusal : Option String)
    (servers : List IpAddress) : Begun (some (Reroute.routed kind refusal servers))
      (signs ++ [.routed kind refusal servers]) := by
  cases h
  cases refusal with
  | none => exact @Begun.resolving kind [] servers
  | some reason => exact .ended .rejected

theorem Begun.serve {kind : LinkKind} {index : Nat} {ip : IpAddress} {rest : List IpAddress}
    {signs : List Sign} (h : Begun (some (.resolving kind index (ip :: rest))) signs)
    (accepted : Bool) : Begun (some (.resolving kind (index + 1) rest))
      (signs ++ [.served index ip accepted]) := by
  obtain _ | _ | @⟨-, answers, -⟩ := h
  have hnext := @Begun.resolving kind (answers ++ [(ip, accepted)]) rest
  rw [servedFrom_append] at hnext
  simpa using hnext

theorem Begun.switch {kind : LinkKind} {index : Nat} {signs : List Sign}
    (h : Begun (some (.resolving kind index [])) signs) :
    Begun (some (.ended (.ok ()))) (signs ++ [.switched kind]) := by
  obtain _ | _ | @⟨-, answers, -⟩ := h
  have hcall := @Change.switched kind answers
  refine .ended ?_
  simpa using hcall

/-- The calls of a caller so far: whole ones, and what the last one has shown. -/
def Conducted (p : Option Reroute) (signs : List Sign) : Prop :=
  ∃ (calls : List (List Sign)) (begun : List Sign),
    signs = calls.flatten ++ begun ∧ (∀ c ∈ calls, Change c) ∧ Begun p begun

/-- The last call goes on. -/
theorem Conducted.go {p p' : Option Reroute} {signs more : List Sign} (h : Conducted p signs)
    (hgo : ∀ begun, Begun p begun → Begun p' (begun ++ more)) : Conducted p' (signs ++ more) := by
  obtain ⟨calls, begun, rfl, hcalls, hbegun⟩ := h
  exact ⟨calls, begun ++ more, List.append_assoc .., hcalls, hgo begun hbegun⟩

/-- The last call ends. -/
theorem Conducted.finish {p : Option Reroute} {signs more : List Sign} (h : Conducted p signs)
    (hend : ∀ begun, Begun p begun → Change (begun ++ more)) : Conducted none (signs ++ more) := by
  obtain ⟨calls, begun, rfl, hcalls, hbegun⟩ := h
  refine ⟨calls ++ [begun ++ more], [], by simp, ?_, .none⟩
  intro c hc
  rcases List.mem_append.mp hc with hc | hc
  · exact hcalls c hc
  · rw [List.mem_singleton.mp hc]
    exact hend begun hbegun

/-! ## Runs -/

/-- What the signs so far say of the state: who is how far, that one caller at most is at the
stack, and which link is the default. `boot` is the default it began with. -/
structure Kept (boot : LinkKind) (r : Routing) (log : Log) : Prop where
  calls : ∀ who : Option Nat, Conducted ((who.bind r.caller).map Prod.fst) (log.of who)
  alone : ∀ i j p q, r.caller i = some p → r.caller j = some q → Reroute.holdsStack p = true →
    Reroute.holdsStack q = true → i = j
  current : r.current = log.switches.getLast?.getD boot
  settled : (∀ kind, ¬ r.Pending kind) → log.accepted.map Prod.fst = log.switches
  pending : ∀ kind, r.Pending kind → log.accepted.map Prod.fst = log.switches ++ [kind]

variable {boot : LinkKind} {r r' : Routing} {log signs : Log} {i : Nat}

theorem caller_set (r : Routing) (i j : Nat) (p : Option (Reroute × Bool)) :
    (r.set i p).caller j = if j = i then p else r.caller j := by
  simp [set, Function.update_apply]

/-- Only the caller that went on shows anything. -/
theorem Kept.conducted_set (h : Kept boot r log) {p : Option (Reroute × Bool)} {more : List Sign}
    (hlog : ∀ who, signs.of who = if who = some i then more else [])
    (hmore : Conducted ((r.caller i).map Prod.fst) (log.of (some i)) →
      Conducted (p.map Prod.fst) (log.of (some i) ++ more)) :
    ∀ who : Option Nat, Conducted ((who.bind (r.set i p).caller).map Prod.fst)
      ((log ++ signs).of who) := by
  intro who
  rw [Log.of_append, hlog]
  by_cases hwho : who = some i
  · subst hwho
    simp only [Option.bind_some, caller_set, if_true]
    exact hmore (h.calls (some i))
  · have hsame : who.bind (r.set i p).caller = who.bind r.caller := by
      cases who with
      | none => rfl
      | some j =>
        have hne : j ≠ i := fun heq => hwho (by rw [heq])
        simp only [Option.bind_some, caller_set, if_neg hne]
    rw [if_neg hwho, List.append_nil, hsame]
    exact h.calls who

theorem of_single (i : Nat) (x : Sign) (who : Option Nat) :
    Log.of [(some i, x)] who = if who = some i then [x] else [] := by
  by_cases hwho : who = some i
  · rw [if_pos hwho, hwho, Log.of_self]
  · rw [if_neg hwho, Log.of_other fun heq => hwho heq.symm]

/-- Holders stay the same or become fewer. -/
theorem Kept.alone_set (h : Kept boot r log) {p : Option (Reroute × Bool)}
    (hp : ∀ q, p = some q → Reroute.holdsStack q = true →
      (∃ q', r.caller i = some q' ∧ Reroute.holdsStack q' = true) ∨ r.Free i) :
    ∀ j k q q', (r.set i p).caller j = some q → (r.set i p).caller k = some q' →
      Reroute.holdsStack q = true → Reroute.holdsStack q' = true → j = k := by
  -- whoever else holds the stack held it before, and then `i` does not hold it now
  have other : ∀ k q q', k ≠ i → p = some q → r.caller k = some q' →
      Reroute.holdsStack q = true → Reroute.holdsStack q' = true → False := by
    intro k q q' hne hq hk hheld hheld'
    rcases hp q hq hheld with ⟨q₀, hi, h₀⟩ | hfree
    · exact hne (h.alone k i q' q₀ hk hi hheld' h₀)
    · rw [hfree k q' hne hk] at hheld'
      cases hheld'
  intro j k q q' hj hk hheld hheld'
  rw [caller_set] at hj hk
  by_cases hji : j = i
  · by_cases hki : k = i
    · rw [hji, hki]
    · rw [if_pos hji] at hj
      rw [if_neg hki] at hk
      exact (other k q q' hki hj hk hheld hheld').elim
  · rw [if_neg hji] at hj
    by_cases hki : k = i
    · rw [if_pos hki] at hk
      exact (other j q' q hji hk hj hheld' hheld).elim
    · rw [if_neg hki] at hk
      exact h.alone j k q q' hj hk hheld hheld'

theorem holdsStack_of_accepted? {p : Reroute × Bool} {kind : LinkKind}
    (h : p.1.accepted? = some kind) : Reroute.holdsStack p = true := by
  obtain ⟨p, inside⟩ := p
  cases p <;> first | rfl | cases h

/-- No one is about to become the default, except through the caller that went on. -/
theorem pending_set (r : Routing) (i : Nat) (p : Option (Reroute × Bool)) (kind : LinkKind) :
    (r.set i p).Pending kind ↔
      (∃ q, p = some q ∧ q.1.accepted? = some kind) ∨
        ∃ j q, j ≠ i ∧ r.caller j = some q ∧ q.1.accepted? = some kind := by
  constructor
  · rintro ⟨j, q, hj, hq⟩
    rw [caller_set] at hj
    by_cases hji : j = i
    · rw [if_pos hji] at hj
      exact .inl ⟨q, hj, hq⟩
    · rw [if_neg hji] at hj
      exact .inr ⟨j, q, hji, hj, hq⟩
  · rintro (⟨q, hp, hq⟩ | ⟨j, q, hji, hj, hq⟩)
    · exact ⟨i, q, by rw [caller_set, if_pos rfl, hp], hq⟩
    · exact ⟨j, q, by rw [caller_set, if_neg hji, hj], hq⟩

/-- A step between equals: what is accepted and not yet the default stays the same. -/
theorem pending_set_iff {p : Option (Reroute × Bool)}
    (h : p.bind (·.1.accepted?) = (r.caller i).bind (·.1.accepted?)) (kind : LinkKind) :
    (r.set i p).Pending kind ↔ r.Pending kind := by
  rw [pending_set]
  constructor
  · rintro (⟨q, hp, hq⟩ | ⟨j, q, -, hj, hq⟩)
    · have hsome : (r.caller i).bind (·.1.accepted?) = some kind := by
        rw [← h, hp]
        exact hq
      obtain ⟨q', hi, hq'⟩ := Option.bind_eq_some_iff.mp hsome
      exact ⟨i, q', hi, hq'⟩
    · exact ⟨j, q, hj, hq⟩
  · rintro ⟨j, q, hj, hq⟩
    by_cases hji : j = i
    · subst hji
      have hsome : p.bind (·.1.accepted?) = some kind := by
        rw [h, hj]
        exact hq
      obtain ⟨q', hp, hq'⟩ := Option.bind_eq_some_iff.mp hsome
      exact .inl ⟨q', hp, hq'⟩
    · exact .inr ⟨j, q, hji, hj, hq⟩

/-- A step that neither has a route accepted nor lets one take effect. -/
theorem Kept.quiet (h : Kept boot r log)
    (hcalls : ∀ who : Option Nat, Conducted ((who.bind r'.caller).map Prod.fst)
      ((log ++ signs).of who))
    (halone : ∀ i j p q, r'.caller i = some p → r'.caller j = some q →
      Reroute.holdsStack p = true → Reroute.holdsStack q = true → i = j)
    (hcurrent : r'.current = r.current) (hpending : ∀ kind, r'.Pending kind ↔ r.Pending kind)
    (ha : signs.accepted = []) (hs : signs.switches = []) : Kept boot r' (log ++ signs) := by
  refine ⟨hcalls, halone, ?_, ?_, ?_⟩
  · rw [Log.switches_append, hs, List.append_nil, hcurrent]
    exact h.current
  · intro hnone
    rw [Log.accepted_append, Log.switches_append, ha, hs, List.append_nil, List.append_nil]
    exact h.settled fun kind hk => hnone kind ((hpending kind).mpr hk)
  · intro kind hk
    rw [Log.accepted_append, Log.switches_append, ha, hs, List.append_nil, List.append_nil]
    exact h.pending kind ((hpending kind).mp hk)

theorem Kept.quiet_set (h : Kept boot r log) {p : Option (Reroute × Bool)} {more : List Sign}
    (hlog : ∀ who, signs.of who = if who = some i then more else [])
    (hmore : Conducted ((r.caller i).map Prod.fst) (log.of (some i)) →
      Conducted (p.map Prod.fst) (log.of (some i) ++ more))
    (halone : ∀ q, p = some q → Reroute.holdsStack q = true →
      (∃ q', r.caller i = some q' ∧ Reroute.holdsStack q' = true) ∨ r.Free i)
    (hpending : p.bind (·.1.accepted?) = (r.caller i).bind (·.1.accepted?))
    (ha : signs.accepted = []) (hs : signs.switches = []) : Kept boot (r.set i p) (log ++ signs) :=
  h.quiet (h.conducted_set hlog hmore) (h.alone_set halone) rfl (pending_set_iff hpending) ha hs

/-- While a caller holds the stack, no other has a route accepted. -/
theorem Kept.pending_of_holds (h : Kept boot r log) {p : Reroute × Bool}
    (hi : r.caller i = some p) (hp : Reroute.holdsStack p = true) {kind : LinkKind} :
    ∀ j q, j ≠ i → r.caller j = some q → q.1.accepted? ≠ some kind := by
  intro j q hne hj hq
  exact hne (h.alone j i q p hj hi (holdsStack_of_accepted? hq) hp)

theorem Kept.not_pending_of_routing (h : Kept boot r log) {kind : LinkKind}
    (hi : r.caller i = some (.routing kind, true)) : ∀ kind', ¬ r.Pending kind' := by
  rintro kind' ⟨j, q, hj, hq⟩
  by_cases hji : j = i
  · subst hji
    rw [hi] at hj
    cases hj
    cases hq
  · exact h.pending_of_holds hi rfl j q hji hj hq

theorem Kept.route (h : Kept boot r log) {kind : LinkKind} (refusal : Option String)
    (servers : List IpAddress) (hi : r.caller i = some (.routing kind, true)) :
    Kept boot (r.set i (some (Reroute.routed kind refusal servers, false)))
      (log ++ [(some i, .routed kind refusal servers)]) := by
  have hmore : Conducted ((r.caller i).map Prod.fst) (log.of (some i)) →
      Conducted (some (Reroute.routed kind refusal servers))
        (log.of (some i) ++ [.routed kind refusal servers]) := by
    intro hc
    rw [hi] at hc
    exact hc.go fun begun hb => hb.route refusal servers
  have halone : ∀ q, some (Reroute.routed kind refusal servers, false) = some q →
      Reroute.holdsStack q = true →
      (∃ q', r.caller i = some q' ∧ Reroute.holdsStack q' = true) ∨ r.Free i :=
    fun _ _ _ => .inl ⟨_, hi, rfl⟩
  cases refusal with
  | some reason =>
    refine h.quiet_set (of_single i _) hmore halone ?_ rfl rfl
    rw [hi]
    rfl
  | none =>
    have hnone := h.not_pending_of_routing hi
    refine ⟨h.conducted_set (of_single i _) hmore, h.alone_set halone, ?_, ?_, ?_⟩
    · have hsame : Log.switches [(some i, .routed kind none servers)] = [] := rfl
      rw [Log.switches_append, hsame, List.append_nil]
      exact h.current
    · intro hno
      exact absurd ⟨i, _, by rw [caller_set, if_pos rfl], rfl⟩ (hno kind)
    · intro kind' hk
      have hkind : kind' = kind := by
        rcases (pending_set r i _ kind').mp hk with ⟨q, hq, hacc⟩ | ⟨j, q, hji, hj, hacc⟩
        · cases hq
          cases hacc
          rfl
        · exact absurd ⟨j, q, hj, hacc⟩ (hnone kind')
      rw [Log.accepted_append, Log.switches_append, List.map_append, h.settled hnone, hkind]
      simp [Log.accepted, Log.switches]

theorem Kept.switch (h : Kept boot r log) {kind : LinkKind} {index : Nat}
    (hi : r.caller i = some (.resolving kind index [], false)) :
    Kept boot { r.set i (some (.ended (.ok ()), false)) with current := kind }
      (log ++ [(some i, .switched kind)]) := by
  have hcalls := h.conducted_set (p := some (.ended (.ok ()), false))
    (of_single i (.switched kind)) fun hc => by
      rw [hi] at hc
      exact hc.go fun begun hb => hb.switch
  have halone := h.alone_set (i := i) (p := some (.ended (.ok ()), false)) fun q hq hheld => by
    cases hq
    cases hheld
  have hpending := h.pending kind ⟨i, _, hi, rfl⟩
  have hnone : ∀ kind', ¬ (r.set i (some (.ended (.ok ()), false))).Pending kind' := by
    intro kind' hk
    rcases (pending_set r i _ kind').mp hk with ⟨q, hq, hacc⟩ | ⟨j, q, hji, hj, hacc⟩
    · cases hq
      cases hacc
    · exact h.pending_of_holds hi rfl j q hji hj hacc
  refine ⟨hcalls, halone, ?_, ?_, ?_⟩
  · rw [Log.switches_append]
    simp [Log.switches]
  · intro _
    rw [Log.accepted_append, Log.switches_append, List.map_append, hpending]
    simp [Log.accepted, Log.switches]
  · intro kind' hk
    exact absurd hk (hnone kind')

theorem Kept.refuse (h : Kept boot r log) (kind : LinkKind) (e : ControlError) :
    Kept boot r (log ++ [(none, .asked kind), (none, .ended (.error e))]) := by
  refine h.quiet (fun who => ?_) h.alone rfl (fun _ => Iff.rfl) rfl rfl
  rw [Log.of_append]
  cases who with
  | none =>
    refine (h.calls none).finish fun begun hb => ?_
    cases hb
    exact .refused
  | some i =>
    have hnone : Log.of [(none, .asked kind), (none, .ended (.error e))] (some i) = [] := rfl
    rw [hnone, List.append_nil]
    exact h.calls (some i)

theorem Kept.step (h : Kept boot r log) (hs : r.Step signs r') : Kept boot r' (log ++ signs) := by
  cases hs with
  | @ask i kind registered hi =>
    refine h.quiet_set (of_single i _) (fun hc => ?_) ?_ ?_ rfl rfl
    · rw [hi] at hc
      refine hc.go fun begun hb => ?_
      cases hb
      exact .start kind registered
    · intro q hq hheld
      cases hq
      rcases start_cases kind registered with hp | ⟨e, hp⟩ <;> rw [hp] at hheld <;> cases hheld
    · rw [hi]
      rcases start_cases kind registered with hp | ⟨e, hp⟩ <;> rw [hp] <;> rfl
  | @refuse kind registered result hr =>
    rcases start_cases kind registered with hp | ⟨e, hp⟩ <;> cases hp.symm.trans hr
    exact h.refuse kind e
  | @enter i p c hi hp hfree =>
    refine h.quiet_set (fun who => (ite_self _).symm) (fun hc => ?_) ?_ ?_ rfl rfl
    · rw [hi] at hc
      rwa [List.append_nil]
    · exact fun _ _ _ => .inr hfree
    · rw [hi]
      rfl
  | @route i kind refusal servers hi => exact h.route refusal servers hi
  | @serve i kind index ip rest accepted hi =>
    refine h.quiet_set (of_single i _) (fun hc => ?_) ?_ ?_ rfl rfl
    · rw [hi] at hc
      exact hc.go fun begun hb => hb.serve accepted
    · exact fun _ _ _ => .inl ⟨_, hi, rfl⟩
    · rw [hi]
      rfl
  | switch hi => exact h.switch hi
  | @finish i result hi =>
    refine h.quiet_set (of_single i _) (fun hc => ?_) ?_ ?_ rfl rfl
    · rw [hi] at hc
      refine hc.finish fun begun hb => ?_
      cases hb
      assumption
    · intro q hq
      cases hq
    · rw [hi]
      rfl

theorem Kept.start (h : r.Idle) : Kept r.current r [] := by
  have hnone : ∀ kind, ¬ r.Pending kind := by
    rintro kind ⟨i, p, hi, -⟩
    rw [h i] at hi
    cases hi
  refine ⟨fun who => ⟨[], [], rfl, nofun, ?_⟩, fun i j p q hi => ?_, rfl, fun _ => rfl,
    fun kind hk => absurd hk (hnone kind)⟩
  · cases who with
    | none => exact .none
    | some i =>
      rw [Option.bind_some, h i]
      exact .none
  · rw [h i] at hi
    cases hi

theorem kept_of_run {r₀ : Routing} (h₀ : r₀.Idle) (h : r₀.Run log r) : Kept r₀.current r log := by
  induction h with
  | start => exact .start h₀
  | step _ hs ih => exact ih.step hs

end Routing

end EdgeGateway
