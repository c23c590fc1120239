import EdgeGateway.Proofs.Route.Routing
import Mathlib.Data.List.Induction

/-!
# EdgeGateway.Proofs.Route.Resolver

What the resolver is left with when the default route changes.

* `Routing.Log.resolver` : for each index the server last set there.
* `Routing.Resolved`     : on a stack that accepts every server, it holds the servers of all links
  that were the default, each laid over the ones before. It holds of every run.
* `Routing.resolver_eq_iff` : so it holds those of the new default alone exactly if none of the
  links before had more.
-/

namespace EdgeGateway.Routing

namespace Log

def setServer (servers : Nat → Option IpAddress) (e : Option Nat × Sign) : Nat → Option IpAddress :=
  match e.2 with
  | .served index ip true => Function.update servers index (some ip)
  | _ => servers

/-- For each index the server last set there. -/
def resolver (log : Log) : Nat → Option IpAddress := log.foldl setServer fun _ => none

/-- The stack took every server it was given. -/
def Accepting (log : Log) : Prop := ∀ who index ip, (who, .served index ip false) ∉ log

theorem resolver_append (log signs : Log) :
    (log ++ signs).resolver = signs.foldl setServer log.resolver := List.foldl_append

theorem Accepting.left {log signs : Log} (h : (log ++ signs).Accepting) : log.Accepting :=
  fun who index ip hmem => h who index ip (List.mem_append_left signs hmem)

end Log

/-! ## Layers -/

/-- Servers set one by one over what was there. -/
def laid (servers : List IpAddress) (below : Nat → Option IpAddress) : Nat → Option IpAddress :=
  fun i => servers[i]?.or (below i)

/-- The servers of one link after the other. -/
def layers (links : List (LinkKind × List IpAddress)) : Nat → Option IpAddress :=
  links.foldl (fun below link => laid link.2 below) fun _ => none

theorem laid_nil (below : Nat → Option IpAddress) : laid [] below = below := by
  funext i
  rw [laid, List.getElem?_nil, Option.none_or]

theorem laid_snoc (servers : List IpAddress) (ip : IpAddress) (below : Nat → Option IpAddress) :
    laid (servers ++ [ip]) below =
      Function.update (laid servers below) servers.length (some ip) := by
  funext i
  by_cases hi : i = servers.length
  · subst hi
    simp [laid]
  · rw [Function.update_of_ne hi]
    by_cases hlt : i < servers.length
    · simp [laid, List.getElem?_append_left hlt]
    · have hnone : (servers ++ [ip])[i]? = none := by
        rw [List.getElem?_eq_none_iff, List.length_append, List.length_singleton]
        omega
      have hnone' : servers[i]? = none := List.getElem?_eq_none_iff.mpr (by omega)
      rw [laid, laid, hnone, hnone']

theorem layers_snoc (links : List (LinkKind × List IpAddress)) (link : LinkKind × List IpAddress) :
    layers (links ++ [link]) = laid link.2 (layers links) := by
  rw [layers, List.foldl_append]
  rfl

/-- Nothing is set where no link has a server. -/
theorem layers_eq_none_iff (links : List (LinkKind × List IpAddress)) (i : Nat) :
    layers links i = none ↔ ∀ link ∈ links, link.2.length ≤ i := by
  induction links using List.reverseRecOn with
  | nil => simp [layers]
  | append_singleton links link ih =>
    rw [layers_snoc, laid, Option.or_eq_none_iff, ih, List.getElem?_eq_none_iff]
    constructor
    · rintro ⟨hlast, hall⟩ x hx
      rcases List.mem_append.mp hx with hx | hx
      · exact hall x hx
      · rw [List.mem_singleton.mp hx]
        exact hlast
    · intro hall
      refine ⟨hall link (by simp), fun x hx => hall x ?_⟩
      exact List.mem_append_left _ hx

/-- The servers of the last link are all there is exactly if no link before it had more. -/
theorem layers_snoc_eq_iff (earlier : List (LinkKind × List IpAddress)) (kind : LinkKind)
    (servers : List IpAddress) :
    (∀ i, layers (earlier ++ [(kind, servers)]) i = servers[i]?) ↔
      ∀ link ∈ earlier, link.2.length ≤ servers.length := by
  rw [layers_snoc]
  constructor
  · intro hall
    have hend := hall servers.length
    have hnone : servers[servers.length]? = none := List.getElem?_eq_none_iff.mpr (Nat.le_refl _)
    rw [laid, hnone, Option.none_or] at hend
    exact (layers_eq_none_iff earlier _).mp hend
  · intro hall i
    by_cases hi : i < servers.length
    · simp [laid, hi]
    · have hnone : layers earlier i = none := by
        refine (layers_eq_none_iff earlier i).mpr fun link hlink => ?_
        have hle := hall link hlink
        omega
      rw [laid, hnone, Option.or_none]

/-! ## Runs -/

/-- What the resolver holds: between calls the servers of all links that were made the default, and
during one the servers set so far over those. -/
structure Resolved (r : Routing) (log : Log) : Prop where
  settled : (∀ kind, ¬ r.Pending kind) → log.resolver = layers log.accepted
  pending : ∀ i kind index rest inside, r.caller i = some (.resolving kind index rest, inside) →
    ∃ earlier done, log.accepted = earlier ++ [(kind, done ++ rest)] ∧ index = done.length ∧
      log.resolver = laid done (layers earlier)

variable {boot : LinkKind} {r r₀ r' : Routing} {log signs : Log} {i : Nat}

/-- A step in which no route is accepted and no server is set. -/
theorem Resolved.quiet (h : Resolved r log)
    (hback : ∀ i kind index rest inside, r'.caller i = some (.resolving kind index rest, inside) →
      ∃ inside', r.caller i = some (.resolving kind index rest, inside'))
    (hpending : ∀ kind, r'.Pending kind ↔ r.Pending kind)
    (ha : signs.accepted = []) (hr : (log ++ signs).resolver = log.resolver) :
    Resolved r' (log ++ signs) := by
  refine ⟨fun hnone => ?_, fun i kind index rest inside hi => ?_⟩
  · rw [hr, Log.accepted_append, ha, List.append_nil]
    exact h.settled fun kind hk => hnone kind ((hpending kind).mpr hk)
  · obtain ⟨inside', hi'⟩ := hback i kind index rest inside hi
    rw [hr, Log.accepted_append, ha, List.append_nil]
    exact h.pending i kind index rest inside' hi'

/-- A caller that was not setting servers and is not now. -/
theorem Resolved.quiet_set (h : Resolved r log) {p : Option (Reroute × Bool)}
    (hp : p.bind (·.1.accepted?) = none) (hi : (r.caller i).bind (·.1.accepted?) = none)
    (ha : signs.accepted = []) (hr : (log ++ signs).resolver = log.resolver) :
    Resolved (r.set i p) (log ++ signs) := by
  refine h.quiet (fun j kind index rest inside hj => ?_) (pending_set_iff (hp.trans hi.symm)) ha hr
  rw [caller_set] at hj
  split at hj
  · rw [hj] at hp
    cases hp
  · exact ⟨inside, hj⟩

/-- The stack accepts a route: nothing of its link is set yet. -/
theorem Resolved.route (h : Resolved r log) (hk : Kept boot r log) {kind : LinkKind}
    {servers : List IpAddress} (hi : r.caller i = some (.routing kind, true)) :
    Resolved (r.set i (some (.resolving kind 0 servers, false)))
      (log ++ [(some i, .routed kind none servers)]) := by
  have hnone := hk.not_pending_of_routing hi
  have hset : (log ++ [(some i, Sign.routed kind none servers)]).resolver = log.resolver :=
    Log.resolver_append _ _
  refine ⟨fun hno => ?_, fun j kind' index rest inside hj => ?_⟩
  · exact absurd ⟨i, _, by rw [caller_set, if_pos rfl], rfl⟩ (hno kind)
  · rw [caller_set] at hj
    split at hj
    · cases hj
      refine ⟨log.accepted, [], Log.accepted_append _ _, rfl, ?_⟩
      rw [hset, laid_nil]
      exact h.settled hnone
    · exact absurd ⟨j, _, hj, rfl⟩ (hnone kind')

theorem Resolved.serve (h : Resolved r log) (hk : Kept boot r log) {kind : LinkKind}
    {index : Nat} {ip : IpAddress} {rest : List IpAddress}
    (hi : r.caller i = some (.resolving kind index (ip :: rest), true)) :
    Resolved (r.set i (some (.resolving kind (index + 1) rest, false)))
      (log ++ [(some i, .served index ip true)]) := by
  refine ⟨fun hno => ?_, fun j kind' index' rest' inside hj => ?_⟩
  · exact absurd ⟨i, _, by rw [caller_set, if_pos rfl], rfl⟩ (hno kind)
  · rw [caller_set] at hj
    split at hj
    · cases hj
      obtain ⟨earlier, done, haccepted, rfl, hres⟩ := h.pending i _ _ _ _ hi
      refine ⟨earlier, done ++ [ip], ?_, by simp, ?_⟩
      · rw [Log.accepted_append, haccepted]
        simp [Log.accepted]
      · rw [Log.resolver_append, hres, laid_snoc]
        rfl
    · rename_i hne
      exact absurd rfl (hk.pending_of_holds hi rfl j _ hne hj)

/-- All servers of the link are set when the change takes effect. -/
theorem Resolved.switch (h : Resolved r log) (hk : Kept boot r log) {kind : LinkKind}
    {index : Nat} (hi : r.caller i = some (.resolving kind index [], false)) :
    Resolved { r.set i (some (.ended (.ok ()), false)) with current := kind }
      (log ++ [(some i, .switched kind)]) := by
  obtain ⟨earlier, done, haccepted, -, hres⟩ := h.pending i _ _ _ _ hi
  refine ⟨fun _ => ?_, fun j kind' index' rest' inside hj => ?_⟩
  · have hsame : Log.accepted [(some i, .switched kind)] = [] := rfl
    rw [Log.resolver_append, Log.accepted_append, haccepted, hsame, List.append_nil,
      List.append_nil, layers_snoc]
    exact hres
  · have hj : (r.set i (some (.ended (.ok ()), false))).caller j =
        some (.resolving kind' index' rest', inside) := hj
    rw [caller_set] at hj
    split at hj
    · cases hj
    · rename_i hne
      exact absurd rfl (hk.pending_of_holds hi rfl j _ hne hj)

theorem Resolved.step (h : Resolved r log) (hk : Kept boot r log) (hs : r.Step signs r')
    (hacc : (log ++ signs).Accepting) : Resolved r' (log ++ signs) := by
  cases hs with
  | @ask i kind registered hi =>
    refine h.quiet_set ?_ (by rw [hi]; rfl) rfl (Log.resolver_append _ _)
    rcases start_cases kind registered with hp | ⟨e, hp⟩ <;> rw [hp] <;> rfl
  | refuse _ =>
    refine h.quiet (fun i kind index rest inside hi => ⟨inside, hi⟩) (fun _ => Iff.rfl) rfl ?_
    exact Log.resolver_append _ _
  | @enter i p c hi hp hfree =>
    refine h.quiet (fun j kind index rest inside hj => ?_) (pending_set_iff ?_) rfl
      (Log.resolver_append _ _)
    · rw [caller_set] at hj
      split at hj
      · rename_i hji
        cases hj
        exact ⟨false, hji ▸ hi⟩
      · exact ⟨inside, hj⟩
    · rw [hi]
      rfl
  | @route i kind refusal servers hi =>
    cases refusal with
    | some reason => exact h.quiet_set rfl (by rw [hi]; rfl) rfl (Log.resolver_append _ _)
    | none => exact h.route hk hi
  | @serve i kind index ip rest accepted hi =>
    cases accepted with
    | true => exact h.serve hk hi
    | false => exact absurd (List.mem_append_right log List.mem_cons_self) (hacc _ _ _)
  | switch hi => exact h.switch hk hi
  | @finish i result hi => exact h.quiet_set rfl (by rw [hi]; rfl) rfl (Log.resolver_append _ _)

theorem resolved_of_run (h₀ : r₀.Idle) (h : r₀.Run log r) : log.Accepting → Resolved r log := by
  induction h with
  | start =>
    intro _
    refine ⟨fun _ => rfl, fun i kind index rest inside hi => ?_⟩
    rw [h₀ i] at hi
    cases hi
  | step hrun hs ih =>
    intro hacc
    exact (ih hacc.left).step (kept_of_run h₀ hrun) hs hacc

/-- After a change, with no other on its way, the resolver holds just the servers of the new
default exactly if no link that was made the default before had more of them. -/
theorem resolver_eq_iff (h₀ : r₀.Idle) (h : r₀.Run log r) (hacc : log.Accepting)
    (hnone : ∀ kind, ¬ r.Pending kind) {earlier : List (LinkKind × List IpAddress)}
    {kind : LinkKind} {servers : List IpAddress}
    (hlast : log.accepted = earlier ++ [(kind, servers)]) :
    r.current = kind ∧ ((∀ i, log.resolver i = servers[i]?) ↔
      ∀ link ∈ earlier, link.2.length ≤ servers.length) := by
  have hkept := kept_of_run h₀ h
  constructor
  · rw [hkept.current, ← hkept.settled hnone, hlast]
    simp
  · rw [(resolved_of_run h₀ h hacc).settled hnone, hlast]
    exact layers_snoc_eq_iff earlier kind servers

end EdgeGateway.Routing
