import EdgeGateway.Proofs.Link.Life
import Mathlib.Data.List.Chain
import Mathlib.Tactic.Tauto

/-!
# EdgeGateway.Proofs.Link.Published

What a link publishes is true (`Life.truthful`).

* `Status.leadsTo` : the changes of status a listener can be told of.
* `Link.Reports`   : the status the link has at each point.
* `Life.history`   : the statuses so far, the newest first.
* `Life.Backed`    : where the published address and name servers come from.
-/

namespace EdgeGateway

def Status.leadsTo : Status → Status → Bool
  | .stopped, s => s = .starting || s = .stopping
  | .starting, s => s = .started || s = .failedToStart || s = .stopping
  | .stopping, s => s = .starting || s = .stopped
  | .started, s => s = .stopping
  | .failedToStart, s => s = .stopping || s = .stopped
  | .unknown, _ => false

namespace Link

/-- Where `Sound` does not say it already. -/
def Reports (l : Link) : Prop :=
  match l.point with
  | .opening => l.status = .stopped
  | .bringingUp | .trying _ | .pausing _ | .connecting _ | .resolving _ => l.status = .starting
  | .discarding _ | .disconnecting _ => l.status = .stopping
  | .leaving _ => l.status = .started ∨ l.status = .failedToStart ∨ l.status = .stopped
  | _ => True

/-- The status stays as it is, or its change is announced. -/
def Tells (l l' : Link) : Prop :=
  (l'.status = l.status ∧ l'.announcing = none) ∨
    (l.status.leadsTo l'.status = true ∧ l'.announcing = some l'.status)

theorem tells_of_eq {l l' : Link} (hs : l'.status = l.status) (ha : l'.announcing = none) :
    l.Tells l' := .inl ⟨hs, ha⟩

theorem tells_setStatus {l : Link} {s : Status} (p : Point) (ha : l.announcing = none)
    (h : l.status = s ∨ l.status.leadsTo s = true) : l.Tells ((l.setStatus s).goto p) := by
  by_cases hs : l.status = s
  · rw [setStatus_of_eq hs]
    exact tells_of_eq rfl ha
  · have hl := h.resolve_left hs
    exact .inr ⟨by simpa using hl, by simp [setStatus, hs]⟩

theorem Acts.reports {l : Link} {left cs : Commands} {p : Point} (h : l.Sound)
    (hp : l.point = .idle left) (ha : Acts l cs p) : (l.goto p).Reports := by
  simp only [Sound, hp] at h
  cases ha with
  | nothing _ | confirm _ _ _ => trivial
  | reconnect _ _ | stop _ | exit _ =>
    show l.status = .started ∨ l.status = .failedToStart ∨ l.status = .stopped
    tauto

theorem Turn.reports {l l' : Link} {q : Request} {r : Reply} (hs : l.Sound) (h : l.Reports)
    (ht : Turn l q r l') : l'.Reports := by
  cases ht with
  | acted hp _ hacts => exact hacts.reports hs hp
  | opened hp => cases hr : l.ready <;> simp [Reports]
  | _ hp => simp_all [Reports, Sound, giveUp]

theorem Reads.reports {l l' : Link} {cs : Commands} {limit : Option Nat} (hs : l.Sound)
    (h : l.Reports) (hr : Reads l cs limit l') : l'.Reports := by
  cases hr with
  | acted hp _ hacts => exact hacts.reports hs hp
  | abort hp _ | retry hp _ => simp_all [Reports, giveUp]

theorem Turn.tells {l l' : Link} {q : Request} {r : Reply} (hs : l.Sound) (h : l.Reports)
    (ha : l.announcing = none) (ht : Turn l q r l') : l.Tells l' := by
  cases ht with
  | broughtUp _ | first _ _ | pause _ _ _ | connected _ _ | failed _ | acted _ _ _ | confirmed _
  | denied _ | stay _ | reconnect _ | exit _ => exact tells_of_eq rfl ha
  | opened hp | notBroughtUp hp | exhausted hp _ | refused hp | unusable hp | discarded hp =>
    simp only [Reports, hp] at h
    exact tells_setStatus _ ha (.inr (by rw [h]; rfl))
  | resolved hp | disconnected hp =>
    simp only [Reports, hp] at h
    exact tells_setStatus (l := { l with addressing := _ }) _ ha (.inr (by simp only [h]; rfl))
  | takeDown hp _ =>
    simp only [Reports, hp] at h
    rcases h with h | h | h <;> exact tells_setStatus _ ha (.inr (by rw [h]; rfl))
  | down hp hne =>
    simp only [Reports, hp] at h
    rcases h.resolve_left hne with h | h
    · exact tells_setStatus _ ha (.inr (by rw [h]; rfl))
    · exact tells_setStatus _ ha (.inl h)
  | close hp =>
    simp only [Sound, hp] at hs
    exact tells_setStatus _ ha (.inl hs.1)

theorem Reads.tells {l l' : Link} {cs : Commands} {limit : Option Nat} (h : l.Reports)
    (ha : l.announcing = none) (hr : Reads l cs limit l') : l.Tells l' := by
  cases hr with
  | abort hp _ =>
    simp only [Reports, hp] at h
    exact tells_setStatus _ ha (.inr (by rw [h]; rfl))
  | retry _ _ | acted _ _ _ => exact tells_of_eq rfl ha

/-- An address is published only while the link is up or being taken down. -/
theorem up_of_published {l : Link} (hs : l.Sound) (h : l.Reports) (ha : l.addressing ≠ {}) :
    l.status = .started ∨ l.status = .stopping := by
  cases hp : l.point <;> simp_all [Sound, Reports, Down]

theorem Turn.started {l l' : Link} {q : Request} {r : Reply} (hs : l.Sound) (h : l.Reports)
    (ht : Turn l q r l') (hup : l'.status = .started) :
    (∃ ip dns, l.point = .resolving ip ∧ q = .askServers ∧ r = .servers dns ∧
      l'.addressing = ⟨some ip, dns⟩) ∨
    (l.status = .started ∧ l'.addressing = l.addressing ∧ q ≠ .connect ∧ q ≠ .askServers) := by
  cases ht with
  | @resolved ip dns hp => exact .inl ⟨ip, dns, hp, rfl, rfl, by simp⟩
  | takeDown hp hq => simp at hup
  | close hp => simp at hup
  | opened _ | notBroughtUp _ | exhausted _ _ | unusable _ | refused _ | discarded _ | down _ _
  | disconnected _ => simp [giveUp] at hup
  | _ hp => simp_all [Sound, Reports, Down]

theorem Turn.resolving {l l' : Link} {q : Request} {r : Reply} {ip : IpAddress}
    (ht : Turn l q r l') (hp : l'.point = .resolving ip) :
    ip.isUsable = true ∧ q = .connect ∧ r = .address ip ∧ l'.announcing = l.announcing := by
  cases ht with
  | connected _ hip =>
    cases hp
    exact ⟨hip, rfl, rfl, rfl⟩
  | opened _ => cases hr : l.ready <;> simp [hr] at hp
  | acted _ _ hacts => cases hacts <;> cases hp
  | _ => cases hp

theorem Reads.point_ne_resolving {l l' : Link} {cs : Commands} {limit : Option Nat}
    (hr : Reads l cs limit l') (ip : IpAddress) : l'.point ≠ .resolving ip := by
  cases hr with
  | acted _ _ hacts => cases hacts <;> nofun
  | _ => nofun

theorem Reads.started {l l' : Link} {cs : Commands} {limit : Option Nat}
    (hr : Reads l cs limit l') (hup : l'.status = .started) :
    l.status = .started ∧ l'.addressing = l.addressing := by
  cases hr with
  | abort _ _ => simp [giveUp] at hup
  | retry _ _ | acted _ _ _ => exact ⟨hup, rfl⟩

end Link

namespace Life

/-- The status a listener is told of by a request. -/
def told : Link.Request × Link.Reply → Option Status
  | (.announce s, _) => some s
  | _ => none

theorem told_of_turn {l l' : Link} {q : Link.Request} {r : Link.Reply} (ht : l.Turn q r l') :
    told (q, r) = none := by
  cases ht with
  | takeDown _ hq => rcases hq with rfl | rfl <;> rfl
  | close _ => cases l.ready <;> rfl
  | _ => rfl

/-- The statuses from the start on, the newest first. A change the listeners are being told of
counts. -/
def history (w : Life) : List Status :=
  w.link.announcing.toList ++ w.log.filterMap told ++ [.stopped]

/-- The log ends in a connect with the address, then, after it, the reading of the servers; since
then there was neither. -/
def Backed (log : List (Link.Request × Link.Reply)) (ip : IpAddress) (dns : List IpAddress) :
    Prop :=
  ∃ later earlier,
    log = later ++ (.askServers, .servers dns) :: (.connect, .address ip) :: earlier ∧
    ∀ e ∈ later, e.1 ≠ .connect ∧ e.1 ≠ .askServers

theorem Backed.cons {log : List (Link.Request × Link.Reply)} {ip : IpAddress}
    {dns : List IpAddress} (h : Backed log ip dns) {q : Link.Request} (r : Link.Reply)
    (hc : q ≠ .connect) (hs : q ≠ .askServers) : Backed ((q, r) :: log) ip dns := by
  obtain ⟨later, earlier, rfl, hlater⟩ := h
  refine ⟨(q, r) :: later, earlier, rfl, fun e he => ?_⟩
  rcases List.mem_cons.mp he with rfl | he
  · exact ⟨hc, hs⟩
  · exact hlater e he

structure Truthful (w : Life) : Prop where
  sound : w.link.Sound
  reports : w.link.Reports
  /-- the history is in order and ends in the status published -/
  current : w.history.head? = some w.link.status
  chain : w.history.IsChain fun s' s => s.leadsTo s' = true
  /-- nothing has come in since the connect whose servers are being asked for -/
  found : ∀ ip, w.link.point = .resolving ip →
    ip.isUsable = true ∧ w.link.announcing = none ∧ w.log.head? = some (.connect, .address ip)
  backed : w.link.status = .started →
    ∃ ip dns, w.link.addressing = ⟨some ip, dns⟩ ∧ ip.isUsable = true ∧ Backed w.log ip dns

namespace Truthful

variable {w w' : Life}

theorem start (kind : LinkKind) (policy : RetryPolicy) :
    Truthful { link := .ofPolicy kind policy } where
  sound := ⟨nofun, rfl⟩
  reports := rfl
  current := rfl
  chain := .singleton _
  found := nofun
  backed := nofun

theorem of_pending (h : w.Truthful) (cs : Commands) :
    Truthful { w with link := { w.link with pending := cs } } :=
  ⟨h.sound, h.reports, h.current, h.chain, h.found, h.backed⟩

/-- The history goes on with what the task tells. -/
theorem history_of_tells {l' : Link} {q : Link.Request} {r : Link.Reply} (h : w.Truthful)
    (ha : w.link.announcing = none) (hq : told (q, r) = none) (ht : w.link.Tells l') :
    (history ⟨l', (q, r) :: w.log⟩).head? = some l'.status ∧
      (history ⟨l', (q, r) :: w.log⟩).IsChain fun s' s => s.leadsTo s' = true := by
  have heq : history ⟨l', (q, r) :: w.log⟩ = l'.announcing.toList ++ w.history := by
    simp [history, ha, hq]
  rw [heq]
  rcases ht with ⟨hs, hn⟩ | ⟨hl, hn⟩
  · simpa [hn, hs] using ⟨h.current, h.chain⟩
  · refine ⟨by simp [hn], ?_⟩
    rw [hn, Option.toList_some, List.singleton_append]
    refine List.isChain_cons.mpr ⟨fun s hs => ?_, h.chain⟩
    rw [h.current, Option.mem_some_iff] at hs
    exact hs ▸ hl

theorem turn {q : Link.Request} {r : Link.Reply} {l' : Link} (h : w.Truthful)
    (ha : w.link.announcing = none) (ht : w.link.Turn q r l') : Truthful ⟨l', (q, r) :: w.log⟩ := by
  obtain ⟨hcurrent, hchain⟩ :=
    h.history_of_tells ha (told_of_turn ht) (ht.tells h.sound h.reports ha)
  refine ⟨ht.sound h.sound ha, ht.reports h.sound h.reports, hcurrent, hchain,
    fun ip hp => ?_, fun hup => ?_⟩
  · obtain ⟨hip, rfl, rfl, ha'⟩ := ht.resolving hp
    exact ⟨hip, ha'.trans ha, rfl⟩
  · rcases ht.started h.sound h.reports hup with
      ⟨ip, dns, hp, rfl, rfl, haddr⟩ | ⟨hup, haddr, hc, hs⟩
    · obtain ⟨hip, -, hlog⟩ := h.found ip hp
      obtain ⟨earlier, hlog⟩ := List.head?_eq_some_iff.mp hlog
      exact ⟨ip, dns, haddr, hip, [], earlier, by rw [hlog]; rfl, nofun⟩
    · obtain ⟨ip, dns, hpub, hip, hb⟩ := h.backed hup
      exact ⟨ip, dns, haddr.trans hpub, hip, hb.cons r hc hs⟩

theorem read {limit : Option Nat} {cs : Commands} {l' : Link} (h : w.Truthful)
    (ha : w.link.announcing = none) (hr : w.link.Reads cs limit l') :
    Truthful ⟨l', (.wait limit, .commands cs) :: w.log⟩ := by
  obtain ⟨hcurrent, hchain⟩ :=
    h.history_of_tells (q := .wait limit) (r := .commands cs) ha rfl (hr.tells h.reports ha)
  refine ⟨hr.sound h.sound, hr.reports h.sound h.reports, hcurrent, hchain,
    fun ip hp => absurd hp (hr.point_ne_resolving ip), fun hup => ?_⟩
  obtain ⟨hup, haddr⟩ := hr.started hup
  obtain ⟨ip, dns, hpub, hip, hb⟩ := h.backed hup
  exact ⟨ip, dns, haddr.trans hpub, hip, hb.cons _ nofun nofun⟩

theorem move (h : w.Truthful) (hm : Move w w') : w'.Truthful := by
  cases hm.moved with
  | @heard s ha =>
    have hhistory : history ⟨{ w.link with announcing := none }, (.announce s, .done) :: w.log⟩ =
        w.history := by simp [history, ha, told]
    obtain ⟨hs, hr, hcurrent, hchain, hfound, hbacked⟩ := h
    refine ⟨hs.heard, hr, by rwa [hhistory], by rwa [hhistory], fun ip hp => ?_, fun hup => ?_⟩
    · obtain ⟨-, hn, -⟩ := hfound ip hp
      rw [ha] at hn
      cases hn
    · obtain ⟨ip, dns, hpub, hip, hb⟩ := hbacked hup
      exact ⟨ip, dns, hpub, hip, hb.cons _ nofun nofun⟩
  | turned ha _ ht => exact h.turn ha ht
  | read ha _ hr => exact (h.of_pending {}).read ha hr
  | expired ha _ hr => exact h.read ha hr

theorem reach (h : w.Reachable) : w.Truthful := by
  obtain ⟨kind, policy, h⟩ := h
  induction h with
  | refl => exact start kind policy
  | tail _ hs ih =>
    cases hs with
    | move hm => exact ih.move hm
    | post c => exact ih.of_pending _

end Truthful

/-- The statuses the listeners are told of follow one another as they may, from the first one on
and up to the status published; a link that is up publishes what its last connect brought; and
whatever the task asks for next, an address is published only while it is up or being taken
down. -/
theorem truthful {w : Life} (h : w.Reachable) :
    (w.history.head? = some w.link.status ∧ w.history.IsChain fun s' s => s.leadsTo s' = true) ∧
    (w.link.status = .started →
      ∃ ip dns, w.link.addressing = ⟨some ip, dns⟩ ∧ ip.isUsable = true ∧
        Backed w.log ip dns) ∧
    (w.link.addressing ≠ {} → w.link.status = .started ∨ w.link.status = .stopping) := by
  have ht := Truthful.reach h
  exact ⟨⟨ht.current, ht.chain⟩, ht.backed, Link.up_of_published ht.sound ht.reports⟩

/-- The first try brings an address. -/
theorem truthful_of_first_try :
    ∃ w : Life, w.Reachable ∧ w.history = [.started, .starting, .stopped] ∧
      w.history.IsChain (fun s' s => s.leadsTo s' = true) ∧
      (∃ ip dns, w.link.addressing = ⟨some ip, dns⟩ ∧ ip.isUsable = true ∧
        Backed w.log ip dns) ∧
      (w.link.status = .started ∨ w.link.status = .stopping) := by
  let w₀ : Life := { link := .ofPolicy .wifi ⟨2, 10⟩ }
  let w₁ := w₀.replied .done
  let w₂ := w₁.replied .done
  let w₃ := w₂.replied .done
  let w₄ := w₃.replied .done
  let w₅ := w₄.replied (.address (.v4 10 0 0 7))
  let w₆ := w₅.replied (.servers [.v4 10 0 0 1])
  have s₁ : Step w₀ w₁ := .move (.reply .proceed)
  have s₂ : Step w₁ w₂ := .move (.reply .announce)
  have s₃ : Step w₂ w₃ := .move (.reply .bringUp)
  have s₄ : Step w₃ w₄ := .move (.reply .proceed)
  have s₅ : Step w₄ w₅ := .move (.reply .connect)
  have s₆ : Step w₅ w₆ := .move (.reply .askServers)
  have h : w₆.Reachable :=
    ⟨_, _, (((((Relation.ReflTransGen.single s₁).tail s₂).tail s₃).tail s₄).tail s₅).tail s₆⟩
  have hpub : w₆.link.addressing = ⟨some (.v4 10 0 0 7), [.v4 10 0 0 1]⟩ := rfl
  obtain ⟨⟨-, hchain⟩, hbacked, hup⟩ := truthful h
  exact ⟨w₆, h, rfl, hchain, hbacked rfl, hup (by rw [hpub]; decide)⟩

end Life

end EdgeGateway
