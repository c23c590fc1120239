import EdgeGateway.Proofs.Link.StayingDown

/-!
# EdgeGateway.Proofs.Link.Merged

What becomes of a start that follows a stop the link task has not read yet
(`Life.start_upon_stop`).

The idle task takes the two for a restart. A pause between two tries takes both out of what it has
read, so there the start is lost. Another connect sequence is sure to begin if the next commands
are read by the idle task, whatever the transport answers (`Link.reopens`).

* `Life.Reopening` : the two are there for the idle task, or have been read as a restart. Kept by
  every move until a sequence begins.
* `Life.Dropping`  : a pause may come first, or has come, or the task ends. Kept by some move.
-/

namespace EdgeGateway

namespace Link

/-- The next commands may be read in a pause between two tries, of `tries` at most. -/
def Point.mayPause (tries : Nat) : Point → Bool
  | .bringingUp => 2 ≤ tries
  | .trying n => if n = 1 then 2 ≤ tries else n ≤ tries
  | .pausing _ => true
  | .connecting n | .discarding n => n < tries
  | _ => false

def mayPause (l : Link) : Bool := l.point.mayPause l.policy.attempts

/-- A stop and a start that come now lead to another connect sequence, whatever is answered. -/
def reopens (l : Link) : Bool := !l.isEnding && !l.mayPause

/-- The link is being left for another connect sequence, or one begins. -/
def isReopening (l : Link) : Bool :=
  match l.point with
  | .leaving next | .disconnecting next | .left next => next = .reconnect
  | .opening => true
  | _ => false

theorem Turn.mayPause {l l' : Link} {q : Request} {r : Reply} (ht : Turn l q r l')
    (hp : l.point ≠ .opening) (hm : l.mayPause = false) : l'.mayPause = false := by
  rw [Link.mayPause] at hm ⊢
  rw [ht.policy_eq]
  cases ht with
  | opened ho => exact absurd ho hp
  | acted _ _ hacts => cases hacts <;> rfl
  | first hp _ =>
    simp [hp, Point.mayPause] at hm ⊢
    omega
  | pause hp hn h1 => simp [hp, Point.mayPause, h1, hn] at hm
  | failed hp | discarded hp =>
    simp [hp, Point.mayPause] at hm ⊢
    split <;> omega
  | _ hp => simp_all [Point.mayPause, giveUp]

theorem Turn.reopens {l l' : Link} {q : Request} {r : Reply} (ht : Turn l q r l')
    (hp : l.point ≠ .opening) (h : l.reopens = true) : l'.reopens = true := by
  simp only [Link.reopens, Bool.and_eq_true, Bool.not_eq_true'] at h ⊢
  exact ⟨by rw [ht.isEnding, h.1], ht.mayPause hp h.2⟩

theorem Turn.isReopening {l l' : Link} {q : Request} {r : Reply} (ht : Turn l q r l')
    (hp : l.point ≠ .opening) (h : l.isReopening = true) : l'.isReopening = true := by
  cases ht with
  | opened ho => exact absurd ho hp
  | _ hp => simp_all [Link.isReopening]

theorem Reads.not_isReopening {l l' : Link} {cs : Commands} {limit : Option Nat}
    (hr : Reads l cs limit l') : l.isReopening = false := by
  cases hr <;> simp_all [Link.isReopening]

/-- The two read together by the idle task are a restart. -/
theorem isReopening_of_read {l : Link} {limit : Option Nat} {cs : Commands}
    (hq : l.request = .wait limit) (hm : l.mayPause = false) (hcs : cs.MeansRestart) :
    (l.resume (.commands cs)).isReopening = true := by
  have ha := announcing_of_wait hq
  have hr := reads_of_wait hq cs
  generalize hl' : l.resume (.commands cs) = l' at hr
  cases hr with
  | abort hp _ | retry hp _ => simp [Link.mayPause, hp, Point.mayPause] at hm
  | acted hp hl _ =>
    rw [← hl']
    simp [resume, ha, move, hp, hl, act, hcs.dominant, isReopening]

end Link

namespace Life

variable {w w' : Life}

/-- A connect sequence begins. -/
def Begins (w : Life) : Prop := w.link.point = .opening

instance (w : Life) : Decidable w.Begins := inferInstanceAs (Decidable (_ = _))

/-- The task goes on, and neither a stop nor a shutdown is posted. -/
inductive Urged : Life → Life → Prop where
  | move {w w' : Life} : Move w w' → Urged w w'
  | post {w : Life} (c : Command) : c ≠ .stop → c ≠ .shutdown → Urged w (w.post c)

/-! ## No pause ahead -/

/-- The two are there for the idle task to read, or have been read as a restart. -/
structure Reopening (w : Life) : Prop where
  sound : w.Sound
  course : (w.link.pending.MeansRestart ∧ w.link.reopens = true) ∨ w.link.isReopening = true

namespace Reopening

theorem move (h : Reopening w) (hb : ¬ w.Begins) (hm : Move w w') : Reopening w' := by
  refine ⟨h.sound.move hm, ?_⟩
  have hc := h.course
  cases hm with
  | @reply r hf =>
    cases ha : w.link.announcing with
    | some s =>
      have hr : w.link.resume r = { w.link with announcing := none } := by
        simp only [Link.resume, ha]
      rw [replied, hr]
      exact hc
    | none =>
      have ht := Link.turn_of_fits ha hf
      rcases hc with ⟨hp, hr⟩ | hr
      · refine .inl ⟨?_, ht.reopens hb hr⟩
        rw [replied, ht.pending_eq]
        exact hp
      · exact .inr (ht.isReopening hb hr)
  | read hq _ =>
    obtain ⟨hp, hr⟩ := hc.resolve_right fun hr => by
      rw [(Link.reads_of_wait hq .empty).not_isReopening] at hr
      cases hr
    have hm : w.link.mayPause = false := by simp_all [Link.reopens]
    exact .inr (Link.isReopening_of_read (l := w.taken.link) hq hm hp)
  | expire hq hb =>
    rcases hc with ⟨hp, -⟩ | hr
    · exact absurd hb hp.bits_ne_zero
    · rw [(Link.reads_of_wait hq .empty).not_isReopening] at hr
      cases hr

theorem urged (h : Reopening w) (hb : ¬ w.Begins) (hu : Urged w w') : Reopening w' := by
  cases hu with
  | move hm => exact h.move hb hm
  | post c _ hc =>
    exact ⟨h.sound.step (.post c), h.course.imp_left (And.imp_left fun hp => hp.insert hc)⟩

theorem begins_of_rest (h : Reopening w) (hr : AtRest Move w) : w.Begins := by
  exfalso
  rcases rest_cases hr with hq | ⟨hq, hb⟩
  · have hp := (Link.point_of_finished hq).2
    have hc := h.course
    simp [Link.reopens, Link.isEnding, Link.isReopening, hp] at hc
  · rcases h.course with ⟨hp, -⟩ | hc
    · exact hp.bits_ne_zero hb
    · rw [(Link.reads_of_wait hq .empty).not_isReopening] at hc
      cases hc

theorem inevitable (h : Reopening w) : Inevitable Urged Move Begins w :=
  .of_invariant measure (fun _ _ => .move) (fun _ _ h hb hu => h.urged hb hu)
    (fun _ _ h hm => hm.falls h.sound) (fun _ h hr => h.begins_of_rest hr) h

end Reopening

end Life

/-! ## A pause ahead -/

namespace Link

/-- Answered so, a task that may come to a pause gets on to it. -/
theorem exists_fits_of_mayPause {l : Link} (hs : l.Sound) (ha : l.announcing = none)
    (hm : l.mayPause = true) (hp : ∀ n, l.point ≠ .pausing n) :
    ∃ r, Fits l.request r ∧ (l.resume r).mayPause = true := by
  rw [mayPause] at hm
  cases hpt : l.point with
  | pausing n => exact absurd hpt (hp n)
  | bringingUp =>
    refine ⟨.done, by simpa [request, ha, hpt] using Fits.bringUp, ?_⟩
    simpa [resume, ha, move, hpt, mayPause, Point.mayPause] using hm
  | trying n =>
    refine ⟨.done, by simpa [request, ha, hpt] using Fits.proceed, ?_⟩
    by_cases h1 : n = 1
    · have h2 : 2 ≤ l.policy.attempts := by simpa [hpt, Point.mayPause, h1] using hm
      have hn : ¬ l.policy.attempts < 1 := by omega
      simp [resume, ha, move, hpt, h1, hn, mayPause, Point.mayPause]
      omega
    · have hn : ¬ l.policy.attempts < n := by simpa [hpt, Point.mayPause, h1] using hm
      simp [resume, ha, move, hpt, h1, hn, mayPause, Point.mayPause]
  | connecting n =>
    have hn : n < l.policy.attempts := by simpa [hpt, Point.mayPause] using hm
    simp only [Sound, hpt] at hs
    have h0 : n ≠ 0 := by omega
    -- one more try could succeed after a timeout
    refine ⟨.failed .timeout, by simpa [request, ha, hpt] using Fits.connectFailed, ?_⟩
    simp [resume, ha, move, hpt, ConnectError.isRetryable, mayPause, Point.mayPause, h0]
    omega
  | discarding n =>
    have hn : n < l.policy.attempts := by simpa [hpt, Point.mayPause] using hm
    simp only [Sound, hpt] at hs
    have h0 : n ≠ 0 := by omega
    refine ⟨.done, by simpa [request, ha, hpt] using Fits.disconnect, ?_⟩
    simp [resume, ha, move, hpt, mayPause, Point.mayPause, h0]
    omega
  | _ => simp [hpt, Point.mayPause] at hm

end Link

namespace Life

variable {w w' : Life}

theorem Move.isEnding (hm : Move w w') (h : w.link.isEnding = true) :
    w'.link.isEnding = true := by
  cases hm.moved with
  | heard _ => exact h
  | turned _ _ ht => rw [ht.isEnding, h]
  | read _ _ hr | expired _ _ hr =>
    have hno : w.link.isEnding = false := hr.waiting.2
    rw [hno] at h
    cases h

/-- The task may come to a pause and read the two there, it has done so, or it ends. -/
inductive Dropping (w : Life) : Prop where
  | ending : w.link.isEnding = true → Dropping w
  | ahead : w.link.pending = (Commands.only .stop).insert .start → w.link.mayPause = true →
      Dropping w
  | dropped {k : Nat} : Staying k w → Dropping w

namespace Dropping

theorem not_begins (h : Dropping w) : ¬ w.Begins := by
  intro hp
  simp only [Begins] at hp
  cases h with
  | ending he => simp [Link.isEnding, hp] at he
  | ahead _ hm => simp [Link.mayPause, hp, Link.Point.mayPause] at hm
  | dropped hst =>
    have hh := hst.halted
    simp [Link.isHalted, hp] at hh

/-- A pause in which the two are read leaves nothing of them. -/
theorem read_in_pause (hs : w.Sound) {n : Nat} (ha : w.link.announcing = none)
    (hp : w.link.point = .pausing n)
    (hpend : w.link.pending = (Commands.only .stop).insert .start) :
    ∃ w', Move w w' ∧ Dropping w' := by
  have hq : w.link.request = .wait (some w.link.policy.interval) := by
    simp [Link.request, ha, hp]
  have hm : Move w _ := .read hq (by rw [hpend]; decide)
  have hlink : (w.taken.replied (.commands w.link.pending)).link =
      w.taken.link.giveUp ((w.link.pending.erase .stop).erase .start) := by
    simp [replied, Link.resume, Link.move, taken, ha, hp, hpend]
  have hleft : ((w.link.pending.erase .stop).erase .start).isEmpty = true := by rw [hpend]; decide
  have hnone : ∀ c, (w.taken.link.giveUp
      ((w.link.pending.erase .stop).erase .start)).pending.contains c = false := by
    simp [Link.giveUp, taken]
  rw [← hlink] at hnone
  refine ⟨_, hm, .dropped (k := w.tries) ⟨hs.move hm, ?_, ?_, hnone _, hnone _, hnone _⟩⟩
  · rw [hlink]
    simp [Link.isHalted, Link.giveUp, hleft]
  · show tries ⟨_, (w.taken.link.request, _) :: w.log⟩ ≤ _
    rw [tries_cons, show w.taken.link.request = _ from hq]
    simp

theorem exists_move (hs : w.Sound) (h : Dropping w) (hm : Move w w') :
    ∃ w', Move w w' ∧ Dropping w' := by
  cases h with
  | ending he => exact ⟨w', hm, .ending (hm.isEnding he)⟩
  | dropped hst => exact ⟨w', hm, .dropped (hst.move hm)⟩
  | ahead hpend hmay =>
    cases ha : w.link.announcing with
    | some s =>
      have hq : w.link.request = .announce s := by simp only [Link.request, ha]
      refine ⟨_, .reply (r := .done) (hq ▸ .announce), .ahead ?_ ?_⟩ <;>
        simpa only [replied, Link.resume, ha]
    | none =>
      -- only in the pause itself is the word read
      by_cases hp : ∃ n, w.link.point = .pausing n
      · obtain ⟨n, hp⟩ := hp
        exact read_in_pause hs ha hp hpend
      · obtain ⟨r, hf, hmay'⟩ :=
          Link.exists_fits_of_mayPause hs.link ha hmay fun n hn => hp ⟨n, hn⟩
        exact ⟨_, .reply hf, .ahead ((Link.turn_of_fits ha hf).pending_eq.trans hpend) hmay'⟩

theorem avoidable (hs : w.Sound) (h : Dropping w) : Avoidable Move Begins w := by
  have hgoes : ∀ s s', s.Sound ∧ Dropping s → Move s s' →
      ∃ s'', Move s s'' ∧ s''.Sound ∧ Dropping s'' := by
    rintro s s' ⟨hs, hd⟩ hm
    obtain ⟨s'', hm', hd'⟩ := hd.exists_move hs hm
    exact ⟨s'', hm', hs.move hm', hd'⟩
  exact .of_invariant measure (fun _ h => h.2.not_begins) hgoes (fun _ _ h hm => hm.falls h.1)
    ⟨hs, h⟩

end Dropping

theorem reopening_of_start (hs : w.Sound) (hp : w.link.pending = .only .stop)
    (h : w.link.reopens = true) : Reopening (w.post .start) where
  sound := hs.step (.post _)
  course := by
    refine .inl ⟨?_, h⟩
    rw [post, Link.notify, hp]
    exact ⟨by simp, by simp, by simp⟩

theorem dropping_of_start (hp : w.link.pending = .only .stop) (h : w.link.reopens = false) :
    Dropping (w.post .start) := by
  rw [Link.reopens, Bool.and_eq_false_iff, Bool.not_eq_false', Bool.not_eq_false'] at h
  rcases h with he | hm
  · exact .ending he
  · exact .ahead (by rw [post, Link.notify, hp]) hm

/-- A start that comes after a stop and before the task has read it. -/
theorem start_upon_stop (h : w.Reachable) (hp : w.link.pending = .only .stop) :
    (Inevitable Urged Move Begins (w.post .start) ↔ w.link.reopens = true) ∧
    (w.link.reopens = false → Avoidable Move Begins (w.post .start)) := by
  have hs := Sound.reach h
  have hno : w.link.reopens = false → Avoidable Move Begins (w.post .start) := fun hr =>
    (dropping_of_start hp hr).avoidable (hs.step (.post _))
  exact ⟨inevitable_iff (fun hr => (reopening_of_start hs hp hr).inevitable) hno, hno⟩

/-- The first of two tries is under way. -/
def inFirstTry : Life where
  link := { kind := .wifi, policy := ⟨2, 5000⟩, status := .starting, ready := true,
            point := .connecting 1 }
  log := [(.proceed, .done), (.bringUp, .done), (.announce .starting, .done), (.proceed, .done)]

theorem inFirstTry_reachable : inFirstTry.Reachable := by
  let w₀ : Life := { link := .ofPolicy .wifi ⟨2, 5000⟩ }
  let w₁ := w₀.replied .done
  let w₂ := w₁.replied .done
  let w₃ := w₂.replied .done
  have s₁ : Step w₀ w₁ := .move (.reply .proceed)
  have s₂ : Step w₁ w₂ := .move (.reply .announce)
  have s₃ : Step w₂ w₃ := .move (.reply .bringUp)
  have s₄ : Step w₃ inFirstTry := .move (.reply .proceed)
  exact ⟨_, _, (((Relation.ReflTransGen.single s₁).tail s₂).tail s₃).tail s₄⟩

/-- A stop and a start that come during a try are lost in the pause after it. -/
theorem start_lost_in_pause :
    inFirstTry.Reachable ∧ inFirstTry.link.pending = {} ∧
      ∃ w', Relation.ReflTransGen (Until Begins Move) ((inFirstTry.post .stop).post .start) w' ∧
        w'.Resting ∧ ¬ w'.Begins := by
  let v₀ := (inFirstTry.post .stop).post .start
  let v₁ := v₀.replied (.failed .timeout)
  let v₂ := v₁.replied .done
  let v₃ := v₂.taken.replied (.commands ⟨3⟩)
  let v₄ := v₃.replied .done
  have m₁ : Move v₀ v₁ := .reply .connectFailed
  have m₂ : Move v₁ v₂ := .reply .proceed
  have m₃ : Move v₂ v₃ := .read (w := v₂) rfl (by decide)
  have h₃ : v₃.link.request = .announce .failedToStart := rfl
  have m₄ : Move v₃ v₄ := .reply (h₃ ▸ .announce)
  refine ⟨inFirstTry_reachable, rfl, v₄, ?_, ⟨rfl, rfl, .inr rfl, rfl⟩, ?_⟩
  · exact (((Relation.ReflTransGen.single ⟨by decide, m₁⟩).tail ⟨by decide, m₂⟩).tail
      ⟨by decide, m₃⟩).tail ⟨by decide, m₄⟩
  · decide

end Life

end EdgeGateway
