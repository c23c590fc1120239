import EdgeGateway.Proofs.Threads

/-!
# EdgeGateway.Proofs.Cues

Runs that can be computed. A cue says what happens next, such as which thread moves, what its call
brings, or what comes from outside.

* `play`           : the state after some cues. One that is not for it as it stands is passed over.
* `logged`         : acts that show something, with all that has been shown before.
* `play_induction` : what every act keeps holds in the end. So whatever is played is a run
  (`run_of_play`, `run_of_play_logged`).
* `System.go?`, `System.inCall?` : the turn of a thread that can move, and of one that is in a call.
-/

namespace EdgeGateway

section Play

variable {σ κ ε : Type}

/-- The state after some cues. -/
def play (act : σ → κ → Option σ) (s : σ) : List κ → σ
  | [] => s
  | cue :: cues =>
    match act s cue with
    | some s' => play act s' cues
    | none => play act s cues

def logged (act : σ → κ → Option (List ε × σ)) (p : List ε × σ) (cue : κ) :
    Option (List ε × σ) :=
  (act p.2 cue).map fun (shown, s) => (p.1 ++ shown, s)

theorem play_induction {act : σ → κ → Option σ} {P : σ → Prop}
    (hact : ∀ s cue s', P s → act s cue = some s' → P s') {s : σ} (h : P s)
    (cues : List κ) : P (play act s cues) := by
  induction cues generalizing s with
  | nil => exact h
  | cons cue cues ih =>
    unfold play
    split
    · rename_i ha
      exact ih (hact s cue _ h ha)
    · exact ih h

theorem run_of_play {Step : σ → σ → Prop} (act : σ → κ → Option σ)
    (hact : ∀ s cue s', act s cue = some s' → Step s s') (s : σ) (cues : List κ) :
    Relation.ReflTransGen Step s (play act s cues) :=
  play_induction (fun _ _ _ hrun ha => hrun.tail (hact _ _ _ ha)) .refl cues

theorem run_of_play_logged {Run : List ε → σ → Prop} (act : σ → κ → Option (List ε × σ))
    (hact : ∀ log s cue shown s', Run log s → act s cue = some (shown, s') →
      Run (log ++ shown) s') {log : List ε} {s : σ} (h : Run log s) (cues : List κ) :
    Run (play (logged act) (log, s) cues).1 (play (logged act) (log, s) cues).2 := by
  refine play_induction (P := fun p : List ε × σ => Run p.1 p.2) ?_ h cues
  intro p cue _ hrun hlogged
  obtain ⟨⟨shown, s'⟩, ha, rfl⟩ := Option.map_eq_some_iff.mp hlogged
  exact hact p.1 p.2 cue shown s' hrun ha

end Play

namespace System

variable {s s' : System} {t : Thread} {c : Call} {entered : Option Call} {i : Nat}

/-- A thread moves, or enters a call. -/
inductive GoesOn (s : System) (t : Thread) : Option Call → System → Prop where
  | step {s' : System} : s.next t = .step s' → GoesOn s t none s'
  | start {c : Call} {s' : System} : s.next t = .start c s' → GoesOn s t (some c) s'

/-- The thread of a number if it can move, the call it enters, and what becomes of the gateway. -/
def go? (s : System) (i : Nat) : Option (Thread × Option Call × System) :=
  (s.thread? i).bind fun t =>
    match s.next t with
    | .step s' => some (t, none, s')
    | .start c s' => some (t, some c, s')
    | .blocked | .inside _ => none

/-- The thread of a number if it is in a call. -/
def inCall? (s : System) (i : Nat) : Option (Thread × Call) :=
  (s.thread? i).bind fun t =>
    match s.next t with
    | .inside c => some (t, c)
    | .blocked | .step _ | .start _ _ => none

theorem goesOn_of_go? (hgo : s.go? i = some (t, entered, s')) :
    t.id = i ∧ s.thread? t.id = some t ∧ s.GoesOn t entered s' := by
  obtain ⟨u, hu, h⟩ := Option.bind_eq_some_iff.mp hgo
  obtain rfl := id_of_thread? hu
  split at h <;> cases h
  · exact ⟨rfl, hu, .step ‹_›⟩
  · exact ⟨rfl, hu, .start ‹_›⟩

theorem inside_of_inCall? (hin : s.inCall? i = some (t, c)) :
    t.id = i ∧ s.thread? t.id = some t ∧ s.next t = .inside c := by
  obtain ⟨u, hu, h⟩ := Option.bind_eq_some_iff.mp hin
  obtain rfl := id_of_thread? hu
  split at h <;> cases h
  exact ⟨rfl, hu, ‹_›⟩

end System

end EdgeGateway
