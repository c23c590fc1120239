import EdgeGateway.Proofs.Console.Elsewhere
import EdgeGateway.Proofs.Gateway.Manned
import EdgeGateway.Proofs.Route.Caller

/-!
# EdgeGateway.Proofs.Console.Thread

The thread of the console.

* `ConsolePoint.Asks` : what the console calls where it is.
* `Thread.Seated`     : the thread is the console's, and in no call but the one asked for.
* `Console.Follows`   : the menus and the commands are those of the automaton.
* `ConsolePoint.rank` : how far it is to the next key.

Out of calls the console goes on or waits for the network stack (`System.next_of_seated`), and out
of a call it goes on from the answer (`System.answer_of_seated`).
-/

namespace EdgeGateway

/-- What the console calls where it is. -/
def ConsolePoint.Asks : ConsolePoint → Call → Prop
  | .drawing, c | .handling _, c | .answering (.error _), c => ∃ lines, c = .print lines
  | .reading, c => c = .readKey
  | .rerouting r, c => r.call? = some c
  | .answering (.ok _), _ | .finished, _ => False

/-- The key that has been read and not yet acted on. -/
def ConsolePoint.inHand? : ConsolePoint → Option Char
  | .handling key => some key
  | _ => none

structure Thread.Seated (t : Thread) (p : ConsolePoint) : Prop where
  role : t.role = .console
  errand : t.errand = none
  stage : t.stage = .free ∨ ∃ c, t.stage = .inside c ∧ p.Asks c

/-- Back from a call the thread may be anywhere. -/
theorem Thread.Seated.freed {t : Thread} {p : ConsolePoint} (h : t.Seated p) (q : ConsolePoint) :
    Thread.Seated { t with stage := .free } q :=
  ⟨h.role, h.errand, .inl rfl⟩

/-- The menus and the commands are those of the automaton after the keys acted on. -/
def Console.Follows (con : Console) (r : Roster) (read : List Char)
    (given : List ControlCommand) : Prop :=
  ∃ page handled, read = handled ++ con.point.inHand?.toList ∧
    Page.main.run r handled = (page, given) ∧ con.menu = ⟨page.screens⟩

/-! ## How far the session is -/

def ConsolePoint.rank : ConsolePoint → Nat
  | .finished => 1
  | .reading => 2
  | .drawing => 3
  | .answering _ => 4
  | .rerouting (.ended _) => 5
  | .rerouting (.resolving ..) => 6
  | .rerouting (.routing _) => 7
  | .handling _ => 8

/-- The servers that are still to be set. -/
def ConsolePoint.servers : ConsolePoint → Nat
  | .rerouting (.resolving _ _ servers) => servers.length
  | _ => 0

def Stage.weight : Stage → Nat
  | .free => 1
  | _ => 0

namespace System

variable {s s' : System} {t : Thread} {i : Nat} {con : Console} {c : Call} {p : ConsolePoint}

theorem afterCommand_eq (s : System) (menu : Menu) (x : Except ControlError Unit ⊕ Reroute) :
    ∃ p : ConsolePoint, s.afterCommand menu x = s.setConsole menu p ∧ p.inHand? = none ∧
      p ≠ .finished ∧ p.rank < 8 := by
  cases x with
  | inl result => exact ⟨_, rfl, rfl, nofun, by simp [ConsolePoint.rank]⟩
  | inr r => exact ⟨_, rfl, rfl, nofun, by cases r <;> simp [ConsolePoint.rank]⟩

theorem asks_cases (h : p.Asks c) : (∃ lines, c = .print lines) ∨
    c = .readKey ∨ (∃ kind, c = .setRoute kind) ∨ ∃ index ip, c = .setServer index ip := by
  cases p with
  | drawing | handling _ => exact .inl h
  | reading => exact .inr (.inl h)
  | rerouting p =>
    cases p with
    | routing kind =>
      cases h
      exact .inr (.inr (.inl ⟨kind, rfl⟩))
    | resolving kind index servers =>
      cases servers <;> cases h
      exact .inr (.inr (.inr ⟨_, _, rfl⟩))
    | ended result => cases h
  | answering result =>
    cases result with
    | ok _ => cases h
    | error e => exact .inl h
  | finished => cases h

theorem reading_of_asks (h : p.Asks .readKey) : p = .reading := by
  cases p with
  | reading => rfl
  | drawing | handling _ =>
    obtain ⟨_, hc⟩ := h
    cases hc
  | rerouting p =>
    cases p with
    | resolving kind index servers => cases servers <;> cases h
    | _ => cases h
  | answering result =>
    cases result with
    | ok _ => cases h
    | error e =>
      obtain ⟨_, hc⟩ := h
      cases hc
  | finished => cases h

theorem asks_of_consoleIntent (hi : s.consoleIntent t con = .call c) :
    con.point.Asks c := by
  obtain ⟨menu, point⟩ := con
  cases point with
  | drawing | handling _ =>
    cases hi
    exact ⟨_, rfl⟩
  | reading =>
    cases hi
    rfl
  | rerouting p =>
    cases p with
    | routing kind =>
      cases hi
      rfl
    | resolving kind index servers =>
      cases servers <;> cases hi
      rfl
    | ended result => cases hi
  | answering result =>
    cases result <;> cases hi
    exact ⟨_, rfl⟩
  | finished => cases hi

theorem enterCall_of_asks (h : p.Asks c) :
    s.enterCall t c = s.setThread { t with stage := .inside c } := by
  rcases asks_cases h with ⟨_, rfl⟩ | rfl | ⟨_, rfl⟩ | ⟨_, _, rfl⟩ <;> rfl

theorem entered_of_start (he : t.errand = none) (hf : t.stage = .free)
    (hm : s.next t = .start c s') : s.intent t = .call c ∧ s' = s.enterCall t c := by
  rw [next_of_free hf he] at hm
  split at hm
  · cases hm
  · rename_i hcall
    unfold tryCall at hm
    split at hm <;> cases hm
    exact ⟨hcall, rfl⟩
  · cases hm
  · unfold pushMove at hm
    split at hm
    · cases hm
    · split at hm <;> cases hm
  · cases hm

section Seated

variable (hseat : t.Seated con.point)
include hseat

theorem asks_of_inside (hm : s.next t = .inside c) :
    t.stage = .inside c ∧ con.point.Asks c := by
  have hstage := stage_of_inside hm
  rcases hseat.stage with hfree | ⟨c', hin, hasks⟩
  · rw [hstage] at hfree
    cases hfree
  · cases hstage.symm.trans hin
    exact ⟨hstage, hasks⟩

theorem seated_setStage (ht : s.thread? i = some t) (stage : Stage) :
    (s.setThread { t with stage }).thread? i = some { t with stage } ∧
      s.Stays (s.setThread { t with stage }) := by
  have hid := id_of_thread? ht
  refine ⟨?_, .setThread _ fun _ => ⟨t, ?_, hseat.role⟩⟩
  · rw [thread?_setThread, if_pos hid.symm, ht]
    rfl
  · exact hid ▸ ht

variable (hcon : s.console = some con)
include hcon

theorem intent_of_seated : s.intent t = s.consoleIntent t con := by
  simp only [intent, hseat.role, hcon]

/-- Out of calls the console goes on, or it is for the network stack that it waits. -/
theorem next_of_seated (hf : t.stage = .free) : (∃ s', s.next t = .step s') ∨
    (∃ c s', s.next t = .start c s') ∨
    (∃ r, con.point = .rerouting r) ∧ s.locked t (some .net) = true := by
  rw [next_of_free hf hseat.errand, intent_of_seated hseat hcon]
  have calls {c : Call} (hc : c.lock? = none) : ∃ c' s', s.tryCall t c = .start c' s' :=
    ⟨c, _, by rw [tryCall, hc]; rfl⟩
  have asks {c : Call} (hc : c.lock? = some .net) :
      (∃ c' s', s.tryCall t c = .start c' s') ∨ s.locked t (some .net) = true := by
    rw [tryCall, hc]
    split
    · exact .inr ‹_›
    · exact .inl ⟨c, _, rfl⟩
  obtain ⟨menu, point⟩ := con
  cases point with
  | drawing | reading | handling _ => exact .inr (.inl (calls rfl))
  | rerouting p =>
    have stack {c : Call} (hc : c.lock? = some .net) : (∃ s', s.tryCall t c = .step s') ∨
        (∃ c' s', s.tryCall t c = .start c' s') ∨
        (∃ r, ConsolePoint.rerouting p = .rerouting r) ∧ s.locked t (some .net) = true :=
      .inr ((asks hc).imp_right fun hl => ⟨⟨p, rfl⟩, hl⟩)
    cases p with
    | routing kind => exact stack rfl
    | resolving kind index servers =>
      cases servers with
      | nil => exact .inl ⟨_, rfl⟩
      | cons ip rest => exact stack rfl
    | ended result => exact .inl ⟨_, rfl⟩
  | answering result =>
    cases result with
    | ok x => exact .inl ⟨_, rfl⟩
    | error e => exact .inr (.inl (calls rfl))
  | finished => exact .inl ⟨_, rfl⟩

/-- The call returns, and the console goes on from it. -/
theorem answer_of_seated (hm : s.next t = .inside c) (a : Answer) :
    s.answer t c a = (s.setThread { t with stage := .free }).consoleComplete con a := by
  obtain ⟨-, hasks⟩ := asks_of_inside hseat hm
  refine answer_console hseat.role hcon hseat.errand ?_ a
  rintro n rfl
  rcases asks_cases hasks with ⟨_, hc⟩ | hc | ⟨_, hc⟩ | ⟨_, _, hc⟩ <;> cases hc

end Seated

end System

end EdgeGateway
