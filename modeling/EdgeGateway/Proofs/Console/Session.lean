import EdgeGateway.Proofs.Console.Thread
import EdgeGateway.Proofs.Route.Gateway
import Mathlib.Data.Prod.Lex
import Mathlib.Order.WellFounded

/-!
# EdgeGateway.Proofs.Console.Session

A session at the console of a running gateway.

* `Desk`       : the gateway with its keyboard, and what has been read and given so far.
* `Desk.Own`   : a move of the console's thread. A key that is asked for is the next one, and after
  the last the input is closed; other calls are answered with anything.
* `Desk.Step`  : a move of the console's, or something elsewhere.
* `Desk.rank`  : it falls with every move of the console's, and nothing else changes it.
* `Desk.Obeys` : each key is read once, the commands are those of the automaton, and the session
  comes to its end. It is so in every run (`Desk.keys_obeyed`) of a gateway that is ready for a
  console, as one is after boot (`System.ready_of_boot`).
-/

namespace EdgeGateway

structure Desk where
  system : System
  /-- the keys to come -/
  keys : List Char
  read : List Char := []
  /-- the commands given so far -/
  given : List ControlCommand := []

namespace Desk

/-- `i` is the console's thread. -/
inductive Own (i : Nat) (d : Desk) : Desk → Prop where
  | step {t : Thread} {s' : System} : d.system.thread? i = some t → d.system.next t = .step s' →
      Own i d { d with system := s' }
  | start {t : Thread} {c : Call} {s' : System} : d.system.thread? i = some t →
      d.system.next t = .start c s' → Own i d { d with system := s' }
  | read {t : Thread} : d.system.thread? i = some t → d.system.next t = .inside .readKey →
      Own i d { d with
        system := d.system.answer t .readKey (.key d.keys.head?)
        keys := d.keys.tail
        read := d.read ++ d.keys.head?.toList }
  | answer {t : Thread} {c : Call} (a : Answer) : d.system.thread? i = some t →
      d.system.next t = .inside c → c ≠ .readKey →
      Own i d { d with
        system := d.system.answer t c a
        given := d.given ++ (d.system.pressed? t).toList }

inductive Step (i : Nat) (d : Desk) : Desk → Prop where
  | own {d' : Desk} : Own i d d' → Step i d d'
  | elsewhere {s' : System} : d.system.Elsewhere i s' → Step i d { d with system := s' }

/-- The keys count most: between two of them there is one way through the points. The number of
servers to be set is not known before the stack has answered. -/
def rank (i : Nat) (d : Desk) : Nat ×ₗ Nat :=
  match d.system.console, d.system.thread? i with
  | some con, some t => toLex (8 * d.keys.length + con.point.rank,
      2 * con.point.servers + t.stage.weight)
  | _, _ => toLex (0, 0)

/-- A command that is given is carried out. Apart from that the console leaves the links alone,
and the application and the default link as well until a new default takes effect. -/
def Performs (i : Nat) (d d' : Desk) : Prop :=
  (∃ t s c menu, d.system.thread? i = some t ∧ s = d.system.setThread { t with stage := .free } ∧
    d'.given = d.given ++ [c] ∧ d'.system = (s.dispatch c).1.afterCommand menu (s.dispatch c).2) ∨
  d'.given = d.given ∧ (∀ kind, d'.system.link? kind = d.system.link? kind) ∧
    (d'.system.mqtt = d.system.mqtt ∧ d'.system.defaultLink = d.system.defaultLink ∨
      ∃ menu kind index,
        d.system.console = some ⟨menu, .rerouting (.resolving kind index [])⟩ ∧
        d'.system.mqtt = d.system.mqtt.map (·.notify .restart) ∧ d'.system.defaultLink = kind)

/-- The console with its keyboard, `keys` being all that is ever typed. -/
structure Kept (i : Nat) (r : Roster) (keys : List Char) (d : Desk) : Prop where
  roster : d.system.roster = r
  kinded : d.system.Kinded
  old : i < d.system.nextThread
  alone : ∀ j t, d.system.thread? j = some t → t.role = .console → j = i
  keys : d.read ++ d.keys = keys
  console : ∃ con, d.system.console = some con ∧ con.Follows r d.read d.given ∧
    (con.point = .finished → d.keys = []) ∧
    ((∃ t, d.system.thread? i = some t ∧ t.Seated con.point) ∨
      d.system.thread? i = none ∧ con.point = .finished)

/-- What a move of the console's does. -/
structure Turns (i : Nat) (r : Roster) (keys : List Char) (d d' : Desk) : Prop where
  kept : d'.Kept i r keys
  rank : d'.rank i < d.rank i
  effect : d.Performs i d'

variable {i : Nat} {r : Roster} {keys : List Char} {d d' : Desk} {s' : System} {t : Thread}
  {con : Console} {c : Call}

theorem rank_gone (ht : d.system.thread? i = none) : d.rank i = toLex (0, 0) := by
  unfold rank
  rw [ht]
  cases d.system.console <;> rfl

theorem rank_eq (hcon : d.system.console = some con) (ht : d.system.thread? i = some t) :
    d.rank i = toLex (8 * d.keys.length + con.point.rank,
      2 * con.point.servers + t.stage.weight) := by
  simp only [rank, hcon, ht]

namespace Kept

variable (h : d.Kept i r keys)
include h

theorem seated (ht : d.system.thread? i = some t) : ∃ con, d.system.console = some con ∧
    con.Follows r d.read d.given ∧ (con.point = .finished → d.keys = []) ∧
    t.Seated con.point := by
  obtain ⟨con, hcon, hfol, hend, ⟨t', ht', hseat⟩ | ⟨hnone, -⟩⟩ := h.console
  · cases ht.symm.trans ht'
    exact ⟨con, hcon, hfol, hend, hseat⟩
  · rw [ht] at hnone
    cases hnone

theorem next (hs : d.system.Stays d'.system) (hkeys : d'.read ++ d'.keys = keys)
    (hcon : d'.system.console = some con) (hfol : con.Follows r d'.read d'.given)
    (hend : con.point = .finished → d'.keys = [])
    (hthread : (∃ t, d'.system.thread? i = some t ∧ t.Seated con.point) ∨
      d'.system.thread? i = none ∧ con.point = .finished) : d'.Kept i r keys where
  roster := hs.roster.trans h.roster
  kinded := hs.kinded h.kinded
  old := Nat.lt_of_lt_of_le h.old hs.nextThread
  alone j u hu hr := by
    obtain ⟨v, hv, hvr⟩ := hs.consoles j u hu hr
    exact h.alone j v hv hvr
  keys := hkeys
  console := ⟨con, hcon, hfol, hend, hthread⟩

/-- Whatever happens elsewhere. -/
theorem elsewhere (hs : d.system.Elsewhere i s') :
    ({ d with system := s' } : Desk).Kept i r keys ∧
      ({ d with system := s' } : Desk).rank i = d.rank i := by
  obtain ⟨con, hcon, hfol, hend, hthread⟩ := h.console
  have herrand : ∀ t, d.system.thread? i = some t → t.errand = none := by
    intro t ht
    obtain ⟨_, _, _, _, hseat⟩ := h.seated ht
    exact hseat.errand
  have hb := hs.beside h.kinded h.old herrand h.alone
  refine ⟨h.next hb.toStays h.keys (hb.console.trans hcon) hfol hend ?_, ?_⟩
  · rwa [hb.thread]
  · simp only [rank, hb.console, hb.thread]

end Kept

/-! ## Moves of the console's -/

section Moves

variable (h : d.Kept i r keys) (ht : d.system.thread? i = some t)
  (hcon : d.system.console = some con)
include h ht hcon

/-- A move after which the thread is `t'` and the console `con'`. -/
theorem turns_of {t' : Thread} {con' : Console} (hs : d.system.Stays d'.system)
    (hkeys : d'.read ++ d'.keys = keys) (hcon' : d'.system.console = some con')
    (ht' : d'.system.thread? i = some t') (hseat : t'.Seated con'.point)
    (hfol : con'.Follows r d'.read d'.given) (hend : con'.point = .finished → d'.keys = [])
    (hlt : 8 * d'.keys.length + con'.point.rank < 8 * d.keys.length + con.point.rank ∨
      8 * d'.keys.length + con'.point.rank = 8 * d.keys.length + con.point.rank ∧
      2 * con'.point.servers + t'.stage.weight < 2 * con.point.servers + t.stage.weight)
    (heff : d.Performs i d') : d.Turns i r keys d' where
  kept := h.next hs hkeys hcon' hfol hend (.inl ⟨t', ht', hseat⟩)
  rank := by
    rw [rank_eq hcon ht, rank_eq hcon' ht', Prod.Lex.toLex_lt_toLex]
    exact hlt
  effect := heff

/-- A move to another point, with no key in hand before or after. -/
theorem turns_to {t' : Thread} {p : ConsolePoint} (hfol : con.Follows r d.read d.given)
    (hs : d.system.Stays s') (hcon' : s'.console = some ⟨con.menu, p⟩)
    (ht' : s'.thread? i = some t') (hseat : t'.Seated p) (hnone : con.point.inHand? = none)
    (hp : p.inHand? = none) (hend : p ≠ .finished)
    (hlt : p.rank < con.point.rank ∨ p.rank = con.point.rank ∧
      2 * p.servers + t'.stage.weight < 2 * con.point.servers + t.stage.weight)
    (heff : d.Performs i { d with system := s' }) :
    d.Turns i r keys { d with system := s' } := by
  obtain ⟨page, handled, hread, hrun, hmenu⟩ := hfol
  rw [hnone, ← hp] at hread
  refine turns_of h ht hcon hs h.keys hcon' ht' hseat ⟨page, handled, hread, hrun, hmenu⟩
    (fun heq => absurd heq hend) ?_ heff
  dsimp only
  omega

variable (hseat : t.Seated con.point) (hfol : con.Follows r d.read d.given)
include hseat hfol

theorem turns_step (hend : con.point = .finished → d.keys = []) (hm : d.system.next t = .step s') :
    d.Turns i r keys { d with system := s' } := by
  have hfree := System.free_of_step hm
  have hid := System.id_of_thread? ht
  rw [System.next_of_free hfree hseat.errand, System.intent_of_seated hseat hcon] at hm
  have still (p : ConsolePoint) : t.Seated p := ⟨hseat.role, hseat.errand, .inl hfree⟩
  obtain ⟨menu, point⟩ := con
  cases point with
  | drawing => exact absurd hm (System.tryCall_ne_step _ _ _ _)
  | reading => exact absurd hm (System.tryCall_ne_step _ _ _ _)
  | handling key => exact absurd hm (System.tryCall_ne_step _ _ _ _)
  | rerouting p =>
    cases p with
    | routing kind => exact absurd hm (System.tryCall_ne_step _ _ _ _)
    | resolving kind index servers =>
      cases servers with
      | cons ip rest => exact absurd hm (System.tryCall_ne_step _ _ _ _)
      | nil =>
        cases hm
        refine turns_to h ht hcon hfol (.of_threads rfl rfl (fun _ => rfl) ?_) rfl ht (still _) rfl
          rfl (by simp) (.inl (Nat.lt_succ_self _))
          (.inr ⟨rfl, fun _ => rfl, .inr ⟨menu, kind, index, hcon, rfl, rfl⟩⟩)
        simp [System.setConsole, System.reroute]
    | ended result =>
      cases hm
      exact turns_to h ht hcon hfol (.of_threads rfl rfl (fun _ => rfl) rfl) rfl ht (still _) rfl
        rfl (by simp) (.inl (Nat.lt_succ_self _)) (.inr ⟨rfl, fun _ => rfl, .inl ⟨rfl, rfl⟩⟩)
  | answering result =>
    cases result with
    | error e => exact absurd hm (System.tryCall_ne_step _ _ _ _)
    | ok x =>
      cases hm
      exact turns_to h ht hcon hfol (.of_threads rfl rfl (fun _ => rfl) rfl) rfl ht (still _) rfl
        rfl (by simp) (.inl (Nat.lt_succ_self _)) (.inr ⟨rfl, fun _ => rfl, .inl ⟨rfl, rfl⟩⟩)
  | finished =>
    cases hm
    have hgone : (d.system.endThread t).thread? i = none := by
      rw [System.thread?_endThread, if_pos hid.symm]
    refine ⟨h.next (.endThread _ t) h.keys hcon hfol hend (.inr ⟨hgone, rfl⟩), ?_,
      .inr ⟨rfl, fun _ => rfl, .inl ⟨rfl, rfl⟩⟩⟩
    rw [rank_eq hcon ht, rank_gone hgone, Prod.Lex.toLex_lt_toLex]
    exact .inl (Nat.succ_pos _)

/-- The console is never on its way to a call, only in one. -/
theorem turns_start (hend : con.point = .finished → d.keys = [])
    (hm : d.system.next t = .start c s') : d.Turns i r keys { d with system := s' } := by
  rcases hseat.stage with hfree | ⟨c', hin, -⟩
  · obtain ⟨hcall, rfl⟩ := System.entered_of_start hseat.errand hfree hm
    rw [System.intent_of_seated hseat hcon] at hcall
    have hasks := System.asks_of_consoleIntent hcall
    obtain ⟨hself, hstays⟩ := System.seated_setStage hseat ht (.inside c)
    rw [System.enterCall_of_asks hasks]
    refine turns_of h ht hcon hstays h.keys hcon hself
      ⟨hseat.role, hseat.errand, .inr ⟨c, rfl, hasks⟩⟩ hfol hend (.inr ⟨rfl, ?_⟩)
      (.inr ⟨rfl, fun _ => rfl, .inl ⟨rfl, rfl⟩⟩)
    rw [hfree]
    exact Nat.lt_succ_self _
  · rw [System.next_of_inside hin] at hm
    cases hm

/-- The next key is in hand, or the input is closed. -/
theorem turns_read (hm : d.system.next t = .inside .readKey) : d.Turns i r keys { d with
      system := d.system.answer t .readKey (.key d.keys.head?)
      keys := d.keys.tail
      read := d.read ++ d.keys.head?.toList } := by
  obtain ⟨hself, hstays⟩ := System.seated_setStage hseat ht .free
  have still := hseat.freed
  have hpoint := System.reading_of_asks (System.asks_of_inside hseat hm).2
  obtain ⟨page, handled, hread, hrun, hmenu⟩ := hfol
  rw [System.answer_of_seated hseat hcon hm]
  obtain ⟨menu, point⟩ := con
  cases hpoint
  have hhandled : d.read = handled := hread.trans (List.append_nil _)
  have hall := h.keys
  cases hkeys : d.keys with
  | nil =>
    rw [hkeys] at hall
    refine turns_of h ht hcon (hstays.setConsole menu .finished) ?_ rfl hself (still _) ?_
      (fun _ => rfl) (.inl ?_) (.inr ⟨rfl, fun _ => rfl, .inl ⟨rfl, rfl⟩⟩)
    · rw [← hall]
      simp
    · exact ⟨page, handled, by simp [hhandled, ConsolePoint.inHand?], hrun, hmenu⟩
    · rw [hkeys]
      exact Nat.lt_succ_self _
  | cons key rest =>
    rw [hkeys] at hall
    refine turns_of h ht hcon (hstays.setConsole menu (.handling key)) ?_ rfl hself (still _) ?_
      (by simp) (.inl ?_) (.inr ⟨rfl, fun _ => rfl, .inl ⟨rfl, rfl⟩⟩)
    · rw [← hall]
      simp
    · exact ⟨page, handled, by simp [hhandled, ConsolePoint.inHand?], hrun, hmenu⟩
    · rw [hkeys]
      simp only [ConsolePoint.rank, List.length_cons, List.tail_cons]
      omega

/-- The key in hand is acted on. -/
theorem turns_press {key : Char} (hkey : con.point = .handling key) (a : Answer) :
    d.Turns i r keys { d with
      system := (d.system.setThread { t with stage := .free }).consoleComplete con a
      given := d.given ++ (con.menu.press d.system.view key).action.toList } := by
  obtain ⟨hself, hstays⟩ := System.seated_setStage hseat ht .free
  have still := hseat.freed
  obtain ⟨page, handled, hread, hrun, hmenu⟩ := hfol
  obtain ⟨menu, point⟩ := con
  cases hkey
  cases hmenu
  obtain ⟨hopen, haction⟩ := Menu.press_screens d.system.view page key
  rw [System.roster_view, h.roster] at hopen haction
  have hfollow (p : ConsolePoint) (hp : p.inHand? = none) :
      Console.Follows ⟨⟨(page.press r key).1.screens⟩, p⟩ r d.read
        (d.given ++ (page.press r key).2.toList) := by
    refine ⟨_, handled ++ [key], ?_, ?_, rfl⟩
    · rw [hp]
      exact hread.trans (List.append_nil _).symm
    · rw [Page.run_concat, hrun]
  have hview : (d.system.setThread { t with stage := .free }).view = d.system.view := rfl
  simp only [System.consoleComplete, hview, hopen, haction]
  cases hcommand : (page.press r key).2 with
  | none =>
    rw [hcommand] at hfollow
    refine turns_of h ht hcon (hstays.setConsole _ .drawing) h.keys rfl hself (still _)
      (hfollow .drawing rfl) (by simp) (.inl ?_)
      (.inr ⟨List.append_nil _, fun _ => rfl, .inl ⟨rfl, rfl⟩⟩)
    exact Nat.add_lt_add_left (by simp [ConsolePoint.rank]) _
  | some command =>
    rw [hcommand] at hfollow
    have hc := System.Commanded.dispatch (d.system.setThread { t with stage := .free }) command
    have hs := System.Spares.dispatch (hstays.kinded h.kinded) command
    obtain ⟨p, hafter, hp, hend, hlt⟩ := System.afterCommand_eq
      ((d.system.setThread { t with stage := .free }).dispatch command).1
      ⟨(page.press r key).1.screens⟩
      ((d.system.setThread { t with stage := .free }).dispatch command).2
    dsimp only
    refine turns_of h ht hcon ?_ h.keys (by rw [hafter]; rfl) ?_ (still p) (hfollow p hp)
      (fun heq => absurd heq hend) (.inl (Nat.add_lt_add_left hlt _))
      (.inl ⟨t, _, command, _, ht, rfl, rfl, rfl⟩)
    · rw [hafter]
      exact (hstays.trans (.of_spares hs hc)).setConsole _ p
    · rw [hafter]
      exact (hc.alike.thread? i).trans hself

/-- Any other call returns. It may have been the text that goes with a key. -/
theorem turns_answer (hm : d.system.next t = .inside c) (hne : c ≠ .readKey) (a : Answer) :
    d.Turns i r keys { d with
      system := d.system.answer t c a
      given := d.given ++ (d.system.pressed? t).toList } := by
  obtain ⟨hself, hstays⟩ := System.seated_setStage hseat ht .free
  have still := hseat.freed
  obtain ⟨hin, hasks⟩ := System.asks_of_inside hseat hm
  rw [System.answer_of_seated hseat hcon hm]
  by_cases hkey : ∃ key, con.point = .handling key
  · obtain ⟨key, hkey⟩ := hkey
    have hcon' : d.system.console = some ⟨con.menu, .handling key⟩ := hkey ▸ hcon
    rw [System.pressed?_handling hseat.role hcon']
    exact turns_press h ht hcon hseat hfol hkey a
  rw [System.pressed?_eq_none hseat.role hcon fun key heq => hkey ⟨key, heq⟩, Option.toList_none,
    List.append_nil]
  obtain ⟨menu, point⟩ := con
  have on {p : ConsolePoint} (hp : p.inHand? = none) (hend : p ≠ .finished)
      (hnone : point.inHand? = none)
      (hlt : p.rank < point.rank ∨ p.rank = point.rank ∧
        2 * p.servers + 1 < 2 * point.servers + t.stage.weight) : d.Turns i r keys { d with
          system := (d.system.setThread { t with stage := .free }).setConsole menu p } :=
    turns_to h ht hcon hfol (hstays.setConsole menu p) rfl hself (still p) hnone hp hend hlt
      (.inr ⟨rfl, fun _ => rfl, .inl ⟨rfl, rfl⟩⟩)
  cases point with
  | drawing => exact on rfl (by simp) rfl (.inl (Nat.lt_succ_self _))
  | reading => exact absurd hasks hne
  | handling key => exact absurd ⟨key, rfl⟩ hkey
  | rerouting p =>
    cases p with
    | routing kind =>
      have hrank (refusal : Option String) (servers : List IpAddress) :
          (ConsolePoint.rerouting (Reroute.routed kind refusal servers)).rank < 7 := by
        cases refusal <;> simp [Reroute.routed, ConsolePoint.rank]
      exact on rfl (by simp) rfl (.inl (hrank _ _))
    | resolving kind index servers =>
      cases servers with
      | nil => cases hasks
      | cons ip rest =>
        refine on rfl (by simp) rfl (.inr ⟨rfl, ?_⟩)
        rw [hin]
        exact Nat.lt_succ_self _
    | ended result => cases hasks
  | answering result =>
    cases result with
    | ok x => cases hasks
    | error e => exact on rfl (by simp) rfl (.inl (Nat.lt_succ_self _))
  | finished => cases hasks

end Moves

theorem Own.turns (h : d.Kept i r keys) (ho : Own i d d') : d.Turns i r keys d' := by
  cases ho with
  | step ht hm =>
    obtain ⟨con, hcon, hfol, hend, hseat⟩ := h.seated ht
    exact turns_step h ht hcon hseat hfol hend hm
  | start ht hm =>
    obtain ⟨con, hcon, hfol, hend, hseat⟩ := h.seated ht
    exact turns_start h ht hcon hseat hfol hend hm
  | read ht hm =>
    obtain ⟨con, hcon, hfol, -, hseat⟩ := h.seated ht
    exact turns_read h ht hcon hseat hfol hm
  | answer a ht hm hne =>
    obtain ⟨con, hcon, hfol, -, hseat⟩ := h.seated ht
    exact turns_answer h ht hcon hseat hfol hm hne a

theorem Step.kept (h : d.Kept i r keys) (hs : Step i d d') :
    d'.Kept i r keys ∧ d'.rank i ≤ d.rank i := by
  cases hs with
  | own ho =>
    obtain ⟨hkept, hlt, -⟩ := ho.turns h
    exact ⟨hkept, hlt.le⟩
  | elsewhere he =>
    obtain ⟨hkept, heq⟩ := h.elsewhere he
    exact ⟨hkept, heq.le⟩

/-! ## Every session -/

/-- The console's command waits for the network stack, and another thread has it. -/
def Waits (i : Nat) (d : Desk) : Prop :=
  (∃ menu p, d.system.console = some ⟨menu, .rerouting p⟩) ∧
    ∃ u ∈ d.system.threads, u.id ≠ i ∧ d.system.holds u .net = true

/-- What a session comes to, `keys` being all that is ever typed. -/
structure Obeys (i : Nat) (r : Roster) (keys : List Char) (d : Desk) : Prop where
  /-- each key is read once, in its turn -/
  once : d.read ++ d.keys = keys
  /-- the commands are those the automaton gives for the keys that have been acted on -/
  given : ∃ menu point handled, d.system.console = some ⟨menu, point⟩ ∧
    d.read = handled ++ point.inHand?.toList ∧ d.given = (Page.main.run r handled).2 ∧
    menu = ⟨(Page.main.run r handled).1.screens⟩
  effect : ∀ d', Own i d d' → d.Performs i d'
  /-- a list is never indexed below its start or behind its end -/
  picks : ∀ menu key, d.system.console = some ⟨menu, .handling key⟩ → menu.Picks d.system.view key
  live : d.system.thread? i = none ∨ (∃ d', Own i d d') ∨ d.Waits i
  /-- the console does not go on for ever, whatever happens in between -/
  halts : ∀ f : Nat → Desk, f 0 = d → (∀ n, Step i (f n) (f (n + 1))) →
    ∃ n, ∀ m, n ≤ m → ¬ Own i (f m) (f (m + 1))
  /-- it is over when all keys have been read -/
  ends : d.system.thread? i = none → d.read = keys ∧ d.given = (Page.main.run r keys).2

namespace Kept

variable (h : d.Kept i r keys)
include h

theorem live : d.system.thread? i = none ∨ (∃ d', Own i d d') ∨ d.Waits i := by
  cases ht : d.system.thread? i with
  | none => exact .inl rfl
  | some t =>
    refine .inr ?_
    obtain ⟨⟨menu, point⟩, hcon, -, -, hseat⟩ := h.seated ht
    rcases hseat.stage with hfree | ⟨c, hin, -⟩
    · rcases System.next_of_seated hseat hcon hfree with ⟨s', hm⟩ | ⟨c, s', hm⟩ | ⟨⟨p, rfl⟩, hl⟩
      · exact .inl ⟨_, .step ht hm⟩
      · exact .inl ⟨_, .start ht hm⟩
      · obtain ⟨u, hu, hheld⟩ := List.any_eq_true.mp hl
        have hid := System.id_of_thread? ht
        exact .inr ⟨⟨menu, p, hcon⟩, u, hu, by simpa [hid] using hheld⟩
    · have hm := System.next_of_inside (s := d.system) hin
      by_cases hc : c = .readKey
      · subst hc
        exact .inl ⟨_, .read ht hm⟩
      · exact .inl ⟨_, .answer .done ht hm hc⟩

theorem along {f : Nat → Desk} (hf : f 0 = d) (hs : ∀ n, Step i (f n) (f (n + 1))) (n : Nat) :
    (f n).Kept i r keys := by
  induction n with
  | zero => exact hf ▸ h
  | succ n ih => exact ((hs n).kept ih).1

/-- The rank is lowest somewhere, and the console does not move behind it. -/
theorem halts {f : Nat → Desk} (hf : f 0 = d) (hs : ∀ n, Step i (f n) (f (n + 1))) :
    ∃ n, ∀ m, n ≤ m → ¬ Own i (f m) (f (m + 1)) := by
  have hanti : Antitone fun n => (f n).rank i :=
    antitone_nat_of_succ_le fun n => ((hs n).kept (h.along hf hs n)).2
  obtain ⟨-, ⟨n, rfl⟩, hmin⟩ := wellFounded_lt.has_min (Set.range fun n => (f n).rank i) ⟨_, 0, rfl⟩
  refine ⟨n, fun m hm ho => hmin _ ⟨m + 1, rfl⟩ ?_⟩
  exact (ho.turns (h.along hf hs m)).rank.trans_le (hanti hm)

theorem ends (hgone : d.system.thread? i = none) :
    d.read = keys ∧ d.given = (Page.main.run r keys).2 := by
  obtain ⟨⟨menu, point⟩, -, ⟨page, handled, hread, hrun, -⟩, hend, ⟨t, ht, -⟩ | ⟨-, hpoint⟩⟩ :=
    h.console
  · rw [hgone] at ht
    cases ht
  · cases hpoint
    have hread : d.read = handled := hread.trans (List.append_nil _)
    have hall : d.read = keys := by
      rw [← h.keys, hend rfl, List.append_nil]
    exact ⟨hall, by rw [← hall, hread, hrun]⟩

theorem obeys : d.Obeys i r keys where
  once := h.keys
  given := by
    obtain ⟨⟨menu, point⟩, hcon, ⟨page, handled, hread, hrun, hmenu⟩, -⟩ := h.console
    exact ⟨menu, point, handled, hcon, hread, by rw [hrun], by rw [hrun]; exact hmenu⟩
  effect d' ho := (ho.turns h).effect
  picks menu key _ := menu.picks _ key
  live := h.live
  halts _ hf hs := h.halts hf hs
  ends := h.ends

end Kept

end Desk

/-! ## From the start on -/

/-- No console has been started yet. -/
structure System.Ready (s : System) : Prop where
  fresh : s.Fresh
  kinded : s.Kinded
  bare : ∀ j t, s.thread? j = some t → t.role ≠ .console

/-- A gateway has no console before the board's is handed to it. -/
theorem System.ready_of_boot {settings : Settings} {suffix : String} {p : Provided} {s : System}
    (h : boot settings suffix p = .ok s) : s.Ready := by
  have hb := booted h
  refine ⟨hb.manned.fresh, hb.manned.kinded, fun j t ht hrole => ?_⟩
  have htask := (hb.idle j t ht).2
  rw [hrole] at htask
  cases htask

namespace Desk

/-- The console is started, and `keys` will be typed. -/
def start (s : System) (keys : List Char) : Desk := { system := s.startConsole, keys }

theorem kept_start {s : System} (h : s.Ready) (keys : List Char) :
    (start s keys).Kept s.nextThread s.roster keys where
  roster := rfl
  kinded := h.kinded
  old := Nat.lt_succ_self _
  alone j t ht hr := by
    rcases Option.or_eq_some_iff.mp ((System.thread?_spawn _ _ _ _ j).symm.trans ht) with
      ht | ⟨-, ht⟩
    · exact absurd hr (h.bare j t ht)
    · by_contra hne
      rw [if_neg fun heq => hne heq.symm] at ht
      cases ht
  keys := rfl
  console := by
    let t : Thread := { id := s.nextThread, actor := .console, role := .console }
    refine ⟨{}, rfl, ⟨.main, [], rfl, rfl, rfl⟩, by simp, .inl ⟨t, ?_, ⟨rfl, rfl, .inl rfl⟩⟩⟩
    refine (System.thread?_spawn _ _ _ _ _).trans ?_
    have hnone : ({ s with console := some {} } : System).thread? s.nextThread = none :=
      h.fresh _ (Nat.le_refl _)
    rw [hnone, if_pos rfl]
    rfl

/-- In every run of a gateway the console reads each key once and ends with the last, and the
commands it has given are those of the automaton. -/
theorem keys_obeyed {s : System} (h₀ : s.Ready) {keys : List Char} {d : Desk}
    (h : Relation.ReflTransGen (Step s.nextThread) (start s keys) d) :
    d.Obeys s.nextThread s.roster keys := by
  have hkept : d.Kept s.nextThread s.roster keys := by
    induction h with
    | refl => exact kept_start h₀ keys
    | tail _ hs ih => exact (hs.kept ih).1
  exact hkept.obeys

/-! ### A session of its own -/

/-- The console's thread goes on. A call that it is in is answered, and that for a key with the
next one. -/
def turn? (i : Nat) (d : Desk) (a : Answer) : Option Desk :=
  match d.system.go? i, d.system.inCall? i with
  | some (_, _, s), _ => some { d with system := s }
  | none, some (t, .readKey) =>
    some { d with
      system := d.system.answer t .readKey (.key d.keys.head?)
      keys := d.keys.tail
      read := d.read ++ d.keys.head?.toList }
  | none, some (t, c) =>
    some { d with
      system := d.system.answer t c a
      given := d.given ++ (d.system.pressed? t).toList }
  | none, none => none

theorem own_of_turn? {i : Nat} {d d' : Desk} {a : Answer} (h : turn? i d a = some d') :
    Own i d d' := by
  unfold turn? at h
  split at h <;> cases h
  · rename_i hgo
    obtain ⟨rfl, ht, hgoes⟩ := System.goesOn_of_go? hgo
    cases hgoes with
    | step hm => exact .step ht hm
    | start hm => exact .start ht hm
  · rename_i hin
    obtain ⟨rfl, ht, hm⟩ := System.inside_of_inCall? hin
    exact .read ht hm
  · rename_i hne _ hin
    obtain ⟨rfl, ht, hm⟩ := System.inside_of_inCall? hin
    exact .answer a ht hm hne

/-- Through all menus and back again, with keys that are nowhere on offer. -/
def walk : List Char := ['1', '2', '4', 'X', '1', '3', 'é', '9', '2', '1', '1']

/-- All calls succeed. -/
def walked : Desk := play (turn? 0) (start System.twoLinks walk) (List.replicate 100 .done)

theorem keys_obeyed_in_walk : walked.Obeys 0 ⟨[.wifi, .cellular], true⟩ walk ∧
    walked.system.thread? 0 = none ∧
    walked.given = [.makeDefault .cellular, .link .wifi .restart, .app .stop] := by
  have hready : System.twoLinks.Ready := by
    refine ⟨fun _ _ => rfl, fun kind l hl => ?_, fun j t ht => ?_⟩
    · cases kind <;> cases hl <;> rfl
    · cases ht
  have hrun : Relation.ReflTransGen (Step 0) (start System.twoLinks walk) walked :=
    run_of_play (turn? 0) (fun _ _ _ h => .own (own_of_turn? h)) _ _
  have hobeys := keys_obeyed hready hrun
  have hgone : walked.system.thread? 0 = none :=
    Option.isNone_iff_eq_none.mp (by decide +kernel)
  exact ⟨hobeys, hgone, (hobeys.ends hgone).2⟩

end Desk

end EdgeGateway
