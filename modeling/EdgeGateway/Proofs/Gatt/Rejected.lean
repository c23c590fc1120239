import EdgeGateway.Boot
import EdgeGateway.Proofs.Gatt.Published
import EdgeGateway.Proofs.Route.Caller

/-!
# EdgeGateway.Proofs.Gatt.Rejected

What a client's write that is answered with an error has done (`System.rejected_iff`).

* `System.Writes`   : the moves a write makes itself, from the request to its answer, whatever goes
  on in between. A write that asks for another default route is carried out by a thread of its own
  (`System.Carries`).
* `OwnMove.Aside`   : a move that changes nothing but attribute values and who runs.
* `System.Admits`   : the attribute may be written, and has room for the value.
-/

namespace EdgeGateway

/-- A move, and the call that has returned in it. -/
structure OwnMove where
  before : System
  after : System
  returned : Option (Call × Answer) := none

namespace System

variable {s s' : System} {t u : Thread} {handle : UInt16} {value : Bytes} {r : Reroute}

def value? (s : System) (handle : UInt16) : Option Bytes := s.gatt.bind (·.value? handle)

def Admits (s : System) (handle : UInt16) (value : Bytes) : Prop :=
  ∃ g table, s.gatt = some g ∧ g.table.write handle value = .ok table

/-- A thread carries out a change of the route that a write has asked for, and answers it. -/
inductive Carries (i : Nat) : Thread → List OwnMove → Except GattStatus GattResponse → Prop where
  | step {s s' : System} {t u : Thread} {moves : List OwnMove}
      {result : Except GattStatus GattResponse} : s.thread? i = some t → s.next t = .step s' →
      s'.thread? i = some u → Carries i u moves result →
      Carries i t (⟨s, s', none⟩ :: moves) result
  | start {s s' : System} {t u : Thread} {c : Call} {moves : List OwnMove}
      {result : Except GattStatus GattResponse} : s.thread? i = some t → s.next t = .start c s' →
      s'.thread? i = some u → Carries i u moves result →
      Carries i t (⟨s, s', none⟩ :: moves) result
  | answer {s : System} {t u : Thread} {c : Call} {moves : List OwnMove}
      {result : Except GattStatus GattResponse} (a : Answer) : s.thread? i = some t →
      s.next t = .inside c → (s.answer t c a).thread? i = some u → Carries i u moves result →
      Carries i t (⟨s, s.answer t c a, some (c, a)⟩ :: moves) result
  | ended {s s' : System} {t : Thread} {result : Except GattStatus GattResponse} :
      s.thread? i = some t → s.next t = .step s' → s'.thread? i = none →
      s'.choreResult = some (.written result) → Carries i t [⟨s, s', none⟩] result

inductive Writes (s : System) (handle : UInt16) (value : Bytes) :
    List OwnMove → Except GattStatus GattResponse → Prop where
  | atOnce {s' : System} {result : Except GattStatus GattResponse} :
      s.handleEvent (.request (.write handle value)) = (s', .inl result) →
      Writes s handle value [⟨s, s', none⟩] result
  | rerouting {s' : System} {r : Reroute} {moves : List OwnMove}
      {result : Except GattStatus GattResponse} :
      s.handleEvent (.request (.write handle value)) = (s', .inr r) →
      Carries s'.nextThread
        { id := s'.nextThread, actor := .main, role := .chore (.reroute r true) } moves result →
      Writes s handle value (⟨s, s'.startChore (.reroute r true), none⟩ :: moves) result

end System

/-- Only the server and the threads are touched, and the network stack has refused. -/
structure OwnMove.Aside (m : OwnMove) : Prop where
  rest : m.after = { m.before with
    gatt := m.after.gatt
    threads := m.after.threads
    nextThread := m.after.nextThread
    choreResult := m.after.choreResult }
  refused : ∀ c a, m.returned = some (c, a) → ∃ kind f, c = .setRoute kind ∧ a = .failed f

theorem OwnMove.Aside.silent {s s' : System}
    (h : s' = { s with
      gatt := s'.gatt
      threads := s'.threads
      nextThread := s'.nextThread
      choreResult := s'.choreResult }) : OwnMove.Aside ⟨s, s', none⟩ :=
  ⟨h, fun _ _ hr => by cases hr⟩

namespace System

variable {s s' : System} {t u : Thread} {handle : UInt16} {value : Bytes} {r : Reroute} {i : Nat}

/-! ## The request -/

/-- The value has been stored if the table admits it, and nothing else has changed. -/
inductive Stored (s : System) (handle : UInt16) (value : Bytes) : System → Prop where
  | refused : ¬ s.Admits handle value → Stored s handle value s
  | stored {g : Gatt} {table : AttributeTable} : s.gatt = some g →
      g.table.write handle value = .ok table →
      Stored s handle value { s with gatt := some { g with table } }

/-- Of what is answered at once nothing is left to be carried out. -/
theorem no_reroute_of_answered {α : Type} {e : α} (r : Reroute)
    (h : (Sum.inl e : α ⊕ Reroute) = .inr r) : ∃ kind, r = .routing kind := by
  cases h

/-- A command that is not carried out at once has changed nothing. -/
theorem control_refused {bytes : Bytes} {x : Except ControlError Unit ⊕ Reroute}
    (h : s.control bytes = (s', x)) (hx : x ≠ .inl (.ok ())) :
    s' = s ∧ ∀ r, x = .inr r → ∃ kind, r = .routing kind := by
  unfold control at h
  cases hc : ControlCommand.ofBytes? bytes with
  | none =>
    rw [hc] at h
    cases h
    exact ⟨rfl, no_reroute_of_answered⟩
  | some command =>
    rw [hc] at h
    cases command with
    | link kind c =>
      cases hl : s.link? kind <;> simp only [dispatch, notifyLink, hl] at h <;> cases h
      · exact ⟨rfl, no_reroute_of_answered⟩
      · exact absurd rfl hx
    | app c =>
      cases hm : s.mqtt <;> simp only [dispatch, notifyApp, hm] at h <;> cases h
      · exact ⟨rfl, no_reroute_of_answered⟩
      · exact absurd rfl hx
    | makeDefault kind =>
      simp only [dispatch, startReroute, Reroute.start] at h
      by_cases hk : kind = .none
      · simp only [hk, if_true] at h
        cases h
        exact ⟨rfl, no_reroute_of_answered⟩
      · cases hl : (s.link? kind).isSome <;>
          simp only [hk, hl, if_false, if_true, Bool.false_eq_true] at h <;> cases h
        · exact ⟨rfl, no_reroute_of_answered⟩
        · exact ⟨rfl, fun r hr => ⟨kind, by cases hr; rfl⟩⟩

/-- Once the value is stored, the write is over, or others are told of it. -/
theorem handleWrite_stored {g : Gatt} {table : AttributeTable}
    (ht : g.table.write handle value = .ok table) :
    ∃ reaction, g.handleWrite handle value = ({ g with table }, reaction) ∧
      (reaction = .answer (.ok .written) ∨ (∃ m, reaction = .forward m .written) ∨
        reaction = .control value) := by
  unfold Gatt.handleWrite
  rw [ht]
  dsimp only
  split
  · exact ⟨_, rfl, .inr (.inl ⟨_, rfl⟩)⟩
  split
  · exact ⟨_, rfl, .inr (.inl ⟨_, rfl⟩)⟩
  split
  · exact ⟨_, rfl, .inr (.inl ⟨_, rfl⟩)⟩
  split
  · exact ⟨_, rfl, .inr (.inr rfl)⟩
  · exact ⟨_, rfl, .inl rfl⟩

/-- A write that is not carried out at once has at most stored the value. -/
theorem handleEvent_write {x : Except GattStatus GattResponse ⊕ Reroute}
    (h : s.handleEvent (.request (.write handle value)) = (s', x))
    (hx : x ≠ .inl (.ok .written)) :
    (∀ r, x = .inr r → ∃ kind, r = .routing kind) ∧ s.Stored handle value s' := by
  cases hg : s.gatt with
  | none =>
    simp only [handleEvent, hg] at h
    cases h
    refine ⟨no_reroute_of_answered, .refused ?_⟩
    rintro ⟨g, table, hg', -⟩
    cases hg.symm.trans hg'
  | some g =>
    simp only [handleEvent, hg, Gatt.handle, Gatt.handleRequest] at h
    cases ht : g.table.write handle value with
    | error e =>
      have hs : ({ s with gatt := some g } : System) = s := by rw [← hg]
      simp only [Gatt.handleWrite, ht, hs] at h
      cases h
      refine ⟨no_reroute_of_answered, .refused ?_⟩
      rintro ⟨g', table, hg', ht'⟩
      cases hg.symm.trans hg'
      cases ht.symm.trans ht'
    | ok table =>
      obtain ⟨reaction, hwrite, hreaction⟩ := handleWrite_stored ht
      rw [hwrite] at h
      rcases hreaction with rfl | ⟨m, rfl⟩ | rfl
      · cases h
        exact absurd rfl hx
      · dsimp only at h
        cases hpost : postToBridge { s with gatt := some { g with table } } m <;>
          rw [hpost] at h <;> cases h
        · exact ⟨no_reroute_of_answered, .stored hg ht⟩
        · exact absurd rfl hx
      · dsimp only at h
        by_cases hcon : s.controlled = true
        · rw [if_pos hcon] at h
          cases hc : control { s with gatt := some { g with table } } value with
          | mk s₁ y =>
            rw [hc] at h
            cases y with
            | inl result =>
              cases h
              have hr : result ≠ .ok () := fun hr => hx (by rw [hr]; rfl)
              obtain ⟨rfl, -⟩ := control_refused hc fun hy => hr (Sum.inl.inj hy)
              exact ⟨no_reroute_of_answered, .stored hg ht⟩
            | inr r =>
              cases h
              obtain ⟨rfl, hr⟩ := control_refused hc Sum.inr_ne_inl
              refine ⟨fun r' hr' => ?_, .stored hg ht⟩
              cases hr'
              exact hr r rfl
        · rw [if_neg hcon] at h
          cases h
          exact ⟨no_reroute_of_answered, .stored hg ht⟩

/-! ## The change of the route -/

/-- What a thread that carries out a change for a write is about. -/
structure Carrying (t : Thread) (r : Reroute) : Prop where
  role : t.role = .chore (.reroute r true)
  errand : t.errand = none
  stage : t.stage = .free ∨ ∃ c, r.call? = some c ∧ t.stage = .inside c

namespace Carrying

variable {c : Call}

theorem step (h : Carrying t r) (hm : s.next t = .step s') :
    (∃ kind index, r = .resolving kind index [] ∧
      s' = (s.reroute kind).setThread
        { t with role := .chore (.reroute (.ended (.ok ())) true) }) ∨
    ∃ result, r = .ended result ∧ s' = s.endChore t (.written (writeResult result)) := by
  have hi : s.intent t = s.choreIntent t (.reroute r true) := by simp only [intent, h.role]
  rw [next_of_free (free_of_step hm) h.errand, hi] at hm
  cases r with
  | routing kind => exact absurd hm (tryCall_ne_step _ _ _ _)
  | resolving kind index servers =>
    cases servers with
    | cons ip rest => exact absurd hm (tryCall_ne_step _ _ _ _)
    | nil =>
      cases hm
      exact .inl ⟨kind, index, rfl, rfl⟩
  | ended result =>
    cases hm
    exact .inr ⟨result, rfl, rfl⟩

theorem start (h : Carrying t r) (hm : s.next t = .start c s') :
    r.call? = some c ∧ s' = s.setThread { t with stage := .inside c } := by
  have hfree : t.stage = .free := by
    rcases h.stage with hfree | ⟨c', -, hstage⟩
    · exact hfree
    · rw [next_of_inside hstage] at hm
      cases hm
  have hi : s.intent t = s.choreIntent t (.reroute r true) := by simp only [intent, h.role]
  have entered {c' : Call} (hm : s.tryCall t c' = .start c s') :
      c = c' ∧ s' = s.enterCall t c' := by
    unfold tryCall at hm
    split at hm <;> cases hm
    exact ⟨rfl, rfl⟩
  rw [next_of_free hfree h.errand, hi] at hm
  cases r with
  | routing kind =>
    obtain ⟨rfl, rfl⟩ := entered hm
    exact ⟨rfl, rfl⟩
  | resolving kind index servers =>
    cases servers with
    | cons ip rest =>
      obtain ⟨rfl, rfl⟩ := entered hm
      exact ⟨rfl, rfl⟩
    | nil => cases hm
  | ended result => cases hm

theorem answer (h : Carrying t r) (hm : s.next t = .inside c) (a : Answer) :
    r.call? = some c ∧ s.answer t c a = s.setThread
      { t with stage := .free, role := .chore (.reroute (s.rerouteReply a r) true) } := by
  have hstage := stage_of_inside hm
  have hc : r.call? = some c := by
    rcases h.stage with hfree | ⟨c', hc, hinside⟩
    · cases hfree.symm.trans hstage
    · cases hinside.symm.trans hstage
      exact hc
  exact ⟨hc, answer_of_chore h.role h.errand hc a⟩

end Carrying

/-- The network stack has agreed to the change. -/
def agreed : Reroute → Bool
  | .resolving .. | .ended (.ok ()) => true
  | _ => false

theorem eq_of_setThread {v : Thread} (hu : (s.setThread v).thread? t.id = some u)
    (ht : s.thread? t.id = some t) (hv : v.id = t.id) : u = v := by
  have hself := thread?_setThread_self ht hv
  rw [hv, hu] at hself
  exact Option.some.inj hself

theorem thread?_endChore (s : System) (t : Thread) (result : ChoreResult) :
    (s.endChore t result).thread? t.id = none := by
  have h := thread?_endThread s t t.id
  rwa [if_pos rfl] at h

/-- Only the change itself can be refused: what comes after it does not undo the agreement. -/
theorem agreed_or_refused (s : System) {c : Call} (hcall : r.call? = some c) (a : Answer) :
    agreed (s.rerouteReply a r) = true ∨
      agreed r = false ∧ ∃ kind f, c = .setRoute kind ∧ a = .failed f := by
  cases r with
  | routing kind =>
    cases hcall
    cases a with
    | failed f => exact .inr ⟨rfl, kind, f, rfl, rfl⟩
    | _ => exact .inl rfl
  | resolving kind index servers => exact .inl rfl
  | ended result => cases hcall

/-- Once the stack has agreed the write succeeds, and if it is refused nothing has changed. -/
theorem Carries.carrying {moves : List OwnMove} {result : Except GattStatus GattResponse}
    (h : Carries i t moves result) (hc : Carrying t r) :
    (agreed r = true → result = .ok .written) ∧
    ∀ e, result = .error e → ∀ m ∈ moves, m.Aside ∧ m.after.gatt = m.before.gatt := by
  induction h generalizing r with
  | @step s s' t u moves result ht hm hu _ ih =>
    obtain rfl := id_of_thread? ht
    have hfree := free_of_step hm
    rcases hc.step hm with ⟨kind, index, rfl, rfl⟩ | ⟨result', rfl, rfl⟩
    · obtain rfl := eq_of_setThread (s := s.reroute kind) hu ht rfl
      have hok := (ih ⟨rfl, hc.errand, .inl hfree⟩).1 rfl
      exact ⟨fun _ => hok, fun e he => by cases hok.symm.trans he⟩
    · cases (thread?_endChore s t _).symm.trans hu
  | @start s s' t u c moves result ht hm hu _ ih =>
    obtain rfl := id_of_thread? ht
    obtain ⟨hcall, rfl⟩ := hc.start hm
    obtain rfl := eq_of_setThread hu ht rfl
    obtain ⟨hok, hquiet⟩ := ih ⟨hc.role, hc.errand, .inr ⟨c, hcall, rfl⟩⟩
    refine ⟨hok, fun e he m hmem => ?_⟩
    rcases List.mem_cons.mp hmem with rfl | hmem
    · exact ⟨.silent rfl, rfl⟩
    · exact hquiet e he m hmem
  | @answer s t u c moves result a ht hm hu _ ih =>
    obtain rfl := id_of_thread? ht
    obtain ⟨hcall, hs'⟩ := hc.answer hm a
    rw [hs'] at hu ⊢
    obtain rfl := eq_of_setThread hu ht rfl
    obtain ⟨hok, hquiet⟩ := ih ⟨rfl, hc.errand, .inl rfl⟩
    rcases agreed_or_refused s hcall a with hr | ⟨hr, hrefused⟩
    · have hwritten := hok hr
      exact ⟨fun _ => hwritten, fun e he => by cases he.symm.trans hwritten⟩
    · refine ⟨fun hr' => absurd hr' (by simp [hr]), fun e he m hmem => ?_⟩
      rcases List.mem_cons.mp hmem with rfl | hmem
      · refine ⟨⟨rfl, ?_⟩, rfl⟩
        rintro c' a' ⟨⟩
        exact hrefused
      · exact hquiet e he m hmem
  | @ended s s' t result ht hm hgone hresult =>
    obtain rfl := id_of_thread? ht
    rcases hc.step hm with ⟨kind, index, rfl, rfl⟩ | ⟨result', rfl, rfl⟩
    · have hself := thread?_setThread_self (s := s.reroute kind)
        (u := { t with role := .chore (.reroute (.ended (.ok ())) true) }) ht rfl
      cases hself.symm.trans hgone
    · obtain rfl : writeResult result' = result := by simpa [endChore] using hresult
      refine ⟨fun hr => ?_, fun e he m hmem => ?_⟩
      · cases result' with
        | ok _ => rfl
        | error e => cases hr
      · rw [List.mem_singleton.mp hmem]
        exact ⟨.silent rfl, rfl⟩

/-! ## The whole write -/

/-- What a stored value changes. -/
theorem value?_stored {g : Gatt} {table : AttributeTable} (hg : s.gatt = some g)
    (ht : g.table.write handle value = .ok table) (x : UInt16) :
    value? { s with gatt := some { g with table } } x =
      if x = handle then some value else s.value? x := by
  obtain ⟨rfl, a, ha, -⟩ := AttributeTable.write_ok ht
  simp only [value?, Gatt.value?, hg, Option.bind_some, AttributeTable.get?_replaceValue, ha]
  split <;> rfl

theorem Stored.unchanged_iff (h : s.Stored handle value s') :
    (∀ x, s'.value? x = s.value? x) ↔ (s.Admits handle value → s.value? handle = some value) := by
  cases h with
  | refused hno => exact ⟨fun _ hyes => absurd hyes hno, fun _ _ => rfl⟩
  | @stored g table hg ht =>
    constructor
    · intro hall _
      rw [← hall handle, value?_stored hg ht, if_pos rfl]
    · intro hsame x
      rw [value?_stored hg ht]
      split
      · rename_i hx
        rw [hx, hsame ⟨g, table, hg, ht⟩]
      · rfl

/-- The first move stores the value, and those after it leave the server alone. -/
theorem Writes.cases {moves : List OwnMove} {e : GattStatus}
    (h : s.Writes handle value moves (.error e)) :
    ∃ first rest, moves = first :: rest ∧ first.before = s ∧ first.Aside ∧
      (∃ s', s.Stored handle value s' ∧ first.after.gatt = s'.gatt) ∧
      ∀ m ∈ rest, m.Aside ∧ m.after.gatt = m.before.gatt := by
  cases h with
  | @atOnce s' _ he =>
    have hstored := (handleEvent_write he (by simp)).2
    have hfirst : OwnMove.Aside ⟨s, s', none⟩ := by cases hstored <;> exact .silent rfl
    exact ⟨_, [], rfl, rfl, hfirst, ⟨s', hstored, rfl⟩, fun m hm => by cases hm⟩
  | @rerouting s' r rest _ he hcarries =>
    obtain ⟨hr, hstored⟩ := handleEvent_write he (by simp)
    obtain ⟨kind, rfl⟩ := hr r rfl
    have hrest := (hcarries.carrying ⟨rfl, rfl, .inl rfl⟩).2 e rfl
    have hfirst : OwnMove.Aside ⟨s, s'.startChore (.reroute (.routing kind) true), none⟩ := by
      cases hstored <;> exact .silent rfl
    exact ⟨_, rest, rfl, rfl, hfirst, ⟨s', hstored, rfl⟩, hrest⟩

/-- A write that is answered with an error, at once or after the network stack has been asked: its
moves touch nothing but the server. They leave all attribute values as they were if and only if the
attribute table does not admit the write, or the value is the one it had. -/
theorem rejected_iff {moves : List OwnMove} {e : GattStatus}
    (h : s.Writes handle value moves (.error e)) :
    (∀ m ∈ moves, m.Aside) ∧
    ((∀ m ∈ moves, ∀ x, m.after.value? x = m.before.value? x) ↔
      (s.Admits handle value → s.value? handle = some value)) := by
  obtain ⟨first, rest, rfl, rfl, hfirst, ⟨s', hstored, hgatt⟩, hrest⟩ := h.cases
  have hvalue (x : UInt16) : first.after.value? x = s'.value? x := by rw [value?, hgatt, value?]
  constructor
  · intro m hm
    rcases List.mem_cons.mp hm with rfl | hm
    · exact hfirst
    · exact (hrest m hm).1
  · rw [← hstored.unchanged_iff]
    constructor
    · intro hall x
      rw [← hvalue, hall first (List.mem_cons_self ..)]
    · intro hsame m hm x
      rcases List.mem_cons.mp hm with rfl | hm
      · rw [hvalue, hsame]
      · rw [value?, (hrest m hm).2, value?]

/-- The queue of the bridge has room for one message, and the bridge has yet to take it. -/
def narrow : System where
  settings := {}
  gatt := (Gatt.ofCapacity 64 247).toOption
  bridge := some (.ofSettings { queueDepth := 1 } false)
  defaultLink := .none

/-- One message is there. -/
def full : System :=
  (narrow.handleEvent (.request (.write Handle.closeValue [1, 0, 0, 0]))).1

/-- The next is refused, and its value can be read all the same. -/
theorem refused_value_stored :
    ∃ s', full.Writes Handle.closeValue [2, 0, 0, 0] [⟨full, s', none⟩]
        (.error .insufficientResources) ∧
      full.value? Handle.closeValue = some [1, 0, 0, 0] ∧
      s'.value? Handle.closeValue = some [2, 0, 0, 0] :=
  ⟨_, .atOnce rfl, rfl, rfl⟩

/-- The same message once more changes nothing. -/
theorem refused_again_unchanged :
    ∃ s', full.Writes Handle.closeValue [1, 0, 0, 0] [⟨full, s', none⟩]
        (.error .insufficientResources) ∧ ∀ x, s'.value? x = full.value? x := by
  let s' := (full.handleEvent (.request (.write Handle.closeValue [1, 0, 0, 0]))).1
  have h : full.Writes Handle.closeValue [1, 0, 0, 0] [⟨full, s', none⟩]
      (.error .insufficientResources) := .atOnce rfl
  have hvalue : full.value? Handle.closeValue = some [1, 0, 0, 0] := rfl
  have hsame := (rejected_iff h).2.mpr fun _ => hvalue
  exact ⟨s', h, hsame ⟨full, s', none⟩ (List.mem_singleton_self _)⟩

end System

end EdgeGateway
