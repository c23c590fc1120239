import Mathlib.Data.List.Induction
import EdgeGateway.Board
import EdgeGateway.Proofs.History

/-!
# EdgeGateway.Proofs.AddressLease

Addresses of the simulated board expire only while they are current (`expires_while_current`),
however many lifetimes of earlier connects are still running and in whatever order they run out.

* `Happened`           : a board, and all that its two managers have been asked for and have
  answered, with the lifetimes that have run out in between.
* `Serves`             : what one call does to the leases and to the mode of the modem.
* `Ledger`             : leases, mode and running lifetimes as the history has them.
* `Scheduled`          : the connect that has scheduled a lifetime, and the number it carries.
* `Ledger.expires_iff` : that number is the current one as long as no other lease has begun.
-/

namespace EdgeGateway.Board

/-! ## What happens to a board -/

/-- What the managers of the two links are asked for. -/
inductive Use where
  | join (tells : Bool)
  | leave
  | modem (c : ModemCall)
  deriving DecidableEq

def serve (b : Board) : Use → End
  | .join tells => b.join tells
  | .leave => b.leave
  | .modem c => b.endModemCall c

namespace Use

def kind : Use → LinkKind
  | .join _ | .leave => .wifi
  | .modem _ => .cellular

def isConnect : Use → Bool
  | .join _ | .modem (.dial _ _) => true
  | .leave | .modem _ => false

def isDisconnect : Use → Bool
  | .leave | .modem (.hangUp _) => true
  | .join _ | .modem _ => false

/-- The link that is to be told if the address asked for is lost. In command mode none is asked
for. -/
def tells? : Use → Option LinkKind
  | .join tells => if tells then some .wifi else none
  | .modem (.dial params _) => if params.ppp && params.tellsLink then some .cellular else none
  | .leave | .modem _ => none

/-- A connect that begins a lease. -/
def renews : Use → Bool
  | .join _ => true
  | .modem (.dial params _) => params.ppp
  | .leave | .modem _ => false

theorem of_tells? {u : Use} {kind : LinkKind} (h : u.tells? = some kind) :
    u.kind = kind ∧ u.renews = true ∧ u.isConnect = true ∧ kind ≠ .none := by
  cases u with
  | join tells =>
    cases tells with
    | false => cases h
    | true =>
      cases h
      exact ⟨rfl, rfl, rfl, by decide⟩
  | leave => cases h
  | modem c =>
    cases c with
    | dial params timeout =>
      obtain ⟨hboth, rfl⟩ : (params.ppp && params.tellsLink) = true ∧ LinkKind.cellular = kind := by
        simpa [tells?] using h
      simp_all [Use.kind, renews, isConnect]
    | mode | change | hangUp => cases h

end Use

inductive Event where
  | used (u : Use) (answer : Answer) (scheduled : Option Expiry)
  | ranOut (e : Expiry) (lost : Bool)
  deriving DecidableEq

namespace Event

def schedules (e : Expiry) : Event → Bool
  | .used _ _ scheduled => scheduled = some e
  | .ranOut _ _ => false

def isEndOf (e : Expiry) : Event → Bool
  | .used _ _ _ => false
  | .ranOut e' _ => e' = e

/-- A connect of such a link that has succeeded, or a disconnect whatever came of it. -/
def supersedes (kind : LinkKind) : Event → Bool
  | .used u a _ => u.kind = kind && (u.isConnect && a.succeeded || u.isDisconnect)
  | .ranOut _ _ => false

/-- A lease has begun. -/
def begins (kind : LinkKind) : Event → Bool
  | .used u a _ => u.kind = kind && (u.renews && a.succeeded || u.isDisconnect)
  | .ranOut _ _ => false

/-- The modem has been opened. -/
def opens : Event → Bool
  | .used u a _ => u.kind = .cellular && (u.isConnect && a.succeeded)
  | .ranOut _ _ => false

/-- The modem has been closed, if it was open. -/
def closes : Event → Bool
  | .used u _ _ => u.kind = .cellular && u.isDisconnect
  | .ranOut _ _ => false

end Event

inductive Happened (lifetime : Option Nat) : Board → List Event → Prop where
  | new : Happened lifetime (ofLifetime lifetime) []
  | use {b : Board} {history : List Event} (u : Use) : Happened lifetime b history →
      Happened lifetime (b.serve u).onward
        (history ++ [.used u (b.serve u).answer (b.serve u).scheduled])
  | runOut {b : Board} {history : List Event} {e : Expiry} : Happened lifetime b history →
      e ∈ b.expiries →
      Happened lifetime (b.runOut e).1 (history ++ [.ranOut e (b.runOut e).2])

/-! ## One call -/

/-- What a call changes that leases, and with them lifetimes, depend on. -/
inductive Serves (b : Board) : Use → End → Prop where
  | joined {tells : Bool} {ip : Option IpAddress} :
      Serves b (.join tells)
        ⟨{ b with wifiConnected := true, wifiLease := (b.wifiLease.renew tells).1 },
          .address ip, [], scheduled .wifi (b.wifiLease.renew tells).2⟩
  | left : Serves b .leave
      ⟨{ b with wifiConnected := false, wifiLease := b.wifiLease.drop }, .done, [], none⟩
  | dialled {params : DialParams} {timeout : Option Nat} {ip : Option IpAddress}
      {lines : List String} (closed : b.modemMode = none) (ppp : params.ppp = true) :
      Serves b (.modem (.dial params timeout))
        ⟨{ b with modemMode := some .ppp, modemLease := (b.modemLease.renew params.tellsLink).1 },
          .address ip, lines, scheduled .cellular (b.modemLease.renew params.tellsLink).2⟩
  | opened {params : DialParams} {timeout : Option Nat} {lines : List String}
      (closed : b.modemMode = none) (command : params.ppp = false) :
      Serves b (.modem (.dial params timeout))
        ⟨{ b with modemMode := some .command }, .address none, lines, none⟩
  /-- an open modem is not dialled again -/
  | refused {params : DialParams} {timeout : Option Nat} {f : Fault}
      (busy : b.modemMode.isSome = true) :
      Serves b (.modem (.dial params timeout)) ⟨b, .failed f, [], none⟩
  | hungUp {timeout : Option Nat} {answer : Answer} :
      Serves b (.modem (.hangUp timeout))
        ⟨{ b with modemMode := none, modemLease := b.modemLease.drop }, answer, [], none⟩
  | asked {answer : Answer} : Serves b (.modem .mode) ⟨b, answer, [], none⟩
  | changed {wanted : ModemMode} {timeout : Nat} {mode : Option ModemMode} {answer : Answer}
      (same : mode.isSome = b.modemMode.isSome) :
      Serves b (.modem (.change wanted timeout)) ⟨{ b with modemMode := mode }, answer, [], none⟩

theorem serves (b : Board) (u : Use) : b.Serves u (b.serve u) := by
  cases u with
  | join tells => exact .joined
  | leave => exact .left
  | modem c =>
    unfold serve endModemCall
    cases c with
    | mode =>
      dsimp only
      split <;> exact .asked
    | hangUp timeout => exact .hungUp
    | change wanted timeout =>
      dsimp only
      split
      · rename_i hopen
        exact .changed hopen.symm
      · exact .changed rfl
    | dial params timeout =>
      dsimp only
      split
      · rename_i hopen
        exact .refused hopen
      · rename_i hclosed
        have hclosed : b.modemMode = none := by simpa using hclosed
        split
        · rename_i hppp
          exact .dialled hclosed hppp
        · rename_i hppp
          exact .opened hclosed (by simpa using hppp)

namespace Serves

variable {b : Board} {u : Use} {e : End}

theorem expiries (h : b.Serves u e) : e.board.expiries = b.expiries := by
  cases h <;> rfl

/-- A lease begins with the calls that begin one. -/
theorem wifiLease (h : b.Serves u e) (s : Option Expiry) : e.board.wifiLease =
    if Event.begins .wifi (.used u e.answer s) then b.wifiLease.drop else b.wifiLease := by
  cases h <;> rfl

theorem modemLease (h : b.Serves u e) (s : Option Expiry) : e.board.modemLease =
    if Event.begins .cellular (.used u e.answer s) then b.modemLease.drop else b.modemLease := by
  cases h with
  | dialled _ hppp => simp [Event.begins, Use.kind, Use.renews, hppp, Answer.succeeded,
      AddressLease.renew, AddressLease.drop]
  | opened _ hcommand => simp [Event.begins, Use.kind, Use.renews, hcommand, Use.isDisconnect]
  | refused => simp [Event.begins, Use.kind, Answer.succeeded, Use.isDisconnect]
  | _ => rfl

theorem isSome_modemMode (h : b.Serves u e) (s : Option Expiry) :
    e.board.modemMode.isSome = true ↔ (Event.used u e.answer s).opens = true ∨
      b.modemMode.isSome = true ∧ ¬ (Event.used u e.answer s).closes = true := by
  cases h <;> simp_all [Event.opens, Event.closes, Use.kind, Use.isConnect, Use.isDisconnect,
    Answer.succeeded]

theorem closed_of_opens (h : b.Serves u e) (s : Option Expiry)
    (ho : (Event.used u e.answer s).opens = true) : ¬ b.modemMode.isSome = true := by
  cases h <;> simp_all [Event.opens, Use.kind, Use.isConnect, Answer.succeeded]

theorem scheduled_eq (h : b.Serves u e) : e.scheduled =
    if e.answer.succeeded then u.tells?.bind fun kind =>
      scheduled kind ((b.lease kind).renew true).2
    else none := by
  cases h with
  | @joined tells => cases tells <;> rfl
  | @dialled params _ _ _ _ hppp =>
    cases ht : params.tellsLink <;>
      simp [Use.tells?, hppp, ht, Answer.succeeded, scheduled, AddressLease.renew, lease]
  | opened _ hcommand => simp [Use.tells?, hcommand]
  | refused => rfl
  | _ => simp [Use.tells?]

end Serves

/-! ## What the history says -/

theorem supersedes_of_begins {x : Event} {kind : LinkKind} (h : x.begins kind = true) :
    x.supersedes kind = true := by
  cases x with
  | ranOut => cases h
  | used u a s =>
    have hconnect : u.renews = true → u.isConnect = true := by
      cases u with
      | join | leave => simp [Use.renews, Use.isConnect]
      | modem c => cases c <;> simp [Use.renews, Use.isConnect]
    simp only [Event.begins, Event.supersedes, Bool.and_eq_true, Bool.or_eq_true] at h ⊢
    exact ⟨h.1, h.2.imp_left fun hr => ⟨hconnect hr.1, hr.2⟩⟩

/-- Only the modem can be connected without a lease, in command mode. -/
theorem opens_of_supersedes {x : Event} {kind : LinkKind} (h : x.supersedes kind = true)
    (hno : ¬ x.begins kind = true) : kind = .cellular ∧ x.opens = true := by
  cases x with
  | ranOut => cases h
  | used u a s =>
    cases u with
    | join | leave => exact absurd h hno
    | modem c =>
      cases c with
      | mode | change => simp [Event.supersedes, Use.isConnect, Use.isDisconnect] at h
      | hangUp => exact absurd h hno
      | dial params timeout =>
        simp only [Event.supersedes, Bool.and_eq_true, decide_eq_true_eq] at h
        obtain ⟨rfl, ha⟩ := h
        exact ⟨rfl, by simpa [Event.opens, Use.kind, Use.isConnect, Use.isDisconnect] using ha⟩

theorem begins_of_closes {x : Event} (h : x.closes = true) : x.begins .cellular = true := by
  cases x with
  | ranOut => cases h
  | used u a s => simp_all [Event.closes, Event.begins]

/-- The lease that is current by the history. -/
def leaseAfter (lifetime : Option Nat) (kind : LinkKind) (history : List Event) : AddressLease :=
  { lifetime, current := .ofNat (history.countP (Event.begins kind)) }

/-- The modem has been opened and not been closed since. -/
def IsOpen (history : List Event) : Prop :=
  Since (fun _ x => x.opens = true) (fun _ x => x.closes = true) history

/-- A connect that succeeds schedules the number of its lease for the link it is to tell. A modem
that is open is not opened again. -/
def Lawful (lifetime : Option Nat) (past : List Event) : Event → Prop
  | .used u a s =>
    (s = if a.succeeded then u.tells?.bind fun kind =>
        scheduled kind ((leaseAfter lifetime kind past).renew true).2
      else none) ∧
    ((Event.used u a s).opens = true → ¬ IsOpen past)
  | .ranOut _ _ => True

structure Ledger (lifetime : Option Nat) (b : Board) (history : List Event) : Prop where
  wifi : b.wifiLease = leaseAfter lifetime .wifi history
  modem : b.modemLease = leaseAfter lifetime .cellular history
  isOpen : b.modemMode.isSome = true ↔ IsOpen history
  /-- what has been scheduled has run out or is running -/
  running : ∀ e, history.countP (Event.isEndOf e) + b.expiries.count e =
    history.countP (Event.schedules e)
  lawful : Abides (Lawful lifetime) history

section History

variable {lifetime : Option Nat} {b : Board} {history : List Event} {x : Event} {kind : LinkKind}

theorem leaseAfter_append_singleton : leaseAfter lifetime kind (history ++ [x]) =
    if x.begins kind then (leaseAfter lifetime kind history).drop
    else leaseAfter lifetime kind history := by
  by_cases h : x.begins kind = true
  · simp [leaseAfter, AddressLease.drop, List.countP_append, h, UInt64.ofNat_add]
  · simp [leaseAfter, List.countP_append, h]

theorem isOpen_append_singleton : IsOpen (history ++ [x]) ↔
    x.opens = true ∨ IsOpen history ∧ ¬ x.closes = true :=
  Since.append_singleton

namespace Ledger

theorem new (lifetime : Option Nat) : Ledger lifetime (ofLifetime lifetime) [] where
  wifi := rfl
  modem := rfl
  isOpen := by simp [ofLifetime, IsOpen, Since.nil]
  running e := by simp [ofLifetime]
  lawful := .nil

theorem lease_eq (h : Ledger lifetime b history) (hkind : kind ≠ .none) :
    b.lease kind = leaseAfter lifetime kind history := by
  cases kind with
  | none => exact absurd rfl hkind
  | wifi => exact h.wifi
  | cellular => exact h.modem

theorem use (h : Ledger lifetime b history) (u : Use) :
    Ledger lifetime (b.serve u).onward
      (history ++ [.used u (b.serve u).answer (b.serve u).scheduled]) := by
  have hs := b.serves u
  generalize b.serve u = e at hs ⊢
  refine ⟨?_, ?_, ?_, fun x => ?_, h.lawful.append_singleton ⟨?_, fun ho => ?_⟩⟩
  · rw [leaseAfter_append_singleton, ← h.wifi]
    exact hs.wifiLease e.scheduled
  · rw [leaseAfter_append_singleton, ← h.modem]
    exact hs.modemLease e.scheduled
  · rw [isOpen_append_singleton, ← h.isOpen]
    exact hs.isSome_modemMode e.scheduled
  · have hrunning := h.running x
    have hlater : e.onward.expiries = b.expiries ++ e.scheduled.toList := by
      rw [← hs.expiries]
      rfl
    rw [hlater, List.countP_append, List.countP_append, List.count_append]
    have hnew : e.scheduled.toList.count x =
        [Event.used u e.answer e.scheduled].countP (Event.schedules x) := by
      cases e.scheduled with
      | none => rfl
      | some y => by_cases hxy : y = x <;> simp [Event.schedules, hxy]
    have hend : [Event.used u e.answer e.scheduled].countP (Event.isEndOf x) = 0 := rfl
    omega
  · rw [hs.scheduled_eq]
    cases ht : u.tells? with
    | none => rfl
    | some kind => rw [Option.bind_some, Option.bind_some, h.lease_eq (u.of_tells? ht).2.2.2]
  · exact mt h.isOpen.mpr (hs.closed_of_opens e.scheduled ho)

theorem runOut (h : Ledger lifetime b history) {e : Expiry} (he : e ∈ b.expiries) :
    Ledger lifetime (b.runOut e).1 (history ++ [.ranOut e (b.runOut e).2]) where
  wifi := by
    rw [leaseAfter_append_singleton]
    exact h.wifi
  modem := by
    rw [leaseAfter_append_singleton]
    exact h.modem
  isOpen := by
    rw [isOpen_append_singleton, ← h.isOpen]
    simp [Board.runOut, Event.opens, Event.closes]
  running x := by
    have hrunning := h.running x
    have hcount : (b.expiries.erase e).count x + (if e = x then 1 else 0) = b.expiries.count x := by
      by_cases hx : e = x
      · subst hx
        have hpos := List.count_pos_iff.mpr he
        rw [List.count_erase_self, if_pos rfl]
        omega
      · rw [List.count_erase_of_ne (Ne.symm hx), if_neg hx]
        rfl
    have hend : [Event.ranOut e (b.runOut e).2].countP (Event.isEndOf x) =
        if e = x then 1 else 0 := by
      by_cases hx : e = x <;> simp [Event.isEndOf, hx]
    have hnone : [Event.ranOut e (b.runOut e).2].countP (Event.schedules x) = 0 := rfl
    have hlater : (b.runOut e).1.expiries = b.expiries.erase e := rfl
    rw [List.countP_append, List.countP_append, hlater]
    omega
  lawful := h.lawful.append_singleton trivial

theorem of_happened (h : Happened lifetime b history) : Ledger lifetime b history := by
  induction h with
  | new => exact .new lifetime
  | use u _ ih => exact ih.use u
  | runOut _ he ih => exact ih.runOut he

end Ledger

/-! ## The connect that scheduled a lifetime -/

/-- What is scheduled carries the number of the lease that has begun. -/
structure Scheduled (past : List Event) (x : Event) (e : Expiry) : Prop where
  begins : x.begins e.kind = true
  opens : e.kind = .cellular → x.opens = true
  number : e.number = .ofNat (past.countP (Event.begins e.kind) + 1)
  kind : e.kind ≠ .none

theorem Lawful.scheduled {past : List Event} {e : Expiry} (h : Lawful lifetime past x)
    (hx : x.schedules e = true) : Scheduled past x e := by
  cases x with
  | ranOut => cases hx
  | used u a s =>
    obtain rfl : s = some e := by simpa [Event.schedules] using hx
    obtain ⟨hs, -⟩ := h
    by_cases ha : a.succeeded = true
    · rw [if_pos ha, eq_comm, Option.bind_eq_some_iff] at hs
      obtain ⟨kind, htells, hs⟩ := hs
      obtain ⟨rfl, hrenews, hconnect, hkind⟩ := u.of_tells? htells
      obtain ⟨number, hnumber, rfl⟩ := Option.map_eq_some_iff.mp hs
      obtain ⟨_, -, rfl⟩ := Option.map_eq_some_iff.mp hnumber
      refine ⟨?_, fun hcellular => ?_, (UInt64.ofNat_add _ 1).symm, hkind⟩
      · simp [Event.begins, hrenews, ha]
      · simp [Event.opens, hconnect, ha, show u.kind = .cellular from hcellular]
    · rw [if_neg ha] at hs
      cases hs

/-! ## The end of a lifetime -/

/-- The link has not been connected nor disconnected since the connect that scheduled this. -/
def IsCurrent (e : Expiry) (history : List Event) : Prop :=
  Since (fun _ x => x.schedules e = true) (fun _ x => x.supersedes e.kind = true) history

/-- The numbers of the leases have not wrapped around. -/
def Few (history : List Event) : Prop :=
  ∀ kind, history.countP (Event.supersedes kind) < UInt64.size

theorem Few.of_append {rest : List Event} (h : Few (history ++ rest)) : Few history := by
  intro kind
  refine Nat.lt_of_le_of_lt ?_ (h kind)
  rw [List.countP_append]
  exact Nat.le_add_right _ _

theorem Few.begins_lt (h : Few history) (kind : LinkKind) :
    history.countP (Event.begins kind) < UInt64.size :=
  Nat.lt_of_le_of_lt (List.countP_mono_left fun _ _ => supersedes_of_begins) (h kind)

theorem number_inj {m n : Nat} (hm : m < UInt64.size) (hn : n < UInt64.size) :
    UInt64.ofNat m = .ofNat n ↔ m = n := by
  refine ⟨fun h => ?_, congrArg _⟩
  have h := congrArg UInt64.toNat h
  rwa [UInt64.toNat_ofNat_of_lt' hm, UInt64.toNat_ofNat_of_lt' hn] at h

theorem Scheduled.countP_begins {past : List Event} {e : Expiry} (h : Scheduled past x e)
    (future : List Event) : (past ++ x :: future).countP (Event.begins e.kind) =
      past.countP (Event.begins e.kind) + 1 + future.countP (Event.begins e.kind) := by
  rw [List.countP_append, List.countP_cons_of_pos h.begins]
  omega

/-- Two connects do not schedule the same, since the later one's lease has the greater number. -/
theorem countP_schedules_le_one (h : Abides (Lawful lifetime) history) (hfew : Few history)
    (e : Expiry) : history.countP (Event.schedules e) ≤ 1 := by
  induction history using List.reverseRecOn with
  | nil => exact Nat.zero_le 1
  | append_singleton past x ih =>
    rw [List.countP_append, List.countP_singleton]
    by_cases hx : x.schedules e = true
    · have hnone : past.countP (Event.schedules e) = 0 := by
        rw [List.countP_eq_zero]
        intro y hy hye
        obtain ⟨before, between, rfl⟩ := List.append_of_mem hy
        have hlater := (h _ x [] rfl).scheduled hx
        have hearlier := (h.of_append before y between rfl).scheduled hye
        have hlt := hfew.begins_lt e.kind
        have hall := hlater.countP_begins []
        have hbefore := hearlier.countP_begins between
        have hnumber := hearlier.number.symm.trans hlater.number
        rw [number_inj (by omega) (by omega)] at hnumber
        omega
      rw [if_pos hx]
      omega
    · rw [if_neg hx]
      exact ih h.of_append hfew.of_append

namespace Ledger

variable {past future : List Event} {e : Expiry}

/-- The numbers count the leases. -/
theorem expires_iff (h : Ledger lifetime b (past ++ x :: future)) (hx : x.schedules e = true)
    (hfew : Few (past ++ x :: future)) :
    b.expires e = true ↔ ∀ y ∈ future, ¬ y.begins e.kind = true := by
  have hs := (h.lawful past x future rfl).scheduled hx
  have hlt := hfew.begins_lt e.kind
  have hcount := hs.countP_begins future
  calc b.expires e = true
      ↔ UInt64.ofNat ((past ++ x :: future).countP (Event.begins e.kind)) =
          .ofNat (past.countP (Event.begins e.kind) + 1) := by
        rw [← hs.number, expires, h.lease_eq hs.kind]
        exact decide_eq_true_iff
    _ ↔ future.countP (Event.begins e.kind) = 0 := by
        rw [number_inj hlt (by omega)]
        omega
    _ ↔ _ := List.countP_eq_zero

/-- A modem with an address is open, and it cannot be connected in command mode unless its lease
ends first. -/
theorem not_supersedes (h : Ledger lifetime b (past ++ x :: future)) (hx : x.schedules e = true)
    (hquiet : ∀ y ∈ future, ¬ y.begins e.kind = true) :
    ∀ y ∈ future, ¬ y.supersedes e.kind = true := by
  intro y hy hsupersedes
  obtain ⟨hcellular, hopens⟩ := opens_of_supersedes hsupersedes (hquiet y hy)
  obtain ⟨between, rest, rfl⟩ := List.append_of_mem hy
  have hopen : IsOpen (past ++ x :: between) := by
    refine ⟨past, x, between, rfl, ((h.lawful past x _ rfl).scheduled hx).opens hcellular, ?_⟩
    rintro before z after rfl hcloses
    exact hquiet z (by simp) (hcellular ▸ begins_of_closes hcloses)
  have hlawful := h.lawful (past ++ x :: between) y rest (by simp)
  cases y with
  | used => exact hlawful.2 hopens hopen
  | ranOut => cases hopens

/-- A lifetime that is running reports the loss if nothing came since its connect. -/
theorem expires_iff_isCurrent (h : Ledger lifetime b history) (he : e ∈ b.expiries)
    (hfew : Few history) : b.expires e = true ↔ IsCurrent e history := by
  constructor
  · intro hexpires
    have hscheduled : 0 < history.countP (Event.schedules e) := by
      have := h.running e
      have := List.count_pos_iff.mpr he
      omega
    obtain ⟨x, hmem, hx⟩ := List.countP_pos_iff.mp hscheduled
    obtain ⟨past, future, rfl⟩ := List.append_of_mem hmem
    refine ⟨past, x, future, rfl, hx, ?_⟩
    rintro between y rest rfl
    exact h.not_supersedes hx ((h.expires_iff hx hfew).mp hexpires) y (by simp)
  · rintro ⟨past, x, future, rfl, hx, hnone⟩
    refine (h.expires_iff hx hfew).mpr fun y hy hbegins => ?_
    obtain ⟨between, rest, rfl⟩ := List.append_of_mem hy
    exact hnone between y rest rfl (supersedes_of_begins hbegins)

end Ledger

/-- What a call has scheduled is for the link it is to tell. -/
theorem Lawful.map_kind {past : List Event} {u : Use} {a : Answer} {s : Option Expiry}
    (h : Lawful lifetime past (.used u a s)) :
    s.map Expiry.kind = if lifetime.isSome && a.succeeded then u.tells? else none := by
  rw [h.1]
  cases u.tells? <;> cases lifetime <;> cases a.succeeded <;>
    simp [Board.scheduled, leaseAfter, AddressLease.renew]

/-- A loss is reported for a lifetime that is current, and for no other. -/
def Justified (past : List Event) : Event → Prop
  | .used _ _ _ => True
  | .ranOut e lost => lost = true ↔ IsCurrent e past

theorem Happened.justified (h : Happened lifetime b history) (hfew : Few history) :
    Abides Justified history := by
  induction h with
  | new => exact .nil
  | use u _ ih => exact (ih hfew.of_append).append_singleton trivial
  | runOut h he ih =>
    have hl := Ledger.of_happened h
    exact (ih hfew.of_append).append_singleton (hl.expires_iff_isCurrent he hfew.of_append)

/-- Every lifetime that a connect has scheduled is for the link it is to tell, runs out at most
once, and reports the loss if and only if the link has not been connected nor disconnected since.
It may run out at any time, and before those of earlier connects. -/
theorem expires_while_current (h : Happened lifetime b history) (hfew : Few history) :
    (∀ u a s, .used u a s ∈ history →
      s.map Expiry.kind = if lifetime.isSome && a.succeeded then u.tells? else none) ∧
    (∀ e, history.countP (Event.schedules e) ≤ 1 ∧
      history.countP (Event.isEndOf e) + b.expiries.count e =
        history.countP (Event.schedules e)) ∧
    ∀ past e lost future, history = past ++ .ranOut e lost :: future →
      (lost = true ↔ IsCurrent e past) := by
  have hl := Ledger.of_happened h
  refine ⟨fun u a s hmem => ?_, fun e => ⟨?_, hl.running e⟩, fun past e lost future hsplit => ?_⟩
  · obtain ⟨past, future, hsplit⟩ := List.append_of_mem hmem
    exact (hl.lawful past _ future hsplit).map_kind
  · exact countP_schedules_le_one hl.lawful hfew e
  · exact h.justified hfew past (.ranOut e lost) future hsplit

/-- Two connects, and both lifetimes run out after the second one. -/
def twoConnects : List Event :=
  [.used (.join true) (.address (some (.v4 192 168 1 20))) (some ⟨.wifi, 1⟩),
    .used (.join true) (.address (some (.v4 192 168 1 20))) (some ⟨.wifi, 2⟩),
    .ranOut ⟨.wifi, 1⟩ false, .ranOut ⟨.wifi, 2⟩ true]

theorem only_second_expires : ∃ b, Happened (some 20) b twoConnects ∧ Few twoConnects ∧
    ¬ IsCurrent ⟨.wifi, 1⟩ (twoConnects.take 2) ∧ IsCurrent ⟨.wifi, 2⟩ (twoConnects.take 3) := by
  have hjoins : Happened (some 20) _ _ := (Happened.new.use (.join true)).use (.join true)
  have h := (hjoins.runOut (e := ⟨.wifi, 1⟩) (by decide)).runOut (e := ⟨.wifi, 2⟩) (by decide)
  have hfew : Few twoConnects := by
    intro kind
    cases kind <;> decide
  have hlost := (expires_while_current h hfew).2.2
  refine ⟨_, h, hfew, fun hcurrent => ?_, (hlost _ _ true [] rfl).mp rfl⟩
  cases (hlost _ _ false _ rfl).mpr hcurrent

end History

end EdgeGateway.Board
