import EdgeGateway.Mqtt.Subscriber
import Mathlib.Data.List.Basic

/-!
# EdgeGateway.Proofs.Output.Due

What messages ask of the device output.

* `MqttSettings.names?` : the state that a payload names.
* `Output.Deed`         : a message is taken up, or the output is driven.
* `Output.standing`     : the state that the last message names of those that name one.
* `Output.due`          : all that has to be done, in order. The output is driven on each change of
  the state (`Output.alternates_due`), and is left in the last one (`Output.getLast?_due`).
-/

namespace EdgeGateway

/-- The text for on is looked at first, in case the two are one. -/
def MqttSettings.names? (c : MqttSettings) (payload : Bytes) : Option Bool :=
  if payload = Bytes.ofText c.onMessage then some true
  else if payload = Bytes.ofText c.offMessage then some false
  else none

namespace Output

inductive Deed where
  /-- a subscriber takes up a message -/
  | heard (payload : Bytes)
  | driven (on : Bool)
  deriving DecidableEq

def Deed.heard? : Deed → Option Bytes
  | .heard payload => some payload
  | .driven _ => none

def Deed.driven? : Deed → Option Bool
  | .heard _ => none
  | .driven on => some on

def heard (log : List Deed) : List Bytes := log.filterMap Deed.heard?

def driven (log : List Deed) : List Bool := log.filterMap Deed.driven?

/-- What takes the output from one state to another. -/
def change (on now : Bool) : List Deed := if now = on then [] else [.driven now]

/-- The values differ from place to place. -/
def Alternates (first : Bool) : List Bool → Prop
  | [] => True
  | on :: rest => on = first ∧ Alternates (!first) rest

section

variable (c : MqttSettings)

/-- The state after messages, if it was `on` before them. -/
def standing (on : Bool) (payloads : List Bytes) : Bool :=
  (payloads.filterMap c.names?).getLast?.getD on

/-- The output is driven right after a message that names another state than it has. -/
def due (on : Bool) : List Bytes → List Deed
  | [] => []
  | payload :: rest =>
    let now := (c.names? payload).getD on
    .heard payload :: change on now ++ due now rest

end

variable {c : MqttSettings} {on now : Bool} {payload : Bytes} {payloads : List Bytes}
  {log log' : List Deed}

/-! ## Deeds in order -/

@[simp] theorem driven_heard : driven (.heard payload :: log) = driven log := rfl

@[simp] theorem driven_driven : driven (.driven on :: log) = on :: driven log := rfl

theorem heard_append : heard (log ++ log') = heard log ++ heard log' := List.filterMap_append

theorem driven_append : driven (log ++ log') = driven log ++ driven log' := List.filterMap_append

@[simp] theorem change_self : change on on = [] := if_pos rfl

theorem change_of_ne (h : now ≠ on) : change on now = [.driven now] := if_neg h

theorem Alternates.of_append {first : Bool} {xs ys : List Bool}
    (h : Alternates first (xs ++ ys)) : Alternates first xs := by
  induction xs generalizing first with
  | nil => trivial
  | cons on rest ih => exact ⟨h.1, ih h.2⟩

theorem Alternates.getLast?_of_concat {first : Bool} {xs : List Bool}
    (h : Alternates first (xs ++ [on])) : xs.getLast?.getD (!first) = !on := by
  induction xs generalizing first with
  | nil => exact congrArg not h.1.symm
  | cons x rest ih =>
    have hlast := ih h.2
    rw [Bool.not_not, ← h.1] at hlast
    rw [List.getLast?_cons, Option.getD_some]
    exact hlast

/-! ## One message more -/

theorem standing_cons : standing c on (payload :: payloads) =
    standing c ((c.names? payload).getD on) payloads := by
  unfold standing
  cases hn : c.names? payload with
  | none => rw [List.filterMap_cons_none hn, Option.getD_none]
  | some now =>
    rw [List.filterMap_cons_some hn, List.getLast?_cons, Option.getD_some, Option.getD_some]

theorem standing_concat : standing c on (payloads ++ [payload]) =
    (c.names? payload).getD (standing c on payloads) := by
  induction payloads generalizing on with
  | nil => exact standing_cons
  | cons p rest ih => rw [List.cons_append, standing_cons, ih, standing_cons]

theorem due_concat : due c on (payloads ++ [payload]) = due c on payloads ++ .heard payload ::
    change (standing c on payloads) (standing c on (payloads ++ [payload])) := by
  induction payloads generalizing on with
  | nil =>
    rw [List.nil_append, standing_cons, due, due, due]
    exact List.append_nil _
  | cons p rest ih =>
    rw [List.cons_append, due, due, ih, standing_cons, standing_cons, List.append_assoc]

/-! ## Any number of messages -/

theorem alternates_due (c : MqttSettings) (on : Bool) (payloads : List Bytes) :
    Alternates (!on) (driven (due c on payloads)) := by
  induction payloads generalizing on with
  | nil => trivial
  | cons payload rest ih =>
    rw [due, driven_append, driven_heard]
    by_cases hnow : (c.names? payload).getD on = on
    · rw [hnow, change_self]
      exact ih on
    · have hflip : (c.names? payload).getD on = !on := Bool.eq_not.mpr hnow
      rw [change_of_ne hnow, hflip]
      exact ⟨rfl, ih (!on)⟩

theorem getLast?_due (c : MqttSettings) (on : Bool) (payloads : List Bytes) :
    (driven (due c on payloads)).getLast?.getD on = standing c on payloads := by
  induction payloads generalizing on with
  | nil => rfl
  | cons payload rest ih =>
    rw [standing_cons, ← ih, due, driven_append, driven_heard]
    by_cases hnow : (c.names? payload).getD on = on
    · rw [hnow, change_self]
      rfl
    · rw [change_of_ne hnow, driven_driven, List.cons_append, List.getLast?_cons]
      rfl

end Output

end EdgeGateway
