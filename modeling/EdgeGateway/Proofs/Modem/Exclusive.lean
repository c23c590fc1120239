import EdgeGateway.Proofs.Modem.Traffic

/-!
# EdgeGateway.Proofs.Modem.Exclusive

Who may drive the modem. However the modem answers and however callers interleave, at most one
lease is out, at most one caller drives the modem, and nobody does while a lease is out
(`drives_exclusively`). A lease is out from the moment its errand ends with it to the admission
of the errand that gives it back.
-/

namespace EdgeGateway

namespace Arbiter

/-- The session is closed under a lease, which is to close the modem instead. -/
def handedOver (a : Arbiter) : Arbiter :=
  if a.dataSession then
    { a with
      lease := a.lease.map fun l => { l with openedByLease := true, savedMode := .command }
      dataSession := false }
  else a

section Leased

variable {a : Arbiter} (hb : a.busy = false) (hl : a.lease.isSome = true)
include hb hl

theorem enter_acquire_of_leased (expired : Bool) (timeout : Nat) :
    a.enter expired (.acquire timeout) = some (a, .ended (.refused .alreadyInUse)) := by
  simp [enter, hb, hl]

theorem enter_openData_of_leased (expired : Bool) (params : DialParams) (timeout : Option Nat) :
    a.enter expired (.openData params timeout) = some (a, .ended (.refused .alreadyInUse)) := by
  simp [enter, hb, hl]

/-- A close waits for the lease as long as it may, and then ends without a call. -/
theorem enter_closeData_of_leased (expired : Bool) (timeout : Option Nat) :
    a.enter expired (.closeData timeout) =
      if expired then some (a.handedOver, .ended .closed) else none := by
  obtain ⟨lease, hl⟩ := Option.isSome_iff_exists.mp hl
  cases expired <;> cases hs : a.dataSession <;> simp [enter, handedOver, hb, hl, hs]

end Leased

end Arbiter

namespace Traffic

variable {Modem : ModemBehaviour} {dials : DialParams → Prop}

theorem drives_exclusively {w : Traffic}
    (h : Relation.ReflTransGen (Step Modem dials) {} w) :
    w.outstanding.length ≤ 1 ∧
    (∀ i j, w.Drives i → w.Drives j → i = j) ∧
    ∀ id ∈ w.outstanding,
      (∀ i, ¬ w.Drives i) ∧
      (∀ expired timeout, w.arbiter.enter expired (.acquire timeout) =
        some (w.arbiter, .ended (.refused .alreadyInUse))) ∧
      (∀ expired params timeout, w.arbiter.enter expired (.openData params timeout) =
        some (w.arbiter, .ended (.refused .alreadyInUse))) ∧
      (∀ expired timeout, w.arbiter.enter expired (.closeData timeout) =
        if expired then some (w.arbiter.handedOver, .ended .closed) else none) := by
  have ho := Orderly.reach h
  refine ⟨?_, fun i j hi hj => ho.alone i j hi.isAt hj.isAt, fun id hid => ?_⟩
  · rw [ho.outstanding]
    cases w.arbiter.lease <;> simp
  · have hl : w.arbiter.lease.isSome = true := by
      rw [ho.outstanding] at hid
      cases hl : w.arbiter.lease with
      | none => rw [hl] at hid; cases hid
      | some lease => rfl
    have hb := ho.idle_of_lease hl
    exact ⟨fun i hi => ho.nobody hb i hi.isAt, Arbiter.enter_acquire_of_leased hb hl,
      Arbiter.enter_openData_of_leased hb hl, Arbiter.enter_closeData_of_leased hb hl⟩

/-- A lease taken on a closed modem is out, and nobody drives the modem. -/
theorem drives_exclusively_after_acquire :
    ∃ w : Traffic, Relation.ReflTransGen (Step (fun _ _ _ _ => True) fun _ => True) {} w ∧
      w.outstanding = [1] ∧ (∀ i, ¬ w.Drives i) ∧
      w.arbiter.enter false (.acquire 5) = some (w.arbiter, .ended (.refused .alreadyInUse)) := by
  let w₁ : Traffic := set {} 0 (some (.acquire 5))
  let w₂ := w₁.entered 0 (.acquire 5) { busy := true } (.inspect 5)
  let w₃ := w₂.answered 0 (.inspect 5) (.failed .notOpen) none
  let w₄ := w₃.answered 0 (.openForLease 5) (.address none) (some .command)
  have s₁ : Step (fun _ _ _ _ => True) (fun _ => True) {} w₁ := .come rfl trivial
  have s₂ : Step (fun _ _ _ _ => True) (fun _ => True) w₁ w₂ :=
    .enter (show w₁.errands 0 = _ by simp [w₁, set]) (fun _ => rfl)
      (show w₁.arbiter.enter false _ = _ from rfl)
  have s₃ : Step (fun _ _ _ _ => True) (fun _ => True) w₂ w₃ :=
    .call (by simp [w₂, entered, set]) rfl trivial
  have s₄ : Step (fun _ _ _ _ => True) (fun _ => True) w₃ w₄ :=
    .call (by simp [w₃, answered, set, Arbiter.answer]) rfl trivial
  have h := (((Relation.ReflTransGen.single s₁).tail s₂).tail s₃).tail s₄
  have hout : w₄.outstanding = [1] := rfl
  have hx := (drives_exclusively h).2.2 1 (by rw [hout]; exact List.mem_singleton_self 1)
  exact ⟨w₄, h, hout, hx.1, hx.2.1 false 5⟩

end Traffic

end EdgeGateway
