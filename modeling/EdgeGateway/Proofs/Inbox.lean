import EdgeGateway.Inbox

/-!
# EdgeGateway.Proofs.Inbox

What sending and taking do to the items of a queue.
-/

namespace EdgeGateway

namespace Inbox

variable {α : Type} {q q' : Inbox α} {waiting : Bool} {a b : α}

theorem eq_put_of_offer (h : q.offer waiting a = some q') : q' = q.put a := by
  unfold offer at h
  split at h <;> cases h
  rfl

theorem offerOrDrop_cases (q : Inbox α) (waiting : Bool) (a : α) :
    q.offerOrDrop waiting a = q.put a ∨ q.offerOrDrop waiting a = q := by
  unfold offerOrDrop offer
  split
  · exact .inl rfl
  · exact .inr rfl

theorem mem_offerOrDrop (h : a ∈ (q.offerOrDrop waiting b).items) : a ∈ q.items ∨ a = b := by
  rcases offerOrDrop_cases q waiting b with he | he <;> rw [he] at h
  · simpa [put] using h
  · exact .inl h

theorem mem_offerOrDrop_of_mem (h : a ∈ q.items) : a ∈ (q.offerOrDrop waiting b).items := by
  rcases offerOrDrop_cases q waiting b with he | he <;> rw [he]
  · exact List.mem_append_left _ h
  · exact h

theorem isOpen_offerOrDrop (q : Inbox α) (waiting : Bool) (a : α) :
    (q.offerOrDrop waiting a).isOpen = q.isOpen := by
  rcases offerOrDrop_cases q waiting a with he | he <;> rw [he]
  rfl

theorem mem_offerOrDrop_self (h : q.accepts waiting = true) :
    a ∈ (q.offerOrDrop waiting a).items := by
  simp [offerOrDrop, offer, h, put]

theorem items_of_take (h : q.take? = some (a, q')) :
    q.items = a :: q'.items ∧ q'.isOpen = q.isOpen := by
  unfold take? at h
  cases hitems : q.items with
  | nil => simp [hitems] at h
  | cons b items =>
    simp only [hitems, Option.some.injEq, Prod.mk.injEq] at h
    obtain ⟨rfl, rfl⟩ := h
    exact ⟨rfl, rfl⟩

theorem clear_put_of_nil (h : q.items = []) (a : α) : (q.put a).clear = q := by
  obtain ⟨depth, items, isOpen⟩ := q
  cases h
  rfl

theorem take?_eq_none : q.take? = none ↔ q.items = [] := by
  unfold take?
  cases q.items <;> simp

end Inbox

end EdgeGateway
