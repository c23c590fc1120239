import EdgeGateway.Bisection

/-!
# EdgeGateway.Proofs.Bisection

What a binary search finds.

* `locate_ok`              : a place that is found holds an item as sought, in any list.
* `locate_error`           : nothing is missed in a list whose items come in order.
* `drop_partitionPoint`    : the items from the partition point on, in such a list.
-/

namespace EdgeGateway.Bisection

variable {α β : Type} {order : α → Ordering} {items : List α}

theorem orderAt_map (order : β → Ordering) (f : α → β) (items : List α) :
    orderAt order (items.map f) = orderAt (order ∘ f) items := by
  funext place
  unfold orderAt
  rw [List.getElem?_map]
  cases items[place]? <;> rfl

theorem locate_map (order : β → Ordering) (f : α → β) (items : List α) :
    locate order (items.map f) = locate (order ∘ f) items := by
  unfold locate pivot
  rw [orderAt_map, List.length_map]

/-- Whether or not the items come in order, the search does not name a wrong one. -/
theorem locate_ok {place : Nat} (h : locate order items = .ok place) :
    ∃ a, items[place]? = some a ∧ order a = .eq := by
  unfold locate at h
  split at h
  · cases h
  · rename_i heq
    cases h
    unfold orderAt at heq
    split at heq
    · rename_i a ha
      exact ⟨a, ha, heq⟩
    · cases heq
  · cases h

/-! ## Items in order -/

/-- Items below what is sought, then items as sought, then items above. -/
def InOrder (order : α → Ordering) (items : List α) : Prop :=
  items.Pairwise fun a b => (order b = .lt → order a = .lt) ∧ (order a = .gt → order b = .gt)

/-- After a place that is above, all are. -/
def Rises (order : Nat → Ordering) : Prop :=
  ∀ {i j}, i ≤ j → order i = .gt → order j = .gt

theorem InOrder.rises (h : InOrder order items) : Rises (orderAt order items) := by
  intro i j hij hi
  rcases Nat.eq_or_lt_of_le hij with rfl | hlt
  · exact hi
  · unfold orderAt at hi ⊢
    by_cases hj : j < items.length
    · have hilen : i < items.length := by omega
      rw [List.getElem?_eq_getElem hilen] at hi
      rw [List.getElem?_eq_getElem hj]
      exact (List.pairwise_iff_getElem.mp h i j hilen hj hlt).2 hi
    · rw [List.getElem?_eq_none (by omega)]

/-- Ahead of a place that is below, all are. -/
theorem InOrder.orderAt_lt (h : InOrder order items) {i j : Nat} (hij : i ≤ j)
    (hj : orderAt order items j = .lt) : orderAt order items i = .lt := by
  rcases Nat.eq_or_lt_of_le hij with rfl | hlt
  · exact hj
  · unfold orderAt at hj ⊢
    split at hj
    · rename_i b hb
      obtain ⟨hjlen, rfl⟩ := List.getElem?_eq_some_iff.mp hb
      have hilen : i < items.length := by omega
      rw [List.getElem?_eq_getElem hilen]
      exact (List.pairwise_iff_getElem.mp h i j hilen hjlen hlt).1 hj
    · cases hj

/-- The place that is left: those after it are above, and it is not, unless it is the first. -/
theorem narrow_spec {order : Nat → Ordering} (hr : Rises order) (base size : Nat)
    (hbase : 0 < base → order base ≠ .gt)
    (hend : ∀ place, base + size ≤ place → order place = .gt) :
    (0 < narrow order base size → order (narrow order base size) ≠ .gt) ∧
      ∀ place, narrow order base size < place → order place = .gt := by
  induction size using Nat.strongRecOn generalizing base with
  | ind size ih =>
    unfold narrow
    split
    · rename_i hsize
      dsimp only
      by_cases hmid : order (base + size / 2) = .gt
      · rw [if_pos hmid]
        refine ih (size - size / 2) (by omega) base hbase fun place hplace => ?_
        exact hr (by omega) hmid
      · rw [if_neg hmid]
        refine ih (size - size / 2) (by omega) (base + size / 2) (fun _ => hmid) ?_
        intro place hplace
        exact hend place (by omega)
    · refine ⟨hbase, fun place hplace => hend place (by omega)⟩

theorem InOrder.pivot_spec (h : InOrder order items) :
    (0 < pivot order items → orderAt order items (pivot order items) ≠ .gt) ∧
      ∀ place, pivot order items < place → orderAt order items place = .gt := by
  refine narrow_spec h.rises 0 items.length (fun h0 => absurd h0 (Nat.lt_irrefl 0)) ?_
  intro place hplace
  unfold orderAt
  rw [List.getElem?_eq_none (by omega)]

/-- Where an item as sought would have to stand, those ahead are below and the others are above. -/
theorem locate_error (h : InOrder order items) {place : Nat}
    (hl : locate order items = .error place) :
    (∀ p < place, orderAt order items p = .lt) ∧ ∀ p, place ≤ p → orderAt order items p = .gt := by
  obtain ⟨hat, hafter⟩ := h.pivot_spec
  unfold locate at hl
  split at hl
  · rename_i hlt
    cases hl
    refine ⟨fun p hp => h.orderAt_lt (by omega) hlt, fun p hp => hafter p (by omega)⟩
  · cases hl
  · rename_i hgt
    cases hl
    have hzero : pivot order items = 0 := by
      rcases Nat.eq_zero_or_pos (pivot order items) with h0 | hpos
      · exact h0
      · exact absurd hgt (hat hpos)
    rw [hzero] at hgt hafter ⊢
    refine ⟨fun p hp => absurd hp (Nat.not_lt_zero p), fun p _ => ?_⟩
    exact h.rises (Nat.zero_le p) hgt

theorem ne_eq_of_locate_error (h : InOrder order items) {place : Nat}
    (hl : locate order items = .error place) {a : α} (ha : a ∈ items) : order a ≠ .eq := by
  obtain ⟨hbelow, habove⟩ := locate_error h hl
  obtain ⟨i, hi⟩ := List.mem_iff_getElem?.mp ha
  have horder : orderAt order items i = order a := by
    unfold orderAt
    rw [hi]
  rw [← horder]
  by_cases hlt : i < place
  · rw [hbelow i hlt]
    decide
  · rw [habove i (by omega)]
    decide

/-! ## The partition point -/

theorem drop_eq_filter {test : α → Bool} {n : Nat}
    (h : ∀ i a, items[i]? = some a → (i < n ↔ test a = true)) :
    items.drop n = items.filter fun a => !test a := by
  induction items generalizing n with
  | nil => rw [List.drop_nil, List.filter_nil]
  | cons a rest ih =>
    cases n with
    | zero =>
      have hall : ∀ b ∈ a :: rest, (!test b) = true := by
        intro b hb
        obtain ⟨i, hi⟩ := List.mem_iff_getElem?.mp hb
        have := h i b hi
        simpa using this
      rw [List.drop_zero, List.filter_eq_self.mpr hall]
    | succ n =>
      have ha : test a = true := (h 0 a rfl).mp (Nat.succ_pos n)
      rw [List.drop_succ_cons, List.filter_cons, ha, ih]
      · rfl
      · intro i b hb
        rw [← h (i + 1) b hb]
        omega

/-- A test leaves no item that is as sought. -/
theorem locate_test (test : α → Bool) (items : List α) :
    locate (fun a => if test a then .lt else .gt) items = .error (partitionPoint test items) := by
  unfold partitionPoint
  cases hl : locate (fun a => if test a then .lt else .gt) items with
  | ok place =>
    obtain ⟨b, -, hb⟩ := locate_ok hl
    split at hb <;> cases hb
  | error place => rfl

section Test

variable {test : α → Bool} (h : items.Pairwise fun a b => test b = true → test a = true)
include h

theorem inOrder_of_test : InOrder (fun a => if test a then .lt else .gt) items := by
  refine h.imp fun {a b} hab => ?_
  cases ha : test a <;> cases hb : test b <;> simp_all

theorem partitionPoint_le_length : partitionPoint test items ≤ items.length := by
  refine Nat.le_of_not_lt fun hlt => ?_
  have hbelow := (locate_error (inOrder_of_test h) (locate_test test items)).1 items.length hlt
  unfold orderAt at hbelow
  rw [List.getElem?_eq_none (Nat.le_refl _)] at hbelow
  cases hbelow

/-- From the partition point on stand the items that fail the test. -/
theorem drop_partitionPoint :
    items.drop (partitionPoint test items) = items.filter fun a => !test a := by
  obtain ⟨hbelow, habove⟩ := locate_error (inOrder_of_test h) (locate_test test items)
  apply drop_eq_filter
  intro i a hi
  have hat : orderAt (fun a => if test a then .lt else .gt) items i =
      if test a then .lt else .gt := by
    unfold orderAt
    rw [hi]
  by_cases hlt : i < partitionPoint test items
  · have hbelow := hbelow i hlt
    cases ht : test a <;> simp_all
  · have habove := habove i (Nat.le_of_not_lt hlt)
    cases ht : test a <;> simp_all

end Test

end EdgeGateway.Bisection
