import Mathlib.Data.List.Basic

/-!
# EdgeGateway.Proofs.History

Histories, the oldest event first.

* `Abides law history`        : every event of the history was lawful by all that came before it.
* `Since begins ends history` : an event of one kind has happened, and none of another kind since.
-/

namespace EdgeGateway

variable {α : Type}

/-- Where an event stands in a history with one more at its end. -/
theorem split_of_append_singleton {history past future : List α} {e e' : α}
    (h : history ++ [e] = past ++ e' :: future) :
    (past = history ∧ e' = e ∧ future = []) ∨
      ∃ rest, future = rest ++ [e] ∧ history = past ++ e' :: rest := by
  rcases List.eq_nil_or_concat future with rfl | ⟨rest, x, rfl⟩
  · obtain ⟨rfl, he⟩ := List.append_inj' h rfl
    exact .inl ⟨rfl, (List.singleton_inj.mp he).symm, rfl⟩
  · have h : history ++ [e] = (past ++ e' :: rest) ++ [x] := by simpa using h
    obtain ⟨rfl, he⟩ := List.append_inj' h rfl
    exact .inr ⟨rest, by simp [List.singleton_inj.mp he], rfl⟩

def Abides (law : List α → α → Prop) (history : List α) : Prop :=
  ∀ past e future, history = past ++ e :: future → law past e

namespace Abides

variable {law : List α → α → Prop} {history : List α}

theorem nil : Abides law [] := by
  intro past e future h
  simp at h

theorem append_singleton (h : Abides law history) {e : α} (he : law history e) :
    Abides law (history ++ [e]) := by
  intro past e' future hsplit
  rcases split_of_append_singleton hsplit with ⟨rfl, rfl, -⟩ | ⟨rest, -, hsplit⟩
  · exact he
  · exact h past e' rest hsplit

/-- What came before was lawful already. -/
theorem of_append {rest : List α} (h : Abides law (history ++ rest)) : Abides law history := by
  intro past e future hsplit
  exact h past e (future ++ rest) (by rw [hsplit, List.append_assoc]; rfl)

end Abides

/-- Something has begun that has not ended since. Whether an event begins or ends it may depend on
what came before. -/
def Since (begins ends : List α → α → Prop) (history : List α) : Prop :=
  ∃ past e future, history = past ++ e :: future ∧ begins past e ∧
    ∀ between e' rest, future = between ++ e' :: rest → ¬ ends (past ++ e :: between) e'

namespace Since

variable {begins ends : List α → α → Prop} {history : List α} {e : α}

theorem nil : ¬ Since begins ends [] := by
  rintro ⟨past, e, future, h, -⟩
  simp at h

theorem append_singleton : Since begins ends (history ++ [e]) ↔
    begins history e ∨ Since begins ends history ∧ ¬ ends history e := by
  constructor
  · rintro ⟨past, e', future, h, hbegins, hends⟩
    rcases split_of_append_singleton h with ⟨rfl, rfl, -⟩ | ⟨rest, rfl, rfl⟩
    · exact .inl hbegins
    · refine .inr ⟨⟨past, e', rest, rfl, hbegins, fun between x future h => ?_⟩, ?_⟩
      · exact hends between x (future ++ [e]) (by rw [h, List.append_assoc]; rfl)
      · exact hends rest e [] rfl
  · rintro (hbegins | ⟨⟨past, e', future, rfl, hbegins, hends⟩, hlast⟩)
    · exact ⟨history, e, [], rfl, hbegins, fun between x rest h => by simp at h⟩
    · refine ⟨past, e', future ++ [e], by simp, hbegins, fun between x rest h => ?_⟩
      rcases split_of_append_singleton h with ⟨rfl, rfl, -⟩ | ⟨rest, -, rfl⟩
      · exact hlast
      · exact hends between x rest rfl

end Since

end EdgeGateway
