import Mathlib.Data.Prod.Lex
import Mathlib.Logic.Relation

/-!
# EdgeGateway.Proofs.Rest

Machines that come to rest, for any relation of moves.

* `AtRest Move s`       : no move leads on from `s`.
* `Settles Move Good s` : every sequence of moves from `s` is finite and ends at rest in a good
  state.
* `Inevitable Disturbed Move Good s` : the machine comes by a good state, whatever disturbs it.
* `Avoidable Move Good s`            : it may come to rest without having come by one.

What a machine settles into is shown by an invariant: it is kept by every move, a measure falls
along every move (`Settles.of_invariant`), and at rest the invariant gives the good state.
-/

namespace EdgeGateway

variable {σ : Type} {Move : σ → σ → Prop}

def AtRest (Move : σ → σ → Prop) (s : σ) : Prop := ∀ s', ¬ Move s s'

inductive Settles (Move : σ → σ → Prop) (Good : σ → Prop) : σ → Prop where
  | rest {s : σ} : AtRest Move s → Good s → Settles Move Good s
  | move {s : σ} : (∃ s', Move s s') → (∀ s', Move s s' → Settles Move Good s') →
      Settles Move Good s

namespace Settles

variable {Good : σ → Prop}

/-- Every state at rest that moves lead to is a good one. -/
theorem good_of_rest {s s' : σ} (h : Settles Move Good s) (hs : Relation.ReflTransGen Move s s')
    (hr : AtRest Move s') : Good s' := by
  induction hs using Relation.ReflTransGen.head_induction_on with
  | refl =>
    cases h with
    | rest _ hg => exact hg
    | move hm _ => obtain ⟨s'', hm⟩ := hm; exact absurd hm (hr s'')
  | head hm _ ih =>
    cases h with
    | rest hrest _ => exact absurd hm (hrest _)
    | move _ hnext => exact ih (hnext _ hm)

theorem of_invariant {Inv : σ → Prop} (measure : σ → ℕ ×ₗ ℕ)
    (keeps : ∀ s s', Inv s → Move s s' → Inv s')
    (falls : ∀ s s', Inv s → Move s s' → measure s' < measure s)
    (good : ∀ s, Inv s → AtRest Move s → Good s) {s : σ} (h : Inv s) : Settles Move Good s := by
  induction hm : measure s using WellFoundedLT.induction generalizing s with
  | ind m ih =>
    subst hm
    by_cases hr : AtRest Move s
    · exact .rest hr (good s h hr)
    · simp only [AtRest, not_forall, not_not] at hr
      exact .move hr fun s' hs => ih (measure s') (falls s s' h hs) (keeps s s' h hs) rfl

theorem exists_rest {s : σ} (h : Settles Move Good s) :
    ∃ s', Relation.ReflTransGen Move s s' ∧ AtRest Move s' := by
  induction h with
  | rest hr _ => exact ⟨_, .refl, hr⟩
  | move hm _ ih =>
    obtain ⟨s₁, hm⟩ := hm
    obtain ⟨s', hs, hr⟩ := ih s₁ hm
    exact ⟨s', .head hm hs, hr⟩

/-- What a machine settles into can be had all at once. -/
theorem exists_both {Good' : σ → Prop} {s : σ} (h : Settles Move Good s)
    (h' : Settles Move Good' s) : ∃ s', Good s' ∧ Good' s' := by
  obtain ⟨s', hs, hr⟩ := h.exists_rest
  exact ⟨s', h.good_of_rest hs hr, h'.good_of_rest hs hr⟩

theorem mono {Good' : σ → Prop} {s : σ} (h : Settles Move Good s)
    (hg : ∀ s, Good s → Good' s) : Settles Move Good' s := by
  induction h with
  | rest hr hgood => exact .rest hr (hg _ hgood)
  | move hm _ ih => exact .move hm ih

end Settles

/-- An invariant that some move keeps, as long as there is one, is carried to a state at rest. -/
theorem AtRest.exists_of_invariant {Inv : σ → Prop} (measure : σ → ℕ ×ₗ ℕ)
    (goes : ∀ s s', Inv s → Move s s' → ∃ s'', Move s s'' ∧ Inv s'')
    (falls : ∀ s s', Inv s → Move s s' → measure s' < measure s) {s : σ} (h : Inv s) :
    ∃ s', Relation.ReflTransGen Move s s' ∧ AtRest Move s' ∧ Inv s' := by
  induction hm : measure s using WellFoundedLT.induction generalizing s with
  | ind m ih =>
    subst hm
    by_cases hr : AtRest Move s
    · exact ⟨s, .refl, hr, h⟩
    · simp only [AtRest, not_forall, not_not] at hr
      obtain ⟨s₁, hm₁⟩ := hr
      obtain ⟨s₂, hm₂, h₂⟩ := goes s s₁ h hm₁
      obtain ⟨s', hsteps, hrest, h'⟩ := ih (measure s₂) (falls s s₂ h hm₂) h₂ rfl
      exact ⟨s', .head hm₂ hsteps, hrest, h'⟩

/-! ## On the way to a good state -/

/-- A move of a machine that has not come by a good state yet. -/
def Until (Good : σ → Prop) (Move : σ → σ → Prop) (s s' : σ) : Prop := ¬ Good s ∧ Move s s'

/-- However the machine is disturbed on its way, left alone it comes by a good state. -/
def Inevitable (Disturbed Move : σ → σ → Prop) (Good : σ → Prop) (s : σ) : Prop :=
  ∀ s', Relation.ReflTransGen (Until Good Disturbed) s s' → Settles (Until Good Move) Good s'

/-- Left alone the machine may come to rest without having come by a good state. -/
def Avoidable (Move : σ → σ → Prop) (Good : σ → Prop) (s : σ) : Prop :=
  ∃ s', Relation.ReflTransGen (Until Good Move) s s' ∧ AtRest Move s' ∧ ¬ Good s'

section Until

variable {Disturbed : σ → σ → Prop} {Good Inv : σ → Prop} {s : σ}

theorem AtRest.of_until (h : AtRest (Until Good Move) s) (hg : ¬ Good s) : AtRest Move s :=
  fun s' hm => h s' ⟨hg, hm⟩

theorem Avoidable.not_inevitable (h : Avoidable Move Good s) :
    ¬ Inevitable Disturbed Move Good s := by
  obtain ⟨s', hs, hr, hg⟩ := h
  intro hi
  exact hg ((hi s .refl).good_of_rest hs fun s'' hm => hr s'' hm.2)

theorem inevitable_iff {yes : Bool} (hyes : yes = true → Inevitable Disturbed Move Good s)
    (hno : yes = false → Avoidable Move Good s) :
    Inevitable Disturbed Move Good s ↔ yes = true := by
  refine ⟨fun hi => ?_, hyes⟩
  rw [← Bool.not_eq_false]
  exact fun hf => (hno hf).not_inevitable hi

theorem Inevitable.of_invariant (measure : σ → ℕ ×ₗ ℕ)
    (disturbs : ∀ s s', Move s s' → Disturbed s s')
    (keeps : ∀ s s', Inv s → ¬ Good s → Disturbed s s' → Inv s')
    (falls : ∀ s s', Inv s → Move s s' → measure s' < measure s)
    (good : ∀ s, Inv s → AtRest Move s → Good s) (h : Inv s) :
    Inevitable Disturbed Move Good s := by
  intro s' hs
  have h' : Inv s' := by
    induction hs with
    | refl => exact h
    | tail _ hm ih => exact keeps _ _ ih hm.1 hm.2
  refine .of_invariant measure (fun _ _ hi hm => keeps _ _ hi hm.1 (disturbs _ _ hm.2))
    (fun _ _ hi hm => falls _ _ hi hm.2) (fun s hi hr => ?_) h'
  by_contra hg
  exact hg (good s hi (hr.of_until hg))

theorem Avoidable.of_invariant (measure : σ → ℕ ×ₗ ℕ) (avoids : ∀ s, Inv s → ¬ Good s)
    (goes : ∀ s s', Inv s → Move s s' → ∃ s'', Move s s'' ∧ Inv s'')
    (falls : ∀ s s', Inv s → Move s s' → measure s' < measure s) (h : Inv s) :
    Avoidable Move Good s := by
  have hgoes : ∀ s s', Inv s → Until Good Move s s' → ∃ s'', Until Good Move s s'' ∧ Inv s'' := by
    intro s s' hi hm
    obtain ⟨s'', hm, hi'⟩ := goes s s' hi hm.2
    exact ⟨s'', ⟨avoids s hi, hm⟩, hi'⟩
  obtain ⟨s', hs, hr, hi⟩ := AtRest.exists_of_invariant measure hgoes
    (fun s s' hi hm => falls s s' hi hm.2) h
  exact ⟨s', hs, hr.of_until (avoids s' hi), avoids s' hi⟩

end Until

end EdgeGateway
