import Mathlib.Tactic.ByContra

/-!
# What a computation asks its oracle

A computation that is given a function to call – a helper, an oracle – is a function of that
function, and what it calls it with is not part of what it returns. But it shows:
`Oracle.Consults` – the computation asks at an argument if another answer there, and nowhere
else, can make a difference to the outcome.

| computation | asks |
|---|---|
| depends on the answer to one argument | there, and nowhere else (`Oracle.consults_iff_of_eq`) |
| does not depend on the oracle | nowhere (`Oracle.not_consults_of_eq`) |
-/

namespace Oracle

universe u v w

variable {α : Type u} {ρ : Type v} {τ : Type w}

/-- **The computation asks its oracle at `x`**: two oracles that differ in the answer to `x` alone
can lead to two outcomes. -/
def Consults (f : (α → ρ) → τ) (x : α) : Prop :=
  ∃ g g' : α → ρ, (∀ y, y ≠ x → g y = g' y) ∧ f g ≠ f g'

variable {f : (α → ρ) → τ} {x : α}

open Classical in
/-- **A computation that depends on one answer** asks for that one, and for no other, provided
the answer matters at all. -/
theorem consults_iff_of_eq {F : ρ → τ} (hf : ∀ g, f g = F (g x)) (hF : ∃ r r', F r ≠ F r')
    (y : α) : Consults f y ↔ y = x := by
  constructor
  · rintro ⟨g, g', hagree, hne⟩
    by_contra hy
    exact hne (by rw [hf, hf, hagree x (Ne.symm hy)])
  · rintro rfl
    obtain ⟨r, r', hne⟩ := hF
    refine ⟨fun _ => r, fun z => if z = y then r' else r, fun z hz => (if_neg hz).symm, ?_⟩
    rw [hf, hf, if_pos rfl]
    exact hne

/-- **A computation that does not depend on the oracle** asks nothing. -/
theorem not_consults_of_eq {t : τ} (hf : ∀ g, f g = t) (y : α) : ¬Consults f y := by
  rintro ⟨g, g', -, hne⟩
  exact hne ((hf g).trans (hf g').symm)

end Oracle
