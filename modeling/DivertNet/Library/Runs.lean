import Mathlib.Data.List.Basic

/-!
# Runs of a partial transition function

A system is given by a *step function* `step : σ → α → Option σ`: in a state, an
action either leads to a next state or is not enabled. A **run** is a list of
actions taken one after another, and this file settles the two ways in which a
property of a system is stated over all of its runs:

* `Runs.EveryState` – a property of the states, asked of every state a run passes
  through, the first one included;
* `Runs.EveryStep` – a property of the single steps, asked of every step the run
  takes. It is the shape of a *guard* (“no step of the run does this”) as well as
  of a contract (“every call of the run returns that”).

| question | rule |
|---|---|
| an invariant of the states | `Runs.run_invariant` |
| an invariant under a guard on the steps | `Runs.everyState_of_guard` |
| a guard that is exact | `Runs.everyState_iff_everyStep` |
| a contract of the steps, from an invariant | `Runs.everyStep_of_invariant` |
| a contract of the steps, up to equivalence | `Runs.everyStep_congr` |
| the same under an invariant | `Runs.everyStep_congr_of_invariant` |
| the steps of a run in two parts | `Runs.everyStep_append` |
| two contracts at once | `Runs.everyStep_and` |

Both quantify over the ways of cutting the run in two, so that they can be read
without unfolding a recursion; the recursion is `Runs.everyStep_cons` and
`Runs.everyState_cons`, which is what the inductions use.
-/

namespace Runs

universe u v

variable {σ : Type u} {α : Type v}

/-- **A run**: the actions of the list, taken one after another from `s`. It is
`none` as soon as one of them is not enabled. -/
def run (step : σ → α → Option σ) : σ → List α → Option σ
  | s, [] => some s
  | s, a :: as => (step s a).bind fun t => run step t as

/-- The step function of a system whose actions are always enabled. -/
def always (next : σ → α → σ) : σ → α → Option σ := fun s a => some (next s a)

variable {step : σ → α → Option σ}

@[simp] theorem run_nil (s : σ) : run step s [] = some s := rfl

@[simp] theorem run_cons (s : σ) (a : α) (as : List α) :
    run step s (a :: as) = (step s a).bind fun t => run step t as := rfl

theorem run_cons_eq_some {s t : σ} {a : α} {as : List α} :
    run step s (a :: as) = some t ↔ ∃ u, step s a = some u ∧ run step u as = some t := by
  rw [run_cons, Option.bind_eq_some_iff]

theorem run_append (s : σ) (l₁ l₂ : List α) :
    run step s (l₁ ++ l₂) = (run step s l₁).bind fun t => run step t l₂ := by
  induction l₁ generalizing s with
  | nil => rfl
  | cons a as ih =>
    rw [List.cons_append, run_cons, run_cons]
    cases step s a with
    | none => rfl
    | some u => exact ih u

/-- A run can be extended by one more action. -/
theorem run_snoc {s u t : σ} {l : List α} {a : α} (hl : run step s l = some u)
    (ha : step u a = some t) : run step s (l ++ [a]) = some t := by
  rw [run_append, hl]
  simp [ha]

/-! ### Invariants -/

/-- **The induction over a run**: what holds at the start and is preserved by every
step holds at the end. -/
theorem run_invariant {Inv : σ → Prop}
    (hstep : ∀ s a t, Inv s → step s a = some t → Inv t) {s t : σ} {l : List α}
    (hs : Inv s) (hrun : run step s l = some t) : Inv t := by
  -- induction on the run, the invariant passed on to the state after its first action
  induction l generalizing s with
  | nil =>
    obtain rfl : s = t := Option.some.inj hrun
    exact hs
  | cons a as ih =>
    obtain ⟨u, hu, hrest⟩ := run_cons_eq_some.mp hrun
    exact ih (hstep s a u hs hu) hrest

/-- A property asked of every state the run passes through. -/
def EveryState (step : σ → α → Option σ) (P : σ → Prop) (s : σ) (l : List α) : Prop :=
  ∀ l₁ l₂ u, l = l₁ ++ l₂ → run step s l₁ = some u → P u

/-- A property asked of every step the run takes: of the state it is taken in, the
action, and the state it leads to. -/
def EveryStep (step : σ → α → Option σ) (P : σ → α → σ → Prop) (s : σ) (l : List α) : Prop :=
  ∀ l₁ a l₂ u t, l = l₁ ++ a :: l₂ → run step s l₁ = some u → step u a = some t → P u a t

theorem everyState_nil {P : σ → Prop} {s : σ} : EveryState step P s [] ↔ P s := by
  constructor
  · exact fun h => h [] [] s rfl rfl
  · intro h l₁ l₂ u hl hu
    obtain ⟨rfl, -⟩ := List.append_eq_nil_iff.mp hl.symm
    exact Option.some.inj hu ▸ h

theorem everyState_cons {P : σ → Prop} {s : σ} {a : α} {as : List α} :
    EveryState step P s (a :: as) ↔
      P s ∧ ∀ t, step s a = some t → EveryState step P t as := by
  constructor
  · intro h
    refine ⟨h [] _ s rfl rfl, fun t ht l₁ l₂ u hl hu => ?_⟩
    exact h (a :: l₁) l₂ u (by rw [hl]; rfl) (run_cons_eq_some.mpr ⟨t, ht, hu⟩)
  · rintro ⟨hs, hrest⟩ (_ | ⟨b, l₁⟩) l₂ u hl hu
    · exact Option.some.inj hu ▸ hs
    · obtain ⟨rfl, hl'⟩ := List.cons.inj hl
      obtain ⟨t, ht, hu'⟩ := run_cons_eq_some.mp hu
      exact hrest t ht l₁ l₂ u hl' hu'

theorem everyStep_nil {P : σ → α → σ → Prop} {s : σ} : EveryStep step P s [] := by
  intro l₁ a l₂ u t hl
  simp at hl

theorem everyStep_cons {P : σ → α → σ → Prop} {s : σ} {a : α} {as : List α} :
    EveryStep step P s (a :: as) ↔
      ∀ t, step s a = some t → P s a t ∧ EveryStep step P t as := by
  constructor
  · intro h t ht
    refine ⟨h [] a as s t rfl rfl ht, fun l₁ b l₂ u w hl hu hw => ?_⟩
    exact h (a :: l₁) b l₂ u w (by rw [hl]; rfl) (run_cons_eq_some.mpr ⟨t, ht, hu⟩) hw
  · rintro hrest (_ | ⟨c, l₁⟩) b l₂ u w hl hu hw
    · obtain ⟨rfl, -⟩ := List.cons.inj hl
      obtain rfl : s = u := Option.some.inj hu
      exact (hrest w hw).1
    · obtain ⟨rfl, hl'⟩ := List.cons.inj hl
      obtain ⟨t, ht, hu'⟩ := run_cons_eq_some.mp hu
      exact (hrest t ht).2 l₁ b l₂ u w hl' hu' hw

/-- The steps of a run in two parts. -/
theorem everyStep_append {P : σ → α → σ → Prop} {s : σ} {l₁ l₂ : List α} :
    EveryStep step P s (l₁ ++ l₂) ↔
      EveryStep step P s l₁ ∧ ∀ t, run step s l₁ = some t → EveryStep step P t l₂ := by
  induction l₁ generalizing s with
  | nil => simp [everyStep_nil]
  | cons a as ih =>
    rw [List.cons_append, everyStep_cons, everyStep_cons]
    constructor
    · intro h
      refine ⟨fun t ht => ⟨(h t ht).1, (ih.mp (h t ht).2).1⟩, fun t ht => ?_⟩
      obtain ⟨u, hu, hrest⟩ := run_cons_eq_some.mp ht
      exact (ih.mp (h u hu).2).2 t hrest
    · rintro ⟨hfirst, hrest⟩ t ht
      refine ⟨(hfirst t ht).1, ih.mpr ⟨(hfirst t ht).2, fun u hu => ?_⟩⟩
      exact hrest u (run_cons_eq_some.mpr ⟨t, ht, hu⟩)

/-- Two contracts asked of every step. -/
theorem everyStep_and {P Q : σ → α → σ → Prop} {s : σ} {l : List α} :
    EveryStep step (fun u a t => P u a t ∧ Q u a t) s l ↔
      EveryStep step P s l ∧ EveryStep step Q s l := by
  constructor
  · intro h
    exact ⟨fun l₁ a l₂ u t hl hu ht => (h l₁ a l₂ u t hl hu ht).1,
      fun l₁ a l₂ u t hl hu ht => (h l₁ a l₂ u t hl hu ht).2⟩
  · rintro ⟨hP, hQ⟩ l₁ a l₂ u t hl hu ht
    exact ⟨hP l₁ a l₂ u t hl hu ht, hQ l₁ a l₂ u t hl hu ht⟩

/-- **An invariant under a guard**: what every step that meets the guard preserves
holds in every state of a run whose steps all meet it. -/
theorem everyState_of_guard {Inv : σ → Prop} {G : σ → α → σ → Prop}
    (hstep : ∀ s a t, Inv s → G s a t → step s a = some t → Inv t) {s : σ} {l : List α}
    (hs : Inv s) (hG : EveryStep step G s l) : EveryState step Inv s l := by
  induction l generalizing s with
  | nil => exact everyState_nil.mpr hs
  | cons a as ih =>
    refine everyState_cons.mpr ⟨hs, fun t ht => ?_⟩
    obtain ⟨hGt, hGrest⟩ := everyStep_cons.mp hG t ht
    exact ih (hstep s a t hs hGt ht) hGrest

/-- **A contract under an invariant**: where the steps from a state with the invariant meet the
contract and preserve the invariant, every step of a run meets the contract. -/
theorem everyStep_of_invariant {Inv : σ → Prop} {P : σ → α → σ → Prop}
    (hstep : ∀ s a t, Inv s → step s a = some t → P s a t ∧ Inv t) {s : σ} (hs : Inv s)
    (l : List α) : EveryStep step P s l := by
  induction l generalizing s with
  | nil => exact everyStep_nil
  | cons a as ih =>
    refine everyStep_cons.mpr fun t ht => ?_
    obtain ⟨hP, hInv⟩ := hstep s a t hs ht
    exact ⟨hP, ih hInv⟩

theorem EveryState.mono {P Q : σ → Prop} (hPQ : ∀ s, P s → Q s) {s : σ} {l : List α}
    (h : EveryState step P s l) : EveryState step Q s l :=
  fun l₁ l₂ u hl hu => hPQ u (h l₁ l₂ u hl hu)

/-- **The exact guard**: where the guarded steps preserve an invariant that implies a
property, and a step outside the guard ends in a state without the property, the property
holds in every state of a run exactly when every step meets the guard. -/
theorem everyState_iff_everyStep {Inv P : σ → Prop} {G : σ → α → σ → Prop}
    (hP : ∀ s, Inv s → P s) (hstep : ∀ s a t, Inv s → G s a t → step s a = some t → Inv t)
    (hexact : ∀ s a t, Inv s → step s a = some t → P t → G s a t) {s : σ} (hs : Inv s)
    (l : List α) : EveryState step P s l ↔ EveryStep step G s l := by
  constructor
  · intro h
    induction l generalizing s with
    | nil => exact everyStep_nil
    | cons a as ih =>
      refine everyStep_cons.mpr fun t ht => ?_
      -- the state after the first action is one of those asked, so its step met the guard
      have hrest : EveryState step P t as := (everyState_cons.mp h).2 t ht
      have hG : G s a t := hexact s a t hs ht (hrest [] as t rfl rfl)
      exact ⟨hG, ih (hstep s a t hs hG ht) hrest⟩
  · exact fun h => (everyState_of_guard hstep hs h).mono hP

/-- **A contract of the steps, up to equivalence**: where two properties of a step are
equivalent, every step of a run has the one exactly when every step has the other. -/
theorem everyStep_congr {P Q : σ → α → σ → Prop}
    (hPQ : ∀ s a t, step s a = some t → (P s a t ↔ Q s a t)) (s : σ) (l : List α) :
    EveryStep step P s l ↔ EveryStep step Q s l :=
  ⟨fun h l₁ a l₂ u t hl hu ht => (hPQ u a t ht).mp (h l₁ a l₂ u t hl hu ht),
    fun h l₁ a l₂ u t hl hu ht => (hPQ u a t ht).mpr (h l₁ a l₂ u t hl hu ht)⟩

/-- **A contract along a run, up to equivalence**: under an invariant that the steps with the
contract preserve, and a property of all states of the run, the contract may be replaced by
one that is equivalent there. -/
theorem everyStep_congr_of_invariant {I H : σ → Prop} {P Q : σ → α → σ → Prop}
    (hPQ : ∀ s a t, I s → H s → step s a = some t → (P s a t ↔ Q s a t))
    (hstep : ∀ s a t, I s → H s → P s a t → step s a = some t → I t) {s : σ} {l : List α}
    (hs : I s) (hH : EveryState step H s l) :
    EveryStep step P s l ↔ EveryStep step Q s l := by
  induction l generalizing s with
  | nil => exact iff_of_true everyStep_nil everyStep_nil
  | cons a as ih =>
    obtain ⟨hHs, hHrest⟩ := everyState_cons.mp hH
    rw [everyStep_cons, everyStep_cons]
    refine forall_congr' fun t => imp_congr_right fun ht => ?_
    rw [hPQ s a t hs hHs ht]
    refine and_congr_right fun hQ => ?_
    exact ih (hstep s a t hs hHs ((hPQ s a t hs hHs ht).mpr hQ) ht) (hHrest t ht)

end Runs
