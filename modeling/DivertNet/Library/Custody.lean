import Mathlib.Data.Nat.Basic
import Mathlib.Logic.Function.Basic
import Mathlib.Order.Basic

/-!
# One slot for one resource

A party acquires resources one after another, and has a single *slot* to record one in. It
may release the one in the slot, which empties the slot; it may acquire another one and
record it, which overwrites the slot; and it may fail between the two, so that a resource
is acquired and never recorded. These are the moves of a `Custody.Ledger`.

Custody is *conserved* (`Custody.Conserves`) if the resources not released yet are exactly
the one in the slot, and every other one was released once. The books balance along every
move but two (`Custody.Inv.apply`, `Custody.Move.safe_of_conserves`): recording over a full
slot, and acquiring without recording. A release at the end then leaves nothing behind
(`Custody.Inv.settles`).
-/

namespace Custody

open Function

/-- **The books**: the name the next resource gets, which resources are live, the slot, and
how often each one has been released. -/
structure Ledger where
  next : ℕ
  live : ℕ → Bool
  slot : Option ℕ
  released : ℕ → ℕ

/-- What the party does. -/
inductive Move where
  | keep
  /-- Release the resource in the slot, if there is one. -/
  | release
  /-- Acquire a resource and record it. -/
  | hold
  /-- Acquire a resource and fail to record it. -/
  | lose
  deriving DecidableEq, Repr

/-- The books after a move. -/
def Move.apply : Move → Ledger → Ledger
  | .keep, s => s
  | .release, s =>
    match s.slot with
    | none => s
    | some x =>
      { s with
        live := update s.live x false, slot := none
        released := update s.released x (s.released x + 1) }
  | .hold, s =>
    { s with next := s.next + 1, live := update s.live s.next true, slot := some s.next }
  | .lose, s => { s with next := s.next + 1, live := update s.live s.next true }

/-- **Custody of the resources from `n` on is conserved**: the live ones are the one in the
slot, and each of the others was released exactly once. -/
structure Conserves (n : ℕ) (s : Ledger) : Prop where
  in_slot : ∀ x, n ≤ x → x < s.next → s.live x = true → s.slot = some x
  held : ∀ x, s.slot = some x → n ≤ x ∧ x < s.next ∧ s.live x = true
  once : ∀ x, n ≤ x → x < s.next → s.released x = if s.live x then 0 else 1

/-- **All is settled**: nothing is recorded, and every resource was released exactly once. -/
def Settled (n : ℕ) (s : Ledger) : Prop :=
  s.slot = none ∧ ∀ x, n ≤ x → x < s.next → s.live x = false ∧ s.released x = 1

/-- A move that keeps the books balanced. -/
def Move.Safe (s : Ledger) : Move → Prop
  | .keep | .release => True
  | .hold => s.slot = none
  | .lose => False

/-- The invariant: custody is conserved, and no resource to come has been released. -/
structure Inv (n : ℕ) (s : Ledger) : Prop extends Conserves n s where
  le_next : n ≤ s.next
  fresh : ∀ x, s.next ≤ x → s.released x = 0

variable {n : ℕ} {s : Ledger} {m : Move}

/-- At most one resource is live. -/
theorem Conserves.eq_of_live (h : Conserves n s) {x y : ℕ} (hx : n ≤ x ∧ x < s.next ∧ s.live x)
    (hy : n ≤ y ∧ y < s.next ∧ s.live y) : x = y :=
  Option.some.inj ((h.in_slot x hx.1 hx.2.1 hx.2.2).symm.trans (h.in_slot y hy.1 hy.2.1 hy.2.2))

/-- The books before the first resource. -/
theorem Inv.start {live : ℕ → Bool} : Inv n ⟨n, live, none, fun _ => 0⟩ where
  in_slot _ hx hlt _ := absurd hlt (not_lt.mpr hx)
  held x hx := absurd hx (Option.some_ne_none x).symm
  once _ hx hlt := absurd hlt (not_lt.mpr hx)
  le_next := le_rfl
  fresh _ _ := rfl

/-- Releasing what is in the slot. -/
theorem Inv.release (h : Inv n s) : Inv n (Move.release.apply s) := by
  rw [Move.apply]
  cases hslot : s.slot with
  | none => exact h
  | some x =>
    obtain ⟨hx, hlt, hlive⟩ := h.held x hslot
    refine ⟨⟨fun y hy hlty hlivey => ?_, fun y hy => ?_, fun y hy hlty => ?_⟩, h.le_next, ?_⟩
    · -- another live resource would be the one in the slot
      rcases eq_or_ne y x with rfl | hne
      · simp at hlivey
      · simp only [update_of_ne hne] at hlivey
        exact absurd (h.eq_of_live ⟨hy, hlty, hlivey⟩ ⟨hx, hlt, hlive⟩) hne
    · exact absurd hy (Option.some_ne_none y).symm
    · rcases eq_or_ne y x with rfl | hne
      · simp [h.once y hx hlt, hlive]
      · simpa only [update_of_ne hne] using h.once y hy hlty
    · intro y hy
      have hne : y ≠ x := (lt_of_lt_of_le hlt hy).ne'
      simpa only [update_of_ne hne] using h.fresh y hy

/-- **With an empty slot all is settled**: nothing is live, so everything was released. -/
theorem Inv.settled (h : Inv n s) (hslot : s.slot = none) : Settled n s := by
  refine ⟨hslot, fun x hx hlt => ?_⟩
  have hdead : s.live x = false := by
    by_contra hlive
    have hsome := h.in_slot x hx hlt (eq_true_of_ne_false hlive)
    exact Option.some_ne_none x (hsome.symm.trans hslot)
  exact ⟨hdead, (h.once x hx hlt).trans (by rw [hdead]; rfl)⟩

/-- Recording a new resource in an empty slot. -/
theorem Inv.hold (h : Inv n s) (hslot : s.slot = none) : Inv n (Move.hold.apply s) := by
  have hsettled := (h.settled hslot).2
  refine ⟨⟨fun x hx hlt hlive => ?_, ?_, fun x hx hlt => ?_⟩, ?_, ?_⟩
  · rcases Nat.lt_succ_iff_lt_or_eq.mp hlt with hlt | rfl
    · simp only [Move.apply, update_of_ne hlt.ne] at hlive
      rw [(hsettled x hx hlt).1] at hlive
      cases hlive
    · rfl
  · rintro x hx
    obtain rfl : s.next = x := Option.some.inj hx
    exact ⟨h.le_next, Nat.lt_succ_self _, by simp [Move.apply]⟩
  · rcases Nat.lt_succ_iff_lt_or_eq.mp hlt with hlt | rfl
    · simpa only [Move.apply, update_of_ne hlt.ne] using h.once x hx hlt
    · simpa [Move.apply] using h.fresh s.next le_rfl
  · exact Nat.le_succ_of_le h.le_next
  · exact fun x hx => h.fresh x (Nat.le_of_succ_le hx)

/-- **The books balance along safe moves.** -/
theorem Inv.apply (h : Inv n s) (hm : m.Safe s) : Inv n (m.apply s) := by
  cases m with
  | keep => exact h
  | release => exact h.release
  | hold => exact h.hold hm
  | lose => exact hm.elim

/-- **They balance along no others**: what was in the slot is live and no longer recorded, or
what was acquired is. -/
theorem Move.safe_of_conserves (h : Inv n s) (hc : Conserves n (m.apply s)) : m.Safe s := by
  cases m with
  | keep => trivial
  | release => trivial
  | hold =>
    by_contra hslot
    obtain ⟨x, hx⟩ := Option.ne_none_iff_exists'.mp hslot
    obtain ⟨hn, hlt, hlive⟩ := h.held x hx
    have hkept : (Move.hold.apply s).live x = true := (update_of_ne hlt.ne _ _).trans hlive
    have hrec := hc.in_slot x hn (Nat.lt_succ_of_lt hlt) hkept
    exact hlt.ne (Option.some.inj hrec).symm
  | lose =>
    have hrec := hc.in_slot s.next h.le_next (Nat.lt_succ_self _) (update_self ..)
    exact (h.held s.next hrec).2.1.ne rfl

/-- A release empties the slot. -/
theorem slot_release (s : Ledger) : (Move.release.apply s).slot = none := by
  rw [Move.apply]
  split
  · assumption
  · rfl

/-- **Releasing at the end settles everything.** -/
theorem Inv.settles (h : Inv n s) : Settled n (Move.release.apply s) :=
  h.release.settled (slot_release s)

/-- What is still in the slot is not settled. -/
theorem not_settled_hold (n : ℕ) (s : Ledger) : ¬Settled n (Move.hold.apply s) :=
  fun h => Option.some_ne_none s.next h.1

end Custody
