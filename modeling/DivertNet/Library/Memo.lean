import Mathlib.Logic.Function.Basic

/-!
# A decoded value kept beside the key it was decoded from

A **memo cell** keeps a decoded value together with the key it was decoded from, so
that the decoding is redone only when the key has changed. Reading through the cell
(`Memo.refresh`) compares the current key with the remembered one and, if they differ
*and* a further guard allows it, decodes again.

A cell is *coherent* when its value is the decoding of its remembered key. Coherence is
kept by every read and by every coherent assignment (`Memo.Coherent.refresh`), but it
does not make a read right by itself: the guard may hold the refresh back. For an
injective decoding `Memo.refresh_value_eq_iff` says exactly when the value read is the
decoding of the *current* key, and `Memo.refresh_value_of_guard` is the case every cache
aims at.

Where a value may be put into a cell that no key decodes to, what is left of coherence is
that the value decodes *no other* key (`Memo.Faithful`). It is enough to say when a read gives
the decoding of the current key (`Memo.Faithful.refresh_value_eq_iff`), and when two reads of
one cell that differ in their guard only give the same value
(`Memo.refresh_value_eq_refresh_iff`).
-/

universe u v

/-- A memo cell: the key last decoded, and the value it was decoded to. -/
@[ext] structure Memo (κ : Type u) (ν : Type v) where
  key : κ
  value : ν

namespace Memo

variable {κ : Type u} {ν : Type v}

/-- The value is the decoding of the remembered key. -/
def Coherent (decode : κ → ν) (c : Memo κ ν) : Prop := c.value = decode c.key

section Refresh

variable [DecidableEq κ] {decode : κ → ν} {g : Bool} {k : κ} {c : Memo κ ν}

/-- **Reading through the cell**: decode again if the key has changed and the guard
allows it. -/
def refresh (decode : κ → ν) (g : Bool) (k : κ) (c : Memo κ ν) : Memo κ ν :=
  if k ≠ c.key ∧ g = true then ⟨k, decode k⟩ else c

/-- The cell is used as it stands when the key has not changed. -/
theorem refresh_of_eq (h : k = c.key) : refresh decode g k c = c := if_neg fun hc => hc.1 h

/-- The cell is used as it stands when the guard holds the refresh back. -/
theorem refresh_of_not (h : g = false) : refresh decode g k c = c :=
  if_neg fun hc => by simp [h] at hc

theorem refresh_of_ne (h : k ≠ c.key) (hg : g = true) : refresh decode g k c = ⟨k, decode k⟩ :=
  if_pos ⟨h, hg⟩

/-- **A read keeps the cell coherent**, whatever the guard. -/
theorem Coherent.refresh (h : Coherent decode c) : Coherent decode (Memo.refresh decode g k c) := by
  by_cases hk : k ≠ c.key ∧ g = true
  · rw [refresh_of_ne hk.1 hk.2]
    rfl
  · rw [Memo.refresh, if_neg hk]
    exact h

/-- Where the guard allows the refresh, a coherent cell reads as the current key. -/
theorem refresh_value_of_guard (h : Coherent decode c) (hg : g = true) :
    (refresh decode g k c).value = decode k := by
  by_cases hk : k = c.key
  · rw [refresh_of_eq hk, hk]
    exact h
  · rw [refresh_of_ne hk hg]

/-- The value is the decoding of no key but the remembered one. -/
def Faithful (decode : κ → ν) (c : Memo κ ν) : Prop := ∀ k, c.value = decode k → k = c.key

omit [DecidableEq κ] in
theorem Coherent.faithful (hinj : Function.Injective decode) (h : Coherent decode c) :
    Faithful decode c := fun _ hk => hinj (hk.symm.trans h)

/-- **A read keeps the cell faithful**, whatever the guard. -/
theorem Faithful.refresh (hinj : Function.Injective decode) (h : Faithful decode c) :
    Faithful decode (Memo.refresh decode g k c) := by
  by_cases hk : k ≠ c.key ∧ g = true
  · rw [refresh_of_ne hk.1 hk.2]
    exact Coherent.faithful hinj rfl
  · rw [Memo.refresh, if_neg hk]
    exact h

/-- **When a faithful cell reads as the current key**: it has to be in the cell already if
there is nothing to refresh, and the guard has to allow the refresh if there is. -/
theorem Faithful.refresh_value_eq_iff (h : Faithful decode c) :
    (Memo.refresh decode g k c).value = decode k ↔
      (k = c.key → c.value = decode k) ∧ (k ≠ c.key → g = true) := by
  by_cases hk : k = c.key
  · rw [refresh_of_eq hk]
    exact ⟨fun hval => ⟨fun _ => hval, absurd hk⟩, fun hcond => hcond.1 hk⟩
  · refine ⟨fun hval => ⟨fun hk' => absurd hk' hk, fun _ => ?_⟩, fun hcond => ?_⟩
    · -- a refresh held back leaves a value that is not the decoding of the new key
      by_contra hg
      rw [refresh_of_not (Bool.not_eq_true _ ▸ hg)] at hval
      exact hk (h k hval)
    · rw [refresh_of_ne hk (hcond.2 hk)]

/-- **When a coherent cell reads as the current key**: exactly when the guard allows the
refresh, or there is nothing to refresh. -/
theorem refresh_value_eq_iff (hinj : Function.Injective decode) (h : Coherent decode c) :
    (refresh decode g k c).value = decode k ↔ k = c.key ∨ g = true := by
  have hkept : k = c.key → c.value = decode k := fun hk => hk ▸ h
  rw [(h.faithful hinj).refresh_value_eq_iff, and_iff_right hkept]
  exact or_iff_not_imp_left.symm

/-- Two reads of one cell leave the same cell where there is nothing to refresh, or the guards
agree. -/
theorem refresh_congr {g' : Bool} (h : k = c.key ∨ g = g') :
    refresh decode g k c = refresh decode g' k c := by
  rcases h with hk | rfl
  · rw [refresh_of_eq hk, refresh_of_eq hk]
  · rfl

/-- **When two reads of one cell give the same value**, the key being the same and the guards
not: exactly when there is nothing to refresh, or the guards agree. -/
theorem refresh_value_eq_refresh_iff (h : Faithful decode c) {g' : Bool} :
    (refresh decode g k c).value = (refresh decode g' k c).value ↔ k = c.key ∨ g = g' := by
  refine ⟨fun hval => ?_, fun hsame => congrArg Memo.value (refresh_congr hsame)⟩
  by_contra hcon
  obtain ⟨hk, hg⟩ := not_or.mp hcon
  -- one of the reads decodes the key, the other returns the value kept
  cases g with
  | false =>
    obtain rfl : g' = true := (Bool.not_eq_false g').mp fun h => hg h.symm
    rw [refresh_of_not rfl, refresh_of_ne hk rfl] at hval
    exact hk (h k hval)
  | true =>
    obtain rfl : g' = false := (Bool.not_eq_true g').mp fun h => hg h.symm
    rw [refresh_of_not rfl, refresh_of_ne hk rfl] at hval
    exact hk (h k hval.symm)

end Refresh

end Memo
