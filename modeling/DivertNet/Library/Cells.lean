import Mathlib.Data.List.Basic

/-!
# Independent cells

A state in which values of different types are kept, each in a *cell* of its own:
writing one cell is seen by a read of that cell and by no other. That is all a
`Cells.Family` says, and it determines what is read after any sequence of writes: the
value last written to the cell, or what was there before
(`Cells.get_setAll`). The writes come as pairs of a cell and a value for it, so that one
sequence may address all cells; `Cells.last` is the last value a sequence has for a cell.
-/

namespace Cells

universe u v w x

variable {σ : Type u} {ι : Type v} {β : ι → Type w} {γ : ι → Type x}

/-- **A family of independent cells** in a state. -/
structure Family (σ : Type u) (ι : Type v) (β : ι → Type w) where
  get : ∀ i, σ → β i
  set : ∀ i, β i → σ → σ
  get_set : ∀ i v s, get i (set i v s) = v
  get_set_of_ne : ∀ {i j} v s, i ≠ j → get i (set j v s) = get i s

/-- A sequence of writes. -/
def setAll (c : Family σ ι β) (l : List (Σ i, β i)) (s : σ) : σ :=
  l.foldl (fun s x => c.set x.1 x.2 s) s

/-- The last value a sequence has for a cell. -/
def last [DecidableEq ι] (i : ι) : List (Σ i, β i) → Option (β i)
  | [] => none
  | x :: xs =>
    match last i xs with
    | some v => some v
    | none => if h : x.1 = i then some (h ▸ x.2) else none

variable [DecidableEq ι]

theorem last_cons_self (i : ι) (v : β i) (l : List (Σ i, β i)) :
    last i (⟨i, v⟩ :: l) = some ((last i l).getD v) := by
  rw [last]
  cases last i l with
  | none => simp
  | some _ => rfl

theorem last_cons_of_ne {i j : ι} (h : j ≠ i) (v : β j) (l : List (Σ i, β i)) :
    last i (⟨j, v⟩ :: l) = last i l := by
  rw [last]
  cases last i l with
  | none => simp [h]
  | some _ => rfl

/-- The last value is one of the values. -/
theorem mem_of_last {i : ι} {v : β i} {l : List (Σ i, β i)} (h : last i l = some v) :
    ⟨i, v⟩ ∈ l := by
  induction l with
  | nil => cases h
  | cons x xs ih =>
    obtain ⟨j, v'⟩ := x
    rcases eq_or_ne j i with rfl | hne
    · rw [last_cons_self] at h
      cases hl : last j xs with
      | none =>
        rw [hl] at h
        obtain rfl : v' = v := Option.some.inj h
        exact List.mem_cons_self
      | some v'' =>
        rw [hl] at h
        exact List.mem_cons_of_mem _ (ih (hl.trans h))
    · rw [last_cons_of_ne hne] at h
      exact List.mem_cons_of_mem _ (ih h)

/-- The last value of a sequence whose values are recoded. -/
theorem last_map (f : ∀ i, γ i → β i) (i : ι) (l : List (Σ i, γ i)) :
    last i (l.map fun x => ⟨x.1, f x.1 x.2⟩) = (last i l).map (f i) := by
  induction l with
  | nil => rfl
  | cons x xs ih =>
    obtain ⟨j, v⟩ := x
    rw [List.map_cons]
    rcases eq_or_ne j i with rfl | hne
    · rw [last_cons_self, last_cons_self, ih]
      cases last j xs <;> rfl
    · rw [last_cons_of_ne hne, last_cons_of_ne hne, ih]

/-- **What is read after a sequence of writes**: the last value written to the cell, or
what was there before. -/
theorem get_setAll (c : Family σ ι β) (i : ι) (l : List (Σ i, β i)) (s : σ) :
    c.get i (setAll c l s) = (last i l).getD (c.get i s) := by
  -- induction on the writes, over the state reached so far
  induction l generalizing s with
  | nil => rfl
  | cons x xs ih =>
    obtain ⟨j, v⟩ := x
    rw [setAll, List.foldl_cons]
    refine (ih _).trans ?_
    rcases eq_or_ne j i with rfl | hne
    · rw [last_cons_self, c.get_set]
      rfl
    · rw [last_cons_of_ne hne, c.get_set_of_ne v s hne.symm]

/-- **One cell among others**, whatever the writes to the others do to the state: what is read
after a sequence is what the last write to it stores, or what was there before. -/
theorem get_foldl {i : ι} {τ : Type w} (get : σ → τ) (store : γ i → τ)
    (write : (Σ i, γ i) → σ → σ) (hself : ∀ v s, get (write ⟨i, v⟩ s) = store v)
    (hother : ∀ j v s, j ≠ i → get (write ⟨j, v⟩ s) = get s) (l : List (Σ i, γ i)) (s : σ) :
    get (l.foldl (fun s x => write x s) s) = ((last i l).map store).getD (get s) := by
  induction l generalizing s with
  | nil => rfl
  | cons x xs ih =>
    obtain ⟨j, v⟩ := x
    rw [List.foldl_cons, ih]
    rcases eq_or_ne j i with rfl | hne
    · rw [last_cons_self, hself]
      cases last j xs <;> rfl
    · rw [last_cons_of_ne hne, hother j v s hne]

end Cells
