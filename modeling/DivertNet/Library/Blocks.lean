import Mathlib.Data.List.Basic
import Mathlib.Data.List.Nodup
import Mathlib.Data.List.Perm.Subperm
import Mathlib.Logic.Function.Basic

/-!
# Blocks that are reached through pointers

A program allocates blocks and keeps each in a pointer of its own. It may use the block behind
a pointer, free it – which leaves the pointer as it is – and allocate a new one into the
pointer. A `Blocks.Store` is the *set of live blocks* with the pointers and the *errors* made
so far: an access or a free of a block that is not live.

Whether a program errs can be read off without the blocks. All that matters of a pointer is
its `Blocks.Status`, whether it is null, holds a live block, or dangles, and pointers do not
interfere:

| on a pointer that is | `access` | `free` | `malloc` |
|---|---|---|---|
| null | nothing | nothing | holds, or null |
| holding | nothing | dangles | **loses a block** |
| dangling | **error** | **error** | holds, or null |

The connection is `Blocks.status_execute`, the status of a pointer after a program is the one
the table gives for the uses of *this* pointer in it, and `Blocks.faults_execute_iff`, there
is an error exactly if some pointer dangles when it is accessed or freed.
`Blocks.referenced_execute` is the counterpart for the blocks that are lost.
-/

namespace Blocks

open Function

universe u

/-! ### The store -/

/-- What a program does with one of its pointers. -/
inductive Use where
  | access
  | free
  /-- Allocate, successfully or not, and keep the result. -/
  | malloc (ok : Bool)
  deriving DecidableEq, Repr

/-- An access or a free of a block that is not live. -/
inductive Fault where
  | access (b : ℕ)
  | free (b : ℕ)
  deriving DecidableEq, Repr

/-- **The store**: the name of the next block, the live blocks, the pointers, and the errors. -/
@[ext]
structure Store (ι : Type u) where
  next : ℕ
  live : List ℕ
  ptr : ι → Option ℕ
  faults : List Fault

/-- Nothing allocated yet. -/
def Store.empty {ι : Type u} : Store ι := ⟨0, [], fun _ => none, []⟩

variable {ι : Type u}

section Programs

variable [DecidableEq ι]

/-- **One use** of the pointer `i`. -/
def Store.use (s : Store ι) (i : ι) : Use → Store ι
  | .access =>
    match s.ptr i with
    | none => s
    | some b => if b ∈ s.live then s else { s with faults := .access b :: s.faults }
  | .free =>
    match s.ptr i with
    | none => s
    | some b =>
      if b ∈ s.live then { s with live := s.live.erase b }
      else { s with faults := .free b :: s.faults }
  | .malloc true =>
    { s with next := s.next + 1, live := s.next :: s.live, ptr := update s.ptr i (some s.next) }
  | .malloc false => { s with ptr := update s.ptr i none }

/-- **A program**: uses of pointers, one after another. -/
def execute (s : Store ι) (p : List (ι × Use)) : Store ι := p.foldl (fun s x => s.use x.1 x.2) s

@[simp] theorem execute_nil (s : Store ι) : execute s [] = s := rfl

@[simp] theorem execute_cons (s : Store ι) (x : ι × Use) (p : List (ι × Use)) :
    execute s (x :: p) = execute (s.use x.1 x.2) p := rfl

/-- Uses of one pointer, as a program. -/
def onPtr (i : ι) (us : List Use) : List (ι × Use) := us.map fun u => (i, u)

/-- The uses of the pointer `i` in a program. -/
def usesOf (i : ι) (p : List (ι × Use)) : List Use :=
  p.filterMap fun x => if x.1 = i then some x.2 else none

@[simp] theorem usesOf_nil (i : ι) : usesOf i [] = [] := rfl

theorem usesOf_cons (i : ι) (x : ι × Use) (p : List (ι × Use)) :
    usesOf i (x :: p) = if x.1 = i then x.2 :: usesOf i p else usesOf i p := by
  rw [usesOf, List.filterMap_cons]
  split <;> rename_i h <;> split at h <;> simp_all [usesOf]

theorem usesOf_append (i : ι) (p p' : List (ι × Use)) :
    usesOf i (p ++ p') = usesOf i p ++ usesOf i p' := List.filterMap_append

@[simp] theorem usesOf_onPtr_self (i : ι) (us : List Use) : usesOf i (onPtr i us) = us := by
  induction us with
  | nil => rfl
  | cons u us ih => rw [onPtr, List.map_cons, usesOf_cons, if_pos rfl, ← onPtr, ih]

theorem usesOf_onPtr_of_ne {i j : ι} (h : i ≠ j) (us : List Use) : usesOf j (onPtr i us) = [] := by
  induction us with
  | nil => rfl
  | cons u us ih => rw [onPtr, List.map_cons, usesOf_cons, if_neg h, ← onPtr, ih]

end Programs

/-! ### What matters of a pointer -/

/-- The status of a pointer. -/
inductive Status where
  | null | holding | dangling
  deriving DecidableEq, Repr

/-- The status after a use. -/
def Status.after : Status → Use → Status
  | st, .access => st
  | .holding, .free => .dangling
  | st, .free => st
  | _, .malloc ok => if ok then .holding else .null

/-- A use that errs. -/
def Status.Errs : Status → Use → Prop
  | .dangling, .access | .dangling, .free => True
  | _, _ => False

/-- A use that loses a block. -/
def Status.Loses : Status → Use → Prop
  | .holding, .malloc _ => True
  | _, _ => False

/-- The status after some uses. -/
def Status.afterAll (st : Status) (us : List Use) : Status := us.foldl Status.after st

/-- None of the uses, one after another, is of the bad kind. -/
def Status.Avoids (bad : Status → Use → Prop) : Status → List Use → Prop
  | _, [] => True
  | st, u :: us => ¬bad st u ∧ Avoids bad (st.after u) us

/-- **No use errs.** -/
abbrev Status.Clean : Status → List Use → Prop := Status.Avoids Status.Errs

/-- **No use loses a block.** -/
abbrev Status.Keeps : Status → List Use → Prop := Status.Avoids Status.Loses

/-! ### Uses behind a null check -/

/-- Uses of a pointer that is compared with null first. -/
def guarded (present : Bool) (us : List Use) : List Use := if present then us else []

/-- **Guarded accesses** change nothing, and err if there are any and the pointer dangles. -/
theorem guarded_accesses_spec {us : List Use} (h : ∀ u ∈ us, u = .access) (st : Status) :
    (st.Clean (guarded (st != .null) us) ↔ (us ≠ [] → st ≠ .dangling)) ∧
      st.afterAll (guarded (st != .null) us) = st := by
  have hafter : ∀ st : Status, st.afterAll us = st := by
    intro st
    induction us with
    | nil => rfl
    | cons u us ih =>
      obtain rfl := h u List.mem_cons_self
      exact ih fun u hu => h u (List.mem_cons_of_mem _ hu)
  have hholding : Status.holding.Clean us := by
    induction us with
    | nil => trivial
    | cons u us ih =>
      obtain rfl := h u List.mem_cons_self
      have hrest : ∀ u ∈ us, u = .access := fun u hu => h u (List.mem_cons_of_mem _ hu)
      refine ⟨id, ih hrest fun st => ?_⟩
      exact (List.foldl_cons ..).symm.trans (hafter st)
  cases st with
  | null => exact ⟨iff_of_true trivial fun _ => by decide, rfl⟩
  | holding => exact ⟨iff_of_true hholding fun _ => by decide, hafter _⟩
  | dangling =>
    refine ⟨?_, hafter _⟩
    cases us with
    | nil => exact iff_of_true trivial fun h => absurd rfl h
    | cons u us =>
      obtain rfl := h u List.mem_cons_self
      exact iff_of_false (fun hclean => hclean.1 trivial) fun hst =>
        hst (List.cons_ne_nil _ _) rfl

/-- **A guarded free** errs if the pointer dangles, and otherwise leaves it dangling unless it is
null. -/
theorem guarded_free_spec (st : Status) :
    (st.Clean (guarded (st != .null) [.free]) ↔ st ≠ .dangling) ∧ (st ≠ .dangling →
      (st.afterAll (guarded (st != .null) [.free]) = .dangling ↔ st ≠ .null)) := by
  cases st <;> simp [guarded, Status.Avoids, Status.Errs, Status.after, Status.afterAll]

/-! ### The pointers of a store -/

/-- The status of a pointer of a store. -/
def Store.status (s : Store ι) (i : ι) : Status :=
  match s.ptr i with
  | none => .null
  | some b => if b ∈ s.live then .holding else .dangling

/-- **A store that is in order**: live blocks and pointers are to blocks handed out, and no
two pointers are to the same. -/
structure Store.Sound (s : Store ι) : Prop where
  nodup : s.live.Nodup
  live_lt : ∀ b ∈ s.live, b < s.next
  ptr_lt : ∀ i b, s.ptr i = some b → b < s.next
  ptr_inj : ∀ i j b, s.ptr i = some b → s.ptr j = some b → i = j

theorem Store.Sound.empty : (Store.empty : Store ι).Sound where
  nodup := List.nodup_nil
  live_lt _ hb := absurd hb List.not_mem_nil
  ptr_lt _ _ hb := by cases hb
  ptr_inj _ _ _ hb := by cases hb

section Status

variable {s : Store ι} {i j : ι} {b : ℕ}

theorem status_of_none (h : s.ptr i = none) : s.status i = .null := by rw [Store.status, h]

theorem status_of_live (h : s.ptr i = some b) (hb : b ∈ s.live) : s.status i = .holding := by
  simp only [Store.status, h, if_pos hb]

theorem status_of_not_live (h : s.ptr i = some b) (hb : b ∉ s.live) : s.status i = .dangling := by
  simp only [Store.status, h, if_neg hb]

theorem status_eq_null_iff : s.status i = .null ↔ s.ptr i = none := by
  rw [Store.status]
  cases s.ptr i with
  | none => exact iff_of_true rfl rfl
  | some b =>
    refine iff_of_false ?_ (Option.some_ne_none b)
    simp only
    split <;> decide

/-- Two stores with the same pointer, and the block behind it live in both or in neither. -/
theorem status_congr {s' : Store ι} (hptr : s'.ptr i = s.ptr i)
    (hlive : ∀ b, s.ptr i = some b → (b ∈ s'.live ↔ b ∈ s.live)) : s'.status i = s.status i := by
  rw [Store.status, Store.status, hptr]
  cases hb : s.ptr i with
  | none => rfl
  | some b => simp only [hlive b hb]

end Status

/-! ### One use -/

section Use

variable [DecidableEq ι] {s : Store ι} {i : ι} {u : Use}

/-- **A use of a sound store** leaves it sound. -/
theorem Store.Sound.use (h : s.Sound) (i : ι) (u : Use) : (s.use i u).Sound := by
  cases u with
  | access =>
    rw [Store.use]
    split
    · exact h
    · split
      · exact h
      · exact ⟨h.nodup, h.live_lt, h.ptr_lt, h.ptr_inj⟩
  | free =>
    rw [Store.use]
    split
    · exact h
    · split
      · exact ⟨h.nodup.erase _, fun b hb => h.live_lt b (List.mem_of_mem_erase hb), h.ptr_lt,
          h.ptr_inj⟩
      · exact ⟨h.nodup, h.live_lt, h.ptr_lt, h.ptr_inj⟩
  | malloc ok =>
    cases ok with
    | false =>
      refine ⟨h.nodup, h.live_lt, fun j b hb => ?_, fun j k b hj hk => ?_⟩
      · rcases eq_or_ne j i with rfl | hne
        · simp [Store.use] at hb
        · exact h.ptr_lt j b (by simpa [Store.use, update_of_ne hne] using hb)
      · rcases eq_or_ne j i with rfl | hji
        · simp [Store.use] at hj
        · rcases eq_or_ne k i with rfl | hki
          · simp [Store.use] at hk
          · simp only [Store.use, update_of_ne hji, update_of_ne hki] at hj hk
            exact h.ptr_inj j k b hj hk
    | true =>
      -- the new block is beyond every block handed out, so no other pointer is to it
      have hnew : ∀ k, s.ptr k ≠ some s.next := fun k hk => Nat.ne_of_lt (h.ptr_lt k _ hk) rfl
      refine ⟨?_, fun b hb => ?_, fun j b hb => ?_, fun j k b hj hk => ?_⟩
      · exact List.nodup_cons.mpr ⟨fun hmem => Nat.ne_of_lt (h.live_lt _ hmem) rfl, h.nodup⟩
      · rcases List.mem_cons.mp hb with rfl | hb
        · exact Nat.lt_succ_self _
        · exact Nat.lt_succ_of_lt (h.live_lt b hb)
      · rcases eq_or_ne j i with rfl | hne
        · simp only [Store.use, update_self, Option.some.injEq] at hb
          exact hb ▸ Nat.lt_succ_self _
        · simp only [Store.use, update_of_ne hne] at hb
          exact Nat.lt_succ_of_lt (h.ptr_lt j b hb)
      · by_cases hji : j = i <;> by_cases hki : k = i
        · rw [hji, hki]
        · rw [hji] at hj
          simp only [Store.use, update_self, update_of_ne hki] at hj hk
          exact absurd (hk.trans hj.symm) (hnew k)
        · rw [hki] at hk
          simp only [Store.use, update_self, update_of_ne hji] at hj hk
          exact absurd (hj.trans hk.symm) (hnew j)
        · simp only [Store.use, update_of_ne hji, update_of_ne hki] at hj hk
          exact h.ptr_inj j k b hj hk

/-- **The status of the pointer used** is the one the table gives. -/
theorem status_use_self (h : s.Sound) : (s.use i u).status i = (s.status i).after u := by
  cases u with
  | access =>
    rw [Store.use]
    split
    · rfl
    · split <;> rfl
  | free =>
    rw [Store.use]
    cases hb : s.ptr i with
    | none => rw [status_of_none hb]; rfl
    | some b =>
      by_cases hlive : b ∈ s.live
      · simp only [if_pos hlive]
        rw [status_of_live hb hlive]
        exact status_of_not_live hb fun hmem => h.nodup.not_mem_erase hmem
      · simp only [if_neg hlive]
        rw [status_of_not_live hb hlive]
        exact status_of_not_live hb hlive
  | malloc ok =>
    cases ok with
    | false =>
      rw [status_of_none (update_self ..)]
      cases s.status i <;> rfl
    | true =>
      rw [status_of_live (b := s.next) (update_self ..) List.mem_cons_self]
      cases s.status i <;> rfl

/-- **Pointers do not interfere.** -/
theorem status_use_of_ne (h : s.Sound) {j : ι} (hne : j ≠ i) :
    (s.use i u).status j = s.status j := by
  cases u with
  | access =>
    rw [Store.use]
    split
    · rfl
    · split <;> rfl
  | free =>
    rw [Store.use]
    cases hb : s.ptr i with
    | none => rfl
    | some b =>
      by_cases hlive : b ∈ s.live
      · simp only [if_pos hlive]
        refine status_congr rfl fun c hc => List.mem_erase_of_ne ?_
        rintro rfl
        exact hne (h.ptr_inj j i c hc hb)
      · simp only [if_neg hlive]
        rfl
  | malloc ok =>
    cases ok with
    | false => exact status_congr (update_of_ne hne ..) fun _ _ => Iff.rfl
    | true =>
      refine status_congr (update_of_ne hne ..) fun c hc => ?_
      exact List.mem_cons.trans (or_iff_right (Nat.ne_of_lt (h.ptr_lt j c hc)))

/-- **When a use errs.** -/
theorem faults_use (s : Store ι) (i : ι) (u : Use) :
    (s.use i u).faults = s.faults ∧ ¬(s.status i).Errs u ∨
      (∃ f, (s.use i u).faults = f :: s.faults) ∧ (s.status i).Errs u := by
  cases u with
  | access =>
    rw [Store.use]
    cases hb : s.ptr i with
    | none => exact Or.inl ⟨rfl, by rw [status_of_none hb]; exact id⟩
    | some b =>
      by_cases hlive : b ∈ s.live
      · simp only [if_pos hlive]
        exact Or.inl ⟨trivial, by rw [status_of_live hb hlive]; exact id⟩
      · simp only [if_neg hlive]
        exact Or.inr ⟨⟨_, rfl⟩, by rw [status_of_not_live hb hlive]; trivial⟩
  | free =>
    rw [Store.use]
    cases hb : s.ptr i with
    | none => exact Or.inl ⟨rfl, by rw [status_of_none hb]; exact id⟩
    | some b =>
      by_cases hlive : b ∈ s.live
      · simp only [if_pos hlive]
        exact Or.inl ⟨trivial, by rw [status_of_live hb hlive]; exact id⟩
      · simp only [if_neg hlive]
        exact Or.inr ⟨⟨_, rfl⟩, by rw [status_of_not_live hb hlive]; trivial⟩
  | malloc ok => cases ok <;> exact Or.inl ⟨rfl, by cases s.status i <;> exact id⟩

/-- Every live block is behind a pointer. -/
def Store.Referenced (s : Store ι) : Prop := ∀ b ∈ s.live, ∃ i, s.ptr i = some b

/-- **A use that loses no block** leaves every live block behind a pointer. -/
theorem Store.Referenced.use (h : s.Referenced) (hu : ¬(s.status i).Loses u) :
    (s.use i u).Referenced := by
  cases u with
  | access =>
    rw [Store.use]
    split
    · exact h
    · split <;> exact h
  | free =>
    rw [Store.use]
    split
    · exact h
    · split
      · exact fun b hb => h b (List.mem_of_mem_erase hb)
      · exact h
  | malloc ok =>
    -- no live block was behind the pointer that is overwritten
    have hother : ∀ b ∈ s.live, ∃ j, j ≠ i ∧ s.ptr j = some b := by
      intro b hb
      obtain ⟨j, hj⟩ := h b hb
      refine ⟨j, ?_, hj⟩
      rintro rfl
      rw [status_of_live hj hb] at hu
      exact hu trivial
    cases ok with
    | false =>
      intro b hb
      obtain ⟨j, hne, hj⟩ := hother b hb
      exact ⟨j, (update_of_ne hne ..).trans hj⟩
    | true =>
      intro b hb
      rcases List.mem_cons.mp hb with rfl | hb
      · exact ⟨i, update_self ..⟩
      · obtain ⟨j, hne, hj⟩ := hother b hb
        exact ⟨j, (update_of_ne hne ..).trans hj⟩

end Use

/-- There are no more live blocks than pointers that are not null. -/
theorem Store.Referenced.length_live_le {s : Store ι} (href : s.Referenced) (h : s.Sound)
    (is : List ι) (his : ∀ i, s.ptr i ≠ none → i ∈ is) : s.live.length ≤ is.length := by
  have hsubset : s.live ⊆ is.filterMap s.ptr := by
    intro b hb
    obtain ⟨i, hi⟩ := href b hb
    refine List.mem_filterMap.mpr ⟨i, his i ?_, hi⟩
    rw [hi]
    exact Option.some_ne_none b
  exact Nat.le_trans (h.nodup.subperm hsubset).length_le (List.length_filterMap_le ..)

/-! ### Programs -/

section Execute

variable [DecidableEq ι] {s : Store ι} {p : List (ι × Use)}

theorem Store.Sound.execute (h : s.Sound) (p : List (ι × Use)) : (execute s p).Sound := by
  induction p generalizing s with
  | nil => exact h
  | cons x p ih => exact ih (h.use x.1 x.2)

/-- **The status of a pointer after a program** depends on the uses of this pointer alone. -/
theorem status_execute (h : s.Sound) (p : List (ι × Use)) (i : ι) :
    (execute s p).status i = (s.status i).afterAll (usesOf i p) := by
  induction p generalizing s with
  | nil => rfl
  | cons x p ih =>
    rw [execute_cons, ih (h.use x.1 x.2), usesOf_cons]
    rcases eq_or_ne x.1 i with rfl | hne
    · rw [if_pos rfl, status_use_self h]
      rfl
    · rw [if_neg hne, status_use_of_ne h hne.symm]

/-- Of a program's uses, the pointers can be asked one by one. -/
theorem avoids_use_iff (h : s.Sound) (bad : Status → Use → Prop) (x : ι × Use) :
    (¬bad (s.status x.1) x.2 ∧
        ∀ i, ((s.use x.1 x.2).status i).Avoids bad (usesOf i p)) ↔
      ∀ i, (s.status i).Avoids bad (usesOf i (x :: p)) := by
  constructor
  · rintro ⟨hx, hp⟩ i
    have hpi := hp i
    rw [usesOf_cons]
    rcases eq_or_ne x.1 i with rfl | hne
    · rw [if_pos rfl]
      exact ⟨hx, status_use_self h ▸ hpi⟩
    · rw [if_neg hne]
      exact status_use_of_ne h hne.symm ▸ hpi
  · intro hall
    refine ⟨?_, fun i => ?_⟩
    · have hx := hall x.1
      rw [usesOf_cons, if_pos rfl] at hx
      exact hx.1
    · have hi := hall i
      rw [usesOf_cons] at hi
      rcases eq_or_ne x.1 i with rfl | hne
      · rw [if_pos rfl] at hi
        rw [status_use_self h]
        exact hi.2
      · rw [if_neg hne] at hi
        rwa [status_use_of_ne h hne.symm]

/-- **When a program errs**: exactly if some pointer dangles when it is accessed or freed. -/
theorem faults_execute_iff (h : s.Sound) :
    (execute s p).faults = [] ↔ s.faults = [] ∧ ∀ i, (s.status i).Clean (usesOf i p) := by
  induction p generalizing s with
  | nil => exact (and_iff_left fun _ => trivial).symm
  | cons x p ih =>
    rw [execute_cons, ih (h.use x.1 x.2), ← avoids_use_iff h]
    rcases faults_use s x.1 x.2 with ⟨hsame, hclean⟩ | ⟨⟨f, hmore⟩, herr⟩
    · rw [hsame, and_iff_right hclean]
    · rw [hmore]
      exact iff_of_false (fun hcon => List.cons_ne_nil _ _ hcon.1) fun hcon => hcon.2.1 herr

/-- A clean program adds no error. -/
theorem faults_execute (h : s.Sound) (hp : ∀ i, (s.status i).Clean (usesOf i p)) :
    (execute s p).faults = s.faults := by
  induction p generalizing s with
  | nil => rfl
  | cons x p ih =>
    obtain ⟨hx, hrest⟩ := (avoids_use_iff h Status.Errs x).mpr hp
    rw [execute_cons, ih (h.use x.1 x.2) hrest]
    exact ((faults_use s x.1 x.2).resolve_right fun hcon => hx hcon.2).1

/-- **A program that loses no block** leaves every live block behind a pointer. -/
theorem referenced_execute (h : s.Sound) (href : s.Referenced)
    (hp : ∀ i, (s.status i).Keeps (usesOf i p)) : (execute s p).Referenced := by
  induction p generalizing s with
  | nil => exact href
  | cons x p ih =>
    obtain ⟨hx, hrest⟩ := (avoids_use_iff h Status.Loses x).mpr hp
    exact ih (h.use x.1 x.2) (href.use hx) hrest

end Execute

end Blocks
