import DivertNet.Library.Blocks
import DivertNet.Library.Runs

/-!
# Objects that free their blocks when they are disposed of

An object that owns blocks frees them when it is disposed of. It should come to no harm if it
is disposed of again, or used afterwards, which takes some care: the pointers have to be
cleared, or a mark left. A `Disposal.Owner` is a class of objects that takes none: a
disposal frees the block behind every pointer that is not null, and leaves the pointers.

Then a pointer dangles exactly if it was not null when the object was disposed of; the object
is *spent* there. `Disposal.everyState_faultless_iff` says what a run has to avoid: no
operation after a disposal may reach a spent pointer, another disposal included.
-/

namespace Disposal

open Blocks Runs

/-- **What a finalizer does**: it frees the block behind each of its pointers, guarded by a null
check. -/
def freeAll {ι : Type} (ptrs : List ι) (present : ι → Bool) : List (ι × Use) :=
  ptrs.flatMap fun i => onPtr i (guarded (present i) [.free])

/-- Each pointer is freed once. -/
theorem usesOf_freeAll {ι : Type} [DecidableEq ι] {ptrs : List ι} (hptrs : ptrs.Nodup)
    (present : ι → Bool) {i : ι} (hi : i ∈ ptrs) :
    usesOf i (freeAll ptrs present) = guarded (present i) [.free] := by
  have hnot : ∀ ptrs : List ι, i ∉ ptrs → usesOf i (freeAll ptrs present) = [] := by
    intro ptrs hi
    induction ptrs with
    | nil => rfl
    | cons j ptrs ih =>
      obtain ⟨hne, hrest⟩ := not_or.mp (List.mem_cons.not.mp hi)
      rw [freeAll, List.flatMap_cons, usesOf_append, usesOf_onPtr_of_ne (Ne.symm hne)]
      exact ih hrest
  induction ptrs with
  | nil => exact absurd hi List.not_mem_nil
  | cons j ptrs ih =>
    obtain ⟨hj, hrest⟩ := List.nodup_cons.mp hptrs
    rw [freeAll, List.flatMap_cons, usesOf_append, ← freeAll]
    rcases List.mem_cons.mp hi with rfl | hi
    · rw [usesOf_onPtr_self, hnot ptrs hj, List.append_nil]
    · have hne : j ≠ i := fun hji => hj (hji ▸ hi)
      rw [usesOf_onPtr_of_ne hne, ih hrest hi, List.nil_append]

/-- **A class of objects that own blocks**: the pointers, what else there is to an object, its
operations, and the program each operation runs on the pointers, by which of them are
not null. -/
structure Owner where
  Ptr : Type
  [decEq : DecidableEq Ptr]
  State : Type
  Op : Type
  /-- The constructor allocates. -/
  construct : List (Ptr × Use)
  initial : State
  next : State → Op → State
  program : State → (Ptr → Bool) → Op → List (Ptr × Use)
  disposes : Op → Bool
  /-- The operation gets to the block behind a pointer. -/
  reaches : State → Op → Ptr → Bool
  construct_allocates : ∀ x ∈ construct, ∃ ok, x.2 = .malloc ok
  /-- An operation is clean where it reaches no dangling pointer. -/
  clean_iff : ∀ (s : State) (op : Op) (st : Ptr → Status) (i : Ptr),
    (st i).Clean (usesOf i (program s (fun j => st j != .null) op)) ↔
      (reaches s op i = true → st i ≠ .dangling)
  /-- An operation that is none leaves pointers dangling that were so. -/
  leaves : ∀ (s : State) (op : Op) (st : Ptr → Status) (i : Ptr), disposes op = false →
    (reaches s op i = true → st i ≠ .dangling) →
      ((st i).afterAll (usesOf i (program s (fun j => st j != .null) op)) = .dangling ↔
        st i = .dangling)
  /-- A disposal leaves all pointers dangling that are not null. -/
  spends : ∀ (s : State) (op : Op) (st : Ptr → Status) (i : Ptr), disposes op = true →
    reaches s op i = true ∧ (st i ≠ .dangling →
      ((st i).afterAll (usesOf i (program s (fun j => st j != .null) op)) = .dangling ↔
        st i ≠ .null))

attribute [instance] Owner.decEq

/-- **An object in use**: its pointers and their blocks, the rest of it, and the pointers that
were not null when it was disposed of. -/
structure Object (o : Owner) where
  store : Store o.Ptr
  state : o.State
  spent : o.Ptr → Bool

variable {o : Owner}

namespace Object

/-- An object just constructed, nothing else being allocated. -/
def new (o : Owner) : Object o := ⟨execute .empty o.construct, o.initial, fun _ => false⟩

/-- **An operation on the object.** -/
def next (x : Object o) (op : o.Op) : Object o where
  store := execute x.store (o.program x.state (fun i => (x.store.ptr i).isSome) op)
  state := o.next x.state op
  spent i := x.spent i || (o.disposes op && (x.store.ptr i).isSome)

/-- **Nothing went wrong**: no block was accessed or freed after it had been freed. -/
def Faultless (x : Object o) : Prop := x.store.faults = []

/-- **An operation reaches no spent pointer.** -/
def SparesSpent (x : Object o) (op : o.Op) : Prop :=
  ∀ i, o.reaches x.state op i = true → x.spent i = false

/-- The invariant: nothing went wrong, and the pointers that dangle are the spent ones. -/
structure Inv (x : Object o) : Prop where
  sound : x.store.Sound
  faultless : x.Faultless
  dangling_iff : ∀ i, x.store.status i = .dangling ↔ x.spent i = true

/-- A pointer is not null where its status says so. -/
theorem isSome_ptr (x : Object o) (i : o.Ptr) :
    (x.store.ptr i).isSome = (x.store.status i != .null) := by
  rw [Bool.eq_iff_iff, bne_iff_ne, Ne, status_eq_null_iff, ← Ne, Option.isSome_iff_ne_none]

/-- An allocation is clean, and leaves no pointer dangling. -/
theorem clean_of_allocates {us : List Use} (h : ∀ u ∈ us, ∃ ok, u = .malloc ok) {st : Status}
    (hst : st ≠ .dangling) : st.Clean us ∧ st.afterAll us ≠ .dangling := by
  induction us generalizing st with
  | nil => exact ⟨trivial, hst⟩
  | cons u us ih =>
    obtain ⟨ok, rfl⟩ := h u List.mem_cons_self
    have hafter : st.after (.malloc ok) ≠ .dangling := by
      cases st <;> cases ok <;> simp [Status.after]
    obtain ⟨hclean, hall⟩ := ih (fun u hu => h u (List.mem_cons_of_mem _ hu)) hafter
    exact ⟨⟨by cases st <;> exact id, hclean⟩, hall⟩

theorem inv_new (o : Owner) : (new o).Inv := by
  have hempty : ∀ i, (Store.empty : Store o.Ptr).status i = .null := fun _ => rfl
  have halloc : ∀ i, ∀ u ∈ usesOf i o.construct, ∃ ok, u = .malloc ok := by
    intro i u hu
    obtain ⟨x, hx, hxu⟩ := List.mem_filterMap.mp hu
    split at hxu
    · exact Option.some.inj hxu ▸ o.construct_allocates x hx
    · cases hxu
  have hclean := fun i => clean_of_allocates (halloc i) (show Status.null ≠ .dangling by decide)
  refine ⟨Store.Sound.empty.execute _, ?_, fun i => ?_⟩
  · exact (faults_execute_iff .empty).mpr ⟨rfl, fun i => hempty i ▸ (hclean i).1⟩
  · refine iff_of_false ?_ (by simp [new])
    rw [new, status_execute .empty, hempty]
    exact (hclean i).2

section Step

variable {x : Object o} {op : o.Op}

/-- The uses an operation makes of a pointer, by the statuses of the pointers. -/
theorem usesOf_program (x : Object o) (op : o.Op) (i : o.Ptr) :
    usesOf i (o.program x.state (fun j => (x.store.ptr j).isSome) op) =
      usesOf i (o.program x.state (fun j => x.store.status j != .null) op) :=
  congrArg (fun f => usesOf i (o.program x.state f op)) (funext fun j => isSome_ptr x j)

/-- **When an operation does no harm**: exactly if it reaches no spent pointer. -/
theorem Inv.faultless_next_iff (h : x.Inv) : (x.next op).Faultless ↔ x.SparesSpent op := by
  have hbefore : x.store.faults = [] := h.faultless
  rw [Faultless, Object.next, faults_execute_iff h.sound, and_iff_right hbefore]
  refine forall_congr' fun i => ?_
  rw [usesOf_program, o.clean_iff]
  refine imp_congr_right fun _ => ?_
  rw [Ne, h.dangling_iff, Bool.not_eq_true]

/-- **Such an operation keeps the invariant.** -/
theorem Inv.next (h : x.Inv) (hop : x.SparesSpent op) : (x.next op).Inv := by
  refine ⟨h.sound.execute _, h.faultless_next_iff.mpr hop, fun i => ?_⟩
  have hreach : o.reaches x.state op i = true → x.store.status i ≠ .dangling := by
    intro hr hd
    rw [h.dangling_iff, hop i hr] at hd
    cases hd
  rw [Object.next, status_execute h.sound, usesOf_program]
  simp only [Bool.or_eq_true, Bool.and_eq_true, ← h.dangling_iff]
  cases hdisp : o.disposes op with
  | false =>
    rw [o.leaves x.state op x.store.status i hdisp hreach]
    simp
  | true =>
    obtain ⟨hall, hspends⟩ := o.spends x.state op x.store.status i hdisp
    rw [hspends (hreach hall), or_iff_right (hreach hall), isSome_ptr, bne_iff_ne]
    exact (and_iff_right rfl).symm

end Step

end Object

/-- **When an object comes to no harm**: over every run of operations from the construction
on, no block is accessed or freed after it has been freed exactly if no operation reaches a
pointer that was not null at an earlier disposal. -/
theorem everyState_faultless_iff (o : Owner) (l : List o.Op) :
    EveryState (always Object.next) Object.Faultless (Object.new o) l ↔
      EveryStep (always Object.next) (fun x op _ => x.SparesSpent op) (Object.new o) l := by
  refine everyState_iff_everyStep (fun _ h => h.faultless) ?_ ?_ (Object.inv_new o) l
  · intro x op y hx hop hstep
    obtain rfl := Option.some.inj hstep
    exact hx.next hop
  · intro x op y hx hstep hfaultless
    obtain rfl := Option.some.inj hstep
    exact hx.faultless_next_iff.mp hfaultless

end Disposal
