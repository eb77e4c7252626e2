import Mathlib.Data.Fintype.Basic
import Mathlib.Data.List.FinRange
import DivertNet.Library.LittleEndian

/-!
# A heap whose objects can be moved

A moving collector keeps what the program can see of an object, its bytes, and changes
what the program is not meant to see, its address. This file is about the one thing that
does see it: a raw pointer into the middle of an object.

* `Relocation.Heap` – objects laid out in one byte memory, no two of them overlapping;
* `Relocation.Heap.contents` – the bytes of an object, wherever it is;
* `Relocation.Relocates` – one heap may follow another in a collection: the pinned objects
  stay where they are, and all keep their bytes;
* `Relocation.Points` – a pointer is the address of a window of an object.

| law | theorem |
|---|---|
| a pointer survives it exactly if the object stays | `Relocation.Relocates.points_iff` |
| a read through a pointer sees the contents | `Relocation.Points.read_eq` |
| a write through it changes them | `Relocation.Points.contents_write` |
| and those of no other object | `Relocation.Points.contents_write_of_ne` |
| only the right pointer writes so | `Relocation.points_of_pokes` |

Objects are named by an arbitrary type. `Relocation.Heap.ofContents` lays out objects with
given contents at given addresses, which is how a concrete heap is written down.
-/

namespace Relocation

open LittleEndian

variable {ι : Type} {n off a : ℕ}

/-- **A heap**: a byte memory in which every object occupies a window of its own. -/
structure Heap (ι : Type) where
  mem : Mem
  base : ι → ℕ
  size : ι → ℕ
  disjoint : ∀ i j, i ≠ j → base i + size i ≤ base j ∨ base j + size j ≤ base i

namespace Heap

/-- The bytes of an object. -/
def contents (h : Heap ι) (i : ι) : List Byte := readBytes h.mem (h.base i) (h.size i)

/-- The heap with other bytes in it and the same layout. -/
def withMem (h : Heap ι) (m : Mem) : Heap ι := { h with mem := m }

@[simp] theorem withMem_mem (h : Heap ι) (m : Mem) : (h.withMem m).mem = m := rfl

@[simp] theorem withMem_base (h : Heap ι) (m : Mem) : (h.withMem m).base = h.base := rfl

@[simp] theorem withMem_size (h : Heap ι) (m : Mem) : (h.withMem m).size = h.size := rfl

@[simp] theorem length_contents (h : Heap ι) (i : ι) : (h.contents i).length = h.size i :=
  length_readBytes _ _ _

/-- The window an object occupies spells its contents. -/
theorem agree_contents (h : Heap ι) {i : ι} (hn : off + n ≤ h.size i) :
    Agree n h.mem (h.base i + off) (ofBytes (h.contents i)) off := by
  intro x hx
  rw [contents, ofBytes_readBytes _ _ (by omega), Nat.add_assoc]

/-- The first bytes of the window are the first ones of the contents. -/
theorem readBytes_base (h : Heap ι) {i : ι} (hn : n ≤ h.size i) :
    readBytes h.mem (h.base i) n = (h.contents i).take n := by
  rw [← readBytes_ofBytes (by simpa using hn), readBytes_eq_iff]
  intro x hx
  rw [contents, ofBytes_readBytes _ _ (by omega), Nat.zero_add]

/-- No address lies in two objects. -/
theorem ne_of_disjoint (h : Heap ι) {i j : ι} (hij : i ≠ j) {x y : ℕ} (hx : x < h.size i)
    (hy : y < h.size j) : h.base i + x ≠ h.base j + y := by
  rcases h.disjoint i j hij with hle | hle <;> omega

end Heap

/-! ### Collections -/

/-- **What a collection may do**: objects named in `pinned` keep their address, all of
them keep their size and their bytes. -/
def Relocates (pinned : ι → Prop) (h h' : Heap ι) : Prop :=
  (∀ i, pinned i → h'.base i = h.base i) ∧
    ∀ i, h'.size i = h.size i ∧ Agree (h.size i) h.mem (h.base i) h'.mem (h'.base i)

instance [Fintype ι] (pinned : ι → Prop) [DecidablePred pinned] (h h' : Heap ι) :
    Decidable (Relocates pinned h h') :=
  inferInstanceAs (Decidable ((∀ i, pinned i → h'.base i = h.base i) ∧
    ∀ i, h'.size i = h.size i ∧ ∀ x < h.size i, h.mem (h.base i + x) = h'.mem (h'.base i + x)))

/-! ### Pointers into objects -/

/-- **A pointer into an object**: the address of the `n` bytes at offset `off` of it, which
it has. -/
def Points (h : Heap ι) (i : ι) (off n a : ℕ) : Prop := a = h.base i + off ∧ off + n ≤ h.size i

/-- Whether a pointer is one does not depend on the bytes. -/
@[simp] theorem points_withMem {h : Heap ι} {m : Mem} {i : ι} :
    Points (h.withMem m) i off n a ↔ Points h i off n a := Iff.rfl

/-- **A pointer survives a collection exactly if the object stays where it is.** -/
theorem Relocates.points_iff {pinned : ι → Prop} {h h' : Heap ι} {i : ι}
    (hr : Relocates pinned h h') (hp : Points h i off n a) :
    Points h' i off n a ↔ h'.base i = h.base i := by
  obtain ⟨rfl, hle⟩ := hp
  constructor
  · rintro ⟨heq, -⟩
    exact (Nat.add_right_cancel heq).symm
  · intro hbase
    exact ⟨by rw [hbase], (hr.2 i).1 ▸ hle⟩

namespace Points

variable {h : Heap ι} {i j : ι}

/-- A pointer lies inside its object. -/
theorem inside (hp : Points h i off n a) : h.base i ≤ a ∧ a + n ≤ h.base i + h.size i := by
  obtain ⟨rfl, hle⟩ := hp
  exact ⟨Nat.le_add_right _ _, by omega⟩

/-- The bytes at a pointer are those of the object at its offset. -/
theorem agree (hp : Points h i off n a) : Agree n h.mem a (ofBytes (h.contents i)) off := by
  obtain ⟨rfl, hle⟩ := hp
  exact h.agree_contents hle

/-- **A read through a pointer** that depends on its window only gives what it gives on the
contents of the object. -/
theorem read_eq {β : Type} {read : Mem → ℕ → β}
    (hcongr : ∀ {m a m' a'}, Agree n m a m' a' → read m a = read m' a')
    (hp : Points h i off n a) : read h.mem a = read (ofBytes (h.contents i)) off :=
  hcongr hp.agree

/-- **A write through a pointer**, one that depends on its window and stays inside it, does
to the object what it does to the contents. -/
theorem contents_write {write : Mem → ℕ → Mem}
    (hcongr : ∀ {m a m' a'}, Agree n m a m' a' → Agree n (write m a) a (write m' a') a')
    (hframe : ∀ m {a x}, ¬(a ≤ x ∧ x < a + n) → write m a x = m x)
    (hp : Points h i off n a) :
    (h.withMem (write h.mem a)).contents i =
      readBytes (write (ofBytes (h.contents i)) off) 0 (h.size i) := by
  obtain ⟨rfl, hle⟩ := hp
  rw [Heap.contents, Heap.withMem_mem, Heap.withMem_base, Heap.withMem_size, readBytes_eq_iff]
  intro x hx
  rw [Nat.zero_add]
  -- inside the window the two writes agree, outside it neither does anything
  by_cases hin : off ≤ x ∧ x < off + n
  · have hbyte := hcongr (h.agree_contents hle) (x - off) (by omega)
    rwa [show h.base i + off + (x - off) = h.base i + x by omega,
      show off + (x - off) = x by omega] at hbyte
  · rw [hframe _ (by omega), hframe _ hin, Heap.contents, ofBytes_readBytes _ _ hx]

/-- **It changes no other object.** -/
theorem contents_write_of_ne {write : Mem → ℕ → Mem}
    (hframe : ∀ m {a x}, ¬(a ≤ x ∧ x < a + n) → write m a x = m x)
    (hp : Points h i off n a) (hij : j ≠ i) :
    (h.withMem (write h.mem a)).contents j = h.contents j := by
  obtain ⟨rfl, hle⟩ := hp
  refine readBytes_eq_iff.mpr fun x hx => hframe _ fun hin => ?_
  have hne := h.ne_of_disjoint hij hx (y := h.base j + x - h.base i)
  simp only [Heap.withMem_base] at hin
  omega

end Points

/-- **The pointer is told by what it writes**: a pointer inside an object, through which
every byte that is stored arrives at offset `off`, is the pointer to that offset. -/
theorem points_of_pokes {h : Heap ι} {i : ι} (hn : 0 < n)
    (hin : h.base i ≤ a ∧ a + n ≤ h.base i + h.size i)
    (hpoke : ∀ b : Byte, (h.withMem (store 1 b h.mem a)).contents i =
      readBytes (store 1 b (ofBytes (h.contents i)) off) 0 (h.size i)) :
    Points h i off n a := by
  have hlt : a - h.base i < h.size i := by omega
  have hoff : a - h.base i = off := by
    by_contra hne
    -- a byte that differs from the one at `a`: stored there, it has to arrive elsewhere
    have hbyte := congrArg (ofBytes · (a - h.base i)) (hpoke (~~~h.mem a))
    simp only [Heap.contents, Heap.withMem_size, Heap.withMem_base, Heap.withMem_mem,
      ofBytes_readBytes _ _ hlt, Nat.zero_add, Nat.add_sub_cancel' hin.1] at hbyte
    rw [store_of_mem _ _ (by omega), store_of_not_mem _ _ (by omega), Nat.sub_self,
      byteOf_zero, ofBytes_readBytes _ _ hlt, Nat.add_sub_cancel' hin.1] at hbyte
    exact absurd (congrArg (BitVec.getLsbD · 0) hbyte) (by simp)
  exact ⟨by omega, by omega⟩

/-! ### Writing down a heap -/

namespace Heap

section OfContents

variable {k : ℕ} (base : Fin k → ℕ) (bytes : Fin k → List Byte)

/-- The memory in which each object has the given bytes at the given address. -/
def memOf : Mem := fun x =>
  match (List.finRange k).find? fun i => base i ≤ x ∧ x < base i + (bytes i).length with
  | some i => ofBytes (bytes i) (x - base i)
  | none => 0

/-- **A heap written down**: for each object its address and its bytes. -/
def ofContents (disjoint : ∀ i j, i ≠ j →
    base i + (bytes i).length ≤ base j ∨ base j + (bytes j).length ≤ base i) :
    Heap (Fin k) where
  mem := memOf base bytes
  base := base
  size i := (bytes i).length
  disjoint := disjoint

variable {base bytes} {disjoint : ∀ i j, i ≠ j →
  base i + (bytes i).length ≤ base j ∨ base j + (bytes j).length ≤ base i}

theorem memOf_add (disjoint : ∀ i j, i ≠ j →
    base i + (bytes i).length ≤ base j ∨ base j + (bytes j).length ≤ base i) {i : Fin k} {x : ℕ}
    (hx : x < (bytes i).length) : memOf base bytes (base i + x) = ofBytes (bytes i) x := by
  rw [memOf]
  split
  · rename_i j hj
    have hin := List.find?_some hj
    rw [decide_eq_true_eq] at hin
    obtain rfl : i = j := by
      by_contra hij
      rcases disjoint i j hij with hle | hle <;> omega
    rw [Nat.add_sub_cancel_left]
  · rename_i hnone
    have hout := List.find?_eq_none.mp hnone i (List.mem_finRange i)
    exact absurd (decide_eq_true ⟨Nat.le_add_right _ _, by omega⟩) hout

@[simp] theorem contents_ofContents (i : Fin k) :
    (ofContents base bytes disjoint).contents i = bytes i := by
  have hread : (ofContents base bytes disjoint).contents i =
      readBytes (ofBytes (bytes i)) 0 (bytes i).length :=
    readBytes_eq_iff.mpr fun x hx => by
      rw [Nat.zero_add]
      exact memOf_add disjoint hx
  rw [hread, readBytes_ofBytes le_rfl, List.take_length]

/-- The same contents elsewhere are a collection, provided the pinned objects stay. -/
theorem relocates_ofContents {pinned : Fin k → Prop} {base' : Fin k → ℕ} {disjoint' : ∀ i j,
    i ≠ j → base' i + (bytes i).length ≤ base' j ∨ base' j + (bytes j).length ≤ base' i}
    (hpin : ∀ i, pinned i → base' i = base i) :
    Relocates pinned (ofContents base bytes disjoint) (ofContents base' bytes disjoint') := by
  refine ⟨hpin, fun i => ⟨rfl, fun x hx => ?_⟩⟩
  exact (memOf_add disjoint hx).trans (memOf_add disjoint' hx).symm

end OfContents

end Heap

end Relocation
