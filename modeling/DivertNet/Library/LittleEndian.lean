import Mathlib.Data.List.Basic
import Mathlib.Data.BitVec
import Mathlib.Tactic.Ring

/-!
# Words in a byte memory, least significant byte first

A memory is a function from addresses to bytes, and a little-endian machine word
of `n` bytes is the bytes at `n` consecutive addresses, the least significant one
first. The two operations are

* `LittleEndian.load w n m a` – the word of width `w` read from the `n` bytes at `a`;
* `LittleEndian.store n v m a` – the memory in which these bytes spell `v`,

both generic in the number of bytes, so that what is proved here is proved once for
the bytes, half words and words of a structure.

| law | theorem |
|---|---|
| what is stored is loaded | `LittleEndian.load_store` |
| a store is invisible elsewhere | `LittleEndian.load_store_of_disjoint` |
| a word is told by its bytes | `LittleEndian.eq_of_byteOf_eq` |

The last one is what turns a comparison of words into a comparison of bytes.
`LittleEndian.Agree` is the relation between windows of two memories, at two addresses,
that hold the same bytes: what is loaded depends on the window only
(`LittleEndian.load_congr`). `LittleEndian.readBytes` is a window as a string, and two
windows agree exactly when they read alike (`LittleEndian.readBytes_eq_iff`).
-/

/-- An octet. -/
abbrev Byte := BitVec 8

/-- A byte-addressed memory. -/
abbrev Mem := ℕ → Byte

namespace LittleEndian

variable {w n : ℕ}

/-- Byte `i` of a word, counted from the least significant one. -/
def byteOf (v : BitVec w) (i : ℕ) : Byte := v.extractLsb' (8 * i) 8

/-- **The word at an address**: the `n` bytes from `a` on, the first being the least
significant. -/
def load (w : ℕ) : ℕ → Mem → ℕ → BitVec w
  | 0, _, _ => 0
  | n + 1, m, a => load w n m a ||| (m (a + n)).setWidth w <<< (8 * n)

/-- **Storing a word**: the `n` bytes from `a` on become those of `v`. -/
def store (n : ℕ) (v : BitVec w) (m : Mem) (a : ℕ) : Mem := fun x =>
  if a ≤ x ∧ x < a + n then byteOf v (x - a) else m x

/-- Two windows of `n` bytes hold the same bytes. -/
def Agree (n : ℕ) (m : Mem) (a : ℕ) (m' : Mem) (a' : ℕ) : Prop :=
  ∀ i < n, m (a + i) = m' (a' + i)

/-- The `n` bytes at an address. -/
def readBytes (m : Mem) (a n : ℕ) : List Byte := (List.range n).map fun i => m (a + i)

/-- A list of bytes as a memory of its own, which starts at address zero. -/
def ofBytes (l : List Byte) : Mem := fun x => l.getD x 0

/-! ### Bits -/

theorem getLsbD_byteOf (v : BitVec w) (i j : ℕ) :
    (byteOf v i).getLsbD j = (decide (j < 8) && v.getLsbD (8 * i + j)) := by
  simp [byteOf]

theorem getLsbD_load (m : Mem) (a j : ℕ) :
    (load w n m a).getLsbD j =
      (decide (j < w) && (decide (j < 8 * n) && (m (a + j / 8)).getLsbD (j % 8))) := by
  induction n with
  | zero => simp [load]
  | succ n ih =>
    rw [load, BitVec.getLsbD_or, ih, BitVec.getLsbD_shiftLeft, BitVec.getLsbD_setWidth]
    by_cases hw : j < w
    -- a bit of an earlier byte, of the byte just added, or above both
    · by_cases hlow : j < 8 * n
      · simp [hw, hlow, show j < 8 * (n + 1) by omega]
      · by_cases htop : j < 8 * (n + 1)
        · have hdiv : j / 8 = n := by omega
          have hmod : j % 8 = j - 8 * n := by omega
          simp [hw, hlow, htop, hdiv, hmod, show j - 8 * n < w by omega]
        · have hhigh : (m (a + n)).getLsbD (j - 8 * n) = false :=
            BitVec.getLsbD_of_ge _ _ (by omega)
          simp [hw, hlow, htop, hhigh]
    · simp [hw]

/-- A word is determined by its bytes. -/
theorem eq_of_byteOf_eq (hw : w ≤ 8 * n) {v v' : BitVec w}
    (h : ∀ i < n, byteOf v i = byteOf v' i) : v = v' := by
  refine BitVec.eq_of_getLsbD_eq fun j hj => ?_
  have hbyte := congrArg (BitVec.getLsbD · (j % 8)) (h (j / 8) (by omega))
  simp only [getLsbD_byteOf, show 8 * (j / 8) + j % 8 = j by omega,
    show j % 8 < 8 by omega, decide_true, Bool.true_and] at hbyte
  exact hbyte

/-- The bytes of a widened byte: itself, and zeros above it. -/
theorem byteOf_setWidth (hw : 8 ≤ w) (b : Byte) (i : ℕ) :
    byteOf (b.setWidth w) i = if i = 0 then b else 0 := by
  refine BitVec.eq_of_getLsbD_eq fun j hj => ?_
  rw [getLsbD_byteOf, BitVec.getLsbD_setWidth]
  by_cases hi : i = 0
  · simp [hi, hj, show j < w by omega]
  · have hhigh : b.getLsbD (8 * i + j) = false := BitVec.getLsbD_of_ge _ _ (by omega)
    simp [hi, hhigh]

/-- A byte is its own first byte. -/
theorem byteOf_zero (b : Byte) : byteOf b 0 = b := by
  simpa using byteOf_setWidth le_rfl b 0

/-! ### Loads -/

/-- The bytes of a loaded word are the bytes it was loaded from. -/
theorem byteOf_load (m : Mem) (a : ℕ) {i : ℕ} (hi : i < n) (hw : 8 * n ≤ w) :
    byteOf (load w n m a) i = m (a + i) := by
  refine BitVec.eq_of_getLsbD_eq fun j hj => ?_
  have hdiv : (8 * i + j) / 8 = i := by omega
  have hmod : (8 * i + j) % 8 = j := by omega
  rw [getLsbD_byteOf, getLsbD_load, hdiv, hmod]
  simp [hj, show 8 * i + j < w by omega, show 8 * i + j < 8 * n by omega]

/-- A load looks at its own bytes only. -/
theorem load_congr {m m' : Mem} {a a' : ℕ} (h : Agree n m a m' a') :
    load w n m a = load w n m' a' := by
  refine BitVec.eq_of_getLsbD_eq fun j _ => ?_
  rw [getLsbD_load, getLsbD_load]
  by_cases hj : j < 8 * n
  · rw [h (j / 8) (by omega)]
  · simp [hj]

/-! ### Stores -/

theorem store_of_mem (v : BitVec w) (m : Mem) {a x : ℕ} (h : a ≤ x ∧ x < a + n) :
    store n v m a x = byteOf v (x - a) := if_pos h

/-- A store changes no byte outside its own. -/
theorem store_of_not_mem (v : BitVec w) (m : Mem) {a x : ℕ} (h : ¬(a ≤ x ∧ x < a + n)) :
    store n v m a x = m x := if_neg h

@[simp] theorem store_offset (v : BitVec w) (m : Mem) (a : ℕ) {i : ℕ} (hi : i < n) :
    store n v m a (a + i) = byteOf v i := by
  rw [store_of_mem v m (by omega), Nat.add_sub_cancel_left]

/-- **What is stored is loaded**, where the bytes hold the whole word. -/
theorem load_store (hw : w ≤ 8 * n) (v : BitVec w) (m : Mem) (a : ℕ) :
    load w n (store n v m a) a = v := by
  refine BitVec.eq_of_getLsbD_eq fun j hj => ?_
  rw [getLsbD_load, store_offset v m a (show j / 8 < n by omega), getLsbD_byteOf,
    show 8 * (j / 8) + j % 8 = j by omega]
  simp [hj, show j < 8 * n by omega, show j % 8 < 8 by omega]

/-- **A store is invisible to a load elsewhere.** -/
theorem load_store_of_disjoint {w' n' : ℕ} (v : BitVec w) (m : Mem) {a a' : ℕ}
    (h : a' + n' ≤ a ∨ a + n ≤ a') :
    load w' n' (store n v m a) a' = load w' n' m a' :=
  load_congr fun _ _ => store_of_not_mem v m (by omega)

/-! ### Byte strings -/

@[simp] theorem length_readBytes (m : Mem) (a n : ℕ) : (readBytes m a n).length = n := by
  simp [readBytes]

/-- The bytes of a window in two parts. -/
theorem readBytes_add (m : Mem) (a n n' : ℕ) :
    readBytes m a (n + n') = readBytes m a n ++ readBytes m (a + n) n' := by
  simp only [readBytes, List.range_add, List.map_append, List.map_map]
  congr 1
  exact List.map_congr_left fun i _ => congrArg m (Nat.add_assoc ..).symm

theorem ofBytes_readBytes (m : Mem) (a : ℕ) {x : ℕ} (hx : x < n) :
    ofBytes (readBytes m a n) x = m (a + x) := by
  simp [ofBytes, readBytes, hx]

/-- **Two windows hold the same bytes exactly when they read alike.** -/
theorem readBytes_eq_iff {m m' : Mem} {a a' : ℕ} :
    readBytes m a n = readBytes m' a' n ↔ Agree n m a m' a' := by
  simp [readBytes, Agree]

/-- A byte string read back from a memory of its own. -/
theorem readBytes_ofBytes {l : List Byte} (hn : n ≤ l.length) :
    readBytes (ofBytes l) 0 n = l.take n := by
  refine List.ext_getElem (by simp [hn]) fun i hi hi' => ?_
  have hlt : i < l.length := by
    rw [List.length_take] at hi'
    omega
  simp [readBytes, ofBytes, hlt]

/-! ### Windows -/

theorem Agree.symm {m m' : Mem} {a a' : ℕ} (h : Agree n m a m' a') : Agree n m' a' m a :=
  fun i hi => (h i hi).symm

/-- A window of a window. -/
theorem Agree.sub {n' d : ℕ} {m m' : Mem} {a a' : ℕ} (h : Agree n m a m' a')
    (hd : d + n' ≤ n) : Agree n' m (a + d) m' (a' + d) := by
  intro i hi
  rw [Nat.add_assoc, Nat.add_assoc]
  exact h (d + i) (by omega)

/-- Storing the same word at the same place of two agreeing windows keeps them
agreeing. -/
theorem Agree.store {n' d : ℕ} {m m' : Mem} {a a' : ℕ} (h : Agree n m a m' a')
    (v : BitVec w) : Agree n (store n' v m (a + d)) a (store n' v m' (a' + d)) a' := by
  intro i hi
  by_cases hx : d ≤ i ∧ i < d + n'
  · rw [store_of_mem v m (by omega), store_of_mem v m' (by omega)]
    exact congrArg _ (by omega)
  · rw [store_of_not_mem v m (by omega), store_of_not_mem v m' (by omega)]
    exact h i hi

end LittleEndian
