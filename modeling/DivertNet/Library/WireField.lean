import DivertNet.Library.LittleEndian

/-!
# Fields of a protocol header

The diagram of a protocol header counts bits in the order they are sent: bit `0` is
the most significant bit of the first byte, bit `8` that of the second. A *field* is a
run of consecutive bits of the diagram, and its value has the first of them as its most
significant one. `WireField.Field` is a field by its first bit and its length, and the
two operations are

* `WireField.Field.get` – the value of the field in the header at an address;
* `WireField.Field.set` – the memory in which the field has a given value and every other
  bit is what it was.

Two fields without a common bit are `WireField.Field.Apart`.

| law | theorem |
|---|---|
| what is set is got | `WireField.Field.get_set` |
| what is got can be set back | `WireField.Field.set_get` |
| a field apart keeps its value | `WireField.Field.get_set_of_apart` |
| fields apart are set in either order | `WireField.Field.set_comm_of_apart` |
| two halves of a field | `WireField.Field.toNat_get_add` |
| a field of whole bytes | `WireField.Field.readBytes_eq_bigEndian` |

A machine sees the same bits in little-endian words: `WireField.getLsbD_load` says which
bit of the diagram a bit of a loaded word is, and `WireField.Field.set_eq_store` when
storing a word sets a field.
-/

namespace WireField

open LittleEndian

/-- The word with these bits, the first one most significant. -/
def ofBits (b : ℕ → Bool) : (n : ℕ) → BitVec n
  | 0 => 0
  | n + 1 => (ofBits b n).concat (b n)

/-- **A bit of the diagram** of the header at `a`. -/
def bitAt (m : Mem) (a i : ℕ) : Bool := (m (a + i / 8)).getLsbD (7 - i % 8)

/-- A field: its first bit, and how many it has. -/
structure Field where
  start : ℕ
  len : ℕ
  deriving DecidableEq, Repr

/-- A bit of the diagram belongs to the field. -/
def Field.Has (f : Field) (i : ℕ) : Prop := f.start ≤ i ∧ i < f.start + f.len

instance (f : Field) (i : ℕ) : Decidable (f.Has i) := inferInstanceAs (Decidable (_ ∧ _))

/-- Two fields have no bit in common. -/
def Field.Apart (f g : Field) : Prop := f.start + f.len ≤ g.start ∨ g.start + g.len ≤ f.start

instance (f g : Field) : Decidable (f.Apart g) := inferInstanceAs (Decidable (_ ∨ _))

/-- **The value of a field** in the header at `a`. -/
def Field.get (f : Field) (m : Mem) (a : ℕ) : BitVec f.len :=
  ofBits (fun i => bitAt m a (f.start + i)) f.len

/-- **Setting a field** in the header at `a`: its bits become those of the value, every
other bit is kept. -/
def Field.set (f : Field) (v : BitVec f.len) (m : Mem) (a : ℕ) : Mem := fun x =>
  if a ≤ x then
    ofBits (fun k =>
      if f.Has (8 * (x - a) + k) then v.getLsbD (f.start + f.len - 1 - (8 * (x - a) + k))
      else bitAt m a (8 * (x - a) + k)) 8
  else m x

/-- The bit of the diagram that a bit of a little-endian word is, for the word at byte `k`
of the header: within each byte they count in opposite directions. -/
def wordPos (k j : ℕ) : ℕ := 8 * k + (8 * (j / 8) + (7 - j % 8))

/-- The bytes of a word, the most significant one first. -/
def bigEndian {w : ℕ} (v : BitVec w) : List Byte :=
  (List.range (w / 8)).map fun i => v.extractLsb' (w - 8 * (i + 1)) 8

theorem bigEndian_setWidth {w w' : ℕ} (h : w = w') (v : BitVec w) :
    bigEndian (v.setWidth w') = bigEndian v := by
  subst h
  rw [BitVec.setWidth_eq]

/-! ### Bits -/

section Bits

variable {m m' : Mem} {a : ℕ}

theorem getLsbD_ofBits (b : ℕ → Bool) (n j : ℕ) :
    (ofBits b n).getLsbD j = (decide (j < n) && b (n - 1 - j)) := by
  induction n generalizing j with
  | zero => simp [ofBits]
  | succ n ih =>
    rw [ofBits, BitVec.getLsbD_concat]
    cases j with
    | zero => simp
    | succ j => simp [ih, show n - (j + 1) = n - 1 - j by omega]

/-- Every bit of a byte is a bit of the diagram. -/
theorem getLsbD_eq_bitAt {x j : ℕ} (hx : a ≤ x) (hj : j < 8) :
    (m x).getLsbD j = bitAt m a (8 * (x - a) + (7 - j)) := by
  rw [bitAt, show a + (8 * (x - a) + (7 - j)) / 8 = x by omega,
    show 7 - (8 * (x - a) + (7 - j)) % 8 = j by omega]

/-- **Memories are told apart by the bits of the diagram** and the bytes before it. -/
theorem mem_ext (hbefore : ∀ x < a, m x = m' x) (hbits : ∀ i, bitAt m a i = bitAt m' a i) :
    m = m' := by
  funext x
  by_cases hx : a ≤ x
  · refine BitVec.eq_of_getLsbD_eq fun j hj => ?_
    rw [getLsbD_eq_bitAt hx hj, getLsbD_eq_bitAt hx hj, hbits]
  · exact hbefore x (by omega)

/-- A bit of a byte of the header is a bit of its window. -/
theorem bitAt_add (m : Mem) (a k i : ℕ) : bitAt m a (8 * k + i) = bitAt m (a + k) i := by
  rw [bitAt, bitAt, show a + (8 * k + i) / 8 = a + k + i / 8 by omega,
    show (8 * k + i) % 8 = i % 8 by omega]

/-- **The bits of a loaded word.** -/
theorem getLsbD_load_add {w n k j : ℕ} (hw : j < w) (hn : j < 8 * n) :
    (load w n m (a + k)).getLsbD j = bitAt m a (wordPos k j) := by
  rw [getLsbD_load, wordPos, bitAt_add, bitAt,
    show (8 * (j / 8) + (7 - j % 8)) / 8 = j / 8 by omega,
    show 7 - (8 * (j / 8) + (7 - j % 8)) % 8 = j % 8 by omega]
  simp [hw, hn]

end Bits

namespace Field

variable {f g : Field} {m m' : Mem} {a : ℕ}

theorem getLsbD_get (f : Field) (m : Mem) (a : ℕ) {j : ℕ} (hj : j < f.len) :
    (f.get m a).getLsbD j = bitAt m a (f.start + f.len - 1 - j) := by
  rw [get, getLsbD_ofBits, decide_eq_true hj, Bool.true_and,
    show f.start + (f.len - 1 - j) = f.start + f.len - 1 - j by omega]

/-- A field is read from its own bits. -/
theorem get_congr (h : ∀ i, f.Has i → bitAt m a i = bitAt m' a i) : f.get m a = f.get m' a := by
  refine BitVec.eq_of_getLsbD_eq fun j hj => ?_
  rw [getLsbD_get f m a hj, getLsbD_get f m' a hj]
  exact h _ ⟨by omega, by omega⟩

/-- **The bits after setting a field.** -/
theorem bitAt_set (f : Field) (v : BitVec f.len) (m : Mem) (a i : ℕ) :
    bitAt (f.set v m a) a i =
      if f.Has i then v.getLsbD (f.start + f.len - 1 - i) else bitAt m a i := by
  rw [bitAt, set, if_pos (Nat.le_add_right a _), getLsbD_ofBits,
    show 8 * (a + i / 8 - a) + (8 - 1 - (7 - i % 8)) = i by omega]
  simp [show 7 - i % 8 < 8 by omega]

theorem set_before (f : Field) (v : BitVec f.len) (m : Mem) {x : ℕ} (hx : x < a) :
    f.set v m a x = m x := if_neg (by omega)

/-- Setting a field changes no other bit. -/
theorem bitAt_set_of_not_has (v : BitVec f.len) (m : Mem) (a : ℕ) {i : ℕ} (hi : ¬f.Has i) :
    bitAt (f.set v m a) a i = bitAt m a i := by
  rw [bitAt_set, if_neg hi]

/-- Fields apart share no bit. -/
theorem Apart.not_has (h : f.Apart g) {i : ℕ} (hi : f.Has i) : ¬g.Has i := by
  rintro ⟨hlo, hhi⟩
  obtain ⟨hlo', hhi'⟩ := hi
  rcases h with h | h <;> omega

/-! ### Reading and setting -/

/-- **What is set is got.** -/
theorem get_set (f : Field) (v : BitVec f.len) (m : Mem) (a : ℕ) :
    f.get (f.set v m a) a = v := by
  refine BitVec.eq_of_getLsbD_eq fun j hj => ?_
  rw [getLsbD_get _ _ _ hj, bitAt_set, if_pos ⟨by omega, by omega⟩,
    show f.start + f.len - 1 - (f.start + f.len - 1 - j) = j by omega]

/-- **A field apart keeps its value.** -/
theorem get_set_of_apart (h : f.Apart g) (v : BitVec g.len) (m : Mem) (a : ℕ) :
    f.get (g.set v m a) a = f.get m a :=
  get_congr fun _ hi => bitAt_set_of_not_has v m a (h.not_has hi)

/-- **What is got can be set back**, and nothing changes. -/
theorem set_get (f : Field) (m : Mem) (a : ℕ) : f.set (f.get m a) m a = m := by
  refine mem_ext (fun x hx => set_before _ _ _ hx) fun i => ?_
  rw [bitAt_set]
  split
  · rename_i hi
    obtain ⟨hlo, hhi⟩ := hi
    rw [getLsbD_get f m a (by omega),
      show f.start + f.len - 1 - (f.start + f.len - 1 - i) = i by omega]
  · rfl

/-- Setting a field changes nothing exactly when it has the value already. -/
theorem set_eq_self_iff (v : BitVec f.len) : f.set v m a = m ↔ f.get m a = v := by
  constructor
  · intro h
    rw [← h, get_set]
  · rintro rfl
    exact set_get f m a

/-- **Fields apart are set in either order.** -/
theorem set_comm_of_apart (h : f.Apart g) (v : BitVec f.len) (v' : BitVec g.len) (m : Mem)
    (a : ℕ) : f.set v (g.set v' m a) a = g.set v' (f.set v m a) a := by
  refine mem_ext (a := a) (fun x hx => ?_) fun i => ?_
  · rw [set_before _ _ _ hx, set_before _ _ _ hx, set_before _ _ _ hx, set_before _ _ _ hx]
  · simp only [bitAt_set]
    by_cases hi : f.Has i
    · rw [if_pos hi, if_pos hi, if_neg (h.not_has hi)]
    · rw [if_neg hi, if_neg hi]

/-- **A field of two halves is set** by setting one after the other. -/
theorem set_add (s l₁ l₂ : ℕ) (v₁ : BitVec l₁) (v₂ : BitVec l₂) (m : Mem) (a : ℕ) :
    set ⟨s, l₁ + l₂⟩ (v₁ ++ v₂) m a = set ⟨s + l₁, l₂⟩ v₂ (set ⟨s, l₁⟩ v₁ m a) a := by
  refine mem_ext (a := a) (fun x hx => ?_) fun i => ?_
  · rw [set_before _ _ _ hx, set_before _ _ _ hx, set_before _ _ _ hx]
  · rw [bitAt_set, bitAt_set, bitAt_set, BitVec.getLsbD_append]
    have hhas : ∀ s l, Has ⟨s, l⟩ i ↔ s ≤ i ∧ i < s + l := fun _ _ => Iff.rfl
    by_cases hin : s ≤ i ∧ i < s + (l₁ + l₂)
    · rw [if_pos ((hhas _ _).mpr hin)]
      by_cases hsecond : s + l₁ ≤ i
      · rw [if_pos (by simp only; omega), if_pos ((hhas _ _).mpr ⟨hsecond, by omega⟩)]
        exact congrArg _ (by simp only; omega)
      · rw [if_neg (by simp only; omega), if_neg fun h => hsecond ((hhas _ _).mp h).1,
          if_pos ((hhas _ _).mpr ⟨hin.1, by omega⟩)]
        exact congrArg _ (by simp only; omega)
    · rw [if_neg (mt (hhas _ _).mp hin), if_neg (mt (hhas _ _).mp (by omega)),
        if_neg (mt (hhas _ _).mp (by omega))]

/-! ### Fields as numbers and as bytes -/

/-- A field of two halves. -/
theorem get_add (s l₁ l₂ : ℕ) (m : Mem) (a : ℕ) :
    get ⟨s, l₁ + l₂⟩ m a = get ⟨s, l₁⟩ m a ++ get ⟨s + l₁, l₂⟩ m a := by
  refine BitVec.eq_of_getLsbD_eq fun j (hj : j < l₁ + l₂) => ?_
  rw [getLsbD_get _ _ _ hj, BitVec.getLsbD_append]
  by_cases hlow : j < l₂
  · rw [if_pos hlow, getLsbD_get ⟨s + l₁, l₂⟩ _ _ hlow]
    exact congrArg _ (by simp only; omega)
  · rw [if_neg hlow, getLsbD_get ⟨s, l₁⟩ _ _ (by simp only; omega)]
    exact congrArg _ (by simp only; omega)

/-- **The number in a field of two halves.** -/
theorem toNat_get_add (s l₁ l₂ : ℕ) (m : Mem) (a : ℕ) :
    (get ⟨s, l₁ + l₂⟩ m a).toNat =
      (get ⟨s, l₁⟩ m a).toNat * 2 ^ l₂ + (get ⟨s + l₁, l₂⟩ m a).toNat := by
  rw [get_add, BitVec.toNat_append, ← Nat.shiftLeft_add_eq_or_of_lt (BitVec.isLt _),
    Nat.shiftLeft_eq]

/-- **A field of whole bytes** is these bytes, the most significant one first. -/
theorem readBytes_eq_bigEndian (m : Mem) (a k n : ℕ) :
    readBytes m (a + k) n = bigEndian (get ⟨8 * k, 8 * n⟩ m a) := by
  refine List.ext_getElem (by simp [bigEndian]) fun i hi _ => ?_
  have hin : i < n := by simpa using hi
  simp only [readBytes, bigEndian, List.getElem_map, List.getElem_range]
  refine BitVec.eq_of_getLsbD_eq fun j hj => ?_
  rw [BitVec.getLsbD_extractLsb', getLsbD_get ⟨8 * k, 8 * n⟩ m a (by simp only; omega),
    getLsbD_eq_bitAt (show a ≤ a + k + i by omega) hj, decide_eq_true hj, Bool.true_and]
  exact congrArg _ (by simp only; omega)

/-- A field within bytes that were read is the field in the memory. -/
theorem get_readBytes {n o size : ℕ} {m : Mem} {base : ℕ} (hf : f.start + f.len ≤ 8 * size)
    (ho : o + size ≤ n) : f.get (ofBytes (readBytes m base n)) o = f.get m (base + o) := by
  refine BitVec.eq_of_getLsbD_eq fun j hj => ?_
  rw [getLsbD_get _ _ _ hj, getLsbD_get _ _ _ hj, bitAt, bitAt, ofBytes_readBytes _ _ (by omega),
    Nat.add_assoc]

/-! ### Fields in little-endian words -/

/-- **Storing a word sets a field**, where the field lies in the word, its bits of the word
are those of the value, and the others are as loaded. -/
theorem set_eq_store {w n k : ℕ} {v : BitVec f.len} {y : BitVec w} (hw : 8 * n = w)
    (hlo : 8 * k ≤ f.start) (hhi : f.start + f.len ≤ 8 * (k + n))
    (hy : ∀ j < w, y.getLsbD j =
      if f.Has (wordPos k j) then v.getLsbD (f.start + f.len - 1 - wordPos k j)
      else (load w n m (a + k)).getLsbD j) :
    store n y m (a + k) = f.set v m a := by
  refine mem_ext (a := a) (fun x hx => ?_) fun i => ?_
  · rw [set_before _ _ _ hx, store_of_not_mem _ _ (by omega)]
  · rw [bitAt_set, bitAt]
    by_cases hin : 8 * k ≤ i ∧ i < 8 * (k + n)
    · have hpos : wordPos k (8 * (i / 8 - k) + (7 - i % 8)) = i := by
        rw [wordPos]
        omega
      rw [store_of_mem _ _ (by omega), getLsbD_byteOf,
        show a + i / 8 - (a + k) = i / 8 - k by omega,
        decide_eq_true (by omega), Bool.true_and, hy _ (by omega), hpos]
      by_cases hi : f.Has i
      · rw [if_pos hi, if_pos hi]
      · rw [if_neg hi, if_neg hi, getLsbD_load_add (by omega) (by omega), hpos]
    · rw [store_of_not_mem _ _ (by omega), if_neg, bitAt]
      rintro ⟨hlo', hhi'⟩
      omega

end Field

end WireField
