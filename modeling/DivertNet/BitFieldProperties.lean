import DivertNet.HeaderAssignments

/-!
# Properties that are parts of a word

Where a property is less than a machine word, the accessors of the source still swap the
bytes of a whole word around it. A value that fits such a field has its bits in the lowest
byte; swapped, they are in the highest, and what is kept of them is zero
(`DivertNet.NumericProperty.StoresNothing`). Reading, the same bits arrive a byte – for a
32-bit property three bytes – too high.

So these properties agree with the protocol on the number zero and on no other, and every
theorem below is an equivalence with “that number is zero”:

| class | theorem |
|---|---|
| `TCPHeader`, reading | `DivertNet.decodesTcp_iff` |
| `TCPHeader`, assigning | `DivertNet.holdsAssigned_tcp_iff` |
| `IPHeader`, flags and fragment offset | `DivertNet.holdsFlagsWord_iff` |
| `IPv6Header`, traffic class and flow label | `DivertNet.firstWord_iff` |
-/

namespace DivertNet

open LittleEndian WireField NumericProperty

variable {k : HeaderKind}

/-! ### Values that fit -/

/-- The values assigned fit the fields of their properties. -/
def Fits (l : List (Assignment k)) : Prop := ∀ x ∈ l, x.2.toNat < 2 ^ x.1.wire.field.len

instance (l : List (Assignment k)) : Decidable (Fits l) :=
  inferInstanceAs (Decidable (∀ x ∈ l, x.2.toNat < 2 ^ x.1.wire.field.len))

/-- A value that fits `n` bits has no bit above them. -/
theorem getLsbD_of_fits {w n j : ℕ} {v : BitVec w} (hv : v.toNat < 2 ^ n) (hj : n ≤ j) :
    v.getLsbD j = false :=
  Nat.testBit_lt_two_pow (lt_of_lt_of_le hv (Nat.pow_le_pow_right Nat.two_pos hj))

/-- Cutting a value to a length it fits loses nothing. -/
theorem setWidth_setWidth_of_fits {w n : ℕ} {v : BitVec w} (hv : v.toNat < 2 ^ n) :
    (v.setWidth n).setWidth w = v := by
  refine BitVec.eq_of_getLsbD_eq fun j hj => ?_
  rw [BitVec.getLsbD_setWidth, BitVec.getLsbD_setWidth, decide_eq_true hj, Bool.true_and]
  by_cases hn : j < n
  · rw [decide_eq_true hn, Bool.true_and]
  · rw [getLsbD_of_fits hv (by omega), Bool.and_false]

/-- A number in a field fits it. -/
theorem value_lt (n : NumericProperty k) (m : Mem) (a : ℕ) :
    (n.value m a).toNat < 2 ^ n.wire.field.len := by
  rw [value, BitVec.toNat_setWidth]
  exact lt_of_le_of_lt (Nat.mod_le _ _) (BitVec.isLt _)

/-- A number in a field is that number, in a property wide enough for it. -/
theorem toNat_value {n : NumericProperty k} (h : n.wire.field.len ≤ n.wire.width) (m : Mem)
    (a : ℕ) : (n.value m a).toNat = (n.wire.field.get m a).toNat := by
  rw [value, BitVec.toNat_setWidth]
  exact Nat.mod_eq_of_lt (lt_of_lt_of_le (BitVec.isLt _) (Nat.pow_le_pow_right Nat.two_pos h))

theorem value_eq_zero_iff {n : NumericProperty k} (h : n.wire.field.len ≤ n.wire.width) (m : Mem)
    (a : ℕ) : n.value m a = 0 ↔ n.wire.field.get m a = 0 := by
  rw [← BitVec.toNat_inj, ← BitVec.toNat_inj, toNat_value h]
  rfl

/-- What a property should be fits its field, if the values assigned do. -/
theorem expected_lt {l : List (Assignment k)} (hfits : Fits l) (n : NumericProperty k) (m : Mem)
    (a : ℕ) : (n.expected l m a).toNat < 2 ^ n.wire.field.len := by
  rw [expected]
  cases hlast : Cells.last n l with
  | none => exact value_lt n m a
  | some v => exact hfits _ (Cells.mem_of_last hlast)

/-- **Values that fit are stored as they are.** -/
def NumericProperty.StoresFitting (n : NumericProperty k) : Prop :=
  ∀ v : BitVec n.wire.width, v.toNat < 2 ^ n.wire.field.len →
    (n.stored v).setWidth n.wire.width = v

/-- **Values that fit are stored as zero.** -/
def NumericProperty.StoresNothing (n : NumericProperty k) : Prop :=
  ∀ v : BitVec n.wire.width, v.toNat < 2 ^ n.wire.field.len → n.stored v = 0

/-- A property without a swap stores what fits. -/
theorem storesFitting_of_plain {n : NumericProperty k} (h : ∀ v, n.wire.writeSwap v = v) :
    n.StoresFitting := by
  intro v hv
  rw [stored, h, setWidth_setWidth_of_fits hv]

/-- The functions that exchange the bytes of a word. -/
theorem reversesBytes_byteSwap16 : ReversesBytes 2 byteSwap16 := fun x _ hj =>
  getLsbD_byteSwap16 x hj

theorem reversesBytes_byteSwap32 : ReversesBytes 4 byteSwap32 := fun x _ hj =>
  getLsbD_byteSwap32 x hj

section Reversed

variable {n w len : ℕ} {f : BitVec w → BitVec w}

/-- Exchanging the bytes moves the lowest one out of a short field. -/
theorem setWidth_reversed (hf : ReversesBytes n f) (hn : 2 ≤ n) (hw : 8 * n = w)
    (hlen : len ≤ 8) {v : BitVec w} (hv : v.toNat < 2 ^ len) : (f v).setWidth len = 0 := by
  refine BitVec.eq_of_getLsbD_eq fun j hj => ?_
  rw [BitVec.getLsbD_setWidth, hf v j (by omega), getLsbD_of_fits hv (by omega), Bool.and_false]
  exact BitVec.getLsbD_zero.symm

/-- **A number of at most eight bits is reversed to itself only if it is zero.** -/
theorem reversed_setWidth_eq_iff (hf : ReversesBytes n f) (hn : 2 ≤ n) (hw : 8 * n = w)
    (hlen : len ≤ 8) (y : BitVec len) : f (y.setWidth w) = y.setWidth w ↔ y = 0 := by
  constructor
  · intro h
    refine BitVec.eq_of_getLsbD_eq fun j hj => ?_
    have hjw : j < w := by omega
    have hbit := hf (y.setWidth w) j hjw
    rw [h, BitVec.getLsbD_setWidth, BitVec.getLsbD_setWidth, decide_eq_true hjw, Bool.true_and,
      BitVec.getLsbD_of_ge y (8 * (n - 1 - j / 8) + j % 8) (by omega), Bool.and_false] at hbit
    exact hbit.trans BitVec.getLsbD_zero.symm
  · rintro rfl
    rw [show (0 : BitVec len).setWidth w = 0 from BitVec.setWidth_zero ..]
    refine BitVec.eq_of_getLsbD_eq fun j hj => ?_
    rw [hf 0 j hj]
    simp

end Reversed

/-- **When a field that stores nothing ends up as expected**: when the value last assigned to
its property, if there is one, is zero. -/
theorem NumericProperty.StoresNothing.value_iff {n : NumericProperty k} (h : n.StoresNothing)
    {l : List (Assignment k)} (hfits : Fits l) (m : Mem) (a : ℕ) :
    n.value (assignAll (some a) l m) a = n.expected l m a ↔
      ∀ v, Cells.last n l = some v → v = 0 := by
  rw [value_assignAll_iff]
  refine forall_congr' fun v => forall_congr' fun hlast => ?_
  rw [h v (hfits _ (Cells.mem_of_last hlast))]
  simp only [BitVec.ofNat_eq_ofNat, BitVec.setWidth_zero]
  exact eq_comm

theorem NumericProperty.StoresFitting.value_eq {n : NumericProperty k} (h : n.StoresFitting)
    {l : List (Assignment k)} (hfits : Fits l) (m : Mem) (a : ℕ) :
    n.value (assignAll (some a) l m) a = n.expected l m a :=
  (n.value_assignAll_iff a l m).mpr fun v hlast => h v (hfits _ (Cells.mem_of_last hlast))

/-! ### `TCPHeader` -/

section Tcp

open TCPHeader (Numeric)

/-- The properties whose setters swap a value that is less than a byte. -/
def swappedTcp : List Numeric := [.reserved1, .headerLength, .reserved2, .psh]

theorem storesNothing_tcp {n : Numeric} (h : n ∈ swappedTcp) : StoresNothing (k := .tcp) n := by
  simp only [swappedTcp, List.mem_cons, List.not_mem_nil, or_false] at h
  rcases h with rfl | rfl | rfl | rfl <;>
    exact fun v hv => setWidth_reversed reversesBytes_byteSwap16 le_rfl rfl (by decide) hv

theorem storesFitting_tcp {n : Numeric} (h : n ∉ swappedTcp) : StoresFitting (k := .tcp) n := by
  cases n <;>
    first
    | exact absurd (by decide) h
    | exact storesFitting_of_plain fun _ => rfl

/-- **The getters decode a TCP header**: each returns the number in its field of the
diagram. -/
def DecodesTcp (m : Mem) (a : ℕ) : Prop :=
  ∀ n : NumericProperty .tcp, n.get (some a) m = n.value m a

/-- **When the getters decode a TCP header**: exactly when its data offset and its reserved
bits are zero. -/
theorem decodesTcp_iff (m : Mem) (a : ℕ) :
    DecodesTcp m a ↔
      Numeric.headerLength.wire.field.get m a = 0 ∧ Numeric.reserved1.wire.field.get m a = 0 ∧
        Numeric.reserved2.wire.field.get m a = 0 := by
  have hswap : ∀ {len : ℕ}, len ≤ 8 → ∀ y : BitVec len,
      byteSwap16 (y.setWidth 16) = y.setWidth 16 ↔ y = 0 :=
    reversed_setWidth_eq_iff reversesBytes_byteSwap16 le_rfl rfl
  have hlength := hswap (by decide) (Numeric.headerLength.wire.field.get m a)
  have hreserved1 := hswap (by decide) (Numeric.reserved1.wire.field.get m a)
  have hreserved2 := hswap (by decide) (Numeric.reserved2.wire.field.get m a)
  constructor
  · intro h
    refine ⟨hlength.mp ?_, hreserved1.mp ?_, hreserved2.mp ?_⟩
    · exact (get_some (k := .tcp) Numeric.headerLength a m).symm.trans (h Numeric.headerLength)
    · exact (get_some (k := .tcp) Numeric.reserved1 a m).symm.trans (h Numeric.reserved1)
    · exact (get_some (k := .tcp) Numeric.reserved2 a m).symm.trans (h Numeric.reserved2)
  · rintro ⟨h, h₁, h₂⟩ n
    rw [get_some]
    cases n with
    | headerLength => exact hlength.mpr h
    | reserved1 => exact hreserved1.mpr h₁
    | reserved2 => exact hreserved2.mpr h₂
    | _ => rfl

/-- The header of a segment without options: its data offset is five. -/
def plainTcpHeader : Mem :=
  ofBytes [0xC3, 0x7E, 0, 80, 0, 0, 0, 1, 0, 0, 0, 2, 0x50, 0x10, 0xFF, 0xFF, 0, 0, 0, 0]

/-- **A header of five words is read as one of 1280.** -/
theorem not_decodesTcp_plain :
    ¬DecodesTcp plainTcpHeader 0 ∧
      NumericProperty.get (k := .tcp) Numeric.headerLength (some 0) plainTcpHeader = 1280 :=
  ⟨fun h => absurd (h Numeric.headerLength) (by decide), by decide⟩

/-- **The assignments arrive**: after them every field of the TCP header holds the value last
assigned to its property, or what it held before. -/
def HoldsAssigned (a : ℕ) (l : List (Assignment .tcp)) (m : Mem) : Prop :=
  ∀ n : NumericProperty .tcp, n.value (assignAll (some a) l m) a = n.expected l m a

/-- **When assignments to a TCP header arrive**: for every header and every sequence of
values that fit, exactly when the value last assigned to each of `Reserved1`, `HeaderLength`,
`Reserved2` and `Psh`, if there is one, is zero. -/
theorem holdsAssigned_tcp_iff (a : ℕ) {l : List (Assignment .tcp)} (hfits : Fits l) (m : Mem) :
    HoldsAssigned a l m ↔ ∀ n ∈ swappedTcp, ∀ v, Cells.last n l = some v → v = 0 := by
  constructor
  · exact fun h n hn => ((storesNothing_tcp hn).value_iff hfits m a).mp (h n)
  · intro h n
    by_cases hn : n ∈ swappedTcp
    · exact ((storesNothing_tcp hn).value_iff hfits m a).mpr (h n hn)
    · exact (storesFitting_tcp hn).value_eq hfits m a

/-- Ports and flags arrive. -/
theorem holdsAssigned_tcp_fin :
    HoldsAssigned 0 [⟨Numeric.fin, 1⟩, ⟨Numeric.sourcePort, 443⟩, ⟨Numeric.fin, 0⟩]
      plainTcpHeader := by
  refine (holdsAssigned_tcp_iff 0 (by decide) plainTcpHeader).mpr fun n hn v hlast => ?_
  have hnone : ∀ n ∈ swappedTcp, Cells.last n
      ([⟨Numeric.fin, 1⟩, ⟨Numeric.sourcePort, 443⟩, ⟨Numeric.fin, 0⟩] :
        List (Assignment .tcp)) = none := by decide
  exact nomatch (hnone n hn).symm.trans hlast

/-- **`Psh` cannot be set, and `HeaderLength` becomes zero.** -/
theorem not_holdsAssigned_tcp_psh :
    ¬HoldsAssigned 0 [⟨Numeric.psh, 1⟩] plainTcpHeader ∧
      ¬HoldsAssigned 0 [⟨Numeric.headerLength, 5⟩] plainTcpHeader :=
  ⟨fun h => absurd (h Numeric.psh) (by decide),
    fun h => absurd (h Numeric.headerLength) (by decide)⟩

end Tcp

/-! ### The flags and the fragment offset of `IPHeader` -/

section FlagsWord

open IPHeader (Numeric)

/-- The flags of the word. -/
def flags : List Numeric := [.reserved, .df, .mf]

/-- **The flags-and-offset word** of the IPv4 header at `a`. -/
def flagsWord (m : Mem) (a : ℕ) : BitVec 16 := Field.get ⟨48, 16⟩ m a

/-- The number the word should be: three flags, and thirteen bits of offset. -/
def flagsNumber (value : Numeric → ℕ) : ℕ :=
  value .reserved * 2 ^ 15 + value .df * 2 ^ 14 + value .mf * 2 ^ 13 + value .fragOff

/-- **The word is made of the four fields.** -/
theorem toNat_flagsWord (m : Mem) (a : ℕ) :
    (flagsWord m a).toNat =
      flagsNumber fun n => (NumericProperty.value (k := .ip) n m a).toNat := by
  have hreserved := toNat_value (k := .ip) (n := Numeric.reserved) (by decide) m a
  have hdf := toNat_value (k := .ip) (n := Numeric.df) (by decide) m a
  have hmf := toNat_value (k := .ip) (n := Numeric.mf) (by decide) m a
  have hfragOff := toNat_value (k := .ip) (n := Numeric.fragOff) (by decide) m a
  rw [flagsNumber, hreserved, hdf, hmf, hfragOff, flagsWord]
  refine (Field.toNat_get_add 48 1 15 m a).trans ?_
  rw [Field.toNat_get_add 49 1 14 m a, Field.toNat_get_add 50 1 13 m a, ← add_assoc, ← add_assoc]
  rfl

theorem storesNothing_flag {n : Numeric} (h : n ∈ flags) : StoresNothing (k := .ip) n := by
  simp only [flags, List.mem_cons, List.not_mem_nil, or_false] at h
  rcases h with rfl | rfl | rfl <;>
    exact fun v hv => setWidth_reversed reversesBytes_byteSwap16 le_rfl rfl (by decide) hv

/-- **A flag is read as zero, or as a number that is none**: the bit arrives a byte too
high. -/
theorem readSwap_flag {n : Numeric} (h : n ∈ flags) :
    n.wire.readSwap 0 = 0 ∧
      ∀ v : BitVec n.wire.width, v.toNat < 2 ^ n.wire.field.len →
        (n.wire.readSwap v).setWidth n.wire.field.len = 0 := by
  simp only [flags, List.mem_cons, List.not_mem_nil, or_false] at h
  rcases h with rfl | rfl | rfl <;>
    exact ⟨rfl, fun v hv =>
      setWidth_reversed reversesBytes_byteSwap16 le_rfl rfl (by decide) hv⟩

/-- **The flags and the offset hold what is assigned**: after the assignments the word is made
of the expected values, and the four getters return them. -/
def HoldsFlagsWord (a : ℕ) (l : List (Assignment .ip)) (m : Mem) : Prop :=
  (flagsWord (assignAll (some a) l m) a).toNat =
      flagsNumber (fun n => (NumericProperty.expected (k := .ip) n l m a).toNat) ∧
    ∀ n ∈ Numeric.fragOff :: flags,
      NumericProperty.get (k := .ip) n (some a) (assignAll (some a) l m) =
        NumericProperty.expected (k := .ip) n l m a

/-- **When the flags and the offset hold what is assigned**: for every header and every
sequence of values that fit, in any order, exactly when the three flags should be zero. -/
theorem holdsFlagsWord_iff (a : ℕ) {l : List (Assignment .ip)} (hfits : Fits l) (m : Mem) :
    HoldsFlagsWord a l m ↔
      ∀ n ∈ flags, NumericProperty.expected (k := .ip) n l m a = 0 := by
  constructor
  · -- what a getter returns has no low bit, and what is expected has no other
    rintro ⟨-, hget⟩ n hn
    have hread := hget n (List.mem_cons_of_mem _ hn)
    have hlow := (readSwap_flag hn).2 _ (value_lt (k := .ip) n (assignAll (some a) l m) a)
    have hcut := setWidth_setWidth_of_fits (expected_lt (k := .ip) hfits n m a)
    rw [NumericProperty.get_some (k := .ip) n a (assignAll (some a) l m)] at hread
    rw [← hcut, ← hread]
    exact (congrArg _ hlow).trans (BitVec.setWidth_zero ..)
  · intro hzero
    have hflag : ∀ n ∈ flags, NumericProperty.value (k := .ip) n (assignAll (some a) l m) a =
        NumericProperty.expected (k := .ip) n l m a := by
      intro n hn
      refine ((storesNothing_flag hn).value_iff hfits m a).mpr fun v hlast => ?_
      exact (congrArg (Option.getD · _) hlast).symm.trans (hzero n hn)
    have hfragOff : NumericProperty.value (k := .ip) Numeric.fragOff (assignAll (some a) l m) a =
        NumericProperty.expected (k := .ip) Numeric.fragOff l m a :=
      (storesFitting_of_plain fun _ => rfl).value_eq hfits m a
    refine ⟨?_, fun n hn => ?_⟩
    · rw [toNat_flagsWord, flagsNumber, flagsNumber, hfragOff, hflag .reserved (by decide),
        hflag .df (by decide), hflag .mf (by decide)]
    · refine (NumericProperty.get_some (k := .ip) n a _).trans ?_
      rcases List.mem_cons.mp hn with rfl | hn
      · exact hfragOff
      · rw [hflag n hn, hzero n hn]
        exact (readSwap_flag hn).1

/-- An IPv4 header with the flag `MF`. -/
def fragmentHeader : Mem :=
  ofBytes [0x45, 0, 0, 20, 0, 1, 0x20, 0, 64, 6, 0, 0, 10, 0, 0, 1, 10, 0, 0, 2]

/-- **`MF` is cleared by setting it, and read as 256.** -/
theorem not_holdsFlagsWord_mf :
    ¬HoldsFlagsWord 0 [⟨Numeric.mf, 1⟩] fragmentHeader ∧ ¬HoldsFlagsWord 0 [] fragmentHeader :=
  ⟨fun h => absurd h.1 (by decide), fun h => absurd (h.2 Numeric.mf (by decide)) (by decide)⟩

/-- The last fragment of a datagram. -/
theorem holdsFlagsWord_last :
    HoldsFlagsWord 0 [⟨Numeric.mf, 0⟩, ⟨Numeric.fragOff, 185⟩] fragmentHeader :=
  (holdsFlagsWord_iff 0 (by decide) fragmentHeader).mpr (by decide)

end FlagsWord

/-! ### Traffic class and flow label of `IPv6Header` -/

section FirstWord

open IPv6Header (Numeric)

/-- A word without a bit is zero. -/
theorem eq_zero_of_getLsbD {w : ℕ} {x : BitVec w} (h : ∀ j < w, x.getLsbD j = false) : x = 0 :=
  BitVec.eq_of_getLsbD_eq fun j hj => (h j hj).trans BitVec.getLsbD_zero.symm

/-- The bits of a flow label that was read. -/
theorem getLsbD_flowLabel_readSwap (x : BitVec 32) {j : ℕ} (hj : j < 32) :
    (byteSwap32 (swapLow x)).getLsbD j =
      x.getLsbD (if j < 8 then 24 + j else if j < 16 then 8 + j else j - 16) := by
  rw [getLsbD_byteSwap32 _ hj, getLsbD_swapLow _ (by omega)]
  refine congrArg _ ?_
  split_ifs <;> omega

/-- The bits of a flow label that is stored. -/
theorem getLsbD_flowLabel_writeSwap (x : BitVec 32) {j : ℕ} (hj : j < 20) :
    (swapLow (byteSwap32 x)).getLsbD j = x.getLsbD (if j < 16 then 16 + j else j - 8) := by
  rw [getLsbD_swapLow _ (by omega)]
  refine (getLsbD_byteSwap32 x (by split <;> omega)).trans (congrArg _ ?_)
  split <;> omega

/-- **A flow label is read as itself only if it is zero.** -/
theorem flowLabel_readSwap_eq_iff {x : BitVec 32} (hx : x.toNat < 2 ^ 20) :
    byteSwap32 (swapLow x) = x ↔ x = 0 := by
  constructor
  · intro h
    have hbit : ∀ j < 32, x.getLsbD j =
        x.getLsbD (if j < 8 then 24 + j else if j < 16 then 8 + j else j - 16) := by
      intro j hj
      rw [← getLsbD_flowLabel_readSwap x hj, h]
    -- the low byte comes from above the label, the next two from the one before
    have hlow : ∀ j < 8, x.getLsbD j = false := fun j hj => by
      rw [hbit j (by omega), if_pos hj, getLsbD_of_fits hx (by omega)]
    have hhigh : ∀ j < 8, x.getLsbD (16 + j) = false := fun j hj => by
      rw [hbit _ (by omega), if_neg (by omega), if_neg (by omega), Nat.add_sub_cancel_left,
        hlow j hj]
    have hmid : ∀ j < 8, x.getLsbD (8 + j) = false := fun j hj => by
      rw [hbit _ (by omega), if_neg (by omega), if_pos (by omega), ← add_assoc, hhigh j hj]
    refine eq_zero_of_getLsbD fun j hj => ?_
    by_cases h24 : j < 24
    · rcases (by omega : j < 8 ∨ j = 8 + (j - 8) ∧ j < 16 ∨ j = 16 + (j - 16) ∧ 16 ≤ j) with
        h8 | ⟨h8, h16⟩ | ⟨h16, -⟩
      · exact hlow j h8
      · rw [h8]
        exact hmid _ (by omega)
      · rw [h16]
        exact hhigh _ (by omega)
    · exact getLsbD_of_fits hx (by omega)
  · rintro rfl
    rfl

/-- **A flow label is stored as itself only if it is zero.** -/
theorem flowLabel_writeSwap_eq_iff {x : BitVec 32} (hx : x.toNat < 2 ^ 20) :
    ((swapLow (byteSwap32 x)).setWidth 20).setWidth 32 = x ↔ x = 0 := by
  constructor
  · intro h
    have hbit : ∀ j < 20, x.getLsbD j = x.getLsbD (if j < 16 then 16 + j else j - 8) := by
      intro j hj
      rw [← getLsbD_flowLabel_writeSwap x hj]
      conv_lhs => rw [← h]
      rw [BitVec.getLsbD_setWidth, BitVec.getLsbD_setWidth, decide_eq_true hj,
        decide_eq_true (by omega : j < 32), Bool.true_and, Bool.true_and]
    -- the middle byte comes from above the label, the nibble from it, the low byte from that
    have hmid : ∀ j < 8, x.getLsbD (8 + j) = false := fun j hj => by
      rw [hbit _ (by omega), if_pos (by omega), getLsbD_of_fits hx (by omega)]
    have hhigh : ∀ j, x.getLsbD (16 + j) = false := fun j => by
      by_cases hj : j < 4
      · rw [hbit _ (by omega), if_neg (by omega), show 16 + j - 8 = 8 + j by omega,
          hmid j (by omega)]
      · exact getLsbD_of_fits hx (by omega)
    refine eq_zero_of_getLsbD fun j _ => ?_
    by_cases hj : j < 16
    · rw [hbit j (by omega), if_pos hj, hhigh]
    · rw [show j = 16 + (j - 16) by omega, hhigh]
  · rintro rfl
    rfl

theorem storesNothing_trafficClass :
    StoresNothing (k := .ipv6) Numeric.trafficClass :=
  fun _ hv => setWidth_reversed reversesBytes_byteSwap32 (by decide) rfl le_rfl hv

/-- **The getters decode the first word**: they return the traffic class and the flow label
of the diagram. -/
def DecodesFirstWord (m : Mem) (a : ℕ) : Prop :=
  ∀ n ∈ [Numeric.trafficClass, Numeric.flowLabel],
    NumericProperty.get (k := .ipv6) n (some a) m = NumericProperty.value (k := .ipv6) n m a

/-- **Both assignments arrive**: made in either order, they leave a header with that traffic
class, that flow label and the version it had. -/
def HoldsFirstWord (v w : BitVec 32) (m : Mem) (a : ℕ) : Prop :=
  ∀ l : List (Assignment .ipv6),
    l = [⟨Numeric.trafficClass, v⟩, ⟨Numeric.flowLabel, w⟩] ∨
      l = [⟨Numeric.flowLabel, w⟩, ⟨Numeric.trafficClass, v⟩] →
    NumericProperty.value (k := .ipv6) Numeric.trafficClass (assignAll (some a) l m) a = v ∧
      NumericProperty.value (k := .ipv6) Numeric.flowLabel (assignAll (some a) l m) a = w ∧
      NumericProperty.value (k := .ipv6) Numeric.version (assignAll (some a) l m) a =
        NumericProperty.value (k := .ipv6) Numeric.version m a

theorem decodesFirstWord_iff (m : Mem) (a : ℕ) :
    DecodesFirstWord m a ↔
      Numeric.trafficClass.wire.field.get m a = 0 ∧ Numeric.flowLabel.wire.field.get m a = 0 := by
  have hclass : NumericProperty.get (k := .ipv6) Numeric.trafficClass (some a) m =
      NumericProperty.value (k := .ipv6) Numeric.trafficClass m a ↔
        Numeric.trafficClass.wire.field.get m a = 0 :=
    (Eq.congr_left (NumericProperty.get_some (k := .ipv6) Numeric.trafficClass a m)).trans
      (reversed_setWidth_eq_iff reversesBytes_byteSwap32 (by decide) rfl le_rfl _)
  have hlabel : NumericProperty.get (k := .ipv6) Numeric.flowLabel (some a) m =
      NumericProperty.value (k := .ipv6) Numeric.flowLabel m a ↔
        Numeric.flowLabel.wire.field.get m a = 0 := by
    refine (Eq.congr_left (NumericProperty.get_some (k := .ipv6) Numeric.flowLabel a m)).trans ?_
    refine (flowLabel_readSwap_eq_iff (value_lt (k := .ipv6) Numeric.flowLabel m a)).trans ?_
    exact value_eq_zero_iff (k := .ipv6) (n := Numeric.flowLabel) (by decide) m a
  rw [← hclass, ← hlabel]
  simp [DecodesFirstWord]

theorem holdsFirstWord_iff {v w : BitVec 32} (hv : v.toNat < 2 ^ 8) (hw : w.toNat < 2 ^ 20)
    (m : Mem) (a : ℕ) : HoldsFirstWord v w m a ↔ v = 0 ∧ w = 0 := by
  -- what the fields end up with does not depend on the order
  have hvalue : ∀ l : List (Assignment .ipv6),
      l = [⟨Numeric.trafficClass, v⟩, ⟨Numeric.flowLabel, w⟩] ∨
        l = [⟨Numeric.flowLabel, w⟩, ⟨Numeric.trafficClass, v⟩] →
      NumericProperty.value (k := .ipv6) Numeric.trafficClass (assignAll (some a) l m) a =
          ((byteSwap32 v).setWidth 8).setWidth 32 ∧
        NumericProperty.value (k := .ipv6) Numeric.flowLabel (assignAll (some a) l m) a =
          ((swapLow (byteSwap32 w)).setWidth 20).setWidth 32 ∧
        NumericProperty.value (k := .ipv6) Numeric.version (assignAll (some a) l m) a =
          NumericProperty.value (k := .ipv6) Numeric.version m a := by
    rintro l (rfl | rfl) <;>
      exact ⟨congrArg (BitVec.setWidth 32)
          (field_assignAll (k := .ipv6) Numeric.trafficClass a _ m),
        congrArg (BitVec.setWidth 32) (field_assignAll (k := .ipv6) Numeric.flowLabel a _ m),
        congrArg (BitVec.setWidth 8) (field_assignAll (k := .ipv6) Numeric.version a _ m)⟩
  have hclass : ((byteSwap32 v).setWidth 8).setWidth 32 = 0 :=
    (congrArg (BitVec.setWidth 32) (storesNothing_trafficClass v hv)).trans
      (BitVec.setWidth_zero ..)
  rw [← flowLabel_writeSwap_eq_iff hw]
  constructor
  · intro h
    obtain ⟨htc, hfl, -⟩ := h _ (Or.inl rfl)
    obtain ⟨htc', hfl', -⟩ := hvalue _ (Or.inl rfl)
    exact ⟨(htc.symm.trans htc').trans hclass, hfl'.symm.trans hfl⟩
  · rintro ⟨rfl, hfl⟩ l hl
    obtain ⟨htc', hfl', hversion⟩ := hvalue l hl
    exact ⟨htc'.trans hclass, hfl'.trans hfl, hversion⟩

/-- **When the first word of an IPv6 header is handled as its diagram says**: it is read
correctly exactly when its traffic class and its flow label are zero, and values that fit are
assigned correctly, in either order, exactly when both are zero. -/
theorem firstWord_iff (m : Mem) (a : ℕ) {v w : BitVec 32} (hv : v.toNat < 2 ^ 8)
    (hw : w.toNat < 2 ^ 20) :
    (DecodesFirstWord m a ↔ Numeric.trafficClass.wire.field.get m a = 0 ∧
        Numeric.flowLabel.wire.field.get m a = 0) ∧
      (HoldsFirstWord v w m a ↔ v = 0 ∧ w = 0) :=
  ⟨decodesFirstWord_iff m a, holdsFirstWord_iff hv hw m a⟩

/-- An IPv6 header with the traffic class 46 and the flow label 74565. -/
def labelledHeader : Mem := ofBytes [0x62, 0xE1, 0x23, 0x45, 0, 0, 59, 64]

/-- **The traffic class cannot be set and is read as a number above 2^24; the flow label goes
wrong both ways.** -/
theorem not_firstWord_labelled :
    ¬DecodesFirstWord labelledHeader 0 ∧ ¬HoldsFirstWord 46 0 labelledHeader 0 ∧
      ¬HoldsFirstWord 0 1 labelledHeader 0 := by
  refine ⟨fun h => absurd (h .trafficClass (by decide)) (by decide), fun h => ?_, fun h => ?_⟩
  · exact absurd (congrArg BitVec.toNat (h _ (Or.inl rfl)).1) (by decide)
  · exact absurd (congrArg BitVec.toNat (h _ (Or.inl rfl)).2.1) (by decide)

/-- The best-effort class and no label. -/
theorem firstWord_zero :
    DecodesFirstWord (ofBytes [0x60, 0, 0, 0, 0, 0, 59, 64]) 0 ∧
      HoldsFirstWord 0 0 labelledHeader 0 :=
  ⟨(firstWord_iff (ofBytes [0x60, 0, 0, 0, 0, 0, 59, 64]) 0 (v := 0) (w := 0) (by decide)
      (by decide)).1.mpr (by decide),
    (firstWord_iff labelledHeader 0 (by decide) (by decide)).2.mpr ⟨rfl, rfl⟩⟩

end FirstWord

end DivertNet
