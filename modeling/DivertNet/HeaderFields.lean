import DivertNet.Headers
import DivertNet.Library.Cells
import DivertNet.Library.WireField

/-!
# The numeric properties and the fields of the protocol diagrams

`DivertNet.Headers` has the numeric properties as the source computes them: loads of
little-endian words, masks, shifts and byte swaps. This file says what they come to, in
the terms of the protocols: which field of the header's diagram a property is about, and
what happens to the value on its way.

`DivertNet.Property.OnWire` is that statement. A property reads its field as a number of
its own width and passes it through one function, and it assigns by passing the value
through another and setting the field to what fits in. For most properties both
functions are the identity. The others are these.

| properties | read through | assigned through |
|---|---|---|
| `MF`, `DF` and `Reserved` of `IPHeader` | a byte swap | a byte swap |
| `Reserved1`, `HeaderLength`, `Reserved2` of `TCPHeader` | a byte swap | a byte swap |
| `Psh` of `TCPHeader` | the identity | a byte swap |
| `TrafficClass` of `IPv6Header` | a byte swap | a byte swap |
| `FlowLabel` of `IPv6Header` | two byte swaps | two byte swaps |

A `DivertNet.NumericProperty` is one of the forty-six properties, and
`DivertNet.NumericProperty.onWire` connects each of them to its row. Everything that is
said about assignments and reads elsewhere goes through it.
-/

namespace DivertNet

open LittleEndian WireField

/-! ### A property and its field -/

section OnWire

variable {size w : ℕ}

/-- **A property is about a field of the diagram**: it reads the field through `rd`, and
assigns to it what `wr` makes of the value, cut to the length of the field. -/
structure Property.OnWire (p : Property size w) (f : Field) (rd wr : BitVec w → BitVec w) :
    Prop where
  read_eq : ∀ m a, p.read m a = rd ((f.get m a).setWidth w)
  write_eq : ∀ v m a, p.write v m a = f.set ((wr v).setWidth f.len) m a

/-- The bits of a field as a number of another width. -/
theorem getLsbD_get_setWidth (f : Field) (m : Mem) (a : ℕ) {j : ℕ} (hj : j < w) :
    ((f.get m a).setWidth w).getLsbD j =
      if j < f.len then bitAt m a (f.start + f.len - 1 - j) else false := by
  rw [BitVec.getLsbD_setWidth, decide_eq_true hj, Bool.true_and]
  split
  · rename_i hlen
    exact f.getLsbD_get m a hlen
  · rename_i hlen
    exact BitVec.getLsbD_of_ge _ _ (by omega)

/-- The function exchanges the bytes of a word of `n` bytes, end for end. -/
def ReversesBytes (n : ℕ) (f : BitVec w → BitVec w) : Prop :=
  ∀ x, ∀ j < w, (f x).getLsbD j = x.getLsbD (8 * (n - 1 - j / 8) + j % 8)

/-- **A field of whole bytes**, loaded and stored end for end: a big-endian number. -/
theorem onWire_reversed {n off : ℕ} (hoff : off + n ≤ size) (hw : 8 * n = w)
    {f : BitVec w → BitVec w} (hf : ReversesBytes n f) :
    (Property.word w n off hoff f fun v _ => f v).OnWire ⟨8 * off, w⟩ id id where
  read_eq m a := by
    refine BitVec.eq_of_getLsbD_eq fun j hj => ?_
    rw [id, getLsbD_get_setWidth _ m a hj, if_pos hj]
    refine (hf _ j hj).trans ?_
    refine (getLsbD_load_add (by omega) (by omega)).trans (congrArg _ ?_)
    simp only [wordPos]
    omega
  write_eq v m a := by
    refine Field.set_eq_store hw le_rfl (by simp only; omega) fun j hj => ?_
    rw [if_pos ⟨by simp only [wordPos]; omega, by simp only [wordPos]; omega⟩]
    refine (hf v j hj).trans ?_
    simp only [wordPos, id, BitVec.setWidth_eq]
    exact congrArg _ (by omega)

theorem onWire_byte (off : ℕ) (hoff : off + 1 ≤ size) :
    (Property.byte off hoff : Property size 8).OnWire ⟨8 * off, 8⟩ id id :=
  onWire_reversed hoff rfl fun x j hj => by
    rw [id, show 8 * (1 - 1 - j / 8) + j % 8 = j by omega]

theorem onWire_swapped16 (off : ℕ) (hoff : off + 2 ≤ size) :
    (Property.swapped16 off hoff).OnWire ⟨8 * off, 16⟩ id id :=
  onWire_reversed hoff rfl fun x _ hj => getLsbD_byteSwap16 x hj

theorem onWire_swapped32 (off : ℕ) (hoff : off + 4 ≤ size) :
    (Property.swapped32 off hoff).OnWire ⟨8 * off, 32⟩ id id :=
  onWire_reversed hoff rfl fun x _ hj => getLsbD_byteSwap32 x hj

/-- **A bit-field within one byte of a word**, where what is read passes through `rd` and
what is assigned through `wr`. -/
theorem onWire_bitField (n off : ℕ) {lo len : ℕ} (hoff : off + n ≤ size) (hw : 8 * n = w)
    (hlen : 0 < len) (hlo : lo + len ≤ w) (hbyte : lo % 8 + len ≤ 8) (rd wr : BitVec w → BitVec w) :
    (Property.word w n off hoff (fun x => rd (getField lo len x))
      fun v x => setField lo len (wr v) x).OnWire
        ⟨8 * off + (8 * (lo / 8) + (8 - (lo % 8 + len))), len⟩ rd wr where
  read_eq m a := by
    refine congrArg rd (BitVec.eq_of_getLsbD_eq fun j hj => ?_)
    rw [getLsbD_getField _ _ _ hj, getLsbD_get_setWidth _ m a hj]
    by_cases hin : j < len
    · rw [if_pos hin, decide_eq_true hin, Bool.true_and]
      refine (getLsbD_load_add (by omega) (by omega)).trans (congrArg _ ?_)
      simp only [wordPos]
      omega
    · rw [if_neg hin, decide_eq_false hin, Bool.false_and]
  write_eq v m a := by
    refine Field.set_eq_store hw (by simp only; omega) (by simp only; omega) fun j hj => ?_
    have hcut : ∀ i < len, ((wr v).setWidth len).getLsbD i = (wr v).getLsbD i := fun i hi => by
      rw [BitVec.getLsbD_setWidth, decide_eq_true hi, Bool.true_and]
    rw [getLsbD_setField _ _ _ _ hj]
    by_cases hin : lo ≤ j ∧ j < lo + len
    · rw [if_pos hin, if_pos ⟨by simp only [wordPos]; omega, by simp only [wordPos]; omega⟩]
      refine Eq.trans (congrArg _ ?_) (hcut _ ?_).symm
      · simp only [wordPos]
        omega
      · simp only [wordPos]
        omega
    · rw [if_neg hin, if_neg]
      rintro ⟨hge, hlt⟩
      simp only [wordPos] at hge hlt
      omega

/-- A bit-field of a byte. -/
theorem onWire_byteField (off lo len : ℕ) (hoff : off + 1 ≤ size)
    (h : 0 < len ∧ lo + len ≤ 8) :
    (Property.byteField off lo len hoff).OnWire ⟨8 * off + (8 * (lo / 8) + (8 - (lo % 8 + len))),
      len⟩ id id :=
  onWire_bitField 1 off hoff rfl h.1 h.2 (by omega) id id

/-- The word of bit-fields lies in the TCP header. -/
theorem tcpFields_within : 12 + 2 ≤ HeaderKind.tcp.size := by decide

/-- A bit-field of the word of bit-fields of a TCP header. -/
theorem onWire_tcpField (lo len : ℕ) (rd wr : BitVec 16 → BitVec 16)
    (h : 0 < len ∧ lo + len ≤ 16 ∧ lo % 8 + len ≤ 8 := by decide) :
    (Property.word 16 2 12 tcpFields_within (fun x => rd (getField lo len x))
      fun v x => setField lo len (wr v) x : HeaderProperty .tcp 16).OnWire
        ⟨8 * 12 + (8 * (lo / 8) + (8 - (lo % 8 + len))), len⟩ rd wr :=
  onWire_bitField 2 12 _ rfl h.1 h.2.1 h.2.2 rd wr

end OnWire

/-! ### The flags-and-offset word of `IPHeader` -/

section FragOff0

open IPHeader hiding id

/-- Testing one bit of a word is reading a bit-field of one bit. -/
theorem getFlag_eq {bit : ℕ} (hbit : bit < 16) (x : BitVec 16) :
    getFlag (1#16 <<< bit) x = getField bit 1 x := by
  have hmask : ∀ j < 16, (x &&& 1#16 <<< bit).getLsbD j = (decide (j = bit) && x.getLsbD bit) := by
    intro j hj
    rw [BitVec.getLsbD_and, BitVec.getLsbD_shiftLeft, BitVec.getLsbD_one]
    rcases eq_or_ne j bit with rfl | hne
    · simp [hj]
    · by_cases hlt : j < bit
      · simp [hne, hlt]
      · simp [hne, hlt, show j - bit ≠ 0 by omega]
  refine BitVec.eq_of_getLsbD_eq fun j hj => ?_
  rw [getLsbD_getField _ _ _ hj, getFlag]
  by_cases hx : x.getLsbD bit = true
  · rw [if_pos, show (1 : BitVec 16) = 1#16 from rfl, BitVec.getLsbD_one]
    · rcases eq_or_ne j 0 with rfl | hne
      · simp [hx]
      · simp [hne]
    · intro h0
      have hbit' := hmask bit hbit
      rw [h0, hx] at hbit'
      simp at hbit'
  · rw [if_neg]
    · rcases eq_or_ne j 0 with rfl | hne
      · simpa using hx
      · simp [show ¬j < 1 by omega]
    · refine not_not.mpr (BitVec.eq_of_getLsbD_eq fun j hj => ?_)
      rw [hmask j hj]
      simp [hx]

/-- Replacing one bit of a word is assigning a bit-field of one bit. -/
theorem setFlag_eq {bit : ℕ} {keep : BitVec 16} (hkeep : keep = ~~~(fieldMask 16 1 <<< bit))
    (val x : BitVec 16) : setFlag bit keep val x = setField bit 1 val x := by
  rw [setFlag, setField, ← hkeep]
  rfl

/-- **A flag**: one bit, swapped on both sides. -/
theorem onWire_flag {bit : ℕ} {mask keep : BitVec 16} (hbit : bit < 8)
    (hmask : mask = 1#16 <<< bit) (hkeep : keep = ~~~(fieldMask 16 1 <<< bit)) :
    (flag bit mask keep).OnWire ⟨55 - bit, 1⟩ byteSwap16 byteSwap16 := by
  have hflag : flag bit mask keep = .word 16 2 6 (by decide)
      (fun x => byteSwap16 (getField bit 1 x)) fun v x => setField bit 1 (byteSwap16 v) x := by
    simp only [flag, hmask, getFlag_eq (show bit < 16 by omega), setFlag_eq hkeep]
  have hstart : 8 * 6 + (8 * (bit / 8) + (8 - (bit % 8 + 1))) = 55 - bit := by omega
  rw [hflag, ← hstart]
  exact onWire_bitField 2 6 _ rfl Nat.one_pos (by omega) (by omega) _ _

/-- **The fragment offset** lies in both bytes of the word, and is a big-endian number. -/
theorem onWire_fragOff : fragOff.OnWire ⟨51, 13⟩ id id where
  read_eq m a := by
    have hx : ∀ j < 16, (load 16 2 m (a + 6)).getLsbD j = bitAt m a (wordPos 6 j) :=
      fun j hj => getLsbD_load_add hj hj
    refine BitVec.eq_of_getLsbD_eq fun j hj => ?_
    rw [id, getLsbD_get_setWidth _ m a hj]
    refine (getLsbD_byteSwap16 _ hj).trans ?_
    rw [getFragOff, BitVec.getLsbD_and, hx _ (by omega)]
    interval_cases j <;> simp [wordPos]
  write_eq v m a := by
    refine Field.set_eq_store rfl (by decide) (by decide) fun j hj => ?_
    change (setFragOff (byteSwap16 v) (load 16 2 m (a + 6))).getLsbD j = _
    rw [setFragOff, BitVec.getLsbD_or, BitVec.getLsbD_and, BitVec.getLsbD_and,
      getLsbD_byteSwap16 v hj]
    interval_cases j <;> simp [Field.Has, wordPos]

end FragOff0

/-! ### The first word of `IPv6Header` -/

section FirstWord

open IPv6Header

/-- The word with its lower two bytes exchanged, as the raw half word of the flow label has
them. -/
def swapLow (x : BitVec 32) : BitVec 32 :=
  x &&& 0xFFFF0000 ||| (byteSwap16 (x.setWidth 16)).setWidth 32

theorem getLsbD_swapLow (x : BitVec 32) {j : ℕ} (hj : j < 32) :
    (swapLow x).getLsbD j = x.getLsbD (if j < 16 then 8 * (1 - j / 8) + j % 8 else j) := by
  rw [swapLow, BitVec.getLsbD_or, BitVec.getLsbD_and, BitVec.getLsbD_setWidth]
  by_cases hlow : j < 16
  · have hmask : (0xFFFF0000 : BitVec 32).getLsbD j = false := by interval_cases j <;> rfl
    rw [if_pos hlow, getLsbD_byteSwap16 _ hlow, BitVec.getLsbD_setWidth, hmask]
    simp [hj, show 8 * (1 - j / 8) + j % 8 < 16 by omega]
  · have hmask : (0xFFFF0000 : BitVec 32).getLsbD j = true := by interval_cases j <;> rfl
    have hhigh : (byteSwap16 (x.setWidth 16)).getLsbD j = false :=
      BitVec.getLsbD_of_ge _ _ (by omega)
    rw [if_neg hlow, hmask, hhigh]
    simp

@[simp] theorem swapLow_swapLow (x : BitVec 32) : swapLow (swapLow x) = x := by
  refine BitVec.eq_of_getLsbD_eq fun j hj => ?_
  rw [getLsbD_swapLow _ hj, getLsbD_swapLow _ (by split <;> omega)]
  by_cases hlow : j < 16
  · rw [if_pos hlow, if_pos (by omega)]
    exact congrArg _ (by omega)
  · rw [if_neg hlow, if_neg hlow]

theorem getLsbD_getTrafficClass (x : BitVec 32) {j : ℕ} (hj : j < 32) :
    (getTrafficClass x).getLsbD j =
      if j < 4 then x.getLsbD (12 + j) else if j < 8 then x.getLsbD (j - 4) else false := by
  rw [getTrafficClass, BitVec.getLsbD_or, BitVec.getLsbD_shiftLeft, getLsbD_getField _ _ _ hj,
    getLsbD_getField _ _ _ (show j - 4 < 32 by omega)]
  by_cases hlow : j < 4
  · simp [hlow]
  · simp [hj, hlow, show (j - 4 < 4) = (j < 8) from propext (by omega)]

theorem getLsbD_getFlowLabel (x : BitVec 32) {j : ℕ} (hj : j < 32) :
    (getFlowLabel x).getLsbD j =
      if j < 16 then x.getLsbD (16 + j) else if j < 20 then x.getLsbD (j - 8) else false := by
  rw [getFlowLabel, BitVec.getLsbD_or, BitVec.getLsbD_shiftLeft, getLsbD_getField _ _ _ hj,
    getLsbD_getField _ _ _ (show j - 16 < 32 by omega)]
  by_cases hlow : j < 16
  · simp [hlow]
  · by_cases hmid : j < 20
    · simp [hj, hlow, hmid, show j - 16 < 4 by omega, show 8 + (j - 16) = j - 8 by omega]
    · simp [hlow, hmid, show ¬j - 16 < 4 by omega]

theorem getLsbD_setTrafficClass (val x : BitVec 32) {j : ℕ} (hj : j < 32) :
    (setTrafficClass val x).getLsbD j =
      if 12 ≤ j ∧ j < 16 then val.getLsbD (j - 12)
      else if j < 4 then val.getLsbD (j + 4) else x.getLsbD j := by
  rw [setTrafficClass, getLsbD_setField _ _ _ _ hj, getLsbD_setField _ _ _ _ hj]
  interval_cases j <;> simp

theorem getLsbD_setFlowLabel (val x : BitVec 32) {j : ℕ} (hj : j < 32) :
    (setFlowLabel val x).getLsbD j =
      if 16 ≤ j then val.getLsbD (j - 16)
      else if 8 ≤ j ∧ j < 12 then val.getLsbD (j + 8) else x.getLsbD j := by
  rw [setFlowLabel, getLsbD_setField _ _ _ _ hj, getLsbD_setField _ _ _ _ hj]
  interval_cases j <;> simp

/-- **The traffic class** lies in two nibbles; the value is swapped as a 32-bit number on
both sides. -/
theorem onWire_trafficClass : trafficClass.OnWire ⟨4, 8⟩ byteSwap32 byteSwap32 where
  read_eq m a := by
    refine congrArg byteSwap32 (BitVec.eq_of_getLsbD_eq fun j hj => ?_)
    rw [getLsbD_get_setWidth _ m a hj, getLsbD_getTrafficClass _ hj]
    split
    · rw [if_pos (by simp only; omega)]
      refine (getLsbD_load_add (by omega) (by omega)).trans (congrArg _ ?_)
      simp only [wordPos]
      omega
    · split
      · refine (getLsbD_load_add (by omega) (by omega)).trans (congrArg _ ?_)
        simp only [wordPos]
        omega
      · rfl
  write_eq v m a := by
    refine Field.set_eq_store rfl (by decide) (by decide) fun j hj => ?_
    change (setTrafficClass (byteSwap32 v) (load 32 4 m (a + 0))).getLsbD j = _
    rw [getLsbD_setTrafficClass _ _ hj, BitVec.getLsbD_setWidth]
    -- the low nibble of the first byte, the high nibble of the second, or neither
    by_cases hhigh : 12 ≤ j ∧ j < 16
    · rw [if_pos hhigh, if_pos ⟨by simp only [wordPos]; omega, by simp only [wordPos]; omega⟩]
      have hpos : 4 + 8 - 1 - wordPos 0 j = j - 12 := by
        simp only [wordPos]
        omega
      simp [hpos, show j - 12 < 8 by omega]
    · rw [if_neg hhigh]
      by_cases hlow : j < 4
      · rw [if_pos hlow, if_pos ⟨by simp only [wordPos]; omega, by simp only [wordPos]; omega⟩]
        have hpos : 4 + 8 - 1 - wordPos 0 j = j + 4 := by
          simp only [wordPos]
          omega
        simp [hpos, show j + 4 < 8 by omega]
      · rw [if_neg hlow, if_neg]
        rintro ⟨hge, hlt⟩
        simp only [wordPos] at hge hlt
        omega

/-- **The flow label** is a nibble and a raw half word; the half word is not swapped, the
value is, as a 32-bit number. -/
theorem onWire_flowLabel :
    flowLabel.OnWire ⟨12, 20⟩ (fun x => byteSwap32 (swapLow x))
      fun v => swapLow (byteSwap32 v) where
  read_eq m a := by
    refine congrArg byteSwap32 (BitVec.eq_of_getLsbD_eq fun j hj => ?_)
    rw [getLsbD_swapLow _ hj, getLsbD_get_setWidth _ m a (by split <;> omega),
      getLsbD_getFlowLabel _ hj]
    by_cases hlow : j < 16
    · rw [if_pos hlow, if_pos hlow, if_pos (by simp only; omega)]
      refine (getLsbD_load_add (by omega) (by omega)).trans (congrArg _ ?_)
      simp only [wordPos]
      omega
    · rw [if_neg hlow, if_neg hlow]
      split
      · refine (getLsbD_load_add (by omega) (by omega)).trans (congrArg _ ?_)
        simp only [wordPos]
        omega
      · rfl
  write_eq v m a := by
    refine Field.set_eq_store rfl (by decide) (by decide) fun j hj => ?_
    change (setFlowLabel (byteSwap32 v) (load 32 4 m (a + 0))).getLsbD j = _
    rw [getLsbD_setFlowLabel _ _ hj, BitVec.getLsbD_setWidth]
    by_cases hhigh : 16 ≤ j
    · rw [if_pos hhigh, if_pos ⟨by simp only [wordPos]; omega, by simp only [wordPos]; omega⟩]
      have hpos : 12 + 20 - 1 - wordPos 0 j = 8 * (3 - j / 8) + j % 8 := by
        simp only [wordPos]
        omega
      simp only [hpos]
      rw [getLsbD_swapLow _ (by omega), if_pos (by omega), decide_eq_true (by omega),
        Bool.true_and]
      exact congrArg _ (by omega)
    · rw [if_neg hhigh]
      by_cases hlow : 8 ≤ j ∧ j < 12
      · rw [if_pos hlow, if_pos ⟨by simp only [wordPos]; omega, by simp only [wordPos]; omega⟩]
        have hpos : 12 + 20 - 1 - wordPos 0 j = j + 8 := by
          simp only [wordPos]
          omega
        simp only [hpos]
        rw [getLsbD_swapLow _ (by omega), if_neg (by omega), decide_eq_true (by omega),
          Bool.true_and]
      · rw [if_neg hlow, if_neg]
        rintro ⟨hge, hlt⟩
        simp only [wordPos] at hge hlt
        omega

end FirstWord

/-! ### The forty-six numeric properties -/

/-- **A numeric property with its place on the wire.** -/
structure WireProperty (size : ℕ) where
  width : ℕ
  property : Property size width
  field : Field
  readSwap : BitVec width → BitVec width
  writeSwap : BitVec width → BitVec width
  onWire : property.OnWire field readSwap writeSwap

namespace WireProperty

variable {size : ℕ}

/-- A property that is the number in its field. -/
def plain {w : ℕ} (p : Property size w) (f : Field) (h : p.OnWire f id id) : WireProperty size :=
  ⟨w, p, f, id, id, h⟩

/-- A property of 16 bits whose value is swapped on both sides of a field that is not. -/
def swapped (p : Property size 16) (f : Field) (h : p.OnWire f byteSwap16 byteSwap16) :
    WireProperty size :=
  ⟨16, p, f, byteSwap16, byteSwap16, h⟩

end WireProperty

namespace IPHeader

/-- The numeric properties of `IPHeader`. -/
inductive Numeric where
  | headerLength | version | tos | length | id | fragOff | mf | df | reserved | ttl | protocol
  | checksum
  deriving DecidableEq, Repr

/-- Their fields, in the diagram of the internet header. -/
def Numeric.wire : Numeric → WireProperty HeaderKind.ip.size
  | .version => .plain IPHeader.version ⟨0, 4⟩ (onWire_byteField 0 4 4 _ (by decide))
  | .headerLength => .plain IPHeader.headerLength ⟨4, 4⟩ (onWire_byteField 0 0 4 _ (by decide))
  | .tos => .plain IPHeader.tos ⟨8, 8⟩ (onWire_byte 1 _)
  | .length => .plain IPHeader.length ⟨16, 16⟩ (onWire_swapped16 2 _)
  | .id => .plain IPHeader.id ⟨32, 16⟩ (onWire_swapped16 4 _)
  | .reserved => .swapped IPHeader.reserved ⟨48, 1⟩ (onWire_flag (by decide) rfl rfl)
  | .df => .swapped IPHeader.df ⟨49, 1⟩ (onWire_flag (by decide) rfl rfl)
  | .mf => .swapped IPHeader.mf ⟨50, 1⟩ (onWire_flag (by decide) rfl rfl)
  | .fragOff => .plain IPHeader.fragOff ⟨51, 13⟩ onWire_fragOff
  | .ttl => .plain IPHeader.ttl ⟨64, 8⟩ (onWire_byte 8 _)
  | .protocol => .plain IPHeader.protocol ⟨72, 8⟩ (onWire_byte 9 _)
  | .checksum => .plain IPHeader.checksum ⟨80, 16⟩ (onWire_swapped16 10 _)

end IPHeader

namespace IPv6Header

/-- The numeric properties of `IPv6Header`. -/
inductive Numeric where
  | length | version | trafficClass | flowLabel | nextHeader | hopLimit
  deriving DecidableEq, Repr

/-- Their fields, in the diagram of the IPv6 header. -/
def Numeric.wire : Numeric → WireProperty HeaderKind.ipv6.size
  | .version => .plain IPv6Header.version ⟨0, 4⟩ (onWire_byteField 0 4 4 _ (by decide))
  | .trafficClass => ⟨32, IPv6Header.trafficClass, ⟨4, 8⟩, _, _, onWire_trafficClass⟩
  | .flowLabel => ⟨32, IPv6Header.flowLabel, ⟨12, 20⟩, _, _, onWire_flowLabel⟩
  | .length => .plain IPv6Header.length ⟨32, 16⟩ (onWire_swapped16 4 _)
  | .nextHeader => .plain IPv6Header.nextHeader ⟨48, 8⟩ (onWire_byte 6 _)
  | .hopLimit => .plain IPv6Header.hopLimit ⟨56, 8⟩ (onWire_byte 7 _)

end IPv6Header

namespace TCPHeader

/-- The numeric properties of `TCPHeader`. -/
inductive Numeric where
  | sourcePort | destinationPort | sequenceNumber | acknowledgmentNumber | reserved1
  | headerLength | fin | syn | rst | psh | ack | urg | reserved2 | windowSize | checksum
  | urgentPointer
  deriving DecidableEq, Repr

/-- Their fields, in the diagram of the TCP header. -/
def Numeric.wire : Numeric → WireProperty HeaderKind.tcp.size
  | .sourcePort => .plain TCPHeader.sourcePort ⟨0, 16⟩ (onWire_swapped16 0 _)
  | .destinationPort => .plain TCPHeader.destinationPort ⟨16, 16⟩ (onWire_swapped16 2 _)
  | .sequenceNumber => .plain TCPHeader.sequenceNumber ⟨32, 32⟩ (onWire_swapped32 4 _)
  | .acknowledgmentNumber =>
    .plain TCPHeader.acknowledgmentNumber ⟨64, 32⟩ (onWire_swapped32 8 _)
  | .headerLength => .swapped TCPHeader.headerLength ⟨96, 4⟩ (onWire_tcpField 4 4 _ _)
  | .reserved1 => .swapped TCPHeader.reserved1 ⟨100, 4⟩ (onWire_tcpField 0 4 _ _)
  | .reserved2 => .swapped TCPHeader.reserved2 ⟨104, 2⟩ (onWire_tcpField 14 2 _ _)
  | .urg => .plain TCPHeader.urg ⟨106, 1⟩ (onWire_tcpField 13 1 id id)
  | .ack => .plain TCPHeader.ack ⟨107, 1⟩ (onWire_tcpField 12 1 id id)
  | .psh => ⟨16, TCPHeader.psh, ⟨108, 1⟩, id, byteSwap16, onWire_tcpField 11 1 id _⟩
  | .rst => .plain TCPHeader.rst ⟨109, 1⟩ (onWire_tcpField 10 1 id id)
  | .syn => .plain TCPHeader.syn ⟨110, 1⟩ (onWire_tcpField 9 1 id id)
  | .fin => .plain TCPHeader.fin ⟨111, 1⟩ (onWire_tcpField 8 1 id id)
  | .windowSize => .plain TCPHeader.windowSize ⟨112, 16⟩ (onWire_swapped16 14 _)
  | .checksum => .plain TCPHeader.checksum ⟨128, 16⟩ (onWire_swapped16 16 _)
  | .urgentPointer => .plain TCPHeader.urgentPointer ⟨144, 16⟩ (onWire_swapped16 18 _)

end TCPHeader

namespace UDPHeader

/-- The numeric properties of `UDPHeader`. -/
inductive Numeric where
  | sourcePort | destinationPort | length | checksum
  deriving DecidableEq, Repr

/-- Their fields, in the diagram of the UDP header. -/
def Numeric.wire : Numeric → WireProperty HeaderKind.udp.size
  | .sourcePort => .plain UDPHeader.sourcePort ⟨0, 16⟩ (onWire_swapped16 0 _)
  | .destinationPort => .plain UDPHeader.destinationPort ⟨16, 16⟩ (onWire_swapped16 2 _)
  | .length => .plain UDPHeader.length ⟨32, 16⟩ (onWire_swapped16 4 _)
  | .checksum => .plain UDPHeader.checksum ⟨48, 16⟩ (onWire_swapped16 6 _)

end UDPHeader

namespace ICMPHeader

/-- The numeric properties of `ICMPHeader`. -/
inductive Numeric where
  | type | code | checksum | body
  deriving DecidableEq, Repr

/-- Their fields, in the diagram of an ICMP message. -/
def Numeric.wire : Numeric → WireProperty HeaderKind.icmp.size
  | .type => .plain ICMPHeader.type ⟨0, 8⟩ (onWire_byte 0 _)
  | .code => .plain ICMPHeader.code ⟨8, 8⟩ (onWire_byte 1 _)
  | .checksum => .plain ICMPHeader.checksum ⟨16, 16⟩ (onWire_swapped16 2 _)
  | .body => .plain ICMPHeader.body ⟨32, 32⟩ (onWire_swapped32 4 _)

end ICMPHeader

namespace ICMPv6Header

/-- The numeric properties of `ICMPv6Header`. -/
inductive Numeric where
  | type | code | checksum | body
  deriving DecidableEq, Repr

/-- Their fields, in the diagram of an ICMPv6 message. -/
def Numeric.wire : Numeric → WireProperty HeaderKind.icmpv6.size
  | .type => .plain ICMPv6Header.type ⟨0, 8⟩ (onWire_byte 0 _)
  | .code => .plain ICMPv6Header.code ⟨8, 8⟩ (onWire_byte 1 _)
  | .checksum => .plain ICMPv6Header.checksum ⟨16, 16⟩ (onWire_swapped16 2 _)
  | .body => .plain ICMPv6Header.body ⟨32, 32⟩ (onWire_swapped32 4 _)

end ICMPv6Header

/-- **The numeric properties of a header class.** -/
def NumericProperty : HeaderKind → Type
  | .ip => IPHeader.Numeric
  | .ipv6 => IPv6Header.Numeric
  | .icmp => ICMPHeader.Numeric
  | .icmpv6 => ICMPv6Header.Numeric
  | .tcp => TCPHeader.Numeric
  | .udp => UDPHeader.Numeric

namespace NumericProperty

instance : (k : HeaderKind) → DecidableEq (NumericProperty k)
  | .ip => inferInstanceAs (DecidableEq IPHeader.Numeric)
  | .ipv6 => inferInstanceAs (DecidableEq IPv6Header.Numeric)
  | .icmp => inferInstanceAs (DecidableEq ICMPHeader.Numeric)
  | .icmpv6 => inferInstanceAs (DecidableEq ICMPv6Header.Numeric)
  | .tcp => inferInstanceAs (DecidableEq TCPHeader.Numeric)
  | .udp => inferInstanceAs (DecidableEq UDPHeader.Numeric)

/-- A numeric property with its place on the wire. -/
def wire : {k : HeaderKind} → NumericProperty k → WireProperty k.size
  | .ip, n => IPHeader.Numeric.wire n
  | .ipv6, n => IPv6Header.Numeric.wire n
  | .icmp, n => ICMPHeader.Numeric.wire n
  | .icmpv6, n => ICMPv6Header.Numeric.wire n
  | .tcp, n => TCPHeader.Numeric.wire n
  | .udp, n => UDPHeader.Numeric.wire n

variable {k : HeaderKind}

/-- **No two properties of a class share a bit.** -/
theorem apart : {k : HeaderKind} → {n n' : NumericProperty k} → n ≠ n' →
    n.wire.field.Apart n'.wire.field := by
  intro k n n' h
  cases k <;> cases n <;> cases n' <;> first | exact absurd rfl h | decide

/-- **Every field lies in its header.** -/
theorem within (n : NumericProperty k) : n.wire.field.start + n.wire.field.len ≤ 8 * k.size := by
  cases k <;> cases n <;> decide

end NumericProperty

end DivertNet
