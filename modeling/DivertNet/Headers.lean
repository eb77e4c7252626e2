import DivertNet.Runtime
import Mathlib.Tactic.IntervalCases

/-!
# The header structures and their numeric properties

A header object (`IPHeader`, `IPv6Header`, `TCPHeader`, `UDPHeader`, `ICMPHeader`,
`ICMPv6Header`) holds a raw pointer to a structure of `windivert.h` inside a packet,
and each of its numeric properties reads or writes one field of that structure through
the pointer, most of them after swapping the bytes. All of them have one shape: load a
machine word at a fixed offset, decode it; to assign, load it, put the value in, store
it back.

`DivertNet.Property` is that shape, together with the two facts every raw access has to
satisfy and nothing above this file proves again: it *depends on* the bytes of the
structure only, and it *changes* no byte outside them. `DivertNet.Property.word` builds
one from a decoder and an encoder, and the properties of the six classes are listed
under the names and with the swaps the source gives them.

`DivertNet.Property.get` and `DivertNet.Property.set` add the null check every accessor
makes: without a header a read is `0` and an assignment does nothing.
-/

namespace DivertNet

open LittleEndian

/-! ### Byte swaps and bit-fields -/

/-- `ByteSwapUInt16`, the intrinsic `_byteswap_ushort`. -/
def byteSwap16 (val : BitVec 16) : BitVec 16 := val <<< 8 ||| val >>> 8

/-- `ByteSwapUInt32`. -/
def byteSwap32 (val : BitVec 32) : BitVec 32 :=
  (val &&& 0x000000FF) <<< 24 ||| (val &&& 0x0000FF00) <<< 8 |||
    (val &&& 0x00FF0000) >>> 8 ||| (val &&& 0xFF000000) >>> 24

section BitField

variable {w : ℕ}

/-- The mask of a bit-field of `len` bits. -/
def fieldMask (w len : ℕ) : BitVec w := BitVec.ofNat w (2 ^ len - 1)

/-- Reading a bit-field: `len` bits of a word, from bit `lo` on. -/
def getField (lo len : ℕ) (word : BitVec w) : BitVec w := word >>> lo &&& fieldMask w len

/-- Assigning a bit-field: the value is truncated to the width of the field, the other
bits of the word are kept. -/
def setField (lo len : ℕ) (val word : BitVec w) : BitVec w :=
  word &&& ~~~(fieldMask w len <<< lo) ||| (val &&& fieldMask w len) <<< lo

end BitField

/-- Swapping the bytes of a half word, bit by bit. -/
theorem getLsbD_byteSwap16 (x : BitVec 16) {j : ℕ} (hj : j < 16) :
    (byteSwap16 x).getLsbD j = x.getLsbD (8 * (1 - j / 8) + j % 8) := by
  rw [byteSwap16, BitVec.getLsbD_or, BitVec.getLsbD_shiftLeft, BitVec.getLsbD_ushiftRight]
  by_cases hlow : j < 8
  · simp [hj, hlow, show j / 8 = 0 by omega, show j % 8 = j by omega]
  · have hhigh : x.getLsbD (8 + j) = false := BitVec.getLsbD_of_ge _ _ (by omega)
    simp [hj, hlow, hhigh, show j / 8 = 1 by omega, show j % 8 = j - 8 by omega]

/-- Swapping the bytes of a word, bit by bit. -/
theorem getLsbD_byteSwap32 (x : BitVec 32) {j : ℕ} (hj : j < 32) :
    (byteSwap32 x).getLsbD j = x.getLsbD (8 * (3 - j / 8) + j % 8) := by
  interval_cases j <;> simp [byteSwap32]

@[simp] theorem byteSwap16_byteSwap16 (x : BitVec 16) : byteSwap16 (byteSwap16 x) = x := by
  refine BitVec.eq_of_getLsbD_eq fun j hj => ?_
  rw [getLsbD_byteSwap16 _ hj, getLsbD_byteSwap16 _ (by omega),
    show 8 * (1 - (8 * (1 - j / 8) + j % 8) / 8) + (8 * (1 - j / 8) + j % 8) % 8 = j by omega]

@[simp] theorem byteSwap32_byteSwap32 (x : BitVec 32) : byteSwap32 (byteSwap32 x) = x := by
  refine BitVec.eq_of_getLsbD_eq fun j hj => ?_
  rw [getLsbD_byteSwap32 _ hj, getLsbD_byteSwap32 _ (by omega),
    show 8 * (3 - (8 * (3 - j / 8) + j % 8) / 8) + (8 * (3 - j / 8) + j % 8) % 8 = j by omega]

section BitField

variable {w : ℕ}

theorem getLsbD_fieldMask (len : ℕ) {j : ℕ} (hj : j < w) :
    (fieldMask w len).getLsbD j = decide (j < len) := by
  rw [fieldMask, BitVec.getLsbD_ofNat, Nat.testBit_two_pow_sub_one, decide_eq_true hj,
    Bool.true_and]

/-- The bits of a bit-field. -/
theorem getLsbD_getField (lo len : ℕ) (word : BitVec w) {j : ℕ} (hj : j < w) :
    (getField lo len word).getLsbD j = (decide (j < len) && word.getLsbD (lo + j)) := by
  rw [getField, BitVec.getLsbD_and, BitVec.getLsbD_ushiftRight, getLsbD_fieldMask len hj,
    Bool.and_comm]

/-- The bits after assigning a bit-field. -/
theorem getLsbD_setField (lo len : ℕ) (val word : BitVec w) {j : ℕ} (hj : j < w) :
    (setField lo len val word).getLsbD j =
      if lo ≤ j ∧ j < lo + len then val.getLsbD (j - lo) else word.getLsbD j := by
  simp only [setField, BitVec.getLsbD_or, BitVec.getLsbD_and, BitVec.getLsbD_not,
    BitVec.getLsbD_shiftLeft, hj, decide_true, Bool.true_and]
  by_cases hlo : j < lo
  · simp [hlo, show ¬lo ≤ j by omega]
  · rw [getLsbD_fieldMask len (show j - lo < w by omega)]
    by_cases hhi : j < lo + len
    · simp [hlo, hhi, show j - lo < len by omega, show lo ≤ j by omega]
    · simp [hlo, hhi, show ¬j - lo < len by omega]

end BitField

/-! ### Raw accesses -/

/-- **A property of a header structure** of `size` bytes: how its value is read and
written through the pointer, with the two facts that make it an access to that
structure. -/
structure Property (size w : ℕ) where
  read : Mem → ℕ → BitVec w
  write : BitVec w → Mem → ℕ → Mem
  read_congr : ∀ {m a m' a'}, Agree size m a m' a' → read m a = read m' a'
  write_congr : ∀ {m a m' a'} v, Agree size m a m' a' →
    Agree size (write v m a) a (write v m' a') a'
  write_frame : ∀ v m {a x}, ¬(a ≤ x ∧ x < a + size) → write v m a x = m x

namespace Property

variable {size w : ℕ}

/-- A property kept in the `n`-byte word at offset `off`. -/
def word (W n off : ℕ) (hoff : off + n ≤ size) (dec : BitVec W → BitVec w)
    (enc : BitVec w → BitVec W → BitVec W) : Property size w where
  read m a := dec (load W n m (a + off))
  write v m a := store n (enc v (load W n m (a + off))) m (a + off)
  read_congr h := congrArg dec (load_congr (h.sub hoff))
  write_congr v h := by
    rw [load_congr (w := W) (h.sub hoff)]
    exact h.store _
  write_frame v m _ _ hx := store_of_not_mem _ m (by omega)

/-- The getter: a null header reads as zero. -/
def get (p : Property size w) (hdr : Option ℕ) (m : Mem) : BitVec w :=
  match hdr with
  | none => 0
  | some a => p.read m a

/-- The setter: a null header ignores the assignment. -/
def set (p : Property size w) (hdr : Option ℕ) (v : BitVec w) (m : Mem) : Mem :=
  match hdr with
  | none => m
  | some a => p.write v m a

@[simp] theorem get_some (p : Property size w) (a : ℕ) (m : Mem) :
    p.get (some a) m = p.read m a := rfl

@[simp] theorem set_some (p : Property size w) (a : ℕ) (v : BitVec w) (m : Mem) :
    p.set (some a) v m = p.write v m a := rfl

/-- A field of one byte, taken as it is. -/
def byte (off : ℕ) (hoff : off + 1 ≤ size) : Property size 8 :=
  word 8 1 off hoff id fun v _ => v

/-- A bit-field of a byte. -/
def byteField (off lo len : ℕ) (hoff : off + 1 ≤ size) : Property size 8 :=
  word 8 1 off hoff (getField lo len) (setField lo len)

/-- A 16-bit field, swapped on both sides. -/
def swapped16 (off : ℕ) (hoff : off + 2 ≤ size) : Property size 16 :=
  word 16 2 off hoff byteSwap16 fun v _ => byteSwap16 v

/-- A 32-bit field, swapped on both sides. -/
def swapped32 (off : ℕ) (hoff : off + 4 ≤ size) : Property size 32 :=
  word 32 4 off hoff byteSwap32 fun v _ => byteSwap32 v

/-- A raw 16-bit field, as the row scans read it. -/
def raw16 (off : ℕ) (hoff : off + 2 ≤ size) : Property size 16 :=
  word 16 2 off hoff id fun v _ => v

/-- A raw 32-bit field, as the address properties read it. -/
def raw32 (off : ℕ) (hoff : off + 4 ≤ size) : Property size 32 :=
  word 32 4 off hoff id fun v _ => v

end Property

/-! ### The six kinds of header -/

/-- The six header classes `Diversion::ParsePacket` fills. -/
inductive HeaderKind where
  | ip | ipv6 | icmp | icmpv6 | tcp | udp
  deriving DecidableEq, Repr

/-- The size of the structure a header object points to. -/
def HeaderKind.size : HeaderKind → ℕ
  | .ip => 20
  | .ipv6 => 40
  | .icmp => 8
  | .icmpv6 => 8
  | .tcp => 20
  | .udp => 8

/-- A property of the header class `k`. -/
abbrev HeaderProperty (k : HeaderKind) (w : ℕ) := Property k.size w

/-! ### `IPHeader` -/

namespace IPHeader

/-- `WINDIVERT_IPHDR_GET_FRAGOFF`. -/
def getFragOff (fragOff0 : BitVec 16) : BitVec 16 := fragOff0 &&& 0xFF1F

/-- `WINDIVERT_IPHDR_SET_FRAGOFF`. -/
def setFragOff (val fragOff0 : BitVec 16) : BitVec 16 := fragOff0 &&& 0x00E0 ||| val &&& 0xFF1F

/-- `WINDIVERT_IPHDR_GET_MF`, `_GET_DF` and `_GET_RESERVED`: whether a bit is set. -/
def getFlag (mask fragOff0 : BitVec 16) : BitVec 16 := if fragOff0 &&& mask ≠ 0 then 1 else 0

/-- `WINDIVERT_IPHDR_SET_MF`, `_SET_DF` and `_SET_RESERVED`: the lowest bit of the value
replaces one bit. -/
def setFlag (bit : ℕ) (keep val fragOff0 : BitVec 16) : BitVec 16 :=
  fragOff0 &&& keep ||| (val &&& 0x0001) <<< bit

/-- A flag of the flags-and-offset word, swapped on both sides. -/
def flag (bit : ℕ) (mask keep : BitVec 16) : HeaderProperty .ip 16 :=
  .word 16 2 6 (by decide) (fun x => byteSwap16 (getFlag mask x))
    fun v x => setFlag bit keep (byteSwap16 v) x

def headerLength : HeaderProperty .ip 8 := .byteField 0 0 4 (by decide)

def version : HeaderProperty .ip 8 := .byteField 0 4 4 (by decide)

def tos : HeaderProperty .ip 8 := .byte 1 (by decide)

def length : HeaderProperty .ip 16 := .swapped16 2 (by decide)

def id : HeaderProperty .ip 16 := .swapped16 4 (by decide)

def fragOff : HeaderProperty .ip 16 :=
  .word 16 2 6 (by decide) (fun x => byteSwap16 (getFragOff x))
    fun v x => setFragOff (byteSwap16 v) x

def mf : HeaderProperty .ip 16 := flag 5 0x0020 0xFFDF

def df : HeaderProperty .ip 16 := flag 6 0x0040 0xFFBF

def reserved : HeaderProperty .ip 16 := flag 7 0x0080 0xFF7F

def ttl : HeaderProperty .ip 8 := .byte 8 (by decide)

def protocol : HeaderProperty .ip 8 := .byte 9 (by decide)

def checksum : HeaderProperty .ip 16 := .swapped16 10 (by decide)

/-- The field `SrcAddr` of `WINDIVERT_IPHDR`. -/
def srcAddr : HeaderProperty .ip 32 := .raw32 12 (by decide)

/-- The field `DstAddr` of `WINDIVERT_IPHDR`. -/
def dstAddr : HeaderProperty .ip 32 := .raw32 16 (by decide)

end IPHeader

/-! ### `IPv6Header` -/

namespace IPv6Header

/-- `WINDIVERT_IPV6HDR_GET_TRAFFICCLASS`: the bit-field `TrafficClass0` is the low
nibble of the first byte, `TrafficClass1` the high nibble of the second. -/
def getTrafficClass (x : BitVec 32) : BitVec 32 := getField 0 4 x <<< 4 ||| getField 12 4 x

/-- `WINDIVERT_IPV6HDR_SET_TRAFFICCLASS`. -/
def setTrafficClass (val x : BitVec 32) : BitVec 32 :=
  setField 12 4 (val &&& 0xFF) (setField 0 4 ((val &&& 0xFF) >>> 4) x)

/-- `WINDIVERT_IPV6HDR_GET_FLOWLABEL`: the bit-field `FlowLabel0` is the low nibble of
the second byte, `FlowLabel1` the raw 16-bit word after it. -/
def getFlowLabel (x : BitVec 32) : BitVec 32 := getField 8 4 x <<< 16 ||| getField 16 16 x

/-- `WINDIVERT_IPV6HDR_SET_FLOWLABEL`. -/
def setFlowLabel (val x : BitVec 32) : BitVec 32 :=
  setField 16 16 (val &&& 0xFFFF) (setField 8 4 (val >>> 16 &&& 0xFF) x)

def length : HeaderProperty .ipv6 16 := .swapped16 4 (by decide)

def version : HeaderProperty .ipv6 8 := .byteField 0 4 4 (by decide)

def trafficClass : HeaderProperty .ipv6 32 :=
  .word 32 4 0 (by decide) (fun x => byteSwap32 (getTrafficClass x))
    fun v x => setTrafficClass (byteSwap32 v) x

def flowLabel : HeaderProperty .ipv6 32 :=
  .word 32 4 0 (by decide) (fun x => byteSwap32 (getFlowLabel x))
    fun v x => setFlowLabel (byteSwap32 v) x

def nextHeader : HeaderProperty .ipv6 8 := .byte 6 (by decide)

def hopLimit : HeaderProperty .ipv6 8 := .byte 7 (by decide)

/-- The word `SrcAddr[i]` of `WINDIVERT_IPV6HDR`. -/
def srcAddr (i : Fin 4) : HeaderProperty .ipv6 32 :=
  .raw32 (8 + 4 * i) (by have := i.isLt; simp only [HeaderKind.size]; omega)

/-- The word `DstAddr[i]` of `WINDIVERT_IPV6HDR`. -/
def dstAddr (i : Fin 4) : HeaderProperty .ipv6 32 :=
  .raw32 (24 + 4 * i) (by have := i.isLt; simp only [HeaderKind.size]; omega)

end IPv6Header

/-! ### `TCPHeader` -/

namespace TCPHeader

/-- A flag of the word of bit-fields, neither swapped when read nor when written. -/
def flag (lo : ℕ) : HeaderProperty .tcp 16 :=
  .word 16 2 12 (by decide) (getField lo 1) (setField lo 1)

/-- A bit-field of that word, swapped on both sides. -/
def swappedField (lo len : ℕ) : HeaderProperty .tcp 16 :=
  .word 16 2 12 (by decide) (fun x => byteSwap16 (getField lo len x))
    fun v x => setField lo len (byteSwap16 v) x

/-- The field `SrcPort` of `WINDIVERT_TCPHDR`. -/
def srcPort : HeaderProperty .tcp 16 := .raw16 0 (by decide)

/-- The field `DstPort` of `WINDIVERT_TCPHDR`. -/
def dstPort : HeaderProperty .tcp 16 := .raw16 2 (by decide)

def sourcePort : HeaderProperty .tcp 16 := .swapped16 0 (by decide)

def destinationPort : HeaderProperty .tcp 16 := .swapped16 2 (by decide)

def sequenceNumber : HeaderProperty .tcp 32 := .swapped32 4 (by decide)

def acknowledgmentNumber : HeaderProperty .tcp 32 := .swapped32 8 (by decide)

def reserved1 : HeaderProperty .tcp 16 := swappedField 0 4

def headerLength : HeaderProperty .tcp 16 := swappedField 4 4

def fin : HeaderProperty .tcp 16 := flag 8

def syn : HeaderProperty .tcp 16 := flag 9

def rst : HeaderProperty .tcp 16 := flag 10

/-- `Psh` is the one flag whose setter swaps: it is read as a bit and assigned from the
upper byte of the value. -/
def psh : HeaderProperty .tcp 16 :=
  .word 16 2 12 (by decide) (getField 11 1) fun v x => setField 11 1 (byteSwap16 v) x

def ack : HeaderProperty .tcp 16 := flag 12

def urg : HeaderProperty .tcp 16 := flag 13

def reserved2 : HeaderProperty .tcp 16 := swappedField 14 2

def windowSize : HeaderProperty .tcp 16 := .swapped16 14 (by decide)

def checksum : HeaderProperty .tcp 16 := .swapped16 16 (by decide)

def urgentPointer : HeaderProperty .tcp 16 := .swapped16 18 (by decide)

end TCPHeader

/-! ### `UDPHeader`, `ICMPHeader` and `ICMPv6Header` -/

namespace UDPHeader

/-- The field `SrcPort` of `WINDIVERT_UDPHDR`. -/
def srcPort : HeaderProperty .udp 16 := .raw16 0 (by decide)

/-- The field `DstPort` of `WINDIVERT_UDPHDR`. -/
def dstPort : HeaderProperty .udp 16 := .raw16 2 (by decide)

def sourcePort : HeaderProperty .udp 16 := .swapped16 0 (by decide)

def destinationPort : HeaderProperty .udp 16 := .swapped16 2 (by decide)

def length : HeaderProperty .udp 16 := .swapped16 4 (by decide)

def checksum : HeaderProperty .udp 16 := .swapped16 6 (by decide)

end UDPHeader

namespace ICMPHeader

def type : HeaderProperty .icmp 8 := .byte 0 (by decide)

def code : HeaderProperty .icmp 8 := .byte 1 (by decide)

def checksum : HeaderProperty .icmp 16 := .swapped16 2 (by decide)

def body : HeaderProperty .icmp 32 := .swapped32 4 (by decide)

end ICMPHeader

namespace ICMPv6Header

def type : HeaderProperty .icmpv6 8 := .byte 0 (by decide)

def code : HeaderProperty .icmpv6 8 := .byte 1 (by decide)

def checksum : HeaderProperty .icmpv6 16 := .swapped16 2 (by decide)

def body : HeaderProperty .icmpv6 32 := .swapped32 4 (by decide)

end ICMPv6Header

end DivertNet
