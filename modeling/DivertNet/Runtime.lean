import Mathlib.Data.Fin.VecNotation
import Mathlib.Data.List.OfFn
import Mathlib.Data.Fintype.Pi
import DivertNet.Library.LittleEndian

/-!
# What the wrapper takes from the managed runtime

The classes of this development are C++/CLI: they live in the common language runtime
and call into native code. This file fixes the part of the runtime they use – the
exceptions that leave a method, the managed byte array a caller passes in, and the
`System::Net::IPAddress` objects the address properties exchange.

Two things about it matter later. An `IPAddress` holds four or sixteen bytes and
nothing else, which is what `DivertNet.IPAddress` says by its two constructors; every
method that takes one has to cope with both. And a managed array has a *location*,
`DivertNet.ManagedArray.base`, which a raw pointer into it remembers.
-/

namespace DivertNet

open LittleEndian

/-! ### Exceptions -/

/-- The exceptions that leave a public method: the ones the wrapper throws itself,
with their message, and the ones the runtime raises for it. -/
inductive ClrException where
  /-- A `System::Exception` the wrapper constructs and throws. -/
  | exception (message : String) : ClrException
  /-- Dereferencing a managed null reference. -/
  | nullReference : ClrException
  /-- Native code reading or writing through a null pointer. -/
  | accessViolation : ClrException
  /-- Indexing a managed array out of its bounds. -/
  | indexOutOfRange : ClrException
  /-- An argument a library method rejects. -/
  | argument : ClrException
  deriving DecidableEq, Repr

/-! ### Managed arrays -/

/-- A managed `array<System::Byte>`: the identity of the object, the address its
elements currently start at, and the elements, of which there are at most as many as an
`Int32` counts. -/
structure ManagedArray where
  ref : ℕ
  base : ℕ
  bytes : List Byte
  length_lt : bytes.length < 2 ^ 31 := by decide
  deriving DecidableEq

/-- The `Length` property, which is what the wrapper hands to native code as a size. -/
def ManagedArray.length (a : ManagedArray) : BitVec 32 := BitVec.ofNat 32 a.bytes.length

/-- The size handed over is the true one. -/
theorem ManagedArray.toNat_length (a : ManagedArray) : a.length.toNat = a.bytes.length :=
  Nat.mod_eq_of_lt (a.length_lt.trans (by decide))

/-- `&packetBuffer[0]`: the address of the first element, which a null reference and an
empty array do not have. -/
def addressOfFirst : Option ManagedArray → Except ClrException ℕ
  | none => .error .nullReference
  | some a => if a.bytes.length = 0 then .error .indexOutOfRange else .ok a.base

theorem addressOfFirst_eq_ok {a : ManagedArray} (h : a.bytes ≠ []) :
    addressOfFirst (some a) = .ok a.base :=
  if_neg fun hlen => h (List.eq_nil_of_length_eq_zero hlen)

/-- A buffer that has a first element. -/
def HasFirst (packetBuffer : Option ManagedArray) : Prop :=
  ∃ a, packetBuffer = some a ∧ a.bytes.length ≠ 0

/-- The address of the first element is taken of such a buffer, and of no other. -/
theorem addressOfFirst_cases (packetBuffer : Option ManagedArray) :
    (∃ a, (packetBuffer = some a ∧ a.bytes.length ≠ 0) ∧ addressOfFirst packetBuffer = .ok a.base) ∨
      ¬HasFirst packetBuffer ∧ ∃ e, addressOfFirst packetBuffer = .error e := by
  cases packetBuffer with
  | none => exact Or.inr ⟨fun ⟨a, ha, _⟩ => (nomatch ha), _, rfl⟩
  | some a =>
    by_cases hlen : a.bytes.length = 0
    · refine Or.inr ⟨?_, _, if_pos hlen⟩
      rintro ⟨b, hb, hne⟩
      obtain rfl : a = b := Option.some.inj hb
      exact hne hlen
    · exact Or.inl ⟨a, ⟨rfl, hlen⟩, if_neg hlen⟩

/-- The memory a pointer into a managed array points into. -/
def ManagedArray.memory (a : ManagedArray) : Mem := fun x => a.bytes.getD (x - a.base) 0

/-- Within an array, the bytes from its first element on are its first elements. -/
theorem readBytes_memory (a : ManagedArray) {n : ℕ} (hn : n ≤ a.bytes.length) :
    readBytes a.memory a.base n = a.bytes.take n := by
  rw [← readBytes_ofBytes hn, readBytes_eq_iff]
  intro i _
  simp [ManagedArray.memory, ofBytes]

/-- The array after native code has run in its memory. -/
def ManagedArray.withMemory (a : ManagedArray) (m : Mem) : ManagedArray where
  ref := a.ref
  base := a.base
  bytes := readBytes m a.base a.bytes.length
  length_lt := by
    rw [length_readBytes]
    exact a.length_lt

/-- The array after native code has written bytes to it, from the first element on. What does
not fit is not written. -/
def ManagedArray.overwrite (a : ManagedArray) (l : List Byte) : ManagedArray where
  ref := a.ref
  base := a.base
  bytes := (l ++ a.bytes.drop l.length).take a.bytes.length
  length_lt := by
    refine lt_of_le_of_lt ?_ a.length_lt
    rw [List.length_take]
    exact min_le_left _ _

@[simp] theorem ManagedArray.length_withMemory (a : ManagedArray) (m : Mem) :
    (a.withMemory m).bytes.length = a.bytes.length := length_readBytes _ _ _

@[simp] theorem ManagedArray.length_overwrite (a : ManagedArray) (l : List Byte) :
    (a.overwrite l).bytes.length = a.bytes.length := by
  simp only [overwrite, List.length_take, List.length_append, List.length_drop]
  omega

/-- What was written is what the array begins with. -/
theorem ManagedArray.take_overwrite (a : ManagedArray) {l : List Byte}
    (hl : l.length ≤ a.bytes.length) : (a.overwrite l).bytes.take l.length = l := by
  rw [overwrite, List.take_take, min_eq_left hl, List.take_left']
  rfl

/-- The first bytes of the array after native code has run. -/
theorem ManagedArray.take_withMemory (a : ManagedArray) (m : Mem) {n : ℕ}
    (hn : n ≤ a.bytes.length) : (a.withMemory m).bytes.take n = readBytes m a.base n := by
  simp only [withMemory, readBytes, ← List.map_take, List.take_range, min_eq_left hn]

/-! ### Addresses of the internet protocol -/

/-- `System::Net::IPAddress`: an address of either family, by its bytes in network
order. -/
inductive IPAddress where
  /-- An address of family `InterNetwork`. -/
  | v4 (bytes : Fin 4 → Byte) : IPAddress
  /-- An address of family `InterNetworkV6`. -/
  | v6 (bytes : Fin 16 → Byte) : IPAddress
  deriving DecidableEq

namespace IPAddress

/-- `IPAddress::Any`, the address `0.0.0.0`. -/
def any : IPAddress := .v4 fun _ => 0

/-- `GetAddressBytes()`. -/
def getAddressBytes : IPAddress → List Byte
  | .v4 b => List.ofFn b
  | .v6 b => List.ofFn b

/-- `IPAddress(long long)`: the four bytes of the number, the least significant one
first. The argument comes from a `UINT32`, so it is in the range the constructor
accepts. -/
def ofLong (newAddress : BitVec 32) : IPAddress := .v4 fun i => byteOf newAddress i

/-- `IPAddress(array<Byte>^)` on an array of four bytes, which makes it an address of
family `InterNetwork`. -/
def ofArray4 (address : Fin 4 → Byte) : IPAddress := .v4 address

theorem getAddressBytes_v4 (b : Fin 4 → Byte) : (v4 b).getAddressBytes = List.ofFn b := rfl

theorem getAddressBytes_v6 (b : Fin 16 → Byte) : (v6 b).getAddressBytes = List.ofFn b := rfl

/-- Every address has at least four bytes, so that reading the first four never
fails. -/
theorem four_le_length (a : IPAddress) : 4 ≤ a.getAddressBytes.length := by
  cases a <;> simp [getAddressBytes]

end IPAddress

/-! ### Reading a managed array -/

/-- `a[i]` on a managed array. -/
def elementAt (a : List Byte) (i : ℕ) : Except ClrException Byte :=
  match a[i]? with
  | some b => .ok b
  | none => .error .indexOutOfRange

/-- `BitConverter::ToInt32(value, startIndex)` on a little-endian host: the four bytes
from `startIndex` on, as the bit pattern of a 32-bit integer. -/
def toInt32 (value : List Byte) (startIndex : ℕ) : Except ClrException (BitVec 32) :=
  if startIndex + 4 ≤ value.length then
    .ok (load 32 4 (fun i => value.getD i 0) startIndex)
  else .error .argument

/-- An array element inside the bounds is read. -/
theorem elementAt_eq_ok {a : List Byte} {i : ℕ} (h : i < a.length) :
    elementAt a i = .ok (a.getD i 0) := by
  simp [elementAt, List.getElem?_eq_getElem h]

/-- Reading back an array given by its elements. -/
theorem getD_ofFn {n : ℕ} (b : Fin n → Byte) (i : Fin n) : (List.ofFn b).getD i 0 = b i := by
  simp [List.getD_eq_getElem?_getD]

theorem toInt32_eq_ok {value : List Byte} (h : 4 ≤ value.length) :
    toInt32 value 0 = .ok (load 32 4 (fun i => value.getD i 0) 0) := by
  rw [toInt32, if_pos (by omega)]

end DivertNet
