import DivertNet.AddressAssignment

/-!
# The four address properties as one family

`SourceAddress` and `DestinationAddress` of `IPHeader` and of `IPv6Header` are four properties of
one shape: a field of the header, and beside the pointer an address handed out before
(`DivertNet.AddressCells`). This file puts them side by side, as the program with many header
objects needs them.

What a getter returns is a matter of the cell: `DivertNet.AddressProperty.get_eq_decode_iff` says
when it is the address in the field, for whatever the accesses before have left in the cells
(`DivertNet.AddressCells.Kept`). What a setter writes is not:
`DivertNet.AddressProperty.set_eq_ok`.
-/

namespace DivertNet

open LittleEndian

/-- The properties that are addresses, two of `IPHeader` and two of `IPv6Header`. -/
inductive AddressProperty where
  | ipv4Source | ipv4Destination | ipv6Source | ipv6Destination
  deriving DecidableEq, Repr

/-- The class it is a property of. -/
def AddressProperty.kind : AddressProperty → HeaderKind
  | ipv4Source | ipv4Destination => .ip
  | ipv6Source | ipv6Destination => .ipv6

/-! ### What the objects keep -/

/-- **What an `IPHeader` and an `IPv6Header` keep** beside their pointers: the addresses last
handed out, with the words remembered for them. -/
structure AddressCells where
  ipSource : Memo (BitVec 32) IPAddress
  ipDestination : Memo (BitVec 32) IPAddress
  ipv6Source : AddressCell
  ipv6Destination : AddressCell

namespace AddressCells

/-- The two objects, with this pointer. -/
def ipHeader (c : AddressCells) (hdr : Option ℕ) : IPHeader := ⟨hdr, c.ipSource, c.ipDestination⟩

def ipv6Header (c : AddressCells) (hdr : Option ℕ) : IPv6Header :=
  ⟨hdr, c.ipv6Source, c.ipv6Destination⟩

/-- What is kept once one of the objects has changed. -/
def withIPHeader (c : AddressCells) (h : IPHeader) : AddressCells :=
  { c with ipSource := h.source, ipDestination := h.destination }

def withIPv6Header (c : AddressCells) (h : IPv6Header) : AddressCells :=
  { c with ipv6Source := h.source, ipv6Destination := h.destination }

/-- What two new objects keep, the words of the second being uninitialised. -/
def new (lastSrcAddr lastDstAddr : AddressWords) : AddressCells where
  ipSource := IPHeader.new.source
  ipDestination := IPHeader.new.destination
  ipv6Source := (IPv6Header.new lastSrcAddr lastDstAddr).source
  ipv6Destination := (IPv6Header.new lastSrcAddr lastDstAddr).destination

/-- **What holds of the cells whatever the accesses**: an address kept by an `IPHeader` is that of
no other word, and one kept by an `IPv6Header` is an IPv4 address or was assigned. -/
structure Kept (c : AddressCells) : Prop where
  ipSource : FaithfulCell c.ipSource
  ipDestination : FaithfulCell c.ipDestination
  ipv6Source : AddressCell.Origin c.ipv6Source
  ipv6Destination : AddressCell.Origin c.ipv6Destination

theorem faithful_any : FaithfulCell ⟨0, .any⟩ :=
  Memo.Coherent.faithful ofLong_injective
    (show IPAddress.any = IPAddress.ofLong 0 from congrArg IPAddress.v4 (by decide))

theorem kept_new (lastSrcAddr lastDstAddr : AddressWords) :
    (new lastSrcAddr lastDstAddr).Kept where
  ipSource := faithful_any
  ipDestination := faithful_any
  ipv6Source := AddressCell.origin_any lastSrcAddr
  ipv6Destination := AddressCell.origin_any lastDstAddr

end AddressCells

/-! ### The accesses -/

namespace AddressProperty

/-- **The getter**, through an object with this pointer: the address, and what is kept then. -/
def get (p : AddressProperty) (hdr : Option ℕ) (c : AddressCells) (m : Mem) :
    IPAddress × AddressCells :=
  match p with
  | ipv4Source => ((c.ipHeader hdr).getSourceAddress m).map id c.withIPHeader
  | ipv4Destination => ((c.ipHeader hdr).getDestinationAddress m).map id c.withIPHeader
  | ipv6Source => ((c.ipv6Header hdr).getSourceAddress m).map id c.withIPv6Header
  | ipv6Destination => ((c.ipv6Header hdr).getDestinationAddress m).map id c.withIPv6Header

/-- **The setter**, through an object with this pointer. -/
def set (p : AddressProperty) (hdr : Option ℕ) (c : AddressCells) (v : IPAddress) (m : Mem) :
    Except ClrException (Mem × AddressCells) :=
  match p with
  | ipv4Source => ((c.ipHeader hdr).setSourceAddress v m).map (Prod.map id c.withIPHeader)
  | ipv4Destination =>
    ((c.ipHeader hdr).setDestinationAddress v m).map (Prod.map id c.withIPHeader)
  | ipv6Source => ((c.ipv6Header hdr).setSourceAddress v m).map (Prod.map id c.withIPv6Header)
  | ipv6Destination =>
    ((c.ipv6Header hdr).setDestinationAddress v m).map (Prod.map id c.withIPv6Header)

/-- **The address in the field**, of four bytes or of sixteen. -/
def decode (p : AddressProperty) (m : Mem) (a : ℕ) : IPAddress :=
  match p with
  | ipv4Source => .v4 fun i => m (a + 12 + i)
  | ipv4Destination => .v4 fun i => m (a + 16 + i)
  | ipv6Source => .v6 fun i => m (a + 8 + i)
  | ipv6Destination => .v6 fun i => m (a + 24 + i)

/-- What a setter writes: the first four bytes of the address, in one word or in one word
each. -/
def write (p : AddressProperty) (v : IPAddress) (m : Mem) (a : ℕ) : Mem :=
  match p with
  | ipv4Source => IPHeader.srcAddr.write (IPHeader.addressWord v) m a
  | ipv4Destination => IPHeader.dstAddr.write (IPHeader.addressWord v) m a
  | ipv6Source => IPv6Header.writeWords IPv6Header.srcAddr (some a) (IPv6Header.wordsOfBytes v) m
  | ipv6Destination =>
    IPv6Header.writeWords IPv6Header.dstAddr (some a) (IPv6Header.wordsOfBytes v) m

/-- What is kept after an assignment: the value, with the words written. -/
def remember (p : AddressProperty) (v : IPAddress) (c : AddressCells) : AddressCells :=
  match p with
  | ipv4Source => { c with ipSource := ⟨IPHeader.addressWord v, v⟩ }
  | ipv4Destination => { c with ipDestination := ⟨IPHeader.addressWord v, v⟩ }
  | ipv6Source => { c with ipv6Source := ⟨IPv6Header.wordsOfBytes v, v⟩ }
  | ipv6Destination => { c with ipv6Destination := ⟨IPv6Header.wordsOfBytes v, v⟩ }

/-- **An assignment never throws**, and what it writes does not depend on the cells. -/
theorem set_eq_ok (p : AddressProperty) (hdr : Option ℕ) (c : AddressCells) (v : IPAddress)
    (m : Mem) : p.set hdr c v m = .ok (hdr.elim m (p.write v m), p.remember v c) := by
  cases p with
  | ipv4Source =>
    rw [set, IPHeader.setSourceAddress_eq_ok]
    cases hdr <;> rfl
  | ipv4Destination =>
    rw [set, IPHeader.setDestinationAddress_eq_ok]
    cases hdr <;> rfl
  | ipv6Source =>
    rw [set, IPv6Header.setSourceAddress_eq_ok]
    cases hdr <;> rfl
  | ipv6Destination =>
    rw [set, IPv6Header.setDestinationAddress_eq_ok]
    cases hdr <;> rfl

/-! ### When a read is right -/

/-- A cell for which a read returns the word's address: with the word remembered, the address kept
is an IPv4 address, and with another one the source word lets the getter rebuild it. -/
def FreshWord (c : Memo (BitVec 32) IPAddress) (word source : BitVec 32) : Prop :=
  (word = c.key → ∃ b, c.value = .v4 b) ∧ (word ≠ c.key → source ≠ 0)

/-- A cell for which a read returns the bytes of the field: the address kept was assigned and has
no byte but the first, and it is the one in the field. -/
def FreshBytes (c : AddressCell) (bytes : Fin 16 → Byte) : Prop :=
  ∃ x, c.value = .v6 (firstByteOnly x) ∧ bytes = firstByteOnly x

/-- **The read is right**, by what is kept and what the header at `a` holds. -/
def Fresh (p : AddressProperty) (c : AddressCells) (m : Mem) (a : ℕ) : Prop :=
  match p with
  | ipv4Source => FreshWord c.ipSource (IPHeader.srcAddr.read m a) (IPHeader.srcAddr.read m a)
  -- both getters of `IPHeader` test the source
  | ipv4Destination =>
    FreshWord c.ipDestination (IPHeader.dstAddr.read m a) (IPHeader.srcAddr.read m a)
  | ipv6Source => FreshBytes c.ipv6Source fun i => m (a + 8 + i)
  | ipv6Destination => FreshBytes c.ipv6Destination fun i => m (a + 24 + i)

/-- A read through a cell of `IPHeader`. -/
theorem refresh_value_eq_ofLong_iff {c : Memo (BitVec 32) IPAddress} (hc : FaithfulCell c)
    (word source : BitVec 32) :
    (c.refresh IPAddress.ofLong (IPHeader.inRange source) word).value = .ofLong word ↔
      FreshWord c word source := by
  rw [hc.refresh_value_eq_iff, inRange_iff]
  refine and_congr_left' (imp_congr_right fun hword => ⟨fun hval => ⟨_, hval⟩, ?_⟩)
  rintro ⟨b, hb⟩
  -- an IPv4 address in the cell is that of its own word, which is the one remembered
  have hkey := hc _ (hb.trans (ofLong_addressWord b).symm)
  rw [hword, ← hkey, ofLong_addressWord, hb]

/-- **When a getter returns the address in the field**: exactly when the read is right. -/
theorem get_eq_decode_iff (p : AddressProperty) {c : AddressCells} (hc : c.Kept) (m : Mem)
    (a : ℕ) : (p.get (some a) c m).1 = p.decode m a ↔ p.Fresh c m a := by
  cases p with
  | ipv4Source =>
    rw [decode, ← ofLong_load]
    exact refresh_value_eq_ofLong_iff hc.ipSource _ _
  | ipv4Destination =>
    rw [decode, ← ofLong_load]
    exact refresh_value_eq_ofLong_iff hc.ipDestination _ _
  | ipv6Source =>
    have hread : (ipv6Source.get (some a) c m).1 = _ :=
      getSourceAddress_value (h := c.ipv6Header (some a)) m rfl
    rw [hread]
    exact AddressCell.refresh_value_eq_v6_iff hc.ipv6Source
  | ipv6Destination =>
    have hread : (ipv6Destination.get (some a) c m).1 = _ :=
      getDestinationAddress_value (h := c.ipv6Header (some a)) m rfl
    rw [hread]
    exact AddressCell.refresh_value_eq_v6_iff hc.ipv6Destination

/-- A read keeps what holds of the cells. -/
theorem kept_get (p : AddressProperty) (hdr : Option ℕ) {c : AddressCells} (hc : c.Kept)
    (m : Mem) : (p.get hdr c m).2.Kept := by
  cases hdr with
  | none => cases p <;> exact hc
  | some a =>
    cases p with
    | ipv4Source => exact { hc with ipSource := hc.ipSource.refresh ofLong_injective }
    | ipv4Destination =>
      exact { hc with ipDestination := hc.ipDestination.refresh ofLong_injective }
    | ipv6Source => exact { hc with ipv6Source := hc.ipv6Source.refresh _ }
    | ipv6Destination => exact { hc with ipv6Destination := hc.ipv6Destination.refresh _ }

/-- So does an assignment. -/
theorem kept_remember (p : AddressProperty) (v : IPAddress) {c : AddressCells} (hc : c.Kept) :
    (p.remember v c).Kept := by
  cases p with
  | ipv4Source => exact { hc with ipSource := faithful_assigned v }
  | ipv4Destination => exact { hc with ipDestination := faithful_assigned v }
  | ipv6Source => exact { hc with ipv6Source := AddressCell.origin_assign v }
  | ipv6Destination => exact { hc with ipv6Destination := AddressCell.origin_assign v }

/-! ### Accesses to the structure only -/

section Window

variable {p : AddressProperty} {m m' : Mem} {a a' n k off : ℕ}

/-- The bytes of a field that lies in the window. -/
theorem fieldBytes_congr (h : Agree n m a m' a') (hoff : off + k ≤ n) :
    (fun i : Fin k => m (a + off + i)) = fun i : Fin k => m' (a' + off + i) :=
  funext fun i => h.sub hoff i i.isLt

/-- **The address depends on the bytes of the structure only.** -/
theorem decode_congr (h : Agree p.kind.size m a m' a') : p.decode m a = p.decode m' a' := by
  cases p with
  | ipv4Source => exact congrArg IPAddress.v4 (fieldBytes_congr h (by decide))
  | ipv4Destination => exact congrArg IPAddress.v4 (fieldBytes_congr h (by decide))
  | ipv6Source => exact congrArg IPAddress.v6 (fieldBytes_congr h (by decide))
  | ipv6Destination => exact congrArg IPAddress.v6 (fieldBytes_congr h (by decide))

/-- So does whether a read is right. -/
theorem fresh_congr {c : AddressCells} (h : Agree p.kind.size m a m' a') :
    p.Fresh c m a ↔ p.Fresh c m' a' := by
  cases p with
  | ipv4Source => rw [Fresh, Fresh, IPHeader.srcAddr.read_congr h]
  | ipv4Destination =>
    rw [Fresh, Fresh, IPHeader.srcAddr.read_congr h, IPHeader.dstAddr.read_congr h]
  | ipv6Source => rw [Fresh, Fresh, fieldBytes_congr h (by decide)]
  | ipv6Destination => rw [Fresh, Fresh, fieldBytes_congr h (by decide)]

/-- Four words written one after another. -/
theorem writeWords_congr {field : Fin 4 → HeaderProperty .ipv6 32} (w : AddressWords)
    (h : Agree HeaderKind.ipv6.size m a m' a') :
    Agree HeaderKind.ipv6.size (IPv6Header.writeWords field (some a) w m) a
      (IPv6Header.writeWords field (some a') w m') a' :=
  (field 3).write_congr _ ((field 2).write_congr _ ((field 1).write_congr _
    ((field 0).write_congr _ h)))

theorem writeWords_frame_header {field : Fin 4 → HeaderProperty .ipv6 32} (w : AddressWords)
    (m : Mem) {x : ℕ} (hx : ¬(a ≤ x ∧ x < a + HeaderKind.ipv6.size)) :
    IPv6Header.writeWords field (some a) w m x = m x := by
  simp only [IPv6Header.writeWords, Property.set_some]
  rw [(field 3).write_frame _ _ hx, (field 2).write_frame _ _ hx, (field 1).write_frame _ _ hx,
    (field 0).write_frame _ _ hx]

/-- **What is written depends on the bytes of the structure only**, and stays inside it. -/
theorem write_congr (v : IPAddress) (h : Agree p.kind.size m a m' a') :
    Agree p.kind.size (p.write v m a) a (p.write v m' a') a' := by
  cases p with
  | ipv4Source => exact IPHeader.srcAddr.write_congr _ h
  | ipv4Destination => exact IPHeader.dstAddr.write_congr _ h
  | ipv6Source => exact writeWords_congr _ h
  | ipv6Destination => exact writeWords_congr _ h

theorem write_frame (v : IPAddress) (m : Mem) {a x : ℕ}
    (hx : ¬(a ≤ x ∧ x < a + p.kind.size)) : p.write v m a x = m x := by
  cases p with
  | ipv4Source => exact IPHeader.srcAddr.write_frame _ m hx
  | ipv4Destination => exact IPHeader.dstAddr.write_frame _ m hx
  | ipv6Source => exact writeWords_frame_header _ m hx
  | ipv6Destination => exact writeWords_frame_header _ m hx

end Window

end AddressProperty

end DivertNet
