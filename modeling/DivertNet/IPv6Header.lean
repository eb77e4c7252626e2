import Mathlib.Tactic.FinCases
import DivertNet.IPHeader

/-!
# The address properties of `IPv6Header`

An address of the IPv6 header is four 32-bit words. The header object keeps the words it
saw last (`m_lastSrcAddr`, `m_lastDstAddr`, allocated with `new UINT32[4]` and not
initialised) beside the address object it handed out last, and goes from words to an
address and back one word for one byte: a getter makes a *four*-byte array out of the
low bytes of the four words, and a setter puts the first four bytes of the value into
the four words. So what is read is an IPv4 address, unless the object the last
assignment left is handed out again.

`DivertNet.AddressCell.Origin` is the invariant behind it, kept along every run: the
object in a cell is an IPv4 address, or an IPv6 address some assignment left, with its
first four bytes as the remembered words. `DivertNet.ipv6Address_current_iff` is the
consequence: a read returns the sixteen bytes of the packet exactly when both are an
address whose bytes after the first are all zero, put there by an assignment.
-/

namespace DivertNet

open LittleEndian Runs

/-- The four words of an address, as `UINT32[4]`. -/
abbrev AddressWords := Fin 4 → BitVec 32

/-- The address object last handed out, with the words it stands for. -/
abbrev AddressCell := Memo AddressWords IPAddress

/-- An `IPv6Header` object: the pointer into the packet, and the two addresses last
handed out with the words remembered for them. -/
structure IPv6Header where
  /-- `m_ipv6Header`. -/
  m_ipv6Header : Option ℕ
  /-- `m_lastSrcAddr` and `m_sourceAddress`. -/
  source : AddressCell
  /-- `m_lastDstAddr` and `m_destinationAddress`. -/
  destination : AddressCell

namespace IPv6Header

/-- The constructor with `Init()`: both addresses are `IPAddress::Any`, an IPv4 address,
and the remembered words are whatever the allocation held. -/
def new (lastSrcAddr lastDstAddr : AddressWords) : IPv6Header where
  m_ipv6Header := none
  source := ⟨lastSrcAddr, .any⟩
  destination := ⟨lastDstAddr, .any⟩

/-- `UnmanagedHeader::set`. -/
def setUnmanagedHeader (value : Option ℕ) (h : IPv6Header) : IPv6Header :=
  { h with m_ipv6Header := value }

/-- The address a getter builds: an array of four bytes, each the low byte of a word. -/
def ofWords (k : AddressWords) : IPAddress := .ofArray4 fun i => (k i).setWidth 8

/-- The words of an address field. -/
def readWords (field : Fin 4 → HeaderProperty .ipv6 32) (m : Mem) (p : ℕ) : AddressWords :=
  fun i => (field i).read m p

/-- The four assignments to an address field. -/
def writeWords (field : Fin 4 → HeaderProperty .ipv6 32) (hdr : Option ℕ) (k : AddressWords)
    (m : Mem) : Mem :=
  (field 3).set hdr (k 3) ((field 2).set hdr (k 2) ((field 1).set hdr (k 1)
    ((field 0).set hdr (k 0) m)))

/-- The words of an address field as they are sent, the first byte in front. -/
def sentWords (k : AddressWords) : BitVec 128 :=
  byteSwap32 (k 0) ++ byteSwap32 (k 1) ++ byteSwap32 (k 2) ++ byteSwap32 (k 3)

/-- The words a setter remembers: the first four bytes of the value, one to a word. Every
address has four bytes, so no read fails half way. -/
def wordsOf (value : IPAddress) : Except ClrException AddressWords := do
  let ipArray := value.getAddressBytes
  let b0 ← elementAt ipArray 0
  let b1 ← elementAt ipArray 1
  let b2 ← elementAt ipArray 2
  let b3 ← elementAt ipArray 3
  return ![b0.setWidth 32, b1.setWidth 32, b2.setWidth 32, b3.setWidth 32]

/-- `SourceAddress::get`. -/
def getSourceAddress (m : Mem) (h : IPv6Header) : IPAddress × IPv6Header :=
  match h.m_ipv6Header with
  | none => (h.source.value, h)
  | some p =>
    let source := h.source.refresh ofWords true (readWords srcAddr m p)
    (source.value, { h with source := source })

/-- `DestinationAddress::get`. -/
def getDestinationAddress (m : Mem) (h : IPv6Header) : IPAddress × IPv6Header :=
  match h.m_ipv6Header with
  | none => (h.destination.value, h)
  | some p =>
    let destination := h.destination.refresh ofWords true (readWords dstAddr m p)
    (destination.value, { h with destination := destination })

/-- `SourceAddress::set`. -/
def setSourceAddress (value : IPAddress) (m : Mem) (h : IPv6Header) :
    Except ClrException (Mem × IPv6Header) := do
  let k ← wordsOf value
  return (writeWords srcAddr h.m_ipv6Header k m, { h with source := ⟨k, value⟩ })

/-- `DestinationAddress::set`. -/
def setDestinationAddress (value : IPAddress) (m : Mem) (h : IPv6Header) :
    Except ClrException (Mem × IPv6Header) := do
  let k ← wordsOf value
  return (writeWords dstAddr h.m_ipv6Header k m, { h with destination := ⟨k, value⟩ })

/-- The words of a value, byte by byte. -/
def wordsOfBytes (value : IPAddress) : AddressWords :=
  fun i => (value.getAddressBytes.getD i 0).setWidth 32

/-- **An assignment never throws**, for an address of either family. -/
theorem wordsOf_eq_ok (value : IPAddress) : wordsOf value = .ok (wordsOfBytes value) := by
  have hlen := value.four_le_length
  rw [wordsOf, elementAt_eq_ok (show 0 < _ by omega), elementAt_eq_ok (show 1 < _ by omega),
    elementAt_eq_ok (show 2 < _ by omega), elementAt_eq_ok (show 3 < _ by omega)]
  refine congrArg Except.ok (funext fun i => ?_)
  fin_cases i <;> rfl

theorem setSourceAddress_eq_ok (value : IPAddress) (m : Mem) (h : IPv6Header) :
    setSourceAddress value m h =
      .ok (writeWords srcAddr h.m_ipv6Header (wordsOfBytes value) m,
        { h with source := ⟨wordsOfBytes value, value⟩ }) := by
  rw [setSourceAddress, wordsOf_eq_ok]
  rfl

theorem setDestinationAddress_eq_ok (value : IPAddress) (m : Mem) (h : IPv6Header) :
    setDestinationAddress value m h =
      .ok (writeWords dstAddr h.m_ipv6Header (wordsOfBytes value) m,
        { h with destination := ⟨wordsOfBytes value, value⟩ }) := by
  rw [setDestinationAddress, wordsOf_eq_ok]
  rfl

end IPv6Header

/-! ### Fields that spell their words one byte to a word -/

/-- The sixteen bytes whose first is `x` and whose others are zero. -/
def firstByteOnly (x : Byte) : Fin 16 → Byte := fun i => if i = 0 then x else 0

/-- **Sixteen bytes whose words are their own first four bytes** have no other byte: the
bytes within a word are zero, which leaves the first four, and three of these are bytes
within the first word. -/
theorem eq_firstByteOnly {m : Mem} {a : ℕ}
    (h : ∀ i : Fin 4, load 32 4 m (a + 4 * i) = (m (a + i)).setWidth 32) :
    (fun i : Fin 16 => m (a + i)) = firstByteOnly (m a) := by
  have hbyte : ∀ (i : Fin 4) (j : ℕ), j < 4 →
      m (a + 4 * i + j) = if j = 0 then m (a + i) else 0 := by
    intro i j hj
    rw [← byteOf_load (w := 32) m (a + 4 * i) hj (by decide), h i, byteOf_setWidth (by decide)]
  have hin : ∀ j : ℕ, j < 4 → m (a + j) = if j = 0 then m a else 0 := by
    intro j hj
    have h0 := hbyte 0 j hj
    simpa using h0
  -- within a word, or the first byte of a word and thereby within the first word
  have hzero : ∀ n : ℕ, 0 < n → n < 16 → m (a + n) = 0 := by
    intro n hpos hn
    have hn' := hbyte ⟨n / 4, by omega⟩ (n % 4) (by omega)
    rw [show a + 4 * (n / 4) + n % 4 = a + n by omega] at hn'
    rw [hn']
    by_cases hmod : n % 4 = 0
    · rw [if_pos hmod]
      exact (hin (n / 4) (by omega)).trans (if_neg (by omega))
    · exact if_neg hmod
  funext i
  by_cases hi : i = 0
  · simp [hi, firstByteOnly]
  · rw [firstByteOnly, if_neg hi]
    exact hzero i (Nat.pos_of_ne_zero fun h0 => hi (Fin.ext h0)) i.isLt

/-- Conversely, such sixteen bytes have their own first four bytes as words. -/
theorem load_of_eq_firstByteOnly {m : Mem} {a : ℕ} {x : Byte}
    (h : (fun i : Fin 16 => m (a + i)) = firstByteOnly x) (i : Fin 4) :
    load 32 4 m (a + 4 * i) = (firstByteOnly x ⟨i, by omega⟩).setWidth 32 := by
  refine eq_of_byteOf_eq (show 32 ≤ 8 * 4 by decide) fun j hj => ?_
  rw [byteOf_load m _ hj (by decide), byteOf_setWidth (by decide), Nat.add_assoc]
  have hm : m (a + (4 * i + j)) = firstByteOnly x ⟨4 * i + j, by omega⟩ :=
    congrFun h ⟨4 * i + j, by omega⟩
  rw [hm]
  simp only [firstByteOnly, Fin.ext_iff, Fin.val_zero]
  by_cases hj0 : j = 0
  · by_cases hi0 : (i : ℕ) = 0 <;> simp [hj0, hi0]
  · simp [hj0]

/-! ### The address cells -/

namespace AddressCell

/-- **Where the object in a cell comes from**: it is an IPv4 address, or an IPv6 address
that was assigned, and then the remembered words are its first four bytes. -/
def Origin (c : AddressCell) : Prop :=
  (∃ b, c.value = .v4 b) ∨
    ∃ b, c.value = .v6 b ∧ ∀ i : Fin 4, c.key i = (b ⟨i, by omega⟩).setWidth 32

theorem origin_any (k : AddressWords) : Origin ⟨k, .any⟩ := Or.inl ⟨_, rfl⟩

/-- What a getter builds is an IPv4 address. -/
theorem Origin.refresh {c : AddressCell} (h : Origin c) (k : AddressWords) :
    Origin (Memo.refresh IPv6Header.ofWords true k c) := by
  by_cases hk : k = c.key
  · rw [Memo.refresh_of_eq hk]
    exact h
  · rw [Memo.refresh_of_ne hk rfl]
    exact Or.inl ⟨_, rfl⟩

/-- What a setter leaves is the value with its first four bytes. -/
theorem origin_assign (value : IPAddress) : Origin ⟨IPv6Header.wordsOfBytes value, value⟩ := by
  cases value with
  | v4 b => exact Or.inl ⟨b, rfl⟩
  | v6 b =>
    refine Or.inr ⟨b, rfl, fun i => ?_⟩
    exact congrArg (BitVec.setWidth 32) (getD_ofFn b ⟨i, by omega⟩)

/-- **When a read through a cell returns the sixteen bytes of the field**: exactly when the
object in the cell is an assigned address with no byte but the first, and these are the
bytes of the field. -/
theorem refresh_value_eq_v6_iff {c : AddressCell} (hc : Origin c) {m : Mem} {a : ℕ} :
    (Memo.refresh IPv6Header.ofWords true (fun i => load 32 4 m (a + 4 * i)) c).value =
        .v6 (fun i => m (a + i)) ↔
      ∃ x, c.value = .v6 (firstByteOnly x) ∧ (fun i : Fin 16 => m (a + i)) = firstByteOnly x := by
  constructor
  · intro hread
    by_cases hk : (fun i : Fin 4 => load 32 4 m (a + 4 * i)) = c.key
    · rw [Memo.refresh_of_eq hk] at hread
      rcases hc with ⟨b, hb⟩ | ⟨b, hb, hkey⟩
      · rw [hb] at hread
        cases hread
      · obtain rfl : b = fun i : Fin 16 => m (a + i) := IPAddress.v6.inj (hb.symm.trans hread)
        have hfirst := eq_firstByteOnly fun i => (congrFun hk i).trans (hkey i)
        exact ⟨m a, hread.trans (congrArg IPAddress.v6 hfirst), hfirst⟩
    · -- the words have changed, so the getter builds an IPv4 address
      rw [Memo.refresh_of_ne hk rfl] at hread
      cases hread
  · rintro ⟨x, hval, hfield⟩
    rcases hc with ⟨b, hb⟩ | ⟨b, hb, hkey⟩
    · rw [hb] at hval
      cases hval
    · obtain rfl : b = firstByteOnly x := IPAddress.v6.inj (hb.symm.trans hval)
      have hk : (fun i : Fin 4 => load 32 4 m (a + 4 * i)) = c.key :=
        funext fun i => (load_of_eq_firstByteOnly hfield i).trans (hkey i).symm
      rw [Memo.refresh_of_eq hk, hval, hfield]

end AddressCell

/-- The words of an address field are the words at its offset. -/
theorem readWords_srcAddr (m : Mem) (p : ℕ) :
    IPv6Header.readWords IPv6Header.srcAddr m p =
      fun i : Fin 4 => load 32 4 m (p + 8 + 4 * (i : ℕ)) :=
  funext fun i => congrArg (load 32 4 m) (Nat.add_assoc p 8 (4 * i)).symm

theorem readWords_dstAddr (m : Mem) (p : ℕ) :
    IPv6Header.readWords IPv6Header.dstAddr m p =
      fun i : Fin 4 => load 32 4 m (p + 24 + 4 * (i : ℕ)) :=
  funext fun i => congrArg (load 32 4 m) (Nat.add_assoc p 24 (4 * i)).symm

/-- What a getter returns with a header attached. -/
theorem getSourceAddress_value (m : Mem) {h : IPv6Header} {p : ℕ} (hp : h.m_ipv6Header = some p) :
    (h.getSourceAddress m).1 =
      (Memo.refresh IPv6Header.ofWords true
        (fun i : Fin 4 => load 32 4 m (p + 8 + 4 * (i : ℕ))) h.source).value := by
  rw [← readWords_srcAddr, IPv6Header.getSourceAddress, hp]

theorem getDestinationAddress_value (m : Mem) {h : IPv6Header} {p : ℕ}
    (hp : h.m_ipv6Header = some p) :
    (h.getDestinationAddress m).1 =
      (Memo.refresh IPv6Header.ofWords true
        (fun i : Fin 4 => load 32 4 m (p + 24 + 4 * (i : ℕ))) h.destination).value := by
  rw [← readWords_dstAddr, IPv6Header.getDestinationAddress, hp]

/-! ### Runs of one header object -/

/-- The packet memory and the header object. -/
structure IPv6HeaderState where
  mem : Mem
  header : IPv6Header

/-- The state after an assignment; one that throws has changed nothing. -/
def IPv6HeaderState.assign (s : IPv6HeaderState) :
    Except ClrException (Mem × IPv6Header) → IPv6HeaderState
  | .ok (m, h) => ⟨m, h⟩
  | .error _ => s

/-- **One action** on the header object. -/
def IPv6HeaderState.next (s : IPv6HeaderState) : AddressAction → IPv6HeaderState
  | .attach value => { s with header := s.header.setUnmanagedHeader value }
  | .poke m => { s with mem := m }
  | .getSource => { s with header := (s.header.getSourceAddress s.mem).2 }
  | .setSource value => s.assign (s.header.setSourceAddress value s.mem)
  | .getDestination => { s with header := (s.header.getDestinationAddress s.mem).2 }
  | .setDestination value => s.assign (s.header.setDestinationAddress value s.mem)

/-- A new header object over some packet memory, its remembered words uninitialised. -/
def IPv6HeaderState.start (m : Mem) (lastSrcAddr lastDstAddr : AddressWords) : IPv6HeaderState :=
  ⟨m, .new lastSrcAddr lastDstAddr⟩

/-- Both cells hold an IPv4 address or an assigned one. -/
def CellsOrigin (s : IPv6HeaderState) : Prop :=
  AddressCell.Origin s.header.source ∧ AddressCell.Origin s.header.destination

/-- **Every action keeps the origin of both cells.** -/
theorem cellsOrigin_next {s : IPv6HeaderState} (hs : CellsOrigin s) (a : AddressAction) :
    CellsOrigin (s.next a) := by
  cases a with
  | attach value => exact hs
  | poke m => exact hs
  | getSource =>
    rw [IPv6HeaderState.next, IPv6Header.getSourceAddress]
    cases s.header.m_ipv6Header with
    | none => exact hs
    | some p => exact ⟨hs.1.refresh _, hs.2⟩
  | setSource value =>
    rw [IPv6HeaderState.next, IPv6Header.setSourceAddress_eq_ok]
    exact ⟨AddressCell.origin_assign value, hs.2⟩
  | getDestination =>
    rw [IPv6HeaderState.next, IPv6Header.getDestinationAddress]
    cases s.header.m_ipv6Header with
    | none => exact hs
    | some p => exact ⟨hs.1, hs.2.refresh _⟩
  | setDestination value =>
    rw [IPv6HeaderState.next, IPv6Header.setDestinationAddress_eq_ok]
    exact ⟨hs.1, AddressCell.origin_assign value⟩

/-- **Both cells hold an IPv4 address or an assigned one in every reachable state**, over
whatever words the object started with. -/
theorem cellsOrigin_of_run {m : Mem} {ws wd : AddressWords} {l : List AddressAction}
    {s : IPv6HeaderState} (hrun : run (always IPv6HeaderState.next) (.start m ws wd) l = some s) :
    CellsOrigin s := by
  refine run_invariant ?_ ⟨AddressCell.origin_any ws, AddressCell.origin_any wd⟩ hrun
  intro s a t hs hstep
  obtain rfl : s.next a = t := Option.some.inj hstep
  exact cellsOrigin_next hs a

/-- **When a read of an IPv6 address is current**: in every state a header object can
reach, a getter returns the sixteen bytes of its field exactly when the object kept for
it is an assigned address with no byte but the first, and these are the bytes of the
field. -/
theorem ipv6Address_current_iff {m : Mem} {ws wd : AddressWords} {l : List AddressAction}
    {s : IPv6HeaderState} (hrun : run (always IPv6HeaderState.next) (.start m ws wd) l = some s)
    {p : ℕ} (hp : s.header.m_ipv6Header = some p) :
    ((s.header.getSourceAddress s.mem).1 = .v6 (fun i => s.mem (p + 8 + i)) ↔
      ∃ x, s.header.source.value = .v6 (firstByteOnly x) ∧
        (fun i : Fin 16 => s.mem (p + 8 + i)) = firstByteOnly x) ∧
    ((s.header.getDestinationAddress s.mem).1 = .v6 (fun i => s.mem (p + 24 + i)) ↔
      ∃ x, s.header.destination.value = .v6 (firstByteOnly x) ∧
        (fun i : Fin 16 => s.mem (p + 24 + i)) = firstByteOnly x) := by
  obtain ⟨hsrc, hdst⟩ := cellsOrigin_of_run hrun
  rw [getSourceAddress_value s.mem hp, getDestinationAddress_value s.mem hp]
  exact ⟨AddressCell.refresh_value_eq_v6_iff hsrc, AddressCell.refresh_value_eq_v6_iff hdst⟩

/-- A packet memory that holds an IPv6 header at address `0`, with the given source
address and nothing else. -/
def ipv6SourceOnly (b : Fin 16 → Byte) : Mem := fun x =>
  if h : 8 ≤ x ∧ x < 24 then b ⟨x - 8, by omega⟩ else 0

/-- The condition met: `2000::` is assigned and read back. -/
theorem ipv6Address_current_assigned :
    ∃ s, run (always IPv6HeaderState.next) (.start (fun _ => 0) (fun _ => 0) fun _ => 0)
        [.attach (some 0), .setSource (.v6 (firstByteOnly 0x20))] = some s ∧
      (s.header.getSourceAddress s.mem).1 = .v6 fun i => s.mem (0 + 8 + i) := by
  have hrun : run (always IPv6HeaderState.next) (.start (fun _ => 0) (fun _ => 0) fun _ => 0)
      [.attach (some 0), .setSource (.v6 (firstByteOnly 0x20))] = some _ := rfl
  refine ⟨_, hrun, (ipv6Address_current_iff hrun rfl).1.mpr ⟨0x20, rfl, ?_⟩⟩
  funext i
  fin_cases i <;> rfl

/-- **Two addresses read alike**: `2001:db8::1` and `2001:db8::2`, each read through a new
header object, both read as the IPv4 address `32.0.0.0`. -/
theorem ipv6_addresses_read_alike :
    ∃ s t,
      run (always IPv6HeaderState.next)
        (.start (ipv6SourceOnly ![0x20, 1, 0x0D, 0xB8, 0, 0, 0, 0, 0, 0, 0, 0, 0, 0, 0, 1])
          (fun _ => 7) fun _ => 7) [.attach (some 0)] = some s ∧
      run (always IPv6HeaderState.next)
        (.start (ipv6SourceOnly ![0x20, 1, 0x0D, 0xB8, 0, 0, 0, 0, 0, 0, 0, 0, 0, 0, 0, 2])
          (fun _ => 7) fun _ => 7) [.attach (some 0)] = some t ∧
      s.header.m_ipv6Header = some 0 ∧ t.header.m_ipv6Header = some 0 ∧
      s.mem (0 + 8 + 15) ≠ t.mem (0 + 8 + 15) ∧
      (s.header.getSourceAddress s.mem).1.getAddressBytes = [0x20, 0, 0, 0] ∧
      (t.header.getSourceAddress t.mem).1.getAddressBytes = [0x20, 0, 0, 0] ∧
      (s.header.getSourceAddress s.mem).1 ≠ .v6 fun i => s.mem (0 + 8 + i) := by
  refine ⟨_, _, rfl, rfl, rfl, rfl, by decide, by decide, by decide, fun h => ?_⟩
  exact absurd (congrArg IPAddress.getAddressBytes h) (by decide)

end DivertNet
