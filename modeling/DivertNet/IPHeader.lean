import DivertNet.Headers
import DivertNet.Library.Memo
import DivertNet.Library.Runs

/-!
# The address properties of `IPHeader`

`SourceAddress` and `DestinationAddress` hand out `System::Net::IPAddress` objects. To
build a new object only when the address has changed, the header object keeps the last
one with the 32-bit word it was built from (`m_sourceAddress` with `m_lastSrcAddr`,
`m_destinationAddress` with `m_lastDstAddr`): two memo cells. A getter compares the word
in the packet with the remembered one, and *additionally* asks the source word to be in
the range an address may have, which leaves out the word `0`.

The cells stay coherent along every run (`DivertNet.source_coherent_of_run`); what the
extra range test costs is `DivertNet.sourceAddress_current_iff`: a read is right exactly
when the source word is not `0`, or the remembered word is `0` as well.
-/

namespace DivertNet

open LittleEndian Runs

/-- An `IPHeader` object: the pointer into the packet, and the two addresses last handed
out with the words they were built from. -/
structure IPHeader where
  /-- `m_ipHeader`. -/
  m_ipHeader : Option ℕ
  /-- `m_lastSrcAddr` and `m_sourceAddress`. -/
  source : Memo (BitVec 32) IPAddress
  /-- `m_lastDstAddr` and `m_destinationAddress`. -/
  destination : Memo (BitVec 32) IPAddress

namespace IPHeader

/-- The constructor with `Init()`: no header, and both addresses `IPAddress::Any`. -/
def new : IPHeader where
  m_ipHeader := none
  source := ⟨0, .any⟩
  destination := ⟨0, .any⟩

/-- `UnmanagedHeader::set`. -/
def setUnmanagedHeader (value : Option ℕ) (h : IPHeader) : IPHeader :=
  { h with m_ipHeader := value }

/-- The range test of both getters, `SrcAddr > 0 && SrcAddr <= 0x00000000FFFFFFFF`. -/
def inRange (srcAddr : BitVec 32) : Bool := 0 < srcAddr && srcAddr ≤ 0xFFFFFFFF

/-- `SourceAddress::get`: the address, and the object with its cell refreshed. -/
def getSourceAddress (m : Mem) (h : IPHeader) : IPAddress × IPHeader :=
  match h.m_ipHeader with
  | none => (h.source.value, h)
  | some p =>
    let source := h.source.refresh .ofLong (inRange (srcAddr.read m p)) (srcAddr.read m p)
    (source.value, { h with source := source })

/-- `DestinationAddress::get`, whose range test looks at the *source* word. -/
def getDestinationAddress (m : Mem) (h : IPHeader) : IPAddress × IPHeader :=
  match h.m_ipHeader with
  | none => (h.destination.value, h)
  | some p =>
    let destination :=
      -- the range test is that of `SourceAddress::get`, word and all
      h.destination.refresh .ofLong (inRange (srcAddr.read m p)) (dstAddr.read m p)
    (destination.value, { h with destination := destination })

/-- `SourceAddress::set`: the first four bytes of the value go into the packet, and the
value itself into the cell. -/
def setSourceAddress (value : IPAddress) (m : Mem) (h : IPHeader) :
    Except ClrException (Mem × IPHeader) := do
  let intAddress ← toInt32 value.getAddressBytes 0
  return (srcAddr.set h.m_ipHeader intAddress m, { h with source := ⟨intAddress, value⟩ })

/-- `DestinationAddress::set`. -/
def setDestinationAddress (value : IPAddress) (m : Mem) (h : IPHeader) :
    Except ClrException (Mem × IPHeader) := do
  let intAddress ← toInt32 value.getAddressBytes 0
  return (dstAddr.set h.m_ipHeader intAddress m, { h with destination := ⟨intAddress, value⟩ })

/-- The word a setter writes: the first four bytes of the value. -/
def addressWord (value : IPAddress) : BitVec 32 :=
  load 32 4 (fun i => value.getAddressBytes.getD i 0) 0

/-- **An assignment never throws**, since every address has four bytes to read. -/
theorem setSourceAddress_eq_ok (value : IPAddress) (m : Mem) (h : IPHeader) :
    setSourceAddress value m h =
      .ok (srcAddr.set h.m_ipHeader (addressWord value) m,
        { h with source := ⟨addressWord value, value⟩ }) := by
  rw [setSourceAddress, toInt32_eq_ok value.four_le_length]
  rfl

theorem setDestinationAddress_eq_ok (value : IPAddress) (m : Mem) (h : IPHeader) :
    setDestinationAddress value m h =
      .ok (dstAddr.set h.m_ipHeader (addressWord value) m,
        { h with destination := ⟨addressWord value, value⟩ }) := by
  rw [setDestinationAddress, toInt32_eq_ok value.four_le_length]
  rfl

end IPHeader

/-! ### Words and addresses -/

/-- The address of a word is the address of its bytes. -/
theorem ofLong_load (m : Mem) (a : ℕ) :
    IPAddress.ofLong (load 32 4 m a) = .v4 fun i => m (a + i) :=
  congrArg IPAddress.v4 (funext fun i => byteOf_load m a i.isLt (by decide))

/-- Different words are different addresses. -/
theorem ofLong_injective : Function.Injective IPAddress.ofLong := by
  intro v v' h
  have hbytes : ∀ i : Fin 4, byteOf v i = byteOf v' i := congrFun (IPAddress.v4.inj h)
  exact eq_of_byteOf_eq (show 32 ≤ 8 * 4 by decide) fun i hi => hbytes ⟨i, hi⟩

/-- The word a setter keeps for an IPv4 address decodes to that address. -/
theorem ofLong_addressWord (b : Fin 4 → Byte) :
    IPAddress.ofLong (IPHeader.addressWord (.v4 b)) = .v4 b := by
  rw [IPHeader.addressWord, ofLong_load]
  refine congrArg IPAddress.v4 (funext fun i => ?_)
  rw [IPAddress.getAddressBytes_v4, Nat.zero_add, getD_ofFn]

/-- A cell whose value is the address of no word but the one in it. -/
abbrev FaithfulCell (c : Memo (BitVec 32) IPAddress) : Prop := c.Faithful IPAddress.ofLong

/-- An assigned address is the address of no word but its own. -/
theorem faithful_assigned (value : IPAddress) :
    FaithfulCell ⟨IPHeader.addressWord value, value⟩ := by
  intro k hk
  cases value with
  | v4 b => exact ofLong_injective (hk.symm.trans (ofLong_addressWord b).symm)
  | v6 b => cases hk

theorem srcAddr_read (m : Mem) (p : ℕ) : IPHeader.srcAddr.read m p = load 32 4 m (p + 12) := rfl

/-- The range test only ever rejects the word `0`. -/
theorem inRange_iff (x : BitVec 32) : IPHeader.inRange x = true ↔ x ≠ 0 := by
  have hle : x ≤ 0xFFFFFFFF := BitVec.le_def.mpr (by have := x.isLt; simp; omega)
  rw [IPHeader.inRange, Bool.and_eq_true, decide_eq_true_eq, decide_eq_true_eq]
  refine ⟨fun h hx => ?_, fun hx => ⟨?_, hle⟩⟩
  · rw [hx] at h
    exact absurd h.1 (by decide)
  · refine BitVec.lt_def.mpr (Nat.pos_of_ne_zero fun h0 => hx ?_)
    exact BitVec.eq_of_toNat_eq h0

/-! ### Runs of one header object -/

/-- What can happen to an `IPHeader` object and the packet bytes it points to. -/
inductive AddressAction where
  /-- `UnmanagedHeader` is set, as `ParsePacket` does. -/
  | attach (value : Option ℕ)
  /-- The packet bytes change, in any way. -/
  | poke (m : Mem)
  | getSource
  | setSource (value : IPAddress)
  | getDestination
  | setDestination (value : IPAddress)

/-- The packet memory and the header object. -/
structure IPHeaderState where
  mem : Mem
  header : IPHeader

/-- The state after an assignment; one that throws has changed nothing. -/
def IPHeaderState.assign (s : IPHeaderState) :
    Except ClrException (Mem × IPHeader) → IPHeaderState
  | .ok (m, h) => ⟨m, h⟩
  | .error _ => s

/-- **One action** on the header object. -/
def IPHeaderState.next (s : IPHeaderState) : AddressAction → IPHeaderState
  | .attach value => { s with header := s.header.setUnmanagedHeader value }
  | .poke m => { s with mem := m }
  | .getSource => { s with header := (s.header.getSourceAddress s.mem).2 }
  | .setSource value => s.assign (s.header.setSourceAddress value s.mem)
  | .getDestination => { s with header := (s.header.getDestinationAddress s.mem).2 }
  | .setDestination value => s.assign (s.header.setDestinationAddress value s.mem)

/-- A new header object over some packet memory. -/
def IPHeaderState.start (m : Mem) : IPHeaderState := ⟨m, .new⟩

/-- An action that assigns no IPv6 address to `SourceAddress`. -/
def AssignsIPv4Source : AddressAction → Prop
  | .setSource value => ∃ b, value = .v4 b
  | _ => True

/-- The source cell is coherent: the address in it is that of the word in it. -/
def SourceCoherent (s : IPHeaderState) : Prop := s.header.source.Coherent IPAddress.ofLong

theorem sourceCoherent_start (m : Mem) : SourceCoherent (.start m) :=
  show IPAddress.any = IPAddress.ofLong 0 from congrArg IPAddress.v4 (by decide)

/-- **Every action keeps the source cell coherent**: reads refresh it coherently, and an
IPv4 assignment stores an address with its own word. -/
theorem sourceCoherent_next {s : IPHeaderState} {a : AddressAction} (hs : SourceCoherent s)
    (ha : AssignsIPv4Source a) : SourceCoherent (s.next a) := by
  cases a with
  | attach value => exact hs
  | poke m => exact hs
  | getSource =>
    rw [IPHeaderState.next, IPHeader.getSourceAddress]
    cases s.header.m_ipHeader with
    | none => exact hs
    | some p => exact Memo.Coherent.refresh hs
  | setSource value =>
    obtain ⟨b, rfl⟩ := ha
    rw [IPHeaderState.next, IPHeader.setSourceAddress_eq_ok]
    exact (ofLong_addressWord b).symm
  | getDestination =>
    rw [IPHeaderState.next, IPHeader.getDestinationAddress]
    cases s.header.m_ipHeader <;> exact hs
  | setDestination value =>
    rw [IPHeaderState.next, IPHeader.setDestinationAddress_eq_ok]
    exact hs

/-- **The source cell is coherent in every reachable state.** -/
theorem source_coherent_of_run {m : Mem} {l : List AddressAction}
    (hl : ∀ a ∈ l, AssignsIPv4Source a) {s : IPHeaderState}
    (hrun : run (always IPHeaderState.next) (.start m) l = some s) : SourceCoherent s := by
  have hguard : EveryStep (always IPHeaderState.next) (fun _ a _ => AssignsIPv4Source a)
      (.start m) l := fun l₁ a l₂ _ _ hsplit _ _ => hl a (by simp [hsplit])
  refine everyState_of_guard ?_ (sourceCoherent_start m) hguard l [] s (by simp) hrun
  intro s a t hs ha hstep
  obtain rfl : s.next a = t := Option.some.inj hstep
  exact sourceCoherent_next hs ha

/-- **When a read of `SourceAddress` is current**: in every state a header object can
reach, the getter returns the address the packet holds exactly when the source word is
not `0`, or the word last remembered is `0` too. -/
theorem sourceAddress_current_iff {m : Mem} {l : List AddressAction}
    (hl : ∀ a ∈ l, AssignsIPv4Source a) {s : IPHeaderState}
    (hrun : run (always IPHeaderState.next) (.start m) l = some s) {p : ℕ}
    (hp : s.header.m_ipHeader = some p) :
    (s.header.getSourceAddress s.mem).1 = .v4 (fun i => s.mem (p + 12 + i)) ↔
      IPHeader.srcAddr.read s.mem p ≠ 0 ∨ s.header.source.key = 0 := by
  have hcoh := source_coherent_of_run hl hrun
  rw [← ofLong_load, ← srcAddr_read, IPHeader.getSourceAddress, hp]
  refine (Memo.refresh_value_eq_iff ofLong_injective hcoh).trans ?_
  rw [inRange_iff]
  constructor
  · rintro (hkey | hne)
    · by_cases h0 : IPHeader.srcAddr.read s.mem p = 0
      · exact Or.inr (hkey ▸ h0)
      · exact Or.inl h0
    · exact Or.inl hne
  · rintro (hne | hkey)
    · exact Or.inr hne
    · by_cases h0 : IPHeader.srcAddr.read s.mem p = 0
      · exact Or.inl (h0.trans hkey.symm)
      · exact Or.inr h0

/-- A packet memory that holds an IPv4 header at address `0`, with the given source
address and nothing else. -/
def sourceOnly (b : Fin 4 → Byte) : Mem := fun x =>
  if h : 12 ≤ x ∧ x < 16 then b ⟨x - 12, by omega⟩ else 0

/-- The condition met: the source address changes from `10.0.0.1` to `10.0.0.2`. -/
theorem sourceAddress_current_changed :
    (IPHeader.getSourceAddress (sourceOnly ![10, 0, 0, 2])
      { m_ipHeader := some 0, source := ⟨0x0100000A, .v4 ![10, 0, 0, 1]⟩,
        destination := ⟨0, .any⟩ }).1 = .v4 fun i => sourceOnly ![10, 0, 0, 2] (0 + 12 + i) := by
  have hl : ∀ a ∈ [AddressAction.attach (some 0), .getSource, .poke (sourceOnly ![10, 0, 0, 2])],
      AssignsIPv4Source a := by simp [AssignsIPv4Source]
  exact (sourceAddress_current_iff (m := sourceOnly ![10, 0, 0, 1]) hl rfl rfl).mpr
    (Or.inl (by decide))

/-- **A stale address**: once `10.0.0.1` has been read, a packet whose source address is
`0.0.0.0` still reads as `10.0.0.1`. -/
theorem sourceAddress_stale_at_zero :
    ∃ s, run (always IPHeaderState.next) (.start (sourceOnly ![10, 0, 0, 1]))
        [.attach (some 0), .getSource, .poke (sourceOnly ![0, 0, 0, 0])] = some s ∧
      s.header.m_ipHeader = some 0 ∧
      (s.header.getSourceAddress s.mem).1.getAddressBytes = [10, 0, 0, 1] ∧
      (s.header.getSourceAddress s.mem).1 ≠ .v4 fun i => s.mem (0 + 12 + i) := by
  refine ⟨_, rfl, rfl, by decide, fun h => ?_⟩
  exact absurd (congrArg IPAddress.getAddressBytes h) (by decide)

end DivertNet
