import DivertNet.Address
import DivertNet.IPv6Header
import DivertNet.Library.LastMatch
import Mathlib.Tactic.IntervalCases

/-!
# The owner tables, and `GetPacketProcess`

`Diversion::GetPacketProcess` names the process behind a packet. It asks the system for
the table of open endpoints – one of four, by transport and by family – and scans it for
the row that belongs to the packet. The table lives in a block that the header object
owns and keeps from one call to the next, in a *slot*, and the query that fills it is
made in two attempts: with the block at hand, and, if the system says it is too small,
with a new one of the size the system asked for.

The four overloads are one code four times over, with their own row type, their own
query, their own texts and their own test of a row. `DivertNet.queryTable` is the query
and `DivertNet.getPacketProcess` the whole of it; `DivertNet.getPacketProcessTcp4` and its
three companions supply what differs.

The loop over the rows assigns `processId` from every row that passes the test: the
`break` after the assignment leaves the `switch`, not the loop. That makes it a
`LastMatch.scan`.
-/

namespace DivertNet

open LittleEndian

/-! ### The rows -/

/-- `IN6_ADDR`: sixteen bytes. -/
abbrev In6Addr := Fin 16 → Byte

/-- The columns of `MIB_TCPROW2` the scan looks at. Addresses and ports are in network
byte order, a port in the low half of its column. -/
structure MibTcpRow2 where
  dwLocalAddr : BitVec 32
  dwLocalPort : BitVec 32
  dwRemoteAddr : BitVec 32
  dwRemotePort : BitVec 32
  dwOwningPid : BitVec 32
  deriving DecidableEq

/-- The columns of `MIB_TCP6ROW2` the scan looks at. -/
structure MibTcp6Row2 where
  localAddr : In6Addr
  dwLocalPort : BitVec 32
  remoteAddr : In6Addr
  dwRemotePort : BitVec 32
  dwOwningPid : BitVec 32

/-- The columns of `MIB_UDPROW_OWNER_PID`. -/
structure MibUdpRowOwnerPid where
  dwLocalAddr : BitVec 32
  dwLocalPort : BitVec 32
  dwOwningPid : BitVec 32
  deriving DecidableEq

/-- The columns of `MIB_UDP6ROW_OWNER_PID`. -/
structure MibUdp6RowOwnerPid where
  ucLocalAddr : In6Addr
  dwLocalPort : BitVec 32
  dwOwningPid : BitVec 32

/-! ### Blocks and slots -/

/-- The blocks the tables live in: which are allocated, and the frees of a block that was
not. -/
structure TableHeap where
  next : ℕ
  live : List ℕ
  badFrees : List ℕ
  deriving DecidableEq, Repr

namespace TableHeap

/-- `malloc`, where it succeeds: a block not handed out before. -/
def malloc (h : TableHeap) : TableHeap × ℕ :=
  ({ h with next := h.next + 1, live := h.next :: h.live }, h.next)

/-- `free`. -/
def free (h : TableHeap) (id : ℕ) : TableHeap :=
  if id ∈ h.live then { h with live := h.live.erase id }
  else { h with badFrees := id :: h.badFrees }

end TableHeap

variable {ρ : Type}

/-- A block holding a table: its identity, the size it was allocated with, and the rows
its bytes currently spell. -/
structure TableBlock (ρ : Type) where
  id : ℕ
  size : BitVec 32
  rows : List ρ

/-- `ERROR_INSUFFICIENT_BUFFER`. -/
def errorInsufficientBuffer : BitVec 32 := 122

/-- `NOERROR`, which is `NO_ERROR`. -/
def noError : BitVec 32 := 0

/-- What a table query does: its return code, the size it leaves in `currentTableSize`, and
the rows it writes into the block, if it writes. -/
structure QueryReply (ρ : Type) where
  dwRetVal : BitVec 32
  size : BitVec 32
  rows : Option (List ρ)

/-- The block after a query. -/
def TableBlock.fill (t : TableBlock ρ) (r : QueryReply ρ) : TableBlock ρ :=
  { t with rows := r.rows.getD t.rows }

/-- What the system answers during one call: the two allocations, each with the rows the
fresh block happens to spell, and the two queries, by the size they are made with. -/
structure TableQuery (ρ : Type) where
  malloc₁ : Option (List ρ)
  query₁ : BitVec 32 → QueryReply ρ
  malloc₂ : Option (List ρ)
  query₂ : BitVec 32 → QueryReply ρ

/-- What differs between the queries of the four overloads: the size first allocated, and
the texts of the three exceptions. -/
structure TableApi where
  initialSize : BitVec 32
  allocateFailed : String
  reallocateFailed : String
  populateFailed : String

/-- What the query leaves: the blocks, the slot, and the table to scan or an exception. -/
structure QueryOutcome (ρ : Type) where
  heap : TableHeap
  slot : Option (TableBlock ρ)
  result : Except ClrException (TableBlock ρ)

/-- The two attempts, on the block in the slot. The return code is looked at after the
second attempt only. -/
def fillTable (api : TableApi) (q : TableQuery ρ) (heap : TableHeap) (t : TableBlock ρ)
    (currentTableSize : BitVec 32) : QueryOutcome ρ :=
  let r₁ := q.query₁ currentTableSize
  if r₁.dwRetVal = errorInsufficientBuffer then
    -- the block is too small: free it and allocate one of the size reported
    let heap := heap.free t.id
    match q.malloc₂ with
    | none => ⟨heap, none, .error (.exception api.reallocateFailed)⟩
    | some garbage =>
      let (heap, id) := heap.malloc
      let r₂ := q.query₂ r₁.size
      let t := TableBlock.fill ⟨id, r₁.size, garbage⟩ r₂
      if r₂.dwRetVal ≠ noError then
        ⟨heap, some t, .error (.exception api.populateFailed)⟩
      else ⟨heap, some t, .ok t⟩
  -- success, or any other error: the rows are scanned as they are
  else ⟨heap, some (t.fill r₁), .ok (t.fill r₁)⟩

/-- **The table query**: allocate a first block if the slot is empty, and fill it. The size
handed to the query is the size of the block only when the block is new; for a block kept
from an earlier call it is zero. -/
def queryTable (api : TableApi) (q : TableQuery ρ) (heap : TableHeap)
    (slot : Option (TableBlock ρ)) : QueryOutcome ρ :=
  match slot with
  -- `currentTableSize` has not been assigned yet
  | some t => fillTable api q heap t 0
  | none =>
    match q.malloc₁ with
    | none => ⟨heap, none, .error (.exception api.allocateFailed)⟩
    | some garbage =>
      let (heap, id) := heap.malloc
      fillTable api q heap ⟨id, api.initialSize, garbage⟩ api.initialSize

/-! ### The name of a process -/

/-- What the system says about a process: whether it can be opened, and the path of its
image. -/
structure ProcessLookup where
  openProcess : BitVec 32 → Bool
  imageName : BitVec 32 → Option String

/-- `Diversion::GetProcessName`. -/
def getProcessName (lookup : ProcessLookup) (processId : BitVec 32) : String :=
  if lookup.openProcess processId then (lookup.imageName processId).getD "SYSTEM" else "SYSTEM"

/-! ### `Diversion::GetPacketProcess` -/

/-- What a call of `GetPacketProcess` leaves: the blocks, the slot, the loop over the rows
(its variable is `processId`), `processName`, and how the call ended. -/
structure ProcessResult (ρ : Type) where
  heap : TableHeap
  slot : Option (TableBlock ρ)
  scan : LastMatch.Scan ρ (BitVec 32) ClrException
  processName : Option String
  outcome : Except ClrException Unit

/-- The caller's `processId` after the call. -/
def ProcessResult.processId (r : ProcessResult ρ) : BitVec 32 := r.scan.value

/-- **`Diversion::GetPacketProcess`**, with what differs between the overloads: the query,
the test of a row and its owner. -/
def getPacketProcess (api : TableApi) (test : ρ → Except ClrException Bool)
    (owner : ρ → BitVec 32) (lookup : ProcessLookup) (q : TableQuery ρ) (heap : TableHeap)
    (slot : Option (TableBlock ρ)) (processId : BitVec 32) (processName : Option String) :
    ProcessResult ρ :=
  let query := queryTable api q heap slot
  match query.result with
  | .error e => ⟨query.heap, query.slot, LastMatch.start processId, processName, .error e⟩
  | .ok t =>
    let scan := LastMatch.scan test owner t.rows (LastMatch.start processId)
    match scan.fault with
    -- a fault leaves `processId` as far as the loop got
    | some e => ⟨query.heap, query.slot, scan, processName, .error e⟩
    | none => ⟨query.heap, query.slot, scan, some (getProcessName lookup scan.value), .ok ()⟩

/-- The header pointer behind an object, as the loops use it: without a check. -/
def deref (hdr : Option ℕ) : Except ClrException ℕ :=
  match hdr with
  | none => .error .accessViolation
  | some p => .ok p

/-- The port in a column, `static_cast<u_short>(dwLocalPort & 0xFFFF)`. -/
def maskedPort (column : BitVec 32) : BitVec 16 := (column &&& 0xFFFF).setWidth 16

/-- The port in a column where the source only narrows, `static_cast<u_short>(dwRemotePort)`. -/
def narrowedPort (column : BitVec 32) : BitVec 16 := column.setWidth 16

/-- Both ways of reading a port column keep its low sixteen bits. -/
theorem maskedPort_eq (column : BitVec 32) : maskedPort column = narrowedPort column := by
  refine BitVec.eq_of_getLsbD_eq fun i hi => ?_
  have hmask : (0xFFFF : BitVec 32).getLsbD i = true := by interval_cases i <;> rfl
  simp only [maskedPort, narrowedPort, BitVec.getLsbD_setWidth, BitVec.getLsbD_and, hmask,
    Bool.and_true]

/-- `std::memcmp`, on its first `n` bytes. -/
def memcmp (s t : ℕ → Byte) : ℕ → Int
  | 0 => 0
  | n + 1 =>
    match memcmp s t n with
    | 0 => if s n = t n then 0 else if s n < t n then -1 else 1
    | c => c

/-- `memcmp` returns zero exactly on equal bytes. -/
theorem memcmp_eq_zero_iff (s t : ℕ → Byte) (n : ℕ) :
    memcmp s t n = 0 ↔ ∀ i < n, s i = t i := by
  induction n with
  | zero => simp [memcmp]
  | succ n ih =>
    rw [memcmp]
    by_cases hn : memcmp s t n = 0
    · rw [hn]
      simp only
      by_cases hlast : s n = t n
      · rw [if_pos hlast]
        refine iff_of_true rfl fun i hi => ?_
        rcases Nat.lt_succ_iff_lt_or_eq.mp hi with hlt | rfl
        · exact ih.mp hn i hlt
        · exact hlast
      · rw [if_neg hlast]
        refine iff_of_false ?_ fun h => hlast (h n (Nat.lt_succ_self n))
        split <;> decide
    · refine iff_of_false ?_ fun h => hn (ih.mpr fun i hi => h i (by omega))
      split
      · contradiction
      · exact hn

/-- The byte `i` of an `IN6_ADDR`. -/
def In6Addr.byte (a : In6Addr) (i : ℕ) : Byte := if h : i < 16 then a ⟨i, h⟩ else 0

/-! ### The header objects that own a table -/

/-- A `TCPHeader` object: the pointer into the packet, and the two table slots. -/
structure TCPHeader where
  m_tcpHeader : Option ℕ
  m_tcpv4Table : Option (TableBlock MibTcpRow2)
  m_tcpv6Table : Option (TableBlock MibTcp6Row2)

/-- A `UDPHeader` object. -/
structure UDPHeader where
  m_udpHeader : Option ℕ
  m_udpv4Table : Option (TableBlock MibUdpRowOwnerPid)
  m_udpv6Table : Option (TableBlock MibUdp6RowOwnerPid)

/-! ### The four overloads -/

section Tests

variable (m : Mem) (matchSrcPort : Bool)

/-- The body of the loop of the TCP overload for IPv4. Inbound, the port is compared with
the local column and the address with the remote one. -/
def testTcp4 (tcpHeader : TCPHeader) (ipv4Header : IPHeader) (row : MibTcpRow2) :
    Except ClrException Bool := do
  let tcp ← deref tcpHeader.m_tcpHeader
  if matchSrcPort then
    if maskedPort row.dwLocalPort = TCPHeader.srcPort.read m tcp then
      let ip ← deref ipv4Header.m_ipHeader
      return row.dwLocalAddr == IPHeader.srcAddr.read m ip
    else return false
  else
    if maskedPort row.dwLocalPort = TCPHeader.dstPort.read m tcp then
      let ip ← deref ipv4Header.m_ipHeader
      -- the remote column, although the port was the local one
      return row.dwRemoteAddr == IPHeader.dstAddr.read m ip
    else return false

/-- The body of the loop of the TCP overload for IPv6. Inbound, both columns are the
remote ones; the addresses are compared on four bytes. -/
def testTcp6 (tcpHeader : TCPHeader) (ipv6Header : IPv6Header) (row : MibTcp6Row2) :
    Except ClrException Bool := do
  let tcp ← deref tcpHeader.m_tcpHeader
  if matchSrcPort then
    if maskedPort row.dwLocalPort = TCPHeader.srcPort.read m tcp then
      let ip ← deref ipv6Header.m_ipv6Header
      return memcmp (fun i => m (ip + 8 + i)) row.localAddr.byte 4 == 0
    else return false
  else
    -- here the port is the remote one, too
    if narrowedPort row.dwRemotePort = TCPHeader.dstPort.read m tcp then
      let ip ← deref ipv6Header.m_ipv6Header
      return memcmp (fun i => m (ip + 24 + i)) row.remoteAddr.byte 4 == 0
    else return false

/-- The body of the loop of both UDP overloads, which look at the local port alone. -/
def testUdp (udpHeader : UDPHeader) (dwLocalPort : BitVec 32) : Except ClrException Bool := do
  let udp ← deref udpHeader.m_udpHeader
  if matchSrcPort then
    return maskedPort dwLocalPort == UDPHeader.srcPort.read m udp
  else
    return maskedPort dwLocalPort == UDPHeader.dstPort.read m udp

end Tests

/-- `address->Direction == DivertDirection::Outbound`. -/
def matchSrcPort (address : Address) : Bool := address.direction == .outbound

/-- The first allocation of both TCP overloads is `sizeof(PMIB_TCPTABLE2)`, the size of a
pointer; eight bytes on the 64-bit build. -/
def sizeofPointer : BitVec 32 := 8

def apiTcp4 : TableApi where
  initialSize := sizeofPointer
  allocateFailed :=
    "In Diversion::GetPacketProcess(TCPHeader^, IPHeader^, uint64_t%, System::String^) - " ++
      "Failed to allocate TCPTABLE2."
  reallocateFailed :=
    "In Diversion::GetPacketProcess(TCPHeader^, IPHeader^, uint64_t%, System::String^) - " ++
      "Failed to reallocate TCPTABLE2."
  populateFailed :=
    "In Diversion::GetPacketProcess(TCPHeader^, IPHeader^, uint64_t%, System::String^) - " ++
      "Error populating TCPTABLE2."

def apiTcp6 : TableApi where
  initialSize := sizeofPointer
  allocateFailed :=
    "In Diversion::GetPacketProcess(TCPHeader^, IPv6Header^, uint64_t%, System::String^) - " ++
      "Failed to allocate TCPTABLE2."
  reallocateFailed :=
    "In Diversion::GetPacketProcess(TCPHeader^, IPv6Header^, uint64_t%, System::String^) - " ++
      "Failed to reallocate TCPTABLE2."
  populateFailed :=
    "In Diversion::GetPacketProcess(TCPHeader^, IPv6Header^, uint64_t%, System::String^) - " ++
      "Error populating TCPTABLE2."

/-- The UDP overloads allocate a table of one row first. -/
def apiUdp4 : TableApi where
  initialSize := 16
  allocateFailed :=
    "In Diversion::GetPacketProcess(UDPHeader^, IPHeader^, uint64_t%, System::String^) - " ++
      "Failed to allocate MIB_UDPTABLE_OWNER_PID."
  reallocateFailed :=
    "In Diversion::GetPacketProcess(UDPHeader^, IPHeader^, uint64_t%, System::String^) - " ++
      "Failed to reallocate MIB_UDPTABLE_OWNER_PID."
  populateFailed :=
    "In Diversion::GetPacketProcess(UDPHeader^, IPHeader^, uint64_t%, System::String^) - " ++
      "Error populating MIB_UDPTABLE_OWNER_PID."

def apiUdp6 : TableApi where
  initialSize := 32
  allocateFailed :=
    "In Diversion::GetPacketProcess(UDPHeader^, IPv6Header^, uint64_t%, System::String^) - " ++
      "Failed to allocate MIB_UDP6TABLE_OWNER_PID."
  reallocateFailed :=
    "In Diversion::GetPacketProcess(UDPHeader^, IPv6Header^, uint64_t%, System::String^) - " ++
      "Failed to reallocate MIB_UDP6TABLE_OWNER_PID."
  populateFailed :=
    "In Diversion::GetPacketProcess(UDPHeader^, IPv6Header^, uint64_t%, System::String^) - " ++
      "Error populating MIB_UDP6TABLE_OWNER_PID."

section Overloads

variable (lookup : ProcessLookup) (m : Mem) (address : Address)

/-- `GetPacketProcess(Address^, TCPHeader^, IPHeader^, ULONG%, String^%)`. -/
def getPacketProcessTcp4 (tcpHeader : TCPHeader) (ipv4Header : IPHeader) :
    TableQuery MibTcpRow2 → TableHeap → BitVec 32 → Option String → ProcessResult MibTcpRow2 :=
  fun q heap =>
    getPacketProcess apiTcp4 (testTcp4 m (matchSrcPort address) tcpHeader ipv4Header)
      MibTcpRow2.dwOwningPid lookup q heap tcpHeader.m_tcpv4Table

/-- `GetPacketProcess(Address^, TCPHeader^, IPv6Header^, ULONG%, String^%)`. -/
def getPacketProcessTcp6 (tcpHeader : TCPHeader) (ipv6Header : IPv6Header) :
    TableQuery MibTcp6Row2 → TableHeap → BitVec 32 → Option String → ProcessResult MibTcp6Row2 :=
  fun q heap =>
    getPacketProcess apiTcp6 (testTcp6 m (matchSrcPort address) tcpHeader ipv6Header)
      MibTcp6Row2.dwOwningPid lookup q heap tcpHeader.m_tcpv6Table

/-- `GetPacketProcess(Address^, UDPHeader^, IPHeader^, ULONG%, String^%)`. The IPv4 header
is not looked at. -/
def getPacketProcessUdp4 (udpHeader : UDPHeader) (_ipv4Header : IPHeader) :
    TableQuery MibUdpRowOwnerPid → TableHeap → BitVec 32 → Option String →
      ProcessResult MibUdpRowOwnerPid :=
  fun q heap =>
    getPacketProcess apiUdp4 (fun row => testUdp m (matchSrcPort address) udpHeader row.dwLocalPort)
      MibUdpRowOwnerPid.dwOwningPid lookup q heap udpHeader.m_udpv4Table

/-- `GetPacketProcess(Address^, UDPHeader^, IPv6Header^, ULONG%, String^%)`. The IPv6
header is not looked at. -/
def getPacketProcessUdp6 (udpHeader : UDPHeader) (_ipv6Header : IPv6Header) :
    TableQuery MibUdp6RowOwnerPid → TableHeap → BitVec 32 → Option String →
      ProcessResult MibUdp6RowOwnerPid :=
  fun q heap =>
    getPacketProcess apiUdp6 (fun row => testUdp m (matchSrcPort address) udpHeader row.dwLocalPort)
      MibUdp6RowOwnerPid.dwOwningPid lookup q heap udpHeader.m_udpv6Table

end Overloads

/-! ### What a call scans -/

section Scans

variable {api : TableApi} {test : ρ → Except ClrException Bool} {owner : ρ → BitVec 32}
  {lookup : ProcessLookup} {q : TableQuery ρ} {heap : TableHeap} {slot : Option (TableBlock ρ)}
  {pid : BitVec 32} {name : Option String} {t : TableBlock ρ}

/-- A query that hands over a table leaves it in the slot. -/
theorem slot_of_queryTable (h : (queryTable api q heap slot).result = .ok t) :
    (queryTable api q heap slot).slot = some t := by
  have hfill : ∀ heap t₀ size, (fillTable api q heap t₀ size).result = .ok t →
      (fillTable api q heap t₀ size).slot = some t := by
    intro heap t₀ size h
    simp only [fillTable] at h ⊢
    split at h
    · rename_i hins
      rw [if_pos hins]
      split at h
      · cases h
      · split at h
        · cases h
        · rename_i hok
          rw [if_neg hok]
          exact congrArg some (Except.ok.inj h)
    · rename_i hins
      rw [if_neg hins]
      exact congrArg some (Except.ok.inj h)
  cases slot with
  | some t₀ => exact hfill heap t₀ 0 h
  | none =>
    simp only [queryTable] at h ⊢
    cases hm : q.malloc₁ with
    | none => rw [hm] at h; cases h
    | some garbage => rw [hm] at h; exact hfill _ _ _ h

/-- **A call scans the table its query hands over**, from the caller's `processId` on. -/
theorem scan_getPacketProcess (h : (queryTable api q heap slot).result = .ok t) :
    (getPacketProcess api test owner lookup q heap slot pid name).scan =
      LastMatch.scan test owner t.rows (LastMatch.start pid) := by
  simp only [getPacketProcess, h]
  cases (LastMatch.scan test owner t.rows (LastMatch.start pid)).fault <;> rfl

/-- **A call that returns has scanned the table in the slot** to its end, and named the
process it ended with. -/
theorem scan_of_returns
    (h : (getPacketProcess api test owner lookup q heap slot pid name).outcome = .ok ()) :
    ∃ t, (getPacketProcess api test owner lookup q heap slot pid name).slot = some t ∧
      (getPacketProcess api test owner lookup q heap slot pid name).scan =
        LastMatch.scan test owner t.rows (LastMatch.start pid) ∧
      (LastMatch.scan test owner t.rows (LastMatch.start pid)).fault = none ∧
      (getPacketProcess api test owner lookup q heap slot pid name).processName =
        some (getProcessName lookup
          (getPacketProcess api test owner lookup q heap slot pid name).processId) := by
  simp only [getPacketProcess] at h ⊢
  cases hq : (queryTable api q heap slot).result with
  | error e =>
    rw [hq] at h
    cases h
  | ok t =>
    rw [hq] at h
    simp only at h ⊢
    cases hfault : (LastMatch.scan test owner t.rows (LastMatch.start pid)).fault with
    | some e =>
      rw [hfault] at h
      cases h
    | none => exact ⟨t, slot_of_queryTable hq, rfl, hfault, rfl⟩

end Scans

end DivertNet
