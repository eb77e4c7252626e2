import DivertNet.OwnerTable

/-!
# Which process a TCP packet is attributed to

A packet belongs to the process that owns the endpoint at its end on this host: the
source of an outbound packet, the destination of an inbound one. The owner table lists
the endpoints of this host in its *local* columns. So the rows a scan should take the
owner from are those whose local endpoint is the packet's, `DivertNet.localEndpoint4` and
`DivertNet.localEndpoint6`, and nothing else in a row matters.

| scan | direction | port | address |
|---|---|---|---|
| IPv4 | outbound | local | local |
| IPv4 | inbound | local | **remote** |
| IPv6 | outbound | local | local, **four bytes** |
| IPv6 | inbound | **remote** | **remote, four bytes** |

The table shows which columns are compared instead. Only the outbound scan for IPv4 is the
attribution (`DivertNet.attributesRow_tcp4_iff`); the others are right on the tables in
which the columns they look at happen to single out the same rows, which both theorems
spell out.
-/

namespace DivertNet

open LittleEndian LastMatch

/-! ### Endpoints -/

/-- An address and a port, both in network byte order. -/
@[ext]
structure Endpoint (α : Type) where
  address : α
  port : BitVec 16
  deriving DecidableEq

/-- Bytes from an address on, as an `IN6_ADDR`. -/
def in6AddrAt (m : Mem) (a : ℕ) : In6Addr := fun i => m (a + i)

section Packet

variable (m : Mem) (address : Address) (ip tcp : ℕ)

/-- **The end of an IPv4 packet on this host**. -/
def localEndpoint4 : Endpoint (BitVec 32) :=
  if address.direction = .outbound then
    ⟨IPHeader.srcAddr.read m ip, TCPHeader.srcPort.read m tcp⟩
  else ⟨IPHeader.dstAddr.read m ip, TCPHeader.dstPort.read m tcp⟩

/-- **The end of an IPv6 packet on this host**, its address being all sixteen bytes. -/
def localEndpoint6 : Endpoint In6Addr :=
  if address.direction = .outbound then
    ⟨in6AddrAt m (ip + 8), TCPHeader.srcPort.read m tcp⟩
  else ⟨in6AddrAt m (ip + 24), TCPHeader.dstPort.read m tcp⟩

end Packet

/-- The endpoint a row is about. -/
def MibTcpRow2.localEndpoint (row : MibTcpRow2) : Endpoint (BitVec 32) :=
  ⟨row.dwLocalAddr, narrowedPort row.dwLocalPort⟩

/-- The endpoint a row is about. -/
def MibTcp6Row2.localEndpoint (row : MibTcp6Row2) : Endpoint In6Addr :=
  ⟨row.localAddr, narrowedPort row.dwLocalPort⟩

/-- The endpoint at the other end of its connection. -/
def MibTcp6Row2.remoteEndpoint (row : MibTcp6Row2) : Endpoint In6Addr :=
  ⟨row.remoteAddr, narrowedPort row.dwRemotePort⟩

/-- The same port, and addresses with the same first four bytes. -/
def Endpoint.SharePrefix (e e' : Endpoint In6Addr) : Prop :=
  e.port = e'.port ∧ ∀ i : Fin 16, (i : ℕ) < 4 → e.address i = e'.address i

theorem Endpoint.SharePrefix.refl (e : Endpoint In6Addr) : e.SharePrefix e :=
  ⟨rfl, fun _ _ => rfl⟩

/-! ### Calls to look at -/

/-- A query that succeeds at the first attempt. -/
def answer (rows : List ρ) : TableQuery ρ where
  malloc₁ := some []
  query₁ size := ⟨noError, size, some rows⟩
  malloc₂ := none
  query₂ size := ⟨noError, size, none⟩

/-- A system in which no process can be opened. -/
def noLookup : ProcessLookup := ⟨fun _ => false, fun _ => none⟩

def noBlocks : TableHeap := ⟨0, [], []⟩

/-- The object `Address` of a packet in a direction. -/
def addressOf (d : DivertDirection) : Address := ⟨some ⟨0, 0, d.value⟩⟩

def tcpAt (p : ℕ) : TCPHeader := ⟨some p, none, none⟩

/-- Comparing the port first and the address only where it agrees. -/
theorem ite_ok_false {ε : Type} (port port' : BitVec 16) (a : Bool) :
    (if port = port' then .ok a else .ok false : Except ε Bool) = .ok (port == port' && a) := by
  split
  · rename_i h
    rw [h, beq_self_eq_true, Bool.true_and]
  · rename_i h
    rw [beq_false_of_ne h, Bool.false_and]

/-! ### The IPv4 scan -/

section Tcp4

variable {address : Address} {tcpHeader : TCPHeader} {ipv4Header : IPHeader}
  {ip tcp : ℕ}

/-- The address column the IPv4 scan compares, by direction. -/
def comparedAddr4 (address : Address) (row : MibTcpRow2) : BitVec 32 :=
  if address.direction = .outbound then row.dwLocalAddr else row.dwRemoteAddr

/-- **The test of the IPv4 scan**: the local port, and the compared address column, are
those of the packet's end on this host. -/
theorem testTcp4_eq_ok (m : Mem) (address : Address) (hip : ipv4Header.m_ipHeader = some ip)
    (htcp : tcpHeader.m_tcpHeader = some tcp) :
    ∃ p : MibTcpRow2 → Bool,
      testTcp4 m (matchSrcPort address) tcpHeader ipv4Header = (fun row => .ok (p row)) ∧
        ∀ row, p row = true ↔
          row.localEndpoint.port = (localEndpoint4 m address ip tcp).port ∧
            comparedAddr4 address row = (localEndpoint4 m address ip tcp).address := by
  -- the two cases of the `switch` compare different columns
  rcases eq_or_ne address.direction .outbound with hdir | hdir
  · refine ⟨fun row => narrowedPort row.dwLocalPort == TCPHeader.srcPort.read m tcp &&
      row.dwLocalAddr == IPHeader.srcAddr.read m ip, ?_, fun row => ?_⟩
    · ext1 row
      simp only [testTcp4, hip, htcp, deref, maskedPort_eq, matchSrcPort, hdir, bind, Except.bind,
        pure, Except.pure, beq_self_eq_true, if_true]
      exact ite_ok_false _ _ _
    · simp only [Bool.and_eq_true, beq_iff_eq, comparedAddr4, localEndpoint4, hdir, if_true]
      rfl
  · refine ⟨fun row => narrowedPort row.dwLocalPort == TCPHeader.dstPort.read m tcp &&
      row.dwRemoteAddr == IPHeader.dstAddr.read m ip, ?_, fun row => ?_⟩
    · ext1 row
      simp only [testTcp4, hip, htcp, deref, maskedPort_eq, matchSrcPort, beq_false_of_ne hdir,
        bind, Except.bind, pure, Except.pure, Bool.false_eq_true, if_false]
      exact ite_ok_false _ _ _
    · simp only [Bool.and_eq_true, beq_iff_eq, comparedAddr4, localEndpoint4, hdir, if_false]
      rfl

/-- **The remote column singles out the endpoint**: among the rows on the port of `e`, one
with the address of `e` as its remote address has it as its local address, and if any
row is about `e`, some row on that port has the address of `e` as its remote address. -/
def RemoteAddrSinglesOut (e : Endpoint (BitVec 32)) (rows : List MibTcpRow2) : Prop :=
  (∀ row ∈ rows, row.localEndpoint.port = e.port → row.dwRemoteAddr = e.address →
      row.dwLocalAddr = e.address) ∧
    ((∃ row ∈ rows, row.localEndpoint = e) →
      ∃ row ∈ rows, row.localEndpoint.port = e.port ∧ row.dwRemoteAddr = e.address)

/-- **When an IPv4 packet is attributed to its endpoint**: whatever the table, `processId`
is set from a row about the packet's end on this host whenever there is one, is set from no
other row, and ends as the caller passed it where it is set from none, exactly when the packet
is outbound or the remote column singles that endpoint out. -/
theorem attributesRow_tcp4_iff (lookup : ProcessLookup) (m : Mem) (address : Address)
    (hip : ipv4Header.m_ipHeader = some ip) (htcp : tcpHeader.m_tcpHeader = some tcp)
    {q : TableQuery MibTcpRow2} {heap : TableHeap} {t : TableBlock MibTcpRow2}
    (hq : (queryTable apiTcp4 q heap tcpHeader.m_tcpv4Table).result = .ok t)
    (processId : BitVec 32) (processName : Option String) :
    AttributesRow (fun row => row.localEndpoint = localEndpoint4 m address ip tcp)
        MibTcpRow2.dwOwningPid t.rows processId
        (getPacketProcessTcp4 lookup m address tcpHeader ipv4Header q heap processId
          processName).scan ↔
      address.direction = .outbound ∨
        RemoteAddrSinglesOut (localEndpoint4 m address ip tcp) t.rows := by
  obtain ⟨p, hp, hpass⟩ := testTcp4_eq_ok m address hip htcp
  rw [getPacketProcessTcp4, scan_getPacketProcess hq, hp, attributesRow_scan_iff]
  simp only [hpass]
  -- from here on only the endpoint matters, not the packet
  generalize localEndpoint4 m address ip tcp = e
  have hlocal : ∀ row : MibTcpRow2, row.localEndpoint = e ↔
      row.localEndpoint.port = e.port ∧ row.dwLocalAddr = e.address := by
    intro row
    rcases e with ⟨a, p⟩
    simp [MibTcpRow2.localEndpoint, and_comm]
  rcases eq_or_ne address.direction .outbound with hdir | hdir
  · simp only [comparedAddr4, hdir, if_true, ← hlocal, true_or, iff_true]
    exact ⟨fun _ _ h => h, fun h => h⟩
  · simp only [comparedAddr4, hdir, if_false, false_or, RemoteAddrSinglesOut]
    refine and_congr_left fun _ => forall_congr' fun row => imp_congr_right fun _ => ?_
    rw [hlocal]
    constructor
    · exact fun h hport hrem => (h ⟨hport, hrem⟩).2
    · exact fun h hpass => ⟨hpass.1, h hpass.1 hpass.2⟩

/-! #### A connection seen from both ends -/

/-- A TCP segment from `8.8.8.8:80` to `10.0.0.1:50046`. -/
def segment4 : Mem :=
  ofBytes [0x45, 0, 0, 40, 0, 0, 0x40, 0, 64, 6, 0, 0, 8, 8, 8, 8, 10, 0, 0, 1,
    0, 80, 0xC3, 0x7E, 0, 0, 0, 1, 0, 0, 0, 0, 0x50, 2, 0xFF, 0xFF, 0, 0, 0, 0]

/-- The connection it belongs to, as the table of `10.0.0.1` lists it. -/
def connection4 : MibTcpRow2 where
  dwLocalAddr := 0x0100000A
  dwLocalPort := 0x7EC3
  dwRemoteAddr := 0x08080808
  dwRemotePort := 0x5000
  dwOwningPid := 4711

/-- The connection as the table of `8.8.8.8` lists it, owned by another process. -/
def connection4' : MibTcpRow2 where
  dwLocalAddr := 0x08080808
  dwLocalPort := 0x5000
  dwRemoteAddr := 0x0100000A
  dwRemotePort := 0x7EC3
  dwOwningPid := 815

/-- The call for that segment. -/
def process4 (d : DivertDirection) (rows : List MibTcpRow2) : ProcessResult MibTcpRow2 :=
  getPacketProcessTcp4 noLookup segment4 (addressOf d) (tcpAt 20)
    (IPHeader.new.setUnmanagedHeader (some 0)) (answer rows) noBlocks 0 none

/-- Outbound on `8.8.8.8`, the segment is attributed to the process that owns its source. -/
theorem attributesRow_tcp4_outbound :
    AttributesRow
      (fun row => row.localEndpoint = localEndpoint4 segment4 (addressOf .outbound) 0 20)
      MibTcpRow2.dwOwningPid [connection4'] 0 (process4 .outbound [connection4']).scan :=
  have hip : (IPHeader.new.setUnmanagedHeader (some 0)).m_ipHeader = some 0 := rfl
  have htcp : (tcpAt 20).m_tcpHeader = some 20 := rfl
  have hq : (queryTable apiTcp4 (answer [connection4']) noBlocks none).result =
      .ok ⟨0, sizeofPointer, [connection4']⟩ := rfl
  (attributesRow_tcp4_iff noLookup segment4 (addressOf .outbound) hip htcp hq 0 none).mpr (.inl rfl)

/-- **A connection inbound that is not attributed**: on `10.0.0.1` the segment arrives, the
table lists its connection, and `processId` is not set. -/
theorem not_attributesRow_tcp4_inbound :
    ¬AttributesRow
      (fun row => row.localEndpoint = localEndpoint4 segment4 (addressOf .inbound) 0 20)
      MibTcpRow2.dwOwningPid [connection4] 0 (process4 .inbound [connection4]).scan := by
  rintro ⟨-, -, hcomplete⟩
  obtain ⟨row, hrow, -⟩ := hcomplete ⟨connection4, by decide, by decide⟩
  rw [show (process4 .inbound [connection4]).scan.setFrom = [] by decide] at hrow
  exact absurd hrow List.not_mem_nil

end Tcp4

/-! ### The IPv6 scan -/

section Tcp6

variable {address : Address} {tcpHeader : TCPHeader} {ipv6Header : IPv6Header}
  {ip tcp : ℕ}

/-- The endpoint of a row the IPv6 scan looks at, by direction. -/
def comparedEndpoint6 (address : Address) (row : MibTcp6Row2) : Endpoint In6Addr :=
  if address.direction = .outbound then row.localEndpoint else row.remoteEndpoint

/-- Four equal bytes, as `memcmp` finds them. -/
theorem memcmp_four_iff (m : Mem) (a : ℕ) (x : In6Addr) :
    memcmp (fun i => m (a + i)) x.byte 4 = 0 ↔
      ∀ i : Fin 16, (i : ℕ) < 4 → x i = in6AddrAt m a i := by
  rw [memcmp_eq_zero_iff]
  constructor
  · intro h i hi
    have hbyte := h i hi
    rw [In6Addr.byte, dif_pos i.isLt] at hbyte
    exact hbyte.symm
  · intro h i hi
    rw [In6Addr.byte, dif_pos (show i < 16 by omega)]
    exact (h ⟨i, by omega⟩ hi).symm

/-- **The test of the IPv6 scan**: the compared endpoint has the port and the first four
address bytes of the packet's end on this host. -/
theorem testTcp6_eq_ok (m : Mem) (address : Address) (hip : ipv6Header.m_ipv6Header = some ip)
    (htcp : tcpHeader.m_tcpHeader = some tcp) :
    ∃ p : MibTcp6Row2 → Bool,
      testTcp6 m (matchSrcPort address) tcpHeader ipv6Header = (fun row => .ok (p row)) ∧
        ∀ row, p row = true ↔
          (comparedEndpoint6 address row).SharePrefix (localEndpoint6 m address ip tcp) := by
  rcases eq_or_ne address.direction .outbound with hdir | hdir
  · refine ⟨fun row => narrowedPort row.dwLocalPort == TCPHeader.srcPort.read m tcp &&
      memcmp (fun i => m (ip + 8 + i)) row.localAddr.byte 4 == 0, ?_, fun row => ?_⟩
    · ext1 row
      simp only [testTcp6, hip, htcp, deref, maskedPort_eq, matchSrcPort, hdir, bind, Except.bind,
        pure, Except.pure, beq_self_eq_true, if_true]
      exact ite_ok_false _ _ _
    · simp only [Bool.and_eq_true, beq_iff_eq, memcmp_four_iff, comparedEndpoint6, localEndpoint6,
        hdir, if_true]
      rfl
  · refine ⟨fun row => narrowedPort row.dwRemotePort == TCPHeader.dstPort.read m tcp &&
      memcmp (fun i => m (ip + 24 + i)) row.remoteAddr.byte 4 == 0, ?_, fun row => ?_⟩
    · ext1 row
      simp only [testTcp6, hip, htcp, deref, matchSrcPort, beq_false_of_ne hdir, bind, Except.bind,
        pure, Except.pure, Bool.false_eq_true, if_false]
      exact ite_ok_false _ _ _
    · simp only [Bool.and_eq_true, beq_iff_eq, memcmp_four_iff, comparedEndpoint6, localEndpoint6,
        hdir, if_false]
      rfl

/-- **The prefix decides the owner**: a row whose compared endpoint shares port and prefix
with `e` has the owner of a row about `e`, and if any row is about `e`, some row does so. -/
def PrefixDecidesOwner (address : Address) (e : Endpoint In6Addr) (rows : List MibTcp6Row2) :
    Prop :=
  (∀ row ∈ rows, (comparedEndpoint6 address row).SharePrefix e →
      ∃ l ∈ rows, l.localEndpoint = e ∧ row.dwOwningPid = l.dwOwningPid) ∧
    ((∃ l ∈ rows, l.localEndpoint = e) →
      ∃ row ∈ rows, (comparedEndpoint6 address row).SharePrefix e)

/-- **When an IPv6 packet is attributed to its endpoint**: whatever the table, `processId`
is only changed to the owner of a row about the packet's end on this host, ends as the caller
passed it or as such an owner, and is set to one whenever there is such a row, exactly when the
prefix decides the owner. -/
theorem attributesValue_tcp6_iff (lookup : ProcessLookup) (m : Mem) (address : Address)
    (hip : ipv6Header.m_ipv6Header = some ip) (htcp : tcpHeader.m_tcpHeader = some tcp)
    {q : TableQuery MibTcp6Row2} {heap : TableHeap} {t : TableBlock MibTcp6Row2}
    (hq : (queryTable apiTcp6 q heap tcpHeader.m_tcpv6Table).result = .ok t)
    (processId : BitVec 32) (processName : Option String) :
    AttributesValue (fun row => row.localEndpoint = localEndpoint6 m address ip tcp)
        MibTcp6Row2.dwOwningPid t.rows processId
        (getPacketProcessTcp6 lookup m address tcpHeader ipv6Header q heap processId
          processName).scan ↔
      PrefixDecidesOwner address (localEndpoint6 m address ip tcp) t.rows := by
  obtain ⟨p, hp, hpass⟩ := testTcp6_eq_ok m address hip htcp
  rw [getPacketProcessTcp6, scan_getPacketProcess hq, hp, attributesValue_scan_iff]
  simp only [hpass, PrefixDecidesOwner]

/-! #### Two hosts in one network -/

/-- A TCP segment from `2001:db8::1`, port 50046. -/
def segment6 : Mem :=
  ofBytes ([0x60, 0, 0, 0, 0, 20, 6, 64] ++
    [0x20, 1, 0x0D, 0xB8, 0, 0, 0, 0, 0, 0, 0, 0, 0, 0, 0, 1] ++
    [0x20, 1, 0x0D, 0xB8, 0, 0, 0, 0, 0, 0, 0, 0, 0, 0, 0, 9] ++
    [0xC3, 0x7E, 0, 80, 0, 0, 0, 1, 0, 0, 0, 0, 0x50, 2, 0xFF, 0xFF, 0, 0, 0, 0])

/-- A listener on port 50046 of the host `2001:db8::n`. -/
def listener6 (n : Byte) (pid : BitVec 32) : MibTcp6Row2 where
  localAddr := ![0x20, 1, 0x0D, 0xB8, 0, 0, 0, 0, 0, 0, 0, 0, 0, 0, 0, n]
  dwLocalPort := 0x7EC3
  remoteAddr := fun _ => 0
  dwRemotePort := 0
  dwOwningPid := pid

/-- The call for that segment, outbound. -/
def process6 (rows : List MibTcp6Row2) : ProcessResult MibTcp6Row2 :=
  getPacketProcessTcp6 noLookup segment6 (addressOf .outbound) (tcpAt 40)
    ((IPv6Header.new (fun _ => 0) fun _ => 0).setUnmanagedHeader (some 0)) (answer rows) noBlocks
    0 none

/-- With one listener on the port, the segment is attributed to it. -/
theorem attributesValue_tcp6_one :
    AttributesValue
      (fun row => row.localEndpoint = localEndpoint6 segment6 (addressOf .outbound) 0 40)
      MibTcp6Row2.dwOwningPid [listener6 1 4711] 0 (process6 [listener6 1 4711]).scan :=
  have hip : ((IPv6Header.new (fun _ => 0) fun _ => 0).setUnmanagedHeader (some 0)).m_ipv6Header =
      some 0 := rfl
  have htcp : (tcpAt 40).m_tcpHeader = some 40 := rfl
  have hrow : (listener6 1 4711).localEndpoint =
      localEndpoint6 segment6 (addressOf .outbound) 0 40 := Endpoint.ext (by decide) (by decide)
  have hq : (queryTable apiTcp6 (answer [listener6 1 4711]) noBlocks none).result =
      .ok ⟨0, sizeofPointer, [listener6 1 4711]⟩ := rfl
  (attributesValue_tcp6_iff noLookup segment6 (addressOf .outbound) hip htcp hq 0 none).mpr
    ⟨fun row hmem _ => ⟨_, List.mem_singleton_self _, hrow, List.mem_singleton.mp hmem ▸ rfl⟩,
      fun _ => ⟨_, List.mem_singleton_self _, hrow ▸ .refl _⟩⟩

/-- **A segment attributed to the neighbour**: with a listener of another process on the
same port of `2001:db8::2`, that process is taken for the sender. -/
theorem not_attributesValue_tcp6_prefix :
    ¬AttributesValue
      (fun row => row.localEndpoint = localEndpoint6 segment6 (addressOf .outbound) 0 40)
      MibTcp6Row2.dwOwningPid [listener6 1 4711, listener6 2 815] 0
      (process6 [listener6 1 4711, listener6 2 815]).scan := by
  rintro ⟨hsound, -⟩
  obtain ⟨row, hrow, hend, hpid⟩ := hsound (listener6 2 815) (by
    rw [show (process6 [listener6 1 4711, listener6 2 815]).scan.setFrom =
      [listener6 1 4711, listener6 2 815] by rfl]
    simp)
  rcases List.mem_pair.mp hrow with rfl | rfl
  · exact absurd hpid (by decide)
  · exact absurd hend (by decide)

/-- Outbound, the scan never misses an endpoint: what is left of the condition is that no
neighbour in the same `/32` on the same port has another owner. -/
theorem prefixDecidesOwner_outbound_iff (hdir : address.direction = .outbound)
    (e : Endpoint In6Addr) (rows : List MibTcp6Row2) :
    PrefixDecidesOwner address e rows ↔
      ∀ row ∈ rows, row.localEndpoint.SharePrefix e →
        ∃ l ∈ rows, l.localEndpoint = e ∧ row.dwOwningPid = l.dwOwningPid := by
  simp only [PrefixDecidesOwner, comparedEndpoint6, hdir, if_true]
  refine and_iff_left ?_
  rintro ⟨l, hl, rfl⟩
  exact ⟨l, hl, .refl _⟩

end Tcp6

end DivertNet
