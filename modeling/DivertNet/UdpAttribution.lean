import DivertNet.FirstMatch

/-!
# Which process a UDP packet is attributed to

A UDP socket is bound to a local address and a port; two processes may hold the same port on
different addresses, and a socket bound to the unspecified address takes the packets of
every address. So a packet belongs to an endpoint with its port and either its own local
address or the unspecified one: `DivertNet.Family.MayHold`.

Both UDP overloads look at the port alone, and neither looks at the IP header they are
given. The last row on the port decides, whoever it belongs to
(`DivertNet.endsAttributed_udp_iff`).
-/

namespace DivertNet

open LittleEndian LastMatch

/-- The two families of the Internet protocol. -/
inductive Family where
  | ipv4 | ipv6
  deriving DecidableEq, Repr

namespace Family

/-- The addresses of a family. -/
def Addr : Family → Type
  | .ipv4 => BitVec 32
  | .ipv6 => In6Addr

/-- The unspecified address, `0.0.0.0` or `::`. -/
def unspecified : (f : Family) → f.Addr
  | .ipv4 => (0 : BitVec 32)
  | .ipv6 => fun _ => 0

/-- The UDP overload for a family. -/
def udpOverload : Family → Overload
  | .ipv4 => .udp4
  | .ipv6 => .udp6

/-- The endpoint a row of its table is about. -/
def rowEndpoint : (f : Family) → f.udpOverload.Row → Endpoint f.Addr
  | .ipv4 => fun row : MibUdpRowOwnerPid => ⟨row.dwLocalAddr, narrowedPort row.dwLocalPort⟩
  | .ipv6 => fun row : MibUdp6RowOwnerPid => ⟨row.ucLocalAddr, narrowedPort row.dwLocalPort⟩

/-- The source address of the packet whose IP header is at `ip`. -/
def sourceAt (m : Mem) (ip : ℕ) : (f : Family) → f.Addr
  | .ipv4 => IPHeader.srcAddr.read m ip
  | .ipv6 => in6AddrAt m (ip + 8)

/-- The destination address. -/
def destinationAt (m : Mem) (ip : ℕ) : (f : Family) → f.Addr
  | .ipv4 => IPHeader.dstAddr.read m ip
  | .ipv6 => in6AddrAt m (ip + 24)

/-- **The end of a UDP packet on this host**. -/
def udpEndpoint (m : Mem) (address : Address) (ip udp : ℕ) (f : Family) : Endpoint f.Addr :=
  if address.direction = .outbound then ⟨f.sourceAt m ip, UDPHeader.srcPort.read m udp⟩
  else ⟨f.destinationAt m ip, UDPHeader.dstPort.read m udp⟩

variable {f : Family}

/-- **A row may hold an endpoint**: it is on its port, and bound to its address or to no
address in particular. -/
def MayHold (e : Endpoint f.Addr) (row : f.udpOverload.Row) : Prop :=
  (f.rowEndpoint row).port = e.port ∧
    ((f.rowEndpoint row).address = e.address ∨ (f.rowEndpoint row).address = f.unspecified)

/-- The test of the loops: the row is on the port of the endpoint. -/
def onPort (e : Endpoint f.Addr) (row : f.udpOverload.Row) : Bool :=
  (f.rowEndpoint row).port == e.port

theorem onPort_of_mayHold {e : Endpoint f.Addr} (row : f.udpOverload.Row) (h : MayHold e row) :
    onPort e row = true := beq_iff_eq.mpr h.1

/-- **Both loops test the port alone**: of the packet's end on this host the address never
matters, wherever the IP header is. -/
theorem test_udpOverload (f : Family) (m : Mem) (address : Address) {h : PacketHeaders} {udp : ℕ}
    (hudp : h.udpHeader.m_udpHeader = some udp) (ip : ℕ) :
    f.udpOverload.test m address h =
      fun row => .ok (onPort (f.udpEndpoint m address ip udp) row) := by
  funext row
  cases f with
  | ipv4 =>
    refine (Overload.testUdp_eq_ok m address hudp _).trans ?_
    simp only [onPort, udpEndpoint]
    split <;> rfl
  | ipv6 =>
    refine (Overload.testUdp_eq_ok m address hudp _).trans ?_
    simp only [onPort, udpEndpoint]
    split <;> rfl

end Family

open Family

/-! ### What the overloads do -/

section Udp

variable (f : Family) (lookup : ProcessLookup) (m : Mem) (address : Address) (h : PacketHeaders)
  {udp : ℕ} {q : TableQuery f.udpOverload.Row} {heap : TableHeap}
  {t : TableBlock f.udpOverload.Row}

/-- **When a UDP packet is attributed to its endpoint**: whatever the table, `processId` ends
as it was or with the owner of a row that may hold the packet's end on this host, and with
one whenever there is such a row, exactly when the last row on the port has the owner of
such a row, or there is none and it has the process the caller came with. -/
theorem endsAttributed_udp_iff (hudp : h.udpHeader.m_udpHeader = some udp)
    (hq : (queryTable f.udpOverload.api q heap (f.udpOverload.slot h)).result = .ok t) (ip : ℕ)
    (processId : BitVec 32) (processName : Option String) :
    EndsAttributed (MayHold (f.udpEndpoint m address ip udp)) f.udpOverload.owner t.rows processId
        (f.udpOverload.call lookup m address h q heap processId processName).scan ↔
      ∀ last, lastMatch (onPort (f.udpEndpoint m address ip udp)) t.rows = some last →
        (∃ row ∈ t.rows, MayHold (f.udpEndpoint m address ip udp) row ∧
            f.udpOverload.owner last = f.udpOverload.owner row) ∨
          (∀ row ∈ t.rows, ¬MayHold (f.udpEndpoint m address ip udp) row) ∧
            f.udpOverload.owner last = processId := by
  rw [Overload.call_eq, scan_getPacketProcess hq, test_udpOverload f m address hudp ip]
  exact endsAttributed_scan_iff onPort_of_mayHold processId

/-- While the loop runs, every value it writes counts: for all of them to be owners of rows
that may hold the endpoint, every row on the port has to have such an owner. -/
theorem attributesValue_udp_iff (hudp : h.udpHeader.m_udpHeader = some udp)
    (hq : (queryTable f.udpOverload.api q heap (f.udpOverload.slot h)).result = .ok t) (ip : ℕ)
    (processId : BitVec 32) (processName : Option String) :
    AttributesValue (MayHold (f.udpEndpoint m address ip udp)) f.udpOverload.owner t.rows processId
        (f.udpOverload.call lookup m address h q heap processId processName).scan ↔
      ∀ row ∈ t.rows, onPort (f.udpEndpoint m address ip udp) row = true →
        ∃ l ∈ t.rows, MayHold (f.udpEndpoint m address ip udp) l ∧
          f.udpOverload.owner row = f.udpOverload.owner l := by
  rw [Overload.call_eq, scan_getPacketProcess hq, test_udpOverload f m address hudp ip,
    attributesValue_scan_iff]
  refine and_iff_left ?_
  rintro ⟨l, hl, hhold⟩
  exact ⟨l, hl, onPort_of_mayHold l hhold⟩

end Udp

/-! #### Two addresses of a host -/

/-- A UDP packet from `10.0.0.1`, port 50046, its IP header at 0 and its UDP header at 20. -/
def datagram4 : Mem :=
  ofBytes [0x45, 0, 0, 28, 0, 0, 0x40, 0, 64, 17, 0, 0, 10, 0, 0, 1, 8, 8, 8, 8,
    0xC3, 0x7E, 0, 53, 0, 8, 0, 0]

/-- Its headers. -/
def datagramHeaders : PacketHeaders where
  tcpHeader := ⟨none, none, none⟩
  udpHeader := ⟨some 20, none, none⟩
  ipv4Header := IPHeader.new.setUnmanagedHeader (some 0)
  ipv6Header := IPv6Header.new (fun _ => 0) fun _ => 0

/-- The call for it, outbound. -/
def processUdp4 (rows : List MibUdpRowOwnerPid) : ProcessResult MibUdpRowOwnerPid :=
  Overload.udp4.call noLookup datagram4 (addressOf .outbound) datagramHeaders (answer rows) noBlocks
    0 none

/-- The end of the packet on this host, `10.0.0.1` port 50046. -/
def sender4 : Endpoint (BitVec 32) := ⟨0x0100000A, 0x7EC3⟩

theorem udpEndpoint_datagram4 :
    Family.ipv4.udpEndpoint datagram4 (addressOf .outbound) 0 20 = sender4 :=
  Endpoint.ext (show IPHeader.srcAddr.read datagram4 0 = 0x0100000A by decide)
    (show UDPHeader.srcPort.read datagram4 20 = 0x7EC3 by decide)

/-- The sender alone on its port is reported. -/
theorem endsAttributed_udp_one :
    EndsAttributed (MayHold (f := .ipv4) sender4) MibUdpRowOwnerPid.dwOwningPid
      [⟨0x0100000A, 0x7EC3, 4711⟩] 0 (processUdp4 [⟨0x0100000A, 0x7EC3, 4711⟩]).scan := by
  have hq : (queryTable Overload.udp4.api
      (answer ([⟨0x0100000A, 0x7EC3, 4711⟩] : List MibUdpRowOwnerPid)) noBlocks
      (Overload.udp4.slot datagramHeaders)).result =
        .ok ⟨0, 16, [⟨0x0100000A, 0x7EC3, 4711⟩]⟩ := rfl
  have hudp : datagramHeaders.udpHeader.m_udpHeader = some 20 := rfl
  have h := endsAttributed_udp_iff .ipv4 noLookup datagram4 (addressOf .outbound) datagramHeaders
    hudp hq 0 0 none
  rw [udpEndpoint_datagram4] at h
  refine h.mpr fun last hlast => ?_
  obtain rfl := List.mem_singleton.mp (lastMatch_spec hlast).1
  exact Or.inl ⟨_, List.mem_singleton_self _, ⟨rfl, Or.inl rfl⟩, rfl⟩

/-- **A packet attributed to the neighbour**: with a socket of another process on the same
port of `10.0.0.2`, that process is reported. -/
theorem not_endsAttributed_udp :
    ¬EndsAttributed (MayHold (f := .ipv4) sender4) MibUdpRowOwnerPid.dwOwningPid listeners 0
      (processUdp4 listeners).scan := by
  rintro ⟨-, hcomplete⟩
  obtain ⟨row, hrow, hhold, hpid⟩ := hcomplete ⟨_, List.mem_cons_self, rfl, Or.inl rfl⟩
  rcases List.mem_pair.mp hrow with rfl | rfl
  · exact absurd hpid (by decide)
  · rcases hhold.2 with h | h
    · exact absurd (show (0x0200000A : BitVec 32) = 0x0100000A from h) (by decide)
    · exact absurd (show (0x0200000A : BitVec 32) = 0 from h) (by decide)

end DivertNet
