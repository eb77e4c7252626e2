import DivertNet.FirstMatch

/-!
# The same table in both families

A table of IPv4 endpoints can be read as one of IPv6 endpoints: map every address, in the
table and in the packet, and leave ports and owners alone. Two overloads that apply one rule
answer the same before and after. The map has to tell addresses apart, and – the IPv6
overload for TCP compares four bytes of an address – to tell them apart on their first four
bytes (`DivertNet.SeparatesPrefixes`).

The UDP overloads do apply one rule. Of the TCP overloads, inbound, the one for IPv4 looks
for the packet's port in the local column and the one for IPv6 in the remote column; they
answer the same where the two columns lead to the same owner
(`DivertNet.sameAttribution_iff`).
-/

namespace DivertNet

open LittleEndian LastMatch

/-! ### Calls that scan -/

namespace Overload

/-- The header objects an overload is given point to the IP header at `ip` and the transport
header at `transport`. -/
def Located (h : PacketHeaders) (ip transport : ℕ) : Overload → Prop
  | .tcp4 => h.ipv4Header.m_ipHeader = some ip ∧ h.tcpHeader.m_tcpHeader = some transport
  | .tcp6 => h.ipv6Header.m_ipv6Header = some ip ∧ h.tcpHeader.m_tcpHeader = some transport
  | .udp4 => h.ipv4Header.m_ipHeader = some ip ∧ h.udpHeader.m_udpHeader = some transport
  | .udp6 => h.ipv6Header.m_ipv6Header = some ip ∧ h.udpHeader.m_udpHeader = some transport

end Overload

/-- **A call of an overload that gets to its table**: the memory with the packet in it, the
header objects, the query, and the table it hands over. -/
structure ScanningCall (o : Overload) where
  m : Mem
  h : PacketHeaders
  ip : ℕ
  transport : ℕ
  q : TableQuery o.Row
  heap : TableHeap
  table : TableBlock o.Row
  located : o.Located h ip transport
  populated : (queryTable o.api q heap (o.slot h)).result = .ok table

namespace ScanningCall

variable {o : Overload} (c : ScanningCall o) (lookup : ProcessLookup) (address : Address)
  (processId : BitVec 32) (processName : Option String)

/-- The caller's `processId` after the call. -/
def finalProcessId : BitVec 32 :=
  (o.call lookup c.m address c.h c.q c.heap processId processName).processId

variable {c} {p : o.Row → Bool} in
/-- **The last match decides**, in every overload. -/
theorem finalProcessId_eq (hp : o.test c.m address c.h = fun row => .ok (p row)) :
    c.finalProcessId lookup address processId processName =
      ((lastMatch p c.table.rows).map o.owner).getD processId := by
  rw [finalProcessId, ProcessResult.processId, Overload.call_eq, scan_getPacketProcess c.populated,
    hp, value_scan]

end ScanningCall

/-! ### Mapping the addresses -/

/-- The row with its addresses mapped. -/
def MibTcpRow2.mapped (f : BitVec 32 → In6Addr) (row : MibTcpRow2) : MibTcp6Row2 where
  localAddr := f row.dwLocalAddr
  dwLocalPort := row.dwLocalPort
  remoteAddr := f row.dwRemoteAddr
  dwRemotePort := row.dwRemotePort
  dwOwningPid := row.dwOwningPid

/-- The row with its address mapped. -/
def MibUdpRowOwnerPid.mapped (f : BitVec 32 → In6Addr) (row : MibUdpRowOwnerPid) :
    MibUdp6RowOwnerPid where
  ucLocalAddr := f row.dwLocalAddr
  dwLocalPort := row.dwLocalPort
  dwOwningPid := row.dwOwningPid

/-- **The map tells addresses apart on their first four bytes**. -/
def SeparatesPrefixes (f : BitVec 32 → In6Addr) : Prop :=
  ∀ a b, a ≠ b → ∃ i : Fin 16, (i : ℕ) < 4 ∧ f a i ≠ f b i

theorem SeparatesPrefixes.eq_iff {f : BitVec 32 → In6Addr} (hf : SeparatesPrefixes f)
    {a b : BitVec 32} : (∀ i : Fin 16, (i : ℕ) < 4 → f a i = f b i) ↔ a = b := by
  refine ⟨fun h => ?_, fun h _ _ => h ▸ rfl⟩
  by_contra hne
  obtain ⟨i, hi, hdiff⟩ := hf a b hne
  exact hdiff (h i hi)

/-- **A call and its image**: the packet and the table of the second are those of the first
with all addresses mapped. -/
structure MapsTo {o o' : Overload} (f : BitVec 32 → In6Addr) (c : ScanningCall o)
    (c' : ScanningCall o') (mapRow : o.Row → o'.Row) : Prop where
  source : in6AddrAt c'.m (c'.ip + 8) = f (IPHeader.srcAddr.read c.m c.ip)
  destination : in6AddrAt c'.m (c'.ip + 24) = f (IPHeader.dstAddr.read c.m c.ip)
  srcPort : TCPHeader.srcPort.read c'.m c'.transport = TCPHeader.srcPort.read c.m c.transport
  dstPort : TCPHeader.dstPort.read c'.m c'.transport = TCPHeader.dstPort.read c.m c.transport
  rows : c'.table.rows = c.table.rows.map mapRow

/-- **The image of a call** ends with the owner of the last row whose image passes. -/
theorem finalProcessId_mapped {o o' : Overload} {f : BitVec 32 → In6Addr} {c : ScanningCall o}
    {c' : ScanningCall o'} {mapRow : o.Row → o'.Row} (hmap : MapsTo f c c' mapRow)
    (howner : ∀ row, o'.owner (mapRow row) = o.owner row) {address : Address}
    {p : o'.Row → Bool} (hp : o'.test c'.m address c'.h = fun row => .ok (p row))
    (lookup : ProcessLookup) (processId : BitVec 32) (processName : Option String) :
    c'.finalProcessId lookup address processId processName =
      ((lastMatch (fun row => p (mapRow row)) c.table.rows).map o.owner).getD processId := by
  rw [ScanningCall.finalProcessId_eq lookup address processId processName hp, hmap.rows,
    lastMatch_map, Option.map_map]
  exact congrArg (fun out => (Option.map out _).getD processId) (funext howner)

section Agreement

variable {f : BitVec 32 → In6Addr} (lookup : ProcessLookup) (address : Address)
  (processId : BitVec 32) (processName : Option String)

/-! ### UDP -/

/-- **The UDP overloads apply one rule.** -/
theorem finalProcessId_udp_mapped {c : ScanningCall .udp4} {c' : ScanningCall .udp6}
    (hmap : MapsTo f c c' (MibUdpRowOwnerPid.mapped f)) :
    c'.finalProcessId lookup address processId processName =
      c.finalProcessId lookup address processId processName := by
  have hp : Overload.udp4.test c.m address c.h = _ :=
    funext fun row : MibUdpRowOwnerPid =>
      Overload.testUdp_eq_ok c.m address c.located.2 row.dwLocalPort
  have hp' : Overload.udp6.test c'.m address c'.h = _ :=
    funext fun row : MibUdp6RowOwnerPid =>
      Overload.testUdp_eq_ok c'.m address c'.located.2 row.dwLocalPort
  have hsrc : UDPHeader.srcPort.read c'.m c'.transport = UDPHeader.srcPort.read c.m c.transport :=
    hmap.srcPort
  have hdst : UDPHeader.dstPort.read c'.m c'.transport = UDPHeader.dstPort.read c.m c.transport :=
    hmap.dstPort
  rw [ScanningCall.finalProcessId_eq lookup address processId processName hp,
    finalProcessId_mapped hmap (fun _ => rfl) hp' lookup processId processName, hsrc, hdst]
  rfl

/-! ### TCP -/

/-- The row is about a connection with the address of `e` at its other end, and has the port
of `e` in a column. -/
def remoteOn (port : MibTcpRow2 → BitVec 32) (e : Endpoint (BitVec 32)) (row : MibTcpRow2) : Bool :=
  narrowedPort (port row) == e.port && row.dwRemoteAddr == e.address

theorem remoteOn_iff {port : MibTcpRow2 → BitVec 32} {e : Endpoint (BitVec 32)}
    {row : MibTcpRow2} :
    remoteOn port e row = true ↔
      narrowedPort (port row) = e.port ∧ row.dwRemoteAddr = e.address := by
  rw [remoteOn, Bool.and_eq_true, beq_iff_eq, beq_iff_eq]

/-- **The port columns lead to the same owner**: the last row with the remote address of `e`
and its port in the local column, and the last such row with its port in the remote column,
have the same owner, where the caller's process stands in for a row that is missing. -/
def PortColumnsAgree (e : Endpoint (BitVec 32)) (rows : List MibTcpRow2) (processId : BitVec 32) :
    Prop :=
  ((lastMatch (remoteOn MibTcpRow2.dwRemotePort e) rows).map MibTcpRow2.dwOwningPid).getD
      processId =
    ((lastMatch (remoteOn MibTcpRow2.dwLocalPort e) rows).map MibTcpRow2.dwOwningPid).getD processId

/-- **When the TCP overloads answer the same**: outbound always, inbound exactly when the two
port columns lead to the same owner. -/
theorem finalProcessId_tcp_mapped_iff (hf : SeparatesPrefixes f) {c : ScanningCall .tcp4}
    {c' : ScanningCall .tcp6} (hmap : MapsTo f c c' (MibTcpRow2.mapped f)) :
    c'.finalProcessId lookup address processId processName =
        c.finalProcessId lookup address processId processName ↔
      address.direction = .outbound ∨
        PortColumnsAgree ⟨IPHeader.dstAddr.read c.m c.ip, TCPHeader.dstPort.read c.m c.transport⟩
          c.table.rows processId := by
  obtain ⟨p, hp, hpass⟩ := testTcp4_eq_ok c.m address c.located.1 c.located.2
  obtain ⟨p', hp', hpass'⟩ := testTcp6_eq_ok c'.m address c'.located.1 c'.located.2
  have h4 : c.finalProcessId lookup address processId processName =
      ((lastMatch p c.table.rows).map MibTcpRow2.dwOwningPid).getD processId :=
    ScanningCall.finalProcessId_eq lookup address processId processName hp
  have h6 : c'.finalProcessId lookup address processId processName =
      ((lastMatch (fun row : MibTcpRow2 => p' (row.mapped f)) c.table.rows).map
        MibTcpRow2.dwOwningPid).getD processId :=
    finalProcessId_mapped hmap (fun _ => rfl) hp' lookup processId processName
  rw [h4, h6]
  rcases eq_or_ne address.direction .outbound with hdir | hdir
  · -- both compare the local columns, on which the map tells addresses apart
    have hsame : (fun row : MibTcpRow2 => p' (row.mapped f)) = p := by
      funext row
      rw [Bool.eq_iff_iff, hpass, hpass']
      simp only [comparedEndpoint6, localEndpoint6, comparedAddr4, localEndpoint4, hdir, if_true,
        Endpoint.SharePrefix, hmap.source, hmap.srcPort]
      exact and_congr_right fun _ => hf.eq_iff
    rw [hsame]
    exact iff_of_true rfl (Or.inl hdir)
  · have hlocal : p = remoteOn MibTcpRow2.dwLocalPort
        ⟨IPHeader.dstAddr.read c.m c.ip, TCPHeader.dstPort.read c.m c.transport⟩ := by
      funext row
      rw [Bool.eq_iff_iff, hpass, remoteOn_iff]
      simp only [comparedAddr4, localEndpoint4, hdir, if_false]
      rfl
    have hremote : (fun row : MibTcpRow2 => p' (row.mapped f)) = remoteOn MibTcpRow2.dwRemotePort
        ⟨IPHeader.dstAddr.read c.m c.ip, TCPHeader.dstPort.read c.m c.transport⟩ := by
      funext row
      rw [Bool.eq_iff_iff, hpass', remoteOn_iff]
      simp only [comparedEndpoint6, localEndpoint6, hdir, if_false, Endpoint.SharePrefix,
        hmap.destination, hmap.dstPort]
      exact and_congr_right fun _ => hf.eq_iff
    rw [hlocal, hremote]
    exact ⟨Or.inr, fun h => h.resolve_left hdir⟩

/-- **When the overloads for the two families apply the same rule**, for TCP and for UDP:
exactly when the TCP packet is outbound, or the port columns of its table lead to the same
owner. -/
theorem sameAttribution_iff (hf : SeparatesPrefixes f) {tcp : ScanningCall .tcp4}
    {tcp' : ScanningCall .tcp6} {udp : ScanningCall .udp4} {udp' : ScanningCall .udp6}
    (htcp : MapsTo f tcp tcp' (MibTcpRow2.mapped f))
    (hudp : MapsTo f udp udp' (MibUdpRowOwnerPid.mapped f)) :
    (tcp'.finalProcessId lookup address processId processName =
          tcp.finalProcessId lookup address processId processName ∧
        udp'.finalProcessId lookup address processId processName =
          udp.finalProcessId lookup address processId processName) ↔
      address.direction = .outbound ∨
        PortColumnsAgree
          ⟨IPHeader.dstAddr.read tcp.m tcp.ip, TCPHeader.dstPort.read tcp.m tcp.transport⟩
          tcp.table.rows processId := by
  rw [and_iff_left (finalProcessId_udp_mapped lookup address processId processName hudp)]
  exact finalProcessId_tcp_mapped_iff lookup address processId processName hf htcp

end Agreement

/-! #### A host connected to itself -/

/-- An address as the first four bytes of one for IPv6. -/
def leading (a : BitVec 32) : In6Addr := fun i => byteOf a i

theorem separatesPrefixes_leading : SeparatesPrefixes leading := by
  intro a b hne
  by_contra hsame
  refine hne (eq_of_byteOf_eq (n := 4) (by decide) fun i hi => ?_)
  by_contra hdiff
  exact hsame ⟨⟨i, by omega⟩, hi, hdiff⟩

/-- The headers of a packet whose IP header is at 0. -/
def headersAt (transport : ℕ) : PacketHeaders where
  tcpHeader := tcpAt transport
  udpHeader := ⟨some transport, none, none⟩
  ipv4Header := IPHeader.new.setUnmanagedHeader (some 0)
  ipv6Header := (IPv6Header.new (fun _ => 0) fun _ => 0).setUnmanagedHeader (some 0)

/-- The segment from `8.8.8.8:80` to `10.0.0.1:50046`, with all addresses mapped. -/
def segment4' : Mem :=
  ofBytes ([0x60, 0, 0, 0, 0, 20, 6, 64] ++ [8, 8, 8, 8, 0, 0, 0, 0, 0, 0, 0, 0, 0, 0, 0, 0] ++
    [10, 0, 0, 1, 0, 0, 0, 0, 0, 0, 0, 0, 0, 0, 0, 0] ++
    [0, 80, 0xC3, 0x7E, 0, 0, 0, 1, 0, 0, 0, 0, 0x50, 2, 0xFF, 0xFF, 0, 0, 0, 0])

/-- The call of the TCP overload for the segment, on a table. -/
def tcpCall (rows : List MibTcpRow2) : ScanningCall .tcp4 where
  m := segment4
  h := headersAt 20
  ip := 0
  transport := 20
  q := answer rows
  heap := noBlocks
  table := ⟨0, sizeofPointer, rows⟩
  located := ⟨rfl, rfl⟩
  populated := rfl

/-- Its image. -/
def tcpCall' (rows : List MibTcpRow2) : ScanningCall .tcp6 where
  m := segment4'
  h := headersAt 40
  ip := 0
  transport := 40
  q := answer (rows.map (MibTcpRow2.mapped leading))
  heap := noBlocks
  table := ⟨0, sizeofPointer, rows.map (MibTcpRow2.mapped leading)⟩
  located := ⟨rfl, rfl⟩
  populated := rfl

/-- A call of the UDP overload for a packet between the same ends, on an empty table. -/
def udpCall : ScanningCall .udp4 where
  m := segment4
  h := headersAt 20
  ip := 0
  transport := 20
  q := answer ([] : List MibUdpRowOwnerPid)
  heap := noBlocks
  table := ⟨0, 16, []⟩
  located := ⟨rfl, rfl⟩
  populated := rfl

/-- Its image. -/
def udpCall' : ScanningCall .udp6 where
  m := segment4'
  h := headersAt 40
  ip := 0
  transport := 40
  q := answer ([] : List MibUdp6RowOwnerPid)
  heap := noBlocks
  table := ⟨0, 32, []⟩
  located := ⟨rfl, rfl⟩
  populated := rfl

theorem mapsTo_tcpCall (rows : List MibTcpRow2) :
    MapsTo leading (tcpCall rows) (tcpCall' rows) (MibTcpRow2.mapped leading) where
  source := show in6AddrAt segment4' 8 = leading (IPHeader.srcAddr.read segment4 0) by decide
  destination := show in6AddrAt segment4' 24 = leading (IPHeader.dstAddr.read segment4 0) by decide
  srcPort := show TCPHeader.srcPort.read segment4' 40 = TCPHeader.srcPort.read segment4 20 by decide
  dstPort := show TCPHeader.dstPort.read segment4' 40 = TCPHeader.dstPort.read segment4 20 by decide
  rows := rfl

theorem mapsTo_udpCall :
    MapsTo leading udpCall udpCall' (MibUdpRowOwnerPid.mapped leading) where
  source := (mapsTo_tcpCall []).source
  destination := (mapsTo_tcpCall []).destination
  srcPort := (mapsTo_tcpCall []).srcPort
  dstPort := (mapsTo_tcpCall []).dstPort
  rows := rfl

/-- A connection of `10.0.0.1` to its own port 80. -/
def selfConnection : MibTcpRow2 where
  dwLocalAddr := 0x0100000A
  dwLocalPort := 0x7EC3
  dwRemoteAddr := 0x0100000A
  dwRemotePort := 0x5000
  dwOwningPid := 4711

/-- Outbound, the answer is the same in both families. -/
theorem sameAttribution_outbound :
    (tcpCall' [selfConnection]).finalProcessId noLookup (addressOf .outbound) 0 none =
        (tcpCall [selfConnection]).finalProcessId noLookup (addressOf .outbound) 0 none ∧
      udpCall'.finalProcessId noLookup (addressOf .outbound) 0 none =
        udpCall.finalProcessId noLookup (addressOf .outbound) 0 none :=
  (sameAttribution_iff noLookup (addressOf .outbound) 0 none separatesPrefixes_leading
    (mapsTo_tcpCall [selfConnection]) mapsTo_udpCall).mpr (Or.inl rfl)

/-- **Two families, two answers**: inbound, the segment is attributed to the process of the
connection in IPv4, and to no process with all addresses mapped. -/
theorem not_sameAttribution :
    SeparatesPrefixes leading ∧
      MapsTo leading (tcpCall [selfConnection]) (tcpCall' [selfConnection])
        (MibTcpRow2.mapped leading) ∧
      (tcpCall [selfConnection]).finalProcessId noLookup (addressOf .inbound) 0 none = 4711 ∧
      (tcpCall' [selfConnection]).finalProcessId noLookup (addressOf .inbound) 0 none = 0 :=
  ⟨separatesPrefixes_leading, mapsTo_tcpCall _, by decide, by decide⟩

end DivertNet
