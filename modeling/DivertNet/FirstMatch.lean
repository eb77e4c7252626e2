import DivertNet.PopulatedTable

/-!
# Which of several matching rows wins

The loops of `GetPacketProcess` say `break` as soon as a row matches. They say it inside a
`switch`, and `break` leaves the innermost statement it can: the `switch`, not the loop. So
the loop runs to the end of the table, every match overwrites the one before, and the last
row wins where the first one was meant to.

The four overloads do this alike. `DivertNet.Overload.test` is the body of each loop,
`DivertNet.Overload.exists_test_eq_ok` the one fact about it that is needed – a loop in
which some row matches never faults – and the rest is `LastMatch`.
-/

namespace DivertNet

open LittleEndian LastMatch

/-! ### The loop of an overload -/

namespace Overload

section Loop

variable (m : Mem) (address : Address) (h : PacketHeaders)

/-- **A row matches**: its own condition on the row, for the packet and the direction. -/
def matchesRow (o : Overload) (row : o.Row) : Bool := passes (o.test m address h) row

end Loop

variable {m : Mem} {address : Address} {h : PacketHeaders}

/-- The test for IPv4 reads the header pointers as soon as a row has the port. -/
theorem pointers_of_testTcp4 {matchSrcPort : Bool} {tcpHeader : TCPHeader} {ipv4Header : IPHeader}
    {row : MibTcpRow2} (hok : testTcp4 m matchSrcPort tcpHeader ipv4Header row = .ok true) :
    (∃ tcp, tcpHeader.m_tcpHeader = some tcp) ∧ ∃ ip, ipv4Header.m_ipHeader = some ip := by
  cases htcp : tcpHeader.m_tcpHeader with
  | none => simp [testTcp4, htcp, deref, bind, Except.bind] at hok
  | some tcp =>
    cases hip : ipv4Header.m_ipHeader with
    | none =>
      simp only [testTcp4, htcp, hip, deref, bind, Except.bind, pure, Except.pure] at hok
      split at hok <;> split at hok <;> cases hok
    | some ip => exact ⟨⟨tcp, rfl⟩, ip, rfl⟩

/-- So does the test for IPv6. -/
theorem pointers_of_testTcp6 {matchSrcPort : Bool} {tcpHeader : TCPHeader} {ipv6Header : IPv6Header}
    {row : MibTcp6Row2} (hok : testTcp6 m matchSrcPort tcpHeader ipv6Header row = .ok true) :
    (∃ tcp, tcpHeader.m_tcpHeader = some tcp) ∧ ∃ ip, ipv6Header.m_ipv6Header = some ip := by
  cases htcp : tcpHeader.m_tcpHeader with
  | none => simp [testTcp6, htcp, deref, bind, Except.bind] at hok
  | some tcp =>
    cases hip : ipv6Header.m_ipv6Header with
    | none =>
      simp only [testTcp6, htcp, hip, deref, bind, Except.bind, pure, Except.pure] at hok
      split at hok <;> split at hok <;> cases hok
    | some ip => exact ⟨⟨tcp, rfl⟩, ip, rfl⟩

/-- **The test of the UDP loops**: the port of the row is the one of the packet's end on
this host. -/
theorem testUdp_eq_ok (m : Mem) (address : Address) {udpHeader : UDPHeader} {udp : ℕ}
    (hudp : udpHeader.m_udpHeader = some udp) (column : BitVec 32) :
    testUdp m (matchSrcPort address) udpHeader column =
      .ok (narrowedPort column ==
        if address.direction = .outbound then UDPHeader.srcPort.read m udp
        else UDPHeader.dstPort.read m udp) := by
  simp only [testUdp, hudp, deref, maskedPort_eq, matchSrcPort, bind, Except.bind, pure,
    Except.pure, beq_iff_eq]
  split <;> rfl

/-- **A loop in which some row matches never faults**: the pointers it needs are the same at
every row. -/
theorem exists_test_eq_ok {o : Overload} {row : o.Row}
    (hrow : o.matchesRow m address h row = true) :
    o.test m address h = fun r => .ok (o.matchesRow m address h r) := by
  have hok : o.test m address h row = .ok true := test_of_passes hrow
  suffices hp : ∃ p : o.Row → Bool, o.test m address h = fun r => .ok (p r) by
    obtain ⟨p, hp⟩ := hp
    simp only [matchesRow, hp, passes]
  cases o with
  | tcp4 =>
    obtain ⟨⟨tcp, htcp⟩, ip, hip⟩ := pointers_of_testTcp4 hok
    obtain ⟨p, hp, -⟩ := testTcp4_eq_ok m address hip htcp
    exact ⟨p, hp⟩
  | tcp6 =>
    obtain ⟨⟨tcp, htcp⟩, ip, hip⟩ := pointers_of_testTcp6 hok
    obtain ⟨p, hp, -⟩ := testTcp6_eq_ok m address hip htcp
    exact ⟨p, hp⟩
  | udp4 =>
    cases hudp : h.udpHeader.m_udpHeader with
    | none => simp [test, testUdp, hudp, deref, bind, Except.bind] at hok
    | some udp => exact ⟨_, funext fun r => testUdp_eq_ok m address hudp r.dwLocalPort⟩
  | udp6 =>
    cases hudp : h.udpHeader.m_udpHeader with
    | none => simp [test, testUdp, hudp, deref, bind, Except.bind] at hok
    | some udp => exact ⟨_, funext fun r => testUdp_eq_ok m address hudp r.dwLocalPort⟩

end Overload

/-! ### First and last -/

/-- **When the first match is reported**: in every overload, whatever the table, the packet
and the direction, exactly when the last row that matches has the owner of the first. -/
theorem reportsFirst_iff (o : Overload) (lookup : ProcessLookup) (m : Mem) (address : Address)
    (h : PacketHeaders) {q : TableQuery o.Row} {heap : TableHeap} {t : TableBlock o.Row}
    (hq : (queryTable o.api q heap (o.slot h)).result = .ok t) {first : o.Row}
    (hfirst : t.rows.find? (o.matchesRow m address h) = some first) (processId : BitVec 32)
    (processName : Option String) :
    (o.call lookup m address h q heap processId processName).processId = o.owner first ↔
      ∀ last, lastMatch (o.matchesRow m address h) t.rows = some last →
        o.owner last = o.owner first := by
  rw [ProcessResult.processId, Overload.call_eq, scan_getPacketProcess hq,
    Overload.exists_test_eq_ok (List.find?_some hfirst)]
  exact value_scan_eq_first_iff o.owner hfirst processId

/-- One match is the first and the last. -/
theorem lastMatch_of_unique {o : Overload} {m : Mem} {address : Address} {h : PacketHeaders}
    {rows : List o.Row} {first : o.Row}
    (hunique : ∀ row ∈ rows, o.matchesRow m address h row = true → row = first) {last : o.Row}
    (hlast : lastMatch (o.matchesRow m address h) rows = some last) : last = first :=
  hunique last (lastMatch_spec hlast).1 (lastMatch_spec hlast).2

/-! #### Two listeners -/

/-- A query for the rows of two processes on port 50046, bound to different addresses. -/
def listeners : List MibUdpRowOwnerPid := [⟨0x0100000A, 0x7EC3, 4711⟩, ⟨0x0200000A, 0x7EC3, 815⟩]

/-- The headers of a UDP packet. -/
def freshHeaders : PacketHeaders where
  tcpHeader := ⟨none, none, none⟩
  udpHeader := ⟨some 0, none, none⟩
  ipv4Header := IPHeader.new
  ipv6Header := IPv6Header.new (fun _ => 0) fun _ => 0

/-- With one listener it is reported. -/
theorem reportsFirst_one :
    (Overload.udp4.call noLookup datagram (addressOf .outbound) freshHeaders
      (answer (listeners.take 1)) noBlocks 0 none).processId = 4711 :=
  have hq : (queryTable Overload.udp4.api (answer (listeners.take 1)) noBlocks
      (Overload.udp4.slot freshHeaders)).result = .ok ⟨0, 16, listeners.take 1⟩ := rfl
  have hfirst : (listeners.take 1).find?
      (Overload.udp4.matchesRow datagram (addressOf .outbound) freshHeaders) =
        some (⟨0x0100000A, 0x7EC3, 4711⟩ : MibUdpRowOwnerPid) := rfl
  (reportsFirst_iff .udp4 noLookup datagram (addressOf .outbound) freshHeaders hq hfirst 0
    none).mpr fun _ hlast =>
      congrArg MibUdpRowOwnerPid.dwOwningPid
        (lastMatch_of_unique (fun _ hrow _ => List.mem_singleton.mp hrow) hlast)

/-- **The last match wins**: of two listeners that both match, the second is reported. -/
theorem not_reportsFirst :
    (∃ first, listeners.find?
        (Overload.udp4.matchesRow datagram (addressOf .outbound) freshHeaders) = some first ∧
      MibUdpRowOwnerPid.dwOwningPid first = 4711) ∧
      (Overload.udp4.call noLookup datagram (addressOf .outbound) freshHeaders (answer listeners)
        noBlocks 0 none).processId = 815 := by
  exact ⟨⟨⟨0x0100000A, 0x7EC3, 4711⟩, rfl, rfl⟩, by decide⟩

end DivertNet
