import DivertNet.FirstMatch

/-!
# Two calls of `GetPacketProcess`, compared

What a call reports should depend on the packet, the direction and the table, and on nothing
else. Two calls are compared here that agree on these and differ in the rest.

* The *memory* the packet lies in, the header objects and the blocks may differ
  (`DivertNet.Overload.SamePacket`), and so may the upper halves of the *port columns*, which
  hold no part of the port: no loop looks at them, one way or the other of stripping them
  (`DivertNet.finalProcessId_eq_of_cleared`).
* The caller's *`processId`* may differ, too. It is passed by reference, as the place for the
  result, and `processName` is an `[Out]` parameter. But a call in which no row matches leaves
  the one alone and then looks the other up by it: the packet is reported under the name of
  whatever process the variable still held (`DivertNet.sameProcessName_iff`).
-/

namespace DivertNet

open LittleEndian LastMatch

/-! ### The columns of a row, without the garbage -/

/-- The upper sixteen bits of a port column cleared. -/
def clearedPort (column : BitVec 32) : BitVec 32 := column &&& 0xFFFF

/-- Neither way of reading a port column sees its upper half. -/
@[simp] theorem narrowedPort_clearedPort (column : BitVec 32) :
    narrowedPort (clearedPort column) = narrowedPort column :=
  maskedPort_eq column

@[simp] theorem maskedPort_clearedPort (column : BitVec 32) :
    maskedPort (clearedPort column) = maskedPort column := by
  rw [maskedPort_eq, maskedPort_eq, narrowedPort_clearedPort]

/-- The row with the upper halves of its port columns cleared. -/
def MibTcpRow2.cleared (row : MibTcpRow2) : MibTcpRow2 :=
  { row with
    dwLocalPort := clearedPort row.dwLocalPort
    dwRemotePort := clearedPort row.dwRemotePort }

/-- The row with the upper halves of its port columns cleared. -/
def MibTcp6Row2.cleared (row : MibTcp6Row2) : MibTcp6Row2 :=
  { row with
    dwLocalPort := clearedPort row.dwLocalPort
    dwRemotePort := clearedPort row.dwRemotePort }

/-- The row with the upper half of its port column cleared. -/
def MibUdpRowOwnerPid.cleared (row : MibUdpRowOwnerPid) : MibUdpRowOwnerPid :=
  { row with dwLocalPort := clearedPort row.dwLocalPort }

/-- The row with the upper half of its port column cleared. -/
def MibUdp6RowOwnerPid.cleared (row : MibUdp6RowOwnerPid) : MibUdp6RowOwnerPid :=
  { row with dwLocalPort := clearedPort row.dwLocalPort }

namespace Overload

/-- A row of an overload with the upper halves of its port columns cleared. -/
def cleared : (o : Overload) → o.Row → o.Row
  | .tcp4 => MibTcpRow2.cleared
  | .tcp6 => MibTcp6Row2.cleared
  | .udp4 => MibUdpRowOwnerPid.cleared
  | .udp6 => MibUdp6RowOwnerPid.cleared

/-! ### The same packet -/

/-- **The same packet**, as far as an overload looks at it: its header objects point nowhere
in both calls, or to the same bytes. -/
def SamePacket (m m' : Mem) (h h' : PacketHeaders) : Overload → Prop
  | .tcp4 =>
    Option.Rel (Agree 20 m · m' ·) h.tcpHeader.m_tcpHeader h'.tcpHeader.m_tcpHeader ∧
      Option.Rel (Agree 20 m · m' ·) h.ipv4Header.m_ipHeader h'.ipv4Header.m_ipHeader
  | .tcp6 =>
    Option.Rel (Agree 20 m · m' ·) h.tcpHeader.m_tcpHeader h'.tcpHeader.m_tcpHeader ∧
      Option.Rel (Agree 40 m · m' ·) h.ipv6Header.m_ipv6Header h'.ipv6Header.m_ipv6Header
  | .udp4 => Option.Rel (Agree 8 m · m' ·) h.udpHeader.m_udpHeader h'.udpHeader.m_udpHeader
  | .udp6 => Option.Rel (Agree 8 m · m' ·) h.udpHeader.m_udpHeader h'.udpHeader.m_udpHeader

section Tests

variable {m m' : Mem} {src : Bool} {tcp tcp' : TCPHeader} {udp udp' : UDPHeader}

/-- Going on through two pointers, both null or related. -/
theorem deref_bind_congr {R : ℕ → ℕ → Prop} {hdr hdr' : Option ℕ} {α : Type}
    {k k' : ℕ → Except ClrException α} (hrel : Option.Rel R hdr hdr')
    (hk : ∀ p p', R p p' → k p = k' p') : (deref hdr >>= k) = (deref hdr' >>= k') := by
  cases hrel with
  | none => rfl
  | some h => exact hk _ _ h

/-- The loop for IPv4 asks the same of the same segment, of a row and of the row cleared. -/
theorem testTcp4_congr {ip ip' : IPHeader}
    (htcp : Option.Rel (Agree 20 m · m' ·) tcp.m_tcpHeader tcp'.m_tcpHeader)
    (hip : Option.Rel (Agree 20 m · m' ·) ip.m_ipHeader ip'.m_ipHeader) (row : MibTcpRow2) :
    testTcp4 m src tcp ip row.cleared = testTcp4 m' src tcp' ip' row := by
  refine deref_bind_congr htcp fun p p' hp => ?_
  simp only [MibTcpRow2.cleared, maskedPort_clearedPort, TCPHeader.srcPort.read_congr hp,
    TCPHeader.dstPort.read_congr hp]
  refine if_congr Iff.rfl (if_congr Iff.rfl ?_ rfl) (if_congr Iff.rfl ?_ rfl)
  · refine deref_bind_congr hip fun q q' hq => ?_
    rw [IPHeader.srcAddr.read_congr hq]
  · refine deref_bind_congr hip fun q q' hq => ?_
    rw [IPHeader.dstAddr.read_congr hq]

/-- `memcmp` looks at its bytes only. -/
theorem memcmp_congr {s s' : ℕ → Byte} (t : ℕ → Byte) {n : ℕ} (h : ∀ i < n, s i = s' i) :
    memcmp s t n = memcmp s' t n := by
  induction n with
  | zero => rfl
  | succ n ih => rw [memcmp, memcmp, ih fun i hi => h i (by omega), h n (by omega)]

/-- So does the loop for IPv6, which compares four bytes of an address. -/
theorem testTcp6_congr {ip ip' : IPv6Header}
    (htcp : Option.Rel (Agree 20 m · m' ·) tcp.m_tcpHeader tcp'.m_tcpHeader)
    (hip : Option.Rel (Agree 40 m · m' ·) ip.m_ipv6Header ip'.m_ipv6Header) (row : MibTcp6Row2) :
    testTcp6 m src tcp ip row.cleared = testTcp6 m' src tcp' ip' row := by
  refine deref_bind_congr htcp fun p p' hp => ?_
  simp only [MibTcp6Row2.cleared, maskedPort_clearedPort, narrowedPort_clearedPort,
    TCPHeader.srcPort.read_congr hp, TCPHeader.dstPort.read_congr hp]
  refine if_congr Iff.rfl (if_congr Iff.rfl ?_ rfl) (if_congr Iff.rfl ?_ rfl)
  · refine deref_bind_congr hip fun q q' hq => ?_
    have hsrc : Agree 4 m (q + 8) m' (q' + 8) := hq.sub (by decide)
    rw [memcmp_congr _ hsrc]
  · refine deref_bind_congr hip fun q q' hq => ?_
    have hdst : Agree 4 m (q + 24) m' (q' + 24) := hq.sub (by decide)
    rw [memcmp_congr _ hdst]

/-- The UDP loops ask the same of the same datagram. -/
theorem testUdp_congr (hudp : Option.Rel (Agree 8 m · m' ·) udp.m_udpHeader udp'.m_udpHeader)
    (column : BitVec 32) :
    testUdp m src udp (clearedPort column) = testUdp m' src udp' column := by
  refine deref_bind_congr hudp fun p p' hp => ?_
  rw [maskedPort_clearedPort, UDPHeader.srcPort.read_congr hp, UDPHeader.dstPort.read_congr hp]

/-- **The same packet in the same direction is asked the same**, of a row and of the row
cleared. -/
theorem test_cleared {o : Overload} {address address' : Address} {h h' : PacketHeaders}
    (hpacket : o.SamePacket m m' h h') (hdir : address.direction = address'.direction)
    (row : o.Row) : o.test m address h (o.cleared row) = o.test m' address' h' row := by
  have hsrc : matchSrcPort address = matchSrcPort address' := by
    rw [matchSrcPort, matchSrcPort, hdir]
  cases o with
  | tcp4 =>
    simp only [test, hsrc]
    exact testTcp4_congr hpacket.1 hpacket.2 row
  | tcp6 =>
    simp only [test, hsrc]
    exact testTcp6_congr hpacket.1 hpacket.2 row
  | udp4 =>
    simp only [test, hsrc]
    exact testUdp_congr hpacket row.dwLocalPort
  | udp6 =>
    simp only [test, hsrc]
    exact testUdp_congr hpacket row.dwLocalPort

theorem SamePacket.refl (m : Mem) (h : PacketHeaders) (o : Overload) : o.SamePacket m m h h := by
  have hrel : ∀ n (hdr : Option ℕ), Option.Rel (Agree n m · m ·) hdr hdr := by
    intro n hdr
    cases hdr with
    | none => exact .none
    | some a => exact .some fun _ _ => rfl
  cases o with
  | tcp4 => exact ⟨hrel 20 _, hrel 20 _⟩
  | tcp6 => exact ⟨hrel 20 _, hrel 40 _⟩
  | udp4 => exact hrel 8 _
  | udp6 => exact hrel 8 _

/-- No loop tells a row from the row cleared. -/
theorem test_eq_cleared (m : Mem) (address : Address) (h : PacketHeaders) {o : Overload}
    (row : o.Row) : o.test m address h (o.cleared row) = o.test m address h row :=
  test_cleared (SamePacket.refl m h o) rfl row

/-- **The loops of two calls for the same packet are one loop.** -/
theorem test_eq_of_samePacket {o : Overload} {address address' : Address} {h h' : PacketHeaders}
    (hpacket : o.SamePacket m m' h h') (hdir : address.direction = address'.direction) :
    o.test m address h = o.test m' address' h' := by
  funext row
  rw [← test_eq_cleared m address h row, test_cleared hpacket hdir row]

end Tests

/-- Clearing a row leaves its owner. -/
theorem owner_cleared (o : Overload) (row : o.Row) : o.owner (o.cleared row) = o.owner row := by
  cases o <;> rfl

section Calls

variable {o : Overload} {lookup : ProcessLookup} {m : Mem} {address : Address} {h : PacketHeaders}
  {q : TableQuery o.Row} {heap : TableHeap} {t : TableBlock o.Row} {pid : BitVec 32}
  {name : Option String}

/-- The caller's `processId` after a call that gets to its table. -/
theorem processId_call (hq : (queryTable o.api q heap (o.slot h)).result = .ok t) :
    (o.call lookup m address h q heap pid name).processId =
      (scan (o.test m address h) o.owner t.rows (start pid)).value := by
  rw [ProcessResult.processId, call_eq, scan_getPacketProcess hq]

/-- **A call that returns names the process it ends with.** -/
theorem processName_call
    (hret : (o.call lookup m address h q heap pid name).outcome = .ok ()) :
    (o.call lookup m address h q heap pid name).processName =
      some (getProcessName lookup (o.call lookup m address h q heap pid name).processId) := by
  rw [call_eq] at hret ⊢
  obtain ⟨_, -, -, -, hname⟩ := scan_of_returns hret
  exact hname

/-- Where a row matches, what the caller's `processId` was is forgotten. -/
theorem processId_call_of_matches (hq : (queryTable o.api q heap (o.slot h)).result = .ok t)
    {row : o.Row} (hmem : row ∈ t.rows) (hrow : o.matchesRow m address h row = true)
    (pid' : BitVec 32) :
    (o.call lookup m address h q heap pid name).processId =
      (scan (o.test m address h) o.owner t.rows (start pid')).value := by
  rw [processId_call hq, exists_test_eq_ok hrow, value_scan, value_scan]
  cases hlast : lastMatch (o.matchesRow m address h) t.rows with
  | none => exact absurd hrow (lastMatch_eq_none_iff.mp hlast row hmem)
  | some last => rfl

/-- Where none does, it is left. -/
theorem processId_call_of_not_matches (hq : (queryTable o.api q heap (o.slot h)).result = .ok t)
    (hnone : ¬∃ row ∈ t.rows, o.matchesRow m address h row = true) :
    (o.call lookup m address h q heap pid name).processId = pid := by
  rw [processId_call hq]
  exact value_scan_of_not_passes (fun row hmem hrow => hnone ⟨row, hmem, hrow⟩) _

end Calls

end Overload

section Compared

variable {o : Overload} {lookup : ProcessLookup} {m m' : Mem} {address address' : Address}
  {h h' : PacketHeaders} {q q' : TableQuery o.Row} {heap heap' : TableHeap}
  {t t' : TableBlock o.Row} {name name' : Option String}

/-! ### Garbage in the port columns -/

/-- **Garbage in the upper port bits never influences attribution**: two calls for the same
packet in the same direction, on tables that are alike once the upper halves of their port
columns are cleared, leave the same `processId`, in every overload. -/
theorem finalProcessId_eq_of_cleared (lookup' : ProcessLookup) (hpacket : o.SamePacket m m' h h')
    (hdir : address.direction = address'.direction)
    (hq : (queryTable o.api q heap (o.slot h)).result = .ok t)
    (hq' : (queryTable o.api q' heap' (o.slot h')).result = .ok t')
    (hrows : t.rows.map o.cleared = t'.rows.map o.cleared) (processId : BitVec 32) :
    (o.call lookup m address h q heap processId name).processId =
      (o.call lookup' m' address' h' q' heap' processId name').processId := by
  -- neither loop tells a row from the row cleared, so both may run over the cleared table
  rw [Overload.processId_call hq, Overload.processId_call hq',
    Overload.test_eq_of_samePacket hpacket hdir,
    ← value_scan_map (Overload.test_eq_cleared m' address' h') o.owner_cleared, hrows,
    value_scan_map (Overload.test_eq_cleared m' address' h') o.owner_cleared]

/-! ### What the caller's variable held -/

/-- **When two calls report the same name**: calls of one overload for the same packet in the
same direction, on tables with the same rows, that both return, report the same name exactly
when some row matches, or the two incoming values of `processId` have the same name. -/
theorem sameProcessName_iff (hpacket : o.SamePacket m m' h h')
    (hdir : address.direction = address'.direction)
    (hq : (queryTable o.api q heap (o.slot h)).result = .ok t)
    (hq' : (queryTable o.api q' heap' (o.slot h')).result = .ok t')
    (hrows : t.rows = t'.rows) {pid pid' : BitVec 32}
    (hret : (o.call lookup m address h q heap pid name).outcome = .ok ())
    (hret' : (o.call lookup m' address' h' q' heap' pid' name').outcome = .ok ()) :
    (o.call lookup m address h q heap pid name).processName =
        (o.call lookup m' address' h' q' heap' pid' name').processName ↔
      (∃ row ∈ t.rows, o.matchesRow m address h row = true) ∨
        getProcessName lookup pid = getProcessName lookup pid' := by
  have htest := Overload.test_eq_of_samePacket hpacket hdir
  rw [Overload.processName_call hret, Overload.processName_call hret', Option.some.injEq]
  by_cases hmatch : ∃ row ∈ t.rows, o.matchesRow m address h row = true
  · obtain ⟨row, hmem, hrow⟩ := hmatch
    refine iff_of_true (congrArg _ ?_) (Or.inl ⟨row, hmem, hrow⟩)
    rw [Overload.processId_call_of_matches hq hmem hrow pid', Overload.processId_call hq', htest,
      hrows]
  · have hmatch' : ¬∃ row ∈ t'.rows, o.matchesRow m' address' h' row = true := by
      simpa only [Overload.matchesRow, ← htest, ← hrows] using hmatch
    rw [Overload.processId_call_of_not_matches hq hmatch,
      Overload.processId_call_of_not_matches hq' hmatch', or_iff_right hmatch]

end Compared

/-! #### Two datagrams, one listener -/

/-- The listener, with garbage in the upper half of its port column. -/
def dirtyListener : MibUdpRowOwnerPid := ⟨0x0100000A, 0xABCD7EC3, 4711⟩

/-- Its datagram is attributed to it either way. -/
theorem finalProcessId_dirty :
    (Overload.udp4.call noLookup datagram (addressOf .outbound) freshHeaders
        (answer [dirtyListener]) noBlocks 0 none).processId =
      (Overload.udp4.call noLookup datagram (addressOf .outbound) freshHeaders
        (answer (listeners.take 1)) noBlocks 0 none).processId :=
  have hq : (queryTable Overload.udp4.api (answer [dirtyListener]) noBlocks
      (Overload.udp4.slot freshHeaders)).result = .ok ⟨0, 16, [dirtyListener]⟩ := rfl
  have hq' : (queryTable Overload.udp4.api (answer (listeners.take 1)) noBlocks
      (Overload.udp4.slot freshHeaders)).result = .ok ⟨0, 16, listeners.take 1⟩ := rfl
  finalProcessId_eq_of_cleared noLookup (Overload.SamePacket.refl datagram freshHeaders .udp4) rfl
    hq hq' rfl 0

/-- A system in which process 4711 can be looked up, and no other. -/
def oneProcess : ProcessLookup := ⟨fun pid => pid == 4711, fun _ => some "firefox.exe"⟩

/-- A call for the datagram. -/
def reported (rows : List MibUdpRowOwnerPid) (processId : BitVec 32) :
    ProcessResult MibUdpRowOwnerPid :=
  Overload.udp4.call oneProcess datagram (addressOf .outbound) freshHeaders (answer rows) noBlocks
    processId none

/-- With the listener in the table, the caller's variable does not matter. -/
theorem sameProcessName_listener :
    (reported (listeners.take 1) 0).processName = (reported (listeners.take 1) 815).processName :=
  have hq : (queryTable Overload.udp4.api (answer (listeners.take 1)) noBlocks
      (Overload.udp4.slot freshHeaders)).result = .ok ⟨0, 16, listeners.take 1⟩ := rfl
  have hrow : Overload.udp4.matchesRow datagram (addressOf .outbound) freshHeaders
      (⟨0x0100000A, 0x7EC3, 4711⟩ : MibUdpRowOwnerPid) = true := rfl
  (sameProcessName_iff (Overload.SamePacket.refl datagram freshHeaders .udp4) rfl hq hq rfl rfl
    rfl).mpr (Or.inl ⟨_, List.mem_cons_self, hrow⟩)

/-- **A packet under the name of another packet's process**: a first datagram is attributed to
the listener; for the next one the listener is gone, and whoever does not reset the variable
reads the listener's name again. -/
theorem not_sameProcessName :
    (reported (listeners.take 1) 0).processId = 4711 ∧
      (reported [] (reported (listeners.take 1) 0).processId).outcome = .ok () ∧
      (reported [] 0).outcome = .ok () ∧
      (reported [] (reported (listeners.take 1) 0).processId).processName =
        some "firefox.exe" ∧
      (reported [] 0).processName = some "SYSTEM" := by
  exact ⟨rfl, rfl, rfl, rfl, rfl⟩

end DivertNet
