import DivertNet.ClosedHandle
import DivertNet.ComparedCalls
import DivertNet.IPv6Header
import DivertNet.ParsePacket
import DivertNet.ReportedLength
import DivertNet.TableBlocks

/-!
# Null pointers that are followed

Every native pointer of the wrapper may be null: the pointer of a header object until
`ParsePacket` has found a header for it, and after a packet without one; those behind an
`Address` and a `DivertAsyncResult` where `malloc` failed. Each accessor of these classes
compares the pointer with null before it uses it (`DivertNet.behindCheck`). Three pieces of
code do not, or do so too late:

| code | pointer | checked |
|---|---|---|
| `Address::Reset` | `m_address` | after the `memset` |
| `DivertAsyncResult::Reset` | `m_overlapped` | never |
| the loops of `GetPacketProcess` | the headers of the packet | never |

The first is reached from `Receive` and `ReceiveAsync`, the second from every start with a result
object. What is proved is that these are all: along any run of the public operations no null
pointer is followed exactly when no operation is called in one of the states the table leads to
(`DivertNet.noNullDereference_iff`).
-/

namespace DivertNet

open LittleEndian LastMatch Runs Function

/-! ### Behind a null check -/

/-- Following a native pointer, whatever it points to. -/
def follow {π : Type} : Option π → Except ClrException π
  | none => .error .accessViolation
  | some p => .ok p

/-- **The shape of an accessor**: `if (ptr != nullptr)`, its body, which follows the pointer;
otherwise what it does without. -/
def behindCheck {π α : Type} (ptr : Option π) (body : Option π → α) : Except ClrException α :=
  if ptr.isSome then do
    let p ← follow ptr
    return body (some p)
  else return body none

/-- **An accessor follows no null pointer.** -/
theorem behindCheck_eq {π α : Type} (ptr : Option π) (body : Option π → α) :
    behindCheck ptr body = .ok (body ptr) := by cases ptr <;> rfl

/-- **An operation that follows a null pointer** ends with an access violation, which is the only
way the code has to end so. -/
def FollowsNull {α : Type} (r : Except ClrException α) : Prop := r = .error .accessViolation

@[simp] theorem not_followsNull_ok {α : Type} (x : α) :
    ¬FollowsNull (.ok x : Except ClrException α) := nofun

@[simp] theorem followsNull_error {α : Type} (e : ClrException) :
    FollowsNull (.error e : Except ClrException α) ↔ e = .accessViolation := by
  simp [FollowsNull]

/-- Of two steps, the first or the second follows a null pointer. -/
theorem followsNull_bind_iff {α β : Type} (x : Except ClrException α)
    (f : α → Except ClrException β) :
    FollowsNull (x >>= f) ↔ FollowsNull x ∨ ∃ a, x = .ok a ∧ FollowsNull (f a) := by
  cases x with
  | error e => simp [bind, Except.bind]
  | ok a => simp [bind, Except.bind]

/-! ### `Reset` -/

/-- A reset of an address finds a structure, or can allocate one. -/
def Address.Resettable (malloc : Option WinDivertAddress) (address : Option Address) : Prop :=
  ∀ a, address = some a → a.m_address ≠ none ∨ malloc ≠ none

/-- **`Address::Reset` follows a null pointer** exactly where there is no structure and none can
be allocated. -/
theorem Address.followsNull_reset_iff (malloc : Option WinDivertAddress) (a : Address) :
    FollowsNull (a.reset malloc) ↔ a.m_address = none ∧ malloc = none := by
  rcases reset_cases malloc a with hok | ⟨hnull, herror⟩
  · rw [hok]
    refine iff_of_false (not_followsNull_ok _) ?_
    rintro ⟨ha, rfl⟩
    rw [reset, if_pos ha] at hok
    cases hok
  · rw [herror]
    exact iff_of_true rfl hnull

/-- **`DivertAsyncResult::Reset` follows a null pointer** exactly where there is no block. -/
theorem DivertAsyncResult.followsNull_reset_iff (r : ℕ) (createEvent : Except (BitVec 32) ℕ)
    (w : World) :
    FollowsNull (DivertAsyncResult.reset r createEvent w).2 ↔
      (w.results r).m_overlapped = none := by
  cases ha : (w.results r).m_overlapped with
  | none => exact iff_of_true (by rw [reset_null ha]; rfl) rfl
  | some a =>
    refine iff_of_false ?_ (Option.some_ne_none a)
    cases createEvent with
    | error lastError => rw [reset_failed ha]; exact not_followsNull_ok _
    | ok e => rw [reset_ok ha]; exact not_followsNull_ok _

/-! ### The transfers -/

section Transfers

variable {c : TransferCall} {reply : TransferReply} {w : World}

/-- The buffer check follows no pointer. -/
theorem not_followsNull_checkBuffer (empty : String) (packetBuffer : Option ManagedArray) :
    ¬FollowsNull (checkBuffer empty packetBuffer) := by
  cases packetBuffer with
  | none => simp [checkBuffer]
  | some a =>
    simp only [checkBuffer]
    split <;> simp

/-- The address check follows what the reset does. -/
theorem followsNull_checkAddress_iff (failed : String) (malloc : Option WinDivertAddress)
    (address : Option Address) :
    FollowsNull (checkAddress failed malloc address) ↔ ¬Address.Resettable malloc address := by
  cases address with
  | none => exact iff_of_false (by simp [checkAddress]) fun h => h nofun
  | some a =>
    have hres : ¬Address.Resettable malloc (some a) ↔ a.m_address = none ∧ malloc = none := by
      simp [Address.Resettable]
    rw [hres, ← a.followsNull_reset_iff malloc, checkAddress]
    rcases a.reset_cases malloc with hreset | ⟨-, hreset⟩ <;> rw [hreset] <;> simp

/-- **The checks of the receiving methods** follow a null pointer exactly where the buffer
passes and the address cannot be reset. -/
theorem followsNull_checkArguments_iff (empty failed : String) :
    FollowsNull (checkArguments empty failed c reply) ↔
      HasFirst c.packetBuffer ∧ ¬Address.Resettable reply.malloc c.address := by
  rw [checkArguments, followsNull_bind_iff]
  simp only [not_followsNull_checkBuffer, false_or, followsNull_bind_iff,
    followsNull_checkAddress_iff, checkBuffer_eq_ok, pure, Except.pure, not_followsNull_ok,
    and_false, exists_false, or_false, HasFirst]
  exact exists_and_right

/-- **The checks pass** where the buffer passes and there is an address that can be reset. -/
theorem exists_checkArguments_ok_iff (empty failed : String) :
    (∃ x, checkArguments empty failed c reply = .ok x) ↔
      HasFirst c.packetBuffer ∧ c.address ≠ none ∧ Address.Resettable reply.malloc c.address := by
  rw [checkArguments]
  rcases checkBuffer_cases empty c.packetBuffer with ⟨a, ha, hbuf⟩ | ⟨hno, e, hbuf⟩
  · rw [hbuf]
    cases haddr : c.address with
    | none =>
      refine iff_of_false ?_ fun h => h.2.1 rfl
      rintro ⟨x, hx⟩
      cases hx
    | some addr =>
      have hres : Address.Resettable reply.malloc (some addr) ↔
          ¬FollowsNull (addr.reset reply.malloc) := by
        rw [addr.followsNull_reset_iff, not_and_or]
        simp [Address.Resettable]
      rw [hres, and_iff_right ⟨a, ha⟩, and_iff_right (Option.some_ne_none _)]
      rcases addr.reset_cases reply.malloc with hreset | ⟨-, hreset⟩
      · rw [hreset]
        refine iff_of_true ⟨(a, ⟨some ⟨0, 0, 0⟩⟩), ?_⟩ (not_followsNull_ok _)
        simp only [checkAddress, hreset, bind, Except.bind, pure, Except.pure]
      · rw [hreset]
        refine iff_of_false ?_ fun h => h rfl
        rintro ⟨x, hx⟩
        simp only [checkAddress, hreset, bind, Except.bind, reduceCtorEq] at hx
  · rw [hbuf]
    refine iff_of_false ?_ fun h => hno h.1
    rintro ⟨x, hx⟩
    cases hx

/-- The request for a result object follows no pointer. -/
theorem not_followsNull_requestWithResult (api : DriverApi) (pinFailed : String) (d : ℕ)
    (packetBuffer : ManagedArray) (pin : ℕ) (address : Option Address) (r : ℕ)
    (reply : DriverReply) (w : World) :
    ¬FollowsNull (requestWithResult api pinFailed d packetBuffer pin address r reply w).2 := by
  simp only [requestWithResult]
  split
  · simp
  · split
    · split
      · split <;> simp
      · simp
    · simp

/-- **A start with a result object** follows a null pointer exactly where the object has no
block. -/
theorem followsNull_startWithResult_iff (api : DriverApi) (resetFailed pinFailed : String) (d : ℕ)
    (packetBuffer : ManagedArray) (address : Option Address) (r : ℕ) :
    FollowsNull (startWithResult api resetFailed pinFailed d packetBuffer address r reply w).2 ↔
      (w.results r).m_overlapped = none := by
  cases ha : (w.results r).m_overlapped with
  | none => exact iff_of_true (by rw [startWithResult_null ha]; rfl) rfl
  | some a =>
    refine iff_of_false ?_ (Option.some_ne_none a)
    cases he : reply.createEvent with
    | error lastError =>
      rw [startWithResult_failed ha he]
      simp
    | ok e =>
      rw [startWithResult_ready ha he]
      exact not_followsNull_requestWithResult _ _ _ _ _ _ _ _ _

/-- **No transfer is made in the states the table leads to**: what a path resets can be
reset. -/
def TransferPath.Safe (c : TransferCall) (reply : TransferReply) (w : World) : TransferPath → Prop
  | .receive | .receiveAsync none =>
    HasFirst c.packetBuffer → Address.Resettable reply.malloc c.address
  | .receiveAsync (some r) =>
    HasFirst c.packetBuffer → Address.Resettable reply.malloc c.address ∧
      (c.address ≠ none → (w.results r).m_overlapped ≠ none)
  | .send | .sendAsync none => True
  | .sendAsync (some r) => HasFirst c.packetBuffer → (w.results r).m_overlapped ≠ none

/-- `Receive` follows a null pointer where its checks do. -/
theorem followsNull_receive_iff :
    FollowsNull (receive c reply w).outcome ↔
      HasFirst c.packetBuffer ∧ ¬Address.Resettable reply.malloc c.address := by
  rw [← followsNull_checkArguments_iff TransferText.receiveEmpty TransferText.receiveAddress,
    receive]
  cases checkArguments TransferText.receiveEmpty TransferText.receiveAddress c reply with
  | error e => simp
  | ok x =>
    simp only
    split <;> simp

/-- So does `ReceiveAsync` without a result object. -/
theorem followsNull_receiveAsync_none_iff :
    FollowsNull (receiveAsync c none reply w).outcome ↔
      HasFirst c.packetBuffer ∧ ¬Address.Resettable reply.malloc c.address := by
  rw [← followsNull_checkArguments_iff TransferText.receiveAsyncEmpty
    TransferText.receiveAsyncAddress, receiveAsync]
  cases checkArguments TransferText.receiveAsyncEmpty TransferText.receiveAsyncAddress c reply with
  | error e => simp
  | ok x =>
    simp only
    split
    · simp
    · split <;> simp

/-- With one it does so there, or where the start does. -/
theorem followsNull_receiveAsync_some_iff (r : ℕ) :
    FollowsNull (receiveAsync c (some r) reply w).outcome ↔
      HasFirst c.packetBuffer ∧ (¬Address.Resettable reply.malloc c.address ∨
        c.address ≠ none ∧ (w.results r).m_overlapped = none) := by
  have hnull := @followsNull_checkArguments_iff c reply TransferText.receiveAsyncEmpty
    TransferText.receiveAsyncAddress
  have hok := @exists_checkArguments_ok_iff c reply TransferText.receiveAsyncEmpty
    TransferText.receiveAsyncAddress
  rw [receiveAsync]
  cases hcheck : checkArguments TransferText.receiveAsyncEmpty
    TransferText.receiveAsyncAddress c reply with
  | error e =>
    simp only [hcheck, followsNull_error, reduceCtorEq, exists_false, false_iff] at hnull hok
    simp only [followsNull_error]
    tauto
  | ok x =>
    obtain ⟨hpass, haddr, hres⟩ := hok.mp ⟨x, hcheck⟩
    simp only [followsNull_startWithResult_iff, hpass, haddr, hres, not_true_eq_false, false_or,
      true_and, ne_eq, not_false_eq_true]

/-- `Send` follows none. -/
theorem not_followsNull_send : ¬FollowsNull (send c reply w).outcome := by
  have hbuf := not_followsNull_checkBuffer TransferText.sendEmpty c.packetBuffer
  rw [send]
  cases hcheck : checkBuffer TransferText.sendEmpty c.packetBuffer with
  | error e => simpa [hcheck] using hbuf
  | ok a =>
    simp only
    split <;> simp

/-- Nor does `SendAsync` without a result object. -/
theorem not_followsNull_sendAsync_none : ¬FollowsNull (sendAsync c none reply w).outcome := by
  have hbuf := not_followsNull_checkBuffer TransferText.sendAsyncEmpty c.packetBuffer
  rw [sendAsync]
  cases hcheck : checkBuffer TransferText.sendAsyncEmpty c.packetBuffer with
  | error e => simpa [hcheck] using hbuf
  | ok a =>
    simp only
    split
    · split <;> simp
    · simp

/-- With one it does so where the start does. -/
theorem followsNull_sendAsync_some_iff (r : ℕ) :
    FollowsNull (sendAsync c (some r) reply w).outcome ↔
      HasFirst c.packetBuffer ∧ (w.results r).m_overlapped = none := by
  rw [sendAsync]
  rcases checkBuffer_cases TransferText.sendAsyncEmpty c.packetBuffer with
    ⟨a, ha, hcheck⟩ | ⟨hno, e, hcheck⟩
  · have hpass : HasFirst c.packetBuffer := ⟨a, ha⟩
    simp only [hcheck, followsNull_startWithResult_iff, hpass, true_and]
  · have hnull := not_followsNull_checkBuffer TransferText.sendAsyncEmpty c.packetBuffer
    simp only [hcheck, followsNull_error] at hnull ⊢
    exact iff_of_false hnull fun h => hno h.1

/-- **A transfer follows a null pointer** exactly where it is not safe, along each path. -/
theorem followsNull_transfer_iff (p : TransferPath) :
    FollowsNull (p.run c reply w).outcome ↔ ¬p.Safe c reply w := by
  match p with
  | .receive => exact followsNull_receive_iff.trans Classical.not_imp.symm
  | .receiveAsync none => exact followsNull_receiveAsync_none_iff.trans Classical.not_imp.symm
  | .receiveAsync (some r) =>
    refine (followsNull_receiveAsync_some_iff r).trans ?_
    rw [TransferPath.Safe, Classical.not_imp, not_and_or, Classical.not_imp, not_not]
  | .send => exact iff_of_false not_followsNull_send fun h => h trivial
  | .sendAsync none => exact iff_of_false not_followsNull_sendAsync_none fun h => h trivial
  | .sendAsync (some r) =>
    refine (followsNull_sendAsync_some_iff r).trans ?_
    rw [TransferPath.Safe, Classical.not_imp, not_not]

end Transfers

/-! ### The loops of `GetPacketProcess` -/

section Loops

variable {ρ : Type}

/-- **A loop body that compares a port, and then an address**: it follows the pointer of the
transport header at once, and that of the IP header where the port agrees. -/
theorem deref_port_cases (hdr ip : Option ℕ) (P : ℕ → Prop) [DecidablePred P] (f : ℕ → Bool) :
    ((∃ p, hdr = some p ∧ (P p → ip ≠ none)) ∧
        ∃ b, (deref hdr >>= fun p => if P p then deref ip >>= fun q => pure (f q) else pure false :
          Except ClrException Bool) = .ok b) ∨
      (¬(∃ p, hdr = some p ∧ (P p → ip ≠ none)) ∧
        (deref hdr >>= fun p => if P p then deref ip >>= fun q => pure (f q) else pure false :
          Except ClrException Bool) = .error .accessViolation) := by
  cases hdr with
  | none =>
    refine Or.inr ⟨?_, rfl⟩
    rintro ⟨p, hp, -⟩
    cases hp
  | some p =>
    rcases em (P p) with hport | hport
    · simp only [deref, bind, Except.bind, hport, if_true]
      cases ip with
      | none => exact Or.inr ⟨by simp [hport], rfl⟩
      | some q => exact Or.inl ⟨by simp, f q, rfl⟩
    · simp only [deref, bind, Except.bind, hport, if_false]
      exact Or.inl ⟨⟨p, rfl, fun h => absurd h hport⟩, false, rfl⟩

/-- The exceptions of a table query are its own. -/
theorem exception_of_queryTable {api : TableApi} {q : TableQuery ρ} {heap : TableHeap}
    {slot : Option (TableBlock ρ)} {e : ClrException}
    (h : (queryTable api q heap slot).result = .error e) : ∃ message, e = .exception message := by
  cases hfirst : firstQuery api q slot with
  | none =>
    rw [queryTable_of_no_query hfirst] at h
    exact ⟨_, (Except.error.inj h).symm⟩
  | some r₁ =>
    obtain ⟨heap', t₀, size, -, hquery⟩ := queryTable_eq_fillTable heap hfirst
    rw [hquery, fillTable] at h
    simp only at h
    split at h
    · split at h
      · exact ⟨_, (Except.error.inj h).symm⟩
      · split at h
        · exact ⟨_, (Except.error.inj h).symm⟩
        · cases h
    · cases h

end Loops

namespace Overload

section Rows

variable (m : Mem) (address : Address) (h : PacketHeaders)

/-- The port of a TCP packet at its end on this host. -/
def hostPort (tcp : ℕ) : BitVec 16 :=
  if matchSrcPort address then TCPHeader.srcPort.read m tcp else TCPHeader.dstPort.read m tcp

/-- **A row is safe to look at**: there is a transport header, and for TCP an IP header too,
unless the port in the row is not that of the packet. -/
def RowSafe : (o : Overload) → o.Row → Prop
  | .tcp4 => fun row : MibTcpRow2 =>
    ∃ tcp, h.tcpHeader.m_tcpHeader = some tcp ∧
      (narrowedPort row.dwLocalPort = hostPort m address tcp → h.ipv4Header.m_ipHeader ≠ none)
  | .tcp6 => fun row : MibTcp6Row2 =>
    ∃ tcp, h.tcpHeader.m_tcpHeader = some tcp ∧
      (narrowedPort (if matchSrcPort address then row.dwLocalPort else row.dwRemotePort) =
        hostPort m address tcp → h.ipv6Header.m_ipv6Header ≠ none)
  | .udp4 => fun _ => h.udpHeader.m_udpHeader ≠ none
  | .udp6 => fun _ => h.udpHeader.m_udpHeader ≠ none

variable {m address h}

/-- The loops over UDP rows follow the one pointer. -/
theorem testUdp_cases (src : Bool) (udpHeader : UDPHeader) (column : BitVec 32) :
    (udpHeader.m_udpHeader ≠ none ∧ ∃ b, testUdp m src udpHeader column = .ok b) ∨
      (¬udpHeader.m_udpHeader ≠ none ∧
        testUdp m src udpHeader column = .error .accessViolation) := by
  cases hudp : udpHeader.m_udpHeader with
  | none => exact Or.inr ⟨fun h => h rfl, by simp only [testUdp, hudp, deref, bind, Except.bind]⟩
  | some udp =>
    refine Or.inl ⟨Option.some_ne_none _, ?_⟩
    simp only [testUdp, hudp, deref, bind, Except.bind, pure, Except.pure]
    split <;> exact ⟨_, rfl⟩

/-- **A loop body follows a null pointer** exactly at the rows that are not safe, and throws
nothing else. -/
theorem test_cases (o : Overload) (row : o.Row) :
    (RowSafe m address h o row ∧ ∃ b, o.test m address h row = .ok b) ∨
      (¬RowSafe m address h o row ∧ o.test m address h row = .error .accessViolation) := by
  cases o with
  | tcp4 =>
    simp only [RowSafe, test, testTcp4, hostPort, maskedPort_eq]
    cases matchSrcPort address <;> exact deref_port_cases _ _ _ _
  | tcp6 =>
    simp only [RowSafe, test, testTcp6, hostPort, maskedPort_eq]
    cases matchSrcPort address <;> exact deref_port_cases _ _ _ _
  | udp4 => exact testUdp_cases _ _ _
  | udp6 => exact testUdp_cases _ _ _

end Rows

/-- **A call of `GetPacketProcess` follows a null pointer** exactly where its query hands over
a table with a row that is not safe. -/
theorem followsNull_call_iff {m : Mem} {address : Address} {h : PacketHeaders}
    {lookup : ProcessLookup} {o : Overload} {q : TableQuery o.Row} {heap : TableHeap}
    {pid : BitVec 32} {name : Option String} :
    FollowsNull (o.call lookup m address h q heap pid name).outcome ↔
      ∃ t, (queryTable o.api q heap (o.slot h)).result = .ok t ∧
        ∃ row ∈ t.rows, ¬RowSafe m address h o row := by
  rw [call_eq]
  cases hq : (queryTable o.api q heap (o.slot h)).result with
  | error e =>
    obtain ⟨message, rfl⟩ := exception_of_queryTable hq
    rw [getPacketProcess_of_error hq]
    simp
  | ok t =>
    simp only [getPacketProcess, hq, Except.ok.injEq, exists_eq_left']
    -- the loop faults on a row whose test does, or its tests all go through
    have hstart : (LastMatch.start pid : Scan o.Row (BitVec 32) ClrException).fault = none := rfl
    rcases fault_scan hstart with ⟨hnone, hok⟩ | ⟨row, hmem, e, he, hfault⟩
    · rw [hnone]
      refine iff_of_false (not_followsNull_ok _) ?_
      rintro ⟨row, hmem, hbad⟩
      obtain ⟨b, hb⟩ := hok row hmem
      rcases test_cases o row with ⟨hsafe, -⟩ | ⟨-, herror⟩
      · exact hbad hsafe
      · rw [hb] at herror
        cases herror
    · rw [hfault]
      rcases test_cases o row with ⟨-, b, hb⟩ | ⟨hbad, herror⟩
      · rw [hb] at he
        cases he
      · rw [herror] at he
        cases he
        exact iff_of_true rfl ⟨row, hmem, hbad⟩

end Overload

/-! ### A program that uses the wrapper -/

/-- **The objects of a program**: the packet bytes, the handles, results and `Diversion`s, the
table slots, the `Address` objects, and the header objects of each kind, by their pointers and,
for the two IP headers, by the addresses they keep. -/
structure Objects where
  mem : Mem
  world : World
  tables : Tables
  addresses : ℕ → Address
  pointers : HeaderKind → ℕ → Option ℕ
  ip : ℕ → IPHeader
  ipv6 : ℕ → IPv6Header

/-- The accessors of an `Address` object. -/
inductive AddressAccess where
  | interfaceIndex
  | setInterfaceIndex (value : BitVec 32)
  | subInterfaceIndex
  | setSubInterfaceIndex (value : BitVec 32)
  | direction
  | setDirection (value : DivertDirection)

/-- The object after such an accessor. -/
def AddressAccess.run (a : Address) : AddressAccess → Except ClrException Address
  | .interfaceIndex => do
    let _ ← behindCheck a.m_address fun p => Address.interfaceIndex ⟨p⟩
    return a
  | .setInterfaceIndex value => behindCheck a.m_address fun p => Address.setInterfaceIndex value ⟨p⟩
  | .subInterfaceIndex => do
    let _ ← behindCheck a.m_address fun p => Address.subInterfaceIndex ⟨p⟩
    return a
  | .setSubInterfaceIndex value =>
    behindCheck a.m_address fun p => Address.setSubInterfaceIndex value ⟨p⟩
  | .direction => do
    let _ ← behindCheck a.m_address fun p => Address.direction ⟨p⟩
    return a
  | .setDirection value => behindCheck a.m_address fun p => Address.setDirection value ⟨p⟩

/-- They follow no null pointer. -/
theorem AddressAccess.not_followsNull_run (access : AddressAccess) (a : Address) :
    ¬FollowsNull (access.run a) := by
  cases access <;>
    simp only [run, behindCheck_eq, bind, Except.bind, pure, Except.pure, not_followsNull_ok,
      not_false_eq_true]

/-- **An operation** on the objects, with what the system answers. Header objects and addresses
are given by their numbers, which stand for the ones in a `TransferCall` or `ProcessCall`. -/
inductive ObjectOperation where
  | newAddress (n : ℕ) (malloc : Option WinDivertAddress)
  | newResult (malloc : Option ℕ)
  | openDiversion (v : ℕ)
  | closeDiversion (d : ℕ) (closed : Bool)
  | get (r : ℕ) (reply : GetReply)
  | addressAccess (n : ℕ) (access : AddressAccess)
  | getProperty (k : HeaderKind) (n : ℕ) {w : ℕ} (property : HeaderProperty k w)
  | setProperty (k : HeaderKind) (n : ℕ) {w : ℕ} (property : HeaderProperty k w) (value : BitVec w)
  | ipAddress (n : ℕ) (action : AddressAction)
  | ipv6Address (n : ℕ) (action : AddressAction)
  | parsePacket (helper : ParseHelper) (c : ParseCall) (object : HeaderKind → ℕ)
  | resetAddress (n : ℕ) (malloc : Option WinDivertAddress)
  | resetResult (r : ℕ) (createEvent : Except (BitVec 32) ℕ)
  | transfer (path : TransferPath) (c : TransferCall) (address : Option ℕ) (reply : TransferReply)
  | getPacketProcess (c : ProcessCall) (address ip ipv6 : ℕ)

namespace Objects

/-- Nothing made, parsed, or fetched yet. -/
def start : Objects where
  mem _ := 0
  world := .empty
  tables := .empty
  addresses _ := .init none
  pointers _ _ := none
  ip _ := .new
  ipv6 _ := .new (fun _ => 0) fun _ => 0

variable (s : Objects)

/-- An `IPHeader` object. -/
def ipHeader (n : ℕ) : IPHeader := (s.ip n).setUnmanagedHeader (s.pointers .ip n)

/-- An `IPv6Header` object. -/
def ipv6Header (n : ℕ) : IPv6Header := (s.ipv6 n).setUnmanagedHeader (s.pointers .ipv6 n)

/-- Setting the pointer of a header object. -/
def setPointer (k : HeaderKind) (n : ℕ) (value : Option ℕ) : Objects :=
  { s with pointers := update s.pointers k (update (s.pointers k) n value) }

/-- A transfer with the address object of that number. -/
def transferCall (c : TransferCall) (address : Option ℕ) : TransferCall :=
  { c with address := address.map s.addresses }

/-- A call of `GetPacketProcess` with the objects of these numbers. -/
def processCall (c : ProcessCall) (address ip ipv6 : ℕ) : ProcessCall :=
  { c with
    m := s.mem
    address := s.addresses address
    m_tcpHeader := s.pointers .tcp c.object
    m_udpHeader := s.pointers .udp c.object
    ipv4Header := s.ipHeader ip
    ipv6Header := s.ipv6Header ipv6 }

/-- What such a call leaves. -/
def processResult (c : ProcessCall) : ProcessResult c.overload.Row :=
  c.overload.call c.lookup c.m c.address (s.tables.headers c) c.q s.tables.heap c.processId
    c.processName

/-- Going on with a result, or throwing with the objects as they were. -/
def after {α : Type} (x : Except ClrException α) (next : α → Objects) :
    Objects × Except ClrException Unit :=
  match x with
  | .ok a => (next a, .ok ())
  | .error e => (s, .error e)

/-- **One operation**: the objects after it, and how it ended. -/
def perform : ObjectOperation → Objects × Except ClrException Unit
  | .newAddress n malloc => ({ s with addresses := update s.addresses n (.init malloc) }, .ok ())
  | .newResult malloc => ({ s with world := DivertAsyncResult.construct malloc s.world }, .ok ())
  | .openDiversion v => ({ s with world := Diversion.opened v s.world }, .ok ())
  | .closeDiversion d closed => ({ s with world := (Diversion.close d closed s.world).1 }, .ok ())
  | .get r reply => ({ s with world := (DivertAsyncResult.get r reply s.world).1 }, .ok ())
  | .addressAccess n access =>
    s.after (access.run (s.addresses n)) fun a => { s with addresses := update s.addresses n a }
  | .getProperty k n property =>
    s.after (behindCheck (s.pointers k n) fun hdr => property.get hdr s.mem) fun _ => s
  | .setProperty k n property value =>
    s.after (behindCheck (s.pointers k n) fun hdr => property.set hdr value s.mem) fun m =>
      { s with mem := m }
  | .ipAddress n action =>
    s.after (behindCheck (s.pointers .ip n) fun hdr =>
        IPHeaderState.next ⟨s.mem, (s.ip n).setUnmanagedHeader hdr⟩ action) fun t =>
      { s.setPointer .ip n t.header.m_ipHeader with mem := t.mem, ip := update s.ip n t.header }
  | .ipv6Address n action =>
    s.after (behindCheck (s.pointers .ipv6 n) fun hdr =>
        IPv6HeaderState.next ⟨s.mem, (s.ipv6 n).setUnmanagedHeader hdr⟩ action) fun t =>
      { s.setPointer .ipv6 n t.header.m_ipv6Header with
        mem := t.mem, ipv6 := update s.ipv6 n t.header }
  | .parsePacket helper c object =>
    s.after (DivertNet.parsePacket helper (fun k => s.pointers k (object k)) c) fun r =>
      { s with pointers := fun k => update (s.pointers k) (object k) (r.headers k) }
  | .resetAddress n malloc =>
    s.after ((s.addresses n).reset malloc) fun r =>
      { s with addresses := update s.addresses n r.1 }
  | .resetResult r createEvent =>
    let t := DivertAsyncResult.reset r createEvent s.world
    ({ s with world := t.1 }, t.2.map fun _ => ())
  | .transfer path c address reply =>
    let t := path.run (s.transferCall c address) reply s.world
    let addresses := match address, t.address with
      | some n, some a => update s.addresses n a
      | _, _ => s.addresses
    ({ s with world := t.world, addresses := addresses }, t.outcome.map fun _ => ())
  | .getPacketProcess c address ip ipv6 =>
    let c := s.processCall c address ip ipv6
    ({ s with tables := s.tables.next c }, (s.processResult c).outcome)

end Objects

namespace ObjectOperation

/-- The result object of an operation. -/
def asyncResult : ObjectOperation → Option ℕ
  | .get r _ => some r
  | .resetResult r _ => some r
  | .transfer path _ _ _ => path.asyncResult
  | _ => none

/-- **Not one of the states of the table**: what is reset can be, and where the loops of
`GetPacketProcess` get to a row, its packet has the headers they look at. All other operations
are safe in every state. -/
def Safe (s : Objects) : ObjectOperation → Prop
  | .resetAddress n malloc => Address.Resettable malloc (some (s.addresses n))
  | .resetResult r _ => (s.world.results r).m_overlapped ≠ none
  | .transfer path c address reply => path.Safe (s.transferCall c address) reply s.world
  | .getPacketProcess c address ip ipv6 =>
    ∀ t, (queryTable c.overload.api c.q s.tables.heap (s.tables.slots c.overload c.object)).result =
        .ok t →
      ∀ row ∈ t.rows, c.overload.RowSafe s.mem (s.addresses address)
        (s.tables.headers (s.processCall c address ip ipv6)) row
  | _ => True

end ObjectOperation

/-- An operation takes place if its result object has been made. -/
def Objects.step (s : Objects) (a : ObjectOperation) : Option Objects :=
  if a.asyncResult.all (· < s.world.nextResult) then some (s.perform a).1 else none

/-! ### When a null pointer is followed -/

section System

variable {s : Objects}

@[simp] theorem followsNull_map_iff {α β : Type} (f : α → β) (x : Except ClrException α) :
    FollowsNull (x.map f) ↔ FollowsNull x := by
  cases x <;> simp [FollowsNull, Except.map]

@[simp] theorem followsNull_after_iff {α : Type} (x : Except ClrException α)
    (next : α → Objects) : FollowsNull (s.after x next).2 ↔ FollowsNull x := by
  cases x <;> simp [FollowsNull, Objects.after]

/-- Going on behind a null check follows nothing. -/
theorem not_followsNull_behindCheck {π α : Type} (ptr : Option π) (body : Option π → α)
    (next : α → Objects) : ¬FollowsNull (s.after (behindCheck ptr body) next).2 := by
  rw [followsNull_after_iff, behindCheck_eq]
  exact not_followsNull_ok _

/-- A parse takes the address of the first element, and follows nothing. -/
theorem not_followsNull_parsePacket (helper : ParseHelper) (h : Headers) (c : ParseCall) :
    ¬FollowsNull (parsePacket helper h c) := by
  have hfirst : ¬FollowsNull (addressOfFirst c.packetBuffer) := by
    cases c.packetBuffer with
    | none => simp [addressOfFirst]
    | some a =>
      simp only [addressOfFirst]
      split <;> simp
  simp only [parsePacket, ParseCall.args, followsNull_bind_iff, hfirst, pure, Except.pure,
    not_followsNull_ok, and_false, exists_false, or_false, not_false_eq_true]

/-- **An operation follows a null pointer exactly where it is not safe.** -/
theorem followsNull_perform_iff (s : Objects) (a : ObjectOperation) :
    FollowsNull (s.perform a).2 ↔ ¬a.Safe s := by
  have hnever : ∀ {x : Except ClrException Unit}, ¬FollowsNull x → (FollowsNull x ↔ ¬True) :=
    fun hx => iff_of_false hx fun h => h trivial
  cases a with
  | newAddress n malloc => exact hnever (not_followsNull_ok _)
  | newResult malloc => exact hnever (not_followsNull_ok _)
  | openDiversion v => exact hnever (not_followsNull_ok _)
  | closeDiversion d closed => exact hnever (not_followsNull_ok _)
  | get r reply => exact hnever (not_followsNull_ok _)
  | addressAccess n access =>
    refine hnever fun h => ?_
    exact access.not_followsNull_run _ (followsNull_after_iff _ _ |>.mp h)
  | getProperty k n property => exact hnever (not_followsNull_behindCheck _ _ _)
  | setProperty k n property value => exact hnever (not_followsNull_behindCheck _ _ _)
  | ipAddress n action => exact hnever (not_followsNull_behindCheck _ _ _)
  | ipv6Address n action => exact hnever (not_followsNull_behindCheck _ _ _)
  | parsePacket helper c object =>
    refine hnever fun h => ?_
    exact not_followsNull_parsePacket _ _ _ (followsNull_after_iff _ _ |>.mp h)
  | resetAddress n malloc =>
    rw [Objects.perform, followsNull_after_iff, Address.followsNull_reset_iff]
    simp [ObjectOperation.Safe, Address.Resettable]
  | resetResult r createEvent =>
    simp only [Objects.perform, followsNull_map_iff, DivertAsyncResult.followsNull_reset_iff,
      ObjectOperation.Safe, ne_eq, not_not]
  | transfer path c address reply =>
    simp only [Objects.perform, followsNull_map_iff, followsNull_transfer_iff, ObjectOperation.Safe]
  | getPacketProcess c address ip ipv6 =>
    have hslot := s.tables.slot_headers (s.processCall c address ip ipv6)
    simp only [Objects.perform, Objects.processResult, Overload.followsNull_call_iff,
      ObjectOperation.Safe, not_forall, exists_prop, hslot]
    rfl

/-- **When no null pointer is followed**: along every run of the operations, from any state and
whatever the system answers, exactly when every operation of it is safe in the state it is
called in. -/
theorem noNullDereference_iff (s : Objects) (l : List ObjectOperation) :
    EveryStep Objects.step (fun s a _ => ¬FollowsNull (s.perform a).2) s l ↔
      EveryStep Objects.step (fun s a _ => a.Safe s) s l := by
  refine everyStep_congr (fun s a _ _ => ?_) s l
  rw [followsNull_perform_iff, not_not]

end System

/-! #### Three null pointers -/

/-- A transfer of four bytes, on the first `Diversion`. -/
def fourBytes : TransferCall := ⟨0, some ⟨0, 4096, [0x45, 0, 0, 4], by decide⟩, 4, none, 0⟩

/-- A system without memory to spare; the driver would have been done. -/
def outOfMemory : TransferReply := ⟨none, .ok 8, ⟨1, some 4, 0, false⟩⟩

/-- Asking for the process of a TCP packet over IPv4, where the table has one row. -/
def oneConnection : ProcessCall where
  overload := .tcp4
  object := 0
  lookup := noLookup
  m _ := 0
  address := .init none
  m_tcpHeader := none
  m_udpHeader := none
  ipv4Header := .new
  ipv6Header := .new (fun _ => 0) fun _ => 0
  q := answer [connection4]
  processId := 0
  processName := none

/-- **Null pointers that are followed**: by `Receive`, for an address whose two allocations
fail; by `SendAsync`, for a result object whose allocation failed; and by `GetPacketProcess`, for
header objects nothing was parsed into. -/
theorem not_noNullDereference :
    ¬EveryStep Objects.step (fun s a _ => ¬FollowsNull (s.perform a).2) .start
        [.openDiversion 4, .newAddress 0 none,
          .transfer .receive fourBytes (some 0) outOfMemory] ∧
      ¬EveryStep Objects.step (fun s a _ => ¬FollowsNull (s.perform a).2) .start
        [.openDiversion 4, .newAddress 0 (some ⟨0, 0, 0⟩), .newResult none,
          .transfer (.sendAsync (some 0)) fourBytes (some 0) outOfMemory] ∧
      ¬EveryStep Objects.step (fun s a _ => ¬FollowsNull (s.perform a).2) .start
        [.newAddress 0 (some ⟨0, 0, 0⟩), .getPacketProcess oneConnection 0 0 0] := by
  refine ⟨fun h => ?_, fun h => ?_, fun h => ?_⟩
  · exact h [_, _] _ [] _ _ rfl rfl rfl rfl
  · exact h [_, _, _] _ [] _ _ rfl rfl rfl rfl
  · exact h [_] _ [] _ _ rfl rfl rfl rfl

end DivertNet
