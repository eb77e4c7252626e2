import DivertNet.Library.Triples
import DivertNet.ComparedCalls
import DivertNet.FilterCopies
import DivertNet.HelperResults
import DivertNet.MappedTables
import DivertNet.OpenDiversions
import DivertNet.TableBlocks

/-!
# The sample application

`NetDump` diverts everything, reports each packet, and sends it on: a program in the path of all
traffic of the host. It opens one `Diversion`, makes one object of each header class, one address
and one buffer, and uses them for packet after packet, until it is told to stop.

A report is up to three lines on the console, `DivertNet.NetDump.Report`. What is written about an
`Open` or a `Receive` that fails is left out.

Nothing pins the buffer between the calls of the wrapper, so the collector may move it there, at
any of the places `DivertNet.NetDump.MovePoint`. The header objects do not follow it, and what is
read through them is then whatever else is in memory where it was, `DivertNet.NetDump.State.memory`.

What matters most about it is that no packet is lost, sent twice or changed on the way.
`DivertNet.NetDump.relays_main` says that it is so: what is submitted to the driver is what was
received, in the same order, each packet once and with its address, its checksums recalculated
if it is outbound. There is one exception, in both senses. `GetPacketProcess` may throw, the loop
has no `try`, and the packet in hand is gone, with the `Diversion` still open.
-/

namespace DivertNet.NetDump

open LittleEndian Triples

/-! ### The state -/

/-- A report about a packet: the overload that was asked for the process, and what is written. If
the process is `SYSTEM`, a line comes first with the last error and the process id; for TCP
there is one more at the end. -/
structure Report where
  overload : Overload
  error : Option (BitVec 32 × BitVec 32)
  direction : DivertDirection
  destinationAddress : IPAddress
  destinationPort : BitVec 16
  sourceAddress : IPAddress
  sourcePort : BitVec 16
  processName : String
  segment : Option (BitVec 16 × BitVec 16 × BitVec 16 × BitVec 32)

/-- **The state**: the objects of the wrapper and the copies of the filter string, the address,
the buffer with what else is in memory, what the header objects point to, the object for IPv4,
which keeps the addresses it handed out, the owner tables, and the reports written. -/
structure State where
  world : World
  filters : FilterState
  address : Address
  buffer : ManagedArray
  rest : Mem
  headers : Headers
  ipHeader : IPHeader
  tables : Tables
  reports : List Report

/-- **What a pointer reads**: the elements of the buffer where it is now, and elsewhere something
else. -/
def State.memory (s : State) : Mem := fun x =>
  if s.buffer.base ≤ x ∧ x < s.buffer.base + s.buffer.bytes.length then s.buffer.memory x
  else s.rest x

/-- A part of the application, which may throw. -/
abbrev SampleM := Prog State ClrException

/-! ### What the system answers -/

/-- `new byte[65535]`. -/
def bufferLength : ℕ := 65535

/-- What `WinDivertRecv` answers: `TRUE` and a packet that fits into the buffer, with its
address, or anything else. -/
inductive Reception where
  | failed (driver : DriverReply) (h : driver.result ≠ 1)
  | packet (bytes : List Byte) (h : bytes.length ≤ bufferLength) (address : WinDivertAddress)

/-- The answer as the wrapper sees it. -/
def Reception.driver : Reception → DriverReply
  | .failed driver _ => driver
  | .packet bytes _ _ => ⟨1, some (BitVec.ofNat 32 bytes.length), 0, false⟩

/-- Where the collector may run in a pass: before each call of the wrapper, and before a report is
written. -/
inductive MovePoint where
  | beforeReceive | beforeParse | beforeBranch | beforeReport | beforeChecksums | beforeSend
  deriving DecidableEq, Repr

/-- A move of the buffer: where to, and what else is in memory then. -/
structure Move where
  base : ℕ
  rest : Mem

/-- What the system answers during one pass of the loop: to `Address::Reset`, to the request, to
`GetPacketProcess`, to `GetLastWin32Error`, and to `SendAsync`; and how the collector moves the
buffer. -/
structure PassReply where
  malloc : Option WinDivertAddress
  reception : Reception
  lookup : ProcessLookup
  query : (o : Overload) → TableQuery o.Row
  lastError : BitVec 32
  sent : DriverReply
  moves : MovePoint → Option Move

/-! ### The loop -/

section Loop

variable (parser : ParseHelper) (helper : ChecksumHelper) (diversion : ℕ) (reply : PassReply)

/-- The buffer moved, or not. -/
def State.moved (move : Option Move) (s : State) : State :=
  match move with
  | none => s
  | some move => { s with buffer := { s.buffer with base := move.base }, rest := move.rest }

/-- The collector, at some point. -/
def collect (point : MovePoint) : SampleM Unit := fun s => (.ok (), s.moved (reply.moves point))

/-- `diversion.Receive(buffer, address, ref receiveLength)`: the length, if a packet was
received. -/
def receivePacket : SampleM (Option (BitVec 32)) := fun s =>
  let call : TransferCall := ⟨diversion, some s.buffer, 0, some s.address, 0⟩
  let result := receive call ⟨reply.malloc, .error 0, reply.reception.driver⟩ s.world
  let s := { s with world := result.world, address := result.address.getD s.address }
  match result.outcome with
  | .error e => (.error e, s)
  | .ok false => (.ok none, s)
  | .ok true =>
    -- the driver has written the packet and its address
    match reply.reception with
    | .failed .. => (.ok (some result.length), s)
    | .packet bytes _ address =>
      (.ok (some result.length), { s with
        buffer := s.buffer.overwrite bytes
        address := ⟨s.address.m_address.map fun _ => address⟩ })

/-- `diversion.ParsePacket(buffer, receiveLength, …)`, with all six header objects. -/
def parseHeaders (receiveLength : BitVec 32) : SampleM Unit := fun s =>
  let call : ParseCall := ⟨.headers, some s.buffer, receiveLength, fun _ => true⟩
  match parsePacket parser s.headers call with
  | .error e => (.error e, s)
  | .ok result => (.ok (), { s with
      headers := result.headers
      ipHeader := s.ipHeader.setUnmanagedHeader (result.headers .ip) })

/-- Which overload of `GetPacketProcess` is called: the first pair of header objects that are
both `Valid`. -/
def chosenOverload (valid : HeaderKind → Bool) : Option Overload :=
  if valid .ip && valid .tcp then some .tcp4
  else if valid .ip && valid .udp then some .udp4
  else if valid .ipv6 && valid .tcp then some .tcp6
  else if valid .ipv6 && valid .udp then some .udp6
  else none

/-- The last line about a TCP segment: two flags, the length and the sequence number. -/
def segmentOf (o : Overload) (headers : Headers) (m : Mem) :
    Option (BitVec 16 × BitVec 16 × BitVec 16 × BitVec 32) :=
  let tcp := headers .tcp
  let details length :=
    (TCPHeader.ack.get tcp m, TCPHeader.syn.get tcp m, length, TCPHeader.sequenceNumber.get tcp m)
  match o with
  | .tcp4 => some (details (IPHeader.length.get (headers .ip) m))
  | .tcp6 => some (details (IPv6Header.length.get (headers .ipv6) m))
  | .udp4 | .udp6 => none

/-- The call of `GetPacketProcess` in a branch of the loop. -/
def processCall (o : Overload) (s : State) : ProcessCall where
  overload := o
  object := 0
  lookup := reply.lookup
  m := s.memory
  address := s.address
  m_tcpHeader := s.headers .tcp
  m_udpHeader := s.headers .udp
  ipv4Header := s.ipHeader
  ipv6Header := (IPv6Header.new (fun _ => 0) fun _ => 0).setUnmanagedHeader (s.headers .ipv6)
  q := reply.query o
  processId := 0
  processName := none

/-- What a call answers. -/
def answerOf (c : ProcessCall) (t : Tables) : ProcessResult c.overload.Row :=
  c.overload.call c.lookup c.m c.address (t.headers c) c.q t.heap c.processId c.processName

/-- The call with its tables: the process, and its name. -/
def askProcess (o : Overload) : SampleM (BitVec 32 × Option String) := fun s =>
  let call := processCall reply o s
  let result := answerOf call s.tables
  let s := { s with tables := s.tables.next call }
  match result.outcome with
  | .error e => (.error e, s)
  | .ok () => (.ok (result.processId, result.processName), s)

/-- `processName.Equals("SYSTEM", StringComparison.OrdinalIgnoreCase)`. -/
def isSystem (processName : String) : Bool :=
  processName.toList.map Char.toUpper == "SYSTEM".toList

/-- The report about a packet. Whatever the branch, the addresses are those of `ipHeader`, and the
ports those of `tcpHeader`. -/
def State.reportOf (lastError : BitVec 32) (o : Overload) (pid : BitVec 32) (processName : String)
    (s : State) : Report :=
  let m := s.memory
  let destination := s.ipHeader.getDestinationAddress m
  let source := destination.2.getSourceAddress m
  { overload := o
    error := if isSystem processName then some (lastError, pid) else none
    direction := s.address.direction
    destinationAddress := destination.1
    destinationPort := TCPHeader.destinationPort.get (s.headers .tcp) m
    sourceAddress := source.1
    sourcePort := TCPHeader.sourcePort.get (s.headers .tcp) m
    processName := processName
    segment := segmentOf o s.headers m }

/-- Writing it, which reads the addresses. -/
def State.report (lastError : BitVec 32) (o : Overload) (pid : BitVec 32) (processName : String)
    (s : State) : State :=
  let destination := s.ipHeader.getDestinationAddress s.memory
  let source := destination.2.getSourceAddress s.memory
  { s with
    ipHeader := source.2
    reports := s.reports ++ [s.reportOf lastError o pid processName] }

/-- It is written, unless there is no name to compare. -/
def writeReport (o : Overload) (pid : BitVec 32) (processName : Option String) : SampleM Unit :=
  fun s =>
    match processName with
    | none => (.error .nullReference, s)
    | some name => (.ok (), s.report reply.lastError o pid name)

/-- A branch of the loop: the process of the packet, and the report about it. -/
def reportProcess (o : Overload) : SampleM Unit := do
  let asked ← askProcess reply o
  collect reply .beforeReport
  writeReport reply o asked.1 asked.2

/-- `diversion.CalculateChecksums(buffer, receiveLength, 0)`, for an outbound packet. -/
def fixChecksums (receiveLength : BitVec 32) : SampleM Unit := fun s =>
  if s.address.direction = .outbound then
    match calculateChecksums helper ⟨some s.buffer, receiveLength, 0⟩ with
    | .error e => (.error e, s)
    | .ok result => (.ok (), { s with buffer := s.buffer.withMemory result.memory })
  else (.ok (), s)

/-- `diversion.SendAsync(buffer, receiveLength, address, ref sendLength)`, whose result is not
looked at. -/
def sendPacket (receiveLength : BitVec 32) : SampleM Unit := fun s =>
  let call : TransferCall := ⟨diversion, some s.buffer, receiveLength, some s.address, 0⟩
  let result := sendAsync call none ⟨none, .error 0, reply.sent⟩ s.world
  (result.outcome.map fun _ => (), { s with world := result.world })

/-- The report about a packet, if there is to be one. -/
def reportPacket : SampleM Unit := fun s =>
  match chosenOverload s.headers.valid with
  | none => (.ok (), s)
  | some o => reportProcess reply o s

/-- **One pass of the loop.** -/
def pass : SampleM Unit := do
  collect reply .beforeReceive
  match ← receivePacket diversion reply with
  | none => return ()
  | some receiveLength =>
    collect reply .beforeParse
    parseHeaders parser receiveLength
    collect reply .beforeBranch
    reportPacket reply
    collect reply .beforeChecksums
    fixChecksums helper receiveLength
    collect reply .beforeSend
    sendPacket diversion reply receiveLength

end Loop

/-! ### `Main` -/

/-- What the system answers during `Main`: to `Open`, during each pass until it is told to stop,
and to `Close`. -/
structure MainReply where
  opened : OpenAnswer
  passes : List PassReply
  closed : Bool

/-- The filter. -/
def filter : String := "true"

/-- `Diversion::Open`, with the object it returns. -/
def openSample (opened : OpenAnswer) : SampleM ℕ := fun s =>
  let (result, filters) :=
    openDiversion ⟨some filter, networkLayer, 100, 0⟩ opened.marshalled opened.reply s.filters
  match result with
  | .error e => (.error e, { s with filters := filters })
  | .ok handle =>
    let (world, d) := Diversion.wrapped handle s.world
    (.ok d, { s with filters := filters, world := world })

/-- `diversion.Handle.Valid`. -/
def handleValid (d : ℕ) : SampleM Bool := fun s =>
  match (s.world.diversions d).m_winDivertHandle with
  | none => (.error .nullReference, s)
  | some h => (.ok (s.world.handles h).valid, s)

/-- `diversion.Close()`. -/
def closeSample (d : ℕ) (closed : Bool) : SampleM Unit := fun s =>
  (.ok (), { s with world := (Diversion.close d closed s.world).1 })

/-- **`Main`.** -/
def main (parser : ParseHelper) (helper : ChecksumHelper) (reply : MainReply) :
    SampleM Unit := do
  match ← attempt (openSample reply.opened) with
  | .error _ => return ()
  | .ok diversion =>
    if !(← handleValid diversion) then return ()
    else
      forEach (fun passReply _ => pass parser helper diversion passReply) reply.passes ()
      closeSample diversion reply.closed

/-- The state `Main` starts in, with a new address and a new buffer. -/
def State.start (malloc : Option WinDivertAddress) (buffer : ManagedArray) (rest : Mem) :
    State where
  world := .empty
  filters := .initial
  address := .init malloc
  buffer := buffer
  rest := rest
  headers := noHeaders
  ipHeader := .new
  tables := .empty
  reports := []

/-- **Where `Main` starts**: with a buffer of its length, whatever is in it. -/
def Starting (s : State) : Prop :=
  ∃ malloc buffer rest, buffer.bytes.length = bufferLength ∧ s = State.start malloc buffer rest

/-! ### What is handed over -/

/-- The packet a native call hands to the driver to send, with its address. -/
def sentPacket : NativeCall → Option (List Byte × Option WinDivertAddress)
  | .transfer c =>
    match c.api with
    | .send | .sendEx => some (c.packet, c.pAddr)
    | .recv | .recvEx => none
  | _ => none

/-- The packets handed over so far. -/
def submitted (w : World) : List (List Byte × Option WinDivertAddress) :=
  w.native.log.filterMap sentPacket

/-- **What is relied on of the checksum helper**: it makes of the packet what is a function of
the packet, and leaves its length. -/
def Recalculates (helper : ChecksumHelper) (fix : List Byte → List Byte) : Prop :=
  ∀ args, args.flags = 0 →
    readBytes (helper args).memory args.base args.packetLen.toNat = fix args.packet

/-- What is made of a packet before it is sent. -/
def processed (fix : List Byte → List Byte) (address : WinDivertAddress) (bytes : List Byte) :
    List Byte :=
  if address.direction = 0 then fix bytes else bytes

/-- **What a pass is to hand over**: the packet received, if there is one. -/
def relayed (fix : List Byte → List Byte) (reply : PassReply) :
    Option (List Byte × Option WinDivertAddress) :=
  match reply.reception with
  | .failed .. => none
  | .packet bytes _ address => some (processed fix address bytes, some address)

section Passes

variable {parser : ParseHelper} {helper : ChecksumHelper} {fix : List Byte → List Byte}
  {d : ℕ} {ds : Set ℕ} {sent : List (List Byte × Option WinDivertAddress)} {bytes : List Byte}
  {address : WinDivertAddress} {reply : PassReply}

/-- **The state between two passes**: these Diversions are open, these packets have been handed
over, the buffer has its length, and the object for IPv4 points where it should. -/
structure Between (ds : Set ℕ) (sent : List (List Byte × Option WinDivertAddress)) (s : State) :
    Prop where
  isOpen : s.world.HasOpen ds
  submitted_eq : submitted s.world = sent
  length : s.buffer.bytes.length = bufferLength
  ipHeader : s.ipHeader.m_ipHeader = s.headers .ip

/-- **With a packet in hand**: it is in the buffer, and its address in the address object. -/
structure Holding (ds : Set ℕ) (sent : List (List Byte × Option WinDivertAddress))
    (bytes : List Byte) (address : WinDivertAddress) (s : State) : Prop
    extends Between ds sent s where
  fits : bytes.length ≤ bufferLength
  take_buffer : s.buffer.bytes.take bytes.length = bytes
  address_eq : s.address = ⟨some address⟩

/-- How a pass ends that throws: nothing has been handed over in it, and the Diversions are
still open. -/
structure Abandoned (ds : Set ℕ) (sent : List (List Byte × Option WinDivertAddress)) (s : State) :
    Prop where
  isOpen : s.world.HasOpen ds
  submitted_eq : submitted s.world = sent

/-- **What a pass throws**, and the state it leaves: the address could not be allocated, or the
owner table could not be had that the branch taken asks for. -/
def Cause (reply : PassReply) (e : ClrException) (s : State) : Prop :=
  reply.malloc = none ∧ e = .accessViolation ∨
    ∃ (o : Overload) (before : State), chosenOverload before.headers.valid = some o ∧
      (queryTable o.api (reply.query o) before.tables.heap (before.tables.slots o 0)).result =
        .error e ∧
      s = { before with tables := before.tables.next (processCall reply o before) }

theorem length_ne_zero {s : State} (h : s.buffer.bytes.length = bufferLength) :
    s.buffer.bytes.length ≠ 0 := by
  rw [h]
  decide

/-- The length of a packet that fits, as the wrapper reports it. -/
theorem toNat_length {bytes : List Byte} (h : bytes.length ≤ bufferLength) :
    (BitVec.ofNat 32 bytes.length).toNat = bytes.length := by
  have hlt : bytes.length < 2 ^ 32 := h.trans_lt (by decide)
  rw [BitVec.toNat_ofNat, Nat.mod_eq_of_lt hlt]

/-- A request that is no transmission leaves what has been handed over. -/
theorem submitted_record {c : DriverCall} (w : World) :
    submitted (w.onNative (.record c)) = submitted w ++ (sentPacket (.transfer c)).toList := by
  simp only [submitted, World.onNative, Native.record, List.filterMap_append, List.filterMap_cons,
    List.filterMap_nil]
  cases sentPacket (.transfer c) <;> rfl

/-- A move of the buffer changes nothing of this, -/
theorem Between.moved {s : State} (hs : Between ds sent s) (move : Option Move) :
    Between ds sent (s.moved move) := by
  cases move with
  | none => exact hs
  | some move => exact ⟨hs.isOpen, hs.submitted_eq, hs.length, hs.ipHeader⟩

/-- nor of the packet in hand. -/
theorem Holding.moved {s : State} (hs : Holding ds sent bytes address s) (move : Option Move) :
    Holding ds sent bytes address (s.moved move) := by
  cases move with
  | none => exact hs
  | some move => exact ⟨hs.toBetween.moved (some move), hs.fits, hs.take_buffer, hs.address_eq⟩

/-- **A collection** keeps what a move of the buffer keeps. -/
theorem triple_collect {P : State → Prop} {E : ClrException → State → Prop}
    (h : ∀ s move, P s → P (s.moved move)) (point : MovePoint) :
    Triple P (collect reply point) (fun _ => P) E := ⟨fun s hs => h s _ hs⟩

/-- **`Receive`** brings a packet into the buffer, or nothing. -/
theorem between_receivePacket (fix : List Byte → List Byte) (hd : d ∈ ds) :
    Triple (Between ds sent) (receivePacket d reply)
      (fun result s => match result with
        | none => relayed fix reply = none ∧ Between ds sent s
        | some receiveLength => ∃ bytes h address,
            (reply.reception = .packet bytes h address ∧
              receiveLength = BitVec.ofNat 32 bytes.length) ∧ Holding ds sent bytes address s)
      (fun e s => Cause reply e s ∧ Abandoned ds sent s) := by
  refine ⟨fun s hs => ?_⟩
  obtain ⟨i, hdi, -⟩ := hs.isOpen.valid hd
  rw [receivePacket]
  rcases receive_of_buffer (c := ⟨d, some s.buffer, 0, some s.address, 0⟩) rfl
      (length_ne_zero hs.length) rfl hdi ⟨reply.malloc, .error 0, reply.reception.driver⟩ with
    hreceive | ⟨hmalloc, hreceive⟩
  · rw [hreceive]
    generalize hw : s.world.onNative (.record ⟨.recv, (s.world.handles i).m_handle, s.buffer,
      s.buffer.length, some ⟨0, 0, 0⟩, none⟩) = w
    have hopen : w.HasOpen ds := hw ▸ (keepsDiversions_onNative _ _).hasOpen hs.isOpen
    have hsub : submitted w = sent := by
      rw [← hw, submitted_record, hs.submitted_eq]
      exact List.append_nil sent
    cases hrec : reply.reception with
    | failed driver hresult =>
      have hfalse : (driver.result == 1) = false := beq_eq_false_iff_ne.mpr hresult
      simp only [Reception.driver, hfalse]
      refine ⟨?_, hopen, hsub, hs.length, hs.ipHeader⟩
      rw [relayed, hrec]
    | packet bytes h address =>
      refine ⟨bytes, h, address, ⟨rfl, rfl⟩, ⟨hopen, hsub, ?_, hs.ipHeader⟩, h, ?_, rfl⟩
      · exact (ManagedArray.length_overwrite ..).trans hs.length
      · exact ManagedArray.take_overwrite _ (by rw [hs.length]; exact h)
  · rw [hreceive]
    exact ⟨Or.inl ⟨hmalloc, rfl⟩, hs.isOpen, hs.submitted_eq⟩

/-- **`ParsePacket`** changes what the header objects point to. -/
theorem holding_parseHeaders (receiveLength : BitVec 32) :
    Triple (Holding ds sent bytes address) (parseHeaders parser receiveLength)
      (fun _ => Holding ds sent bytes address)
      (fun e s => Cause reply e s ∧ Abandoned ds sent s) := by
  refine ⟨fun s hs => ?_⟩
  have hne : s.buffer.bytes ≠ [] := fun h => length_ne_zero hs.length (by rw [h]; rfl)
  rw [parseHeaders, parsePacket, args_eq_ok rfl hne]
  exact ⟨⟨hs.isOpen, hs.submitted_eq, hs.length, rfl⟩, hs.fits, hs.take_buffer, hs.address_eq⟩

/-- The test of an overload does not fault on header objects that are valid. -/
theorem test_eq_ok {o : Overload} (m : Mem) (a : Address) {h : PacketHeaders} {ip transport : ℕ}
    (hlocated : o.Located h ip transport) :
    ∃ p : o.Row → Bool, o.test m a h = fun row => .ok (p row) := by
  cases o with
  | tcp4 =>
    obtain ⟨p, hp, -⟩ := testTcp4_eq_ok m a hlocated.1 hlocated.2
    exact ⟨p, hp⟩
  | tcp6 =>
    obtain ⟨p, hp, -⟩ := testTcp6_eq_ok m a hlocated.1 hlocated.2
    exact ⟨p, hp⟩
  | udp4 => exact ⟨_, funext fun row => Overload.testUdp_eq_ok m a hlocated.2 row.dwLocalPort⟩
  | udp6 => exact ⟨_, funext fun row => Overload.testUdp_eq_ok m a hlocated.2 row.dwLocalPort⟩

/-- **The header objects of the overload chosen are valid.** -/
theorem located_of_chosen {s : State} {o : Overload} (hs : s.ipHeader.m_ipHeader = s.headers .ip)
    (ho : chosenOverload s.headers.valid = some o) {h : PacketHeaders}
    (htcp : h.tcpHeader.m_tcpHeader = s.headers .tcp)
    (hudp : h.udpHeader.m_udpHeader = s.headers .udp) (hip : h.ipv4Header = s.ipHeader)
    (hipv6 : h.ipv6Header.m_ipv6Header = s.headers .ipv6) :
    ∃ ip transport, o.Located h ip transport := by
  -- a pair of objects that are both valid points to two headers
  have hpair : ∀ k k' : HeaderKind, (s.headers.valid k && s.headers.valid k') = true →
      ∃ ip transport, s.headers k = some ip ∧ s.headers k' = some transport := by
    intro k k' hvalid
    obtain ⟨hk, hk'⟩ := Bool.and_eq_true_iff.mp hvalid
    obtain ⟨ip, hip⟩ := Option.isSome_iff_exists.mp hk
    obtain ⟨transport, htransport⟩ := Option.isSome_iff_exists.mp hk'
    exact ⟨ip, transport, hip, htransport⟩
  rw [← hip] at hs
  rw [chosenOverload] at ho
  split_ifs at ho with h₁ h₂ h₃ h₄ <;> obtain rfl := Option.some.inj ho
  · simpa only [Overload.Located, hs, htcp] using hpair _ _ h₁
  · simpa only [Overload.Located, hs, hudp] using hpair _ _ h₂
  · simpa only [Overload.Located, hipv6, htcp] using hpair _ _ h₃
  · simpa only [Overload.Located, hipv6, hudp] using hpair _ _ h₄

/-- A call on header objects that are valid returns, unless the table cannot be had. -/
theorem outcome_call {o : Overload} {h : PacketHeaders} {ip transport : ℕ}
    (hlocated : o.Located h ip transport) (lookup : ProcessLookup) (m : Mem) (a : Address)
    (q : TableQuery o.Row) (heap : TableHeap) (pid : BitVec 32) (name : Option String) :
    (o.call lookup m a h q heap pid name).outcome = .ok () ∨
      ∃ e, (o.call lookup m a h q heap pid name).outcome = .error e ∧
        (queryTable o.api q heap (o.slot h)).result = .error e := by
  obtain ⟨p, hp⟩ := test_eq_ok m a hlocated
  rw [Overload.call_eq, getPacketProcess, hp]
  cases hq : (queryTable o.api q heap (o.slot h)).result with
  | error e => exact Or.inr ⟨e, rfl, rfl⟩
  | ok t =>
    have hscan : (LastMatch.scan (fun row => .ok (p row)) o.owner t.rows
        (LastMatch.start pid)).fault = (none : Option ClrException) := by
      rw [LastMatch.scan_ok]
      rfl
    simp only [hscan]
    exact Or.inl trivial

/-- Writing a report leaves what `ipHeader` points to. -/
theorem pointer_report (lastError : BitVec 32) (o : Overload) (pid : BitVec 32)
    (processName : String) (s : State) :
    (s.report lastError o pid processName).ipHeader.m_ipHeader = s.ipHeader.m_ipHeader := by
  simp only [State.report, IPHeader.getDestinationAddress]
  cases hip : s.ipHeader.m_ipHeader with
  | none => simp only [IPHeader.getSourceAddress, hip]
  | some p => simp only [IPHeader.getSourceAddress]

/-- **How a branch of the loop ends**: the call throws, or the report is written with what it
answers. -/
theorem reportProcess_cases (reply : PassReply) (o : Overload) (s : State) :
    (∃ e, (answerOf (processCall reply o s) s.tables).outcome = .error e ∧
      reportProcess reply o s =
        (.error e, { s with tables := s.tables.next (processCall reply o s) })) ∨
    ∃ name, (answerOf (processCall reply o s) s.tables).outcome = .ok () ∧
      (answerOf (processCall reply o s) s.tables).processName = some name ∧
      reportProcess reply o s =
        (.ok (), (State.moved (reply.moves .beforeReport)
          { s with tables := s.tables.next (processCall reply o s) }).report reply.lastError o
            (answerOf (processCall reply o s) s.tables).processId name) := by
  rw [reportProcess, bind_run, askProcess]
  cases hout : (answerOf (processCall reply o s) s.tables).outcome with
  | error e => exact Or.inl ⟨e, rfl, rfl⟩
  | ok _ =>
    have hname : (answerOf (processCall reply o s) s.tables).processName = some _ :=
      Overload.processName_call hout
    refine Or.inr ⟨_, rfl, hname, ?_⟩
    simp only [bind_run, collect, hname]
    rfl

/-- **A branch of the loop** leaves the packet alone, and throws only if the table cannot be
had: the header objects it uses are valid. -/
theorem holding_reportPacket :
    Triple (Holding ds sent bytes address) (reportPacket reply)
      (fun _ => Holding ds sent bytes address)
      (fun e s => Cause reply e s ∧ Abandoned ds sent s) := by
  refine ⟨fun s hs => ?_⟩
  rw [reportPacket]
  cases ho : chosenOverload s.headers.valid with
  | none => exact hs
  | some o =>
    change Ends _ _ (reportProcess reply o s)
    rcases reportProcess_cases reply o s with ⟨e, hout, hrun⟩ | ⟨name, -, -, hrun⟩
    · obtain ⟨ip, transport, hlocated⟩ :=
        located_of_chosen (h := s.tables.headers (processCall reply o s)) hs.ipHeader ho rfl rfl
          rfl rfl
      have hquery : (queryTable o.api (reply.query o) s.tables.heap
          (s.tables.slots o 0)).result = .error e := by
        rcases outcome_call hlocated reply.lookup s.memory s.address (reply.query o)
          s.tables.heap 0 none with hok | ⟨e', herror, hquery⟩
        · exact nomatch hok.symm.trans hout
        · obtain rfl : e' = e := Except.error.inj (herror.symm.trans hout)
          cases o <;> exact hquery
      rw [hrun]
      exact ⟨Or.inr ⟨o, s, ho, hquery, rfl⟩, hs.isOpen, hs.submitted_eq⟩
    · rw [hrun]
      have hasked : Holding ds sent bytes address
          { s with tables := s.tables.next (processCall reply o s) } :=
        ⟨⟨hs.isOpen, hs.submitted_eq, hs.length, hs.ipHeader⟩, hs.fits, hs.take_buffer,
          hs.address_eq⟩
      have hmoved := hasked.moved (reply.moves .beforeReport)
      exact ⟨⟨hmoved.isOpen, hmoved.submitted_eq, hmoved.length,
        (pointer_report ..).trans hmoved.ipHeader⟩, hmoved.fits, hmoved.take_buffer,
        hmoved.address_eq⟩

/-- The helper leaves the length of a packet. -/
theorem Recalculates.length_fix (hfix : Recalculates helper fix) (h : bytes.length ≤ bufferLength) :
    (fix bytes).length = bytes.length := by
  have hrun := hfix ⟨ofBytes bytes, 0, BitVec.ofNat 32 bytes.length, 0⟩ rfl
  rw [ChecksumArgs.packet, toNat_length h] at hrun
  simp only at hrun
  rw [readBytes_ofBytes le_rfl, List.take_length] at hrun
  rw [← hrun, length_readBytes]

/-- **`CalculateChecksums`**, for an outbound packet. -/
theorem holding_fixChecksums (hfix : Recalculates helper fix) :
    Triple (Holding ds sent bytes address)
      (fixChecksums helper (BitVec.ofNat 32 bytes.length))
      (fun _ => Holding ds sent (processed fix address bytes) address)
      (fun e s => Cause reply e s ∧ Abandoned ds sent s) := by
  refine ⟨fun s hs => ?_⟩
  have hdirection : s.address.direction = .outbound ↔ address.direction = 0 := by
    rw [hs.address_eq]
    exact Iff.of_eq (DivertDirection.mk.injEq ..)
  rw [fixChecksums, processed]
  by_cases hout : address.direction = 0
  · have hne : s.buffer.bytes ≠ [] := fun h => length_ne_zero hs.length (by rw [h]; rfl)
    have hlength : (fix bytes).length = bytes.length := hfix.length_fix hs.fits
    have hle : bytes.length ≤ s.buffer.bytes.length := by rw [hs.length]; exact hs.fits
    -- the packet the helper is given is the one in hand, and it leaves the fixed one there
    have hrun := hfix ⟨s.buffer.memory, s.buffer.base, BitVec.ofNat 32 bytes.length, 0⟩ rfl
    rw [ChecksumArgs.packet, toNat_length hs.fits, readBytes_memory _ hle, hs.take_buffer] at hrun
    rw [if_pos (hdirection.mpr hout), if_pos hout, calculateChecksums, ChecksumCall.args,
      addressOfFirst_eq_ok hne]
    refine ⟨⟨hs.isOpen, hs.submitted_eq, ?_, hs.ipHeader⟩, hlength.trans_le hs.fits, ?_,
      hs.address_eq⟩
    · exact (ManagedArray.length_withMemory ..).trans hs.length
    · rw [hlength]
      exact (ManagedArray.take_withMemory _ _ hle).trans hrun
  · rw [if_neg fun h => hout (hdirection.mp h), if_neg hout]
    exact hs

/-- **`SendAsync`** hands the packet over. -/
theorem between_sendPacket (hd : d ∈ ds) {receiveLength : BitVec 32}
    (hlength : receiveLength.toNat = bytes.length) :
    Triple (Holding ds sent bytes address) (sendPacket d reply receiveLength)
      (fun _ => Between ds (sent ++ [(bytes, some address)]))
      (fun e s => Cause reply e s ∧ Abandoned ds sent s) := by
  refine ⟨fun s hs => ?_⟩
  obtain ⟨i, hdi, -⟩ := hs.isOpen.valid hd
  obtain ⟨length, b, hsend⟩ := sendAsync_of_buffer
    (c := ⟨d, some s.buffer, receiveLength, some s.address, 0⟩) rfl (length_ne_zero hs.length) rfl
    hdi ⟨none, .error 0, reply.sent⟩
  rw [sendPacket, hsend]
  refine ⟨(keepsDiversions_onNative _ _).hasOpen hs.isOpen, ?_, hs.length, hs.ipHeader⟩
  have hpacket : readBytes s.buffer.memory s.buffer.base receiveLength.toNat = bytes := by
    rw [hlength, readBytes_memory _ (by rw [hs.length]; exact hs.fits), hs.take_buffer]
  change submitted (s.world.onNative _) = _
  rw [submitted_record, hs.submitted_eq, sentPacket, hs.address_eq]
  simp only [DriverCall.packet, hpacket, Option.toList_some]

theorem length_processed (hfix : Recalculates helper fix) (h : bytes.length ≤ bufferLength) :
    (processed fix address bytes).length = bytes.length := by
  rw [processed]
  split
  · exact hfix.length_fix h
  · rfl

/-- **A pass by its parts**: receiving, and what is done with a packet that is received. The
collector may run between them. -/
theorem triple_pass {P Q : State → Prop} {E : ClrException → State → Prop}
    {R : List Byte → WinDivertAddress → State → Prop}
    (hmoved : ∀ s move, P s → P (s.moved move))
    (hreceive : Triple P (receivePacket d reply)
      (fun result s => match result with
        | none => Q s
        | some receiveLength => ∃ bytes h address,
            (reply.reception = .packet bytes h address ∧
              receiveLength = BitVec.ofNat 32 bytes.length) ∧ R bytes address s) E)
    (hpacket : ∀ bytes h address, reply.reception = .packet bytes h address →
      Triple (R bytes address)
        (do
          collect reply .beforeParse
          parseHeaders parser (BitVec.ofNat 32 bytes.length)
          collect reply .beforeBranch
          reportPacket reply
          collect reply .beforeChecksums
          fixChecksums helper (BitVec.ofNat 32 bytes.length)
          collect reply .beforeSend
          sendPacket d reply (BitVec.ofNat 32 bytes.length))
        (fun _ => Q) E) :
    Triple P (pass parser helper d reply) (fun _ => Q) E := by
  refine triple_bind (triple_collect hmoved _) fun _ => triple_bind hreceive fun result => ?_
  cases result with
  | none => exact triple_pure fun _ hs => hs
  | some receiveLength =>
    refine triple_exists fun bytes => triple_exists fun h => triple_exists fun address => ?_
    refine triple_of_known fun hfacts => ?_
    obtain ⟨hreception, rfl⟩ := hfacts
    exact hpacket bytes h address hreception

/-- **One pass** hands over the packet it receives, or throws with it in hand. -/
theorem between_pass (hd : d ∈ ds) (hfix : Recalculates helper fix) :
    Triple (Between ds sent) (pass parser helper d reply)
      (fun _ => Between ds (sent ++ (relayed fix reply).toList))
      (fun e s => Cause reply e s ∧ Abandoned ds sent s) := by
  have hcollect : ∀ {bytes address} point,
      Triple (Holding ds sent bytes address) (collect reply point)
        (fun _ => Holding ds sent bytes address)
        (fun e s => Cause reply e s ∧ Abandoned ds sent s) :=
    fun point => triple_collect (fun _ move hs => hs.moved move) point
  refine triple_pass (R := Holding ds sent) (fun _ move hs => hs.moved move)
    ((between_receivePacket fix hd).mono (fun _ hs => hs) (fun result s hs => ?_)
      fun _ _ hs => hs) fun bytes h address hreception => ?_
  · cases result with
    | none =>
      obtain ⟨hnone, hs⟩ := hs
      rw [hnone]
      exact (List.append_nil sent).symm ▸ hs
    | some receiveLength => exact hs
  · have hrelayed : relayed fix reply = some (processed fix address bytes, some address) := by
      rw [relayed, hreception]
    rw [hrelayed]
    refine triple_bind (hcollect _) fun _ => triple_bind (holding_parseHeaders _) fun _ =>
      triple_bind (hcollect _) fun _ => triple_bind holding_reportPacket fun _ =>
        triple_bind (hcollect _) fun _ => triple_bind (holding_fixChecksums hfix) fun _ =>
          triple_bind (hcollect _) fun _ => between_sendPacket hd ?_
    rw [toNat_length h, length_processed hfix h]

end Passes

/-! ### Every run -/

section Runs

variable {parser : ParseHelper} {helper : ChecksumHelper} {fix : List Byte → List Byte}
  {d : ℕ} {ds : Set ℕ} {sent : List (List Byte × Option WinDivertAddress)} {reply : MainReply}

theorem filterMap_snoc {α β : Type} (f : α → Option β) (l : List α) (a : α) :
    (l ++ [a]).filterMap f = l.filterMap f ++ (f a).toList := by
  rw [List.filterMap_append, List.filterMap_cons]
  cases f a <;> rfl

/-- What a native call leaves that is no transmission. -/
theorem submitted_append {w w' : World} {c : NativeCall} (hc : sentPacket c = none)
    (hlog : w'.native.log = w.native.log ++ [c]) : submitted w' = submitted w := by
  rw [submitted, hlog, List.filterMap_append, List.filterMap_cons_none hc, List.filterMap_nil,
    List.append_nil]
  rfl

/-- **`Diversion::Open`** hands nothing over. -/
theorem between_openSample (hopens : reply.opened.Opens (some filter)) :
    Triple (Between ds sent) (openSample reply.opened)
      (fun d s => d ∉ ds ∧ Between (insert d ds) sent s) (fun _ _ => False) := by
  refine ⟨fun s hs => ?_⟩
  have hok := (openDiversion_eq_ok (c := ⟨some filter, networkLayer, 100, 0⟩)
    (s := s.filters)).mpr ⟨hopens, rfl⟩
  rw [openSample]
  rcases hrun : openDiversion ⟨some filter, networkLayer, 100, 0⟩ reply.opened.marshalled
    reply.opened.reply s.filters with ⟨result, filters⟩
  rw [hrun] at hok
  subst hok
  obtain ⟨hnew, hopen⟩ := hs.isOpen.wrapped hopens.2.2
  have hsub : submitted (Diversion.wrapped reply.opened.reply.handle s.world).1 = sent := by
    rw [submitted, log_wrapped]
    exact hs.submitted_eq
  have hid := (wrapped_spec reply.opened.reply.handle s.world).1
  rw [← hid] at hnew hopen
  exact ⟨hnew, hopen, hsub, hs.length, hs.ipHeader⟩

/-- In its `try`. -/
theorem between_attempt_openSample (hopens : reply.opened.Opens (some filter))
    {E : ClrException → State → Prop} :
    Triple (Between ∅ sent) (attempt (openSample reply.opened))
      (fun result s => ∃ d, result = .ok d ∧ Between {d} sent s) E := by
  refine triple_attempt (between_openSample hopens) (fun d s hs => ⟨d, rfl, ?_⟩)
    fun _ _ h => h.elim
  rw [← insert_empty_eq d]
  exact hs.2

/-- A `Diversion` that is open is valid. -/
theorem handleValid_of_hasOpen {s : State} (hopen : s.world.HasOpen ds) (hd : d ∈ ds) :
    handleValid d s = (.ok true, s) := by
  obtain ⟨h, hdh, hvalid⟩ := hopen.valid hd
  rw [handleValid, hdh]
  simp only [hvalid]

/-- **`Diversion::Close`** hands nothing over, and closes what it can. -/
theorem between_closeSample (hd : d ∈ ds) (closed : Bool) {E : ClrException → State → Prop} :
    Triple (Between ds sent) (closeSample d closed)
      (fun _ s => submitted s.world = sent ∧ (closed = true → s.world.HasOpen (ds \ {d}))) E := by
  refine ⟨fun s hs => ⟨?_, ?_⟩⟩
  · obtain ⟨h, hdh, hvalid⟩ := hs.isOpen.valid hd
    obtain ⟨native, hlog, hclose⟩ := DivertHandle.close_of_valid hvalid closed
    change submitted (Diversion.close d closed s.world).1 = sent
    rw [Diversion.close, hdh]
    simp only [if_pos hvalid, hclose]
    refine (submitted_append ?_ hlog).trans hs.submitted_eq
    rw [DivertHandle.closing]
    split <;> rfl
  · rintro rfl
    exact hs.isOpen.close hd

/-- How a run ends that throws: in a pass with a cause to, and with what was received before
handed over. -/
def ThrownIn (fix : List Byte → List Byte) (passes : List PassReply) (ds : Set ℕ)
    (e : ClrException) (s : State) : Prop :=
  ∃ done reply rest, passes = done ++ reply :: rest ∧ Cause reply e s ∧
    Abandoned ds (done.filterMap (relayed fix)) s

/-- **`Main` by its parts**, where `Open` opens: what holds after some passes is established by
`Open` and kept by a pass, and brings `Close` to its end. -/
theorem triple_main_of_opened {P Q : State → Prop} {E : ClrException → State → Prop}
    {I : ℕ → List PassReply → State → Prop}
    (hopen : Triple P (attempt (openSample reply.opened))
      (fun result s => ∃ d, result = .ok d ∧ I d [] s) E)
    (hvalid : ∀ d s, I d [] s → s.world.HasOpen {d})
    (hpass : ∀ d done passReply rest, reply.passes = done ++ passReply :: rest →
      Triple (I d done) (pass parser helper d passReply) (fun _ => I d (done ++ [passReply])) E)
    (hclose : ∀ d, Triple (I d reply.passes) (closeSample d reply.closed) (fun _ => Q) E) :
    Triple P (main parser helper reply) (fun _ => Q) E := by
  refine triple_bind hopen fun result => triple_exists fun d => triple_of_known fun hd => ?_
  subst hd
  have hchecked : Triple (I d []) (handleValid d) (fun valid s => valid = true ∧ I d [] s) E := by
    refine ⟨fun s hs => ?_⟩
    rw [handleValid_of_hasOpen (hvalid d s hs) (Set.mem_singleton d)]
    exact ⟨rfl, hs⟩
  refine triple_bind hchecked fun valid => triple_of_known fun htrue => ?_
  subst htrue
  exact triple_bind (triple_forEach (I := fun done _ => I d done)
    fun done passReply rest _ hpasses => hpass d done passReply rest hpasses) fun _ => hclose d

/-- **No packet is lost, sent twice or changed on the way.** Whatever the system answers, if
`Main` returns, what was handed over is what was received, in order, each packet once, with its
address, and with new checksums if it is outbound; and no `Diversion` is open, if it could be
closed. If it throws, it does so in a pass with a cause to: what was received before that pass has
been handed over, the packet of that pass has not, and the `Diversion` is still open. -/
theorem relays_main (hfix : Recalculates helper fix) (hopens : reply.opened.Opens (some filter)) :
    Triple Starting (main parser helper reply)
      (fun _ s => submitted s.world = reply.passes.filterMap (relayed fix) ∧
        (reply.closed = true → s.world.openDiversions = ∅))
      (fun e s => ∃ done p rest, reply.passes = done ++ p :: rest ∧ Cause p e s ∧
        submitted s.world = done.filterMap (relayed fix) ∧ ∃ d, s.world.openDiversions = {d}) := by
  have hmain : Triple (Between ∅ []) (main parser helper reply)
      (fun _ s => submitted s.world = reply.passes.filterMap (relayed fix) ∧
        (reply.closed = true → s.world.HasOpen ∅))
      (fun e s => ∃ d, ThrownIn fix reply.passes {d} e s) := by
    refine triple_main_of_opened (I := fun d done => Between {d} (done.filterMap (relayed fix)))
      (between_attempt_openSample hopens) (fun _ _ hs => hs.isOpen)
      (fun d done p rest hpasses => ?_) fun d => ?_
    · refine (between_pass (Set.mem_singleton d) hfix).mono (fun _ hs => hs) (fun _ s hs => ?_)
        fun e s hs => ⟨d, done, p, rest, hpasses, hs⟩
      rw [filterMap_snoc]
      exact hs
    · rw [← Set.sdiff_self (s := {d})]
      exact between_closeSample (Set.mem_singleton d) reply.closed
  refine hmain.mono (fun s hs => ?_) (fun _ s hs => ⟨hs.1, fun hclosed => (hs.2 hclosed).2⟩)
    fun e s hs => ?_
  · obtain ⟨malloc, buffer, rest, hlength, rfl⟩ := hs
    exact ⟨hasOpen_empty, rfl, hlength, rfl⟩
  · obtain ⟨d, done, p, rest, hpasses, hcause, hs⟩ := hs
    exact ⟨done, p, rest, hpasses, hcause, hs.submitted_eq, d, hs.isOpen.2⟩

end Runs

/-! #### A short run -/

/-- A helper of which this can be relied on. -/
theorem recalculates_ipv4Calculator : Recalculates ipv4Calculator (withChecksums 0) := by
  intro args hflags
  rw [readBytes_ipv4Calculator, hflags]

/-- An owner table without rows, whenever it is asked for. -/
def emptyTable {ρ : Type} : TableQuery ρ :=
  { answer [] with query₂ := fun size => ⟨noError, size, some []⟩ }

/-- A pass that receives a packet, which no process is found for. -/
def passOf (a : ManagedArray) (h : a.bytes.length ≤ bufferLength) (direction : DivertDirection) :
    PassReply where
  malloc := some ⟨0, 0, 0⟩
  reception := .packet a.bytes h ⟨0, 0, direction.value⟩
  lookup := noLookup
  query _ := emptyTable
  lastError := 0
  sent := ⟨1, none, 0, false⟩
  moves _ := none

/-- A pass that receives nothing. The buffer is moved before. -/
def emptyPass : PassReply where
  malloc := some ⟨0, 0, 0⟩
  reception := .failed ⟨0, none, 122, false⟩ (by decide)
  lookup := noLookup
  query _ := emptyTable
  lastError := 122
  sent := ⟨1, none, 0, false⟩
  moves
    | .beforeReceive => some ⟨0x20000, fun _ => 0⟩
    | _ => none

theorem length_tcpPacket_le : tcpPacket.bytes.length ≤ bufferLength := by decide

theorem length_udpPacket_le : udpPacket.bytes.length ≤ bufferLength := by decide

/-- A datagram as it arrives, with its checksums. -/
def arrivedPacket : ManagedArray where
  ref := 1
  base := 8192
  bytes := [0x45, 0, 0, 28, 0, 0, 0x40, 0, 64, 17, 0x20, 0xC1, 8, 8, 8, 8, 10, 0, 0, 1,
    0, 53, 0xE0, 0x45, 0, 8, 0x05, 0x53]

/-- A segment that goes out, and a datagram that comes in. -/
def shortRun : MainReply where
  opened := ⟨true, ⟨.value 7, 0⟩⟩
  passes := [passOf tcpPacket length_tcpPacket_le .outbound, emptyPass,
    passOf arrivedPacket (by decide) .inbound]
  closed := true

/-- Both are handed over, the segment with its checksums, and nothing else. -/
theorem relays_shortRun :
    Triple Starting (main ipv4Dissector.helper ipv4Calculator shortRun)
      (fun _ s => submitted s.world =
          [(checkedPacket.bytes, some ⟨0, 0, 0⟩), (arrivedPacket.bytes, some ⟨0, 0, 1⟩)] ∧
        s.world.openDiversions = ∅)
      (fun e s => ∃ done p rest, shortRun.passes = done ++ p :: rest ∧ Cause p e s ∧
        submitted s.world = done.filterMap (relayed (withChecksums 0)) ∧
          ∃ d, s.world.openDiversions = {d}) := by
  have hopens : shortRun.opened.Opens (some filter) := ⟨by decide, rfl, by decide⟩
  have hchecked : withChecksums 0 tcpPacket.bytes = checkedPacket.bytes := by decide
  refine (relays_main recalculates_ipv4Calculator hopens).mono (fun _ hs => hs) (fun _ s hs => ?_)
    fun _ _ hs => hs
  refine ⟨hs.1.trans ?_, hs.2 rfl⟩
  rw [← hchecked]
  rfl

end DivertNet.NetDump
