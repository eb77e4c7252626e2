import DivertNet.ComparedCalls
import DivertNet.HeaderAssignments
import DivertNet.NetDumpReports

/-!
# What the sample application says about packets

The report about a packet says which kind of packet it is, where it goes to and comes from, and
which process it belongs to. Both the kind and the rest are read through the header objects, and
these are made once and used for all packets. A header object stays `Valid` when `ParsePacket`
finds no header for it, and then it points to where the header of a packet before was.

So what is asked for a packet depends on the packets before it, and
`DivertNet.NetDump.describes_main` says that the reports are about the packets received exactly
when no packet is shadowed by those before it.

What does not depend on them is `DivertNet.NetDump.tells_main`: whatever came before, and whichever
branch is taken, what a report takes from a header that its packet has is what the packet has
there, and the process is the one that the packet and the owner table determine. It takes all of
the way there: the packet has been received into the buffer, the header objects point into it,
their getters decode it, and their cells are not in the way.

It takes the buffer, too, to be where `ParsePacket` found it until the report is written,
`DivertNet.NetDump.PassReply.StaysPut`. Nothing sees to that.
-/

namespace DivertNet.NetDump

open LittleEndian Triples WireField

/-! ### What a report is to tell -/

/-- The branch taken for what a pass receives, after other passes. -/
def taken (dissector : Dissector) (before : List PassReply) (reply : PassReply) :
    Option Overload :=
  (receivedIn reply).bind fun p => chosenOverload (seen dissector (received before ++ [p]))

/-- **The reports that are due**, each with its pass and its branch, for passes that come after
others. -/
def due (dissector : Dissector) : List PassReply → List PassReply → List (PassReply × Overload)
  | _, [] => []
  | before, reply :: rest =>
    (taken dissector before reply).toList.map (Prod.mk reply) ++
      due dissector (before ++ [reply]) rest

section Due

variable {dissector : Dissector}

theorem due_snoc (before passes : List PassReply) (reply : PassReply) :
    due dissector before (passes ++ [reply]) =
      due dissector before passes ++
        (taken dissector (before ++ passes) reply).toList.map (Prod.mk reply) := by
  induction passes generalizing before with
  | nil => simp [due]
  | cons first rest ih =>
    rw [List.cons_append, due, ih, due]
    simp only [List.append_assoc, List.singleton_append]

theorem received_snoc (passes : List PassReply) (reply : PassReply) :
    received (passes ++ [reply]) = received passes ++ (receivedIn reply).toList :=
  filterMap_snoc ..

/-- The reports due are those of the branches. -/
theorem map_due (before passes : List PassReply) :
    (due dissector before passes).map Prod.snd =
      branches dissector (received before) (received passes) := by
  induction passes generalizing before with
  | nil => rfl
  | cons reply rest ih =>
    rw [due, List.map_append, ih, received_snoc, List.map_map]
    cases hreceived : receivedIn reply with
    | none =>
      have hrest : received (reply :: rest) = received rest := List.filterMap_cons_none hreceived
      rw [hrest, taken, hreceived]
      simp
    | some p =>
      have hrest : received (reply :: rest) = p :: received rest :=
        List.filterMap_cons_some hreceived
      rw [hrest, branches, taken, hreceived]
      exact congrArg (· ++ _) (List.map_id _)

end Due

/-- **The packet has this header**, from this byte on, and all of it. -/
structure Contains (dissector : Dissector) (p : List Byte) (k : HeaderKind) (o : ℕ) : Prop where
  headerAt : dissector.headerAt p k = some o
  inside : o + k.size ≤ p.length

/-- The address of IPv4 in a packet. -/
def addressIn (p : List Byte) (o : ℕ) : IPAddress := .v4 fun i => p.getD (o + i) 0

/-- The number in a field of a header of a packet. -/
def numberIn {k : HeaderKind} (n : NumericProperty k) (p : List Byte) (o : ℕ) :
    BitVec n.wire.width := n.value (ofBytes p) o

/-- **The last line**, as the packet has it: whether it acknowledges and whether it opens the
connection, its length, and its sequence number. -/
def segmentIn (p : List Byte) (ip transport : ℕ) (o : Overload) :
    Option (BitVec 16 × BitVec 16 × BitVec 16 × BitVec 32) :=
  let details (length : BitVec 16) : BitVec 16 × BitVec 16 × BitVec 16 × BitVec 32 :=
    (numberIn (k := .tcp) TCPHeader.Numeric.ack p transport,
      numberIn (k := .tcp) TCPHeader.Numeric.syn p transport, length,
      numberIn (k := .tcp) TCPHeader.Numeric.sequenceNumber p transport)
  match o with
  | .tcp4 => some (details (numberIn (k := .ip) IPHeader.Numeric.length p ip))
  | .tcp6 => some (details (numberIn (k := .ipv6) IPv6Header.Numeric.length p ip))
  | .udp4 | .udp6 => none

/-- Header objects that point to the headers of a packet, the packet being all there is. -/
def headersIn (dissector : Dissector) (p : List Byte) : PacketHeaders where
  tcpHeader := ⟨dissector.headerAt p .tcp, none, none⟩
  udpHeader := ⟨dissector.headerAt p .udp, none, none⟩
  ipv4Header := IPHeader.new.setUnmanagedHeader (dissector.headerAt p .ip)
  ipv6Header :=
    (IPv6Header.new (fun _ => 0) fun _ => 0).setUnmanagedHeader (dissector.headerAt p .ipv6)

/-- **The process of a packet**, in a table: the owner of the last row that matches, or process
`0`. -/
def ownerIn (dissector : Dissector) (p : List Byte) (address : WinDivertAddress) (o : Overload)
    (rows : List o.Row) : BitVec 32 :=
  ((LastMatch.lastMatch (o.matchesRow (ofBytes p) ⟨some address⟩ (headersIn dissector p))
    rows).map o.owner).getD 0

/-- The system answers a query with these rows. -/
def AnswersWith {ρ : Type} (q : TableQuery ρ) (rows : List ρ) : Prop :=
  (∀ size, (q.query₁ size).dwRetVal ≠ errorInsufficientBuffer →
      (q.query₁ size).rows = some rows) ∧ ∀ size, (q.query₂ size).rows = some rows

/-- **The buffer stays** where it is from `ParsePacket` on until the report is written. -/
def PassReply.StaysPut (reply : PassReply) : Prop :=
  reply.moves .beforeBranch = none ∧ reply.moves .beforeReport = none

/-- **The report tells of the packet**: where the packet has the header that something is taken
from, it is what the packet has there. An address is taken only from a packet whose source is not
`0.0.0.0`. The process is that of the packet in the table the system answers with, and there is an
error line if its name is `SYSTEM`. -/
structure Tells (dissector : Dissector) (reply : PassReply) (p : List Byte)
    (address : WinDivertAddress) (report : Report) : Prop where
  addresses : ∀ o, Contains dissector p .ip o → addressIn p (o + 12) ≠ .any →
    report.sourceAddress = addressIn p (o + 12) ∧ report.destinationAddress = addressIn p (o + 16)
  ports : ∀ o, Contains dissector p .tcp o →
    report.sourcePort = numberIn (k := .tcp) TCPHeader.Numeric.sourcePort p o ∧
      report.destinationPort = numberIn (k := .tcp) TCPHeader.Numeric.destinationPort p o
  segment : ∀ ip transport, Contains dissector p (kindsOf report.overload).1 ip →
    Contains dissector p (kindsOf report.overload).2 transport →
      report.segment = segmentIn p ip transport report.overload
  process : ∀ ip transport rows, Contains dissector p (kindsOf report.overload).1 ip →
    Contains dissector p (kindsOf report.overload).2 transport →
      AnswersWith (reply.query report.overload) rows →
        let owner := ownerIn dissector p address report.overload rows
        let name := getProcessName reply.lookup owner
        report.processName = name ∧
          report.error = if isSystem name then some (reply.lastError, owner) else none

/-! ### Reading through the header objects -/

/-- **The header objects point to the headers of the packet** at the start of the buffer. -/
def Located (dissector : Dissector) (p : List Byte) (s : State) : Prop :=
  ∀ k o, dissector.headerAt p k = some o → s.headers k = some (s.buffer.base + o)

section Reading

variable {dissector : Dissector} {ds : Set ℕ}
  {sent : List (List Byte × Option WinDivertAddress)} {p : List Byte} {address : WinDivertAddress}
  {reply : PassReply} {s : State}

/-- Within the buffer, a pointer reads its elements. -/
theorem State.readBytes_memory (s : State) {n : ℕ} (hn : n ≤ s.buffer.bytes.length) :
    readBytes s.memory s.buffer.base n = s.buffer.bytes.take n := by
  rw [← DivertNet.readBytes_memory s.buffer hn, readBytes_eq_iff]
  exact fun i hi => if_pos ⟨Nat.le_add_right _ _, by omega⟩

theorem Holding.readBytes_eq (hs : Holding ds sent p address s) :
    readBytes s.memory s.buffer.base p.length = p := by
  rw [s.readBytes_memory (by rw [hs.length]; exact hs.fits), hs.take_buffer]

/-- A byte of the packet in hand. -/
theorem Holding.memory_eq (hs : Holding ds sent p address s) {x : ℕ} (hx : x < p.length) :
    s.memory (s.buffer.base + x) = p.getD x 0 := by
  rw [← ofBytes_readBytes s.memory s.buffer.base hx, hs.readBytes_eq]
  rfl

/-- **A header of the packet in hand**, in the buffer. -/
theorem Holding.agree (hs : Holding ds sent p address s) {k : HeaderKind} {o : ℕ}
    (hk : Contains dissector p k o) :
    Agree k.size (ofBytes p) o s.memory (s.buffer.base + o) := by
  intro i hi
  have hinside := hk.inside
  rw [Nat.add_assoc, hs.memory_eq (by omega)]
  rfl

/-- **A getter reads the field**, where it does not swap what it reads. -/
theorem get_eq_numberIn {k : HeaderKind} (n : NumericProperty k)
    (hread : ∀ x, n.wire.readSwap x = x) (hs : Holding ds sent p address s)
    (hlocated : Located dissector p s) {o : ℕ} (hk : Contains dissector p k o) :
    n.get (s.headers k) s.memory = numberIn n p o := by
  rw [hlocated k o hk.headerAt, n.get_some, hread, numberIn, NumericProperty.value,
    NumericProperty.value, ← Field.get_readBytes n.within hk.inside, hs.readBytes_eq]

/-- The address at some byte of the packet in hand. -/
theorem ofLong_eq_addressIn (hs : Holding ds sent p address s) {o : ℕ} (ho : o + 4 ≤ p.length) :
    IPAddress.ofLong (load 32 4 s.memory (s.buffer.base + o)) = addressIn p o := by
  rw [ofLong_load]
  refine congrArg IPAddress.v4 (funext fun i => ?_)
  rw [Nat.add_assoc]
  exact hs.memory_eq (by omega)

/-- **Both address cells hold what was decoded**, as they do when nothing is assigned to them. -/
def CellsCoherent (h : IPHeader) : Prop :=
  h.source.Coherent IPAddress.ofLong ∧ h.destination.Coherent IPAddress.ofLong

theorem cellsCoherent_new : CellsCoherent .new :=
  have hany : IPAddress.any = IPAddress.ofLong 0 := congrArg IPAddress.v4 (by decide)
  ⟨hany, hany⟩

/-- Reading the destination leaves the pointer and the source. -/
theorem getDestinationAddress_snd (h : IPHeader) (m : Mem) :
    (h.getDestinationAddress m).2.m_ipHeader = h.m_ipHeader ∧
      (h.getDestinationAddress m).2.source = h.source := by
  obtain ⟨m_ipHeader, source, destination⟩ := h
  cases m_ipHeader <;> exact ⟨rfl, rfl⟩

theorem CellsCoherent.getDestination {h : IPHeader} (hcells : CellsCoherent h) (m : Mem) :
    CellsCoherent (h.getDestinationAddress m).2 := by
  obtain ⟨m_ipHeader, source, destination⟩ := h
  cases m_ipHeader with
  | none => exact hcells
  | some a => exact ⟨hcells.1, hcells.2.refresh⟩

theorem CellsCoherent.getSource {h : IPHeader} (hcells : CellsCoherent h) (m : Mem) :
    CellsCoherent (h.getSourceAddress m).2 := by
  obtain ⟨m_ipHeader, source, destination⟩ := h
  cases m_ipHeader with
  | none => exact hcells
  | some a => exact ⟨hcells.1.refresh, hcells.2⟩

/-- **The addresses** of the packet in hand are read past the cells, if its source is not
`0.0.0.0`. -/
theorem addresses_eq (hs : Holding ds sent p address s) (hlocated : Located dissector p s)
    (hcells : CellsCoherent s.ipHeader) {o : ℕ} (hip : Contains dissector p .ip o)
    (hne : addressIn p (o + 12) ≠ .any) :
    ((s.ipHeader.getDestinationAddress s.memory).2.getSourceAddress
        s.memory).1 = addressIn p (o + 12) ∧
      (s.ipHeader.getDestinationAddress s.memory).1 = addressIn p (o + 16) := by
  have hinside : o + 20 ≤ p.length := hip.inside
  have hpointer : s.ipHeader.m_ipHeader = some (s.buffer.base + o) :=
    hs.ipHeader.trans (hlocated .ip o hip.headerAt)
  have hsource : IPAddress.ofLong (IPHeader.srcAddr.read s.memory (s.buffer.base + o)) =
      addressIn p (o + 12) := by
    rw [srcAddr_read, Nat.add_assoc]
    exact ofLong_eq_addressIn hs (by omega)
  have hdestination :
      IPAddress.ofLong (IPHeader.dstAddr.read s.memory (s.buffer.base + o)) =
        addressIn p (o + 16) := by
    change IPAddress.ofLong (load 32 4 s.memory (s.buffer.base + o + 16)) = _
    rw [Nat.add_assoc]
    exact ofLong_eq_addressIn hs (by omega)
  have hrange :
      IPHeader.inRange (IPHeader.srcAddr.read s.memory (s.buffer.base + o)) = true := by
    refine (inRange_iff _).mpr fun hzero => hne ?_
    rw [← hsource, hzero]
    exact cellsCoherent_new.1.symm
  obtain ⟨hpointer', hsource'⟩ := getDestinationAddress_snd s.ipHeader s.memory
  refine ⟨?_, ?_⟩
  · rw [IPHeader.getSourceAddress, hpointer', hpointer, hsource', ← hsource]
    exact Memo.refresh_value_of_guard hcells.1 hrange
  · rw [IPHeader.getDestinationAddress, hpointer, ← hdestination]
    exact Memo.refresh_value_of_guard hcells.2 hrange

/-! ### The process -/

/-- A query that is answered hands over the rows it is answered with. -/
theorem rows_of_answersWith {ρ : Type} {api : TableApi} {q : TableQuery ρ} {rows : List ρ}
    (hrows : AnswersWith q rows) {heap : TableHeap} {slot : Option (TableBlock ρ)}
    {t : TableBlock ρ} (ht : (queryTable api q heap slot).result = .ok t) : t.rows = rows := by
  have hfill : ∀ (heap : TableHeap) (block : TableBlock ρ) (size : BitVec 32),
      (fillTable api q heap block size).result = .ok t → t.rows = rows := by
    intro heap block size h
    simp only [fillTable] at h
    split at h
    · split at h
      · cases h
      · split at h
        · cases h
        · obtain rfl := Except.ok.inj h
          exact congrArg (Option.getD · _) (hrows.2 _)
    · rename_i hsuccess
      obtain rfl := Except.ok.inj h
      exact congrArg (Option.getD · _) (hrows.1 _ hsuccess)
  cases slot with
  | some block => exact hfill _ _ _ ht
  | none =>
    rw [queryTable] at ht
    cases hm : q.malloc₁ with
    | none => rw [hm] at ht; cases ht
    | some garbage => rw [hm] at ht; exact hfill _ _ _ ht

/-- A call that returns has had its table. -/
theorem exists_table_of_returns {o : Overload} {lookup : ProcessLookup} {m : Mem} {a : Address}
    {h : PacketHeaders} {q : TableQuery o.Row} {heap : TableHeap} {pid : BitVec 32}
    {name : Option String} (hok : (o.call lookup m a h q heap pid name).outcome = .ok ()) :
    ∃ t, (queryTable o.api q heap (o.slot h)).result = .ok t := by
  rw [Overload.call_eq, getPacketProcess] at hok
  cases hq : (queryTable o.api q heap (o.slot h)).result with
  | error e =>
    rw [hq] at hok
    cases hok
  | ok t => exact ⟨t, rfl⟩

/-- The header objects of a packet are those of the overload that it completes. -/
theorem located_headersIn {o : Overload} {ip transport : ℕ}
    (hip : Contains dissector p (kindsOf o).1 ip)
    (htransport : Contains dissector p (kindsOf o).2 transport) :
    o.Located (headersIn dissector p) ip transport := by
  cases o <;> exact ⟨hip.headerAt, htransport.headerAt⟩

/-- **The packet in hand is the packet**, as far as the overload that it completes looks. -/
theorem samePacket_headersIn (reply : PassReply) (hs : Holding ds sent p address s)
    (hlocated : Located dissector p s) {o : Overload} {ip transport : ℕ}
    (hip : Contains dissector p (kindsOf o).1 ip)
    (htransport : Contains dissector p (kindsOf o).2 transport) :
    o.SamePacket (ofBytes p) s.memory (headersIn dissector p)
      (s.tables.headers (processCall reply o s)) := by
  have hrel : ∀ {k : HeaderKind} {n : ℕ}, Contains dissector p k n →
      Option.Rel (Agree k.size (ofBytes p) · s.memory ·) (dissector.headerAt p k)
        (s.headers k) := by
    intro k n hk
    rw [hk.headerAt, hlocated k n hk.headerAt]
    exact .some (hs.agree hk)
  cases o with
  | tcp4 =>
    refine ⟨hrel htransport, ?_⟩
    change Option.Rel _ (dissector.headerAt p .ip) s.ipHeader.m_ipHeader
    rw [hs.ipHeader]
    exact hrel hip
  | tcp6 => exact ⟨hrel htransport, hrel hip⟩
  | udp4 => exact hrel htransport
  | udp6 => exact hrel htransport

/-- **The process that is found** is that of the packet, in the table the system answered with. -/
theorem processId_eq (hs : Holding ds sent p address s) (hlocated : Located dissector p s)
    {o : Overload} {ip transport : ℕ} (hip : Contains dissector p (kindsOf o).1 ip)
    (htransport : Contains dissector p (kindsOf o).2 transport) {rows : List o.Row}
    (hrows : AnswersWith (reply.query o) rows)
    (hok : (answerOf (processCall reply o s) s.tables).outcome = .ok ()) :
    (answerOf (processCall reply o s) s.tables).processId = ownerIn dissector p address o rows := by
  have hdirection : (⟨some address⟩ : Address).direction = s.address.direction := by
    rw [hs.address_eq]
  have htest := Overload.test_eq_of_samePacket
    (samePacket_headersIn reply hs hlocated hip htransport) hdirection
  obtain ⟨found, hmatches⟩ :=
    test_eq_ok (ofBytes p) ⟨some address⟩ (located_headersIn hip htransport)
  have hrow : o.matchesRow (ofBytes p) ⟨some address⟩ (headersIn dissector p) = found := by
    funext row
    rw [Overload.matchesRow, hmatches]
    rfl
  obtain ⟨t, ht⟩ : ∃ t, (queryTable o.api (reply.query o) s.tables.heap
      (o.slot (s.tables.headers (processCall reply o s)))).result = .ok t :=
    exists_table_of_returns hok
  refine (Overload.processId_call ht).trans ?_
  change (LastMatch.scan (o.test s.memory s.address
    (s.tables.headers (processCall reply o s))) o.owner t.rows (LastMatch.start 0)).value = _
  rw [← htest, hmatches, LastMatch.value_scan, rows_of_answersWith hrows ht, ownerIn, hrow]

/-! ### The report -/

/-- The last line is that of the packet. -/
theorem segmentOf_eq (hs : Holding ds sent p address s) (hlocated : Located dissector p s)
    {o : Overload} {ip transport : ℕ} (hip : Contains dissector p (kindsOf o).1 ip)
    (htransport : Contains dissector p (kindsOf o).2 transport) :
    segmentOf o s.headers s.memory = segmentIn p ip transport o := by
  have hdetails : Contains dissector p .tcp transport →
      TCPHeader.ack.get (s.headers .tcp) s.memory =
          numberIn (k := .tcp) TCPHeader.Numeric.ack p transport ∧
        TCPHeader.syn.get (s.headers .tcp) s.memory =
          numberIn (k := .tcp) TCPHeader.Numeric.syn p transport ∧
        TCPHeader.sequenceNumber.get (s.headers .tcp) s.memory =
          numberIn (k := .tcp) TCPHeader.Numeric.sequenceNumber p transport := fun htcp =>
    ⟨get_eq_numberIn (k := .tcp) TCPHeader.Numeric.ack (fun _ => rfl) hs hlocated htcp,
      get_eq_numberIn (k := .tcp) TCPHeader.Numeric.syn (fun _ => rfl) hs hlocated htcp,
      get_eq_numberIn (k := .tcp) TCPHeader.Numeric.sequenceNumber (fun _ => rfl) hs hlocated htcp⟩
  cases o with
  | tcp4 =>
    obtain ⟨hack, hsyn, hsequence⟩ := hdetails htransport
    have hlength : IPHeader.length.get (s.headers .ip) s.memory =
        numberIn (k := .ip) IPHeader.Numeric.length p ip :=
      get_eq_numberIn (k := .ip) IPHeader.Numeric.length (fun _ => rfl) hs hlocated hip
    rw [segmentOf, hack, hsyn, hsequence, hlength]
    rfl
  | tcp6 =>
    obtain ⟨hack, hsyn, hsequence⟩ := hdetails htransport
    have hlength : IPv6Header.length.get (s.headers .ipv6) s.memory =
        numberIn (k := .ipv6) IPv6Header.Numeric.length p ip :=
      get_eq_numberIn (k := .ipv6) IPv6Header.Numeric.length (fun _ => rfl) hs hlocated hip
    rw [segmentOf, hack, hsyn, hsequence, hlength]
    rfl
  | udp4 => rfl
  | udp6 => rfl

/-- **The report that a branch writes tells of the packet in hand.** -/
theorem tells_reportOf (reply : PassReply) (hs : Holding ds sent p address s)
    (hlocated : Located dissector p s) (hcells : CellsCoherent s.ipHeader) {o : Overload}
    {pid : BitVec 32} {processName : String}
    (hprocess : ∀ ip transport rows, Contains dissector p (kindsOf o).1 ip →
      Contains dissector p (kindsOf o).2 transport → AnswersWith (reply.query o) rows →
        pid = ownerIn dissector p address o rows ∧ processName = getProcessName reply.lookup pid) :
    Tells dissector reply p address (s.reportOf reply.lastError o pid processName) := by
  refine ⟨fun n hip hne => addresses_eq hs hlocated hcells hip hne, fun n htcp => ⟨?_, ?_⟩,
    fun ip transport hip htransport => ?_, fun ip transport rows hip htransport hrows => ?_⟩
  · exact get_eq_numberIn (k := .tcp) TCPHeader.Numeric.sourcePort (fun _ => rfl) hs hlocated htcp
  · exact get_eq_numberIn (k := .tcp) TCPHeader.Numeric.destinationPort (fun _ => rfl) hs hlocated
      htcp
  · exact segmentOf_eq hs hlocated hip htransport
  · obtain ⟨hpid, hname⟩ := hprocess ip transport rows hip htransport hrows
    refine ⟨hname.trans (by rw [hpid]; rfl), ?_⟩
    change (if isSystem processName then some (reply.lastError, pid) else none) = _
    rw [hname, hpid]
    rfl

/-- And writing it leaves the cells in order. -/
theorem cellsCoherent_report (hcells : CellsCoherent s.ipHeader) (lastError : BitVec 32)
    (o : Overload) (pid : BitVec 32) (processName : String) :
    CellsCoherent (s.report lastError o pid processName).ipHeader :=
  (hcells.getDestination _).getSource _

end Reading

/-! ### The reports of a run -/

/-- **The report is one that is due**: it is of the branch and of the direction of the packet, and
tells of the packet if the buffer has stayed. -/
def IsDue (dissector : Dissector) (x : PassReply × Overload) (report : Report) : Prop :=
  report.overload = x.2 ∧
    ∀ p h address, x.1.reception = .packet p h address →
      report.direction = ⟨address.direction⟩ ∧
        (x.1.StaysPut → Tells dissector x.1 p address report)

/-- **All reports that are due** for these passes have been written, and no others. -/
def Told (dissector : Dissector) (passes : List PassReply) (reports : List Report) : Prop :=
  List.Forall₂ (IsDue dissector) (due dissector [] passes) reports

/-- **What has been written**: header objects are valid whose kind was seen, the address cells are
in order, and the reports are those due. -/
structure Written (dissector : Dissector) (passes written : List PassReply) (headers : Headers)
    (ipHeader : IPHeader) (_ : Tables) (reports : List Report) : Prop where
  valid : ∀ k, headers.valid k = seen dissector (received passes) k
  cells : CellsCoherent ipHeader
  told : Told dissector written reports

/-- What has been written, in a state. -/
def WrittenSoFar (dissector : Dissector) (passes written : List PassReply) (s : State) : Prop :=
  Written dissector passes written s.headers s.ipHeader s.tables s.reports

theorem WrittenSoFar.moved {dissector : Dissector} {passes written : List PassReply} {s : State}
    (hs : WrittenSoFar dissector passes written s) (move : Option Move) :
    WrittenSoFar dissector passes written (s.moved move) := by
  cases move <;> exact hs

section Reports

variable {dissector : Dissector} {parser : ParseHelper} {helper : ChecksumHelper} {d : ℕ}
  {ds : Set ℕ} {sent : List (List Byte × Option WinDivertAddress)} {p : List Byte}
  {h : p.length ≤ bufferLength} {address : WinDivertAddress} {reply : PassReply}
  {passes : List PassReply}

/-- Between two passes: ready for the next, with the reports for these passes written. -/
def Wrote (dissector : Dissector) (ds : Set ℕ) (passes : List PassReply) (s : State) : Prop :=
  ∃ sent, Between ds sent s ∧ WrittenSoFar dissector passes passes s

/-- A pass that throws may have written its report. -/
def WroteSome (dissector : Dissector) (passes : List PassReply) (reply : PassReply) (s : State) :
    Prop :=
  Told dissector passes s.reports ∨ Told dissector (passes ++ [reply]) s.reports

/-- **`ParsePacket`** adds the kinds of the packet to those that were seen, and the headers it has
are found where they are. -/
theorem written_parseHeaders (hfind : FindsHeaders parser dissector)
    (hreception : reply.reception = .packet p h address) :
    Triple (fun s => Holding ds sent p address s ∧ WrittenSoFar dissector passes passes s)
      (parseHeaders parser (BitVec.ofNat 32 p.length))
      (fun _ s => Located dissector p s ∧ WrittenSoFar dissector (passes ++ [reply]) passes s)
      (fun _ => WroteSome dissector passes reply) := by
  have hreceived : received (passes ++ [reply]) = received passes ++ [p] := by
    rw [received_snoc, receivedIn, hreception]
    rfl
  refine ⟨?_⟩
  rintro s ⟨hs, hvalid, hcells, htold⟩
  rw [parseHeaders]
  cases hparse : parsePacket parser s.headers
    ⟨.headers, some s.buffer, BitVec.ofNat 32 p.length, fun _ => true⟩ with
  | error e => exact Or.inl htold
  | ok result =>
    have hle : p.length ≤ s.buffer.bytes.length := by rw [hs.length]; exact hs.fits
    have hheaders : ∀ k, result.headers k = assignHeaders .headers (fun _ => true)
        (fun k => (dissector.headerAt p k).map (s.buffer.base + ·)) s.headers k := by
      intro k
      rw [parsePacket_headers hfind hparse]
      simp only [assignHeaders, ParseCall.location, toNat_length hs.fits, readBytes_memory _ hle,
        hs.take_buffer]
    refine ⟨fun k o ho => ?_, fun k => ?_, hcells, htold⟩
    · change result.headers k = _
      rw [hheaders, assignHeaders, ho]
      simp
    · change result.headers.valid k = _
      rw [Headers.valid, hheaders, hreceived, seen_snoc, ← hvalid, kinds, assignHeaders]
      cases hfound : dissector.headerAt p k with
      | none => simp [Headers.valid]
      | some o => simp

/-- **A report that is written** is the one due for its packet. -/
theorem isDue_reportOf (hreception : reply.reception = .packet p h address) {s : State}
    (hs : Holding ds sent p address s) (hlocated : reply.StaysPut → Located dissector p s)
    (hcells : CellsCoherent s.ipHeader) {o : Overload} {name : String}
    (hok : (answerOf (processCall reply o s) s.tables).outcome = .ok ())
    (hname : (answerOf (processCall reply o s) s.tables).processName = some name) :
    IsDue dissector (reply, o) ((State.moved (reply.moves .beforeReport)
      { s with tables := s.tables.next (processCall reply o s) }).reportOf reply.lastError o
        (answerOf (processCall reply o s) s.tables).processId name) := by
  set asked : State := { s with tables := s.tables.next (processCall reply o s) }
  have hasked : Holding ds sent p address asked :=
    ⟨⟨hs.isOpen, hs.submitted_eq, hs.length, hs.ipHeader⟩, hs.fits, hs.take_buffer, hs.address_eq⟩
  refine ⟨rfl, fun p' h' address' hreception' => ?_⟩
  rw [hreception] at hreception'
  cases hreception'
  refine ⟨?_, fun hstays => ?_⟩
  · change (asked.moved (reply.moves .beforeReport)).address.direction = _
    rw [(hasked.moved _).address_eq]
    rfl
  · -- nothing was moved, so the header objects are still right
    have hlocated' : Located dissector p asked := hlocated hstays
    have hcells' : CellsCoherent asked.ipHeader := hcells
    rw [hstays.2, State.moved]
    refine tells_reportOf reply hasked hlocated' hcells'
      fun ip transport rows hip htransport hrows => ⟨?_, ?_⟩
    · exact processId_eq hs (hlocated hstays) hip htransport hrows hok
    · exact Option.some.inj (hname.symm.trans (Overload.processName_call hok))

/-- **A branch** writes the report that is due. -/
theorem written_reportPacket (hreception : reply.reception = .packet p h address) :
    Triple (fun s => Holding ds sent p address s ∧ (reply.StaysPut → Located dissector p s) ∧
        WrittenSoFar dissector (passes ++ [reply]) passes s)
      (reportPacket reply)
      (fun _ => WrittenSoFar dissector (passes ++ [reply]) (passes ++ [reply]))
      (fun _ => WroteSome dissector passes reply) := by
  refine ⟨?_⟩
  rintro s ⟨hs, hlocated, hwritten⟩
  have htaken : taken dissector passes reply = chosenOverload s.headers.valid := by
    have hseen : s.headers.valid = seen dissector (received (passes ++ [reply])) :=
      funext hwritten.valid
    rw [hseen, taken, received_snoc, receivedIn, hreception]
    rfl
  have hdue : due dissector [] (passes ++ [reply]) = due dissector [] passes ++
      (chosenOverload s.headers.valid).toList.map (Prod.mk reply) := by
    rw [due_snoc, List.nil_append, htaken]
  rw [reportPacket]
  cases ho : chosenOverload s.headers.valid with
  | none =>
    rw [ho] at hdue
    refine ⟨hwritten.valid, hwritten.cells, ?_⟩
    rw [Told, hdue]
    exact (List.append_nil (due dissector [] passes)).symm ▸ hwritten.told
  | some o =>
    rw [ho] at hdue
    change Ends _ _ (reportProcess reply o s)
    rcases reportProcess_cases reply o s with ⟨e, -, hrun⟩ | ⟨name, hok, hname, hrun⟩
    · rw [hrun]
      exact Or.inl hwritten.told
    · rw [hrun]
      have hbefore : WrittenSoFar dissector (passes ++ [reply]) passes
          { s with tables := s.tables.next (processCall reply o s) } :=
        ⟨hwritten.valid, hwritten.cells, hwritten.told⟩
      obtain ⟨hvalid, hcells, htold⟩ := hbefore.moved (reply.moves .beforeReport)
      refine ⟨hvalid, cellsCoherent_report hcells _ _ _ _, ?_⟩
      rw [Told, hdue]
      have hdueReport := isDue_reportOf hreception hs hlocated hwritten.cells hok hname
      exact List.rel_append htold (.cons hdueReport .nil)

/-- The collector may move the packet away from under the header objects then. -/
theorem located_beforeBranch :
    Triple (fun s => Holding ds sent p address s ∧ Located dissector p s ∧
        WrittenSoFar dissector (passes ++ [reply]) passes s)
      (collect reply .beforeBranch)
      (fun _ s => Holding ds sent p address s ∧ (reply.StaysPut → Located dissector p s) ∧
        WrittenSoFar dissector (passes ++ [reply]) passes s)
      (fun _ => WroteSome dissector passes reply) := by
  refine ⟨fun s hs => ⟨hs.1.moved _, fun hstays => ?_, hs.2.2.moved _⟩⟩
  rw [hstays.1]
  exact hs.2.1

/-- Whatever the checksum helper writes, there is a next pass. -/
theorem ready_fixChecksums (receiveLength : BitVec 32) :
    Triple (Between ds sent) (fixChecksums helper receiveLength) (fun _ => Between ds sent)
      (fun _ _ => True) := by
  refine ⟨fun s hs => ?_⟩
  rw [fixChecksums]
  split
  · split
    · trivial
    · exact ⟨hs.isOpen, hs.submitted_eq, (ManagedArray.length_withMemory ..).trans hs.length,
        hs.ipHeader⟩
  · exact hs

/-- And whatever is handed over. -/
theorem ready_sendPacket (hd : d ∈ ds) (receiveLength : BitVec 32) :
    Triple (Between ds sent) (sendPacket d reply receiveLength)
      (fun _ s => ∃ sent, Between ds sent s) (fun _ _ => True) := by
  refine ⟨fun s hs => ?_⟩
  obtain ⟨i, hdi, -⟩ := hs.isOpen.valid hd
  obtain ⟨length, b, hsend⟩ := sendAsync_of_buffer
    (c := ⟨d, some s.buffer, receiveLength, some s.address, 0⟩) rfl (length_ne_zero hs.length) rfl
    hdi ⟨none, .error 0, reply.sent⟩
  rw [sendPacket, hsend]
  exact ⟨_, (keepsDiversions_onNative _ _).hasOpen hs.isOpen, rfl, hs.length, hs.ipHeader⟩

/-- What is left of a pass, once the report is written. -/
theorem wrote_rest (hd : d ∈ ds) (receiveLength : BitVec 32) :
    Triple (fun s => Between ds sent s ∧
        WrittenSoFar dissector (passes ++ [reply]) (passes ++ [reply]) s)
      (do
        collect reply .beforeChecksums
        fixChecksums helper receiveLength
        collect reply .beforeSend
        sendPacket d reply receiveLength)
      (fun _ => Wrote dissector ds (passes ++ [reply]))
      (fun _ => WroteSome dissector passes reply) := by
  have hcollect : ∀ point, Triple (fun s => Between ds sent s ∧
        WrittenSoFar dissector (passes ++ [reply]) (passes ++ [reply]) s) (collect reply point)
      (fun _ s => Between ds sent s ∧
        WrittenSoFar dissector (passes ++ [reply]) (passes ++ [reply]) s)
      (fun _ => WroteSome dissector passes reply) :=
    triple_collect fun _ move hs => ⟨hs.1.moved move, hs.2.moved move⟩
  refine triple_bind (hcollect _) fun _ => triple_bind (((ready_fixChecksums receiveLength).and
    ((keepsWritten_fixChecksums helper receiveLength).triple
      (Written dissector (passes ++ [reply]) (passes ++ [reply])))).mono (fun _ hs => hs)
        (fun _ _ hs => hs) fun _ _ hs => Or.inr hs.2.told) fun _ =>
          triple_bind (hcollect _) fun _ => ?_
  refine ((ready_sendPacket hd receiveLength).and ((keepsWritten_sendPacket receiveLength).triple
    (Written dissector (passes ++ [reply]) (passes ++ [reply])))).mono (fun _ hs => hs)
      (fun _ s hs => ?_) fun _ _ hs => Or.inr hs.2.told
  obtain ⟨⟨sent, hready⟩, hwritten⟩ := hs
  exact ⟨sent, hready, hwritten⟩

/-- A pass that receives nothing leaves nothing to write. -/
theorem wrote_of_none {s : State} (hnone : relayed id reply = none) (hready : Between ds sent s)
    (hwritten : WrittenSoFar dissector passes passes s) :
    Wrote dissector ds (passes ++ [reply]) s := by
  obtain ⟨hvalid, hcells, htold⟩ := hwritten
  have hreceived : receivedIn reply = none := by
    rw [relayed] at hnone
    rw [receivedIn]
    cases hreception : reply.reception with
    | failed => rfl
    | packet =>
      rw [hreception] at hnone
      cases hnone
  refine ⟨sent, hready, fun k => ?_, hcells, ?_⟩
  · rw [received_snoc, hreceived, Option.toList_none, List.append_nil]
    exact hvalid k
  · rw [Told, due_snoc, taken, hreceived]
    exact (List.append_nil (due dissector [] passes)).symm ▸ htold

/-- **One pass** writes the report that is due for its packet. -/
theorem wrote_pass (hd : d ∈ ds) (hfind : FindsHeaders parser dissector) :
    Triple (Wrote dissector ds passes) (pass parser helper d reply)
      (fun _ => Wrote dissector ds (passes ++ [reply]))
      (fun _ => WroteSome dissector passes reply) := by
  have hmoved : ∀ {sent p address} s move,
      Holding ds sent p address s ∧ WrittenSoFar dissector passes passes s →
        Holding ds sent p address (s.moved move) ∧
          WrittenSoFar dissector passes passes (s.moved move) :=
    fun s move hs => ⟨hs.1.moved move, hs.2.moved move⟩
  refine triple_exists fun sent => triple_pass (R := fun p address s =>
    Holding ds sent p address s ∧ WrittenSoFar dissector passes passes s)
      (fun s move hs => ⟨hs.1.moved move, hs.2.moved move⟩)
      (((between_receivePacket id hd).and (keepsWritten_receivePacket.triple
        (Written dissector passes passes))).mono (fun _ hs => hs) (fun result s hs => ?_)
          fun _ _ hs => Or.inl hs.2.told) fun p h address hreception => ?_
  · cases result with
    | none => exact wrote_of_none hs.1.1 hs.1.2 hs.2
    | some receiveLength =>
      obtain ⟨⟨p, h, address, hreply, hholding⟩, hwritten⟩ := hs
      exact ⟨p, h, address, hreply, hholding, hwritten⟩
  · have hparse : Triple (Holding ds sent p address)
        (parseHeaders parser (BitVec.ofNat 32 p.length)) (fun _ => Holding ds sent p address)
        (fun e s => Cause reply e s ∧ Abandoned ds sent s) := holding_parseHeaders _
    refine triple_bind (triple_collect hmoved _) fun _ =>
      triple_bind ((hparse.and (written_parseHeaders hfind hreception)).mono
        (fun _ hs => ⟨hs.1, hs⟩) (fun _ _ hs => hs) fun _ _ hs => hs.2) fun _ => ?_
    refine triple_bind located_beforeBranch fun _ => ?_
    exact triple_bind ((holding_reportPacket.and (written_reportPacket hreception)).mono
      (fun _ hs => ⟨hs.1, hs⟩) (fun _ _ hs => ⟨hs.1.toBetween, hs.2⟩) fun _ _ hs => hs.2)
        fun _ => wrote_rest hd _

/-- **A run** that returns leaves everything in order, and one that throws, the reports due for some
first passes. -/
theorem written_main {reply : MainReply} (hopens : reply.opened.Opens (some filter))
    (hfind : FindsHeaders parser dissector) :
    Triple Starting (main parser helper reply)
      (fun _ => WrittenSoFar dissector reply.passes reply.passes)
      (fun _ s => ∃ done rest, reply.passes = done ++ rest ∧ Told dissector done s.reports) := by
  have hmain : Triple (fun s => Between ∅ [] s ∧ WrittenSoFar dissector [] [] s)
      (main parser helper reply) (fun _ => WrittenSoFar dissector reply.passes reply.passes)
      (fun _ s => ∃ done rest, reply.passes = done ++ rest ∧ Told dissector done s.reports) := by
    refine triple_main_of_opened (I := fun d done => Wrote dissector {d} done) ?_ ?_
      (fun d done passReply rest hpasses => ?_) fun d => ?_
    · refine ((between_attempt_openSample hopens (E := fun _ _ => True)).and
        ((keepsWritten_openSample _).triple (Written dissector [] []))).mono (fun _ hs => hs)
          (fun _ s hs => ?_) fun _ _ hs => ⟨[], reply.passes, rfl, hs.2.told⟩
      obtain ⟨⟨d, hd, hready⟩, hwritten⟩ := hs
      exact ⟨d, hd, [], hready, hwritten⟩
    · rintro d s ⟨sent, hready, -⟩
      exact hready.isOpen
    · refine (wrote_pass (Set.mem_singleton d) hfind).mono (fun _ hs => hs) (fun _ _ hs => hs)
        fun _ s hs => ?_
      rcases hs with hbefore | hafter
      · exact ⟨done, passReply :: rest, hpasses, hbefore⟩
      · refine ⟨done ++ [passReply], rest, ?_, hafter⟩
        rw [hpasses, List.append_assoc, List.singleton_append]
    · refine ((keepsWritten_closeSample _).triple (Written dissector reply.passes
        reply.passes)).mono (fun s hs => ?_) (fun _ _ hs => hs) fun _ _ hs =>
          ⟨reply.passes, [], (List.append_nil _).symm, hs.told⟩
      obtain ⟨-, -, hwritten⟩ := hs
      exact hwritten
  refine hmain.mono (fun s hs => ?_) (fun _ _ hs => hs) fun _ _ hs => hs
  obtain ⟨malloc, buffer, rest, hlength, rfl⟩ := hs
  exact ⟨⟨hasOpen_empty, rfl, hlength, rfl⟩, fun _ => rfl, cellsCoherent_new, .nil⟩

/-- **What the reports say**: in every run that returns, there is one report for every branch that
was taken, in the order of the passes, each of its branch and the direction of its packet, and
each tells of its packet if the buffer stayed where it was parsed, whatever packets came before. In
a run that throws it is so up to some pass. -/
theorem tells_main {reply : MainReply} (hopens : reply.opened.Opens (some filter))
    (hfind : FindsHeaders parser dissector) :
    Triple Starting (main parser helper reply)
      (fun _ s => List.Forall₂ (IsDue dissector) (due dissector [] reply.passes) s.reports)
      (fun _ s => ∃ done rest, reply.passes = done ++ rest ∧
        List.Forall₂ (IsDue dissector) (due dissector [] done) s.reports) :=
  (written_main hopens hfind).mono (fun _ hs => hs) (fun _ _ hs => hs.told) fun _ _ hs => hs

/-- The branches taken are those due. -/
theorem map_overload_of_told {reports : List Report} (htold : Told dissector passes reports) :
    reports.map Report.overload = branches dissector [] (received passes) := by
  rw [Told] at htold
  refine Eq.trans ?_ (map_due [] passes)
  generalize due dissector [] passes = xs at htold ⊢
  induction htold with
  | nil => rfl
  | cons hdue _ ih => exact congrArg₂ List.cons hdue.1 ih

/-- **When the reports are about the packets**: in every run that returns, the kinds of packets
written are those of the packets received exactly if no packet is shadowed by those before it. -/
theorem describes_main {reply : MainReply} (hopens : reply.opened.Opens (some filter))
    (hfind : FindsHeaders parser dissector) :
    Triple Starting (main parser helper reply)
      (fun _ s =>
        s.reports.map Report.overload = (received reply.passes).filterMap (own dissector) ↔
          ∀ done p rest, received reply.passes = done ++ p :: rest → ¬Shadowed dissector done p)
      (fun _ _ => True) := by
  refine (written_main hopens hfind).mono (fun _ hs => hs) (fun _ s hs => ?_) fun _ _ _ => trivial
  rw [map_overload_of_told hs.told]
  exact branches_eq_iff [] (received reply.passes)

end Reports

/-! #### A datagram after a segment -/

/-- A segment goes out and then a datagram. -/
def shadowedRun : MainReply where
  opened := ⟨true, ⟨.value 7, 0⟩⟩
  passes := [passOf tcpPacket length_tcpPacket_le .outbound,
    passOf udpPacket length_udpPacket_le .outbound]
  closed := true

theorem opens_shadowedRun : shadowedRun.opened.Opens (some filter) := ⟨by decide, rfl, by decide⟩

/-- **The segment is written down**: from `10.0.0.1:50046` to `8.8.8.8:80`, opening a connection,
by a process that is not known, which goes as `SYSTEM`. -/
theorem tells_shadowedRun :
    Triple Starting (main ipv4Dissector.helper ipv4Calculator shadowedRun)
      (fun _ s => ∃ report rest, s.reports = report :: rest ∧ report.direction = .outbound ∧
        report.sourceAddress = .v4 ![10, 0, 0, 1] ∧ report.sourcePort = 50046 ∧
        report.destinationAddress = .v4 ![8, 8, 8, 8] ∧ report.destinationPort = 80 ∧
        report.segment = some (0, 1, 40, 1) ∧ report.processName = "SYSTEM" ∧
        report.error = some (0, 0))
      (fun _ _ => True) := by
  refine (tells_main opens_shadowedRun (findsHeaders_helper ipv4Dissector)).mono (fun _ hs => hs)
    (fun _ s hs => ?_) fun _ _ _ => trivial
  obtain ⟨report, rest, ⟨hoverload, hdue⟩, -, hreports⟩ := List.forall₂_cons_left_iff.mp hs
  have hip : Contains ipv4Dissector tcpPacket.bytes .ip 0 := ⟨by decide, by decide⟩
  have htcp : Contains ipv4Dissector tcpPacket.bytes .tcp 20 := ⟨by decide, by decide⟩
  obtain ⟨hdirection, htells⟩ := hdue tcpPacket.bytes _ _ rfl
  have htells := htells ⟨rfl, rfl⟩
  have hsource : addressIn tcpPacket.bytes (0 + 12) ≠ .any := fun h =>
    absurd (congrArg IPAddress.getAddressBytes h) (by decide)
  obtain ⟨hsourceAddress, hdestinationAddress⟩ := htells.addresses 0 hip hsource
  obtain ⟨hsourcePort, hdestinationPort⟩ := htells.ports 20 htcp
  have hsegment := htells.segment 0 20
  have hprocess := htells.process 0 20
  rw [hoverload] at hsegment hprocess
  obtain ⟨hname, herror⟩ := hprocess [] hip htcp ⟨fun _ _ => rfl, fun _ => rfl⟩
  refine ⟨report, rest, hreports, hdirection, ?_, ?_, ?_, ?_, ?_, ?_, ?_⟩
  · exact hsourceAddress.trans (congrArg IPAddress.v4 (by decide))
  · exact hsourcePort.trans rfl
  · exact hdestinationAddress.trans (congrArg IPAddress.v4 (by decide))
  · exact hdestinationPort.trans rfl
  · exact (hsegment hip htcp).trans (by decide)
  · exact hname.trans rfl
  · exact herror.trans (if_pos (by decide))

theorem shadowed_udpPacket :
    Shadowed ipv4Dissector [tcpPacket.bytes] udpPacket.bytes := by
  refine ⟨.tcp4, ⟨by decide, by decide⟩, fun o' ho' => ?_⟩
  cases o' with
  | tcp4 => exact absurd ho'.2 (by decide)
  | _ => decide

/-- **The datagram is written down as a segment.** -/
theorem not_describes_shadowedRun :
    Triple Starting (main ipv4Dissector.helper ipv4Calculator shadowedRun)
      (fun _ s => s.reports.map Report.overload ≠
        [tcpPacket.bytes, udpPacket.bytes].filterMap (own ipv4Dissector))
      (fun _ _ => True) := by
  refine (describes_main opens_shadowedRun (findsHeaders_helper ipv4Dissector)).mono
    (fun _ hs => hs) (fun _ s hs heq => ?_) fun _ _ hs => hs
  exact hs.mp heq [tcpPacket.bytes] udpPacket.bytes [] rfl shadowed_udpPacket

end DivertNet.NetDump
