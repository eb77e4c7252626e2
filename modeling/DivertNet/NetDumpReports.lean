import DivertNet.NetDump

/-!
# What the sample application keeps and writes

From one packet to the next the application keeps its header objects, and with them the owner
tables. However many packets there are, they are in four blocks at most:
`DivertNet.NetDump.blocks_main`.

A report is written by one of four branches, the first one whose two header objects are both
`Valid`: `DivertNet.NetDump.chosenOverload_spec`. The branches are one text four times over. They
take the addresses from `ipHeader` and the ports from `tcpHeader`, also where they have found
another header, and then these objects were never `Valid`: `DivertNet.NetDump.blank_main`.

The header objects are made once, and one stays `Valid` when `ParsePacket` finds no header for it.
So the branch taken for a packet is that of the kinds of all packets so far. It is the packet's own
exactly if the packet is not shadowed by those before it: `DivertNet.NetDump.branches_eq_iff`.
-/

namespace DivertNet.NetDump

open LittleEndian Triples

/-! ### The branches -/

/-- The header objects of a branch. -/
def kindsOf : Overload → HeaderKind × HeaderKind
  | .tcp4 => (.ip, .tcp)
  | .udp4 => (.ip, .udp)
  | .tcp6 => (.ipv6, .tcp)
  | .udp6 => (.ipv6, .udp)

/-- Its place among the branches. -/
def turnOf : Overload → ℕ
  | .tcp4 => 0
  | .udp4 => 1
  | .tcp6 => 2
  | .udp6 => 3

/-- Both header objects of a branch are valid. -/
def Complete (valid : HeaderKind → Bool) (o : Overload) : Prop :=
  valid (kindsOf o).1 = true ∧ valid (kindsOf o).2 = true

/-- **The branch taken** is the first one with both its header objects valid. -/
theorem chosenOverload_spec (valid : HeaderKind → Bool) :
    (∃ o, chosenOverload valid = some o ∧ Complete valid o ∧
        ∀ o', Complete valid o' → turnOf o ≤ turnOf o') ∨
      chosenOverload valid = none ∧ ∀ o, ¬Complete valid o := by
  simp only [chosenOverload, Bool.and_eq_true]
  split_ifs with h₁ h₂ h₃ h₄
  · exact Or.inl ⟨.tcp4, rfl, h₁, fun o' _ => Nat.zero_le _⟩
  · refine Or.inl ⟨.udp4, rfl, h₂, fun o' ho' => ?_⟩
    cases o' with
    | tcp4 => exact absurd ho' h₁
    | _ => decide
  · refine Or.inl ⟨.tcp6, rfl, h₃, fun o' ho' => ?_⟩
    cases o' with
    | tcp4 => exact absurd ho' h₁
    | udp4 => exact absurd ho' h₂
    | _ => decide
  · refine Or.inl ⟨.udp6, rfl, h₄, fun o' ho' => ?_⟩
    cases o' with
    | tcp4 => exact absurd ho' h₁
    | udp4 => exact absurd ho' h₂
    | tcp6 => exact absurd ho' h₃
    | udp6 => exact le_rfl
  · refine Or.inr ⟨rfl, fun o ho => ?_⟩
    cases o with
    | tcp4 => exact h₁ ho
    | udp4 => exact h₂ ho
    | tcp6 => exact h₃ ho
    | udp6 => exact h₄ ho

theorem turnOf_injective : Function.Injective turnOf := by
  intro o o' h
  cases o <;> cases o' <;> first | rfl | cases h

theorem chosenOverload_eq_some_iff {valid : HeaderKind → Bool} {o : Overload} :
    chosenOverload valid = some o ↔
      Complete valid o ∧ ∀ o', Complete valid o' → turnOf o ≤ turnOf o' := by
  rcases chosenOverload_spec valid with ⟨first, hchosen, hfirst, hleast⟩ | ⟨hchosen, hnone⟩
  · rw [hchosen, Option.some.injEq]
    constructor
    · rintro rfl
      exact ⟨hfirst, hleast⟩
    · rintro ⟨ho, hleast'⟩
      exact turnOf_injective (le_antisymm (hleast o ho) (hleast' first hfirst))
  · rw [hchosen]
    exact iff_of_false (Option.some_ne_none o).symm fun h => hnone o h.1

theorem chosenOverload_eq_none_iff {valid : HeaderKind → Bool} :
    chosenOverload valid = none ↔ ∀ o, ¬Complete valid o := by
  rcases chosenOverload_spec valid with ⟨first, hchosen, hfirst, -⟩ | ⟨hchosen, hnone⟩
  · rw [hchosen]
    exact iff_of_false (Option.some_ne_none first) fun h => h first hfirst
  · exact iff_of_true hchosen hnone

/-! ### What is left alone -/

/-- A part of the loop that leaves the header objects, their tables, and the reports. -/
def KeepsWritten {α : Type} (x : SampleM α) : Prop :=
  ∀ s, (x s).2.headers = s.headers ∧ (x s).2.ipHeader = s.ipHeader ∧ (x s).2.tables = s.tables ∧
    (x s).2.reports = s.reports

section KeepsWritten

variable {α : Type} {x : SampleM α} {d : ℕ} {reply : PassReply}

theorem KeepsWritten.triple (h : KeepsWritten x)
    (R : Headers → IPHeader → Tables → List Report → Prop) :
    Triple (fun s => R s.headers s.ipHeader s.tables s.reports) x
      (fun _ s => R s.headers s.ipHeader s.tables s.reports)
      (fun _ s => R s.headers s.ipHeader s.tables s.reports) := by
  refine ⟨fun s hs => ?_⟩
  obtain ⟨hheaders, hip, htables, hreports⟩ := h s
  have hR : R (x s).2.headers (x s).2.ipHeader (x s).2.tables (x s).2.reports := by
    rw [hheaders, hip, htables, hreports]
    exact hs
  rcases hx : x s with ⟨e | a, t⟩
  · rw [hx] at hR
    exact hR
  · rw [hx] at hR
    exact hR

theorem keepsWritten_collect (point : MovePoint) : KeepsWritten (collect reply point) := by
  intro s
  rw [collect]
  cases reply.moves point <;> exact ⟨rfl, rfl, rfl, rfl⟩

theorem keepsWritten_receivePacket : KeepsWritten (receivePacket d reply) := by
  intro s
  rw [receivePacket]
  dsimp only
  split
  · exact ⟨rfl, rfl, rfl, rfl⟩
  · exact ⟨rfl, rfl, rfl, rfl⟩
  · split <;> exact ⟨rfl, rfl, rfl, rfl⟩

theorem keepsWritten_fixChecksums (helper : ChecksumHelper) (receiveLength : BitVec 32) :
    KeepsWritten (fixChecksums helper receiveLength) := by
  intro s
  rw [fixChecksums]
  split
  · split <;> exact ⟨rfl, rfl, rfl, rfl⟩
  · exact ⟨rfl, rfl, rfl, rfl⟩

theorem keepsWritten_sendPacket (receiveLength : BitVec 32) :
    KeepsWritten (sendPacket d reply receiveLength) := fun _ => ⟨rfl, rfl, rfl, rfl⟩

theorem keepsWritten_openSample (opened : OpenAnswer) :
    KeepsWritten (attempt (openSample opened)) := by
  intro s
  rw [attempt, openSample]
  rcases openDiversion ⟨some filter, networkLayer, 100, 0⟩ opened.marshalled opened.reply s.filters
    with ⟨_ | _, filters⟩
  · exact ⟨rfl, rfl, rfl, rfl⟩
  · exact ⟨rfl, rfl, rfl, rfl⟩

theorem keepsWritten_handleValid : KeepsWritten (handleValid d) := by
  intro s
  rw [handleValid]
  split <;> exact ⟨rfl, rfl, rfl, rfl⟩

theorem keepsWritten_closeSample (closed : Bool) : KeepsWritten (closeSample d closed) :=
  fun _ => ⟨rfl, rfl, rfl, rfl⟩

/-- **What is written in a pass** is a matter of `ParsePacket` and the branches: what these two keep
of it, the pass keeps. -/
theorem triple_pass_of_written (R : Headers → IPHeader → Tables → List Report → Prop)
    {parser : ParseHelper} {helper : ChecksumHelper}
    (hparse : ∀ receiveLength, Triple (fun s => R s.headers s.ipHeader s.tables s.reports)
      (parseHeaders parser receiveLength) (fun _ s => R s.headers s.ipHeader s.tables s.reports)
      (fun _ s => R s.headers s.ipHeader s.tables s.reports))
    (hreport : Triple (fun s => R s.headers s.ipHeader s.tables s.reports) (reportPacket reply)
      (fun _ s => R s.headers s.ipHeader s.tables s.reports)
      (fun _ s => R s.headers s.ipHeader s.tables s.reports)) :
    Triple (fun s => R s.headers s.ipHeader s.tables s.reports) (pass parser helper d reply)
      (fun _ s => R s.headers s.ipHeader s.tables s.reports)
      (fun _ s => R s.headers s.ipHeader s.tables s.reports) := by
  have hcollect : ∀ point, Triple (fun s => R s.headers s.ipHeader s.tables s.reports)
      (collect reply point) (fun _ s => R s.headers s.ipHeader s.tables s.reports)
      (fun _ s => R s.headers s.ipHeader s.tables s.reports) := fun point =>
    (keepsWritten_collect point).triple R
  refine triple_bind (hcollect _) fun _ =>
    triple_bind (keepsWritten_receivePacket.triple R) fun result => ?_
  cases result with
  | none => exact triple_pure fun _ hs => hs
  | some receiveLength =>
    exact triple_bind (hcollect _) fun _ => triple_bind (hparse _) fun _ =>
      triple_bind (hcollect _) fun _ => triple_bind hreport fun _ =>
        triple_bind (hcollect _) fun _ =>
          triple_bind ((keepsWritten_fixChecksums _ _).triple R) fun _ =>
            triple_bind (hcollect _) fun _ => (keepsWritten_sendPacket _).triple R

/-- **What every pass keeps**, `Main` keeps, if it is about what `Main` itself leaves alone. -/
theorem triple_main (R : Headers → IPHeader → Tables → List Report → Prop)
    {parser : ParseHelper} {helper : ChecksumHelper} {reply : MainReply}
    (hpass : ∀ d passReply, Triple (fun s => R s.headers s.ipHeader s.tables s.reports)
      (pass parser helper d passReply) (fun _ s => R s.headers s.ipHeader s.tables s.reports)
      (fun _ s => R s.headers s.ipHeader s.tables s.reports)) :
    Triple (fun s => R s.headers s.ipHeader s.tables s.reports) (main parser helper reply)
      (fun _ s => R s.headers s.ipHeader s.tables s.reports)
      (fun _ s => R s.headers s.ipHeader s.tables s.reports) := by
  refine triple_bind ((keepsWritten_openSample _).triple R) fun opened => ?_
  cases opened with
  | error e => exact triple_pure fun _ hs => hs
  | ok d =>
    refine triple_bind (keepsWritten_handleValid.triple R) fun valid =>
      triple_ite (fun _ => triple_pure fun _ hs => hs) fun _ => ?_
    exact triple_bind
      (triple_forEach (I := fun _ _ (s : State) => R s.headers s.ipHeader s.tables s.reports)
        fun _ _ _ _ _ => hpass d _)
      fun _ => (keepsWritten_closeSample _).triple R

end KeepsWritten

/-! ### The owner tables -/

/-- **The blocks are those of the tables** of the two header objects that have any, and none was
freed twice. -/
def OwnTables (_ : Headers) (_ : IPHeader) (tables : Tables) (_ : List Report) : Prop :=
  tables.Inv ∧ ∀ o n, tables.slots o n ≠ none → n = 0

section OwnTables

variable {parser : ParseHelper} {helper : ChecksumHelper} {d : ℕ} {reply : PassReply}

/-- A state in which the blocks are those of the tables. -/
def OwnTablesSoFar (s : State) : Prop := OwnTables s.headers s.ipHeader s.tables s.reports

/-- There are four tables at most. -/
theorem OwnTablesSoFar.length_live_le {s : State} (hs : OwnTablesSoFar s) :
    s.tables.heap.live.length ≤ 4 := by
  obtain ⟨hinv, hown⟩ := hs
  refine Blocks.Store.Referenced.length_live_le hinv.referenced hinv.sound
    [(.tcp4, 0), (.tcp6, 0), (.udp4, 0), (.udp6, 0)] ?_
  rintro ⟨o, n⟩ hptr
  have hslot : s.tables.slots o n ≠ none := fun hnone =>
    hptr (congrArg (Option.map TableBlock.id) hnone)
  obtain rfl := hown o n hslot
  cases o <;> decide

/-- A call of `GetPacketProcess` allocates for its own table alone. -/
theorem ownTables_next {s : State} (hs : OwnTablesSoFar s) (o : Overload) :
    OwnTablesSoFar { s with tables := s.tables.next (processCall reply o s) } := by
  refine ⟨hs.1.next _, fun o' n hslot => ?_⟩
  rcases Tables.slots_next _ _ hslot with hbefore | ⟨-, hn⟩
  · exact hs.2 o' n hbefore
  · exact hn

theorem ownTables_parseHeaders (receiveLength : BitVec 32) :
    Triple OwnTablesSoFar (parseHeaders parser receiveLength) (fun _ => OwnTablesSoFar)
      (fun _ => OwnTablesSoFar) := by
  refine ⟨fun s hs => ?_⟩
  rw [parseHeaders]
  split
  · exact hs
  · exact hs

theorem ownTables_reportPacket :
    Triple OwnTablesSoFar (reportPacket reply) (fun _ => OwnTablesSoFar)
      (fun _ => OwnTablesSoFar) := by
  refine ⟨fun s hs => ?_⟩
  rw [reportPacket]
  cases chosenOverload s.headers.valid with
  | none => exact hs
  | some o =>
    have hnext : OwnTablesSoFar { s with tables := s.tables.next (processCall reply o s) } :=
      ownTables_next hs o
    change Ends _ _ (reportProcess reply o s)
    rcases reportProcess_cases reply o s with ⟨e, -, hrun⟩ | ⟨name, -, -, hrun⟩
    · rw [hrun]
      exact hnext
    · rw [hrun]
      -- neither the collector nor the report has to do with the tables
      cases reply.moves .beforeReport <;> exact hnext

/-- **One pass** allocates for the tables alone. -/
theorem ownTables_pass :
    Triple OwnTablesSoFar (pass parser helper d reply) (fun _ => OwnTablesSoFar)
      (fun _ => OwnTablesSoFar) :=
  triple_pass_of_written OwnTables ownTables_parseHeaders ownTables_reportPacket

/-- **The blocks do not pile up**: in every run, however many packets there are, whatever the
system answers, and however it ends, the blocks are those that the header objects hold, none was
freed twice, and there are four at most. -/
theorem blocks_main (reply : MainReply) :
    Triple Starting (main parser helper reply)
      (fun _ s => s.tables.Conserved ∧ s.tables.heap.live.length ≤ 4)
      (fun _ s => s.tables.Conserved ∧ s.tables.heap.live.length ≤ 4) := by
  have hmain : Triple OwnTablesSoFar (main parser helper reply) (fun _ => OwnTablesSoFar)
      (fun _ => OwnTablesSoFar) := triple_main OwnTables fun _ _ => ownTables_pass
  refine hmain.mono (fun s hs => ?_) (fun _ s hs => ⟨hs.1.conserved, hs.length_live_le⟩)
    fun _ s hs => ⟨hs.1.conserved, hs.length_live_le⟩
  obtain ⟨malloc, buffer, rest, -, rfl⟩ := hs
  exact ⟨Tables.inv_empty, fun _ _ hslot => absurd rfl hslot⟩

end OwnTables

/-! ### Addresses and ports -/

/-- **A report that leaves things blank**: no ports in a report about a datagram, and no addresses
in a report about a packet of IPv6. -/
def Report.Blank (report : Report) : Prop :=
  (report.overload = .udp4 ∨ report.overload = .udp6 →
      report.destinationPort = 0 ∧ report.sourcePort = 0) ∧
    (report.overload = .tcp6 ∨ report.overload = .udp6 →
      report.destinationAddress = .any ∧ report.sourceAddress = .any)

/-- **`ipHeader` is as new** as long as it has not been `Valid`, and all reports leave things
blank. -/
def Blanks (headers : Headers) (ipHeader : IPHeader) (_ : Tables) (reports : List Report) : Prop :=
  ipHeader.m_ipHeader = headers .ip ∧
    (headers .ip = none → ipHeader = .new) ∧ ∀ report ∈ reports, report.Blank

section Blank

variable {parser : ParseHelper} {helper : ChecksumHelper} {d : ℕ} {reply : PassReply}

/-- A state in which `ipHeader` is as new unless it points to a header, and all reports leave
things blank. -/
def BlankSoFar (s : State) : Prop := Blanks s.headers s.ipHeader s.tables s.reports

/-- `ParsePacket` leaves the headers that it has found, over those from before. -/
theorem parsePacket_eq_ok {s : State} {receiveLength : BitVec 32} {result : ParseResult}
    (hparse : parsePacket parser s.headers ⟨.headers, some s.buffer, receiveLength, fun _ => true⟩ =
      .ok result) :
    ∃ found : Headers, ∀ k,
      result.headers k = if (found k).isSome then found k else s.headers k := by
  rcases args_cases ⟨.headers, some s.buffer, receiveLength, fun _ => true⟩ with
    ⟨a, hbuf, ha⟩ | ⟨-, e, hargs⟩
  · rw [parsePacket, args_eq_ok hbuf ha] at hparse
    cases hparse
    exact ⟨_, fun k => if_congr (and_iff_right rfl) rfl rfl⟩
  · rw [parsePacket, hargs] at hparse
    cases hparse

/-- `ParsePacket` makes no header object invalid. -/
theorem blank_parseHeaders (receiveLength : BitVec 32) :
    Triple BlankSoFar (parseHeaders parser receiveLength) (fun _ => BlankSoFar)
      (fun _ => BlankSoFar) := by
  refine ⟨fun s hs => ?_⟩
  obtain ⟨hip, hnew, hreports⟩ := hs
  rw [parseHeaders]
  cases hparse : parsePacket parser s.headers
    ⟨.headers, some s.buffer, receiveLength, fun _ => true⟩ with
  | error e => exact ⟨hip, hnew, hreports⟩
  | ok result =>
    obtain ⟨found, hfound⟩ := parsePacket_eq_ok hparse
    refine ⟨rfl, fun hnone => ?_, hreports⟩
    -- no header now, so there was none before
    change result.headers .ip = none at hnone
    have hbefore : s.headers .ip = none := by
      rw [hfound] at hnone
      split at hnone
      · rename_i hsome
        rw [hnone] at hsome
        cases hsome
      · exact hnone
    change IPHeader.setUnmanagedHeader (result.headers .ip) s.ipHeader = .new
    rw [hnone, hnew hbefore]
    rfl

/-- **What a branch tells of the header objects** it does not use: without ports, it is the
`tcpHeader` that is not valid, and without addresses the `ipHeader`. -/
theorem eq_none_of_chosen {headers : Headers} {o : Overload}
    (ho : chosenOverload headers.valid = some o) :
    (o = .udp4 ∨ o = .udp6 → headers .tcp = none) ∧
      (o = .tcp6 ∨ o = .udp6 → headers .ip = none) := by
  obtain ⟨⟨hip, htransport⟩, hfirst⟩ := chosenOverload_eq_some_iff.mp ho
  -- otherwise a branch before this one would have been taken
  refine ⟨fun hudp => ?_, fun hv6 => ?_⟩
  · by_contra hne
    have htcp : headers.valid .tcp = true := Option.isSome_iff_ne_none.mpr hne
    rcases hudp with rfl | rfl
    · exact absurd (hfirst .tcp4 ⟨hip, htcp⟩) (by decide)
    · exact absurd (hfirst .tcp6 ⟨hip, htcp⟩) (by decide)
  · by_contra hne
    have hvalid : headers.valid .ip = true := Option.isSome_iff_ne_none.mpr hne
    rcases hv6 with rfl | rfl
    · exact absurd (hfirst .tcp4 ⟨hvalid, htransport⟩) (by decide)
    · exact absurd (hfirst .udp4 ⟨hvalid, htransport⟩) (by decide)

/-- So the report of a branch leaves things blank. -/
theorem blank_report {s : State} {o : Overload} (hs : BlankSoFar s)
    (ho : chosenOverload s.headers.valid = some o) (lastError pid : BitVec 32)
    (processName : String) : BlankSoFar (s.report lastError o pid processName) := by
  obtain ⟨hip, hnew, hreports⟩ := hs
  obtain ⟨htcpNone, hipNone⟩ := eq_none_of_chosen ho
  refine ⟨(pointer_report ..).trans hip, fun hnone => ?_, fun report hreport => ?_⟩
  · change s.headers .ip = none at hnone
    rw [State.report, hnew hnone]
    rfl
  · rcases List.mem_append.mp hreport with hreport | hreport
    · exact hreports report hreport
    · obtain rfl := List.mem_singleton.mp hreport
      refine ⟨fun hudp => ?_, fun hv6 => ?_⟩
      · rw [State.reportOf, htcpNone hudp]
        exact ⟨rfl, rfl⟩
      · rw [State.reportOf, hnew (hipNone hv6)]
        exact ⟨rfl, rfl⟩

theorem BlankSoFar.moved {s : State} (hs : BlankSoFar s) (move : Option Move) :
    BlankSoFar (s.moved move) := by
  cases move <;> exact hs

theorem headers_moved (s : State) (move : Option Move) : (s.moved move).headers = s.headers := by
  cases move <;> rfl

theorem blank_reportPacket :
    Triple BlankSoFar (reportPacket reply) (fun _ => BlankSoFar) (fun _ => BlankSoFar) := by
  refine ⟨fun s hs => ?_⟩
  rw [reportPacket]
  cases ho : chosenOverload s.headers.valid with
  | none => exact hs
  | some o =>
    change Ends _ _ (reportProcess reply o s)
    rcases reportProcess_cases reply o s with ⟨e, -, hrun⟩ | ⟨name, -, -, hrun⟩
    · rw [hrun]
      exact hs
    · rw [hrun]
      have hasked : BlankSoFar { s with tables := s.tables.next (processCall reply o s) } := hs
      exact blank_report (hasked.moved _) (by rw [headers_moved]; exact ho) _ _ _

/-- **One pass** writes reports that leave things blank. -/
theorem blank_pass :
    Triple BlankSoFar (pass parser helper d reply) (fun _ => BlankSoFar) (fun _ => BlankSoFar) :=
  triple_pass_of_written Blanks blank_parseHeaders blank_reportPacket

/-- **What is never in a report**: in every run, whatever the system answers, and however it ends,
no report about a datagram has its ports, and no report about a packet of IPv6 its addresses. -/
theorem blank_main (reply : MainReply) :
    Triple Starting (main parser helper reply) (fun _ s => ∀ report ∈ s.reports, report.Blank)
      (fun _ s => ∀ report ∈ s.reports, report.Blank) := by
  have hmain : Triple BlankSoFar (main parser helper reply) (fun _ => BlankSoFar)
      (fun _ => BlankSoFar) := triple_main Blanks fun _ _ => blank_pass
  refine hmain.mono (fun s hs => ?_) (fun _ s hs => hs.2.2) fun _ s hs => hs.2.2
  obtain ⟨malloc, buffer, rest, -, rfl⟩ := hs
  exact ⟨rfl, fun _ => rfl, fun _ hreport => absurd hreport List.not_mem_nil⟩

end Blank

/-! ### The kinds of packets -/

/-- The packet a pass receives, if it receives one. -/
def receivedIn (reply : PassReply) : Option (List Byte) :=
  match reply.reception with
  | .failed .. => none
  | .packet bytes _ _ => some bytes

/-- The packets the passes receive. -/
def received (passes : List PassReply) : List (List Byte) := passes.filterMap receivedIn

/-- The kinds of headers that a packet has. -/
def kinds (dissector : Dissector) (p : List Byte) (k : HeaderKind) : Bool :=
  (dissector.headerAt p k).isSome

/-- The kinds that some of the packets have. -/
def seen (dissector : Dissector) (packets : List (List Byte)) (k : HeaderKind) : Bool :=
  packets.any fun p => kinds dissector p k

/-- The branch for a packet, by its own headers. -/
def own (dissector : Dissector) (p : List Byte) : Option Overload :=
  chosenOverload (kinds dissector p)

/-- The branches taken for packets that come after others. -/
def branches (dissector : Dissector) :
    List (List Byte) → List (List Byte) → List Overload
  | _, [] => []
  | before, p :: ps =>
    (chosenOverload (seen dissector (before ++ [p]))).toList ++
      branches dissector (before ++ [p]) ps

/-- **A packet is shadowed** by those before it: with the kinds that they had, a branch is
complete that comes before any that the packet completes by itself. -/
def Shadowed (dissector : Dissector) (before : List (List Byte)) (p : List Byte) : Prop :=
  ∃ o, Complete (seen dissector (before ++ [p])) o ∧
    ∀ o', Complete (kinds dissector p) o' → turnOf o < turnOf o'

section Branches

variable {dissector : Dissector} {before : List (List Byte)} {p : List Byte}

theorem seen_snoc (k : HeaderKind) :
    seen dissector (before ++ [p]) k = (seen dissector before k || kinds dissector p k) := by
  simp [seen]

/-- What holds at every place of a list holds at its first place, and at the others. -/
theorem forall_split_cons {α : Type} {R : List α → α → Prop} {a : α} {l : List α} :
    (∀ done b rest, a :: l = done ++ b :: rest → R done b) ↔
      R [] a ∧ ∀ done b rest, l = done ++ b :: rest → R (a :: done) b := by
  constructor
  · intro h
    exact ⟨h [] a l rfl, fun done b rest hl => h (a :: done) b rest (congrArg (a :: ·) hl)⟩
  · rintro ⟨hfirst, hothers⟩ done b rest hl
    cases done with
    | nil =>
      obtain ⟨rfl, -⟩ := List.cons.inj hl
      exact hfirst
    | cons c done =>
      obtain ⟨rfl, hrest⟩ := List.cons.inj hl
      exact hothers done b rest hrest

/-- What a packet completes by itself is complete with others before it. -/
theorem Complete.seen {o : Overload}
    (h : Complete (kinds dissector p) o) :
    Complete (seen dissector (before ++ [p])) o := by
  refine ⟨?_, ?_⟩
  · rw [seen_snoc, h.1, Bool.or_true]
  · rw [seen_snoc, h.2, Bool.or_true]

/-- **The branch taken for a packet is its own** exactly if it is not shadowed. -/
theorem chosenOverload_seen_iff :
    chosenOverload (seen dissector (before ++ [p])) = own dissector p ↔
      ¬Shadowed dissector before p := by
  rcases chosenOverload_spec (kinds dissector p) with
    ⟨o, howner, hcomplete, hleast⟩ | ⟨hnone, hincomplete⟩
  · rw [own, howner, chosenOverload_eq_some_iff, and_iff_right hcomplete.seen]
    constructor
    · rintro hfirst ⟨o', ho', hbefore⟩
      exact (hfirst o' ho').not_gt (hbefore o hcomplete)
    · intro hnot o' ho'
      by_contra hlt
      exact hnot ⟨o', ho', fun o'' ho'' => (not_le.mp hlt).trans_le (hleast o'' ho'')⟩
  · rw [own, hnone, chosenOverload_eq_none_iff]
    constructor
    · rintro hall ⟨o', ho', -⟩
      exact hall o' ho'
    · exact fun hnot o' ho' => hnot ⟨o', ho', fun o'' ho'' => absurd ho'' (hincomplete o'')⟩

/-- No packet with a branch of its own goes without one. -/
theorem isSome_chosenOverload_of_own (before : List (List Byte))
    (h : (own dissector p).isSome = true) :
    (chosenOverload (seen dissector (before ++ [p]))).isSome = true := by
  rw [Option.isSome_iff_ne_none] at h ⊢
  intro hnone
  refine h (chosenOverload_eq_none_iff.mpr fun o ho => ?_)
  exact chosenOverload_eq_none_iff.mp hnone o ho.seen

/-- There are at least as many branches taken as there are packets with one. -/
theorem length_own_le (dissector : Dissector) (before packets : List (List Byte)) :
    (packets.filterMap (own dissector)).length ≤ (branches dissector before packets).length := by
  induction packets generalizing before with
  | nil => exact le_rfl
  | cons p ps ih =>
    have hps := ih (before ++ [p])
    rw [branches, List.length_append]
    cases howner : own dissector p with
    | none =>
      rw [List.filterMap_cons_none howner]
      omega
    | some o =>
      rw [List.filterMap_cons_some howner]
      have hsome := isSome_chosenOverload_of_own before (by rw [howner]; rfl)
      obtain ⟨o', ho'⟩ := Option.isSome_iff_exists.mp hsome
      rw [ho']
      simp only [Option.toList_some, List.length_cons, List.length_nil]
      omega

/-- **The branches taken are those of the packets** exactly if none is shadowed. -/
theorem branches_eq_iff (before packets : List (List Byte)) :
    branches dissector before packets = packets.filterMap (own dissector) ↔
      ∀ done p rest, packets = done ++ p :: rest → ¬Shadowed dissector (before ++ done) p := by
  induction packets generalizing before with
  | nil =>
    refine iff_of_true rfl fun done p rest h => ?_
    exact absurd h.symm (List.append_ne_nil_of_right_ne_nil done (List.cons_ne_nil p rest))
  | cons p ps ih =>
    have hstep : branches dissector before (p :: ps) = (p :: ps).filterMap (own dissector) ↔
        chosenOverload (seen dissector (before ++ [p])) = own dissector p ∧
          branches dissector (before ++ [p]) ps = ps.filterMap (own dissector) := by
      have hlength := length_own_le dissector (before ++ [p]) ps
      rw [branches]
      cases howner : own dissector p with
      | none =>
        rw [List.filterMap_cons_none howner]
        cases chosenOverload (seen dissector (before ++ [p])) with
        | none => simp
        | some o =>
          -- one branch more, and no packet that goes without
          refine iff_of_false (fun h => ?_) fun h => Option.some_ne_none o h.1
          have := congrArg List.length h
          simp only [Option.toList_some, List.singleton_append, List.length_cons] at this
          omega
      | some o =>
        rw [List.filterMap_cons_some howner]
        have hsome := isSome_chosenOverload_of_own before (by rw [howner]; rfl)
        obtain ⟨o', ho'⟩ := Option.isSome_iff_exists.mp hsome
        rw [ho']
        simp
    rw [hstep, chosenOverload_seen_iff, ih, forall_split_cons (R := fun done q =>
      ¬Shadowed dissector (before ++ done) q), List.append_nil]
    simp only [List.append_assoc, List.singleton_append]

end Branches

end DivertNet.NetDump
