import DivertNet.Attribution

/-!
# Where the scanned table comes from

The rows `GetPacketProcess` scans should come from a query made in the same call, one that
succeeded: “if we made it here, the table is valid and populated”. A call makes at most two
queries, and looks at the return code of the second one only.

| first query | second query | what happens |
|---|---|---|
| `NO_ERROR` | – | the rows it wrote are scanned |
| `ERROR_INSUFFICIENT_BUFFER` | `NO_ERROR` | the rows of the new block are scanned |
| `ERROR_INSUFFICIENT_BUFFER` | any error | “Error populating” |
| **any other error** | – | **whatever the block spells is scanned** |

The last row is the gap. The block may be one an earlier call has filled – the process of an
old packet is reported – or one `malloc` has just returned. `DivertNet.scansPopulated_iff`
says that nothing else goes wrong, for all four overloads.
-/

namespace DivertNet

open LittleEndian

variable {ρ : Type}

/-! ### The queries of a call -/

/-- The first query of a call, with what the system answers. There is none where the first
block cannot be allocated. -/
def firstQuery (api : TableApi) (q : TableQuery ρ) : Option (TableBlock ρ) → Option (QueryReply ρ)
  | some _ => some (q.query₁ 0)
  | none => q.malloc₁.map fun _ => q.query₁ api.initialSize

/-- The second query, made where the first one asks for more room and gets it. -/
def secondQuery (q : TableQuery ρ) (r₁ : QueryReply ρ) : Option (QueryReply ρ) :=
  if r₁.dwRetVal = errorInsufficientBuffer then q.malloc₂.map fun _ => q.query₂ r₁.size else none

/-- **A query of this call** was answered so. -/
def Answered (api : TableApi) (q : TableQuery ρ) (slot : Option (TableBlock ρ))
    (reply : QueryReply ρ) : Prop :=
  ∃ r₁, firstQuery api q slot = some r₁ ∧ (reply = r₁ ∨ secondQuery q r₁ = some reply)

/-- **What the system promises of a query**: where it returns `NO_ERROR`, it has filled the
table. -/
def TableQuery.FillsOnSuccess (q : TableQuery ρ) : Prop :=
  ∀ size, ((q.query₁ size).dwRetVal = noError → (q.query₁ size).rows ≠ none) ∧
    ((q.query₂ size).dwRetVal = noError → (q.query₂ size).rows ≠ none)

/-- **The first query has an answer the code expects**: success, or a request for more
room. -/
def FirstQueryExpected (api : TableApi) (q : TableQuery ρ) (slot : Option (TableBlock ρ)) : Prop :=
  ∀ r₁, firstQuery api q slot = some r₁ →
    r₁.dwRetVal = noError ∨ r₁.dwRetVal = errorInsufficientBuffer

/-- **A query of this call filled the table**: it returned `NO_ERROR`, and wrote these rows. -/
def Populated (api : TableApi) (q : TableQuery ρ) (slot : Option (TableBlock ρ))
    (rows : List ρ) : Prop :=
  ∃ reply, Answered api q slot reply ∧ reply.dwRetVal = noError ∧ reply.rows = some rows

/-- The texts of the three exceptions. -/
def TableApi.texts (api : TableApi) : List String :=
  [api.allocateFailed, api.reallocateFailed, api.populateFailed]

/-- **A call got to the rows**: it returned, or its loop assigned from a row, or stopped at
one. -/
def ProcessResult.ReachedRows (r : ProcessResult ρ) : Prop :=
  r.outcome = .ok () ∨ r.scan.setFrom ≠ [] ∨ r.scan.fault ≠ none

/-- **A call scans populated tables only**. If it gets to the rows, then its loop went over the
rows in the slot, and a query of this call wrote them and returned `NO_ERROR`; if no query of
this call did, it throws one of its three texts; and if it does not get to the rows, it leaves
`processId` and `processName` as they were. -/
structure ScansPopulated (api : TableApi) (test : ρ → Except ClrException Bool)
    (owner : ρ → BitVec 32) (q : TableQuery ρ) (slot : Option (TableBlock ρ))
    (processId : BitVec 32) (processName : Option String) (r : ProcessResult ρ) : Prop where
  scanned : r.ReachedRows → ∃ t, r.slot = some t ∧ Populated api q slot t.rows ∧
    r.scan = LastMatch.scan test owner t.rows (LastMatch.start processId)
  thrown : (¬∃ rows, Populated api q slot rows) →
    ∃ text ∈ api.texts, r.outcome = .error (.exception text)
  kept : ¬r.ReachedRows → r.processId = processId ∧ r.processName = processName

/-! ### What a query leaves to scan -/

section Query

variable {api : TableApi} {test : ρ → Except ClrException Bool} {owner : ρ → BitVec 32}
  {lookup : ProcessLookup} {q : TableQuery ρ} {heap : TableHeap} {slot : Option (TableBlock ρ)}
  {pid size : BitVec 32} {name : Option String} {t t₀ : TableBlock ρ}

/-- The rows of a filled block are those the query wrote. -/
theorem rows_fill {r : QueryReply ρ} (h : r.rows ≠ none) : r.rows = some (t.fill r).rows := by
  obtain ⟨rows, hrows⟩ := Option.ne_none_iff_exists'.mp h
  rw [TableBlock.fill, hrows, Option.getD_some]

/-- **The two attempts hand a table over in two cases**: the first one did not ask for more
room, or the second one succeeded. -/
theorem fillTable_eq_ok (h : (fillTable api q heap t₀ size).result = .ok t) :
    (q.query₁ size).dwRetVal ≠ errorInsufficientBuffer ∧ t = t₀.fill (q.query₁ size) ∨
      ∃ r₂ t₁, secondQuery q (q.query₁ size) = some r₂ ∧ r₂.dwRetVal = noError ∧
        t = TableBlock.fill t₁ r₂ := by
  rw [fillTable] at h
  by_cases hins : (q.query₁ size).dwRetVal = errorInsufficientBuffer
  · simp only [hins, if_true] at h
    cases hm : q.malloc₂ with
    | none =>
      rw [hm] at h
      cases h
    | some garbage =>
      simp only [hm] at h
      split at h
      · cases h
      · rename_i hok
        have hsecond : secondQuery q (q.query₁ size) =
            some (q.query₂ (q.query₁ size).size) := by
          rw [secondQuery, if_pos hins, hm, Option.map_some]
        exact Or.inr ⟨_, _, hsecond, not_not.mp hok, (Except.ok.inj h).symm⟩
  · simp only [hins, if_false] at h
    exact Or.inl ⟨hins, (Except.ok.inj h).symm⟩

/-- **An error that is not a request for more room** goes unnoticed: the block is handed over
as it is. -/
theorem fillTable_of_error (heap : TableHeap) (t₀ : TableBlock ρ)
    (h : (q.query₁ size).dwRetVal ≠ errorInsufficientBuffer) :
    (fillTable api q heap t₀ size).result = .ok (t₀.fill (q.query₁ size)) := by
  simp only [fillTable, h, if_false]

/-- A call whose first query was made is the two attempts on some block. -/
theorem queryTable_eq_fillTable (heap : TableHeap) {r₁ : QueryReply ρ}
    (h : firstQuery api q slot = some r₁) :
    ∃ heap' t₀ size, r₁ = q.query₁ size ∧
      queryTable api q heap slot = fillTable api q heap' t₀ size := by
  cases slot with
  | some t => exact ⟨heap, t, 0, (Option.some.inj h).symm, rfl⟩
  | none =>
    simp only [firstQuery, Option.map_eq_some_iff] at h
    obtain ⟨garbage, hm, rfl⟩ := h
    exact ⟨heap.malloc.1, ⟨heap.malloc.2, api.initialSize, garbage⟩, api.initialSize, rfl,
      by simp only [queryTable, hm]⟩

/-- Without a first query there is nothing to scan. -/
theorem queryTable_of_no_query (h : firstQuery api q slot = none) :
    (queryTable api q heap slot).result = .error (.exception api.allocateFailed) := by
  cases slot with
  | some t => cases h
  | none =>
    have hm : q.malloc₁ = none := Option.map_eq_none_iff.mp h
    simp only [queryTable, hm]

/-- What a query throws is one of the three texts. -/
theorem texts_of_queryTable {e : ClrException}
    (h : (queryTable api q heap slot).result = .error e) :
    ∃ text ∈ api.texts, e = .exception text := by
  have hfill : ∀ heap t₀ size, (fillTable api q heap t₀ size).result = .error e →
      ∃ text ∈ api.texts, e = .exception text := by
    intro heap t₀ size h
    simp only [fillTable] at h
    split at h
    · split at h
      · exact ⟨api.reallocateFailed, by simp [TableApi.texts], (Except.error.inj h).symm⟩
      · split at h
        · exact ⟨api.populateFailed, by simp [TableApi.texts], (Except.error.inj h).symm⟩
        · cases h
    · cases h
  cases hfirst : firstQuery api q slot with
  | none =>
    rw [queryTable_of_no_query hfirst] at h
    exact ⟨api.allocateFailed, List.mem_cons_self, (Except.error.inj h).symm⟩
  | some r₁ =>
    obtain ⟨heap', t₀, size, -, hquery⟩ := queryTable_eq_fillTable heap hfirst
    rw [hquery] at h
    exact hfill heap' t₀ size h

/-- A call without a table to scan throws what its query threw, and leaves its outputs. -/
theorem getPacketProcess_of_error {e : ClrException}
    (h : (queryTable api q heap slot).result = .error e) :
    getPacketProcess api test owner lookup q heap slot pid name =
      ⟨(queryTable api q heap slot).heap, (queryTable api q heap slot).slot,
        LastMatch.start pid, name, .error e⟩ := by
  simp only [getPacketProcess, h]

/-- A call with a table to scan gets to its rows, which are those in the slot it leaves. -/
theorem reachedRows_of_ok (h : (queryTable api q heap slot).result = .ok t) :
    (getPacketProcess api test owner lookup q heap slot pid name).ReachedRows ∧
      (getPacketProcess api test owner lookup q heap slot pid name).slot = some t := by
  have hslot := slot_of_queryTable h
  cases hfault : (LastMatch.scan test owner t.rows (LastMatch.start pid)).fault with
  | some e =>
    simp only [getPacketProcess, h, hfault]
    exact ⟨Or.inr (Or.inr (ne_of_eq_of_ne hfault (Option.some_ne_none e))), hslot⟩
  | none =>
    simp only [getPacketProcess, h, hfault]
    exact ⟨Or.inl rfl, hslot⟩

/-- A table handed over after an expected first query was written by a query that succeeded. -/
theorem populated_of_ok (hq : q.FillsOnSuccess) (hexpected : FirstQueryExpected api q slot)
    (h : (queryTable api q heap slot).result = .ok t) : Populated api q slot t.rows := by
  cases hfirst : firstQuery api q slot with
  | none =>
    rw [queryTable_of_no_query hfirst] at h
    cases h
  | some r₁ =>
    obtain ⟨heap', t₀, size, rfl, hquery⟩ := queryTable_eq_fillTable heap hfirst
    rw [hquery] at h
    rcases fillTable_eq_ok h with ⟨hne, rfl⟩ | ⟨r₂, t₁, hsecond, hok, rfl⟩
    · have hok := (hexpected _ hfirst).resolve_right hne
      exact ⟨_, ⟨_, hfirst, Or.inl rfl⟩, hok, rows_fill ((hq size).1 hok)⟩
    · have hr₂ : r₂ = q.query₂ (q.query₁ size).size := by
        rw [secondQuery] at hsecond
        split at hsecond
        · obtain ⟨-, -, hr₂⟩ := Option.map_eq_some_iff.mp hsecond
          exact hr₂.symm
        · cases hsecond
      exact ⟨r₂, ⟨_, hfirst, Or.inr hsecond⟩, hok, rows_fill (hr₂ ▸ (hq _).2 (hr₂ ▸ hok))⟩

/-- **When a call scans populated tables only**: exactly when its first query succeeds or asks
for more room, if it is made at all. -/
theorem scansPopulated_getPacketProcess_iff (hq : q.FillsOnSuccess) :
    ScansPopulated api test owner q slot pid name
        (getPacketProcess api test owner lookup q heap slot pid name) ↔
      FirstQueryExpected api q slot := by
  constructor
  · intro h r₁ hfirst
    obtain ⟨heap', t₀, size, rfl, hquery⟩ := queryTable_eq_fillTable heap hfirst
    by_cases hins : (q.query₁ size).dwRetVal = errorInsufficientBuffer
    · exact Or.inr hins
    · -- the block is scanned, so some query succeeded, and there was only the first
      have hscan : (queryTable api q heap slot).result = .ok (t₀.fill (q.query₁ size)) := by
        rw [hquery]
        exact fillTable_of_error heap' t₀ hins
      obtain ⟨t, -, ⟨reply, ⟨r₁, hr₁, hreply⟩, hok, -⟩, -⟩ :=
        h.scanned (reachedRows_of_ok hscan).1
      obtain rfl : r₁ = q.query₁ size := Option.some.inj (hr₁.symm.trans hfirst)
      rcases hreply with rfl | hsecond
      · exact Or.inl hok
      · rw [secondQuery, if_neg hins] at hsecond
        cases hsecond
  · intro hexpected
    cases hres : (queryTable api q heap slot).result with
    | ok t =>
      have hrows : Populated api q slot t.rows := populated_of_ok hq hexpected hres
      have hreach : (getPacketProcess api test owner lookup q heap slot pid name).ReachedRows ∧
          (getPacketProcess api test owner lookup q heap slot pid name).slot = some t :=
        reachedRows_of_ok hres
      exact {
        scanned := fun _ => ⟨t, hreach.2, hrows, scan_getPacketProcess hres⟩
        thrown := fun hnone => absurd ⟨t.rows, hrows⟩ hnone
        kept := fun hnot => absurd hreach.1 hnot }
    | error e =>
      rw [getPacketProcess_of_error hres]
      refine ⟨?_, fun _ => ?_, fun _ => ⟨rfl, rfl⟩⟩
      · rintro (hret | hset | hfault)
        exacts [(nomatch hret), absurd rfl hset, absurd rfl hfault]
      · obtain ⟨text, htext, rfl⟩ := texts_of_queryTable hres
        exact ⟨text, htext, rfl⟩

end Query

/-! ### The four overloads -/

/-- The overloads of `GetPacketProcess`, by transport and family. -/
inductive Overload where
  | tcp4 | tcp6 | udp4 | udp6
  deriving DecidableEq, Repr

/-- The header objects of a packet. -/
structure PacketHeaders where
  tcpHeader : TCPHeader
  udpHeader : UDPHeader
  ipv4Header : IPHeader
  ipv6Header : IPv6Header

namespace Overload

/-- The rows of its table. -/
def Row : Overload → Type
  | .tcp4 => MibTcpRow2
  | .tcp6 => MibTcp6Row2
  | .udp4 => MibUdpRowOwnerPid
  | .udp6 => MibUdp6RowOwnerPid

/-- Its query and texts. -/
def api : Overload → TableApi
  | .tcp4 => apiTcp4
  | .tcp6 => apiTcp6
  | .udp4 => apiUdp4
  | .udp6 => apiUdp6

/-- The slot it keeps its table in. -/
def slot (h : PacketHeaders) : (o : Overload) → Option (TableBlock o.Row)
  | .tcp4 => h.tcpHeader.m_tcpv4Table
  | .tcp6 => h.tcpHeader.m_tcpv6Table
  | .udp4 => h.udpHeader.m_udpv4Table
  | .udp6 => h.udpHeader.m_udpv6Table

/-- A call of it. -/
def call (lookup : ProcessLookup) (m : Mem) (address : Address) (h : PacketHeaders) :
    (o : Overload) → TableQuery o.Row → TableHeap → BitVec 32 → Option String →
      ProcessResult o.Row
  | .tcp4 => getPacketProcessTcp4 lookup m address h.tcpHeader h.ipv4Header
  | .tcp6 => getPacketProcessTcp6 lookup m address h.tcpHeader h.ipv6Header
  | .udp4 => getPacketProcessUdp4 lookup m address h.udpHeader h.ipv4Header
  | .udp6 => getPacketProcessUdp6 lookup m address h.udpHeader h.ipv6Header

section Loop

variable (m : Mem) (address : Address) (h : PacketHeaders)

/-- The body of its loop. -/
def test : (o : Overload) → o.Row → Except ClrException Bool
  | .tcp4 => testTcp4 m (matchSrcPort address) h.tcpHeader h.ipv4Header
  | .tcp6 => testTcp6 m (matchSrcPort address) h.tcpHeader h.ipv6Header
  | .udp4 => fun row : MibUdpRowOwnerPid =>
    testUdp m (matchSrcPort address) h.udpHeader row.dwLocalPort
  | .udp6 => fun row : MibUdp6RowOwnerPid =>
    testUdp m (matchSrcPort address) h.udpHeader row.dwLocalPort

/-- What it assigns from a row. -/
def owner : (o : Overload) → o.Row → BitVec 32
  | .tcp4 => MibTcpRow2.dwOwningPid
  | .tcp6 => MibTcp6Row2.dwOwningPid
  | .udp4 => MibUdpRowOwnerPid.dwOwningPid
  | .udp6 => MibUdp6RowOwnerPid.dwOwningPid

/-- An overload is the common code with its own query, test and owner. -/
theorem call_eq (lookup : ProcessLookup) (o : Overload) (q : TableQuery o.Row) (heap : TableHeap)
    (processId : BitVec 32) (processName : Option String) :
    o.call lookup m address h q heap processId processName =
      getPacketProcess o.api (o.test m address h) o.owner lookup q heap (o.slot h) processId
        processName := by
  cases o <;> rfl

end Loop

end Overload

/-- **When a call of an overload scans populated tables only**: whatever is in its slot and
whatever the queries return, exactly when the first of them, if it is made, returns
`NO_ERROR` or `ERROR_INSUFFICIENT_BUFFER`. -/
theorem scansPopulated_iff (o : Overload) (lookup : ProcessLookup) (m : Mem) (address : Address)
    (h : PacketHeaders) {q : TableQuery o.Row} (hq : q.FillsOnSuccess) (heap : TableHeap)
    (processId : BitVec 32) (processName : Option String) :
    ScansPopulated o.api (o.test m address h) o.owner q (o.slot h) processId processName
        (o.call lookup m address h q heap processId processName) ↔
      FirstQueryExpected o.api q (o.slot h) := by
  rw [Overload.call_eq]
  exact scansPopulated_getPacketProcess_iff hq

/-! ### A stale table -/

/-- The headers of a UDP packet from port 50046, with the table of an earlier call in the
slot: then the port belonged to process 4242. -/
def usedHeaders : PacketHeaders where
  tcpHeader := ⟨none, none, none⟩
  udpHeader := ⟨some 0, some ⟨0, 16, [⟨0, 0x7EC3, 4242⟩]⟩, none⟩
  ipv4Header := IPHeader.new
  ipv6Header := IPv6Header.new (fun _ => 0) fun _ => 0

/-- The packet. -/
def datagram : Mem := ofBytes [0xC3, 0x7E, 0, 53, 0, 8, 0, 0]

/-- A system that asks for more room and then lists no endpoint. -/
def retried : TableQuery MibUdpRowOwnerPid where
  malloc₁ := none
  query₁ _ := ⟨errorInsufficientBuffer, 64, none⟩
  malloc₂ := some []
  query₂ size := ⟨noError, size, some []⟩

/-- A system that does not support the query, `ERROR_NOT_SUPPORTED`. -/
def unsupported : TableQuery MibUdpRowOwnerPid where
  malloc₁ := none
  query₁ size := ⟨50, size, none⟩
  malloc₂ := none
  query₂ size := ⟨50, size, none⟩

/-- The call for that packet, with the headers used before. -/
def processUsed (q : TableQuery MibUdpRowOwnerPid) : ProcessResult MibUdpRowOwnerPid :=
  Overload.udp4.call noLookup datagram (addressOf .outbound) usedHeaders q noBlocks 0 none

/-- The table is fetched anew. -/
theorem scansPopulated_retried :
    ScansPopulated apiUdp4 (Overload.udp4.test datagram (addressOf .outbound) usedHeaders)
      MibUdpRowOwnerPid.dwOwningPid retried usedHeaders.udpHeader.m_udpv4Table 0 none
      (processUsed retried) := by
  have hfills : retried.FillsOnSuccess := fun _ => ⟨nofun, fun _ => Option.some_ne_none _⟩
  refine (scansPopulated_iff .udp4 noLookup datagram (addressOf .outbound) usedHeaders hfills
    noBlocks 0 none).mpr fun r₁ hfirst => ?_
  obtain rfl := Option.some.inj hfirst
  exact Or.inr rfl

/-- **A packet attributed through an old table**: the query fails, and the call returns the
process the port belonged to when the table was fetched. -/
theorem not_scansPopulated_unsupported :
    unsupported.FillsOnSuccess ∧
      ¬ScansPopulated apiUdp4 (Overload.udp4.test datagram (addressOf .outbound) usedHeaders)
        MibUdpRowOwnerPid.dwOwningPid unsupported usedHeaders.udpHeader.m_udpv4Table 0 none
        (processUsed unsupported) ∧
      (processUsed unsupported).processId = 4242 := by
  have herror : (50 : BitVec 32) ≠ noError := by decide
  refine ⟨fun _ => ⟨fun h => absurd h herror, fun h => absurd h herror⟩, fun h => ?_, by decide⟩
  obtain ⟨t, -, ⟨reply, ⟨r₁, hfirst, hreply⟩, hok, -⟩, -⟩ := h.scanned (Or.inl rfl)
  obtain rfl := Option.some.inj hfirst
  rcases hreply with rfl | hsecond
  · exact herror hok
  · cases hsecond

end DivertNet
