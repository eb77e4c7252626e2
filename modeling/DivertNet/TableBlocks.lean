import DivertNet.FirstMatch
import DivertNet.Library.Blocks

/-!
# The blocks of the owner tables

Each header object keeps a table per family from one call of `GetPacketProcess` to the next,
and frees both when it is finalized. What a call does with the block in its slot is a program
in the sense of `Blocks`, `DivertNet.tableUses`: allocate one if there is none, hand it to the
query, perhaps free it and allocate another, and scan it.

Every way through that program ends with a slot that is null or holds a live block, and loses
no block on the way (`DivertNet.tableUses_spec`), also where an allocation fails between
the two attempts: the slot is overwritten with the null pointer `malloc` returned. So over any
sequence of calls the live blocks are the ones in the slots, and finalizing every object
once frees them all (`DivertNet.tablesConserved`).
-/

namespace DivertNet

open Function Runs Blocks

variable {ρ : Type}

/-! ### What a call does with its block -/

/-- What the two attempts do with the block in the slot, and the loop over the rows after
them. -/
def fillUses (q : TableQuery ρ) (currentTableSize : BitVec 32) : List Use :=
  .access :: if (q.query₁ currentTableSize).dwRetVal = errorInsufficientBuffer then
    .free :: match q.malloc₂ with
      | none => [.malloc false]
      | some _ =>
        .malloc true :: .access ::
          if (q.query₂ (q.query₁ currentTableSize).size).dwRetVal ≠ noError then [] else [.access]
  else [.access]

/-- **What a call of `GetPacketProcess` does with its slot**, by whether there is a block in
it. -/
def tableUses (api : TableApi) (q : TableQuery ρ) (present : Bool) : List Use :=
  if present then fillUses q 0
  else
    match q.malloc₁ with
    | none => [.malloc false]
    | some _ => .malloc true :: fillUses q api.initialSize

section Uses

variable (api : TableApi) (q : TableQuery ρ) (size : BitVec 32)

/-- **Both attempts**, on a live block: no error, no block lost, and no pointer left dangling. -/
theorem fillUses_spec :
    Status.holding.Clean (fillUses q size) ∧ Status.holding.Keeps (fillUses q size) ∧
      Status.holding.afterAll (fillUses q size) ≠ .dangling := by
  rw [fillUses]
  split
  · cases q.malloc₂ with
    | none => simp [Status.Avoids, Status.Errs, Status.Loses, Status.after, Status.afterAll]
    | some garbage =>
      simp only
      split <;> simp [Status.Avoids, Status.Errs, Status.Loses, Status.after, Status.afterAll]
  · simp [Status.Avoids, Status.Errs, Status.Loses, Status.after, Status.afterAll]

/-- **A call with a slot that does not dangle**: no error, no block lost, and the slot does not
dangle after it. -/
theorem tableUses_spec {st : Status} (h : st ≠ .dangling) :
    st.Clean (tableUses api q (st != .null)) ∧ st.Keeps (tableUses api q (st != .null)) ∧
      st.afterAll (tableUses api q (st != .null)) ≠ .dangling := by
  cases st with
  | dangling => exact absurd rfl h
  | holding => exact fillUses_spec q 0
  | null =>
    rw [tableUses, if_neg (by decide)]
    cases q.malloc₁ with
    | none => simp [Status.Avoids, Status.Errs, Status.Loses, Status.after, Status.afterAll]
    | some garbage =>
      obtain ⟨hclean, hkeeps, hafter⟩ := fillUses_spec q api.initialSize
      exact ⟨⟨id, hclean⟩, ⟨id, hkeeps⟩, hafter⟩

/-- A call with a slot that dangles errs at once: the first query writes to the block. -/
theorem clean_tableUses_iff (st : Status) :
    st.Clean (tableUses api q (st != .null)) ↔ st ≠ .dangling := by
  refine ⟨fun h => ?_, fun h => (tableUses_spec api q h).1⟩
  rintro rfl
  exact h.1 trivial

end Uses

/-! ### The query runs that program -/

section Query

variable {ι : Type} [DecidableEq ι] {s : Store ι} {i : ι} {api : TableApi} {q : TableQuery ρ}
  {heap : TableHeap} {slot : Option (TableBlock ρ)}

/-- **The store after a query** has the blocks of the heap the query leaves, and the block of
its slot behind the pointer. -/
structure Leaves (s : Store ι) (i : ι) (out : QueryOutcome ρ) (s' : Store ι) : Prop where
  next : s'.next = out.heap.next
  live : s'.live = out.heap.live
  ptr : s'.ptr = update s.ptr i (out.slot.map TableBlock.id)

theorem use_access_of_live {b : ℕ} (hptr : s.ptr i = some b) (hb : b ∈ s.live) :
    s.use i .access = s := by
  simp only [Store.use, hptr, if_pos hb]

theorem use_free_of_live {b : ℕ} (hptr : s.ptr i = some b) (hb : b ∈ s.live) :
    s.use i .free = { s with live := s.live.erase b } := by
  simp only [Store.use, hptr, if_pos hb]

/-- **The two attempts run their program.** -/
theorem leaves_fillTable {t : TableBlock ρ} (hnext : s.next = heap.next)
    (hlive : s.live = heap.live) (hptr : s.ptr i = some t.id) (ht : t.id ∈ heap.live)
    (size : BitVec 32) :
    Leaves s i (fillTable api q heap t size) (execute s (onPtr i (fillUses q size))) ∧
      (fillTable api q heap t size).heap.badFrees = heap.badFrees := by
  have hself : s.ptr = update s.ptr i (some t.id) := by rw [← hptr, update_eq_self]
  rw [fillTable, fillUses]
  by_cases hins : (q.query₁ size).dwRetVal = errorInsufficientBuffer
  · simp only [hins, if_true, onPtr, List.map_cons, execute_cons]
    rw [use_access_of_live hptr (hlive ▸ ht), use_free_of_live hptr (hlive ▸ ht), TableHeap.free,
      if_pos ht]
    cases q.malloc₂ with
    | none => exact ⟨⟨hnext, congrArg (List.erase · t.id) hlive, rfl⟩, rfl⟩
    | some garbage =>
      -- the new block is live, so the second query and the loop leave the store as it is
      have hfresh : ∀ s' : Store ι, s'.ptr i = some heap.next → heap.next ∈ s'.live →
          execute s' (onPtr i (if (q.query₂ (q.query₁ size).size).dwRetVal ≠ noError then []
            else [.access])) = s' := by
        intro s' hptr' hlive'
        split
        · rfl
        · exact use_access_of_live hptr' hlive'
      simp only [List.map_cons, execute_cons, Store.use, update_self, hnext, List.mem_cons, true_or,
        if_true]
      rw [← onPtr, hfresh _ (update_self ..) List.mem_cons_self]
      split <;>
        exact ⟨⟨rfl, congrArg (fun l => heap.next :: List.erase l t.id) hlive, rfl⟩, rfl⟩
  · simp only [hins, if_false, onPtr, List.map_cons, List.map_nil, execute_cons, execute_nil]
    rw [use_access_of_live hptr (hlive ▸ ht), use_access_of_live hptr (hlive ▸ ht)]
    exact ⟨⟨hnext, hlive, hself⟩, trivial⟩

/-- **A query runs the program of its call**, where the slot does not dangle. -/
theorem leaves_queryTable (hnext : s.next = heap.next) (hlive : s.live = heap.live)
    (hptr : s.ptr i = slot.map TableBlock.id) (hst : s.status i ≠ .dangling) :
    Leaves s i (queryTable api q heap slot)
        (execute s (onPtr i (tableUses api q (s.status i != .null)))) ∧
      (queryTable api q heap slot).heap.badFrees = heap.badFrees := by
  cases slot with
  | some t =>
    have ht : t.id ∈ s.live := by
      by_contra hdead
      exact hst (status_of_not_live hptr hdead)
    rw [status_of_live hptr ht]
    exact leaves_fillTable hnext hlive hptr (hlive ▸ ht) 0
  | none =>
    have hnull : s.ptr i = none := hptr
    rw [status_of_none hnull, tableUses, if_neg (by decide), queryTable]
    cases hm : q.malloc₁ with
    | none =>
      exact ⟨⟨hnext, hlive, rfl⟩, rfl⟩
    | some garbage =>
      simp only [onPtr, List.map_cons, execute_cons]
      have hnext' : (s.use i (.malloc true)).next = heap.malloc.1.next := congrArg (· + 1) hnext
      have hlive' : (s.use i (.malloc true)).live = heap.malloc.1.live := by
        simp only [Store.use, TableHeap.malloc, hnext, hlive]
      have hptr' : (s.use i (.malloc true)).ptr i =
          some (TableBlock.id ⟨heap.malloc.2, api.initialSize, garbage⟩) := by
        simp only [Store.use, update_self, TableHeap.malloc, hnext]
      obtain ⟨hleaves, hbad⟩ :=
        leaves_fillTable hnext' hlive' hptr' List.mem_cons_self api.initialSize
      exact ⟨⟨hleaves.next, hleaves.live, hleaves.ptr.trans (update_idem ..)⟩, hbad⟩

end Query

/-! ### All objects together -/

/-- A slot: the overload that uses it, and the number of the header object it is in. -/
abbrev TableRef := Overload × ℕ

/-- The blocks, and the slots of all header objects. -/
structure Tables where
  heap : TableHeap
  slots : (o : Overload) → ℕ → Option (TableBlock o.Row)

/-- A call of `GetPacketProcess`: the overload, the number of the header object, where its
header is at the time, and everything else the call is given or the system answers. -/
structure ProcessCall where
  overload : Overload
  object : ℕ
  lookup : ProcessLookup
  m : Mem
  address : Address
  m_tcpHeader : Option ℕ
  m_udpHeader : Option ℕ
  ipv4Header : IPHeader
  ipv6Header : IPv6Header
  q : TableQuery overload.Row
  processId : BitVec 32
  processName : Option String

/-- A header object that owns tables. -/
inductive HeaderObject where
  | tcp (n : ℕ)
  | udp (n : ℕ)
  deriving DecidableEq, Repr

/-- The object a slot is in. -/
def headerObject (i : TableRef) : HeaderObject :=
  match i.1 with
  | .tcp4 | .tcp6 => .tcp i.2
  | .udp4 | .udp6 => .udp i.2

namespace Tables

/-- No table fetched yet, in any object. -/
def empty : Tables := ⟨noBlocks, fun _ _ => none⟩

/-- The objects of a call, with their slots. -/
def headers (s : Tables) (c : ProcessCall) : PacketHeaders where
  tcpHeader := ⟨c.m_tcpHeader, s.slots .tcp4 c.object, s.slots .tcp6 c.object⟩
  udpHeader := ⟨c.m_udpHeader, s.slots .udp4 c.object, s.slots .udp6 c.object⟩
  ipv4Header := c.ipv4Header
  ipv6Header := c.ipv6Header

/-- **After a call**, whether it returned or threw. -/
def next (s : Tables) (c : ProcessCall) : Tables :=
  let r := c.overload.call c.lookup c.m c.address (s.headers c) c.q s.heap c.processId
    c.processName
  ⟨r.heap, update s.slots c.overload (update (s.slots c.overload) c.object r.slot)⟩

/-- `if (m_tcpv4Table != nullptr) free(m_tcpv4Table)`, for any of the slots. -/
def freeSlot (s : Tables) (o : Overload) (n : ℕ) : Tables :=
  match s.slots o n with
  | none => s
  | some t => { s with heap := s.heap.free t.id }

/-- `TCPHeader::!TCPHeader` and `UDPHeader::!UDPHeader`: both tables, the slots being left as
they are. -/
def finalizer (s : Tables) : HeaderObject → Tables
  | .tcp n => (s.freeSlot .tcp4 n).freeSlot .tcp6 n
  | .udp n => (s.freeSlot .udp4 n).freeSlot .udp6 n

/-- **The blocks are those of the slots**: every slot is null or holds a live block, every live
block is in a slot, and no block was freed twice. -/
structure Conserved (s : Tables) : Prop where
  slot_live : ∀ o n t, s.slots o n = some t → t.id ∈ s.heap.live
  in_slot : ∀ id ∈ s.heap.live, ∃ o n t, s.slots o n = some t ∧ t.id = id
  once : s.heap.badFrees = []

/-- The pointers of the slots, with the blocks behind them. -/
def store (s : Tables) : Store TableRef where
  next := s.heap.next
  live := s.heap.live
  ptr i := (s.slots i.1 i.2).map TableBlock.id
  faults := s.heap.badFrees.map .free

/-- The invariant: the store is in order, no block is lost, no slot dangles. -/
structure Inv (s : Tables) : Prop where
  sound : s.store.Sound
  referenced : s.store.Referenced
  no_dangling : ∀ i, s.store.status i ≠ .dangling
  once : s.heap.badFrees = []

theorem inv_empty : empty.Inv where
  sound := ⟨List.nodup_nil, nofun, nofun, nofun⟩
  referenced := nofun
  no_dangling _ := by simp [store, empty, Store.status]
  once := rfl

/-- **The invariant is what the claim of a slot on its block comes to.** -/
theorem Inv.conserved {s : Tables} (h : s.Inv) : s.Conserved where
  slot_live o n t ht := by
    by_contra hdead
    exact h.no_dangling (o, n) (status_of_not_live (congrArg (Option.map TableBlock.id) ht) hdead)
  in_slot id hid := by
    obtain ⟨i, hi⟩ := h.referenced id hid
    obtain ⟨t, ht, rfl⟩ := Option.map_eq_some_iff.mp hi
    exact ⟨i.1, i.2, t, ht, rfl⟩
  once := h.once

/-- The slot of an overload in the objects of its call. -/
theorem slot_headers (s : Tables) (c : ProcessCall) :
    c.overload.slot (s.headers c) = s.slots c.overload c.object := by
  obtain ⟨o, n, _⟩ := c
  cases o <;> rfl

/-- The blocks and the slot after a call are those after its query. -/
theorem next_eq (s : Tables) (c : ProcessCall) :
    s.next c =
      ⟨(queryTable c.overload.api c.q s.heap (s.slots c.overload c.object)).heap,
        update s.slots c.overload (update (s.slots c.overload) c.object
          (queryTable c.overload.api c.q s.heap (s.slots c.overload c.object)).slot)⟩ := by
  have hcall : ∀ (test : c.overload.Row → Except ClrException Bool) (slot),
      (getPacketProcess c.overload.api test c.overload.owner c.lookup c.q s.heap slot c.processId
          c.processName).heap = (queryTable c.overload.api c.q s.heap slot).heap ∧
        (getPacketProcess c.overload.api test c.overload.owner c.lookup c.q s.heap slot c.processId
          c.processName).slot = (queryTable c.overload.api c.q s.heap slot).slot := by
    intro test slot
    rw [getPacketProcess]
    simp only
    split
    · exact ⟨rfl, rfl⟩
    · split <;> exact ⟨rfl, rfl⟩
  rw [next, Overload.call_eq, slot_headers, (hcall _ _).1, (hcall _ _).2]

/-! #### Calls -/

section Calls

variable {s : Tables} {c : ProcessCall}

/-- The program of a call, on all the slots. -/
def callUses (s : Tables) (c : ProcessCall) : List (TableRef × Use) :=
  onPtr (c.overload, c.object)
    (tableUses c.overload.api c.q (s.store.status (c.overload, c.object) != .null))

/-- The uses a call makes of a slot: those of its query, or none. -/
theorem usesOf_callUses (s : Tables) (c : ProcessCall) (i : TableRef) :
    usesOf i (s.callUses c) = [] ∨
      usesOf i (s.callUses c) = tableUses c.overload.api c.q (s.store.status i != .null) := by
  rcases eq_or_ne (c.overload, c.object) i with rfl | hne
  · exact Or.inr (usesOf_onPtr_self _ _)
  · exact Or.inl (usesOf_onPtr_of_ne hne _)

/-- **What a call does to every slot.** -/
theorem Inv.callUses_spec (h : s.Inv) (c : ProcessCall) (i : TableRef) :
    (s.store.status i).Clean (usesOf i (s.callUses c)) ∧
      (s.store.status i).Keeps (usesOf i (s.callUses c)) ∧
      (s.store.status i).afterAll (usesOf i (s.callUses c)) ≠ .dangling := by
  rcases usesOf_callUses s c i with huses | huses
  · rw [huses]
    exact ⟨trivial, trivial, h.no_dangling i⟩
  · rw [huses]
    exact tableUses_spec _ _ (h.no_dangling i)

/-- **A call runs its program.** -/
theorem Inv.store_next (h : s.Inv) (c : ProcessCall) :
    (s.next c).store = execute s.store (s.callUses c) ∧
      (s.next c).heap.badFrees = s.heap.badFrees := by
  have hquery : Leaves s.store (c.overload, c.object)
        (queryTable c.overload.api c.q s.heap (s.slots c.overload c.object))
        (execute s.store (s.callUses c)) ∧
      (queryTable c.overload.api c.q s.heap (s.slots c.overload c.object)).heap.badFrees =
        s.heap.badFrees :=
    leaves_queryTable rfl rfl rfl (h.no_dangling _)
  obtain ⟨hleaves, hbad⟩ := hquery
  rw [next_eq]
  refine ⟨Store.ext hleaves.next.symm hleaves.live.symm (Eq.trans ?_ hleaves.ptr.symm) ?_, hbad⟩
  · funext ⟨o, n⟩
    simp only [store]
    rcases eq_or_ne o c.overload with rfl | ho
    · rcases eq_or_ne n c.object with rfl | hn
      · simp only [update_self]
      · rw [update_self, update_of_ne hn, update_of_ne (by simp [hn])]
    · rw [update_of_ne ho, update_of_ne (by simp [ho])]
  · exact (congrArg (List.map Fault.free) hbad).trans
      (faults_execute h.sound fun i => (h.callUses_spec c i).1).symm

/-- **Every call keeps the invariant**, whichever way it ends. -/
theorem Inv.next (h : s.Inv) (c : ProcessCall) : (s.next c).Inv := by
  obtain ⟨hstore, hbad⟩ := h.store_next c
  refine ⟨?_, ?_, fun i => ?_, hbad.trans h.once⟩
  · exact hstore ▸ h.sound.execute _
  · exact hstore ▸ referenced_execute h.sound h.referenced fun i => (h.callUses_spec c i).2.1
  · rw [hstore, status_execute h.sound]
    exact (h.callUses_spec c i).2.2

/-- A slot that is not null is one of a call made before. -/
theorem slots_next (s : Tables) (c : ProcessCall) {o : Overload} {n : ℕ}
    (h : (s.next c).slots o n ≠ none) :
    s.slots o n ≠ none ∨ o = c.overload ∧ n = c.object := by
  rw [next_eq] at h
  by_cases ho : o = c.overload
  · subst ho
    by_cases hn : n = c.object
    · exact Or.inr ⟨rfl, hn⟩
    · simp only [update_self, update_of_ne hn] at h
      exact Or.inl h
  · simp only [update_of_ne ho] at h
    exact Or.inl h

end Calls

/-! #### Finalizers -/

/-- The frees of a finalizer. -/
def freeUses : HeaderObject → List (TableRef × Use)
  | .tcp n => [((.tcp4, n), .free), ((.tcp6, n), .free)]
  | .udp n => [((.udp4, n), .free), ((.udp6, n), .free)]

/-- A finalizer frees the slots of its object, each once. -/
theorem usesOf_freeUses (f : HeaderObject) (i : TableRef) :
    usesOf i (freeUses f) = if headerObject i = f then [.free] else [] := by
  obtain ⟨o, n⟩ := i
  cases f with
  | tcp k =>
    cases o <;> by_cases h : k = n <;> simp [freeUses, usesOf_cons, headerObject, h, eq_comm]
  | udp k =>
    cases o <;> by_cases h : k = n <;> simp [freeUses, usesOf_cons, headerObject, h, eq_comm]

/-- Freeing what is in a slot. -/
theorem store_freeSlot (s : Tables) (o : Overload) (n : ℕ) :
    (s.freeSlot o n).store = s.store.use (o, n) .free := by
  rw [freeSlot]
  cases ht : s.slots o n with
  | none => simp [Store.use, store, ht]
  | some t =>
    by_cases hlive : t.id ∈ s.heap.live <;>
      simp [Store.use, store, ht, TableHeap.free, hlive]

/-- **A finalizer runs its program.** -/
theorem store_finalizer (s : Tables) (f : HeaderObject) :
    (s.finalizer f).store = execute s.store (freeUses f) := by
  cases f <;> simp only [finalizer, store_freeSlot, freeUses, execute_cons, execute_nil]

/-- Finalizing some objects, one after another. -/
def finalizeAll (s : Tables) (fs : List HeaderObject) : Tables := fs.foldl finalizer s

theorem store_finalizeAll (s : Tables) (fs : List HeaderObject) :
    (s.finalizeAll fs).store = execute s.store (fs.flatMap freeUses) := by
  induction fs generalizing s with
  | nil => rfl
  | cons f fs ih =>
    rw [finalizeAll, List.foldl_cons, ← finalizeAll, ih, store_finalizer, List.flatMap_cons]
    exact (List.foldl_append ..).symm

/-- **Each slot is freed once**, or not at all. -/
theorem usesOf_finalizeAll {fs : List HeaderObject} (hfs : fs.Nodup) (i : TableRef) :
    usesOf i (fs.flatMap freeUses) = if headerObject i ∈ fs then [.free] else [] := by
  induction fs with
  | nil => rfl
  | cons f fs ih =>
    obtain ⟨hf, hrest⟩ := List.nodup_cons.mp hfs
    rw [List.flatMap_cons, usesOf_append, usesOf_freeUses, ih hrest]
    rcases eq_or_ne (headerObject i) f with rfl | hne
    · simp [hf]
    · simp [hne]

end Tables

/-! ### From the first call to the last finalizer -/

/-- **Table blocks are conserved** over a sequence of calls: after every call, returned or
thrown, the live blocks are those of the slots; and when objects are finalized after that,
each at most once, no block is freed twice, and none is live any more once all the objects
of the calls have been. -/
structure TablesConserved (l : List ProcessCall) : Prop where
  calls : EveryState (always Tables.next) Tables.Conserved .empty l
  finalizers : ∀ s, run (always Tables.next) .empty l = some s → ∀ fs : List HeaderObject,
    fs.Nodup → (s.finalizeAll fs).heap.badFrees = [] ∧
      ((∀ c ∈ l, headerObject (c.overload, c.object) ∈ fs) → (s.finalizeAll fs).heap.live = [])

/-- **The invariant holds in every state**, and every slot that is not null is one of a call. -/
theorem tables_inv_of_run (l : List ProcessCall) :
    EveryState (always Tables.next) (fun s => s.Inv ∧
      ∀ o n, s.slots o n ≠ none → ∃ c ∈ l, o = c.overload ∧ n = c.object) .empty l := by
  have hguard : EveryStep (always Tables.next) (fun _ c _ => c ∈ l) .empty l :=
    fun l₁ c l₂ _ _ hsplit _ _ => by simp [hsplit]
  refine everyState_of_guard ?_ ⟨Tables.inv_empty, fun _ _ h => absurd rfl h⟩ hguard
  rintro s c t ⟨hs, hslots⟩ hc hstep
  obtain rfl : s.next c = t := Option.some.inj hstep
  refine ⟨hs.next c, fun o n hon => ?_⟩
  rcases Tables.slots_next s c hon with hold | hnew
  · exact hslots o n hold
  · exact ⟨c, hc, hnew⟩

/-- **Calls and finalizers conserve the table blocks**: for every sequence of calls of the four
overloads on any objects, whatever each allocation and each query returns. -/
theorem tablesConserved (l : List ProcessCall) : TablesConserved l where
  calls := (tables_inv_of_run l).mono fun _ h => h.1.conserved
  finalizers s hrun fs hfs := by
    obtain ⟨hs, hslots⟩ := tables_inv_of_run l l [] s (by simp) hrun
    -- every slot is freed at most once, and none dangles before
    have hclean : ∀ i, (s.store.status i).Clean (usesOf i (fs.flatMap Tables.freeUses)) := by
      intro i
      rw [Tables.usesOf_finalizeAll hfs]
      have hi := hs.no_dangling i
      split
      · cases hst : s.store.status i with
        | dangling => exact absurd hst hi
        | null => exact ⟨id, trivial⟩
        | holding => exact ⟨id, trivial⟩
      · trivial
    have hkeeps : ∀ i, (s.store.status i).Keeps (usesOf i (fs.flatMap Tables.freeUses)) := by
      intro i
      rw [Tables.usesOf_finalizeAll hfs]
      split
      · exact ⟨by cases s.store.status i <;> exact id, trivial⟩
      · trivial
    have hstore := Tables.store_finalizeAll s fs
    refine ⟨?_, fun hall => ?_⟩
    · have hfaults : (s.finalizeAll fs).store.faults = [] := by
        rw [hstore, faults_execute hs.sound hclean]
        exact congrArg (List.map Fault.free) hs.once
      exact List.map_eq_nil_iff.mp hfaults
    · -- a live block would be behind a pointer, and all of these are null or dangle
      have href : (s.finalizeAll fs).store.Referenced :=
        hstore ▸ referenced_execute hs.sound hs.referenced hkeeps
      refine List.eq_nil_iff_forall_not_mem.mpr fun b hb => ?_
      obtain ⟨i, hi⟩ := href b hb
      have hholding := status_of_live hi hb
      rw [hstore, status_execute hs.sound, Tables.usesOf_finalizeAll hfs] at hholding
      by_cases hnull : s.slots i.1 i.2 = none
      · rw [status_of_none (show s.store.ptr i = none by simp [Tables.store, hnull])] at hholding
        split at hholding <;> cases hholding
      · obtain ⟨c, hc, ho, hn⟩ := hslots i.1 i.2 hnull
        have hmem : headerObject i ∈ fs := by
          have hobject := hall c hc
          rwa [← ho, ← hn] at hobject
        rw [if_pos hmem] at hholding
        cases hst : s.store.status i <;> rw [hst] at hholding <;> cases hholding

end DivertNet
