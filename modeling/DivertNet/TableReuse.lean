import DivertNet.TableBlocks

/-!
# When a table buffer is reused

A table is kept from one call to the next because packets come “a gazillion at a time”: “it
will only ever be freed and reallocated when its size is not sufficient”. For that the call
has to know the size of the buffer it finds. It does not: `currentTableSize` is `0` until a
buffer is allocated in this call, so the query is told that there is no room at all, asks for
more, and the buffer is freed however large it is.

A buffer is reused only if the table needs no room, which no table does, since it begins
with the number of its rows (`DivertNet.reusesBuffers_iff`).
-/

namespace DivertNet

open Function Runs Blocks

/-- **What the system promises of a table query**, for a table that needs so much room: it asks
for more exactly when it is given less, and then says how much is needed. -/
def AsksFor {ρ : Type} (query : BitVec 32 → QueryReply ρ) (required : BitVec 32) : Prop :=
  ∀ size, ((query size).dwRetVal = errorInsufficientBuffer ↔ size < required) ∧
    (size < required → (query size).size = required)

/-- A call of `GetPacketProcess` with the room the table needs at its two queries, which may
have changed in between. -/
structure SizedCall extends ProcessCall where
  required₁ : BitVec 32
  required₂ : BitVec 32
  asks₁ : AsksFor q.query₁ required₁
  asks₂ : AsksFor q.query₂ required₂

/-- The calls, one after another. -/
def Tables.sized (s : Tables) (c : SizedCall) : Tables := s.next c.toProcessCall

/-- The block a call finds in its slot. -/
def Tables.found (s : Tables) (c : SizedCall) : Option (TableBlock c.overload.Row) :=
  s.slots c.overload c.object

/-- **A buffer of an earlier call is reused** unless more room is required than it was
allocated with: it is still live after the call, and in the slot. -/
def ReusesBuffer (s : Tables) (c : SizedCall) (t : Tables) : Prop :=
  ∀ block, s.found c = some block → ¬block.size < c.required₁ →
    block.id ∈ t.heap.live ∧ ∃ block', t.found c = some block' ∧ block'.id = block.id

/-- **There is nothing to reuse**: what a call finds in its slot is too small, or the table
needs no room. -/
def NothingToReuse (s : Tables) (c : SizedCall) : Prop :=
  ∀ block, s.found c = some block → c.required₁ = 0 ∨ block.size < c.required₁

section Reuse

variable {s : Tables} {c : SizedCall} {block : TableBlock c.overload.Row}

/-- The first query of a call that finds a buffer is told that there is no room. -/
theorem asks_iff (c : SizedCall) :
    (c.q.query₁ 0).dwRetVal = errorInsufficientBuffer ↔ c.required₁ ≠ 0 := by
  rw [(c.asks₁ 0).1, BitVec.lt_def, Ne, ← BitVec.toNat_inj]
  exact Nat.pos_iff_ne_zero

/-- A free hands out no name. -/
theorem next_free (heap : TableHeap) (id : ℕ) : (heap.free id).next = heap.next := by
  rw [TableHeap.free]
  split <;> rfl

/-- **The buffer is freed** where the table needs room: after the call the slot holds no block,
or a new one. -/
theorem found_of_required (hfound : s.found c = some block) (h : c.required₁ ≠ 0) :
    (s.sized c).found c = none ∨
      ∃ block', (s.sized c).found c = some block' ∧ block'.id = s.heap.next := by
  have hslot : s.slots c.overload c.object = some block := hfound
  rw [Tables.sized, Tables.next_eq, Tables.found]
  simp only [update_self, hslot, queryTable, fillTable, (asks_iff c).mpr h, if_true]
  cases c.q.malloc₂ with
  | none => exact Or.inl rfl
  | some garbage =>
    refine Or.inr ?_
    simp only
    split <;> exact ⟨_, rfl, next_free s.heap block.id⟩

/-- **The buffer is kept** where the table needs none. -/
theorem found_of_not_required (hfound : s.found c = some block) (h : c.required₁ = 0) :
    (s.sized c).heap = s.heap ∧
      ∃ block', (s.sized c).found c = some block' ∧ block'.id = block.id := by
  have hslot : s.slots c.overload c.object = some block := hfound
  have hasks : ¬(c.q.query₁ 0).dwRetVal = errorInsufficientBuffer :=
    fun hasks => (asks_iff c).mp hasks h
  rw [Tables.sized, Tables.next_eq, Tables.found]
  simp only [update_self, hslot, queryTable, fillTable, hasks, if_false]
  exact ⟨trivial, _, rfl, rfl⟩

/-- **When a call reuses its buffer**: exactly if there is nothing to reuse, or no room is
required. -/
theorem reusesBuffer_iff (hs : s.Inv) : ReusesBuffer s c (s.sized c) ↔ NothingToReuse s c := by
  refine forall_congr' fun block => imp_congr_right fun hfound => ?_
  constructor
  · intro hreuse
    by_contra hcon
    obtain ⟨hreq, hsize⟩ := not_or.mp hcon
    obtain ⟨-, block', hblock', hid⟩ := hreuse hsize
    rcases found_of_required hfound hreq with hnone | ⟨new, hnew, hnewid⟩
    · rw [hnone] at hblock'
      cases hblock'
    · -- the block found was handed out before, so the new one is another
      obtain rfl : new = block' := Option.some.inj (hnew.symm.trans hblock')
      have hlt : block.id < s.heap.next :=
        hs.sound.ptr_lt (c.overload, c.object) block.id (congrArg (Option.map _) hfound)
      exact hlt.ne (hid.symm.trans hnewid)
  · rintro (hreq | hsize) hnot
    · obtain ⟨hheap, hkept⟩ := found_of_not_required hfound hreq
      exact ⟨hheap ▸ hs.conserved.slot_live _ _ _ hfound, hkept⟩
    · exact absurd hsize hnot

end Reuse

/-- **When buffers are reused**: over every sequence of calls, of any overloads on any objects,
with tables whose size may change, a buffer of an earlier call is freed only if it is too
small exactly when at every call the buffer found is too small, or the table needs no
room. -/
theorem reusesBuffers_iff (l : List SizedCall) :
    EveryStep (always Tables.sized) ReusesBuffer .empty l ↔
      EveryStep (always Tables.sized) (fun s c _ => NothingToReuse s c) .empty l := by
  have hall : EveryState (always Tables.sized) (fun _ => True) .empty l := fun _ _ _ _ _ => trivial
  refine everyStep_congr_of_invariant ?_ ?_ Tables.inv_empty hall
  · intro s c t hs _ hstep
    obtain rfl : s.sized c = t := Option.some.inj hstep
    exact reusesBuffer_iff hs
  · intro s c t hs _ _ hstep
    obtain rfl : s.sized c = t := Option.some.inj hstep
    exact hs.next c.toProcessCall

/-! #### A small table -/

/-- A system with a table that needs sixteen bytes. -/
def sixteenBytes (size : BitVec 32) : QueryReply MibUdpRowOwnerPid :=
  if size < 16 then ⟨errorInsufficientBuffer, 16, none⟩ else ⟨noError, size, some []⟩

theorem asksFor_sixteenBytes : AsksFor sixteenBytes 16 := by
  intro size
  by_cases h : size < 16
  · rw [sixteenBytes, if_pos h]
    exact ⟨iff_of_true rfl h, fun _ => rfl⟩
  · rw [sixteenBytes, if_neg h]
    exact ⟨iff_of_false (show ¬noError = errorInsufficientBuffer by decide) h,
      fun hlt => absurd hlt h⟩

/-- A call of the UDP overload there. -/
def sixteenBytesCall : SizedCall where
  overload := .udp4
  object := 0
  lookup := noLookup
  m := datagram
  address := addressOf .outbound
  m_tcpHeader := none
  m_udpHeader := some 0
  ipv4Header := IPHeader.new
  ipv6Header := IPv6Header.new (fun _ => 0) fun _ => 0
  q := ⟨some [], sixteenBytes, some [], sixteenBytes⟩
  processId := 0
  processName := none
  required₁ := 16
  required₂ := 16
  asks₁ := asksFor_sixteenBytes
  asks₂ := asksFor_sixteenBytes

/-- **A buffer that is large enough, thrown away**: the first call allocates sixteen bytes,
which is what the table needs, and the second call frees them. -/
theorem not_reusesBuffers :
    ¬EveryStep (always Tables.sized) ReusesBuffer .empty [sixteenBytesCall, sixteenBytesCall] := by
  intro h
  have hsecond := h [sixteenBytesCall] sixteenBytesCall [] _ _ rfl rfl rfl
  obtain ⟨hlive, -⟩ := hsecond ⟨0, 16, []⟩ rfl (by decide)
  exact absurd hlive (by decide)

end DivertNet
