import DivertNet.Transfer

/-!
# What a pending operation needs

While an operation is pending, the driver uses what it was given: it reads or writes the
buffer, and writes the `OVERLAPPED` block and signals the event in it when it is done. So
the buffer has to stay pinned, the block allocated and as it was, and the event open:
`DivertNet.Protected`.

What keeps them so is `DivertNet.Inv`, the invariant of this file. Its heart is the field
`linked`: the pin of a pending operation is recorded in a result object only together with
its block, and with the wrapper of its event – or with a wrapper that has given its handle
up. Whoever releases one of the three therefore goes through an object that has all of
them, and can be asked whether its operation is pending.

The primitives are taken one by one: each keeps the invariant unless it touches what a
pending operation needs.

| primitive | keeps the invariant unless |
|---|---|
| writing or freeing a block | a pending operation was given the block |
| freeing a pin | it is the pin of a pending operation |
| closing a handle | it is the event of a pending operation |
| taking a signal | the event is that of a pending operation |

Everything the classes do is put together from these.
-/

namespace DivertNet

open Function

/-- **A pending operation is protected**: its buffer is pinned, its block is allocated and
holds what it held when the driver got it, and the event in it is open. -/
def Protected (w : World) (op : Operation) : Prop :=
  (∃ pin, w.native.pins pin = some op.packetBuffer) ∧
    w.native.blocks op.lpOverlapped = some op.overlapped ∧
    ∃ e, op.overlapped.hEvent = .value e ∧ w.native.events e ≠ none

/-- Every pending operation is protected. -/
def AllProtected (w : World) : Prop := ∀ i op, w.native.pending i = some op → Protected w op

/-- **The invariant of the pending operations.** -/
structure Inv (w : World) : Prop where
  operation_lt : ∀ i op, w.native.pending i = some op → i < w.native.nextOperation
  gcHandle_lt : ∀ i op, w.native.pending i = some op → op.gcHandle < w.native.nextPin
  pinned : ∀ i op, w.native.pending i = some op →
    w.native.pins op.gcHandle = some op.packetBuffer
  block : ∀ i op, w.native.pending i = some op →
    w.native.blocks op.lpOverlapped = some op.overlapped
  /-- The event is open and not signalled yet. -/
  event : ∀ i op, w.native.pending i = some op →
    ∃ e, op.overlapped.hEvent = .value e ∧ w.native.events e = some false
  /-- No two pending operations share an event. -/
  distinct : ∀ i j op op', w.native.pending i = some op → w.native.pending j = some op' →
    op.overlapped.hEvent = op'.overlapped.hEvent → i = j
  buffer_lt : ∀ r pin, (w.results r).m_buffer = some pin → pin < w.native.nextPin
  eventHandle_lt : ∀ r h, (w.results r).m_overlappedEventHandle = some h → h < w.nextHandle
  /-- A `Diversion` refers to a wrapper of a driver handle. -/
  divertHandle : ∀ d h, (w.diversions d).m_winDivertHandle = some h →
    h < w.nextHandle ∧ (w.handles h).m_fromWinDivert = true
  /-- An object that records the pin of a pending operation has its block, and a wrapper of
  its event or one without a handle. -/
  linked : ∀ i op r, w.native.pending i = some op → (w.results r).m_buffer = some op.gcHandle →
    (w.results r).m_overlapped = some op.lpOverlapped ∧
      ∃ h, (w.results r).m_overlappedEventHandle = some h ∧
        ((w.handles h).m_handle = op.overlapped.hEvent ∨ (w.handles h).m_handle = .invalid)

theorem Inv.empty : Inv World.empty := by
  constructor <;> intros <;> simp_all [World.empty, Native.empty, DivertAsyncResult.new]

/-- **The invariant protects.** -/
theorem Inv.allProtected {w : World} (inv : Inv w) : AllProtected w := by
  intro i op hop
  obtain ⟨e, he, hopen⟩ := inv.event i op hop
  exact ⟨⟨_, inv.pinned i op hop⟩, inv.block i op hop, e, he, by rw [hopen]; simp⟩

/-! ### Who uses what -/

/-- Some pending operation was given this block. -/
def BlockInUse (w : World) (a : ℕ) : Prop :=
  ∃ i op, w.native.pending i = some op ∧ op.lpOverlapped = a

/-- Some pending operation signals this handle when it is done. -/
def EventInUse (w : World) (h : Handle) : Prop :=
  ∃ i op, w.native.pending i = some op ∧ op.overlapped.hEvent = h

/-- Some pending operation was started under this pin. -/
def PinInUse (w : World) (pin : ℕ) : Prop :=
  ∃ i op, w.native.pending i = some op ∧ op.gcHandle = pin

section Primitives

variable {w : World}

/-- A signalled event is that of no pending operation. -/
theorem Inv.not_eventInUse_of_signalled (inv : Inv w) {e : ℕ} (h : w.native.events e ≠ some false) :
    ¬EventInUse w (.value e) := by
  rintro ⟨i, op, hop, he⟩
  obtain ⟨e', he', hev⟩ := inv.event i op hop
  rw [he] at he'
  exact h (Handle.value.inj he' ▸ hev)

/-- An object whose block is not in use records no pin that is. -/
theorem Inv.not_pinInUse_of_block (inv : Inv w) {r a pin : ℕ}
    (ha : (w.results r).m_overlapped = some a) (huse : ¬BlockInUse w a)
    (hbuf : (w.results r).m_buffer = some pin) : ¬PinInUse w pin := by
  rintro ⟨i, op, hop, rfl⟩
  obtain ⟨hblk, -⟩ := inv.linked i op r hop hbuf
  exact huse ⟨i, op, hop, Option.some.inj (hblk.symm.trans ha)⟩

/-- An object whose event is not in use, though its wrapper has a handle, records no pin
that is. -/
theorem Inv.not_pinInUse_of_event (inv : Inv w) {r h pin : ℕ}
    (hh : (w.results r).m_overlappedEventHandle = some h)
    (hvalid : (w.handles h).m_handle ≠ .invalid) (huse : ¬EventInUse w (w.handles h).m_handle)
    (hbuf : (w.results r).m_buffer = some pin) : ¬PinInUse w pin := by
  rintro ⟨i, op, hop, rfl⟩
  obtain ⟨-, h', hh', hev⟩ := inv.linked i op r hop hbuf
  obtain rfl : h = h' := Option.some.inj (hh.symm.trans hh')
  -- the wrapper holds the event of the operation, or has given its handle up
  rcases hev with hev | hev
  · exact huse ⟨i, op, hop, hev.symm⟩
  · exact hvalid hev

/-- Making a note of a call. -/
theorem Inv.log (inv : Inv w) (l : List NativeCall) :
    Inv (w.onNative fun n => { n with log := l }) := { inv with }

/-- Changing a result object, to one whose references are in range and which records the pin
of a pending operation only together with its block and its event. -/
theorem Inv.setResult (inv : Inv w) (r : ℕ) (o : DivertAsyncResult)
    (hbuf : ∀ pin, o.m_buffer = some pin → pin < w.native.nextPin)
    (hevent : ∀ h, o.m_overlappedEventHandle = some h → h < w.nextHandle)
    (hlinked : ∀ i op, w.native.pending i = some op → o.m_buffer = some op.gcHandle →
      o.m_overlapped = some op.lpOverlapped ∧ ∃ h, o.m_overlappedEventHandle = some h ∧
        ((w.handles h).m_handle = op.overlapped.hEvent ∨ (w.handles h).m_handle = .invalid)) :
    Inv { w with results := update w.results r o } := by
  refine { inv with buffer_lt := ?_, eventHandle_lt := ?_, linked := ?_ }
  · intro r' pin h
    rcases eq_or_ne r' r with rfl | hne
    · exact hbuf pin (by simpa using h)
    · exact inv.buffer_lt r' pin (by simpa [hne] using h)
  · intro r' h hh
    rcases eq_or_ne r' r with rfl | hne
    · exact hevent h (by simpa using hh)
    · exact inv.eventHandle_lt r' h (by simpa [hne] using hh)
  · intro i op r' hop hb
    rcases eq_or_ne r' r with rfl | hne
    · simp only [update_self] at hb ⊢
      exact hlinked i op hop hb
    · simp only [update_of_ne hne] at hb ⊢
      exact inv.linked i op r' hop hb

/-- Changing fields of a result object other than its references. -/
theorem Inv.modify (inv : Inv w) (r : ℕ) (f : DivertAsyncResult → DivertAsyncResult)
    (hblock : ∀ o, (f o).m_overlapped = o.m_overlapped := by exact fun _ => rfl)
    (hbuf : ∀ o, (f o).m_buffer = o.m_buffer := by exact fun _ => rfl)
    (hevent : ∀ o, (f o).m_overlappedEventHandle = o.m_overlappedEventHandle := by
      exact fun _ => rfl) :
    Inv (w.modify r f) := by
  refine inv.setResult r (f (w.results r)) ?_ ?_ ?_
  · exact fun pin h => inv.buffer_lt r pin (hbuf _ ▸ h)
  · exact fun h hh => inv.eventHandle_lt r h (hevent _ ▸ hh)
  · intro i op hop hb
    rw [hblock, hevent]
    exact inv.linked i op r hop (hbuf _ ▸ hb)

/-- Wrapping a handle. -/
theorem Inv.newHandle (inv : Inv w) (o : DivertHandle) : Inv (w.newHandle o) := by
  have hold : ∀ h, h < w.nextHandle → (w.newHandle o).handles h = w.handles h :=
    fun h hlt => update_of_ne hlt.ne _ _
  refine { inv with eventHandle_lt := ?_, divertHandle := ?_, linked := ?_ }
  · exact fun r h hh => Nat.lt_succ_of_lt (inv.eventHandle_lt r h hh)
  · intro d h hd
    obtain ⟨hlt, hfrom⟩ := inv.divertHandle d h hd
    exact ⟨Nat.lt_succ_of_lt hlt, by rw [hold h hlt]; exact hfrom⟩
  · intro i op r hop hb
    obtain ⟨hblk, h, hh, hev⟩ := inv.linked i op r hop hb
    exact ⟨hblk, h, hh, by rw [hold h (inv.eventHandle_lt r h hh)]; exact hev⟩

/-- Pinning a buffer. -/
theorem Inv.gcAlloc (inv : Inv w) (ref : ℕ) : Inv (w.onNative (.gcAlloc ref)) := by
  refine { inv with gcHandle_lt := ?_, pinned := ?_, buffer_lt := ?_ }
  · exact fun i op hop => Nat.lt_succ_of_lt (inv.gcHandle_lt i op hop)
  · intro i op hop
    have hne : op.gcHandle ≠ w.native.nextPin := (inv.gcHandle_lt i op hop).ne
    exact (update_of_ne hne _ _).trans (inv.pinned i op hop)
  · exact fun r pin h => Nat.lt_succ_of_lt (inv.buffer_lt r pin h)

/-- Changing a block that is not in use, whatever becomes of it. -/
theorem Inv.setBlock (inv : Inv w) {a : ℕ} (huse : ¬BlockInUse w a) (o : Option Overlapped) :
    Inv (w.onNative fun n => { n with blocks := update n.blocks a o }) := by
  -- only the field about blocks can break
  refine { inv with block := fun i op hop => ?_ }
  have hne : op.lpOverlapped ≠ a := fun he => huse ⟨i, op, hop, he⟩
  exact (update_of_ne hne _ _).trans (inv.block i op hop)

/-- Changing the state of an event that is not in use. -/
theorem Inv.setEvent (inv : Inv w) {e : ℕ} (huse : ¬EventInUse w (.value e)) (v : Option Bool) :
    Inv (w.onNative fun n => { n with events := update n.events e v }) := by
  refine { inv with event := fun i op hop => ?_ }
  obtain ⟨e', he', hev⟩ := inv.event i op hop
  have hne : e' ≠ e := fun he => huse ⟨i, op, hop, he ▸ he'⟩
  exact ⟨e', he', (update_of_ne hne _ _).trans hev⟩

/-- Signalling a handle that is not in use. -/
theorem Inv.signal (inv : Inv w) {h : Handle} (huse : ¬EventInUse w h) :
    Inv (w.onNative (.signal h)) := by
  cases h with
  | null => exact inv
  | invalid => exact inv
  | value e => exact inv.setEvent huse _

/-- Taking the signal of a handle that is not in use. -/
theorem Inv.consume (inv : Inv w) {h : Handle} (huse : ¬EventInUse w h) :
    Inv (w.onNative (DivertAsyncResult.consume h)) := by
  cases h with
  | null => exact inv
  | invalid => exact inv
  | value e => exact inv.setEvent huse _

/-- Making a wrapper give up its handle. -/
theorem Inv.giveUp (inv : Inv w) (h : ℕ) :
    Inv { w with handles := update w.handles h { w.handles h with m_handle := .invalid } } := by
  refine { inv with divertHandle := fun d h' hd => ?_, linked := fun i op r hop hbuf => ?_ }
  · obtain ⟨hlt, hfrom⟩ := inv.divertHandle d h' hd
    refine ⟨hlt, ?_⟩
    rcases eq_or_ne h' h with rfl | hne
    · simpa using hfrom
    · simpa [hne] using hfrom
  · obtain ⟨hblk, h', hh', hev⟩ := inv.linked i op r hop hbuf
    refine ⟨hblk, h', hh', ?_⟩
    rcases eq_or_ne h' h with rfl | hne
    · exact Or.inr (by simp)
    · simpa [hne] using hev

/-- Closing a native handle, of either kind. -/
theorem Inv.closeNative (inv : Inv w) {h : Handle} {fromWinDivert closed : Bool}
    (huse : fromWinDivert = false → closed = true → ¬EventInUse w h) :
    Inv (w.onNative fun n =>
      if fromWinDivert then n.winDivertClose h closed else n.closeHandle h closed) := by
  cases fromWinDivert with
  | true =>
    cases h <;> cases closed <;> exact { inv with }
  | false =>
    cases closed with
    | false => cases h <;> exact { inv with }
    | true =>
      cases h with
      | null => exact { inv with }
      | invalid => exact { inv with }
      | value e =>
        have hlog := inv.log (w.native.log ++ [.closeHandle (.value e) true])
        exact hlog.setEvent (huse rfl rfl) none

/-- **Closing a wrapper** whose handle is not an event in use, or whose close fails. -/
theorem Inv.close (inv : Inv w) {h : ℕ} {closed : Bool}
    (huse : (w.handles h).m_fromWinDivert = false → closed = true →
      ¬EventInUse w (w.handles h).m_handle) : Inv (DivertHandle.close h closed w).1 := by
  rw [DivertHandle.close]
  by_cases hvalid : (w.handles h).valid = true
  · simp only [hvalid, if_true]
    have hnative := inv.closeNative huse
    cases closed with
    | true => exact hnative.giveUp h
    | false =>
      simp only [Bool.false_eq_true, if_false, update_eq_self]
      exact hnative
  · simp only [hvalid, Bool.false_eq_true, if_false]
    exact inv

/-- **Finalizing a wrapper**, under the same condition. -/
theorem Inv.finalizeHandle (inv : Inv w) {h : ℕ} {closed : Bool}
    (huse : (w.handles h).m_fromWinDivert = false → closed = true →
      ¬EventInUse w (w.handles h).m_handle) : Inv (DivertHandle.finalizer h closed w) :=
  (inv.close huse).giveUp h

/-- Releasing a pin that is not in use. -/
theorem Inv.gcFree (inv : Inv w) {pin : ℕ} (huse : ¬PinInUse w pin) :
    Inv (w.onNative (.gcFree pin)) := by
  refine { inv with pinned := fun i op hop => ?_ }
  have hne : op.gcHandle ≠ pin := fun he => huse ⟨i, op, hop, he⟩
  exact (update_of_ne hne _ _).trans (inv.pinned i op hop)

/-- Releasing the buffer of a result object, if its pin is not in use. -/
theorem Inv.freeBuffer (inv : Inv w) {r : ℕ}
    (huse : ∀ pin, (w.results r).m_buffer = some pin → ¬PinInUse w pin) :
    Inv (DivertAsyncResult.freeBuffer r w) := by
  rw [DivertAsyncResult.freeBuffer]
  cases hbuf : (w.results r).m_buffer with
  | none => exact inv
  | some pin =>
    refine (inv.gcFree (huse pin hbuf)).setResult r { w.results r with m_buffer := none }
      ?_ (inv.eventHandle_lt r) ?_
    · rintro _ h
      exact absurd h (Option.some_ne_none _).symm
    · rintro _ _ _ h
      exact absurd h (Option.some_ne_none _).symm

end Primitives

/-! ### Starting an operation -/

section Start

variable {w : World} {d r a e : ℕ}

/-- **Getting ready for a request**, where the block of the result object is not in use: the
object lets go of what it recorded before, which no pending operation needs. -/
theorem Inv.prepared (inv : Inv w) (d ref : ℕ) (ha : (w.results r).m_overlapped = some a)
    (huse : ¬BlockInUse w a) (he : w.native.events e = none) : Inv (prepared d r ref a e w) := by
  have hnew : ¬EventInUse w (.value e) := inv.not_eventInUse_of_signalled (by rw [he]; simp)
  have hnative := ((inv.gcAlloc ref).setEvent hnew (some false)).setBlock huse
    ((w.native.blocks a).map fun o => ⟨.value e, o.writes + 2⟩)
  have hresult := (hnative.newHandle ⟨.value e, false⟩).setResult r
    ⟨some a, (w.diversions d).m_winDivertHandle, some w.nextHandle, 0, true, 0,
      some w.native.nextPin⟩ ?_ ?_ ?_
  · simpa [DivertNet.prepared, DivertAsyncResult.ready, World.modify, World.onNative,
      World.newHandle, Native.gcAlloc, ha] using hresult
  · rintro pin h
    exact Option.some.inj h ▸ Nat.lt_succ_self _
  · rintro h hh
    exact Option.some.inj hh ▸ Nat.lt_succ_self _
  · intro i op hop hb
    -- the pin is new, so no operation was started under it
    exact absurd (Option.some.inj hb).symm (inv.gcHandle_lt i op hop).ne

/-- **A new pending operation**, whose resources are there, whose event no other one has,
and whose pin is recorded only with its block and its event. -/
theorem Inv.enqueue (inv : Inv w) (op : Operation)
    (hpinned : w.native.pins op.gcHandle = some op.packetBuffer)
    (hlt : op.gcHandle < w.native.nextPin)
    (hblock : w.native.blocks op.lpOverlapped = some op.overlapped)
    (he : op.overlapped.hEvent = .value e) (hev : w.native.events e = some false)
    (hfree : ¬EventInUse w (.value e))
    (hlinked : ∀ r, (w.results r).m_buffer = some op.gcHandle →
      (w.results r).m_overlapped = some op.lpOverlapped ∧
        ∃ h, (w.results r).m_overlappedEventHandle = some h ∧ (w.handles h).m_handle = .value e) :
    Inv (w.onNative fun n => { n with
      pending := update n.pending n.nextOperation (some op)
      nextOperation := n.nextOperation + 1 }) := by
  -- an operation is the new one or one of the old ones
  have hcases : ∀ i op', update w.native.pending w.native.nextOperation (some op) i = some op' →
      (i = w.native.nextOperation ∧ op' = op) ∨ w.native.pending i = some op' := by
    intro i op' hop
    rcases eq_or_ne i w.native.nextOperation with rfl | hne
    · rw [update_self] at hop
      exact Or.inl ⟨rfl, (Option.some.inj hop).symm⟩
    · rw [update_of_ne hne] at hop
      exact Or.inr hop
  refine { inv with operation_lt := ?_, gcHandle_lt := ?_, pinned := ?_, block := ?_, event := ?_,
                    distinct := ?_, linked := ?_ }
  · intro i op' hop
    rcases hcases i op' hop with ⟨rfl, -⟩ | hop
    · exact Nat.lt_succ_self _
    · exact Nat.lt_succ_of_lt (inv.operation_lt i op' hop)
  · intro i op' hop
    rcases hcases i op' hop with ⟨-, rfl⟩ | hop
    · exact hlt
    · exact inv.gcHandle_lt i op' hop
  · intro i op' hop
    rcases hcases i op' hop with ⟨-, rfl⟩ | hop
    · exact hpinned
    · exact inv.pinned i op' hop
  · intro i op' hop
    rcases hcases i op' hop with ⟨-, rfl⟩ | hop
    · exact hblock
    · exact inv.block i op' hop
  · intro i op' hop
    rcases hcases i op' hop with ⟨-, rfl⟩ | hop
    · exact ⟨e, he, hev⟩
    · exact inv.event i op' hop
  · intro i j op₁ op₂ hop₁ hop₂ heq
    rcases hcases i op₁ hop₁ with ⟨hi, h₁⟩ | hold₁ <;>
      rcases hcases j op₂ hop₂ with ⟨hj, h₂⟩ | hold₂
    · exact hi.trans hj.symm
    · exact absurd ⟨j, op₂, hold₂, (h₁ ▸ heq.symm).trans he⟩ hfree
    · exact absurd ⟨i, op₁, hold₁, (h₂ ▸ heq).trans he⟩ hfree
    · exact inv.distinct i j op₁ op₂ hold₁ hold₂ heq
  · intro i op' r hop hb
    rcases hcases i op' hop with ⟨-, rfl⟩ | hop
    · obtain ⟨hov, h, hh, hhe⟩ := hlinked r hb
      exact ⟨hov, h, hh, Or.inl (hhe.trans he.symm)⟩
    · exact inv.linked i op' r hop hb

/-- **A request**, whether the driver keeps it or not. -/
theorem Inv.submit (inv : Inv w) {c : DriverCall} {pin : ℕ} {reply : DriverReply}
    (ha : c.lpOverlapped = some a) (hpin : w.native.pins pin = some c.buffer.ref)
    (hlt : pin < w.native.nextPin) (hfree : ¬EventInUse w (.value e))
    (hev : w.native.events e = some false)
    (hblk : ∀ o, w.native.blocks a = some o → o.hEvent = .value e)
    (hlive : reply.Pending → w.native.blocks a ≠ none)
    (hlinked : ∀ r, (w.results r).m_buffer = some pin → (w.results r).m_overlapped = some a ∧
      ∃ h, (w.results r).m_overlappedEventHandle = some h ∧ (w.handles h).m_handle = .value e) :
    Inv (w.onNative (.submit c pin reply)) := by
  -- the request is logged first; then the driver keeps it, signals, or does nothing
  have hlog := inv.log (w.native.log ++ [.transfer c])
  by_cases hpend : reply.Pending
  · obtain ⟨o, ho⟩ := Option.ne_none_iff_exists'.mp (hlive hpend)
    have hsub : w.onNative (.submit c pin reply) =
        ((w.onNative fun n => { n with log := w.native.log ++ [.transfer c] }).onNative fun n =>
          { n with
            pending := update n.pending n.nextOperation (some ⟨c.buffer.ref, pin, a, o⟩)
            nextOperation := n.nextOperation + 1 }) := by
      simp [World.onNative, Native.submit, Native.record, ha, ho, hpend]
    rw [hsub]
    exact hlog.enqueue ⟨c.buffer.ref, pin, a, o⟩ hpin hlt ho (hblk o ho) hev hfree hlinked
  · have hsub : w.onNative (.submit c pin reply) = if reply.signals then
        (w.onNative fun n => { n with log := w.native.log ++ [.transfer c] }).onNative
          (.signal ((w.native.blocks a).getD ⟨.null, 0⟩).hEvent)
        else w.onNative fun n => { n with log := w.native.log ++ [.transfer c] } := by
      simp only [World.onNative, Native.submit, Native.record, ha, hpend, if_false]
      split <;> rfl
    rw [hsub]
    cases reply.signals with
    | false => exact hlog
    | true =>
      refine hlog.signal ?_
      cases ho : w.native.blocks a with
      | none =>
        rintro ⟨i, op, hop, heq⟩
        obtain ⟨e', he', -⟩ := inv.event i op hop
        cases he'.symm.trans heq
      | some o => exact (hblk o ho) ▸ hfree

/-- Putting the answer into the result object. -/
theorem Inv.answered (inv : Inv w) (r : ℕ) (reply : DriverReply) : Inv (answered r reply w) := by
  rw [DivertNet.answered]
  split
  · split
    · exact inv.modify r fun o => { o with m_errorCode := reply.lastError, m_noError := false }
    · exact inv
  · exact inv.modify r fun o => { o with m_ioLength := reply.length.getD 0 }

/-- **A start with a result object** whose block is not in use, and is there if the
operation is to go on. -/
theorem Inv.startWithResult (inv : Inv w) (api : DriverApi) (resetFailed pinFailed : String)
    {packetBuffer : ManagedArray} {address : Option Address} {reply : TransferReply}
    (hfresh : ∀ e, reply.createEvent = .ok e → w.native.events e = none)
    (huse : ∀ a, (w.results r).m_overlapped = some a → ¬BlockInUse w a)
    (hlive : Reaches d packetBuffer address r reply w → reply.driver.Pending →
      ∀ a, (w.results r).m_overlapped = some a → w.native.blocks a ≠ none) :
    Inv (startWithResult api resetFailed pinFailed d packetBuffer address r reply w).1 := by
  cases ha : (w.results r).m_overlapped with
  | none =>
    rw [startWithResult_null ha]
    exact inv.gcAlloc _
  | some a =>
    have huse := huse a ha
    cases he : reply.createEvent with
    | error lastError =>
      -- block and object are cleared before the event is asked for
      rw [startWithResult_failed ha he]
      have hcleared := (inv.gcAlloc packetBuffer.ref).setBlock huse
        ((w.native.blocks a).map fun o => ⟨.null, o.writes + 1⟩)
      exact (hcleared.modify r fun o =>
        { o with m_noError := true, m_errorCode := 0, m_ioLength := 0 }).modify r fun o =>
          { o with m_errorCode := lastError }
    | ok e =>
      have hnew : w.native.events e = none := hfresh e he
      have hready := inv.prepared d packetBuffer.ref ha huse hnew
      rcases startWithResult_prepared api resetFailed pinFailed d packetBuffer address ha he with
        ⟨hreq, i, addr, -, hstart⟩ | ⟨-, ex, hstart⟩
      · have hreach : Reaches d packetBuffer address r reply w :=
          ⟨by rw [ha]; exact Option.some_ne_none a, ⟨e, he⟩, hreq⟩
        rw [hstart]
        have hpin : (DivertNet.prepared d r packetBuffer.ref a e w).native.pins w.native.nextPin =
          some packetBuffer.ref := update_self ..
        have hev : (DivertNet.prepared d r packetBuffer.ref a e w).native.events e = some false :=
          update_self ..
        have hblk : (DivertNet.prepared d r packetBuffer.ref a e w).native.blocks a =
          (w.native.blocks a).map fun o => ⟨.value e, o.writes + 2⟩ := update_self ..
        have hhandle : (DivertNet.prepared d r packetBuffer.ref a e w).handles w.nextHandle =
          ⟨.value e, false⟩ := update_self ..
        refine (hready.submit rfl hpin (Nat.lt_succ_self _) ?_ hev ?_ ?_ ?_).answered r reply.driver
        · exact inv.not_eventInUse_of_signalled (by rw [hnew]; simp)
        · intro o ho
          rw [hblk, Option.map_eq_some_iff] at ho
          obtain ⟨o', -, rfl⟩ := ho
          rfl
        · intro hpend hnone
          rw [hblk, Option.map_eq_none_iff] at hnone
          exact hlive hreach hpend a ha hnone
        · intro r' hb
          rcases eq_or_ne r' r with rfl | hne
          · refine ⟨?_, w.nextHandle, ?_, congrArg DivertHandle.m_handle hhandle⟩
            · simp [DivertNet.prepared, DivertAsyncResult.ready, World.modify, World.onNative, ha]
            · simp [DivertNet.prepared, DivertAsyncResult.ready, World.modify, World.onNative]
          · have hres : (DivertNet.prepared d r packetBuffer.ref a e w).results r' =
                w.results r' := by
              simp [DivertNet.prepared, DivertAsyncResult.ready, World.modify, World.onNative, hne]
            rw [hres] at hb
            exact absurd (inv.buffer_lt r' _ hb) (lt_irrefl _)
      · rw [hstart]
        exact hready

end Start

/-! ### Getting, giving back, completing -/

section Others

variable {w : World}

/-- The event `Get` waits on is the one of the object's wrapper, which has it. -/
theorem waitable_eq_some {r h : ℕ} {event driver : Handle}
    (hwait : DivertAsyncResult.waitable r w = some (h, event, driver)) :
    (w.results r).m_overlappedEventHandle = some h ∧ (w.handles h).m_handle = event ∧
      event ≠ .invalid ∧ ∃ e, event = .value e := by
  rw [DivertAsyncResult.waitable] at hwait
  split at hwait
  · rename_i h' d hh hd
    simp only at hwait
    split at hwait
    · rename_i husable
      obtain ⟨rfl, rfl, rfl⟩ : h' = h ∧ (w.handles h').m_handle = event ∧
          (w.handles d).m_handle = driver := by simpa using hwait
      refine ⟨hh, rfl, husable.2.1, ?_⟩
      cases hev : (w.handles h').m_handle with
      | null => exact absurd hev husable.1
      | invalid => exact absurd hev husable.2.1
      | value e => exact ⟨e, rfl⟩
    · cases hwait
  · cases hwait

/-- **The end of a `Get`**: the wrapper of an event that is not in use is closed, and the
pin of the object is released. -/
theorem Inv.endGet (inv : Inv w) {r h : ℕ} {closed : Bool}
    (hh : (w.results r).m_overlappedEventHandle = some h)
    (hvalid : (w.handles h).m_handle ≠ .invalid) (huse : ¬EventInUse w (w.handles h).m_handle) :
    Inv (DivertAsyncResult.freeBuffer r (DivertHandle.close h closed w).1) := by
  obtain ⟨_, _, _, _, hclose⟩ := DivertHandle.close_eq h closed w
  refine (inv.close fun _ _ => huse).freeBuffer fun pin hbuf => ?_
  rw [DivertHandle.close_results] at hbuf
  rintro ⟨i, op, hop, he⟩
  rw [hclose] at hop
  exact inv.not_pinInUse_of_event hh hvalid huse hbuf ⟨i, op, hop, he⟩

/-- **`Get`**, with whatever outcome the wait can have. -/
theorem Inv.get (inv : Inv w) {r : ℕ} {reply : GetReply}
    (hwait : ∀ h event driver, DivertAsyncResult.waitable r w = some (h, event, driver) →
      waitPossible reply.wait event w.native = true) : Inv (DivertAsyncResult.get r reply w).1 := by
  rw [DivertAsyncResult.get]
  cases hw : DivertAsyncResult.waitable r w with
  | none => exact inv.modify r fun o => { o with m_noError := false }
  | some x =>
    obtain ⟨h, event, driver⟩ := x
    have hlog := inv.log (w.native.log ++ [.waitForSingleObject event])
    cases hout : reply.wait with
    | timeout =>
      exact hlog.modify r fun o => { o with m_noError := false, m_errorCode := reply.waitError }
    | failed => exact hlog.modify r fun o => { o with m_noError := false }
    | object0 =>
      obtain ⟨hh, hhandle, hvalid, e, rfl⟩ := waitable_eq_some hw
      -- the event is signalled, so no pending operation has it
      have hsig : w.native.events e = some true := by
        have hpossible := hwait h (.value e) driver hw
        rw [hout] at hpossible
        exact beq_iff_eq.mp hpossible
      have huse : ¬EventInUse w (.value e) :=
        inv.not_eventInUse_of_signalled (by rw [hsig]; simp)
      have hwoken := (hlog.modify r fun o => { o with m_noError := true }).consume huse
      have hasked := hwoken.log (w.native.log ++ [.waitForSingleObject (.value e)] ++
        [.getOverlappedResult driver (w.results r).m_overlapped])
      have husable : (w.handles h).m_handle ≠ .invalid := by rw [hhandle]; exact hvalid
      have huse' : ¬EventInUse w (w.handles h).m_handle := by rw [hhandle]; exact huse
      cases hres : reply.overlappedResult with
      | error lastError =>
        refine (hasked.modify r fun o =>
          { o with m_errorCode := lastError, m_noError := false }).endGet ?_ husable huse'
        simp [World.modify, World.onNative, hh]
      | ok ioLength =>
        refine (hasked.modify r fun o => { o with m_ioLength := ioLength }).endGet ?_ husable huse'
        simp [World.modify, World.onNative, hh]

/-- **Disposing of or finalizing a result object** whose block is not in use. -/
theorem Inv.finalizer (inv : Inv w) {r : ℕ}
    (huse : ∀ a, (w.results r).m_overlapped = some a → ¬BlockInUse w a) :
    Inv (DivertAsyncResult.finalizer r w) := by
  have hfree : Inv (DivertAsyncResult.freeBuffer r w) := by
    refine inv.freeBuffer fun pin hbuf => ?_
    cases ha : (w.results r).m_overlapped with
    | some a => exact inv.not_pinInUse_of_block ha (huse a ha) hbuf
    | none =>
      rintro ⟨i, op, hop, rfl⟩
      cases ha.symm.trans (inv.linked i op r hop hbuf).1
  rw [DivertAsyncResult.finalizer]
  simp only [DivertAsyncResult.freeBuffer_overlapped]
  cases ha : (w.results r).m_overlapped with
  | none => exact hfree
  | some a =>
    refine hfree.setBlock ?_ none
    rintro ⟨i, op, hop, he⟩
    rw [DivertAsyncResult.freeBuffer_pending] at hop
    exact huse a ha ⟨i, op, hop, he⟩

/-- **Closing or disposing of a `Diversion`** closes no event. -/
theorem Inv.diversion (inv : Inv w) {d h : ℕ} {closed : Bool}
    (hd : (w.diversions d).m_winDivertHandle = some h) :
    Inv (DivertHandle.close h closed w).1 ∧ Inv (DivertHandle.finalizer h closed w) := by
  have hfrom : (w.handles h).m_fromWinDivert ≠ false := by
    rw [(inv.divertHandle d h hd).2]
    decide
  exact ⟨inv.close fun hfalse => absurd hfalse hfrom,
    inv.finalizeHandle fun hfalse => absurd hfalse hfrom⟩

/-- **The driver completes an operation.** -/
theorem Inv.complete (inv : Inv w) {i : ℕ} {op : Operation}
    (hop : w.native.pending i = some op) : Inv (w.onNative (.complete i op)) := by
  have hold : ∀ j op', update w.native.pending i none j = some op' →
      j ≠ i ∧ w.native.pending j = some op' := by
    intro j op' h
    rcases eq_or_ne j i with rfl | hne
    · rw [update_self] at h
      cases h
    · exact ⟨hne, (update_of_ne hne _ _).symm.trans h⟩
  -- the operation is removed first, so that its event is no longer in use
  have hremoved : Inv (w.onNative fun n => { n with pending := update n.pending i none }) :=
    { inv with
      operation_lt := fun j op' h => inv.operation_lt j op' (hold j op' h).2
      gcHandle_lt := fun j op' h => inv.gcHandle_lt j op' (hold j op' h).2
      pinned := fun j op' h => inv.pinned j op' (hold j op' h).2
      block := fun j op' h => inv.block j op' (hold j op' h).2
      event := fun j op' h => inv.event j op' (hold j op' h).2
      distinct := fun j k op₁ op₂ h₁ h₂ =>
        inv.distinct j k op₁ op₂ (hold j op₁ h₁).2 (hold k op₂ h₂).2
      linked := fun j op' r h => inv.linked j op' r (hold j op' h).2 }
  refine hremoved.signal ?_
  rintro ⟨j, op', h, he⟩
  obtain ⟨hne, hj⟩ := hold j op' h
  exact hne (inv.distinct j i op' op hj hop he)

/-- Opening a `Diversion`. -/
theorem Inv.opened (inv : Inv w) (v : ℕ) : Inv (Diversion.opened v w) := by
  have hwrapped := inv.newHandle ⟨.value v, true⟩
  refine { hwrapped with divertHandle := fun d h hd => ?_ }
  rcases eq_or_ne d w.nextDiversion with rfl | hne
  · have hnew : (Diversion.opened v w).diversions w.nextDiversion = ⟨some w.nextHandle⟩ :=
      update_self ..
    rw [hnew] at hd
    obtain rfl : w.nextHandle = h := Option.some.inj hd
    have hwrapper : (Diversion.opened v w).handles w.nextHandle = ⟨.value v, true⟩ :=
      update_self ..
    exact ⟨Nat.lt_succ_self _, by rw [hwrapper]⟩
  · have hother : (Diversion.opened v w).diversions d = w.diversions d := update_of_ne hne _ _
    rw [hother] at hd
    exact hwrapped.divertHandle d h hd

/-- Constructing a result object in a block that was free. -/
theorem Inv.construct (inv : Inv w) {malloc : Option ℕ}
    (hfree : ∀ a, malloc = some a → w.native.blocks a = none) :
    Inv (DivertAsyncResult.construct malloc w) := by
  have hmalloc : Inv (w.onNative (.malloc malloc)) := by
    cases malloc with
    | none => exact inv
    | some a =>
      refine inv.setBlock ?_ (some ⟨.null, 0⟩)
      rintro ⟨i, op, hop, rfl⟩
      cases (hfree _ rfl).symm.trans (inv.block i op hop)
  have hnew := hmalloc.setResult w.nextResult (.new malloc) (fun pin h => nomatch h)
    (fun h hh => nomatch hh) fun i op _ hb => nomatch hb
  exact { hnew with }

end Others

end DivertNet
