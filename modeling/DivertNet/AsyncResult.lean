import DivertNet.NativeState

/-!
# `DivertHandle`, `Diversion` and `DivertAsyncResult`

The three classes that own native handles. A `DivertHandle` wraps one handle and closes it
at most once; a `Diversion` refers to the wrapper of its driver handle; a
`DivertAsyncResult` carries everything an overlapped operation needs while it is pending:
the `OVERLAPPED` block, the wrapper of the event in it, the wrapper of the driver handle,
and the pin of the buffer.

Objects refer to each other, so they live in a `DivertNet.World`, under the numbers `gcnew`
gives them. What a method gets back from the system is an argument of its model: the
outcome of a `CloseHandle`, of a `CreateEvent`, of a wait.
-/

namespace DivertNet

open Function

/-! ### The objects -/

/-- A `DivertHandle` object. -/
structure DivertHandle where
  m_handle : Handle
  m_fromWinDivert : Bool
  deriving DecidableEq, Repr

/-- `DivertHandle::Valid`. -/
def DivertHandle.valid (h : DivertHandle) : Bool := h.m_handle != .invalid

/-- A `Diversion` object: the wrapper of its handle. -/
structure Diversion where
  m_winDivertHandle : Option ℕ
  deriving DecidableEq, Repr

/-- A `DivertAsyncResult` object. -/
structure DivertAsyncResult where
  m_overlapped : Option ℕ
  m_winDivertHandle : Option ℕ
  m_overlappedEventHandle : Option ℕ
  m_errorCode : BitVec 32
  m_noError : Bool
  m_ioLength : BitVec 32
  m_buffer : Option ℕ
  deriving DecidableEq, Repr

/-- The constructor with `Init()`: the block, if the allocation succeeded, and nothing
else. -/
def DivertAsyncResult.new (malloc : Option ℕ) : DivertAsyncResult where
  m_overlapped := malloc
  m_winDivertHandle := none
  m_overlappedEventHandle := none
  m_errorCode := 0
  m_noError := false
  m_ioLength := 0
  m_buffer := none

/-- **The world of the wrapper**: the native state, and the objects of the three classes
with the next number of each. -/
structure World where
  native : Native
  handles : ℕ → DivertHandle
  nextHandle : ℕ
  diversions : ℕ → Diversion
  nextDiversion : ℕ
  results : ℕ → DivertAsyncResult
  nextResult : ℕ

namespace World

/-- No object yet. -/
def empty : World where
  native := .empty
  handles _ := ⟨.invalid, false⟩
  nextHandle := 0
  diversions _ := ⟨none⟩
  nextDiversion := 0
  results _ := .new none
  nextResult := 0

/-- Changing an object of the class `DivertAsyncResult`. -/
def modify (r : ℕ) (f : DivertAsyncResult → DivertAsyncResult) (w : World) : World :=
  { w with results := update w.results r (f (w.results r)) }

/-- Changing the native state. -/
def onNative (f : Native → Native) (w : World) : World := { w with native := f w.native }

/-- `gcnew DivertHandle(handle, fromWinDivert)`; its number is the old `nextHandle`. -/
def newHandle (h : DivertHandle) (w : World) : World :=
  { w with handles := update w.handles w.nextHandle h, nextHandle := w.nextHandle + 1 }

/-- `UnmanagedHandle` of a reference that may be null. -/
def unmanagedHandle (h : Option ℕ) (w : World) : Option Handle :=
  h.map fun i => (w.handles i).m_handle

end World

/-! ### `DivertHandle` -/

namespace DivertHandle

/-- `DivertHandle::Close`, which closes with the function that matches the way the handle
was opened, and forgets the handle once it is closed. -/
def close (h : ℕ) (closed : Bool) (w : World) : World × Bool :=
  let o := w.handles h
  if o.valid then
    -- a handle is forgotten only where the close succeeds
    let native := if o.m_fromWinDivert then w.native.winDivertClose o.m_handle closed
      else w.native.closeHandle o.m_handle closed
    let o := if closed then { o with m_handle := .invalid } else o
    ({ w with native := native, handles := update w.handles h o }, closed)
  else (w, false)

/-- **What a close can change**: the open handles, the log, and the wrappers. -/
theorem close_eq (h : ℕ) (closed : Bool) (w : World) :
    ∃ events drivers log handles, (close h closed w).1 =
      { w with
        native := { w.native with events := events, drivers := drivers, log := log }
        handles := handles } := by
  rw [close]
  simp only
  split
  · cases (w.handles h).m_fromWinDivert <;> cases (w.handles h).m_handle <;> cases closed <;>
      exact ⟨_, _, _, _, rfl⟩
  · exact ⟨_, _, _, _, rfl⟩

/-- The native call a close makes: the one that matches the way the handle was opened. -/
def closing (o : DivertHandle) (closed : Bool) : NativeCall :=
  if o.m_fromWinDivert then .winDivertClose o.m_handle closed else .closeHandle o.m_handle closed

/-- **A close of a usable handle** makes that call, and the wrapper forgets its handle if the
call succeeds. -/
theorem close_of_valid {h : ℕ} {w : World} (hvalid : (w.handles h).valid = true) (closed : Bool) :
    ∃ native, native.log = w.native.log ++ [(w.handles h).closing closed] ∧
      (close h closed w).1 =
        { w with
          native := native
          handles := update w.handles h
            (if closed then { w.handles h with m_handle := .invalid } else w.handles h) } := by
  rw [close, closing]
  simp only [hvalid, if_true]
  refine ⟨_, ?_, rfl⟩
  cases (w.handles h).m_fromWinDivert <;> cases (w.handles h).m_handle <;> cases closed <;> rfl

/-- A close of any other does nothing. -/
theorem close_of_not_valid {h : ℕ} {w : World} (hvalid : ¬(w.handles h).valid = true)
    (closed : Bool) : close h closed w = (w, false) := by
  simp only [close, hvalid, Bool.false_eq_true, if_false]

/-- A close changes no result object. -/
theorem close_results (h : ℕ) (closed : Bool) (w : World) :
    (close h closed w).1.results = w.results := by
  obtain ⟨_, _, _, _, hclose⟩ := close_eq h closed w
  rw [hclose]

/-- A close that fails changes neither the wrappers nor the events. -/
theorem close_failed (h : ℕ) (w : World) :
    (close h false w).1.handles = w.handles ∧
      (close h false w).1.native.events = w.native.events := by
  rw [close]
  simp only
  split
  · refine ⟨update_eq_self .., ?_⟩
    cases (w.handles h).m_fromWinDivert <;> cases (w.handles h).m_handle <;> rfl
  · exact ⟨rfl, rfl⟩

/-- A close that succeeds makes the wrapper forget its handle. -/
theorem close_closed (h : ℕ) (w : World) :
    ((close h true w).1.handles h).m_handle = .invalid := by
  rw [close]
  simp only
  split
  · simp
  · rename_i hvalid
    simpa [valid] using hvalid

/-- `DivertHandle::!DivertHandle`, which the destructor runs too. -/
def finalizer (h : ℕ) (closed : Bool) (w : World) : World :=
  let w := (close h closed w).1
  { w with handles := update w.handles h { w.handles h with m_handle := .invalid } }

end DivertHandle

/-! ### `Diversion` -/

namespace Diversion

/-- The end of `Diversion::Open`, where `WinDivertOpen` succeeds: a wrapper for the handle,
and an object that refers to it. -/
def opened (v : ℕ) (w : World) : World :=
  let h := w.nextHandle
  let w := (w.newHandle ⟨.value v, true⟩).onNative fun n =>
    { n with drivers := update n.drivers v true }
  { w with diversions := update w.diversions w.nextDiversion ⟨some h⟩
           nextDiversion := w.nextDiversion + 1 }

/-- `Diversion::Close`. -/
def close (d : ℕ) (closed : Bool) (w : World) : World × Bool :=
  match (w.diversions d).m_winDivertHandle with
  | none => (w, false)
  | some h => if (w.handles h).valid then DivertHandle.close h closed w else (w, false)

/-- `Diversion::!Diversion`, which the destructor runs too: it deletes the wrapper. -/
def finalizer (d : ℕ) (closed : Bool) (w : World) : World :=
  match (w.diversions d).m_winDivertHandle with
  | none => w
  | some h => DivertHandle.finalizer h closed w

end Diversion

/-! ### `DivertAsyncResult` -/

/-- What `WaitForSingleObject` returns. -/
inductive WaitOutcome where
  /-- `WAIT_OBJECT_0`. -/
  | object0
  /-- `WAIT_TIMEOUT`. -/
  | timeout
  /-- Any other value. -/
  | failed
  deriving DecidableEq, Repr

/-- Whether a wait on this handle can end as it does: with the signal only if the event is
signalled, by the timeout only if it is not. -/
def waitPossible (wait : WaitOutcome) (event : Handle) (n : Native) : Bool :=
  match event, wait with
  | .value e, .object0 => n.events e == some true
  | .value e, .timeout => n.events e == some false
  | _, _ => true

/-- What the system answers during one call of `Get`: to the wait, with the error it
leaves, to `GetOverlappedResult`, with the length or the error, and to closing the
event. -/
structure GetReply where
  wait : WaitOutcome
  waitError : BitVec 32
  overlappedResult : Except (BitVec 32) (BitVec 32)
  closed : Bool

namespace DivertAsyncResult

/-- The object allocated by `gcnew DivertAsyncResult()`. -/
def construct (malloc : Option ℕ) (w : World) : World :=
  { w with
    native := w.native.malloc malloc
    results := update w.results w.nextResult (new malloc)
    nextResult := w.nextResult + 1 }

/-- `DivertAsyncResult::Reset`: clear the block and the fields, then make an event and put
it into the block. Where there is no block, the clearing writes through a null pointer. -/
def reset (r : ℕ) (createEvent : Except (BitVec 32) ℕ) (w : World) :
    World × Except ClrException Bool :=
  match (w.results r).m_overlapped with
  | none => (w, .error .accessViolation)
  | some a =>
    -- `memset`, whatever the block is used for
    let w := w.onNative (.write a .null)
    let w := w.modify r fun o => { o with m_noError := true, m_errorCode := 0, m_ioLength := 0 }
    match createEvent with
    | .error lastError => (w.modify r fun o => { o with m_errorCode := lastError }, .ok false)
    | .ok e =>
      let w := w.onNative fun n => (n.createEvent e).write a (.value e)
      -- the wrapper of the event before is dropped, not closed
      let h := w.nextHandle
      let w := w.newHandle ⟨.value e, false⟩
      (w.modify r fun o => { o with m_overlappedEventHandle := some h }, .ok true)

/-- The block and the object, cleared by `Reset`. -/
def cleared (r a : ℕ) (w : World) : World :=
  (w.onNative (.write a .null)).modify r fun o =>
    { o with m_noError := true, m_errorCode := 0, m_ioLength := 0 }

/-- The world after a `Reset` that succeeds: the block holds the new event and has been
written twice, and the object refers to a new wrapper of it. -/
def ready (r a e : ℕ) (w : World) : World :=
  { w with
    native := { w.native with
      events := update w.native.events e (some false)
      blocks := update w.native.blocks a
        ((w.native.blocks a).map fun o => ⟨.value e, o.writes + 2⟩) }
    handles := update w.handles w.nextHandle ⟨.value e, false⟩
    nextHandle := w.nextHandle + 1
    results := update w.results r { w.results r with
      m_noError := true, m_errorCode := 0, m_ioLength := 0
      m_overlappedEventHandle := some w.nextHandle } }

/-- **What `Reset` does where it succeeds.** -/
theorem reset_ok {r a e : ℕ} {w : World} (ha : (w.results r).m_overlapped = some a) :
    reset r (.ok e) w = (ready r a e w, .ok true) := by
  have hmap : ∀ o : Option Overlapped,
      (o.map fun o => (⟨.null, o.writes + 1⟩ : Overlapped)).map
        (fun o => (⟨.value e, o.writes + 1⟩ : Overlapped)) =
      o.map fun o => ⟨.value e, o.writes + 2⟩ := by
    intro o
    cases o <;> rfl
  simp only [reset, ha, ready, World.onNative, World.modify, World.newHandle, Native.write,
    Native.createEvent, update_self, update_idem, hmap]

/-- **What `Reset` does where the event cannot be made**: block and object are cleared all
the same. -/
theorem reset_failed {r a : ℕ} {lastError : BitVec 32} {w : World}
    (ha : (w.results r).m_overlapped = some a) :
    reset r (.error lastError) w =
      ((cleared r a w).modify r fun o => { o with m_errorCode := lastError }, .ok false) := by
  simp only [reset, ha, cleared]

/-- `Reset` without a block. -/
theorem reset_null {r : ℕ} {createEvent : Except (BitVec 32) ℕ} {w : World}
    (ha : (w.results r).m_overlapped = none) :
    reset r createEvent w = (w, .error .accessViolation) := by
  simp only [reset, ha]

/-- Releasing the pin of the buffer, `if (m_buffer.IsAllocated) m_buffer.Free()`. -/
def freeBuffer (r : ℕ) (w : World) : World :=
  match (w.results r).m_buffer with
  | none => w
  | some pin => (w.onNative (.gcFree pin)).modify r fun o => { o with m_buffer := none }

theorem freeBuffer_overlapped (r : ℕ) (w : World) :
    ((freeBuffer r w).results r).m_overlapped = (w.results r).m_overlapped := by
  rw [freeBuffer]
  cases (w.results r).m_buffer with
  | none => rfl
  | some pin => simp [World.modify, World.onNative]

theorem freeBuffer_pending (r : ℕ) (w : World) :
    (freeBuffer r w).native.pending = w.native.pending := by
  rw [freeBuffer]
  cases (w.results r).m_buffer <;> rfl

/-- Releasing the pin changes no other field of the object, no wrapper and no event. -/
theorem freeBuffer_spec (r : ℕ) (w : World) :
    (freeBuffer r w).results r = { w.results r with m_buffer := none } ∧
      (freeBuffer r w).handles = w.handles ∧
      (freeBuffer r w).native.events = w.native.events := by
  rw [freeBuffer]
  cases hbuf : (w.results r).m_buffer with
  | none =>
    have hsame : { w.results r with m_buffer := none } = w.results r := by rw [← hbuf]
    exact ⟨hsame.symm, rfl, rfl⟩
  | some pin => exact ⟨by simp [World.modify, World.onNative], rfl, rfl⟩

/-- `DivertAsyncResult::!DivertAsyncResult`, which the destructor runs too. The pointer to
the block is kept. -/
def finalizer (r : ℕ) (w : World) : World :=
  let w := freeBuffer r w
  match (w.results r).m_overlapped with
  | none => w
  | some a => w.onNative (.free a)

/-- The event handle `Get` waits on, where both wrappers are there and hold a usable
handle. -/
def waitable (r : ℕ) (w : World) : Option (ℕ × Handle × Handle) :=
  match (w.results r).m_overlappedEventHandle, (w.results r).m_winDivertHandle with
  | some h, some d =>
    let event := (w.handles h).m_handle
    let driver := (w.handles d).m_handle
    if event ≠ .null ∧ event ≠ .invalid ∧ driver ≠ .null ∧ driver ≠ .invalid then
      some (h, event, driver)
    else none
  | _, _ => none

/-- A wait that ends because the event is signalled takes the signal: the event was made
with automatic reset. -/
def consume (event : Handle) (n : Native) : Native :=
  match event with
  | .value e => { n with events := update n.events e ((n.events e).map fun _ => false) }
  | _ => n

/-- `DivertAsyncResult::Get`. -/
def get (r : ℕ) (reply : GetReply) (w : World) : World × Bool :=
  match waitable r w with
  | none => (w.modify r fun o => { o with m_noError := false }, false)
  | some (h, event, driver) =>
    let w := w.onNative fun n => { n with log := n.log ++ [.waitForSingleObject event] }
    match reply.wait with
    | .timeout =>
      (w.modify r fun o => { o with m_noError := false, m_errorCode := reply.waitError }, false)
    | .failed => (w.modify r fun o => { o with m_noError := false }, false)
    | .object0 =>
      -- signalled: fetch the result, close the event, release the pin
      let block := (w.results r).m_overlapped
      let w := w.modify r fun o => { o with m_noError := true }
      let w := w.onNative (consume event)
      let w := w.onNative fun n =>
        { n with log := n.log ++ [.getOverlappedResult driver block] }
      match reply.overlappedResult with
      | .error lastError =>
        let w := w.modify r fun o => { o with m_errorCode := lastError, m_noError := false }
        let w := (DivertHandle.close h reply.closed w).1
        (freeBuffer r w, false)
      | .ok ioLength =>
        let w := w.modify r fun o => { o with m_ioLength := ioLength }
        let w := (DivertHandle.close h reply.closed w).1
        (freeBuffer r w, true)

/-- The world in which `Get` closes the event: the wait has ended with the signal, and what
`GetOverlappedResult` said is in the object. -/
def fetched (r : ℕ) (event driver : Handle) (overlappedResult : Except (BitVec 32) (BitVec 32))
    (w : World) : World :=
  let block := (w.results r).m_overlapped
  let w := w.onNative fun n => { n with log := n.log ++ [.waitForSingleObject event] }
  let w := (w.modify r fun o => { o with m_noError := true }).onNative (consume event)
  let w := w.onNative fun n => { n with log := n.log ++ [.getOverlappedResult driver block] }
  match overlappedResult with
  | .error lastError => w.modify r fun o => { o with m_errorCode := lastError, m_noError := false }
  | .ok ioLength => w.modify r fun o => { o with m_ioLength := ioLength }

/-- What is in the object when there is a result. -/
theorem fetched_ok (r : ℕ) (event driver : Handle) (n : BitVec 32) (w : World) :
    (fetched r event driver (.ok n) w).results r =
        { w.results r with m_noError := true, m_ioLength := n } ∧
      (fetched r event driver (.ok n) w).handles = w.handles ∧
      (fetched r event driver (.ok n) w).native.events = (consume event w.native).events := by
  cases event <;> exact ⟨by simp [fetched, World.modify, World.onNative], rfl, rfl⟩

section Get

variable {r h : ℕ} {event driver : Handle} {reply : GetReply} {w : World}

/-- A `Get` without handles to wait with. -/
theorem get_of_not_waitable (hwait : waitable r w = none) :
    get r reply w = (w.modify r fun o => { o with m_noError := false }, false) := by
  simp only [get, hwait]

/-- **A `Get` that sees the event signalled** fetches the result, closes the event, releases
the pin, and returns whether there was a result. -/
theorem get_of_signalled (hwait : waitable r w = some (h, event, driver))
    (hobject : reply.wait = .object0) :
    get r reply w =
      (freeBuffer r (DivertHandle.close h reply.closed
        (fetched r event driver reply.overlappedResult w)).1, reply.overlappedResult.isOk) := by
  simp only [get, hwait, hobject, fetched]
  cases reply.overlappedResult <;> rfl

/-- A `Get` that does not see it signalled records that in the object. -/
theorem get_of_not_signalled (hwait : waitable r w = some (h, event, driver))
    (hobject : reply.wait ≠ .object0) :
    ∃ f : DivertAsyncResult → DivertAsyncResult,
      (∀ o, (f o).m_noError = false ∧ (f o).m_buffer = o.m_buffer) ∧
      get r reply w = ((w.onNative fun n =>
        { n with log := n.log ++ [.waitForSingleObject event] }).modify r f, false) := by
  simp only [get, hwait]
  cases hreply : reply.wait with
  | object0 => exact absurd hreply hobject
  | timeout => exact ⟨fun o => { o with m_noError := false, m_errorCode := reply.waitError },
      fun _ => ⟨rfl, rfl⟩, rfl⟩
  | failed => exact ⟨fun o => { o with m_noError := false }, fun _ => ⟨rfl, rfl⟩, rfl⟩

end Get

end DivertAsyncResult

end DivertNet
