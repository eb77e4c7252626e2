import DivertNet.PinnedBuffer

/-!
# Waiting for an operation, however often

A `Get` that times out, or whose wait fails, may be repeated: the pin, the block and the event
stay as they are, and so does the length. The first `Get` whose wait ends with the signal
fetches the result, closes the event and releases the pin, and it is the only one to do so:
the ones after it find the event closed and call nothing at all.

`DivertNet.Retained` is what has to stay, `DivertNet.Awaiting` the state of an object whose
operation is pending, and `DivertNet.losesNothing_of_pending` the contract of a whole
sequence, in which the driver may complete operations, and anything else may happen that
leaves this one alone (`DivertNet.Elsewhere`).
-/

namespace DivertNet

open Function Runs

/-! ### What an operation retains -/

/-- **What belongs to the operation of a result object is as it was**: the pin, the block, the
event and its wrapper, the wrapper of the driver handle, and the length. -/
structure Retained (r : ℕ) (w w' : World) : Prop where
  m_buffer : (w'.results r).m_buffer = (w.results r).m_buffer
  m_overlapped : (w'.results r).m_overlapped = (w.results r).m_overlapped
  m_overlappedEventHandle :
    (w'.results r).m_overlappedEventHandle = (w.results r).m_overlappedEventHandle
  m_winDivertHandle : (w'.results r).m_winDivertHandle = (w.results r).m_winDivertHandle
  m_ioLength : (w'.results r).m_ioLength = (w.results r).m_ioLength
  pin : ∀ pin, (w.results r).m_buffer = some pin → w'.native.pins pin = w.native.pins pin
  block : ∀ a, (w.results r).m_overlapped = some a → w'.native.blocks a = w.native.blocks a
  eventWrapper : ∀ h, (w.results r).m_overlappedEventHandle = some h → w'.handles h = w.handles h
  driverWrapper : ∀ h, (w.results r).m_winDivertHandle = some h → w'.handles h = w.handles h
  /-- The event is open if it was; whether it is signalled may change. -/
  event : ∀ h e, (w.results r).m_overlappedEventHandle = some h →
    (w.handles h).m_handle = .value e → (w'.native.events e).isSome = (w.native.events e).isSome

section Retained

variable {r : ℕ} {w w₁ w₂ : World}

theorem Retained.refl (r : ℕ) (w : World) : Retained r w w := by
  constructor <;> intros <;> rfl

theorem Retained.trans (h : Retained r w w₁) (h' : Retained r w₁ w₂) : Retained r w w₂ where
  m_buffer := h'.m_buffer.trans h.m_buffer
  m_overlapped := h'.m_overlapped.trans h.m_overlapped
  m_overlappedEventHandle := h'.m_overlappedEventHandle.trans h.m_overlappedEventHandle
  m_winDivertHandle := h'.m_winDivertHandle.trans h.m_winDivertHandle
  m_ioLength := h'.m_ioLength.trans h.m_ioLength
  pin pin hpin := (h'.pin pin (h.m_buffer.trans hpin)).trans (h.pin pin hpin)
  block a ha := (h'.block a (h.m_overlapped.trans ha)).trans (h.block a ha)
  eventWrapper i hi :=
    (h'.eventWrapper i (h.m_overlappedEventHandle.trans hi)).trans (h.eventWrapper i hi)
  driverWrapper i hi :=
    (h'.driverWrapper i (h.m_winDivertHandle.trans hi)).trans (h.driverWrapper i hi)
  event i e hi he := by
    have he' : (w₁.handles i).m_handle = .value e := by rw [h.eventWrapper i hi, he]
    exact (h'.event i e (h.m_overlappedEventHandle.trans hi) he').trans (h.event i e hi he)

/-- Making a note of a call. -/
theorem retained_log (r : ℕ) (w : World) (l : List NativeCall) :
    Retained r w (w.onNative fun n => { n with log := l }) := by
  constructor <;> intros <;> rfl

/-- Changing the status fields of the object. -/
theorem retained_modify (r : ℕ) (w : World) (b : Bool) (code : BitVec 32) :
    Retained r w (w.modify r fun o => { o with m_noError := b, m_errorCode := code }) := by
  constructor <;> intros <;> simp [World.modify]

/-- The driver completes an operation, whichever it is. -/
theorem retained_complete (r i : ℕ) (op : Operation) (w : World) :
    Retained r w (w.onNative (.complete i op)) := by
  have hevents : ∀ e, ((w.onNative (.complete i op)).native.events e).isSome =
      (w.native.events e).isSome := by
    intro e
    cases hev : op.overlapped.hEvent with
    | null => simp [World.onNative, Native.complete, Native.signal, hev]
    | invalid => simp [World.onNative, Native.complete, Native.signal, hev]
    | value e' =>
      rcases eq_or_ne e e' with rfl | hne
      · simp [World.onNative, Native.complete, Native.signal, hev]
      · simp [World.onNative, Native.complete, Native.signal, hev, hne]
  obtain ⟨events, hsignal⟩ := Native.signal_eq op.overlapped.hEvent
    { w.native with pending := update w.native.pending i none }
  have hnative : (w.onNative (.complete i op)).native =
      { w.native with pending := update w.native.pending i none, events := events } := hsignal
  refine ⟨rfl, rfl, rfl, rfl, rfl, fun _ _ => ?_, fun _ _ => ?_, fun _ _ => rfl, fun _ _ => rfl,
    fun _ e _ _ => hevents e⟩
  · rw [hnative]
  · rw [hnative]

/-- What `Get` waits with is retained. -/
theorem Retained.waitable (h : Retained r w w₁) :
    DivertAsyncResult.waitable r w₁ = DivertAsyncResult.waitable r w := by
  rw [DivertAsyncResult.waitable, DivertAsyncResult.waitable, h.m_overlappedEventHandle,
    h.m_winDivertHandle]
  cases hi : (w.results r).m_overlappedEventHandle with
  | none => rfl
  | some i =>
    cases hd : (w.results r).m_winDivertHandle with
    | none => rfl
    | some d => simp only [h.eventWrapper i hi, h.driverWrapper d hd]

end Retained

/-! ### Sequences of `Get` -/

/-- **Something that happens elsewhere**: it leaves the operation of the object alone. -/
structure Elsewhere (r : ℕ) where
  run : World → World
  retains : ∀ w, Retained r w (run w)

/-- The driver completes the operation `i`, if it is pending. -/
def Elsewhere.complete (r i : ℕ) : Elsewhere r where
  run w :=
    match w.native.pending i with
    | none => w
    | some op => w.onNative (.complete i op)
  retains w := by
    cases w.native.pending i with
    | none => exact .refl r w
    | some op => exact retained_complete r i op w

/-- A step while the object is waited for: a `Get`, answered in any way, or something
elsewhere. -/
inductive WaitStep (r : ℕ) where
  | get (reply : GetReply)
  | elsewhere (e : Elsewhere r)

/-- The world, and whether some `Get` has seen the signal. -/
structure Awaited where
  world : World
  fetched : Bool

/-- One step. Closing the event succeeds. -/
def Awaited.step (r : ℕ) (s : Awaited) : WaitStep r → Option Awaited
  | .get reply =>
    if reply.closed then
      some ⟨(DivertAsyncResult.get r reply s.world).1, s.fetched || reply.wait == .object0⟩
    else none
  | .elsewhere e => some { s with world := e.run s.world }

/-- **The operation of the object is pending**, under the pin `pin`, with the event `e` in the
wrapper `h`, and the driver handle is open. -/
structure Awaiting (r pin h e : ℕ) (driver : Handle) (w : World) : Prop where
  m_buffer : (w.results r).m_buffer = some pin
  pinned : w.native.pins pin ≠ none
  wrapper : w.handles h = ⟨.value e, false⟩
  opened : w.native.events e ≠ none
  waitable : DivertAsyncResult.waitable r w = some (h, .value e, driver)

/-- **A `Get` that fetches the result**: it returns whether there is one, with the length or
the error, and closes the event and releases the pin. -/
structure FetchesOnce (r pin e : ℕ) (driver : Handle) (reply : GetReply) (u : World)
    (t : World × Bool) : Prop where
  returns : t.2 = reply.overlappedResult.isOk
  length : ∀ n, reply.overlappedResult = .ok n → (t.1.results r).m_ioLength = n
  error : ∀ code, reply.overlappedResult = .error code → (t.1.results r).m_errorCode = code
  calls : t.1.native.log = u.native.log ++ [.waitForSingleObject (.value e),
    .getOverlappedResult driver (u.results r).m_overlapped, .closeHandle (.value e) true]
  closed : u.native.events e ≠ none ∧ t.1.native.events e = none
  released : u.native.pins pin ≠ none ∧ t.1.native.pins pin = none ∧
    (t.1.results r).m_buffer = none

/-- **What is promised of one step**: before the signal a `Get` fails and changes nothing of
what the operation retains; the one that sees it fetches the result; and the ones after it
fail without a native call. -/
def StepLosesNothing (r pin e : ℕ) (driver : Handle) (w₁ : World) (s : Awaited) :
    WaitStep r → Prop
  | .elsewhere _ => True
  | .get reply =>
    if s.fetched then
      (DivertAsyncResult.get r reply s.world).2 = false ∧
        (DivertAsyncResult.get r reply s.world).1.native = s.world.native
    else if reply.wait = .object0 then
      FetchesOnce r pin e driver reply s.world (DivertAsyncResult.get r reply s.world)
    else
      (DivertAsyncResult.get r reply s.world).2 = false ∧
        Retained r w₁ (DivertAsyncResult.get r reply s.world).1 ∧
        (DivertAsyncResult.get r reply s.world).1.native.log =
          s.world.native.log ++ [.waitForSingleObject (.value e)]

/-- **A sequence of waits loses nothing** of an operation that is pending in `w₁`. -/
def LosesNothing (r : ℕ) (w₁ : World) (l : List (WaitStep r)) : Prop :=
  ∃ pin h e driver, Awaiting r pin h e driver w₁ ∧
    EveryStep (Awaited.step r) (fun s a _ => StepLosesNothing r pin e driver w₁ s a) ⟨w₁, false⟩ l

/-- The start of an operation that goes pending. -/
def GoesPending (method : AsyncMethod) (c : TransferCall) (r : ℕ) (reply : TransferReply)
    (w : World) : Prop :=
  (method.run c r reply w).outcome = .ok false ∧ reply.driver.Pending

/-! ### The three kinds of `Get` -/

section Gets

variable {r pin h e : ℕ} {driver : Handle} {w u : World} {reply : GetReply}

/-- What the operation retains includes that it is awaited. -/
theorem Awaiting.of_retained (hw : Awaiting r pin h e driver w) (hret : Retained r w u) :
    Awaiting r pin h e driver u := by
  have hh := (waitable_eq_some hw.waitable).1
  have hvalue : (w.handles h).m_handle = .value e := by rw [hw.wrapper]
  refine ⟨hret.m_buffer.trans hw.m_buffer, ?_, (hret.eventWrapper h hh).trans hw.wrapper, ?_,
    hret.waitable.trans hw.waitable⟩
  · rw [hret.pin pin hw.m_buffer]
    exact hw.pinned
  · rw [← Option.isSome_iff_ne_none, hret.event h e hh hvalue]
    exact Option.isSome_iff_ne_none.mpr hw.opened

/-- **A `Get` before the signal** waits, and changes nothing of what the operation retains. -/
theorem Awaiting.get_early (hw : Awaiting r pin h e driver w) (hobject : reply.wait ≠ .object0) :
    (DivertAsyncResult.get r reply w).2 = false ∧
      Retained r w (DivertAsyncResult.get r reply w).1 ∧
      (DivertAsyncResult.get r reply w).1.native.log =
        w.native.log ++ [.waitForSingleObject (.value e)] := by
  have hlog := retained_log r w (w.native.log ++ [.waitForSingleObject (.value e)])
  cases hout : reply.wait with
  | object0 => exact absurd hout hobject
  | timeout =>
    simp only [DivertAsyncResult.get, hw.waitable, hout]
    exact ⟨trivial, hlog.trans (retained_modify r _ false reply.waitError), rfl⟩
  | failed =>
    simp only [DivertAsyncResult.get, hw.waitable, hout]
    exact ⟨trivial, hlog.trans (retained_modify r _ false (w.results r).m_errorCode), rfl⟩

/-- The world in which `Get` closes the event. -/
theorem fetched_spec (r : ℕ) (event driver : Handle)
    (overlappedResult : Except (BitVec 32) (BitVec 32)) (w : World) :
    (DivertAsyncResult.fetched r event driver overlappedResult w).native.log =
        w.native.log ++ [.waitForSingleObject event,
          .getOverlappedResult driver (w.results r).m_overlapped] ∧
      (DivertAsyncResult.fetched r event driver overlappedResult w).handles = w.handles ∧
      (∀ n, overlappedResult = .ok n →
        ((DivertAsyncResult.fetched r event driver overlappedResult w).results r).m_ioLength =
          n) ∧
      ∀ code, overlappedResult = .error code →
        ((DivertAsyncResult.fetched r event driver overlappedResult w).results r).m_errorCode =
          code := by
  cases overlappedResult with
  | error code =>
    refine ⟨?_, ?_, fun n hn => ?_, ?_⟩
    · cases event <;> simp [DivertAsyncResult.fetched, DivertAsyncResult.consume, World.modify,
        World.onNative]
    · cases event <;> rfl
    · cases hn
    · rintro code' ⟨⟩
      simp [DivertAsyncResult.fetched, World.modify, World.onNative]
  | ok n =>
    refine ⟨?_, ?_, ?_, fun code hcode => ?_⟩
    · cases event <;> simp [DivertAsyncResult.fetched, DivertAsyncResult.consume, World.modify,
        World.onNative]
    · cases event <;> rfl
    · rintro n' ⟨⟩
      simp [DivertAsyncResult.fetched, World.modify, World.onNative]
    · cases hcode

/-- **The `Get` that sees the signal** fetches the result. -/
theorem Awaiting.get_signalled (hw : Awaiting r pin h e driver w) (hobject : reply.wait = .object0)
    (hclosed : reply.closed = true) :
    FetchesOnce r pin e driver reply w (DivertAsyncResult.get r reply w) ∧
      DivertAsyncResult.waitable r (DivertAsyncResult.get r reply w).1 = none := by
  obtain ⟨hlog, hhandles, hlength, herror⟩ :=
    fetched_spec r (.value e) driver reply.overlappedResult w
  have hsame := samePins_fetched r (.value e) driver reply.overlappedResult w
  have hevent := (waitable_eq_some hw.waitable).1
  have hkept : ((DivertAsyncResult.fetched r (.value e) driver reply.overlappedResult
      w).results r).m_overlappedEventHandle = some h := by
    cases reply.overlappedResult <;>
      simp [DivertAsyncResult.fetched, World.modify, World.onNative, hevent]
  rw [DivertAsyncResult.get_of_signalled hw.waitable hobject, hclosed]
  generalize DivertAsyncResult.fetched r (.value e) driver reply.overlappedResult w = w₁ at *
  -- the wrapper has the event, so it is closed
  have hclose : (DivertHandle.close h true w₁).1 =
      { w₁ with
        native := w₁.native.closeHandle (.value e) true
        handles := update w₁.handles h ⟨.invalid, false⟩ } := by
    rw [DivertHandle.close, hhandles, hw.wrapper]
    rfl
  have hbuf : (w₁.results r).m_buffer = some pin := hsame.m_buffer.trans hw.m_buffer
  have hfree : DivertAsyncResult.freeBuffer r (DivertHandle.close h true w₁).1 =
      ((DivertHandle.close h true w₁).1.onNative (.gcFree pin)).modify r
        fun o => { o with m_buffer := none } := by
    rw [DivertAsyncResult.freeBuffer, DivertHandle.close_results, hbuf]
  rw [hfree, hclose]
  refine ⟨⟨rfl, fun n hn => ?_, fun code hcode => ?_, ?_, ⟨hw.opened, ?_⟩, hw.pinned, ?_, ?_⟩, ?_⟩
  · simpa [World.modify, World.onNative] using hlength n hn
  · simpa [World.modify, World.onNative] using herror code hcode
  · simp [World.modify, World.onNative, Native.gcFree, Native.closeHandle, hlog]
  · simp [World.modify, World.onNative, Native.gcFree, Native.closeHandle]
  · simp [World.modify, World.onNative, Native.gcFree]
  · simp [World.modify]
  · simp only [DivertAsyncResult.waitable, World.modify, World.onNative, update_self, hkept]
    split
    · rename_i hh hd
      obtain rfl := Option.some.inj hh
      simp
    · rfl

/-- **A `Get` after it** calls nothing. -/
theorem get_late (hwait : DivertAsyncResult.waitable r w = none) (reply : GetReply) :
    (DivertAsyncResult.get r reply w).2 = false ∧
      (DivertAsyncResult.get r reply w).1.native = w.native ∧
      DivertAsyncResult.waitable r (DivertAsyncResult.get r reply w).1 = none := by
  rw [DivertAsyncResult.get_of_not_waitable hwait]
  refine ⟨rfl, rfl, ?_⟩
  exact (retained_modify r w false (w.results r).m_errorCode).waitable.trans hwait

end Gets

/-! ### The whole sequence -/

section Sequence

variable {r pin h e : ℕ} {driver : Handle} {w₁ : World}

/-- The invariant of a sequence: nothing has happened to what the operation retains, or there
is nothing left to wait with. -/
def WaitInv (r : ℕ) (w₁ : World) (s : Awaited) : Prop :=
  if s.fetched then DivertAsyncResult.waitable r s.world = none else Retained r w₁ s.world

/-- **One step keeps its promise, and the invariant.** -/
theorem waitInv_step (hw : Awaiting r pin h e driver w₁) {s t : Awaited} {a : WaitStep r}
    (inv : WaitInv r w₁ s) (hstep : s.step r a = some t) :
    StepLosesNothing r pin e driver w₁ s a ∧ WaitInv r w₁ t := by
  cases a with
  | elsewhere x =>
    obtain rfl := Option.some.inj hstep
    refine ⟨trivial, ?_⟩
    rw [WaitInv] at inv ⊢
    split at inv
    · rename_i hfetched
      rw [if_pos hfetched]
      exact (x.retains s.world).waitable.trans inv
    · rename_i hfetched
      rw [if_neg hfetched]
      exact inv.trans (x.retains s.world)
  | get reply =>
    simp only [Awaited.step] at hstep
    split at hstep
    · rename_i hclosed
      obtain rfl := Option.some.inj hstep
      rw [StepLosesNothing]
      rw [WaitInv] at inv ⊢
      cases hfetched : s.fetched with
      | true =>
        rw [hfetched, if_pos rfl] at inv
        obtain ⟨hfalse, hnative, hstill⟩ := get_late inv reply
        exact ⟨⟨hfalse, hnative⟩, hstill⟩
      | false =>
        rw [hfetched, if_neg Bool.false_ne_true] at inv
        have hu := hw.of_retained inv
        by_cases hobject : reply.wait = .object0
        · obtain ⟨hfetch, hnone⟩ := hu.get_signalled hobject hclosed
          simp only [hobject, Bool.false_eq_true, if_false, if_true, beq_self_eq_true,
            Bool.false_or]
          exact ⟨hfetch, hnone⟩
        · obtain ⟨hfalse, hret, hlog⟩ := hu.get_early hobject
          simp only [hobject, Bool.false_eq_true, if_false, Bool.false_or,
            beq_false_of_ne hobject]
          exact ⟨⟨hfalse, inv.trans hret, hlog⟩, inv.trans hret⟩
    · cases hstep

/-- **Nothing is lost** of an operation that is awaited. -/
theorem Awaiting.losesNothing (hw : Awaiting r pin h e driver w₁) (l : List (WaitStep r)) :
    LosesNothing r w₁ l := by
  have hstart : WaitInv r w₁ ⟨w₁, false⟩ := Retained.refl r w₁
  have hstep : ∀ (s : Awaited) (a : WaitStep r) (t : Awaited), WaitInv r w₁ s →
      s.step r a = some t → StepLosesNothing r pin e driver w₁ s a ∧ WaitInv r w₁ t :=
    fun _ _ _ inv hstep => waitInv_step hw inv hstep
  exact ⟨pin, h, e, driver, hw, everyStep_of_invariant hstep hstart l⟩

end Sequence

/-! ### From the start on -/

/-- **An operation that goes pending is awaited**, if the driver handle is open. -/
theorem awaiting_of_goesPending {method : AsyncMethod} {c : TransferCall} {r v : ℕ}
    {reply : TransferReply} {w : World} (hpending : GoesPending method c r reply w)
    (hopen : w.driverHandle c.diversion = some (.value v)) :
    ∃ e driver, Awaiting r w.native.nextPin w.nextHandle e driver
      (method.run c r reply w).world := by
  obtain ⟨hout, hpend⟩ := hpending
  obtain ⟨api, resetFailed, pinFailed, packetBuffer, address, hreach, hrun, -⟩ :=
    method.run_of_returns hout
  obtain ⟨a, e, i, addr, ha, -, -, hstart⟩ :=
    startWithResult_of_reaches api resetFailed pinFailed hreach
  obtain ⟨d, hd, hv⟩ := Option.map_eq_some_iff.mp hopen
  -- the driver keeps the operation, so nothing is written after the request
  have hkept : ∀ w', answered r reply.driver w' = w' := by
    intro w'
    rw [answered, if_pos hpend.1, if_neg fun hne => hne hpend.2]
  rw [hrun, hstart, hkept]
  generalize hw₁ : prepared c.diversion r packetBuffer.ref a e w = w₁
  generalize hcall : (⟨api, (w₁.handles i).m_handle, packetBuffer, packetBuffer.length,
    addr.m_address, some a⟩ : DriverCall) = call
  have hevents : (w₁.native.submit call w.native.nextPin reply.driver).events =
      w₁.native.events := by
    subst hcall
    simp only [Native.submit, hpend, if_true]
    rfl
  have hevent : w₁.native.events e = some false := by
    subst hw₁
    exact update_self ..
  have hresult : w₁.results r =
      ⟨some a, some d, some w.nextHandle, 0, true, 0, some w.native.nextPin⟩ := by
    subst hw₁
    simp [prepared, DivertAsyncResult.ready, World.modify, World.onNative, ha, hd]
  have hwrapper : w₁.handles w.nextHandle = ⟨.value e, false⟩ := by
    subst hw₁
    exact update_self ..
  -- the driver wrapper has a value even if it is the new one
  obtain ⟨x, hx⟩ : ∃ x, (w₁.handles d).m_handle = .value x := by
    rcases eq_or_ne d w.nextHandle with rfl | hne
    · exact ⟨e, by rw [hwrapper]⟩
    · subst hw₁
      exact ⟨v, (congrArg DivertHandle.m_handle (update_of_ne hne _ _)).trans hv⟩
  refine ⟨e, .value x, ?_, ?_, hwrapper, ?_, ?_⟩
  · simp [World.onNative, hresult]
  · subst hw₁
    simp [World.onNative, Native.submit_pins, prepared, DivertAsyncResult.ready, World.modify,
      Native.gcAlloc]
  · simp [World.onNative, hevents, hevent]
  · simp [DivertAsyncResult.waitable, World.onNative, hresult, hwrapper, hx]

/-- **Nothing is lost of an operation that goes pending**, whatever the waits of the `Get`
calls that follow, and whatever happens elsewhere. -/
theorem losesNothing_of_pending {method : AsyncMethod} {c : TransferCall} {r v : ℕ}
    {reply : TransferReply} {w : World} (hpending : GoesPending method c r reply w)
    (hopen : w.driverHandle c.diversion = some (.value v)) (l : List (WaitStep r)) :
    LosesNothing r (method.run c r reply w).world l := by
  obtain ⟨e, driver, hw⟩ := awaiting_of_goesPending hpending hopen
  exact hw.losesNothing l

/-- Two waits in vain, the completion of the operation, the `Get` that fetches its 40 bytes,
and one more. -/
theorem losesNothing_retried :
    LosesNothing 0 (AsyncMethod.receiveAsync.run pendingCall 0
        (answering ⟨0, none, errorIoPending, false⟩) openWorld).world
      [.get ⟨.timeout, 258, .error 0, true⟩, .get ⟨.failed, 0, .error 0, true⟩,
        .elsewhere (.complete 0 0), .get ⟨.object0, 0, .ok 40, true⟩,
        .get ⟨.object0, 0, .ok 40, true⟩] := by
  have hpending : GoesPending .receiveAsync pendingCall 0
      (answering ⟨0, none, errorIoPending, false⟩) openWorld := ⟨rfl, rfl, rfl⟩
  have hopen : openWorld.driverHandle pendingCall.diversion = some (.value 7) := rfl
  exact losesNothing_of_pending hpending hopen _

end DivertNet
