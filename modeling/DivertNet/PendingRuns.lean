import DivertNet.Library.Runs
import DivertNet.PendingOperation

/-!
# Pending operations, whatever happens meanwhile

The steps that can be taken while an operation is pending: any public call on the objects,
the user letting go of one, the runtime finalizing an object nobody refers to any more,
and the driver completing an operation – the only way for one to end.
`DivertNet.System` is the world of the wrapper with what the runtime knows about its
objects, `DivertNet.step` one step.

Is every pending operation protected in every state? Not if a call, or a finalizer, goes
through a result object whose operation is still pending: `Reset` clears the block, the
destructor frees pin and block, and the finalizer of an unreachable event wrapper closes
the event. `DivertNet.Spares` excludes these steps and no others, so
`DivertNet.everyState_allProtected_iff` is exact.
-/

namespace DivertNet

open Function Runs

/-! ### The steps -/

/-- The world, with the objects the user holds references to, and the result objects whose
finalizer may still run. -/
structure System where
  world : World
  resultHeld : ℕ → Bool
  diversionHeld : ℕ → Bool
  finalizable : ℕ → Bool

/-- Nothing opened, nothing constructed. -/
def System.empty : System := ⟨.empty, fun _ => false, fun _ => false, fun _ => false⟩

/-- The two methods that start an operation with a result object. -/
inductive AsyncMethod where
  | receiveAsync | sendAsync
  deriving DecidableEq, Repr

/-- The call of such a method. -/
def AsyncMethod.run (method : AsyncMethod) (c : TransferCall) (r : ℕ) (reply : TransferReply)
    (w : World) : TransferResult :=
  match method with
  | .receiveAsync => DivertNet.receiveAsync c (some r) reply w
  | .sendAsync => DivertNet.sendAsync c (some r) reply w

/-- What can happen, with what the system answers. -/
inductive Action where
  /-- `Diversion::Open` gets a driver handle. -/
  | openDiversion (v : ℕ)
  /-- `gcnew DivertAsyncResult()`. -/
  | construct (malloc : Option ℕ)
  | start (method : AsyncMethod) (c : TransferCall) (r : ℕ) (reply : TransferReply)
  | get (r : ℕ) (reply : GetReply)
  /-- `delete` on a result object. -/
  | dispose (r : ℕ)
  /-- The user lets go of a result object. -/
  | dropResult (r : ℕ)
  /-- The runtime finalizes a result object. -/
  | finalizeResult (r : ℕ)
  /-- `Diversion::Close`. -/
  | close (d : ℕ) (closed : Bool)
  /-- `delete` on a `Diversion`, or its finalizer. -/
  | deleteDiversion (d : ℕ) (closed : Bool)
  | dropDiversion (d : ℕ)
  /-- The runtime finalizes a wrapper. -/
  | finalizeHandle (h : ℕ) (closed : Bool)
  /-- The driver completes an operation. -/
  | complete (i : ℕ)

/-- Whether an object the user holds refers to a wrapper. -/
def System.referenced (s : System) (h : ℕ) : Bool :=
  (List.range s.world.nextResult).any (fun r => s.resultHeld r &&
      ((s.world.results r).m_overlappedEventHandle == some h ||
        (s.world.results r).m_winDivertHandle == some h)) ||
    (List.range s.world.nextDiversion).any fun d => s.diversionHeld d &&
      (s.world.diversions d).m_winDivertHandle == some h

/-- Whether a step can be taken: calls go through references the user holds, finalizers
run on objects without any, and names the system hands out are free. -/
def System.enabled (s : System) : Action → Bool
  | .openDiversion v => (s.world.native.events v).isNone && !s.world.native.drivers v
  | .construct malloc =>
    match malloc with
    | none => true
    | some a => (s.world.native.blocks a).isNone
  | .start _ c r reply => s.resultHeld r && s.diversionHeld c.diversion &&
    match reply.createEvent with
    | .error _ => true
    | .ok e => (s.world.native.events e).isNone && !s.world.native.drivers e
  | .get r reply => s.resultHeld r &&
    match DivertAsyncResult.waitable r s.world with
    | none => true
    | some (_, event, _) => waitPossible reply.wait event s.world.native
  | .dispose r => s.resultHeld r
  | .dropResult r => s.resultHeld r
  | .finalizeResult r => decide (r < s.world.nextResult) && s.finalizable r && !s.resultHeld r
  | .close d _ => s.diversionHeld d
  | .deleteDiversion d _ => decide (d < s.world.nextDiversion)
  | .dropDiversion d => s.diversionHeld d
  | .finalizeHandle h _ => decide (h < s.world.nextHandle) && !s.referenced h
  | .complete i => (s.world.native.pending i).isSome

/-- The state after a step. A destructor suppresses the finalizer. -/
def System.next (s : System) : Action → System
  | .openDiversion v =>
    { s with world := Diversion.opened v s.world
             diversionHeld := update s.diversionHeld s.world.nextDiversion true }
  | .construct malloc =>
    { s with world := DivertAsyncResult.construct malloc s.world
             resultHeld := update s.resultHeld s.world.nextResult true
             finalizable := update s.finalizable s.world.nextResult true }
  | .start method c r reply => { s with world := (method.run c r reply s.world).world }
  | .get r reply => { s with world := (DivertAsyncResult.get r reply s.world).1 }
  | .dispose r =>
    { s with world := DivertAsyncResult.finalizer r s.world
             finalizable := update s.finalizable r false }
  | .dropResult r => { s with resultHeld := update s.resultHeld r false }
  | .finalizeResult r =>
    { s with world := DivertAsyncResult.finalizer r s.world
             finalizable := update s.finalizable r false }
  | .close d closed => { s with world := (Diversion.close d closed s.world).1 }
  | .deleteDiversion d closed => { s with world := Diversion.finalizer d closed s.world }
  | .dropDiversion d => { s with diversionHeld := update s.diversionHeld d false }
  | .finalizeHandle h closed => { s with world := DivertHandle.finalizer h closed s.world }
  | .complete i =>
    match s.world.native.pending i with
    | none => s
    | some op => { s with world := s.world.onNative (.complete i op) }

/-- One step. -/
def step (s : System) (a : Action) : Option System := if s.enabled a then some (s.next a) else none

theorem step_eq_some {s t : System} {a : Action} :
    step s a = some t ↔ s.enabled a = true ∧ s.next a = t := by
  rw [step]
  split
  · rename_i h
    simp [h]
  · rename_i h
    simp [h]

/-! ### The steps that spare the pending operations -/

/-- The buffer and the address a start hands on, where its argument checks pass. -/
def AsyncMethod.arguments (method : AsyncMethod) (c : TransferCall) (reply : TransferReply) :
    Except ClrException (ManagedArray × Option Address) :=
  match method with
  | .receiveAsync =>
    match checkArguments TransferText.receiveAsyncEmpty TransferText.receiveAsyncAddress c
      reply with
    | .error e => .error e
    | .ok (packetBuffer, address) => .ok (packetBuffer, some address)
  | .sendAsync =>
    match checkBuffer TransferText.sendAsyncEmpty c.packetBuffer with
    | .error e => .error e
    | .ok packetBuffer => .ok (packetBuffer, c.address)

/-- A start is its argument checks and then `startWithResult`. -/
theorem AsyncMethod.run_world (method : AsyncMethod) (c : TransferCall) (r : ℕ)
    (reply : TransferReply) (w : World) :
    ∃ api resetFailed pinFailed, (method.run c r reply w).world =
      match method.arguments c reply with
      | .error _ => w
      | .ok (packetBuffer, address) =>
        (startWithResult api resetFailed pinFailed c.diversion packetBuffer address r reply
          w).1 := by
  cases method with
  | receiveAsync =>
    refine ⟨.recvEx, TransferText.receiveAsyncReset, TransferText.receiveAsyncPin, ?_⟩
    simp only [AsyncMethod.run, AsyncMethod.arguments, DivertNet.receiveAsync]
    cases checkArguments TransferText.receiveAsyncEmpty TransferText.receiveAsyncAddress c
      reply with
    | error e => rfl
    | ok x => rfl
  | sendAsync =>
    refine ⟨.sendEx, TransferText.sendAsyncReset, TransferText.sendAsyncPin, ?_⟩
    simp only [AsyncMethod.run, AsyncMethod.arguments, DivertNet.sendAsync]
    cases checkBuffer TransferText.sendAsyncEmpty c.packetBuffer with
    | error e => rfl
    | ok packetBuffer => rfl

/-- **A start that returns** got to the driver. -/
theorem AsyncMethod.run_of_returns {method : AsyncMethod} {c : TransferCall} {r : ℕ}
    {reply : TransferReply} {w : World} {b : Bool} (h : (method.run c r reply w).outcome = .ok b) :
    ∃ api resetFailed pinFailed packetBuffer address,
      Reaches c.diversion packetBuffer address r reply w ∧
      (method.run c r reply w).world = (startWithResult api resetFailed pinFailed c.diversion
        packetBuffer address r reply w).1 ∧
      b = (reply.driver.result != 0) := by
  have hreach : ∀ api resetFailed pinFailed packetBuffer address,
      (startWithResult api resetFailed pinFailed c.diversion packetBuffer address r reply w).2 =
        .ok b → Reaches c.diversion packetBuffer address r reply w ∧
          b = (reply.driver.result != 0) := by
    intro api resetFailed pinFailed packetBuffer address hout
    by_cases hreach : Reaches c.diversion packetBuffer address r reply w
    · obtain ⟨_, _, _, _, -, -, -, hstart⟩ :=
        startWithResult_of_reaches api resetFailed pinFailed hreach
      rw [hstart] at hout
      exact ⟨hreach, (Except.ok.inj hout).symm⟩
    · obtain ⟨w', ex, hstart, -⟩ :=
        startWithResult_of_not_reaches api resetFailed pinFailed hreach
      rw [hstart] at hout
      cases hout
  cases method with
  | receiveAsync =>
    rw [AsyncMethod.run] at h ⊢
    rcases receiveAsync_some_cases c reply w r with ⟨_, _, hcall⟩ | ⟨a, addr, hcall⟩
    · rw [hcall] at h
      cases h
    · rw [hcall] at h ⊢
      obtain ⟨hr, hb⟩ := hreach _ _ _ _ _ h
      exact ⟨_, _, _, _, _, hr, rfl, hb⟩
  | sendAsync =>
    rw [AsyncMethod.run] at h ⊢
    rcases sendAsync_some_cases c reply w r with ⟨-, _, hcall⟩ | ⟨a, -, -, hcall⟩
    · rw [hcall] at h
      cases h
    · rw [hcall] at h ⊢
      obtain ⟨hr, hb⟩ := hreach _ _ _ _ _ h
      exact ⟨_, _, _, _, _, hr, rfl, hb⟩

/-- **A start spares the pending operations** if it throws before it touches the result
object, or none of them has the object's block – and the block is there, if the operation
it starts will be pending itself. -/
def SparesStart (w : World) (method : AsyncMethod) (c : TransferCall) (r : ℕ)
    (reply : TransferReply) : Prop :=
  ∀ packetBuffer address, method.arguments c reply = .ok (packetBuffer, address) →
    ∀ a, (w.results r).m_overlapped = some a → ¬BlockInUse w a ∧
      (Reaches c.diversion packetBuffer address r reply w → reply.driver.Pending →
        w.native.blocks a ≠ none)

/-- **Releasing a result object spares the pending operations** if none of them has the
object's block. -/
def SparesRelease (w : World) (r : ℕ) : Prop :=
  ∀ a, (w.results r).m_overlapped = some a → ¬BlockInUse w a

/-- **Finalizing a wrapper spares the pending operations** if it does not close the event of
one of them. -/
def SparesFinalize (w : World) (h : ℕ) (closed : Bool) : Prop :=
  (w.handles h).m_fromWinDivert = false → closed = true → ¬EventInUse w (w.handles h).m_handle

/-- **A step spares the pending operations.** Only these steps can fail to. -/
def Spares (s : System) : Action → Prop
  | .start method c r reply => SparesStart s.world method c r reply
  | .dispose r => SparesRelease s.world r
  | .finalizeResult r => SparesRelease s.world r
  | .finalizeHandle h closed => SparesFinalize s.world h closed
  | _ => True

/-- **Such a step keeps the invariant.** -/
theorem inv_step {s t : System} {a : Action} (inv : Inv s.world) (hspare : Spares s a)
    (hstep : step s a = some t) : Inv t.world := by
  obtain ⟨hen, rfl⟩ := step_eq_some.mp hstep
  cases a with
  | openDiversion v => exact inv.opened v
  | construct malloc =>
    refine inv.construct ?_
    rintro a rfl
    exact Option.isNone_iff_eq_none.mp hen
  | start method c r reply =>
    obtain ⟨api, resetFailed, pinFailed, hrun⟩ := method.run_world c r reply s.world
    have hfresh : ∀ e, reply.createEvent = .ok e → s.world.native.events e = none := by
      intro e he
      simp only [System.enabled, he, Bool.and_eq_true, Option.isNone_iff_eq_none] at hen
      exact hen.2.1
    simp only [System.next, hrun]
    cases hargs : method.arguments c reply with
    | error ex => exact inv
    | ok x =>
      obtain ⟨packetBuffer, address⟩ := x
      have hspare := hspare packetBuffer address hargs
      exact inv.startWithResult api resetFailed pinFailed hfresh (fun a ha => (hspare a ha).1)
        fun hreach hpend a ha => (hspare a ha).2 hreach hpend
  | get r reply =>
    refine inv.get fun h event driver hwait => ?_
    simp only [System.enabled, hwait, Bool.and_eq_true] at hen
    exact hen.2
  | dispose r => exact inv.finalizer hspare
  | dropResult r => exact inv
  | finalizeResult r => exact inv.finalizer hspare
  | close d closed =>
    simp only [System.next, Diversion.close]
    cases hd : (s.world.diversions d).m_winDivertHandle with
    | none => exact inv
    | some h =>
      simp only
      split
      · exact (inv.diversion hd).1
      · exact inv
  | deleteDiversion d closed =>
    simp only [System.next, Diversion.finalizer]
    cases hd : (s.world.diversions d).m_winDivertHandle with
    | none => exact inv
    | some h => exact (inv.diversion hd).2
  | dropDiversion d => exact inv
  | finalizeHandle h closed => exact inv.finalizeHandle hspare
  | complete i =>
    simp only [System.next]
    cases hop : s.world.native.pending i with
    | none => exact inv
    | some op => exact inv.complete hop

/-! ### The other steps -/

/-- A start that does not spare the pending operations leaves one unprotected: the one
whose block it has written, or the one it has started with a block that is not there. -/
theorem sparesStart_of_allProtected {w : World} (inv : Inv w) {method : AsyncMethod}
    {c : TransferCall} {r : ℕ} {reply : TransferReply}
    (h : AllProtected (method.run c r reply w).world) : SparesStart w method c r reply := by
  intro packetBuffer address hargs a ha
  obtain ⟨api, resetFailed, pinFailed, hrun⟩ := method.run_world c r reply w
  rw [hrun, hargs] at h
  obtain ⟨⟨hd, hblk⟩, hkeep⟩ := startWithResult_writes api resetFailed pinFailed c.diversion
    packetBuffer address reply ha
  refine ⟨?_, fun hreach hpend hnone => ?_⟩
  · rintro ⟨i, op, hop, rfl⟩
    have hold := (hkeep i (inv.operation_lt i op hop)).trans hop
    -- the block counts the writes, and the start has written to it
    obtain ⟨-, hsame, -⟩ := h i op hold
    rw [inv.block i op hop] at hblk
    have hwrites : op.overlapped.writes + (if reply.createEvent.isOk then 2 else 1) =
        op.overlapped.writes :=
      congrArg Overlapped.writes (Option.some.inj (hblk.symm.trans hsame))
    split at hwrites <;> omega
  · obtain ⟨op, hop, rfl⟩ := startWithResult_pending api resetFailed pinFailed hreach hpend ha
    obtain ⟨-, hsome, -⟩ := h _ op hop
    rw [hnone] at hblk
    cases hblk.symm.trans hsome

/-- So does releasing a result object whose block is in use. -/
theorem sparesRelease_of_allProtected {w : World} {r : ℕ}
    (h : AllProtected (DivertAsyncResult.finalizer r w)) : SparesRelease w r := by
  rintro a ha ⟨i, op, hop, rfl⟩
  have hfin : DivertAsyncResult.finalizer r w =
      (DivertAsyncResult.freeBuffer r w).onNative (.free op.lpOverlapped) := by
    simp only [DivertAsyncResult.finalizer, DivertAsyncResult.freeBuffer_overlapped, ha]
  rw [hfin] at h
  have hold : (DivertAsyncResult.freeBuffer r w).native.pending i = some op := by
    rw [DivertAsyncResult.freeBuffer_pending]
    exact hop
  obtain ⟨-, hsome, -⟩ := h i op hold
  have hnone : ((DivertAsyncResult.freeBuffer r w).onNative
    (.free op.lpOverlapped)).native.blocks op.lpOverlapped = none := update_self ..
  cases hnone.symm.trans hsome

/-- So does finalizing the wrapper of an event in use. -/
theorem sparesFinalize_of_allProtected {w : World} (inv : Inv w) {h : ℕ} {closed : Bool}
    (hall : AllProtected (DivertHandle.finalizer h closed w)) : SparesFinalize w h closed := by
  rintro hfrom rfl ⟨i, op, hop, he⟩
  obtain ⟨e, hev, -⟩ := inv.event i op hop
  have hvalue : (w.handles h).m_handle = .value e := he.symm.trans hev
  have hvalid : (w.handles h).valid = true := by
    rw [DivertHandle.valid, hvalue]
    rfl
  have hnative : (DivertHandle.finalizer h true w).native =
      w.native.closeHandle (.value e) true := by
    simp only [DivertHandle.finalizer, DivertHandle.close, hvalid, if_true, hfrom, hvalue]
    rfl
  obtain ⟨-, -, e', he', hopen⟩ := hall i op (by rw [hnative]; exact hop)
  obtain rfl : e = e' := Handle.value.inj (hev.symm.trans he')
  rw [hnative] at hopen
  exact hopen (update_self ..)

/-- **What every pending operation needs, in every state**: along any run, from nothing
opened on, every pending operation is protected in every state exactly when every step
spares the pending ones. -/
theorem everyState_allProtected_iff (l : List Action) :
    EveryState step (fun s => AllProtected s.world) System.empty l ↔
      EveryStep step (fun s a _ => Spares s a) System.empty l := by
  have hkeep : ∀ s a t, Inv s.world → Spares s a → step s a = some t → Inv t.world :=
    fun s a t inv hspare hstep => inv_step inv hspare hstep
  have hexact : ∀ s a t, Inv s.world → step s a = some t → AllProtected t.world → Spares s a := by
    intro s a t inv hstep hall
    obtain ⟨-, rfl⟩ := step_eq_some.mp hstep
    cases a with
    | start method c r reply => exact sparesStart_of_allProtected inv hall
    | dispose r => exact sparesRelease_of_allProtected hall
    | finalizeResult r => exact sparesRelease_of_allProtected hall
    | finalizeHandle h closed => exact sparesFinalize_of_allProtected inv hall
    | _ => trivial
  have hempty : Inv System.empty.world := Inv.empty
  exact everyState_iff_everyStep (fun s inv => inv.allProtected) hkeep hexact hempty l

/-! ### An operation and what interferes with it -/

/-- Receiving into a buffer of 64 bytes. -/
def pendingCall : TransferCall where
  diversion := 0
  packetBuffer := some receiveBuffer
  packetLength := 0
  address := some ⟨some ⟨0, 0, 0⟩⟩
  length := 0

/-- Starting it for the result object zero, with the event `e`; the driver keeps it. -/
def startPending (e : ℕ) : Action :=
  .start .receiveAsync pendingCall 0 ⟨none, .ok e, ⟨0, none, errorIoPending, false⟩⟩

/-- Opening, constructing, and starting an operation. -/
def onePending : List Action := [.openDiversion 7, .construct (some 4096), startPending 8]

/-- **An operation that is waited for**: it is started, a `Get` times out, the driver
completes it, and the next `Get` fetches its result; it is protected as long as it is
pending. -/
theorem everyState_allProtected_waited :
    EveryState step (fun s => AllProtected s.world) System.empty
      (onePending ++ [.get 0 ⟨.timeout, 258, .error 0, true⟩, .complete 0,
        .get 0 ⟨.object0, 0, .ok 40, true⟩]) := by
  refine (everyState_allProtected_iff _).mpr ?_
  refine everyStep_cons.mpr fun s₁ h₁ => ⟨trivial, ?_⟩
  obtain rfl := Option.some.inj h₁
  refine everyStep_cons.mpr fun s₂ h₂ => ⟨trivial, ?_⟩
  obtain rfl := Option.some.inj h₂
  refine everyStep_cons.mpr fun s₃ h₃ => ⟨?_, ?_⟩
  · -- nothing is pending yet, and the block has just been allocated
    rintro packetBuffer address - a ha
    obtain rfl : 4096 = a := Option.some.inj ha
    exact ⟨fun ⟨i, op, hop, _⟩ => (nomatch hop), fun _ _ h => (nomatch h)⟩
  · refine everyStep_cons.mpr fun s₄ _ => ⟨trivial, ?_⟩
    refine everyStep_cons.mpr fun s₅ _ => ⟨trivial, ?_⟩
    exact everyStep_cons.mpr fun s₆ _ => ⟨trivial, everyStep_nil⟩

/-- **Operations that lose what they need**: one whose result object is disposed of, one
whose result object is used for another operation, and one whose result object the user has
let go of. -/
theorem not_everyState_allProtected :
    ¬EveryState step (fun s => AllProtected s.world) System.empty (onePending ++ [.dispose 0]) ∧
      ¬EveryState step (fun s => AllProtected s.world) System.empty
        (onePending ++ [startPending 9]) ∧
      ¬EveryState step (fun s => AllProtected s.world) System.empty
        (onePending ++ [.dropResult 0, .finalizeResult 0]) := by
  refine ⟨fun h => ?_, fun h => ?_, fun h => ?_⟩
  · obtain ⟨-, hblk, -⟩ := h _ [] _ (List.append_nil _).symm rfl 0 _ rfl
    exact absurd hblk (by decide)
  · obtain ⟨-, hblk, -⟩ := h _ [] _ (List.append_nil _).symm rfl 0 _ rfl
    exact absurd hblk (by decide)
  · obtain ⟨-, hblk, -⟩ := h _ [] _ (List.append_nil _).symm rfl 0 _ rfl
    exact absurd hblk (by decide)

end DivertNet
