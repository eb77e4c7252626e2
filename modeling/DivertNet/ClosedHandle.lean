import DivertNet.Library.Holders
import DivertNet.AwaitedGet
import DivertNet.StatusFields

/-!
# Handles that have been closed

The system hands out handle values again: a handle that is closed twice, or used after it was
closed, may be somebody else's. Two kinds of handle are in play, each with its own function to
close it, and several objects close them: `DivertHandle::Close`, `Diversion::Close`, `Get`, and
the destructors and finalizers. A close that fails may be tried again.

The wrappers are `Holders.State`: `DivertNet.holders` is the abstraction, with the flag of a
wrapper as the kind and its handle as the name. A handle goes into one wrapper when it is
made, it is used from there, and the wrapper forgets it when its close succeeds; so every
public call is a list of moves of the discipline (`DivertNet.holders_call`), and the native calls
they make are orderly: `DivertNet.handles_closedOnce`.
-/

namespace DivertNet

open Function Runs Holders

/-! ### `SetParam` and `GetParam` -/

/-- A native call of `SetParam` or `GetParam`, with the handle it is given. -/
inductive ParamCall where
  | winDivertSetParam (handle : Handle) (param : BitVec 32) (value : BitVec 64)
  | winDivertGetParam (handle : Handle) (param : BitVec 32)
  deriving DecidableEq, Repr

namespace Diversion

/-- The check both methods begin with: the handle, if it is a usable one. -/
def paramHandle (d : ℕ) (w : World) : Option Handle :=
  match w.driverHandle d with
  | none => none
  | some handle => if handle = .null ∨ handle = .invalid then none else some handle

/-- `Diversion::SetParam`: the native call, if one is made, and the return value. -/
def setParam (d : ℕ) (param : BitVec 32) (value : BitVec 64) (result : ℕ) (w : World) :
    Option ParamCall × Bool :=
  match paramHandle d w with
  | none => (none, false)
  | some handle => (some (.winDivertSetParam handle param value), result == 1)

/-- `Diversion::GetParam`. What the driver stores is not copied to the caller's `value`. -/
def getParam (d : ℕ) (param : BitVec 32) (value : BitVec 64) (result : ℕ) (w : World) :
    Option ParamCall × BitVec 64 × Bool :=
  match paramHandle d w with
  | none => (none, value, false)
  | some handle => (some (.winDivertGetParam handle param), value, result == 1)

end Diversion

/-! ### The public calls -/

/-- The ways to move a packet without a result object. -/
inductive PlainTransfer where
  | receive | receiveAsync | send | sendAsync
  deriving DecidableEq, Repr

/-- The call of such a method. -/
def PlainTransfer.run (method : PlainTransfer) (c : TransferCall) (reply : TransferReply)
    (w : World) : TransferResult :=
  match method with
  | .receive => DivertNet.receive c reply w
  | .receiveAsync => DivertNet.receiveAsync c none reply w
  | .send => DivertNet.send c reply w
  | .sendAsync => DivertNet.sendAsync c none reply w

/-- A public call on a `Diversion`, a `DivertHandle` or a `DivertAsyncResult`, with what the
system answers; destructor and finalizer of a class run the same body. -/
inductive PublicCall where
  | openDiversion (v : ℕ)
  | constructResult (malloc : Option ℕ)
  | transfer (method : PlainTransfer) (c : TransferCall) (reply : TransferReply)
  | start (method : AsyncMethod) (c : TransferCall) (r : ℕ) (reply : TransferReply)
  | setParam (d : ℕ) (param : BitVec 32) (value : BitVec 64) (result : ℕ)
  | getParam (d : ℕ) (param : BitVec 32) (value : BitVec 64) (result : ℕ)
  | get (r : ℕ) (reply : GetReply)
  | closeDiversion (d : ℕ) (closed : Bool)
  | closeHandle (h : ℕ) (closed : Bool)
  | disposeDiversion (d : ℕ) (closed : Bool)
  | disposeHandle (h : ℕ) (closed : Bool)
  | disposeResult (r : ℕ)

namespace PublicCall

/-- The world after the call. -/
def run (w : World) : PublicCall → World
  | .openDiversion v => Diversion.opened v w
  | .constructResult malloc => DivertAsyncResult.construct malloc w
  | .transfer method c reply => (method.run c reply w).world
  | .start method c r reply => (method.run c r reply w).world
  | .setParam .. => w
  | .getParam .. => w
  | .get r reply => (DivertAsyncResult.get r reply w).1
  | .closeDiversion d closed => (Diversion.close d closed w).1
  | .closeHandle h closed => (DivertHandle.close h closed w).1
  | .disposeDiversion d closed => Diversion.finalizer d closed w
  | .disposeHandle h closed => DivertHandle.finalizer h closed w
  | .disposeResult r => DivertAsyncResult.finalizer r w

/-- The handle the system makes during the call, if it makes one: a driver handle (`true`) or
an event. -/
def created (w : World) : PublicCall → Option (Bool × ℕ)
  | .openDiversion v => some (true, v)
  | .start method c r reply =>
    if resets r w method c reply then
      match reply.createEvent with
      | .error _ => none
      | .ok e => some (false, e)
    else none
  | _ => none

/-- The native call of `SetParam` or `GetParam`. -/
def paramCall (w : World) : PublicCall → Option ParamCall
  | .setParam d param value result => (Diversion.setParam d param value result w).1
  | .getParam d param value result => (Diversion.getParam d param value result w).1
  | _ => none

end PublicCall

/-! ### What happens to the handles -/

/-- The value of a handle. -/
def Handle.value? : Handle → Option ℕ
  | .value n => some n
  | _ => none

/-- What a native call does with the handle it is given. `WinDivertClose` is the release of a
driver handle, `CloseHandle` that of an event. -/
def NativeCall.event : NativeCall → Option (Event Bool ℕ)
  | .transfer c => c.handle.value?.map .use
  | .winDivertClose handle closed => handle.value?.map fun v => .release true v closed
  | .closeHandle handle closed => handle.value?.map fun v => .release false v closed
  | .waitForSingleObject handle => handle.value?.map .use
  | .getOverlappedResult handle _ => handle.value?.map .use

/-- The same for `SetParam` and `GetParam`. -/
def ParamCall.event : ParamCall → Option (Event Bool ℕ)
  | .winDivertSetParam handle _ _ => handle.value?.map .use
  | .winDivertGetParam handle _ => handle.value?.map .use

/-- The world, and what has happened to the handles so far. -/
structure Session where
  world : World
  trace : List (Event Bool ℕ)

/-- Nothing has happened yet. -/
def Session.empty : Session := ⟨.empty, []⟩

/-- The events of a call: the handle made, and the native calls that were given one. -/
def Session.events (s : Session) (a : PublicCall) : List (Event Bool ℕ) :=
  ((a.created s.world).map fun x => Event.issue x.1 x.2).toList ++
    ((((a.run s.world).native.log.drop s.world.native.log.length).filterMap NativeCall.event) ++
      ((a.paramCall s.world).bind ParamCall.event).toList)

/-- **One call**, if the handle value it makes is one not seen before. -/
def Session.step (s : Session) (a : PublicCall) : Option Session :=
  if (a.created s.world).all fun x => s.trace.all fun e => e.name != x.2 then
    some ⟨a.run s.world, s.trace ++ s.events a⟩
  else none

/-- **A wrapper stays closed** over a step: one that is not valid stays so, and one whose
handle has been closed is not valid. -/
def StaysClosed (s t : Session) : Prop :=
  ∀ h < s.world.nextHandle,
    ((s.world.handles h).valid = false → (t.world.handles h).valid = false) ∧
      ∀ v, (s.world.handles h).m_handle = .value v → Released v t.trace →
        (t.world.handles h).valid = false

/-! ### The wrappers as holders -/

/-- **The wrappers are holders**: the kind is the flag, the name is the handle value. -/
def holders (w : World) (tr : List (Event Bool ℕ)) : Holders.State Bool ℕ where
  next := w.nextHandle
  kind h := (w.handles h).m_fromWinDivert
  name h := (w.handles h).m_handle.value?
  trace := tr

/-- Every wrapper is as it was, or without a handle. -/
def KeepsWrappers (w w' : World) : Prop :=
  ∀ h < w.nextHandle, w'.handles h = w.handles h ∨ (w'.handles h).m_handle = .invalid

/-- **Going from one world to another by moves of the holders**, while these native calls are
made. -/
structure Goes (w w' : World) (calls : List NativeCall) (ms : List (Move Bool ℕ)) : Prop where
  log : w'.native.log = w.native.log ++ calls
  nextHandle : w'.nextHandle = w.nextHandle
  wrappers : KeepsWrappers w w'
  holders_eq : ∀ tr, holders w' (tr ++ calls.filterMap NativeCall.event) =
    ms.foldl Move.apply (holders w tr)

/-- Going by quiet moves. -/
def GoesQuietly (w w' : World) : Prop :=
  ∃ calls ms, Goes w w' calls ms ∧ ∀ m ∈ ms, m.Quiet

section Goes

variable {w w₁ w₂ : World} {calls calls₁ calls₂ : List NativeCall} {ms₁ ms₂ : List (Move Bool ℕ)}

theorem Goes.trans (h₁ : Goes w w₁ calls₁ ms₁) (h₂ : Goes w₁ w₂ calls₂ ms₂) :
    Goes w w₂ (calls₁ ++ calls₂) (ms₁ ++ ms₂) where
  log := by rw [h₂.log, h₁.log, List.append_assoc]
  nextHandle := h₂.nextHandle.trans h₁.nextHandle
  wrappers i hi := by
    rcases h₂.wrappers i (h₁.nextHandle ▸ hi) with hsame | hinvalid
    · rw [hsame]
      exact h₁.wrappers i hi
    · exact Or.inr hinvalid
  holders_eq tr := by
    rw [List.filterMap_append, ← List.append_assoc, h₂.holders_eq, h₁.holders_eq,
      List.foldl_append]

theorem GoesQuietly.trans (h₁ : GoesQuietly w w₁) (h₂ : GoesQuietly w₁ w₂) : GoesQuietly w w₂ := by
  obtain ⟨calls₁, ms₁, hgoes₁, hquiet₁⟩ := h₁
  obtain ⟨calls₂, ms₂, hgoes₂, hquiet₂⟩ := h₂
  refine ⟨_, _, hgoes₁.trans hgoes₂, fun m hm => ?_⟩
  exact (List.mem_append.mp hm).elim (hquiet₁ m) (hquiet₂ m)

/-- One use of the handle in a wrapper. -/
theorem holders_use (w : World) (tr : List (Event Bool ℕ)) (h : ℕ) :
    (Move.use h).apply (holders w tr) =
      holders w (tr ++ ((w.handles h).m_handle.value?.map Event.use).toList) := by
  simp only [Move.apply, holders]
  cases (w.handles h).m_handle.value? with
  | none => simp
  | some v => rfl

/-- **Calls that are given the handle of a wrapper**, in a world with the same wrappers, are
uses. -/
theorem goes_uses (hlog : w₁.native.log = w.native.log ++ calls)
    (hnext : w₁.nextHandle = w.nextHandle) (hhandles : w₁.handles = w.handles)
    (huses : ∀ c ∈ calls, ∃ h, c.event = (w.handles h).m_handle.value?.map .use) :
    GoesQuietly w w₁ := by
  have hsame : ∀ tr, holders w₁ tr = holders w tr := fun tr => by
    rw [holders, holders, hnext, hhandles]
  -- one move for each call
  have hmoves : ∀ cs : List NativeCall,
      (∀ c ∈ cs, ∃ h, c.event = (w.handles h).m_handle.value?.map .use) →
        ∃ ms : List (Move Bool ℕ), (∀ m ∈ ms, m.Quiet) ∧ ∀ tr,
          holders w (tr ++ cs.filterMap NativeCall.event) = ms.foldl Move.apply (holders w tr) := by
    intro cs hcs
    induction cs with
    | nil => exact ⟨[], by simp, by simp⟩
    | cons c cs ih =>
      obtain ⟨h, hc⟩ := hcs c List.mem_cons_self
      obtain ⟨ms, hquiet, hms⟩ := ih fun c' hc' => hcs c' (List.mem_cons_of_mem _ hc')
      refine ⟨.use h :: ms, fun m hm => ?_, fun tr => ?_⟩
      · rcases List.mem_cons.mp hm with rfl | hm
        · trivial
        · exact hquiet m hm
      · rw [List.foldl_cons, holders_use, ← hms, List.append_assoc, List.filterMap_cons, hc]
        cases (w.handles h).m_handle.value? <;> rfl
  obtain ⟨ms, hquiet, hms⟩ := hmoves calls huses
  refine ⟨calls, ms, ⟨hlog, hnext, fun h _ => Or.inl (congrFun hhandles h), fun tr => ?_⟩, hquiet⟩
  rw [hsame, hms]

/-- One such call. -/
theorem goes_use {c : NativeCall} (h : ℕ) (hlog : w₁.native.log = w.native.log ++ [c])
    (hnext : w₁.nextHandle = w.nextHandle) (hhandles : w₁.handles = w.handles)
    (huse : c.event = (w.handles h).m_handle.value?.map .use) : GoesQuietly w w₁ := by
  refine goes_uses hlog hnext hhandles fun c' hc' => ⟨h, ?_⟩
  rw [List.mem_singleton.mp hc']
  exact huse

/-- Nothing that changes the wrappers or the log. -/
theorem goes_same (hlog : w₁.native.log = w.native.log) (hnext : w₁.nextHandle = w.nextHandle)
    (hhandles : w₁.handles = w.handles) : GoesQuietly w w₁ := by
  have hnone : w₁.native.log = w.native.log ++ [] := by rw [hlog, List.append_nil]
  exact goes_uses hnone hnext hhandles fun c hc => absurd hc List.not_mem_nil

/-- Making a wrapper give up its handle empties the holder. -/
theorem holders_giveUp (h : ℕ) (w : World) (native : Native) (tr : List (Event Bool ℕ)) :
    holders { w with
      native := native
      handles := update w.handles h { w.handles h with m_handle := .invalid } } tr =
      (Move.forget h).apply (holders w tr) := by
  ext i
  · rfl
  · rcases eq_or_ne i h with rfl | hne
    · simp [holders, Move.apply]
    · simp [holders, Move.apply, hne]
  · rcases eq_or_ne i h with rfl | hne
    · simp [holders, Move.apply, Handle.value?]
    · simp [holders, Move.apply, hne]
  · rfl

theorem keepsWrappers_giveUp (h : ℕ) (w : World) (native : Native) :
    KeepsWrappers w { w with
      native := native
      handles := update w.handles h { w.handles h with m_handle := .invalid } } := by
  intro i _
  rcases eq_or_ne i h with rfl | hne
  · exact Or.inr (by simp)
  · exact Or.inl (update_of_ne hne _ _)

/-- **Closing a wrapper** is a release. -/
theorem goes_close (h : ℕ) (closed : Bool) (w : World) :
    ∃ calls, Goes w (DivertHandle.close h closed w).1 calls [.release h closed] := by
  by_cases hvalid : (w.handles h).valid = true
  · obtain ⟨native, hlog, hclose⟩ := DivertHandle.close_of_valid hvalid closed
    rw [hclose]
    -- the call is the one that matches the kind of the wrapper
    have hevent : ((w.handles h).closing closed).event =
        (w.handles h).m_handle.value?.map fun v =>
          .release (w.handles h).m_fromWinDivert v closed := by
      rw [DivertHandle.closing]
      cases (w.handles h).m_fromWinDivert <;> rfl
    refine ⟨[(w.handles h).closing closed], hlog, rfl, ?_, fun tr => ?_⟩
    · cases closed with
      | true => exact keepsWrappers_giveUp h w native
      | false => exact fun i _ => Or.inl (by simp)
    · simp only [List.filterMap_cons, hevent, List.foldl_cons, List.foldl_nil]
      cases closed with
      | true =>
        rw [if_pos rfl, holders_giveUp]
        simp only [Move.apply, holders]
        cases hv : (w.handles h).m_handle.value? with
        | none =>
          have hsame := update_eq_self h fun i => (w.handles i).m_handle.value?
          simp only [hv] at hsame
          simp [hsame]
        | some v => rfl
      | false =>
        simp only [Bool.false_eq_true, if_false, update_eq_self, Move.apply, holders]
        cases (w.handles h).m_handle.value? with
        | none => simp
        | some v => rfl
  · rw [DivertHandle.close_of_not_valid hvalid]
    refine ⟨[], (List.append_nil _).symm, rfl, fun i _ => Or.inl rfl, fun tr => ?_⟩
    have hnone : (w.handles h).m_handle.value? = none := by
      have hinvalid : (w.handles h).m_handle = .invalid := by
        simpa [DivertHandle.valid] using hvalid
      rw [hinvalid]
      rfl
    simp [Move.apply, holders, hnone]

/-- It is quiet. -/
theorem goesQuietly_close (h : ℕ) (closed : Bool) (w : World) :
    GoesQuietly w (DivertHandle.close h closed w).1 := by
  obtain ⟨calls, hclose⟩ := goes_close h closed w
  refine ⟨calls, _, hclose, fun m hm => ?_⟩
  rw [List.mem_singleton.mp hm]
  trivial

/-- **Finalizing a wrapper** is a release, and the holder is emptied in any case. -/
theorem goes_finalizeHandle (h : ℕ) (closed : Bool) (w : World) :
    ∃ calls, Goes w (DivertHandle.finalizer h closed w) calls [.release h closed, .forget h] := by
  obtain ⟨calls, hclose⟩ := goes_close h closed w
  have hforget : Goes (DivertHandle.close h closed w).1 (DivertHandle.finalizer h closed w) []
      [.forget h] := by
    refine ⟨(List.append_nil _).symm, rfl, keepsWrappers_giveUp h _ _, fun tr => ?_⟩
    rw [List.filterMap_nil, List.append_nil, DivertHandle.finalizer, holders_giveUp]
    rfl
  exact ⟨_, hclose.trans hforget⟩

/-! #### The calls -/

/-- A handle of a `Diversion` is that of a wrapper. -/
theorem driverHandle_eq_some {d : ℕ} {handle : Handle} (h : w.driverHandle d = some handle) :
    ∃ i, (w.handles i).m_handle = handle := by
  obtain ⟨i, -, hi⟩ := Option.map_eq_some_iff.mp h
  exact ⟨i, hi⟩

/-- A request given the handle of a `Diversion`. -/
theorem goes_record {d : ℕ} {c : DriverCall} (h : w.driverHandle d = some c.handle) :
    GoesQuietly w (w.onNative (.record c)) := by
  obtain ⟨i, hi⟩ := driverHandle_eq_some h
  refine goes_use i rfl rfl rfl ?_
  rw [hi]
  rfl

/-- The transfers without a result object. -/
theorem goes_transfer (method : PlainTransfer) (c : TransferCall) (reply : TransferReply)
    (w : World) : GoesQuietly w (method.run c reply w).world := by
  have hsame : GoesQuietly w w := goes_same rfl rfl rfl
  cases method with
  | receive =>
    simp only [PlainTransfer.run, DivertNet.receive]
    split
    · exact hsame
    · split
      · exact hsame
      · rename_i hdrv
        exact goes_record hdrv
  | receiveAsync =>
    simp only [PlainTransfer.run, DivertNet.receiveAsync]
    split
    · exact hsame
    · split
      · exact hsame
      · rename_i hdrv
        split <;> exact goes_record hdrv
  | send =>
    simp only [PlainTransfer.run, DivertNet.send]
    split
    · exact hsame
    · split
      · rename_i hdrv _
        exact goes_record hdrv
      · exact hsame
  | sendAsync =>
    simp only [PlainTransfer.run, DivertNet.sendAsync]
    split
    · exact hsame
    · split
      · rename_i hdrv _
        split <;> exact goes_record hdrv
      · exact hsame

/-- The driver handle `Get` asks with is that of a wrapper. -/
theorem waitable_driver {r h : ℕ} {event driver : Handle}
    (hwait : DivertAsyncResult.waitable r w = some (h, event, driver)) :
    ∃ i, (w.handles i).m_handle = driver := by
  rw [DivertAsyncResult.waitable] at hwait
  split at hwait
  · rename_i h' d _ _
    simp only at hwait
    split at hwait
    · obtain ⟨-, -, rfl⟩ : h' = h ∧ (w.handles h').m_handle = event ∧
          (w.handles d).m_handle = driver := by simpa using hwait
      exact ⟨d, rfl⟩
    · cases hwait
  · cases hwait

/-- Releasing the pin of a result object is no business of the wrappers. -/
theorem goes_freeBuffer (r : ℕ) (w : World) : GoesQuietly w (DivertAsyncResult.freeBuffer r w) := by
  rw [DivertAsyncResult.freeBuffer]
  split <;> exact goes_same rfl rfl rfl

/-- **`Get`** waits with the event, asks with the driver handle, and closes the event. -/
theorem goes_get (r : ℕ) (reply : GetReply) (w : World) :
    GoesQuietly w (DivertAsyncResult.get r reply w).1 := by
  cases hwait : DivertAsyncResult.waitable r w with
  | none =>
    rw [DivertAsyncResult.get_of_not_waitable hwait]
    exact goes_same rfl rfl rfl
  | some x =>
    obtain ⟨h, event, driver⟩ := x
    obtain ⟨-, hevent, -⟩ := waitable_eq_some hwait
    obtain ⟨i, hdriver⟩ := waitable_driver hwait
    have hwaits : (NativeCall.waitForSingleObject event).event =
        (w.handles h).m_handle.value?.map .use := by
      rw [hevent]
      rfl
    by_cases hobject : reply.wait = .object0
    · rw [DivertAsyncResult.get_of_signalled hwait hobject]
      have hnext : (DivertAsyncResult.fetched r event driver reply.overlappedResult w).nextHandle =
          w.nextHandle := by
        cases event <;> cases reply.overlappedResult <;> rfl
      obtain ⟨hlog, hhandles, -, -⟩ := fetched_spec r event driver reply.overlappedResult w
      have hfetched := goes_uses hlog hnext hhandles fun c hc => by
        rcases List.mem_pair.mp hc with rfl | rfl
        · exact ⟨h, hwaits⟩
        · exact ⟨i, by rw [hdriver]; rfl⟩
      exact (hfetched.trans (goesQuietly_close ..)).trans (goes_freeBuffer r _)
    · obtain ⟨f, -, hget⟩ := DivertAsyncResult.get_of_not_signalled hwait hobject
      rw [hget]
      exact goes_use h rfl rfl rfl hwaits

/-- Disposing of a result object. -/
theorem goes_disposeResult (r : ℕ) (w : World) :
    GoesQuietly w (DivertAsyncResult.finalizer r w) := by
  have hfree := goes_freeBuffer r w
  rw [DivertAsyncResult.finalizer]
  split
  · exact hfree
  · exact hfree.trans (goes_same rfl rfl rfl)

/-! #### The calls that make a handle -/

/-- A handle is made and wrapped. -/
structure Opens (k : Bool) (x : ℕ) (w w₁ : World) : Prop where
  log : w₁.native.log = w.native.log
  nextHandle : w₁.nextHandle = w.nextHandle + 1
  handles : w₁.handles = update w.handles w.nextHandle ⟨.value x, k⟩

/-- **Making a handle** puts a new name into a new holder. -/
theorem Opens.holders_eq {k : Bool} {x : ℕ} (h : Opens k x w w₁) (tr : List (Event Bool ℕ)) :
    holders w₁ (tr ++ [.issue k x]) = (Move.hold k x).apply (holders w tr) := by
  ext i
  · exact h.nextHandle
  · rcases eq_or_ne i w.nextHandle with rfl | hne
    · simp [holders, Move.apply, h.handles]
    · simp [holders, Move.apply, h.handles, hne]
  · rcases eq_or_ne i w.nextHandle with rfl | hne
    · simp [holders, Move.apply, h.handles, Handle.value?]
    · simp [holders, Move.apply, h.handles, hne]
  · rfl

/-- **A start** makes its event, where it gets that far, and makes its request with the driver
handle. -/
theorem goes_start (method : AsyncMethod) (c : TransferCall) (r : ℕ) (reply : TransferReply)
    (w : World) :
    ((PublicCall.start method c r reply).created w = none ∧
        GoesQuietly w (method.run c r reply w).world) ∨
      ∃ e w₁, (PublicCall.start method c r reply).created w = some (false, e) ∧
        Opens false e w w₁ ∧ GoesQuietly w₁ (method.run c r reply w).world := by
  obtain ⟨api, resetFailed, pinFailed, hrun⟩ := method.run_world c r reply w
  rw [PublicCall.created, resets, hrun]
  cases method.arguments c reply with
  | error ex => exact Or.inl ⟨rfl, goes_same rfl rfl rfl⟩
  | ok x =>
    obtain ⟨packetBuffer, address⟩ := x
    cases ha : (w.results r).m_overlapped with
    | none =>
      simp only [startWithResult_null ha]
      exact Or.inl ⟨rfl, goes_same rfl rfl rfl⟩
    | some a =>
      cases he : reply.createEvent with
      | error lastError =>
        simp only [startWithResult_failed ha he]
        exact Or.inl ⟨rfl, goes_same rfl rfl rfl⟩
      | ok e =>
        have hopens : Opens false e w (prepared c.diversion r packetBuffer.ref a e w) :=
          ⟨rfl, rfl, rfl⟩
        refine Or.inr ⟨e, _, rfl, hopens, ?_⟩
        rcases startWithResult_prepared api resetFailed pinFailed c.diversion packetBuffer
            address ha he with
          ⟨-, i, addr, -, hstart⟩ | ⟨-, ex, hstart⟩
        · simp only [hstart]
          apply goes_use i
          · rw [answered_native]
            exact Native.submit_log _ _ _ _
          · rw [answered]
            split <;> [split; skip] <;> rfl
          · rw [answered]
            split <;> [split; skip] <;> rfl
          · rfl
        · simp only [hstart]
          exact goes_same rfl rfl rfl

/-- The wrapper whose destructor or finalizer a call runs, and whether the close succeeds. -/
def PublicCall.disposes (w : World) : PublicCall → Option (ℕ × Bool)
  | .disposeHandle h closed => some (h, closed)
  | .disposeDiversion d closed => (w.diversions d).m_winDivertHandle.map (·, closed)
  | _ => none

/-- **The moves a call makes**: quiet ones, or the two of a wrapper that is disposed of. -/
def PublicCall.Makes (a : PublicCall) (w : World) (ms : List (Move Bool ℕ)) : Prop :=
  match a.disposes w with
  | none => ∀ m ∈ ms, m.Quiet
  | some (h, closed) => ms = [.release h closed, .forget h]

/-- None of them brings a new handle. -/
theorem PublicCall.Makes.old {a : PublicCall} {ms : List (Move Bool ℕ)} (h : a.Makes w ms) :
    ∀ m ∈ ms, m.Old := by
  rw [Makes] at h
  split at h
  · exact fun m hm => (h m hm).old
  · subst h
    simp [Move.Old]

/-- **Every call follows the discipline**: it goes by its moves, possibly after making a
handle. -/
theorem goes_call (a : PublicCall) (w : World) :
    (a.created w = none ∧ ∃ calls ms, Goes w (a.run w) calls ms ∧ a.Makes w ms) ∨
      ∃ k x w₁, a.created w = some (k, x) ∧ Opens k x w w₁ ∧
        ∃ calls ms, Goes w₁ (a.run w) calls ms ∧ a.Makes w ms := by
  have hsame : GoesQuietly w w := goes_same rfl rfl rfl
  cases a with
  | openDiversion v =>
    exact Or.inr ⟨true, v, Diversion.opened v w, rfl, ⟨rfl, rfl, rfl⟩, goes_same rfl rfl rfl⟩
  | constructResult malloc =>
    refine Or.inl ⟨rfl, goes_same ?_ rfl rfl⟩
    cases malloc <;> rfl
  | transfer method c reply => exact Or.inl ⟨rfl, goes_transfer method c reply w⟩
  | start method c r reply =>
    rcases goes_start method c r reply w with h | ⟨e, w₁, hcreated, hopens, hgoes⟩
    · exact Or.inl h
    · exact Or.inr ⟨false, e, w₁, hcreated, hopens, hgoes⟩
  | setParam d param value result => exact Or.inl ⟨rfl, hsame⟩
  | getParam d param value result => exact Or.inl ⟨rfl, hsame⟩
  | get r reply => exact Or.inl ⟨rfl, goes_get r reply w⟩
  | closeDiversion d closed =>
    refine Or.inl ⟨rfl, ?_⟩
    simp only [PublicCall.run, Diversion.close]
    split
    · exact hsame
    · split
      · exact goesQuietly_close _ closed w
      · exact hsame
  | closeHandle h closed => exact Or.inl ⟨rfl, goesQuietly_close h closed w⟩
  | disposeDiversion d closed =>
    refine Or.inl ⟨rfl, ?_⟩
    simp only [PublicCall.run, Diversion.finalizer, PublicCall.Makes, PublicCall.disposes]
    cases (w.diversions d).m_winDivertHandle with
    | none => exact hsame
    | some h =>
      obtain ⟨calls, hgoes⟩ := goes_finalizeHandle h closed w
      exact ⟨calls, _, hgoes, rfl⟩
  | disposeHandle h closed =>
    obtain ⟨calls, hgoes⟩ := goes_finalizeHandle h closed w
    exact Or.inl ⟨rfl, calls, _, hgoes, rfl⟩
  | disposeResult r => exact Or.inl ⟨rfl, goes_disposeResult r w⟩

/-- `SetParam` and `GetParam` use the handle of a wrapper, and change nothing. -/
theorem paramCall_uses {a : PublicCall} {p : ParamCall} (hp : a.paramCall w = some p) :
    (∃ i, p.event = (w.handles i).m_handle.value?.map .use) ∧ a.run w = w ∧
      a.created w = none ∧ a.disposes w = none := by
  have hhandle : ∀ d handle, Diversion.paramHandle d w = some handle →
      ∃ i, (w.handles i).m_handle = handle := by
    intro d handle h
    rw [Diversion.paramHandle] at h
    split at h
    · cases h
    · rename_i hdrv
      split at h
      · cases h
      · exact driverHandle_eq_some (hdrv.trans h)
  cases a with
  | setParam d param value result =>
    simp only [PublicCall.paramCall, Diversion.setParam] at hp
    split at hp
    · cases hp
    · rename_i handle hpar
      obtain rfl := Option.some.inj hp
      obtain ⟨i, hi⟩ := hhandle d handle hpar
      exact ⟨⟨i, by rw [hi]; rfl⟩, rfl, rfl, rfl⟩
  | getParam d param value result =>
    simp only [PublicCall.paramCall, Diversion.getParam] at hp
    split at hp
    · cases hp
    · rename_i handle hpar
      obtain rfl := Option.some.inj hp
      obtain ⟨i, hi⟩ := hhandle d handle hpar
      exact ⟨⟨i, by rw [hi]; rfl⟩, rfl, rfl, rfl⟩
  | _ => cases hp

end Goes

/-! ### Every run is orderly -/

section Sessions

variable {s t : Session} {a : PublicCall}

/-- The holders of a session. -/
def Session.holders (s : Session) : Holders.State Bool ℕ := DivertNet.holders s.world s.trace

/-- The holders before the call uses any of them: with the handle the call makes, if it makes
one. -/
def Session.holding (s : Session) (a : PublicCall) : Holders.State Bool ℕ :=
  match a.created s.world with
  | none => s.holders
  | some (k, x) => (Move.hold k x).apply s.holders

/-- They keep to the discipline. -/
def Session.Disciplined (s : Session) : Prop := Holders.Inv s.holders

/-- **A public call is its moves**, after putting the handle it makes into a wrapper. -/
theorem holders_call (a : PublicCall) (s : Session) :
    ∃ ms, a.Makes s.world ms ∧
      holders (a.run s.world) (s.trace ++ s.events a) = ms.foldl Move.apply (s.holding a) := by
  cases hp : a.paramCall s.world with
  | some p =>
    -- `SetParam` and `GetParam` use a handle, and change nothing
    obtain ⟨⟨i, hi⟩, hrun, hcreated, hdisposes⟩ := paramCall_uses hp
    refine ⟨[.use i], ?_, ?_⟩
    · rw [PublicCall.Makes, hdisposes]
      intro m hm
      rw [List.mem_singleton.mp hm]
      trivial
    · rw [Session.events, Session.holding, hcreated, hp, hrun, List.drop_length, List.foldl_cons,
        List.foldl_nil, Session.holders, holders_use]
      simp [hi]
  | none =>
    rw [Session.events, hp, Session.holding]
    rcases goes_call a s.world with
      ⟨hcreated, calls, ms, hgoes, hmakes⟩ | ⟨k, x, w₁, hcreated, hopens, calls, ms, hgoes, hmakes⟩
    · refine ⟨ms, hmakes, ?_⟩
      rw [hcreated, hgoes.log, List.drop_left]
      simpa [Session.holders] using hgoes.holders_eq s.trace
    · refine ⟨ms, hmakes, ?_⟩
      rw [hcreated, hgoes.log, hopens.log, List.drop_left]
      have hmoves := hgoes.holders_eq (s.trace ++ [.issue k x])
      rw [hopens.holders_eq] at hmoves
      simpa [Session.holders] using hmoves

/-- Before that the discipline holds, if the handle made is new. -/
theorem inv_holding (inv : s.Disciplined)
    (hfresh : ((a.created s.world).all fun x => s.trace.all fun e => e.name != x.2) = true) :
    Holders.Inv (s.holding a) := by
  rw [Session.holding]
  cases hcreated : a.created s.world with
  | none => exact inv
  | some x =>
    obtain ⟨k, v⟩ := x
    rw [hcreated] at hfresh
    have hnew : (Move.hold k v).Fresh s.holders := fun e he =>
      bne_iff_ne.mp (List.all_eq_true.mp hfresh e he)
    exact Holders.Inv.apply (s := s.holders) inv hnew

/-- A call leaves every wrapper as it was, or without a handle. -/
theorem keepsWrappers_call (a : PublicCall) (w : World) : KeepsWrappers w (a.run w) := by
  rcases goes_call a w with ⟨-, calls, ms, hgoes, -⟩ | ⟨k, x, w₁, -, hopens, calls, ms, hgoes, -⟩
  · exact hgoes.wrappers
  · intro h hh
    have hold : w₁.handles h = w.handles h := by rw [hopens.handles, update_of_ne hh.ne]
    rw [← hold]
    exact hgoes.wrappers h (by rw [hopens.nextHandle]; exact Nat.lt_succ_of_lt hh)

/-- What a sequence of moves does to the wrappers and their handles. -/
theorem staysClosed_of_keeps {w' : World} {tr : List (Event Bool ℕ)}
    (hkeep : KeepsWrappers s.world w') (inv : Holders.Inv (holders w' tr)) :
    StaysClosed s ⟨w', tr⟩ := by
  intro h hh
  have hinvalid : (w'.handles h).m_handle = .invalid → (w'.handles h).valid = false := by
    intro he
    rw [DivertHandle.valid, he]
    rfl
  rcases hkeep h hh with hsame | he
  · refine ⟨fun hv => by rw [hsame]; exact hv, fun v hv hreleased => ?_⟩
    -- a wrapper that still has the handle has one that was not released
    have hname : (holders w' tr).name h = some v := by
      simp only [holders, hsame, hv]
      rfl
    exact absurd hreleased (inv.live h v hname)
  · exact ⟨fun _ => hinvalid he, fun _ _ _ => hinvalid he⟩

/-- **One call** keeps to the discipline, and what is closed stays closed. -/
theorem disciplined_step (inv : s.Disciplined) (hstep : s.step a = some t) :
    StaysClosed s t ∧ t.Disciplined := by
  rw [Session.step] at hstep
  split at hstep
  · rename_i hfresh
    obtain rfl := Option.some.inj hstep
    obtain ⟨ms, hmakes, hms⟩ := holders_call a s
    have hend : Holders.Inv (holders (a.run s.world) (s.trace ++ s.events a)) := by
      rw [hms]
      exact (inv_holding inv hfresh).foldl hmakes.old
    exact ⟨staysClosed_of_keeps (keepsWrappers_call a s.world) hend, hend⟩
  · cases hstep

/-- **A closed handle stays closed**: whatever public calls are made, in whatever order, and
whichever closes succeed, in every state no handle that was closed has been given to a native
call again, every handle was closed with the function of its kind, and in every step a
wrapper whose handle has been closed is not valid. -/
theorem handles_closedOnce (l : List PublicCall) :
    EveryState Session.step (fun s => Orderly s.trace) Session.empty l ∧
      EveryStep Session.step (fun s _ t => StaysClosed s t) Session.empty l := by
  have hempty : Session.empty.Disciplined := .start fun _ => rfl
  have hstep : ∀ s a t, s.Disciplined → Session.step s a = some t →
      StaysClosed s t ∧ t.Disciplined := fun _ _ _ inv hstep => disciplined_step inv hstep
  refine ⟨?_, everyStep_of_invariant hstep hempty l⟩
  have hstates := everyState_of_guard (fun s a t inv (_ : True) h => (hstep s a t inv h).2)
    hempty (l := l) fun _ _ _ _ _ _ _ _ => trivial
  exact hstates.mono fun _ inv => inv.orderly

end Sessions

end DivertNet
