import DivertNet.PinnedBuffer

/-!
# `NoError` and `ErrorCode`

A result object reports the state of its operation twice: `NoError` says whether there was an
error, and `ErrorCode` which one, “a non-zero value” if there was any. From the first start
on, the two should say the same.

They are written in `Reset`, in the two methods that start an operation, and in `Get`, and
not always together.

| what happens | `NoError` | `ErrorCode` |
|---|---|---|
| the event is made | `true` | 0 |
| the event cannot be made | **`true`** | the error |
| the request fails | `false` | the error |
| `Get` without usable handles | `false` | **kept** |
| the wait fails | `false` | **kept** |
| the wait times out | `false` | the last error |
| the result is fetched | `true` | **kept** |
| fetching it fails | `false` | the error |

`DivertNet.status_get` and `DivertNet.status_start` are this table, and
`DivertNet.statusAgrees_iff` says which runs of calls get through it.
-/

namespace DivertNet

open Function Runs

/-! ### The two fields along a run -/

/-- `NoError` and `ErrorCode` of a result object. -/
def status (r : ℕ) (w : World) : Bool × BitVec 32 :=
  ((w.results r).m_noError, (w.results r).m_errorCode)

/-- **They agree**: there was no error exactly if the error code is zero. -/
def StatusAgrees (r : ℕ) (w : World) : Prop :=
  (status r w).1 = true ↔ (status r w).2 = 0

/-- The world, and whether a start of the object has been tried. -/
structure Started where
  world : World
  started : Bool

/-- A call that starts an operation. -/
def ResultCall.isStart : ResultCall → Bool
  | .start .. => true
  | .get _ => false

/-- **A native call that fails leaves its error code**, which is not zero. -/
def ResultCall.leavesCodes : ResultCall → Bool
  | .start _ _ reply =>
    (match reply.createEvent with
      | .error lastError => lastError != 0
      | .ok _ => true) && (reply.driver.result != 0 || reply.driver.lastError != 0)
  | .get reply =>
    match reply.overlappedResult with
    | .error lastError => lastError != 0
    | .ok _ => true

/-- The state after a call, if the system can answer it so. -/
def Started.step (r : ℕ) (s : Started) (a : ResultCall) : Option Started :=
  if a.leavesCodes then some ⟨a.run r s.world, s.started || a.isStart⟩ else none

/-- The state in which the object has just been constructed. -/
def Started.constructed (malloc : Option ℕ) (w : World) : Started :=
  ⟨DivertAsyncResult.construct malloc w, false⟩

/-- The fields agree from the first start on. -/
def Started.Agrees (r : ℕ) (s : Started) : Prop := s.started = true → StatusAgrees r s.world

/-- A start gets as far as `Reset`, and has a block to reset. -/
def resets (r : ℕ) (w : World) (method : AsyncMethod) (c : TransferCall) (reply : TransferReply) :
    Bool :=
  (method.arguments c reply).isOk && (w.results r).m_overlapped.isSome

/-- **A call writes the fields together.** A start resets the object and gets an event, or it
leaves an object alone that was started before. A `Get` that sets one field only finds the
other one right: the code is zero where there is a result, and not zero where there are no
handles or the wait fails. -/
def WritesBoth (r : ℕ) (s : Started) : ResultCall → Prop
  | .start method c reply =>
    if resets r s.world method c reply then ∃ e, reply.createEvent = .ok e else s.started = true
  | .get reply =>
    s.started = true →
      match DivertAsyncResult.waitable r s.world, reply.wait with
      | none, _ => (status r s.world).2 ≠ 0
      | some _, .timeout => reply.waitError ≠ 0
      | some _, .failed => (status r s.world).2 ≠ 0
      | some _, .object0 => ∀ n, reply.overlappedResult = .ok n → (status r s.world).2 = 0

/-! ### What the calls write -/

section Calls

variable {r : ℕ} {w : World}

/-- **What `Get` writes.** -/
theorem status_get (r : ℕ) (reply : GetReply) (w : World) :
    status r (DivertAsyncResult.get r reply w).1 =
      match DivertAsyncResult.waitable r w, reply.wait with
      | none, _ => (false, (status r w).2)
      | some _, .timeout => (false, reply.waitError)
      | some _, .failed => (false, (status r w).2)
      | some _, .object0 =>
        match reply.overlappedResult with
        | .error lastError => (false, lastError)
        | .ok _ => (true, (status r w).2) := by
  cases hwait : DivertAsyncResult.waitable r w with
  | none =>
    rw [DivertAsyncResult.get_of_not_waitable hwait]
    simp [status, World.modify]
  | some x =>
    obtain ⟨h, event, driver⟩ := x
    cases hout : reply.wait with
    | timeout => simp [DivertAsyncResult.get, hwait, hout, status, World.modify, World.onNative]
    | failed => simp [DivertAsyncResult.get, hwait, hout, status, World.modify, World.onNative]
    | object0 =>
      -- closing the event and releasing the pin write neither field
      rw [DivertAsyncResult.get_of_signalled hwait hout, status,
        (DivertAsyncResult.freeBuffer_spec r _).1, DivertHandle.close_results]
      cases reply.overlappedResult with
      | error lastError =>
        simp [DivertAsyncResult.fetched, World.modify, World.onNative]
      | ok n => simp [DivertAsyncResult.fetched_ok, status]

/-- **What a start writes**, where it gets as far as `Reset`. -/
theorem status_startWithResult (api : DriverApi) (resetFailed pinFailed : String) (d : ℕ)
    (packetBuffer : ManagedArray) (address : Option Address) (reply : TransferReply) {a : ℕ}
    (ha : (w.results r).m_overlapped = some a) :
    status r (startWithResult api resetFailed pinFailed d packetBuffer address r reply w).1 =
        (match reply.createEvent with
          | .error lastError => (true, lastError)
          | .ok _ => (true, 0)) ∨
      (∃ e, reply.createEvent = .ok e) ∧ reply.driver.result = 0 ∧
        status r (startWithResult api resetFailed pinFailed d packetBuffer address r reply w).1 =
          (false, reply.driver.lastError) := by
  cases he : reply.createEvent with
  | error lastError =>
    rw [startWithResult_failed ha he]
    exact Or.inl (by simp [status, World.modify, DivertAsyncResult.cleared])
  | ok e =>
    have hprep : status r (prepared d r packetBuffer.ref a e w) = (true, 0) := by
      simp [status, prepared, World.modify, DivertAsyncResult.ready]
    rcases startWithResult_prepared api resetFailed pinFailed d packetBuffer address ha he with
      ⟨-, i, addr, -, hstart⟩ | ⟨-, ex, hstart⟩
    · rw [hstart, answered]
      -- the answer is written in one case, and both fields are
      split
      · rename_i hres
        split
        · exact Or.inr ⟨⟨e, rfl⟩, hres, by simp [status, World.modify]⟩
        · exact Or.inl hprep
      · exact Or.inl (by simpa [status, World.modify, World.onNative] using hprep)
    · rw [hstart]
      exact Or.inl hprep

end Calls

/-! ### The fields along a run -/

section StatusRun

variable {r : ℕ} {s t : Started} {method : AsyncMethod} {c : TransferCall} {reply : TransferReply}

/-- **The invariant**: the fields agree once there was a start, and before that they and the
event are as the constructor left them. -/
structure StatusInv (r : ℕ) (s : Started) : Prop where
  agrees : s.Agrees r
  untouched : s.started = false →
    status r s.world = (false, 0) ∧ (s.world.results r).m_overlappedEventHandle = none

/-- Before the first start the fields do not agree. -/
theorem StatusInv.agrees_iff (inv : StatusInv r s) : StatusAgrees r s.world ↔ s.started = true := by
  cases hstarted : s.started with
  | true => exact iff_of_true (inv.agrees hstarted) rfl
  | false =>
    refine iff_of_false (fun h => ?_) Bool.false_ne_true
    rw [StatusAgrees, (inv.untouched hstarted).1] at h
    exact Bool.false_ne_true (h.mpr rfl)

/-- **When a start leaves the fields in agreement.** -/
theorem StatusInv.start_iff (inv : StatusInv r s)
    (hcodes : (ResultCall.start method c reply).leavesCodes = true) :
    StatusAgrees r (method.run c r reply s.world).world ↔
      WritesBoth r s (.start method c reply) := by
  obtain ⟨api, resetFailed, pinFailed, hrun⟩ := method.run_world c r reply s.world
  rw [hrun, WritesBoth, resets]
  cases hargs : method.arguments c reply with
  | error ex => exact inv.agrees_iff
  | ok x =>
    cases ha : (s.world.results r).m_overlapped with
    | none =>
      -- the buffer is pinned, and the fields are as they were
      simp only [startWithResult_null ha]
      exact inv.agrees_iff
    | some a =>
      simp only [ResultCall.leavesCodes, Bool.and_eq_true, Bool.or_eq_true, bne_iff_ne] at hcodes
      have hwrites := status_startWithResult api resetFailed pinFailed c.diversion x.1 x.2 reply ha
      cases he : reply.createEvent with
      | error lastError =>
        rw [he] at hcodes hwrites
        obtain hwrites := hwrites.resolve_right fun h => nomatch h.1
        refine iff_of_false (fun h => ?_) fun ⟨_, h⟩ => nomatch h
        rw [StatusAgrees, hwrites] at h
        exact bne_iff_ne.mp hcodes.1 (h.mp rfl)
      | ok e =>
        rw [he] at hwrites
        refine iff_of_true ?_ ⟨e, rfl⟩
        rcases hwrites with hwrites | ⟨-, hres, hwrites⟩
        · rw [StatusAgrees, hwrites]
          exact iff_of_true rfl rfl
        · rw [StatusAgrees, hwrites]
          exact iff_of_false Bool.false_ne_true (hcodes.2.resolve_left fun h => h hres)

/-- **When a `Get` leaves the fields in agreement.** -/
theorem StatusInv.get_iff (hstarted : s.started = true) {reply : GetReply}
    (hcodes : (ResultCall.get reply).leavesCodes = true) :
    StatusAgrees r (DivertAsyncResult.get r reply s.world).1 ↔ WritesBoth r s (.get reply) := by
  have hfalse : ∀ x : BitVec 32, ((false = true) ↔ x = 0) ↔ x ≠ 0 := fun x => by simp
  rw [StatusAgrees, status_get, WritesBoth]
  simp only [hstarted, forall_const]
  cases DivertAsyncResult.waitable r s.world with
  | none => exact hfalse _
  | some x =>
    cases reply.wait with
    | timeout => exact hfalse _
    | failed => exact hfalse _
    | object0 =>
      rw [ResultCall.leavesCodes] at hcodes
      cases hres : reply.overlappedResult with
      | error lastError =>
        rw [hres] at hcodes
        exact iff_of_true (iff_of_false Bool.false_ne_true (bne_iff_ne.mp hcodes)) nofun
      | ok n => simp

/-- A `Get` before the first start leaves the object as it was. -/
theorem StatusInv.get_untouched (inv : StatusInv r s) (hstarted : s.started = false)
    (reply : GetReply) :
    status r (DivertAsyncResult.get r reply s.world).1 = (false, 0) ∧
      ((DivertAsyncResult.get r reply s.world).1.results r).m_overlappedEventHandle = none := by
  obtain ⟨hstatus, hevent⟩ := inv.untouched hstarted
  have hwait : DivertAsyncResult.waitable r s.world = none := by
    rw [DivertAsyncResult.waitable, hevent]
  refine ⟨?_, ?_⟩
  · rw [status_get, hwait, hstatus]
  · rw [DivertAsyncResult.get_of_not_waitable hwait]
    simpa [World.modify] using hevent

/-- **One call**: it keeps the invariant if it writes the fields together, and only then are
they in agreement after it. -/
theorem StatusInv.step (inv : StatusInv r s) {a : ResultCall} (hstep : s.step r a = some t) :
    (WritesBoth r s a → StatusInv r t) ∧ (t.Agrees r → WritesBoth r s a) := by
  rw [Started.step] at hstep
  split at hstep
  · rename_i hcodes
    obtain rfl := Option.some.inj hstep
    cases a with
    | start method c reply =>
      have hiff := inv.start_iff hcodes
      have htrue : (s.started || (ResultCall.start method c reply).isStart) = true :=
        Bool.or_true _
      refine ⟨fun hboth => ⟨fun _ => hiff.mpr hboth, fun h => ?_⟩, fun h => hiff.mp (h htrue)⟩
      exact absurd (htrue.symm.trans h) (by decide)
    | get reply =>
      have hsame : (s.started || (ResultCall.get reply).isStart) = s.started := Bool.or_false _
      refine ⟨fun hboth => ⟨fun h => ?_, fun h => ?_⟩, fun h => ?_⟩
      · exact (StatusInv.get_iff (hsame ▸ h) hcodes).mpr hboth
      · exact inv.get_untouched (hsame ▸ h) reply
      · intro hstarted
        exact (StatusInv.get_iff hstarted hcodes).mp (h (hsame.trans hstarted)) hstarted
  · cases hstep

/-- The fields of a new object. -/
theorem statusInv_constructed (malloc : Option ℕ) (w : World) :
    StatusInv w.nextResult (Started.constructed malloc w) where
  agrees := nofun
  untouched _ := by
    simp [status, Started.constructed, DivertAsyncResult.construct, DivertAsyncResult.new]

/-- **When `NoError` and `ErrorCode` agree**: along any run of calls from the construction of
the object on, in every state after the first start, exactly when every call writes the two
fields together. -/
theorem statusAgrees_iff (malloc : Option ℕ) (w : World) (l : List ResultCall) :
    EveryState (Started.step w.nextResult) (Started.Agrees w.nextResult)
        (Started.constructed malloc w) l ↔
      EveryStep (Started.step w.nextResult) (fun s a _ => WritesBoth w.nextResult s a)
        (Started.constructed malloc w) l :=
  everyState_iff_everyStep (fun _ inv => inv.agrees)
    (fun _ _ _ inv hboth hstep => (inv.step hstep).1 hboth)
    (fun _ _ _ inv hstep hagree => (inv.step hstep).2 hagree) (statusInv_constructed malloc w) l

end StatusRun

/-! ### Fields that contradict each other -/

/-- A start that stays pending. -/
def keptByDriver : ResultCall := receiving (.ok 8) ⟨0, none, errorIoPending, false⟩

/-- **Three objects whose fields contradict each other**: one that could not be reset, one that
was waited for in vain before its result was fetched, and one whose result was fetched
twice. -/
theorem not_statusAgrees :
    ¬EveryState (Started.step 0) (Started.Agrees 0) (.constructed (some 4096) justOpened)
        [receiving (.error 8) (doneWith 64)] ∧
      ¬EveryState (Started.step 0) (Started.Agrees 0) (.constructed (some 4096) justOpened)
        [keptByDriver, .get ⟨.timeout, 258, .ok 0, true⟩, .get ⟨.object0, 0, .ok 40, true⟩] ∧
      ¬EveryState (Started.step 0) (Started.Agrees 0) (.constructed (some 4096) justOpened)
        [keptByDriver, .get ⟨.object0, 0, .ok 40, true⟩, .get ⟨.object0, 0, .ok 40, true⟩] := by
  refine ⟨fun h => ?_, fun h => ?_, fun h => ?_⟩
  · have hagree := h _ [] _ (List.append_nil _).symm rfl rfl
    exact absurd (hagree.mp rfl) (by decide)
  · have hagree := h _ [] _ (List.append_nil _).symm rfl rfl
    exact absurd (hagree.mp rfl) (by decide)
  · have hagree := h _ [] _ (List.append_nil _).symm rfl rfl
    exact absurd (hagree.mpr rfl) (by decide)

end DivertNet
