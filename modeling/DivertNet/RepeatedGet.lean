import DivertNet.PendingRuns

/-!
# Asking for a result again

A success is reported to the user by a start that returns `true`, or by a `Get` that does.
Asking again should report it again: `NoError`, the length, and `true`. But `Get` closes the
event when it fetches the result, and a closed event is what it takes for a failed
operation the next time: it sets `NoError` to `false`, with the error code zero.

So one `Get` can report a success and no second one can, whoever reported it first
(`DivertNet.Spent`). What is left of “again” is the empty sequence, and a single `Get` after a
start that finished at once (`DivertNet.staysReported_iff`).

There is a second gap. A `Get` that times out leaves the error code of the wait behind, and
a `Get` that succeeds after it does not clear it.
-/

namespace DivertNet

open Function Runs

/-! ### Sequences of `Get` -/

/-- **The object reports a success with `n` bytes.** -/
structure Reported (r : ℕ) (n : BitVec 32) (w : World) : Prop where
  noError : (w.results r).m_noError = true
  errorCode : (w.results r).m_errorCode = 0
  length : (w.results r).m_ioLength = n

/-- Whether a `Get` can be answered so. -/
def getPossible (r : ℕ) (reply : GetReply) (w : World) : Bool :=
  match DivertAsyncResult.waitable r w with
  | none => true
  | some (_, event, _) => waitPossible reply.wait event w.native

/-- A `Get` with this answer, if there can be one. -/
def getStep (r : ℕ) (w : World) (reply : GetReply) : Option World :=
  if getPossible r reply w then some (DivertAsyncResult.get r reply w).1 else none

/-- **The success stays reported** along a sequence of `Get` calls: in every state the object
reports it, and every call returns `true`. -/
def StaysReported (r : ℕ) (n : BitVec 32) (w : World) (l : List GetReply) : Prop :=
  EveryState (getStep r) (Reported r n) w l ∧
    EveryStep (getStep r) (fun w reply _ => (DivertAsyncResult.get r reply w).2 = true) w l

/-- The first report of a success. -/
inductive Report where
  | start (method : AsyncMethod) (c : TransferCall) (reply : TransferReply)
  | get (reply : GetReply)

/-- The world after it. -/
def Report.run (r : ℕ) (w : World) : Report → World
  | .start method c reply => (method.run c r reply w).world
  | .get reply => (DivertAsyncResult.get r reply w).1

/-- **It reports that the operation has completed with `n` bytes**: the call returns `true`,
and `n` is the length the system gave. -/
def Report.Reports (r : ℕ) (n : BitVec 32) (w : World) : Report → Prop
  | .start method c reply =>
    (method.run c r reply w).outcome = .ok true ∧ reply.driver.length = some n
  | .get reply => (DivertAsyncResult.get r reply w).2 = true ∧ reply.overlappedResult = .ok n

/-- A `Get` fetches `n` bytes: it has handles to wait with, sees the event signalled, and gets
this length. -/
def FetchesLength (r : ℕ) (n : BitVec 32) (w : World) (reply : GetReply) : Prop :=
  DivertAsyncResult.waitable r w ≠ none ∧ reply.wait = .object0 ∧ reply.overlappedResult = .ok n

/-- **The report is asked for no more than the code bears**: after a start at most once, and
then with success; after a `Get` not at all, and not if there was a timeout before. -/
def AskedOnce (r : ℕ) (n : BitVec 32) (w : World) : Report → List GetReply → Prop
  | .start method c reply, l =>
    l = [] ∨ ∃ g, l = [g] ∧ FetchesLength r n ((Report.start method c reply).run r w) g
  | .get _, l => l = [] ∧ (w.results r).m_errorCode = 0

/-! ### After a `Get` that returned `true` -/

section AfterGet

variable {r h : ℕ} {n : BitVec 32} {w : World} {reply : GetReply}

/-- **The event is spent**: a wrapper with a handle has that of an event without a signal. -/
def Spent (r : ℕ) (w : World) : Prop :=
  ∀ h event driver, DivertAsyncResult.waitable r w = some (h, event, driver) →
    waitPossible .object0 event w.native = false

/-- **When a `Get` returns `true`**: when it fetches some length. -/
theorem get_eq_true_iff :
    (DivertAsyncResult.get r reply w).2 = true ↔ ∃ m, FetchesLength r m w reply := by
  cases hwait : DivertAsyncResult.waitable r w with
  | none =>
    rw [DivertAsyncResult.get_of_not_waitable hwait]
    exact iff_of_false Bool.false_ne_true fun ⟨_, husable, _⟩ => husable hwait
  | some x =>
    obtain ⟨h, event, driver⟩ := x
    by_cases hobject : reply.wait = .object0
    · rw [DivertAsyncResult.get_of_signalled hwait hobject]
      cases hresult : reply.overlappedResult with
      | error lastError =>
        refine iff_of_false Bool.false_ne_true ?_
        rintro ⟨m, -, -, hok⟩
        cases hresult.symm.trans hok
      | ok m => exact iff_of_true rfl ⟨m, hwait ▸ Option.some_ne_none _, hobject, hresult⟩
    · obtain ⟨f, -, hfail⟩ := DivertAsyncResult.get_of_not_signalled hwait hobject
      rw [hfail]
      exact iff_of_false Bool.false_ne_true fun ⟨_, _, hsignal, _⟩ => hobject hsignal

/-- **A `Get` that returns `true` reports the length and spends the event**; the error code is
what it was. -/
theorem get_true_spec (hget : (DivertAsyncResult.get r reply w).2 = true)
    (hresult : reply.overlappedResult = .ok n) :
    Spent r (DivertAsyncResult.get r reply w).1 ∧
      (Reported r n (DivertAsyncResult.get r reply w).1 ↔ (w.results r).m_errorCode = 0) := by
  obtain ⟨m, husable, hobject, -⟩ := get_eq_true_iff.mp hget
  obtain ⟨⟨h, event, driver⟩, hwait⟩ := Option.ne_none_iff_exists'.mp husable
  obtain ⟨hh, hhandle, -, e, rfl⟩ := waitable_eq_some hwait
  rw [DivertAsyncResult.get_of_signalled hwait hobject, hresult]
  have hfetched := DivertAsyncResult.fetched_ok r (.value e) driver n w
  generalize DivertAsyncResult.fetched r (.value e) driver (.ok n) w = w₁ at hfetched ⊢
  obtain ⟨hresults, hhandles, hevents⟩ := hfetched
  have hclosed := DivertHandle.close_results h reply.closed w₁
  have hfreed := DivertAsyncResult.freeBuffer_spec r (DivertHandle.close h reply.closed w₁).1
  rw [hclosed, hresults] at hfreed
  constructor
  · intro h' event' driver' hwait'
    obtain ⟨hh', hhandle', hvalid, -⟩ := waitable_eq_some hwait'
    obtain rfl : h = h' := by
      rw [hfreed.1] at hh'
      exact Option.some.inj (hh.symm.trans hh')
    obtain ⟨-, hsame, hkept⟩ := hfreed
    cases hreply : reply.closed with
    | true =>
      -- the wrapper has no handle any more
      rw [hreply] at hsame hhandle'
      rw [hsame, DivertHandle.close_closed h w₁] at hhandle'
      exact absurd hhandle'.symm hvalid
    | false =>
      -- the wait has taken the signal
      obtain ⟨hopen, hleft⟩ := DivertHandle.close_failed h w₁
      rw [hreply, hopen, hhandles] at hsame
      rw [hreply, hleft, hevents] at hkept
      rw [hreply, hsame, hhandle] at hhandle'
      rw [← hhandle', waitPossible, hkept]
      cases hev : w.native.events e <;> simp [DivertAsyncResult.consume, hev]
  · constructor
    · rintro ⟨-, hcode, -⟩
      rwa [hfreed.1] at hcode
    · intro hcode
      exact ⟨by rw [hfreed.1], by rw [hfreed.1]; exact hcode, by rw [hfreed.1]⟩

/-- **A `Get` on a spent event** fails, whatever the timeout. -/
theorem get_of_spent (hspent : Spent r w) (hpossible : getPossible r reply w = true) :
    (DivertAsyncResult.get r reply w).2 = false := by
  rw [Bool.eq_false_iff]
  intro hget
  obtain ⟨m, husable, hobject, -⟩ := get_eq_true_iff.mp hget
  obtain ⟨⟨h, event, driver⟩, hwait⟩ := Option.ne_none_iff_exists'.mp husable
  have hsignal : waitPossible .object0 event w.native = true := by
    rw [getPossible, hwait, hobject] at hpossible
    exact hpossible
  rw [hspent h event driver hwait] at hsignal
  cases hsignal

/-- A `Get` leads to the state it leaves, if it can be answered so. -/
theorem getStep_eq_some {u : World} :
    getStep r w reply = some u ↔
      getPossible r reply w = true ∧ (DivertAsyncResult.get r reply w).1 = u := by
  rw [getStep]
  split
  · rename_i hpossible
    simp [hpossible]
  · rename_i hpossible
    simp [hpossible]

/-- One `Get` of a sequence. -/
theorem staysReported_cons {l : List GetReply} (hpossible : getPossible r reply w = true) :
    StaysReported r n w (reply :: l) ↔
      Reported r n w ∧ (DivertAsyncResult.get r reply w).2 = true ∧
        StaysReported r n (DivertAsyncResult.get r reply w).1 l := by
  have hstep := getStep_eq_some.mpr ⟨hpossible, rfl⟩
  rw [StaysReported, everyState_cons, everyStep_cons, hstep]
  simp only [Option.some.injEq, forall_eq', StaysReported]
  exact ⟨fun ⟨⟨h, hstates⟩, htrue, hsteps⟩ => ⟨h, htrue, hstates, hsteps⟩,
    fun ⟨h, htrue, hstates, hsteps⟩ => ⟨⟨h, hstates⟩, htrue, hsteps⟩⟩

/-- **After such a `Get`** the success is reported only as long as nobody asks. -/
theorem staysReported_of_spent (hspent : Spent r w) {l : List GetReply}
    (hrun : run (getStep r) w l ≠ none) :
    StaysReported r n w l ↔ l = [] ∧ Reported r n w := by
  cases l with
  | nil =>
    rw [StaysReported, everyState_nil, and_iff_left everyStep_nil]
    exact (and_iff_right rfl).symm
  | cons g gs =>
    obtain ⟨t, ht⟩ := Option.ne_none_iff_exists'.mp hrun
    obtain ⟨u, hu, -⟩ := run_cons_eq_some.mp ht
    have hpossible := (getStep_eq_some.mp hu).1
    rw [staysReported_cons hpossible, get_of_spent hspent hpossible]
    exact iff_of_false (fun h => Bool.false_ne_true h.2.1) fun h => List.cons_ne_nil g gs h.1

end AfterGet

/-! ### After a start that returned `true` -/

section AfterStart

variable {r : ℕ} {n : BitVec 32} {w : World}

/-- **A start that the driver has answered with yes** leaves the object reporting the length. -/
theorem startWithResult_reported {api : DriverApi} {resetFailed pinFailed : String} {d : ℕ}
    {packetBuffer : ManagedArray} {address : Option Address} {reply : TransferReply}
    (hreach : Reaches d packetBuffer address r reply w) (hres : reply.driver.result ≠ 0)
    (hlength : reply.driver.length = some n) :
    Reported r n
      (startWithResult api resetFailed pinFailed d packetBuffer address r reply w).1 := by
  obtain ⟨a, e, i, addr, -, -, -, hstart⟩ :=
    startWithResult_of_reaches api resetFailed pinFailed hreach
  rw [hstart, answered, if_neg hres, hlength]
  constructor <;> simp [World.modify, World.onNative, prepared, DivertAsyncResult.ready]

/-- So does every start that returns `true`. -/
theorem reported_of_start {method : AsyncMethod} {c : TransferCall} {reply : TransferReply}
    (hreport : (Report.start method c reply).Reports r n w) :
    Reported r n ((Report.start method c reply).run r w) := by
  obtain ⟨hout, hlength⟩ := hreport
  obtain ⟨api, resetFailed, pinFailed, packetBuffer, address, hreach, hworld, hb⟩ :=
    AsyncMethod.run_of_returns hout
  rw [Report.run, hworld]
  exact startWithResult_reported hreach (bne_iff_ne.mp hb.symm) hlength

/-- **When the success stays reported**: whatever the world and the timeouts, after a start
exactly when there is at most one `Get`, and this one fetches the length; after a `Get`
exactly when there is none, and no error code was left before it. -/
theorem staysReported_iff {report : Report} (hreport : report.Reports r n w)
    {l : List GetReply} (hrun : run (getStep r) (report.run r w) l ≠ none) :
    StaysReported r n (report.run r w) l ↔ AskedOnce r n w report l := by
  cases report with
  | get reply =>
    obtain ⟨hspent, hreported⟩ := get_true_spec hreport.1 hreport.2
    rw [Report.run] at hrun ⊢
    rw [staysReported_of_spent hspent hrun, hreported, AskedOnce]
  | start method c reply =>
    have hreported := reported_of_start hreport
    rw [AskedOnce]
    generalize (Report.start method c reply).run r w = w₁ at hrun hreported ⊢
    cases l with
    | nil =>
      refine iff_of_true ⟨everyState_nil.mpr hreported, everyStep_nil⟩ (Or.inl rfl)
    | cons g gs =>
      obtain ⟨t, ht⟩ := Option.ne_none_iff_exists'.mp hrun
      obtain ⟨u, hu, hrest⟩ := run_cons_eq_some.mp ht
      obtain ⟨hpossible, rfl⟩ := getStep_eq_some.mp hu
      have hrest : run (getStep r) (DivertAsyncResult.get r g w₁).1 gs ≠ none :=
        hrest ▸ Option.some_ne_none t
      rw [staysReported_cons hpossible]
      constructor
      · rintro ⟨-, htrue, hstays⟩
        obtain ⟨m, husable, hobject, hresult⟩ := get_eq_true_iff.mp htrue
        obtain ⟨hspent, hiff⟩ := get_true_spec htrue hresult
        obtain ⟨rfl, hn⟩ := (staysReported_of_spent hspent hrest).mp hstays
        -- the length fetched is the one reported
        obtain rfl : m = n := (hiff.mpr hreported.errorCode).length.symm.trans hn.length
        exact Or.inr ⟨g, rfl, husable, hobject, hresult⟩
      · rintro (hnil | ⟨g', hsingle, hfetch⟩)
        · exact absurd hnil (List.cons_ne_nil g gs)
        · obtain ⟨rfl, rfl⟩ := List.cons.inj hsingle
          have htrue := get_eq_true_iff.mpr ⟨n, hfetch⟩
          obtain ⟨hspent, hiff⟩ := get_true_spec htrue hfetch.2.2
          exact ⟨hreported, htrue,
            (staysReported_of_spent hspent hrest).mpr ⟨rfl, hiff.mpr hreported.errorCode⟩⟩

end AfterStart

/-! ### Asking twice -/

/-- A start that finishes at once, with 64 bytes. -/
def finished : Report := .start .receiveAsync pendingCall (answering (doneWith 64))

/-- A `Get` that sees the signal and gets the 64 bytes. -/
def asked : GetReply := ⟨.object0, 0, .ok 64, true⟩

/-- The world after a start that stays pending, a `Get` that times out, and the completion of
the operation. -/
def waitedFor : World :=
  ((DivertAsyncResult.get 0 ⟨.timeout, 258, .error 0, true⟩ (Report.run 0 openWorld
    (.start .receiveAsync pendingCall (answering ⟨0, none, errorIoPending, false⟩)))).1).onNative
      (.signal (.value 8))

/-- Asked once, the object reports the 64 bytes. -/
theorem staysReported_asked : StaysReported 0 64 (finished.run 0 openWorld) [asked] := by
  have hreport : finished.Reports 0 64 openWorld := ⟨rfl, rfl⟩
  have hrun : run (getStep 0) (finished.run 0 openWorld) [asked] ≠ none := Option.some_ne_none _
  refine (staysReported_iff hreport hrun).mpr (Or.inr ⟨asked, rfl, ?_, rfl, rfl⟩)
  exact Option.some_ne_none _

/-- **Asked twice, it reports an error**; and after a timeout it does so even if the result is
fetched once. -/
theorem not_staysReported :
    (finished.Reports 0 64 openWorld ∧
      run (getStep 0) (finished.run 0 openWorld) [asked, asked] ≠ none ∧
      ¬StaysReported 0 64 (finished.run 0 openWorld) [asked, asked]) ∧
    (Report.get asked).Reports 0 64 waitedFor ∧
      ¬StaysReported 0 64 ((Report.get asked).run 0 waitedFor) [] := by
  refine ⟨⟨⟨rfl, rfl⟩, Option.some_ne_none _, fun h => ?_⟩, ⟨rfl, rfl⟩, fun h => ?_⟩
  · have hsecond := h.2 [asked] asked [] _ _ rfl rfl rfl
    exact absurd hsecond (by decide)
  · have hcode := (h.1 [] [] _ rfl rfl).errorCode
    exact absurd hcode (by decide)

end DivertNet
