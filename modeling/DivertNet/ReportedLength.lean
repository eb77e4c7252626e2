import DivertNet.Transfer

/-!
# The length a transfer reports

When the driver is done at once, a transfer has two places to put the number of bytes: the
caller's length variable, “set internally” and “set correctly” if the return value is `true`,
and the result object, if there is one. What arrives where depends on the path.

| path | caller's variable | result object |
|---|---|---|
| `Receive`, `Send`, `SendAsync` | `n` | – |
| `ReceiveAsync` | **`0`** | – |
| `ReceiveAsync`, `SendAsync` with a result | **unchanged** | `n` |

So the length arrives on the paths of the first row, and on the others in the cases in which
what is left there happens to be `n` (`DivertNet.reportsLength_iff`).
-/

namespace DivertNet

open Function

/-! ### The six paths -/

/-- The six ways to transfer a packet. -/
inductive TransferPath where
  | receive
  | receiveAsync (asyncResult : Option ℕ)
  | send
  | sendAsync (asyncResult : Option ℕ)

/-- The call along a path. -/
def TransferPath.run : TransferPath → TransferCall → TransferReply → World → TransferResult
  | .receive => DivertNet.receive
  | .receiveAsync asyncResult => fun c => DivertNet.receiveAsync c asyncResult
  | .send => DivertNet.send
  | .sendAsync asyncResult => fun c => DivertNet.sendAsync c asyncResult

/-- The result object of a path, if it has one. -/
def TransferPath.asyncResult : TransferPath → Option ℕ
  | .receive | .send => none
  | .receiveAsync asyncResult | .sendAsync asyncResult => asyncResult

/-- **A transfer reports `n` bytes**: it returns `true`, and leaves `n` in the caller's
variable and in the result object. -/
def ReportsLength (n : BitVec 32) (p : TransferPath) (r : TransferResult) : Prop :=
  r.outcome = .ok true ∧ r.length = n ∧
    ∀ i, p.asyncResult = some i → (r.world.results i).m_ioLength = n

/-- The driver is done at once, with `n` bytes, which it stores through the pointer it was
given. -/
def DriverReply.Done (reply : DriverReply) (n : BitVec 32) : Prop :=
  reply.result = 1 ∧ reply.length = some n

/-- **A transfer asks the driver**: it does not throw before, and so leaves a request in the
log. -/
def AsksDriver (w : World) (r : TransferResult) : Prop := r.world.native.log ≠ w.native.log

/-- Whether what a path leaves in the caller's variable is `n`, by what the variable held
before. -/
def LengthArrives (n before : BitVec 32) : TransferPath → Prop
  | .receive | .send | .sendAsync none => True
  | .receiveAsync none => n = 0
  | .receiveAsync (some _) | .sendAsync (some _) => before = n

/-! ### What each path reports -/

section Paths

variable {c : TransferCall} {reply : TransferReply} {w : World} {n : BitVec 32}

/-- **A start with a result object** that asks the driver reports in the object, and returns
`true`. -/
theorem startWithResult_reports {api : DriverApi} {resetFailed pinFailed : String} {d r : ℕ}
    {packetBuffer : ManagedArray} {address : Option Address} (hdone : reply.driver.Done n)
    (hask : (startWithResult api resetFailed pinFailed d packetBuffer address r reply
      w).1.native.log ≠ w.native.log) :
    (startWithResult api resetFailed pinFailed d packetBuffer address r reply w).2 = .ok true ∧
      ((startWithResult api resetFailed pinFailed d packetBuffer address r reply w).1.results
        r).m_ioLength = n := by
  obtain ⟨hres, hlen⟩ := hdone
  have hreach : Reaches d packetBuffer address r reply w := by
    by_contra hno
    obtain ⟨w', ex, hstart, hlog⟩ := startWithResult_of_not_reaches api resetFailed pinFailed hno
    rw [hstart] at hask
    exact hask hlog
  obtain ⟨-, -, -, -, hout, hkept⟩ := startWithResult_asks api resetFailed pinFailed hreach
  refine ⟨by rw [hout, hres]; rfl, ?_⟩
  rw [hkept (by rw [hres]; exact one_ne_zero), hlen]
  rfl

/-- **`Receive` reports**: it copies the length out of its local, which the driver has
filled. -/
theorem reportsLength_receive (hdone : reply.driver.Done n)
    (hask : AsksDriver w (receive c reply w)) :
    ReportsLength n .receive (receive c reply w) := by
  obtain ⟨hres, hlen⟩ := hdone
  rcases receive_cases c reply w with ⟨addr, e, hthrow⟩ | ⟨call, addr, hcall⟩
  · rw [hthrow] at hask
    exact absurd rfl hask
  · rw [hcall, hres, hlen]
    exact ⟨rfl, rfl, fun i hi => nomatch hi⟩

/-- **`Send` reports**, in the same way. -/
theorem reportsLength_send (hdone : reply.driver.Done n)
    (hask : AsksDriver w (send c reply w)) : ReportsLength n .send (send c reply w) := by
  obtain ⟨hres, hlen⟩ := hdone
  rcases send_cases c reply w with ⟨-, e, hthrow⟩ | ⟨-, a, addr, handle, -, -, hcall⟩
  · rw [hthrow] at hask
    exact absurd rfl hask
  · rw [hcall, hres, hlen]
    exact ⟨rfl, rfl, fun i hi => nomatch hi⟩

/-- **`SendAsync` without a result object reports**, where the driver is done. -/
theorem reportsLength_sendAsync_none (hdone : reply.driver.Done n)
    (hask : AsksDriver w (sendAsync c none reply w)) :
    ReportsLength n (.sendAsync none) (sendAsync c none reply w) := by
  obtain ⟨hres, hlen⟩ := hdone
  rcases sendAsync_none_cases c reply w with ⟨-, e, hthrow⟩ | ⟨-, a, addr, handle, -, -, hcall⟩
  · rw [hthrow] at hask
    exact absurd rfl hask
  · rw [hcall, hres, hlen]
    exact ⟨rfl, rfl, fun i hi => nomatch hi⟩

/-- **`ReceiveAsync` without a result object reports zero**: the local it copies out of is
not the variable the driver has filled. -/
theorem reportsLength_receiveAsync_none_iff (hdone : reply.driver.Done n)
    (hask : AsksDriver w (receiveAsync c none reply w)) :
    ReportsLength n (.receiveAsync none) (receiveAsync c none reply w) ↔ n = 0 := by
  obtain ⟨hres, hlen⟩ := hdone
  rcases receiveAsync_none_cases c reply w with ⟨addr, e, hthrow⟩ | ⟨call, addr, hcall⟩
  · rw [hthrow] at hask
    exact absurd rfl hask
  · rw [hcall, hres, if_neg one_ne_zero]
    exact ⟨fun h => h.2.1.symm, fun h => ⟨rfl, h.symm, fun i hi => nomatch hi⟩⟩

/-- **With a result object the length is reported there**, and the caller's variable is left
alone. -/
theorem reportsLength_some_iff {p : TransferPath} {r : ℕ} {t : World × Except ClrException Bool}
    {address : Option Address} (hp : p.asyncResult = some r)
    (ht : t.2 = .ok true ∧ (t.1.results r).m_ioLength = n) :
    ReportsLength n p ⟨t.1, address, c.length, t.2⟩ ↔ c.length = n := by
  refine ⟨fun h => h.2.1, fun h => ⟨ht.1, h, fun i hi => ?_⟩⟩
  obtain rfl : r = i := Option.some.inj (hp.symm.trans hi)
  exact ht.2

/-- `ReceiveAsync` is such a path. -/
theorem reportsLength_receiveAsync_some_iff (r : ℕ) (hdone : reply.driver.Done n)
    (hask : AsksDriver w (receiveAsync c (some r) reply w)) :
    ReportsLength n (.receiveAsync (some r)) (receiveAsync c (some r) reply w) ↔ c.length = n := by
  rcases receiveAsync_some_cases c reply w r with ⟨addr, e, hthrow⟩ | ⟨a, addr, hstart⟩
  · rw [hthrow] at hask
    exact absurd rfl hask
  · rw [hstart] at hask ⊢
    exact reportsLength_some_iff rfl (startWithResult_reports hdone hask)

/-- So is `SendAsync`. -/
theorem reportsLength_sendAsync_some_iff (r : ℕ) (hdone : reply.driver.Done n)
    (hask : AsksDriver w (sendAsync c (some r) reply w)) :
    ReportsLength n (.sendAsync (some r)) (sendAsync c (some r) reply w) ↔ c.length = n := by
  rcases sendAsync_some_cases c reply w r with ⟨-, e, hthrow⟩ | ⟨a, -, -, hstart⟩
  · rw [hthrow] at hask
    exact absurd rfl hask
  · rw [hstart] at hask ⊢
    exact reportsLength_some_iff rfl (startWithResult_reports hdone hask)

/-- **When the length arrives**: for a call that asks the driver and a driver that is done
at once, each path reports the `n` bytes exactly when what it leaves in the caller's
variable is `n`. -/
theorem reportsLength_iff (p : TransferPath) (hdone : reply.driver.Done n)
    (hask : AsksDriver w (p.run c reply w)) :
    ReportsLength n p (p.run c reply w) ↔ LengthArrives n c.length p := by
  cases p with
  | receive => exact iff_of_true (reportsLength_receive hdone hask) trivial
  | send => exact iff_of_true (reportsLength_send hdone hask) trivial
  | receiveAsync asyncResult =>
    cases asyncResult with
    | none => exact reportsLength_receiveAsync_none_iff hdone hask
    | some r => exact reportsLength_receiveAsync_some_iff r hdone hask
  | sendAsync asyncResult =>
    cases asyncResult with
    | none => exact iff_of_true (reportsLength_sendAsync_none hdone hask) trivial
    | some r => exact reportsLength_sendAsync_some_iff r hdone hask

end Paths

/-! ### Forty bytes received -/

/-- A call to receive into a buffer of 64 bytes, the length variable holding `length`. -/
def receiveCall (length : BitVec 32) : TransferCall where
  diversion := 0
  packetBuffer := some receiveBuffer
  packetLength := 0
  address := some ⟨some ⟨0, 0, 0⟩⟩
  length := length

/-- `Receive` reports the forty bytes. -/
theorem reportsLength_receive_forty :
    ReportsLength 40 .receive (TransferPath.receive.run (receiveCall 0) (answering (doneWith 40))
      openWorld) :=
  have hask : AsksDriver openWorld (TransferPath.receive.run (receiveCall 0)
      (answering (doneWith 40)) openWorld) := fun h => List.cons_ne_nil _ _ h
  (reportsLength_iff .receive ⟨rfl, rfl⟩ hask).mpr trivial

/-- **Forty bytes received and not reported**: the driver is asked, and `ReceiveAsync` leaves
`0` in the caller's variable without a result object, and whatever was in it with one. -/
theorem not_reportsLength_receiveAsync :
    (AsksDriver openWorld (receiveAsync (receiveCall 0) none (answering (doneWith 40)) openWorld) ∧
      ¬ReportsLength 40 (.receiveAsync none)
        (receiveAsync (receiveCall 0) none (answering (doneWith 40)) openWorld)) ∧
    AsksDriver openWorld
        (receiveAsync (receiveCall 0) (some 0) (answering (doneWith 40)) openWorld) ∧
      ¬ReportsLength 40 (.receiveAsync (some 0))
        (receiveAsync (receiveCall 0) (some 0) (answering (doneWith 40)) openWorld) := by
  refine ⟨⟨fun h => List.cons_ne_nil _ _ h, fun h => ?_⟩, fun h => List.cons_ne_nil _ _ h,
    fun h => ?_⟩
  · exact absurd h.2.1 (by decide)
  · exact absurd h.2.1 (by decide)

end DivertNet
