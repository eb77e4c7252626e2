import DivertNet.AsyncResult

/-!
# `Receive`, `ReceiveAsync`, `Send` and `SendAsync`

Four methods move packets, the two asynchronous ones in two ways: with a
`DivertAsyncResult`, for an operation that may stay pending, and without, for one that is
abandoned if it does. That makes six paths, and this file follows each of them: the checks
of the arguments with their texts, the request to the driver, and what becomes of its
answer – in the caller's length variable, in the result object, and in the return value.

The paths with a result object differ in their texts and the function they call only, and
are `DivertNet.startWithResult` twice.

Two questions are asked of all six. What packet is *submitted*:
`DivertNet.submitsPacket_iff` compares the three ways to send. And what length is
*reported*, when the driver completes at once: `DivertNet.reportsLength_iff`.
-/

namespace DivertNet

open Function

/-! ### The texts of the exceptions -/

namespace TransferText

def receiveEmpty : String :=
  "In Diversion::Receive(array<System::Byte>^, Address^, out uint32_t) - " ++
    "Supplied buffer has a length of zero. Not possible to read in to."

def receiveAddress : String :=
  "In Diversion::Receive(array<System::Byte>^, Address^, out uint32_t) - Failed to reset Address."

def receiveAsyncEmpty : String :=
  "In Diversion::ReceiveAsync(array<System::Byte>^, Address^, uint32_t%, DivertAsyncResult^) - " ++
    "Supplied buffer has a length of zero. Not possible to read in to."

def receiveAsyncAddress : String :=
  "In Diversion::ReceiveAsync(array<System::Byte>^, Address^, uint32_t%, DivertAsyncResult^) - " ++
    "Failed to reset Address."

def receiveAsyncReset : String :=
  "In Diversion::ReceiveAsync(array<System::Byte>^, Address^, uint32_t%, DivertAsyncResult^) - " ++
    "Failed to reset DivertAsyncResult."

def receiveAsyncPin : String :=
  "In Diversion::ReceiveAsync(array<System::Byte>^, Address^, uint32_t%, DivertAsyncResult^) - " ++
    "Failed to pin packet buffer."

def sendEmpty : String :=
  "In Diversion::Send(array<System::Byte>^, Address^, out uint32_t) - " ++
    "Supplied buffer has a length of zero. Cannot inject nothing."

def sendAsyncEmpty : String :=
  "In Diversion::SendAsync(array<System::Byte>^, Address^, uint32_t%, DivertAsyncResult^) - " ++
    "Supplied buffer has a length of zero. Cannot inject nothing."

def sendAsyncReset : String :=
  "In Diversion::SendAsync(array<System::Byte>^, Address^, uint32_t%, DivertAsyncResult^) - " ++
    "Failed to reset DivertAsyncResult."

def sendAsyncPin : String :=
  "In Diversion::SendAsync(array<System::Byte>^, Address^, uint32_t%, DivertAsyncResult^) - " ++
    "Failed to pin packet buffer."

end TransferText

/-! ### Arguments and answers -/

/-- The arguments of a transfer: the `Diversion` it is called on, the buffer, the length to
send, the address object, and what the caller's length variable holds. -/
structure TransferCall where
  diversion : ℕ
  packetBuffer : Option ManagedArray
  packetLength : BitVec 32
  address : Option Address
  length : BitVec 32

/-- What the system answers during a transfer: to `malloc` in `Address::Reset`, to
`CreateEvent`, and to the request. -/
structure TransferReply where
  malloc : Option WinDivertAddress
  createEvent : Except (BitVec 32) ℕ
  driver : DriverReply

/-- What a transfer leaves: the world, the address object, the caller's length variable,
and the return value or the exception. -/
structure TransferResult where
  world : World
  address : Option Address
  length : BitVec 32
  outcome : Except ClrException Bool

/-- The check every transfer begins with. -/
def checkBuffer (empty : String) (packetBuffer : Option ManagedArray) :
    Except ClrException ManagedArray :=
  match packetBuffer with
  | none => .error .nullReference
  | some a => if a.bytes.length = 0 then .error (.exception empty) else .ok a

/-- The second check of the two receiving methods, which clears the address. -/
def checkAddress (failed : String) (malloc : Option WinDivertAddress) (address : Option Address) :
    Except ClrException Address :=
  match address with
  | none => .error .nullReference
  | some address =>
    match address.reset malloc with
    | .error e => .error e
    | .ok (address, true) => .ok address
    | .ok (_, false) => .error (.exception failed)

/-- The checks of the two receiving methods. -/
def checkArguments (empty failed : String) (c : TransferCall) (reply : TransferReply) :
    Except ClrException (ManagedArray × Address) := do
  let packetBuffer ← checkBuffer empty c.packetBuffer
  let address ← checkAddress failed reply.malloc c.address
  return (packetBuffer, address)

/-- The handle requests of a `Diversion` go to; its wrapper may be missing. -/
def World.driverHandle (d : ℕ) (w : World) : Option Handle :=
  w.unmanagedHandle (w.diversions d).m_winDivertHandle

/-- **There is something to send**: the buffer has a first element, and there are a driver
handle and an address to go with it. -/
def TransferCall.CanSubmit (c : TransferCall) (w : World) : Prop :=
  HasFirst c.packetBuffer ∧ (w.diversions c.diversion).m_winDivertHandle ≠ none ∧
    c.address ≠ none

/-! ### The synchronous methods -/

/-- `Diversion::Receive`. -/
def receive (c : TransferCall) (reply : TransferReply) (w : World) : TransferResult :=
  match checkArguments TransferText.receiveEmpty TransferText.receiveAddress c reply with
  | .error e => ⟨w, c.address, c.length, .error e⟩
  | .ok (packetBuffer, address) =>
    match w.driverHandle c.diversion with
    | none => ⟨w, address, c.length, .error .nullReference⟩
    | some handle =>
      let call : DriverCall :=
        ⟨.recv, handle, packetBuffer, packetBuffer.length, address.m_address, none⟩
      let readLen := reply.driver.length.getD 0
      ⟨w.onNative (.record call), address, readLen, .ok (reply.driver.result == 1)⟩

/-- `Diversion::Send`. -/
def send (c : TransferCall) (reply : TransferReply) (w : World) : TransferResult :=
  match checkBuffer TransferText.sendEmpty c.packetBuffer with
  | .error e => ⟨w, c.address, c.length, .error e⟩
  | .ok packetBuffer =>
    match w.driverHandle c.diversion, c.address with
    | some handle, some address =>
      let call : DriverCall :=
        ⟨.send, handle, packetBuffer, c.packetLength, address.m_address, none⟩
      let sendLen := reply.driver.length.getD 0
      ⟨w.onNative (.record call), c.address, sendLen, .ok (reply.driver.result == 1)⟩
    | _, _ => ⟨w, c.address, c.length, .error .nullReference⟩

/-! ### The asynchronous methods -/

/-- The request of `ReceiveAsync` or `SendAsync` for a result object, and what becomes of
the answer. Both hand over the length of the buffer. -/
def requestWithResult (api : DriverApi) (pinFailed : String) (d : ℕ)
    (packetBuffer : ManagedArray) (bufferHandle : ℕ) (address : Option Address) (r : ℕ)
    (reply : DriverReply) (w : World) : World × Except ClrException Bool :=
  if packetBuffer.base = 0 then (w, .error (.exception pinFailed))
  else
    match w.driverHandle d, address with
    | some handle, some address =>
      -- the length of the buffer, whichever of the two methods this is
      let call : DriverCall := ⟨api, handle, packetBuffer, packetBuffer.length,
        address.m_address, (w.results r).m_overlapped⟩
      let w := w.onNative (.submit call bufferHandle reply)
      if reply.result = 0 then
        if reply.lastError ≠ errorIoPending then
          (w.modify r fun o =>
            { o with m_errorCode := reply.lastError, m_noError := false }, .ok false)
        else (w, .ok false)
      else (w.modify r fun o => { o with m_ioLength := reply.length.getD 0 }, .ok true)
    | _, _ => (w, .error .nullReference)

/-- **The half of `ReceiveAsync` and `SendAsync` that serves a result object**: pin the
buffer for good, reset the object, record the pin and the driver handle in it, and make
the request. The caller's length variable is not involved. -/
def startWithResult (api : DriverApi) (resetFailed pinFailed : String) (d : ℕ)
    (packetBuffer : ManagedArray) (address : Option Address) (r : ℕ) (reply : TransferReply)
    (w : World) : World × Except ClrException Bool :=
  let bufferHandle := w.native.nextPin
  let w := w.onNative (.gcAlloc packetBuffer.ref)
  match DivertAsyncResult.reset r reply.createEvent w with
  | (w, .error e) => (w, .error e)
  | (w, .ok false) => (w, .error (.exception resetFailed))
  | (w, .ok true) =>
    let w := w.modify r fun o =>
      { o with
        m_buffer := some bufferHandle, m_winDivertHandle := (w.diversions d).m_winDivertHandle }
    requestWithResult api pinFailed d packetBuffer bufferHandle address r reply.driver w

/-- `Diversion::ReceiveAsync`. Without a result object the driver stores the length in the
caller's variable, which is then overwritten with the unused local. -/
def receiveAsync (c : TransferCall) (asyncResult : Option ℕ) (reply : TransferReply) (w : World) :
    TransferResult :=
  match checkArguments TransferText.receiveAsyncEmpty TransferText.receiveAsyncAddress c reply with
  | .error e => ⟨w, c.address, c.length, .error e⟩
  | .ok (packetBuffer, address) =>
    let recvLength : BitVec 32 := 0
    match asyncResult with
    | none =>
      match w.driverHandle c.diversion with
      | none => ⟨w, address, c.length, .error .nullReference⟩
      | some handle =>
        let call : DriverCall :=
          ⟨.recvEx, handle, packetBuffer, packetBuffer.length, address.m_address, none⟩
        let w := w.onNative (.record call)
        -- the driver stores through the pinned reference to the caller's variable
        let receiveLength := reply.driver.length.getD c.length
        if reply.driver.result = 0 then ⟨w, address, receiveLength, .ok false⟩
        -- `receiveLength = recvLength`, which is still zero
        else ⟨w, address, recvLength, .ok true⟩
    | some r =>
      let (w, outcome) := startWithResult .recvEx
        TransferText.receiveAsyncReset TransferText.receiveAsyncPin c.diversion packetBuffer address
        r reply w
      ⟨w, address, c.length, outcome⟩

/-- `Diversion::SendAsync`. -/
def sendAsync (c : TransferCall) (asyncResult : Option ℕ) (reply : TransferReply) (w : World) :
    TransferResult :=
  match checkBuffer TransferText.sendAsyncEmpty c.packetBuffer with
  | .error e => ⟨w, c.address, c.length, .error e⟩
  | .ok packetBuffer =>
    match asyncResult with
    | none =>
      match w.driverHandle c.diversion, c.address with
      | some handle, some address =>
        let call : DriverCall :=
          ⟨.sendEx, handle, packetBuffer, c.packetLength, address.m_address, none⟩
        let w := w.onNative (.record call)
        -- here the driver stores through the local, which is copied out
        let sendLen := reply.driver.length.getD 0
        if reply.driver.result = 0 then ⟨w, c.address, c.length, .ok false⟩
        else ⟨w, c.address, sendLen, .ok true⟩
      | _, _ => ⟨w, c.address, c.length, .error .nullReference⟩
    | some r =>
      let (w, outcome) := startWithResult .sendEx
        TransferText.sendAsyncReset TransferText.sendAsyncPin c.diversion packetBuffer c.address
        r reply w
      ⟨w, c.address, c.length, outcome⟩

/-! ### What a start with a result object does -/

section StartWithResult

variable {api : DriverApi} {resetFailed pinFailed : String} {d r a e : ℕ}
  {packetBuffer : ManagedArray} {address : Option Address} {reply : TransferReply} {w : World}

/-- The world a request is made in: the buffer pinned, the result object reset, and pin and
driver handle recorded in it. -/
def prepared (d r ref a e : ℕ) (w : World) : World :=
  (DivertAsyncResult.ready r a e (w.onNative (.gcAlloc ref))).modify r fun o =>
    { o with
      m_buffer := some w.native.nextPin
      m_winDivertHandle := (w.diversions d).m_winDivertHandle }

/-- What becomes of the answer. -/
def answered (r : ℕ) (reply : DriverReply) (w : World) : World :=
  if reply.result = 0 then
    if reply.lastError ≠ errorIoPending then
      w.modify r fun o => { o with m_errorCode := reply.lastError, m_noError := false }
    else w
  else w.modify r fun o => { o with m_ioLength := reply.length.getD 0 }

@[simp] theorem answered_native (r : ℕ) (reply : DriverReply) (w : World) :
    (answered r reply w).native = w.native := by
  rw [answered]
  split
  · split <;> rfl
  · rfl

/-- Whether a request gets past the two checks before it. -/
def Requests (d : ℕ) (packetBuffer : ManagedArray) (address : Option Address) (w : World) : Prop :=
  packetBuffer.base ≠ 0 ∧ (w.diversions d).m_winDivertHandle ≠ none ∧ address ≠ none

/-- **A request that gets to the driver.** -/
theorem requestWithResult_submits {h pin : ℕ} {addr : Address} {reply : DriverReply}
    (hbase : packetBuffer.base ≠ 0) (hd : (w.diversions d).m_winDivertHandle = some h) :
    requestWithResult api pinFailed d packetBuffer pin (some addr) r reply w =
      (answered r reply (w.onNative (.submit ⟨api, (w.handles h).m_handle, packetBuffer,
        packetBuffer.length, addr.m_address, (w.results r).m_overlapped⟩ pin reply)),
        .ok (reply.result != 0)) := by
  have hdrv : w.driverHandle d = some (w.handles h).m_handle := by
    rw [World.driverHandle, hd]
    rfl
  simp only [requestWithResult, if_neg hbase, hdrv, answered]
  split
  · rename_i hres
    rw [hres]
    split <;> rfl
  · rename_i hres
    rw [bne_iff_ne.mpr hres]

/-- A request that does not get to the driver leaves everything as it is. -/
theorem requestWithResult_throws (r pin : ℕ) (reply : DriverReply)
    (h : ¬Requests d packetBuffer address w) :
    ∃ ex, ∀ api, requestWithResult api pinFailed d packetBuffer pin address r reply w =
      (w, .error ex) := by
  by_cases hbase : packetBuffer.base = 0
  · exact ⟨_, fun _ => if_pos hbase⟩
  · refine ⟨.nullReference, fun _ => ?_⟩
    simp only [requestWithResult, if_neg hbase]
    rcases address with _ | addr
    · cases w.driverHandle d <;> rfl
    · have hd : (w.diversions d).m_winDivertHandle = none := by
        by_contra hd
        exact h ⟨hbase, hd, Option.some_ne_none _⟩
      have hdrv : w.driverHandle d = none := by
        rw [World.driverHandle, hd]
        rfl
      simp only [hdrv]

/-- **A start whose `Reset` succeeds** makes its request in the prepared world. -/
theorem startWithResult_ready (ha : (w.results r).m_overlapped = some a)
    (he : reply.createEvent = .ok e) :
    startWithResult api resetFailed pinFailed d packetBuffer address r reply w =
      requestWithResult api pinFailed d packetBuffer w.native.nextPin address r reply.driver
        (prepared d r packetBuffer.ref a e w) := by
  have ha' : ((w.onNative (.gcAlloc packetBuffer.ref)).results r).m_overlapped = some a := ha
  simp only [startWithResult, he, DivertAsyncResult.reset_ok ha']
  rfl

/-- A start whose `Reset` fails has pinned the buffer and cleared block and object. -/
theorem startWithResult_failed {lastError : BitVec 32}
    (ha : (w.results r).m_overlapped = some a) (he : reply.createEvent = .error lastError) :
    startWithResult api resetFailed pinFailed d packetBuffer address r reply w =
      ((DivertAsyncResult.cleared r a (w.onNative (.gcAlloc packetBuffer.ref))).modify r fun o =>
        { o with m_errorCode := lastError }, .error (.exception resetFailed)) := by
  have ha' : ((w.onNative (.gcAlloc packetBuffer.ref)).results r).m_overlapped = some a := ha
  simp only [startWithResult, he, DivertAsyncResult.reset_failed ha']

/-- A start for an object without a block has pinned the buffer. -/
theorem startWithResult_null (ha : (w.results r).m_overlapped = none) :
    startWithResult api resetFailed pinFailed d packetBuffer address r reply w =
      (w.onNative (.gcAlloc packetBuffer.ref), .error .accessViolation) := by
  have ha' : ((w.onNative (.gcAlloc packetBuffer.ref)).results r).m_overlapped = none := ha
  simp only [startWithResult, DivertAsyncResult.reset_null ha']

/-- Whether a start with a result object gets to the driver. -/
def Reaches (d : ℕ) (packetBuffer : ManagedArray) (address : Option Address) (r : ℕ)
    (reply : TransferReply) (w : World) : Prop :=
  (w.results r).m_overlapped ≠ none ∧ (∃ e, reply.createEvent = .ok e) ∧
    Requests d packetBuffer address w

variable (api resetFailed pinFailed)

/-- **A start whose `Reset` succeeds** makes one request, in the prepared world, and returns
whether the driver said yes, or throws there. -/
theorem startWithResult_prepared (d : ℕ) (packetBuffer : ManagedArray) (address : Option Address)
    (ha : (w.results r).m_overlapped = some a) (he : reply.createEvent = .ok e) :
    (Requests d packetBuffer address w ∧ ∃ i addr, address = some addr ∧
      startWithResult api resetFailed pinFailed d packetBuffer address r reply w =
        (answered r reply.driver ((prepared d r packetBuffer.ref a e w).onNative
          (.submit ⟨api, ((prepared d r packetBuffer.ref a e w).handles i).m_handle, packetBuffer,
            packetBuffer.length, addr.m_address, some a⟩ w.native.nextPin reply.driver)),
          .ok (reply.driver.result != 0))) ∨
      ¬Requests d packetBuffer address w ∧ ∃ ex,
        startWithResult api resetFailed pinFailed d packetBuffer address r reply w =
          (prepared d r packetBuffer.ref a e w, .error ex) := by
  rw [startWithResult_ready ha he]
  by_cases hreq : Requests d packetBuffer address w
  · obtain ⟨hbase, hd, haddr⟩ := id hreq
    obtain ⟨i, hd⟩ := Option.ne_none_iff_exists'.mp hd
    obtain ⟨addr, rfl⟩ := Option.ne_none_iff_exists'.mp haddr
    have hprep : ((prepared d r packetBuffer.ref a e w).results r).m_overlapped = some a := by
      simp only [prepared, World.modify, DivertAsyncResult.ready, World.onNative, update_self, ha]
    have hd' : ((prepared d r packetBuffer.ref a e w).diversions d).m_winDivertHandle = some i := hd
    refine Or.inl ⟨hreq, i, addr, rfl, ?_⟩
    rw [requestWithResult_submits hbase hd', hprep]
  · have hreq' : ¬Requests d packetBuffer address (prepared d r packetBuffer.ref a e w) := hreq
    obtain ⟨ex, hex⟩ := requestWithResult_throws r w.native.nextPin reply.driver hreq'
    exact Or.inr ⟨hreq, ex, hex api⟩

/-- **A start that gets to the driver.** -/
theorem startWithResult_of_reaches (h : Reaches d packetBuffer address r reply w) :
    ∃ a e i addr, (w.results r).m_overlapped = some a ∧ reply.createEvent = .ok e ∧
      address = some addr ∧
      startWithResult api resetFailed pinFailed d packetBuffer address r reply w =
        (answered r reply.driver ((prepared d r packetBuffer.ref a e w).onNative
          (.submit ⟨api, ((prepared d r packetBuffer.ref a e w).handles i).m_handle, packetBuffer,
            packetBuffer.length, addr.m_address, some a⟩ w.native.nextPin reply.driver)),
          .ok (reply.driver.result != 0)) := by
  obtain ⟨ha, ⟨e, he⟩, hreq⟩ := h
  obtain ⟨a, ha⟩ := Option.ne_none_iff_exists'.mp ha
  rcases startWithResult_prepared api resetFailed pinFailed d packetBuffer address ha he with
    ⟨-, i, addr, haddr, hstart⟩ | ⟨hnot, -⟩
  · exact ⟨a, e, i, addr, ha, he, haddr, hstart⟩
  · exact absurd hreq hnot

/-- **A start that does not get to the driver** throws. -/
theorem startWithResult_of_not_reaches (h : ¬Reaches d packetBuffer address r reply w) :
    ∃ w' ex, startWithResult api resetFailed pinFailed d packetBuffer address r reply w =
      (w', .error ex) ∧ w'.native.log = w.native.log := by
  cases ha : (w.results r).m_overlapped with
  | none => exact ⟨_, _, startWithResult_null ha, rfl⟩
  | some a =>
    cases he : reply.createEvent with
    | error lastError => exact ⟨_, _, startWithResult_failed ha he, rfl⟩
    | ok e =>
      rcases startWithResult_prepared api resetFailed pinFailed d packetBuffer address ha he with
        ⟨hreq, -⟩ | ⟨-, ex, hstart⟩
      · exact absurd ⟨ha ▸ Option.some_ne_none a, ⟨e, he⟩, hreq⟩ h
      · exact ⟨_, ex, hstart, rfl⟩

/-- **A start writes the block** of its result object, once to clear it and once more if there
is an event to store in it, and ends no operation. -/
theorem startWithResult_writes (d : ℕ) (packetBuffer : ManagedArray) (address : Option Address)
    (reply : TransferReply) (ha : (w.results r).m_overlapped = some a) :
    (∃ h, (startWithResult api resetFailed pinFailed d packetBuffer address r reply
        w).1.native.blocks a =
      (w.native.blocks a).map fun o =>
        ⟨h, o.writes + if reply.createEvent.isOk then 2 else 1⟩) ∧
      ∀ i < w.native.nextOperation,
        (startWithResult api resetFailed pinFailed d packetBuffer address r reply
          w).1.native.pending i = w.native.pending i := by
  cases he : reply.createEvent with
  | error lastError =>
    rw [startWithResult_failed ha he]
    exact ⟨⟨.null, update_self ..⟩, fun i _ => rfl⟩
  | ok e =>
    have hready : ∀ w', (prepared d r packetBuffer.ref a e w).native = w' →
        w'.blocks a = (w.native.blocks a).map fun o => ⟨.value e, o.writes + 2⟩ := by
      rintro w' rfl
      exact update_self ..
    rcases startWithResult_prepared api resetFailed pinFailed d packetBuffer address ha he with
      ⟨-, i, addr, -, hstart⟩ | ⟨-, ex, hstart⟩
    · rw [hstart]
      refine ⟨⟨.value e, ?_⟩, fun j hj => ?_⟩
      · rw [answered_native]
        exact (congrFun (Native.submit_blocks ..) a).trans (hready _ rfl)
      · rw [answered_native]
        exact Native.submit_pending_of_lt _ _ _ hj
    · rw [hstart]
      exact ⟨⟨.value e, hready _ rfl⟩, fun j _ => rfl⟩

/-- A start the driver keeps is pending with the block of its result object. -/
theorem startWithResult_pending (hreach : Reaches d packetBuffer address r reply w)
    (hpend : reply.driver.Pending) (ha : (w.results r).m_overlapped = some a) :
    ∃ op, (startWithResult api resetFailed pinFailed d packetBuffer address r reply
      w).1.native.pending w.native.nextOperation = some op ∧ op.lpOverlapped = a := by
  obtain ⟨a', e, i, addr, ha', he, -, hstart⟩ :=
    startWithResult_of_reaches api resetFailed pinFailed hreach
  obtain rfl : a = a' := Option.some.inj (ha.symm.trans ha')
  rw [hstart, answered_native]
  exact Native.submit_pending_new (n := (prepared d r packetBuffer.ref a e w).native) rfl hpend

end StartWithResult

/-! ### What a call does -/

section Calls

variable {c : TransferCall} {reply : TransferReply} {w : World} {r : ℕ}
  {packetBuffer : ManagedArray} {address : Option Address}

theorem checkBuffer_eq_ok {empty : String} {buffer : Option ManagedArray} {a : ManagedArray} :
    checkBuffer empty buffer = .ok a ↔ buffer = some a ∧ a.bytes.length ≠ 0 := by
  cases buffer with
  | none => simp [checkBuffer]
  | some b =>
    rw [checkBuffer, Option.some.injEq]
    constructor
    · intro h
      split at h
      · cases h
      · rename_i hne
        obtain rfl : b = a := Except.ok.inj h
        exact ⟨rfl, hne⟩
    · rintro ⟨rfl, hne⟩
      rw [if_neg hne]

/-- The check lets a buffer with a first element pass, and no other. -/
theorem checkBuffer_cases (empty : String) (buffer : Option ManagedArray) :
    (∃ a, (buffer = some a ∧ a.bytes.length ≠ 0) ∧ checkBuffer empty buffer = .ok a) ∨
      ¬HasFirst buffer ∧ ∃ e, checkBuffer empty buffer = .error e := by
  cases hcheck : checkBuffer empty buffer with
  | ok a => exact Or.inl ⟨a, checkBuffer_eq_ok.mp hcheck, rfl⟩
  | error e =>
    refine Or.inr ⟨?_, e, rfl⟩
    rintro ⟨a, ha⟩
    rw [checkBuffer_eq_ok.mpr ha] at hcheck
    cases hcheck

/-- **The ways through a send without a result object**: the buffer passes its check, and there
are a handle and an address; or one of the three is missing. -/
theorem canSubmit_cases (empty : String) (c : TransferCall) (w : World) :
    (c.CanSubmit w ∧ ∃ a handle addr, c.packetBuffer = some a ∧
        checkBuffer empty c.packetBuffer = .ok a ∧ w.driverHandle c.diversion = some handle ∧
        c.address = some addr) ∨
      ¬c.CanSubmit w ∧
        ((∃ e, checkBuffer empty c.packetBuffer = .error e) ∨
          ∃ a, checkBuffer empty c.packetBuffer = .ok a ∧
            (w.driverHandle c.diversion = none ∨
              ∃ handle, w.driverHandle c.diversion = some handle ∧ c.address = none)) := by
  rcases checkBuffer_cases empty c.packetBuffer with ⟨a, ha, hcheck⟩ | ⟨hno, hcheck⟩
  · cases hd : (w.diversions c.diversion).m_winDivertHandle with
    | none =>
      have hdrv : w.driverHandle c.diversion = none := by rw [World.driverHandle, hd]; rfl
      exact Or.inr ⟨fun h => h.2.1 hd, Or.inr ⟨a, hcheck, Or.inl hdrv⟩⟩
    | some i =>
      have hdrv : w.driverHandle c.diversion = some (w.handles i).m_handle := by
        rw [World.driverHandle, hd]
        rfl
      cases haddr : c.address with
      | none =>
        exact Or.inr ⟨fun h => h.2.2 haddr, Or.inr ⟨a, hcheck, Or.inr ⟨_, hdrv, rfl⟩⟩⟩
      | some addr =>
        have hcan : c.CanSubmit w :=
          ⟨⟨a, ha⟩, hd ▸ Option.some_ne_none i, haddr ▸ Option.some_ne_none addr⟩
        exact Or.inl ⟨hcan, a, _, addr, ha.1, hcheck, hdrv, rfl⟩
  · exact Or.inr ⟨fun h => hno h.1, Or.inl hcheck⟩

/-- **A start that gets to the driver** makes one request, for the whole buffer, returns
whether the driver said yes, and keeps the length in the result object if it did. -/
theorem startWithResult_asks (api : DriverApi) (resetFailed pinFailed : String) {d : ℕ}
    (h : Reaches d packetBuffer address r reply w) :
    ∃ addr handle, address = some addr ∧
      (startWithResult api resetFailed pinFailed d packetBuffer address r reply w).1.native.log =
        w.native.log ++ [.transfer ⟨api, handle, packetBuffer, packetBuffer.length,
          addr.m_address, (w.results r).m_overlapped⟩] ∧
      (startWithResult api resetFailed pinFailed d packetBuffer address r reply w).2 =
        .ok (reply.driver.result != 0) ∧
      (reply.driver.result ≠ 0 →
        ((startWithResult api resetFailed pinFailed d packetBuffer address r reply
          w).1.results r).m_ioLength = reply.driver.length.getD 0) := by
  obtain ⟨a, e, i, addr, ha, -, haddr, hstart⟩ :=
    startWithResult_of_reaches api resetFailed pinFailed h
  refine ⟨addr, ((prepared d r packetBuffer.ref a e w).handles i).m_handle, haddr, ?_⟩
  rw [hstart, ha]
  refine ⟨?_, rfl, fun hres => ?_⟩
  · rw [answered_native]
    exact Native.submit_log _ _ _ _
  · rw [answered, if_neg hres]
    simp [World.modify]

/-- The check of the address object: `Reset` finds a structure, or can allocate one. -/
theorem checkAddress_some (failed : String) (malloc : Option WinDivertAddress)
    (address : Address) :
    (address.m_address ≠ none ∨ malloc ≠ none) ∧
        checkAddress failed malloc (some address) = .ok ⟨some ⟨0, 0, 0⟩⟩ ∨
      ¬(address.m_address ≠ none ∨ malloc ≠ none) ∧
        checkAddress failed malloc (some address) = .error .accessViolation := by
  rcases address with ⟨_ | a⟩
  · rcases malloc with _ | a
    · exact Or.inr ⟨fun h => h.elim (fun h => h rfl) fun h => h rfl, rfl⟩
    · exact Or.inl ⟨Or.inr (Option.some_ne_none a), rfl⟩
  · exact Or.inl ⟨Or.inl (Option.some_ne_none a), rfl⟩

/-- **`Receive` with a buffer and an address** asks the driver, unless the address has no
structure and cannot get one. -/
theorem receive_of_buffer {a : ManagedArray} {addr : Address} {i : ℕ}
    (hbuf : c.packetBuffer = some a) (ha : a.bytes.length ≠ 0) (haddr : c.address = some addr)
    (hd : (w.diversions c.diversion).m_winDivertHandle = some i) (reply : TransferReply) :
    receive c reply w = ⟨w.onNative (.record ⟨.recv, (w.handles i).m_handle, a, a.length,
        some ⟨0, 0, 0⟩, none⟩), some ⟨some ⟨0, 0, 0⟩⟩, reply.driver.length.getD 0,
        .ok (reply.driver.result == 1)⟩ ∨
      reply.malloc = none ∧
        receive c reply w = ⟨w, c.address, c.length, .error .accessViolation⟩ := by
  have hbuffer : checkBuffer TransferText.receiveEmpty c.packetBuffer = .ok a :=
    checkBuffer_eq_ok.mpr ⟨hbuf, ha⟩
  have hdrv : w.driverHandle c.diversion = some (w.handles i).m_handle := by
    rw [World.driverHandle, hd]
    rfl
  rw [receive, checkArguments, hbuffer, haddr]
  rcases checkAddress_some TransferText.receiveAddress reply.malloc addr with
    ⟨-, hcheck⟩ | ⟨hnone, hcheck⟩
  · rw [hcheck]
    refine Or.inl ?_
    change (match w.driverHandle c.diversion with | none => _ | some handle => _) = _
    rw [hdrv]
  · rw [hcheck]
    exact Or.inr ⟨not_not.mp (not_or.mp hnone).2, rfl⟩

/-- **`SendAsync` without a result object, with a buffer and an address**, asks the driver. -/
theorem sendAsync_of_buffer {a : ManagedArray} {addr : Address} {i : ℕ}
    (hbuf : c.packetBuffer = some a) (ha : a.bytes.length ≠ 0) (haddr : c.address = some addr)
    (hd : (w.diversions c.diversion).m_winDivertHandle = some i) (reply : TransferReply) :
    ∃ length b, sendAsync c none reply w = ⟨w.onNative (.record
      ⟨.sendEx, (w.handles i).m_handle, a, c.packetLength, addr.m_address, none⟩), some addr,
      length, .ok b⟩ := by
  have hbuffer : checkBuffer TransferText.sendAsyncEmpty c.packetBuffer = .ok a :=
    checkBuffer_eq_ok.mpr ⟨hbuf, ha⟩
  have hdrv : w.driverHandle c.diversion = some (w.handles i).m_handle := by
    rw [World.driverHandle, hd]
    rfl
  simp only [sendAsync, hbuffer, hdrv, haddr]
  split
  · exact ⟨_, _, rfl⟩
  · exact ⟨_, _, rfl⟩

variable (c reply w)

/-- `Receive` throws, or asks the driver once. -/
theorem receive_cases :
    (∃ addr e, receive c reply w = ⟨w, addr, c.length, .error e⟩) ∨
      ∃ call addr, receive c reply w = ⟨w.onNative (.record call), addr,
        reply.driver.length.getD 0, .ok (reply.driver.result == 1)⟩ := by
  rw [receive]
  split
  · exact Or.inl ⟨_, _, rfl⟩
  · split
    · exact Or.inl ⟨_, _, rfl⟩
    · exact Or.inr ⟨_, _, rfl⟩

/-- `Send` throws, or asks the driver once, for `packetLength` bytes of the buffer, which it
does wherever there is something to send. -/
theorem send_cases :
    (¬c.CanSubmit w ∧ ∃ e, send c reply w = ⟨w, c.address, c.length, .error e⟩) ∨
      c.CanSubmit w ∧ ∃ a addr handle, c.packetBuffer = some a ∧ c.address = some addr ∧
        send c reply w = ⟨w.onNative (.record
          ⟨.send, handle, a, c.packetLength, addr.m_address, none⟩), c.address,
          reply.driver.length.getD 0, .ok (reply.driver.result == 1)⟩ := by
  rcases canSubmit_cases TransferText.sendEmpty c w with
    ⟨hcan, a, handle, addr, ha, hcheck, hdrv, haddr⟩ | ⟨hnot, hwhy⟩
  · refine Or.inr ⟨hcan, a, addr, handle, ha, haddr, ?_⟩
    simp only [send, hcheck, hdrv, haddr]
  · refine Or.inl ⟨hnot, ?_⟩
    rcases hwhy with ⟨e, hcheck⟩ | ⟨a, hcheck, hdrv | ⟨handle, hdrv, haddr⟩⟩
    · exact ⟨e, by simp only [send, hcheck]⟩
    · exact ⟨.nullReference, by simp only [send, hcheck, hdrv]⟩
    · exact ⟨.nullReference, by simp only [send, hcheck, hdrv, haddr]⟩

/-- `ReceiveAsync` without a result object throws, or asks the driver once. -/
theorem receiveAsync_none_cases :
    (∃ addr e, receiveAsync c none reply w = ⟨w, addr, c.length, .error e⟩) ∨
      ∃ call addr, receiveAsync c none reply w = ⟨w.onNative (.record call), addr,
        if reply.driver.result = 0 then reply.driver.length.getD c.length else 0,
        .ok (reply.driver.result != 0)⟩ := by
  rw [receiveAsync]
  split
  · exact Or.inl ⟨_, _, rfl⟩
  · rename_i a addr hargs
    simp only
    split
    · exact Or.inl ⟨_, _, rfl⟩
    · rename_i handle hdrv
      refine Or.inr ⟨⟨.recvEx, handle, a, a.length, addr.m_address, none⟩, addr, ?_⟩
      by_cases hres : reply.driver.result = 0
      · rw [if_pos hres, if_pos hres, hres]
        rfl
      · rw [if_neg hres, if_neg hres, bne_iff_ne.mpr hres]

/-- `SendAsync` without a result object throws, or asks the driver once, for `packetLength`
bytes of the buffer, in the same cases. -/
theorem sendAsync_none_cases :
    (¬c.CanSubmit w ∧ ∃ e, sendAsync c none reply w = ⟨w, c.address, c.length, .error e⟩) ∨
      c.CanSubmit w ∧ ∃ a addr handle, c.packetBuffer = some a ∧ c.address = some addr ∧
        sendAsync c none reply w = ⟨w.onNative (.record
          ⟨.sendEx, handle, a, c.packetLength, addr.m_address, none⟩), c.address,
          if reply.driver.result = 0 then c.length else reply.driver.length.getD 0,
          .ok (reply.driver.result != 0)⟩ := by
  rcases canSubmit_cases TransferText.sendAsyncEmpty c w with
    ⟨hcan, a, handle, addr, ha, hcheck, hdrv, haddr⟩ | ⟨hnot, hwhy⟩
  · refine Or.inr ⟨hcan, a, addr, handle, ha, haddr, ?_⟩
    simp only [sendAsync, hcheck, hdrv, haddr]
    by_cases hres : reply.driver.result = 0
    · rw [if_pos hres, if_pos hres, hres]
      rfl
    · rw [if_neg hres, if_neg hres, bne_iff_ne.mpr hres]
  · refine Or.inl ⟨hnot, ?_⟩
    rcases hwhy with ⟨e, hcheck⟩ | ⟨a, hcheck, hdrv | ⟨handle, hdrv, haddr⟩⟩
    · exact ⟨e, by simp only [sendAsync, hcheck]⟩
    · exact ⟨.nullReference, by simp only [sendAsync, hcheck, hdrv]⟩
    · exact ⟨.nullReference, by simp only [sendAsync, hcheck, hdrv, haddr]⟩

/-- `ReceiveAsync` with a result object throws before it pins anything, or is a start. -/
theorem receiveAsync_some_cases (r : ℕ) :
    (∃ addr e, receiveAsync c (some r) reply w = ⟨w, addr, c.length, .error e⟩) ∨
      ∃ a addr, receiveAsync c (some r) reply w =
        ⟨(startWithResult .recvEx TransferText.receiveAsyncReset TransferText.receiveAsyncPin
            c.diversion a (some addr) r reply w).1, some addr, c.length,
          (startWithResult .recvEx TransferText.receiveAsyncReset TransferText.receiveAsyncPin
            c.diversion a (some addr) r reply w).2⟩ := by
  rw [receiveAsync]
  split
  · exact Or.inl ⟨_, _, rfl⟩
  · exact Or.inr ⟨_, _, rfl⟩

/-- `SendAsync` with a result object throws before it pins anything, on a null or empty
buffer, or is a start. -/
theorem sendAsync_some_cases (r : ℕ) :
    ((∀ a, c.packetBuffer = some a → a.bytes.length = 0) ∧
        ∃ e, sendAsync c (some r) reply w = ⟨w, c.address, c.length, .error e⟩) ∨
      ∃ a, c.packetBuffer = some a ∧ a.bytes.length ≠ 0 ∧ sendAsync c (some r) reply w =
        ⟨(startWithResult .sendEx TransferText.sendAsyncReset TransferText.sendAsyncPin
            c.diversion a c.address r reply w).1, c.address, c.length,
          (startWithResult .sendEx TransferText.sendAsyncReset TransferText.sendAsyncPin
            c.diversion a c.address r reply w).2⟩ := by
  rw [sendAsync]
  rcases checkBuffer_cases TransferText.sendAsyncEmpty c.packetBuffer with
    ⟨a, ⟨ha, hne⟩, hcheck⟩ | ⟨hno, e, hcheck⟩
  · rw [hcheck]
    exact Or.inr ⟨a, ha, hne, rfl⟩
  · rw [hcheck]
    refine Or.inl ⟨fun a ha => ?_, e, rfl⟩
    by_contra hne
    exact hno ⟨a, ha, hne⟩

end Calls

/-! ### A world to call in -/

/-- An open `Diversion` and one `DivertAsyncResult`, both with number zero. -/
def openWorld : World := DivertAsyncResult.construct (some 4096) (Diversion.opened 7 .empty)

/-- A system that makes the event 8 and answers the request as given. -/
def answering (driver : DriverReply) : TransferReply := ⟨none, .ok 8, driver⟩

/-- A buffer of 64 bytes to receive into. -/
def receiveBuffer : ManagedArray where
  ref := 0
  base := 8192
  bytes := List.replicate 64 0

/-- The driver is done at once, with `n` bytes. -/
def doneWith (n : BitVec 32) : DriverReply := ⟨1, some n, 0, true⟩

end DivertNet
