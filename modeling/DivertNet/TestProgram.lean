import DivertNet.Library.Triples
import DivertNet.FilterCopies
import DivertNet.HelperResults
import DivertNet.OpenDiversions

/-!
# The test application

`DivertTests` is the client that exercises the wrapper from end to end. `Main` opens two
Diversions that drop everything, so that nothing from outside takes part, and runs the tests
between them. A test (`RunTest`) opens a Diversion for its filter, and, if the packet is not
expected to match, a second one for everything else; it injects its packet, waits for it, and
compares what arrives with what was sent.

The application is a program over the objects of the wrapper, the copies of the filter strings,
and the six packets of the tests, which are shared arrays: `Main` recalculates the checksums in
place. What the system answers is in `DivertNet.TestReply` and `DivertNet.MainReply`.

A test is to leave no Diversion open behind it, whatever becomes of it, and so is the whole run:
`DivertNet.openDiversions_main`. There is one way out that does.
-/

namespace DivertNet

open Triples

/-! ### The state of the application -/

/-- The packets the tests send, `DivertTests.Tests.TestData`. -/
inductive TestData where
  | echoRequest | httpRequest | dnsRequest | iPv6TCPSyn | iPv6EchoReply | iPv6ExtraHeadersUdp
  deriving DecidableEq, Repr

/-- A test: the filter, the packet, and whether the packet should match. -/
structure Test where
  filter : String
  testPacketData : TestData
  isMatch : Bool
  deriving DecidableEq, Repr

/-- **The state**: the objects of the wrapper, the copies of the filter strings, and the arrays
with the packets. -/
structure Client where
  world : World
  filters : FilterState
  arrays : TestData → ManagedArray

/-- A part of the application, which may throw. -/
abbrev ClientM := Prog Client ClrException

variable {α : Type}

namespace Client

/-- A call of one of the functions that are given a filter. -/
def filtering (x : FilterM α) : ClientM α := fun s =>
  let (result, filters) := x s.filters
  (result, { s with filters := filters })

/-- A call that changes objects of the wrapper, and returns. -/
def onWorld (f : World → World × α) : ClientM α := fun s =>
  let (world, a) := f s.world
  (.ok a, { s with world := world })

/-- Reading. -/
def reading (f : Client → α) : ClientM α := fun s => (.ok (f s), s)

/-- Writing to an array of the tests. -/
def storing (i : TestData) (data : ManagedArray) : ClientM Unit := fun s =>
  (.ok (), { s with arrays := Function.update s.arrays i data })

/-- A transfer: its return value, and the address object after it. -/
def transfer (f : World → TransferResult) : ClientM (Bool × Option Address) := fun s =>
  let result := f s.world
  (result.outcome.map fun b => (b, result.address), { s with world := result.world })

/-! ### The calls of the application -/

/-- `Diversion::Open`, with the object it returns. -/
def openWith (c : OpenCall) (answer : OpenAnswer) : ClientM ℕ := do
  let handle ← filtering (DivertNet.openDiversion c answer.marshalled answer.reply)
  onWorld (Diversion.wrapped handle)

/-- `Handle.Valid` of a `Diversion`. -/
def handleValid (d : ℕ) : ClientM Bool := fun s =>
  match (s.world.diversions d).m_winDivertHandle with
  | none => (.error .nullReference, s)
  | some h => (.ok (s.world.handles h).valid, s)

/-- `Diversion::Close`. -/
def close (d : ℕ) (closed : Bool) : ClientM Bool := onWorld (Diversion.close d closed)

/-- `Close` of a variable that may be null. -/
def closeIfSome (d : Option ℕ) (closed : Bool) : ClientM Unit :=
  match d with
  | none => return ()
  | some d => do
    let _ ← close d closed
    return ()

/-- `new DivertAsyncResult()`. -/
def newResult (malloc : Option ℕ) : ClientM ℕ :=
  onWorld fun w => (DivertAsyncResult.construct malloc w, w.nextResult)

/-- `Direction` of an address object. -/
def direction : Option Address → ClientM DivertDirection
  | none => throw .nullReference
  | some address => return address.direction

/-- `CalculateChecksums`, with the array it leaves. -/
def checksummed (helper : ChecksumHelper) (a : ManagedArray) (packetLength : BitVec 32) :
    ClientM ManagedArray :=
  match calculateChecksums helper ⟨some a, packetLength, 0⟩ with
  | .error e => throw e
  | .ok r => return a.withMemory r.memory

end Client

open Client

/-! ### `RunTest` -/

/-- What arrives for a request: the bytes, and the address the driver stores with them. -/
structure Arrival where
  bytes : List Byte
  address : WinDivertAddress

/-- What the system answers during `RunTest`: to the validation and the evaluation of the
filter, to `new Address()`, to the two times a Diversion is opened, to the injection, to
`new byte[MaxPacket]` and `new DivertAsyncResult()`, to the reception and the wait, what arrives,
and to closing the two Diversions. -/
structure TestReply where
  validateMarshalled : Bool
  validated : CheckReply
  address : Option WinDivertAddress
  evaluateMarshalled : Bool
  evaluated : ℕ
  opened1 : OpenAnswer
  opened2 : OpenAnswer
  injected : TransferReply
  bufferRef : ℕ
  bufferBase : ℕ
  overlapped : Option ℕ
  received : TransferReply
  wait : GetReply
  arrival : Arrival
  closed1 : Bool
  closed2 : Bool

/-- `MaxPacket`. -/
def maxPacket : ℕ := 2048

/-- `new byte[MaxPacket]`. -/
def TestReply.buffer (reply : TestReply) : ManagedArray where
  ref := reply.bufferRef
  base := reply.bufferBase
  bytes := List.replicate maxPacket 0
  length_lt := by
    rw [List.length_replicate]
    decide

/-- Comparing what arrived with what was sent, element by element of what was sent. -/
def sameBytes : List Byte → List Byte → Except ClrException Bool
  | _, [] => .ok true
  | [], _ :: _ => .error .indexOutOfRange
  | b :: buffer, d :: data => if b ≠ d then .ok false else sameBytes buffer data

section RunTest

variable (helper : ChecksumHelper) (reply : TestReply)

/-- The way out of a test that fails with its Diversions open. -/
def failTest (testDiversion1 : ℕ) (testDiversion2 : Option ℕ) : ClientM Bool := do
  closeIfSome testDiversion2 reply.closed2
  let _ ← close testDiversion1 reply.closed1
  return false

/-- The buffer when the packet is there, with its checksums calculated if it was outbound. -/
def arrivedBuffer (address : Option Address) (recvLength : BitVec 32) : ClientM ManagedArray := do
  let buffer := reply.buffer.overwrite reply.arrival.bytes
  if (← direction address) = .outbound then checksummed helper buffer recvLength
  else return buffer

/-- The rest of `RunTest` once the packet is there: `recvLength` bytes of the buffer. -/
def verifyPacket (data : ManagedArray) (address : Option Address) (recvLength : BitVec 32)
    (testDiversion1 : ℕ) (testDiversion2 : Option ℕ) : ClientM Bool := do
  let buffer ← arrivedBuffer helper reply address recvLength
  if recvLength.toNat ≠ data.bytes.length then failTest reply testDiversion1 testDiversion2
  else
    match sameBytes buffer.bytes data.bytes with
    | .error e => throw e
    | .ok false => failTest reply testDiversion1 testDiversion2
    | .ok true =>
      -- here the first Diversion is closed before the second
      let _ ← close testDiversion1 reply.closed1
      closeIfSome testDiversion2 reply.closed2
      return true

/-- The wait for a reception that is pending, and the rest of `RunTest`. -/
def fetchPacket (data : ManagedArray) (address : Option Address) (result testDiversion1 : ℕ)
    (testDiversion2 : Option ℕ) : ClientM Bool := do
  if !(← onWorld (DivertAsyncResult.get result reply.wait)) then
    failTest reply testDiversion1 testDiversion2
  else
    let recvLength ← reading fun s => (s.world.results result).m_ioLength
    verifyPacket helper reply data address recvLength testDiversion1 testDiversion2

/-- `RunTest`, from the reception on. -/
def awaitPacket (data : ManagedArray) (address : Option Address) (testDiversion1 : ℕ)
    (testDiversion2 : Option ℕ) : ClientM Bool := do
  let result ← newResult reply.overlapped
  let call : TransferCall := ⟨testDiversion1, some reply.buffer, 0, address, 0⟩
  let (started, address) ← transfer (receiveAsync call (some result) reply.received)
  let address := address.map fun a => Address.mk (a.m_address.map fun _ => reply.arrival.address)
  if started then
    -- `recvLength` is still zero: the length is in the result object
    verifyPacket helper reply data address 0 testDiversion1 testDiversion2
  else if !(← reading fun s => (s.world.results result).m_noError) then
    failTest reply testDiversion1 testDiversion2
  else fetchPacket helper reply data address result testDiversion1 testDiversion2

/-- `RunTest`, from the injection on. -/
def exchangePacket (data : ManagedArray) (address : Address)
    (injectionDiversion testDiversion1 : ℕ) (testDiversion2 : Option ℕ) : ClientM Bool := do
  let call : TransferCall := ⟨injectionDiversion, some data, data.length, some address, 0⟩
  let (sent, address) ← transfer (send call reply.injected)
  if !sent then failTest reply testDiversion1 testDiversion2
  else awaitPacket helper reply data address testDiversion1 testDiversion2

/-- `RunTest`, from the first `Diversion.Open` on. -/
def divertPacket (test : Test) (data : ManagedArray) (address : Address)
    (injectionDiversion : ℕ) : ClientM Bool := do
  match ← attempt (openWith ⟨some test.filter, networkLayer, 0, 0⟩ reply.opened1) with
  | .error _ => return false
  | .ok testDiversion1 =>
    if !(← handleValid testDiversion1) then return false
    else if test.isMatch then
      exchangePacket helper reply data address injectionDiversion testDiversion1 none
    else
      let testDiversion2 := testDiversion1
      match ← attempt (openWith ⟨some "true", networkLayer, 33, 0⟩ reply.opened2) with
      | .error _ =>
        -- the variable still has the first Diversion
        let _ ← close testDiversion1 reply.closed1
        return false
      | .ok testDiversion1 =>
        if !(← handleValid testDiversion2) then
          let _ ← close testDiversion1 reply.closed1
          return false
        else
          exchangePacket helper reply data address injectionDiversion testDiversion1
            (some testDiversion2)

/-- **`RunTest`.** -/
def runTest (test : Test) (injectionDiversion : ℕ) : ClientM Bool := do
  let (valid, _) ← filtering
    (validateFilter ⟨some test.filter, networkLayer, some ""⟩ reply.validateMarshalled
      reply.validated)
  if !valid then return false
  else
    let address := (Address.init reply.address).setDirection .outbound
    let data ← reading fun s => s.arrays test.testPacketData
    let evaluated ← filtering
      (evaluateFilter ⟨some test.filter, networkLayer, some data, data.length, some address⟩
        reply.evaluateMarshalled reply.evaluated)
    if evaluated ≠ test.isMatch then return false
    else divertPacket helper reply test data address injectionDiversion

end RunTest

/-! ### `Main` -/

/-- What the system answers during `Main`: to opening the two Diversions, during each test, and
to closing the two. -/
structure MainReply where
  upper : OpenAnswer
  lower : OpenAnswer
  tests : List (Test × TestReply)
  closedUpper : Bool
  closedLower : Bool

/-- `FilterFlags.Drop`. -/
def dropFlag : BitVec 64 := 2

section Main

variable (helper : ChecksumHelper)

/-- One pass of the loop over the tests: the checksums of the packet, and the test. -/
def countTest (upper : ℕ) (test : Test × TestReply) (counts : ℕ × ℕ) :
    ClientM (ℕ × ℕ) := do
  let data ← reading fun s => s.arrays test.1.testPacketData
  let data ← checksummed helper data data.length
  storing test.1.testPacketData data
  if ← runTest helper test.2 test.1 upper then return (counts.1 + 1, counts.2)
  else return (counts.1, counts.2 + 1)

/-- **`Main`**, from the first `Diversion.Open` on: how many tests passed, and how many failed,
if they are run. -/
def main (reply : MainReply) : ClientM (Option (ℕ × ℕ)) := do
  match ← attempt (openWith ⟨some "true", networkLayer, -510, dropFlag⟩ reply.upper) with
  | .error _ => return none
  | .ok upper =>
    match ← attempt (openWith ⟨some "true", networkLayer, 510, dropFlag⟩ reply.lower) with
    | .error _ => return none
    | .ok lower =>
      if !(← handleValid upper) then return none
      else if !(← handleValid lower) then return none
      else
        let counts ← forEach (countTest helper upper) reply.tests (0, 0)
        let _ ← close upper reply.closedUpper
        let _ ← close lower reply.closedLower
        return some counts

end Main

/-! ### What is left open -/

/-- The objects are in order, and these Diversions are open. -/
def Opened (ds : Set ℕ) (s : Client) : Prop := s.world.HasOpen ds

/-- Nothing is said of how a program throws. -/
abbrev AnyThrow : ClrException → Client → Prop := fun _ _ => True

section Opened

variable {ds : Set ℕ} {d : ℕ}

theorem opened_filtering (x : FilterM α) :
    Triple (Opened ds) (filtering x) (fun _ => Opened ds) (fun _ => Opened ds) := by
  refine ⟨fun s hs => ?_⟩
  rw [filtering]
  rcases x s.filters with ⟨_ | _, filters⟩ <;> exact hs

theorem opened_reading (f : Client → α) :
    Triple (Opened ds) (reading f) (fun _ => Opened ds) AnyThrow := ⟨fun _ hs => hs⟩

theorem opened_onWorld {f : World → World × α}
    (hf : ∀ w : World, w.Separate → KeepsDiversions w (f w).1) :
    Triple (Opened ds) (onWorld f) (fun _ => Opened ds) AnyThrow := by
  exact ⟨fun s hs => (hf s.world hs.1).hasOpen hs⟩

theorem opened_transfer {f : World → TransferResult}
    (hf : ∀ w : World, KeepsDiversions w (f w).world) :
    Triple (Opened ds) (transfer f) (fun _ => Opened ds) AnyThrow := by
  refine ⟨fun s hs => ?_⟩
  rw [transfer]
  cases (f s.world).outcome with
  | error e => trivial
  | ok b => exact (hf s.world).hasOpen hs

/-- **`Diversion::Open` adds a new `Diversion`**, or throws. -/
theorem opened_openWith (c : OpenCall) (answer : OpenAnswer) :
    Triple (Opened ds) (openWith c answer)
      (fun d s => answer.Opens c.filter ∧ d ∉ ds ∧ Opened (insert d ds) s)
      (fun _ s => ¬answer.Opens c.filter ∧ Opened ds s) := by
  have hfiltering : Triple (Opened ds)
      (filtering (DivertNet.openDiversion c answer.marshalled answer.reply))
      (fun handle s => (answer.Opens c.filter ∧ handle ≠ .invalid) ∧ Opened ds s)
      (fun _ s => ¬answer.Opens c.filter ∧ Opened ds s) := by
    refine ⟨fun s hs => ?_⟩
    rw [filtering]
    rcases hrun : DivertNet.openDiversion c answer.marshalled answer.reply s.filters with
      ⟨e | handle, filters⟩
    · refine ⟨fun hopens => ?_, hs⟩
      have hok := (openDiversion_eq_ok (s := s.filters)).mpr ⟨hopens, rfl⟩
      rw [hrun] at hok
      cases hok
    · have hok : (DivertNet.openDiversion c answer.marshalled answer.reply s.filters).1 =
          .ok handle := by rw [hrun]
      obtain ⟨hopens, rfl⟩ := openDiversion_eq_ok.mp hok
      exact ⟨⟨hopens, hopens.2.2⟩, hs⟩
  refine triple_bind hfiltering fun handle => ⟨?_⟩
  rintro s ⟨⟨hopens, hhandle⟩, hs⟩
  have hnew := And.intro hopens (hs.wrapped hhandle)
  rwa [← (wrapped_spec handle s.world).1] at hnew

/-- The same in a `try`. -/
theorem opened_attempt (c : OpenCall) (answer : OpenAnswer) {E : ClrException → Client → Prop} :
    Triple (Opened ds) (attempt (openWith c answer))
      (fun result s => match result with
        | .ok d => (answer.Opens c.filter ∧ d ∉ ds) ∧ Opened (insert d ds) s
        | .error _ => ¬answer.Opens c.filter ∧ Opened ds s) E := by
  refine triple_attempt (opened_openWith c answer) (fun d s hs => ?_) fun e s hs => hs
  exact ⟨⟨hs.1, hs.2.1⟩, hs.2.2⟩

/-- A `Diversion` that is open is valid. -/
theorem opened_handleValid (hd : d ∈ ds) :
    Triple (Opened ds) (handleValid d) (fun valid s => valid = true ∧ Opened ds s) AnyThrow := by
  refine ⟨fun s hs => ?_⟩
  obtain ⟨h, hdh, hvalid⟩ := hs.valid hd
  rw [handleValid, hdh]
  exact ⟨hvalid, hs⟩

/-- `Diversion::Close` that succeeds. -/
theorem opened_close (hd : d ∈ ds) :
    Triple (Opened ds) (close d true) (fun _ => Opened (ds \ {d})) AnyThrow :=
  ⟨fun _ hs => hs.close hd⟩

theorem opened_closeIfSome {d : Option ℕ} (hd : ∀ d' ∈ d, d' ∈ ds) :
    Triple (Opened ds) (closeIfSome d true) (fun _ => Opened (ds \ {d' | d' ∈ d})) AnyThrow := by
  cases d with
  | none =>
    refine triple_pure fun s hs => ?_
    simpa using hs
  | some d =>
    refine triple_bind (opened_close (hd d rfl)) fun _ => triple_pure fun s hs => ?_
    simpa [eq_comm, Set.ofPred_eq_eq_singleton] using hs

theorem opened_direction (address : Option Address) :
    Triple (Opened ds) (direction address) (fun _ => Opened ds) AnyThrow := by
  cases address with
  | none => exact triple_throw fun _ _ => trivial
  | some address => exact triple_pure fun _ hs => hs

theorem opened_checksummed (helper : ChecksumHelper) (a : ManagedArray)
    (packetLength : BitVec 32) :
    Triple (Opened ds) (checksummed helper a packetLength) (fun _ => Opened ds) AnyThrow := by
  rw [checksummed]
  split
  · exact triple_throw fun _ _ => trivial
  · exact triple_pure fun _ hs => hs

theorem opened_newResult (malloc : Option ℕ) :
    Triple (Opened ds) (newResult malloc) (fun _ => Opened ds) AnyThrow :=
  opened_onWorld fun w _ => keepsDiversions_construct malloc w

/-! #### `RunTest` closes what it opens -/

section RunTest

variable {helper : ChecksumHelper} {reply : TestReply} {d₁ : ℕ} {d₂ : Option ℕ}

/-- The Diversions of a test: new, and different from each other. -/
structure Testing (ds : Set ℕ) (d₁ : ℕ) (d₂ : Option ℕ) (ds₁ : Set ℕ) : Prop where
  first : d₁ ∈ ds₁
  second : ∀ d ∈ d₂, d ∈ ds₁ ∧ d ≠ d₁
  others : (ds₁ \ {d | d ∈ d₂}) \ {d₁} = ds

variable {ds₁ : Set ℕ}

theorem opened_failTest (hclosed : reply.closed1 = true ∧ reply.closed2 = true)
    (h : Testing ds d₁ d₂ ds₁) :
    Triple (Opened ds₁) (failTest reply d₁ d₂) (fun _ => Opened ds) AnyThrow := by
  rw [failTest, hclosed.1, hclosed.2]
  refine triple_bind (opened_closeIfSome fun d hd => (h.second d hd).1) fun _ => ?_
  refine triple_bind (opened_close ⟨h.first, fun hd => (h.second d₁ hd).2 rfl⟩) fun _ => ?_
  exact triple_pure fun s hs => h.others ▸ hs

theorem opened_arrivedBuffer (address : Option Address) (recvLength : BitVec 32) :
    Triple (Opened ds) (arrivedBuffer helper reply address recvLength) (fun _ => Opened ds)
      AnyThrow := by
  refine triple_bind (opened_direction address) fun direction => ?_
  exact triple_ite (fun _ => opened_checksummed _ _ _) fun _ => triple_pure fun _ hs => hs

theorem opened_verifyPacket (hclosed : reply.closed1 = true ∧ reply.closed2 = true)
    (h : Testing ds d₁ d₂ ds₁) (data : ManagedArray) (address : Option Address)
    (recvLength : BitVec 32) :
    Triple (Opened ds₁) (verifyPacket helper reply data address recvLength d₁ d₂)
      (fun _ => Opened ds) AnyThrow := by
  refine triple_bind (opened_arrivedBuffer address recvLength) fun buffer => ?_
  refine triple_ite (fun _ => opened_failTest hclosed h) fun _ => ?_
  split
  · exact triple_throw fun _ _ => trivial
  · exact opened_failTest hclosed h
  · rw [hclosed.1, hclosed.2]
    refine triple_bind (opened_close h.first) fun _ => ?_
    refine triple_bind (opened_closeIfSome fun d hd => ⟨(h.second d hd).1, (h.second d hd).2⟩)
      fun _ => ?_
    refine triple_pure fun s hs => ?_
    rw [sdiff_right_comm, h.others] at hs
    exact hs

theorem opened_fetchPacket (hclosed : reply.closed1 = true ∧ reply.closed2 = true)
    (h : Testing ds d₁ d₂ ds₁) (data : ManagedArray) (address : Option Address) (result : ℕ) :
    Triple (Opened ds₁) (fetchPacket helper reply data address result d₁ d₂)
      (fun _ => Opened ds) AnyThrow := by
  refine triple_bind (opened_onWorld fun w hw => keepsDiversions_get hw _ _) fun got => ?_
  refine triple_ite (fun _ => opened_failTest hclosed h) fun _ => ?_
  exact triple_bind (opened_reading _) fun recvLength => opened_verifyPacket hclosed h ..

theorem opened_awaitPacket (hclosed : reply.closed1 = true ∧ reply.closed2 = true)
    (h : Testing ds d₁ d₂ ds₁) (data : ManagedArray) (address : Option Address) :
    Triple (Opened ds₁) (awaitPacket helper reply data address d₁ d₂) (fun _ => Opened ds)
      AnyThrow := by
  rw [awaitPacket]
  refine triple_bind (opened_newResult _) fun result => ?_
  have hreceive : ∀ c w,
      KeepsDiversions w (receiveAsync c (some result) reply.received w).world :=
    fun c w => keepsDiversions_run .receiveAsync c result reply.received w
  refine triple_bind (opened_transfer fun w => hreceive _ w) ?_
  rintro ⟨started, address⟩
  refine triple_ite (fun _ => opened_verifyPacket hclosed h _ _ _) fun _ => ?_
  refine triple_bind (opened_reading _) fun noError => ?_
  exact triple_ite (fun _ => opened_failTest hclosed h) fun _ => opened_fetchPacket hclosed h ..

theorem opened_exchangePacket (hclosed : reply.closed1 = true ∧ reply.closed2 = true)
    (h : Testing ds d₁ d₂ ds₁) (data : ManagedArray) (address : Address)
    (injectionDiversion : ℕ) :
    Triple (Opened ds₁) (exchangePacket helper reply data address injectionDiversion d₁ d₂)
      (fun _ => Opened ds) AnyThrow := by
  rw [exchangePacket]
  refine triple_bind (opened_transfer fun w => keepsDiversions_send _ _ w) ?_
  rintro ⟨sent, address⟩
  exact triple_ite (fun _ => opened_failTest hclosed h) fun _ => opened_awaitPacket hclosed h _ _

/-- The first Diversion alone. -/
theorem testing_one {d : ℕ} (hd : d ∉ ds) : Testing ds d none (insert d ds) where
  first := Set.mem_insert d ds
  second d' hd' := nomatch hd'
  others := by simpa using hd

/-- Both of them, the second opened after the first. -/
theorem testing_two {d d' : ℕ} (hd : d ∉ ds) (hd' : d' ∉ insert d ds) :
    Testing ds d' (some d) (insert d' (insert d ds)) where
  first := Set.mem_insert d' _
  second d'' hd'' := by
    obtain rfl : d = d'' := by simpa using hd''
    refine ⟨Set.mem_insert_of_mem _ (Set.mem_insert d ds), ?_⟩
    rintro rfl
    exact hd' (Set.mem_insert d ds)
  others := by
    have hsingle : {x | x ∈ some d} = ({d} : Set ℕ) := by
      ext x
      simp [eq_comm]
    rw [hsingle, sdiff_right_comm, Set.insert_sdiff_self_of_notMem hd',
      Set.insert_sdiff_self_of_notMem hd]

theorem opened_divertPacket (hclosed : reply.closed1 = true ∧ reply.closed2 = true) (test : Test)
    (data : ManagedArray) (address : Address) (injectionDiversion : ℕ) :
    Triple (Opened ds) (divertPacket helper reply test data address injectionDiversion)
      (fun _ => Opened ds) AnyThrow := by
  refine triple_bind (opened_attempt _ _) ?_
  rintro (e | d)
  · exact triple_pure fun s hs => hs.2
  refine triple_of_known fun ⟨_, hd⟩ => ?_
  refine triple_bind (opened_handleValid (Set.mem_insert d ds)) fun valid => ?_
  refine triple_of_known fun hvalid => ?_
  rw [hvalid]
  refine triple_ite (fun h => nomatch h) fun _ => ?_
  refine triple_ite (fun _ => opened_exchangePacket hclosed (testing_one hd) ..) fun _ => ?_
  refine triple_bind (opened_attempt _ _) ?_
  rintro (e | d')
  · -- the variable still has the first one
    rw [hclosed.1]
    refine triple_bind (triple_of_known fun _ => opened_close (Set.mem_insert d ds)) fun _ => ?_
    refine triple_pure fun s hs => ?_
    rwa [Set.insert_sdiff_self_of_notMem hd] at hs
  refine triple_of_known fun ⟨_, hd'⟩ => ?_
  have hmem : d ∈ insert d' (insert d ds) := Set.mem_insert_of_mem d' (Set.mem_insert d ds)
  refine triple_bind (opened_handleValid hmem) fun valid => ?_
  refine triple_of_known fun hvalid => ?_
  rw [hvalid]
  refine triple_ite (fun h => nomatch h) fun _ => ?_
  exact opened_exchangePacket hclosed (testing_two hd hd') ..

/-- **A test closes what it opens**, whether it passes or fails, if the closes succeed. -/
theorem opened_runTest (hclosed : reply.closed1 = true ∧ reply.closed2 = true) (test : Test)
    (injectionDiversion : ℕ) :
    Triple (Opened ds) (runTest helper reply test injectionDiversion) (fun _ => Opened ds)
      AnyThrow := by
  refine triple_bind ((opened_filtering _).mono (fun _ hs => hs) (fun _ _ hs => hs)
    fun _ _ _ => trivial) ?_
  rintro ⟨valid, errorDetails⟩
  refine triple_ite (fun _ => triple_pure fun _ hs => hs) fun _ => ?_
  refine triple_bind (opened_reading _) fun data => ?_
  refine triple_bind ((opened_filtering _).mono (fun _ hs => hs) (fun _ _ hs => hs)
    fun _ _ _ => trivial) fun evaluated => ?_
  exact triple_ite (fun _ => triple_pure fun _ hs => hs) fun _ => opened_divertPacket hclosed ..

end RunTest

/-! #### `Main` closes what it opens, or does not get that far -/

section Main

variable {helper : ChecksumHelper}

/-- The state `Main` starts in. -/
def Client.start (arrays : TestData → ManagedArray) : Client := ⟨.empty, .initial, arrays⟩

theorem opened_start (arrays : TestData → ManagedArray) : Opened ∅ (Client.start arrays) :=
  hasOpen_empty

theorem opened_storing (i : TestData) (data : ManagedArray) :
    Triple (Opened ds) (storing i data) (fun _ => Opened ds) AnyThrow := ⟨fun _ hs => hs⟩

/-- Each test is counted once. -/
theorem opened_countTest {test : Test × TestReply}
    (hclosed : test.2.closed1 = true ∧ test.2.closed2 = true) (upper n : ℕ) (counts : ℕ × ℕ) :
    Triple (fun s => counts.1 + counts.2 = n ∧ Opened ds s) (countTest helper upper test counts)
      (fun counts s => counts.1 + counts.2 = n + 1 ∧ Opened ds s) AnyThrow := by
  refine triple_of_known fun hcounts => ?_
  refine triple_bind (opened_reading _) fun data => ?_
  refine triple_bind (opened_checksummed ..) fun data => ?_
  refine triple_bind (opened_storing ..) fun _ => ?_
  refine triple_bind (opened_runTest hclosed ..) fun passed => ?_
  refine triple_ite (fun _ => ?_) fun _ => ?_
  · refine triple_pure fun s hs => ⟨?_, hs⟩
    change counts.1 + 1 + counts.2 = n + 1
    omega
  · refine triple_pure fun s hs => ⟨?_, hs⟩
    change counts.1 + (counts.2 + 1) = n + 1
    omega

/-- **The loop** counts every test, and leaves open what was open. -/
theorem opened_tests (upper : ℕ) {tests : List (Test × TestReply)}
    (hclosed : ∀ test ∈ tests, test.2.closed1 = true ∧ test.2.closed2 = true) :
    Triple (Opened ds) (forEach (countTest helper upper) tests (0, 0))
      (fun counts s => counts.1 + counts.2 = tests.length ∧ Opened ds s) AnyThrow := by
  have hloop := triple_forEach (l := tests) (f := countTest helper upper) (E := AnyThrow)
    (I := fun done counts s => counts.1 + counts.2 = done.length ∧ Opened ds s) (b := (0, 0))
    fun done test rest counts hl => by
      rw [List.length_append]
      exact opened_countTest (hclosed test (by rw [hl]; simp)) upper done.length counts
  exact hloop.mono (fun s hs => ⟨rfl, hs⟩) (fun _ _ hs => hs) fun _ _ _ => trivial

/-- Every `Diversion::Close` of the run succeeds. -/
structure MainReply.Closes (reply : MainReply) : Prop where
  upper : reply.closedUpper = true
  lower : reply.closedLower = true
  tests : ∀ test ∈ reply.tests, test.2.closed1 = true ∧ test.2.closed2 = true

/-- The two Diversions `Main` runs the tests between can be opened. -/
def MainReply.OpensUpper (reply : MainReply) : Prop := reply.upper.Opens (some "true")

@[inherit_doc MainReply.OpensUpper]
def MainReply.OpensLower (reply : MainReply) : Prop := reply.lower.Opens (some "true")

/-- How `Main` ends: the tests are run and counted and nothing is open, or one of the two
Diversions cannot be opened, the second one after the first. -/
def EndsMain (reply : MainReply) : Option (ℕ × ℕ) → Client → Prop
  | some counts, s => (reply.OpensUpper ∧ reply.OpensLower) ∧
      counts.1 + counts.2 = reply.tests.length ∧ s.world.openDiversions = ∅
  | none, s => ¬reply.OpensUpper ∧ s.world.openDiversions = ∅ ∨
      (reply.OpensUpper ∧ ¬reply.OpensLower) ∧ s.world.openDiversions.Nonempty

theorem endsMain_main {reply : MainReply} (hclosed : reply.Closes) :
    Triple (Opened ∅) (main helper reply) (EndsMain reply) AnyThrow := by
  refine triple_bind (opened_attempt _ _) ?_
  rintro (e | upper)
  · exact triple_pure fun s hs => Or.inl ⟨hs.1, hs.2.2⟩
  refine triple_of_known fun ⟨hupper, hnew⟩ => ?_
  refine triple_bind (opened_attempt _ _) ?_
  rintro (e | lower)
  · refine triple_pure fun s hs => Or.inr ⟨⟨hupper, hs.1⟩, ?_⟩
    rw [hs.2.2]
    exact ⟨upper, Set.mem_insert upper ∅⟩
  refine triple_of_known fun ⟨hlower, hnew'⟩ => ?_
  have htesting := testing_two hnew hnew'
  have hmem := (htesting.second upper rfl).1
  refine triple_bind (opened_handleValid hmem) fun valid => ?_
  refine triple_of_known fun hvalid => ?_
  rw [hvalid]
  refine triple_ite (fun h => nomatch h) fun _ => ?_
  refine triple_bind (opened_handleValid htesting.first) fun valid => ?_
  refine triple_of_known fun hvalid => ?_
  rw [hvalid]
  refine triple_ite (fun h => nomatch h) fun _ => ?_
  refine triple_bind (opened_tests upper hclosed.tests) fun counts => ?_
  refine triple_of_known fun hcounts => ?_
  rw [hclosed.upper, hclosed.lower]
  refine triple_bind (opened_close hmem) fun _ => ?_
  refine triple_bind (opened_close ⟨htesting.first, fun hl => hnew' ?_⟩) fun _ => ?_
  · rw [Set.mem_singleton_iff.mp hl]
    exact Set.mem_insert upper ∅
  refine triple_pure fun s hs => ⟨⟨hupper, hlower⟩, hcounts, ?_⟩
  rw [hs.2, sdiff_right_comm, Set.insert_sdiff_self_of_notMem hnew',
    Set.insert_sdiff_self_of_notMem hnew]

/-- **What `Main` leaves open**: if it returns, and every close succeeds, nothing, unless the
second of its two Diversions could not be opened. Then the first one stays open. Every test that
was given is counted, as passed or as failed, where the tests are run. -/
theorem openDiversions_main {reply : MainReply} {arrays : TestData → ManagedArray}
    {outcome : Option (ℕ × ℕ)} {t : Client} (hclosed : reply.Closes)
    (h : main helper reply (.start arrays) = (.ok outcome, t)) :
    (t.world.openDiversions = ∅ ↔ (reply.OpensUpper → reply.OpensLower)) ∧
      (outcome ≠ none ↔ reply.OpensUpper ∧ reply.OpensLower) ∧
      ∀ counts, outcome = some counts → counts.1 + counts.2 = reply.tests.length := by
  have hends := (endsMain_main hclosed).returns (opened_start arrays) h
  rcases outcome with _ | counts
  · rcases hends with ⟨hupper, hnone⟩ | ⟨⟨hupper, hlower⟩, hsome⟩
    · exact ⟨iff_of_true hnone fun h => absurd h hupper,
        iff_of_false (fun h => h rfl) fun h => hupper h.1, fun _ h => nomatch h⟩
    · exact ⟨iff_of_false hsome.ne_empty fun h => hlower (h hupper),
        iff_of_false (fun h => h rfl) fun h => hlower h.2, fun _ h => nomatch h⟩
  · obtain ⟨hopens, hcounts, hnone⟩ := hends
    refine ⟨iff_of_true hnone fun _ => hopens.2,
      iff_of_true (Option.some_ne_none counts) hopens, ?_⟩
    intro counts' hsome
    obtain rfl : counts = counts' := Option.some.inj hsome
    exact hcounts

end Main

end Opened

/-! #### Two runs -/

/-- `TestData.EchoRequest`. -/
def echoBytes : List Byte :=
  [0x45, 0x00, 0x00, 0x54, 0x12, 0x34, 0x40, 0x00, 0x40, 0x01, 0x00, 0x00, 0x0A, 0x00, 0x00, 0x01,
    0x08, 0x08, 0x08, 0x08, 0x08, 0x00, 0x00, 0x00, 0x0D, 0x56, 0x00, 0x01, 0x8B, 0xA6, 0x60, 0x54,
    0x00, 0x00, 0x00, 0x00, 0xF9, 0x08, 0x0A, 0x00, 0x00, 0x00, 0x00, 0x00, 0x10, 0x11, 0x12, 0x13,
    0x14, 0x15, 0x16, 0x17, 0x18, 0x19, 0x1A, 0x1B, 0x1C, 0x1D, 0x1E, 0x1F, 0x20, 0x21, 0x22, 0x23,
    0x24, 0x25, 0x26, 0x27, 0x28, 0x29, 0x2A, 0x2B, 0x2C, 0x2D, 0x2E, 0x2F, 0x30, 0x31, 0x32, 0x33,
    0x34, 0x35, 0x36, 0x37]

/-- The echo request for every test. -/
def echoArrays : TestData → ManagedArray := fun _ => ⟨0, 4096, echoBytes, by decide⟩

/-- The driver gives the handle `v`. -/
def openedAs (v : ℕ) : OpenAnswer := ⟨true, ⟨.value v, 0⟩⟩

/-- The first of the tests. -/
def echoTest : Test := ⟨"outbound and icmp", .echoRequest, true⟩

/-- Everything is answered as the test needs it: the reception goes pending, and the packet
arrives as it was injected, with its checksums and outbound. -/
def echoReply : TestReply where
  validateMarshalled := true
  validated := ⟨1, none⟩
  address := some ⟨0, 0, 0⟩
  evaluateMarshalled := true
  evaluated := 1
  opened1 := openedAs 9
  opened2 := openedAs 10
  injected := answering (doneWith 84)
  bufferRef := 1
  bufferBase := 8192
  overlapped := some 4096
  received := answering ⟨0, none, errorIoPending, false⟩
  wait := ⟨.object0, 0, .ok 84, true⟩
  arrival := ⟨withChecksums 0 echoBytes, ⟨1, 0, 0⟩⟩
  closed1 := true
  closed2 := true

/-- A run of one test. -/
def echoRun : MainReply where
  upper := openedAs 7
  lower := openedAs 8
  tests := [(echoTest, echoReply)]
  closedUpper := true
  closedLower := true

/-- The second Diversion is denied. -/
def deniedRun : MainReply := { echoRun with lower := ⟨true, ⟨.invalid, 5⟩⟩ }

/-- **A run of a test**, after which nothing is open, and one that is denied the second Diversion
and leaves the first one open. -/
theorem openDiversions_echoRun :
    (∃ t, main ipv4Calculator echoRun (.start echoArrays) = (.ok (some (1, 0)), t) ∧
        t.world.openDiversions = ∅) ∧
      ∃ t, main ipv4Calculator deniedRun (.start echoArrays) = (.ok none, t) ∧
        t.world.openDiversions ≠ ∅ := by
  have hcloses : ∀ test ∈ [(echoTest, echoReply)],
      test.2.closed1 = true ∧ test.2.closed2 = true := by
    intro test htest
    rw [List.mem_singleton.mp htest]
    exact ⟨rfl, rfl⟩
  constructor
  · have hpasses : (main ipv4Calculator echoRun (.start echoArrays)).1 = .ok (some (1, 0)) := by
      decide +kernel
    rcases hrun : main ipv4Calculator echoRun (.start echoArrays) with ⟨outcome, t⟩
    rw [hrun] at hpasses
    obtain rfl : outcome = .ok (some (1, 0)) := hpasses
    have hmain := openDiversions_main ⟨rfl, rfl, hcloses⟩ hrun
    exact ⟨t, rfl, hmain.1.mpr fun _ => ⟨by decide, rfl, fun h => nomatch h⟩⟩
  · refine ⟨_, rfl, fun hnone => ?_⟩
    have hmain := openDiversions_main ⟨rfl, rfl, hcloses⟩
      (rfl : main ipv4Calculator deniedRun (.start echoArrays) = _)
    exact (hmain.1.mp hnone ⟨by decide, rfl, fun h => nomatch h⟩).2.2 rfl

end DivertNet
