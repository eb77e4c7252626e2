import Mathlib.Logic.Function.Basic
import DivertNet.Address

/-!
# The native side of the wrapper

What the wrapper acquires from the system outlives the call that acquired it: handles
stay open until they are closed, blocks stay allocated until they are freed, a managed
array stays where it is until its pin is released, and an overlapped operation stays
pending until the driver completes it. `DivertNet.Native` is the state of all of these.

| resource | acquired by | released by |
|---|---|---|
| an event handle | `CreateEvent` | `CloseHandle` |
| a driver handle | `WinDivertOpen` | `WinDivertClose` |
| an `OVERLAPPED` block | `malloc` | `free` |
| a pinned array | `GCHandle::Alloc` | `GCHandle::Free` |
| a pending operation | `WinDivertRecvEx`, `WinDivertSendEx` | the driver |

Names that the system may hand out again – handle values and block addresses – are chosen
by the environment, from those not in use; the ones the runtime keeps to itself are
counted up.

Everything here is what the *system* does with a request; which requests are made is the
business of the classes above.
-/

namespace DivertNet

open Function LittleEndian

/-! ### Handles and blocks -/

/-- A `HANDLE`: null, `INVALID_HANDLE_VALUE`, or a value the system has handed out. -/
inductive Handle where
  | null
  | invalid
  | value (n : ℕ)
  deriving DecidableEq, Repr

/-- An `OVERLAPPED` block: the event stored in it, and how often the wrapper has written
to it. -/
structure Overlapped where
  hEvent : Handle
  writes : ℕ
  deriving DecidableEq, Repr

/-! ### Requests to the driver -/

/-- The four functions that move packets. -/
inductive DriverApi where
  | recv | recvEx | send | sendEx
  deriving DecidableEq, Repr

/-- A request to the driver: the handle, the buffer and the length it is given, the
address structure, and the `OVERLAPPED` block. -/
structure DriverCall where
  api : DriverApi
  handle : Handle
  buffer : ManagedArray
  packetLen : BitVec 32
  pAddr : Option WinDivertAddress
  lpOverlapped : Option ℕ
  deriving DecidableEq

/-- The packet a request to send describes: as many bytes as it says, from the first
element of the buffer on. -/
def DriverCall.packet (c : DriverCall) : List Byte :=
  readBytes c.buffer.memory c.buffer.base c.packetLen.toNat

/-- What the driver does with a request: the `BOOL` it returns, what it stores through the
length pointer, the error it leaves, and whether it signals the event of the block before
it returns. -/
structure DriverReply where
  result : ℕ
  length : Option (BitVec 32)
  lastError : BitVec 32
  signals : Bool
  deriving DecidableEq, Repr

/-- `ERROR_IO_PENDING`. -/
def errorIoPending : BitVec 32 := 997

/-- The operation goes on after the call. -/
def DriverReply.Pending (r : DriverReply) : Prop := r.result = 0 ∧ r.lastError = errorIoPending

instance (r : DriverReply) : Decidable r.Pending := inferInstanceAs (Decidable (_ ∧ _))

/-- An operation that is pending in the driver: the array it reads or writes, the pin made
for it, and the block it was given, with what was in it. -/
structure Operation where
  packetBuffer : ℕ
  gcHandle : ℕ
  lpOverlapped : ℕ
  overlapped : Overlapped
  deriving DecidableEq, Repr

/-! ### The state -/

/-- A native call that is given a handle. -/
inductive NativeCall where
  | transfer (c : DriverCall)
  | winDivertClose (handle : Handle) (closed : Bool)
  | closeHandle (handle : Handle) (closed : Bool)
  | waitForSingleObject (handle : Handle)
  | getOverlappedResult (handle : Handle) (lpOverlapped : Option ℕ)
  deriving DecidableEq

/-- **The native state**: the open event handles, each signalled or not, the open driver
handles, the allocated blocks, the pinned arrays by their pins, the pending operations,
and the calls made so far. -/
structure Native where
  events : ℕ → Option Bool
  drivers : ℕ → Bool
  blocks : ℕ → Option Overlapped
  pins : ℕ → Option ℕ
  nextPin : ℕ
  pending : ℕ → Option Operation
  nextOperation : ℕ
  log : List NativeCall

namespace Native

/-- Nothing acquired yet. -/
def empty : Native where
  events _ := none
  drivers _ := false
  blocks _ := none
  pins _ := none
  nextPin := 0
  pending _ := none
  nextOperation := 0
  log := []

/-- `CreateEvent(NULL, FALSE, FALSE, NULL)`, where it succeeds. -/
def createEvent (e : ℕ) (n : Native) : Native := { n with events := update n.events e (some false) }

/-- Signalling an event that is open. -/
def signal (h : Handle) (n : Native) : Native :=
  match h with
  | .value e => { n with events := update n.events e ((n.events e).map fun _ => true) }
  | _ => n

/-- `CloseHandle`. -/
def closeHandle (h : Handle) (closed : Bool) (n : Native) : Native :=
  let n := { n with log := n.log ++ [.closeHandle h closed] }
  match h, closed with
  | .value e, true => { n with events := update n.events e none }
  | _, _ => n

/-- `WinDivertClose`. -/
def winDivertClose (h : Handle) (closed : Bool) (n : Native) : Native :=
  let n := { n with log := n.log ++ [.winDivertClose h closed] }
  match h, closed with
  | .value v, true => { n with drivers := update n.drivers v false }
  | _, _ => n

/-- `malloc` of an `OVERLAPPED` block, by the address it returns. -/
def malloc (a : Option ℕ) (n : Native) : Native :=
  match a with
  | none => n
  | some a => { n with blocks := update n.blocks a (some ⟨.null, 0⟩) }

/-- `free`. -/
def free (a : ℕ) (n : Native) : Native := { n with blocks := update n.blocks a none }

/-- Writing to a block, if there is one at the address. -/
def write (a : ℕ) (hEvent : Handle) (n : Native) : Native :=
  { n with blocks := update n.blocks a ((n.blocks a).map fun o => ⟨hEvent, o.writes + 1⟩) }

/-- `GCHandle::Alloc(array, GCHandleType::Pinned)`. -/
def gcAlloc (ref : ℕ) (n : Native) : Native :=
  { n with pins := update n.pins n.nextPin (some ref), nextPin := n.nextPin + 1 }

/-- `GCHandle::Free`. -/
def gcFree (pin : ℕ) (n : Native) : Native := { n with pins := update n.pins pin none }

/-- A request reaches the driver. -/
def record (c : DriverCall) (n : Native) : Native := { n with log := n.log ++ [.transfer c] }

/-- A request with an `OVERLAPPED` block reaches the driver, which keeps it if it answers so.
A block that is not there any more holds no event. -/
def submit (c : DriverCall) (gcHandle : ℕ) (reply : DriverReply) (n : Native) : Native :=
  let n := n.record c
  match c.lpOverlapped with
  | none => n
  | some a =>
    let overlapped := (n.blocks a).getD ⟨.null, 0⟩
    -- the driver keeps buffer and block
    if reply.Pending then
      { n with
        pending := update n.pending n.nextOperation
          (some ⟨c.buffer.ref, gcHandle, a, overlapped⟩)
        nextOperation := n.nextOperation + 1 }
    -- the operation is over, its event possibly signalled
    else if reply.signals then n.signal overlapped.hEvent else n

/-- Signalling changes events only. -/
theorem signal_eq (h : Handle) (n : Native) :
    ∃ events, n.signal h = { n with events := events } := by
  cases h <;> exact ⟨_, rfl⟩

/-- **What a request does to the native state**: it is logged, and then the driver may signal
an event, or keep the operation. -/
theorem submit_cases (c : DriverCall) (gcHandle : ℕ) (reply : DriverReply) (n : Native) :
    (∃ events, n.submit c gcHandle reply = { n.record c with events := events }) ∨
      ∃ op, n.submit c gcHandle reply =
        { n.record c with
          pending := update n.pending n.nextOperation (some op)
          nextOperation := n.nextOperation + 1 } := by
  rw [submit]
  cases c.lpOverlapped with
  | none => exact Or.inl ⟨n.events, rfl⟩
  | some a =>
    simp only
    split
    · exact Or.inr ⟨_, rfl⟩
    · refine Or.inl ?_
      split
      · exact signal_eq _ _
      · exact ⟨n.events, rfl⟩

section Submit

variable (c : DriverCall) (gcHandle : ℕ) (reply : DriverReply) (n : Native)

/-- A request is logged, whatever the answer. -/
theorem submit_log : (n.submit c gcHandle reply).log = n.log ++ [.transfer c] := by
  rcases submit_cases c gcHandle reply n with ⟨_, hsubmit⟩ | ⟨_, hsubmit⟩ <;>
    exact hsubmit ▸ rfl

/-- A request changes no block. -/
theorem submit_blocks : (n.submit c gcHandle reply).blocks = n.blocks := by
  rcases submit_cases c gcHandle reply n with ⟨_, hsubmit⟩ | ⟨_, hsubmit⟩ <;>
    exact hsubmit ▸ rfl

/-- A request neither makes nor releases a pin. -/
theorem submit_pins : (n.submit c gcHandle reply).pins = n.pins ∧
    (n.submit c gcHandle reply).nextPin = n.nextPin := by
  rcases submit_cases c gcHandle reply n with ⟨_, hsubmit⟩ | ⟨_, hsubmit⟩ <;>
    exact hsubmit ▸ ⟨rfl, rfl⟩

variable {n} in
/-- A request ends no operation. -/
theorem submit_pending_of_lt {i : ℕ} (hi : i < n.nextOperation) :
    (n.submit c gcHandle reply).pending i = n.pending i := by
  rcases submit_cases c gcHandle reply n with ⟨_, hsubmit⟩ | ⟨_, hsubmit⟩
  · rw [hsubmit]
    rfl
  · rw [hsubmit]
    exact update_of_ne hi.ne _ _

end Submit

/-- A request the driver keeps is an operation with its block. -/
theorem submit_pending_new {c : DriverCall} {gcHandle a : ℕ} {reply : DriverReply} {n : Native}
    (ha : c.lpOverlapped = some a) (hpend : reply.Pending) :
    ∃ op, (n.submit c gcHandle reply).pending n.nextOperation = some op ∧ op.lpOverlapped = a := by
  rw [submit, ha]
  simp only [hpend, if_true]
  exact ⟨_, update_self .., rfl⟩

/-- The driver completes an operation and signals its event. -/
def complete (i : ℕ) (op : Operation) (n : Native) : Native :=
  signal op.overlapped.hEvent { n with pending := update n.pending i none }

end Native

end DivertNet
