import DivertNet.Library.Custody
import DivertNet.Library.Runs
import DivertNet.NativeState

/-!
# The native copies of a filter string

`Open`, `ValidateFilter` and `EvaluateFilter` are given a filter as a managed string, and copy it
to native memory for the library, with `StringToHGlobalAnsi`. Nobody but the function that made
the copy can free it: the pointer to it is the local `charString`. So the copy has to be freed
before the function is left, one way or the other.

The local is the slot of a `Custody.Ledger`, the copies are its resources, and the books should
be settled between any two calls. There are three ways out that leave a copy behind, and
`DivertNet.copiesFreed_iff` says that there are no others.

| function | left with the copy in hand when |
|---|---|
| `Open` | `WinDivertOpen` fails, whatever the error |
| `ValidateFilter` | – |
| `EvaluateFilter` | the packet buffer is null or empty, or the address is null |
-/

namespace DivertNet

open Runs Custody

/-! ### Blank strings -/

/-- `Char::IsWhiteSpace`: the separators of Unicode and a few control characters. -/
def isWhiteSpace (c : Char) : Bool :=
  let n := c.toNat
  (0x09 ≤ n && n ≤ 0x0D) || n == 0x20 || n == 0x85 || n == 0xA0 || n == 0x1680 ||
    (0x2000 ≤ n && n ≤ 0x200A) || n == 0x2028 || n == 0x2029 || n == 0x202F || n == 0x205F ||
    n == 0x3000

/-- `String::IsNullOrEmpty`. -/
def isNullOrEmpty : Option String → Bool
  | none => true
  | some s => s.isEmpty

/-- `String::IsNullOrWhiteSpace`. -/
def isNullOrWhiteSpace : Option String → Bool
  | none => true
  | some s => s.toList.all isWhiteSpace

/-! ### The texts of the exceptions -/

namespace FilterText

def openBlank : String :=
  "In Diversion::Open(System::String^, DivertLayer, uint16_t, uint64_t) - " ++
    "Supplied filter string is null, empty or whitespace."

def openMarshal : String :=
  "In Diversion::Open(System::String^, DivertLayer, uint16_t, uint64_t) - " ++
    "Failed to marshal filter string."

/-- The text for an error of `WinDivertOpen`. -/
def openFailed (error : BitVec 32) : String :=
  "In Diversion::Open(System::String^, DivertLayer, uint16_t, uint64_t) - " ++
    match error.toNat with
    -- `ERROR_FILE_NOT_FOUND`
    | 2 => "The driver files WinDivert32.sys or WinDivert64.sys were not found."
    -- `ERROR_ACCESS_DENIED`
    | 5 => "The calling application does not have Administrator privileges."
    -- `ERROR_INVALID_PARAMETER`
    | 87 => "Filter string, layer, priority, or flags parameters contain invalid values."
    -- `ERROR_INVALID_IMAGE_HASH`
    | 577 =>
      "The WinDivert32.sys or WinDivert64.sys driver does not have a valid digital signature."
    -- `ERROR_DRIVER_BLOCKED`
    | 1275 =>
      "The driver is blocked from operating. This can happen for various reasons, such as " ++
        "interference from security software, or usage inside a virtualization environment " ++
        "that does not support drivers."
    | _ =>
      "Failed to open WinDivert HANDLE. Cause is unknown. Use Marshal::GetLastWin32Error() for " ++
        "more information."

def validateBlank : String :=
  "In Diversion::ValidateFilter(System::String^, DivertLayer, System::String^%) - " ++
    "Supplied filter string is null, empty or whitespace."

def validateMarshal : String :=
  "In Diversion::ValidateFilter(System::String^, DivertLayer, System::String^%) - " ++
    "Failed to marshal filter string."

def evaluateBlank : String :=
  "In Diversion::EvaluateFilter(System::String^, DivertLayer, array<System::Byte>^, uint32_t, " ++
    "Address^) - Supplied filter string is null, empty or whitespace."

def evaluateMarshal : String :=
  "In Diversion::EvaluateFilter(System::String^, DivertLayer, array<System::Byte>^, uint32_t, " ++
    "Address^) - Failed to marshal filter string."

end FilterText

/-! ### What the functions do to the native side -/

/-- A native call that is given a copy of the filter. -/
inductive FilterCall where
  | winDivertOpen (filter : ℕ) (layer : BitVec 32) (priority : BitVec 16) (flags : BitVec 64)
  | winDivertHelperCheckFilter (filter : ℕ) (layer : BitVec 32)
  | winDivertHelperEvalFilter (filter : ℕ) (layer : BitVec 32) (packet : ManagedArray)
      (packetLen : BitVec 32) (pAddr : Option WinDivertAddress)
  deriving DecidableEq

/-- **The ledger of the copies**, and the native calls made so far. The slot of the ledger is
the local `charString`. -/
structure FilterState where
  copies : Ledger
  log : List FilterCall

/-- A function that may throw; what it did to the copies before is done. -/
abbrev FilterM := ExceptT ClrException (StateM FilterState)

/-- `Marshal::StringToHGlobalAnsi`: a copy, whose pointer goes into `charString`, or null. -/
def stringToHGlobalAnsi (marshalled : Bool) : FilterM (Option ℕ) := fun s =>
  if marshalled then
    (.ok (some s.copies.next), { s with copies := Move.hold.apply s.copies })
  else (.ok none, s)

/-- `Marshal::FreeHGlobal(charString)`. -/
def freeHGlobal : FilterM Unit := fun s =>
  (.ok (), { s with copies := Move.release.apply s.copies })

/-- A native call. -/
def callNative (c : FilterCall) : FilterM Unit := fun s => (.ok (), { s with log := s.log ++ [c] })

/-! ### The three functions -/

/-- The arguments of `Open`. -/
structure OpenCall where
  filter : Option String
  layer : BitVec 32
  priority : BitVec 16
  flags : BitVec 64

/-- What `WinDivertOpen` answers: a handle, and the error it leaves. -/
structure OpenReply where
  handle : Handle
  lastError : BitVec 32

/-- `Diversion::Open`: the handle of the `Diversion` it returns. -/
def openDiversion (c : OpenCall) (marshalled : Bool) (reply : OpenReply) : FilterM Handle := do
  if isNullOrEmpty c.filter || isNullOrWhiteSpace c.filter then
    throw (.exception FilterText.openBlank)
  match ← stringToHGlobalAnsi marshalled with
  | none => throw (.exception FilterText.openMarshal)
  | some charString =>
    callNative (.winDivertOpen charString c.layer c.priority c.flags)
    if reply.handle = .invalid then
      -- the copy is not freed on this way out
      throw (.exception (FilterText.openFailed reply.lastError))
    freeHGlobal
    return reply.handle

/-- The arguments of `ValidateFilter`, with what the caller's `errorDetails` holds. -/
structure ValidateCall where
  filter : Option String
  layer : BitVec 32
  errorDetails : Option String

/-- What `WinDivertHelperCheckFilter` answers: its result, and the error string. -/
structure CheckReply where
  result : ℕ
  errStr : Option String

/-- `Diversion::ValidateFilter`: the return value, and `errorDetails` after the call. -/
def validateFilter (c : ValidateCall) (marshalled : Bool) (reply : CheckReply) :
    FilterM (Bool × Option String) := do
  if isNullOrEmpty c.filter || isNullOrWhiteSpace c.filter then
    return (false, some FilterText.validateBlank)
  match ← stringToHGlobalAnsi marshalled with
  | none => throw (.exception FilterText.validateMarshal)
  | some charString =>
    callNative (.winDivertHelperCheckFilter charString c.layer)
    freeHGlobal
    if reply.result = 0 then
      return (reply.result == 1, some (reply.errStr.getD ""))
    return (reply.result == 1, c.errorDetails)

/-- The arguments of `EvaluateFilter`. -/
structure EvaluateCall where
  filter : Option String
  layer : BitVec 32
  packetBuffer : Option ManagedArray
  packetLength : BitVec 32
  address : Option Address

/-- The array `&packetBuffer[0]` pins, if it can be. -/
def pinFirst (packetBuffer : Option ManagedArray) : FilterM ManagedArray :=
  match packetBuffer with
  | none => throw .nullReference
  | some a => if a.bytes.length = 0 then throw .indexOutOfRange else return a

/-- `address->UnmanagedAddress`. -/
def unmanagedAddress (address : Option Address) : FilterM (Option WinDivertAddress) :=
  match address with
  | none => throw .nullReference
  | some address => return address.m_address

/-- `Diversion::EvaluateFilter`. The buffer is pinned, and the address looked at, with the copy
in hand. -/
def evaluateFilter (c : EvaluateCall) (marshalled : Bool) (result : ℕ) : FilterM Bool := do
  if isNullOrEmpty c.filter || isNullOrWhiteSpace c.filter then
    throw (.exception FilterText.evaluateBlank)
  match ← stringToHGlobalAnsi marshalled with
  | none => throw (.exception FilterText.evaluateMarshal)
  | some charString =>
    let packet ← pinFirst c.packetBuffer
    let pAddr ← unmanagedAddress c.address
    callNative (.winDivertHelperEvalFilter charString c.layer packet c.packetLength pAddr)
    freeHGlobal
    return result == 1

/-! ### Sequences of calls -/

/-- A call of one of the three functions, with what the runtime and the library answer. -/
inductive FilterAction where
  | openDiversion (c : OpenCall) (marshalled : Bool) (reply : OpenReply)
  | validateFilter (c : ValidateCall) (marshalled : Bool) (reply : CheckReply)
  | evaluateFilter (c : EvaluateCall) (marshalled : Bool) (result : ℕ)

namespace FilterAction

/-- The filter it is given. -/
def filter : FilterAction → Option String
  | .openDiversion c .. => c.filter
  | .validateFilter c .. => c.filter
  | .evaluateFilter c .. => c.filter

/-- The copy can be made. -/
def marshalled : FilterAction → Bool
  | .openDiversion _ m _ => m
  | .validateFilter _ m _ => m
  | .evaluateFilter _ m _ => m

/-- **The call makes a copy**: the filter is not blank, and can be copied. -/
def MakesCopy (a : FilterAction) : Prop :=
  (isNullOrEmpty a.filter || isNullOrWhiteSpace a.filter) = false ∧ a.marshalled = true

/-- **The call gets to its `FreeHGlobal`** with the copy it made. -/
def GetsToFree : FilterAction → Prop
  | .openDiversion _ _ reply => reply.handle ≠ .invalid
  | .validateFilter .. => True
  | .evaluateFilter c _ _ =>
    (∃ a, c.packetBuffer = some a ∧ a.bytes.length ≠ 0) ∧ c.address ≠ none

end FilterAction

/-- The copies after a call, however it ends. -/
def FilterState.next (s : FilterState) : FilterAction → FilterState
  | .openDiversion c marshalled reply => (openDiversion c marshalled reply s).2
  | .validateFilter c marshalled reply => (validateFilter c marshalled reply s).2
  | .evaluateFilter c marshalled result => (evaluateFilter c marshalled result s).2

section Steps

variable {s : FilterState}

theorem pinFirst_some {a : ManagedArray} (h : a.bytes.length ≠ 0) :
    pinFirst (some a) = pure a := if_neg h

theorem pinFirst_empty {a : ManagedArray} (h : a.bytes.length = 0) :
    pinFirst (some a) = throw .indexOutOfRange := if_pos h

/-- `Open` leaves its copy where `WinDivertOpen` fails. -/
theorem copies_openDiversion {c : OpenCall}
    (hfilter : (isNullOrEmpty c.filter || isNullOrWhiteSpace c.filter) = false)
    (reply : OpenReply) :
    (openDiversion c true reply s).2.copies =
      if reply.handle = .invalid then Move.hold.apply s.copies
      else Move.release.apply (Move.hold.apply s.copies) := by
  rw [openDiversion, if_neg (by rw [hfilter]; decide)]
  by_cases hhandle : reply.handle = .invalid
  · simp only [hhandle, if_true]
    rfl
  · simp only [hhandle, if_false]
    rfl

/-- `ValidateFilter` frees its copy. -/
theorem copies_validateFilter {c : ValidateCall}
    (hfilter : (isNullOrEmpty c.filter || isNullOrWhiteSpace c.filter) = false)
    (reply : CheckReply) :
    (validateFilter c true reply s).2.copies =
      Move.release.apply (Move.hold.apply s.copies) := by
  rw [validateFilter, if_neg (by rw [hfilter]; decide)]
  by_cases hresult : reply.result = 0
  · simp only [hresult, if_true]
    rfl
  · simp only [hresult, if_false]
    rfl

/-- **`EvaluateFilter` gets to the library** where the buffer can be pinned and there is an
address, and then frees its copy. -/
theorem evaluateFilter_eq_ok {c : EvaluateCall} {a : ManagedArray} {address : Address}
    (hfilter : (isNullOrEmpty c.filter || isNullOrWhiteSpace c.filter) = false)
    (hbuf : c.packetBuffer = some a) (ha : a.bytes.length ≠ 0) (haddr : c.address = some address)
    (result : ℕ) :
    evaluateFilter c true result s =
      (.ok (result == 1), ⟨Move.release.apply (Move.hold.apply s.copies),
        s.log ++ [.winDivertHelperEvalFilter s.copies.next c.layer a c.packetLength
          address.m_address]⟩) := by
  rw [evaluateFilter, if_neg (by rw [hfilter]; decide)]
  simp only [hbuf, pinFirst_some ha, haddr]
  rfl

/-- **Where the buffer is null or empty, or the address null**, it throws with the copy in hand,
and has not called the library. -/
theorem evaluateFilter_eq_error {c : EvaluateCall}
    (hfilter : (isNullOrEmpty c.filter || isNullOrWhiteSpace c.filter) = false) (result : ℕ)
    (h : ¬(HasFirst c.packetBuffer ∧ c.address ≠ none)) :
    ∃ e, evaluateFilter c true result s = (.error e, ⟨Move.hold.apply s.copies, s.log⟩) := by
  rw [evaluateFilter, if_neg (by rw [hfilter]; decide)]
  cases hbuf : c.packetBuffer with
  | none => exact ⟨.nullReference, rfl⟩
  | some a =>
    by_cases ha : a.bytes.length = 0
    · simp only [pinFirst_empty ha]
      exact ⟨.indexOutOfRange, rfl⟩
    · simp only [pinFirst_some ha]
      cases haddr : c.address with
      | none => exact ⟨.nullReference, rfl⟩
      | some address =>
        refine absurd ⟨⟨a, hbuf, ha⟩, ?_⟩ h
        rw [haddr]
        exact Option.some_ne_none _

/-- A filter that is blank or cannot be copied: `EvaluateFilter` throws and leaves everything as
it was. -/
theorem evaluateFilter_of_not_copied {c : EvaluateCall} {marshalled : Bool}
    (h : ¬((isNullOrEmpty c.filter || isNullOrWhiteSpace c.filter) = false ∧ marshalled = true))
    (result : ℕ) : ∃ e, evaluateFilter c marshalled result s = (.error e, s) := by
  rw [evaluateFilter]
  split
  · exact ⟨_, rfl⟩
  · rename_i hfilter
    obtain rfl : marshalled = false :=
      Bool.eq_false_iff.mpr fun hm => h ⟨Bool.eq_false_iff.mpr hfilter, hm⟩
    exact ⟨_, rfl⟩

/-- A call that makes no copy leaves the ledger alone. -/
theorem copies_next_of_not {a : FilterAction} (h : ¬a.MakesCopy) :
    (s.next a).copies = s.copies := by
  -- the filter is blank, or `charString` is null
  have hnull : ¬(isNullOrEmpty a.filter || isNullOrWhiteSpace a.filter) = true →
      a.marshalled = false := fun hfilter =>
    Bool.eq_false_iff.mpr fun hm => h ⟨Bool.eq_false_iff.mpr hfilter, hm⟩
  cases a with
  | openDiversion c marshalled reply =>
    rw [FilterState.next, openDiversion]
    split
    · rfl
    · rename_i hfilter
      obtain rfl : marshalled = false := hnull hfilter
      rfl
  | validateFilter c marshalled reply =>
    rw [FilterState.next, validateFilter]
    split
    · rfl
    · rename_i hfilter
      obtain rfl : marshalled = false := hnull hfilter
      rfl
  | evaluateFilter c marshalled result =>
    obtain ⟨e, hthrow⟩ : ∃ e, evaluateFilter c marshalled result s = (.error e, s) :=
      evaluateFilter_of_not_copied h result
    rw [FilterState.next, hthrow]

/-- **What a call leaves of its copy**: nothing if it gets to its `FreeHGlobal`, and the copy if
it does not. -/
theorem copies_next {a : FilterAction} (h : a.MakesCopy) :
    (a.GetsToFree → (s.next a).copies = Move.release.apply (Move.hold.apply s.copies)) ∧
      (¬a.GetsToFree → (s.next a).copies = Move.hold.apply s.copies) := by
  obtain ⟨hfilter, hmarshalled⟩ := h
  cases a with
  | openDiversion c marshalled reply =>
    obtain rfl : marshalled = true := hmarshalled
    rw [FilterState.next, copies_openDiversion hfilter]
    exact ⟨fun hfree => if_neg hfree, fun hfree => if_pos (not_not.mp hfree)⟩
  | validateFilter c marshalled reply =>
    obtain rfl : marshalled = true := hmarshalled
    exact ⟨fun _ => copies_validateFilter hfilter reply, fun hfree => absurd trivial hfree⟩
  | evaluateFilter c marshalled result =>
    obtain rfl : marshalled = true := hmarshalled
    refine ⟨fun hfree => ?_, fun hfree => ?_⟩
    · obtain ⟨⟨a, hbuf, ha⟩, haddr⟩ := hfree
      obtain ⟨address, haddr⟩ := Option.ne_none_iff_exists'.mp haddr
      rw [FilterState.next, evaluateFilter_eq_ok hfilter hbuf ha haddr]
    · obtain ⟨e, hthrow⟩ := evaluateFilter_eq_error hfilter result hfree
      rw [FilterState.next, hthrow]

end Steps

/-! ### No copy outstanding -/

/-- Before the first call. -/
def FilterState.initial : FilterState := ⟨⟨0, fun _ => false, none, fun _ => 0⟩, []⟩

/-- **No copy is outstanding**: each one made so far has been freed, exactly once. -/
def FilterState.NoneOutstanding (s : FilterState) : Prop := Settled 0 s.copies

/-- **When every copy is freed**: along every sequence of calls, whatever the filters, the
buffers and the answers of the library, no copy is outstanding between calls exactly when each
call that makes a copy gets to its `FreeHGlobal`. -/
theorem copiesFreed_iff (l : List FilterAction) :
    EveryState (always FilterState.next) FilterState.NoneOutstanding .initial l ↔
      EveryStep (always FilterState.next) (fun _ a _ => a.MakesCopy → a.GetsToFree) .initial l := by
  refine everyState_iff_everyStep
    (fun (s : FilterState) (inv : Custody.Inv 0 s.copies ∧ s.copies.slot = none) =>
      inv.1.settled inv.2)
    (fun s a t inv hfree hstep => ?_)
    (fun s a t inv hstep hsettled hcopy => ?_) ⟨Inv.start, rfl⟩ l
  · obtain rfl : s.next a = t := Option.some.inj hstep
    by_cases hcopy : a.MakesCopy
    · rw [(copies_next hcopy).1 (hfree hcopy)]
      exact ⟨(inv.1.hold inv.2).release, slot_release _⟩
    · rwa [copies_next_of_not hcopy]
  · obtain rfl : s.next a = t := Option.some.inj hstep
    by_contra hfree
    have hleft : Settled 0 (s.next a).copies := hsettled
    rw [(copies_next hcopy).2 hfree] at hleft
    exact not_settled_hold 0 s.copies hleft

/-! #### Two copies that nobody frees -/

/-- Opening a filter without the privileges for it. -/
def openDenied : FilterAction :=
  .openDiversion ⟨some "outbound and tcp", 0, 0, 0⟩ true ⟨.invalid, 5⟩

/-- Evaluating a filter against an empty buffer. -/
def evaluateEmpty : FilterAction :=
  .evaluateFilter ⟨some "outbound and tcp", 0, some ⟨0, 4096, [], by decide⟩, 0, some ⟨none⟩⟩ true 0

/-- **Copies that are lost**: by an `Open` that is denied, and by an `EvaluateFilter` that throws
on an empty buffer. -/
theorem not_copiesFreed :
    ¬EveryState (always FilterState.next) FilterState.NoneOutstanding .initial [openDenied] ∧
      ¬EveryState (always FilterState.next) FilterState.NoneOutstanding .initial
        [evaluateEmpty] := by
  refine ⟨fun h => ?_, fun h => ?_⟩
  · have hslot := (h [openDenied] [] _ rfl rfl).1
    exact Option.some_ne_none 0 hslot
  · have hslot := (h [evaluateEmpty] [] _ rfl rfl).1
    exact Option.some_ne_none 0 hslot

end DivertNet
