import DivertNet.FilterCopies
import DivertNet.HelperResults
import DivertNet.SubmittedPacket
import DivertNet.Library.Oracle

/-!
# The length that goes with a buffer

Seven calls hand a managed array to the library, as a pointer to its first element and a length:
`Send`, `SendAsync` with a result object and without one, the two overloads of `ParsePacket`,
`CalculateChecksums` and `EvaluateFilter`. The array knows its length; the packet in it may be
shorter, and it is the caller who says by how much, in `packetLength`, “the length of valid data
in the buffer”.

| call | length handed over |
|---|---|
| `SendAsync` with a result object | that of the array |
| the six others | `packetLength` |

No call compares the two lengths: that the valid data lies in the buffer is left to the caller.
What a call hands over is a `DivertNet.Span` of addresses, and it is one within the array as far
as the caller keeps to that (`DivertNet.staysWithin_iff`).
-/

namespace DivertNet

open LittleEndian Oracle

/-! ### Spans of addresses -/

/-- What a pointer and a length describe. -/
structure Span where
  start : ℕ
  length : ℕ
  deriving DecidableEq, Repr

/-- **A span within an array**: each of its addresses is that of an element. -/
def Span.Within (g : Span) (a : ManagedArray) : Prop :=
  ∀ x, g.start ≤ x → x < g.start + g.length → a.base ≤ x ∧ x < a.base + a.bytes.length

/-- A span that begins with the array is within it if it is no longer. -/
theorem Span.within_iff (a : ManagedArray) (n : ℕ) :
    Span.Within ⟨a.base, n⟩ a ↔ n ≤ a.bytes.length := by
  constructor
  · intro h
    by_contra hlong
    -- the address after the last element
    have hend := (h (a.base + a.bytes.length) (by simp) (by simp only; omega)).2
    omega
  · intro hle x hx hlt
    simp only at hx hlt
    exact ⟨hx, by omega⟩

/-- The span of a request to the driver. -/
def DriverCall.span (c : DriverCall) : Span := ⟨c.buffer.base, c.packetLen.toNat⟩

/-- The span a native call is given, if it is given one. -/
def NativeCall.span : NativeCall → Option Span
  | .transfer c => some c.span
  | _ => none

/-- The span of `WinDivertHelperParsePacket`. -/
def ParseArgs.span (args : ParseArgs) : Span := ⟨args.base, args.packetLen.toNat⟩

/-- The span of `WinDivertHelperCalcChecksums`. -/
def ChecksumArgs.span (args : ChecksumArgs) : Span := ⟨args.base, args.packetLen.toNat⟩

/-- The span of `WinDivertHelperEvalFilter`. -/
def FilterCall.span : FilterCall → Option Span
  | .winDivertHelperEvalFilter _ _ packet packetLen _ => some ⟨packet.base, packetLen.toNat⟩
  | _ => none

/-! ### The seven calls -/

/-- A call that takes a buffer and a length, in the state it is made in. -/
inductive PacketCall where
  | send (c : TransferCall) (reply : TransferReply) (w : World)
  | sendAsync (c : TransferCall) (asyncResult : Option ℕ) (reply : TransferReply) (w : World)
  | parsePacket (helper : ParseHelper) (h : Headers) (c : ParseCall)
  | calculateChecksums (helper : ChecksumHelper) (c : ChecksumCall)
  | evaluateFilter (c : EvaluateCall) (marshalled : Bool) (result : ℕ) (s : FilterState)

namespace PacketCall

/-- The buffer. -/
def packetBuffer : PacketCall → Option ManagedArray
  | .send c .. => c.packetBuffer
  | .sendAsync c .. => c.packetBuffer
  | .parsePacket _ _ c => c.packetBuffer
  | .calculateChecksums _ c => c.packetBuffer
  | .evaluateFilter c .. => c.packetBuffer

/-- The length. -/
def packetLength : PacketCall → BitVec 32
  | .send c .. => c.packetLength
  | .sendAsync c .. => c.packetLength
  | .parsePacket _ _ c => c.packetLength
  | .calculateChecksums _ c => c.packetLength
  | .evaluateFilter c .. => c.packetLength

/-- How the call ends. -/
def outcome : PacketCall → Except ClrException Unit
  | .send c reply w => (DivertNet.send c reply w).outcome.map fun _ => ()
  | .sendAsync c asyncResult reply w =>
    (DivertNet.sendAsync c asyncResult reply w).outcome.map fun _ => ()
  | .parsePacket helper h c => (DivertNet.parsePacket helper h c).map fun _ => ()
  | .calculateChecksums helper c => (DivertNet.calculateChecksums helper c).map fun _ => ()
  | .evaluateFilter c marshalled result s =>
    (DivertNet.evaluateFilter c marshalled result s).1.map fun _ => ()

/-- The spans of a list of native calls made since. -/
def newSpans {α : Type} (span : α → Option Span) (before after : List α) : List Span :=
  (after.drop before.length).filterMap span

/-- **The library is given a span** during the call. A request to the driver or the filter
function is in the log that the call leaves; of a helper, a span is given to it if the call asks
it for an answer about that span. -/
def Passes : PacketCall → Span → Prop
  | .send c reply w, g =>
    g ∈ newSpans NativeCall.span w.native.log (DivertNet.send c reply w).world.native.log
  | .sendAsync c asyncResult reply w, g =>
    g ∈ newSpans NativeCall.span w.native.log
      (DivertNet.sendAsync c asyncResult reply w).world.native.log
  | .parsePacket _ h c, g =>
    ∃ args, Consults (fun helper => DivertNet.parsePacket helper h c) args ∧ args.span = g
  | .calculateChecksums _ c, g =>
    ∃ args, Consults (fun helper => DivertNet.calculateChecksums helper c) args ∧ args.span = g
  | .evaluateFilter c marshalled result s, g =>
    g ∈ newSpans FilterCall.span s.log (DivertNet.evaluateFilter c marshalled result s).2.log

/-- **A call stays within its buffer**: it throws, and has not called the library; or it has
called it, with lengths of at most that of the buffer, and with spans within the buffer. -/
def StaysWithin (c : PacketCall) : Prop :=
  (∃ e, c.outcome = .error e) ∧ (∀ g, ¬c.Passes g) ∨
    ∃ a, c.packetBuffer = some a ∧ (∃ g, c.Passes g) ∧
      ∀ g, c.Passes g → g.length ≤ a.bytes.length ∧ g.Within a

/-- The call is `SendAsync` with a result object, which goes by the length of the array. -/
def TakesArrayLength : PacketCall → Prop
  | .sendAsync _ (some _) _ _ => True
  | _ => False

/-- **A call gets to the library**: its buffer has a first element, and there are the objects it
needs; `EvaluateFilter` also needs a filter it can copy. -/
def GetsToLibrary : PacketCall → Prop
  | .send c _ w | .sendAsync c none _ w =>
    HasFirst c.packetBuffer ∧ (w.diversions c.diversion).m_winDivertHandle ≠ none ∧
      c.address ≠ none
  | .sendAsync c (some r) reply w =>
    ∃ a, (c.packetBuffer = some a ∧ a.bytes.length ≠ 0) ∧
      Reaches c.diversion a c.address r reply w
  | .parsePacket _ _ c => HasFirst c.packetBuffer
  | .calculateChecksums _ c => HasFirst c.packetBuffer
  | .evaluateFilter c marshalled _ _ =>
    ((isNullOrEmpty c.filter || isNullOrWhiteSpace c.filter) = false ∧ marshalled = true) ∧
      HasFirst c.packetBuffer ∧ c.address ≠ none

/-- The length handed over for an array. -/
def passedLength (a : ManagedArray) (c : PacketCall) : ℕ :=
  match c with
  | .sendAsync _ (some _) _ _ => a.bytes.length
  | c => c.packetLength.toNat

/-- **What a call does**: it gets to the library, with the address of its buffer and the length
handed over for it, or it throws before. -/
inductive Does (c : PacketCall) : Prop where
  | passes (a : ManagedArray) (gets : c.GetsToLibrary) (buffer : c.packetBuffer = some a)
      (spans : ∀ g, c.Passes g ↔ g = ⟨a.base, c.passedLength a⟩)
  | throws (e : ClrException) (gets : ¬c.GetsToLibrary) (outcome : c.outcome = .error e)
      (spans : ∀ g, ¬c.Passes g)

end PacketCall

/-! ### What each call hands over -/

namespace PacketCall

section Calls

theorem not_mem_newSpans_self {α : Type} (span : α → Option Span) (log : List α) (g : Span) :
    g ∉ newSpans span log log := by
  rw [newSpans, List.drop_length, List.filterMap_nil]
  exact List.not_mem_nil

theorem mem_newSpans_append {α : Type} (span : α → Option Span) {call : α} {g : Span}
    (log : List α) (h : span call = some g) (g' : Span) :
    g' ∈ newSpans span log (log ++ [call]) ↔ g' = g := by
  rw [newSpans, List.drop_left, List.filterMap_cons_some h, List.filterMap_nil,
    List.mem_singleton]

/-- `Send` hands over `packetLength`. -/
theorem does_send (c : TransferCall) (reply : TransferReply) (w : World) :
    (send c reply w).Does := by
  rcases send_cases c reply w with
    ⟨hnot, e, hthrow⟩ | ⟨hcan, a, addr, handle, ha, -, hcall⟩
  · refine .throws e hnot ?_ fun g => ?_
    · rw [outcome, hthrow]
      rfl
    · rw [Passes, hthrow]
      exact not_mem_newSpans_self _ _ g
  · refine .passes a hcan ha fun g => ?_
    rw [Passes, hcall]
    exact mem_newSpans_append NativeCall.span _ rfl g

/-- So does `SendAsync` without a result object. -/
theorem does_sendAsync_none (c : TransferCall) (reply : TransferReply) (w : World) :
    (sendAsync c none reply w).Does := by
  rcases sendAsync_none_cases c reply w with
    ⟨hnot, e, hthrow⟩ | ⟨hcan, a, addr, handle, ha, -, hcall⟩
  · refine .throws e hnot ?_ fun g => ?_
    · rw [outcome, hthrow]
      rfl
    · rw [Passes, hthrow]
      exact not_mem_newSpans_self _ _ g
  · refine .passes a hcan ha fun g => ?_
    rw [Passes, hcall]
    exact mem_newSpans_append NativeCall.span _ rfl g

/-- With one it hands over the length of the array. -/
theorem does_sendAsync_some (c : TransferCall) (r : ℕ) (reply : TransferReply) (w : World) :
    (sendAsync c (some r) reply w).Does := by
  rcases sendAsync_some_cases c reply w r with ⟨hempty, e, hthrow⟩ | ⟨a, ha, hne, hstart⟩
  · refine .throws e ?_ ?_ fun g => ?_
    · rintro ⟨a, ⟨ha, hne⟩, -⟩
      exact hne (hempty a ha)
    · rw [outcome, hthrow]
      rfl
    · rw [Passes, hthrow]
      exact not_mem_newSpans_self _ _ g
  · by_cases hreach : Reaches c.diversion a c.address r reply w
    · obtain ⟨addr, handle, -, hlog, -, -⟩ := startWithResult_asks .sendEx
        TransferText.sendAsyncReset TransferText.sendAsyncPin hreach
      refine .passes a ⟨a, ⟨ha, hne⟩, hreach⟩ ha fun g => ?_
      rw [Passes, hstart, hlog, passedLength, ← a.toNat_length]
      exact mem_newSpans_append NativeCall.span _ rfl g
    · obtain ⟨w', e, hthrow, hlog⟩ := startWithResult_of_not_reaches .sendEx
        TransferText.sendAsyncReset TransferText.sendAsyncPin hreach
      refine .throws e ?_ ?_ fun g => ?_
      · rintro ⟨b, ⟨hb, -⟩, hreach'⟩
        obtain rfl : a = b := Option.some.inj (ha.symm.trans hb)
        exact hreach hreach'
      · rw [outcome, hstart, hthrow]
        rfl
      · rw [Passes, hstart, hthrow, hlog]
        exact not_mem_newSpans_self _ _ g

/-- **A call that asks its helper once** gives it the span of that question. -/
theorem exists_consults_iff {α ρ τ : Type} {f : (α → ρ) → τ} {x : α} {F : ρ → τ}
    (span : α → Span) (hf : ∀ g, f g = F (g x)) (hF : ∃ r r', F r ≠ F r') (g : Span) :
    (∃ args, Consults f args ∧ span args = g) ↔ g = span x := by
  simp only [consults_iff_of_eq hf hF, exists_eq_left]
  exact eq_comm

/-- Both overloads of `ParsePacket` hand over `packetLength`. -/
theorem does_parsePacket (helper : ParseHelper) (h : Headers) (c : ParseCall) :
    (parsePacket helper h c).Does := by
  rcases addressOfFirst_cases c.packetBuffer with ⟨a, ha, hfirst⟩ | ⟨hno, e, hfirst⟩
  · have hargs : ∃ args, c.args = .ok args ∧ args.span = ⟨a.base, c.packetLength.toNat⟩ := by
      rw [ParseCall.args, hfirst]
      exact ⟨_, rfl, rfl⟩
    obtain ⟨args, hargs, hspan⟩ := hargs
    refine .passes a ⟨a, ha⟩ ha.1 fun g => ?_
    change _ ↔ g = ⟨a.base, c.packetLength.toNat⟩
    rw [← hspan]
    -- the result of the call tells the answers apart
    refine exists_consults_iff (F := fun reply => (DivertNet.parsePacket (fun _ => reply) h c))
      ParseArgs.span (fun helper => ?_) ⟨⟨fun _ => none, none, 0, 1⟩, ⟨fun _ => none, none, 0, 0⟩,
        fun heq => ?_⟩ g
    · simp only [DivertNet.parsePacket, hargs, bind, Except.bind]
    · simp only [DivertNet.parsePacket, hargs, bind, Except.bind, pure, Except.pure] at heq
      have hreturned : true = false := congrArg ParseResult.returned (Except.ok.inj heq)
      exact Bool.noConfusion hreturned
  · have hthrow : ∀ helper, DivertNet.parsePacket helper h c = .error e := fun helper => by
      rw [DivertNet.parsePacket, ParseCall.args, hfirst]
      rfl
    refine .throws e hno ?_ fun g => ?_
    · rw [outcome, hthrow]
      rfl
    · rintro ⟨args, hconsults, -⟩
      exact not_consults_of_eq hthrow args hconsults

/-- So does `CalculateChecksums`. -/
theorem does_calculateChecksums (helper : ChecksumHelper) (c : ChecksumCall) :
    (calculateChecksums helper c).Does := by
  rcases addressOfFirst_cases c.packetBuffer with ⟨a, ha, hfirst⟩ | ⟨hno, e, hfirst⟩
  · have hargs : ∃ args, c.args = .ok args ∧ args.span = ⟨a.base, c.packetLength.toNat⟩ := by
      rw [ChecksumCall.args, hfirst]
      exact ⟨_, rfl, rfl⟩
    obtain ⟨args, hargs, hspan⟩ := hargs
    refine .passes a ⟨a, ha⟩ ha.1 fun g => ?_
    change _ ↔ g = ⟨a.base, c.packetLength.toNat⟩
    rw [← hspan]
    refine exists_consults_iff (F := fun reply => DivertNet.calculateChecksums (fun _ => reply) c)
      ChecksumArgs.span (fun helper => ?_) ⟨⟨fun _ => 0, 1⟩, ⟨fun _ => 0, 0⟩, fun heq => ?_⟩ g
    · simp only [DivertNet.calculateChecksums, hargs, bind, Except.bind]
    · simp only [DivertNet.calculateChecksums, hargs, bind, Except.bind, pure, Except.pure] at heq
      have hreturned : 1 = 0 := congrArg ChecksumResult.returned (Except.ok.inj heq)
      exact Nat.one_ne_zero hreturned
  · have hthrow : ∀ helper, DivertNet.calculateChecksums helper c = .error e := fun helper => by
      rw [DivertNet.calculateChecksums, ChecksumCall.args, hfirst]
      rfl
    refine .throws e hno ?_ fun g => ?_
    · rw [outcome, hthrow]
      rfl
    · rintro ⟨args, hconsults, -⟩
      exact not_consults_of_eq hthrow args hconsults

/-- `EvaluateFilter` hands over `packetLength`. -/
theorem does_evaluateFilter (c : EvaluateCall) (marshalled : Bool) (result : ℕ) (s : FilterState) :
    (evaluateFilter c marshalled result s).Does := by
  by_cases hcopy : (isNullOrEmpty c.filter || isNullOrWhiteSpace c.filter) = false ∧
      marshalled = true
  · obtain ⟨hfilter, rfl⟩ := id hcopy
    by_cases hgets : HasFirst c.packetBuffer ∧ c.address ≠ none
    · obtain ⟨⟨a, hbuf, ha⟩, haddr⟩ := id hgets
      obtain ⟨addr, haddr⟩ := Option.ne_none_iff_exists'.mp haddr
      refine .passes a ⟨hcopy, hgets⟩ hbuf fun g => ?_
      rw [Passes, evaluateFilter_eq_ok hfilter hbuf ha haddr]
      exact mem_newSpans_append FilterCall.span _ rfl g
    · obtain ⟨e, hthrow⟩ := evaluateFilter_eq_error hfilter result hgets
      refine .throws e (fun h => hgets h.2) ?_ fun g => ?_
      · rw [outcome, hthrow]
        rfl
      · rw [Passes, hthrow]
        exact not_mem_newSpans_self _ _ g
  · obtain ⟨e, hthrow⟩ := evaluateFilter_of_not_copied hcopy result
    refine .throws e (fun h => hcopy h.1) ?_ fun g => ?_
    · rw [outcome, hthrow]
      rfl
    · rw [Passes, hthrow]
      exact not_mem_newSpans_self _ _ g

end Calls

/-- **What each of the seven calls does.** -/
theorem does (c : PacketCall) : c.Does := by
  match c with
  | .send c reply w => exact does_send c reply w
  | .sendAsync c none reply w => exact does_sendAsync_none c reply w
  | .sendAsync c (some r) reply w => exact does_sendAsync_some c r reply w
  | .parsePacket helper h c => exact does_parsePacket helper h c
  | .calculateChecksums helper c => exact does_calculateChecksums helper c
  | .evaluateFilter c marshalled result s => exact does_evaluateFilter c marshalled result s

/-- The length handed over fits if it is that of the array, or `packetLength` does. -/
theorem passedLength_le_iff (c : PacketCall) (a : ManagedArray) :
    c.passedLength a ≤ a.bytes.length ↔
      c.TakesArrayLength ∨ c.packetLength.toNat ≤ a.bytes.length := by
  match c with
  | .send .. => exact (or_iff_right id).symm
  | .sendAsync _ none .. => exact (or_iff_right id).symm
  | .sendAsync _ (some r) .. => exact iff_of_true le_rfl (Or.inl trivial)
  | .parsePacket .. => exact (or_iff_right id).symm
  | .calculateChecksums .. => exact (or_iff_right id).symm
  | .evaluateFilter .. => exact (or_iff_right id).symm

end PacketCall

/-! ### Within the buffer -/

/-- **How far the seven calls stay within their buffers**: for every buffer and every
`packetLength`, whatever state the call is made in and whatever the system answers, a call throws
without calling the library, or passes it a length of at most that of the buffer and a span
within it, exactly when it is `SendAsync` with a result object, or `packetLength` is at most the
length of the buffer, or the call does not get to the library. -/
theorem staysWithin_iff (c : PacketCall) :
    c.StaysWithin ↔
      ∀ a, c.packetBuffer = some a → c.GetsToLibrary →
        c.TakesArrayLength ∨ c.packetLength.toNat ≤ a.bytes.length := by
  cases c.does with
  | passes a gets hbuf hspans =>
    have hpasses : c.Passes ⟨a.base, c.passedLength a⟩ := (hspans _).mpr rfl
    have hone : c.StaysWithin ↔ c.passedLength a ≤ a.bytes.length := by
      constructor
      · rintro (⟨-, hnone⟩ | ⟨b, hb, -, hall⟩)
        · exact absurd hpasses (hnone _)
        · obtain rfl : a = b := Option.some.inj (hbuf.symm.trans hb)
          exact (hall _ hpasses).1
      · intro hle
        refine Or.inr ⟨a, hbuf, ⟨_, hpasses⟩, fun g hg => ?_⟩
        obtain rfl := (hspans g).mp hg
        exact ⟨hle, (Span.within_iff a _).mpr hle⟩
    rw [hone, c.passedLength_le_iff]
    constructor
    · intro h b hb _
      obtain rfl : a = b := Option.some.inj (hbuf.symm.trans hb)
      exact h
    · exact fun h => h a hbuf gets
  | throws e gets houtcome hspans =>
    exact iff_of_true (Or.inl ⟨⟨e, houtcome⟩, hspans⟩) fun a _ hgets => absurd hgets gets

/-! #### A length that is too long -/

/-- **A length taken at its word**: of a buffer of 24 bytes, `Send` is asked to send 64, and
describes 64 bytes to the driver. -/
theorem not_staysWithin :
    ¬(PacketCall.send (sendCall 64) (answering (doneWith 64)) openWorld).StaysWithin := by
  rintro (⟨⟨e, he⟩, -⟩ | ⟨a, ha, -, hall⟩)
  · cases he
  · obtain rfl : sendBuffer = a := Option.some.inj ha
    exact absurd (hall ⟨8192, 64⟩ (List.mem_singleton_self _)).1 (by decide)

end DivertNet
