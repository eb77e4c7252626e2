import DivertNet.Headers
import DivertNet.Library.Runs

/-!
# Parsing a packet into header objects

`Diversion::ParsePacket` pins the packet buffer, lets the native helper
`WinDivertHelperParsePacket` find the headers, and hands the pointers it found to the
header objects the caller passed. It exists twice: once for the headers alone and once
with a copy of the payload. The two overloads hand the pointers over differently – the
first only when there is something to hand over, the second always – and since the
same six header objects are reused for packet after packet, the difference is one of
*state*: what an object points to when the packet just parsed has no header of its
kind.

The native helper is a parameter, `DivertNet.ParseHelper`. What the wrapper relies on is
`DivertNet.FindsHeaders`: its out-pointers are the headers the packet contains, as told by
a `DivertNet.Dissector`. `DivertNet.Dissector.helper` is a helper that does just that, and
`DivertNet.ipv4Dissector` a dissector for plain IPv4 packets, so that the contract can be
run.

`DivertNet.everyCall_refersToParsed_iff` is the outcome: along any sequence of calls, each
object passed refers to the packet just parsed, after each call, exactly when no call
of the first overload passes an object that still holds a header of its kind to a packet
without one.
-/

namespace DivertNet

open LittleEndian Runs

/-! ### The native helper -/

/-- The arguments of `WinDivertHelperParsePacket`: the memory the packet pointer points
into, the pointer, the length, and which of the out-pointers are not null. -/
structure ParseArgs where
  memory : Mem
  base : ℕ
  packetLen : BitVec 32
  wantHeader : HeaderKind → Bool
  wantData : Bool

/-- What `WinDivertHelperParsePacket` leaves in its out-pointers, and what it returns. -/
structure ParseReply where
  header : HeaderKind → Option ℕ
  data : Option ℕ
  dataLen : BitVec 32
  result : ℕ

/-- The native function `WinDivertHelperParsePacket`. -/
abbrev ParseHelper := ParseArgs → ParseReply

/-- The packet the arguments describe. -/
def ParseArgs.packet (args : ParseArgs) : List Byte :=
  readBytes args.memory args.base args.packetLen.toNat

/-- **What a packet contains**: where in it the header of each kind starts, and where its
payload. -/
structure Dissector where
  headerAt : List Byte → HeaderKind → Option ℕ
  payloadAt : List Byte → Option ℕ

/-- **What is relied on of the native helper**: each out-pointer it is given is set to
the header inside the packet, or left null where there is none. -/
def FindsHeaders (helper : ParseHelper) (d : Dissector) : Prop :=
  ∀ args k, (helper args).header k =
    if args.wantHeader k then (d.headerAt args.packet k).map (args.base + ·) else none

/-- The six kinds, as the helper goes through its out-pointers. -/
def HeaderKind.all : List HeaderKind := [.ip, .ipv6, .icmp, .icmpv6, .tcp, .udp]

/-- The helper that reports what a dissector finds, and returns `TRUE` exactly when every
output it was asked for was found. -/
def Dissector.helper (d : Dissector) : ParseHelper := fun args =>
  let found k := if args.wantHeader k then (d.headerAt args.packet k).map (args.base + ·) else none
  let payload := d.payloadAt args.packet
  { header := found
    data := if args.wantData then payload.map (args.base + ·) else none
    dataLen := match payload with
      | some off => args.packetLen - BitVec.ofNat 32 off
      | none => 0
    result :=
      if HeaderKind.all.all (fun k => !args.wantHeader k || (found k).isSome) &&
          (!args.wantData || payload.isSome) then 1 else 0 }

theorem findsHeaders_helper (d : Dissector) : FindsHeaders d.helper d := fun _ _ => rfl

/-- A dissector for unfragmented IPv4 packets over TCP, UDP or ICMP. -/
def ipv4Dissector : Dissector where
  headerAt p k :=
    let isV4 := 20 ≤ p.length ∧ (p.getD 0 0) >>> 4 = 4
    let protocol := p.getD 9 0
    let off := 4 * (p.getD 0 0 &&& 0x0F).toNat
    match k with
    | .ip => if isV4 then some 0 else none
    | .tcp => if isV4 ∧ protocol = 6 ∧ off + 20 ≤ p.length then some off else none
    | .udp => if isV4 ∧ protocol = 17 ∧ off + 8 ≤ p.length then some off else none
    | .icmp => if isV4 ∧ protocol = 1 ∧ off + 8 ≤ p.length then some off else none
    | .ipv6 | .icmpv6 => none
  payloadAt _ := none

/-! ### `Diversion::ParsePacket` -/

/-- The native header each of the six header objects points to, `UnmanagedHeader`. -/
abbrev Headers := HeaderKind → Option ℕ

/-- The property `Valid` of a header object. -/
def Headers.valid (h : Headers) (k : HeaderKind) : Bool := (h k).isSome

/-- The two overloads of `ParsePacket`. -/
inductive ParseOverload where
  /-- The headers alone. -/
  | headers
  /-- The headers and a copy of the payload, in `packetData`. -/
  | withPacketData
  deriving DecidableEq, Repr

/-- A call of `ParsePacket`: the overload, the buffer (possibly null), the length, and
which of the six header objects were passed. -/
structure ParseCall where
  overload : ParseOverload
  packetBuffer : Option ManagedArray
  packetLength : BitVec 32
  passed : HeaderKind → Bool

/-- The arguments both overloads call the native helper with: all six header pointers are
asked for, and the payload by the second overload only. The address of the first element
is taken before, and fails on a null or empty buffer. -/
def ParseCall.args (c : ParseCall) : Except ClrException ParseArgs := do
  let byteArray ← addressOfFirst c.packetBuffer
  return {
    memory := match c.packetBuffer with
      | some a => a.memory
      | none => fun _ => 0
    base := byteArray
    packetLen := c.packetLength
    wantHeader := fun _ => true
    wantData := c.overload == .withPacketData }

/-- Handing the pointers over. The first overload does so only where there is one,
`if (tcpHeader != nullptr && umptcpHeader != nullptr)`; the second whenever the object
was passed, `if (tcpHeader != nullptr)`. -/
def assignHeaders {α : Type} (overload : ParseOverload) (passed : HeaderKind → Bool)
    (found h : HeaderKind → Option α) : HeaderKind → Option α := fun k =>
  match overload with
  -- nothing found: the object keeps what it held
  | .headers => if passed k ∧ (found k).isSome then found k else h k
  | .withPacketData => if passed k then found k else h k

/-- Handing the pointers over does not look at them. -/
theorem map_assignHeaders {α β : Type} (f : α → β) (overload : ParseOverload)
    (passed : HeaderKind → Bool) (found h : HeaderKind → Option α) (k : HeaderKind) :
    (assignHeaders overload passed found h k).map f =
      assignHeaders overload passed (fun k => (found k).map f) (fun k => (h k).map f) k := by
  rcases overload with _ | _ <;> simp only [assignHeaders, Option.isSome_map] <;> split <;> rfl

/-- The array `packetData` is set to: the payload copied out of the packet, or as many
zeros where the helper reported a length but no pointer. -/
def copyPacketData (m : Mem) (r : ParseReply) : List Byte :=
  match r.data with
  | some p => readBytes m p r.dataLen.toNat
  | none => List.replicate r.dataLen.toNat 0

/-- What a call of `ParsePacket` leaves: the header objects, `packetData` if the overload
has it, and the return value. -/
structure ParseResult where
  headers : Headers
  packetData : Option (List Byte)
  returned : Bool

/-- **`Diversion::ParsePacket`**, both overloads. -/
def parsePacket (helper : ParseHelper) (h : Headers) (c : ParseCall) :
    Except ClrException ParseResult := do
  let args ← c.args
  let reply := helper args
  return {
    headers := assignHeaders c.overload c.passed reply.header h
    packetData := match c.overload with
      | .headers => none
      | .withPacketData => some (copyPacketData args.memory reply)
    returned := reply.result == 1 }

/-- The header objects after a call; one that throws has not touched them. -/
def parseNext (helper : ParseHelper) (h : Headers) (c : ParseCall) : Headers :=
  match parsePacket helper h c with
  | .ok r => r.headers
  | .error _ => h

section Calls

variable {helper : ParseHelper} {d : Dissector} {h : Headers} {c : ParseCall}

/-- Whether a buffer is one `&packetBuffer[0]` fails on. -/
def ParseCall.Throws (c : ParseCall) : Prop := ∀ a, c.packetBuffer = some a → a.bytes = []

/-- Where the packet just parsed has its header of kind `k`. -/
def ParseCall.location (d : Dissector) (c : ParseCall) (k : HeaderKind) : Option ℕ :=
  match c.packetBuffer with
  | none => none
  | some a =>
    (d.headerAt (readBytes a.memory a.base c.packetLength.toNat) k).map (a.base + ·)

theorem args_eq_ok {a : ManagedArray} (hbuf : c.packetBuffer = some a) (ha : a.bytes ≠ []) :
    c.args = .ok
      { memory := a.memory, base := a.base, packetLen := c.packetLength
        wantHeader := fun _ => true, wantData := c.overload == .withPacketData } := by
  rw [ParseCall.args, hbuf, addressOfFirst_eq_ok ha]
  rfl

/-- A call has a buffer with a first element, or none, and then no arguments for the helper. -/
theorem args_cases (c : ParseCall) :
    (∃ a, c.packetBuffer = some a ∧ a.bytes ≠ []) ∨ c.Throws ∧ ∃ e, c.args = .error e := by
  rcases addressOfFirst_cases c.packetBuffer with ⟨a, ⟨hbuf, ha⟩, -⟩ | ⟨hno, e, hfirst⟩
  · exact Or.inl ⟨a, hbuf, fun hnil => ha (by rw [hnil]; rfl)⟩
  · refine Or.inr ⟨fun a hbuf => ?_, e, by rw [ParseCall.args, hfirst]; rfl⟩
    by_contra ha
    exact hno ⟨a, hbuf, fun hlen => ha (List.eq_nil_of_length_eq_zero hlen)⟩

/-- **A call throws exactly on a null or empty buffer**, and then touches nothing. -/
theorem parsePacket_error_iff : (∃ e, parsePacket helper h c = .error e) ↔ c.Throws := by
  rcases args_cases c with ⟨a, hbuf, ha⟩ | ⟨hthrow, e, hargs⟩
  · refine iff_of_false ?_ fun hthrow => ha (hthrow a hbuf)
    rintro ⟨e, he⟩
    rw [parsePacket, args_eq_ok hbuf ha] at he
    cases he
  · exact iff_of_true ⟨e, by rw [parsePacket, hargs]; rfl⟩ hthrow

/-- **What a call that returns leaves in the header objects**: where the packet has a
header of the kind, that header; where it has none, the null pointer after the second
overload, and whatever the object held before after the first. -/
theorem parsePacket_headers (hfind : FindsHeaders helper d) {r : ParseResult}
    (hr : parsePacket helper h c = .ok r) :
    r.headers = assignHeaders c.overload c.passed (c.location d) h := by
  rcases args_cases c with ⟨a, hbuf, ha⟩ | ⟨-, e, hargs⟩
  · rw [parsePacket, args_eq_ok hbuf ha] at hr
    cases hr
    refine congrArg (assignHeaders c.overload c.passed · h) (funext fun k => ?_)
    rw [hfind]
    simp [ParseCall.location, hbuf, ParseArgs.packet]
  · rw [parsePacket, hargs] at hr
    cases hr

/-- **Each object passed refers to the packet just parsed**: it is valid exactly when the
packet contains a header of its kind, and then points to it. It is asked of the calls
that return; the others have parsed no packet. -/
def RefersToParsed (helper : ParseHelper) (d : Dissector) (h : Headers) (c : ParseCall)
    (h' : Headers) : Prop :=
  (∃ r, parsePacket helper h c = .ok r) → ∀ k, c.passed k = true →
    (h'.valid k = true ↔ (c.location d k).isSome = true) ∧
      ∀ a, c.location d k = some a → h' k = some a

/-- **No object is passed stale**: the call uses the second overload, or it throws, or
each object passed is of a kind the packet contains or holds no header yet. -/
def NoStaleHeader (d : Dissector) (h : Headers) (c : ParseCall) : Prop :=
  c.overload = .withPacketData ∨ c.Throws ∨
    ∀ k, c.passed k = true → (c.location d k).isSome = true ∨ h.valid k = false

/-- Referring to the packet just parsed is holding the header it contains, if any. -/
theorem refersToParsed_iff_eq (h' : Headers) :
    RefersToParsed helper d h c h' ↔
      ((∃ r, parsePacket helper h c = .ok r) →
        ∀ k, c.passed k = true → h' k = c.location d k) := by
  refine imp_congr_right fun _ => forall_congr' fun k => imp_congr_right fun _ => ?_
  rw [Headers.valid]
  cases hloc : c.location d k with
  | none => simp
  | some a =>
    constructor
    · exact fun hk => hk.2 a rfl
    · rintro hk
      exact ⟨by simp [hk], fun b hb => hk.trans hb⟩

/-- **One call**: it leaves every object passed referring to the packet exactly when it is
passed none stale. -/
theorem refersToParsed_parseNext_iff (hfind : FindsHeaders helper d) :
    RefersToParsed helper d h c (parseNext helper h c) ↔ NoStaleHeader d h c := by
  rw [refersToParsed_iff_eq]
  cases hp : parsePacket helper h c with
  | error e =>
    have hthrow : c.Throws := parsePacket_error_iff.mp ⟨e, hp⟩
    exact iff_of_true (fun ⟨r, hr⟩ => by cases hr) (Or.inr (Or.inl hthrow))
  | ok r =>
    have hnothrow : ¬c.Throws := fun ht => by
      obtain ⟨e, he⟩ := parsePacket_error_iff.mpr ht
      rw [hp] at he
      cases he
    have hnext : parseNext helper h c = assignHeaders c.overload c.passed (c.location d) h := by
      rw [parseNext, hp]
      exact parsePacket_headers hfind hp
    rw [hnext]
    cases ho : c.overload with
    | withPacketData =>
      refine iff_of_true (fun _ k hk => ?_) (Or.inl ho)
      simp [assignHeaders, hk]
    | headers =>
      -- an object the first overload leaves alone is right only if it held no header
      have hkeep : ∀ k, c.passed k = true →
          (assignHeaders .headers c.passed (c.location d) h k = c.location d k ↔
            ((c.location d k).isSome = true ∨ h.valid k = false)) := by
        intro k hk
        simp only [assignHeaders, hk, true_and, Headers.valid]
        cases hloc : c.location d k with
        | none => cases h k <;> simp
        | some a => simp
      constructor
      · exact fun hall => Or.inr (Or.inr fun k hk => (hkeep k hk).mp (hall ⟨r, rfl⟩ k hk))
      · rintro (hcon | hthrow | hall) - k hk
        · rw [ho] at hcon
          cases hcon
        · exact absurd hthrow hnothrow
        · exact (hkeep k hk).mpr (hall k hk)

/-- **The header objects along any sequence of calls**: after every call each object
passed refers to the packet just parsed, exactly when no call passes a stale one. -/
theorem everyCall_refersToParsed_iff (hfind : FindsHeaders helper d) (h : Headers)
    (calls : List ParseCall) :
    EveryStep (always (parseNext helper)) (RefersToParsed helper d) h calls ↔
      EveryStep (always (parseNext helper)) (fun h c _ => NoStaleHeader d h c) h calls := by
  refine everyStep_congr (fun s a t hstep => ?_) h calls
  obtain rfl : parseNext helper s a = t := Option.some.inj hstep
  exact refersToParsed_parseNext_iff hfind

end Calls

/-! ### Two packets in a row -/

/-- Six header objects nothing has been parsed into. -/
def noHeaders : Headers := fun _ => none

/-- An IPv4 packet of 40 bytes that carries TCP. -/
def tcpPacket : ManagedArray where
  ref := 0
  base := 4096
  bytes := [0x45, 0, 0, 40, 0, 0, 0x40, 0, 64, 6, 0, 0, 10, 0, 0, 1, 8, 8, 8, 8,
    0xC3, 0x7E, 0, 80, 0, 0, 0, 1, 0, 0, 0, 0, 0x50, 2, 0xFF, 0xFF, 0, 0, 0, 0]

/-- An IPv4 packet of 28 bytes that carries UDP. -/
def udpPacket : ManagedArray where
  ref := 1
  base := 8192
  bytes := [0x45, 0, 0, 28, 0, 0, 0x40, 0, 64, 17, 0, 0, 10, 0, 0, 1, 8, 8, 8, 8,
    0xE0, 0x45, 0, 53, 0, 8, 0, 0]

/-- Parsing a whole buffer into all six header objects. -/
def parseInto (o : ParseOverload) (a : ManagedArray) : ParseCall where
  overload := o
  packetBuffer := some a
  packetLength := a.length
  passed := fun _ => true

/-- A run that meets the condition: the second packet goes through the overload that
always hands its pointers over. -/
theorem everyCall_refersToParsed_withPacketData :
    EveryStep (always (parseNext ipv4Dissector.helper))
      (RefersToParsed ipv4Dissector.helper ipv4Dissector) noHeaders
      [parseInto .headers tcpPacket, parseInto .withPacketData udpPacket] := by
  refine (everyCall_refersToParsed_iff (findsHeaders_helper _) _ _).mpr ?_
  refine everyStep_cons.mpr fun t ht => ⟨Or.inr (Or.inr fun k _ => Or.inr rfl), ?_⟩
  exact everyStep_cons.mpr fun u _ => ⟨Or.inl rfl, everyStep_nil⟩

/-- **A stale header**: after a TCP packet and then a UDP packet, both through the
overload without `packetData`, the `TCPHeader` object is still valid, although the packet
just parsed has no TCP header. -/
theorem tcpHeader_stale_after_udp :
    ¬EveryStep (always (parseNext ipv4Dissector.helper))
      (RefersToParsed ipv4Dissector.helper ipv4Dissector) noHeaders
      [parseInto .headers tcpPacket, parseInto .headers udpPacket] := by
  intro h
  obtain ⟨hvalid, -⟩ := h [parseInto .headers tcpPacket] (parseInto .headers udpPacket) [] _ _
    rfl rfl rfl ⟨_, rfl⟩ .tcp rfl
  exact absurd (hvalid.mp (by decide)) (by decide)

end DivertNet
