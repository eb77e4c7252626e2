import DivertNet.ParsePacket

/-!
# What `ParsePacket` and `CalculateChecksums` return

Both wrap a native helper and return `retVal == 1`, as if the helper reported success. Neither
does.

* `WinDivertHelperParsePacket` says whether *every output it was asked for* was found. The
  wrapper promises the same of the header objects the caller passed – “optional, pass null if
  not desired” – but asks the helper for all six headers, whatever was passed. No packet has an
  IPv4 and an IPv6 header, so the answer is always “no”
  (`DivertNet.returned_eq_false`), which is right exactly for the calls that asked for
  something the packet does not have (`DivertNet.reportsPresence_iff`).
* `WinDivertHelperCalcChecksums` *counts* the checksums it calculated, and so, says its
  documentation, does the wrapper. Compared with one, a count of two or more becomes zero
  (`DivertNet.reportsCount_iff`).
-/

namespace DivertNet

open LittleEndian

/-! ### The result of `ParsePacket` -/

/-- **What is relied on of the result** of `WinDivertHelperParsePacket`: it is `TRUE` exactly
when every output it was asked for was found. -/
def ReturnsAllFound (helper : ParseHelper) (d : Dissector) : Prop :=
  ∀ args, (helper args).result = 1 ↔
    (∀ k, args.wantHeader k = true → (d.headerAt args.packet k).isSome = true) ∧
      (args.wantData = true → (d.payloadAt args.packet).isSome = true)

/-- No packet has a header of each family. -/
def OneFamily (d : Dissector) : Prop := ∀ p, d.headerAt p .ip = none ∨ d.headerAt p .ipv6 = none

theorem HeaderKind.mem_all (k : HeaderKind) : k ∈ HeaderKind.all := by cases k <;> decide

/-- The helper that reports what a dissector finds returns what is relied on. -/
theorem returnsAllFound_helper (d : Dissector) : ReturnsAllFound d.helper d := by
  intro args
  simp only [Dissector.helper, ite_eq_left_iff, zero_ne_one, imp_false, not_not,
    Bool.and_eq_true, List.all_eq_true, Bool.or_eq_true, Bool.not_eq_true']
  refine and_congr ?_ ?_
  · constructor
    · intro hall k hk
      have h := (hall k k.mem_all).resolve_left (by rw [hk]; decide)
      rwa [if_pos hk, Option.isSome_map] at h
    · intro hall k _
      cases hk : args.wantHeader k with
      | false => exact Or.inl rfl
      | true =>
        refine Or.inr ?_
        rw [if_pos rfl, Option.isSome_map]
        exact hall k hk
  · cases args.wantData <;> simp

namespace ParseCall

/-- The packet a call is about. -/
def packet (c : ParseCall) : List Byte :=
  match c.packetBuffer with
  | none => []
  | some a => readBytes a.memory a.base c.packetLength.toNat

variable (d : Dissector) (c : ParseCall)

/-- **Everything the caller asked for is present**: each header whose object was passed and,
for the overload with `packetData`, a payload. -/
def AllPresent : Prop :=
  (∀ k, c.passed k = true → (d.headerAt c.packet k).isSome = true) ∧
    (c.overload = .withPacketData → (d.payloadAt c.packet).isSome = true)

/-- **Something the caller asked for is missing.** -/
def SomeMissing : Prop :=
  (∃ k, c.passed k = true ∧ d.headerAt c.packet k = none) ∨
    c.overload = .withPacketData ∧ d.payloadAt c.packet = none

theorem not_allPresent_iff : ¬c.AllPresent d ↔ c.SomeMissing d := by
  simp only [AllPresent, SomeMissing, not_and_or, not_forall, Bool.not_eq_true,
    Option.isSome_eq_false_iff, Option.isNone_iff_eq_none, exists_prop]

end ParseCall

/-- Whatever was passed, all six headers are asked for. -/
theorem ParseCall.wantHeader_of_args {c : ParseCall} {args : ParseArgs} (hargs : c.args = .ok args)
    (k : HeaderKind) : args.wantHeader k = true := by
  rw [ParseCall.args] at hargs
  cases hfirst : addressOfFirst c.packetBuffer with
  | error e =>
    rw [hfirst] at hargs
    cases hargs
  | ok byteArray =>
    rw [hfirst] at hargs
    cases hargs
    rfl

section Returned

variable {helper : ParseHelper} {d : Dissector} {h : Headers} {c : ParseCall} {r : ParseResult}

/-- **`ParsePacket` never returns true**: it asks for the headers of both families. -/
theorem returned_eq_false (hall : ReturnsAllFound helper d) (hone : OneFamily d)
    (hr : parsePacket helper h c = .ok r) : r.returned = false := by
  cases hargs : c.args with
  | error e =>
    rw [parsePacket, hargs] at hr
    cases hr
  | ok args =>
    rw [parsePacket, hargs] at hr
    cases hr
    refine beq_false_of_ne fun hresult => ?_
    have hfound : ∀ k, d.headerAt args.packet k ≠ none := by
      intro k hnone
      have hsome := ((hall args).mp hresult).1 k (ParseCall.wantHeader_of_args hargs k)
      rw [hnone] at hsome
      cases hsome
    exact (hone args.packet).elim (hfound .ip) (hfound .ipv6)

/-- **When the result of `ParsePacket` is right**: for every call that returns, exactly when
something the caller asked for is missing from the packet. -/
theorem reportsPresence_iff (hall : ReturnsAllFound helper d) (hone : OneFamily d)
    (hr : parsePacket helper h c = .ok r) :
    (r.returned = true ↔ c.AllPresent d) ↔ c.SomeMissing d := by
  rw [returned_eq_false hall hone hr, ← c.not_allPresent_iff d]
  simp

end Returned

/-- No packet is found to be of both families by looking for IPv4 alone. -/
theorem oneFamily_ipv4Dissector : OneFamily ipv4Dissector := fun _ => Or.inr rfl

/-- Asking for the headers of an IPv4 packet over TCP, and no more. -/
def wantTcp (o : ParseOverload) : ParseCall where
  overload := o
  packetBuffer := some tcpPacket
  packetLength := tcpPacket.length
  passed k := k == .ip || k == .tcp

/-- Asked for all six headers, “no” is right. -/
theorem reportsPresence_all :
    ∃ r, parsePacket ipv4Dissector.helper noHeaders (parseInto .headers tcpPacket) = .ok r ∧
      (r.returned = true ↔ (parseInto .headers tcpPacket).AllPresent ipv4Dissector) :=
  ⟨_, rfl, (reportsPresence_iff (returnsAllFound_helper ipv4Dissector) oneFamily_ipv4Dissector
    (h := noHeaders) rfl).mpr (Or.inl ⟨.ipv6, rfl, rfl⟩)⟩

/-- **“Not all found”, although they were**: of a TCP packet the caller asks for the IPv4 and
the TCP header, both are handed over, and the call returns false. -/
theorem not_reportsPresence :
    (wantTcp .headers).AllPresent ipv4Dissector ∧
      ∃ r, parsePacket ipv4Dissector.helper noHeaders (wantTcp .headers) = .ok r ∧
        r.headers .ip = some 4096 ∧ r.headers .tcp = some 4116 ∧ r.returned = false := by
  refine ⟨⟨fun k hk => ?_, nofun⟩, _, rfl, by decide, by decide, by decide⟩
  cases k <;> first | decide | cases hk

/-! ### `Diversion::CalculateChecksums` -/

/-- The arguments of `WinDivertHelperCalcChecksums`: the memory the packet pointer points
into, the pointer, the length, and the flags. -/
structure ChecksumArgs where
  memory : Mem
  base : ℕ
  packetLen : BitVec 32
  flags : BitVec 64

/-- What `WinDivertHelperCalcChecksums` leaves: the memory with the checksums in it, and its
result. -/
structure ChecksumReply where
  memory : Mem
  result : ℕ

/-- The native function `WinDivertHelperCalcChecksums`. -/
abbrev ChecksumHelper := ChecksumArgs → ChecksumReply

/-- A call of `CalculateChecksums`: the buffer (possibly null), the length, and the flags. -/
structure ChecksumCall where
  packetBuffer : Option ManagedArray
  packetLength : BitVec 32
  flags : BitVec 64

/-- The arguments the native helper is called with. -/
def ChecksumCall.args (c : ChecksumCall) : Except ClrException ChecksumArgs := do
  let byteArray ← addressOfFirst c.packetBuffer
  return {
    memory := match c.packetBuffer with
      | some a => a.memory
      | none => fun _ => 0
    base := byteArray
    packetLen := c.packetLength
    flags := c.flags }

/-- What a call of `CalculateChecksums` leaves: the memory of the buffer, and the return
value. -/
structure ChecksumResult where
  memory : Mem
  returned : ℕ

/-- **`Diversion::CalculateChecksums`**. The truth value of the comparison becomes the
`uint32_t` that is returned. -/
def calculateChecksums (helper : ChecksumHelper) (c : ChecksumCall) :
    Except ClrException ChecksumResult := do
  let args ← c.args
  let reply := helper args
  return { memory := reply.memory, returned := if reply.result = 1 then 1 else 0 }

/-! ### The flags -/

namespace ChecksumCalculationFlags

/-- Do not calculate the IPv4 checksum. -/
def noIpChecksum : BitVec 64 := 1

/-- Do not calculate the ICMP checksum. -/
def noIcmpChecksum : BitVec 64 := 2

/-- Do not calculate the ICMPv6 checksum. -/
def noIcmpV6Checksum : BitVec 64 := 4

/-- Do not calculate the TCP checksum. -/
def noTcpChecksum : BitVec 64 := 8

/-- Do not calculate the UDP checksum. -/
def noUdpChecksum : BitVec 64 := 16

/-- The flags that disable a checksum, all five. -/
def disabling : BitVec 64 :=
  noIpChecksum ||| noIcmpChecksum ||| noIcmpV6Checksum ||| noTcpChecksum ||| noUdpChecksum

end ChecksumCalculationFlags

open ChecksumCalculationFlags

/-! ### The count -/

/-- How many checksums are calculated for a packet under given flags. -/
abbrev ChecksumCount := List Byte → BitVec 64 → ℕ

/-- The packet the arguments describe. -/
def ChecksumArgs.packet (args : ChecksumArgs) : List Byte :=
  readBytes args.memory args.base args.packetLen.toNat

/-- The packet a call is about. -/
def ChecksumCall.packet (c : ChecksumCall) : List Byte :=
  match c.packetBuffer with
  | none => []
  | some a => readBytes a.memory a.base c.packetLength.toNat

/-- The call with more checksums disabled. -/
def ChecksumCall.disable (c : ChecksumCall) (more : BitVec 64) : ChecksumCall :=
  { c with flags := c.flags ||| more }

/-- **What is relied on of the result** of `WinDivertHelperCalcChecksums`: it is the number of
checksums calculated. -/
def ReturnsCount (helper : ChecksumHelper) (count : ChecksumCount) : Prop :=
  ∀ args, (helper args).result = count args.packet args.flags

/-- Disabling more checksums leaves no more to calculate. -/
def ShrinksWithFlags (count : ChecksumCount) : Prop :=
  ∀ p flags more, more &&& disabling = more → count p (flags ||| more) ≤ count p flags

/-- **A call reports the count**: it returns the number of checksums calculated, and so no
more than that with more of them disabled. -/
structure ReportsCount (helper : ChecksumHelper) (count : ChecksumCount) (c : ChecksumCall)
    (r : ChecksumResult) : Prop where
  counted : r.returned = count c.packet c.flags
  antitone : ∀ more r', more &&& disabling = more →
    calculateChecksums helper (c.disable more) = .ok r' → r'.returned ≤ r.returned

section Count

variable {helper : ChecksumHelper} {count : ChecksumCount} {c : ChecksumCall} {r : ChecksumResult}

/-- **What a call that returns makes of the count**: one, or zero. -/
theorem returned_calculateChecksums (hcount : ReturnsCount helper count)
    (hr : calculateChecksums helper c = .ok r) :
    r.returned = if count c.packet c.flags = 1 then 1 else 0 := by
  rcases addressOfFirst_cases c.packetBuffer with ⟨a, ⟨hbuf, -⟩, hfirst⟩ | ⟨-, e, hfirst⟩
  · rw [hbuf] at hfirst
    simp only [calculateChecksums, ChecksumCall.args, hbuf, hfirst, bind, Except.bind, pure,
      Except.pure, Except.ok.injEq, hcount _] at hr
    rw [← hr, ChecksumCall.packet, hbuf]
    rfl
  · rw [calculateChecksums, ChecksumCall.args, hfirst] at hr
    cases hr

/-- **When `CalculateChecksums` reports the count**: for every call that returns, exactly when
there is at most one checksum to calculate. -/
theorem reportsCount_iff (hcount : ReturnsCount helper count) (hshrinks : ShrinksWithFlags count)
    (hr : calculateChecksums helper c = .ok r) :
    ReportsCount helper count c r ↔ count c.packet c.flags ≤ 1 := by
  have hreturned := returned_calculateChecksums hcount hr
  constructor
  · rintro ⟨hcounted, -⟩
    by_contra hmany
    rw [if_neg (by omega)] at hreturned
    omega
  · intro hle
    have hcounted : r.returned = count c.packet c.flags := by
      rw [hreturned]
      split <;> omega
    refine ⟨hcounted, fun more r' hmore hr' => ?_⟩
    have hfewer : count c.packet (c.flags ||| more) ≤ count c.packet c.flags :=
      hshrinks _ _ more hmore
    have hreturned' : r'.returned = if count c.packet (c.flags ||| more) = 1 then 1 else 0 :=
      returned_calculateChecksums hcount hr'
    rw [hreturned', hcounted]
    split <;> omega

end Count

/-! #### The checksums of an IPv4 packet -/

/-- The checksums of an IPv4 packet, by the header they are in, and the flags that disable
them. -/
def ipv4Checksums : List (HeaderKind × BitVec 64) :=
  [(.ip, noIpChecksum), (.icmp, noIcmpChecksum), (.tcp, noTcpChecksum), (.udp, noUdpChecksum)]

/-- Those of a packet that the flags leave. -/
def ipv4Count : ChecksumCount := fun p flags =>
  (ipv4Checksums.filter fun c =>
    (ipv4Dissector.headerAt p c.1).isSome && flags &&& c.2 == 0).length

/-- A helper for packets whose checksums are right already: it counts them, and writes nothing
new. -/
def ipv4Counter : ChecksumHelper := fun args => ⟨args.memory, ipv4Count args.packet args.flags⟩

theorem shrinksWithFlags_ipv4Count : ShrinksWithFlags ipv4Count := by
  intro p flags more _
  refine (List.monotone_filter_right _ fun c hc => ?_).length_le
  -- a flag that is not set after adding some was not set before
  obtain ⟨hfound, hunset⟩ := Bool.and_eq_true_iff.mp hc
  have hboth : flags &&& c.2 ||| more &&& c.2 = 0 := by
    rw [← BitVec.and_or_distrib_right]
    exact beq_iff_eq.mp hunset
  exact Bool.and_eq_true_iff.mpr ⟨hfound, beq_iff_eq.mpr (BitVec.or_eq_zero_iff.mp hboth).1⟩

/-- `tcpPacket` with its two checksums. -/
def checkedPacket : ManagedArray where
  ref := 0
  base := 4096
  bytes := [0x45, 0, 0, 40, 0, 0, 0x40, 0, 64, 6, 0x20, 0xC0, 10, 0, 0, 1, 8, 8, 8, 8,
    0xC3, 0x7E, 0, 80, 0, 0, 0, 1, 0, 0, 0, 0, 0x50, 2, 0xFF, 0xFF, 0xD2, 2, 0, 0]

/-- Calculating its checksums. -/
def checksumsOf (a : ManagedArray) (flags : BitVec 64) : ChecksumCall := ⟨some a, a.length, flags⟩

/-- Without the checksum of the TCP header one is left, and one is returned. -/
theorem reportsCount_noTcp :
    ∃ r, calculateChecksums ipv4Counter (checksumsOf checkedPacket noTcpChecksum) = .ok r ∧
      ReportsCount ipv4Counter ipv4Count (checksumsOf checkedPacket noTcpChecksum) r :=
  ⟨_, rfl, (reportsCount_iff (fun _ => rfl) shrinksWithFlags_ipv4Count rfl).mpr (by decide)⟩

/-- **Two checksums, and zero is returned**: with nothing disabled the IPv4 and the TCP
checksum are calculated, and disabling one of them makes the value go up. -/
theorem not_reportsCount :
    ipv4Count (checksumsOf checkedPacket 0).packet 0 = 2 ∧
      ∃ r r', calculateChecksums ipv4Counter (checksumsOf checkedPacket 0) = .ok r ∧
        calculateChecksums ipv4Counter ((checksumsOf checkedPacket 0).disable noTcpChecksum) =
          .ok r' ∧
        r.returned = 0 ∧ r'.returned = 1 := by
  exact ⟨by decide, _, _, rfl, rfl, by decide, by decide⟩

/-! #### Calculating them -/

/-- The sum of the 16-bit words of some bytes, the first byte of each being the high one. -/
def wordSum : List Byte → ℕ
  | [] => 0
  | [b] => 256 * b.toNat
  | b :: c :: rest => 256 * b.toNat + c.toNat + wordSum rest

/-- **The internet checksum** of some bytes: the complement of their sum, with the carries added
back in. -/
def internetChecksum (l : List Byte) : ℕ :=
  let sum := wordSum l
  0xFFFF - if sum = 0 then 0 else (sum - 1) % 0xFFFF + 1

/-- A packet with a number in two of its bytes. -/
def withWord (off n : ℕ) (p : List Byte) : List Byte :=
  (p.set off (BitVec.ofNat 8 (n / 256))).set (off + 1) (BitVec.ofNat 8 n)

/-- Where the checksum of a header is, from the start of the header on. -/
def checksumOffset : HeaderKind → ℕ
  | .ip => 10
  | .tcp => 16
  | .udp => 6
  | _ => 2

/-- The bytes it is the checksum of: the IPv4 header, or what follows it, behind a pseudo header of
the addresses, the protocol and the length. -/
def checksumInput (p : List Byte) (off : ℕ) : HeaderKind → List Byte
  | .ip => p.take (4 * (p.getD 0 0 &&& 0x0F).toNat)
  | .tcp | .udp =>
    let n := p.length - off
    (p.drop 12).take 8 ++ [0, p.getD 9 0, BitVec.ofNat 8 (n / 256), BitVec.ofNat 8 n] ++ p.drop off
  | _ => p.drop off

/-- A packet with the checksum of one of its headers calculated. -/
def withChecksum (p : List Byte) (k : HeaderKind) : List Byte :=
  match ipv4Dissector.headerAt p k with
  | none => p
  | some off =>
    let cleared := withWord (off + checksumOffset k) 0 p
    withWord (off + checksumOffset k) (internetChecksum (checksumInput cleared off k)) cleared

/-- An IPv4 packet with the checksums calculated that the flags leave. -/
def withChecksums (flags : BitVec 64) (p : List Byte) : List Byte :=
  ((ipv4Checksums.filter fun c => flags &&& c.2 == 0).map Prod.fst).foldl withChecksum p

/-- **A helper that calculates the checksums** of IPv4 packets. -/
def ipv4Calculator : ChecksumHelper := fun args =>
  let fixed := withChecksums args.flags args.packet
  { memory := fun x =>
      if args.base ≤ x ∧ x < args.base + args.packetLen.toNat then fixed.getD (x - args.base) 0
      else args.memory x
    result := ipv4Count args.packet args.flags }

theorem length_withChecksum (p : List Byte) (k : HeaderKind) :
    (withChecksum p k).length = p.length := by
  rw [withChecksum]
  split <;> simp [withWord]

theorem length_withChecksums (flags : BitVec 64) (p : List Byte) :
    (withChecksums flags p).length = p.length := by
  rw [withChecksums]
  generalize (ipv4Checksums.filter fun c => flags &&& c.2 == 0).map Prod.fst = ks
  induction ks generalizing p with
  | nil => rfl
  | cons k ks ih => exact (ih _).trans (length_withChecksum p k)

/-- What it makes of the bytes it is given. -/
theorem readBytes_ipv4Calculator (args : ChecksumArgs) :
    readBytes (ipv4Calculator args).memory args.base args.packetLen.toNat =
      withChecksums args.flags args.packet := by
  have hlength : (withChecksums args.flags args.packet).length = args.packetLen.toNat := by
    rw [length_withChecksums, ChecksumArgs.packet, length_readBytes]
  rw [← List.take_of_length_le hlength.le, ← readBytes_ofBytes hlength.ge, readBytes_eq_iff]
  intro i hi
  simp only [ipv4Calculator, ofBytes, Nat.zero_add]
  rw [if_pos ⟨Nat.le_add_right _ _, Nat.add_lt_add_left hi _⟩, Nat.add_sub_cancel_left]

end DivertNet
