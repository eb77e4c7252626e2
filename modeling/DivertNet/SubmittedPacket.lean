import DivertNet.Transfer

/-!
# The packet a send submits

There are three ways to send: `Send`, `SendAsync` without a result object, and `SendAsync`
with one. The caller says how much of the buffer is the packet – `packetLength`, “the length
of valid data in the buffer” – and the three should submit the same packet. Two of them
hand `packetLength` over; the third hands over the length of the *buffer*
(`DivertNet.requestWithResult`), so that whatever follows the packet in the buffer is sent
along with it. It is also the only one that throws with a packet to send in hand: where its
result object cannot be made ready (`DivertNet.CanPrepare`), no request is made.
-/

namespace DivertNet

open LittleEndian Native

/-- The functions of the driver that send. -/
def DriverApi.sends : DriverApi → Bool
  | .send | .sendEx => true
  | .recv | .recvEx => false

/-- The structure behind the caller's address object. -/
def TransferCall.addressStruct (c : TransferCall) : Option WinDivertAddress :=
  c.address.bind Address.m_address

/-- **A send submits a packet**: where there is something to send, it returns, and has made
exactly one request, to send this packet with the address of the call; elsewhere it throws and
has made none. -/
structure SubmitsPacket (c : TransferCall) (packet : List Byte) (w : World)
    (r : TransferResult) : Prop where
  requested : c.CanSubmit w → (∃ b, r.outcome = .ok b) ∧
    ∃ call, r.world.native.log = w.native.log ++ [.transfer call] ∧ call.api.sends = true ∧
      call.packet = packet ∧ call.pAddr = c.addressStruct
  refused : ¬c.CanSubmit w → (∃ e, r.outcome = .error e) ∧ r.world.native.log = w.native.log

/-- The packet the caller means: the first `packetLength` bytes of the buffer. -/
def TransferCall.packet (c : TransferCall) (a : ManagedArray) : List Byte :=
  a.bytes.take c.packetLength.toNat

/-- **A result object can be made ready** for a send of this buffer: it has its block, the
event can be created, and the pinned buffer has an address. -/
def CanPrepare (a : ManagedArray) (r : ℕ) (reply : TransferReply) (w : World) : Prop :=
  (w.results r).m_overlapped ≠ none ∧ (∃ e, reply.createEvent = .ok e) ∧ a.base ≠ 0

section Sends

variable {packet : List Byte} {c : TransferCall} {a : ManagedArray} {reply : TransferReply}
  {w : World} {r : TransferResult}

/-- A call with nothing to send has to throw without a request. -/
theorem submitsPacket_of_throws {ex : ClrException} (hcan : ¬c.CanSubmit w)
    (hr : r.outcome = .error ex) (hlog : r.world.native.log = w.native.log) :
    SubmitsPacket c packet w r :=
  ⟨fun h => absurd h hcan, fun _ => ⟨⟨ex, hr⟩, hlog⟩⟩

/-- A call with something to send must not throw. -/
theorem not_submitsPacket_of_throws {ex : ClrException} (hcan : c.CanSubmit w)
    (hr : r.outcome = .error ex) : ¬SubmitsPacket c packet w r := by
  intro h
  obtain ⟨⟨b, hb⟩, -⟩ := h.requested hcan
  exact nomatch hr.symm.trans hb

/-- A call that returns is judged by its request. -/
theorem submitsPacket_iff_of_returns {b : Bool} {call : DriverCall} (hcan : c.CanSubmit w)
    (hr : r.outcome = .ok b) (hlog : r.world.native.log = w.native.log ++ [.transfer call])
    (hsend : call.api.sends = true) :
    SubmitsPacket c packet w r ↔ call.packet = packet ∧ call.pAddr = c.addressStruct := by
  constructor
  · intro h
    obtain ⟨-, call', hlog', -, hcall'⟩ := h.requested hcan
    have hcall : call = call' := by
      have htail := List.append_cancel_left (hlog.symm.trans hlog')
      exact NativeCall.transfer.inj (List.cons.inj htail).1
    exact hcall ▸ hcall'
  · exact fun h => ⟨fun _ => ⟨⟨b, hr⟩, call, hlog, hsend, h⟩, fun hnot => absurd hcan hnot⟩

/-- A request for the whole of its buffer. -/
theorem packet_length (api : DriverApi) (handle : Handle) (a : ManagedArray)
    (pAddr : Option WinDivertAddress) (lpOverlapped : Option ℕ) :
    (DriverCall.mk api handle a a.length pAddr lpOverlapped).packet = a.bytes := by
  rw [DriverCall.packet, ManagedArray.toNat_length, readBytes_memory a le_rfl, List.take_length]

/-- A request for a part of its buffer. -/
theorem packet_packetLength (api : DriverApi) (handle : Handle)
    (pAddr : Option WinDivertAddress) (lpOverlapped : Option ℕ)
    (hlen : c.packetLength.toNat ≤ a.bytes.length) :
    (DriverCall.mk api handle a c.packetLength pAddr lpOverlapped).packet = c.packet a :=
  readBytes_memory a hlen

theorem addressStruct_some {addr : Address} (h : c.address = some addr) :
    c.addressStruct = addr.m_address := by
  rw [TransferCall.addressStruct, h]
  rfl

/-- The whole buffer is the packet exactly when it is filled by it. -/
theorem bytes_eq_packet_iff (hlen : c.packetLength.toNat ≤ a.bytes.length) :
    a.bytes = c.packet a ↔ c.packetLength = a.length := by
  rw [TransferCall.packet, eq_comm, List.take_eq_self_iff, ← BitVec.toNat_inj,
    ManagedArray.toNat_length]
  exact ⟨fun h => le_antisymm hlen h, fun h => h.ge⟩

/-- **`Send` submits the packet.** -/
theorem submitsPacket_send (reply : TransferReply) (w : World) (ha : c.packetBuffer = some a)
    (hlen : c.packetLength.toNat ≤ a.bytes.length) :
    SubmitsPacket c (c.packet a) w (send c reply w) := by
  rcases send_cases c reply w with
    ⟨hnot, e, hthrow⟩ | ⟨hcan, a', addr, handle, ha', haddr, hcall⟩
  · rw [hthrow]
    exact submitsPacket_of_throws hnot rfl rfl
  · obtain rfl : a = a' := Option.some.inj (ha.symm.trans ha')
    rw [hcall]
    exact (submitsPacket_iff_of_returns hcan rfl rfl rfl).mpr
      ⟨packet_packetLength _ _ _ _ hlen, (addressStruct_some haddr).symm⟩

/-- **`SendAsync` without a result object submits the packet.** -/
theorem submitsPacket_sendAsync_none (reply : TransferReply) (w : World)
    (ha : c.packetBuffer = some a)
    (hlen : c.packetLength.toNat ≤ a.bytes.length) :
    SubmitsPacket c (c.packet a) w (sendAsync c none reply w) := by
  rcases sendAsync_none_cases c reply w with
    ⟨hnot, e, hthrow⟩ | ⟨hcan, a', addr, handle, ha', haddr, hcall⟩
  · rw [hthrow]
    exact submitsPacket_of_throws hnot rfl rfl
  · obtain rfl : a = a' := Option.some.inj (ha.symm.trans ha')
    rw [hcall]
    exact (submitsPacket_iff_of_returns hcan rfl rfl rfl).mpr
      ⟨packet_packetLength _ _ _ _ hlen, (addressStruct_some haddr).symm⟩

/-- A start gets to the driver only where there is something to send. -/
theorem canSubmit_of_reaches {i : ℕ} (ha : c.packetBuffer = some a) (hne : a.bytes.length ≠ 0)
    (h : Reaches c.diversion a c.address i reply w) : c.CanSubmit w :=
  ⟨⟨a, ha, hne⟩, h.2.2.2.1, h.2.2.2.2⟩

/-- And there it does, if the result object can be made ready. -/
theorem reaches_iff {i : ℕ} (hcan : c.CanSubmit w) :
    Reaches c.diversion a c.address i reply w ↔ CanPrepare a i reply w :=
  ⟨fun h => ⟨h.1, h.2.1, h.2.2.1⟩, fun h => ⟨h.1, h.2.1, h.2.2, hcan.2.1, hcan.2.2⟩⟩

/-- **`SendAsync` with a result object submits the packet** exactly when there is nothing to
send, or the packet fills the buffer and the result object can be made ready. -/
theorem submitsPacket_sendAsync_some_iff (i : ℕ) (ha : c.packetBuffer = some a)
    (hlen : c.packetLength.toNat ≤ a.bytes.length) :
    SubmitsPacket c (c.packet a) w (sendAsync c (some i) reply w) ↔
      (c.CanSubmit w → c.packetLength = a.length ∧ CanPrepare a i reply w) := by
  rcases sendAsync_some_cases c reply w i with ⟨hempty, e, hthrow⟩ | ⟨a', ha', hne, hstart⟩
  · have hnot : ¬c.CanSubmit w := fun ⟨⟨b, hb, hne⟩, _⟩ => hne (hempty b hb)
    rw [hthrow]
    exact iff_of_true (submitsPacket_of_throws hnot rfl rfl) fun hcan => absurd hcan hnot
  · obtain rfl : a = a' := Option.some.inj (ha.symm.trans ha')
    rw [hstart]
    by_cases hreach : Reaches c.diversion a c.address i reply w
    · have hcan : c.CanSubmit w := canSubmit_of_reaches ha hne hreach
      obtain ⟨addr, handle, haddr, hlog, hout, -⟩ := startWithResult_asks .sendEx
        TransferText.sendAsyncReset TransferText.sendAsyncPin hreach
      rw [submitsPacket_iff_of_returns hcan hout hlog rfl, packet_length, addressStruct_some haddr,
        bytes_eq_packet_iff hlen, and_iff_left rfl]
      exact ⟨fun h _ => ⟨h, (reaches_iff hcan).mp hreach⟩, fun h => (h hcan).1⟩
    · obtain ⟨w', ex, hthrow, hlog⟩ := startWithResult_of_not_reaches .sendEx
        TransferText.sendAsyncReset TransferText.sendAsyncPin hreach
      rw [hthrow]
      by_cases hcan : c.CanSubmit w
      · refine iff_of_false (not_submitsPacket_of_throws hcan rfl) fun h => ?_
        exact hreach ((reaches_iff hcan).mpr (h hcan).2)
      · exact iff_of_true (submitsPacket_of_throws hcan rfl hlog) fun h => absurd h hcan

/-- **The three ways to send submit the same packet**, whatever the system answers to
each, exactly when, if there is something to send, the packet fills its buffer and the result
object can be made ready. -/
theorem submitsPacket_iff (i : ℕ) (ha : c.packetBuffer = some a)
    (hlen : c.packetLength.toNat ≤ a.bytes.length) (reply₁ reply₂ reply₃ : TransferReply)
    (w₁ w₂ w₃ : World) :
    (SubmitsPacket c (c.packet a) w₁ (send c reply₁ w₁) ∧
      SubmitsPacket c (c.packet a) w₂ (sendAsync c none reply₂ w₂) ∧
        SubmitsPacket c (c.packet a) w₃ (sendAsync c (some i) reply₃ w₃)) ↔
      (c.CanSubmit w₃ → c.packetLength = a.length ∧ CanPrepare a i reply₃ w₃) := by
  rw [and_iff_right (submitsPacket_send reply₁ w₁ ha hlen),
    and_iff_right (submitsPacket_sendAsync_none reply₂ w₂ ha hlen)]
  exact submitsPacket_sendAsync_some_iff i ha hlen

end Sends

/-! ### A packet and what follows it -/

/-- A buffer of 24 bytes: an IPv4 header without payload, and four bytes left over from
the packet before. -/
def sendBuffer : ManagedArray where
  ref := 0
  base := 8192
  bytes := [0x45, 0, 0, 20, 0, 0, 0x40, 0, 64, 0xFD, 0, 0, 10, 0, 0, 1, 8, 8, 8, 8,
    0xDE, 0xAD, 0xBE, 0xEF]

/-- Sending the first bytes of that buffer. -/
def sendCall (packetLength : BitVec 32) : TransferCall where
  diversion := 0
  packetBuffer := some sendBuffer
  packetLength := packetLength
  address := some ⟨some ⟨1, 0, 0⟩⟩
  length := 0

/-- There is something to send in the world with an open `Diversion`. -/
theorem canSubmit_sendCall (packetLength : BitVec 32) :
    (sendCall packetLength).CanSubmit openWorld :=
  ⟨⟨sendBuffer, rfl, by decide⟩, Option.some_ne_none 0, Option.some_ne_none _⟩

/-- The whole buffer is submitted alike. -/
theorem submitsPacket_whole :
    SubmitsPacket (sendCall 24) sendBuffer.bytes openWorld
        (send (sendCall 24) (answering (doneWith 24)) openWorld) ∧
      SubmitsPacket (sendCall 24) sendBuffer.bytes openWorld
          (sendAsync (sendCall 24) none (answering (doneWith 24)) openWorld) ∧
        SubmitsPacket (sendCall 24) sendBuffer.bytes openWorld
          (sendAsync (sendCall 24) (some 0) (answering (doneWith 24)) openWorld) :=
  have ha : (sendCall 24).packetBuffer = some sendBuffer := rfl
  have hlen : (sendCall 24).packetLength.toNat ≤ sendBuffer.bytes.length := by decide
  have hready : CanPrepare sendBuffer 0 (answering (doneWith 24)) openWorld :=
    ⟨Option.some_ne_none 4096, ⟨8, rfl⟩, by decide⟩
  (submitsPacket_iff 0 ha hlen _ _ _ _ _ _).mpr fun _ => ⟨by decide, hready⟩

/-- **A packet submitted with what follows it**: asked to send 20 bytes, `SendAsync` with a
result object submits all 24. -/
theorem not_submitsPacket_sendAsync :
    ¬SubmitsPacket (sendCall 20) (sendBuffer.bytes.take 20) openWorld
      (sendAsync (sendCall 20) (some 0) (answering (doneWith 24)) openWorld) := by
  intro h
  obtain ⟨-, call, hlog, -, hpacket, -⟩ := h.requested (canSubmit_sendCall 20)
  have hcall : [.transfer ⟨.sendEx, .value 7, sendBuffer, 24, some ⟨1, 0, 0⟩, some 4096⟩] =
      [NativeCall.transfer call] := hlog
  rw [← NativeCall.transfer.inj (List.cons.inj hcall).1] at hpacket
  exact absurd hpacket (by decide)

end DivertNet
