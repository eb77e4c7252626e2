import DivertNet.RepeatedGet
import DivertNet.TestProgram

/-!
# Which tests pass

`RunTest` has a dozen ways to fail, most of them by returning, and some by letting an exception
out. This file says which runs return `true`: `DivertNet.runTest_eq_true_iff` lists what has to
be answered at each step, and no more, so that a test that passes has seen its packet arrive,
byte for byte, and a test that does not has missed one of the conditions.

Three of them are worth a remark. The packet is not compared as it arrives: where the address
says that it is outbound, its checksums are calculated first. A longer packet does not pass for
one that begins like it, for the lengths are compared too. And the reception has to *go pending*:
if the driver has the packet at once, the length stays in the result object, `recvLength` is
still zero, and the test fails with its packet in the buffer.
-/

namespace DivertNet

open Function Triples Client LittleEndian

/-! ### Comparing -/

/-- The loop over the bytes finds no difference exactly if what was sent is what arrived begins
with. -/
theorem sameBytes_eq_true {buffer data : List Byte} :
    sameBytes buffer data = .ok true ↔ data <+: buffer := by
  induction data generalizing buffer with
  | nil =>
    refine iff_of_true ?_ List.nil_prefix
    cases buffer <;> rfl
  | cons d data ih =>
    cases buffer with
    | nil => exact iff_of_false (fun h => nomatch h) fun h => nomatch List.prefix_nil.mp h
    | cons b buffer =>
      rw [sameBytes, List.cons_prefix_cons]
      split
      · rename_i hne
        exact iff_of_false (fun h => nomatch h) fun h => hne h.1.symm
      · rename_i heq
        rw [ih, not_ne_iff.mp heq]
        exact (and_iff_right rfl).symm

/-- A program returns this value. -/
def Yields {α : Type} (x : ClientM α) (s : Client) (a : α) : Prop := (x s).1 = .ok a

section Yields

variable {α β : Type} {s : Client} {b : β}

theorem yields_bind {x : ClientM α} {f : α → ClientM β} :
    Yields (x >>= f) s b ↔ ∃ a t, x s = (.ok a, t) ∧ Yields (f a) t b := by
  rw [Yields, bind_run]
  rcases hx : x s with ⟨e | a, t⟩
  · refine iff_of_false (fun h => ?_) fun ⟨_, _, h, _⟩ => ?_
    · cases h
    · cases h
  · constructor
    · exact fun h => ⟨a, t, rfl, h⟩
    · rintro ⟨a', t', h, hb⟩
      cases h
      exact hb

@[simp] theorem yields_pure {a : α} {b : α} : Yields (pure a) s b ↔ a = b := by
  rw [Yields]
  exact ⟨Except.ok.inj, congrArg _⟩

/-- After a step that returns. -/
theorem yields_bind_of_run {x : ClientM α} {f : α → ClientM β} {a : α} {t : Client}
    (hx : x s = (.ok a, t)) : Yields (x >>= f) s b ↔ Yields (f a) t b := by
  rw [yields_bind, hx]
  constructor
  · rintro ⟨a', t', h, hb⟩
    cases h
    exact hb
  · exact fun h => ⟨a, t, rfl, h⟩

theorem yields_onWorld {f : World → World × α} {k : α → ClientM β} :
    Yields (onWorld f >>= k) s b ↔
      Yields (k (f s.world).2) { s with world := (f s.world).1 } b := yields_bind_of_run rfl

theorem yields_reading {f : Client → α} {k : α → ClientM β} :
    Yields (reading f >>= k) s b ↔ Yields (k (f s)) s b := yields_bind_of_run rfl

/-- After a step that throws. -/
theorem not_yields_bind {x : ClientM α} {f : α → ClientM β} {e : ClrException} {t : Client}
    (hx : x s = (.error e, t)) : ¬Yields (x >>= f) s b := by
  rw [yields_bind, hx]
  rintro ⟨a', t', h, -⟩
  cases h

end Yields

/-! ### A reception that goes pending -/

/-- A handle that can be waited with. -/
def Handle.Usable (h : Handle) : Prop := h ≠ .null ∧ h ≠ .invalid

section Reception

variable {d r i : ℕ} {packetBuffer : ManagedArray} {address : Option Address}
  {reply : TransferReply} {w : World}

/-- A change of the object that keeps its references to the wrappers. -/
theorem waitable_modify {f : DivertAsyncResult → DivertAsyncResult}
    (hf : ∀ o, (f o).m_overlappedEventHandle = o.m_overlappedEventHandle ∧
      (f o).m_winDivertHandle = o.m_winDivertHandle) :
    DivertAsyncResult.waitable r (w.modify r f) = DivertAsyncResult.waitable r w := by
  have hobject : (w.modify r f).results r = f (w.results r) := update_self ..
  rw [DivertAsyncResult.waitable, DivertAsyncResult.waitable, hobject, (hf _).1, (hf _).2]
  rfl

/-- **What the result object says after a start**: there is an error unless the driver is done
or keeps the operation; there are handles to wait with if the one of the driver is usable. -/
theorem startWithResult_object (api : DriverApi) (resetFailed pinFailed : String)
    (hreach : Reaches d packetBuffer address r reply w)
    (hd : (w.diversions d).m_winDivertHandle = some i) (hi : i < w.nextHandle) :
    ∃ w', startWithResult api resetFailed pinFailed d packetBuffer address r reply w =
        (w', .ok (reply.driver.result != 0)) ∧
      (reply.driver.result = 0 →
        ((w'.results r).m_noError = true ↔ reply.driver.lastError = errorIoPending)) ∧
      (reply.driver.Pending → (w'.results r).m_errorCode = 0) ∧
      (DivertAsyncResult.waitable r w' ≠ none ↔ (w.handles i).m_handle.Usable) := by
  obtain ⟨a, e, j, addr, ha, -, -, hstart⟩ :=
    startWithResult_of_reaches api resetFailed pinFailed hreach
  refine ⟨_, hstart, fun hresult => ?_, fun hpending => ?_, ?_⟩
  · rw [answered, if_pos hresult]
    split
    · rename_i hne
      exact iff_of_false (by simp [World.modify]) hne
    · rename_i heq
      refine iff_of_true ?_ (not_ne_iff.mp heq)
      simp [World.modify, World.onNative, prepared, DivertAsyncResult.ready]
  · rw [answered, if_pos hpending.1, if_neg fun hne => hne hpending.2]
    simp [World.modify, World.onNative, prepared, DivertAsyncResult.ready]
  · -- the answer changes none of the two references
    have hkept : ∀ w' : World,
        DivertAsyncResult.waitable r (answered r reply.driver w') =
          DivertAsyncResult.waitable r w' := by
      intro w'
      rw [answered]
      split
      · split
        · exact waitable_modify fun _ => ⟨rfl, rfl⟩
        · rfl
      · exact waitable_modify fun _ => ⟨rfl, rfl⟩
    rw [hkept]
    simp only [DivertAsyncResult.waitable, World.onNative, prepared, World.modify,
      DivertAsyncResult.ready, update_self, hd, update_of_ne hi.ne]
    rw [Handle.Usable]
    split
    · rename_i h
      exact iff_of_true (Option.some_ne_none _) h.2.2
    · rename_i h
      refine iff_of_false (fun hne => hne rfl) fun hboth => h ⟨?_, ?_, hboth⟩
      · simp
      · simp

end Reception

/-! ### The ways out -/

section RunTest

variable {helper : ChecksumHelper} {reply : TestReply} {s : Client} {d₁ : ℕ} {d₂ : Option ℕ}

theorem closeIfSome_run (d : Option ℕ) (closed : Bool) (s : Client) :
    ∃ t, closeIfSome d closed s = (.ok (), t) := by
  cases d with
  | none => exact ⟨_, rfl⟩
  | some d => exact ⟨_, rfl⟩

/-- A test that fails returns `false`. -/
theorem not_yields_failTest : ¬Yields (failTest reply d₁ d₂) s true := by
  obtain ⟨t, ht⟩ := closeIfSome_run d₂ reply.closed2 s
  rw [failTest, yields_bind_of_run ht, close, yields_onWorld, yields_pure]
  decide

/-- The buffer of a test when it is compared: with what arrived, and with new checksums if that
was outbound. -/
def TestReply.compared (helper : ChecksumHelper) (reply : TestReply) (address : Address)
    (recvLength : BitVec 32) : ManagedArray :=
  let buffer := reply.buffer.overwrite reply.arrival.bytes
  if address.direction = .outbound then
    buffer.withMemory (helper ⟨buffer.memory, buffer.base, recvLength, 0⟩).memory
  else buffer

/-- The checksums of an array that is not empty. -/
theorem checksummed_run {a : ManagedArray} (ha : a.bytes.length ≠ 0) (packetLength : BitVec 32)
    (s : Client) :
    checksummed helper a packetLength s =
      (.ok (a.withMemory (helper ⟨a.memory, a.base, packetLength, 0⟩).memory), s) := by
  have hne : a.bytes ≠ [] := fun h => ha (by rw [h, List.length_nil])
  rw [checksummed, calculateChecksums, ChecksumCall.args, addressOfFirst_eq_ok hne]
  rfl

theorem arrivedBuffer_run (helper : ChecksumHelper) (reply : TestReply) (address : Address)
    (recvLength : BitVec 32) (s : Client) :
    arrivedBuffer helper reply (some address) recvLength s =
      (.ok (reply.compared helper address recvLength), s) := by
  have hlength : (reply.buffer.overwrite reply.arrival.bytes).bytes.length ≠ 0 := by
    rw [ManagedArray.length_overwrite, TestReply.buffer, List.length_replicate]
    decide
  have hdirection : direction (some address) s = (.ok address.direction, s) := rfl
  rw [arrivedBuffer, bind_run, hdirection, TestReply.compared]
  dsimp only
  split
  · exact checksummed_run hlength recvLength s
  · rfl

/-- **A packet that is there passes** if it has the length of the one that was sent, and begins
with it. -/
theorem yields_verifyPacket {data : ManagedArray} {address : Address} {recvLength : BitVec 32} :
    Yields (verifyPacket helper reply data (some address) recvLength d₁ d₂) s true ↔
      recvLength.toNat = data.bytes.length ∧
        data.bytes <+: (reply.compared helper address recvLength).bytes := by
  rw [verifyPacket, yields_bind_of_run (arrivedBuffer_run ..)]
  split
  · rename_i hne
    exact iff_of_false not_yields_failTest fun h => hne h.1
  rename_i heq
  rw [and_iff_right (not_ne_iff.mp heq), ← sameBytes_eq_true]
  split
  · rename_i e hsame
    rw [hsame]
    refine iff_of_false (fun h => ?_) fun h => ?_
    · cases h
    · cases h
  · rename_i hsame
    rw [hsame]
    exact iff_of_false not_yields_failTest (by decide)
  · rename_i hsame
    refine iff_of_true ?_ hsame
    rw [close, yields_onWorld]
    obtain ⟨t, ht⟩ := closeIfSome_run d₂ reply.closed2 _
    rw [yields_bind_of_run ht, yields_pure]

/-- What a reception needs to go pending and to be waited for. -/
structure TestReply.Receives (reply : TestReply) (address : Address) : Prop where
  cleared : address.m_address ≠ none ∨ reply.received.malloc ≠ none
  block : reply.overlapped ≠ none
  event : ∃ e, reply.received.createEvent = .ok e
  pinned : reply.bufferBase ≠ 0
  pending : reply.received.driver.Pending
  signalled : reply.wait.wait = .object0

/-- **The packet arrives as it was sent**: the length is the same, and the buffer begins with
it. -/
def TestReply.Delivers (helper : ChecksumHelper) (reply : TestReply) (data : List Byte) : Prop :=
  ∃ n, reply.wait.overlappedResult = .ok n ∧ n.toNat = data.length ∧
    data <+: (reply.compared helper ⟨some reply.arrival.address⟩ n).bytes

theorem transfer_run {f : World → TransferResult} {b : Bool} (h : (f s.world).outcome = .ok b) :
    transfer f s = (.ok (b, (f s.world).address), { s with world := (f s.world).world }) := by
  rw [transfer, h]
  rfl

theorem transfer_throws {f : World → TransferResult} {e : ClrException}
    (h : (f s.world).outcome = .error e) :
    transfer f s = (.error e, { s with world := (f s.world).world }) := by
  rw [transfer, h]
  rfl

/-- The checks of `ReceiveAsync` on the buffer of a test are those of the address. -/
theorem checkArguments_buffer {call : TransferCall}
    (hbuffer : call.packetBuffer = some reply.buffer) (empty failed : String) :
    checkArguments empty failed call reply.received =
      (checkAddress failed reply.received.malloc call.address).map fun a => (reply.buffer, a) := by
  have hcheck : checkBuffer empty call.packetBuffer = .ok reply.buffer := by
    rw [hbuffer]
    refine checkBuffer_eq_ok.mpr ⟨rfl, ?_⟩
    rw [TestReply.buffer, List.length_replicate]
    decide
  rw [checkArguments, hcheck]
  cases checkAddress failed reply.received.malloc call.address <;> rfl

/-- **`ReceiveAsync` in a test**, with the result object `r`: it throws, or is a start that
reaches the driver. -/
theorem receiveAsync_buffer (reply : TestReply) (call : TransferCall)
    (hbuffer : call.packetBuffer = some reply.buffer) {address : Address}
    (haddress : call.address = some address) (r : ℕ) (w : World) :
    ((address.m_address ≠ none ∨ reply.received.malloc ≠ none) ∧
        Reaches call.diversion reply.buffer (some ⟨some ⟨0, 0, 0⟩⟩) r reply.received w ∧
        receiveAsync call (some r) reply.received w =
          ⟨(startWithResult .recvEx TransferText.receiveAsyncReset TransferText.receiveAsyncPin
            call.diversion reply.buffer (some ⟨some ⟨0, 0, 0⟩⟩) r reply.received w).1,
            some ⟨some ⟨0, 0, 0⟩⟩, call.length,
            (startWithResult .recvEx TransferText.receiveAsyncReset TransferText.receiveAsyncPin
              call.diversion reply.buffer (some ⟨some ⟨0, 0, 0⟩⟩) r reply.received w).2⟩) ∨
      ¬((address.m_address ≠ none ∨ reply.received.malloc ≠ none) ∧
          Reaches call.diversion reply.buffer (some ⟨some ⟨0, 0, 0⟩⟩) r reply.received w) ∧
        ∃ e, (receiveAsync call (some r) reply.received w).outcome = .error e := by
  rw [receiveAsync, checkArguments_buffer hbuffer, haddress]
  rcases checkAddress_some TransferText.receiveAsyncAddress reply.received.malloc address with
    ⟨hcleared, hcheck⟩ | ⟨hnull, hcheck⟩
  · rw [hcheck]
    by_cases hreach : Reaches call.diversion reply.buffer (some ⟨some ⟨0, 0, 0⟩⟩) r
        reply.received w
    · exact Or.inl ⟨hcleared, hreach, rfl⟩
    · obtain ⟨w', e, hstart, -⟩ := startWithResult_of_not_reaches .recvEx
        TransferText.receiveAsyncReset TransferText.receiveAsyncPin hreach
      refine Or.inr ⟨fun h => hreach h.2, e, ?_⟩
      simp only [Except.map, hstart]
  · rw [hcheck]
    exact Or.inr ⟨fun h => hnull h.1, _, rfl⟩

/-- **From the wait on**: the test passes if the wait ends with the signal and the packet arrives
as it was sent. -/
theorem yields_fetchPacket {data : ManagedArray} {r : ℕ}
    (hcode : (s.world.results r).m_errorCode = 0) :
    Yields (fetchPacket helper reply data (some ⟨some reply.arrival.address⟩) r d₁ d₂) s true ↔
      DivertAsyncResult.waitable r s.world ≠ none ∧ reply.wait.wait = .object0 ∧
        reply.Delivers helper data.bytes := by
  rw [fetchPacket, yields_onWorld]
  cases hget : (DivertAsyncResult.get r reply.wait s.world).2 with
  | false =>
    refine iff_of_false not_yields_failTest ?_
    rintro ⟨hwaitable, hobject, n, hn, -⟩
    rw [get_eq_true_iff.mpr ⟨n, hwaitable, hobject, hn⟩] at hget
    cases hget
  | true =>
    obtain ⟨n, hwaitable, hobject, hn⟩ := get_eq_true_iff.mp hget
    have hlength := ((get_true_spec hget hn).2.mpr hcode).length
    rw [if_neg (by decide), yields_reading, hlength, yields_verifyPacket]
    constructor
    · exact fun h => ⟨hwaitable, hobject, n, hn, h⟩
    · rintro ⟨-, -, m, hm, h⟩
      obtain rfl : n = m := Except.ok.inj (hn.symm.trans hm)
      exact h

/-- **From the reception on**: the test passes if the reception goes pending, the wait for it
ends with the signal, and the packet arrives as it was sent. -/
theorem yields_awaitPacket {data : ManagedArray} (hdata : data.bytes.length ≠ 0)
    {address : Address} {i : ℕ} (hd : (s.world.diversions d₁).m_winDivertHandle = some i)
    (hi : i < s.world.nextHandle) :
    Yields (awaitPacket helper reply data (some address) d₁ d₂) s true ↔
      reply.Receives address ∧ (s.world.handles i).m_handle.Usable ∧
        reply.Delivers helper data.bytes := by
  rw [awaitPacket, newResult, yields_onWorld]
  dsimp only
  generalize hw : DivertAsyncResult.construct reply.overlapped s.world = w
  generalize hr : s.world.nextResult = r
  generalize hcall : (⟨d₁, some reply.buffer, 0, some address, 0⟩ : TransferCall) = call
  have hd' : (w.diversions d₁).m_winDivertHandle = some i := by rw [← hw]; exact hd
  have hi' : i < w.nextHandle := by rw [← hw]; exact hi
  have hdriver : (w.handles i).m_handle = (s.world.handles i).m_handle := by rw [← hw]; rfl
  have hoverlapped : (w.results r).m_overlapped = reply.overlapped := by
    rw [← hw, ← hr]
    simp [DivertAsyncResult.construct, DivertAsyncResult.new]
  have hdiversion : call.diversion = d₁ := by rw [← hcall]
  have hreceive := receiveAsync_buffer reply call (by rw [← hcall]) (by rw [← hcall]) r w
  rw [hdiversion] at hreceive
  rcases hreceive with ⟨hcleared, hreach, hrun⟩ | ⟨hnot, e, hthrow⟩
  · obtain ⟨w', hstart, hnoError, hcode, hwaitable⟩ := startWithResult_object .recvEx
      TransferText.receiveAsyncReset TransferText.receiveAsyncPin hreach hd' hi'
    rw [hstart] at hrun
    have hout : (receiveAsync call (some r) reply.received w).outcome =
        .ok (reply.received.driver.result != 0) := by rw [hrun]
    rw [yields_bind_of_run (transfer_run hout), hrun]
    dsimp only
    by_cases hresult : reply.received.driver.result = 0
    · rw [hresult, if_neg (by decide), yields_reading]
      by_cases hpending : reply.received.driver.lastError = errorIoPending
      · rw [(hnoError hresult).mpr hpending, if_neg (by decide), ← hdriver, ← hwaitable]
        refine (yields_fetchPacket (s := { s with world := w' })
          (hcode ⟨hresult, hpending⟩)).trans ?_
        constructor
        · rintro ⟨hwait, hobject, hdelivers⟩
          obtain ⟨hblock, hevent, hbase, -, -⟩ := hreach
          exact ⟨⟨hcleared, hoverlapped ▸ hblock, hevent, hbase, ⟨hresult, hpending⟩, hobject⟩,
            hwait, hdelivers⟩
        · rintro ⟨hreceives, hwait, hdelivers⟩
          exact ⟨hwait, hreceives.signalled, hdelivers⟩
      · rw [Bool.eq_false_iff.mpr fun h => hpending ((hnoError hresult).mp h), if_pos (by decide)]
        exact iff_of_false not_yields_failTest fun h => hpending h.1.pending.2
    · -- the driver is done at once, and `recvLength` is zero
      rw [bne_iff_ne.mpr hresult, if_pos rfl, Option.map_some]
      refine iff_of_false (fun h => ?_) fun h => hresult h.1.pending.1
      exact hdata (yields_verifyPacket.mp h).1.symm
  · -- `ReceiveAsync` throws
    refine iff_of_false (not_yields_bind (transfer_throws hthrow)) fun hpasses => hnot ?_
    have h := hpasses.1
    refine ⟨h.cleared, ?_, h.event, h.pinned, ?_, Option.some_ne_none _⟩
    · rw [hoverlapped]
      exact h.block
    · rw [hd']
      exact Option.some_ne_none i

/-- **`Send` in a test**: it throws, or asks the driver. -/
theorem send_packet (call : TransferCall) {data : ManagedArray} {address : Address}
    (hbuffer : call.packetBuffer = some data) (haddress : call.address = some address)
    (reply : TransferReply) (w : World) :
    ((data.bytes.length ≠ 0 ∧ (w.diversions call.diversion).m_winDivertHandle ≠ none) ∧
        ∃ request length, send call reply w = ⟨w.onNative (.record request), some address, length,
          .ok (reply.driver.result == 1)⟩) ∨
      ¬(data.bytes.length ≠ 0 ∧ (w.diversions call.diversion).m_winDivertHandle ≠ none) ∧
        ∃ e, (send call reply w).outcome = .error e := by
  rw [send, hbuffer, haddress]
  by_cases hdata : data.bytes.length = 0
  · refine Or.inr ⟨fun h => h.1 hdata, .exception TransferText.sendEmpty, ?_⟩
    rw [checkBuffer, if_pos hdata]
  rw [checkBuffer, if_neg hdata]
  dsimp only
  cases hd : (w.diversions call.diversion).m_winDivertHandle with
  | none =>
    refine Or.inr ⟨fun h => h.2 rfl, .nullReference, ?_⟩
    rw [World.driverHandle, hd]
    rfl
  | some j =>
    rw [World.driverHandle, hd]
    exact Or.inl ⟨⟨hdata, Option.some_ne_none j⟩, _, _, rfl⟩

/-- **From the injection on**: the packet has to be sent. -/
theorem yields_exchangePacket {data : ManagedArray} {address : Address}
    {injectionDiversion i : ℕ} (hd : (s.world.diversions d₁).m_winDivertHandle = some i)
    (hi : i < s.world.nextHandle) :
    Yields (exchangePacket helper reply data address injectionDiversion d₁ d₂) s true ↔
      ((data.bytes.length ≠ 0 ∧
          (s.world.diversions injectionDiversion).m_winDivertHandle ≠ none) ∧
        reply.injected.driver.result = 1) ∧
      reply.Receives address ∧ (s.world.handles i).m_handle.Usable ∧
        reply.Delivers helper data.bytes := by
  rw [exchangePacket]
  dsimp only
  rcases send_packet ⟨injectionDiversion, some data, data.length, some address, 0⟩ rfl
    rfl reply.injected s.world with ⟨hready, request, length, hsend⟩ | ⟨hnot, e, hthrow⟩
  · have hout : (send ⟨injectionDiversion, some data, data.length, some address, 0⟩
        reply.injected s.world).outcome = .ok (reply.injected.driver.result == 1) := by rw [hsend]
    rw [yields_bind_of_run (transfer_run hout), hsend, and_iff_right hready]
    dsimp only
    by_cases hresult : reply.injected.driver.result = 1
    · rw [beq_iff_eq.mpr hresult, if_neg (by decide), and_iff_right hresult]
      exact yields_awaitPacket (s := { s with world := s.world.onNative (.record request) })
        hready.1 hd hi
    · rw [beq_eq_false_iff_ne.mpr hresult, if_pos (by decide)]
      exact iff_of_false not_yields_failTest fun h => hresult h.1
  · exact iff_of_false (not_yields_bind (transfer_throws hthrow)) fun h => hnot h.1.1

/-! ### `RunTest` as a whole -/

/-- **`Diversion::Open` in a `try`**: a new `Diversion`, or an exception that is caught. -/
theorem attempt_openWith (c : OpenCall) (answer : OpenAnswer) (s : Client) :
    (answer.Opens c.filter ∧ ∃ filters, attempt (openWith c answer) s =
        (.ok (.ok s.world.nextDiversion),
          ⟨(Diversion.wrapped answer.reply.handle s.world).1, filters, s.arrays⟩)) ∨
      ¬answer.Opens c.filter ∧ ∃ e t, attempt (openWith c answer) s = (.ok (.error e), t) := by
  rcases hrun : openDiversion c answer.marshalled answer.reply s.filters with
    ⟨e | handle, filters⟩
  · refine Or.inr ⟨fun hopens => ?_, e, { s with filters := filters }, ?_⟩
    · have hok := (openDiversion_eq_ok (s := s.filters)).mpr ⟨hopens, rfl⟩
      rw [hrun] at hok
      cases hok
    · rw [attempt, openWith, bind_run, filtering, hrun]
  · have hok : (openDiversion c answer.marshalled answer.reply s.filters).1 = .ok handle := by
      rw [hrun]
    obtain ⟨hopens, rfl⟩ := openDiversion_eq_ok.mp hok
    refine Or.inl ⟨hopens, filters, ?_⟩
    have hfiltering : filtering (openDiversion c answer.marshalled answer.reply) s =
        (.ok answer.reply.handle, { s with filters := filters }) := by rw [filtering, hrun]
    rw [attempt, openWith, bind_run, hfiltering, ← (wrapped_spec answer.reply.handle s.world).1]
    rfl

theorem handleValid_run {d i : ℕ} (hd : (s.world.diversions d).m_winDivertHandle = some i) :
    handleValid d s = (.ok (s.world.handles i).valid, s) := by
  rw [handleValid, hd]

/-- What the Diversions refer to after one more is opened. -/
theorem wrapped_diversions (handle : Handle) (w : World) :
    ((Diversion.wrapped handle w).1.diversions w.nextDiversion).m_winDivertHandle =
        some w.nextHandle ∧
      (Diversion.wrapped handle w).1.handles w.nextHandle = ⟨handle, true⟩ ∧
      (∀ d < w.nextDiversion, ((Diversion.wrapped handle w).1.diversions d).m_winDivertHandle =
        (w.diversions d).m_winDivertHandle) ∧
      ∀ i < w.nextHandle, (Diversion.wrapped handle w).1.handles i = w.handles i := by
  obtain ⟨-, -, -, hhandles, hdiv, -⟩ := wrapped_spec handle w
  rw [hhandles, hdiv]
  exact ⟨by rw [update_self], by rw [update_self], fun d hd => by rw [update_of_ne hd.ne],
    fun i hi => by rw [update_of_ne hi.ne]⟩

/-- The Diversions of a test are there: the first, and the second if there is to be one. -/
structure TestReply.Diverts (reply : TestReply) (test : Test) : Prop where
  first : reply.opened1.Opens (some test.filter)
  second : test.isMatch = false → reply.opened2.Opens (some "true")

/-- The handle the packet is received on. -/
def TestReply.receiving (reply : TestReply) (test : Test) : Handle :=
  if test.isMatch then reply.opened1.reply.handle else reply.opened2.reply.handle

/-- **From the opening on.** -/
theorem yields_divertPacket {test : Test} {data : ManagedArray} {address : Address}
    {injectionDiversion : ℕ} (hinj : injectionDiversion < s.world.nextDiversion) :
    Yields (divertPacket helper reply test data address injectionDiversion) s true ↔
      reply.Diverts test ∧
      ((data.bytes.length ≠ 0 ∧
          (s.world.diversions injectionDiversion).m_winDivertHandle ≠ none) ∧
        reply.injected.driver.result = 1) ∧
      reply.Receives address ∧ (reply.receiving test).Usable ∧
        reply.Delivers helper data.bytes := by
  rw [divertPacket]
  rcases attempt_openWith ⟨some test.filter, networkLayer, 0, 0⟩ reply.opened1 s with
    ⟨hfirst, filters, hrun⟩ | ⟨hfirst, e, t, hrun⟩
  · obtain ⟨hnew, hhandle, hold, -⟩ := wrapped_diversions reply.opened1.reply.handle s.world
    obtain ⟨-, hnextDiv, hnext, -⟩ := wrapped_spec reply.opened1.reply.handle s.world
    have hvalid : (⟨reply.opened1.reply.handle, true⟩ : DivertHandle).valid = true :=
      bne_iff_ne.mpr hfirst.2.2
    rw [yields_bind_of_run hrun]
    generalize (Diversion.wrapped reply.opened1.reply.handle s.world).1 = w at *
    rw [yields_bind_of_run (handleValid_run hnew), hhandle, hvalid, if_neg (by decide)]
    cases hmatch : test.isMatch with
    | true =>
      have hdiverts : reply.Diverts test := ⟨hfirst, fun h => nomatch hmatch.symm.trans h⟩
      rw [if_pos rfl, and_iff_right hdiverts, TestReply.receiving, hmatch, if_pos rfl,
        ← hold injectionDiversion hinj]
      have hexchange : Yields (exchangePacket helper reply data address injectionDiversion
          s.world.nextDiversion none) ⟨w, filters, s.arrays⟩ true ↔ _ :=
        yields_exchangePacket hnew (hnext ▸ Nat.lt_succ_self _)
      rwa [hhandle] at hexchange
    | false =>
      rw [if_neg (by decide), TestReply.receiving, hmatch, if_neg (by decide)]
      rcases attempt_openWith ⟨some "true", networkLayer, 33, 0⟩ reply.opened2
          ⟨w, filters, s.arrays⟩ with ⟨hsecond, filters', hrun'⟩ | ⟨hsecond, e, t, hrun'⟩
      · have hdiverts : reply.Diverts test := ⟨hfirst, fun _ => hsecond⟩
        obtain ⟨hnew', hhandle', hold', hkept⟩ :=
          wrapped_diversions reply.opened2.reply.handle w
        obtain ⟨-, hnextDiv', hnext', -⟩ := wrapped_spec reply.opened2.reply.handle w
        rw [yields_bind_of_run hrun', and_iff_right hdiverts]
        dsimp only
        generalize (Diversion.wrapped reply.opened2.reply.handle w).1 = w' at *
        have hlt : s.world.nextDiversion < w.nextDiversion := hnextDiv ▸ Nat.lt_succ_self _
        have hfirst' : (w'.diversions s.world.nextDiversion).m_winDivertHandle =
            some s.world.nextHandle := (hold' _ hlt).trans hnew
        have hkept' : w'.handles s.world.nextHandle = ⟨reply.opened1.reply.handle, true⟩ :=
          (hkept _ (hnext ▸ Nat.lt_succ_self _)).trans hhandle
        rw [yields_bind_of_run (handleValid_run hfirst'), hkept', hvalid, if_neg (by decide),
          ← hold injectionDiversion hinj, ← hold' injectionDiversion (hinj.trans hlt)]
        have hexchange : Yields (exchangePacket helper reply data address injectionDiversion
            w.nextDiversion (some s.world.nextDiversion)) ⟨w', filters', s.arrays⟩ true ↔ _ :=
          yields_exchangePacket hnew' (hnext' ▸ Nat.lt_succ_self _)
        rwa [hhandle'] at hexchange
      · rw [yields_bind_of_run hrun']
        dsimp only
        rw [close, yields_onWorld, yields_pure]
        exact iff_of_false (fun h => nomatch h) fun h => hsecond (h.1.second hmatch)
  · rw [yields_bind_of_run hrun]
    exact iff_of_false (fun h => nomatch yields_pure.mp h) fun h => hfirst h.1.first

/-- **`ValidateFilter` in a test**: it asks the library, or is not content with the filter. -/
theorem validateFilter_run (c : ValidateCall) (marshalled : Bool) (reply : CheckReply)
    (s : Client) :
    (((isNullOrEmpty c.filter || isNullOrWhiteSpace c.filter) = false ∧ marshalled = true) ∧
        ∃ details filters, filtering (validateFilter c marshalled reply) s =
          (.ok (reply.result == 1, details), { s with filters := filters })) ∨
      ¬((isNullOrEmpty c.filter || isNullOrWhiteSpace c.filter) = false ∧ marshalled = true) ∧
        ((∃ e t, filtering (validateFilter c marshalled reply) s = (.error e, t)) ∨
          ∃ details t, filtering (validateFilter c marshalled reply) s =
            (.ok (false, details), t)) := by
  simp only [filtering, validateFilter]
  cases isNullOrEmpty c.filter || isNullOrWhiteSpace c.filter with
  | true =>
    refine Or.inr ⟨fun h => ?_, Or.inr ⟨_, _, rfl⟩⟩
    cases h.1
  | false =>
    cases marshalled with
    | false =>
      refine Or.inr ⟨fun h => ?_, Or.inl ⟨_, _, rfl⟩⟩
      cases h.2
    | true =>
      refine Or.inl ⟨⟨rfl, rfl⟩, ?_⟩
      by_cases hresult : reply.result = 0
      · simp only [hresult, if_true]
        exact ⟨_, _, rfl⟩
      · simp only [hresult, if_false]
        exact ⟨_, _, rfl⟩

/-- **`EvaluateFilter` in a test**: it asks the library, or throws. -/
theorem evaluateFilter_run {c : EvaluateCall} {data : ManagedArray} {address : Address}
    (hbuffer : c.packetBuffer = some data) (haddress : c.address = some address)
    (hfilter : (isNullOrEmpty c.filter || isNullOrWhiteSpace c.filter) = false)
    (marshalled : Bool) (result : ℕ) (s : Client) :
    ((marshalled = true ∧ data.bytes.length ≠ 0) ∧ ∃ filters,
        filtering (evaluateFilter c marshalled result) s =
          (.ok (result == 1), { s with filters := filters })) ∨
      ¬(marshalled = true ∧ data.bytes.length ≠ 0) ∧ ∃ e t,
        filtering (evaluateFilter c marshalled result) s = (.error e, t) := by
  cases marshalled with
  | false =>
    have hnot : ¬((isNullOrEmpty c.filter || isNullOrWhiteSpace c.filter) = false ∧
        false = true) := fun h => Bool.false_ne_true h.2
    obtain ⟨e, hthrow⟩ := evaluateFilter_of_not_copied (s := s.filters) hnot result
    exact Or.inr ⟨fun h => Bool.false_ne_true h.1, e, s, by rw [filtering, hthrow]⟩
  | true =>
    by_cases hdata : data.bytes.length = 0
    · obtain ⟨e, hthrow⟩ := evaluateFilter_eq_error (c := c) (s := s.filters) hfilter result
        (by
          rintro ⟨⟨a, ha, hne⟩, -⟩
          obtain rfl : data = a := Option.some.inj (hbuffer.symm.trans ha)
          exact hne hdata)
      exact Or.inr ⟨fun h => h.2 hdata, e, _, by rw [filtering, hthrow]⟩
    · exact Or.inl ⟨⟨rfl, hdata⟩, _, by
        rw [filtering, evaluateFilter_eq_ok hfilter hbuffer hdata haddress]⟩

/-- **What a test needs to pass.** -/
structure TestReply.Passes (helper : ChecksumHelper) (reply : TestReply) (test : Test)
    (injectionDiversion : ℕ) (s : Client) : Prop where
  filter : (isNullOrEmpty (some test.filter) || isNullOrWhiteSpace (some test.filter)) = false
  validated : reply.validateMarshalled = true ∧ reply.validated.result = 1
  evaluated : reply.evaluateMarshalled = true ∧ (reply.evaluated == 1) = test.isMatch
  diverts : reply.Diverts test
  packet : (s.arrays test.testPacketData).bytes.length ≠ 0
  injection : (s.world.diversions injectionDiversion).m_winDivertHandle ≠ none
  injected : reply.injected.driver.result = 1
  receives : reply.Receives ((Address.init reply.address).setDirection .outbound)
  usable : (reply.receiving test).Usable
  delivers : reply.Delivers helper (s.arrays test.testPacketData).bytes

/-- **When a test passes**: whatever the filter, the packet, the state and the answers of the
system, `RunTest` returns `true` exactly if every step is answered as the test needs it, and the
packet that arrives is the one that was injected. -/
theorem runTest_eq_true_iff {test : Test} {injectionDiversion : ℕ}
    (hinj : injectionDiversion < s.world.nextDiversion) :
    Yields (runTest helper reply test injectionDiversion) s true ↔
      reply.Passes helper test injectionDiversion s := by
  rw [runTest]
  rcases validateFilter_run ⟨some test.filter, networkLayer, some ""⟩ reply.validateMarshalled
      reply.validated s with
    ⟨⟨hfilter, hmarshalled⟩, details, filters, hrun⟩ | ⟨hnot, hrun⟩
  · rw [yields_bind_of_run hrun]
    dsimp only
    by_cases hvalid : reply.validated.result = 1
    · rw [beq_iff_eq.mpr hvalid, if_neg (by decide), yields_reading]
      dsimp only
      generalize hdata : s.arrays test.testPacketData = data
      rcases evaluateFilter_run (c := ⟨some test.filter, networkLayer, some data, data.length,
          some ((Address.init reply.address).setDirection .outbound)⟩) rfl rfl hfilter
          reply.evaluateMarshalled reply.evaluated { s with filters := filters } with
        ⟨⟨hmarshalled', hne⟩, filters', hrun'⟩ | ⟨hnot, e, t, hrun'⟩
      · rw [yields_bind_of_run hrun']
        by_cases hevaluated : (reply.evaluated == 1) = test.isMatch
        · rw [if_neg (not_not_intro hevaluated)]
          refine (yields_divertPacket (s := ⟨s.world, filters', s.arrays⟩) hinj).trans ?_
          constructor
          · rintro ⟨hdiverts, ⟨⟨-, hinjection⟩, hinjected⟩, hreceives, husable, hdelivers⟩
            exact ⟨hfilter, ⟨hmarshalled, hvalid⟩, ⟨hmarshalled', hevaluated⟩, hdiverts,
              hdata ▸ hne, hinjection, hinjected, hreceives, husable, hdata ▸ hdelivers⟩
          · intro h
            exact ⟨h.diverts, ⟨⟨hne, h.injection⟩, h.injected⟩, h.receives, h.usable,
              hdata ▸ h.delivers⟩
        · rw [if_pos hevaluated, yields_pure]
          exact iff_of_false (fun h => nomatch h) fun h => hevaluated h.evaluated.2
      · refine iff_of_false (not_yields_bind hrun') fun h => hnot ⟨h.evaluated.1, ?_⟩
        exact hdata ▸ h.packet
    · rw [beq_eq_false_iff_ne.mpr hvalid, if_pos (by decide), yields_pure]
      exact iff_of_false (fun h => nomatch h) fun h => hvalid h.validated.2
  · refine iff_of_false (fun h => ?_) fun h => hnot ⟨h.filter, h.validated.1⟩
    rcases hrun with ⟨e, t, hrun⟩ | ⟨details, t, hrun⟩
    · exact not_yields_bind hrun h
    · rw [yields_bind_of_run hrun] at h
      cases yields_pure.mp h

end RunTest

/-! #### A test that passes -/

/-- An outbound packet that fits into the buffer is compared with its checksums calculated. -/
theorem take_compared {reply : TestReply} {address : Address} {n : BitVec 32}
    (haddress : address.direction = .outbound) (hn : n.toNat = reply.arrival.bytes.length)
    (hle : n.toNat ≤ maxPacket) :
    (reply.compared ipv4Calculator address n).bytes.take n.toNat =
      withChecksums 0 reply.arrival.bytes := by
  have hreply : reply.buffer.bytes.length = maxPacket := List.length_replicate
  have hbuffer : n.toNat ≤ reply.buffer.bytes.length := hle.trans hreply.ge
  have hfits : n.toNat ≤ (reply.buffer.overwrite reply.arrival.bytes).bytes.length := by
    rwa [ManagedArray.length_overwrite]
  rw [TestReply.compared, if_pos haddress, ManagedArray.take_withMemory _ _ hfits]
  refine (readBytes_ipv4Calculator ⟨_, _, n, 0⟩).trans (congrArg (withChecksums 0) ?_)
  rw [ChecksumArgs.packet, readBytes_memory _ hfits, hn]
  exact ManagedArray.take_overwrite _ (hn ▸ hbuffer)

/-- The Diversion to inject with is open, and the packet has its checksums. -/
def injecting : Client where
  world := Diversion.opened 7 .empty
  filters := .initial
  arrays _ := ⟨0, 4096, withChecksums 0 echoBytes, by decide⟩

/-- **The echo request passes.** -/
theorem runTest_echo : Yields (runTest ipv4Calculator echoReply echoTest 0) injecting true := by
  have hopens : (openedAs 9).Opens (some echoTest.filter) :=
    ⟨by decide, rfl, fun h => nomatch h⟩
  -- calculating the checksums again changes nothing
  have hagain : withChecksums 0 (withChecksums 0 echoBytes) = withChecksums 0 echoBytes := by
    decide +kernel
  have hlength : (84 : BitVec 32).toNat = (withChecksums 0 echoBytes).length := by decide
  have hdelivers : echoReply.Delivers ipv4Calculator (withChecksums 0 echoBytes) := by
    refine ⟨84, rfl, hlength, List.prefix_iff_eq_take.mpr ?_⟩
    rw [← hlength, take_compared rfl hlength (by decide)]
    exact hagain.symm
  refine (runTest_eq_true_iff (by decide)).mpr ?_
  exact {
    filter := by decide
    validated := ⟨rfl, rfl⟩
    evaluated := ⟨rfl, rfl⟩
    diverts := ⟨hopens, fun h => nomatch h⟩
    packet := by decide
    injection := Option.some_ne_none 0
    injected := rfl
    receives := ⟨Or.inl (Option.some_ne_none _), Option.some_ne_none 4096, ⟨8, rfl⟩, by decide,
      ⟨rfl, rfl⟩, rfl⟩
    usable := ⟨fun h => (nomatch h), fun h => (nomatch h)⟩
    delivers := hdelivers }

end DivertNet
