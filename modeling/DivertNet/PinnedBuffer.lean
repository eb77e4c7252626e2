import DivertNet.Library.Custody
import DivertNet.PendingRuns

/-!
# The pins of a result object

A start with a result object pins its buffer “permanently” and gives the pin to the object to
manage: it is recorded in `Buffer`, and `Get`, or the finalizer, releases what is recorded
there. So between the calls the pins made for an object and not released yet should be the
one in its `Buffer`. This is the custody of `Custody.Ledger`, with the pins as resources and
`Buffer` as the slot; `DivertNet.ledger` is the abstraction, and each call is one of the
four moves (`DivertNet.ledger_next`).

| call | move |
|---|---|
| a start that throws in its argument checks | keep |
| a start whose `Reset` succeeds | hold |
| a start whose `Reset` fails or throws | **lose** |
| a `Get` that sees the event signalled | release |
| any other `Get` | keep |

The books therefore balance exactly along the runs whose starts find `Buffer` empty and get
through `Reset`: `DivertNet.pinsConserved_iff`. A start fails to find it empty when the
operation before finished at once, for then no `Get` has to be called.
-/

namespace DivertNet

open Function Runs Custody

/-! ### The calls on one object -/

/-- A public call that uses the result object, with what the system answers. -/
inductive ResultCall where
  | start (method : AsyncMethod) (c : TransferCall) (reply : TransferReply)
  | get (reply : GetReply)

/-- The world after the call. -/
def ResultCall.run (r : ℕ) (w : World) : ResultCall → World
  | .start method c reply => (method.run c r reply w).world
  | .get reply => (DivertAsyncResult.get r reply w).1

/-- The world, and how often each pin has been released. -/
structure Tracked where
  world : World
  released : ℕ → ℕ

namespace Tracked

/-- Going on to another world. `Buffer` is emptied nowhere but where its pin is released, so
this is what has been released in between. -/
def goOn (r : ℕ) (s : Tracked) (w : World) : Tracked where
  world := w
  released :=
    match (s.world.results r).m_buffer, (w.results r).m_buffer with
    | some pin, none => update s.released pin (s.released pin + 1)
    | _, _ => s.released

/-- The state after a call. -/
def next (r : ℕ) (s : Tracked) (a : ResultCall) : Tracked := s.goOn r (a.run r s.world)

/-- The state after the object is disposed of. -/
def dispose (r : ℕ) (s : Tracked) : Tracked := s.goOn r (DivertAsyncResult.finalizer r s.world)

/-- The state in which the object has just been constructed; its number is the old
`nextResult`. -/
def constructed (malloc : Option ℕ) (w : World) : Tracked where
  world := DivertAsyncResult.construct malloc w
  released _ := 0

end Tracked

/-- **The books of a result object**: the pins made, the live ones, the one in `Buffer`, and
how often each was released. -/
def ledger (r : ℕ) (s : Tracked) : Ledger where
  next := s.world.native.nextPin
  live pin := (s.world.native.pins pin).isSome
  slot := (s.world.results r).m_buffer
  released := s.released

/-- **The pins are conserved** along a run of calls from the construction on: in every state
the ones made and not released are the one in `Buffer`, every other one was released once,
and disposing of the object at the end releases what is left. -/
def PinsConserved (malloc : Option ℕ) (w : World) (l : List ResultCall) : Prop :=
  EveryState (always (Tracked.next w.nextResult))
      (fun s => Conserves w.native.nextPin (ledger w.nextResult s))
      (Tracked.constructed malloc w) l ∧
    ∀ t, run (always (Tracked.next w.nextResult)) (Tracked.constructed malloc w) l = some t →
      Settled w.native.nextPin (ledger w.nextResult (t.dispose w.nextResult))

/-- **A call hands its pin over**: a start that gets past its argument checks finds `Buffer`
empty, has a block to reset, and gets an event. -/
def HandsOver (r : ℕ) (w : World) : ResultCall → Prop
  | .start method c reply => ∀ x, method.arguments c reply = .ok x →
    (w.results r).m_buffer = none ∧ (w.results r).m_overlapped ≠ none ∧
      ∃ e, reply.createEvent = .ok e
  | .get _ => True

/-! ### What the calls do to the pins -/

section Pins

variable {r : ℕ} {w w₁ w₂ : World}

/-- Neither the pins nor the `Buffer` of the object have changed. -/
structure SamePins (r : ℕ) (w w' : World) : Prop where
  pins : w'.native.pins = w.native.pins
  nextPin : w'.native.nextPin = w.native.nextPin
  m_buffer : (w'.results r).m_buffer = (w.results r).m_buffer

theorem SamePins.refl (r : ℕ) (w : World) : SamePins r w w := ⟨rfl, rfl, rfl⟩

theorem SamePins.trans (h : SamePins r w w₁) (h' : SamePins r w₁ w₂) : SamePins r w w₂ where
  pins := h'.pins.trans h.pins
  nextPin := h'.nextPin.trans h.nextPin
  m_buffer := h'.m_buffer.trans h.m_buffer

/-- Changing other fields of the object. -/
theorem samePins_modify (w : World) (f : DivertAsyncResult → DivertAsyncResult)
    (hf : ∀ o, (f o).m_buffer = o.m_buffer) : SamePins r w (w.modify r f) :=
  ⟨rfl, rfl, by simp [World.modify, hf]⟩

/-- A close of a wrapper. -/
theorem samePins_close (r h : ℕ) (closed : Bool) (w : World) :
    SamePins r w (DivertHandle.close h closed w).1 := by
  obtain ⟨_, _, _, _, hclose⟩ := DivertHandle.close_eq h closed w
  rw [hclose]
  exact ⟨rfl, rfl, rfl⟩

/-- What becomes of an answer. -/
theorem samePins_answered (r : ℕ) (reply : DriverReply) (w : World) :
    SamePins r w (answered r reply w) := by
  rw [answered]
  split
  · split
    · exact samePins_modify w _ fun _ => rfl
    · exact .refl r w
  · exact samePins_modify w _ fun _ => rfl

/-- A request with the object. -/
theorem samePins_requestWithResult {api : DriverApi} {pinFailed : String} {d pin : ℕ}
    {packetBuffer : ManagedArray} {address : Option Address} (reply : DriverReply) (w : World) :
    SamePins r w
      (requestWithResult api pinFailed d packetBuffer pin address r reply w).1 := by
  by_cases hreq : Requests d packetBuffer address w
  · obtain ⟨hbase, hd, haddr⟩ := hreq
    obtain ⟨h, hd⟩ := Option.ne_none_iff_exists'.mp hd
    obtain ⟨addr, rfl⟩ := Option.ne_none_iff_exists'.mp haddr
    rw [requestWithResult_submits hbase hd]
    have hsubmit := Native.submit_pins ⟨api, (w.handles h).m_handle, packetBuffer,
      packetBuffer.length, addr.m_address, (w.results r).m_overlapped⟩ pin reply w.native
    have hsame : SamePins r w (w.onNative (.submit ⟨api, (w.handles h).m_handle, packetBuffer,
        packetBuffer.length, addr.m_address, (w.results r).m_overlapped⟩ pin reply)) :=
      ⟨hsubmit.1, hsubmit.2, rfl⟩
    exact hsame.trans (samePins_answered r reply _)
  · obtain ⟨ex, hex⟩ := requestWithResult_throws r pin reply hreq
    rw [hex api]
    exact .refl r w

/-- What `Buffer` holds after a start that gets past its argument checks: the new pin if the
object is reset, and otherwise what it held. -/
def recordedPin (r : ℕ) (reply : TransferReply) (w : World) : Option ℕ :=
  match (w.results r).m_overlapped, reply.createEvent with
  | some _, .ok _ => some w.native.nextPin
  | _, _ => (w.results r).m_buffer

/-- **Such a start makes a pin.** -/
theorem startWithResult_pins (api : DriverApi) (resetFailed pinFailed : String) (d r : ℕ)
    (packetBuffer : ManagedArray) (address : Option Address) (reply : TransferReply) (w : World) :
    ∃ w₁, SamePins r w₁ (startWithResult api resetFailed pinFailed d packetBuffer address r reply
        w).1 ∧
      w₁.native.nextPin = w.native.nextPin + 1 ∧
      w₁.native.pins = update w.native.pins w.native.nextPin (some packetBuffer.ref) ∧
      (w₁.results r).m_buffer = recordedPin r reply w := by
  rw [recordedPin]
  cases ha : (w.results r).m_overlapped with
  | none =>
    rw [startWithResult_null ha]
    exact ⟨_, .refl r _, rfl, rfl, rfl⟩
  | some a =>
    cases he : reply.createEvent with
    | error lastError =>
      rw [startWithResult_failed ha he]
      exact ⟨w.onNative (.gcAlloc packetBuffer.ref), ⟨rfl, rfl, by
        simp [DivertAsyncResult.cleared, World.modify, World.onNative]⟩, rfl, rfl, rfl⟩
    | ok e =>
      rw [startWithResult_ready ha he]
      exact ⟨_, samePins_requestWithResult _ _, rfl, rfl, by simp [prepared, World.modify]⟩

/-- A `Get` fetches the result: it has handles to wait with, and sees the event signalled. -/
def Fetches (r : ℕ) (reply : GetReply) (w : World) : Prop :=
  (DivertAsyncResult.waitable r w).isSome = true ∧ reply.wait = .object0

instance (r : ℕ) (reply : GetReply) (w : World) : Decidable (Fetches r reply w) :=
  inferInstanceAs (Decidable (_ ∧ _))

theorem samePins_fetched (r : ℕ) (event driver : Handle)
    (overlappedResult : Except (BitVec 32) (BitVec 32)) (w : World) :
    SamePins r w (DivertAsyncResult.fetched r event driver overlappedResult w) := by
  cases event <;> cases overlappedResult <;>
    exact ⟨rfl, rfl, by simp [DivertAsyncResult.fetched, World.modify, World.onNative]⟩

/-- **A `Get` that fetches the result** releases the pin in `Buffer`. -/
theorem get_pins_of_fetches {reply : GetReply} (h : Fetches r reply w) :
    ∃ w₁, SamePins r w w₁ ∧
      (DivertAsyncResult.get r reply w).1 = DivertAsyncResult.freeBuffer r w₁ := by
  obtain ⟨hwait, hobject⟩ := h
  obtain ⟨⟨i, event, driver⟩, hwait⟩ := Option.isSome_iff_exists.mp hwait
  rw [DivertAsyncResult.get_of_signalled hwait hobject]
  exact ⟨_, (samePins_fetched r event driver _ w).trans (samePins_close r i reply.closed _), rfl⟩

/-- Any other leaves it pinned. -/
theorem get_pins_of_not_fetches {reply : GetReply} (h : ¬Fetches r reply w) :
    SamePins r w (DivertAsyncResult.get r reply w).1 := by
  cases hwait : DivertAsyncResult.waitable r w with
  | none =>
    have hmodify : SamePins r w (w.modify r fun o => { o with m_noError := false }) :=
      samePins_modify w _ fun _ => rfl
    rw [DivertAsyncResult.get_of_not_waitable hwait]
    exact hmodify
  | some x =>
    obtain ⟨i, event, driver⟩ := x
    have hobject : reply.wait ≠ .object0 := fun hobject => h ⟨by rw [hwait]; rfl, hobject⟩
    obtain ⟨f, hf, hget⟩ := DivertAsyncResult.get_of_not_signalled hwait hobject
    have hlog : SamePins r w (w.onNative fun n =>
        { n with log := n.log ++ [.waitForSingleObject event] }) := ⟨rfl, rfl, rfl⟩
    rw [hget]
    exact hlog.trans (samePins_modify _ f fun o => (hf o).2)

end Pins

/-! ### The books along a run -/

section Books

variable {r : ℕ} {s : Tracked} {w w₁ : World}

/-- The move a call is. -/
def pinMove (r : ℕ) (w : World) : ResultCall → Move
  | .start method c reply =>
    match method.arguments c reply, (w.results r).m_overlapped, reply.createEvent with
    | .error _, _, _ => .keep
    | .ok _, some _, .ok _ => .hold
    | .ok _, _, _ => .lose
  | .get reply => if Fetches r reply w then .release else .keep

/-- Where the pins are as they were, the books are. -/
theorem ledger_goOn_of_samePins (h : SamePins r s.world w) :
    ledger r (s.goOn r w) = ledger r s := by
  simp only [ledger, Tracked.goOn, h.pins, h.nextPin, h.m_buffer]
  cases (s.world.results r).m_buffer <;> rfl

/-- Releasing the buffer is the move. -/
theorem ledger_goOn_freeBuffer (h : SamePins r s.world w₁) :
    ledger r (s.goOn r (DivertAsyncResult.freeBuffer r w₁)) = Move.release.apply (ledger r s) := by
  cases hbuf : (s.world.results r).m_buffer with
  | none =>
    have hfree : DivertAsyncResult.freeBuffer r w₁ = w₁ := by
      rw [DivertAsyncResult.freeBuffer, h.m_buffer, hbuf]
    rw [hfree, ledger_goOn_of_samePins h]
    simp only [Move.apply, ledger, hbuf]
  | some pin =>
    have hfree : DivertAsyncResult.freeBuffer r w₁ = (w₁.onNative (.gcFree pin)).modify r
        fun o => { o with m_buffer := none } := by
      rw [DivertAsyncResult.freeBuffer, h.m_buffer, hbuf]
    have hlive := fun x => apply_update (fun _ => Option.isSome) s.world.native.pins pin none x
    simp only [hfree, ledger, Tracked.goOn, Move.apply, World.modify, World.onNative,
      Native.gcFree, update_self, hbuf, h.pins, h.nextPin, hlive, Option.isSome_none]

/-- Making a pin, recorded or not. -/
theorem ledger_goOn_start {ref : ℕ} (hnext : w.native.nextPin = s.world.native.nextPin + 1)
    (hpins : w.native.pins = update s.world.native.pins s.world.native.nextPin (some ref)) :
    ((w.results r).m_buffer = some s.world.native.nextPin →
        ledger r (s.goOn r w) = Move.hold.apply (ledger r s)) ∧
      ((w.results r).m_buffer = (s.world.results r).m_buffer →
        ledger r (s.goOn r w) = Move.lose.apply (ledger r s)) := by
  have hlive := fun x => apply_update (fun _ => Option.isSome) s.world.native.pins
    s.world.native.nextPin (some ref) x
  constructor
  · intro hbuf
    simp only [ledger, Tracked.goOn, Move.apply, hbuf, hnext, hpins, hlive, Option.isSome_some]
    cases (s.world.results r).m_buffer <;> rfl
  · intro hbuf
    simp only [ledger, Tracked.goOn, Move.apply, hbuf, hnext, hpins, hlive, Option.isSome_some]
    cases (s.world.results r).m_buffer <;> rfl

/-- **Each call is a move.** -/
theorem ledger_next (r : ℕ) (s : Tracked) (a : ResultCall) :
    ledger r (s.next r a) = (pinMove r s.world a).apply (ledger r s) := by
  cases a with
  | get reply =>
    rw [Tracked.next, ResultCall.run, pinMove]
    by_cases hfetch : Fetches r reply s.world
    · obtain ⟨w₁, hsame, hget⟩ := get_pins_of_fetches hfetch
      rw [if_pos hfetch, hget]
      exact ledger_goOn_freeBuffer hsame
    · rw [if_neg hfetch]
      exact ledger_goOn_of_samePins (get_pins_of_not_fetches hfetch)
  | start method c reply =>
    obtain ⟨api, resetFailed, pinFailed, hrun⟩ := method.run_world c r reply s.world
    rw [Tracked.next, ResultCall.run, hrun, pinMove]
    cases hargs : method.arguments c reply with
    | error e => exact ledger_goOn_of_samePins (.refl r s.world)
    | ok x =>
      obtain ⟨packetBuffer, address⟩ := x
      obtain ⟨w₁, hsame, hnext, hpins, hbuf⟩ := startWithResult_pins api resetFailed pinFailed
        c.diversion r packetBuffer address reply s.world
      have hmove := ledger_goOn_start (r := r) (s := s) (hsame.nextPin.trans hnext)
        (hsame.pins.trans hpins)
      rw [hsame.m_buffer, hbuf, recordedPin] at hmove
      cases ha : (s.world.results r).m_overlapped with
      | none =>
        rw [ha] at hmove
        exact hmove.2 rfl
      | some a =>
        cases he : reply.createEvent with
        | error lastError =>
          rw [ha, he] at hmove
          exact hmove.2 rfl
        | ok e =>
          rw [ha, he] at hmove
          exact hmove.1 rfl

/-- **Disposing of the object is a release**; the block it frees is no pin. -/
theorem ledger_dispose (r : ℕ) (s : Tracked) :
    ledger r (s.dispose r) = Move.release.apply (ledger r s) := by
  have hfree := ledger_goOn_freeBuffer (s := s) (.refl r s.world)
  rw [Tracked.dispose, DivertAsyncResult.finalizer]
  cases ((DivertAsyncResult.freeBuffer r s.world).results r).m_overlapped with
  | none => exact hfree
  | some a => exact hfree

/-- **The safe moves are the calls that hand their pin over.** -/
theorem safe_pinMove_iff (r : ℕ) (s : Tracked) (a : ResultCall) :
    (pinMove r s.world a).Safe (ledger r s) ↔ HandsOver r s.world a := by
  cases a with
  | get reply =>
    rw [pinMove]
    split <;> exact Iff.rfl
  | start method c reply =>
    rw [pinMove, HandsOver]
    cases hargs : method.arguments c reply with
    | error e => exact iff_of_true trivial nofun
    | ok x =>
      have hall : ∀ P : Prop,
          (∀ y, (.ok x : Except ClrException (ManagedArray × Option Address)) = .ok y → P) ↔ P :=
        fun P => ⟨fun h => h x rfl, fun h _ _ => h⟩
      rw [hall]
      cases ha : (s.world.results r).m_overlapped with
      | none => exact iff_of_false id fun h => h.2.1 rfl
      | some a =>
        cases he : reply.createEvent with
        | error lastError => exact iff_of_false id fun ⟨_, _, _, h⟩ => nomatch h
        | ok e => exact (and_iff_left ⟨Option.some_ne_none a, e, rfl⟩).symm

/-- The books are balanced when an object is constructed. -/
theorem inv_constructed (malloc : Option ℕ) (w : World) :
    Custody.Inv w.native.nextPin (ledger w.nextResult (Tracked.constructed malloc w)) := by
  have hledger : ledger w.nextResult (Tracked.constructed malloc w) =
      ⟨w.native.nextPin, fun pin => (w.native.pins pin).isSome, none, fun _ => 0⟩ := by
    cases malloc <;>
      simp [ledger, Tracked.constructed, DivertAsyncResult.construct, Native.malloc,
        DivertAsyncResult.new]
  rw [hledger]
  exact .start

/-- **When the pins of an object are conserved**: along any run of calls from its construction
on, exactly when every start that gets past its argument checks finds `Buffer` empty, has a
block to reset and gets an event. -/
theorem pinsConserved_iff (malloc : Option ℕ) (w : World) (l : List ResultCall) :
    PinsConserved malloc w l ↔
      EveryStep (always (Tracked.next w.nextResult))
        (fun s a _ => HandsOver w.nextResult s.world a) (Tracked.constructed malloc w) l := by
  have hinv := inv_constructed malloc w
  have hstep : ∀ s a t, Custody.Inv w.native.nextPin (ledger w.nextResult s) →
      HandsOver w.nextResult s.world a → always (Tracked.next w.nextResult) s a = some t →
      Custody.Inv w.native.nextPin (ledger w.nextResult t) := by
    rintro s a t inv hover ⟨⟩
    rw [ledger_next]
    exact inv.apply ((safe_pinMove_iff w.nextResult s a).mpr hover)
  have hexact : ∀ s a t, Custody.Inv w.native.nextPin (ledger w.nextResult s) →
      always (Tracked.next w.nextResult) s a = some t →
      Conserves w.native.nextPin (ledger w.nextResult t) → HandsOver w.nextResult s.world a := by
    rintro s a t inv ⟨⟩ hconserves
    rw [ledger_next] at hconserves
    exact (safe_pinMove_iff w.nextResult s a).mp (Move.safe_of_conserves inv hconserves)
  have hiff := everyState_iff_everyStep (fun s inv => inv.toConserves) hstep hexact hinv l
  refine ⟨fun h => hiff.mp h.1, fun h => ⟨hiff.mpr h, fun t ht => ?_⟩⟩
  -- the run keeps the invariant, and disposing is a release
  have inv := everyState_of_guard hstep hinv h l [] t (List.append_nil l).symm ht
  rw [ledger_dispose]
  exact inv.settles

end Books

/-! ### Pins that are lost -/

/-- Receiving into a buffer with a result object, as the driver answers. -/
def receiving (createEvent : Except (BitVec 32) ℕ) (driver : DriverReply) : ResultCall :=
  .start .receiveAsync pendingCall ⟨none, createEvent, driver⟩

/-- An open `Diversion`, and no result object yet. -/
def justOpened : World := Diversion.opened 7 .empty

/-- **Two pins that nobody releases**: the one of a start whose event cannot be made, and the
one of an operation that finished at once, when the object is used again. -/
theorem not_pinsConserved :
    ¬PinsConserved (some 4096) justOpened [receiving (.error 8) (doneWith 64)] ∧
      ¬PinsConserved (some 4096) justOpened
        [receiving (.ok 8) (doneWith 64), receiving (.ok 9) (doneWith 64)] := by
  refine ⟨fun h => ?_, fun h => ?_⟩
  · obtain ⟨-, hsettled⟩ := h.2 _ rfl
    exact absurd (hsettled 0 (Nat.zero_le 0) (by decide)).1 (by decide)
  · obtain ⟨-, hsettled⟩ := h.2 _ rfl
    exact absurd (hsettled 0 (Nat.zero_le 0) (by decide)).1 (by decide)

end DivertNet
