import DivertNet.AwaitedGet
import DivertNet.Library.Disposal
import DivertNet.TableBlocks
import DivertNet.UdpAttribution

/-!
# Objects that are disposed of twice

Five classes own native blocks, and free them in a finalizer, which the destructor runs.
Disposing of an object more than once is allowed, and so is calling a method on an object
that was disposed of, if only to be told so. All five finalizers free what is behind the
pointers that are not null, and leave the pointers as they are:

| class | pointers | who reaches them |
|---|---|---|
| `Address` | `m_address` | every operation |
| `DivertAsyncResult` | `m_overlapped` | a start past its checks, a `Get` that sees the event |
| `IPv6Header` | `m_lastSrcAddr`, `m_lastDstAddr` | an assignment, a read with a header attached |
| `TCPHeader`, `UDPHeader` | a table for each family | `GetPacketProcess` for that family |

What an operation does with its pointers is a program here, and has to be what the class
does: `DivertNet.ResultCall.touches` and `DivertNet.finalizer_frees` compare it with
the native state, `DivertNet.caches_next` with the header object, and for the tables it is
`DivertNet.leaves_queryTable`.

What follows is `Disposal.everyState_faultless_iff`, once each class is a `Disposal.Owner`:
after a disposal none of these operations is safe, nor is another disposal.
Of the header classes it is the pointer into the packet that the finalizer clears, which is
the one they do not own.
-/

namespace DivertNet

open Runs Blocks Disposal

/-! ### `Address` -/

/-- What can be done with an `Address`. -/
inductive AddressOp where
  /-- `InterfaceIndex`, `SubInterfaceIndex` or `Direction` is read or assigned. -/
  | property
  /-- `Reset()`, by whether an allocation it makes succeeds. -/
  | reset (malloc : Bool)
  /-- The driver is given `UnmanagedAddress`. -/
  | native
  | dispose

/-- What an operation does with `m_address`. -/
def AddressOp.uses (present : Bool) : AddressOp → List Use
  | property => guarded present [.access]
  -- the clearing is not guarded
  | reset malloc => (if present then [] else [.malloc malloc]) ++ [.access]
  | native => guarded present [.access]
  | dispose => guarded present [.free]

def AddressOp.disposes : AddressOp → Bool
  | dispose => true
  | _ => false

/-- One access, as the guards take it. -/
theorem accesses_one : ∀ u ∈ [Use.access], u = .access := fun _ hu => List.mem_singleton.mp hu

/-- **Every operation on an `Address`** errs if `m_address` dangles, and leaves it dangling only
if it is a disposal. -/
theorem AddressOp.uses_spec (op : AddressOp) (st : Status) :
    (st.Clean (op.uses (st != .null)) ↔ st ≠ .dangling) ∧
      (op.disposes = false → st ≠ .dangling → st.afterAll (op.uses (st != .null)) ≠ .dangling) := by
  have haccess := guarded_accesses_spec accesses_one st
  have hone : ([Use.access] ≠ [] → st ≠ .dangling) ↔ st ≠ .dangling :=
    ⟨fun h => h (List.cons_ne_nil _ _), fun h _ => h⟩
  cases op with
  | property => exact ⟨haccess.1.trans hone, fun _ hst => haccess.2.symm ▸ hst⟩
  | reset malloc =>
    cases st <;> cases malloc <;>
      simp [uses, Status.Avoids, Status.Errs, Status.after, Status.afterAll]
  | native => exact ⟨haccess.1.trans hone, fun _ hst => haccess.2.symm ▸ hst⟩
  | dispose =>
    refine ⟨(guarded_free_spec st).1, fun hdisp => ?_⟩
    cases hdisp

/-- **`Address`**, whose constructor allocates the structure. -/
def addressOwner (malloc : Bool) : Owner where
  Ptr := Unit
  State := Unit
  Op := AddressOp
  construct := [((), .malloc malloc)]
  initial := ()
  next s _ := s
  program _ present op := onPtr () (op.uses (present ()))
  disposes := AddressOp.disposes
  reaches _ _ _ := true
  construct_allocates x hx := ⟨malloc, by simp_all⟩
  clean_iff _ op st i := by
    rw [usesOf_onPtr_self, (op.uses_spec (st i)).1]
    exact ⟨fun h _ => h, fun h => h rfl⟩
  leaves _ op st i hop hst := by
    rw [usesOf_onPtr_self]
    exact iff_of_false ((op.uses_spec (st i)).2 hop (hst rfl)) (hst rfl)
  spends _ op st i hop := by
    rw [usesOf_onPtr_self]
    cases op with
    | dispose => exact ⟨rfl, (guarded_free_spec (st i)).2⟩
    | _ => cases hop

/-! ### `DivertAsyncResult` -/

instance (d : ℕ) (packetBuffer : ManagedArray) (address : Option Address) (w : World) :
    Decidable (Requests d packetBuffer address w) := inferInstanceAs (Decidable (_ ∧ _ ∧ _))

/-- What can happen to a `DivertAsyncResult`. -/
inductive ResultOp where
  | call (a : ResultCall)
  /-- The world changes in any way that leaves the object as it is. -/
  | elsewhere (v : World)
  | dispose

/-- How often a call gets to the block: a start clears it, stores the event in it, and hands it
to the driver; a `Get` asks the driver for the result. -/
def ResultCall.accesses (r : ℕ) (w : World) : ResultCall → List Use
  | .start method c reply =>
    match method.arguments c reply with
    | .error _ => []
    | .ok (packetBuffer, address) =>
      .access :: match reply.createEvent with
        | .error _ => []
        | .ok _ => .access :: if Requests c.diversion packetBuffer address w then [.access] else []
  | .get reply => if Fetches r reply w then [.access] else []

/-- Whether a call gets to the block. -/
def ResultCall.reaches (r : ℕ) (w : World) : ResultCall → Bool
  | .start method c reply => (method.arguments c reply).isOk
  | .get reply => decide (Fetches r reply w)

theorem ResultCall.eq_access {r : ℕ} {w : World} {a : ResultCall} :
    ∀ u ∈ a.accesses r w, u = .access := by
  intro u hu
  cases a with
  | start method c reply =>
    simp only [accesses] at hu
    split at hu
    · cases hu
    · rcases List.mem_cons.mp hu with rfl | hu
      · rfl
      · split at hu
        · cases hu
        · rcases List.mem_cons.mp hu with rfl | hu
          · rfl
          · split at hu
            · exact List.mem_singleton.mp hu
            · cases hu
  | get reply =>
    simp only [accesses] at hu
    split at hu
    · exact List.mem_singleton.mp hu
    · cases hu

/-- The native calls that are handed the block at an address. -/
def NativeCall.takesBlock (b : ℕ) : NativeCall → Bool
  | .transfer c => c.lpOverlapped == some b
  | .getOverlappedResult _ lpOverlapped => lpOverlapped == some b
  | .winDivertClose .. | .closeHandle .. | .waitForSingleObject _ => false

/-- **A block is touched** `n` times on the way from one world to another: the writes to it, and
the native calls that are handed it. -/
def Touches (b : ℕ) (w w' : World) (n : ℕ) : Prop :=
  ∃ k calls, (w'.native.blocks b).map Overlapped.writes =
      (w.native.blocks b).map (fun o => o.writes + k) ∧
    w'.native.log = w.native.log ++ calls ∧ n = k + calls.countP (NativeCall.takesBlock b)

section Touches

variable {r b n n' : ℕ} {w w₁ w₂ : World}

theorem Touches.trans (h : Touches b w w₁ n) (h' : Touches b w₁ w₂ n') :
    Touches b w w₂ (n + n') := by
  obtain ⟨k, calls, hblock, hlog, rfl⟩ := h
  obtain ⟨k', calls', hblock', hlog', rfl⟩ := h'
  refine ⟨k + k', calls ++ calls', ?_, ?_, ?_⟩
  · have hadd : (w₁.native.blocks b).map (fun o => o.writes + k') =
        ((w₁.native.blocks b).map Overlapped.writes).map (· + k') := by
      rw [Option.map_map]
      rfl
    rw [hblock', hadd, hblock, Option.map_map]
    exact congrFun (congrArg Option.map (funext fun o => Nat.add_assoc _ _ _)) _
  · rw [hlog', hlog, List.append_assoc]
  · rw [List.countP_append]
    omega

/-- A native call, the blocks being what they were. -/
theorem touches_of_log {calls : List NativeCall} (hblocks : w₁.native.blocks = w.native.blocks)
    (hlog : w₁.native.log = w.native.log ++ calls) :
    Touches b w w₁ (calls.countP (NativeCall.takesBlock b)) :=
  ⟨0, calls, by rw [hblocks]; rfl, hlog, (Nat.zero_add _).symm⟩

/-- Nothing that concerns blocks. -/
theorem touches_none (hblocks : w₁.native.blocks = w.native.blocks)
    (hlog : w₁.native.log = w.native.log) : Touches b w w₁ 0 := by
  have htouches := touches_of_log (b := b) hblocks (hlog.trans (List.append_nil _).symm)
  exact htouches

/-- A close is handed no block. -/
theorem touches_close (b h : ℕ) (closed : Bool) (w : World) :
    Touches b w (DivertHandle.close h closed w).1 0 := by
  obtain ⟨_, _, _, _, hclose⟩ := DivertHandle.close_eq h closed w
  have hblocks : (DivertHandle.close h closed w).1.native.blocks = w.native.blocks := by
    rw [hclose]
  by_cases hvalid : (w.handles h).valid = true
  · obtain ⟨native, hlog, heq⟩ := DivertHandle.close_of_valid hvalid closed
    have hcount : [(w.handles h).closing closed].countP (NativeCall.takesBlock b) = 0 := by
      rw [DivertHandle.closing]
      split <;> rfl
    exact hcount ▸ touches_of_log hblocks (by rw [heq, hlog])
  · rw [DivertHandle.close_of_not_valid hvalid]
    exact touches_none rfl rfl

theorem native_freeBuffer (r : ℕ) (w : World) :
    (DivertAsyncResult.freeBuffer r w).native.blocks = w.native.blocks ∧
      (DivertAsyncResult.freeBuffer r w).native.log = w.native.log := by
  rw [DivertAsyncResult.freeBuffer]
  split <;> exact ⟨rfl, rfl⟩

/-- A start that gets past the argument checks. -/
theorem touches_startWithResult (hb : (w.results r).m_overlapped = some b) (api : DriverApi)
    (resetFailed pinFailed : String) (d : ℕ) (packetBuffer : ManagedArray)
    (address : Option Address) (reply : TransferReply) :
    Touches b w (startWithResult api resetFailed pinFailed d packetBuffer address r reply w).1
      (match reply.createEvent with
        | .error _ => 1
        | .ok _ => 2 + if Requests d packetBuffer address w then 1 else 0) := by
  obtain ⟨⟨h, hblock⟩, -⟩ :=
    startWithResult_writes api resetFailed pinFailed d packetBuffer address reply hb
  have hwrites := congrArg (Option.map Overlapped.writes) hblock
  rw [Option.map_map] at hwrites
  have hquiet : ¬Reaches d packetBuffer address r reply w →
      (startWithResult api resetFailed pinFailed d packetBuffer address r reply w).1.native.log =
        w.native.log ++ [] := by
    intro hreach
    obtain ⟨w', ex, hstart, hlog⟩ :=
      startWithResult_of_not_reaches api resetFailed pinFailed hreach
    rw [hstart, hlog, List.append_nil]
  cases he : reply.createEvent with
  | error lastError =>
    have hreach : ¬Reaches d packetBuffer address r reply w := by
      rintro ⟨-, ⟨e, he'⟩, -⟩
      cases he.symm.trans he'
    rw [he] at hwrites
    exact ⟨1, [], hwrites, hquiet hreach, rfl⟩
  | ok e =>
    rw [he] at hwrites
    by_cases hreq : Requests d packetBuffer address w
    · have hreach : Reaches d packetBuffer address r reply w :=
        ⟨hb ▸ Option.some_ne_none b, ⟨e, he⟩, hreq⟩
      obtain ⟨addr, handle, -, hlog, -, -⟩ := startWithResult_asks api resetFailed pinFailed hreach
      refine ⟨2, _, hwrites, hlog, ?_⟩
      simp [hreq, hb, NativeCall.takesBlock]
    · refine ⟨2, [], hwrites, hquiet fun hreach => hreq hreach.2.2, ?_⟩
      simp [hreq]

/-- A `Get`. -/
theorem touches_get (hb : (w.results r).m_overlapped = some b) (reply : GetReply) :
    Touches b w (DivertAsyncResult.get r reply w).1 (if Fetches r reply w then 1 else 0) := by
  cases hwait : DivertAsyncResult.waitable r w with
  | none =>
    have hfetch : ¬Fetches r reply w := fun hfetch => by
      have hsome := hfetch.1
      rw [hwait] at hsome
      cases hsome
    rw [DivertAsyncResult.get_of_not_waitable hwait, if_neg hfetch]
    exact touches_none rfl rfl
  | some x =>
    obtain ⟨h, event, driver⟩ := x
    by_cases hobject : reply.wait = .object0
    · have hfetch : Fetches r reply w := ⟨by rw [hwait]; rfl, hobject⟩
      rw [DivertAsyncResult.get_of_signalled hwait hobject, if_pos hfetch]
      -- the result is fetched with the block, then the event is closed and the pin released
      obtain ⟨hlog, -⟩ := fetched_spec r event driver reply.overlappedResult w
      have hblocks : (DivertAsyncResult.fetched r event driver reply.overlappedResult
          w).native.blocks = w.native.blocks := by
        cases event <;> cases reply.overlappedResult <;> rfl
      have hcount : [NativeCall.waitForSingleObject event,
          .getOverlappedResult driver (w.results r).m_overlapped].countP
            (NativeCall.takesBlock b) = 1 := by
        simp [hb, NativeCall.takesBlock]
      have hfree := native_freeBuffer r (DivertHandle.close h reply.closed
        (DivertAsyncResult.fetched r event driver reply.overlappedResult w)).1
      exact ((hcount ▸ touches_of_log hblocks hlog).trans (touches_close b h reply.closed _)).trans
        (touches_none hfree.1 hfree.2)
    · have hfetch : ¬Fetches r reply w := fun hfetch => hobject hfetch.2
      obtain ⟨f, -, hget⟩ := DivertAsyncResult.get_of_not_signalled hwait hobject
      rw [hget, if_neg hfetch]
      show Touches b w _ ([NativeCall.waitForSingleObject event].countP (NativeCall.takesBlock b))
      exact touches_of_log rfl rfl

/-- **The accesses of a call** are how often it touches the block. -/
theorem ResultCall.touches (hb : (w.results r).m_overlapped = some b) (a : ResultCall) :
    Touches b w (a.run r w) (a.accesses r w).length := by
  cases a with
  | start method c reply =>
    obtain ⟨api, resetFailed, pinFailed, hrun⟩ := method.run_world c r reply w
    simp only [run, hrun, accesses]
    cases method.arguments c reply with
    | error e => exact touches_none rfl rfl
    | ok x =>
      obtain ⟨packetBuffer, address⟩ := x
      have htouches := touches_startWithResult hb api resetFailed pinFailed c.diversion packetBuffer
        address reply
      simp only
      cases he : reply.createEvent with
      | error lastError =>
        rw [he] at htouches
        exact htouches
      | ok e =>
        rw [he] at htouches
        by_cases hreq : Requests c.diversion packetBuffer address w <;>
          simpa [hreq] using htouches
  | get reply =>
    have htouches := touches_get hb reply
    simp only [run, accesses]
    split <;> rename_i hfetch
    · rwa [if_pos hfetch] at htouches
    · rwa [if_neg hfetch] at htouches

end Touches

/-- **Disposing of the object** frees its block and no other, and keeps the pointer. -/
theorem finalizer_frees (r : ℕ) (w : World) :
    (∀ b, (DivertAsyncResult.finalizer r w).native.blocks b =
      if (w.results r).m_overlapped = some b then none else w.native.blocks b) ∧
      ((DivertAsyncResult.finalizer r w).results r).m_overlapped = (w.results r).m_overlapped := by
  have hptr := DivertAsyncResult.freeBuffer_overlapped r w
  have hblocks := (native_freeBuffer r w).1
  rw [DivertAsyncResult.finalizer]
  simp only [hptr]
  cases hb : (w.results r).m_overlapped with
  | none => exact ⟨fun b => congrFun hblocks b, hptr.trans hb⟩
  | some b =>
    refine ⟨fun b' => ?_, hptr.trans hb⟩
    simp only [World.onNative, Native.free, hblocks, Option.some.injEq]
    rcases eq_or_ne b b' with rfl | hne
    · rw [Function.update_self, if_pos rfl]
    · rw [Function.update_of_ne (Ne.symm hne), if_neg hne]

theorem ResultCall.accesses_ne_nil_iff (r : ℕ) (w : World) (a : ResultCall) :
    a.accesses r w ≠ [] ↔ a.reaches r w = true := by
  cases a with
  | start method c reply =>
    simp only [accesses, reaches]
    cases method.arguments c reply with
    | error e => exact iff_of_false (fun h => h rfl) Bool.false_ne_true
    | ok x => exact iff_of_true (List.cons_ne_nil _ _) rfl
  | get reply =>
    simp only [accesses, reaches, decide_eq_true_eq]
    by_cases hfetch : Fetches r reply w <;> simp [hfetch]

/-- **`DivertAsyncResult`**, constructed in a world. -/
def asyncResultOwner (malloc : Option ℕ) (w : World) : Owner where
  Ptr := Unit
  State := World
  Op := ResultOp
  construct := [((), .malloc malloc.isSome)]
  initial := DivertAsyncResult.construct malloc w
  next u
    | .call a => a.run w.nextResult u
    | .elsewhere v =>
      { v with results := Function.update v.results w.nextResult (u.results w.nextResult) }
    | .dispose => DivertAsyncResult.finalizer w.nextResult u
  program u present
    | .call a => onPtr () (guarded (present ()) (a.accesses w.nextResult u))
    | .elsewhere _ => []
    | .dispose => onPtr () (guarded (present ()) [.free])
  disposes
    | .dispose => true
    | _ => false
  reaches u op _ :=
    match op with
    | .call a => a.reaches w.nextResult u
    | .elsewhere _ => false
    | .dispose => true
  construct_allocates x hx := ⟨malloc.isSome, by simp_all⟩
  clean_iff u op st i := by
    cases op with
    | call a =>
      rw [usesOf_onPtr_self, (guarded_accesses_spec ResultCall.eq_access (st i)).1,
        ResultCall.accesses_ne_nil_iff]
    | elsewhere v => exact iff_of_true trivial nofun
    | dispose =>
      rw [usesOf_onPtr_self, (guarded_free_spec (st i)).1]
      exact ⟨fun h _ => h, fun h => h rfl⟩
  leaves u op st i hop _ := by
    cases op with
    | call a => rw [usesOf_onPtr_self, (guarded_accesses_spec ResultCall.eq_access (st i)).2]
    | elsewhere v => rfl
    | dispose => cases hop
  spends u op st i hop := by
    cases op with
    | call a => cases hop
    | elsewhere v => cases hop
    | dispose =>
      rw [usesOf_onPtr_self]
      exact ⟨rfl, (guarded_free_spec (st i)).2⟩

/-! ### `IPv6Header` -/

/-- The two arrays an `IPv6Header` owns. -/
inductive AddressCache where
  | m_lastSrcAddr | m_lastDstAddr
  deriving DecidableEq, Repr

/-- What can be done with an `IPv6Header`: what concerns its addresses, and everything else
that reads or writes the packet alone. -/
inductive IPv6Op where
  | action (a : AddressAction)
  | property
  | dispose

/-- The array an action concerns, where it gets to it: a getter looks into it only while a
header is attached, a setter writes to it in any case. -/
def cacheOf (attached : Bool) : AddressAction → Option AddressCache
  | .attach _ => none
  | .poke _ => none
  | .getSource => if attached then some .m_lastSrcAddr else none
  | .setSource _ => some .m_lastSrcAddr
  | .getDestination => if attached then some .m_lastDstAddr else none
  | .setDestination _ => some .m_lastDstAddr

/-- **An array an action does not get to** stays as it is. -/
theorem caches_next (s : IPv6HeaderState) (a : AddressAction) :
    (cacheOf s.header.m_ipv6Header.isSome a ≠ some .m_lastSrcAddr →
        (s.next a).header.source = s.header.source) ∧
      (cacheOf s.header.m_ipv6Header.isSome a ≠ some .m_lastDstAddr →
        (s.next a).header.destination = s.header.destination) := by
  cases a with
  | attach value => exact ⟨fun _ => rfl, fun _ => rfl⟩
  | poke m => exact ⟨fun _ => rfl, fun _ => rfl⟩
  | getSource =>
    simp only [IPv6HeaderState.next, IPv6Header.getSourceAddress, cacheOf]
    cases hp : s.header.m_ipv6Header with
    | none => exact ⟨fun _ => rfl, fun _ => rfl⟩
    | some p => exact ⟨fun h => absurd rfl h, fun _ => rfl⟩
  | setSource value =>
    simp only [IPv6HeaderState.next, IPv6Header.setSourceAddress_eq_ok, cacheOf]
    exact ⟨fun h => absurd rfl h, fun _ => rfl⟩
  | getDestination =>
    simp only [IPv6HeaderState.next, IPv6Header.getDestinationAddress, cacheOf]
    cases hp : s.header.m_ipv6Header with
    | none => exact ⟨fun _ => rfl, fun _ => rfl⟩
    | some p => exact ⟨fun _ => rfl, fun h => absurd rfl h⟩
  | setDestination value =>
    simp only [IPv6HeaderState.next, IPv6Header.setDestinationAddress_eq_ok, cacheOf]
    exact ⟨fun _ => rfl, fun h => absurd rfl h⟩

/-- A program of one access, or of none. -/
def accessOf {ι : Type} : Option ι → List (ι × Use)
  | none => []
  | some i => onPtr i [.access]

theorem usesOf_accessOf {ι : Type} [DecidableEq ι] (o : Option ι) (i : ι) :
    usesOf i (accessOf o) = if o = some i then [.access] else [] := by
  cases o with
  | none => rfl
  | some j =>
    rcases eq_or_ne j i with rfl | hne
    · rw [accessOf, usesOf_onPtr_self, if_pos rfl]
    · rw [accessOf, usesOf_onPtr_of_ne hne, if_neg (by simpa using hne)]

/-- **Accesses** change nothing, and err where the pointer dangles. -/
theorem access_spec (b : Prop) [Decidable b] (st : Status) :
    (st.Clean (if b then [.access] else []) ↔ (b → st ≠ .dangling)) ∧
      st.afterAll (if b then [.access] else []) = st := by
  by_cases hb : b <;> cases st <;>
    simp [hb, Status.Avoids, Status.Errs, Status.after, Status.afterAll]

/-- `IPv6Header::!IPv6Header` frees the arrays in this order. -/
def AddressCache.all : List AddressCache := [.m_lastDstAddr, .m_lastSrcAddr]

theorem usesOf_freeCaches (present : AddressCache → Bool) (i : AddressCache) :
    usesOf i (freeAll AddressCache.all present) = guarded (present i) [.free] :=
  usesOf_freeAll (by decide) present (by cases i <;> decide)

/-- **`IPv6Header`**, whose constructor allocates both arrays, with whatever they hold. -/
def ipv6HeaderOwner (m : Mem) (lastSrcAddr lastDstAddr : AddressWords) : Owner where
  Ptr := AddressCache
  State := IPv6HeaderState
  Op := IPv6Op
  construct := [(.m_lastDstAddr, .malloc true), (.m_lastSrcAddr, .malloc true)]
  initial := ⟨m, .new lastSrcAddr lastDstAddr⟩
  next s
    | .action a => s.next a
    | .property => s
    | .dispose => { s with header := s.header.setUnmanagedHeader none }
  program s present
    | .action a => accessOf (cacheOf s.header.m_ipv6Header.isSome a)
    | .property => []
    | .dispose => freeAll AddressCache.all present
  disposes
    | .dispose => true
    | _ => false
  reaches s op i :=
    match op with
    | .action a => cacheOf s.header.m_ipv6Header.isSome a == some i
    | .property => false
    | .dispose => true
  construct_allocates x hx := ⟨true, by rcases List.mem_pair.mp hx with rfl | rfl <;> rfl⟩
  clean_iff s op st i := by
    cases op with
    | action a =>
      simp only [usesOf_accessOf, beq_iff_eq]
      exact (access_spec _ (st i)).1
    | property => exact iff_of_true trivial nofun
    | dispose =>
      rw [usesOf_freeCaches]
      exact (guarded_free_spec (st i)).1.trans ⟨fun h _ => h, fun h => h rfl⟩
  leaves s op st i hop _ := by
    cases op with
    | action a => rw [usesOf_accessOf, (access_spec _ (st i)).2]
    | property => rfl
    | dispose => cases hop
  spends s op st i hop := by
    cases op with
    | action a => cases hop
    | property => cases hop
    | dispose =>
      rw [usesOf_freeCaches]
      exact ⟨rfl, (guarded_free_spec (st i)).2⟩

/-! ### `TCPHeader` and `UDPHeader` -/

/-- What can be done with a header object that keeps tables: `GetPacketProcess` for a family,
and everything else, which does not concern the tables. -/
inductive TableOp (overload : Family → Overload) where
  | getPacketProcess (f : Family) (q : TableQuery (overload f).Row)
  | property
  | dispose

/-- The finalizers free the table for IPv4 first. -/
def Family.all : List Family := [.ipv4, .ipv6]

theorem usesOf_freeTables (present : Family → Bool) (i : Family) :
    usesOf i (freeAll Family.all present) = guarded (present i) [.free] :=
  usesOf_freeAll (by decide) present (by cases i <;> decide)

/-- A header object with a table for each family, none of them fetched yet. -/
def tableOwner (overload : Family → Overload) : Owner where
  Ptr := Family
  State := Unit
  Op := TableOp overload
  construct := []
  initial := ()
  next s _ := s
  program _ present
    | .getPacketProcess f q => onPtr f (tableUses (overload f).api q (present f))
    | .property => []
    | .dispose => freeAll Family.all present
  disposes
    | .dispose => true
    | _ => false
  reaches _ op i :=
    match op with
    | .getPacketProcess f _ => f == i
    | .property => false
    | .dispose => true
  construct_allocates _ hx := absurd hx List.not_mem_nil
  clean_iff _ op st i := by
    cases op with
    | getPacketProcess f q =>
      rcases eq_or_ne f i with rfl | hne
      · simp only [usesOf_onPtr_self, beq_self_eq_true, forall_const]
        exact clean_tableUses_iff _ q (st f)
      · simp only [usesOf_onPtr_of_ne hne, beq_false_of_ne hne]
        exact iff_of_true trivial nofun
    | property => exact iff_of_true trivial nofun
    | dispose =>
      rw [usesOf_freeTables]
      exact (guarded_free_spec (st i)).1.trans ⟨fun h _ => h, fun h => h rfl⟩
  leaves _ op st i hop hst := by
    cases op with
    | getPacketProcess f q =>
      rcases eq_or_ne f i with rfl | hne
      · have hst' : st f ≠ .dangling := hst (beq_self_eq_true f)
        simp only [usesOf_onPtr_self]
        exact iff_of_false (tableUses_spec _ q hst').2.2 hst'
      · simp only [usesOf_onPtr_of_ne hne]
        rfl
    | property => rfl
    | dispose => cases hop
  spends _ op st i hop := by
    cases op with
    | getPacketProcess f q => cases hop
    | property => cases hop
    | dispose =>
      rw [usesOf_freeTables]
      exact ⟨rfl, (guarded_free_spec (st i)).2⟩

/-- The overload of `GetPacketProcess` for a `TCPHeader`. -/
def Family.tcpOverload : Family → Overload
  | .ipv4 => .tcp4
  | .ipv6 => .tcp6

/-- **`TCPHeader`**. -/
def tcpHeaderOwner : Owner := tableOwner Family.tcpOverload

/-- **`UDPHeader`**. -/
def udpHeaderOwner : Owner := tableOwner Family.udpOverload

/-! ### The five classes -/

/-- An object of one of the classes, by what its constructor is given. -/
inductive OwningObject where
  | address (malloc : Bool)
  | asyncResult (malloc : Option ℕ) (w : World)
  | ipv6Header (m : Mem) (lastSrcAddr lastDstAddr : AddressWords)
  | tcpHeader
  | udpHeader

/-- Its class. -/
def OwningObject.owner : OwningObject → Owner
  | address malloc => addressOwner malloc
  | asyncResult malloc w => asyncResultOwner malloc w
  | ipv6Header m lastSrcAddr lastDstAddr => ipv6HeaderOwner m lastSrcAddr lastDstAddr
  | tcpHeader => tcpHeaderOwner
  | udpHeader => udpHeaderOwner

/-- **When disposing of an object does no harm**: for each of the five classes and every
sequence of operations, disposals included, no block is freed twice or used after it was
freed exactly if no operation, another disposal included, reaches a pointer that an earlier
disposal found not null. -/
theorem faultless_iff (x : OwningObject) (l : List x.owner.Op) :
    EveryState (always Object.next) Object.Faultless (Object.new x.owner) l ↔
      EveryStep (always Object.next) (fun y op _ => y.SparesSpent op) (Object.new x.owner) l :=
  everyState_faultless_iff x.owner l

/-- **An `Address` disposed of twice** frees its structure twice. -/
theorem not_faultless :
    ¬EveryState (always Object.next) Object.Faultless (Object.new (addressOwner true))
      [AddressOp.dispose, AddressOp.dispose] := by
  intro h
  have hfaultless : (((Object.new (addressOwner true)).next .dispose).next .dispose).store.faults =
    [] := h [AddressOp.dispose, AddressOp.dispose] [] _ rfl rfl
  exact absurd hfaultless (by decide)

end DivertNet
