import Mathlib.Data.Set.Insert
import DivertNet.ClosedHandle
import DivertNet.FilterCopies

/-!
# Which Diversions are open

A `Diversion` is open while the wrapper it refers to has a handle. The wrapper is its own, and
no result object waits with it (`DivertNet.World.Separate`), so that the transfers, and `Get`,
which closes an event, leave every `Diversion` as open as it was: `DivertNet.KeepsDiversions`.
What changes the set of the open ones is `Diversion::Open`, which adds the new one
(`DivertNet.openDiversions_wrapped`), and `Diversion::Close`, which takes the one out that it is
called on (`DivertNet.openDiversions_close`).
-/

namespace DivertNet

open Function

/-- **A `Diversion` is open**: its handle is `Valid`. -/
def World.IsOpen (w : World) (d : ℕ) : Prop :=
  ∃ h, (w.diversions d).m_winDivertHandle = some h ∧ (w.handles h).valid = true

/-- **The open Diversions.** -/
def World.openDiversions (w : World) : Set ℕ := {d | d < w.nextDiversion ∧ w.IsOpen d}

/-- **The wrappers are separate**: each `Diversion` has one of its own, which was opened by the
driver, and the events of the result objects are in others. -/
structure World.Separate (w : World) : Prop where
  wrapped : ∀ d < w.nextDiversion, ∃ h < w.nextHandle,
    (w.diversions d).m_winDivertHandle = some h ∧ (w.handles h).m_fromWinDivert = true
  own : ∀ d < w.nextDiversion, ∀ d' < w.nextDiversion,
    (w.diversions d).m_winDivertHandle = (w.diversions d').m_winDivertHandle → d = d'
  events : ∀ r h, (w.results r).m_overlappedEventHandle = some h →
    h < w.nextHandle ∧ (w.handles h).m_fromWinDivert = false

theorem separate_empty : World.empty.Separate where
  wrapped d hd := absurd hd (Nat.not_lt_zero d)
  own d hd := absurd hd (Nat.not_lt_zero d)
  events _ _ hr := nomatch hr

@[simp] theorem openDiversions_empty : World.empty.openDiversions = ∅ :=
  Set.eq_empty_iff_forall_notMem.mpr fun d hd => Nat.not_lt_zero d hd.1

/-- **Going from one world to another without touching a wrapper of a `Diversion`.** Handles may
be put into new wrappers, and other wrappers may be emptied. -/
structure KeepsDiversions (w w' : World) : Prop where
  diversions : w'.diversions = w.diversions
  nextDiversion : w'.nextDiversion = w.nextDiversion
  nextHandle : w.nextHandle ≤ w'.nextHandle
  kinds : ∀ h < w.nextHandle, (w'.handles h).m_fromWinDivert = (w.handles h).m_fromWinDivert
  wrappers : ∀ h < w.nextHandle, (w.handles h).m_fromWinDivert = true →
    w'.handles h = w.handles h
  events : ∀ r h, (w'.results r).m_overlappedEventHandle = some h →
    (w.results r).m_overlappedEventHandle = some h ∨
      h < w'.nextHandle ∧ (w'.handles h).m_fromWinDivert = false

section KeepsDiversions

variable {w w₁ w₂ : World}

theorem KeepsDiversions.trans (h₁ : KeepsDiversions w w₁) (h₂ : KeepsDiversions w₁ w₂) :
    KeepsDiversions w w₂ where
  diversions := h₂.diversions.trans h₁.diversions
  nextDiversion := h₂.nextDiversion.trans h₁.nextDiversion
  nextHandle := h₁.nextHandle.trans h₂.nextHandle
  kinds h hh := (h₂.kinds h (hh.trans_le h₁.nextHandle)).trans (h₁.kinds h hh)
  wrappers h hh hkind := by
    rw [h₂.wrappers h (hh.trans_le h₁.nextHandle) ((h₁.kinds h hh).trans hkind),
      h₁.wrappers h hh hkind]
  events r h hr := by
    rcases h₂.events r h hr with hold | hnew
    · rcases h₁.events r h hold with hold | ⟨hlt, hkind⟩
      · exact Or.inl hold
      · exact Or.inr ⟨hlt.trans_le h₂.nextHandle, (h₂.kinds h hlt).trans hkind⟩
    · exact Or.inr hnew

/-- The wrappers are untouched, and so are the events of the result objects. -/
theorem keepsDiversions_of_same (hdiv : w₁.diversions = w.diversions)
    (hnextDiv : w₁.nextDiversion = w.nextDiversion) (hnext : w₁.nextHandle = w.nextHandle)
    (hhandles : w₁.handles = w.handles)
    (hevents : ∀ r h, (w₁.results r).m_overlappedEventHandle = some h →
      (w.results r).m_overlappedEventHandle = some h) : KeepsDiversions w w₁ where
  diversions := hdiv
  nextDiversion := hnextDiv
  nextHandle := hnext.ge
  kinds h _ := by rw [hhandles]
  wrappers h _ _ := by rw [hhandles]
  events r h hr := Or.inl (hevents r h hr)

theorem KeepsDiversions.refl (w : World) : KeepsDiversions w w :=
  keepsDiversions_of_same rfl rfl rfl rfl fun _ _ h => h

/-- **Every `Diversion` is as open as before.** -/
theorem KeepsDiversions.isOpen_iff (h : KeepsDiversions w w₁) (hw : w.Separate) {d : ℕ}
    (hd : d < w.nextDiversion) : w₁.IsOpen d ↔ w.IsOpen d := by
  obtain ⟨i, hi, hdi, hkind⟩ := hw.wrapped d hd
  rw [World.IsOpen, World.IsOpen, h.diversions]
  simp only [hdi, Option.some.injEq, exists_eq_left']
  rw [h.wrappers i hi hkind]

theorem KeepsDiversions.separate (h : KeepsDiversions w w₁) (hw : w.Separate) :
    w₁.Separate where
  wrapped d hd := by
    rw [h.nextDiversion] at hd
    obtain ⟨i, hi, hdi, hkind⟩ := hw.wrapped d hd
    exact ⟨i, hi.trans_le h.nextHandle, by rw [h.diversions]; exact hdi,
      (h.kinds i hi).trans hkind⟩
  own d hd d' hd' hsame := by
    rw [h.nextDiversion] at hd hd'
    rw [h.diversions] at hsame
    exact hw.own d hd d' hd' hsame
  events r i hi := by
    rcases h.events r i hi with hold | hnew
    · obtain ⟨hlt, hkind⟩ := hw.events r i hold
      exact ⟨hlt.trans_le h.nextHandle, (h.kinds i hlt).trans hkind⟩
    · exact hnew

/-- **So the open ones are the same.** -/
theorem KeepsDiversions.openDiversions (h : KeepsDiversions w w₁) (hw : w.Separate) :
    w₁.openDiversions = w.openDiversions := by
  ext d
  simp only [World.openDiversions, Set.mem_ofPred_eq, h.nextDiversion]
  exact and_congr_right fun hd => h.isOpen_iff hw hd

/-! ### What touches no wrapper of a `Diversion` -/

/-- A request of a method without a result object. -/
theorem keepsDiversions_onNative (f : Native → Native) (w : World) :
    KeepsDiversions w (w.onNative f) :=
  keepsDiversions_of_same rfl rfl rfl rfl fun _ _ h => h

/-- A change of a result object that keeps its event. -/
theorem keepsDiversions_modify {f : DivertAsyncResult → DivertAsyncResult} (r : ℕ) (w : World)
    (hf : ∀ o, (f o).m_overlappedEventHandle = o.m_overlappedEventHandle := by intro o; rfl) :
    KeepsDiversions w (w.modify r f) := by
  refine keepsDiversions_of_same rfl rfl rfl rfl fun r' h hr' => ?_
  rcases eq_or_ne r' r with rfl | hne
  · simpa [World.modify, hf] using hr'
  · simpa [World.modify, hne] using hr'

/-- A new result object. -/
theorem keepsDiversions_construct (malloc : Option ℕ) (w : World) :
    KeepsDiversions w (DivertAsyncResult.construct malloc w) := by
  refine keepsDiversions_of_same rfl rfl rfl rfl fun r h hr => ?_
  rcases eq_or_ne r w.nextResult with rfl | hne
  · simp [DivertAsyncResult.construct, DivertAsyncResult.new] at hr
  · simpa [DivertAsyncResult.construct, hne] using hr

/-- `Reset`, which puts a new event into a new wrapper. -/
theorem keepsDiversions_ready (r a e : ℕ) (w : World) :
    KeepsDiversions w (DivertAsyncResult.ready r a e w) := by
  have hold : ∀ h < w.nextHandle, (DivertAsyncResult.ready r a e w).handles h = w.handles h :=
    fun h hh => update_of_ne hh.ne _ _
  refine ⟨rfl, rfl, Nat.le_succ _, fun h hh => by rw [hold h hh], fun h hh _ => hold h hh, ?_⟩
  intro r' h hr'
  rcases eq_or_ne r' r with rfl | hne
  · obtain rfl : w.nextHandle = h := by simpa [DivertAsyncResult.ready] using hr'
    exact Or.inr ⟨Nat.lt_succ_self _, by simp [DivertAsyncResult.ready]⟩
  · exact Or.inl (by simpa [DivertAsyncResult.ready, hne] using hr')

/-- What becomes of the driver's answer. -/
theorem keepsDiversions_answered (r : ℕ) (reply : DriverReply) (w : World) :
    KeepsDiversions w (answered r reply w) := by
  rw [answered]
  split
  · split
    · exact keepsDiversions_modify r _
    · exact .refl w
  · exact keepsDiversions_modify r _

/-- **A start**, however far it gets. -/
theorem keepsDiversions_start (api : DriverApi) (resetFailed pinFailed : String) (d r : ℕ)
    (packetBuffer : ManagedArray) (address : Option Address) (reply : TransferReply) (w : World) :
    KeepsDiversions w
      (startWithResult api resetFailed pinFailed d packetBuffer address r reply w).1 := by
  have hpinned := keepsDiversions_onNative (.gcAlloc packetBuffer.ref) w
  cases ha : (w.results r).m_overlapped with
  | none =>
    rw [startWithResult_null ha]
    exact hpinned
  | some a =>
    cases he : reply.createEvent with
    | error lastError =>
      rw [startWithResult_failed ha he]
      dsimp only
      refine hpinned.trans ((keepsDiversions_onNative (.write a .null) _).trans ?_)
      exact (keepsDiversions_modify r _).trans
        (keepsDiversions_modify r _)
    | ok e =>
      have hprepared : KeepsDiversions w (prepared d r packetBuffer.ref a e w) :=
        (hpinned.trans (keepsDiversions_ready r a e _)).trans
          (keepsDiversions_modify r _)
      rcases startWithResult_prepared api resetFailed pinFailed d packetBuffer address ha he with
        ⟨-, i, addr, -, hstart⟩ | ⟨-, ex, hstart⟩
      · rw [hstart]
        exact (hprepared.trans (keepsDiversions_onNative _ _)).trans (keepsDiversions_answered ..)
      · rw [hstart]
        exact hprepared

/-- **`ReceiveAsync` and `SendAsync`** with a result object. -/
theorem keepsDiversions_run (method : AsyncMethod) (c : TransferCall) (r : ℕ)
    (reply : TransferReply) (w : World) : KeepsDiversions w (method.run c r reply w).world := by
  obtain ⟨api, resetFailed, pinFailed, hrun⟩ := method.run_world c r reply w
  rw [hrun]
  split
  · exact .refl w
  · exact keepsDiversions_start ..

/-- **`Send`.** -/
theorem keepsDiversions_send (c : TransferCall) (reply : TransferReply) (w : World) :
    KeepsDiversions w (send c reply w).world := by
  rcases send_cases c reply w with ⟨-, e, hsend⟩ | ⟨-, a, addr, handle, -, -, hsend⟩
  · rw [hsend]
    exact .refl w
  · rw [hsend]
    exact keepsDiversions_onNative _ w

/-- Closing a wrapper of the other kind. -/
theorem keepsDiversions_close {h : ℕ} (hkind : (w.handles h).m_fromWinDivert = false)
    (closed : Bool) : KeepsDiversions w (DivertHandle.close h closed w).1 := by
  by_cases hvalid : (w.handles h).valid = true
  · obtain ⟨native, -, hclose⟩ := DivertHandle.close_of_valid hvalid closed
    rw [hclose]
    refine ⟨rfl, rfl, le_rfl, fun h' _ => ?_, fun h' _ hkind' => ?_, fun r i hi => Or.inl hi⟩
    · rcases eq_or_ne h' h with rfl | hne
      · cases closed <;> simp
      · simp [hne]
    · have hne : h' ≠ h := by
        rintro rfl
        rw [hkind] at hkind'
        cases hkind'
      exact update_of_ne hne _ _
  · rw [DivertHandle.close_of_not_valid hvalid]
    exact .refl w

/-- Waiting, and fetching the result. -/
theorem keepsDiversions_fetched (r : ℕ) (event driver : Handle)
    (overlappedResult : Except (BitVec 32) (BitVec 32)) (w : World) :
    KeepsDiversions w (DivertAsyncResult.fetched r event driver overlappedResult w) := by
  simp only [DivertAsyncResult.fetched]
  have hwaited := (keepsDiversions_onNative
    (fun n => { n with log := n.log ++ [.waitForSingleObject event] }) w).trans
      (keepsDiversions_modify (f := fun o => { o with m_noError := true }) r _)
  have hasked := (hwaited.trans (keepsDiversions_onNative (DivertAsyncResult.consume event)
    _)).trans (keepsDiversions_onNative (fun n => { n with
      log := n.log ++ [.getOverlappedResult driver (w.results r).m_overlapped] }) _)
  cases overlappedResult with
  | error lastError => exact hasked.trans (keepsDiversions_modify r _)
  | ok ioLength => exact hasked.trans (keepsDiversions_modify r _)

/-- **`Get`**, which closes an event. -/
theorem keepsDiversions_get (hw : w.Separate) (r : ℕ) (reply : GetReply) :
    KeepsDiversions w (DivertAsyncResult.get r reply w).1 := by
  cases hwait : DivertAsyncResult.waitable r w with
  | none =>
    rw [DivertAsyncResult.get_of_not_waitable hwait]
    dsimp only
    exact keepsDiversions_modify r w
  | some x =>
    obtain ⟨h, event, driver⟩ := x
    by_cases hobject : reply.wait = .object0
    · rw [DivertAsyncResult.get_of_signalled hwait hobject]
      dsimp only
      have hfetched := keepsDiversions_fetched r event driver reply.overlappedResult w
      -- the wrapper that is closed is the one of the event
      have hkind : ((DivertAsyncResult.fetched r event driver reply.overlappedResult
          w).handles h).m_fromWinDivert = false := by
        rw [(fetched_spec r event driver reply.overlappedResult w).2.1]
        exact (hw.events r h (waitable_eq_some hwait).1).2
      refine (hfetched.trans (keepsDiversions_close hkind reply.closed)).trans ?_
      rw [DivertAsyncResult.freeBuffer]
      split
      · exact .refl _
      · exact (keepsDiversions_onNative _ _).trans (keepsDiversions_modify r _)
    · have hwaited := keepsDiversions_onNative
        (fun n => { n with log := n.log ++ [.waitForSingleObject event] }) w
      cases hreply : reply.wait with
      | object0 => exact absurd hreply hobject
      | timeout =>
        simp only [DivertAsyncResult.get, hwait, hreply]
        exact hwaited.trans (keepsDiversions_modify r _)
      | failed =>
        simp only [DivertAsyncResult.get, hwait, hreply]
        exact hwaited.trans (keepsDiversions_modify r _)

end KeepsDiversions

/-! ### Opening and closing -/

/-- The end of `Diversion::Open`: the `Diversion` it returns, whose wrapper has the handle the
driver gave. -/
def Diversion.wrapped (handle : Handle) (w : World) : World × ℕ :=
  match handle with
  | .value v => (opened v w, w.nextDiversion)
  | handle =>
    ({ w.newHandle ⟨handle, true⟩ with
       diversions := update w.diversions w.nextDiversion ⟨some w.nextHandle⟩
       nextDiversion := w.nextDiversion + 1 }, w.nextDiversion)

/-- `DivertLayer::Network`. -/
def networkLayer : BitVec 32 := 0

/-- What the system answers to `Diversion::Open`. -/
structure OpenAnswer where
  marshalled : Bool
  reply : OpenReply

/-- The filter is not blank and can be copied, and the driver gives a handle. -/
def OpenAnswer.Opens (filter : Option String) (answer : OpenAnswer) : Prop :=
  (isNullOrEmpty filter || isNullOrWhiteSpace filter) = false ∧ answer.marshalled = true ∧
    answer.reply.handle ≠ .invalid

section OpenAndClose

variable {w : World}

/-- **`Diversion::Open` returns** for a filter that is not blank and can be copied, if the driver
gives a handle, which it returns. -/
theorem openDiversion_eq_ok {c : OpenCall} {answer : OpenAnswer} {s : FilterState}
    {handle : Handle} :
    (openDiversion c answer.marshalled answer.reply s).1 = .ok handle ↔
      answer.Opens c.filter ∧ answer.reply.handle = handle := by
  rw [openDiversion, OpenAnswer.Opens]
  cases isNullOrEmpty c.filter || isNullOrWhiteSpace c.filter with
  | true =>
    refine iff_of_false (fun h => ?_) fun h => ?_
    · cases h
    · cases h.1.1
  | false =>
    cases answer.marshalled with
    | false =>
      refine iff_of_false (fun h => ?_) fun h => ?_
      · cases h
      · cases h.1.2.1
    | true =>
      by_cases hhandle : answer.reply.handle = .invalid
      · refine iff_of_false (fun h => ?_) fun h => h.1.2.2 hhandle
        simp only [hhandle, if_true] at h
        cases h
      · simp only [hhandle, if_false]
        constructor
        · intro h
          exact ⟨⟨trivial, trivial, hhandle⟩, Except.ok.inj h⟩
        · rintro ⟨-, rfl⟩
          rfl

/-- **What is left by `Diversion::Open`**, whatever the handle. -/
theorem wrapped_spec (handle : Handle) (w : World) :
    (Diversion.wrapped handle w).2 = w.nextDiversion ∧
      (Diversion.wrapped handle w).1.nextDiversion = w.nextDiversion + 1 ∧
      (Diversion.wrapped handle w).1.nextHandle = w.nextHandle + 1 ∧
      (Diversion.wrapped handle w).1.handles =
        update w.handles w.nextHandle ⟨handle, true⟩ ∧
      (Diversion.wrapped handle w).1.diversions =
        update w.diversions w.nextDiversion ⟨some w.nextHandle⟩ ∧
      (Diversion.wrapped handle w).1.results = w.results ∧
      (Diversion.wrapped handle w).1.nextResult = w.nextResult := by
  cases handle <;> exact ⟨rfl, rfl, rfl, rfl, rfl, rfl, rfl⟩

/-- It makes no call. -/
theorem log_wrapped (handle : Handle) (w : World) :
    (Diversion.wrapped handle w).1.native.log = w.native.log := by
  cases handle <;> rfl

theorem separate_wrapped (hw : w.Separate) (handle : Handle) :
    (Diversion.wrapped handle w).1.Separate := by
  obtain ⟨-, hnextDiv, hnext, hhandles, hdiv, hresults, -⟩ := wrapped_spec handle w
  have hold : ∀ d < w.nextDiversion, ((Diversion.wrapped handle w).1.diversions d) =
      w.diversions d := fun d hd => by rw [hdiv, update_of_ne hd.ne]
  have hnew : ((Diversion.wrapped handle w).1.diversions w.nextDiversion).m_winDivertHandle =
      some w.nextHandle := by rw [hdiv, update_self]
  refine ⟨fun d hd => ?_, fun d hd d' hd' hsame => ?_, fun r h hr => ?_⟩
  · rw [hnextDiv] at hd
    rw [hnext, hhandles]
    rcases Nat.lt_succ_iff_lt_or_eq.mp hd with hd | rfl
    · obtain ⟨h, hh, hdh, hkind⟩ := hw.wrapped d hd
      exact ⟨h, hh.trans (Nat.lt_succ_self _), by rw [hold d hd, hdh],
        by rw [update_of_ne hh.ne, hkind]⟩
    · exact ⟨w.nextHandle, Nat.lt_succ_self _, hnew, by rw [update_self]⟩
  · -- the wrapper of the new one is new
    have hne : ∀ d < w.nextDiversion,
        (w.diversions d).m_winDivertHandle ≠ some w.nextHandle := by
      intro d hd heq
      obtain ⟨h, hh, hdh, -⟩ := hw.wrapped d hd
      exact hh.ne (Option.some.inj (hdh.symm.trans heq))
    rw [hnextDiv] at hd hd'
    rcases Nat.lt_succ_iff_lt_or_eq.mp hd with hd | rfl
    · rcases Nat.lt_succ_iff_lt_or_eq.mp hd' with hd' | rfl
      · rw [hold d hd, hold d' hd'] at hsame
        exact hw.own d hd d' hd' hsame
      · rw [hold d hd, hnew] at hsame
        exact absurd hsame (hne d hd)
    · rcases Nat.lt_succ_iff_lt_or_eq.mp hd' with hd' | rfl
      · rw [hold d' hd', hnew] at hsame
        exact absurd hsame.symm (hne d' hd')
      · rfl
  · rw [hresults] at hr
    obtain ⟨hh, hkind⟩ := hw.events r h hr
    rw [hnext, hhandles]
    exact ⟨hh.trans (Nat.lt_succ_self _), by rw [update_of_ne hh.ne, hkind]⟩

/-- **`Diversion::Open` adds one open `Diversion`.** -/
theorem openDiversions_wrapped (hw : w.Separate) {handle : Handle} (hhandle : handle ≠ .invalid) :
    (Diversion.wrapped handle w).1.openDiversions = insert w.nextDiversion w.openDiversions := by
  obtain ⟨-, hnextDiv, -, hhandles, hdiv, -⟩ := wrapped_spec handle w
  ext d
  simp only [World.openDiversions, World.IsOpen, Set.mem_insert_iff, Set.mem_ofPred_eq, hnextDiv,
    hhandles, hdiv]
  rcases eq_or_ne d w.nextDiversion with rfl | hne
  · simp [DivertHandle.valid, hhandle]
  · rw [update_of_ne hne]
    have hlt : d < w.nextDiversion + 1 ↔ d < w.nextDiversion := by omega
    rw [hlt, or_iff_right hne]
    refine and_congr_right fun hd => exists_congr fun h => and_congr_right fun hdh => ?_
    obtain ⟨h', hh', hdh', -⟩ := hw.wrapped d hd
    obtain rfl : h' = h := Option.some.inj (hdh'.symm.trans hdh)
    rw [update_of_ne hh'.ne]

theorem notMem_openDiversions : w.nextDiversion ∉ w.openDiversions := fun h => h.1.false

/-- What a `Diversion::Close` that succeeds changes: the wrapper has no handle any more. -/
theorem closeDiversion_spec (hw : w.Separate) {d : ℕ} (hd : d < w.nextDiversion) :
    ∃ h, (w.diversions d).m_winDivertHandle = some h ∧
      (Diversion.close d true w).1.handles =
        update w.handles h { w.handles h with m_handle := .invalid } ∧
      (Diversion.close d true w).1.diversions = w.diversions ∧
      (Diversion.close d true w).1.nextDiversion = w.nextDiversion ∧
      (Diversion.close d true w).1.nextHandle = w.nextHandle ∧
      (Diversion.close d true w).1.results = w.results := by
  obtain ⟨h, hh, hdh, hkind⟩ := hw.wrapped d hd
  refine ⟨h, hdh, ?_⟩
  simp only [Diversion.close, hdh]
  by_cases hvalid : (w.handles h).valid = true
  · obtain ⟨native, -, hclose⟩ := DivertHandle.close_of_valid hvalid true
    rw [if_pos hvalid, hclose]
    exact ⟨rfl, rfl, rfl, rfl, rfl⟩
  · rw [if_neg hvalid]
    have hinvalid : (w.handles h).m_handle = .invalid := by
      simpa [DivertHandle.valid] using hvalid
    have hsame : { w.handles h with m_handle := .invalid } = w.handles h := by rw [← hinvalid]
    rw [hsame, update_eq_self]
    exact ⟨rfl, rfl, rfl, rfl, rfl⟩

theorem separate_close (hw : w.Separate) {d : ℕ} (hd : d < w.nextDiversion) :
    (Diversion.close d true w).1.Separate := by
  obtain ⟨h, -, hhandles, hdiv, hnextDiv, hnext, hresults⟩ := closeDiversion_spec hw hd
  have hkinds : ∀ i, ((Diversion.close d true w).1.handles i).m_fromWinDivert =
      (w.handles i).m_fromWinDivert := by
    intro i
    rw [hhandles]
    rcases eq_or_ne i h with rfl | hne
    · rw [update_self]
    · rw [update_of_ne hne]
  refine ⟨fun d hd => ?_, fun d hd d' hd' => ?_, fun r i hi => ?_⟩
  · rw [hnextDiv] at hd
    rw [hdiv, hnext]
    simpa only [hkinds] using hw.wrapped d hd
  · rw [hnextDiv] at hd hd'
    rw [hdiv]
    exact hw.own d hd d' hd'
  · rw [hresults] at hi
    rw [hnext, hkinds]
    exact hw.events r i hi

/-- **`Diversion::Close` takes out the `Diversion` it is called on.** -/
theorem openDiversions_close (hw : w.Separate) {d : ℕ} (hd : d < w.nextDiversion) :
    (Diversion.close d true w).1.openDiversions = w.openDiversions \ {d} := by
  obtain ⟨h, hdh, hhandles, hdiv, hnextDiv, -⟩ := closeDiversion_spec hw hd
  ext d'
  simp only [World.openDiversions, World.IsOpen, Set.mem_sdiff, Set.mem_singleton_iff,
    Set.mem_ofPred_eq, hnextDiv, hhandles, hdiv]
  rw [and_assoc]
  refine and_congr_right fun hd' => ?_
  rcases eq_or_ne d' d with rfl | hne
  · simp [hdh, DivertHandle.valid]
  · obtain ⟨h', -, hdh', -⟩ := hw.wrapped d' hd'
    have hne' : h' ≠ h := by
      rintro rfl
      exact hne (hw.own d' hd' d hd (hdh'.trans hdh.symm))
    simp [hdh', hne', hne]

/-- **The wrappers are separate, and these Diversions are open.** -/
def World.HasOpen (w : World) (ds : Set ℕ) : Prop := w.Separate ∧ w.openDiversions = ds

theorem hasOpen_empty : World.empty.HasOpen ∅ := ⟨separate_empty, openDiversions_empty⟩

variable {ds : Set ℕ} {w₁ : World}

theorem KeepsDiversions.hasOpen (h : KeepsDiversions w w₁) (hw : w.HasOpen ds) :
    w₁.HasOpen ds :=
  ⟨h.separate hw.1, (h.openDiversions hw.1).trans hw.2⟩

theorem World.HasOpen.wrapped (hw : w.HasOpen ds) {handle : Handle} (hhandle : handle ≠ .invalid) :
    w.nextDiversion ∉ ds ∧ (Diversion.wrapped handle w).1.HasOpen (insert w.nextDiversion ds) := by
  obtain ⟨hsep, rfl⟩ := hw
  exact ⟨notMem_openDiversions, separate_wrapped hsep handle, openDiversions_wrapped hsep hhandle⟩

theorem World.HasOpen.close (hw : w.HasOpen ds) {d : ℕ} (hd : d ∈ ds) :
    (Diversion.close d true w).1.HasOpen (ds \ {d}) := by
  obtain ⟨hsep, rfl⟩ := hw
  exact ⟨separate_close hsep hd.1, openDiversions_close hsep hd.1⟩

/-- One that is open is valid. -/
theorem World.HasOpen.valid (hw : w.HasOpen ds) {d : ℕ} (hd : d ∈ ds) :
    ∃ h, (w.diversions d).m_winDivertHandle = some h ∧ (w.handles h).valid = true := by
  obtain ⟨-, rfl⟩ := hw
  exact hd.2

end OpenAndClose

end DivertNet
