import DivertNet.ClosedHandle

/-!
# Handles that can still be closed

A handle that has been closed is not used again, `DivertNet.handles_closedOnce` says. The other
half is that a handle gets closed at all, and for that some wrapper has to have it. Every public
call is a list of moves of the wrappers (`DivertNet.holders_call`): calls that use handles and
close them make quiet moves, and the only call that empties a wrapper by another move is a
destructor or a finalizer, which closes the handle and forgets it whether or not the close
succeeded.

So a handle is lost exactly where the close in a destructor or a finalizer fails
(`DivertNet.handlesHeld_iff`). `Diversion::Close` and `DivertHandle::Close`, which keep the
handle in that case, lose none.
-/

namespace DivertNet

open Function Runs Holders

/-! ### Every handle can still be closed -/

/-- **Every handle made and not closed is in a wrapper of its kind**, from which it can be. -/
def HandlesHeld (s : Session) : Prop :=
  ∀ k v, Issued k v s.trace → ¬Released v s.trace →
    ∃ h < s.world.nextHandle, s.world.handles h = ⟨.value v, k⟩

/-- **A call abandons a handle**: it is the destructor or the finalizer of a wrapper that has
one, and the close fails. -/
def Session.Abandons (s : Session) (a : PublicCall) : Prop :=
  ∃ h v, a.disposes s.world = some (h, false) ∧ (s.world.handles h).m_handle = .value v

section Sessions

variable {s t : Session} {a : PublicCall}

theorem value?_eq_some {h : Handle} {v : ℕ} : h.value? = some v ↔ h = .value v := by
  cases h <;> simp [Handle.value?]

/-- The wrappers hold every handle exactly when the holders do. -/
theorem handlesHeld_iff_allHeld (inv : s.Disciplined) : HandlesHeld s ↔ AllHeld s.holders := by
  refine forall₂_congr fun k v => imp_congr_right fun _ => imp_congr_right fun _ => ?_
  constructor
  · rintro ⟨h, -, hh⟩
    refine ⟨h, value?_eq_some.mpr ?_, ?_⟩
    · rw [hh]
    · simp only [Session.holders, holders, hh]
  · rintro ⟨h, hname, hkind⟩
    refine ⟨h, inv.lt h v hname, ?_⟩
    rw [← value?_eq_some.mp hname, ← hkind]
    rfl

/-- A call that disposes of a wrapper makes no handle. -/
theorem holding_of_disposes {x : ℕ × Bool} (ha : a.disposes s.world = some x) :
    s.holding a = s.holders := by
  cases a with
  | disposeHandle h closed => rfl
  | disposeDiversion d closed => rfl
  | _ => cases ha

/-- **One call**: where every handle is held before it, every handle is held after it exactly if
the call abandons none. -/
theorem handlesHeld_step (inv : s.Disciplined) (hheld : HandlesHeld s) (hstep : s.step a = some t) :
    HandlesHeld t ↔ ¬s.Abandons a := by
  have hinv : t.Disciplined := (disciplined_step inv hstep).2
  have hall := (handlesHeld_iff_allHeld inv).mp hheld
  rw [handlesHeld_iff_allHeld hinv]
  rw [Session.step] at hstep
  split at hstep
  · rename_i hfresh
    obtain rfl := Option.some.inj hstep
    obtain ⟨ms, hmakes, hms⟩ := holders_call a s
    rw [Session.holders, hms]
    cases ha : a.disposes s.world with
    | none =>
      have hnot : ¬s.Abandons a := by
        rintro ⟨h, v, hdispose, -⟩
        cases ha.symm.trans hdispose
      refine iff_of_true ?_ hnot
      have hquiet : ∀ m ∈ ms, m.Quiet := by rwa [PublicCall.Makes, ha] at hmakes
      -- the handle made, if there is one, is held
      have hholding : AllHeld (s.holding a) := by
        rw [Session.holding]
        cases a.created s.world with
        | none => exact hall
        | some x => exact hall.hold inv x.1 x.2
      exact hholding.foldl hquiet
    | some x =>
      obtain ⟨h, closed⟩ := x
      obtain rfl : ms = [.release h closed, .forget h] := by rwa [PublicCall.Makes, ha] at hmakes
      rw [holding_of_disposes ha, List.foldl_cons, List.foldl_cons, List.foldl_nil]
      have hrelease : AllHeld ((Move.release h closed).apply s.holders) := hall.quiet trivial
      cases hname : s.holders.name h with
      | none =>
        refine iff_of_true (hrelease.forget_of_none (by simp [Move.apply, hname])) ?_
        rintro ⟨h', v, hdispose, hv⟩
        obtain ⟨rfl, -⟩ : h = h' ∧ closed = false := by simpa [ha] using hdispose
        exact absurd (hname.symm.trans (value?_eq_some.mpr hv)) (by simp)
      | some v =>
        cases closed with
        | true =>
          refine iff_of_true (hrelease.forget_of_none (by simp [Move.apply, hname])) ?_
          rintro ⟨h', v', hdispose, -⟩
          simp [ha] at hdispose
        | false =>
          have hkept : ((Move.release h false).apply s.holders).name h = some v := by
            simp [Move.apply, hname]
          refine iff_of_false (not_allHeld_forget (Holders.Inv.release inv h false) hkept) ?_
          exact not_not_intro ⟨h, v, ha, value?_eq_some.mp hname⟩
  · cases hstep

/-- **When every handle can still be closed**: over every sequence of public calls, whatever the
system answers, in every state each handle that was made and has not been closed is in a wrapper
of its kind exactly when no call of the sequence abandons one. -/
theorem handlesHeld_iff (l : List PublicCall) :
    EveryState Session.step HandlesHeld .empty l ↔
      EveryStep Session.step (fun s a _ => ¬s.Abandons a) .empty l := by
  have hempty : Session.empty.Disciplined ∧ HandlesHeld Session.empty :=
    ⟨.start fun _ => rfl, fun _ _ h => absurd h List.not_mem_nil⟩
  refine everyState_iff_everyStep
    (fun (s : Session) (inv : s.Disciplined ∧ HandlesHeld s) => inv.2) ?_ ?_ hempty l
  · rintro s a t ⟨inv, hheld⟩ hkeep hstep
    exact ⟨(disciplined_step inv hstep).2, (handlesHeld_step inv hheld hstep).mpr hkeep⟩
  · rintro s a t ⟨inv, hheld⟩ hstep ht
    exact (handlesHeld_step inv hheld hstep).mp ht

end Sessions

end DivertNet
