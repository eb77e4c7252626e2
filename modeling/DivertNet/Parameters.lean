import DivertNet.Library.Cells
import DivertNet.ClosedHandle

/-!
# Parameters that read back what was written

The driver keeps a value for each parameter, and either does what a call asks for or rejects
it and changes nothing. Behind `SetParam` and `GetParam` that should make a store: what
`GetParam` hands the caller is the value of the last `SetParam` that succeeded, or the one the
driver began with.

The store is there – the parameters of the driver are `Cells`, and hold what was last written
(`DivertNet.ParamState.Inv`) – but its values do not come out. `GetParam` lets the driver
store into a local variable and returns without copying it to the caller's
(`DivertNet.Diversion.getParamIn_value`). So the law holds exactly where there is nothing to copy:
`DivertNet.everyCall_readsBack_iff`.
-/

namespace DivertNet

open Function Runs

/-! ### The parameters of the driver -/

/-- The value the driver keeps for each parameter. -/
abbrev Params := BitVec 32 → BitVec 64

/-- `WinDivertSetParam`, accepted or rejected: its result, and the parameters after it. -/
def winDivertSetParam (param : BitVec 32) (value : BitVec 64) (accepted : Bool) (p : Params) :
    ℕ × Params :=
  if accepted then (1, update p param value) else (0, p)

/-- `WinDivertGetParam`, accepted or rejected: its result, and what is behind `pValue` after
it. -/
def winDivertGetParam (param : BitVec 32) (pValue : BitVec 64) (accepted : Bool) (p : Params) :
    ℕ × BitVec 64 :=
  if accepted then (1, p param) else (0, pValue)

/-- The parameters are independent cells. -/
def paramCells : Cells.Family Params (BitVec 32) fun _ => BitVec 64 where
  get i p := p i
  set i v p := update p i v
  get_set i v p := update_self i v p
  get_set_of_ne v p h := update_of_ne h v p

/-! ### The two methods -/

namespace Diversion

/-- What a call of `SetParam` leaves: the parameters of the driver, and the return value. -/
structure SetParamResult where
  params : Params
  returned : Bool

/-- `Diversion::SetParam`, with the driver behind it. -/
def setParamIn (w : World) (d : ℕ) (param : BitVec 32) (value : BitVec 64) (accepted : Bool)
    (p : Params) : SetParamResult :=
  match paramHandle d w with
  | none => ⟨p, false⟩
  | some _ =>
    let (result, p) := winDivertSetParam param value accepted p
    ⟨p, result == 1⟩

/-- What a call of `GetParam` leaves: its local `retVal`, the caller's `value`, and the return
value. -/
structure GetParamResult where
  retVal : BitVec 64
  value : BitVec 64
  returned : Bool

/-- `Diversion::GetParam`, with the driver behind it. The address the driver is given is that
of the local. -/
def getParamIn (w : World) (d : ℕ) (param : BitVec 32) (value : BitVec 64) (accepted : Bool)
    (p : Params) : GetParamResult :=
  match paramHandle d w with
  | none => ⟨0, value, false⟩
  | some _ =>
    let retVal := 0
    let (result, retVal) := winDivertGetParam param retVal accepted p
    -- `value` is not assigned
    ⟨retVal, value, result == 1⟩

section Methods

variable (w : World) (d : ℕ) (param : BitVec 32) (value : BitVec 64) (accepted : Bool) (p : Params)

/-- `SetParam` with the driver is `SetParam` with the driver's result. -/
theorem setParamIn_returned :
    (setParamIn w d param value accepted p).returned =
      (setParam d param value (winDivertSetParam param value accepted p).1 w).2 := by
  rw [setParamIn, setParam]
  cases paramHandle d w <;> rfl

/-- So is `GetParam`. -/
theorem getParamIn_outputs :
    ((getParamIn w d param value accepted p).value,
        (getParamIn w d param value accepted p).returned) =
      (getParam d param value (winDivertGetParam param 0 accepted p).1 w).2 := by
  rw [getParamIn, getParam]
  cases paramHandle d w <;> rfl

/-- A call gets to the driver, which does what it asks for. -/
def paramAccepted : Bool := (paramHandle d w).isSome && accepted

/-- **What `SetParam` does**: it writes and returns true, or it does neither. -/
theorem setParamIn_eq :
    setParamIn w d param value accepted p =
      if paramAccepted w d accepted = true then ⟨update p param value, true⟩ else ⟨p, false⟩ := by
  rw [setParamIn, paramAccepted]
  cases paramHandle d w <;> cases accepted <;> rfl

/-- `GetParam` returns true where the driver has answered. -/
theorem getParamIn_returned :
    (getParamIn w d param value accepted p).returned = paramAccepted w d accepted := by
  rw [getParamIn, paramAccepted]
  cases paramHandle d w <;> cases accepted <;> rfl

/-- The answer gets as far as the local variable. -/
theorem getParamIn_retVal (h : paramAccepted w d accepted = true) :
    (getParamIn w d param value accepted p).retVal = p param := by
  obtain ⟨hhandle, rfl⟩ := Bool.and_eq_true_iff.mp h
  obtain ⟨handle, hsome⟩ := Option.isSome_iff_exists.mp hhandle
  rw [getParamIn, hsome]
  rfl

/-- **It goes no further**: the caller's variable is left as it was. -/
theorem getParamIn_value : (getParamIn w d param value accepted p).value = value := by
  rw [getParamIn]
  cases paramHandle d w <;> rfl

end Methods

end Diversion

/-! ### Runs of calls -/

/-- A call of one of the two methods, with the driver's decision. `GetParam` is passed the
value the caller's variable holds. -/
inductive ParamAction where
  | setParam (param : BitVec 32) (value : BitVec 64) (accepted : Bool)
  | getParam (param : BitVec 32) (value : BitVec 64) (accepted : Bool)

/-- The parameters of the driver, and the writes that were reported as successful so far. -/
structure ParamState where
  params : Params
  written : List (Σ _ : BitVec 32, BitVec 64)

namespace ParamState

/-- No call yet. -/
def initial (p : Params) : ParamState := ⟨p, []⟩

/-- The value of the last successful `SetParam` on a parameter, or the one the driver began
with. -/
def lastWritten (init : Params) (s : ParamState) (param : BitVec 32) : BitVec 64 :=
  (Cells.last param s.written).getD (init param)

/-- A call. -/
def next (w : World) (d : ℕ) (s : ParamState) : ParamAction → ParamState
  | .setParam param value accepted =>
    let r := Diversion.setParamIn w d param value accepted s.params
    ⟨r.params, if r.returned then s.written ++ [⟨param, value⟩] else s.written⟩
  | .getParam .. => s

/-- **The driver holds what was written.** -/
def Inv (init : Params) (s : ParamState) : Prop := s.params = Cells.setAll paramCells s.written init

section Steps

variable {w : World} {d : ℕ} {init : Params} {s : ParamState}

theorem inv_initial (init : Params) : (initial init).Inv init := rfl

/-- Every call keeps it so. -/
theorem Inv.next (inv : s.Inv init) (a : ParamAction) : (s.next w d a).Inv init := by
  cases a with
  | getParam param value accepted => exact inv
  | setParam param value accepted =>
    rw [ParamState.next, Diversion.setParamIn_eq]
    split
    · -- a write that is reported is the last one of the sequence
      rw [Inv] at inv ⊢
      rw [inv, if_pos rfl, Cells.setAll, Cells.setAll, List.foldl_append]
      rfl
    · exact inv

/-- What the driver holds is what was written last. -/
theorem Inv.params_eq (inv : s.Inv init) (param : BitVec 32) :
    s.params param = s.lastWritten init param := by
  rw [inv]
  exact Cells.get_setAll paramCells param s.written init

end Steps

end ParamState

/-- **A call reads back what was written**, and fails without effect: a `GetParam` that returns
true leaves the value last written in the caller's variable, and a call that returns false
leaves the variable and the driver's parameters as they were. -/
def ReadsBack (w : World) (d : ℕ) (init : Params) (s : ParamState) :
    ParamAction → ParamState → Prop
  | .setParam param value accepted, t =>
    (Diversion.setParamIn w d param value accepted s.params).returned = false → t.params = s.params
  | .getParam param value accepted, t =>
    let r := Diversion.getParamIn w d param value accepted s.params
    (r.returned = true → r.value = s.lastWritten init param) ∧
      (r.returned = false → r.value = value ∧ t.params = s.params)

/-- **There is nothing to copy**: where the driver answers a `GetParam`, the caller's variable
holds the parameter's value already. -/
def HoldsAlready (w : World) (d : ℕ) (s : ParamState) : ParamAction → Prop
  | .setParam .. => True
  | .getParam param value accepted =>
    Diversion.paramAccepted w d accepted = true → value = s.params param

/-- One call reads back what was written exactly when there is nothing to copy. -/
theorem readsBack_next_iff {w : World} {d : ℕ} {init : Params} {s : ParamState}
    (inv : s.Inv init) (a : ParamAction) :
    ReadsBack w d init s a (s.next w d a) ↔ HoldsAlready w d s a := by
  cases a with
  | setParam param value accepted =>
    refine iff_of_true (fun hfail => ?_) trivial
    simp only [ParamState.next, Diversion.setParamIn_eq] at hfail ⊢
    split at hfail
    · cases hfail
    · rename_i hnot
      rw [if_neg hnot]
  | getParam param value accepted =>
    simp only [ReadsBack, HoldsAlready, Diversion.getParamIn_value, Diversion.getParamIn_returned,
      ← inv.params_eq]
    exact and_iff_left fun _ => ⟨trivial, rfl⟩

/-- **When parameters read back what was written**: along every run of `SetParam` and `GetParam`
on a `Diversion`, whatever the driver accepts and rejects, exactly when at every `GetParam` that
the driver answers the caller's variable already holds the parameter's value. -/
theorem everyCall_readsBack_iff (w : World) (d : ℕ) (init : Params) (l : List ParamAction) :
    EveryStep (always (ParamState.next w d)) (ReadsBack w d init) (.initial init) l ↔
      EveryStep (always (ParamState.next w d)) (fun s a _ => HoldsAlready w d s a)
        (.initial init) l := by
  refine everyStep_congr_of_invariant
    (fun s a t (inv : ParamState.Inv init s) (_ : True) hstep => ?_)
    (fun s a t inv _ _ hstep => ?_) (ParamState.inv_initial init) fun _ _ _ _ _ => trivial
  · obtain rfl : s.next w d a = t := Option.some.inj hstep
    exact readsBack_next_iff inv a
  · obtain rfl : s.next w d a = t := Option.some.inj hstep
    exact inv.next a

/-- **A parameter that does not come back**: the queue length is set to 1024 and read into a
variable that holds zero; both calls return true, and the variable still holds zero. -/
theorem not_readsBack :
    ¬EveryStep (always (ParamState.next justOpened 0)) (ReadsBack justOpened 0 fun _ => 512)
      (.initial fun _ => 512) [.setParam 0 1024 true, .getParam 0 0 true] := by
  intro h
  have hget := h [.setParam 0 1024 true] (.getParam 0 0 true) [] _ _ rfl rfl rfl
  exact absurd (hget.1 rfl) (by decide)

end DivertNet
