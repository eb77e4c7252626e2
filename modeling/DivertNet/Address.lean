import DivertNet.Runtime

/-!
# The `Address` object

`Address` wraps the `WINDIVERT_ADDRESS` that goes with a packet: the interfaces it came
in on and its direction. The structure is allocated with `malloc`, so it may be missing;
the accessors check for that, `Reset` does not.
-/

namespace DivertNet

/-- The structure `WINDIVERT_ADDRESS`. -/
structure WinDivertAddress where
  ifIdx : BitVec 32
  subIfIdx : BitVec 32
  direction : Byte
  deriving DecidableEq, Repr

/-- `DivertDirection`. An enumeration of the runtime holds any value of its underlying
type, so the two named values are constants of it. -/
structure DivertDirection where
  value : Byte
  deriving DecidableEq, Repr

namespace DivertDirection

def outbound : DivertDirection := ⟨0⟩

def inbound : DivertDirection := ⟨1⟩

end DivertDirection

/-- An `Address` object. The allocation behind it may have failed. -/
structure Address where
  m_address : Option WinDivertAddress
  deriving DecidableEq, Repr

namespace Address

/-- The constructor, and `Init()`: the result of `malloc`, with whatever it holds. -/
def init (malloc : Option WinDivertAddress) : Address := ⟨malloc⟩

/-- `InterfaceIndex::get`. -/
def interfaceIndex (a : Address) : BitVec 32 :=
  match a.m_address with
  | none => 0
  | some w => w.ifIdx

/-- `InterfaceIndex::set`. -/
def setInterfaceIndex (value : BitVec 32) (a : Address) : Address :=
  ⟨a.m_address.map fun w => { w with ifIdx := value }⟩

/-- `SubInterfaceIndex::get`. -/
def subInterfaceIndex (a : Address) : BitVec 32 :=
  match a.m_address with
  | none => 0
  | some w => w.subIfIdx

/-- `SubInterfaceIndex::set`. -/
def setSubInterfaceIndex (value : BitVec 32) (a : Address) : Address :=
  ⟨a.m_address.map fun w => { w with subIfIdx := value }⟩

/-- `Direction::get`. -/
def direction (a : Address) : DivertDirection :=
  match a.m_address with
  | none => .inbound
  | some w => ⟨w.direction⟩

/-- `Direction::set`. -/
def setDirection (value : DivertDirection) (a : Address) : Address :=
  ⟨a.m_address.map fun w => { w with direction := value.value }⟩

/-- `Reset()`: allocate if there is nothing yet, then clear. The clearing comes before the
null check, so a failed allocation is written through. -/
def reset (malloc : Option WinDivertAddress) (a : Address) : Except ClrException (Address × Bool) :=
  let a := if a.m_address = none then init malloc else a
  -- the structure is cleared before the pointer is checked
  match a.m_address with
  | none => .error .accessViolation
  | some _ => .ok (⟨some ⟨0, 0, 0⟩⟩, true)

/-- **`Reset()` never returns `false`**: it leaves a cleared structure and reports success,
or it writes through a null pointer. -/
theorem reset_cases (malloc : Option WinDivertAddress) (a : Address) :
    reset malloc a = .ok (⟨some ⟨0, 0, 0⟩⟩, true) ∨
      (a.m_address = none ∧ malloc = none) ∧ reset malloc a = .error .accessViolation := by
  rcases a with ⟨_ | w⟩
  · rcases malloc with _ | w
    · exact Or.inr ⟨⟨rfl, rfl⟩, rfl⟩
    · exact Or.inl rfl
  · exact Or.inl rfl

end Address

end DivertNet
