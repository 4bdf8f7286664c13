import Pockiva.Devices

/-! # The joypad

`InputMatrix` keeps what each input source holds; the machine sees the union.
`JoypadRegister` is FF00: the selected rows of the buttons, active low.
-/
namespace Pockiva

/-- The held buttons of each source, one entry a source. -/
structure InputMatrix where
  sources : List (InputSourceId × JoypadState)
deriving DecidableEq, Repr

namespace InputMatrix

/-- `InputMatrix::default()`. -/
def empty : InputMatrix := ⟨[]⟩

def clear (m : InputMatrix) (source : InputSourceId) : InputMatrix :=
  ⟨m.sources.filter fun entry => entry.1 != source⟩

def set (m : InputMatrix) (source : InputSourceId) (state : JoypadState) : InputMatrix :=
  ⟨(source, state) :: (m.clear source).sources⟩

/-- The union of what all sources hold. -/
def effective (m : InputMatrix) : JoypadState :=
  m.sources.foldl (fun held entry => held.union entry.2) .released

end InputMatrix

structure JoypadRegister where
  select : Byte
  state : JoypadState
  visibleLow : Byte
deriving DecidableEq, Repr

namespace JoypadRegister

/-- `JoypadRegister::default()`: no row is selected. -/
def initial : JoypadRegister where
  select := 0x30
  state := .released
  visibleLow := 0x0f

def read (j : JoypadRegister) : Byte := 0xc0 ||| j.select ||| j.visibleLow

/-- The low bits after a row of buttons, in the order of their bits, is shown. -/
def showRow (state : JoypadState) (row : List Button) (visible : Byte) : Byte :=
  row.zipIdx.foldl
    (fun visible entry =>
      if state.isPressed entry.1 then visible &&& ~~~((1 : Byte) <<< entry.2) else visible)
    visible

/-- The low bits of FF00 for a row selection and the held buttons. -/
def visible (select : Byte) (state : JoypadState) : Byte :=
  let shown : Byte := 0x0f
  let shown :=
    if select &&& 0x10 = 0 then showRow state [.right, .left, .up, .down] shown else shown
  if select &&& 0x20 = 0 then showRow state [.a, .b, .select, .start] shown else shown

/-- A line that goes low requests the joypad interrupt. -/
def updateVisible (j : JoypadRegister) : Requesting JoypadRegister :=
  let shown := visible j.select j.state
  ⟨{ j with visibleLow := shown },
    if j.visibleLow &&& ~~~shown ≠ 0 then .of .joypad else .empty⟩

def write (j : JoypadRegister) (value : Byte) : Requesting JoypadRegister :=
  updateVisible { j with select := value &&& 0x30 }

def setState (j : JoypadRegister) (state : JoypadState) : Requesting JoypadRegister :=
  updateVisible { j with state := state }

end JoypadRegister

end Pockiva
