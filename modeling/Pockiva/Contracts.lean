import Mathlib.Algebra.Group.Nat.Defs
import Mathlib.Data.List.Basic

/-! # The shared vocabulary of the emulator core

Bytes, 16-bit words, fixed-size byte arrays and the small contract types that
every component of the core exchanges: errors, battery images, frames, buttons.

Machine words whose wrap-around the code relies on are bit vectors.  Counters
that the code keeps far below their width (dots, lines, elapsed cycles, clock
seconds) are natural numbers.
-/
namespace Pockiva

/-- A Rust `u8`. -/
abbrev Byte := BitVec 8

/-- A Rust `u16`. -/
abbrev Word := BitVec 16

/-- `u16::from_be_bytes([high, low])`. -/
def wordOfBytes (high low : Byte) : Word := high ++ low

/-- The first byte of `to_be_bytes`. -/
def highByte (w : Word) : Byte := w.extractLsb' 8 8

/-- The second byte of `to_be_bytes`. -/
def lowByte (w : Word) : Byte := w.extractLsb' 0 8

/-- `u8::from(bool)`. -/
def byteOfBool (b : Bool) : Byte := if b then 1 else 0

/-- A fixed-size Rust byte array `[u8; n]`. -/
abbrev Bytes (n : Nat) := Fin n → Byte

namespace Bytes
variable {n : Nat}

/-- An array of equal bytes, `[value; n]`. -/
def filled (n : Nat) (value : Byte) : Bytes n := fun _ => value

/-- The byte at index `i`.  An index past the end, which Rust would refuse,
reads zero. -/
def get (m : Bytes n) (i : Nat) : Byte := if h : i < n then m ⟨i, h⟩ else 0

/-- The array with the byte at index `i` replaced; an index past the end changes
nothing, as `get_mut` has it. -/
def set (m : Bytes n) (i : Nat) (value : Byte) : Bytes n :=
  fun j => if j.val = i then value else m j

theorem get_set_self (m : Bytes n) {i : Nat} (h : i < n) (value : Byte) :
    (m.set i value).get i = value := by
  simp [get, set, h]

theorem get_set_of_ne (m : Bytes n) {i j : Nat} (h : j ≠ i) (value : Byte) :
    (m.set i value).get j = m.get j := by
  by_cases hj : j < n
  · simp [get, set, hj, h]
  · simp [get, hj]

end Bytes

/-- `DMG_CLOCK_HZ`. -/
def dmgClockHz : Nat := 4194304

/-- `SCREEN_WIDTH`. -/
def screenWidth : Nat := 160

/-- `SCREEN_HEIGHT`. -/
def screenHeight : Nat := 144

/-- `FRAME_RGBA_LEN`, the number of bytes of one frame. -/
def frameRgbaLen : Nat := screenWidth * screenHeight * 4

inductive CoreError where
  | invalidRom (reason : String)
  | unsupportedCgbOnlyCartridge
  | unsupportedMapper (mapper : Byte)
  | notLoaded
  | internalInvariant (reason : String)
deriving DecidableEq, Repr

inductive CompatibilityMode where
  | dmg
  | dmgCompatible
deriving DecidableEq, Repr

inductive MapperKind where
  | romOnly
  | mbc1
  | mbc3
  | mbc5
deriving DecidableEq, Repr

/-- The part of `CartridgeMetadata` the core computes with; the title and the
digest of the image are only displayed. -/
structure CartridgeMetadata where
  mapper : MapperKind
  compatibility : CompatibilityMode
  ramSizeBytes : Nat
  hasBattery : Bool
deriving DecidableEq, Repr

/-- The persisted image of a battery-backed cartridge. -/
structure BatteryState where
  formatVersion : Nat
  ram : List Byte
  mapperData : List Byte
deriving DecidableEq, Repr

/-- One published picture.  `Frame::new` refuses a buffer of any other length,
so the length is part of the type. -/
structure Frame where
  sequence : Nat
  rgba : Bytes frameRgbaLen

/-- What `run_cycles` reports. -/
structure RunOutcome where
  cyclesExecuted : Nat
  frameReady : Bool
  stereoFramesAvailable : Nat
deriving DecidableEq, Repr

inductive Button where
  | up
  | down
  | left
  | right
  | a
  | b
  | start
  | select
deriving DecidableEq, Repr

/-- `Button::mask`: the bit numbered by the button's discriminant. -/
def Button.mask : Button → Byte
  | .up => 0x01
  | .down => 0x02
  | .left => 0x04
  | .right => 0x08
  | .a => 0x10
  | .b => 0x20
  | .start => 0x40
  | .select => 0x80

/-- The set of held buttons, one bit each. -/
structure JoypadState where
  bits : Byte
deriving DecidableEq, Repr

namespace JoypadState

/-- `JoypadState::default()`: nothing is held. -/
def released : JoypadState := ⟨0⟩

def press (s : JoypadState) (button : Button) : JoypadState := ⟨s.bits ||| button.mask⟩

def release (s : JoypadState) (button : Button) : JoypadState := ⟨s.bits &&& ~~~button.mask⟩

def isPressed (s : JoypadState) (button : Button) : Bool := s.bits &&& button.mask != 0

def union (s t : JoypadState) : JoypadState := ⟨s.bits ||| t.bits⟩

end JoypadState

/-- Who holds buttons: the keyboard, the remote controller, … -/
abbrev InputSourceId := Nat

end Pockiva
