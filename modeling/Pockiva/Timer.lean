import Pockiva.Devices

/-! # The timer

DIV is the high byte of a 16-bit divider.  TIMA counts the falling edges of one
of its bits, chosen by TAC, and is reloaded from TMA four T-cycles after an
overflow.
-/
namespace Pockiva

structure Timer where
  divider : Word
  tima : Byte
  tma : Byte
  tac : Byte
  reloadDelay : Option Nat
  reloadedThisCycle : Bool
deriving DecidableEq, Repr

namespace Timer

/-- `Timer::default()`, the state after the boot ROM. -/
def postBoot : Timer where
  divider := 0xabcc
  tima := 0
  tma := 0
  tac := 0
  reloadDelay := none
  reloadedThisCycle := false

def read (t : Timer) (address : Word) : Byte :=
  if address = 0xff04 then highByte t.divider
  else if address = 0xff05 then t.tima
  else if address = 0xff06 then t.tma
  else if address = 0xff07 then 0xf8 ||| t.tac
  else 0xff

/-- The divider bit TAC selects. -/
def selectedBit (tac : Byte) : Nat :=
  match (tac &&& 0x03).toNat with
  | 0 => 9
  | 1 => 3
  | 2 => 5
  | _ => 7

def timerInput (t : Timer) : Bool :=
  if t.tac &&& 0x04 = 0 then false else t.divider.getLsbD (selectedBit t.tac)

def incrementTima (t : Timer) : Timer :=
  if t.reloadDelay.isSome then t
  else if t.tima = 0xff then { t with tima := 0, reloadDelay := some 4 }
  else { t with tima := t.tima + 1 }

/-- The increment on a falling edge of the timer input between `old` and `t`. -/
def afterEdge (old t : Timer) : Timer :=
  if old.timerInput && !t.timerInput then t.incrementTima else t

/-- A write never requests an interrupt. -/
def write (t : Timer) (address : Word) (value : Byte) : Requesting Timer :=
  .silent <|
    if address = 0xff04 then afterEdge t { t with divider := 0 }
    else if address = 0xff05 ∧ t.reloadedThisCycle = false then
      { t with tima := value, reloadDelay := none }
    else if address = 0xff06 then
      { t with tma := value, tima := if t.reloadedThisCycle then value else t.tima }
    else if address = 0xff07 then afterEdge t { t with tac := value &&& 0x07 }
    else t

/-- The delayed reload of TIMA, which requests the timer interrupt. -/
def reload (t : Timer) : Requesting Timer :=
  match t.reloadDelay with
  | some 1 =>
    ⟨{ t with reloadDelay := none, tima := t.tma, reloadedThisCycle := true }, .of .timer⟩
  | some delay => .silent { t with reloadDelay := some (delay - 1) }
  | none => .silent t

def advanceDivider (t : Timer) : Timer := afterEdge t { t with divider := t.divider + 1 }

/-- One T-cycle: the body of the loop of `tick`. -/
def tickOne (t : Timer) : Requesting Timer :=
  (reload { t with reloadedThisCycle := false }).andThen fun t => .silent t.advanceDivider

def tick (t : Timer) (tCycles : Nat) : Requesting Timer := repeatTick tickOne tCycles t

end Timer

end Pockiva
