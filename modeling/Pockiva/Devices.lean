import Pockiva.Contracts
import Pockiva.Interrupts

/-! # Devices that request interrupts

An operation on a device returns the device and the interrupts it requests
(`Requesting`, the `TickEffects` of the bus).  `repeatTick` is the loop
`for _ in 0..t_cycles` of the devices that are clocked one T-cycle at a time.
The two small devices of the bus, the serial port and the OAM DMA unit, are here.
-/
namespace Pockiva

/-- A device after an operation, with the interrupts the operation requested. -/
structure Requesting (α : Type) where
  device : α
  requested : InterruptMask

namespace Requesting
variable {α : Type}

/-- The device with no request: `InterruptMask::default()`. -/
def silent (device : α) : Requesting α := ⟨device, .empty⟩

@[simp] theorem silent_device (device : α) : (silent device).device = device := rfl

@[simp] theorem silent_requested (device : α) : (silent device).requested = .empty := rfl

/-- One more operation, its requests added to those so far. -/
def andThen (r : Requesting α) (f : α → Requesting α) : Requesting α :=
  ⟨(f r.device).device, r.requested.union (f r.device).requested⟩

@[simp] theorem andThen_device (r : Requesting α) (f : α → Requesting α) :
    (r.andThen f).device = (f r.device).device := rfl

@[simp] theorem andThen_requested (r : Requesting α) (f : α → Requesting α) :
    (r.andThen f).requested = r.requested.union (f r.device).requested := rfl

end Requesting

section Repeat
variable {α : Type} (tick : α → Requesting α)

/-- `n` T-cycles of a device, and everything it requested in them. -/
def repeatTick : Nat → α → Requesting α
  | 0, d => .silent d
  | n + 1, d => (repeatTick n d).andThen tick

end Repeat

/-! ## The serial port -/

structure SerialPort where
  data : Byte
  control : Byte
  captured : List Byte
deriving DecidableEq, Repr

namespace SerialPort

/-- `SerialPort::default()`. -/
def initial : SerialPort := ⟨0, 0, []⟩

def read (s : SerialPort) (address : Word) : Byte :=
  if address = 0xff01 then s.data
  else if address = 0xff02 then s.control ||| 0x7e
  else 0xff

/-- Starting a transfer captures the byte, keeping the last 4096 of them. -/
def write (s : SerialPort) (address : Word) (value : Byte) : Requesting SerialPort :=
  if address = 0xff01 then .silent { s with data := value }
  else if address = 0xff02 then
    if value = 0x81 then
      let captured := if s.captured.length = 4096 then s.captured.drop 1 else s.captured
      ⟨{ s with control := value &&& 0x7f, captured := captured ++ [s.data] }, .of .serial⟩
    else .silent { s with control := value }
  else .silent s

end SerialPort

/-! ## OAM DMA -/

structure OamDma where
  sourceHigh : Byte
  index : Byte
  active : Bool
deriving DecidableEq, Repr

namespace OamDma

/-- `OamDma::default()`. -/
def idle : OamDma := ⟨0, 0, false⟩

def start (_ : OamDma) (sourceHigh : Byte) : OamDma := ⟨sourceHigh, 0, true⟩

/-- Where the next byte comes from and which byte of OAM it becomes. -/
def nextAddress (d : OamDma) : Option (Word × Byte) :=
  if d.active then some (wordOfBytes d.sourceHigh d.index, d.index) else none

def advance (d : OamDma) : OamDma :=
  let index := d.index + 1
  { d with index := index, active := if index = 160 then false else d.active }

end OamDma

end Pockiva
