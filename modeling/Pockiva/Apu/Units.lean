import Pockiva.Contracts

/-! # The units of a sound channel

Length counter, volume envelope and frequency sweep.  Counters and frequencies are
natural numbers; the code keeps them within their width (a frequency is at most
2047, a length at most its maximum).
-/
namespace Pockiva

/-! ## The length counter -/

/-- `LengthCounter<MAX>`; `max` is a power of two. -/
structure LengthCounter (max : Nat) where
  remaining : Nat
  enabled : Bool
deriving DecidableEq, Repr

namespace LengthCounter
variable {max : Nat}

/-- `LengthCounter::default()`. -/
def initial : LengthCounter max := ⟨0, false⟩

def load (l : LengthCounter max) (raw : Byte) : LengthCounter max :=
  { l with remaining := max - (raw.toNat &&& (max - 1)) }

/-- A trigger reloads a counter that ran out. -/
def trigger (l : LengthCounter max) (nextStepClocksLength : Bool) : LengthCounter max × Bool :=
  let l := if l.remaining = 0 then
      { l with remaining := if l.enabled && !nextStepClocksLength then max - 1 else max }
    else l
  (l, l.remaining == 0)

/-- Enabling the counter in the half of the sequence without a length clock clocks it
once; the result says whether the channel falls silent. -/
def setEnabled (l : LengthCounter max) (enabled nextStepClocksLength channelActive : Bool) :
    LengthCounter max × Bool :=
  let remaining :=
    if !l.enabled && enabled && !nextStepClocksLength && decide (l.remaining > 0) then
      l.remaining - 1
    else l.remaining
  (⟨remaining, enabled⟩, channelActive && enabled && remaining == 0)

def clock (l : LengthCounter max) : LengthCounter max × Bool :=
  if l.enabled = false ∨ l.remaining = 0 then (l, false)
  else ({ l with remaining := l.remaining - 1 }, l.remaining - 1 == 0)

end LengthCounter

/-! ## The volume envelope -/

structure VolumeEnvelope where
  register : Byte
  initialVolume : Nat
  increase : Bool
  pace : Nat
  timer : Nat
  currentVolume : Nat
  running : Bool
deriving DecidableEq, Repr

namespace VolumeEnvelope

/-- `VolumeEnvelope::default()`. -/
def initial : VolumeEnvelope := ⟨0, 0, false, 0, 0, 0, false⟩

def write (e : VolumeEnvelope) (value : Byte) : VolumeEnvelope :=
  { e with
    register := value
    initialVolume := (value >>> 4).toNat
    increase := value &&& 0x08 != 0
    pace := (value &&& 0x07).toNat }

def reloadPeriod (e : VolumeEnvelope) : Nat := if e.pace = 0 then 8 else e.pace

def trigger (e : VolumeEnvelope) : VolumeEnvelope :=
  { e with currentVolume := e.initialVolume, timer := e.reloadPeriod, running := true }

/-- The volume after one step, none at either end. -/
def nextVolume (e : VolumeEnvelope) : Option Nat :=
  if e.increase then if e.currentVolume + 1 ≤ 15 then some (e.currentVolume + 1) else none
  else if 1 ≤ e.currentVolume then some (e.currentVolume - 1) else none

def clock (e : VolumeEnvelope) : VolumeEnvelope :=
  if e.running = false then e
  else if e.timer - 1 ≠ 0 then { e with timer := e.timer - 1 }
  else match e.nextVolume with
    | some next => { e with timer := e.reloadPeriod, currentVolume := next }
    | none => { e with timer := e.reloadPeriod, running := false }

def volume (e : VolumeEnvelope) : Nat := e.currentVolume

def dacEnabled (e : VolumeEnvelope) : Bool := e.register &&& 0xf8 != 0

end VolumeEnvelope

/-! ## The frequency sweep -/

inductive SweepTrigger where
  | disabled
  | enabled
deriving DecidableEq, Repr

inductive SweepClock where
  | idle
  | applied (frequency : Nat)
  | appliedAndDisabled (frequency : Nat)
  | disabled
deriving DecidableEq, Repr

structure FrequencySweep where
  register : Byte
  pace : Nat
  negate : Bool
  shift : Nat
  timer : Nat
  shadowFrequency : Nat
  enabled : Bool
  negateUsed : Bool
deriving DecidableEq, Repr

namespace FrequencySweep

/-- `FrequencySweep::default()`. -/
def initial : FrequencySweep := ⟨0, 0, false, 0, 0, 0, false, false⟩

/-- Leaving the negate mode after it was used silences the channel. -/
def write (s : FrequencySweep) (value : Byte) : FrequencySweep × Bool :=
  ({ s with
      register := value &&& 0x7f
      pace := ((value >>> 4) &&& 0x07).toNat
      negate := value &&& 0x08 != 0
      shift := (value &&& 0x07).toNat },
    s.negateUsed && s.negate && value &&& 0x08 == 0)

def calculate (s : FrequencySweep) : Option Nat :=
  let delta := s.shadowFrequency >>> s.shift
  if s.negate then
    if delta ≤ s.shadowFrequency ∧ s.shadowFrequency - delta ≤ 2047 then
      some (s.shadowFrequency - delta)
    else none
  else if s.shadowFrequency + delta ≤ 2047 then some (s.shadowFrequency + delta)
  else none

def reloadPeriod (s : FrequencySweep) : Nat := if s.pace = 0 then 8 else s.pace

def trigger (s : FrequencySweep) (frequency : Nat) : FrequencySweep × SweepTrigger :=
  let s : FrequencySweep :=
    { s with
      shadowFrequency := frequency
      timer := s.reloadPeriod
      enabled := decide (s.pace ≠ 0 ∨ s.shift ≠ 0)
      negateUsed := false }
  if s.shift ≠ 0 then
    if s.calculate = none then ({ s with enabled := false }, .disabled)
    else ({ s with negateUsed := s.negate }, .enabled)
  else (s, .enabled)

/-- One clock of an enabled sweep whose timer ran out. -/
def apply (s : FrequencySweep) : FrequencySweep × SweepClock :=
  match s.calculate with
  | none => ({ s with enabled := false }, .disabled)
  | some frequency =>
    let s : FrequencySweep := { s with negateUsed := s.negate || s.negateUsed }
    if s.shift = 0 then (s, .idle)
    else
      let s := { s with shadowFrequency := frequency }
      if s.calculate = none then ({ s with enabled := false }, .appliedAndDisabled frequency)
      else (s, .applied frequency)

def clock (s : FrequencySweep) : FrequencySweep × SweepClock :=
  if s.enabled = false then (s, .idle)
  else if s.timer - 1 ≠ 0 then ({ s with timer := s.timer - 1 }, .idle)
  else
    let s := { s with timer := s.reloadPeriod }
    if s.pace = 0 then (s, .idle) else s.apply

end FrequencySweep

end Pockiva
