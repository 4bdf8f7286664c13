import Pockiva.Cartridge.Banking
import Pockiva.Lib.LittleEndian

/-! # MBC3 and its real-time clock

The clock is a counter of seconds and the wall-clock time it was brought up to
date at; `live` reads it at any other time.  A wall clock that went back stops it
until the old time is reached again.
-/
namespace Pockiva

open Validation

/-- `RTC_PERIOD_SECONDS`: 512 days. -/
def rtcPeriodSeconds : Nat := 512 * 24 * 60 * 60

/-- The five clock registers, as selectors 08–0C name them. -/
structure RtcRegisters where
  seconds : Byte
  minutes : Byte
  hours : Byte
  dayLow : Byte
  dayHigh : Byte
deriving DecidableEq, Repr

namespace RtcRegisters

def zero : RtcRegisters := ⟨0, 0, 0, 0, 0⟩

/-- The register with index `i`. -/
def get (r : RtcRegisters) (i : Nat) : Byte :=
  match i with
  | 0 => r.seconds
  | 1 => r.minutes
  | 2 => r.hours
  | 3 => r.dayLow
  | _ => r.dayHigh

/-- The seconds the five registers stand for. -/
def counter (r : RtcRegisters) : Nat :=
  let days := r.dayLow.toNat ||| ((r.dayHigh &&& 1).toNat <<< 8)
  days * 86400 + r.hours.toNat * 3600 + r.minutes.toNat * 60 + r.seconds.toNat

end RtcRegisters

structure RtcState where
  counterSeconds : Nat
  lastUpdateUnix : Nat
  halted : Bool
  carry : Bool
  latched : RtcRegisters
  latchArmed : Bool
deriving DecidableEq, Repr

namespace RtcState

/-- The counter and the carry at time `now`.  The sum is a 64-bit one. -/
def live (r : RtcState) (now : Nat) : Nat × Bool :=
  if r.halted ∨ now < r.lastUpdateUnix then (r.counterSeconds, r.carry)
  else
    let total := (r.counterSeconds + (now - r.lastUpdateUnix)) % 2 ^ 64
    (total % rtcPeriodSeconds, r.carry || rtcPeriodSeconds ≤ total)

def sync (r : RtcState) (now : Nat) : RtcState :=
  { r with
    counterSeconds := (r.live now).1
    carry := (r.live now).2
    lastUpdateUnix := if r.lastUpdateUnix ≤ now then now else r.lastUpdateUnix }

def registers (r : RtcState) (now : Nat) : RtcRegisters :=
  let counter := (r.live now).1
  let carry := (r.live now).2
  let days := counter / 86400
  let inDay := counter % 86400
  { seconds := BitVec.ofNat 8 (inDay % 60)
    minutes := BitVec.ofNat 8 ((inDay / 60) % 60)
    hours := BitVec.ofNat 8 (inDay / 3600)
    dayLow := BitVec.ofNat 8 days
    dayHigh := (BitVec.ofNat 8 (days / 256) &&& 1) ||| (byteOfBool r.halted <<< 6)
      ||| (byteOfBool carry <<< 7) }

def new (now : Nat) : RtcState :=
  let rtc : RtcState :=
    { counterSeconds := 0
      lastUpdateUnix := now
      halted := false
      carry := false
      latched := .zero
      latchArmed := false }
  { rtc with latched := rtc.registers now }

/-- `b"M3R1"`. -/
def schema : List Byte := [0x4d, 0x33, 0x52, 0x31]

def fromBytes (bytes : List Byte) (now : Nat) : Except CoreError RtcState := do
  require (bytes.length = 22 ∧ bytes.take 4 = schema)
    (.invalidRom "invalid MBC3 persisted-state schema")
  let counterSeconds := LittleEndian.decode ((bytes.drop 4).take 8)
  let lastUpdateUnix := LittleEndian.decode ((bytes.drop 12).take 8)
  require (counterSeconds < rtcPeriodSeconds ∧ bytes.getD 20 0 ≤ 1 ∧ bytes.getD 21 0 ≤ 1)
    (.invalidRom "invalid MBC3 persisted-state values")
  let rtc : RtcState :=
    { counterSeconds := counterSeconds
      lastUpdateUnix := lastUpdateUnix
      halted := bytes.getD 20 0 != 0
      carry := bytes.getD 21 0 != 0
      latched := .zero
      latchArmed := false }
  let rtc := rtc.sync now
  return { rtc with latched := rtc.registers now }

/-- Writing 0 and then 1 copies the clock to the latched registers. -/
def latch (r : RtcState) (value : Byte) (now : Nat) : RtcState :=
  if value = 0 then { r with latchArmed := true }
  else if value = 1 ∧ r.latchArmed then
    let r := r.sync now
    { r with latched := r.registers now, latchArmed := false }
  else { r with latchArmed := false }

/-- The registers with the selected one replaced by its normalised value, if the
selector names one. -/
def replaceRegister (r : RtcRegisters) (selector value : Byte) : Option RtcRegisters :=
  match selector.toNat with
  | 0x08 => some { r with seconds := value % 60 }
  | 0x09 => some { r with minutes := value % 60 }
  | 0x0a => some { r with hours := value % 24 }
  | 0x0b => some { r with dayLow := value }
  | 0x0c => some { r with dayHigh := value &&& 0xc1 }
  | _ => none

def writeRegister (r : RtcState) (selector value : Byte) (now : Nat) : RtcState :=
  let r := r.sync now
  match replaceRegister (r.registers now) selector value with
  | none => r
  | some registers =>
    let halted := registers.dayHigh &&& 0x40 != 0
    { r with
      counterSeconds := registers.counter
      halted := halted
      carry := registers.dayHigh &&& 0x80 != 0
      lastUpdateUnix := if r.halted ≠ halted ∨ halted = false then now else r.lastUpdateUnix }

def bytes (r : RtcState) (now : Nat) : List Byte :=
  schema ++ LittleEndian.encode 8 (r.live now).1
    ++ LittleEndian.encode 8 (max r.lastUpdateUnix now)
    ++ [byteOfBool r.halted, byteOfBool (r.live now).2]

end RtcState

structure Mbc3 where
  rom : List Byte
  ram : List Byte
  romBanks : Nat
  ramEnabled : Bool
  romBank : Byte
  selector : Byte
  rtc : Option RtcState
  hasBattery : Bool
deriving DecidableEq, Repr

namespace Mbc3

/-- The clock of a new cartridge: restored, fresh or absent. -/
def initialRtc (hasTimer : Bool) (persisted : Option BatteryState) (now : Nat) :
    Except CoreError (Option RtcState) :=
  if hasTimer then
    match persisted with
    | some state => some <$> RtcState.fromBytes state.mapperData now
    | none => .ok (some (RtcState.new now))
  else do
    requireNoMapperData persisted "non-timer MBC3 mapper data must be empty"
    return none

def new (rom : List Byte) (ramBytes : Nat) (hasBattery hasTimer : Bool)
    (persisted : Option BatteryState) (now : Nat) : Except CoreError Mbc3 := do
  let ram ← persistedRam persisted ramBytes hasBattery
  let rtc ← initialRtc hasTimer persisted now
  return {
    rom := rom
    ram := ram
    romBanks := rom.length / 0x4000
    ramEnabled := false
    romBank := 1
    selector := 0
    rtc := rtc
    hasBattery := hasBattery }

def readRom (m : Mbc3) (address : Word) : Byte :=
  romByte m.rom (if address < 0x4000 then 0 else m.romBank.toNat % m.romBanks) address

def writeRom (m : Mbc3) (address : Word) (value : Byte) (now : Nat) : Mbc3 :=
  if address < 0x2000 then { m with ramEnabled := enablesRam value }
  else if address < 0x4000 then
    { m with romBank := if value &&& 0x7f = 0 then 1 else value &&& 0x7f }
  else if address < 0x6000 then { m with selector := value }
  else if address < 0x8000 then { m with rtc := m.rtc.map fun rtc => rtc.latch value now }
  else m

/-- Selectors 00–03 name a RAM bank. -/
def selectsRam (selector : Byte) : Prop := selector ≤ 0x03

instance (selector : Byte) : Decidable (selectsRam selector) := inferInstanceAs (Decidable (_ ≤ _))

/-- Selectors 08–0C name a clock register. -/
def selectsRtc (selector : Byte) : Prop := 0x08 ≤ selector ∧ selector ≤ 0x0c

instance (selector : Byte) : Decidable (selectsRtc selector) := inferInstanceAs (Decidable (_ ∧ _))

def readRam (m : Mbc3) (address : Word) : Byte :=
  if m.ramEnabled = false then 0xff
  else if selectsRam m.selector then ramByte m.ram m.selector.toNat address
  else if selectsRtc m.selector then
    match m.rtc with
    | some rtc => rtc.latched.get (m.selector - 0x08).toNat
    | none => 0xff
  else 0xff

def writeRam (m : Mbc3) (address : Word) (value : Byte) (now : Nat) : Mbc3 :=
  if m.ramEnabled = false then m
  else if selectsRam m.selector then
    { m with ram := writeRamByte m.ram m.selector.toNat address value }
  else if selectsRtc m.selector then
    { m with rtc := m.rtc.map fun rtc => rtc.writeRegister m.selector value now }
  else m

def reset (m : Mbc3) (now : Nat) : Mbc3 :=
  { m with
    ramEnabled := false
    romBank := 1
    selector := 0
    rtc := m.rtc.map fun rtc => { rtc.sync now with latchArmed := false } }

def batteryState (m : Mbc3) (now : Nat) : Option BatteryState :=
  if m.hasBattery then
    some ⟨1, m.ram, match m.rtc with
      | some rtc => rtc.bytes now
      | none => []⟩
  else none

end Mbc3

end Pockiva
