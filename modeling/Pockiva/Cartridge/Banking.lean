import Pockiva.Cartridge.Header

/-! # Bank arithmetic and the mappers without a clock

`romByte`, `ramByte` and `writeRamByte` address one bank of an image; each mapper
computes the bank from its own registers.
-/
namespace Pockiva

open Validation

/-- An address of 0000–7FFF. -/
def inRom (address : Word) : Prop := address < 0x8000

instance (address : Word) : Decidable (inRom address) := inferInstanceAs (Decidable (_ < _))

/-- An address of A000–BFFF. -/
def inExternalRam (address : Word) : Prop := 0xa000 ≤ address ∧ address ≤ 0xbfff

instance (address : Word) : Decidable (inExternalRam address) :=
  inferInstanceAs (Decidable (_ ∧ _))

/-- `persisted_ram`: the initial contents of the external RAM. -/
def persistedRam (persisted : Option BatteryState) (expectedLen : Nat) (hasBattery : Bool) :
    Except CoreError (List Byte) :=
  match persisted with
  | none => .ok (List.replicate expectedLen 0)
  | some state => do
    require (hasBattery = true)
      (.invalidRom "persisted state supplied for a cartridge without a battery")
    require (state.formatVersion = 1)
      (.invalidRom "unsupported persisted-state format version")
    require (state.ram.length = expectedLen)
      (.invalidRom "persisted RAM length does not match the cartridge header")
    return state.ram

/-- The persisted state, if any, has no mapper data. -/
def requireNoMapperData (persisted : Option BatteryState) (reason : String) :
    Except CoreError Unit :=
  require (∀ state ∈ persisted, state.mapperData = []) (.invalidRom reason)

def romByte (rom : List Byte) (bank : Nat) (address : Word) : Byte :=
  rom.getD (bank * 0x4000 + (address &&& 0x3fff).toNat) 0xff

/-- The offset of an address of A000–BFFF in the external RAM. -/
def ramOffset (bank : Nat) (address : Word) : Nat := bank * 0x2000 + (address - 0xa000).toNat

def ramByte (ram : List Byte) (bank : Nat) (address : Word) : Byte :=
  ram.getD (ramOffset bank address) 0xff

def writeRamByte (ram : List Byte) (bank : Nat) (address : Word) (value : Byte) : List Byte :=
  ram.set (ramOffset bank address) value

/-- The image a save of a mapper without mapper data writes. -/
def plainBatteryState (hasBattery : Bool) (ram : List Byte) : Option BatteryState :=
  if hasBattery then some ⟨1, ram, []⟩ else none

/-- `value & 0x0f == 0x0a`, the value that enables the external RAM. -/
def enablesRam (value : Byte) : Bool := value &&& 0x0f == 0x0a

/-! ## ROM only -/

structure RomOnly where
  rom : List Byte
  ram : List Byte
  hasBattery : Bool
deriving DecidableEq, Repr

namespace RomOnly

def new (rom : List Byte) (ramBytes : Nat) (hasBattery : Bool)
    (persisted : Option BatteryState) : Except CoreError RomOnly := do
  let ram ← persistedRam persisted ramBytes hasBattery
  requireNoMapperData persisted "ROM-only persisted mapper data must be empty"
  return { rom := rom, ram := ram, hasBattery := hasBattery }

def readRom (m : RomOnly) (address : Word) : Byte := m.rom.getD address.toNat 0xff

def writeRom (m : RomOnly) (_address : Word) (_value : Byte) : RomOnly := m

def readRam (m : RomOnly) (address : Word) : Byte := ramByte m.ram 0 address

def writeRam (m : RomOnly) (address : Word) (value : Byte) : RomOnly :=
  { m with ram := writeRamByte m.ram 0 address value }

def reset (m : RomOnly) : RomOnly := m

def batteryState (m : RomOnly) : Option BatteryState := plainBatteryState m.hasBattery m.ram

end RomOnly

/-! ## MBC1 -/

structure Mbc1 where
  rom : List Byte
  ram : List Byte
  romBanks : Nat
  ramEnabled : Bool
  romBankLow : Byte
  bankHigh : Byte
  ramBankingMode : Bool
  hasBattery : Bool
deriving DecidableEq, Repr

namespace Mbc1

def new (rom : List Byte) (ramBytes : Nat) (hasBattery : Bool)
    (persisted : Option BatteryState) : Except CoreError Mbc1 := do
  let ram ← persistedRam persisted ramBytes hasBattery
  requireNoMapperData persisted "MBC1 persisted mapper data must be empty"
  return {
    rom := rom
    ram := ram
    romBanks := rom.length / 0x4000
    ramEnabled := false
    romBankLow := 1
    bankHigh := 0
    ramBankingMode := false
    hasBattery := hasBattery }

def fixedBank (m : Mbc1) : Nat :=
  if m.ramBankingMode then (m.bankHigh.toNat <<< 5) % m.romBanks else 0

/-- Five trailing zeros, of which 0 has more than enough, are the divisibility by 32. -/
def switchBank (m : Mbc1) : Nat :=
  let rawBank := (m.bankHigh.toNat <<< 5) ||| m.romBankLow.toNat
  (if rawBank % 32 = 0 then rawBank + 1 else rawBank) % m.romBanks

def ramBank (m : Mbc1) : Nat := if m.ramBankingMode then m.bankHigh.toNat else 0

def readRom (m : Mbc1) (address : Word) : Byte :=
  romByte m.rom (if address < 0x4000 then m.fixedBank else m.switchBank) address

def writeRom (m : Mbc1) (address : Word) (value : Byte) : Mbc1 :=
  if address < 0x2000 then { m with ramEnabled := enablesRam value }
  else if address < 0x4000 then { m with romBankLow := value &&& 0x1f }
  else if address < 0x6000 then { m with bankHigh := value &&& 0x03 }
  else if address < 0x8000 then { m with ramBankingMode := value &&& 1 != 0 }
  else m

def readRam (m : Mbc1) (address : Word) : Byte :=
  if m.ramEnabled then ramByte m.ram m.ramBank address else 0xff

def writeRam (m : Mbc1) (address : Word) (value : Byte) : Mbc1 :=
  if m.ramEnabled then { m with ram := writeRamByte m.ram m.ramBank address value } else m

def reset (m : Mbc1) : Mbc1 :=
  { m with ramEnabled := false, romBankLow := 1, bankHigh := 0, ramBankingMode := false }

def batteryState (m : Mbc1) : Option BatteryState := plainBatteryState m.hasBattery m.ram

end Mbc1

/-! ## MBC5 -/

structure Mbc5 where
  rom : List Byte
  ram : List Byte
  romBanks : Nat
  ramBanks : Nat
  ramEnabled : Bool
  romBank : Word
  ramBank : Nat
  hasRumble : Bool
  hasBattery : Bool
deriving DecidableEq, Repr

namespace Mbc5

def new (rom : List Byte) (ramBytes : Nat) (hasRumble hasBattery : Bool)
    (persisted : Option BatteryState) : Except CoreError Mbc5 := do
  let ram ← persistedRam persisted ramBytes hasBattery
  requireNoMapperData persisted "MBC5 persisted mapper data must be empty"
  return {
    rom := rom
    ram := ram
    romBanks := rom.length / 0x4000
    ramBanks := Header.externalRamBanks ram.length
    ramEnabled := false
    romBank := 1
    ramBank := 0
    hasRumble := hasRumble
    hasBattery := hasBattery }

def readRom (m : Mbc5) (address : Word) : Byte :=
  romByte m.rom (if address < 0x4000 then 0 else m.romBank.toNat % m.romBanks) address

def writeRom (m : Mbc5) (address : Word) (value : Byte) : Mbc5 :=
  if address < 0x2000 then { m with ramEnabled := enablesRam value }
  else if address < 0x3000 then
    { m with romBank := (m.romBank &&& 0x100) ||| value.setWidth 16 }
  else if address < 0x4000 then
    { m with romBank := (m.romBank &&& (0x0ff : Word)) ||| ((value &&& 1).setWidth 16 <<< 8) }
  else if address < 0x6000 then
    let selected := value &&& if m.hasRumble then 0x07 else 0x0f
    { m with ramBank := if m.ramBanks = 0 then 0 else selected.toNat % m.ramBanks }
  else m

def readRam (m : Mbc5) (address : Word) : Byte :=
  if m.ramEnabled then ramByte m.ram m.ramBank address else 0xff

def writeRam (m : Mbc5) (address : Word) (value : Byte) : Mbc5 :=
  if m.ramEnabled then { m with ram := writeRamByte m.ram m.ramBank address value } else m

def reset (m : Mbc5) : Mbc5 := { m with ramEnabled := false, romBank := 1, ramBank := 0 }

def batteryState (m : Mbc5) : Option BatteryState := plainBatteryState m.hasBattery m.ram

end Mbc5

end Pockiva
