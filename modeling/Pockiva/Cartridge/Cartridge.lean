import Pockiva.Cartridge.Mbc3

/-! # The cartridge

`load` validates an image and builds its mapper; reads and writes are routed to
it by address.
-/
namespace Pockiva

open Validation

/-- `Box<dyn Mapper>`: one of the four mappers. -/
inductive Mapper where
  | romOnly (m : RomOnly)
  | mbc1 (m : Mbc1)
  | mbc3 (m : Mbc3)
  | mbc5 (m : Mbc5)
deriving DecidableEq, Repr

namespace Mapper

def readRom (m : Mapper) (address : Word) : Byte :=
  match m with
  | romOnly m => m.readRom address
  | mbc1 m => m.readRom address
  | mbc3 m => m.readRom address
  | mbc5 m => m.readRom address

def writeRom (m : Mapper) (address : Word) (value : Byte) (now : Nat) : Mapper :=
  match m with
  | romOnly m => romOnly (m.writeRom address value)
  | mbc1 m => mbc1 (m.writeRom address value)
  | mbc3 m => mbc3 (m.writeRom address value now)
  | mbc5 m => mbc5 (m.writeRom address value)

def readRam (m : Mapper) (address : Word) : Byte :=
  match m with
  | romOnly m => m.readRam address
  | mbc1 m => m.readRam address
  | mbc3 m => m.readRam address
  | mbc5 m => m.readRam address

def writeRam (m : Mapper) (address : Word) (value : Byte) (now : Nat) : Mapper :=
  match m with
  | romOnly m => romOnly (m.writeRam address value)
  | mbc1 m => mbc1 (m.writeRam address value)
  | mbc3 m => mbc3 (m.writeRam address value now)
  | mbc5 m => mbc5 (m.writeRam address value)

def reset (m : Mapper) (now : Nat) : Mapper :=
  match m with
  | romOnly m => romOnly m.reset
  | mbc1 m => mbc1 m.reset
  | mbc3 m => mbc3 (m.reset now)
  | mbc5 m => mbc5 m.reset

def batteryState (m : Mapper) (now : Nat) : Option BatteryState :=
  match m with
  | romOnly m => m.batteryState
  | mbc1 m => m.batteryState
  | mbc3 m => m.batteryState now
  | mbc5 m => m.batteryState

/-- The external RAM of the mapper. -/
def ram : Mapper → List Byte
  | romOnly m => m.ram
  | mbc1 m => m.ram
  | mbc3 m => m.ram
  | mbc5 m => m.ram

/-- The clock of the mapper, if it has one. -/
def rtc : Mapper → Option RtcState
  | mbc3 m => m.rtc
  | _ => none

/-- The constructor the header asks for. -/
def new (header : Header) (rom : List Byte) (persisted : Option BatteryState) (now : Nat) :
    Except CoreError Mapper :=
  match header.features.mapper with
  | .romOnly =>
    romOnly <$> RomOnly.new rom header.ramBytes header.features.hasBattery persisted
  | .mbc1 => mbc1 <$> Mbc1.new rom header.ramBytes header.features.hasBattery persisted
  | .mbc3 =>
    mbc3 <$> Mbc3.new rom header.ramBytes header.features.hasBattery header.features.hasTimer
      persisted now
  | .mbc5 =>
    mbc5 <$> Mbc5.new rom header.ramBytes header.features.hasRumble header.features.hasBattery
      persisted

end Mapper

structure Cartridge where
  metadata : CartridgeMetadata
  mapper : Mapper
deriving DecidableEq, Repr

namespace Cartridge

def load (rom : List Byte) (persisted : Option BatteryState) (now : Nat) :
    Except CoreError Cartridge := do
  let header ← Header.parse rom
  let mapper ← Mapper.new header rom persisted now
  return { metadata := header.metadata, mapper := mapper }

def read (c : Cartridge) (address : Word) : Byte :=
  if inRom address then c.mapper.readRom address
  else if inExternalRam address then c.mapper.readRam address
  else 0xff

def write (c : Cartridge) (address : Word) (value : Byte) (now : Nat) : Cartridge :=
  if inRom address then { c with mapper := c.mapper.writeRom address value now }
  else if inExternalRam address then { c with mapper := c.mapper.writeRam address value now }
  else c

def reset (c : Cartridge) (now : Nat) : Cartridge := { c with mapper := c.mapper.reset now }

def batteryState (c : Cartridge) (now : Nat) : Option BatteryState := c.mapper.batteryState now

end Cartridge

end Pockiva
