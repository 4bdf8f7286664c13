import Pockiva.Contracts
import Pockiva.Lib.Validation

/-! # The cartridge header

`parse` validates an image and reads what the mappers need from it.
-/
namespace Pockiva

open Validation

structure Features where
  mapper : MapperKind
  hasRam : Bool
  hasBattery : Bool
  hasTimer : Bool
  hasRumble : Bool
deriving DecidableEq, Repr

structure Header where
  metadata : CartridgeMetadata
  features : Features
  romBanks : Nat
  ramBytes : Nat
deriving DecidableEq, Repr

namespace Header

/-- The byte of the image at `offset`; `parse` has checked that the header is
there. -/
def byteAt (rom : List Byte) (offset : Nat) : Byte := rom.getD offset 0

def featuresOf (typeByte : Byte) : Except CoreError Features :=
  match typeByte.toNat with
  | 0x00 => .ok ⟨.romOnly, false, false, false, false⟩
  | 0x08 => .ok ⟨.romOnly, true, false, false, false⟩
  | 0x09 => .ok ⟨.romOnly, true, true, false, false⟩
  | 0x01 => .ok ⟨.mbc1, false, false, false, false⟩
  | 0x02 => .ok ⟨.mbc1, true, false, false, false⟩
  | 0x03 => .ok ⟨.mbc1, true, true, false, false⟩
  | 0x0f => .ok ⟨.mbc3, false, true, true, false⟩
  | 0x10 => .ok ⟨.mbc3, true, true, true, false⟩
  | 0x11 => .ok ⟨.mbc3, false, false, false, false⟩
  | 0x12 => .ok ⟨.mbc3, true, false, false, false⟩
  | 0x13 => .ok ⟨.mbc3, true, true, false, false⟩
  | 0x19 => .ok ⟨.mbc5, false, false, false, false⟩
  | 0x1a => .ok ⟨.mbc5, true, false, false, false⟩
  | 0x1b => .ok ⟨.mbc5, true, true, false, false⟩
  | 0x1c => .ok ⟨.mbc5, false, false, false, true⟩
  | 0x1d => .ok ⟨.mbc5, true, false, false, true⟩
  | 0x1e => .ok ⟨.mbc5, true, true, false, true⟩
  | _ => .error (.unsupportedMapper typeByte)

def romBanksOf (code : Byte) : Except CoreError Nat :=
  if code ≤ 0x08 then .ok (2 <<< code.toNat)
  else if code = 0x52 then .ok 72
  else if code = 0x53 then .ok 80
  else if code = 0x54 then .ok 96
  else .error (.invalidRom "unsupported ROM size code")

def ramBytesOf (code : Byte) : Except CoreError Nat :=
  match code.toNat with
  | 0x00 => .ok 0
  | 0x01 => .ok 0x0800
  | 0x02 => .ok 0x2000
  | 0x03 => .ok 0x8000
  | 0x04 => .ok 0x20000
  | 0x05 => .ok 0x10000
  | _ => .error (.invalidRom "unsupported RAM size code")

/-- The number of 8 KiB banks, a last partial one counted. -/
def externalRamBanks (ramBytes : Nat) : Nat := (ramBytes + 0x1fff) / 0x2000

/-- The capacities the mapper can address. -/
def CapacityValid (features : Features) (romBanks ramBytes : Nat) : Prop :=
  match features.mapper with
  | .romOnly => romBanks ≤ 2 ∧ ramBytes ≤ 0x2000
  | .mbc1 => romBanks ≤ 128 ∧ externalRamBanks ramBytes ≤ 4
  | .mbc3 => romBanks ≤ 128 ∧ externalRamBanks ramBytes ≤ 4
  | .mbc5 => romBanks ≤ 512 ∧ externalRamBanks ramBytes ≤ if features.hasRumble then 8 else 16

instance (features : Features) (romBanks ramBytes : Nat) :
    Decidable (CapacityValid features romBanks ramBytes) := by
  unfold CapacityValid
  cases features.mapper <;> infer_instance

def validateCapacity (features : Features) (romBanks ramBytes : Nat) : Except CoreError Unit :=
  require (CapacityValid features romBanks ramBytes)
    (.invalidRom "declared cartridge capacity exceeds mapper limits")

def compatibilityOf (flag : Byte) : Except CoreError CompatibilityMode :=
  if flag = 0xc0 then .error .unsupportedCgbOnlyCartridge
  else if flag = 0x80 then .ok .dmgCompatible
  else .ok .dmg

/-- The header checksum over bytes 0134–014C. -/
def checksum (rom : List Byte) : Byte :=
  ((rom.drop 0x134).take 0x19).foldl (fun sum byte => sum - byte - 1) 0

def parse (rom : List Byte) : Except CoreError Header := do
  require (0x150 ≤ rom.length) (.invalidRom "image is shorter than its header")
  let compatibility ← compatibilityOf (byteAt rom 0x143)
  let features ← featuresOf (byteAt rom 0x147)
  let romBanks ← romBanksOf (byteAt rom 0x148)
  let ramBytes ← ramBytesOf (byteAt rom 0x149)
  require (rom.length = romBanks * 0x4000)
    (.invalidRom "image length does not match declared ROM size")
  require (checksum rom = byteAt rom 0x14d) (.invalidRom "header checksum mismatch")
  require (ramBytes = 0 ∨ features.hasRam = true)
    (.invalidRom "header declares RAM for a cartridge type without RAM")
  validateCapacity features romBanks ramBytes
  return {
    metadata := {
      mapper := features.mapper
      compatibility := compatibility
      ramSizeBytes := ramBytes
      hasBattery := features.hasBattery }
    features := features
    romBanks := romBanks
    ramBytes := ramBytes }

/-- What an accepted header promises about its image. -/
structure Accepts (rom : List Byte) (h : Header) : Prop where
  metadata_eq : h.metadata.hasBattery = h.features.hasBattery
  features_eq : featuresOf (byteAt rom 0x147) = .ok h.features
  romBanks_eq : romBanksOf (byteAt rom 0x148) = .ok h.romBanks
  ramBytes_eq : ramBytesOf (byteAt rom 0x149) = .ok h.ramBytes
  length_eq : rom.length = h.romBanks * 0x4000
  checksum_eq : checksum rom = byteAt rom 0x14d
  ram_allowed : h.ramBytes = 0 ∨ h.features.hasRam = true
  capacity : CapacityValid h.features h.romBanks h.ramBytes

/-- **What `parse` has checked when it succeeds.** -/
theorem accepts_of_parse {rom : List Byte} {h : Header} (hp : parse rom = .ok h) :
    Accepts rom h := by
  simp only [parse, validateCapacity, bind_eq_ok, require_eq_ok, exists_const,
    pure_eq_ok] at hp
  obtain ⟨-, compatibility, -, features, hf, romBanks, hrom, ramBytes, hram, hlen, hsum, hallow,
    hcap, rfl⟩ := hp
  exact ⟨rfl, hf, hrom, hram, hlen, hsum, hallow, hcap⟩

end Header

end Pockiva
