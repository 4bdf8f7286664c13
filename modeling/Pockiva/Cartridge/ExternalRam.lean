import Pockiva.Cartridge.Reachable
import Pockiva.Cartridge.Image

/-! # External RAM

A write to an enabled bank is read back and touches no other byte exactly when
the selected bank exists (`external_ram_law_iff`).  MBC5 reduces the bank it selects to
the banks there are; MBC1 and MBC3 do not, so on a cartridge with fewer banks than
they can select some selections lead nowhere.
-/
namespace Pockiva

open Transition Validation

namespace Mapper

/-- The external RAM is enabled and a bank of it, not a clock register, is
selected. -/
def RamSelected : Mapper → Prop
  | romOnly _ => True
  | mbc1 m => m.ramEnabled = true
  | mbc3 m => m.ramEnabled = true ∧ Mbc3.selectsRam m.selector
  | mbc5 m => m.ramEnabled = true

/-- The bank that the registers of the mapper select. -/
def selectedRamBank : Mapper → Nat
  | romOnly _ => 0
  | mbc1 m => m.ramBank
  | mbc3 m => m.selector.toNat
  | mbc5 m => m.ramBank

theorem readRam_of_selected {m : Mapper} (h : m.RamSelected) (address : Word) :
    m.readRam address = ramByte m.ram m.selectedRamBank address := by
  cases m with
  | romOnly m => rfl
  | mbc1 m => exact if_pos h
  | mbc3 m => rw [readRam, Mbc3.readRam, if_neg (by simp [h.1]), if_pos h.2]; rfl
  | mbc5 m => exact if_pos h

theorem writeRam_of_selected {m : Mapper} (h : m.RamSelected) (address : Word) (value : Byte)
    (now : Nat) :
    (m.writeRam address value now).ram = writeRamByte m.ram m.selectedRamBank address value ∧
      (m.writeRam address value now).RamSelected ∧
      (m.writeRam address value now).selectedRamBank = m.selectedRamBank := by
  cases m with
  | romOnly m => exact ⟨rfl, trivial, rfl⟩
  | mbc1 m =>
    have he : m.ramEnabled = true := h
    rw [writeRam, Mbc1.writeRam, if_pos he]
    exact ⟨rfl, he, rfl⟩
  | mbc3 m =>
    rw [writeRam, Mbc3.writeRam, if_neg (by simp [h.1]), if_pos h.2]
    exact ⟨rfl, h, rfl⟩
  | mbc5 m =>
    have he : m.ramEnabled = true := h
    rw [writeRam, Mbc5.writeRam, if_pos he]
    exact ⟨rfl, he, rfl⟩

/-- **The law of external RAM**: on a cartridge with `banks` banks the write is
read back, lands in the selected bank reduced to those there are, and changes no
other byte. -/
structure RamLaw (m : Mapper) (banks : Nat) (address : Word) (value : Byte) (now : Nat) : Prop where
  reads_back : (m.writeRam address value now).readRam address = value
  length_eq : (m.writeRam address value now).ram.length = m.ram.length
  written : (m.writeRam address value now).ram[ramOffset (m.selectedRamBank % banks) address]? =
    some value
  frame : ∀ i, i ≠ ramOffset (m.selectedRamBank % banks) address →
    (m.writeRam address value now).ram[i]? = m.ram[i]?

end Mapper

theorem offset_lt {address : Word} (h : inExternalRam address) :
    (address - 0xa000).toNat < 0x2000 := by
  obtain ⟨hlo, hhi⟩ := h
  rw [BitVec.le_def] at hlo hhi
  rw [BitVec.toNat_sub]
  simp at hlo hhi ⊢
  omega

/-- An address of an existing bank is an index of the RAM. -/
theorem ramOffset_lt {bank banks : Nat} {address : Word} (h : inExternalRam address)
    (hb : bank < banks) : ramOffset bank address < banks * 0x2000 := by
  have := offset_lt h
  unfold ramOffset
  omega

/-- Past the last bank there is nothing: reads see 0xFF. -/
theorem ramByte_of_le {ram : List Byte} {bank banks : Nat} (hlen : ram.length = banks * 0x2000)
    (hb : banks ≤ bank) (address : Word) : ramByte ram bank address = 0xff := by
  rw [ramByte, List.getD_eq_getElem?_getD, List.getElem?_eq_none, Option.getD_none]
  unfold ramOffset
  omega

namespace Mapper
variable {m : Mapper} {banks : Nat}

theorem ramLaw_of_lt (hsel : m.RamSelected) (hlen : m.ram.length = banks * 0x2000)
    (hb : m.selectedRamBank < banks) {address : Word} (ha : inExternalRam address) (value : Byte)
    (now : Nat) : RamLaw m banks address value now := by
  obtain ⟨hram, hsel', hbank'⟩ := writeRam_of_selected hsel address value now
  have hlt : ramOffset m.selectedRamBank address < m.ram.length := by
    rw [hlen]
    exact ramOffset_lt ha hb
  have hself : (m.writeRam address value now).ram[ramOffset m.selectedRamBank address]? =
      some value := by
    rw [hram, writeRamByte, List.getElem?_set_self hlt]
  refine ⟨?_, ?_, ?_, ?_⟩
  · rw [readRam_of_selected hsel', hbank', ramByte, List.getD_eq_getElem?_getD, hself,
      Option.getD_some]
  · rw [hram, length_writeRamByte]
  · rw [Nat.mod_eq_of_lt hb, hself]
  · intro i hi
    rw [Nat.mod_eq_of_lt hb] at hi
    rw [hram, writeRamByte, List.getElem?_set_ne (Ne.symm hi)]

/-- A bank past the last one drops the write. -/
theorem reads_ff_of_le (hsel : m.RamSelected) (hlen : m.ram.length = banks * 0x2000)
    (hb : banks ≤ m.selectedRamBank) (address : Word) (value : Byte) (now : Nat) :
    (m.writeRam address value now).readRam address = 0xff := by
  obtain ⟨hram, hsel', hbank'⟩ := writeRam_of_selected hsel address value now
  rw [readRam_of_selected hsel', hbank', hram]
  exact ramByte_of_le (by rw [length_writeRamByte, hlen]) hb address

theorem Fits.ram_length {header : Header} {rom : List Byte} (h : Fits header rom m) :
    m.ram.length = header.ramBytes := by
  cases h <;> assumption

end Mapper

/-- **A RAM bank obeys the law exactly when it exists.** -/
theorem external_ram_law_iff {rom : List Byte} {clock : Nat → Prop} {header : Header}
    {c : Cartridge} {banks : Nat} (hc : Reachable (Cartridge.system rom clock) c)
    (hp : Header.parse rom = .ok header) (hbanks : header.ramBytes = banks * 0x2000)
    (hsel : c.mapper.RamSelected) (now : Nat) :
    (∀ address value, inExternalRam address → c.mapper.RamLaw banks address value now) ↔
      c.mapper.selectedRamBank < banks := by
  have hlen : c.mapper.ram.length = banks * 0x2000 := by
    rw [(Cartridge.fits_of_reachable hp hc).2.ram_length, hbanks]
  constructor
  · intro hlaw
    by_contra hb
    have hin : inExternalRam 0xa000 := by decide
    have hback := (hlaw 0xa000 0 hin).reads_back
    rw [Mapper.reads_ff_of_le hsel hlen (Nat.le_of_not_lt hb)] at hback
    exact absurd hback (by decide)
  · intro hb address value ha
    exact Mapper.ramLaw_of_lt hsel hlen hb ha value now

/-! ## A cartridge with one bank of RAM -/

/-- The bytes of a 32 KiB MBC1 image with a battery and 8 KiB of RAM. -/
def mbc1Content (i : Nat) : Byte :=
  if i = 0x147 then 0x03 else if i = 0x149 then 0x02 else if i = 0x14d then 0xe2 else 0

def mbc1Header : Header where
  metadata := ⟨.mbc1, .dmg, 0x2000, true⟩
  features := ⟨.mbc1, true, true, false, false⟩
  romBanks := 2
  ramBytes := 0x2000

theorem parse_mbc1Image : Header.parse (imageOf 2 mbc1Content) = .ok mbc1Header := by
  have hcompat : Header.compatibilityOf (mbc1Content 0x143) = .ok .dmg := by decide
  have hfeatures : Header.featuresOf (mbc1Content 0x147) = .ok mbc1Header.features := by decide
  have hbanks : Header.romBanksOf (mbc1Content 0x148) = .ok 2 := by decide
  have hram : Header.ramBytesOf (mbc1Content 0x149) = .ok 0x2000 := by decide
  exact parse_imageOf (by decide) hcompat hfeatures hbanks hram (by decide) (.inr rfl) (by decide)

/-- One bank of fresh RAM. -/
def blankBank : List Byte := List.replicate 0x2000 0

/-- The mapper of that image with RAM enabled and the given mode and bank. -/
def enabledMbc1 (mode : Bool) (bankHigh : Byte) : Mbc1 where
  rom := imageOf 2 mbc1Content
  ram := blankBank
  romBanks := 2
  ramEnabled := true
  romBankLow := 1
  bankHigh := bankHigh
  ramBankingMode := mode
  hasBattery := true

/-- A write to the registers of that mapper. -/
theorem apply_writeRom (m : Mbc1) {address : Word} (value : Byte) (h : inRom address) :
    Cartridge.apply ⟨mbc1Header.metadata, .mbc1 m⟩ (.write address value 0) =
      ⟨mbc1Header.metadata, .mbc1 (m.writeRom address value)⟩ := by
  rw [Cartridge.apply, Cartridge.write, if_pos h]
  rfl

theorem reachable_enabledMbc1 :
    Reachable (Cartridge.system (imageOf 2 mbc1Content) fun _ => True)
      ⟨mbc1Header.metadata, .mbc1 (enabledMbc1 false 0)⟩ := by
  have hnew : Mbc1.new (imageOf 2 mbc1Content) 0x2000 true none =
      .ok { enabledMbc1 false 0 with ramEnabled := false } := by
    simp only [Mbc1.new, bind_eq_ok, pure_eq_ok, length_imageOf]
    exact ⟨blankBank, by rw [persistedRam, blankBank], (), requireNoMapperData_none _,
      by simp [enabledMbc1]⟩
  have hload : Cartridge.load (imageOf 2 mbc1Content) none 0 =
      .ok ⟨mbc1Header.metadata, .mbc1 { enabledMbc1 false 0 with ramEnabled := false }⟩ :=
    Cartridge.load_eq_ok.mpr ⟨mbc1Header, parse_mbc1Image, rfl, map_eq_ok.mpr ⟨_, hnew, rfl⟩⟩
  have hstart : Reachable (Cartridge.system (imageOf 2 mbc1Content) fun _ => True) _ :=
    .start ⟨none, 0, trivial, hload⟩
  refine hstart.step (i := .write 0x0000 0x0a 0) ⟨trivial, ?_⟩
  rw [apply_writeRom _ _ (by decide)]
  simp [Mbc1.writeRom, enabledMbc1, enablesRam]

/-- Mode 1 and bank 1 selected, after RAM is enabled. -/
theorem reachable_hole :
    Reachable (Cartridge.system (imageOf 2 mbc1Content) fun _ => True)
      ⟨mbc1Header.metadata, .mbc1 (enabledMbc1 true 1)⟩ := by
  have hmode := reachable_enabledMbc1.step (i := .write 0x6000 0x01 0) ⟨trivial, rfl⟩
  rw [apply_writeRom _ _ (by decide)] at hmode
  refine hmode.step (i := .write 0x4000 0x01 0) ⟨trivial, ?_⟩
  rw [apply_writeRom _ _ (by decide)]
  simp [Mbc1.writeRom, enabledMbc1]

theorem external_ram_law_enabledMbc1 :
    (Mapper.mbc1 (enabledMbc1 false 0)).RamLaw 1 0xa000 0x5a 0 :=
  (external_ram_law_iff reachable_enabledMbc1 parse_mbc1Image rfl rfl 0).mpr (by decide)
    0xa000 0x5a (by decide)

/-- Bank 1 of a cartridge with one bank is a hole: 5A written to A000 reads FF. -/
theorem mbc1_bank_hole :
    Header.parse (imageOf 2 mbc1Content) = .ok mbc1Header ∧ mbc1Header.ramBytes = 1 * 0x2000 ∧
      ¬ ∀ c : Cartridge, Reachable (Cartridge.system (imageOf 2 mbc1Content) fun _ => True) c →
        c.mapper.RamSelected → c.mapper.RamLaw 1 0xa000 0x5a 0 := by
  refine ⟨parse_mbc1Image, rfl, fun hlaw => ?_⟩
  have hback := (hlaw _ reachable_hole rfl).reads_back
  have hlen : (Mapper.mbc1 (enabledMbc1 true 1)).ram.length = 1 * 0x2000 :=
    List.length_replicate ..
  have hsel : (Mapper.mbc1 (enabledMbc1 true 1)).RamSelected := rfl
  have hff := Mapper.reads_ff_of_le hsel hlen (by decide) 0xa000 0x5a 0
  exact absurd (hff.symm.trans hback) (by decide)

/-- The mapper that reduces the bank it selects, and the one that has no bank
registers, always select a bank that exists. -/
theorem selectedRamBank_lt {rom : List Byte} {clock : Nat → Prop} {header : Header} {c : Cartridge}
    {banks : Nat} (hc : Reachable (Cartridge.system rom clock) c)
    (hp : Header.parse rom = .ok header) (hbanks : header.ramBytes = banks * 0x2000)
    (hpos : 0 < banks)
    (hkind : header.features.mapper = .romOnly ∨ header.features.mapper = .mbc5) :
    c.mapper.selectedRamBank < banks := by
  have hcount : Header.externalRamBanks header.ramBytes = banks := by
    unfold Header.externalRamBanks
    omega
  obtain ⟨-, hm⟩ := Cartridge.fits_of_reachable hp hc
  generalize c.mapper = m at hm
  cases hm with
  | romOnly => exact hpos
  | mbc1 kind => simp [kind] at hkind
  | mbc3 kind => simp [kind] at hkind
  | mbc5 _ _ _ _ _ ram_banks _ selected =>
    rw [ram_banks, hcount] at selected
    exact selected (Nat.ne_of_gt hpos)

end Pockiva
