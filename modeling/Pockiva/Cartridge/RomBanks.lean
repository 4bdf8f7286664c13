import Pockiva.Cartridge.ExternalRam

/-! # ROM banks

Every read below 8000 finds a byte of the image: the bank is the one the last
writes ask for, reduced to the banks there are (`rom_banking`).  What was last
written is read off the history of the cartridge (`lastWritten`), and each mapper's
bank registers hold it (`Mapper.Remembers`).  The number of banks need not be a power
of two.
-/
namespace Pockiva

open Transition Validation

namespace Cartridge

/-- The last value written to an address from `first` up to `limit` since the last
reset, and `initial` if there is none. -/
def lastWritten (first limit : Word) (initial : Byte) (history : List Op) : Byte :=
  history.foldl (fun last op =>
    match op with
    | .write address value _ => if first ≤ address ∧ address < limit then value else last
    | .reset _ => initial) initial

@[simp] theorem lastWritten_reset (first limit : Word) (initial : Byte) (history : List Op)
    (now : Nat) : lastWritten first limit initial (history ++ [.reset now]) = initial := by
  rw [lastWritten, List.foldl_append, List.foldl_cons, List.foldl_nil]

theorem lastWritten_write (first limit : Word) (initial : Byte) (history : List Op)
    (address : Word) (value : Byte) (now : Nat) :
    lastWritten first limit initial (history ++ [.write address value now]) =
      if first ≤ address ∧ address < limit then value
      else lastWritten first limit initial history := by
  rw [lastWritten, List.foldl_append, List.foldl_cons, List.foldl_nil]
  rfl

theorem lastWritten_of_mem {first limit address : Word} (h : first ≤ address ∧ address < limit)
    (initial : Byte) (history : List Op) (value : Byte) (now : Nat) :
    lastWritten first limit initial (history ++ [.write address value now]) = value := by
  rw [lastWritten_write, if_pos h]

theorem lastWritten_of_not_mem {first limit address : Word}
    (h : ¬ (first ≤ address ∧ address < limit)) (initial : Byte) (history : List Op) (value : Byte)
    (now : Nat) :
    lastWritten first limit initial (history ++ [.write address value now]) =
      lastWritten first limit initial history := by
  rw [lastWritten_write, if_neg h]

/-- The bank an address below 8000 reads, by the mapper's specification. -/
def specifiedBank (kind : MapperKind) (banks : Nat) (history : List Op) (address : Word) : Nat :=
  match kind with
  | .romOnly => if address < 0x4000 then 0 else 1
  | .mbc1 =>
    let low := (lastWritten 0x2000 0x4000 1 history).toNat % 32
    let high := (lastWritten 0x4000 0x6000 0 history).toNat % 4
    let mode := (lastWritten 0x6000 0x8000 0 history).toNat % 2
    if address < 0x4000 then (if mode = 1 then high * 32 % banks else 0)
    else (high * 32 + low + if low = 0 then 1 else 0) % banks
  | .mbc3 =>
    let value := (lastWritten 0x2000 0x4000 1 history).toNat % 128
    if address < 0x4000 then 0 else (if value = 0 then 1 else value) % banks
  | .mbc5 =>
    let low := (lastWritten 0x2000 0x3000 1 history).toNat
    let ninth := (lastWritten 0x3000 0x4000 0 history).toNat % 2
    if address < 0x4000 then 0 else (ninth * 256 + low) % banks

/-- The offset in the image of an address below 8000 that reads `bank`. -/
def romOffset (bank : Nat) (address : Word) : Nat := bank * 0x4000 + address.toNat % 0x4000

end Cartridge

namespace Mapper

open Cartridge (lastWritten lastWritten_reset lastWritten_of_mem lastWritten_of_not_mem)

/-- The image of the mapper. -/
def image : Mapper → List Byte
  | romOnly m => m.rom
  | mbc1 m => m.rom
  | mbc3 m => m.rom
  | mbc5 m => m.rom

/-- The offset at which `read_rom` looks into the image. -/
def romIndex (m : Mapper) (address : Word) : Nat :=
  match m with
  | romOnly _ => address.toNat
  | mbc1 m => (if address < 0x4000 then m.fixedBank else m.switchBank) * 0x4000
      + (address &&& 0x3fff).toNat
  | mbc3 m => (if address < 0x4000 then 0 else m.romBank.toNat % m.romBanks) * 0x4000
      + (address &&& 0x3fff).toNat
  | mbc5 m => (if address < 0x4000 then 0 else m.romBank.toNat % m.romBanks) * 0x4000
      + (address &&& 0x3fff).toNat

theorem readRom_eq (m : Mapper) (address : Word) :
    m.readRom address = m.image.getD (m.romIndex address) 0xff := by
  cases m <;> rfl

/-- The bank registers hold what was last written to them. -/
def Remembers (history : List Cartridge.Op) : Mapper → Prop
  | romOnly _ => True
  | mbc1 m =>
    m.romBankLow = lastWritten 0x2000 0x4000 1 history &&& 0x1f ∧
      m.bankHigh = lastWritten 0x4000 0x6000 0 history &&& 0x03 ∧
      m.ramBankingMode = (lastWritten 0x6000 0x8000 0 history &&& 1 != 0)
  | mbc3 m =>
    m.romBank = if lastWritten 0x2000 0x4000 1 history &&& 0x7f = 0 then 1
      else lastWritten 0x2000 0x4000 1 history &&& 0x7f
  | mbc5 m =>
    m.romBank = (lastWritten 0x2000 0x3000 1 history).setWidth 16 |||
      ((lastWritten 0x3000 0x4000 0 history &&& 1).setWidth 16 <<< 8)

variable {history : List Cartridge.Op}

theorem remembers_mbc1 (m : Mbc1) : (mbc1 m).Remembers history ↔
    m.romBankLow = lastWritten 0x2000 0x4000 1 history &&& 0x1f ∧
      m.bankHigh = lastWritten 0x4000 0x6000 0 history &&& 0x03 ∧
      m.ramBankingMode = (lastWritten 0x6000 0x8000 0 history &&& 1 != 0) := Iff.rfl

theorem remembers_mbc3 (m : Mbc3) : (mbc3 m).Remembers history ↔
    m.romBank = if lastWritten 0x2000 0x4000 1 history &&& 0x7f = 0 then 1
      else lastWritten 0x2000 0x4000 1 history &&& 0x7f := Iff.rfl

theorem remembers_mbc5 (m : Mbc5) : (mbc5 m).Remembers history ↔
    m.romBank = (lastWritten 0x2000 0x3000 1 history).setWidth 16 |||
      ((lastWritten 0x3000 0x4000 0 history &&& 1).setWidth 16 <<< 8) := Iff.rfl

/-! ## The registers through a run -/

theorem remembers_new {header : Header} {rom : List Byte} {persisted : Option BatteryState}
    {now : Nat} {m : Mapper} (h : Mapper.new header rom persisted now = .ok m) :
    m.Remembers [] := by
  unfold Mapper.new at h
  cases hk : header.features.mapper with
  | romOnly =>
    simp only [hk, map_eq_ok] at h
    obtain ⟨-, -, rfl⟩ := h
    trivial
  | mbc1 =>
    simp only [hk, Mbc1.new, map_eq_ok, bind_eq_ok, pure_eq_ok] at h
    obtain ⟨-, ⟨-, -, -, -, rfl⟩, rfl⟩ := h
    exact ⟨rfl, rfl, rfl⟩
  | mbc3 =>
    simp only [hk, Mbc3.new, map_eq_ok, bind_eq_ok, pure_eq_ok] at h
    obtain ⟨-, ⟨-, -, -, -, rfl⟩, rfl⟩ := h
    rfl
  | mbc5 =>
    simp only [hk, Mbc5.new, map_eq_ok, bind_eq_ok, pure_eq_ok] at h
    obtain ⟨-, ⟨-, -, -, -, rfl⟩, rfl⟩ := h
    rfl

theorem Remembers.reset {m : Mapper} (h : m.Remembers history) (now : Nat) :
    (m.reset now).Remembers (history ++ [.reset now]) := by
  cases m with
  | romOnly m => trivial
  | mbc1 m =>
    simp only [Mapper.reset, Remembers, lastWritten_reset]
    exact ⟨rfl, rfl, rfl⟩
  | mbc3 m =>
    simp only [Mapper.reset, Remembers, lastWritten_reset]
    rfl
  | mbc5 m =>
    simp only [Mapper.reset, Remembers, lastWritten_reset]
    rfl

theorem low_and_ninth : ∀ low : Byte, low.setWidth 16 &&& (0x100 : Word) = 0#16 := by decide

theorem low_and_low : ∀ low : Byte, low.setWidth 16 &&& (0x0ff : Word) = low.setWidth 16 := by
  decide

theorem ninth_and_ninth : ∀ high : Byte,
    (high &&& 1).setWidth 16 <<< 8 &&& (0x100 : Word) = (high &&& 1).setWidth 16 <<< 8 := by
  decide

theorem ninth_and_low : ∀ high : Byte,
    (high &&& 1).setWidth 16 <<< 8 &&& (0x0ff : Word) = 0#16 := by
  decide

theorem Remembers.writeRom {m : Mapper} (h : m.Remembers history) {address : Word}
    (ha : inRom address) (value : Byte) (now : Nat) :
    (m.writeRom address value now).Remembers (history ++ [.write address value now]) := by
  unfold inRom at ha
  -- The windows of a mapper are disjoint: the write is the last to one register only.
  cases m with
  | romOnly m => trivial
  | mbc1 m =>
    obtain ⟨hlow, hhigh, hmode⟩ := h
    rw [Mapper.writeRom, Mbc1.writeRom, remembers_mbc1]
    by_cases h2 : address < 0x2000
    · rw [if_pos h2, lastWritten_of_not_mem (by bv_omega), lastWritten_of_not_mem (by bv_omega),
        lastWritten_of_not_mem (by bv_omega)]
      exact ⟨hlow, hhigh, hmode⟩
    by_cases h4 : address < 0x4000
    · rw [if_neg h2, if_pos h4, lastWritten_of_mem (by bv_omega),
        lastWritten_of_not_mem (by bv_omega), lastWritten_of_not_mem (by bv_omega)]
      exact ⟨rfl, hhigh, hmode⟩
    by_cases h6 : address < 0x6000
    · rw [if_neg h2, if_neg h4, if_pos h6, lastWritten_of_not_mem (by bv_omega),
        lastWritten_of_mem (by bv_omega), lastWritten_of_not_mem (by bv_omega)]
      exact ⟨hlow, rfl, hmode⟩
    · rw [if_neg h2, if_neg h4, if_neg h6, if_pos ha, lastWritten_of_not_mem (by bv_omega),
        lastWritten_of_not_mem (by bv_omega), lastWritten_of_mem (by bv_omega)]
      exact ⟨hlow, hhigh, rfl⟩
  | mbc3 m =>
    rw [remembers_mbc3] at h
    rw [Mapper.writeRom, Mbc3.writeRom, remembers_mbc3]
    by_cases h2 : address < 0x2000
    · rw [if_pos h2, lastWritten_of_not_mem (by bv_omega)]
      exact h
    by_cases h4 : address < 0x4000
    · rw [if_neg h2, if_pos h4, lastWritten_of_mem (by bv_omega)]
    by_cases h6 : address < 0x6000
    · rw [if_neg h2, if_neg h4, if_pos h6, lastWritten_of_not_mem (by bv_omega)]
      exact h
    · rw [if_neg h2, if_neg h4, if_neg h6, if_pos ha, lastWritten_of_not_mem (by bv_omega)]
      exact h
  | mbc5 m =>
    rw [remembers_mbc5] at h
    rw [Mapper.writeRom, Mbc5.writeRom, remembers_mbc5]
    by_cases h2 : address < 0x2000
    · rw [if_pos h2, lastWritten_of_not_mem (by bv_omega), lastWritten_of_not_mem (by bv_omega)]
      exact h
    by_cases h3 : address < 0x3000
    · rw [if_neg h2, if_pos h3, lastWritten_of_mem (by bv_omega),
        lastWritten_of_not_mem (by bv_omega)]
      dsimp only
      -- The low byte is replaced under the ninth bit.
      rw [h, BitVec.and_or_distrib_right, low_and_ninth, ninth_and_ninth, BitVec.zero_or,
        BitVec.or_comm]
    by_cases h4 : address < 0x4000
    · rw [if_neg h2, if_neg h3, if_pos h4, lastWritten_of_not_mem (by bv_omega),
        lastWritten_of_mem (by bv_omega)]
      dsimp only
      rw [h, BitVec.and_or_distrib_right, low_and_low, ninth_and_low, BitVec.or_zero]
    · rw [if_neg h2, if_neg h3, if_neg h4, lastWritten_of_not_mem (by bv_omega),
        lastWritten_of_not_mem (by bv_omega)]
      split <;> exact h

theorem Remembers.writeRam {m : Mapper} (h : m.Remembers history) (address : Word) (value : Byte)
    (now : Nat) : (m.writeRam address value now).Remembers history := by
  cases m with
  | romOnly m => trivial
  | mbc1 m =>
    rw [Mapper.writeRam, Mbc1.writeRam]
    split <;> exact h
  | mbc3 m =>
    rw [Mapper.writeRam, Mbc3.writeRam]
    repeat' split
    all_goals exact h
  | mbc5 m =>
    rw [Mapper.writeRam, Mbc5.writeRam]
    split <;> exact h

/-- A write elsewhere is not to a bank register. -/
theorem Remembers.elsewhere {m : Mapper} (h : m.Remembers history) {address : Word}
    (ha : ¬ inRom address) (value : Byte) (now : Nat) :
    m.Remembers (history ++ [.write address value now]) := by
  unfold inRom at ha
  cases m with
  | romOnly m => trivial
  | mbc1 m =>
    rw [Remembers, lastWritten_of_not_mem (by bv_omega), lastWritten_of_not_mem (by bv_omega),
      lastWritten_of_not_mem (by bv_omega)]
    exact h
  | mbc3 m =>
    rw [Remembers, lastWritten_of_not_mem (by bv_omega)]
    exact h
  | mbc5 m =>
    rw [Remembers, lastWritten_of_not_mem (by bv_omega), lastWritten_of_not_mem (by bv_omega)]
    exact h

end Mapper

namespace Cartridge

/-- **The bank registers hold what was last written, through every run.** -/
theorem remembers_of_run {rom : List Byte} {clock : Nat → Prop} {persisted : Option BatteryState}
    {now : Nat} {fresh c : Cartridge} {history : List Op}
    (hload : load rom persisted now = .ok fresh)
    (hrun : Run (system rom clock) fresh history c) : c.mapper.Remembers history := by
  induction hrun with
  | nil =>
    obtain ⟨header, -, -, hnew⟩ := load_eq_ok.mp hload
    exact Mapper.remembers_new hnew
  | @snoc history c d op _ hstep ih =>
    obtain ⟨-, rfl⟩ := hstep
    cases op with
    | reset now => exact ih.reset now
    | write address value now =>
      simp only [Cartridge.apply, write]
      by_cases ha : inRom address
      · rw [if_pos ha]
        exact ih.writeRom ha value now
      · rw [if_neg ha]
        split
        · exact (ih.elsewhere ha value now).writeRam address value now
        · exact ih.elsewhere ha value now

end Cartridge

/-! ## The registers and the specified bank -/

theorem Header.two_le_romBanks {rom : List Byte} {header : Header}
    (hp : Header.parse rom = .ok header) : 2 ≤ header.romBanks := by
  have hcode := (Header.accepts_of_parse hp).romBanks_eq
  unfold Header.romBanksOf at hcode
  split at hcode
  · rw [← Except.ok.inj hcode, Nat.shiftLeft_eq]
    exact Nat.le_mul_of_pos_right 2 (Nat.two_pow_pos _)
  · split at hcode
    · rw [← Except.ok.inj hcode]
      decide
    · split at hcode
      · rw [← Except.ok.inj hcode]
        decide
      · split at hcode
        · rw [← Except.ok.inj hcode]
          decide
        · cases hcode

theorem toNat_and_3fff (address : Word) : (address &&& 0x3fff).toNat = address.toNat % 0x4000 :=
  (BitVec.toNat_and ..).trans (Nat.and_two_pow_sub_one_eq_mod _ 14)

/-- Five bits below the two high ones. -/
theorem Mbc1.rawBank_eq (high low : Nat) (h : low < 32) :
    high <<< 5 ||| low = high * 32 + low := by
  rw [← Nat.shiftLeft_add_eq_or_of_lt h, Nat.shiftLeft_eq]

theorem Mbc5.romBank_toNat (low high : Byte) :
    (low.setWidth 16 ||| ((high &&& 1).setWidth 16 <<< 8) : Word).toNat =
      high.toNat % 2 * 256 + low.toNat := by
  have hbit : (high &&& 1).toNat = high.toNat % 2 :=
    (BitVec.toNat_and ..).trans (Nat.and_two_pow_sub_one_eq_mod _ 1)
  have hlow := low.isLt
  rw [BitVec.toNat_or, BitVec.toNat_shiftLeft, BitVec.toNat_setWidth, BitVec.toNat_setWidth, hbit,
    Nat.mod_eq_of_lt (by omega : low.toNat < 2 ^ 16),
    Nat.mod_eq_of_lt (by omega : high.toNat % 2 < 2 ^ 16), Nat.shiftLeft_eq,
    Nat.mod_eq_of_lt (by omega : high.toNat % 2 * 2 ^ 8 < 2 ^ 16), Nat.or_comm,
    ← Nat.shiftLeft_eq, ← Nat.shiftLeft_add_eq_or_of_lt hlow, Nat.shiftLeft_eq]

namespace Mapper

open Cartridge (lastWritten romOffset specifiedBank)

variable {header : Header} {rom : List Byte} {history : List Cartridge.Op} {m : Mapper}

theorem Fits.image_eq (h : Fits header rom m) : m.image = rom := by
  cases h <;> assumption

/-- The code looks where the specification says. -/
theorem romIndex_eq (hfits : Fits header rom m) (h : m.Remembers history) {address : Word}
    (ha : inRom address) :
    m.romIndex address =
      romOffset (specifiedBank header.features.mapper header.romBanks history address)
        address := by
  cases hfits with
  | romOnly kind =>
    have hlt : address.toNat < 0x8000 := ha
    rw [romIndex, romOffset, kind, specifiedBank]
    split
    · bv_omega
    · bv_omega
  | @mbc1 m kind _ _ _ rom_banks =>
    obtain ⟨hlow, hhigh, hmode⟩ := h
    have hlow' : m.romBankLow.toNat = (lastWritten 0x2000 0x4000 1 history).toNat % 32 := by
      rw [hlow]
      exact (BitVec.toNat_and ..).trans (Nat.and_two_pow_sub_one_eq_mod _ 5)
    have hhigh' : m.bankHigh.toNat = (lastWritten 0x4000 0x6000 0 history).toNat % 4 := by
      rw [hhigh]
      exact (BitVec.toNat_and ..).trans (Nat.and_two_pow_sub_one_eq_mod _ 2)
    have hmode' : m.ramBankingMode = true ↔
        (lastWritten 0x6000 0x8000 0 history).toNat % 2 = 1 := by
      rw [hmode]
      generalize lastWritten 0x6000 0x8000 0 history = value
      revert value
      decide
    rw [romIndex, romOffset, kind, specifiedBank, toNat_and_3fff]
    rw [← hlow', ← hhigh', ← rom_banks]
    by_cases h4 : address < 0x4000
    · rw [if_pos h4, if_pos h4, Mbc1.fixedBank, Nat.shiftLeft_eq]
      simp only [hmode']
    · have hlt : m.romBankLow.toNat < 32 := by omega
      rw [if_neg h4, if_neg h4, Mbc1.switchBank, Mbc1.rawBank_eq _ _ hlt]
      -- The code tests the whole bank for `0x00`, `0x20`, `0x40` or `0x60`.
      by_cases hzero : m.romBankLow.toNat = 0
      · rw [if_pos (by omega), if_pos hzero]
      · rw [if_neg (by omega), if_neg hzero, Nat.add_zero]
  | @mbc3 m kind _ _ _ rom_banks =>
    have hbank : m.romBank.toNat =
        if (lastWritten 0x2000 0x4000 1 history).toNat % 128 = 0 then 1
        else (lastWritten 0x2000 0x4000 1 history).toNat % 128 := by
      rw [(remembers_mbc3 m).mp h]
      generalize lastWritten 0x2000 0x4000 1 history = value
      revert value
      decide
    rw [romIndex, romOffset, kind, specifiedBank, toNat_and_3fff]
    rw [← hbank, ← rom_banks]
  | @mbc5 m kind _ _ _ rom_banks =>
    have hbank : m.romBank.toNat = (lastWritten 0x3000 0x4000 0 history).toNat % 2 * 256
        + (lastWritten 0x2000 0x3000 1 history).toNat := by
      rw [(remembers_mbc5 m).mp h, Mbc5.romBank_toNat]
    rw [romIndex, romOffset, kind, specifiedBank, toNat_and_3fff]
    rw [← hbank, ← rom_banks]

end Mapper

namespace Cartridge

/-- The specified bank is one of the image's. -/
theorem specifiedBank_lt {rom : List Byte} {header : Header} (hp : Header.parse rom = .ok header)
    (history : List Op) (address : Word) :
    specifiedBank header.features.mapper header.romBanks history address < header.romBanks := by
  have htwo := Header.two_le_romBanks hp
  have hmod : ∀ n, n % header.romBanks < header.romBanks := by
    intro n
    exact Nat.mod_lt _ (by omega)
  unfold specifiedBank
  dsimp only
  split
  · split <;> omega
  · split
    · split
      · exact hmod _
      · omega
    · exact hmod _
  · split
    · omega
    · exact hmod _
  · split
    · omega
    · exact hmod _

/-- What a read below 8000 finds after `history`. -/
structure ReadsRom (header : Header) (rom : List Byte) (history : List Op) (c : Cartridge)
    (address : Word) : Prop where
  /-- No write changed the image. -/
  image_eq : c.mapper.image = rom
  /-- The code looks into the specified bank. -/
  index_eq : c.mapper.romIndex address =
    romOffset (specifiedBank header.features.mapper header.romBanks history address) address
  /-- The fallback of `rom_byte` is not taken. -/
  index_lt : c.mapper.romIndex address < c.mapper.image.length
  read_eq : rom[romOffset (specifiedBank header.features.mapper header.romBanks history address)
    address]? = some (c.read address)

/-- **ROM banking**: after any writes and resets every read below 8000 is the byte of
the image in the bank the history asks for. -/
theorem rom_banking {rom : List Byte} {header : Header} {persisted : Option BatteryState}
    {now : Nat} {fresh c : Cartridge} {history : List Op}
    (hp : Header.parse rom = .ok header) (hload : load rom persisted now = .ok fresh)
    (hrun : Run (system rom fun _ => True) fresh history c) {address : Word}
    (ha : inRom address) : ReadsRom header rom history c address := by
  have hstart : Reachable (system rom fun _ => True) fresh :=
    .start ⟨persisted, now, trivial, hload⟩
  have hfits := (fits_of_reachable hp (hrun.reachable hstart)).2
  have hindex := Mapper.romIndex_eq hfits (remembers_of_run hload hrun) ha
  have hlength := (Header.accepts_of_parse hp).length_eq
  have hbank := specifiedBank_lt hp history address
  have hoffset : address.toNat % 0x4000 < 0x4000 := Nat.mod_lt _ (by decide)
  have hlt : c.mapper.romIndex address < rom.length := by
    rw [hindex, hlength, romOffset]
    omega
  refine ⟨hfits.image_eq, hindex, by rwa [hfits.image_eq], ?_⟩
  rw [← hindex, read, if_pos ha, Mapper.readRom_eq, hfits.image_eq,
    List.getElem?_eq_getElem hlt, List.getD_eq_getElem?_getD, List.getElem?_eq_getElem hlt,
    Option.getD_some]

/-- Bank 1 of a two-bank image, after 5 was written to 2000: 5 mod 2 is 1. -/
theorem rom_banking_mbc1Image :
    ∃ fresh c, load (imageOf 2 mbc1Content) none 0 = .ok fresh ∧
      ReadsRom mbc1Header (imageOf 2 mbc1Content) [.write 0x2000 5 0] c 0x4000 := by
  have hnew : Mbc1.new (imageOf 2 mbc1Content) 0x2000 true none =
      .ok { enabledMbc1 false 0 with ramEnabled := false } := by
    simp only [Mbc1.new, bind_eq_ok, pure_eq_ok, length_imageOf]
    exact ⟨blankBank, by rw [persistedRam, blankBank], (), requireNoMapperData_none _,
      by simp [enabledMbc1]⟩
  have hload : load (imageOf 2 mbc1Content) none 0 =
      .ok ⟨mbc1Header.metadata, .mbc1 { enabledMbc1 false 0 with ramEnabled := false }⟩ :=
    load_eq_ok.mpr ⟨mbc1Header, parse_mbc1Image, rfl, map_eq_ok.mpr ⟨_, hnew, rfl⟩⟩
  have hrun : Run (system (imageOf 2 mbc1Content) fun _ => True)
      ⟨mbc1Header.metadata, .mbc1 { enabledMbc1 false 0 with ramEnabled := false }⟩
      [.write 0x2000 5 0] _ := .single ⟨trivial, rfl⟩
  exact ⟨_, _, hload, rom_banking parse_mbc1Image hload hrun (by decide)⟩

end Cartridge

end Pockiva
