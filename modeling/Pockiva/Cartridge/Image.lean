import Pockiva.Cartridge.Header

/-! # Images given by their bytes

An image of a whole number of banks, described by the byte at each offset.  An
image with a correct checksum whose header bytes name a type, a size and a RAM
capacity is accepted (`parse_imageOf`).
-/
namespace Pockiva

open Validation

/-- The image of `banks` 16 KiB banks with byte `content i` at offset `i`. -/
def imageOf (banks : Nat) (content : Nat → Byte) : List Byte :=
  (List.range (banks * 0x4000)).map content

theorem length_imageOf (banks : Nat) (content : Nat → Byte) :
    (imageOf banks content).length = banks * 0x4000 := by
  rw [imageOf, List.length_map, List.length_range]

theorem getElem?_imageOf {banks : Nat} {content : Nat → Byte} {i : Nat} (h : i < banks * 0x4000) :
    (imageOf banks content)[i]? = some (content i) := by
  rw [imageOf, List.getElem?_map, List.getElem?_range h, Option.map_some]

theorem getD_imageOf {banks : Nat} {content : Nat → Byte} {i : Nat} (h : i < banks * 0x4000)
    (d : Byte) : (imageOf banks content).getD i d = content i := by
  rw [List.getD_eq_getElem?_getD, getElem?_imageOf h, Option.getD_some]

/-- The checksum of a header with the given bytes. -/
def checksumOf (content : Nat → Byte) : Byte :=
  ((List.range 0x19).map fun i => content (0x134 + i)).foldl (fun sum byte => sum - byte - 1) 0

theorem checksum_imageOf {banks : Nat} {content : Nat → Byte} (h : 0 < banks) :
    Header.checksum (imageOf banks content) = checksumOf content := by
  have hslice : ((imageOf banks content).drop 0x134).take 0x19 =
      (List.range 0x19).map fun i => content (0x134 + i) := by
    refine List.ext_getElem? fun i => ?_
    by_cases hi : i < 0x19
    · rw [List.getElem?_take_of_lt hi, List.getElem?_drop, getElem?_imageOf (by omega),
        List.getElem?_map, List.getElem?_range hi, Option.map_some]
    · rw [List.getElem?_eq_none, List.getElem?_eq_none]
      · simpa using hi
      · rw [List.length_take]
        omega
  rw [Header.checksum, hslice, checksumOf]

/-- **An image with a valid header is accepted.** -/
theorem parse_imageOf {banks : Nat} {content : Nat → Byte} {compatibility : CompatibilityMode}
    {features : Features} {ramBytes : Nat} (hpos : 0 < banks)
    (hcompat : Header.compatibilityOf (content 0x143) = .ok compatibility)
    (hfeatures : Header.featuresOf (content 0x147) = .ok features)
    (hbanks : Header.romBanksOf (content 0x148) = .ok banks)
    (hram : Header.ramBytesOf (content 0x149) = .ok ramBytes)
    (hsum : checksumOf content = content 0x14d)
    (hallow : ramBytes = 0 ∨ features.hasRam = true)
    (hcap : Header.CapacityValid features banks ramBytes) :
    Header.parse (imageOf banks content) =
      .ok { metadata := ⟨features.mapper, compatibility, ramBytes, features.hasBattery⟩
            features := features
            romBanks := banks
            ramBytes := ramBytes } := by
  have hbyte : ∀ i, i < 0x4000 → Header.byteAt (imageOf banks content) i = content i := by
    intro i hi
    exact getD_imageOf (by omega) 0
  have hlen : 0x150 ≤ (imageOf banks content).length := by
    rw [length_imageOf]
    omega
  rw [← hbyte _ (by decide)] at hcompat hfeatures hbanks hram
  rw [← checksum_imageOf hpos, ← hbyte _ (by decide)] at hsum
  simp only [Header.parse, Header.validateCapacity, bind_eq_ok, require_eq_ok, exists_const,
    pure_eq_ok]
  exact ⟨hlen, compatibility, hcompat, features, hfeatures, banks, hbanks, ramBytes, hram,
    length_imageOf banks content, hsum, hallow, hcap, rfl⟩

end Pockiva
