import Pockiva.Cartridge.Reachable
import Pockiva.Cartridge.Image
import Pockiva.Cartridge.Rtc

/-! # Saving and restoring a battery-backed cartridge

A saved image is accepted by the cartridge it came from, its RAM comes back byte
for byte, and the restored clock goes on like the original
(`battery_round_trip`).
-/
namespace Pockiva

open Transition Validation

namespace Mapper

/-- Every clock of the mapper is valid. -/
def ClockValid (m : Mapper) : Prop := ∀ rtc ∈ m.rtc, rtc.Valid

/-- What the image holds besides the RAM. -/
def mapperData (m : Mapper) (now : Nat) : List Byte :=
  match m.rtc with
  | some rtc => rtc.bytes now
  | none => []

variable {header : Header} {rom : List Byte} {m : Mapper}

theorem batteryState_of_fits (h : Fits header rom m) (now : Nat) :
    m.batteryState now =
      if header.features.hasBattery then some ⟨1, m.ram, m.mapperData now⟩ else none := by
  cases h with
  | romOnly _ _ _ battery => rw [← battery]; rfl
  | mbc1 _ _ _ battery => rw [← battery]; rfl
  | mbc3 _ _ _ battery => rw [← battery]; rfl
  | mbc5 _ _ _ battery => rw [← battery]; rfl

/-! ## Clocks stay valid -/

theorem clockValid_new {persisted : Option BatteryState} {now : Nat} (hnow : now < 2 ^ 64)
    (h : Mapper.new header rom persisted now = .ok m) : m.ClockValid := by
  unfold Mapper.new at h
  intro rtc hrtc
  cases hk : header.features.mapper with
  | romOnly =>
    simp only [hk, map_eq_ok] at h
    obtain ⟨_, _, rfl⟩ := h
    cases hrtc
  | mbc1 =>
    simp only [hk, map_eq_ok] at h
    obtain ⟨_, _, rfl⟩ := h
    cases hrtc
  | mbc3 =>
    simp only [hk, Mbc3.new, map_eq_ok, bind_eq_ok, pure_eq_ok] at h
    obtain ⟨-, ⟨ram, -, initial, hinitial, rfl⟩, rfl⟩ := h
    obtain rfl : initial = some rtc := hrtc
    unfold Mbc3.initialRtc at hinitial
    split at hinitial
    · cases persisted with
      | none =>
        obtain rfl := Option.some.inj (Except.ok.inj hinitial)
        exact RtcState.valid_new hnow
      | some state =>
        obtain ⟨restored, hrestored, hsome⟩ := map_eq_ok.mp hinitial
        obtain rfl := Option.some.inj hsome
        exact RtcState.valid_of_fromBytes hnow hrestored
    · simp only [bind_eq_ok, pure_eq_ok] at hinitial
      obtain ⟨-, -, hnone⟩ := hinitial
      cases hnone
  | mbc5 =>
    simp only [hk, map_eq_ok] at h
    obtain ⟨_, _, rfl⟩ := h
    cases hrtc

/-- Updating the clock of an MBC3 keeps it valid if the update does. -/
theorem clockValid_map {m : Mbc3} (h : (mbc3 m).ClockValid) {f : RtcState → RtcState}
    (hf : ∀ rtc, rtc.Valid → (f rtc).Valid) {n : Mbc3} (hn : n.rtc = m.rtc.map f) :
    (mbc3 n).ClockValid := by
  intro rtc hrtc
  have hmem : rtc ∈ m.rtc.map f := hn ▸ hrtc
  obtain ⟨old, hold, rfl⟩ := Option.map_eq_some_iff.mp hmem
  exact hf old (h old hold)

theorem ClockValid.writeRom (h : m.ClockValid) (address : Word) (value : Byte) {now : Nat}
    (hnow : now < 2 ^ 64) : (m.writeRom address value now).ClockValid := by
  cases m with
  | romOnly m => exact h
  | mbc1 m =>
    intro rtc hrtc
    cases hrtc
  | mbc3 m =>
    simp only [Mapper.writeRom, Mbc3.writeRom]
    repeat' split
    · exact h
    · exact h
    · exact h
    · exact h
    · exact clockValid_map h (fun rtc hrtc => hrtc.latch value hnow) rfl
    · exact h
  | mbc5 m =>
    intro rtc hrtc
    cases hrtc

theorem ClockValid.writeRam (h : m.ClockValid) (address : Word) (value : Byte) {now : Nat}
    (hnow : now < 2 ^ 64) : (m.writeRam address value now).ClockValid := by
  cases m with
  | romOnly m => exact h
  | mbc1 m =>
    intro rtc hrtc
    cases hrtc
  | mbc3 m =>
    simp only [Mapper.writeRam, Mbc3.writeRam]
    repeat' split
    · exact h
    · exact h
    · exact clockValid_map h (fun rtc hrtc => hrtc.writeRegister m.selector value hnow) rfl
    · exact h
  | mbc5 m =>
    intro rtc hrtc
    cases hrtc

theorem ClockValid.reset (h : m.ClockValid) {now : Nat} (hnow : now < 2 ^ 64) :
    (m.reset now).ClockValid := by
  cases m with
  | romOnly m => exact h
  | mbc1 m => exact h
  | mbc3 m =>
    refine clockValid_map h (f := fun rtc => { rtc.sync now with latchArmed := false }) ?_ rfl
    intro rtc hrtc
    exact ⟨(hrtc.sync hnow).counter_lt, (hrtc.sync hnow).update_lt⟩
  | mbc5 m => exact h

/-! ## A saved image is accepted -/

theorem persistedRam_saved {ram mapperData : List Byte} {expectedLen : Nat}
    (hlen : ram.length = expectedLen) :
    persistedRam (some ⟨1, ram, mapperData⟩) expectedLen true = .ok ram := by
  simp only [persistedRam, bind_eq_ok, require_eq_ok, exists_const, pure_eq_ok]
  exact ⟨trivial, trivial, hlen, trivial⟩

theorem requireNoMapperData_saved {ram : List Byte} (reason : String) :
    requireNoMapperData (some ⟨1, ram, []⟩) reason = .ok () :=
  require_eq_ok.mpr fun _ hstate => Option.some.inj hstate ▸ rfl

theorem initialRtc_saved {ram : List Byte} {m : Mbc3} {hasTimer : Bool} {saved now : Nat}
    (htimer : m.rtc.isSome = hasTimer) (hvalid : (mbc3 m).ClockValid) (hsaved : saved < 2 ^ 64) :
    Mbc3.initialRtc hasTimer (some ⟨1, ram, (mbc3 m).mapperData saved⟩) now =
      .ok (m.rtc.map fun r => r.restored saved now) := by
  cases hrtc : m.rtc with
  | none =>
    obtain rfl : false = hasTimer := by rw [← htimer, hrtc]; rfl
    have hdata : (mbc3 m).mapperData saved = [] := by
      simp only [mapperData, rtc, hrtc]
    rw [hdata]
    simp only [Mbc3.initialRtc, Bool.false_eq_true, if_false, bind_eq_ok, pure_eq_ok]
    exact ⟨(), requireNoMapperData_saved _, rfl⟩
  | some r =>
    obtain rfl : true = hasTimer := by rw [← htimer, hrtc]; rfl
    have hdata : (mbc3 m).mapperData saved = r.bytes saved := by
      simp only [mapperData, rtc, hrtc]
    rw [hdata]
    simp only [Mbc3.initialRtc, if_true, map_eq_ok]
    exact ⟨_, RtcState.fromBytes_bytes (hvalid r hrtc) hsaved, rfl⟩

/-- **The image a mapper saves builds a mapper with the same RAM and the same
clock**, the clock brought up to date. -/
theorem new_saved (h : Fits header rom m) (hvalid : m.ClockValid)
    (hbattery : header.features.hasBattery = true) {saved : Nat} (hsaved : saved < 2 ^ 64)
    (now : Nat) :
    ∃ d, Mapper.new header rom (some ⟨1, m.ram, m.mapperData saved⟩) now = .ok d ∧
      d.ram = m.ram ∧ d.rtc = m.rtc.map fun r => r.restored saved now := by
  cases h with
  | romOnly kind _ ram_length =>
    simp only [Mapper.new, kind, hbattery, map_eq_ok, RomOnly.new, bind_eq_ok, pure_eq_ok]
    exact ⟨_, ⟨_, ⟨_, persistedRam_saved ram_length, (), requireNoMapperData_saved _, rfl⟩, rfl⟩,
      rfl, rfl⟩
  | mbc1 kind _ ram_length =>
    simp only [Mapper.new, kind, hbattery, map_eq_ok, Mbc1.new, bind_eq_ok, pure_eq_ok]
    exact ⟨_, ⟨_, ⟨_, persistedRam_saved ram_length, (), requireNoMapperData_saved _, rfl⟩, rfl⟩,
      rfl, rfl⟩
  | mbc3 kind _ ram_length _ _ timer =>
    simp only [Mapper.new, kind, hbattery, map_eq_ok, Mbc3.new, bind_eq_ok, pure_eq_ok]
    exact ⟨_, ⟨_, ⟨_, persistedRam_saved ram_length, _, initialRtc_saved timer hvalid hsaved, rfl⟩,
      rfl⟩, rfl, rfl⟩
  | mbc5 kind _ ram_length =>
    simp only [Mapper.new, kind, hbattery, map_eq_ok, Mbc5.new, bind_eq_ok, pure_eq_ok]
    exact ⟨_, ⟨_, ⟨_, persistedRam_saved ram_length, (), requireNoMapperData_saved _, rfl⟩, rfl⟩,
      rfl, rfl⟩

end Mapper

namespace Cartridge

/-- The clock of a reachable cartridge is valid. -/
theorem clockValid_of_reachable {rom : List Byte} {c : Cartridge}
    (h : Reachable (system rom (· < 2 ^ 63)) c) : c.mapper.ClockValid := by
  refine h.invariant (P := fun c => c.mapper.ClockValid) ?_ ?_
  · rintro c ⟨persisted, now, hnow, hload⟩
    obtain ⟨header, -, -, hm⟩ := load_eq_ok.mp hload
    exact Mapper.clockValid_new (by omega) hm
  · rintro c op d hvalid ⟨hnow, rfl⟩
    cases op with
    | write address value now =>
      have hnow : now < 2 ^ 64 := Nat.lt_trans hnow (by decide)
      simp only [apply, write]
      split
      · exact hvalid.writeRom address value hnow
      · split
        · exact hvalid.writeRam address value hnow
        · exact hvalid
    | reset now => exact hvalid.reset (Nat.lt_trans hnow (by decide))

end Cartridge

/-- **Saving and restoring loses nothing.**  The image is accepted, the RAM comes
back, and at every later time short of the end of 64-bit time the restored
cartridge shows the same clock and would save the same image. -/
theorem battery_round_trip {rom : List Byte} {c : Cartridge}
    (hc : Reachable (Cartridge.system rom (· < 2 ^ 63)) c) (hbattery : c.metadata.hasBattery = true)
    {t₁ t₂ : Nat} (h12 : t₁ ≤ t₂) (h2 : t₂ < 2 ^ 63) :
    ∃ image d, c.batteryState t₁ = some image ∧ Cartridge.load rom (some image) t₂ = .ok d ∧
      image.ram = c.mapper.ram ∧ d.mapper.ram = image.ram ∧
      ∀ t, t₂ ≤ t → t + rtcPeriodSeconds ≤ 2 ^ 64 →
        (d.mapper.rtc.map fun r => r.view t) = (c.mapper.rtc.map fun r => r.view t) ∧
        d.batteryState t = c.batteryState t := by
  obtain ⟨header, hp⟩ := Cartridge.accepted_of_reachable hc
  obtain ⟨hmeta, hfits⟩ := Cartridge.fits_of_reachable hp hc
  have hvalid := Cartridge.clockValid_of_reachable hc
  have hfeature : header.features.hasBattery = true := by
    rw [← (Header.accepts_of_parse hp).metadata_eq, ← hmeta, hbattery]
  obtain ⟨m, hnew, hram, hrtc⟩ := Mapper.new_saved hfits hvalid hfeature
    (by omega : t₁ < 2 ^ 64) t₂
  have hload : Cartridge.load rom (some ⟨1, c.mapper.ram, c.mapper.mapperData t₁⟩) t₂ =
      .ok ⟨header.metadata, m⟩ := Cartridge.load_eq_ok.mpr ⟨header, hp, rfl, hnew⟩
  have hfits' : m.Fits header rom := (Cartridge.fits_load hp hload).2
  refine ⟨_, _, ?_, hload, rfl, hram, ?_⟩
  · rw [Cartridge.batteryState, Mapper.batteryState_of_fits hfits, if_pos hfeature]
  · intro t ht hend
    -- The clock of the image catches up from the time it was saved at.
    have hview : ∀ r ∈ c.mapper.rtc,
        (r.restored t₁ t₂).view t = r.view t ∧ (r.restored t₁ t₂).bytes t = r.bytes t :=
      fun r hr => ⟨RtcState.view_restored (hvalid r hr) h12 ht hend,
        RtcState.bytes_restored (hvalid r hr) h12 ht hend⟩
    have hdata : m.mapperData t = c.mapper.mapperData t := by
      unfold Mapper.mapperData
      rw [hrtc]
      cases hr : c.mapper.rtc with
      | none => rfl
      | some r => exact (hview r hr).2
    refine ⟨?_, ?_⟩
    · show m.rtc.map _ = _
      rw [hrtc]
      cases hr : c.mapper.rtc with
      | none => rfl
      | some r => exact congrArg some (hview r hr).1
    · rw [Cartridge.batteryState, Cartridge.batteryState, Mapper.batteryState_of_fits hfits',
        Mapper.batteryState_of_fits hfits, hram, hdata]

/-! ## A cartridge with a clock and no RAM -/

/-- The bytes of a 32 KiB MBC3 image with a clock and a battery. -/
def timerContent (i : Nat) : Byte :=
  if i = 0x147 then 0x0f else if i = 0x14d then 0xd8 else 0

def timerHeader : Header where
  metadata := ⟨.mbc3, .dmg, 0, true⟩
  features := ⟨.mbc3, false, true, true, false⟩
  romBanks := 2
  ramBytes := 0

theorem parse_timerImage : Header.parse (imageOf 2 timerContent) = .ok timerHeader := by
  have hcompat : Header.compatibilityOf (timerContent 0x143) = .ok .dmg := by decide
  have hfeatures : Header.featuresOf (timerContent 0x147) = .ok timerHeader.features := by decide
  have hbanks : Header.romBanksOf (timerContent 0x148) = .ok 2 := by decide
  have hram : Header.ramBytesOf (timerContent 0x149) = .ok 0 := by decide
  exact parse_imageOf (by decide) hcompat hfeatures hbanks hram (by decide) (.inl rfl) (by decide)

/-- The mapper of that image. -/
def timerMbc3 (ramEnabled : Bool) (selector : Byte) (rtc : RtcState) : Mbc3 where
  rom := imageOf 2 timerContent
  ram := []
  romBanks := 2
  ramEnabled := ramEnabled
  romBank := 1
  selector := selector
  rtc := some rtc
  hasBattery := true

/-- The clock with one second written to it at time 0. -/
def oneSecond : RtcState := (RtcState.new 0).writeRegister 0x08 0x01 0

theorem load_timerImage :
    Cartridge.load (imageOf 2 timerContent) none 0 =
      .ok ⟨timerHeader.metadata, .mbc3 (timerMbc3 false 0 (.new 0))⟩ := by
  have hnew : Mbc3.new (imageOf 2 timerContent) 0 true true none 0 =
      .ok (timerMbc3 false 0 (.new 0)) := by
    simp only [Mbc3.new, bind_eq_ok, pure_eq_ok, length_imageOf]
    exact ⟨[], rfl, some (.new 0), rfl, by simp [timerMbc3]⟩
  exact Cartridge.load_eq_ok.mpr ⟨timerHeader, parse_timerImage, rfl, map_eq_ok.mpr ⟨_, hnew, rfl⟩⟩

/-- Enabling the registers, selecting the seconds and writing 1 to them. -/
theorem reachable_oneSecond :
    Reachable (Cartridge.system (imageOf 2 timerContent) (· < 2 ^ 63))
      ⟨timerHeader.metadata, .mbc3 (timerMbc3 true 0x08 oneSecond)⟩ := by
  have hstart : Reachable (Cartridge.system (imageOf 2 timerContent) (· < 2 ^ 63)) _ :=
    .start ⟨none, 0, by decide, load_timerImage⟩
  have henabled := hstart.step (i := .write 0x0000 0x0a 0) ⟨by decide, rfl⟩
  have hselected := henabled.step (i := .write 0x4000 0x08 0) ⟨by decide, rfl⟩
  refine hselected.step (i := .write 0xa000 0x01 0) ⟨by decide, ?_⟩
  simp [Cartridge.apply, Cartridge.write, inRom, inExternalRam, Mapper.writeRom, Mapper.writeRam,
    Mbc3.writeRom, Mbc3.writeRam, Mbc3.selectsRam, Mbc3.selectsRtc, enablesRam, timerMbc3,
    oneSecond]

theorem battery_round_trip_oneSecond :
    ∃ image d, Cartridge.batteryState ⟨timerHeader.metadata,
        .mbc3 (timerMbc3 true 0x08 oneSecond)⟩ 5 = some image ∧
      Cartridge.load (imageOf 2 timerContent) (some image) 7 = .ok d ∧ image.ram = [] ∧
      d.mapper.ram = image.ram ∧
      ∀ t, 7 ≤ t → t + rtcPeriodSeconds ≤ 2 ^ 64 →
        (d.mapper.rtc.map fun r => r.view t) = some (oneSecond.view t) ∧
        d.batteryState t = Cartridge.batteryState ⟨timerHeader.metadata,
          .mbc3 (timerMbc3 true 0x08 oneSecond)⟩ t :=
  battery_round_trip reachable_oneSecond rfl (by decide) (by decide)

/-- In the last 512 days of 64-bit time the sum in `live` wraps around: a clock
that was saved and restored 512 days after its last update still shows a carry, the
original no longer does. -/
theorem view_restored_at_end_of_time :
    ¬ ∀ (c d : Cartridge) (image : BatteryState) (t₁ t₂ t : Nat),
      Reachable (Cartridge.system (imageOf 2 timerContent) (· < 2 ^ 63)) c → t₁ ≤ t₂ →
      t₂ < 2 ^ 63 → c.batteryState t₁ = some image →
      Cartridge.load (imageOf 2 timerContent) (some image) t₂ = .ok d → t₂ ≤ t → t < 2 ^ 64 →
      (d.mapper.rtc.map fun r => r.view t) = c.mapper.rtc.map fun r => r.view t := by
  intro hview
  have hvalid := Cartridge.clockValid_of_reachable reachable_oneSecond
  have hfits := (Cartridge.fits_of_reachable parse_timerImage reachable_oneSecond).2
  obtain ⟨m, hnew, -, hrtc⟩ := Mapper.new_saved hfits hvalid rfl
    (by decide : rtcPeriodSeconds < 2 ^ 64) rtcPeriodSeconds
  have hload : Cartridge.load (imageOf 2 timerContent) _ rtcPeriodSeconds =
      .ok ⟨timerHeader.metadata, m⟩ :=
    Cartridge.load_eq_ok.mpr ⟨timerHeader, parse_timerImage, rfl, hnew⟩
  have heq := hview _ _ _ rtcPeriodSeconds rtcPeriodSeconds (2 ^ 64 - 1)
    reachable_oneSecond (by decide) (by decide) rfl hload (by decide) (by decide)
  rw [hrtc] at heq
  exact absurd heq (by decide)

end Pockiva
