import Pockiva.Cartridge.Mbc3
import Mathlib.Data.Nat.ModEq

/-! # The laws of the real-time clock

Bringing the clock up to date does not change what it shows later
(`live_sync`), so a saved clock, which is the clock brought up to date at the time
of the save (`fromBytes_bytes`), goes on like the original.
-/
namespace Pockiva

open Validation

namespace RtcRegisters

/-- The registers hold a time of day. -/
structure Normal (r : RtcRegisters) : Prop where
  seconds_lt : r.seconds.toNat < 60
  minutes_lt : r.minutes.toNat < 60
  hours_lt : r.hours.toNat < 24

/-- A normal time is less than 512 days. -/
theorem Normal.counter_lt {r : RtcRegisters} (h : r.Normal) : r.counter < rtcPeriodSeconds := by
  have hdays : r.dayLow.toNat ||| ((r.dayHigh &&& 1).toNat <<< 8) < 2 ^ 9 := by
    refine Nat.or_lt_two_pow (Nat.lt_trans r.dayLow.isLt (by decide)) ?_
    have hbit : (r.dayHigh &&& 1).toNat ≤ 1 := by
      rw [BitVec.toNat_and]
      exact Nat.and_le_right
    rw [Nat.shiftLeft_eq]
    omega
  have := h.seconds_lt
  have := h.minutes_lt
  have := h.hours_lt
  simp only [counter, rtcPeriodSeconds]
  omega

theorem Normal.replaceRegister {r s : RtcRegisters} (h : r.Normal) {selector value : Byte}
    (hs : RtcState.replaceRegister r selector value = some s) : s.Normal := by
  unfold RtcState.replaceRegister at hs
  split at hs
  · obtain rfl := Option.some.inj hs
    exact ⟨by rw [BitVec.toNat_umod]; exact Nat.mod_lt _ (by decide), h.minutes_lt, h.hours_lt⟩
  · obtain rfl := Option.some.inj hs
    exact ⟨h.seconds_lt, by rw [BitVec.toNat_umod]; exact Nat.mod_lt _ (by decide), h.hours_lt⟩
  · obtain rfl := Option.some.inj hs
    exact ⟨h.seconds_lt, h.minutes_lt, by rw [BitVec.toNat_umod]; exact Nat.mod_lt _ (by decide)⟩
  · obtain rfl := Option.some.inj hs
    exact ⟨h.seconds_lt, h.minutes_lt, h.hours_lt⟩
  · obtain rfl := Option.some.inj hs
    exact ⟨h.seconds_lt, h.minutes_lt, h.hours_lt⟩
  · cases hs

end RtcRegisters

namespace RtcState

/-- What `from_bytes` checks and every operation keeps. -/
structure Valid (r : RtcState) : Prop where
  counter_lt : r.counterSeconds < rtcPeriodSeconds
  update_lt : r.lastUpdateUnix < 2 ^ 64

/-- The clock as a program can tell it at a given time: counter, carry, halted. -/
structure View where
  counter : Nat
  carry : Bool
  halted : Bool
deriving DecidableEq, Repr

def view (r : RtcState) (now : Nat) : View := ⟨(r.live now).1, (r.live now).2, r.halted⟩

theorem live_of_halted {r : RtcState} (h : r.halted = true) (now : Nat) :
    r.live now = (r.counterSeconds, r.carry) := by
  rw [live, if_pos (.inl h)]

theorem live_of_lt {r : RtcState} {now : Nat} (h : now < r.lastUpdateUnix) :
    r.live now = (r.counterSeconds, r.carry) := by
  rw [live, if_pos (.inr h)]

/-- While it runs, and short of the end of 64-bit time, the clock counts the
elapsed seconds. -/
theorem live_of_running {r : RtcState} {now : Nat} (hr : r.counterSeconds < rtcPeriodSeconds)
    (h : r.halted = false) (hle : r.lastUpdateUnix ≤ now) (hnow : now + rtcPeriodSeconds ≤ 2 ^ 64) :
    r.live now =
      ((r.counterSeconds + (now - r.lastUpdateUnix)) % rtcPeriodSeconds,
        r.carry || decide (rtcPeriodSeconds ≤ r.counterSeconds + (now - r.lastUpdateUnix))) := by
  have hlt : r.counterSeconds + (now - r.lastUpdateUnix) < 2 ^ 64 := by omega
  have hgo : ¬ (r.halted = true ∨ now < r.lastUpdateUnix) := by
    rintro (hh | hh)
    · rw [h] at hh
      cases hh
    · omega
  rw [live, if_neg hgo, Nat.mod_eq_of_lt hlt]

theorem live_counter_lt {r : RtcState} (hr : r.counterSeconds < rtcPeriodSeconds) (now : Nat) :
    (r.live now).1 < rtcPeriodSeconds := by
  unfold live
  split
  · exact hr
  · exact Nat.mod_lt _ (by decide)

@[simp] theorem sync_halted (r : RtcState) (now : Nat) : (r.sync now).halted = r.halted := rfl

theorem sync_lastUpdateUnix (r : RtcState) (now : Nat) :
    (r.sync now).lastUpdateUnix = max r.lastUpdateUnix now := by
  unfold sync
  dsimp only
  split <;> omega

/-- **A clock brought up to date shows the same from then on.** -/
theorem live_sync {r : RtcState} (hr : r.counterSeconds < rtcPeriodSeconds) {now t : Nat}
    (hle : now ≤ t) (ht : t + rtcPeriodSeconds ≤ 2 ^ 64) : (r.sync now).live t = r.live t := by
  by_cases hh : r.halted = true
  · rw [live_of_halted (by rw [sync_halted, hh]), live_of_halted hh, sync, live_of_halted hh]
  · rw [Bool.not_eq_true] at hh
    by_cases hlt : now < r.lastUpdateUnix
    · have hsync : r.sync now = r := by
        rw [sync, live_of_lt hlt, if_neg (by omega)]
      rw [hsync]
    · have hup : r.lastUpdateUnix ≤ now := by omega
      have hnow := live_of_running hr hh hup (by omega)
      have hlater := live_of_running hr hh (by omega : r.lastUpdateUnix ≤ t) ht
      have hmax : (r.sync now).lastUpdateUnix = now := by
        rw [sync_lastUpdateUnix]
        omega
      have hcounter : (r.sync now).counterSeconds =
          (r.counterSeconds + (now - r.lastUpdateUnix)) % rtcPeriodSeconds := by
        rw [sync, hnow]
      have hcarry : (r.sync now).carry = (r.carry || decide
          (rtcPeriodSeconds ≤ r.counterSeconds + (now - r.lastUpdateUnix))) := by
        rw [sync, hnow]
      have hvalid : (r.sync now).counterSeconds < rtcPeriodSeconds := live_counter_lt hr now
      rw [live_of_running hvalid hh (by omega) ht, hlater, hcounter, hcarry, hmax]
      have hsum : r.counterSeconds + (t - r.lastUpdateUnix) =
          r.counterSeconds + (now - r.lastUpdateUnix) + (t - now) := by omega
      rw [hsum]
      generalize r.counterSeconds + (now - r.lastUpdateUnix) = total
      have hpos : 0 < rtcPeriodSeconds := by decide
      generalize rtcPeriodSeconds = period at hpos
      refine Prod.ext (Nat.mod_add_mod ..) ?_
      by_cases hwrap : period ≤ total
      · have : period ≤ total + (t - now) := by omega
        simp [hwrap, this]
      · have hmod : total % period = total := Nat.mod_eq_of_lt (Nat.lt_of_not_le hwrap)
        simp [hwrap, hmod]

/-! ## Every operation keeps the clock valid -/

theorem Valid.sync {r : RtcState} (h : r.Valid) {now : Nat} (hnow : now < 2 ^ 64) :
    (r.sync now).Valid := by
  refine ⟨live_counter_lt h.counter_lt now, ?_⟩
  have := h.update_lt
  rw [sync_lastUpdateUnix]
  omega

theorem valid_new {now : Nat} (hnow : now < 2 ^ 64) : (new now).Valid :=
  ⟨by simp [new, rtcPeriodSeconds], hnow⟩

theorem Valid.latch {r : RtcState} (h : r.Valid) (value : Byte) {now : Nat} (hnow : now < 2 ^ 64) :
    (r.latch value now).Valid := by
  have hs := h.sync hnow
  unfold RtcState.latch
  split
  · exact ⟨h.counter_lt, h.update_lt⟩
  · split
    · exact ⟨hs.counter_lt, hs.update_lt⟩
    · exact ⟨h.counter_lt, h.update_lt⟩

theorem registers_normal (r : RtcState) (now : Nat) : (r.registers now).Normal := by
  refine ⟨?_, ?_, ?_⟩
  all_goals
    simp only [registers, BitVec.toNat_ofNat]
    omega

theorem Valid.writeRegister {r : RtcState} (h : r.Valid) (selector value : Byte) {now : Nat}
    (hnow : now < 2 ^ 64) : (r.writeRegister selector value now).Valid := by
  have hs := h.sync hnow
  cases hreg : replaceRegister ((r.sync now).registers now) selector value with
  | none =>
    simp only [RtcState.writeRegister, hreg]
    exact hs
  | some registers =>
    have hnormal := (registers_normal (r.sync now) now).replaceRegister hreg
    simp only [RtcState.writeRegister, hreg]
    refine ⟨hnormal.counter_lt, ?_⟩
    dsimp only
    split
    · exact hnow
    · exact hs.update_lt

/-! ## The persisted clock -/

@[simp] theorem length_bytes (r : RtcState) (now : Nat) : (r.bytes now).length = 22 := by
  simp [bytes, schema]

theorem valid_of_fromBytes {image : List Byte} {now : Nat} {r : RtcState} (hnow : now < 2 ^ 64)
    (h : fromBytes image now = .ok r) : r.Valid := by
  simp only [fromBytes, bind_eq_ok, require_eq_ok, exists_const, pure_eq_ok] at h
  obtain ⟨-, ⟨hcounter, -, -⟩, rfl⟩ := h
  have hupdate : LittleEndian.decode ((image.drop 12).take 8) < 2 ^ 64 := by
    have := LittleEndian.decode_lt ((image.drop 12).take 8)
    refine Nat.lt_of_lt_of_le this ?_
    have hlen : ((image.drop 12).take 8).length ≤ 8 := by
      rw [List.length_take]
      omega
    exact Nat.pow_le_pow_right (by decide) hlen
  have hvalid : Valid
      { counterSeconds := LittleEndian.decode ((image.drop 4).take 8)
        lastUpdateUnix := LittleEndian.decode ((image.drop 12).take 8)
        halted := image.getD 20 0 != 0
        carry := image.getD 21 0 != 0
        latched := .zero
        latchArmed := false } := ⟨hcounter, hupdate⟩
  have hsync := hvalid.sync hnow
  exact ⟨hsync.counter_lt, hsync.update_lt⟩

/-- The clock that comes back from a save at one time and a load at another. -/
def restored (r : RtcState) (saved now : Nat) : RtcState :=
  { (r.sync saved).sync now with
    latched := ((r.sync saved).sync now).registers now
    latchArmed := false }

/-- **Reading back a saved clock gives the clock brought up to date**, first at the
time of the save and then at the time of the load; the registers are latched anew. -/
theorem fromBytes_bytes {r : RtcState} (h : r.Valid) {saved now : Nat} (hsaved : saved < 2 ^ 64) :
    fromBytes (r.bytes saved) now = .ok (r.restored saved now) := by
  have hs := h.sync hsaved
  have hcounter : LittleEndian.decode (((r.bytes saved).drop 4).take 8) =
      (r.sync saved).counterSeconds := by
    have hslice : ((r.bytes saved).drop 4).take 8 = LittleEndian.encode 8 (r.live saved).1 := by
      simp [bytes, schema]
    rw [hslice]
    exact LittleEndian.decode_encode (Nat.lt_trans hs.counter_lt (by decide))
  have hupdate : LittleEndian.decode (((r.bytes saved).drop 12).take 8) =
      (r.sync saved).lastUpdateUnix := by
    have hslice : ((r.bytes saved).drop 12).take 8 =
        LittleEndian.encode 8 (max r.lastUpdateUnix saved) := by
      simp [bytes, schema]
    rw [hslice, sync_lastUpdateUnix]
    exact LittleEndian.decode_encode (by rw [← sync_lastUpdateUnix]; exact hs.update_lt)
  have hhalted : (r.bytes saved).getD 20 0 = byteOfBool r.halted := by
    simp [bytes, schema, List.getD_eq_getElem?_getD]
  have hcarry : (r.bytes saved).getD 21 0 = byteOfBool (r.live saved).2 := by
    simp [bytes, schema, List.getD_eq_getElem?_getD]
  have hschema : (r.bytes saved).take 4 = schema := by
    simp [bytes, schema]
  have hflag : ∀ b : Bool, byteOfBool b ≤ 1 ∧ (byteOfBool b != 0) = b := by decide
  simp only [fromBytes, bind_eq_ok, require_eq_ok, exists_const, pure_eq_ok]
  refine ⟨⟨length_bytes r saved, hschema⟩, ⟨?_, ?_, ?_⟩, ?_⟩
  · rw [hcounter]
    exact hs.counter_lt
  · rw [hhalted]
    exact (hflag _).1
  · rw [hcarry]
    exact (hflag _).1
  · rw [hcounter, hupdate, hhalted, hcarry, (hflag _).2, (hflag _).2]
    rfl

/-- **A restored clock goes on like the original.** -/
theorem live_restored {r : RtcState} (h : r.Valid) {saved now t : Nat} (hsaved : saved ≤ now)
    (hnow : now ≤ t) (ht : t + rtcPeriodSeconds ≤ 2 ^ 64) :
    (r.restored saved now).live t = r.live t := by
  have hcounter : (r.sync saved).counterSeconds < rtcPeriodSeconds :=
    live_counter_lt h.counter_lt saved
  show ((r.sync saved).sync now).live t = r.live t
  rw [live_sync hcounter hnow ht, live_sync h.counter_lt (by omega) ht]

theorem view_restored {r : RtcState} (h : r.Valid) {saved now t : Nat} (hsaved : saved ≤ now)
    (hnow : now ≤ t) (ht : t + rtcPeriodSeconds ≤ 2 ^ 64) :
    (r.restored saved now).view t = r.view t := by
  rw [view, view, live_restored h hsaved hnow ht]
  rfl

theorem bytes_restored {r : RtcState} (h : r.Valid) {saved now t : Nat} (hsaved : saved ≤ now)
    (hnow : now ≤ t) (ht : t + rtcPeriodSeconds ≤ 2 ^ 64) :
    (r.restored saved now).bytes t = r.bytes t := by
  have hupdate : max (r.restored saved now).lastUpdateUnix t = max r.lastUpdateUnix t := by
    show max ((r.sync saved).sync now).lastUpdateUnix t = _
    rw [sync_lastUpdateUnix, sync_lastUpdateUnix]
    omega
  rw [bytes, bytes, live_restored h hsaved hnow ht, hupdate]
  rfl

end RtcState

end Pockiva
