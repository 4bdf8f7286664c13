import Pockiva.InputLines
import Pockiva.Timer.Cycles

/-! # The timer on the bus

Every write to the timer comes before the ticks of its M-cycle, also when OAM DMA is not
in the way, and STOP resets the divider after the M-cycle of its fetch.  So the pending
reload of a tick or of STOP makes up the whole next M-cycle, in which a write to TIMA
calls it off, while the reload of a DIV or TAC write ends the M-cycle of that write.
The M-cycle after a reload is the one in which a write to TIMA is ignored and a write to
TMA goes to TIMA as well (`timer_windows`).
-/
namespace Pockiva

open Transition

variable {M : MixerModel}

namespace MachineBus

/-! ## The timer in an operation -/

/-- An address of the timer, FF04–FF07. -/
def inTimer (address : Word) : Prop := 0xff04 ≤ address ∧ address ≤ 0xff07

instance (address : Word) : Decidable (inTimer address) := inferInstanceAs (Decidable (_ ∧ _))

theorem writeUnclocked_inTimer (b : MachineBus M) {address : Word} (h : inTimer address)
    (value : Byte) :
    (b.writeUnclocked address value).timer = (b.timer.write address value).device ∧
      (b.writeUnclocked address value).interrupts = b.interrupts := by
  obtain ⟨hlo, hhi⟩ := h
  have hcart : ¬ (inRom address ∨ inExternalRam address) := by
    unfold inRom inExternalRam
    bv_omega
  have hvideo : ¬ inVideo address := by
    unfold inVideo Ppu.inVram Ppu.inOam
    bv_omega
  have hserial : ¬ (address = 0xff01 ∨ address = 0xff02) := by bv_omega
  rw [writeUnclocked, if_neg hcart, if_neg hvideo, if_neg (by bv_omega), if_neg (by bv_omega),
    if_neg (by bv_omega), if_neg hserial]
  by_cases h4 : address = 0xff04
  · rw [if_pos h4]
    exact ⟨rfl, request_timer_write ..⟩
  · rw [if_neg h4, if_pos ⟨by bv_omega, hhi⟩]
    exact ⟨rfl, request_timer_write ..⟩

theorem writeUnclocked_notInTimer (b : MachineBus M) {address : Word} (h : ¬ inTimer address)
    (value : Byte) : (b.writeUnclocked address value).timer = b.timer := by
  have hcase := writeUnclocked_cases b address value
  generalize b.writeUnclocked address value = c at hcase
  cases hcase with
  | divider h4 => exact absurd (by rw [h4]; decide) h
  | timer h5 => exact absurd ⟨by bv_omega, h5.2⟩ h
  | _ => rfl

/-- The timer when the T-cycles of the M-cycle of a write begin. -/
def timerAfterWrite (b : MachineBus M) (address : Word) (value : Byte) : Timer :=
  if b.writeAllowed address = true ∧ inTimer address then (b.timer.write address value).device
  else b.timer

theorem timerAfterWrite_of {b : MachineBus M} {address : Word}
    (hallowed : b.writeAllowed address = true) (h : inTimer address) (value : Byte) :
    b.timerAfterWrite address value = (b.timer.write address value).device :=
  if_pos ⟨hallowed, h⟩

theorem timerAfterWrite_notInTimer {b : MachineBus M} {address : Word} (h : ¬ inTimer address)
    (value : Byte) : b.timerAfterWrite address value = b.timer :=
  if_neg fun hboth => h hboth.2

theorem timerAfterWrite_blocked {b : MachineBus M} {address : Word}
    (h : ¬ b.writeAllowed address = true) (value : Byte) :
    b.timerAfterWrite address value = b.timer :=
  if_neg fun hboth => h hboth.1

theorem write8_timer (b : MachineBus M) (address : Word) (value : Byte) :
    (b.write8 address value).timer = ((b.timerAfterWrite address value).tick 4).device := by
  by_cases hallowed : b.writeAllowed address = true
  · rw [write8, if_pos hallowed]
    by_cases htimer : inTimer address
    · rw [timerAfterWrite_of hallowed htimer, if_pos (.inl htimer), tickMCycle_timer,
        (writeUnclocked_inTimer b htimer value).1]
    · rw [timerAfterWrite_notInTimer htimer]
      split
      · rw [tickMCycle_timer, writeUnclocked_notInTimer b htimer]
      · rw [writeUnclocked_notInTimer _ htimer, tickMCycle_timer]
  · rw [write8, if_neg hallowed, timerAfterWrite_blocked hallowed, tickMCycle_timer]

/-- The timer interrupt is flagged. -/
def timerFlagged (b : MachineBus M) : Bool := b.interrupts.flags.has .timer

/-- Only the timer requests its interrupt in an M-cycle. -/
theorem tickMCycle_timerFlagged (b : MachineBus M) :
    b.tickMCycle.timerFlagged = (b.timerFlagged || (b.timer.tick 4).requested.has .timer) := by
  have haudio : ∀ a : Apu M, (a.tick 4).requested.has .timer = false := by
    intro a
    unfold Apu.tick
    apply repeatTick_requested
    intro d
    rw [Requesting.silent_requested, InterruptMask.has_empty]
  have hdma : ∀ c : MachineBus M, c.tickDma.interrupts = c.interrupts := by
    intro c
    unfold tickDma
    split <;> rfl
  unfold timerFlagged tickMCycle
  dsimp only [request, InterruptRegisters.request]
  rw [InterruptMask.has_union, InterruptMask.has_union, InterruptMask.has_union,
    (Ppu.Plain.tick _ 4).timer, haudio, hdma, Bool.or_false, Bool.or_false]

/-- A write to the timer and its M-cycle. -/
theorem write8_inTimer (b : MachineBus M) {address : Word} (h : inTimer address)
    (hallowed : b.writeAllowed address = true) (value : Byte) :
    (b.write8 address value).timerFlagged =
      (b.timerFlagged || ((b.timer.write address value).device.tick 4).requested.has .timer) := by
  obtain ⟨htimer, hinterrupts⟩ := writeUnclocked_inTimer b h value
  rw [write8, if_pos hallowed, if_pos (.inl h), tickMCycle_timerFlagged, htimer, timerFlagged,
    hinterrupts]
  rfl

/-! ## The windows -/

/-- **The windows of an overflow**, at the boundary of an M-cycle. -/
structure Windows (b : MachineBus M) : Prop where
  aligned : b.timer.divider.toNat % 4 = 0
  delay : b.timer.reloadDelay = none ∨ b.timer.reloadDelay = some 4
  /-- No increment is lost: neither in the T-cycles of an M-cycle nor by a write or STOP. -/
  ticks_keep : ∀ address value, ∀ i < 4,
    ((b.timerAfterWrite address value).after i).beforeEdge.Falls →
      ((b.timerAfterWrite address value).after i).Increments
  writes_keep : ∀ address value, b.timer.FallsOnWrite address value → b.timer.reloadDelay = none
  /-- A reload that is pending when the T-cycles of an M-cycle begin ends it, with one
  interrupt, and only then is the timer just reloaded. -/
  reloads : ∀ address value,
    ((b.timerAfterWrite address value).tick 4).requested =
        (if (b.timerAfterWrite address value).reloadDelay = some 4 then .of .timer else .empty) ∧
      (b.write8 address value).timer.reloadedThisCycle =
        decide ((b.timerAfterWrite address value).reloadDelay = some 4)
  reloads_idle :
    (b.timer.tick 4).requested =
        (if b.timer.reloadDelay = some 4 then .of .timer else .empty) ∧
      b.tickMCycle.timer.reloadedThisCycle = decide (b.timer.reloadDelay = some 4)
  /-- So it is after DIV or TAC was written with an overflow. -/
  flags : ∀ address value, b.writeAllowed address = true → inTimer address →
    (b.write8 address value).timerFlagged =
      (b.timerFlagged || decide ((b.timerAfterWrite address value).reloadDelay = some 4))
  flags_idle : b.tickMCycle.timerFlagged =
    (b.timerFlagged || decide (b.timer.reloadDelay = some 4))
  /-- A write to TIMA in the M-cycle of a pending reload calls it off, with its interrupt. -/
  cancels : b.timer.reloadDelay = some 4 → b.writeAllowed 0xff05 = true → ∀ value,
    (b.write8 0xff05 value).timer.tima = value ∧
      (b.write8 0xff05 value).timer.reloadDelay = none ∧
      (b.write8 0xff05 value).timerFlagged = b.timerFlagged
  /-- In the M-cycle after a reload a write to TIMA is ignored. -/
  ignores : b.timer.reloadedThisCycle = true → ∀ value,
    (b.write8 0xff05 value).timer = b.tickMCycle.timer
  /-- There a write to TMA goes to TIMA as well. -/
  copies : b.timer.reloadedThisCycle = true → b.writeAllowed 0xff06 = true → ∀ value,
    (b.write8 0xff06 value).timer =
      (({ b.timer with tma := value, tima := value } : Timer).tick 4).device
  /-- The two M-cycles are different ones. -/
  apart : b.timer.reloadDelay = some 4 → b.timer.reloadedThisCycle = false

theorem starting_afterWrite {b : MachineBus M} (h : b.timer.Whole) (address : Word)
    (value : Byte) : (b.timerAfterWrite address value).Starting := by
  unfold timerAfterWrite
  split
  · exact h.write address value
  · exact h.starting

theorem has_reload (delay : Option Nat) :
    ((if delay = some 4 then .of .timer else .empty : InterruptMask)).has .timer =
      decide (delay = some 4) := by
  by_cases h : delay = some 4
  · rw [if_pos h, decide_eq_true h, InterruptMask.has_of]
    rfl
  · rw [if_neg h, decide_eq_false h, InterruptMask.has_empty]

/-- **At every boundary of an M-cycle the windows are what they should be.** -/
theorem windows_of_whole {b : MachineBus M} (h : b.timer.Whole) : b.Windows where
  aligned := h.four
  delay := h.delay
  ticks_keep address value i hi := (starting_afterWrite h address value).none_lost hi
  writes_keep address value hfalls := by
    rcases h.delay with hnone | hsome
    · exact hnone
    · have hlow := h.low hsome
      rcases hfalls with ⟨-, hinput, -⟩ | ⟨-, hinput, -⟩
      · rw [hlow] at hinput
        cases hinput
      · rw [hlow] at hinput
        cases hinput
  reloads address value := by
    obtain ⟨-, hrequested, hreloaded⟩ := (starting_afterWrite h address value).tick
    exact ⟨hrequested, by rw [write8_timer, hreloaded]⟩
  reloads_idle := by
    obtain ⟨-, hrequested, hreloaded⟩ := h.starting.tick
    exact ⟨hrequested, by rw [tickMCycle_timer, hreloaded]⟩
  flags address value hallowed htimer := by
    rw [write8_inTimer b htimer hallowed, timerAfterWrite_of hallowed htimer,
      (h.write address value).tick.2.1, has_reload]
  flags_idle := by
    rw [tickMCycle_timerFlagged, h.starting.tick.2.1, has_reload]
  cancels hsome hallowed value := by
    have hin : inTimer 0xff05 := by decide
    have hafter := timerAfterWrite_of hallowed hin value
    have hnone : (b.timer.write 0xff05 value).device.reloadDelay = none := by
      rw [Timer.write_tima, if_pos (h.apart hsome)]
    obtain ⟨htima, hdelay⟩ := h.cancelled hsome value
    refine ⟨by rw [write8_timer, hafter, htima], by rw [write8_timer, hafter, hdelay], ?_⟩
    rw [write8_inTimer b hin hallowed, (h.write 0xff05 value).tick.2.1, has_reload, hnone]
    exact Bool.or_false _
  ignores hreloaded value := by
    have hwrite : b.timerAfterWrite 0xff05 value = b.timer := by
      unfold timerAfterWrite
      split
      · rw [Timer.write_tima, hreloaded, if_neg (by decide)]
      · rfl
    rw [write8_timer, hwrite, tickMCycle_timer]
  copies hreloaded hallowed value := by
    rw [write8_timer, timerAfterWrite_of hallowed (by decide), Timer.write_tma, hreloaded]
    rfl
  apart := h.apart

/-! ## The M-cycle after an overflow -/

/-- The reload of an overflow is still to come: a write to TIMA in the next M-cycle calls
it off, with its interrupt. -/
structure Cancellable (b : MachineBus M) : Prop where
  delay : b.timer.reloadDelay = some 4
  cancels : b.writeAllowed 0xff05 = true → ∀ value,
    (b.write8 0xff05 value).timer.tima = value ∧
      (b.write8 0xff05 value).timer.reloadDelay = none ∧
      (b.write8 0xff05 value).timerFlagged = b.timerFlagged

/-- The reload of an overflow ended the last M-cycle, with its interrupt: a write to TIMA
in the next one is ignored, and one to TMA goes to TIMA as well. -/
structure JustReloaded (b : MachineBus M) : Prop where
  delay : b.timer.reloadDelay = none
  tima : b.timer.tima = b.timer.tma
  flagged : b.timerFlagged = true
  ignores : ∀ value, (b.write8 0xff05 value).timer = b.tickMCycle.timer
  copies : b.writeAllowed 0xff06 = true → ∀ value,
    (b.write8 0xff06 value).timer =
      (({ b.timer with tma := value, tima := value } : Timer).tick 4).device

/-- **Where an overflow leaves its reload**: one of the ticks or of STOP has the next
M-cycle before it, one of a write to DIV or TAC is over with the M-cycle of that write. -/
structure OverflowWindows (b : MachineBus M) : Prop where
  ticks : 0 < b.timer.overflowsIn 4 → b.tickMCycle.Cancellable
  ticks_write : ∀ address value, 0 < (b.timerAfterWrite address value).overflowsIn 4 →
    (b.write8 address value).Cancellable
  /-- STOP with its fetch. -/
  stop : 0 < b.timer.overflowsIn 4 + b.tickMCycle.timer.overflowsOnWrite 0xff04 0 →
    b.tickMCycle.resetDivider.Cancellable
  write : ∀ address value, b.writeAllowed address = true →
    0 < b.timer.overflowsOnWrite address value → (b.write8 address value).JustReloaded
  reload : b.timer.reloadDelay = some 4 → b.tickMCycle.JustReloaded

theorem cancellable_of_whole {b : MachineBus M} (h : b.timer.Whole)
    (hsome : b.timer.reloadDelay = some 4) : b.Cancellable :=
  ⟨hsome, (windows_of_whole h).cancels hsome⟩

theorem whole_tickMCycle {b : MachineBus M} (h : b.timer.Whole) : b.tickMCycle.timer.Whole := by
  rw [tickMCycle_timer]
  exact h.starting.tick.1

theorem whole_write8 {b : MachineBus M} (h : b.timer.Whole) (address : Word) (value : Byte) :
    (b.write8 address value).timer.Whole := by
  rw [write8_timer]
  exact (starting_afterWrite h address value).tick.1

theorem whole_stop {b : MachineBus M} (h : b.timer.Whole) :
    b.tickMCycle.resetDivider.timer.Whole := by
  refine (whole_tickMCycle h).stop ?_
  rw [tickMCycle_timer]
  exact h.low_after_reload

/-- A bus whose timer ended an M-cycle with a reload. -/
theorem justReloaded_of_tick {b : MachineBus M} (h : b.timer.Whole) {t : Timer}
    (ht : t.Starting) (hsome : t.reloadDelay = some 4) (htick : b.timer = (t.tick 4).device)
    (hflagged : b.timerFlagged = true) : b.JustReloaded := by
  have hdevice := congrArg Requesting.device
    (Timer.tick_pending ht.four hsome (ht.not_falls hsome))
  have hreloaded : b.timer.reloadedThisCycle = true := by rw [htick, hdevice]
  have hwindows := windows_of_whole h
  refine ⟨by rw [htick, hdevice], by rw [htick, hdevice], hflagged, hwindows.ignores hreloaded,
    hwindows.copies hreloaded⟩

/-- **At every boundary of an M-cycle an overflow leaves its reload where it should.** -/
theorem overflowWindows_of_whole {b : MachineBus M} (h : b.timer.Whole) :
    b.OverflowWindows where
  ticks hover := by
    refine cancellable_of_whole (whole_tickMCycle h) ?_
    rw [tickMCycle_timer]
    exact h.starting.overflow_pending hover
  ticks_write address value hover := by
    refine cancellable_of_whole (whole_write8 h address value) ?_
    rw [write8_timer]
    exact (starting_afterWrite h address value).overflow_pending hover
  stop hover := by
    have hwhole := whole_tickMCycle h
    refine cancellable_of_whole (whole_stop h) ?_
    have hstop : b.tickMCycle.resetDivider.timer =
        (b.tickMCycle.timer.write 0xff04 0).device := rfl
    rw [hstop]
    by_cases hreset : 0 < b.tickMCycle.timer.overflowsOnWrite 0xff04 0
    · exact hwhole.overflow_onWrite hreset
    · -- the overflow is one of the fetch, whose reload STOP leaves alone
      have hfetch : b.tickMCycle.timer.reloadDelay = some 4 := by
        rw [tickMCycle_timer]
        exact h.starting.overflow_pending (by omega)
      have hconserved := hwhole.write_conserved 0xff04 0
      rw [Timer.pending_of_some hfetch, Timer.cancelsOnWrite_other (by decide)] at hconserved
      refine (hwhole.write 0xff04 0).delay.of_pending ?_
      omega
  write address value hallowed hover := by
    have hin : inTimer address := by
      rcases Timer.address_of_overflowsOnWrite hover with rfl | rfl
      · decide
      · decide
    have hafter := timerAfterWrite_of hallowed hin value
    have hsome := h.overflow_onWrite hover
    refine justReloaded_of_tick (whole_write8 h address value) (h.write address value) hsome
      (by rw [write8_timer, hafter]) ?_
    rw [(windows_of_whole h).flags address value hallowed hin, hafter, hsome]
    exact Bool.or_true _
  reload hsome := by
    refine justReloaded_of_tick (whole_tickMCycle h) h.starting hsome (tickMCycle_timer b) ?_
    rw [(windows_of_whole h).flags_idle, hsome]
    exact Bool.or_true _

/-! ## Runs -/

/-- What happened to the timer in an operation. -/
structure TimerEvents where
  overflows : Nat
  cancelled : Nat
  requested : Nat

namespace TimerEvents

def none : TimerEvents := ⟨0, 0, 0⟩

/-- The T-cycles of an M-cycle that begins with `t`. -/
def cycle (t : Timer) : TimerEvents := ⟨t.overflowsIn 4, 0, t.requestsIn 4⟩

def write (t : Timer) (address : Word) (value : Byte) : TimerEvents :=
  ⟨t.overflowsOnWrite address value, t.cancelsOnWrite address, 0⟩

def plus (e f : TimerEvents) : TimerEvents :=
  ⟨e.overflows + f.overflows, e.cancelled + f.cancelled, e.requested + f.requested⟩

/-- Between two states of the timer every overflow is requested, cancelled or pending. -/
def Balances (e : TimerEvents) (t u : Timer) : Prop :=
  u.pending + e.requested + e.cancelled = t.pending + e.overflows

end TimerEvents

/-- The events of an operation. -/
def timerEvents (b : MachineBus M) : Op → TimerEvents
  | .cpu (.read8 _) | .cpu .idleMCycle => .cycle b.timer
  | .cpu (.write8 address value) =>
    if b.writeAllowed address = true ∧ inTimer address then
      (TimerEvents.write b.timer address value).plus (.cycle (b.timer.write address value).device)
    else .cycle b.timer
  | .cpu .resetDivider => .write b.timer 0xff04 0
  | _ => .none

/-- An operation of the CPU or the core other than STOP, or STOP with its fetch. -/
inductive Act where
  | op (op : Op)
  | stop (address : Word)

/-- A bus and what happened to its timer since it was new or reset. -/
structure Counted (M : MixerModel) where
  bus : MachineBus M
  events : TimerEvents

namespace Counted

def apply (r : Counted M) (op : Op) : Counted M where
  bus := r.bus.apply op
  events :=
    match op with
    | .reset _ _ => .none
    | op => r.events.plus (r.bus.timerEvents op)

def act (r : Counted M) : Act → Counted M
  | .op op => r.apply op
  | .stop address => (r.apply (.cpu (.read8 address))).apply (.cpu .resetDivider)

end Counted

/-- STOP comes with its fetch. -/
def Act.Allowed : Act → Prop
  | .op (.cpu .resetDivider) => False
  | _ => True

/-- A bus from its construction on, its timer's events counted. -/
def timerSystem (M : MixerModel) (rom : List Byte) (sampleRate : Nat) :
    System (Counted M) Act where
  start r := (system M rom sampleRate).start r.bus ∧ r.events = .none
  step r a s := a.Allowed ∧ s = r.act a

/-- **What every run keeps**: the timer is whole and its events balance. -/
structure Counted.Kept (r : Counted M) : Prop where
  whole : r.bus.timer.Whole
  balanced : r.events.overflows =
    r.events.requested + r.events.cancelled + r.bus.timer.pending

theorem balances_cycle {t : Timer} (h : t.Starting) :
    (TimerEvents.cycle t).Balances t (t.tick 4).device := h.conserved

theorem balances_write {t : Timer} (h : t.Whole) (address : Word) (value : Byte) :
    (TimerEvents.write t address value).Balances t (t.write address value).device :=
  h.write_conserved address value

/-- An operation but the bare reset of the divider and a reset of the machine. -/
theorem whole_apply {b : MachineBus M} (h : b.timer.Whole) {op : Op}
    (hop : op ≠ .cpu .resetDivider) : (b.apply op).timer.Whole := by
  cases op with
  | cpu op =>
    cases op with
    | read8 address => exact whole_tickMCycle h
    | write8 address value => exact whole_write8 h address value
    | idleMCycle => exact whole_tickMCycle h
    | acknowledgeInterrupt i => exact h
    | resetDivider => exact absurd rfl hop
  | reset now state => exact Timer.whole_postBoot
  | _ => exact h

/-- What an operation does to the timer balances. -/
theorem balances_apply {b : MachineBus M} (h : b.timer.Whole) {op : Op}
    (hop : ∀ now state, op ≠ .reset now state) :
    (b.timerEvents op).Balances b.timer (b.apply op).timer := by
  cases op with
  | cpu op =>
    cases op with
    | read8 address =>
      show (TimerEvents.cycle b.timer).Balances b.timer b.tickMCycle.timer
      rw [tickMCycle_timer]
      exact balances_cycle h.starting
    | write8 address value =>
      show TimerEvents.Balances _ b.timer (b.write8 address value).timer
      rw [write8_timer, timerEvents]
      by_cases hboth : b.writeAllowed address = true ∧ inTimer address
      · rw [if_pos hboth, timerAfterWrite_of hboth.1 hboth.2]
        have hwrite := balances_write h address value
        have hcycle := balances_cycle (h.write address value)
        unfold TimerEvents.Balances TimerEvents.plus at *
        dsimp only at *
        omega
      · rw [if_neg hboth, timerAfterWrite, if_neg hboth]
        exact balances_cycle h.starting
    | idleMCycle =>
      show (TimerEvents.cycle b.timer).Balances b.timer b.tickMCycle.timer
      rw [tickMCycle_timer]
      exact balances_cycle h.starting
    | acknowledgeInterrupt i => rfl
    | resetDivider => exact balances_write h 0xff04 0
  | reset now state => exact absurd rfl (hop now state)
  | _ => rfl

/-- An operation keeps the count balanced. -/
theorem Counted.balanced_apply {r : Counted M} (h : r.Kept) (op : Op) :
    (r.apply op).events.overflows =
      (r.apply op).events.requested + (r.apply op).events.cancelled +
        (r.apply op).bus.timer.pending := by
  by_cases hreset : ∃ now state, op = .reset now state
  · obtain ⟨now, state, rfl⟩ := hreset
    rfl
  · have hop : ∀ now state, op ≠ .reset now state :=
      fun now state heq => hreset ⟨now, state, heq⟩
    have hevents : (r.apply op).events = r.events.plus (r.bus.timerEvents op) := by
      cases op with
      | reset now state => exact absurd rfl (hop now state)
      | _ => rfl
    have hbus : (r.apply op).bus = r.bus.apply op := rfl
    have hbalance := balances_apply h.whole hop
    have hbalanced := h.balanced
    rw [hevents, hbus]
    unfold TimerEvents.Balances at hbalance
    unfold TimerEvents.plus
    dsimp only
    omega

/-- **An operation, and STOP with its fetch, keep what every run keeps.** -/
theorem Counted.Kept.act {r : Counted M} (h : r.Kept) {a : Act} (ha : a.Allowed) :
    (r.act a).Kept := by
  cases a with
  | op op =>
    refine ⟨whole_apply h.whole ?_, Counted.balanced_apply h op⟩
    rintro rfl
    exact ha
  | stop address =>
    have hfetch : (r.apply (.cpu (.read8 address))).Kept :=
      ⟨whole_apply h.whole nofun, Counted.balanced_apply h _⟩
    exact ⟨whole_stop h.whole, Counted.balanced_apply hfetch _⟩

theorem kept_of_reachable {rom : List Byte} {sampleRate : Nat} {r : Counted M}
    (h : Reachable (timerSystem M rom sampleRate) r) : r.Kept := by
  refine h.invariant ?_ ?_
  · rintro ⟨bus, events⟩ ⟨⟨persisted, now, cartridge, -, -, rfl⟩, rfl⟩
    exact ⟨Timer.whole_postBoot, rfl⟩
  · rintro r a s hkept ⟨ha, rfl⟩
    exact hkept.act ha

/-- **The timer's overflow windows**: at the boundary of every M-cycle of every run they
are what they should be, an overflow of the ticks or of STOP has the next M-cycle before its
reload and one of a write to DIV or TAC has not, and every overflow was requested once,
called off or is pending. -/
theorem timer_windows {rom : List Byte} {sampleRate : Nat} {r : Counted M}
    (h : Reachable (timerSystem M rom sampleRate) r) :
    r.bus.Windows ∧ r.bus.OverflowWindows ∧
      r.events.overflows = r.events.requested + r.events.cancelled + r.bus.timer.pending :=
  have hkept := kept_of_reachable h
  ⟨windows_of_whole hkept.whole, overflowWindows_of_whole hkept.whole, hkept.balanced⟩

theorem Counted.reachable_op {rom : List Byte} {sampleRate : Nat} {r : Counted M}
    (h : Reachable (timerSystem M rom sampleRate) r) (op : Op) (hop : (Act.op op).Allowed) :
    Reachable (timerSystem M rom sampleRate) (r.act (.op op)) :=
  h.step (i := .op op) ⟨hop, rfl⟩

/-- A new machine, its timer's events counted. -/
def Counted.nop : Counted .mute := ⟨nopBus, .none⟩

/-- TIMA is at its end and counts the falls of bit 3, which is set. -/
def Counted.full : Counted .mute :=
  ((Counted.nop.act (.op (.cpu (.write8 0xff07 5)))).act (.op (.cpu (.write8 0xff05 0xff)))).act
    (.op (.cpu .idleMCycle))

theorem Counted.reachable_full :
    Reachable (timerSystem .mute (imageOf 2 nopContent) 44100) Counted.full :=
  have hstart : Reachable (timerSystem .mute (imageOf 2 nopContent) 44100) Counted.nop :=
    .start ⟨⟨none, 0, nopCartridge, by decide, load_nopImage 0, rfl⟩, rfl⟩
  have htac := reachable_op hstart (.cpu (.write8 0xff07 5)) trivial
  have htima := reachable_op htac (.cpu (.write8 0xff05 0xff)) trivial
  reachable_op htima (.cpu .idleMCycle) trivial

theorem Counted.timer_write (r : Counted M) (address : Word) (value : Byte) :
    (r.act (.op (.cpu (.write8 address value)))).bus.timer =
      ((r.bus.timerAfterWrite address value).tick 4).device := write8_timer r.bus address value

theorem Counted.timer_idle (r : Counted M) :
    (r.act (.op (.cpu .idleMCycle))).bus.timer = (r.bus.timer.tick 4).device :=
  tickMCycle_timer r.bus

theorem Counted.timer_full : Counted.full.bus.timer = ⟨0xabd8, 0xff, 0, 5, none, false⟩ := by
  have htac : (Counted.nop.act (.op (.cpu (.write8 0xff07 5)))).bus.timer =
      ⟨0xabd0, 1, 0, 5, none, false⟩ := by
    rw [Counted.timer_write, timerAfterWrite_of rfl (by decide)]
    decide
  rw [Counted.full, Counted.timer_idle, Counted.timer_write, timerAfterWrite_of rfl (by decide),
    htac]
  decide

/-- **A write to DIV that overflows leaves no M-cycle to call its reload off**: TIMA keeps the
reloaded value and the interrupt stays requested. -/
theorem divider_overflow_not_cancelled :
    ¬ ∀ r : Counted .mute, Reachable (timerSystem .mute (imageOf 2 nopContent) 44100) r →
      ∀ address value tima, r.bus.writeAllowed address = true →
        0 < r.bus.timer.overflowsOnWrite address value →
        ((r.bus.write8 address value).write8 0xff05 tima).timer.tima = tima ∧
          ((r.bus.write8 address value).write8 0xff05 tima).timerFlagged =
            r.bus.timerFlagged := by
  intro hcancels
  have hover : 0 < Counted.full.bus.timer.overflowsOnWrite 0xff04 0 := by
    rw [Counted.timer_full]
    decide
  have htima := (hcancels Counted.full Counted.reachable_full 0xff04 0 0x77 rfl hover).1
  have hafter := timerAfterWrite_of (b := Counted.full.bus) rfl (by decide : inTimer 0xff04) 0
  rw [write8_timer, timerAfterWrite_of rfl (by decide), write8_timer, hafter,
    Counted.timer_full] at htima
  exact absurd htima (by decide)

/-- After two more M-cycles TIMA overflows at the end of the second: a write to TIMA in the
next one calls the reload off. -/
theorem timer_windows_pending :
    let r := (Counted.full.act (.op (.cpu .idleMCycle))).act (.op (.cpu .idleMCycle))
    r.bus.timer.reloadDelay = some 4 ∧
      (r.bus.write8 0xff05 0x77).timer.tima = 0x77 ∧
      (r.bus.write8 0xff05 0x77).timerFlagged = r.bus.timerFlagged ∧
      r.events.overflows = r.events.requested + r.events.cancelled + 1 := by
  intro r
  have hidle := Counted.reachable_op Counted.reachable_full (.cpu .idleMCycle) trivial
  obtain ⟨hwindows, -, hcount⟩ :=
    timer_windows (Counted.reachable_op hidle (.cpu .idleMCycle) trivial)
  have hpending : r.bus.timer.reloadDelay = some 4 := by
    rw [Counted.timer_idle, Counted.timer_idle, Counted.timer_full]
    decide
  obtain ⟨htima, -, hflagged⟩ := hwindows.cancels hpending rfl 0x77
  rw [Timer.pending_of_some hpending] at hcount
  exact ⟨hpending, htima, hflagged, hcount⟩

/-! ## The machine's runs are among them -/

/-- The bus is one whose timer's events are counted. -/
def Countable (rom : List Byte) (sampleRate : Nat) (b : MachineBus M) : Prop :=
  ∃ events, Reachable (timerSystem M rom sampleRate) ⟨b, events⟩

theorem Countable.op {rom : List Byte} {sampleRate : Nat} {b : MachineBus M}
    (h : Countable rom sampleRate b) {op : Op} (hop : (Act.op op).Allowed) :
    Countable rom sampleRate (b.apply op) := by
  obtain ⟨events, hb⟩ := h
  exact ⟨_, Counted.reachable_op hb op hop⟩

/-- What the CPU does is an operation or STOP with its fetch. -/
theorem Countable.moved {rom : List Byte} {sampleRate : Nat} {b c : MachineBus M}
    (h : Countable rom sampleRate b) (hmoved : Moved b c) : Countable rom sampleRate c := by
  refine hmoved.invariant h ?_
  rintro b c hb hmove
  cases hmove with
  | op op hop =>
    have hallowed : (Act.op (.cpu op)).Allowed := by
      cases op with
      | resetDivider => exact absurd rfl hop
      | _ => trivial
    exact hb.op hallowed
  | stop address =>
    obtain ⟨events, hb⟩ := hb
    have hfetched : (Act.stop address).Allowed := trivial
    exact ⟨_, hb.step ⟨hfetched, rfl⟩⟩

end MachineBus

/-- **The bus of a loaded core is among the counted ones**, whatever program runs: the CPU
resets the divider only after the fetch of STOP. -/
theorem GameBoy.countable_of_loaded {rom : List Byte} {g : GameBoy M}
    (h : Reachable (loadedSystem M rom) g) :
    ∃ b, g.bus = some b ∧ MachineBus.Countable rom g.sampleRate b := by
  have hkept : Kept rom fun sampleRate (b : MachineBus M) =>
      MachineBus.Countable rom sampleRate b := by
    constructor
    case new =>
      intro sampleRate now persisted cartridge hrate hload
      exact ⟨.none, .start ⟨⟨persisted, now, cartridge, hrate, hload, rfl⟩, rfl⟩⟩
    case moved =>
      intro sampleRate b c hmoved hb
      exact hb.moved hmoved
    case op =>
      intro sampleRate b op hop hb
      refine hb.op ?_
      cases op with
      | cpu op => exact absurd rfl (hop op)
      | _ => trivial
  exact hkept.bus h

end Pockiva
