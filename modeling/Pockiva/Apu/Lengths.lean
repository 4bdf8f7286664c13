import Pockiva.Apu.Sequencer

/-! # Length expiry

`Gate` is what a channel and its length counter come to: the channel plays, and when the
counter runs, the last of its clocks silences the channel.  The gate of each channel
follows the unit (`apply_gate`, `write_gate`); `length_expiry` states when a channel falls
silent and what a write to its control register takes from the counter.
-/
namespace Pockiva

open Transition

variable {M : MixerModel}

/-! ## A gate -/

/-- A channel and the clocks it has left, which count while `counting`. -/
@[ext] structure Gate where
  active : Bool
  remaining : Nat
  counting : Bool
deriving DecidableEq, Repr

namespace Gate

/-- A length clock. -/
def clock (g : Gate) : Gate :=
  if g.counting = false ∨ g.remaining = 0 then g
  else { g with active := g.active && decide (g.remaining ≠ 1), remaining := g.remaining - 1 }

/-- Something else silences the channel. -/
def silenceIf (g : Gate) (silences : Bool) : Gate := { g with active := g.active && !silences }

@[simp] theorem silenceIf_false (g : Gate) : g.silenceIf false = g := by
  unfold silenceIf
  rw [Bool.not_false, Bool.and_true]

/-- A length clock and another silencer, each of which can be there or not. -/
def step (g : Gate) (event : Bool × Bool) : Gate :=
  (if event.1 then g.clock else g).silenceIf event.2

theorem clock_eq {g : Gate} (hcounting : g.counting = true) :
    g.clock = ⟨g.active && decide (g.remaining ≠ 1), g.remaining - 1, true⟩ := by
  obtain ⟨active, remaining, counting⟩ := g
  cases hcounting
  unfold clock
  by_cases hzero : remaining = 0
  · simp [hzero]
  · simp [hzero]

/-- **The life of a gate**: each clock takes one, and the last one silences the channel. -/
theorem foldl_step (g : Gate) (hcounting : g.counting = true) (events : List (Bool × Bool)) :
    events.foldl step g =
      ⟨g.active && (decide (g.remaining = 0) || decide (events.countP Prod.fst < g.remaining)) &&
          !events.any Prod.snd,
        g.remaining - events.countP Prod.fst, true⟩ := by
  induction events generalizing g with
  | nil =>
    obtain ⟨active, remaining, counting⟩ := g
    cases hcounting
    by_cases hzero : remaining = 0
    · simp [hzero]
    · simp [Nat.pos_of_ne_zero hzero]
  | cons event events ih =>
    obtain ⟨clocks, silences⟩ := event
    rw [List.foldl_cons, List.any_cons, List.countP_cons]
    cases clocks with
    | false =>
      have hstep : g.step (false, silences) = g.silenceIf silences := rfl
      rw [hstep, ih (g.silenceIf silences) hcounting]
      dsimp only [silenceIf]
      rw [if_neg Bool.false_ne_true, Nat.add_zero, Bool.not_or]
      ac_rfl
    | true =>
      have hstep : g.step (true, silences) = g.clock.silenceIf silences := rfl
      have hleft : g.remaining - 1 - events.countP Prod.fst =
          g.remaining - (events.countP Prod.fst + 1) := by omega
      -- A counter at one reaches zero, and the gate stays shut from there on.
      have hopen : (decide (g.remaining ≠ 1) &&
          (decide (g.remaining - 1 = 0) || decide (events.countP Prod.fst < g.remaining - 1))) =
          (decide (g.remaining = 0) || decide (events.countP Prod.fst + 1 < g.remaining)) := by
        rw [Bool.eq_iff_iff]
        simp only [Bool.and_eq_true, Bool.or_eq_true, decide_eq_true_eq]
        omega
      rw [hstep, clock_eq hcounting, ih _ rfl]
      dsimp only [silenceIf]
      rw [if_pos rfl, hleft, ← hopen, Bool.not_or]
      ac_rfl

/-- A gate whose clocks do not count is shut by the other silencer only. -/
theorem foldl_step_off (g : Gate) (hcounting : g.counting = false) (events : List (Bool × Bool)) :
    events.foldl step g = g.silenceIf (events.any Prod.snd) := by
  induction events generalizing g with
  | nil => exact (silenceIf_false g).symm
  | cons event events ih =>
    have hclock : g.clock = g := if_pos (.inl hcounting)
    have hstep : g.step event = g.silenceIf event.2 := by
      unfold step
      rw [hclock, ite_self]
    rw [List.foldl_cons, hstep, ih (g.silenceIf event.2) hcounting, List.any_cons]
    unfold silenceIf
    rw [Bool.and_assoc, Bool.not_or]

/-- The length enable, in the half of the sequence without a length clock or not. -/
def setEnabled (g : Gate) (enable next : Bool) : Gate :=
  let remaining := if !g.counting && enable && !next then g.remaining - 1 else g.remaining
  ⟨g.active && !(enable && remaining == 0), remaining, enable⟩

/-- A trigger; whether the channel `starts` does not depend on the counter. -/
def trigger (g : Gate) (max : Nat) (next starts : Bool) : Gate :=
  { active := starts
    remaining :=
      if g.remaining = 0 then if g.counting && !next then max - 1 else max else g.remaining
    counting := g.counting }

/-- A write to the control register. -/
def writeControl (g : Gate) (max : Nat) (enable trigger next starts : Bool) : Gate :=
  if trigger then (g.setEnabled enable next).trigger max next starts else g.setEnabled enable next

section writeControl
variable {g : Gate} {max : Nat} {starts : Bool}

theorem writeControl_enabled (h : g.counting = false) :
    g.writeControl max true false false starts =
      ⟨g.active && decide (g.remaining - 1 ≠ 0), g.remaining - 1, true⟩ := by
  simp [writeControl, setEnabled, h, beq_eq_decide]

theorem writeControl_triggered (h : g.counting = false) :
    g.writeControl max true true false starts =
      ⟨starts, if g.remaining - 1 = 0 then max - 1 else g.remaining - 1, true⟩ := by
  simp [writeControl, setEnabled, Gate.trigger, h]

theorem writeControl_restarted (h : g.counting = true) :
    g.writeControl max true true false starts =
      ⟨starts, if g.remaining = 0 then max - 1 else g.remaining, true⟩ := by
  simp [writeControl, setEnabled, Gate.trigger, h]

/-- In the other half of the sequence nothing is taken, and neither when the counter stays
off or was on already. -/
theorem writeControl_remaining {enable trigger next : Bool}
    (h : next = true ∨ enable = false ∨ (g.counting = true ∧ trigger = false)) :
    (g.writeControl max enable trigger next starts).remaining =
      if trigger = true ∧ g.remaining = 0 then max else g.remaining := by
  have htaken : (g.setEnabled enable next).remaining = g.remaining := by
    refine if_neg ?_
    rcases h with rfl | rfl | ⟨hcounting, -⟩
    · rw [Bool.not_true, Bool.and_false]
      decide
    · rw [Bool.and_false, Bool.false_and]
      decide
    · rw [hcounting]
      exact Bool.false_ne_true
  have hcounting : (g.setEnabled enable next).counting = enable := rfl
  unfold writeControl
  cases trigger with
  | false => exact htaken
  | true =>
    have hwhole : (enable && !next) = false := by
      rcases h with rfl | rfl | ⟨-, hnot⟩
      · rw [Bool.not_true, Bool.and_false]
      · rfl
      · cases hnot
    rw [if_pos rfl, Gate.trigger, htaken, hcounting, hwhole]
    simp

end writeControl

end Gate

/-! ## The gate of a channel -/

/-- The gate that a flag and a length counter make. -/
def LengthCounter.gate {max : Nat} (active : Bool) (l : LengthCounter max) : Gate :=
  ⟨active, l.remaining, l.enabled⟩

namespace LengthCounter
variable {max : Nat}

/-- A clock says of its last step that it is the last. -/
theorem clock_last (l : LengthCounter max) : l.clock.2 = (l.enabled && l.remaining == 1) := by
  obtain ⟨remaining, enabled⟩ := l
  unfold clock
  cases enabled with
  | false => rfl
  | true =>
    rcases Nat.eq_zero_or_pos remaining with rfl | hpos
    · rfl
    · have hrunning : ¬ (true = false ∨ remaining = 0) := not_or.mpr ⟨by decide, by omega⟩
      rw [if_neg hrunning, Bool.true_and, Bool.eq_iff_iff, beq_iff_eq, beq_iff_eq]
      dsimp only
      omega

/-- **A clock of the counter is a clock of the gate.** -/
theorem gate_clock (active : Bool) (l : LengthCounter max) :
    l.clock.1.gate (if l.clock.2 then false else active) = (l.gate active).clock := by
  obtain ⟨remaining, enabled⟩ := l
  rw [clock_last]
  unfold clock Gate.clock gate
  cases enabled with
  | false => rfl
  | true =>
    by_cases hzero : remaining = 0
    · subst hzero
      rfl
    have hrunning : ¬ (true = false ∨ remaining = 0) := not_or.mpr ⟨by decide, by omega⟩
    rw [if_neg hrunning, if_neg hrunning]
    by_cases hone : remaining = 1
    · subst hone
      simp
    · simp [hone]

/-- **So is the length enable,** -/
theorem gate_setEnabled (active enable next : Bool) (l : LengthCounter max) :
    (l.setEnabled enable next active).1.gate
        (if (l.setEnabled enable next active).2 then false else active) =
      (l.gate active).setEnabled enable next := by
  obtain ⟨remaining, enabled⟩ := l
  have hextra : (if (!enabled && enable && !next && decide (remaining > 0)) = true then
      remaining - 1 else remaining) =
      if (!enabled && enable && !next) = true then remaining - 1 else remaining := by
    rcases Nat.eq_zero_or_pos remaining with rfl | hpos
    · rw [Nat.zero_sub, ite_self, ite_self]
    · rw [decide_eq_true hpos, Bool.and_true]
  unfold setEnabled Gate.setEnabled gate
  dsimp only
  rw [hextra]
  generalize (if (!enabled && enable && !next) = true then remaining - 1 else remaining) = left
  by_cases hzero : left = 0
  · cases active <;> cases enable <;> simp [hzero]
  · cases active <;> cases enable <;> simp [hzero]

/-- **and the trigger.** -/
theorem gate_trigger (active next starts : Bool) (l : LengthCounter max) :
    (l.trigger next).1.gate starts = (l.gate active).trigger max next starts := by
  unfold trigger Gate.trigger gate
  dsimp only
  split <;> rfl

end LengthCounter

namespace Apu

/-- The gate of a channel of the unit. -/
def gate (a : Apu M) : Channel → Gate
  | .channel1 => a.channel1.length.gate a.channel1.enabled
  | .channel2 => a.channel2.length.gate a.channel2.enabled
  | .channel3 => a.channel3.length.gate a.channel3.enabled
  | .channel4 => a.channel4.length.gate a.channel4.enabled

/-- A write to wave RAM does not reach the gate. -/
theorem gate_writeWaveRam (c : WaveChannel) (address : Word) (value : Byte) :
    (c.writeWaveRam address value).length.gate (c.writeWaveRam address value).enabled =
      c.length.gate c.enabled := by
  unfold WaveChannel.writeWaveRam
  split
  · rfl
  · split <;> rfl

theorem sheltered_gate (ch : Channel) : Sheltered ch fun a : Apu M => a.gate ch where
  timed a mirror step phase mixer pcm := by cases ch <;> rfl
  tickChannels a := by
    -- A T-cycle moves the position in the waveform, and nothing of the counter.
    have hpulse (c : PulseChannel) :
        c.tickTCycle.length.gate c.tickTCycle.enabled = c.length.gate c.enabled := by
      unfold PulseChannel.tickTCycle
      split <;> rfl
    have hwave (c : WaveChannel) :
        c.tickTCycle.length.gate c.tickTCycle.enabled = c.length.gate c.enabled := by
      unfold WaveChannel.tickTCycle
      split <;> rfl
    have hnoise (c : NoiseChannel) :
        c.tickTCycle.length.gate c.tickTCycle.enabled = c.length.gate c.enabled := by
      unfold NoiseChannel.tickTCycle
      split <;> rfl
    unfold tickChannels
    split
    · cases ch with
      | channel1 => exact hpulse a.channel1
      | channel2 => exact hpulse a.channel2
      | channel3 => exact hwave a.channel3
      | channel4 => exact hnoise a.channel4
    · rfl
  writePoweredOn a address value howns := by
    unfold writePoweredOn
    cases ch with
    | channel1 =>
      dsimp only [Channel.Owns] at howns ⊢
      rw [if_neg howns]
      repeat' split
      all_goals rfl
    | channel2 =>
      dsimp only [Channel.Owns] at howns ⊢
      rw [if_neg howns]
      repeat' split
      all_goals rfl
    | channel3 =>
      dsimp only [Channel.Owns] at howns ⊢
      rw [if_neg howns]
      repeat' split
      all_goals first | rfl | exact gate_writeWaveRam a.channel3 address value
    | channel4 =>
      dsimp only [Channel.Owns] at howns ⊢
      rw [if_neg howns]
      repeat' split
      all_goals rfl
  writePoweredOff a address value howns := by
    -- With the power off a channel's only writable register is that of its length.
    have hother (register : Word) (hregister : ch.Owns register) : address ≠ register :=
      fun heq => howns (heq ▸ hregister)
    unfold writePoweredOff
    cases ch with
    | channel1 =>
      rw [if_neg (hother 0xff11 (by decide))]
      repeat' split
      all_goals rfl
    | channel2 =>
      rw [if_neg (hother 0xff16 (by decide))]
      repeat' split
      all_goals rfl
    | channel3 =>
      rw [if_neg (hother 0xff1b (by decide))]
      repeat' split
      all_goals first | rfl | exact gate_writeWaveRam a.channel3 address value
    | channel4 =>
      rw [if_neg (hother 0xff20 (by decide))]
      repeat' split
      all_goals rfl

/-- The sweep of channel 1 silences it in this operation. -/
def sweepSilences (a : Apu M) (ch : Channel) (op : Op) : Bool :=
  a.clocksSweep op && decide (ch = .channel1) && a.channel1.sweepClock.silences

theorem clockLengths_gate (a : Apu M) (ch : Channel) :
    a.clockLengths.gate ch = (a.gate ch).clock := by
  cases ch with
  | channel1 => exact a.channel1.length.gate_clock a.channel1.enabled
  | channel2 => exact a.channel2.length.gate_clock a.channel2.enabled
  | channel3 => exact a.channel3.length.gate_clock a.channel3.enabled
  | channel4 => exact a.channel4.length.gate_clock a.channel4.enabled

/-- A clock of the sweep, after the one of the lengths. -/
theorem clockSweep_gate (a : Apu M) (ch : Channel) :
    ({ a.clockLengths with channel1 := a.clockLengths.channel1.clockSweep } : Apu M).gate ch =
      (a.gate ch).clock.silenceIf (decide (ch = .channel1) && a.channel1.sweepClock.silences) := by
  rw [← clockLengths_gate, PulseChannel.clockSweep_eq]
  cases ch with
  | channel1 => rfl
  | channel2 => exact (Gate.silenceIf_false _).symm
  | channel3 => exact (Gate.silenceIf_false _).symm
  | channel4 => exact (Gate.silenceIf_false _).symm

/-- **A clock of the frame sequencer**, as the gate of a channel sees it. -/
theorem clockFrameSequencer_gate (a : Apu M) (ch : Channel) :
    a.clockFrameSequencer.gate ch =
      (a.gate ch).step (decide (a.frameStep ∈ lengthSteps),
        decide (a.frameStep ∈ sweepSteps) && decide (ch = .channel1) &&
          a.channel1.sweepClock.silences) := by
  have htimed (b : Apu M) (step : Nat) :
      ({ b with frameStep := step } : Apu M).gate ch = b.gate ch :=
    (sheltered_gate ch).timed b b.dividerMirror step b.samplePhase b.mixer b.pcm
  unfold clockFrameSequencer
  dsimp only
  rw [htimed]
  -- Steps 0 and 4 clock the lengths, 2 and 6 the sweep as well, 7 the envelopes.
  split
  · next hstep =>
    rw [hstep, clockLengths_gate]
    exact (Gate.silenceIf_false _).symm
  · next hstep =>
    rw [hstep, clockLengths_gate]
    exact (Gate.silenceIf_false _).symm
  · next hstep =>
    rw [hstep, clockSweep_gate]
    rfl
  · next hstep =>
    rw [hstep, clockSweep_gate]
    rfl
  · next hstep =>
    have henvelopes : a.clockEnvelopes.gate ch = a.gate ch := by cases ch <;> rfl
    rw [hstep, henvelopes]
    exact (Gate.silenceIf_false _).symm
  · next hzero hfour htwo hsix hseven =>
    -- The other three steps clock nothing.
    have hlength : a.frameStep ∉ lengthSteps := by
      intro hmem
      simp only [lengthSteps, List.mem_cons, List.not_mem_nil, or_false] at hmem
      rcases hmem with h | h | h | h
      · exact hzero h
      · exact htwo h
      · exact hfour h
      · exact hsix h
    have hsweep : a.frameStep ∉ sweepSteps := by
      intro hmem
      simp only [sweepSteps, List.mem_cons, List.not_mem_nil, or_false] at hmem
      rcases hmem with h | h
      · exact htwo h
      · exact hsix h
    rw [decide_eq_false hlength, decide_eq_false hsweep]
    exact (Gate.silenceIf_false _).symm

/-- **The gate follows the unit**, one operation at a time. -/
theorem apply_gate (a : Apu M) {ch : Channel} {op : Op} (hop : op.Spares ch) :
    (a.apply op).gate ch = (a.gate ch).step (a.clocksLengths op, a.sweepSilences ch op) := by
  have hsequenced := (sheltered_gate ch).apply a hop
  rw [hsequenced]
  unfold sequenced clocksLengths sweepSilences clocksSweep
  cases a.clocksSequencer op with
  | true => exact a.clockFrameSequencer_gate ch
  | false => exact (Gate.silenceIf_false _).symm

/-! ## Expiry -/

/-- How many length clocks a run makes. -/
def lengthClocks (a : Apu M) (ops : List Op) : Nat :=
  (a.steps ops).countP fun step => step.1.clocksLengths step.2

/-- The sweep silences the channel in the run; only that of channel 1 does. -/
def silencedBySweep (a : Apu M) (ch : Channel) (ops : List Op) : Bool :=
  (a.steps ops).any fun step => step.1.sweepSilences ch step.2

/-- A length clock would silence the channel now. -/
def lengthExpires (a : Apu M) : Channel → Bool
  | .channel1 => a.channel1.length.clock.2
  | .channel2 => a.channel2.length.clock.2
  | .channel3 => a.channel3.length.clock.2
  | .channel4 => a.channel4.length.clock.2

/-- The bit of NR52 for a channel. -/
def statusBit : Channel → Nat
  | .channel1 => 0
  | .channel2 => 1
  | .channel3 => 2
  | .channel4 => 3

/-- The gate follows a run. -/
theorem play_gate (a : Apu M) {ch : Channel} {ops : List Op} (hops : ∀ op ∈ ops, op.Spares ch) :
    (a.play ops).gate ch =
      ((a.steps ops).map fun step =>
        (step.1.clocksLengths step.2, step.1.sweepSilences ch step.2)).foldl Gate.step
          (a.gate ch) := by
  induction ops generalizing a with
  | nil => rfl
  | cons op ops ih =>
    have hrest := ih (a.apply op) fun op hop => hops op (List.mem_cons_of_mem _ hop)
    show ((a.apply op).play ops).gate ch = _
    rw [hrest, a.apply_gate (hops op List.mem_cons_self)]
    rfl

/-- **The gate after a run**: what the length clocks and the sweep left of it. -/
theorem play_gate_eq (a : Apu M) {ch : Channel} {ops : List Op}
    (hops : ∀ op ∈ ops, op.Spares ch) (hcounting : (a.gate ch).counting = true) :
    (a.play ops).gate ch =
      ⟨(a.gate ch).active &&
          (decide ((a.gate ch).remaining = 0) ||
            decide (a.lengthClocks ops < (a.gate ch).remaining)) &&
          !a.silencedBySweep ch ops,
        (a.gate ch).remaining - a.lengthClocks ops, true⟩ := by
  rw [a.play_gate hops, Gate.foldl_step _ hcounting, List.countP_map, List.any_map]
  rfl

theorem play_gate_off (a : Apu M) {ch : Channel} {ops : List Op}
    (hops : ∀ op ∈ ops, op.Spares ch) (hcounting : (a.gate ch).counting = false) :
    (a.play ops).gate ch = (a.gate ch).silenceIf (a.silencedBySweep ch ops) := by
  rw [a.play_gate hops, Gate.foldl_step_off _ hcounting, List.any_map]
  rfl

theorem lengthExpires_eq (a : Apu M) (ch : Channel) :
    a.lengthExpires ch = ((a.gate ch).counting && (a.gate ch).remaining == 1) := by
  cases ch with
  | channel1 => exact a.channel1.length.clock_last
  | channel2 => exact a.channel2.length.clock_last
  | channel3 => exact a.channel3.length.clock_last
  | channel4 => exact a.channel4.length.clock_last

/-- NR52 shows whether a channel plays. -/
theorem read_statusBit (a : Apu M) (ch : Channel) :
    (a.read 0xff26).getLsbD (statusBit ch) = (a.gate ch).active := by
  have hbits : ∀ master one two three four : Bool, ∀ ch : Channel,
      ((0x70 : Byte) ||| (byteOfBool master <<< 7) ||| byteOfBool one ||| (byteOfBool two <<< 1)
        ||| (byteOfBool three <<< 2) ||| (byteOfBool four <<< 3)).getLsbD (statusBit ch) =
      match ch with
      | .channel1 => one
      | .channel2 => two
      | .channel3 => three
      | .channel4 => four := by
    intro master one two three four ch
    cases master <;> cases one <;> cases two <;> cases three <;> cases four <;> cases ch <;> rfl
  have hread := hbits a.masterEnabled a.channel1.active a.channel2.active a.channel3.active
    a.channel4.active ch
  cases ch <;> exact hread

end Apu

/-! ## The control registers -/

/-- The frequency after a write to the control register. -/
def PulseChannel.controlFrequency (c : PulseChannel) (value : Byte) : Nat :=
  (c.frequency &&& 0x00ff) ||| ((value &&& 0x07).toNat <<< 8)

/-- A trigger leaves the channel playing: its DAC is on and the sweep does not overflow. -/
def PulseChannel.starts (c : PulseChannel) (frequency : Nat) : Bool :=
  c.dacEnabled &&
    match c.sweep with
    | some sweep => decide ((sweep.trigger frequency).2 ≠ .disabled)
    | none => true

theorem PulseChannel.gate_trigger (c : PulseChannel) (next : Bool) :
    (c.trigger next).length.gate (c.trigger next).enabled =
      (c.length.gate c.enabled).trigger 64 next (c.starts c.frequency) := by
  rw [← LengthCounter.gate_trigger]
  unfold PulseChannel.trigger PulseChannel.triggerSweep PulseChannel.starts
  dsimp only
  cases c.sweep with
  | none =>
    dsimp only
    rw [Bool.and_true]
  | some sweep =>
    dsimp only
    by_cases hoverflow : (sweep.trigger c.frequency).2 = .disabled
    · rw [if_pos hoverflow, decide_eq_false (not_not.mpr hoverflow), Bool.and_false]
    · rw [if_neg hoverflow, decide_eq_true hoverflow, Bool.and_true]

theorem PulseChannel.gate_writeControl (c : PulseChannel) (value : Byte) (next : Bool) :
    (c.writeControl value next).length.gate (c.writeControl value next).enabled =
      (c.length.gate c.enabled).writeControl 64 (value &&& 0x40 != 0) (value &&& 0x80 != 0)
        next (c.starts (c.controlFrequency value)) := by
  unfold PulseChannel.writeControl Gate.writeControl
  dsimp only
  split
  · rw [gate_trigger, LengthCounter.gate_setEnabled]
    rfl
  · exact LengthCounter.gate_setEnabled _ _ _ _

theorem WaveChannel.gate_writeControl (c : WaveChannel) (value : Byte) (next : Bool) :
    (c.writeControl value next).length.gate (c.writeControl value next).enabled =
      (c.length.gate c.enabled).writeControl 256 (value &&& 0x40 != 0) (value &&& 0x80 != 0)
        next c.dacEnabled := by
  unfold WaveChannel.writeControl Gate.writeControl
  dsimp only
  split
  · rw [← LengthCounter.gate_setEnabled, ← LengthCounter.gate_trigger]
    rfl
  · exact LengthCounter.gate_setEnabled _ _ _ _

theorem NoiseChannel.gate_writeControl (c : NoiseChannel) (value : Byte) (next : Bool) :
    (c.writeControl value next).length.gate (c.writeControl value next).enabled =
      (c.length.gate c.enabled).writeControl 64 (value &&& 0x40 != 0) (value &&& 0x80 != 0)
        next c.dacEnabled := by
  unfold NoiseChannel.writeControl Gate.writeControl
  dsimp only
  split
  · rw [← LengthCounter.gate_setEnabled, ← LengthCounter.gate_trigger]
    rfl
  · exact LengthCounter.gate_setEnabled _ _ _ _

/-- NR14, NR24, NR34 and NR44. -/
def Channel.control : Channel → Word
  | .channel1 => 0xff14
  | .channel2 => 0xff19
  | .channel3 => 0xff1e
  | .channel4 => 0xff23

def Channel.maxLength : Channel → Nat
  | .channel1 => 64
  | .channel2 => 64
  | .channel3 => 256
  | .channel4 => 64

namespace Apu

/-- A trigger by this write leaves the channel playing. -/
def starts (a : Apu M) (value : Byte) : Channel → Bool
  | .channel1 => a.channel1.starts (a.channel1.controlFrequency value)
  | .channel2 => a.channel2.starts (a.channel2.controlFrequency value)
  | .channel3 => a.channel3.dacEnabled
  | .channel4 => a.channel4.dacEnabled

/-- **A write to a control register is a write to the gate.** -/
theorem write_gate {a : Apu M} (hon : a.masterEnabled = true) (ch : Channel) (value : Byte) :
    (a.write ch.control value).gate ch =
      (a.gate ch).writeControl ch.maxLength (value &&& 0x40 != 0) (value &&& 0x80 != 0)
        a.nextStepClocksLength (a.starts value ch) := by
  have hwrite : a.write ch.control value = a.writePoweredOn ch.control value := by
    unfold write
    rw [if_neg (by cases ch <;> decide), if_neg (by cases ch <;> decide), if_pos hon]
  rw [hwrite]
  unfold writePoweredOn
  cases ch with
  | channel1 => exact a.channel1.gate_writeControl value a.nextStepClocksLength
  | channel2 => exact a.channel2.gate_writeControl value a.nextStepClocksLength
  | channel3 => exact a.channel3.gate_writeControl value a.nextStepClocksLength
  | channel4 => exact a.channel4.gate_writeControl value a.nextStepClocksLength

/-! ## The law of the length counters -/

/-- What becomes of a channel that plays with a running length counter while its registers
and NR52 are left alone. -/
structure Expires (a : Apu M) (ch : Channel) : Prop where
  /-- Each length clock takes one from the counter. -/
  counted : ∀ ops : List Op, (∀ op ∈ ops, op.Spares ch) →
    ((a.play ops).gate ch).remaining = (a.gate ch).remaining - a.lengthClocks ops
  /-- The counter silences the channel at the clock that takes the last one, and at no other. -/
  expires : ∀ ops : List Op, (∀ op ∈ ops, op.Spares ch) →
    ((a.play ops).lengthExpires ch = true ↔ a.lengthClocks ops + 1 = (a.gate ch).remaining)
  /-- Until then the channel plays, unless the sweep silences it. -/
  plays : ∀ ops : List Op, (∀ op ∈ ops, op.Spares ch) →
    (((a.play ops).gate ch).active = true ↔
      a.lengthClocks ops < (a.gate ch).remaining ∧ a.silencedBySweep ch ops = false)
  /-- NR52 agrees. -/
  status : ∀ ops : List Op, (∀ op ∈ ops, op.Spares ch) →
    ((a.play ops).read 0xff26).getLsbD (statusBit ch) = ((a.play ops).gate ch).active

/-- What a write to the control register takes from the length counter. -/
structure ExtraClock (a : Apu M) (ch : Channel) : Prop where
  /-- Enabling the counter takes one, and silences a channel that has none left. -/
  enabled : ∀ value : Byte, value &&& 0x40 ≠ 0 → value &&& 0x80 = 0 →
    (a.gate ch).counting = false → a.frameStep ∉ lengthSteps →
    (a.write ch.control value).gate ch =
      ⟨(a.gate ch).active && decide ((a.gate ch).remaining - 1 ≠ 0), (a.gate ch).remaining - 1,
        true⟩
  /-- With a trigger in the same write, a counter that is used up starts over instead. -/
  triggered : ∀ value : Byte, value &&& 0x40 ≠ 0 → value &&& 0x80 ≠ 0 →
    (a.gate ch).counting = false → a.frameStep ∉ lengthSteps →
    (a.write ch.control value).gate ch =
      ⟨a.starts value ch,
        if (a.gate ch).remaining - 1 = 0 then ch.maxLength - 1 else (a.gate ch).remaining - 1,
        true⟩
  /-- A trigger takes one from a running counter that it starts over. -/
  restarted : ∀ value : Byte, value &&& 0x40 ≠ 0 → value &&& 0x80 ≠ 0 →
    (a.gate ch).counting = true → a.frameStep ∉ lengthSteps →
    (a.write ch.control value).gate ch =
      ⟨a.starts value ch,
        if (a.gate ch).remaining = 0 then ch.maxLength - 1 else (a.gate ch).remaining, true⟩
  /-- No other write takes anything. -/
  otherwise : ∀ value : Byte,
    a.frameStep ∈ lengthSteps ∨ value &&& 0x40 = 0 ∨
      ((a.gate ch).counting = true ∧ value &&& 0x80 = 0) →
    ((a.write ch.control value).gate ch).remaining =
      if value &&& 0x80 ≠ 0 ∧ (a.gate ch).remaining = 0 then ch.maxLength
      else (a.gate ch).remaining

/-- The code asks for an even step. -/
theorem nextStepClocksLength_eq {a : Apu M} (h : a.frameStep < 8) :
    a.nextStepClocksLength = decide (a.frameStep ∈ lengthSteps) := by
  have hsteps : ∀ step < 8, (step % 2 == 0) = decide (step ∈ lengthSteps) := by decide
  exact hsteps a.frameStep h

theorem expires_of_playing {a : Apu M} {ch : Channel} (hcounting : (a.gate ch).counting = true)
    (hactive : (a.gate ch).active = true) (hremaining : (a.gate ch).remaining ≠ 0) :
    a.Expires ch where
  counted ops hops := by rw [a.play_gate_eq hops hcounting]
  expires ops hops := by
    rw [lengthExpires_eq, a.play_gate_eq hops hcounting]
    simp only [Bool.true_and, beq_iff_eq]
    omega
  plays ops hops := by
    rw [a.play_gate_eq hops hcounting, hactive, decide_eq_false hremaining]
    simp only [Bool.true_and, Bool.false_or, Bool.and_eq_true, decide_eq_true_eq,
      Bool.not_eq_true']
  status ops _ := read_statusBit _ ch

theorem extraClock_of_on {a : Apu M} (hstep : a.frameStep < 8) (hon : a.masterEnabled = true)
    (ch : Channel) : a.ExtraClock ch := by
  have hnext := nextStepClocksLength_eq hstep
  constructor
  case enabled =>
    intro value henable htrigger hcounting hodd
    rw [write_gate hon, hnext, decide_eq_false hodd, bne_iff_ne.mpr henable,
      bne_eq_false_iff_eq.mpr htrigger]
    exact Gate.writeControl_enabled hcounting
  case triggered =>
    intro value henable htrigger hcounting hodd
    rw [write_gate hon, hnext, decide_eq_false hodd, bne_iff_ne.mpr henable,
      bne_iff_ne.mpr htrigger]
    exact Gate.writeControl_triggered hcounting
  case restarted =>
    intro value henable htrigger hcounting hodd
    rw [write_gate hon, hnext, decide_eq_false hodd, bne_iff_ne.mpr henable,
      bne_iff_ne.mpr htrigger]
    exact Gate.writeControl_restarted hcounting
  case otherwise =>
    intro value hnone
    rw [write_gate hon, hnext, Gate.writeControl_remaining]
    · simp only [bne_iff_ne]
    · rcases hnone with heven | henable | ⟨hcounting, htrigger⟩
      · exact .inl (decide_eq_true heven)
      · exact .inr (.inl (bne_eq_false_iff_eq.mpr henable))
      · exact .inr (.inr ⟨hcounting, bne_eq_false_iff_eq.mpr htrigger⟩)

/-- **Length expiry**, for every channel in every state of the unit. -/
structure LengthLaw (a : Apu M) (ch : Channel) : Prop where
  expires : (a.gate ch).active = true → (a.gate ch).counting = true → a.Expires ch
  extraClock : a.masterEnabled = true → a.ExtraClock ch

/-- A channel that plays has clocks left. -/
theorem remaining_ne_zero {a : Apu M} (h : a.WellFormed) {ch : Channel}
    (hactive : (a.gate ch).active = true) (hcounting : (a.gate ch).counting = true) :
    (a.gate ch).remaining ≠ 0 := by
  cases ch with
  | channel1 => exact h.channel1.playing.remains hactive hcounting
  | channel2 => exact h.channel2.playing.remains hactive hcounting
  | channel3 => exact h.channel3.playing.remains hactive hcounting
  | channel4 => exact h.channel4.playing.remains hactive hcounting

/-- **Length expiry and the extra length clock**, of every channel in every state. -/
theorem length_expiry {sampleRate : Nat} {a : Apu M} (h : Reachable (Apu.system M sampleRate) a)
    (ch : Channel) : a.LengthLaw ch := by
  have hwell := wellFormed_of_reachable h
  constructor
  case expires =>
    intro hactive hcounting
    exact expires_of_playing hcounting hactive (remaining_ne_zero hwell hactive hcounting)
  case extraClock => exact fun hon => extraClock_of_on hwell.frameStep hon ch

/-- Channel 1 triggered with its length counter running. -/
theorem length_expiry_triggered :
    let a : Apu .mute := (Apu.new 44100).write 0xff14 0xc7
    (a.gate .channel1).active = true ∧ (a.gate .channel1).counting = true ∧
      a.LengthLaw .channel1 := by
  have hnew : Reachable (Apu.system .mute 44100) (Apu.new 44100) := .start ⟨by decide, rfl⟩
  exact ⟨by decide, by decide, length_expiry (hnew.ofNext (.write 0xff14 0xc7)) .channel1⟩

end Apu

end Pockiva
