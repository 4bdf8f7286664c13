import Pockiva.Apu.Sweep

/-! # The law of the frequency sweep

`frequency_sweep` states what becomes of channel 1 after a trigger: the frequencies are
iterates, the sweep silences the channel when the next one would be too high, and it
does so when the negate bit is cleared after a subtraction.  The last one is the business
of a latch (`Latched`), which follows any writes but another trigger.
-/
namespace Pockiva

open Transition Lookahead

variable {M : MixerModel}

/-! ## A trigger -/

/-- What a trigger does to the frequency and the sweep. -/
theorem PulseChannel.writeControl_trigger (c : PulseChannel) {value : Byte}
    (hvalue : value &&& 0x80 ≠ 0) (next : Bool) :
    (c.writeControl value next).frequency = c.controlFrequency value ∧
      (c.writeControl value next).sweep =
        c.sweep.map fun sweep => (sweep.trigger (c.controlFrequency value)).1 := by
  unfold PulseChannel.writeControl PulseChannel.trigger PulseChannel.triggerSweep
  dsimp only
  rw [if_pos (bne_iff_ne.mpr hvalue)]
  cases c.sweep with
  | none => exact ⟨rfl, rfl⟩
  | some sweep => exact ⟨rfl, rfl⟩

namespace Apu

/-- Channel 1 after a write to NR14. -/
theorem write_ff14 {a : Apu M} (hon : a.masterEnabled = true) (value : Byte) :
    (a.write 0xff14 value).channel1 = a.channel1.writeControl value a.nextStepClocksLength := by
  unfold write
  rw [if_neg (by decide), if_neg (by decide), if_pos hon]
  rfl

/-- The trigger makes the sweep silence channel 1 at once. -/
def triggerDisables (a : Apu M) (value : Byte) : Bool :=
  match a.channel1.sweep with
  | some sweep => decide ((sweep.trigger (a.channel1.controlFrequency value)).2 = .disabled)
  | none => false

/-- The sweep has silenced channel 1, which was triggered by a write to NR14. -/
def sweepDisables (a : Apu M) (value : Byte) (ops : List Op) : Bool :=
  a.triggerDisables value || (a.write 0xff14 value).silencedBySweep .channel1 ops

section Trigger
variable {a : Apu M} {s : FrequencySweep} {value : Byte} {ops : List Op}

theorem triggered_sweeping (hon : a.masterEnabled = true) (hs : a.channel1.sweep = some s)
    (hpace : 0 < s.pace) (hshift : 0 < s.shift) (hvalue : value &&& 0x80 ≠ 0) :
    (a.write 0xff14 value).Sweeping s (a.write 0xff14 value).channel1.frequency 0 ∧
      a.triggerDisables value =
        !decide (s.ahead (a.write 0xff14 value).channel1.frequency 0 ≤ 2047) := by
  obtain ⟨hfrequency, hsweep⟩ :=
    a.channel1.writeControl_trigger hvalue a.nextStepClocksLength
  rw [← write_ff14 hon] at hfrequency hsweep
  rw [hs] at hsweep
  obtain ⟨hfollows, hdisabled⟩ := s.follows_trigger hpace hshift (a.channel1.controlFrequency value)
  rw [← hfrequency] at hfollows hdisabled hsweep
  refine ⟨⟨⟨_, hsweep, hfollows⟩, ?_⟩, ?_⟩
  · unfold FrequencySweep.held FrequencySweep.moves
    rw [Nat.zero_div]
    rfl
  · unfold triggerDisables
    rw [hs, ← decide_not]
    dsimp only
    rw [← hfrequency]
    exact decide_eq_decide.mpr hdisabled

/-- **The sweep has silenced the channel when the next frequency is too high.** -/
theorem sweepDisables_eq (hon : a.masterEnabled = true) (hs : a.channel1.sweep = some s)
    (hpace : 0 < s.pace) (hshift : 0 < s.shift) (hvalue : value &&& 0x80 ≠ 0)
    (hops : ∀ op ∈ ops, op.Spares .channel1) :
    a.sweepDisables value ops =
      !decide (s.ahead (a.write 0xff14 value).channel1.frequency
        ((a.write 0xff14 value).sweepClocks ops) ≤ 2047) := by
  obtain ⟨hsweeping, htrigger⟩ := triggered_sweeping hon hs hpace hshift hvalue
  obtain ⟨-, -, hsilenced⟩ := sweeping_play hsweeping hpace hshift hops
  rw [sweepDisables, htrigger, hsilenced]
  generalize (a.write 0xff14 value).channel1.frequency = frequency
  by_cases hfits : s.ahead frequency ((a.write 0xff14 value).sweepClocks ops) ≤ 2047
  · rw [decide_eq_true hfits, decide_eq_true (FrequencySweep.ahead_le (Nat.zero_le _) hfits)]
    rfl
  · rw [decide_eq_false hfits]
    cases decide (s.ahead frequency 0 ≤ 2047) <;> rfl

end Trigger

/-! ## The law of the sweep -/

/-- Channel 1 triggered by a write to NR14, with the sweep `s`, and then left alone. -/
structure SweepLaw (a : Apu M) (value : Byte) (s : FrequencySweep) (ops : List Op) : Prop where
  /-- The frequencies written are iterates, one for each pace of sweep clocks. -/
  iterates : ∃ events ≤ (a.write 0xff14 value).sweepClocks ops / s.pace,
    (a.write 0xff14 value).sweepWrites ops =
        movesList s (a.write 0xff14 value).channel1.frequency events ∧
      ((a.write 0xff14 value).play ops).channel1.frequency =
        s.next^[events] (a.write 0xff14 value).channel1.frequency ∧
      (a.sweepDisables value ops = false →
        events = (a.write 0xff14 value).sweepClocks ops / s.pace)
  bounded : ((a.write 0xff14 value).play ops).channel1.frequency ≤ 2047 ∧
    ∀ frequency ∈ (a.write 0xff14 value).sweepWrites ops, frequency ≤ 2047
  /-- The sweep silences the channel when the next iterate is too high. -/
  disabled : a.sweepDisables value ops = true ↔
    2047 < s.next ((a.write 0xff14 value).play ops).channel1.frequency
  /-- Else the channel plays, as far as its DAC and its length counter let it. -/
  plays : ((a.write 0xff14 value).play ops).channel1.active = true ↔
    a.channel1.dacEnabled = true ∧ a.sweepDisables value ops = false ∧
      (((a.write 0xff14 value).gate .channel1).counting = true →
        (a.write 0xff14 value).lengthClocks ops <
          ((a.write 0xff14 value).gate .channel1).remaining)
  /-- Nothing is written once the channel is silenced. -/
  stopped : a.sweepDisables value ops = true →
    ∀ more : List Op, (∀ op ∈ more, op.Spares .channel1) →
      (a.write 0xff14 value).sweepWrites (ops ++ more) = (a.write 0xff14 value).sweepWrites ops
  /-- A subtraction never silences it. -/
  subtraction : s.negate = true → a.sweepDisables value ops = false

theorem reachable_play {sampleRate : Nat} {a : Apu M}
    (h : Reachable (Apu.system M sampleRate) a) (ops : List Op) :
    Reachable (Apu.system M sampleRate) (a.play ops) := by
  induction ops generalizing a with
  | nil => exact h
  | cons op ops ih => exact ih (h.ofNext op)

theorem sweepClocks_le_append (a : Apu M) (ops more : List Op) :
    a.sweepClocks ops ≤ a.sweepClocks (ops ++ more) := by
  unfold sweepClocks
  rw [steps_append, List.countP_append]
  exact Nat.le_add_right _ _

section Law
variable {sampleRate : Nat} {a : Apu M} {s : FrequencySweep} {value : Byte} {ops : List Op}

/-- A channel that a trigger starts, as long as neither its counter nor its sweep has
silenced it. -/
theorem triggered_plays (h : Reachable (Apu.system M sampleRate) a) (hon : a.masterEnabled = true)
    (hs : a.channel1.sweep = some s) (hvalue : value &&& 0x80 ≠ 0)
    (hops : ∀ op ∈ ops, op.Spares .channel1) :
    ((a.write 0xff14 value).play ops).channel1.active = true ↔
      a.channel1.dacEnabled = true ∧ a.sweepDisables value ops = false ∧
        (((a.write 0xff14 value).gate .channel1).counting = true →
          (a.write 0xff14 value).lengthClocks ops <
            ((a.write 0xff14 value).gate .channel1).remaining) := by
  have hwell : (a.write 0xff14 value).WellFormed :=
    wellFormed_of_reachable (h.ofNext (.write 0xff14 value))
  have hstarts : ((a.write 0xff14 value).gate .channel1).active =
      (a.channel1.dacEnabled && !a.triggerDisables value) := by
    have hgate := write_gate hon .channel1 value
    have htrigger : (value &&& 0x80 != 0) = true := bne_iff_ne.mpr hvalue
    rw [htrigger] at hgate
    have hactive := congrArg Gate.active hgate
    refine hactive.trans ?_
    show a.channel1.starts (a.channel1.controlFrequency value) = _
    unfold PulseChannel.starts triggerDisables
    rw [hs, ← decide_not]
  rw [sweepDisables]
  generalize a.write 0xff14 value = t at hwell hstarts
  have hdac : a.channel1.dacEnabled = true ∧ a.triggerDisables value = false ↔
      (t.gate .channel1).active = true := by
    rw [hstarts, Bool.and_eq_true, Bool.not_eq_true']
  show ((t.play ops).gate .channel1).active = true ↔ _
  rw [Bool.or_eq_false_iff]
  cases hcounting : (t.gate .channel1).counting with
  | false =>
    -- The counter stands still, so only the sweep can silence the channel.
    rw [t.play_gate_off hops hcounting, Gate.silenceIf, Bool.and_eq_true, Bool.not_eq_true', ← hdac]
    constructor
    · rintro ⟨⟨hon, hpasses⟩, hkept⟩
      exact ⟨hon, ⟨hpasses, hkept⟩, nofun⟩
    · rintro ⟨hon, ⟨hpasses, hkept⟩, -⟩
      exact ⟨⟨hon, hpasses⟩, hkept⟩
  | true =>
    rw [t.play_gate_eq hops hcounting, Bool.and_eq_true, Bool.and_eq_true, Bool.not_eq_true',
      ← hdac, Bool.or_eq_true, decide_eq_true_eq, decide_eq_true_eq]
    constructor
    · rintro ⟨⟨⟨hon, hpasses⟩, hleft⟩, hkept⟩
      -- A channel that plays has clocks left, so the counter at zero is no way out.
      have hremaining := remaining_ne_zero hwell (hdac.mp ⟨hon, hpasses⟩) hcounting
      exact ⟨hon, ⟨hpasses, hkept⟩, fun _ => hleft.resolve_left hremaining⟩
    · rintro ⟨hon, ⟨hpasses, hkept⟩, hleft⟩
      exact ⟨⟨⟨hon, hpasses⟩, .inr (hleft rfl)⟩, hkept⟩

/-- A subtraction lowers the frequency. -/
theorem next_le_of_negate {s : FrequencySweep} (h : s.negate = true) (frequency : Nat) :
    s.next frequency ≤ frequency := by
  unfold FrequencySweep.next
  rw [if_pos h]
  exact Nat.sub_le _ _

/-- **The law of the sweep**, after any operations that leave channel 1 alone. -/
theorem sweepLaw_of_triggered (h : Reachable (Apu.system M sampleRate) a)
    (hon : a.masterEnabled = true) (hs : a.channel1.sweep = some s) (hpace : 0 < s.pace)
    (hshift : 0 < s.shift) (hvalue : value &&& 0x80 ≠ 0)
    (hops : ∀ op ∈ ops, op.Spares .channel1) : a.SweepLaw value s ops := by
  have hreached := reachable_play (h.ofNext (.write 0xff14 value)) ops
  have hdisables := sweepDisables_eq hon hs hpace hshift hvalue hops
  have hplays := triggered_plays h hon hs hvalue hops
  obtain ⟨htriggered, -⟩ := triggered_sweeping hon hs hpace hshift hvalue
  obtain ⟨hsweeping, hwrites, -⟩ := sweeping_play htriggered hpace hshift hops
  have hheld := hsweeping.frequency
  have hbounded : ((a.write 0xff14 value).play ops).channel1.frequency ≤ 2047 :=
    (wellFormed_of_reachable hreached).channel1.frequency
  have hnext : s.next ((a.write 0xff14 value).play ops).channel1.frequency =
      s.ahead (a.write 0xff14 value).channel1.frequency
        ((a.write 0xff14 value).sweepClocks ops) := by
    rw [hheld]
    exact s.next_held _ _
  constructor
  case iterates =>
    refine ⟨_, taken_le _, hwrites, hheld, ?_⟩
    intro hgoes
    rw [hdisables, Bool.not_eq_false', decide_eq_true_eq] at hgoes
    exact taken_eq_of_admits hgoes
  case bounded =>
    refine ⟨hbounded, ?_⟩
    intro frequency hmem
    rw [hwrites] at hmem
    obtain ⟨i, hi, rfl⟩ := List.mem_map.mp hmem
    exact admits_of_lt_taken (List.mem_range.mp hi)
  case disabled => rw [hdisables, Bool.not_eq_true', decide_eq_false_iff_not, hnext, Nat.not_le]
  case plays => exact hplays
  case stopped =>
    intro hstopped more hmore
    rw [hdisables, Bool.not_eq_true', decide_eq_false_iff_not] at hstopped
    have hboth : ∀ op ∈ ops ++ more, op.Spares .channel1 := fun op hop =>
      (List.mem_append.mp hop).elim (hops op) (hmore op)
    -- The longer run makes more clocks and no more moves.
    obtain ⟨-, hlater, -⟩ := sweeping_play htriggered hpace hshift hboth
    rw [hlater, hwrites, FrequencySweep.moves_of_over hstopped (sweepClocks_le_append _ ops more)]
  case subtraction =>
    intro hnegate
    rw [hdisables, Bool.not_eq_false', decide_eq_true_eq, ← hnext]
    exact Nat.le_trans (next_le_of_negate hnegate _) hbounded

/-- **An addition ends**: after so many events the sweep has silenced the channel. -/
theorem sweep_ends (hon : a.masterEnabled = true) (hs : a.channel1.sweep = some s)
    (hpace : 0 < s.pace) (hshift : 0 < s.shift) (hvalue : value &&& 0x80 ≠ 0)
    (hadds : s.negate = false)
    (hgrows : 0 < (a.write 0xff14 value).channel1.frequency >>> s.shift) :
    ∃ events, ∀ ops : List Op, (∀ op ∈ ops, op.Spares .channel1) →
      events ≤ (a.write 0xff14 value).sweepClocks ops / s.pace →
        a.sweepDisables value ops = true := by
  -- Each event adds at least the first difference, which is at least one.
  refine ⟨2047, ?_⟩
  intro ops hops hevents
  rw [sweepDisables_eq hon hs hpace hshift hvalue hops, Bool.not_eq_true', decide_eq_false_iff_not]
  generalize (a.write 0xff14 value).channel1.frequency = frequency at hgrows
  generalize (a.write 0xff14 value).sweepClocks ops = clocks at hevents
  have hgrow : ∀ y, frequency ≤ y → y + frequency >>> s.shift ≤ s.next y := by
    intro y hy
    unfold FrequencySweep.next
    rw [hadds, if_neg Bool.false_ne_true, Nat.shiftRight_eq_div_pow, Nat.shiftRight_eq_div_pow]
    exact Nat.add_le_add_left (Nat.div_le_div_right hy) y
  refine stops hgrow ?_
  have hmany : 2048 ≤ (clocks / s.pace + 1) * frequency >>> s.shift :=
    Nat.le_trans (Nat.succ_le_succ hevents) (Nat.le_mul_of_pos_right _ hgrows)
  omega

end Law

end Apu

/-! ## The latch of the negate bit -/

namespace FrequencySweep

/-- A clock now would make a calculation with the negate bit set. -/
def subtracts (s : FrequencySweep) : Bool :=
  s.enabled && s.timer - 1 == 0 && s.pace != 0 && s.negate

theorem clock_negateUsed {s : FrequencySweep} (h : s.negateUsed = true) :
    s.clock.1.negateUsed = true := by
  unfold clock
  split
  · exact h
  split
  · exact h
  dsimp only
  split
  · exact h
  unfold apply
  split
  · exact h
  · dsimp only
    split
    · exact Bool.or_eq_true_iff.mpr (.inr h)
    · split <;> exact Bool.or_eq_true_iff.mpr (.inr h)

theorem clock_of_subtracts {s : FrequencySweep} (h : s.subtracts = true)
    (hshadow : s.shadowFrequency ≤ 2047) : s.clock.1.negateUsed = true := by
  simp only [subtracts, Bool.and_eq_true, beq_iff_eq, bne_iff_ne] at h
  obtain ⟨⟨⟨hruns, htimer⟩, hpace⟩, hnegate⟩ := h
  have hfits : s.next s.shadowFrequency ≤ 2047 :=
    Nat.le_trans (Apu.next_le_of_negate hnegate _) hshadow
  have hcalculate : ({ s with timer := s.pace } : FrequencySweep).calculate =
      some (s.next s.shadowFrequency) := by
    rw [calculate_eq]
    exact if_pos hfits
  rw [clock_of_due hruns htimer hpace]
  unfold apply
  rw [hcalculate]
  dsimp only
  rw [hnegate, Bool.true_or]
  split
  · rfl
  · split <;> rfl

theorem trigger_negateUsed {s : FrequencySweep} (hshift : s.shift ≠ 0) (hnegate : s.negate = true)
    {frequency : Nat} (hfrequency : frequency ≤ 2047) :
    (s.trigger frequency).1.negateUsed = true := by
  have hcalculate := calculate_none_iff
    { s with
      shadowFrequency := frequency
      timer := s.reloadPeriod
      enabled := decide (s.pace ≠ 0 ∨ s.shift ≠ 0)
      negateUsed := false }
  have hfits : s.next frequency ≤ 2047 := Nat.le_trans (Apu.next_le_of_negate hnegate _) hfrequency
  unfold trigger
  dsimp only
  rw [if_pos hshift, if_neg fun hnone => hcalculate.mp hnone hfits]
  exact hnegate

end FrequencySweep

namespace PulseChannel

/-- The sweep remembers a subtraction. -/
def Latched (c : PulseChannel) : Prop := ∃ sweep, c.sweep = some sweep ∧ sweep.negateUsed = true

namespace Latched
variable {c : PulseChannel}

/-- Only a trigger makes it forget. -/
theorem write (h : c.Latched) {register : Nat} {value : Byte}
    (htrigger : register = 4 → value &&& 0x80 = 0) (next : Bool) :
    (c.write register value next).Latched := by
  obtain ⟨sweep, hsweep, hused⟩ := h
  unfold PulseChannel.write
  split
  · rw [hsweep]
    dsimp only
    split
    · exact ⟨_, rfl, hused⟩
    · exact ⟨sweep, hsweep, hused⟩
  · exact ⟨sweep, hsweep, hused⟩
  · exact ⟨sweep, hsweep, hused⟩
  · exact ⟨sweep, hsweep, hused⟩
  · unfold writeControl
    dsimp only
    rw [htrigger rfl]
    exact ⟨sweep, hsweep, hused⟩
  · exact ⟨sweep, hsweep, hused⟩

/-- Clearing the negate bit silences the channel. -/
theorem clear (h : c.Latched) (hkind : c.hasSweep = true)
    (hnegate : ∀ sweep ∈ c.sweep, sweep.negate = true) {value : Byte}
    (hvalue : value &&& 0x08 = 0) (next : Bool) : (c.write 0 value next).active = false := by
  obtain ⟨sweep, hsweep, hused⟩ := h
  have hclears : (sweep.write value).2 = true := by
    show (sweep.negateUsed && sweep.negate && value &&& 0x08 == 0) = true
    rw [hused, hnegate sweep hsweep, beq_iff_eq.mpr hvalue]
    rfl
  unfold PulseChannel.write
  dsimp only
  rw [hsweep]
  dsimp only
  rw [if_pos hkind]
  exact if_pos hclears

end Latched

end PulseChannel

namespace Apu

/-- The operation neither triggers channel 1 nor switches the unit. -/
def Op.Untriggered : Op → Prop
  | .write address value => address ≠ 0xff26 ∧ (address = 0xff14 → value &&& 0x80 = 0)
  | .tickTCycle => True
  | .drainAudio => True

instance : DecidablePred Op.Untriggered
  | .write address value =>
    inferInstanceAs (Decidable (address ≠ 0xff26 ∧ (address = 0xff14 → value &&& 0x80 = 0)))
  | .tickTCycle => instDecidableTrue
  | .drainAudio => instDecidableTrue

/-- The sweep makes a calculation with the negate bit set in this operation. -/
def subtracts (a : Apu M) (op : Op) : Bool :=
  a.clocksSweep op && a.channel1.sweep.any fun sweep => sweep.subtracts

/-- It has made one since the trigger by a write to NR14, or at the trigger. -/
def subtracted (a : Apu M) (value : Byte) (ops : List Op) : Bool :=
  (a.channel1.sweep.any fun sweep => sweep.shift != 0 && sweep.negate) ||
    ((a.write 0xff14 value).steps ops).any fun step => step.1.subtracts step.2

/-- A write to a register of channel 1 reaches its sweep through the channel. -/
theorem write_owned_sweep (a : Apu M) {address : Word} (howns : Channel.channel1.Owns address)
    (value : Byte) :
    (a.write address value).channel1.sweep = a.channel1.sweep ∨
      (a.write address value).channel1 =
        a.channel1.write (registerOffset address 0xff10) value a.nextStepClocksLength := by
  have h4 : address ≠ 0xff04 := by
    rintro rfl
    exact absurd howns (by decide)
  have h26 : address ≠ 0xff26 := by
    rintro rfl
    exact absurd howns (by decide)
  unfold write
  rw [if_neg h4, if_neg h26]
  split
  · right
    unfold writePoweredOn
    dsimp only [Channel.Owns] at howns ⊢
    rw [if_pos howns]
  · left
    unfold writePoweredOff
    repeat' split
    all_goals rfl

/-- **The latch follows the unit**: a subtraction sets it, and nothing but a trigger clears
it. -/
theorem latched_apply {a : Apu M} (hwell : a.WellFormed) {op : Op} (hop : op.Untriggered)
    (h : a.channel1.Latched ∨ a.subtracts op = true) : (a.apply op).channel1.Latched := by
  by_cases hspares : op.Spares .channel1
  · -- The sweep changes by its own clock, or not at all.
    have hvoice := a.apply_voice hspares
    have hsweep : (a.apply op).channel1.sweep =
        if a.clocksSweep op then a.channel1.sweep.map fun sweep => sweep.clock.1
        else a.channel1.sweep := by
      refine (congrArg Prod.snd hvoice).trans ?_
      split <;> rfl
    rcases h with ⟨sweep, hsome, hused⟩ | hsubtracts
    · rw [hsome] at hsweep
      cases hclocks : a.clocksSweep op with
      | true =>
        rw [hclocks, if_pos rfl] at hsweep
        exact ⟨_, hsweep, FrequencySweep.clock_negateUsed hused⟩
      | false =>
        rw [hclocks, if_neg Bool.false_ne_true] at hsweep
        exact ⟨sweep, hsweep, hused⟩
    · rw [subtracts, Bool.and_eq_true] at hsubtracts
      obtain ⟨hclocks, hany⟩ := hsubtracts
      rw [hclocks, if_pos rfl] at hsweep
      cases hsome : a.channel1.sweep with
      | none =>
        rw [hsome] at hany
        cases hany
      | some sweep =>
        rw [hsome] at hany hsweep
        have hshadow := hwell.channel1.sweep sweep hsome
        exact ⟨_, hsweep, FrequencySweep.clock_of_subtracts hany hshadow⟩
  · -- A write to one of its registers, which clocks nothing.
    cases op with
    | tickTCycle => exact absurd trivial hspares
    | drainAudio => exact absurd trivial hspares
    | write address value =>
      obtain ⟨h26, htrigger⟩ := hop
      have howns : Channel.channel1.Owns address := by
        by_contra hnot
        exact hspares ⟨hnot, h26⟩
      have hidle : a.subtracts (.write address value) = false := by
        have h4 : ¬ (address = 0xff04 ∧ sequencerFalls a.dividerMirror 0) := by
          rintro ⟨rfl, -⟩
          exact absurd howns (by decide)
        have hclocks : a.clocksSequencer (.write address value) = false := decide_eq_false h4
        rw [subtracts, clocksSweep, hclocks]
        rfl
      have hlatched : a.channel1.Latched := h.resolve_right (by rw [hidle]; exact nofun)
      rcases a.write_owned_sweep howns value with hsame | hwrite
      · obtain ⟨sweep, hsome, hused⟩ := hlatched
        exact ⟨sweep, hsame.trans hsome, hused⟩
      · show (a.write address value).channel1.Latched
        rw [hwrite]
        refine hlatched.write ?_ _
        -- The fifth register is NR14, the only one that can trigger.
        intro hfour
        have haddress : address = 0xff14 := by
          unfold registerOffset at hfour
          dsimp only [Channel.Owns] at howns
          bv_omega
        exact htrigger haddress

/-- The latch after a trigger and some operations. -/
theorem latched_play {sampleRate : Nat} {a : Apu M} (h : Reachable (Apu.system M sampleRate) a)
    {ops : List Op} (hops : ∀ op ∈ ops, op.Untriggered)
    (hset : a.channel1.Latched ∨ (a.steps ops).any (fun step => step.1.subtracts step.2) = true) :
    (a.play ops).channel1.Latched := by
  induction ops generalizing a with
  | nil => exact hset.resolve_right (by exact nofun)
  | cons op ops ih =>
    have hop := hops op List.mem_cons_self
    have hwell := wellFormed_of_reachable h
    refine ih (h.ofNext op) (fun op hop => hops op (List.mem_cons_of_mem _ hop)) ?_
    rw [steps, List.any_cons, Bool.or_eq_true] at hset
    rcases hset with hlatched | hnow | hlater
    · exact .inl (latched_apply hwell hop (.inl hlatched))
    · exact .inl (latched_apply hwell hop (.inr hnow))
    · exact .inr hlater

/-- A trigger with the negate bit and a shift is a subtraction. -/
theorem latched_trigger {a : Apu M} (hon : a.masterEnabled = true)
    {value : Byte} (hvalue : value &&& 0x80 ≠ 0)
    (h : (a.channel1.sweep.any fun sweep => sweep.shift != 0 && sweep.negate) = true) :
    (a.write 0xff14 value).channel1.Latched := by
  obtain ⟨-, hsweep⟩ := a.channel1.writeControl_trigger hvalue a.nextStepClocksLength
  rw [← write_ff14 hon] at hsweep
  cases hsome : a.channel1.sweep with
  | none =>
    rw [hsome] at h
    cases h
  | some s =>
    rw [hsome] at h hsweep
    refine ⟨_, hsweep, ?_⟩
    obtain ⟨hshift, hnegate⟩ : (s.shift != 0) = true ∧ s.negate = true := Bool.and_eq_true_iff.mp h
    exact FrequencySweep.trigger_negateUsed (bne_iff_ne.mp hshift) hnegate
      (frequency_high_le a.channel1.frequency value)

/-- No register but NR52 switches the unit, and none of these operations writes it. -/
theorem play_masterEnabled (a : Apu M) {ops : List Op} (hops : ∀ op ∈ ops, op.Untriggered) :
    (a.play ops).masterEnabled = a.masterEnabled := by
  induction ops generalizing a with
  | nil => rfl
  | cons op ops ih =>
    have hop := hops op List.mem_cons_self
    have hkept : (a.apply op).masterEnabled = a.masterEnabled := by
      cases op with
      | write address value => exact a.write_masterEnabled hop.1 value
      | tickTCycle => exact a.tickTCycle_masterEnabled
      | drainAudio => rfl
    exact (ih (a.apply op) fun op hop => hops op (List.mem_cons_of_mem _ hop)).trans hkept

/-- **Clearing the negate bit** after a subtraction silences channel 1. -/
theorem negate_cleared {sampleRate : Nat} {a : Apu M} (h : Reachable (Apu.system M sampleRate) a)
    (hon : a.masterEnabled = true) {value : Byte} (hvalue : value &&& 0x80 ≠ 0) {ops : List Op}
    (hops : ∀ op ∈ ops, op.Untriggered) (hsubtracted : a.subtracted value ops = true)
    (hnegate : ∀ sweep ∈ ((a.write 0xff14 value).play ops).channel1.sweep, sweep.negate = true)
    {cleared : Byte} (hcleared : cleared &&& 0x08 = 0) :
    (((a.write 0xff14 value).play ops).write 0xff10 cleared).channel1.active = false := by
  have htriggered : Reachable (Apu.system M sampleRate) (a.write 0xff14 value) :=
    h.ofNext (.write 0xff14 value)
  have hset : (a.write 0xff14 value).channel1.Latched ∨
      ((a.write 0xff14 value).steps ops).any (fun step => step.1.subtracts step.2) = true :=
    (Bool.or_eq_true_iff.mp hsubtracted).imp_left
      (latched_trigger hon hvalue)
  have hlatched := latched_play htriggered hops hset
  have hkind := (equipped_of_reachable (reachable_play htriggered ops)).channel1.kind
  have hmaster : ((a.write 0xff14 value).play ops).masterEnabled = true := by
    rw [play_masterEnabled _ hops, a.write_masterEnabled (by decide), hon]
  generalize (a.write 0xff14 value).play ops = b at hnegate hlatched hkind hmaster
  have hwrite : (b.write 0xff10 cleared).channel1 =
      b.channel1.write 0 cleared b.nextStepClocksLength := by
    unfold write
    rw [if_neg (by decide), if_neg (by decide), if_pos hmaster]
    rfl
  rw [hwrite]
  exact hlatched.clear hkind hnegate hcleared _

/-! ## The sweep from a trigger on -/

/-- **The frequency sweep** of channel 1, triggered with a pace and a shift. -/
structure FrequencySweepLaw (a : Apu M) (value : Byte) (s : FrequencySweep) : Prop where
  /-- After any operations that leave its registers alone. -/
  law : ∀ ops : List Op, (∀ op ∈ ops, op.Spares .channel1) → a.SweepLaw value s ops
  /-- An addition comes to its end. -/
  ends : s.negate = false → 0 < (a.write 0xff14 value).channel1.frequency >>> s.shift →
    ∃ events, ∀ ops : List Op, (∀ op ∈ ops, op.Spares .channel1) →
      events ≤ (a.write 0xff14 value).sweepClocks ops / s.pace →
        a.sweepDisables value ops = true
  /-- Clearing the negate bit after a subtraction silences the channel at once, whatever else
  was written since the trigger. -/
  cleared : ∀ ops : List Op, (∀ op ∈ ops, op.Untriggered) → a.subtracted value ops = true →
    (∀ sweep ∈ ((a.write 0xff14 value).play ops).channel1.sweep, sweep.negate = true) →
      ∀ cleared : Byte, cleared &&& 0x08 = 0 →
        (((a.write 0xff14 value).play ops).write 0xff10 cleared).channel1.active = false

theorem frequency_sweep {sampleRate : Nat} {a : Apu M}
    (h : Reachable (Apu.system M sampleRate) a) (hon : a.masterEnabled = true)
    {s : FrequencySweep} (hs : a.channel1.sweep = some s) (hpace : 0 < s.pace)
    (hshift : 0 < s.shift) {value : Byte} (hvalue : value &&& 0x80 ≠ 0) :
    a.FrequencySweepLaw value s := by
  constructor
  case law => exact fun ops hops => sweepLaw_of_triggered h hon hs hpace hshift hvalue hops
  case ends => exact fun hadds hgrows => sweep_ends hon hs hpace hshift hvalue hadds hgrows
  case cleared =>
    exact fun ops hops hsubtracted hnegate cleared hcleared =>
      negate_cleared h hon hvalue hops hsubtracted hnegate hcleared

/-- An addition with pace 1 and shift 1, triggered with frequency 256. -/
theorem frequency_sweep_addition :
    let a : Apu .mute := (Apu.new 44100).write 0xff10 0x11
    ∃ s, a.channel1.sweep = some s ∧ (a.write 0xff14 0x81).channel1.frequency = 256 ∧
      a.FrequencySweepLaw 0x81 s := by
  have hnew : Reachable (Apu.system .mute 44100) (Apu.new 44100) := .start ⟨by decide, rfl⟩
  have hpaced := hnew.ofNext (.write 0xff10 0x11)
  exact ⟨_, rfl, by decide, frequency_sweep hpaced (by decide) rfl (by decide) (by decide)
    (by decide)⟩

end Apu

end Pockiva
