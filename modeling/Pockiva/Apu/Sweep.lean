import Pockiva.Apu.Lengths
import Pockiva.Lib.Lookahead
import Mathlib.Data.List.Induction

/-! # The frequency sweep

A sweep with a pace and a shift looks one step ahead: at each event it gives the channel
the next frequency and silences it when the one after that is too high.  So the
frequencies are those of an iteration that stops before the first value above 2047
(`Lookahead.taken`): `FrequencySweep.Follows.clock` says so of the sweep unit, and
`Apu.sweeping_play` of channel 1 in a run that leaves its registers alone.
-/
namespace Pockiva

open Transition Lookahead

variable {M : MixerModel}

/-! ## The sweep unit -/

namespace FrequencySweep

/-- The frequency after another one. -/
def next (s : FrequencySweep) (frequency : Nat) : Nat :=
  if s.negate then frequency - frequency >>> s.shift else frequency + frequency >>> s.shift

/-- Only an addition can go too high. -/
theorem calculate_eq (s : FrequencySweep) :
    s.calculate =
      if s.next s.shadowFrequency ≤ 2047 then some (s.next s.shadowFrequency) else none := by
  have hdelta : s.shadowFrequency >>> s.shift ≤ s.shadowFrequency := Nat.shiftRight_le _ _
  unfold calculate next
  dsimp only
  cases s.negate with
  | true =>
    simp only [if_true, hdelta, true_and]
  | false => rfl

/-- How many frequencies the sweep gives in the clocks after a trigger, a chance for one
coming once in a pace. -/
def moves (s : FrequencySweep) (frequency clocks : Nat) : Nat :=
  taken s.next (· ≤ 2047) frequency (clocks / s.pace)

/-- The frequency after the clocks. -/
def held (s : FrequencySweep) (frequency clocks : Nat) : Nat :=
  s.next^[s.moves frequency clocks] frequency

/-- The frequency that would be next. -/
def ahead (s : FrequencySweep) (frequency clocks : Nat) : Nat :=
  s.next^[s.moves frequency clocks + 1] frequency

theorem next_held (s : FrequencySweep) (frequency clocks : Nat) :
    s.next (s.held frequency clocks) = s.ahead frequency clocks :=
  (Function.iterate_succ_apply' _ _ _).symm

/-- A sweep with the settings of `s`, triggered with `frequency`, after some clocks. -/
structure Follows (t s : FrequencySweep) (frequency clocks : Nat) : Prop where
  pace : t.pace = s.pace
  shift : t.shift = s.shift
  negate : t.negate = s.negate
  shadow : t.shadowFrequency = s.held frequency clocks
  enabled : t.enabled = decide (s.ahead frequency clocks ≤ 2047)
  timer : t.enabled = true → t.timer = s.pace - clocks % s.pace

/-- The settings alone make the next frequency. -/
theorem next_congr {t s : FrequencySweep} (hnegate : t.negate = s.negate)
    (hshift : t.shift = s.shift) : t.next = s.next := by
  funext frequency
  unfold next
  rw [hnegate, hshift]

theorem calculate_none_iff (s : FrequencySweep) :
    s.calculate = none ↔ ¬ s.next s.shadowFrequency ≤ 2047 := by
  rw [calculate_eq]
  split
  · next hfits => exact ⟨nofun, fun hover => absurd hfits hover⟩
  · next hover => exact ⟨fun _ => hover, fun _ => rfl⟩

/-- A trigger of a sweep with a pace and a shift. -/
theorem trigger_eq {s : FrequencySweep} (hpace : 0 < s.pace) (hshift : 0 < s.shift)
    (frequency : Nat) :
    s.trigger frequency =
      if s.next frequency ≤ 2047 then
        ({ s with
          shadowFrequency := frequency
          timer := s.pace
          enabled := true
          negateUsed := s.negate }, .enabled)
      else
        ({ s with
          shadowFrequency := frequency
          timer := s.pace
          enabled := false
          negateUsed := false }, .disabled) := by
  have hreload : s.reloadPeriod = s.pace := if_neg hpace.ne'
  have hpaced : decide (s.pace ≠ 0 ∨ s.shift ≠ 0) = true := decide_eq_true (.inl hpace.ne')
  have hcalculate := calculate_none_iff
    { s with shadowFrequency := frequency, timer := s.pace, enabled := true, negateUsed := false }
  unfold trigger
  rw [hreload, hpaced]
  dsimp only
  rw [if_pos hshift.ne']
  by_cases hnext : s.next frequency ≤ 2047
  · rw [if_pos hnext, if_neg fun hnone => hcalculate.mp hnone hnext]
  · rw [if_neg hnext, if_pos (hcalculate.mpr hnext)]

/-- **A trigger**: the sweep starts, or silences the channel at once. -/
theorem follows_trigger {s : FrequencySweep} (hpace : 0 < s.pace) (hshift : 0 < s.shift)
    (frequency : Nat) :
    (s.trigger frequency).1.Follows s frequency 0 ∧
      ((s.trigger frequency).2 = .disabled ↔ ¬ s.ahead frequency 0 ≤ 2047) := by
  have hahead : s.ahead frequency 0 = s.next frequency := by
    unfold ahead moves
    rw [Nat.zero_div]
    rfl
  have hheld : s.held frequency 0 = frequency := by
    unfold held moves
    rw [Nat.zero_div]
    rfl
  have htimer : s.pace = s.pace - 0 % s.pace := by rw [Nat.zero_mod, Nat.sub_zero]
  rw [trigger_eq hpace hshift, hahead]
  by_cases hnext : s.next frequency ≤ 2047
  · rw [if_pos hnext]
    refine ⟨⟨rfl, rfl, rfl, hheld.symm, ?_, fun _ => htimer⟩, nofun, ?_⟩
    · rw [hahead, decide_eq_true hnext]
    · exact fun hover => absurd hnext hover
  · rw [if_neg hnext]
    refine ⟨⟨rfl, rfl, rfl, hheld.symm, ?_, nofun⟩, fun _ => hnext, fun _ => rfl⟩
    rw [hahead, decide_eq_false hnext]

/-! ### A clock -/

/-- An event of a sweep that runs. -/
theorem apply_eq {t : FrequencySweep} (hshift : t.shift ≠ 0)
    (hfits : t.next t.shadowFrequency ≤ 2047) :
    t.apply =
      ({ t with
        negateUsed := t.negate || t.negateUsed
        shadowFrequency := t.next t.shadowFrequency
        enabled := t.enabled && decide (t.next (t.next t.shadowFrequency) ≤ 2047) },
      if t.next (t.next t.shadowFrequency) ≤ 2047 then .applied (t.next t.shadowFrequency)
      else .appliedAndDisabled (t.next t.shadowFrequency)) := by
  have hcalculate : t.calculate = some (t.next t.shadowFrequency) := by
    rw [calculate_eq, if_pos hfits]
  have hahead := calculate_none_iff
    { t with
      negateUsed := t.negate || t.negateUsed
      shadowFrequency := t.next t.shadowFrequency }
  unfold apply
  rw [hcalculate]
  dsimp only
  rw [if_neg hshift]
  by_cases hnext : t.next (t.next t.shadowFrequency) ≤ 2047
  · rw [if_neg fun hnone => hahead.mp hnone hnext, if_pos hnext, decide_eq_true hnext,
      Bool.and_true]
  · rw [if_pos (hahead.mpr hnext), if_neg hnext, decide_eq_false hnext, Bool.and_false]

theorem clock_of_disabled {t : FrequencySweep} (h : t.enabled = false) : t.clock = (t, .idle) :=
  if_pos h

theorem clock_of_waiting {t : FrequencySweep} (h : t.enabled = true) (htimer : t.timer - 1 ≠ 0) :
    t.clock = ({ t with timer := t.timer - 1 }, .idle) := by
  unfold clock
  rw [if_neg (by rw [h]; decide), if_pos htimer]

theorem clock_of_due {t : FrequencySweep} (h : t.enabled = true) (htimer : t.timer - 1 = 0)
    (hpace : t.pace ≠ 0) : t.clock = ({ t with timer := t.pace } : FrequencySweep).apply := by
  have hreload : t.reloadPeriod = t.pace := if_neg hpace
  unfold clock
  rw [if_neg (by rw [h]; decide), if_neg (not_not.mpr htimer), hreload]
  exact if_neg hpace

section Moves
variable {s : FrequencySweep} {frequency clocks : Nat}

theorem moves_of_more (h : clocks % s.pace + 1 < s.pace) :
    s.moves frequency (clocks + 1) = s.moves frequency clocks := by
  unfold moves
  rw [(div_mod_of_more h).1]

theorem moves_of_last (h : clocks % s.pace + 1 = s.pace) (hfits : s.ahead frequency clocks ≤ 2047) :
    s.moves frequency (clocks + 1) = s.moves frequency clocks + 1 := by
  unfold moves
  rw [(div_mod_of_last h).1]
  exact taken_succ_of_admits hfits

/-- No frequency follows one that is the last. -/
theorem moves_of_over (hover : ¬ s.ahead frequency clocks ≤ 2047) {later : Nat}
    (hle : clocks ≤ later) : s.moves frequency later = s.moves frequency clocks := by
  obtain ⟨more, hmore⟩ := Nat.exists_eq_add_of_le (Nat.div_le_div_right (c := s.pace) hle)
  unfold moves
  rw [hmore]
  exact taken_of_not_admits hover more

/-- A clock makes one move or none. -/
theorem moves_succ (hpace : 0 < s.pace) :
    s.moves frequency (clocks + 1) = s.moves frequency clocks ∨
      s.moves frequency (clocks + 1) = s.moves frequency clocks + 1 := by
  by_cases hfits : s.ahead frequency clocks ≤ 2047
  · rcases Nat.lt_or_eq_of_le (Nat.succ_le_of_lt (Nat.mod_lt clocks hpace)) with hmore | hlast
    · exact .inl (moves_of_more hmore)
    · exact .inr (moves_of_last hlast hfits)
  · exact .inl (moves_of_over hfits (Nat.le_succ clocks))

/-- The frequency changes with the number of moves only. -/
theorem held_congr {later : Nat} (h : s.moves frequency later = s.moves frequency clocks) :
    s.held frequency later = s.held frequency clocks ∧
      s.ahead frequency later = s.ahead frequency clocks := by
  unfold held ahead
  rw [h]
  exact ⟨rfl, rfl⟩

end Moves

/-- **A clock of the sweep**: it gives the next frequency when the pace is over, and
silences the channel when the one after it is too high. -/
theorem Follows.clock {t s : FrequencySweep} {frequency clocks : Nat}
    (h : t.Follows s frequency clocks) (hpace : 0 < s.pace) (hshift : 0 < s.shift) :
    t.clock.1.Follows s frequency (clocks + 1) ∧
      t.clock.2.written =
        (if s.moves frequency (clocks + 1) = s.moves frequency clocks then none
        else some (s.held frequency (clocks + 1))) ∧
      t.clock.2.silences =
        (decide (s.ahead frequency clocks ≤ 2047) &&
          !decide (s.ahead frequency (clocks + 1) ≤ 2047)) := by
  have hmod : clocks % s.pace < s.pace := Nat.mod_lt _ hpace
  by_cases hfits : s.ahead frequency clocks ≤ 2047
  case neg =>
    -- The sweep has stopped.
    have hstopped : t.enabled = false := by rw [h.enabled, decide_eq_false hfits]
    have hmoves := moves_of_over hfits (Nat.le_succ clocks)
    obtain ⟨hheld, hahead⟩ := held_congr hmoves
    rw [clock_of_disabled hstopped, if_pos hmoves, hahead, Bool.and_not_self]
    refine ⟨⟨h.pace, h.shift, h.negate, ?_, ?_, ?_⟩, rfl, rfl⟩
    · rw [hheld, h.shadow]
    · rw [hahead, h.enabled]
    · rw [hstopped]
      exact nofun
  have hruns : t.enabled = true := by rw [h.enabled, decide_eq_true hfits]
  have htimer := h.timer hruns
  rcases Nat.lt_or_eq_of_le (Nat.succ_le_of_lt hmod) with hmore | hlast
  · -- The pace is not over.
    have hmoves : s.moves frequency (clocks + 1) = s.moves frequency clocks := moves_of_more hmore
    obtain ⟨hheld, hahead⟩ := held_congr hmoves
    rw [clock_of_waiting hruns (by omega), if_pos hmoves, hahead, Bool.and_not_self]
    refine ⟨⟨h.pace, h.shift, h.negate, ?_, ?_, ?_⟩, rfl, rfl⟩
    · rw [hheld, ← h.shadow]
    · rw [hahead, ← h.enabled]
    · intro _
      rw [(div_mod_of_more hmore).2]
      show t.timer - 1 = _
      omega
  · -- An event: what was ahead is held now.
    have hmoves : s.moves frequency (clocks + 1) = s.moves frequency clocks + 1 :=
      moves_of_last hlast hfits
    have hne : ¬ s.moves frequency (clocks + 1) = s.moves frequency clocks := by omega
    have hnext : t.next = s.next := next_congr h.negate h.shift
    have hheld : t.next t.shadowFrequency = s.held frequency (clocks + 1) := by
      rw [hnext, h.shadow, next_held]
      unfold held ahead
      rw [hmoves]
    have hahead : t.next (t.next t.shadowFrequency) = s.ahead frequency (clocks + 1) := by
      rw [hheld, hnext, next_held]
    have hgiven : t.next t.shadowFrequency ≤ 2047 := by
      rw [hnext, h.shadow, next_held]
      exact hfits
    have hshifted : t.shift ≠ 0 := by
      rw [h.shift]
      exact hshift.ne'
    have hpaced : t.pace ≠ 0 := by
      rw [h.pace]
      exact hpace.ne'
    have hclock := clock_of_due hruns (by omega) hpaced
    have happly : ({ t with timer := t.pace } : FrequencySweep).apply =
        ({ t with
          timer := t.pace
          negateUsed := t.negate || t.negateUsed
          shadowFrequency := s.held frequency (clocks + 1)
          enabled := t.enabled && decide (s.ahead frequency (clocks + 1) ≤ 2047) },
        if s.ahead frequency (clocks + 1) ≤ 2047 then .applied (s.held frequency (clocks + 1))
        else .appliedAndDisabled (s.held frequency (clocks + 1))) := by
      rw [← hahead, ← hheld]
      exact apply_eq hshifted hgiven
    rw [hclock, happly, if_neg hne, decide_eq_true hfits, Bool.true_and]
    refine ⟨⟨h.pace, h.shift, h.negate, rfl, ?_, ?_⟩, ?_, ?_⟩
    · dsimp only
      rw [hruns, Bool.true_and]
    · intro _
      rw [(div_mod_of_last hlast).2, Nat.sub_zero]
      exact h.pace
    · dsimp only
      split <;> rfl
    · dsimp only
      split
      · next hon => rw [decide_eq_true hon]; rfl
      · next hover => rw [decide_eq_false hover]; rfl

/-- What can go on could go on before. -/
theorem ahead_le {s : FrequencySweep} {frequency clocks later : Nat} (hle : clocks ≤ later)
    (h : s.ahead frequency later ≤ 2047) : s.ahead frequency clocks ≤ 2047 := by
  by_contra hover
  have hahead := (held_congr (moves_of_over hover hle)).2
  exact hover (hahead ▸ h)

end FrequencySweep

/-! ## The sweep of channel 1 -/

namespace Apu

/-- What the sweep reads and writes in the unit. -/
def voice (a : Apu M) : Nat × Option FrequencySweep := (a.channel1.frequency, a.channel1.sweep)

theorem sheltered_voice : Sheltered .channel1 (voice : Apu M → _) where
  timed a mirror step phase mixer pcm := rfl
  tickChannels a := by
    unfold tickChannels
    split
    · unfold voice PulseChannel.tickTCycle
      dsimp only
      split <;> rfl
    · rfl
  writePoweredOn a address value howns := by
    unfold writePoweredOn
    dsimp only [Channel.Owns] at howns ⊢
    rw [if_neg howns]
    repeat' split
    all_goals rfl
  writePoweredOff a address value howns := by
    unfold writePoweredOff
    repeat' split
    all_goals rfl

/-- A clock of the frame sequencer, as the sweep sees it. -/
theorem clockFrameSequencer_voice (a : Apu M) :
    a.clockFrameSequencer.voice =
      if a.frameStep ∈ sweepSteps then
        (a.channel1.sweepClock.written.getD a.channel1.frequency,
          a.channel1.sweep.map fun sweep => sweep.clock.1)
      else a.voice := by
  have hsweep : a.clockLengths.channel1.clockSweep.frequency =
        a.channel1.sweepClock.written.getD a.channel1.frequency ∧
      a.clockLengths.channel1.clockSweep.sweep =
        a.channel1.sweep.map fun sweep => sweep.clock.1 := by
    rw [PulseChannel.clockSweep_eq]
    exact ⟨rfl, rfl⟩
  unfold clockFrameSequencer
  dsimp only
  split
  · next hstep => rw [hstep]; rfl
  · next hstep => rw [hstep]; rfl
  · next hstep =>
    rw [hstep, if_pos (by decide), ← hsweep.1, ← hsweep.2]
    rfl
  · next hstep =>
    rw [hstep, if_pos (by decide), ← hsweep.1, ← hsweep.2]
    rfl
  · next hstep => rw [hstep]; rfl
  · next hzero hfour htwo hsix hseven =>
    have hnone : a.frameStep ∉ sweepSteps := by
      intro hmem
      simp only [sweepSteps, List.mem_cons, List.not_mem_nil, or_false] at hmem
      rcases hmem with h | h
      · exact htwo h
      · exact hsix h
    rw [if_neg hnone]
    rfl

/-- **The sweep follows the unit**, one operation at a time. -/
theorem apply_voice (a : Apu M) {op : Op} (hop : op.Spares .channel1) :
    (a.apply op).voice =
      if a.clocksSweep op then
        (a.channel1.sweepClock.written.getD a.channel1.frequency,
          a.channel1.sweep.map fun sweep => sweep.clock.1)
      else a.voice := by
  rw [sheltered_voice.apply a hop]
  unfold sequenced clocksSweep
  cases a.clocksSequencer op with
  | true =>
    rw [if_pos rfl, clockFrameSequencer_voice, Bool.true_and]
    simp only [decide_eq_true_eq]
  | false => rfl

/-- The sweep clocks of a run. -/
def sweepClocks (a : Apu M) (ops : List Op) : Nat :=
  (a.steps ops).countP fun step => step.1.clocksSweep step.2

/-- The frequency that an operation makes the sweep write, if it does. -/
def sweepWritten (a : Apu M) (op : Op) : Option Nat :=
  if a.clocksSweep op then a.channel1.sweepClock.written else none

/-- The frequencies that the sweep writes in a run, in order. -/
def sweepWrites (a : Apu M) (ops : List Op) : List Nat :=
  (a.steps ops).filterMap fun step => step.1.sweepWritten step.2

/-- Channel 1 some sweep clocks after it was triggered with a frequency. -/
structure Sweeping (a : Apu M) (s : FrequencySweep) (frequency clocks : Nat) : Prop where
  sweep : ∃ t, a.channel1.sweep = some t ∧ t.Follows s frequency clocks
  frequency : a.channel1.frequency = s.held frequency clocks

namespace Sweeping
variable {a : Apu M} {s : FrequencySweep} {frequency clocks : Nat}

theorem of_voice {b : Apu M} (h : a.Sweeping s frequency clocks) (hvoice : b.voice = a.voice) :
    b.Sweeping s frequency clocks := by
  have hfrequency : b.channel1.frequency = a.channel1.frequency := congrArg Prod.fst hvoice
  have hsweep : b.channel1.sweep = a.channel1.sweep := congrArg Prod.snd hvoice
  exact ⟨hsweep ▸ h.sweep, hfrequency.trans h.frequency⟩

/-- **A clock of the sweep** in the unit. -/
theorem clocked (h : a.Sweeping s frequency clocks) (hpace : 0 < s.pace) (hshift : 0 < s.shift)
    {op : Op} (hop : op.Spares .channel1) (hclocks : a.clocksSweep op = true) :
    (a.apply op).Sweeping s frequency (clocks + 1) ∧
      a.sweepWritten op =
        (if s.moves frequency (clocks + 1) = s.moves frequency clocks then none
        else some (s.held frequency (clocks + 1))) ∧
      a.sweepSilences .channel1 op =
        (decide (s.ahead frequency clocks ≤ 2047) &&
          !decide (s.ahead frequency (clocks + 1) ≤ 2047)) := by
  obtain ⟨t, ht, hfollows⟩ := h.sweep
  obtain ⟨hnext, hwritten, hsilences⟩ := hfollows.clock hpace hshift
  have hresult : a.channel1.sweepClock = t.clock.2 := by
    unfold PulseChannel.sweepClock
    rw [ht]
  have hvoice := a.apply_voice hop
  rw [if_pos hclocks, hresult, ht] at hvoice
  have hfrequency := congrArg Prod.fst hvoice
  have hsweep := congrArg Prod.snd hvoice
  refine ⟨⟨⟨t.clock.1, hsweep, hnext⟩, ?_⟩, ?_, ?_⟩
  · show (a.apply op).voice.1 = _
    rw [hfrequency, hwritten]
    dsimp only
    split
    · next hmoves => rw [(FrequencySweep.held_congr hmoves).1]; exact h.frequency
    · rfl
  · rw [sweepWritten, if_pos hclocks, hresult, hwritten]
  · rw [sweepSilences, hclocks, hresult, hsilences]
    rfl

/-- An operation that does not clock the sweep leaves it alone. -/
theorem unclocked (h : a.Sweeping s frequency clocks) {op : Op} (hop : op.Spares .channel1)
    (hclocks : a.clocksSweep op = false) :
    (a.apply op).Sweeping s frequency clocks ∧ a.sweepWritten op = none ∧
      a.sweepSilences .channel1 op = false := by
  have hvoice := a.apply_voice hop
  rw [hclocks, if_neg Bool.false_ne_true] at hvoice
  refine ⟨h.of_voice hvoice, ?_, ?_⟩
  · rw [sweepWritten, hclocks]
    rfl
  · rw [sweepSilences, hclocks]
    rfl

end Sweeping

/-- The frequencies of the first moves. -/
def movesList (s : FrequencySweep) (frequency moves : Nat) : List Nat :=
  (List.range moves).map fun i => s.next^[i + 1] frequency

theorem movesList_succ (s : FrequencySweep) (frequency moves : Nat) :
    movesList s frequency (moves + 1) =
      movesList s frequency moves ++ [s.next^[moves + 1] frequency] := by
  unfold movesList
  rw [List.range_succ, List.map_append]
  rfl

theorem play_snoc (a : Apu M) (ops : List Op) (op : Op) :
    a.play (ops ++ [op]) = (a.play ops).apply op := a.play_append ops [op]

theorem steps_snoc (a : Apu M) (ops : List Op) (op : Op) :
    a.steps (ops ++ [op]) = a.steps ops ++ [(a.play ops, op)] := a.steps_append ops [op]

theorem sweepWrites_snoc (a : Apu M) (ops : List Op) (op : Op) :
    a.sweepWrites (ops ++ [op]) = a.sweepWrites ops ++ ((a.play ops).sweepWritten op).toList := by
  unfold sweepWrites
  rw [steps_snoc, List.filterMap_append]
  cases hwritten : (a.play ops).sweepWritten op with
  | none => simp only [List.filterMap_cons, hwritten, List.filterMap_nil, Option.toList_none]
  | some given => simp only [List.filterMap_cons, hwritten, List.filterMap_nil, Option.toList_some]

theorem silencedBySweep_snoc (a : Apu M) (ch : Channel) (ops : List Op) (op : Op) :
    a.silencedBySweep ch (ops ++ [op]) =
      (a.silencedBySweep ch ops || (a.play ops).sweepSilences ch op) := by
  unfold silencedBySweep
  rw [steps_snoc, List.any_append, List.any_cons, List.any_nil, Bool.or_false]

theorem sweepClocks_snoc (a : Apu M) (ops : List Op) (op : Op) :
    a.sweepClocks (ops ++ [op]) =
      a.sweepClocks ops + if (a.play ops).clocksSweep op then 1 else 0 := by
  unfold sweepClocks
  rw [steps_snoc, List.countP_append, List.countP_singleton]

/-- **A run of the sweep**: what it holds, what it wrote and whether it silenced its
channel. -/
theorem sweeping_play {a : Apu M} {s : FrequencySweep} {frequency : Nat}
    (h : a.Sweeping s frequency 0) (hpace : 0 < s.pace) (hshift : 0 < s.shift) {ops : List Op}
    (hops : ∀ op ∈ ops, op.Spares .channel1) :
    (a.play ops).Sweeping s frequency (a.sweepClocks ops) ∧
      a.sweepWrites ops = movesList s frequency (s.moves frequency (a.sweepClocks ops)) ∧
      a.silencedBySweep .channel1 ops =
        (decide (s.ahead frequency 0 ≤ 2047) &&
          !decide (s.ahead frequency (a.sweepClocks ops) ≤ 2047)) := by
  induction ops using List.reverseRecOn with
  | nil =>
    have hmoves : s.moves frequency 0 = 0 := by
      unfold FrequencySweep.moves
      rw [Nat.zero_div]
      rfl
    refine ⟨h, ?_, ?_⟩
    · show [] = movesList s frequency (s.moves frequency 0)
      rw [hmoves]
      rfl
    · exact (Bool.and_not_self _).symm
  | append_singleton ops op ih =>
    obtain ⟨hsweeping, hwrites, hsilenced⟩ := ih fun op hop => hops op (List.mem_append_left _ hop)
    have hop := hops op (List.mem_append_right _ (List.mem_singleton_self op))
    rw [play_snoc, sweepWrites_snoc, silencedBySweep_snoc, sweepClocks_snoc]
    cases hclocks : (a.play ops).clocksSweep op with
    | false =>
      -- No clock of the sweep: the operation adds to none of the three.
      obtain ⟨hnext, hwritten, hsilences⟩ := hsweeping.unclocked hop hclocks
      rw [hwritten, hsilences, Bool.or_false]
      refine ⟨hnext, ?_, hsilenced⟩
      rw [Option.toList_none, List.append_nil]
      exact hwrites
    | true =>
      obtain ⟨hnext, hwritten, hsilences⟩ := hsweeping.clocked hpace hshift hop hclocks
      rw [if_pos rfl]
      refine ⟨hnext, ?_, ?_⟩
      · rw [hwrites, hwritten]
        have hmoves : s.moves frequency (a.sweepClocks ops + 1) =
              s.moves frequency (a.sweepClocks ops) ∨
            s.moves frequency (a.sweepClocks ops + 1) =
              s.moves frequency (a.sweepClocks ops) + 1 := FrequencySweep.moves_succ hpace
        -- The pace is over or not, and only then is a frequency given.
        rcases hmoves with hsame | hmoved
        · rw [if_pos hsame, hsame, Option.toList_none, List.append_nil]
        · have hne : ¬ s.moves frequency (a.sweepClocks ops + 1) =
            s.moves frequency (a.sweepClocks ops) := by omega
          rw [if_neg hne, FrequencySweep.held, hmoved, movesList_succ]
          rfl
      · -- The frequency ahead only grows out of range, so it leaves the range once.
        have hbefore (hafter : s.ahead frequency (a.sweepClocks ops + 1) ≤ 2047) :=
          FrequencySweep.ahead_le (Nat.le_succ _) hafter
        have hfirst (hlater : s.ahead frequency (a.sweepClocks ops) ≤ 2047) :=
          FrequencySweep.ahead_le (Nat.zero_le _) hlater
        rw [hsilenced, hsilences]
        by_cases hnow : s.ahead frequency (a.sweepClocks ops) ≤ 2047
        · rw [decide_eq_true hnow, decide_eq_true (hfirst hnow)]
          rfl
        · rw [decide_eq_false hnow, decide_eq_false fun hafter => hnow (hbefore hafter),
            Bool.false_and, Bool.or_false]

end Apu

end Pockiva
