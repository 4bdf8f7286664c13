import Pockiva.BusFrame

/-! # The two copies of the divider

The timer counts T-cycles in a 16-bit divider; the APU keeps a mirror of it and clocks
its frame sequencer when bit 12 of the mirror falls.  `divider_agreement` states that
the two never differ, so that the sequencer is clocked by the divider of the timer.
-/
namespace Pockiva

open Transition

variable {M : MixerModel}

/-! ## The divider of the timer -/

namespace Timer

@[simp] theorem incrementTima_divider (t : Timer) : t.incrementTima.divider = t.divider := by
  unfold incrementTima
  split
  · rfl
  · split <;> rfl

@[simp] theorem afterEdge_divider (old t : Timer) : (afterEdge old t).divider = t.divider := by
  unfold afterEdge
  split
  · exact incrementTima_divider t
  · rfl

@[simp] theorem reload_divider (t : Timer) : (reload t).device.divider = t.divider := by
  unfold reload
  split <;> rfl

@[simp] theorem tickOne_divider (t : Timer) : (tickOne t).device.divider = t.divider + 1 := by
  simp [tickOne, advanceDivider]

theorem tick_succ (t : Timer) (n : Nat) :
    (t.tick (n + 1)).device = (tickOne (t.tick n).device).device := rfl

/-- A write to DIV resets the divider, any other write leaves it. -/
theorem write_divider (t : Timer) (address : Word) (value : Byte) :
    (t.write address value).device.divider = if address = 0xff04 then 0 else t.divider := by
  unfold write
  dsimp only [Requesting.silent_device]
  by_cases h4 : address = 0xff04
  · rw [if_pos h4, if_pos h4, afterEdge_divider]
  rw [if_neg h4, if_neg h4]
  by_cases h5 : address = 0xff05 ∧ t.reloadedThisCycle = false
  · rw [if_pos h5]
  rw [if_neg h5]
  by_cases h6 : address = 0xff06
  · rw [if_pos h6]
  rw [if_neg h6]
  by_cases h7 : address = 0xff07
  · rw [if_pos h7, afterEdge_divider]
  · rw [if_neg h7]

end Timer

/-! ## The mirror of the APU -/

namespace Apu

@[simp] theorem clockFrameSequencer_dividerMirror (a : Apu M) :
    a.clockFrameSequencer.dividerMirror = a.dividerMirror := by
  unfold clockFrameSequencer
  dsimp only
  split <;> rfl

@[simp] theorem tickDivider_dividerMirror (a : Apu M) :
    a.tickDivider.dividerMirror = a.dividerMirror + 1 := by
  unfold tickDivider
  dsimp only
  split
  · exact clockFrameSequencer_dividerMirror _
  · rfl

@[simp] theorem tickChannels_dividerMirror (a : Apu M) :
    a.tickChannels.dividerMirror = a.dividerMirror := by
  unfold tickChannels
  split <;> rfl

@[simp] theorem emitFrame_dividerMirror (a : Apu M) :
    a.emitFrame.dividerMirror = a.dividerMirror := by
  unfold emitFrame
  dsimp only
  split <;> rfl

@[simp] theorem emitLoop_dividerMirror (due : Nat) (a : Apu M) :
    (emitLoop due a).dividerMirror = a.dividerMirror := by
  induction due generalizing a with
  | zero => rfl
  | succ due ih =>
    rw [emitLoop]
    split
    · rw [ih, emitFrame_dividerMirror]
    · rfl

@[simp] theorem tickTCycle_dividerMirror (a : Apu M) :
    a.tickTCycle.dividerMirror = a.dividerMirror + 1 := by
  simp [tickTCycle]

/-- A write while the unit is on reaches the channels and the volume registers only. -/
theorem writePoweredOn_eq (a : Apu M) (address : Word) (value : Byte) :
    ∃ channel1 channel2 channel3 channel4 nr50 nr51, a.writePoweredOn address value =
      { a with
        channel1 := channel1
        channel2 := channel2
        channel3 := channel3
        channel4 := channel4
        nr50 := nr50
        nr51 := nr51 } := by
  unfold writePoweredOn
  dsimp only
  repeat' split
  all_goals exact ⟨_, _, _, _, _, _, rfl⟩

/-- A write while the unit is off reaches the channels only. -/
theorem writePoweredOff_eq (a : Apu M) (address : Word) (value : Byte) :
    ∃ channel1 channel2 channel3 channel4, a.writePoweredOff address value =
      { a with
        channel1 := channel1
        channel2 := channel2
        channel3 := channel3
        channel4 := channel4 } := by
  unfold writePoweredOff
  repeat' split
  all_goals exact ⟨_, _, _, _, rfl⟩

/-- A write to DIV resets the mirror, any other write leaves it. -/
theorem write_dividerMirror (a : Apu M) (address : Word) (value : Byte) :
    (a.write address value).dividerMirror = if address = 0xff04 then 0 else a.dividerMirror := by
  unfold write
  by_cases h4 : address = 0xff04
  · rw [if_pos h4, if_pos h4]
    rfl
  rw [if_neg h4, if_neg h4]
  by_cases h26 : address = 0xff26
  · rw [if_pos h26]
    unfold writeNr52
    dsimp only
    repeat' split
    all_goals rfl
  rw [if_neg h26]
  split
  · obtain ⟨_, _, _, _, _, _, heq⟩ := a.writePoweredOn_eq address value
    rw [heq]
  · obtain ⟨_, _, _, _, heq⟩ := a.writePoweredOff_eq address value
    rw [heq]

end Apu

/-! ## Agreement -/

/-- Bit 12 of the divider falls. -/
def sequencerFalls (old new : Word) : Prop := old &&& 0x1000 ≠ 0 ∧ new &&& 0x1000 = 0

instance (old new : Word) : Decidable (sequencerFalls old new) :=
  inferInstanceAs (Decidable (_ ∧ _))

/-- The unit with the divider `new`, its frame sequencer clocked if bit 12 fell. -/
def Apu.followed (a : Apu M) (old new : Word) : Apu M :=
  let b := { a with dividerMirror := new }
  if sequencerFalls old new then b.clockFrameSequencer else b

namespace Apu

/-- The divider part of a T-cycle, read off the mirror. -/
theorem tickDivider_eq (a : Apu M) :
    a.tickDivider = a.followed a.dividerMirror (a.dividerMirror + 1) := rfl

/-- Clocking the sequencer does not look at the mirror. -/
theorem clockFrameSequencer_mirror (a : Apu M) (mirror : Word) :
    ({ a with dividerMirror := mirror } : Apu M).clockFrameSequencer =
      { a.clockFrameSequencer with dividerMirror := mirror } := by
  unfold clockFrameSequencer
  dsimp only
  split <;> rfl

theorem resetDivider_eq (a : Apu M) : a.resetDivider = a.followed a.dividerMirror 0 := by
  unfold resetDivider followed
  dsimp only
  by_cases h : a.dividerMirror &&& 0x1000 ≠ 0
  · have hfalls : sequencerFalls a.dividerMirror 0 := ⟨h, by decide⟩
    rw [if_pos h, if_pos hfalls]
    exact (clockFrameSequencer_mirror a 0).symm
  · have hstays : ¬ sequencerFalls a.dividerMirror 0 := fun hfalls => h hfalls.1
    rw [if_neg h, if_neg hstays]

/-- The step of the sequencer after its clock. -/
theorem followed_frameStep (a : Apu M) (old new : Word) :
    (a.followed old new).frameStep =
      if sequencerFalls old new then (a.frameStep + 1) % 8 else a.frameStep := by
  unfold followed
  dsimp only
  split <;> rfl

/-- Nothing else in a T-cycle clocks the sequencer. -/
theorem tickTCycle_frameStep (a : Apu M) : a.tickTCycle.frameStep = a.tickDivider.frameStep := by
  have hloop : ∀ (due : Nat) (b : Apu M), (emitLoop due b).frameStep = b.frameStep := by
    intro due
    induction due with
    | zero => exact fun _ => rfl
    | succ due ih =>
      intro b
      rw [emitLoop]
      split
      · rw [ih, emitFrame]
        split <;> rfl
      · rfl
  rw [tickTCycle, hloop]
  unfold tickChannels
  split <;> rfl

/-- No write but one to DIV clocks the sequencer; switching the unit starts it over. -/
theorem write_frameStep (a : Apu M) {address : Word} (h4 : address ≠ 0xff04) (value : Byte) :
    (a.write address value).frameStep = a.frameStep ∨
      (address = 0xff26 ∧ (a.write address value).frameStep = 0) := by
  unfold write
  rw [if_neg h4]
  by_cases h26 : address = 0xff26
  · rw [if_pos h26]
    unfold writeNr52
    dsimp only
    split
    · exact .inr ⟨h26, rfl⟩
    · split
      · exact .inr ⟨h26, rfl⟩
      · exact .inl rfl
  rw [if_neg h26]
  left
  split
  · obtain ⟨_, _, _, _, _, _, heq⟩ := a.writePoweredOn_eq address value
    rw [heq]
  · obtain ⟨_, _, _, _, heq⟩ := a.writePoweredOff_eq address value
    rw [heq]

theorem tick_succ (a : Apu M) (n : Nat) :
    (a.tick (n + 1)).device = (a.tick n).device.tickTCycle := rfl

end Apu

/-- The divider and its mirror agree, and the frame sequencer is clocked exactly when bit
12 of the divider of the timer falls. -/
structure DividerAgreement (b : MachineBus M) : Prop where
  mirror : b.audio.dividerMirror = b.timer.divider
  /-- In every T-cycle `n` of an M-cycle. -/
  ticked : ∀ n < 4,
    (b.audio.tick n).device.tickDivider =
      (b.audio.tick n).device.followed (b.timer.tick n).device.divider
        (b.timer.tick (n + 1)).device.divider ∧
    (b.audio.tick (n + 1)).device.frameStep =
      if sequencerFalls (b.timer.tick n).device.divider (b.timer.tick (n + 1)).device.divider
      then ((b.audio.tick n).device.frameStep + 1) % 8 else (b.audio.tick n).device.frameStep
  /-- When DIV is written. -/
  written : ∀ value,
    (b.writeUnclocked 0xff04 value).audio =
      b.audio.followed b.timer.divider (b.writeUnclocked 0xff04 value).timer.divider
  /-- When STOP resets the divider. -/
  stopped : b.resetDivider.audio = b.audio.followed b.timer.divider b.resetDivider.timer.divider
  /-- No other write clocks the sequencer; switching the unit starts it over. -/
  unclocked : ∀ address value, address ≠ 0xff04 →
    (b.writeUnclocked address value).audio.frameStep = b.audio.frameStep ∨
      (address = 0xff26 ∧ (b.writeUnclocked address value).audio.frameStep = 0)

/-- The divider and its mirror after the first T-cycles of an M-cycle. -/
theorem mirror_tick {a : Apu M} {t : Timer} (h : a.dividerMirror = t.divider) (n : Nat) :
    (a.tick n).device.dividerMirror = (t.tick n).device.divider := by
  induction n with
  | zero => exact h
  | succ n ih =>
    rw [Apu.tick_succ, Timer.tick_succ, Apu.tickTCycle_dividerMirror, Timer.tickOne_divider, ih]

namespace MachineBus

/-- A write to DIV resets both copies. -/
theorem writeUnclocked_divider (b : MachineBus M) (value : Byte) :
    b.writeUnclocked 0xff04 value =
      { b with
        timer := (b.timer.write 0xff04 value).device
        audio := b.audio.write 0xff04 0 } := by
  rw [writeUnclocked, if_neg (by decide), if_neg (by decide), if_neg (by decide),
    if_neg (by decide), if_neg (by decide), if_neg (by decide), if_pos rfl, request]
  dsimp only
  rw [request_timer_write]

/-- Both copies are updated by every operation on the bus. -/
theorem preserved_mirror :
    Preserved fun b : MachineBus M => b.audio.dividerMirror = b.timer.divider := by
  constructor
  case tickMCycle =>
    intro b h
    rw [tickMCycle_audio, tickMCycle_timer]
    exact mirror_tick h 4
  case writeUnclocked =>
    intro b address value h
    have hcase := writeUnclocked_cases b address value
    generalize b.writeUnclocked address value = c at hcase
    -- Of the writes only the one to DIV reaches either copy.
    cases hcase with
    | divider h4 =>
      dsimp only
      rw [Apu.write_dividerMirror, Timer.write_divider, if_pos rfl, if_pos rfl]
    | timer hrange =>
      have h4 : address ≠ 0xff04 := by
        rintro rfl
        exact absurd hrange.1 (by decide)
      dsimp only
      rw [Timer.write_divider, if_neg h4]
      exact h
    | audio hrange =>
      have h4 : address ≠ 0xff04 := by
        rintro rfl
        exact absurd hrange.1 (by decide)
      dsimp only
      rw [Apu.write_dividerMirror, if_neg h4]
      exact h
    | _ => exact h
  case resetDivider =>
    intro b h
    have hmirror := Apu.write_dividerMirror b.audio 0xff04 0
    have hdivider := Timer.write_divider b.timer 0xff04 0
    exact hmirror.trans hdivider.symm
  case reset =>
    intro b now state h
    rfl
  all_goals
    intros
    assumption

end MachineBus

/-- **Divider agreement**, in every state of the machine at the boundary of an M-cycle. -/
theorem divider_agreement {rom : List Byte} {sampleRate : Nat} {b : MachineBus M}
    (h : Reachable (MachineBus.system M rom sampleRate) b) : DividerAgreement b := by
  have hmirror : b.audio.dividerMirror = b.timer.divider :=
    MachineBus.preserved_mirror.invariant h fun _ _ _ _ => rfl
  have hreset : ∀ value, b.audio.write 0xff04 value = b.audio.followed b.timer.divider 0 := by
    intro value
    rw [← hmirror]
    exact b.audio.resetDivider_eq
  have hzero : ∀ value, (b.timer.write 0xff04 value).device.divider = 0 := by
    intro value
    rw [Timer.write_divider, if_pos rfl]
  refine ⟨hmirror, ?_, ?_, ?_, ?_⟩
  · intro n _
    have hn := mirror_tick hmirror n
    have hfollowed : (b.audio.tick n).device.tickDivider =
        (b.audio.tick n).device.followed (b.timer.tick n).device.divider
          (b.timer.tick (n + 1)).device.divider := by
      rw [Apu.tickDivider_eq, hn, Timer.tick_succ, Timer.tickOne_divider]
    refine ⟨hfollowed, ?_⟩
    rw [Apu.tick_succ, Apu.tickTCycle_frameStep, hfollowed, Apu.followed_frameStep]
  · intro value
    rw [MachineBus.writeUnclocked_divider]
    dsimp only
    rw [hzero, ← hreset]
  · have hstopped : b.resetDivider.audio = b.audio.write 0xff04 0 := rfl
    have hdivider : b.resetDivider.timer.divider = 0 := hzero 0
    rw [hstopped, hdivider, hreset]
  · intro address value h4
    have hcase := b.writeUnclocked_cases address value
    generalize b.writeUnclocked address value = c at hcase
    cases hcase with
    | divider h => exact absurd h h4
    | audio _ => exact b.audio.write_frameStep h4 value
    | _ => exact .inl rfl

/-- After an M-cycle and a write to DIV. -/
theorem divider_agreement_nopBus : DividerAgreement (nopBus.tickMCycle.write8 0xff04 0x00) := by
  have hticked := reachable_nopBus.ofNext (.cpu .idleMCycle)
  exact divider_agreement (hticked.ofNext (.cpu (.write8 0xff04 0x00)))

end Pockiva
