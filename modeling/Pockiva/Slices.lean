import Pockiva.HaltedCore

/-! # Slices of time

A call of `run_cycles` executes some instructions completely (`Runs`) and then stops, or
fails before the next one (`loop_runs`).  So the instructions of a call are those of any
larger budget, and it does not matter how the host slices the time.
-/
namespace Pockiva

open Transition

variable {M : MixerModel}

namespace Running

/-- The machine after its next instruction. -/
def instruction (r : Running M) : Running M := ⟨r.timed.clock, (step.run r.timed.exec).2⟩

/-- Some instructions are executed completely, from the states listed, in `total` T-cycles. -/
inductive Runs : Running M → List (Exec (MachineBus M)) → Nat → Running M → Prop where
  | nil {r : Running M} : Runs r [] 0 r
  | cons {r : Running M} {n m total : Nat} {states : List (Exec (MachineBus M))} {last : Running M}
      (hnext : nextStepTCycles r.timed.exec.cpu r.timed.exec.bus = .ok n) (hpos : 0 < n)
      (hstep : (step.run r.timed.exec).1 = .ok m) (h : Runs r.instruction states total last) :
      Runs r (r.timed.exec :: states) (m + total) last

/-- How a call goes on after its last complete instruction. -/
inductive Ends (executed : Nat) (last : Running M) : Except CoreError Nat × Running M → Prop where
  | spent : Ends executed last (.ok executed, last)
  | stop : Ends executed last (.ok executed, last.timed)
  | error (e : CoreError)
      (h : nextStepTCycles last.timed.exec.cpu last.timed.exec.bus = .error e) :
      Ends executed last (.error e, last.timed)

/-- **The error of `step` is unreachable**: a round that fails fails at the prediction, before
anything is executed. -/
theorem round_error {budget executed : Nat} {r after : Running M} {e : CoreError}
    (h : r.round budget executed = .error e after) :
    nextStepTCycles r.timed.exec.cpu r.timed.exec.bus = .error e ∧ after = r.timed := by
  unfold round at h
  dsimp only at h
  cases hn : nextStepTCycles r.timed.exec.cpu r.timed.exec.bus with
  | error e' =>
    rw [hn] at h
    injection h with he hafter
    exact ⟨congrArg _ he, hafter.symm⟩
  | ok n =>
    obtain ⟨m, hm, -, -⟩ := step_prediction hn
    rw [hn] at h
    dsimp only at h
    rw [hm] at h
    split at h <;> cases h

theorem round_stop_eq {budget executed : Nat} {r after : Running M}
    (h : r.round budget executed = .stop after) : after = r.timed := by
  unfold round at h
  dsimp only at h
  split at h
  · cases h
  · split at h
    · injection h with hafter
      exact hafter.symm
    · split at h <;> cases h

theorem round_step_eq {budget executed m : Nat} {r after : Running M}
    (h : r.round budget executed = .step m after) : after = r.instruction := by
  unfold round at h
  dsimp only at h
  split at h
  · cases h
  · split at h
    · cases h
    · split at h
      · cases h
      · injection h with _ hafter
        exact hafter.symm

theorem round_of_step {budget executed n m : Nat} {r : Running M}
    (hnext : nextStepTCycles r.timed.exec.cpu r.timed.exec.bus = .ok n) (hpos : 0 < n)
    (hfits : n ≤ budget - executed) (hstep : (step.run r.timed.exec).1 = .ok m) :
    r.round budget executed = .step m r.instruction := by
  have hgo : ¬ (n = 0 ∨ n > budget - executed) := by omega
  rw [round]
  dsimp only
  rw [hnext]
  dsimp only
  rw [if_neg hgo, hstep]
  rfl

/-- **What a call does**: complete instructions, and then nothing but a look at the clock. -/
theorem loop_runs (budget rounds executed : Nat) (r : Running M) :
    ∃ total last, Runs r (r.steps budget rounds executed) total last ∧
      Ends (executed + total) last (r.loop budget rounds executed) := by
  induction rounds generalizing executed r with
  | zero => exact ⟨0, r, .nil, .spent⟩
  | succ rounds ih =>
    rw [loop, steps]
    by_cases hlt : executed < budget
    · rw [if_pos hlt, if_pos hlt]
      cases hround : r.round budget executed with
      | stop after =>
        have hafter : after = r.timed := round_stop_eq hround
        rw [hafter]
        exact ⟨0, r, .nil, .stop⟩
      | error e after =>
        obtain ⟨hnext, rfl⟩ := round_error hround
        exact ⟨0, r, .nil, .error e hnext⟩
      | step m after =>
        obtain ⟨n, hnext, hpos, -, hm, -⟩ := round_step hround
        have hafter : after = r.instruction := round_step_eq hround
        obtain ⟨total, last, hruns, hends⟩ := ih (executed + m) after
        rw [hafter] at hruns hends
        rw [Nat.add_assoc] at hends
        rw [hafter]
        exact ⟨m + total, last, .cons hnext hpos hm hruns, hends⟩
    · rw [if_neg hlt, if_neg hlt]
      exact ⟨0, r, .nil, .spent⟩

/-- The T-cycles of the instructions are those that pass. -/
theorem Runs.elapsed {r last : Running M} {states : List (Exec (MachineBus M))} {total : Nat}
    (h : Runs r states total last) : last.elapsed = r.elapsed + total := by
  induction h with
  | nil => rfl
  | @cons r n m total states last _ _ hstep _ ih =>
    have hpassed : r.instruction.elapsed = r.elapsed + m := step_elapsed hstep
    rw [ih, hpassed, Nat.add_assoc]

theorem Runs.readings {r last : Running M} {states : List (Exec (MachineBus M))} {total : Nat}
    (h : Runs r states total last) : last.clock.readings = r.clock.readings := by
  induction h with
  | nil => rfl
  | cons _ _ _ _ ih => exact ih

/-! ## The same instructions under a larger budget -/

/-- More rounds than cycles that are left change nothing. -/
theorem loop_rounds {budget rounds executed : Nat} (r : Running M)
    (h : budget - executed ≤ rounds) :
    r.loop budget rounds executed = r.loop budget (budget - executed) executed := by
  induction rounds, h using Nat.le_induction with
  | base => rfl
  | succ rounds h ih => rw [loop_fuel r h, ih]

/-- **A budget that covers some instructions executes them.** -/
theorem loop_of_runs {r last : Running M} {states : List (Exec (MachineBus M))} {total : Nat}
    (h : Runs r states total last) (hpredicted : ∀ s ∈ states, Predicted s) {budget executed : Nat}
    (hbudget : executed + total ≤ budget) :
    r.loop budget (budget - executed) executed =
      last.loop budget (budget - (executed + total)) (executed + total) := by
  induction h generalizing executed with
  | nil => rfl
  | @cons r n m total states last hnext hpos hstep h ih =>
    obtain ⟨hfirst, hrest⟩ := List.forall_mem_cons.mp hpredicted
    obtain ⟨k, hk, hm⟩ := hfirst
    obtain rfl : n = k := Except.ok.inj (hnext.symm.trans hk)
    obtain rfl : m = n := Except.ok.inj (hstep.symm.trans hm)
    obtain ⟨rounds, hrounds⟩ : ∃ rounds, budget - executed = rounds + 1 :=
      ⟨budget - executed - 1, by omega⟩
    rw [hrounds, loop_step hnext hpos (by omega) hstep]
    have hgoes : r.instruction.loop budget (budget - (executed + m)) (executed + m) =
        last.loop budget (budget - (executed + m + total)) (executed + m + total) :=
      ih hrest (by omega)
    have hleft : budget - (executed + m) ≤ rounds := by omega
    rw [← Nat.add_assoc, ← hgoes]
    exact loop_rounds _ hleft

/-- A call counts from where it starts. -/
theorem loop_shift (e budget rounds executed : Nat) (r : Running M) :
    r.loop (e + budget) rounds (e + executed) =
      ((r.loop budget rounds executed).1.map (e + ·), (r.loop budget rounds executed).2) := by
  induction rounds generalizing executed r with
  | zero => rfl
  | succ rounds ih =>
    have hround : r.round (e + budget) (e + executed) = r.round budget executed := by
      unfold round
      rw [Nat.add_sub_add_left]
    rw [loop, loop, hround]
    by_cases hlt : executed < budget
    · rw [if_pos (by omega : e + executed < e + budget), if_pos hlt]
      cases r.round budget executed with
      | stop after => rfl
      | error err after => rfl
      | step m after =>
        dsimp only
        rw [Nat.add_assoc]
        exact ih (executed + m) after
    · rw [if_neg (by omega : ¬ e + executed < e + budget), if_neg hlt]
      rfl

/-! ## A constant clock -/

/-- Two runs in the same state, by clocks that always read `now`. -/
structure Alike (now : Nat) (r r' : Running M) : Prop where
  exec : r.exec = r'.exec
  left : ∀ k, r.clock.readings k = now
  right : ∀ k, r'.clock.readings k = now

theorem Alike.timed {now : Nat} {r r' : Running M} (h : Alike now r r') :
    Alike now r.timed r'.timed := by
  refine ⟨?_, h.left, h.right⟩
  have hleft : r.clock.unixSeconds = now := h.left _
  have hright : r'.clock.unixSeconds = now := h.right _
  rw [Running.timed, Running.timed, hleft, hright, h.exec]

/-- They go on alike. -/
theorem Alike.loop {now : Nat} {r r' : Running M} (h : Alike now r r')
    (budget rounds executed : Nat) :
    (r.loop budget rounds executed).1 = (r'.loop budget rounds executed).1 ∧
      Alike now (r.loop budget rounds executed).2 (r'.loop budget rounds executed).2 := by
  induction rounds generalizing executed r r' with
  | zero => exact ⟨rfl, h⟩
  | succ rounds ih =>
    have htimed := h.timed
    have hexec := htimed.exec
    rw [Running.loop, Running.loop]
    by_cases hlt : executed < budget
    · rw [if_pos hlt, if_pos hlt]
      unfold round
      dsimp only
      rw [hexec]
      cases nextStepTCycles r'.timed.exec.cpu r'.timed.exec.bus with
      | error e => exact ⟨rfl, htimed⟩
      | ok n =>
        dsimp only
        by_cases hstop : n = 0 ∨ n > budget - executed
        · rw [if_pos hstop, if_pos hstop]
          exact ⟨rfl, htimed⟩
        · rw [if_neg hstop, if_neg hstop]
          cases (step.run r'.timed.exec).1 with
          | error e => exact ⟨rfl, rfl, htimed.left, htimed.right⟩
          | ok m =>
            refine ih ?_ _
            exact ⟨rfl, htimed.left, htimed.right⟩
    · rw [if_neg hlt, if_neg hlt]
      exact ⟨rfl, h⟩

/-- The bus knows the time of one of the readings. -/
def ReadsClock (r : Running M) : Prop := ∃ k, r.exec.bus.nowUnixSeconds = r.clock.readings k

/-- A look at a constant clock tells the bus nothing new. -/
theorem ReadsClock.alike_timed {now : Nat} {r : Running M} (h : r.ReadsClock)
    (hclock : ∀ k, r.clock.readings k = now) : Alike now r r.timed := by
  obtain ⟨k, hk⟩ := h
  have hnow : r.exec.bus.nowUnixSeconds = r.clock.unixSeconds := by
    rw [hk, hclock, Clock.unixSeconds, hclock]
  refine ⟨?_, hclock, hclock⟩
  rw [Running.timed, MachineBus.setUnixSeconds, ← hnow]

/-- The CPU does not set the clock of the bus. -/
theorem step_nowUnixSeconds (s : Exec (MachineBus M)) :
    (step.run s).2.bus.nowUnixSeconds = s.bus.nowUnixSeconds := by
  have htick : ∀ b : MachineBus M, b.tickMCycle.nowUnixSeconds = b.nowUnixSeconds := by
    intro b
    obtain ⟨interrupts, heq⟩ := MachineBus.tickMCycle_eq b
    rw [heq]
  have hwrite : ∀ (b : MachineBus M) (address : Word) (value : Byte),
      (b.writeUnclocked address value).nowUnixSeconds = b.nowUnixSeconds := by
    intro b address value
    have hcase := b.writeUnclocked_cases address value
    generalize b.writeUnclocked address value = c at hcase
    cases hcase <;> rfl
  refine (Drives.step.driven s).invariant
    (P := fun b => b.nowUnixSeconds = s.bus.nowUnixSeconds) rfl ?_
  intro b op hb
  cases op with
  | read8 address => exact (htick b).trans hb
  | write8 address value =>
    show (b.write8 address value).nowUnixSeconds = _
    unfold MachineBus.write8
    split
    · split
      · exact (htick _).trans ((hwrite b address value).trans hb)
      · exact (hwrite _ address value).trans ((htick b).trans hb)
    · exact (htick b).trans hb
  | idleMCycle => exact (htick b).trans hb
  | acknowledgeInterrupt i => exact hb
  | resetDivider => exact hb

theorem ReadsClock.instruction {r : Running M} : r.instruction.ReadsClock :=
  ⟨r.clock.taken, step_nowUnixSeconds r.timed.exec⟩

theorem Runs.readsClock {r last : Running M} {states : List (Exec (MachineBus M))} {total : Nat}
    (h : Runs r states total last) (hr : r.ReadsClock) : last.ReadsClock := by
  induction h with
  | nil => exact hr
  | cons _ _ _ _ ih => exact ih ReadsClock.instruction

/-- The bus knows a reading after a call as before it. -/
theorem loop_readsClock {r : Running M} (hr : r.ReadsClock) (budget rounds executed : Nat) :
    (r.loop budget rounds executed).2.ReadsClock ∧
      (r.loop budget rounds executed).2.clock.readings = r.clock.readings := by
  obtain ⟨total, last, hruns, hends⟩ := loop_runs budget rounds executed r
  have hlast := hruns.readsClock hr
  have hreadings := hruns.readings
  generalize r.loop budget rounds executed = result at hends
  cases hends with
  | spent => exact ⟨hlast, hreadings⟩
  | stop => exact ⟨⟨last.clock.taken, rfl⟩, hreadings⟩
  | error => exact ⟨⟨last.clock.taken, rfl⟩, hreadings⟩

end Running

namespace GameBoy

/-- The same state of the core, but for how often the clock was read. -/
structure SameState (g h : GameBoy M) : Prop where
  readings : g.clock.readings = h.clock.readings
  sampleRate : g.sampleRate = h.sampleRate
  cpu : g.cpu = h.cpu
  bus : g.bus = h.bus
  inputs : g.inputs = h.inputs

/-- The bus of the core, if it is loaded, knows one of the readings of the clock. -/
def ReadsClock (g : GameBoy M) : Prop :=
  ∀ bus, g.bus = some bus → ∃ k, bus.nowUnixSeconds = g.clock.readings k

/-- A call that neither reads the clock for the bus nor loads one. -/
theorem ReadsClock.of_map {g h : GameBoy M} (hg : g.ReadsClock)
    (hclock : h.clock.readings = g.clock.readings) {f : MachineBus M → MachineBus M}
    (hbus : h.bus = g.bus.map f) (hf : ∀ b, (f b).nowUnixSeconds = b.nowUnixSeconds) :
    h.ReadsClock := by
  intro c hc
  rw [hbus] at hc
  obtain ⟨b, hb, rfl⟩ := Option.map_eq_some_iff.mp hc
  obtain ⟨k, hk⟩ := hg b hb
  exact ⟨k, by rw [hf, hk, hclock]⟩

theorem ReadsClock.call {g : GameBoy M} (hg : g.ReadsClock) (op : Op) :
    (g.call op).2.ReadsClock := by
  have hkeep : ∀ h : GameBoy M, h.clock.readings = g.clock.readings → h.bus = g.bus →
      h.ReadsClock := by
    intro h hclock hbus c hc
    rw [hbus] at hc
    rw [hclock]
    exact hg c hc
  cases op with
  | loadRom rom persisted =>
    by_cases hok : ∃ metadata, (g.loadRom rom persisted).1 = .ok metadata
    · obtain ⟨metadata, hok⟩ := hok
      obtain ⟨cartridge, -, -, heq⟩ := loadRom_ok hok
      simp only [GameBoy.call, heq]
      -- the new bus is built with the reading this call took
      intro c hc
      obtain rfl := Option.some.inj hc
      exact ⟨g.clock.taken, rfl⟩
    · simp only [GameBoy.call, loadRom_error fun metadata hm => hok ⟨metadata, hm⟩]
      exact hkeep _ rfl rfl
  | reset =>
    simp only [GameBoy.call, GameBoy.reset]
    split
    · exact hg
    · intro c hc
      obtain rfl := Option.some.inj hc
      exact ⟨g.clock.taken, rfl⟩
  | runCycles budget =>
    simp only [GameBoy.call, runCycles]
    split
    · exact hg
    · rename_i b hb
      intro c hc
      obtain rfl := Option.some.inj hc
      have hr : (g.running b).ReadsClock := hg b hb
      exact (Running.loop_readsClock hr budget budget 0).1
  | setInput source state => exact hg.of_map rfl rfl fun _ => rfl
  | clearInputSource source => exact hg.of_map rfl rfl fun _ => rfl
  | takeFrame =>
    simp only [GameBoy.call, GameBoy.takeFrame]
    split
    · exact hg
    · rename_i b hb
      exact hg.of_map (f := fun b => b.takeFrame.2) rfl (by rw [hb]; rfl) fun _ => rfl
  | drainAudio =>
    simp only [GameBoy.call, GameBoy.drainAudio]
    split
    · exact hg
    · rename_i b hb
      exact hg.of_map (f := fun b => b.drainAudio.2) rfl (by rw [hb]; rfl) fun _ => rfl
  | batteryState =>
    simp only [GameBoy.call, GameBoy.batteryState]
    split
    · exact hg
    · exact hkeep _ rfl rfl

/-- **The bus of a core knows the time of one of the readings of its clock.** -/
theorem readsClock_of_reachable {g : GameBoy M} (h : Reachable (GameBoy.system M) g) :
    g.ReadsClock := by
  refine h.invariant ?_ ?_
  · rintro g ⟨clock, sampleRate, -, rfl⟩ bus hbus
    cases hbus
  · rintro g op t hg rfl
    exact hg.call op

/-! ## Chunking -/

/-- What a call on a loaded core gives. -/
theorem runCycles_loaded {g : GameBoy M} {bus : MachineBus M} (hbus : g.bus = some bus)
    (budget : Nat) :
    g.runCycles budget =
      (((g.running bus).loop budget budget 0).1.map fun executed =>
        { cyclesExecuted := executed
          frameReady := ((g.running bus).loop budget budget 0).2.exec.bus.frameReady
          stereoFramesAvailable :=
            ((g.running bus).loop budget budget 0).2.exec.bus.stereoFramesAvailable },
        g.resume ((g.running bus).loop budget budget 0).2) := by
  rw [runCycles, hbus]

/-- **Main result.**  On a constant clock, two calls do what one call does with the cycles the first
executed and the budget of the second, if the instructions of the first take the predicted
time: the same state, the same result, and the executed cycles add up. -/
theorem chunking {g : GameBoy M} (hg : Reachable (GameBoy.system M) g) {now : Nat}
    (hclock : ∀ k, g.clock.readings k = now) {a b : Nat} {outcome : RunOutcome}
    (ha : (g.runCycles a).1 = .ok outcome) (hpredicted : ∀ s ∈ g.steps a, Predicted s) :
    (g.runCycles (outcome.cyclesExecuted + b)).1 =
        (((g.runCycles a).2).runCycles b).1.map (fun second =>
          { second with cyclesExecuted := outcome.cyclesExecuted + second.cyclesExecuted }) ∧
      SameState (g.runCycles (outcome.cyclesExecuted + b)).2
        (((g.runCycles a).2).runCycles b).2 := by
  cases hbus : g.bus with
  | none =>
    rw [runCycles, hbus] at ha
    cases ha
  | some bus =>
    have hsteps : g.steps a = (g.running bus).steps a a 0 := by rw [steps, hbus]
    rw [hsteps] at hpredicted
    rw [runCycles_loaded hbus a] at ha ⊢
    have hreads : (g.running bus).ReadsClock := readsClock_of_reachable hg bus hbus
    obtain ⟨total, last, hruns, hends⟩ := Running.loop_runs a a 0 (g.running bus)
    have hlast := hruns.readsClock hreads
    have hreadings := hruns.readings
    have hconstant : ∀ k, last.clock.readings k = now := fun k => by rw [hreadings]; exact hclock k
    -- the first call ends where its last instruction does
    have hfirst : outcome.cyclesExecuted = total ∧
        Running.Alike now last ((g.running bus).loop a a 0).2 := by
      generalize (g.running bus).loop a a 0 = result at ha hends
      cases hends with
      | spent =>
        obtain rfl := Except.ok.inj ha
        exact ⟨Nat.zero_add _, rfl, hconstant, hconstant⟩
      | stop =>
        obtain rfl := Except.ok.inj ha
        exact ⟨Nat.zero_add _, hlast.alike_timed hconstant⟩
      | error => cases ha
    obtain ⟨htotal, halike⟩ := hfirst
    rw [htotal, runCycles_loaded (g := g.resume ((g.running bus).loop a a 0).2) rfl,
      runCycles_loaded hbus (total + b)]
    have hsame : (g.resume ((g.running bus).loop a a 0).2).running
        ((g.running bus).loop a a 0).2.exec.bus = ((g.running bus).loop a a 0).2 := rfl
    rw [hsame]
    -- the one call comes to the same instruction, with the second budget left
    have hwhole : (g.running bus).loop (total + b) (total + b) 0 =
        last.loop (total + b) b total := by
      have hgoes : (g.running bus).loop (total + b) (total + b - 0) 0 =
          last.loop (total + b) (total + b - (0 + total)) (0 + total) :=
        Running.loop_of_runs hruns hpredicted (by omega)
      rwa [Nat.sub_zero, Nat.zero_add, Nat.add_sub_cancel_left] at hgoes
    -- from there it runs as the second call does, `total` cycles ahead of it
    have hshift := Running.loop_shift total b b 0 last
    obtain ⟨hresult, hstate⟩ := halike.loop b b 0
    rw [Nat.add_zero] at hshift
    rw [hwhole, hshift]
    dsimp only
    rw [hresult, hstate.exec]
    refine ⟨?_, ?_⟩
    · cases (((g.running bus).loop a a 0).2.loop b b 0).1 <;> rfl
    · refine ⟨?_, rfl, ?_, ?_, rfl⟩
      · funext k
        exact (hstate.left k).trans (hstate.right k).symm
      · exact congrArg Exec.cpu hstate.exec
      · exact congrArg (fun e => some e.bus) hstate.exec

/-- A core that was just loaded with an image that halts. -/
def onHalt : GameBoy .mute :=
  ((GameBoy.new ⟨fun _ => 0, 0⟩ 44100).loadRom (imageOf 2 haltContent) none).2

/-- HALT, and eight cycles of idling: in two calls or in one. -/
theorem chunking_halt : ∃ outcome : RunOutcome, (onHalt.runCycles 4).1 = .ok outcome ∧
    SameState (onHalt.runCycles (outcome.cyclesExecuted + 8)).2
      (((onHalt.runCycles 4).2).runCycles 8).2 := by
  have hreachable : Reachable (GameBoy.system .mute) onHalt := by
    rw [onHalt]
    exact reachable_loadRom (.start ⟨⟨fun _ => 0, 0⟩, 44100, by decide, rfl⟩) _ _
  have hclock : ∀ k, onHalt.clock.readings k = 0 := by
    obtain ⟨cartridge, -, -, heq⟩ := loadRom_ok (congrArg Prod.fst
      (loadRom_halt (GameBoy.new (M := .mute) ⟨fun _ => 0, 0⟩ 44100)))
    intro k
    rw [onHalt, heq]
    rfl
  obtain ⟨bus, hstarts⟩ : ∃ bus, StartsHalted onHalt bus := by
    rw [onHalt]
    exact startsHalted_loadRom _
  have hbudget : 4 = 4 + 4 * 0 := rfl
  obtain ⟨outcome, hok, -⟩ := hstarts.runCycles hbudget
  obtain ⟨hnext, hstep, -⟩ := halt_step hstarts.beforeHalt
  refine ⟨outcome, hok, (chunking hreachable hclock hok fun s hs => ?_).2⟩
  -- the only instruction is the HALT
  have hbus : onHalt.bus = some bus := hstarts.loaded
  rw [steps, hbus] at hs
  have hround : (onHalt.running bus).round 4 0 = .step 4 (onHalt.running bus).instruction :=
    Running.round_of_step hnext (by decide) (by decide) hstep
  dsimp only at hs
  rw [Running.steps, if_pos (by decide), hround] at hs
  rcases List.mem_cons.mp hs with rfl | hrest
  · exact ⟨4, hnext, hstep⟩
  · rw [Running.steps, if_neg (by decide)] at hrest
    cases hrest

end GameBoy

end Pockiva
