import Pockiva.Cpu.Dispatch
import Pockiva.MachineRuns

/-! # The delay of EI

IME and its delay counter are a small state machine of their own (`ImeState`): an
instruction acts on it by its opcode alone, and at its end the counter goes down.  Every
step of the CPU is a step of that machine (`step_imeState`), whatever the bus does.
-/
namespace Pockiva

open CpuM Transition

/-- IME and the delay after which it is set. -/
structure ImeState where
  ime : Bool
  delay : Nat
deriving DecidableEq, Repr

namespace ImeState

/-- What an instruction does to it: EI, DI and RETI. -/
def execute (m : ImeState) (opcode : Byte) : ImeState :=
  if opcode = 0xfb then if m.delay = 0 then { m with delay := 2 } else m
  else if opcode = 0xf3 then ⟨false, 0⟩
  else if opcode = 0xd9 then ⟨true, 0⟩
  else m

/-- The end of an instruction. -/
def settle (m : ImeState) : ImeState :=
  if m.delay > 0 then ⟨if m.delay - 1 = 0 then true else m.ime, m.delay - 1⟩ else m

/-- Interrupts are disabled and no EI is pending. -/
def off : ImeState := ⟨false, 0⟩

/-- Interrupts are disabled and will be enabled by the next instruction. -/
def pending : ImeState := ⟨false, 1⟩

theorem off_execute_ei : (off.execute 0xfb).settle = pending := rfl

/-- **The instruction behind EI enables interrupts**, whatever it is but DI. -/
theorem pending_execute (opcode : Byte) :
    (pending.execute opcode).settle = ⟨decide (opcode ≠ 0xf3), 0⟩ := by
  by_cases hei : opcode = 0xfb
  · subst hei
    rfl
  · by_cases hdi : opcode = 0xf3
    · subst hdi
      rfl
    · rw [execute, if_neg hei, if_neg hdi, decide_eq_true hdi]
      split <;> rfl

/-- Between two instructions the delay is at most 1. -/
theorem delay_settle_execute {m : ImeState} (h : m.delay ≤ 1) (opcode : Byte) :
    (m.execute opcode).settle.delay ≤ 1 := by
  have hexecute : (m.execute opcode).delay ≤ 2 := by
    unfold execute
    repeat' split
    · exact Nat.le_refl 2
    · omega
    · exact Nat.zero_le 2
    · exact Nat.zero_le 2
    · omega
  unfold settle
  split
  · show (m.execute opcode).delay - 1 ≤ 1
    omega
  · omega

/-- Once it is set, IME stays set under EI. -/
theorem execute_ei_of_ime {m : ImeState} (h : m.ime = true) :
    ((m.execute 0xfb).settle).ime = true := by
  have hexecute : (m.execute 0xfb).ime = true := by
    unfold execute
    rw [if_pos rfl]
    split
    · exact h
    · exact h
  unfold settle
  split
  · dsimp only
    split
    · rfl
    · exact hexecute
  · exact hexecute

end ImeState

def Cpu.imeState (c : Cpu) : ImeState := ⟨c.ime, c.imeEnableDelay⟩

variable {β : Type} [CpuBus β] {α γ : Type}

/-! ## What leaves IME alone -/

/-- An action leaves IME and its delay alone. -/
class KeepsIme (x : CpuM β α) : Prop where
  keeps : ∀ s : Exec β, (x.run s).2.cpu.imeState = s.cpu.imeState

namespace KeepsIme

instance pure (a : α) : KeepsIme (Pure.pure a : CpuM β α) := ⟨fun _ => rfl⟩

instance bind {x : CpuM β α} {f : α → CpuM β γ} [hx : KeepsIme x] [hf : ∀ a, KeepsIme (f a)] :
    KeepsIme (x >>= f) := ⟨fun s => ((hf _).keeps _).trans (hx.keeps s)⟩

instance ite {p : Prop} [Decidable p] {x y : CpuM β α} [hx : KeepsIme x] [hy : KeepsIme y] :
    KeepsIme (if p then x else y) := by
  split
  · exact hx
  · exact hy

instance cpu : KeepsIme (CpuM.cpu : CpuM β Cpu) := ⟨fun _ => rfl⟩

instance modifyRegisters (f : Registers → Registers) :
    KeepsIme (CpuM.modifyRegisters f : CpuM β Unit) := ⟨fun _ => rfl⟩

instance setMode (mode : CpuMode) :
    KeepsIme (CpuM.modifyCpu (fun c => { c with mode := mode }) : CpuM β Unit) := ⟨fun _ => rfl⟩

instance setHaltBug (haltBug : Bool) :
    KeepsIme (CpuM.modifyCpu (fun c => { c with haltBug := haltBug }) : CpuM β Unit) :=
  ⟨fun _ => rfl⟩

instance read8 (address : Word) : KeepsIme (Pockiva.read8 address : CpuM β Byte) :=
  ⟨fun _ => rfl⟩

instance write8 (address : Word) (value : Byte) :
    KeepsIme (Pockiva.write8 address value : CpuM β Unit) := ⟨fun _ => rfl⟩

instance resetDivider : KeepsIme (Pockiva.resetDivider : CpuM β Unit) := ⟨fun _ => rfl⟩

instance pendingInterrupts : KeepsIme (Pockiva.pendingInterrupts : CpuM β InterruptMask) :=
  ⟨fun _ => rfl⟩

instance setPc (value : Word) : KeepsIme (Pockiva.setPc value : CpuM β Unit) := modifyRegisters _

instance setFlags (value : Flags) : KeepsIme (Pockiva.setFlags value : CpuM β Unit) :=
  modifyRegisters _

instance setA (value : Byte) : KeepsIme (Pockiva.setA value : CpuM β Unit) := modifyRegisters _

instance fetch8 : KeepsIme (Pockiva.fetch8 : CpuM β Byte) := by
  unfold Pockiva.fetch8
  dsimp only
  infer_instance

instance fetch16 : KeepsIme (Pockiva.fetch16 : CpuM β Word) := by
  unfold Pockiva.fetch16
  infer_instance

instance push (value : Word) : KeepsIme (Pockiva.push value : CpuM β Unit) := by
  unfold Pockiva.push
  infer_instance

instance pop : KeepsIme (Pockiva.pop : CpuM β Word) := by
  unfold Pockiva.pop
  infer_instance

instance readR (code : Nat) : KeepsIme (Pockiva.readR code : CpuM β Byte) := by
  unfold Pockiva.readR
  dsimp only
  split <;> infer_instance

instance writeR (code : Nat) (value : Byte) :
    KeepsIme (Pockiva.writeR code value : CpuM β Unit) := by
  unfold Pockiva.writeR
  split <;> infer_instance

instance executeMisc (y z : Nat) : KeepsIme (Pockiva.executeMisc y z : CpuM β Bool) := by
  unfold Pockiva.executeMisc
  dsimp only
  split
  · split <;> infer_instance
  all_goals infer_instance

instance executeLoad (y z : Nat) : KeepsIme (Pockiva.executeLoad y z : CpuM β Bool) := by
  unfold Pockiva.executeLoad
  dsimp only
  infer_instance

instance executeAlu (y z : Nat) : KeepsIme (Pockiva.executeAlu y z : CpuM β Bool) := by
  unfold Pockiva.executeAlu
  infer_instance

instance executeCb (opcode : Byte) : KeepsIme (Pockiva.executeCb opcode : CpuM β Unit) := by
  unfold Pockiva.executeCb
  dsimp only
  split <;> infer_instance

end KeepsIme

/-! ## Each instruction is a step of the machine -/

/-- Every opcode of C0–FF but EI, DI and RETI. -/
theorem executeControl_keeps {y z : Nat} (hei : ¬ (y = 7 ∧ z = 3)) (hdi : ¬ (y = 6 ∧ z = 3))
    (hreti : ¬ (y = 3 ∧ z = 1)) : KeepsIme (executeControl y z : CpuM β Bool) := by
  unfold executeControl
  dsimp only
  split
  · split
    · infer_instance
    · split <;> infer_instance
  · split
    · infer_instance
    · rename_i hodd
      split
      · infer_instance
      · rename_i hhalf
        exact absurd ⟨by omega, rfl⟩ hreti
      · infer_instance
      · infer_instance
  · split
    · infer_instance
    · split <;> infer_instance
  · split
    · infer_instance
    · exact absurd ⟨rfl, rfl⟩ hdi
    · exact absurd ⟨rfl, rfl⟩ hei
    · infer_instance
  all_goals infer_instance

theorem executeBase_keeps {opcode : Byte} (hei : opcode ≠ 0xfb) (hdi : opcode ≠ 0xf3)
    (hreti : opcode ≠ 0xd9) : KeepsIme (executeBase opcode : CpuM β Bool) := by
  have hfields : ∀ o : Byte, opX o ≠ 0 → opX o ≠ 1 → opX o ≠ 2 →
      (opY o = 7 ∧ opZ o = 3 → o = 0xfb) ∧ (opY o = 6 ∧ opZ o = 3 → o = 0xf3) ∧
        (opY o = 3 ∧ opZ o = 1 → o = 0xd9) := by
    decide +kernel
  unfold executeBase executeFields
  split
  · infer_instance
  · infer_instance
  · infer_instance
  · rename_i h0 h1 h2
    obtain ⟨he, hd, hr⟩ := hfields opcode h0 h1 h2
    exact executeControl_keeps (fun h => hei (he h)) (fun h => hdi (hd h)) fun h => hreti (hr h)

theorem executeBase_imeState (opcode : Byte) (s : Exec β) :
    ((executeBase opcode).run s).2.cpu.imeState = s.cpu.imeState.execute opcode := by
  by_cases hei : opcode = 0xfb
  · subst hei
    show (if s.cpu.imeEnableDelay = 0 then { s.cpu with imeEnableDelay := 2 } else s.cpu).imeState =
      if s.cpu.imeEnableDelay = 0 then _ else _
    split <;> rfl
  by_cases hdi : opcode = 0xf3
  · subst hdi
    rfl
  by_cases hreti : opcode = 0xd9
  · subst hreti
    rfl
  have hkeeps : KeepsIme (executeBase opcode : CpuM β Bool) := executeBase_keeps hei hdi hreti
  rw [hkeeps.keeps, ImeState.execute, if_neg hei, if_neg hdi, if_neg hreti]

omit [CpuBus β] in
theorem applyImeDelay_imeState (s : Exec β) :
    (applyImeDelay.run s).2.cpu.imeState = s.cpu.imeState.settle := by
  show (if s.cpu.imeEnableDelay > 0 then _ else s.cpu : Cpu).imeState =
    if s.cpu.imeEnableDelay > 0 then _ else _
  split <;> rfl

theorem afterOpcode_imeState (s : Exec β) : (afterOpcode s).cpu.imeState = s.cpu.imeState := by
  rw [Cpu.imeState, Cpu.imeState, afterOpcode, Cpu.fetched_ime, Cpu.fetched_imeEnableDelay]

/-- The opcode is one of an instruction. -/
def Legal (opcode : Byte) : Prop := (decode opcode false).illegal = false

instance (opcode : Byte) : Decidable (Legal opcode) := inferInstanceAs (Decidable (_ = _))

/-- **An instruction acts on IME by its opcode alone.** -/
theorem executeInstruction_imeState {s : Exec β} (start : Nat) (hlegal : Legal (fetchedOpcode s)) :
    ((executeInstruction start).run s).2.cpu.imeState =
      (s.cpu.imeState.execute (fetchedOpcode s)).settle := by
  by_cases hcb : fetchedOpcode s = 0xcb
  · simp only [executeInstruction, run_bind, run_cpu, run_fetch8_eq, hcb, if_true, run_elapsed,
      run_pure, applyImeDelay_imeState, padTo_cpu]
    rw [(KeepsIme.executeCb _).keeps, afterOpcode_imeState, afterOpcode_imeState]
    rfl
  · have hl : (decode (fetchedOpcode s) false).illegal = false := hlegal
    simp only [executeInstruction, run_bind, run_cpu, run_fetch8_eq, hcb, hl, if_false,
      Bool.false_eq_true, run_elapsed, run_pure, applyImeDelay_imeState, padTo_cpu]
    rw [executeBase_imeState, afterOpcode_imeState]

/-- **Every step of the CPU is a step of the machine of IME**, or a dispatch. -/
theorem step_imeState (s : Exec β) :
    (Executes s.cpu s.bus ∧ Legal (fetchedOpcode (awoken s)) ∧
      (step.run s).2.cpu.imeState =
        (s.cpu.imeState.execute (fetchedOpcode (awoken s))).settle) ∨
    (s.cpu.ime = true ∧ (step.run s).2.cpu.imeState = .off) ∨
    (step.run s).2.cpu.imeState = s.cpu.imeState := by
  rcases step_cases s with ⟨i, hime, hp⟩ | ⟨hd, hm, hp⟩ | ⟨hd, hm, hp⟩ | hx
  · rw [step_dispatched hime hp]
    exact .inr (.inl ⟨hime, rfl⟩)
  · rw [step_not_dispatch hd, if_pos ⟨hm, hp⟩]
    exact .inr (.inr rfl)
  · rw [step_not_dispatch hd, if_neg (by simp [hm]), if_pos ⟨hm, hp⟩]
    exact .inr (.inr rfl)
  · rw [step_instruction hx]
    cases hl : (decode (fetchedOpcode (awoken s)) false).illegal with
    | false => exact .inl ⟨hx, hl, executeInstruction_imeState _ hl⟩
    | true =>
      have hcb : fetchedOpcode (awoken s) ≠ 0xcb := by
        intro hcb
        rw [hcb] at hl
        exact absurd hl (by decide)
      rw [executeInstruction_illegal _ hcb hl]
      exact .inr (.inr (afterOpcode_imeState (awoken s)))

/-- The step executes the instruction `opcode`. -/
structure ExecutesOpcode (s : Exec β) (opcode : Byte) : Prop where
  executes : Executes s.cpu s.bus
  opcode : fetchedOpcode (awoken s) = opcode

theorem ExecutesOpcode.imeState {s : Exec β} {opcode : Byte} (h : ExecutesOpcode s opcode)
    (hlegal : Legal opcode) :
    (step.run s).2.cpu.imeState = (s.cpu.imeState.execute opcode).settle := by
  have hinstruction := executeInstruction_imeState (s := awoken s) (CpuBus.elapsedTCycles s.bus)
    (by rwa [h.opcode])
  rw [h.opcode] at hinstruction
  rw [step_instruction h.executes]
  exact hinstruction

/-! ## Runs -/

/-- **Between two steps the delay is at most 1.** -/
theorem delay_of_reachable {s : Exec β} (h : Reachable (Cpu.system β) s) :
    s.cpu.imeEnableDelay ≤ 1 := by
  refine h.invariant (P := fun s => s.cpu.imeState.delay ≤ 1) ?_ ?_
  · intro s hs
    rw [show s.cpu = .postBootDmg from hs]
    exact Nat.zero_le 1
  · rintro s (_ | bus) t hs hstep
    · obtain rfl : t = (step.run s).2 := hstep
      rcases step_imeState s with ⟨-, -, h⟩ | ⟨-, h⟩ | h
      · rw [h]
        exact ImeState.delay_settle_execute hs _
      · rw [h]
        exact Nat.zero_le 1
      · rw [h]
        exact hs
    · obtain rfl : t = { s with bus := bus } := hstep
      exact hs

/-- From `s` to `t` by `n` steps that each execute EI, with anything happening to the bus between
them. -/
inductive EiRun (s : Exec β) : Nat → Exec β → Prop where
  | nil : EiRun s 0 s
  | ei {n : Nat} {t : Exec β} (h : EiRun s n t) (bus : β)
      (hei : ExecutesOpcode { t with bus := bus } 0xfb) :
      EiRun s (n + 1) (step.run { t with bus := bus }).2

/-- **A run of EIs enables interrupts with its second one.** -/
theorem EiRun.imeState {s t : Exec β} {n : Nat} (h : EiRun s n t) (hs : s.cpu.imeState = .off) :
    (n = 0 → t.cpu.imeState = .off) ∧ (n = 1 → t.cpu.imeState = .pending) ∧
      (2 ≤ n → t.cpu.ime = true) := by
  induction h with
  | nil => exact ⟨fun _ => hs, nofun, fun h => absurd h (by decide)⟩
  | @ei n t h bus hei ih =>
    obtain ⟨hzero, hone, hmore⟩ := ih
    have hstep := hei.imeState (by decide : Legal 0xfb)
    refine ⟨nofun, fun hn => ?_, fun hn => ?_⟩
    · rw [hstep, hzero (Nat.succ.inj hn)]
      exact ImeState.off_execute_ei
    · have hime : (step.run { t with bus := bus }).2.cpu.imeState.ime = true := by
        rcases Nat.lt_or_ge n 2 with hlt | hge
        · rw [hstep, hone (by omega), ImeState.pending_execute]
          rfl
        · rw [hstep]
          exact ImeState.execute_ei_of_ime (hmore hge)
      exact hime

/-! ## The instruction behind EI -/

/-- EI leaves the CPU running. -/
theorem mode_of_ei {s : Exec β} (h : ExecutesOpcode s 0xfb) :
    (step.run s).2.cpu.mode = .running := by
  have hei : ∀ t : Exec β, ((executeBase 0xfb).run t).2.cpu.mode = t.cpu.mode := by
    intro t
    show (if t.cpu.imeEnableDelay = 0 then _ else t.cpu : Cpu).mode = t.cpu.mode
    split <;> rfl
  have hsettle : ∀ t : Exec β, (applyImeDelay.run t).2.cpu.mode = t.cpu.mode := by
    intro t
    show (if t.cpu.imeEnableDelay > 0 then _ else t.cpu : Cpu).mode = t.cpu.mode
    split <;> rfl
  have hcb : ¬ (0xfb : Byte) = 0xcb := by decide
  have hl : (decode (0xfb : Byte) false).illegal = false := by decide
  rw [step_instruction h.executes]
  simp only [executeInstruction, run_bind, run_cpu, run_fetch8_eq, h.opcode, if_neg hcb, hl,
    if_false, Bool.false_eq_true, run_elapsed, run_pure, hsettle, padTo_cpu, hei]
  exact Cpu.fetched_mode _

/-- **What follows an EI** executed at `s`. -/
structure EiLaw (s : Exec β) : Prop where
  /-- Interrupts stay disabled until the next instruction has ended. -/
  disabled : (step.run s).2.cpu.ime = false
  /-- The next step executes an instruction, so it dispatches nothing, and when it has ended
  interrupts are enabled, unless it is DI. -/
  next : ∀ bus : β, ∃ opcode, ExecutesOpcode ⟨(step.run s).2.cpu, bus⟩ opcode ∧
    (Legal opcode → (step.run ⟨(step.run s).2.cpu, bus⟩).2.cpu.imeState =
      ⟨decide (opcode ≠ 0xf3), 0⟩)
  run : ∀ n t, EiRun s n t → (t.cpu.ime = true ↔ 2 ≤ n)

theorem eiLaw {s : Exec β} (hei : ExecutesOpcode s 0xfb) (hs : s.cpu.imeState = .off) :
    EiLaw s := by
  have hpending : (step.run s).2.cpu.imeState = .pending := by
    rw [hei.imeState (by decide), hs]
    exact ImeState.off_execute_ei
  have hime : (step.run s).2.cpu.ime = false := congrArg ImeState.ime hpending
  refine ⟨hime, fun bus => ?_, fun n t hrun => ?_⟩
  · have hnext : ExecutesOpcode (⟨(step.run s).2.cpu, bus⟩ : Exec β) _ :=
      ⟨⟨.inl hime, .inl (mode_of_ei hei)⟩, rfl⟩
    refine ⟨_, hnext, fun hlegal => ?_⟩
    rw [hnext.imeState hlegal, hpending]
    exact ImeState.pending_execute _
  · obtain ⟨hzero, hone, hmore⟩ := hrun.imeState hs
    refine ⟨fun ht => Nat.le_of_not_lt fun hlt => ?_, hmore⟩
    rcases Nat.lt_or_ge n 1 with h0 | h1
    · have hoff : t.cpu.ime = false := congrArg ImeState.ime (hzero (by omega))
      exact absurd (ht.symm.trans hoff) (by decide)
    · have hoff : t.cpu.ime = false := congrArg ImeState.ime (hone (by omega))
      exact absurd (ht.symm.trans hoff) (by decide)

/-! ## The machine -/

variable {M : MixerModel}

/-- A run of the machine is a run of its CPU. -/
theorem Running.loop_reachable {budget rounds executed : Nat} {r : Running M}
    (h : Reachable (Cpu.system (MachineBus M)) r.exec) :
    Reachable (Cpu.system (MachineBus M)) (r.loop budget rounds executed).2.exec := by
  induction rounds generalizing executed r with
  | zero => exact h
  | succ rounds ih =>
    have htimed : Reachable (Cpu.system (MachineBus M)) r.timed.exec :=
      h.step (i := some r.timed.exec.bus) rfl
    have hstep : Reachable (Cpu.system (MachineBus M)) (step.run r.timed.exec).2 :=
      htimed.step (i := none) rfl
    rw [loop]
    split
    · unfold round
      dsimp only
      cases nextStepTCycles r.timed.exec.cpu r.timed.exec.bus with
      | error e => exact htimed
      | ok next =>
        dsimp only
        by_cases hstop : next = 0 ∨ next > budget - executed
        · rw [if_pos hstop]
          exact htimed
        · rw [if_neg hstop]
          cases (step.run r.timed.exec).1 with
          | error e => exact hstep
          | ok tCycles => exact ih hstep
    · exact h

/-- The CPU of a core on any bus is a state of the CPU. -/
theorem GameBoy.cpu_reachable {g : GameBoy M} (h : Reachable (GameBoy.system M) g)
    (bus : MachineBus M) : Reachable (Cpu.system (MachineBus M)) ⟨g.cpu, bus⟩ := by
  refine h.invariant (P := fun g =>
    ∀ bus, Reachable (Cpu.system (MachineBus M)) ⟨g.cpu, bus⟩) ?_ ?_ bus
  · rintro g ⟨clock, sampleRate, -, rfl⟩ bus
    exact .start rfl
  · rintro g op t hg rfl bus
    cases op with
    | loadRom rom persisted =>
      simp only [call, loadRom]
      split
      · exact hg bus
      · exact .start rfl
    | reset =>
      simp only [call, GameBoy.reset]
      split
      · exact hg bus
      · exact .start rfl
    | runCycles budget =>
      simp only [call, runCycles]
      split
      · exact hg bus
      · rename_i b _
        exact (Running.loop_reachable (r := g.running b) (hg b)).step (i := some bus) rfl
    | setInput source state => exact hg bus
    | clearInputSource source => exact hg bus
    | takeFrame =>
      simp only [call, takeFrame]
      split <;> exact hg bus
    | drainAudio =>
      simp only [call, drainAudio]
      split <;> exact hg bus
    | batteryState =>
      simp only [call, batteryState]
      split <;> exact hg bus

/-- **Main result.**  EI enables interrupts with one instruction's delay, on every bus and
whatever interrupts arrive; DI disables them and RETI enables them at once; and the delay is at
most 1 between the steps of any run, also of the machine. -/
theorem ei_delay {s : Exec β} (hei : ExecutesOpcode s 0xfb) (hime : s.cpu.ime = false)
    (hdelay : s.cpu.imeEnableDelay = 0) :
    EiLaw s ∧
    (∀ t : Exec β, ExecutesOpcode t 0xf3 →
      (step.run t).2.cpu.ime = false ∧ (step.run t).2.cpu.imeEnableDelay = 0) ∧
    (∀ t : Exec β, ExecutesOpcode t 0xd9 →
      (step.run t).2.cpu.ime = true ∧ (step.run t).2.cpu.imeEnableDelay = 0) ∧
    (∀ t : Exec β, Reachable (Cpu.system β) t → t.cpu.imeEnableDelay ≤ 1) ∧
    (∀ (M : MixerModel) (g : GameBoy M), Reachable (GameBoy.system M) g →
      g.cpu.imeEnableDelay ≤ 1) := by
  have hoff : s.cpu.imeState = .off := by rw [Cpu.imeState, hime, hdelay, ImeState.off]
  refine ⟨eiLaw hei hoff, fun t ht => ?_, fun t ht => ?_, fun t ht => delay_of_reachable ht, ?_⟩
  · have hdi : (step.run t).2.cpu.imeState = .off := ht.imeState (by decide)
    exact ⟨congrArg ImeState.ime hdi, congrArg ImeState.delay hdi⟩
  · have hreti : (step.run t).2.cpu.imeState = ⟨true, 0⟩ := ht.imeState (by decide)
    exact ⟨congrArg ImeState.ime hreti, congrArg ImeState.delay hreti⟩
  · intro M g hg
    exact delay_of_reachable (GameBoy.cpu_reachable hg (.new nopCartridge 44100 0))

/-- EI and HALT with the timer interrupt pending: the HALT ends with interrupts enabled. -/
theorem ei_delay_eiHalt : EiLaw (⟨.postBootDmg, TestBus.eiThen 0x76⟩ : Exec TestBus) :=
  (ei_delay ⟨⟨.inl rfl, .inl rfl⟩, rfl⟩ rfl rfl).1

end Pockiva
