import Pockiva.InputLines
import Pockiva.MachineRuns

/-! # The held buttons and the joypad of the machine

The machine keeps what is held twice: per source in its input matrix, and as a union,
with the visible lines, in the joypad register of its bus.  `input_coherence` states that
the two agree after any calls and at any point of a run, what FF00 reads, and that the
joypad interrupt is requested exactly when a visible line falls.
-/
namespace Pockiva

open Transition JoypadRegister

variable {M : MixerModel}

namespace MachineBus

/-! ## The flag of the joypad interrupt -/

/-- What an operation makes of the flag without a request: a write to IF, the
acknowledgement of the interrupt, a restart. -/
def directFlag (b : MachineBus M) : Op → Option Bool
  | .cpu (.write8 address value) =>
    if address = 0xff0f ∧ b.writeAllowed address = true then some (value &&& 0x10 != 0) else none
  | .cpu (.acknowledgeInterrupt i) => if i = .joypad then some false else none
  | .reset _ _ => some false
  | _ => none

/-- The interrupt is requested exactly when a visible line falls; no line falls in an
operation that sets or clears the flag itself. -/
structure RequestsOnFall (b c : MachineBus M) (direct : Option Bool) : Prop where
  requested : direct = none →
    (c.joypadFlagged = true ↔
      b.joypadFlagged = true ∨ LineFalls b.joypad.visibleLow c.joypad.visibleLow)
  direct : ∀ flag, direct = some flag →
    c.joypadFlagged = flag ∧ ¬ LineFalls b.joypad.visibleLow c.joypad.visibleLow

namespace RequestsOnFall
variable {b c : MachineBus M}

/-- An operation that touches neither the flag nor the register. -/
theorem quiet (hflag : c.joypadFlagged = b.joypadFlagged) (hjoypad : c.joypad = b.joypad) :
    RequestsOnFall b c none := by
  refine ⟨?_, nofun⟩
  intro _
  rw [hflag, hjoypad]
  exact ⟨.inl, fun h => h.resolve_right (not_lineFalls_self _)⟩

/-- An operation on the register. -/
theorem ofRequest {j : JoypadRegister} {requested : InterruptMask}
    (hjoypad : c.joypad = j) (hflags : c.interrupts = b.interrupts.request requested)
    (h : requested.has .joypad = true ↔ LineFalls b.joypad.visibleLow j.visibleLow) :
    RequestsOnFall b c none := by
  refine ⟨?_, nofun⟩
  intro _
  rw [joypadFlagged, joypadFlagged, hflags, request_flagged, Bool.or_eq_true, h, hjoypad]

theorem direct_of {flag : Bool} (hflag : c.joypadFlagged = flag)
    (hjoypad : ¬ LineFalls b.joypad.visibleLow c.joypad.visibleLow) :
    RequestsOnFall b c (some flag) := by
  refine ⟨nofun, ?_⟩
  intro flag hsome
  cases hsome
  exact ⟨hflag, hjoypad⟩

end RequestsOnFall

/-- A request of a device other than the joypad. -/
theorem flagged_of_request {r : InterruptRegisters} {requested : InterruptMask}
    (h : requested.has .joypad = false) :
    (r.request requested).flags.has .joypad = r.flags.has .joypad := by
  rw [request_flagged, h, Bool.or_false]

theorem has_fromBits_joypad (value : Byte) :
    (InterruptMask.fromBits value).has .joypad = (value &&& 0x10 != 0) := by
  revert value
  decide

/-- A write to IF. -/
theorem writeUnclocked_if (b : MachineBus M) (value : Byte) :
    b.writeUnclocked 0xff0f value = { b with interrupts := b.interrupts.writeIf value } := by
  rw [writeUnclocked, if_neg (by decide), if_neg (by decide), if_neg (by decide),
    if_neg (by decide), if_neg (by decide), if_neg (by decide), if_neg (by decide),
    if_neg (by decide), if_pos rfl]

/-- **A write**, by the device its address belongs to. -/
theorem writeUnclocked_joypad (b : MachineBus M) (h : b.joypad.Coherent) (address : Word)
    (value : Byte) :
    (b.writeUnclocked address value).joypad.Coherent ∧
      (b.writeUnclocked address value).joypad.state = b.joypad.state ∧
      RequestsOnFall b (b.writeUnclocked address value)
        (if address = 0xff0f then some (value &&& 0x10 != 0) else none) := by
  by_cases hif : address = 0xff0f
  · subst hif
    rw [writeUnclocked_if, if_pos rfl]
    exact ⟨h, rfl, .direct_of (has_fromBits_joypad value) (not_lineFalls_self _)⟩
  rw [if_neg hif]
  have hcase := b.writeUnclocked_cases address value
  generalize b.writeUnclocked address value = c at hcase
  cases hcase with
  | video => exact ⟨h, rfl, .quiet (flagged_of_request (Ppu.write_requested _ _ _)) rfl⟩
  | dma => exact ⟨h, rfl, .quiet (flagged_of_request (Ppu.write_requested _ _ _)) rfl⟩
  | joypad =>
    obtain ⟨hcoherent, hrequested⟩ := h.write value
    exact ⟨hcoherent, rfl, .ofRequest rfl rfl hrequested⟩
  | serial => exact ⟨h, rfl, .quiet (flagged_of_request (SerialPort.write_requested _ _ _)) rfl⟩
  | interruptFlags heq => exact absurd heq hif
  | _ => exact ⟨h, rfl, .quiet rfl rfl⟩

/-! ## Every operation -/

namespace RequestsOnFall
variable {b c d : MachineBus M} {direct : Option Bool}

/-- An M-cycle before the step. -/
theorem after_tick (h : RequestsOnFall b.tickMCycle c direct) : RequestsOnFall b c direct := by
  obtain ⟨hrequested, hdirect⟩ := h
  rw [tickMCycle_flagged, tickMCycle_joypad] at hrequested
  rw [tickMCycle_joypad] at hdirect
  exact ⟨hrequested, hdirect⟩

/-- An M-cycle after the step. -/
theorem before_tick (h : RequestsOnFall b c direct) : RequestsOnFall b c.tickMCycle direct := by
  obtain ⟨hrequested, hdirect⟩ := h
  refine ⟨?_, ?_⟩
  · rw [tickMCycle_flagged, tickMCycle_joypad]
    exact hrequested
  · rw [tickMCycle_flagged, tickMCycle_joypad]
    exact hdirect

theorem tick (b : MachineBus M) : RequestsOnFall b b.tickMCycle none :=
  .quiet b.tickMCycle_flagged b.tickMCycle_joypad

end RequestsOnFall

/-- The operation shows the register other buttons. -/
def Op.ShowsInput : Op → Prop
  | .setJoypadState _ => True
  | .reset _ _ => True
  | _ => False

/-- What an operation does to the joypad. -/
structure JoypadStep (b : MachineBus M) (op : Op) : Prop where
  coherent : (b.apply op).joypad.Coherent
  state : ¬ op.ShowsInput → (b.apply op).joypad.state = b.joypad.state
  requests : RequestsOnFall b (b.apply op) (b.directFlag op)

theorem write8_joypad (b : MachineBus M) (h : b.joypad.Coherent) (address : Word) (value : Byte) :
    (b.write8 address value).joypad.Coherent ∧
      (b.write8 address value).joypad.state = b.joypad.state ∧
      RequestsOnFall b (b.write8 address value) (b.directFlag (.cpu (.write8 address value))) := by
  have hticked : b.tickMCycle.joypad.Coherent := by
    rw [tickMCycle_joypad]
    exact h
  unfold write8 directFlag
  dsimp only
  by_cases hallowed : b.writeAllowed address = true
  · rw [if_pos hallowed]
    have hdirect : (if address = 0xff0f ∧ b.writeAllowed address = true then
        some (value &&& 0x10 != 0) else none) =
        if address = 0xff0f then some (value &&& 0x10 != 0) else none := by
      simp only [hallowed, and_true]
    rw [hdirect]
    by_cases hearly : writesEarly address
    · obtain ⟨hcoherent, hstate, hrequests⟩ := b.writeUnclocked_joypad h address value
      rw [if_pos hearly]
      refine ⟨?_, ?_, hrequests.before_tick⟩
      · rw [tickMCycle_joypad]
        exact hcoherent
      · rw [tickMCycle_joypad]
        exact hstate
    · obtain ⟨hcoherent, hstate, hrequests⟩ :=
        b.tickMCycle.writeUnclocked_joypad hticked address value
      rw [if_neg hearly]
      refine ⟨hcoherent, ?_, hrequests.after_tick⟩
      rw [hstate, tickMCycle_joypad]
  · rw [if_neg hallowed, if_neg fun hif => hallowed hif.2]
    exact ⟨hticked, by rw [tickMCycle_joypad], .tick b⟩

/-- **Every operation keeps the register coherent and requests on a fall.** -/
theorem joypadStep (b : MachineBus M) (h : b.joypad.Coherent) (op : Op) : JoypadStep b op := by
  have hticked : b.tickMCycle.joypad.Coherent ∧ b.tickMCycle.joypad.state = b.joypad.state := by
    rw [tickMCycle_joypad]
    exact ⟨h, rfl⟩
  cases op with
  | cpu op =>
    cases op with
    | read8 address => exact ⟨hticked.1, fun _ => hticked.2, .tick b⟩
    | write8 address value =>
      obtain ⟨hcoherent, hstate, hrequests⟩ := b.write8_joypad h address value
      exact ⟨hcoherent, fun _ => hstate, hrequests⟩
    | idleMCycle => exact ⟨hticked.1, fun _ => hticked.2, .tick b⟩
    | acknowledgeInterrupt i =>
      have hflag := InterruptMask.has_without_of b.interrupts.flags i .joypad
      refine ⟨h, fun _ => rfl, ?_⟩
      unfold directFlag
      dsimp only
      by_cases hi : i = .joypad
      · rw [if_pos hi]
        refine .direct_of ?_ (not_lineFalls_self _)
        rw [decide_eq_false (fun hne => hne hi), Bool.and_false] at hflag
        exact hflag
      · rw [if_neg hi]
        refine .quiet ?_ rfl
        rw [decide_eq_true hi, Bool.and_true] at hflag
        exact hflag
    | resetDivider =>
      exact ⟨h, fun _ => rfl, .quiet (flagged_of_request (InterruptMask.has_empty _)) rfl⟩
  | setUnixSeconds now => exact ⟨h, fun _ => rfl, .quiet rfl rfl⟩
  | setJoypadState state =>
    obtain ⟨hcoherent, hrequested⟩ := h.setState state
    exact ⟨hcoherent, fun hnot => absurd trivial hnot, .ofRequest rfl rfl hrequested⟩
  | reset now state =>
    have hflag : (b.reset now state).joypadFlagged = false :=
      (flagged_of_request (setState_initial_requested state)).trans (InterruptMask.has_empty _)
    exact ⟨(coherent_initial.setState state).1, fun hnot => absurd trivial hnot,
      .direct_of hflag (not_lineFalls_initial _ state)⟩
  | takeFrame => exact ⟨h, fun _ => rfl, .quiet rfl rfl⟩
  | drainAudio => exact ⟨h, fun _ => rfl, .quiet rfl rfl⟩

/-- **Whatever the program does, the register stays coherent and the held buttons are
the ones it was shown.** -/
theorem run_joypad (b : MachineBus M) (h : b.joypad.Coherent) {ops : List Op}
    (hops : ∀ op ∈ ops, ¬ op.ShowsInput) :
    (b.run ops).joypad.Coherent ∧ (b.run ops).joypad.state = b.joypad.state := by
  induction ops generalizing b with
  | nil => exact ⟨h, rfl⟩
  | cons op ops ih =>
    have hstep := b.joypadStep h op
    obtain ⟨hcoherent, hstate⟩ := ih (b.apply op) hstep.coherent
      fun op hop => hops op (List.mem_cons_of_mem _ hop)
    exact ⟨hcoherent, hstate.trans (hstep.state (hops op List.mem_cons_self))⟩

end MachineBus

/-! ## The calls of the core -/

namespace GameBoy

/-- What a source holds after a call. -/
def heldAfter (source : InputSourceId) (held : JoypadState) : Op → JoypadState
  | .setInput owner state => if source = owner then state else held
  | .clearInputSource owner => if source = owner then .released else held
  | _ => held

/-- The latest uncleared state of a source after some calls. -/
def latest (source : InputSourceId) (ops : List Op) : JoypadState :=
  ops.foldl (heldAfter source) .released

/-- The matrix has what was set last, and the bus shows the union of it. -/
structure Coherent (g : GameBoy M) (ops : List Op) : Prop where
  distinct : g.inputs.Distinct
  held : ∀ source, g.inputs.held source = latest source ops
  bus : ∀ b, g.bus = some b → b.joypad.Coherent ∧ b.joypad.state = g.inputs.effective

namespace Coherent
variable {g : GameBoy M} {ops : List Op}

theorem new (clock : Clock) (sampleRate : Nat) :
    (GameBoy.new clock sampleRate : GameBoy M).Coherent [] where
  distinct := InputMatrix.distinct_empty
  held _ := rfl
  bus _ h := nomatch h

/-- The calls that do not touch the matrix. -/
theorem keep (h : g.Coherent ops) {k : GameBoy M} {op : Op}
    (hinputs : k.inputs = g.inputs) (hop : ∀ source held, heldAfter source held op = held)
    (hbus : ∀ b, k.bus = some b → b.joypad.Coherent ∧ b.joypad.state = g.inputs.effective) :
    k.Coherent (ops ++ [op]) := by
  refine ⟨?_, ?_, ?_⟩
  · rw [hinputs]
    exact h.distinct
  · intro source
    rw [hinputs, h.held, latest, latest, List.foldl_append, List.foldl_cons, List.foldl_nil, hop]
  · rw [hinputs]
    exact hbus

/-- The bus is shown the matrix after a change of it. -/
theorem showInputs (h : g.Coherent ops) {inputs : InputMatrix} {op : Op}
    (hdistinct : inputs.Distinct)
    (hheld : ∀ source, inputs.held source = heldAfter source (g.inputs.held source) op) :
    (GameBoy.showInputs { g with inputs := inputs }).Coherent (ops ++ [op]) := by
  refine ⟨hdistinct, ?_, ?_⟩
  · intro source
    rw [latest, List.foldl_append, List.foldl_cons, List.foldl_nil, ← latest, ← h.held]
    exact hheld source
  · intro b hb
    obtain ⟨before, hbefore, rfl⟩ := Option.map_eq_some_iff.mp hb
    exact ⟨((h.bus before hbefore).1.setState _).1, rfl⟩

/-- **Every call keeps the two copies together.** -/
theorem call (h : g.Coherent ops) (op : Op) : (g.call op).2.Coherent (ops ++ [op]) := by
  cases op with
  | setInput source state =>
    refine h.showInputs (h.distinct.set source state) ?_
    exact fun other => g.inputs.held_set source other state
  | clearInputSource source =>
    refine h.showInputs (h.distinct.clear source) ?_
    exact fun other => g.inputs.held_clear source other
  | loadRom rom persisted =>
    refine h.keep ?_ (fun _ _ => rfl) ?_
    · simp only [GameBoy.call, loadRom]
      split <;> rfl
    · intro b hb
      simp only [GameBoy.call, loadRom] at hb
      split at hb
      · exact h.bus b hb
      · cases hb
        exact ⟨(coherent_initial.setState _).1, rfl⟩
  | reset =>
    refine h.keep ?_ (fun _ _ => rfl) ?_
    · simp only [GameBoy.call, GameBoy.reset]
      split <;> rfl
    · intro b hb
      simp only [GameBoy.call, GameBoy.reset] at hb
      split at hb
      · exact h.bus b hb
      · cases hb
        exact ⟨(coherent_initial.setState _).1, rfl⟩
  | runCycles budget =>
    refine h.keep ?_ (fun _ _ => rfl) ?_
    · simp only [GameBoy.call, runCycles]
      split <;> rfl
    · intro b hb
      simp only [GameBoy.call, runCycles] at hb
      split at hb
      · exact h.bus b hb
      · rename_i before hbefore
        cases hb
        -- The program writes the selection of the joypad and never its state.
        refine Running.loop_invariant
          (P := fun c => c.joypad.Coherent ∧ c.joypad.state = g.inputs.effective)
          (fun _ _ hc => hc) ?_ (h.bus before hbefore)
        intro c d hmoved hc
        refine Driven.invariant (P := fun c => c.joypad.Coherent ∧
          c.joypad.state = g.inputs.effective) hmoved.driven hc ?_
        rintro e op ⟨hcoherent, hstate⟩
        have hstep := e.joypadStep hcoherent (.cpu op)
        exact ⟨hstep.coherent, (hstep.state id).trans hstate⟩
  | takeFrame =>
    refine h.keep ?_ (fun _ _ => rfl) ?_
    · simp only [GameBoy.call, GameBoy.takeFrame]
      split <;> rfl
    · intro b hb
      simp only [GameBoy.call, GameBoy.takeFrame] at hb
      split at hb
      · exact h.bus b hb
      · rename_i before hbefore
        cases hb
        exact h.bus before hbefore
  | drainAudio =>
    refine h.keep ?_ (fun _ _ => rfl) ?_
    · simp only [GameBoy.call, GameBoy.drainAudio]
      split <;> rfl
    · intro b hb
      simp only [GameBoy.call, GameBoy.drainAudio] at hb
      split at hb
      · exact h.bus b hb
      · rename_i before hbefore
        cases hb
        exact h.bus before hbefore
  | batteryState =>
    refine h.keep ?_ (fun _ _ => rfl) ?_
    · simp only [GameBoy.call, GameBoy.batteryState]
      split <;> rfl
    · intro b hb
      simp only [GameBoy.call, GameBoy.batteryState] at hb
      split at hb <;> exact h.bus b hb

end Coherent

/-- **The two copies agree after any calls.** -/
theorem coherent_of_run {clock : Clock} {sampleRate : Nat} {ops : List Op} {g : GameBoy M}
    (h : Run (GameBoy.system M) (GameBoy.new clock sampleRate) ops g) : g.Coherent ops := by
  induction h with
  | nil => exact .new clock sampleRate
  | snoc _ hstep ih =>
    cases hstep
    exact ih.call _

/-! ## Input coherence -/

/-- The source that a call changes. -/
def Op.source : Op → Option InputSourceId
  | .setInput source _ => some source
  | .clearInputSource source => some source
  | _ => none

/-- The joypad of a bus whose program is at any point, while `held` is held. -/
structure JoypadLaw (held : JoypadState) (c : MachineBus M) : Prop where
  state : c.joypad.state = held
  select : c.joypad.select &&& 0x30 = c.joypad.select
  visibleLow : c.joypad.visibleLow = visible c.joypad.select held
  register : c.readUnclocked 0xff00 = 0xc0 ||| c.joypad.select ||| visible c.joypad.select held
  /-- The low bits are the lines of the selected rows. -/
  lines : ∀ line < 4, (c.readUnclocked 0xff00).getLsbD line = true ↔
    ¬ LineLow c.joypad.select held line
  /-- The CPU reads the register, unless OAM DMA has the bus. -/
  read : (CpuBus.read8 c 0xff00).1 = if c.dma.active then 0xff else c.readUnclocked 0xff00
  requests : ∀ op, MachineBus.RequestsOnFall c (c.apply op) (c.directFlag op)

theorem joypadLaw {c : MachineBus M} (h : c.joypad.Coherent) : JoypadLaw c.joypad.state c := by
  have hregister : c.readUnclocked 0xff00 =
      0xc0 ||| c.joypad.select ||| visible c.joypad.select c.joypad.state := by
    rw [← h.read, MachineBus.readUnclocked, if_neg (by decide), if_neg (by decide),
      if_neg (by decide), if_neg (by decide), if_pos rfl]
  refine ⟨rfl, h.select, h.visibleLow, hregister, ?_, ?_, fun op => (c.joypadStep h op).requests⟩
  · intro line hline
    have hhigh : (0xc0 : Byte).getLsbD line = false := by
      revert line
      decide
    have hselect : c.joypad.select.getLsbD line = false := by
      rw [← h.select, BitVec.getLsbD_and]
      have hmask : (0x30 : Byte).getLsbD line = false := by
        revert line
        decide
      rw [hmask, Bool.and_false]
    rw [hregister, BitVec.getLsbD_or, BitVec.getLsbD_or, hhigh, hselect, Bool.false_or,
      Bool.false_or, visible_getLsbD _ _ (by omega)]
    exact and_iff_right hline
  · have hhram : ¬ inHram 0xff00 := by decide
    show (if c.dma.active = true ∧ ¬ inHram 0xff00 then (0xff : Byte)
      else c.readUnclocked 0xff00) = _
    simp only [hhram, not_false_eq_true, and_true]

/-- Input coherence, after the calls `ops`. -/
structure InputCoherent (g : GameBoy M) (ops : List Op) : Prop where
  /-- A button is held if some source holds it. -/
  union : ∀ button, g.inputs.effective.isPressed button = true ↔
    ∃ source, (latest source ops).isPressed button = true
  /-- The bus shows the union, wherever its program is. -/
  bus : ∀ b, g.bus = some b → ∀ during : List MachineBus.Op,
    (∀ op ∈ during, ¬ op.ShowsInput) → JoypadLaw g.inputs.effective (b.run during)
  /-- A change of one source leaves what another one holds. -/
  kept : ∀ op source, op.source = some source → ∀ other, other ≠ source → ∀ button,
    (latest other ops).isPressed button = true →
      (g.call op).2.inputs.effective.isPressed button = true
  /-- Changes of different sources commute. -/
  commute : ∀ op op' source source', op.source = some source → op'.source = some source' →
    source ≠ source' →
      ((g.call op).2.call op').2.inputs.effective = ((g.call op').2.call op).2.inputs.effective ∧
      ((g.call op).2.call op').2.bus.map MachineBus.joypad =
        ((g.call op').2.call op).2.bus.map MachineBus.joypad
  /-- A change of a source requests the interrupt exactly when a line falls. -/
  changed : ∀ op, op.source ≠ none → ∀ b, g.bus = some b →
    ∃ c, (g.call op).2.bus = some c ∧ MachineBus.RequestsOnFall b c none
  /-- A restart and a load let no line fall and request nothing. -/
  restarted : ∀ b, g.bus = some b →
    ∃ c, g.reset.2.bus = some c ∧ MachineBus.RequestsOnFall b c (some false)
  loaded : ∀ rom persisted metadata, (g.loadRom rom persisted).1 = .ok metadata →
    ∃ c, (g.loadRom rom persisted).2.bus = some c ∧ c.joypadFlagged = false ∧
      c.joypad.visibleLow = 0x0f

/-- A call that changes a source shows the bus the new union. -/
theorem call_of_source (g : GameBoy M) {op : Op} (h : op.source ≠ none) :
    (g.call op).2.bus =
      g.bus.map fun b => b.setJoypadState (g.call op).2.inputs.effective := by
  cases op with
  | setInput source state => rfl
  | clearInputSource source => rfl
  | _ => exact absurd rfl h

/-- A change of one source leaves the other sources alone. -/
theorem heldAfter_other {op : Op} {source other : InputSourceId} (hop : op.source = some source)
    (h : other ≠ source) (held : JoypadState) : heldAfter other held op = held := by
  cases op with
  | setInput owner state =>
    cases hop
    exact if_neg h
  | clearInputSource owner =>
    cases hop
    exact if_neg h
  | _ => cases hop

theorem latest_snoc (source : InputSourceId) (ops : List Op) (op : Op) :
    latest source (ops ++ [op]) = heldAfter source (latest source ops) op := by
  rw [latest, List.foldl_append, List.foldl_cons, List.foldl_nil, ← latest]

/-- Changes of different sources commute, source by source. -/
theorem latest_comm (ops : List Op) {op op' : Op} {source source' : InputSourceId}
    (hop : op.source = some source) (hop' : op'.source = some source') (h : source ≠ source')
    (other : InputSourceId) :
    latest other (ops ++ [op] ++ [op']) = latest other (ops ++ [op'] ++ [op]) := by
  rw [latest_snoc, latest_snoc, latest_snoc, latest_snoc]
  by_cases hother : other = source
  · subst hother
    rw [heldAfter_other hop' h, heldAfter_other hop' h]
  · rw [heldAfter_other hop hother, heldAfter_other hop hother]

/-- Only the union shown last counts for the register. -/
theorem setJoypadState_joypad (b : MachineBus M) (first last : JoypadState) :
    ((b.setJoypadState first).setJoypadState last).joypad = (b.setJoypadState last).joypad := rfl

namespace Coherent
variable {g : GameBoy M} {ops : List Op}

theorem commute (h : g.Coherent ops) {op op' : Op} {source source' : InputSourceId}
    (hop : op.source = some source) (hop' : op'.source = some source') (hne : source ≠ source') :
    ((g.call op).2.call op').2.inputs.effective = ((g.call op').2.call op).2.inputs.effective := by
  have hleft := (h.call op).call op'
  have hright := (h.call op').call op
  refine InputMatrix.effective_congr hleft.distinct hright.distinct fun other => ?_
  rw [hleft.held, hright.held, latest_comm ops hop hop' hne]

theorem loaded (g : GameBoy M) {rom : List Byte} {persisted : Option BatteryState}
    {metadata : CartridgeMetadata} (hok : (g.loadRom rom persisted).1 = .ok metadata) :
    ∃ c, (g.loadRom rom persisted).2.bus = some c ∧ c.joypadFlagged = false ∧
      c.joypad.visibleLow = 0x0f := by
  obtain ⟨cartridge, -, -, hafter⟩ := loadRom_ok hok
  rw [hafter]
  have hnone := setState_initial_requested g.inputs.effective
  have hflag := (MachineBus.flagged_of_request (r := .postBoot) hnone).trans
    (InterruptMask.has_empty _)
  exact ⟨_, rfl, hflag, setState_initial g.inputs.effective⟩

end Coherent

/-- **Input coherence**, after any calls and at any point of the run of the program. -/
theorem input_coherence {clock : Clock} {sampleRate : Nat} {ops : List Op} {g : GameBoy M}
    (h : Run (GameBoy.system M) (GameBoy.new clock sampleRate) ops g) : InputCoherent g ops := by
  have hg := coherent_of_run h
  have hunion : ∀ {k : GameBoy M} {done : List Op}, k.Coherent done → ∀ button,
      k.inputs.effective.isPressed button = true ↔
        ∃ source, (latest source done).isPressed button = true := by
    intro k done hk button
    rw [InputMatrix.effective_isPressed hk.distinct]
    simp only [hk.held]
  constructor
  case union => exact hunion hg
  case bus =>
    intro b hb during hduring
    obtain ⟨hcoherent, hstate⟩ := hg.bus b hb
    obtain ⟨hafter, hkept⟩ := b.run_joypad hcoherent hduring
    rw [← hstate, ← hkept]
    exact joypadLaw hafter
  case kept =>
    intro op source hop other hother button hpressed
    refine (hunion (hg.call op) button).mpr ⟨other, ?_⟩
    rw [latest_snoc, heldAfter_other hop hother]
    exact hpressed
  case commute =>
    intro op op' source source' hop hop' hne
    have heffective := hg.commute hop hop' hne
    refine ⟨heffective, ?_⟩
    have hsource : op.source ≠ none := by
      rw [hop]
      nofun
    have hsource' : op'.source ≠ none := by
      rw [hop']
      nofun
    rw [call_of_source _ hsource', call_of_source _ hsource, call_of_source _ hsource,
      call_of_source _ hsource', heffective]
    cases g.bus with
    | none => rfl
    | some b =>
      simp only [Option.map_some]
      rw [setJoypadState_joypad, setJoypadState_joypad]
  case changed =>
    intro op hop b hb
    rw [call_of_source g hop, hb]
    exact ⟨_, rfl, (b.joypadStep (hg.bus b hb).1 (.setJoypadState _)).requests⟩
  case restarted =>
    intro b hb
    have hreset : g.reset.2.bus = some (b.reset g.clock.unixSeconds g.inputs.effective) := by
      rw [GameBoy.reset, hb]
    exact ⟨_, hreset, (b.joypadStep (hg.bus b hb).1 (.reset _ _)).requests⟩
  case loaded => exact fun _ _ _ => Coherent.loaded g

/-- An image is loaded, two sources hold A, and one is cleared. -/
def holdAndClear (rom : List Byte) : List Op :=
  [.loadRom rom none, .setInput 0 ⟨0x10⟩, .setInput 1 ⟨0x10⟩, .clearInputSource 0]

theorem exists_holding {rom : List Byte} {cartridge : Cartridge}
    (hload : Cartridge.load rom none 0 = .ok cartridge) :
    ∃ (g : GameBoy .mute) (b : MachineBus .mute),
      Run (GameBoy.system .mute) (GameBoy.new ⟨fun _ => 0, 0⟩ 44100) (holdAndClear rom) g ∧
        g.bus = some b ∧ g.inputs.effective.isPressed .a = true := by
  have hloaded : Run (GameBoy.system .mute) (GameBoy.new ⟨fun _ => 0, 0⟩ 44100)
      [.loadRom rom none] ((GameBoy.new ⟨fun _ => 0, 0⟩ 44100).loadRom rom none).2 := .single rfl
  have hafter :
      ((GameBoy.new (M := .mute) ⟨fun _ => 0, 0⟩ 44100).loadRom rom none).2.bus.isSome = true ∧
      ((GameBoy.new (M := .mute) ⟨fun _ => 0, 0⟩ 44100).loadRom rom none).2.inputs = .empty := by
    have hnow : Cartridge.load rom none
      (GameBoy.new (M := .mute) ⟨fun _ => 0, 0⟩ 44100).clock.unixSeconds = .ok cartridge := hload
    rw [loadRom]
    dsimp only
    rw [hnow]
    exact ⟨rfl, rfl⟩
  obtain ⟨hsome, hinputs⟩ := hafter
  generalize ((GameBoy.new (M := .mute) ⟨fun _ => 0, 0⟩ 44100).loadRom rom none).2 = g at *
  have hset := hloaded.snoc (i := .setInput 0 ⟨0x10⟩) rfl
  have hboth := hset.snoc (i := .setInput 1 ⟨0x10⟩) rfl
  have hcleared := hboth.snoc (i := .clearInputSource 0) rfl
  have hbus : ((((g.setInput 0 ⟨0x10⟩).setInput 1 ⟨0x10⟩).clearInputSource 0).bus).isSome =
      true := by
    rw [clearInputSource, showInputs, Option.isSome_map, setInput, showInputs, Option.isSome_map,
      setInput, showInputs, Option.isSome_map, hsome]
  obtain ⟨b, hb⟩ := Option.isSome_iff_exists.mp hbus
  refine ⟨_, b, hcleared, hb, ?_⟩
  show (((g.inputs.set 0 ⟨0x10⟩).set 1 ⟨0x10⟩).clear 0).effective.isPressed .a = true
  rw [hinputs]
  decide

/-- The source that is left holds A on the bus of a loaded machine, while its program selects
the row of A. -/
theorem input_coherence_twoSources :
    ∃ (g : GameBoy .mute) (b : MachineBus .mute),
      InputCoherent g (holdAndClear (imageOf 2 nopContent)) ∧ g.bus = some b ∧
        g.inputs.effective.isPressed .a = true ∧
        JoypadLaw g.inputs.effective (b.run [.cpu (.write8 0xff00 0x10)]) := by
  obtain ⟨g, b, hrun, hbus, hpressed⟩ := exists_holding (load_nopImage 0)
  have hlaw := input_coherence hrun
  refine ⟨g, b, hlaw, hbus, hpressed, hlaw.bus b hbus _ ?_⟩
  intro op hop
  rw [List.mem_singleton.mp hop]
  exact id

/-- Two writes of the CPU: the row of the directions is selected, then OAM DMA starts. -/
def selectAndTransfer : List MachineBus.Op :=
  [.cpu (.write8 0xff00 0x20), .cpu (.write8 0xff46 0xc0)]

theorem run_selectAndTransfer {b : MachineBus M} (h : b.dma.active = false) :
    (b.run selectAndTransfer).dma.active = true ∧
      (b.run selectAndTransfer).joypad = (b.joypad.write 0x20).device := by
  have hallowed : b.writeAllowed 0xff00 = true := by
    rw [MachineBus.writeAllowed, h]
    rfl
  have hselect : (b.write8 0xff00 0x20).joypad = (b.joypad.write 0x20).device := by
    rw [MachineBus.write8, if_pos hallowed, if_neg (by decide), MachineBus.writeUnclocked,
      if_neg (by decide), if_neg (by decide), if_neg (by decide), if_neg (by decide), if_pos rfl]
    show (b.tickMCycle.joypad.write 0x20).device = _
    rw [MachineBus.tickMCycle_joypad]
  have htransfer : ∀ c : MachineBus M, (c.write8 0xff46 0xc0).dma.active = true ∧
      (c.write8 0xff46 0xc0).joypad = c.joypad := by
    intro c
    have hdma : c.writeAllowed 0xff46 = true := by
      rw [MachineBus.writeAllowed, Bool.or_assoc]
      exact Bool.or_eq_true_iff.mpr (.inr rfl)
    rw [MachineBus.write8, if_pos hdma, if_neg (by decide), MachineBus.writeUnclocked,
      if_neg (by decide), if_pos (by decide), if_pos rfl]
    exact ⟨rfl, c.tickMCycle_joypad⟩
  obtain ⟨hactive, hjoypad⟩ := htransfer (b.write8 0xff00 0x20)
  exact ⟨hactive, hjoypad.trans hselect⟩

theorem run_loadRom (g : GameBoy M) (rom : List Byte) (persisted : Option BatteryState) :
    Run (GameBoy.system M) g [.loadRom rom persisted] (g.loadRom rom persisted).2 := .single rfl

/-- OAM DMA has the bus. -/
theorem read8_of_transfer {c : MachineBus M} (h : c.dma.active = true) :
    (CpuBus.read8 c 0xff00).1 = 0xff := by
  have hhram : ¬ inHram 0xff00 := by decide
  show (if c.dma.active = true ∧ ¬ inHram 0xff00 then (0xff : Byte) else _) = _
  rw [if_pos ⟨h, hhram⟩]

/-- The devices of a bus that was just loaded. -/
theorem loaded_devices (cartridge : Cartridge) (sampleRate now : Nat) (state : JoypadState) :
    ((MachineBus.new cartridge sampleRate now : MachineBus M).setJoypadState state).dma.active =
        false ∧
      ((MachineBus.new cartridge sampleRate now : MachineBus M).setJoypadState state).joypad =
        (JoypadRegister.initial.setState state).device := ⟨rfl, rfl⟩

/-- During OAM DMA the CPU reads FF, not the register, whatever image is loaded. -/
theorem exists_blocked_read {g : GameBoy M} {rom : List Byte} {cartridge : Cartridge}
    (hload : Cartridge.load rom none g.clock.unixSeconds = .ok cartridge)
    (hinputs : g.inputs = .empty) :
    ∃ b, (g.loadRom rom none).2.bus = some b ∧
      (CpuBus.read8 (b.run selectAndTransfer) 0xff00).1 ≠
        0xc0 ||| (b.run selectAndTransfer).joypad.select |||
          visible (b.run selectAndTransfer).joypad.select
            (g.loadRom rom none).2.inputs.effective := by
  have hafter : (g.loadRom rom none).2.bus =
        some ((MachineBus.new cartridge g.sampleRate g.clock.unixSeconds).setJoypadState
          .released) ∧
      (g.loadRom rom none).2.inputs = .empty := by
    simp only [loadRom, hload, hinputs]
    exact ⟨rfl, trivial⟩
  obtain ⟨hidle, hinitial⟩ :=
    loaded_devices (M := M) cartridge g.sampleRate g.clock.unixSeconds .released
  obtain ⟨hactive, hjoypad⟩ := run_selectAndTransfer hidle
  refine ⟨_, hafter.1, ?_⟩
  rw [read8_of_transfer hactive, hjoypad, hinitial, hafter.2]
  decide

/-- The image of NOPs is loaded. -/
theorem ff00_blocked : ∃ (g : GameBoy .mute) (b : MachineBus .mute),
    Run (GameBoy.system .mute) (GameBoy.new ⟨fun _ => 0, 0⟩ 44100)
      [.loadRom (imageOf 2 nopContent) none] g ∧
    g.bus = some b ∧
    (CpuBus.read8 (b.run selectAndTransfer) 0xff00).1 ≠
      0xc0 ||| (b.run selectAndTransfer).joypad.select |||
        visible (b.run selectAndTransfer).joypad.select g.inputs.effective := by
  obtain ⟨b, hbus, hread⟩ := exists_blocked_read (g := GameBoy.new ⟨fun _ => 0, 0⟩ 44100)
    (load_nopImage 0) rfl
  exact ⟨_, b, run_loadRom _ _ _, hbus, hread⟩

end GameBoy

end Pockiva
