import Pockiva.BusFrame
import Pockiva.Ppu.Effects

/-! # The lines of the joypad

What the input matrix and the register FF00 compute, button by button and line by
line: the union of the sources (`InputMatrix.effective_isPressed`), the four lines of
the selected rows (`JoypadRegister.visible_getLsbD`), and the interrupt that a falling
line requests (`JoypadRegister.updateVisible_requested`).
-/
namespace Pockiva

variable {M : MixerModel}

/-! ## Buttons -/

namespace JoypadState

/-- The bit of a button. -/
def bitOf : Button → Nat
  | .up => 0
  | .down => 1
  | .left => 2
  | .right => 3
  | .a => 4
  | .b => 5
  | .start => 6
  | .select => 7

theorem isPressed_eq (s : JoypadState) (button : Button) :
    s.isPressed button = s.bits.getLsbD (bitOf button) := by
  obtain ⟨bits⟩ := s
  revert bits
  cases button <;> decide

@[simp] theorem isPressed_released (button : Button) : released.isPressed button = false := by
  cases button <;> rfl

/-- **A button is held in a union if it is held in a part.** -/
@[simp] theorem isPressed_union (s t : JoypadState) (button : Button) :
    (s.union t).isPressed button = (s.isPressed button || t.isPressed button) := by
  rw [isPressed_eq, isPressed_eq, isPressed_eq, union, BitVec.getLsbD_or]

/-- Nothing but the held buttons counts. -/
theorem ext_isPressed {s t : JoypadState} (h : ∀ button, s.isPressed button = t.isPressed button) :
    s = t := by
  have hbits : s.bits = t.bits := by
    apply BitVec.eq_of_getLsbD_eq
    intro i hi
    have hbutton : ∃ button, bitOf button = i := by
      have hall : ∀ i < 8, ∃ button ∈ [Button.up, .down, .left, .right, .a, .b, .start, .select],
          bitOf button = i := by decide
      obtain ⟨button, -, heq⟩ := hall i hi
      exact ⟨button, heq⟩
    obtain ⟨button, rfl⟩ := hbutton
    rw [← isPressed_eq, ← isPressed_eq]
    exact h button
  cases s
  cases t
  exact congrArg JoypadState.mk hbits

end JoypadState

/-! ## The sources -/

namespace InputMatrix

/-- What a source holds, nothing if it has no entry. -/
def held (m : InputMatrix) (source : InputSourceId) : JoypadState :=
  (m.sources.lookup source).getD .released

/-- No source has two entries. -/
def Distinct (m : InputMatrix) : Prop := (m.sources.map Prod.fst).Nodup

theorem distinct_empty : empty.Distinct := List.nodup_nil

theorem Distinct.clear {m : InputMatrix} (h : m.Distinct) (source : InputSourceId) :
    (m.clear source).Distinct := List.Nodup.sublist (List.filter_sublist.map _) h

theorem Distinct.set {m : InputMatrix} (h : m.Distinct) (source : InputSourceId)
    (state : JoypadState) : (m.set source state).Distinct := by
  refine List.nodup_cons.mpr ⟨?_, h.clear source⟩
  intro hmem
  obtain ⟨entry, hentry, heq⟩ := List.mem_map.mp hmem
  have hother := (List.mem_filter.mp hentry).2
  rw [heq] at hother
  simp at hother

theorem held_clear (m : InputMatrix) (source other : InputSourceId) :
    (m.clear source).held other = if other = source then .released else m.held other := by
  unfold held clear
  dsimp only
  induction m.sources with
  | nil => split <;> rfl
  | cons entry entries ih =>
    obtain ⟨owner, state⟩ := entry
    by_cases howner : owner = source
    · subst howner
      rw [List.filter_cons_of_neg (by simp), ih]
      by_cases hother : other = owner
      · rw [if_pos hother, if_pos hother]
      · rw [if_neg hother, if_neg hother, List.lookup_cons, beq_eq_false_iff_ne.mpr hother]
    · rw [List.filter_cons_of_pos (by simpa using howner), List.lookup_cons, List.lookup_cons]
      by_cases hentry : other = owner
      · subst hentry
        rw [if_neg howner, beq_self_eq_true]
      · rw [beq_eq_false_iff_ne.mpr hentry]
        exact ih

theorem held_set (m : InputMatrix) (source other : InputSourceId) (state : JoypadState) :
    (m.set source state).held other = if other = source then state else m.held other := by
  have hclear := m.held_clear source other
  unfold held set at *
  dsimp only at *
  rw [List.lookup_cons]
  by_cases hother : other = source
  · subst hother
    rw [beq_self_eq_true, if_pos rfl]
    rfl
  · rw [beq_eq_false_iff_ne.mpr hother, if_neg hother]
    rw [if_neg hother] at hclear
    exact hclear

/-- The entries of a matrix are what its sources hold. -/
theorem held_of_mem {m : InputMatrix} (h : m.Distinct) {source : InputSourceId}
    {state : JoypadState} (hmem : (source, state) ∈ m.sources) : m.held source = state := by
  obtain ⟨before, after, hsources⟩ := List.append_of_mem hmem
  have hfirst : ∀ entry ∈ before, (source != entry.1) = true := by
    intro entry hentry
    unfold Distinct at h
    rw [hsources, List.map_append, List.map_cons, List.nodup_append] at h
    exact bne_iff_ne.mpr
      (h.2.2 entry.1 (List.mem_map_of_mem hentry) source List.mem_cons_self).symm
  have hlookup : m.sources.lookup source = some state :=
    List.lookup_eq_some_iff.mpr ⟨before, after, hsources, hfirst⟩
  rw [held, hlookup]
  rfl

theorem foldl_isPressed (entries : List (InputSourceId × JoypadState)) (start : JoypadState)
    (button : Button) :
    (entries.foldl (fun held entry => held.union entry.2) start).isPressed button = true ↔
      start.isPressed button = true ∨ ∃ entry ∈ entries, entry.2.isPressed button = true := by
  induction entries generalizing start with
  | nil => simp
  | cons entry entries ih =>
    rw [List.foldl_cons, ih, JoypadState.isPressed_union, Bool.or_eq_true, or_assoc,
      List.exists_mem_cons_iff]

/-- **The machine sees a button if some source holds it.** -/
theorem effective_isPressed {m : InputMatrix} (h : m.Distinct) (button : Button) :
    m.effective.isPressed button = true ↔ ∃ source, (m.held source).isPressed button = true := by
  rw [effective, foldl_isPressed, JoypadState.isPressed_released]
  constructor
  · rintro (hnone | ⟨⟨source, state⟩, hmem, hpressed⟩)
    · cases hnone
    · exact ⟨source, by rw [held_of_mem h hmem]; exact hpressed⟩
  · rintro ⟨source, hpressed⟩
    right
    unfold held at hpressed
    cases hlookup : m.sources.lookup source with
    | none =>
      rw [hlookup] at hpressed
      exact absurd hpressed (by simp)
    | some state =>
      obtain ⟨before, after, hsources, -⟩ := List.lookup_eq_some_iff.mp hlookup
      rw [hlookup] at hpressed
      exact ⟨(source, state), by rw [hsources]; simp, hpressed⟩

/-- Matrices whose sources hold the same show the same. -/
theorem effective_congr {m k : InputMatrix} (hm : m.Distinct) (hk : k.Distinct)
    (h : ∀ source, m.held source = k.held source) : m.effective = k.effective := by
  apply JoypadState.ext_isPressed
  intro button
  rw [Bool.eq_iff_iff, effective_isPressed hm, effective_isPressed hk]
  simp only [h]

end InputMatrix

/-! ## The register -/

namespace JoypadRegister

/-- The buttons of the two rows, by line. -/
def directions : List Button := [.right, .left, .up, .down]

def actions : List Button := [.a, .b, .select, .start]

/-- A line of the register is low: a selected row has a held button on it. -/
def LineLow (select : Byte) (state : JoypadState) (line : Nat) : Prop :=
  (select &&& 0x10 = 0 ∧
      ∃ button, directions[line]? = some button ∧ state.isPressed button = true) ∨
    (select &&& 0x20 = 0 ∧ ∃ button, actions[line]? = some button ∧ state.isPressed button = true)

/-- A row pulls down the lines of its held buttons. -/
theorem showRow_getLsbD (state : JoypadState) (row : List Button) (visible : Byte) {line : Nat}
    (hline : line < 8) :
    (showRow state row visible).getLsbD line = true ↔
      visible.getLsbD line = true ∧
        ¬ ∃ button, row[line]? = some button ∧ state.isPressed button = true := by
  have hfold : ∀ (entries : List (Button × Nat)) (visible : Byte),
      (entries.foldl (fun visible entry =>
        if state.isPressed entry.1 then visible &&& ~~~((1 : Byte) <<< entry.2) else visible)
        visible).getLsbD line = true ↔
      visible.getLsbD line = true ∧
        ∀ entry ∈ entries, state.isPressed entry.1 = true → entry.2 ≠ line := by
    intro entries
    induction entries with
    | nil => simp
    | cons entry entries ih =>
      intro visible
      rw [List.foldl_cons, ih, List.forall_mem_cons, ← and_assoc]
      refine and_congr_left fun _ => ?_
      cases hpressed : state.isPressed entry.1 with
      | false => simp
      | true =>
        have hbit : ((1 : Byte) <<< entry.2).getLsbD line = decide (entry.2 = line) := by
          have hone : (1 : Byte).getLsbD (line - entry.2) = decide (line - entry.2 = 0) := by
            show (1#8).getLsbD (line - entry.2) = _
            rw [BitVec.getLsbD_one]
            simp
          rw [BitVec.getLsbD_shiftLeft, hone, Bool.eq_iff_iff]
          simp only [Bool.and_eq_true, decide_eq_true_eq, Bool.not_eq_true',
            decide_eq_false_iff_not]
          omega
        rw [if_pos rfl, BitVec.getLsbD_and, BitVec.getLsbD_not, hbit]
        simp [hline]
  rw [showRow, hfold]
  refine and_congr_right fun _ => ?_
  constructor
  · rintro hall ⟨button, hbutton, hpressed⟩
    exact hall (button, line) (List.mem_zipIdx_iff_getElem?.mpr hbutton) hpressed rfl
  · rintro hnone ⟨button, index⟩ hentry hpressed rfl
    exact hnone ⟨button, List.mem_zipIdx_iff_getElem?.mp hentry, hpressed⟩

/-- **The four lines of the selected rows**, active low. -/
theorem visible_getLsbD (select : Byte) (state : JoypadState) {line : Nat} (hline : line < 8) :
    (visible select state).getLsbD line = true ↔ line < 4 ∧ ¬ LineLow select state line := by
  have hshown : (0x0f : Byte).getLsbD line = true ↔ line < 4 := by
    revert line
    decide
  have hdirections : (if select &&& 0x10 = 0 then showRow state directions 0x0f
      else (0x0f : Byte)).getLsbD line = true ↔ line < 4 ∧ ¬ (select &&& 0x10 = 0 ∧
        ∃ button, directions[line]? = some button ∧ state.isPressed button = true) := by
    split
    case isTrue h => rw [showRow_getLsbD state directions _ hline, hshown]; simp only [h, true_and]
    case isFalse h => rw [hshown]; simp only [h, false_and, not_false_eq_true, and_true]
  unfold visible LineLow
  dsimp only
  rw [not_or, ← and_assoc, ← hdirections]
  split
  case isTrue h =>
    rw [← directions, ← actions, showRow_getLsbD state actions _ hline]
    simp only [h, true_and]
  case isFalse h =>
    simp only [h, false_and, not_false_eq_true, and_true]
    rfl

/-- The cached lines are those of the selection and the held buttons. -/
structure Coherent (j : JoypadRegister) : Prop where
  visibleLow : j.visibleLow = visible j.select j.state
  select : j.select &&& 0x30 = j.select

theorem coherent_initial : initial.Coherent := ⟨by decide, by decide⟩

/-- A line goes from 1 to 0. -/
def LineFalls (old new : Byte) : Prop :=
  ∃ line < 4, old.getLsbD line = true ∧ new.getLsbD line = false

theorem not_lineFalls_self (lines : Byte) : ¬ LineFalls lines lines := by
  rintro ⟨line, -, hhigh, hlow⟩
  rw [hhigh] at hlow
  cases hlow

/-- With no row selected every line is high. -/
theorem visible_deselected (state : JoypadState) : visible 0x30 state = 0x0f := by
  unfold visible
  dsimp only
  rw [if_neg (by decide), if_neg (by decide)]

/-- A register that starts over shows no button. -/
theorem setState_initial (state : JoypadState) :
    (initial.setState state).device.visibleLow = 0x0f := by
  rw [← visible_deselected state]
  unfold setState updateVisible initial
  dsimp only

theorem not_lineFalls_initial (old : Byte) (state : JoypadState) :
    ¬ LineFalls old (initial.setState state).device.visibleLow := by
  rw [setState_initial]
  rintro ⟨line, hline, -, hlow⟩
  have hhigh : (0x0f : Byte).getLsbD line = true := by
    revert line
    decide
  rw [hhigh] at hlow
  cases hlow

theorem lineFalls_iff {old new : Byte} (hold : ∀ line < 8, old.getLsbD line = true → line < 4) :
    old &&& ~~~new ≠ 0 ↔ LineFalls old new := by
  constructor
  · intro hne
    have hbit : ∃ line < 8, (old &&& ~~~new).getLsbD line = true := by
      apply Classical.byContradiction
      intro hnone
      refine hne (BitVec.eq_of_getLsbD_eq fun line hline => ?_)
      cases hbit : (old &&& ~~~new).getLsbD line with
      | false => exact (BitVec.getLsbD_zero).symm
      | true => exact absurd ⟨line, hline, hbit⟩ hnone
    obtain ⟨line, hline, hbit⟩ := hbit
    rw [BitVec.getLsbD_and, BitVec.getLsbD_not, Bool.and_eq_true, Bool.and_eq_true] at hbit
    obtain ⟨hhigh, -, hlow⟩ := hbit
    exact ⟨line, hold line hline hhigh, hhigh, Bool.not_eq_true' _ ▸ hlow⟩
  · rintro ⟨line, hline, hhigh, hlow⟩ hzero
    have hbit : (old &&& ~~~new).getLsbD line = true := by
      have hwidth : line < 8 := by omega
      rw [BitVec.getLsbD_and, BitVec.getLsbD_not, hhigh, hlow, decide_eq_true hwidth]
      rfl
    rw [hzero] at hbit
    exact absurd hbit (by simp)

/-- **An update requests the interrupt exactly when a line falls.** -/
theorem updateVisible_requested {j : JoypadRegister}
    (hold : ∀ line < 8, j.visibleLow.getLsbD line = true → line < 4) :
    j.updateVisible.requested.has .joypad = true ↔
      LineFalls j.visibleLow j.updateVisible.device.visibleLow := by
  unfold updateVisible
  dsimp only
  rw [← lineFalls_iff hold]
  split
  case isTrue h =>
    rw [InterruptMask.has_of]
    exact iff_of_true (by decide) h
  case isFalse h =>
    rw [InterruptMask.has_empty]
    exact iff_of_false (by decide) h

namespace Coherent
variable {j : JoypadRegister}

/-- Only the low four lines exist. -/
theorem line_lt (h : j.Coherent) : ∀ line < 8, j.visibleLow.getLsbD line = true → line < 4 := by
  intro line hline hhigh
  rw [h.visibleLow] at hhigh
  exact ((visible_getLsbD _ _ hline).mp hhigh).1

theorem write (h : j.Coherent) (value : Byte) :
    (j.write value).device.Coherent ∧
      ((j.write value).requested.has .joypad = true ↔
        LineFalls j.visibleLow (j.write value).device.visibleLow) := by
  refine ⟨⟨rfl, ?_⟩, updateVisible_requested h.line_lt⟩
  show (value &&& 0x30) &&& 0x30 = value &&& 0x30
  rw [BitVec.and_assoc, BitVec.and_self]

theorem setState (h : j.Coherent) (state : JoypadState) :
    (j.setState state).device.Coherent ∧
      ((j.setState state).requested.has .joypad = true ↔
        LineFalls j.visibleLow (j.setState state).device.visibleLow) :=
  ⟨⟨rfl, h.select⟩, updateVisible_requested h.line_lt⟩

/-- **What FF00 reads**: ones, the selection and the lines. -/
theorem read (h : j.Coherent) : j.read = 0xc0 ||| j.select ||| visible j.select j.state := by
  rw [JoypadRegister.read, h.visibleLow]

end Coherent

end JoypadRegister

/-! ## Nothing else requests the joypad interrupt -/

/-- What no T-cycle of a device requests, any number of them does not request. -/
theorem repeatTick_requested {α : Type} {tick : α → Requesting α} {i : Interrupt}
    (h : ∀ d, (tick d).requested.has i = false) (n : Nat) (d : α) :
    (repeatTick tick n d).requested.has i = false := by
  induction n with
  | zero => exact InterruptMask.has_empty i
  | succ n ih =>
    rw [repeatTick, Requesting.andThen_requested, InterruptMask.has_union, ih, h]
    rfl

theorem Timer.tick_requested (t : Timer) (n : Nat) :
    (t.tick n).requested.has .joypad = false := by
  refine repeatTick_requested (fun t => ?_) n t
  rw [Timer.tickOne, Requesting.andThen_requested, InterruptMask.has_union,
    Requesting.silent_requested, InterruptMask.has_empty, Bool.or_false]
  unfold Timer.reload
  split
  · exact InterruptMask.has_of .timer .joypad
  · exact InterruptMask.has_empty _
  · exact InterruptMask.has_empty _

theorem Apu.tick_requested (a : Apu M) (n : Nat) :
    (a.tick n).requested.has .joypad = false := by
  unfold Apu.tick
  apply repeatTick_requested
  intro d
  rw [Requesting.silent_requested, InterruptMask.has_empty]

theorem SerialPort.write_requested (s : SerialPort) (address : Word) (value : Byte) :
    (s.write address value).requested.has .joypad = false := by
  unfold SerialPort.write
  split
  · exact InterruptMask.has_empty _
  · split
    · split
      · exact InterruptMask.has_of .serial .joypad
      · exact InterruptMask.has_empty _
    · exact InterruptMask.has_empty _

/-- The buttons that a register is shown when it starts over request nothing. -/
theorem JoypadRegister.setState_initial_requested (state : JoypadState) :
    (initial.setState state).requested.has .joypad = false := by
  obtain ⟨-, hrequested⟩ := coherent_initial.setState state
  rw [Bool.eq_false_iff, Ne, hrequested]
  exact not_lineFalls_initial _ state

namespace MachineBus

/-- The joypad interrupt is flagged. -/
def joypadFlagged (b : MachineBus M) : Bool := b.interrupts.flags.has .joypad

theorem request_flagged (r : InterruptRegisters) (mask : InterruptMask) :
    (r.request mask).flags.has .joypad = (r.flags.has .joypad || mask.has .joypad) :=
  InterruptMask.has_union _ _ _

theorem tickMCycle_flagged (b : MachineBus M) : b.tickMCycle.joypadFlagged = b.joypadFlagged := by
  unfold joypadFlagged tickMCycle
  dsimp only
  rw [request, request_flagged, InterruptMask.has_union, InterruptMask.has_union,
    Timer.tick_requested, (Ppu.Plain.tick _ 4).joypad, Apu.tick_requested, Bool.or_false,
    Bool.or_false, Bool.or_false]
  unfold tickDma
  split <;> rfl

end MachineBus

end Pockiva
