import Pockiva.Ppu.Numbering

/-! # Raster progress

While the LCD stays on, every dot moves the raster on by one position of the frame
of 70224 dots, the entry into line 144 publishes a frame and asks for the VBlank
interrupt, and between two returns to line 0 every visible line is scanned once.
-/
namespace Pockiva

open Transition

namespace Ppu

/-- The dots of a frame, 154 lines of 456. -/
def dotsPerFrame : Nat := 70224

/-- The number of the dot within its frame. -/
def position (p : Ppu) : Nat := p.internalLine * 456 + p.dot

/-- A write to LCDC has bit 7 set. -/
def Op.KeepsLcdOn (op : Op) : Prop :=
  ∀ value, op = .write 0xff40 value → (⟨value⟩ : Lcdc).enabled = true

def Op.isDot : Op → Bool
  | .dot => true
  | _ => false

/-- The dots among the operations. -/
def dots (ops : List Op) : Nat := ops.countP Op.isDot

/-- The operation is the dot with which line 144 begins. -/
def EntersVblank (p : Ppu) (op : Op) : Prop := op = .dot ∧ p.position + 1 = 144 * 456

/-- The operation is the dot with which line 0 begins. -/
def Wraps (p : Ppu) (op : Op) : Prop := op = .dot ∧ p.position + 1 = dotsPerFrame

/-! ## Dots -/

theorem DotEvent.position {p : Ppu} {t : Tick} (h : p.raster.Timeline) (e : DotEvent p t) :
    t.ppu.position = (p.position + 1) % dotsPerFrame := by
  have hline : p.internalLine < 154 := h.line_lt
  have hdot : p.dot < 456 := h.dot_lt
  have hstart : ∀ q : Ppu, q.compareAtLineStart.evaluateStat.ppu.position = q.position := by
    intro q
    obtain ⟨b, hb⟩ := q.compareAtLineStart_eq
    rw [hb]
    rfl
  have hadvanced : p.dot + 1 ≠ 456 →
      p.internalLine * 456 + (p.dot + 1) = (p.position + 1) % dotsPerFrame := by
    intro hne
    unfold Ppu.position dotsPerFrame
    omega
  have hb := h.start_bounds
  cases e with
  | line153 _ hd => exact hadvanced (by omega)
  | line144 _ hd => exact hadvanced (by omega)
  | lateScan _ _ _ hd => exact hadvanced (by omega)
  | startDrawing _ hd =>
    have hd' : p.dot + 1 = p.raster.mode3StartDot := hd
    exact hadvanced (by omega)
  | hblank hl _ hd =>
    obtain ⟨-, h2, h3, -⟩ := stage_dots h hl
    exact hadvanced (by omega)
  | mode3End hl hd =>
    obtain ⟨-, h2, -, -⟩ := stage_dots h hl
    exact hadvanced (by omega)
  | endVisible hl hd =>
    rw [hstart]
    show (p.internalLine + 1) * 456 + 0 = _
    unfold Ppu.position dotsPerFrame
    omega
  | enterVblank hl hd =>
    rw [Tick.andThen_ppu, hstart]
    show (p.internalLine + 1) * 456 + 0 = _
    unfold Ppu.position dotsPerFrame
    omega
  | endVblank _ hl hd =>
    rw [hstart]
    show (p.internalLine + 1) * 456 + 0 = _
    unfold Ppu.position dotsPerFrame
    omega
  | wrap hl hd =>
    rw [Tick.andThen_ppu, hstart]
    have hzero : p.wrapped.position = 0 := by simp [Ppu.position, wrapped, enterVisibleLine]
    refine hzero.trans ?_
    unfold Ppu.position dotsPerFrame
    omega
  | none _ _ _ _ _ _ hd => exact hadvanced hd

/-- The STAT line never asks for the VBlank interrupt. -/
theorem evaluateStatWithEnables_vblank (p : Ppu) (enables : Byte) :
    (p.evaluateStatWithEnables enables).requested.has .vblank = false := by
  unfold evaluateStatWithEnables
  dsimp only
  split <;> decide

theorem evaluateStat_vblank (p : Ppu) : p.evaluateStat.requested.has .vblank = false :=
  evaluateStatWithEnables_vblank p _

/-- What a step has to do with the VBlank, given whether it enters it and whether it
wraps. -/
structure Marks (t : Tick) (enters wraps : Prop) : Prop where
  frame : enters → ∃ f, t.log = [.frame f]
  interrupt : t.requested.has .vblank = true ↔ enters
  noFrame : ¬ enters → Scanout.frames t.log = []
  wrap : .wrap ∈ t.log ↔ wraps
  lit : ∀ e ∈ t.log, e ≠ .lcdOn ∧ e ≠ .lcdOff

/-- A step that only evaluates the STAT line. -/
theorem marks_evaluateStat (p : Ppu) {enters wraps : Prop} (henters : ¬ enters)
    (hwraps : ¬ wraps) : Marks p.evaluateStat enters wraps where
  frame h := absurd h henters
  interrupt := by
    rw [evaluateStat, evaluateStatWithEnables_vblank]
    exact iff_of_false (by decide) henters
  noFrame _ := rfl
  wrap := iff_of_false List.not_mem_nil hwraps
  lit e he := absurd he List.not_mem_nil

theorem marks_quiet (p : Ppu) {enters wraps : Prop} (henters : ¬ enters)
    (hwraps : ¬ wraps) : Marks (.quiet p) enters wraps where
  frame h := absurd h henters
  interrupt := iff_of_false (by decide : InterruptMask.empty.has .vblank ≠ true) henters
  noFrame _ := rfl
  wrap := iff_of_false List.not_mem_nil hwraps
  lit e he := absurd he List.not_mem_nil

theorem DotEvent.marks {p : Ppu} {t : Tick} (h : p.raster.Timeline) (e : DotEvent p t) :
    Marks t (p.position + 1 = 144 * 456) (p.position + 1 = dotsPerFrame) := by
  have hline : p.internalLine < 154 := h.line_lt
  have hdot : p.dot < 456 := h.dot_lt
  have hb := h.start_bounds
  unfold Ppu.position dotsPerFrame
  cases e with
  | line153 _ hd => exact marks_evaluateStat _ (by omega) (by omega)
  | line144 _ hd => exact marks_evaluateStat _ (by omega) (by omega)
  | lateScan _ _ _ hd => exact marks_evaluateStat _ (by omega) (by omega)
  | startDrawing hl hd =>
    have hd' : p.dot + 1 = p.raster.mode3StartDot := hd
    exact marks_evaluateStat _ (by omega) (by omega)
  | hblank hl _ hd =>
    obtain ⟨-, h2, h3, -⟩ := stage_dots h hl
    refine ⟨fun he => absurd he (by omega), ?_, fun _ => rfl, iff_of_false ?_ (by omega), ?_⟩
    · rw [Tick.andThen_requested, InterruptMask.has_union, evaluateStat_vblank, Bool.or_false]
      exact iff_of_false (by decide : InterruptMask.empty.has .vblank ≠ true) (by omega)
    · show PpuEvent.wrap ∉ [PpuEvent.scanline _ _]
      simp
    · show ∀ e ∈ [PpuEvent.scanline _ _], _
      simp
  | mode3End hl hd =>
    obtain ⟨-, h2, -, -⟩ := stage_dots h hl
    exact marks_evaluateStat _ (by omega) (by omega)
  | endVisible hl hd => exact marks_evaluateStat _ (by omega) (by omega)
  | enterVblank hl hd =>
    refine ⟨fun _ => ⟨_, rfl⟩, ?_, fun he => absurd (by omega) he, iff_of_false ?_ (by omega), ?_⟩
    · rw [Tick.andThen_requested, InterruptMask.has_union]
      exact iff_of_true (by simp) (by omega)
    · show PpuEvent.wrap ∉ [PpuEvent.frame _]
      simp
    · show ∀ e ∈ [PpuEvent.frame _], _
      simp
  | endVblank _ hl hd => exact marks_evaluateStat _ (by omega) (by omega)
  | wrap hl hd =>
    refine ⟨fun he => absurd he (by omega), ?_, fun _ => rfl, iff_of_true ?_ (by omega), ?_⟩
    · rw [Tick.andThen_requested, InterruptMask.has_union, evaluateStat_vblank, Bool.or_false]
      exact iff_of_false (by decide : InterruptMask.empty.has .vblank ≠ true) (by omega)
    · show PpuEvent.wrap ∈ [PpuEvent.wrap]
      simp
    · show ∀ e ∈ [PpuEvent.wrap], _
      simp
  | none _ _ _ _ _ _ hd => exact marks_quiet _ (by omega) (by omega)

/-! ## Operations -/

/-- Two rasters at the same place. -/
theorem position_congr {p q : Ppu} (h : q.raster = p.raster) : q.position = p.position := by
  have hline : q.internalLine = p.internalLine := congrArg Raster.line h
  have hdot : q.dot = p.dot := congrArg Raster.dot h
  rw [position, position, hline, hdot]

/-- **What an operation that keeps the LCD on does to the position.** -/
structure Advances (p : Ppu) (op : Op) (t : Tick) : Prop where
  enabled : t.ppu.lcdEnabled = true
  position : t.ppu.position = (p.position + dots [op]) % dotsPerFrame
  marks : Marks t (EntersVblank p op) (Wraps p op)

theorem position_lt {p : Ppu} (h : p.raster.Timeline) : p.position < dotsPerFrame := by
  have hline : p.internalLine < 154 := h.line_lt
  have hdot : p.dot < 456 := h.dot_lt
  unfold position dotsPerFrame
  omega

theorem StepCase.advances {p : Ppu} {op : Op} {t : Tick} (h : p.raster.Timeline)
    (henabled : p.lcdEnabled = true) (hop : op.KeepsLcdOn) (e : StepCase p op t) :
    Advances p op t := by
  have hmod : p.position % dotsPerFrame = p.position := Nat.mod_eq_of_lt (position_lt h)
  -- A write takes no dot, so it neither enters the VBlank nor wraps.
  have hwrite : ∀ address value, op = .write address value →
      ¬ EntersVblank p op ∧ ¬ Wraps p op ∧ dots [op] = 0 := by
    intro address value hw
    subst hw
    refine ⟨?_, ?_, rfl⟩
    · rintro ⟨hdot, -⟩
      cases hdot
    · rintro ⟨hdot, -⟩
      cases hdot
  cases e with
  | dot hdot _ =>
    have hevent := tickOne_event h
    have hm := hevent.marks h
    subst hdot
    refine ⟨?_, hevent.position h, ?_⟩
    · rw [lcdEnabled, hevent.registers]
      exact henabled
    · simpa only [EntersVblank, Wraps, true_and] using hm
  | stopped _ hd => exact absurd (henabled.symm.trans hd) (by decide)
  | writeLcdc value hw =>
    obtain ⟨hn1, hn2, hd⟩ := hwrite _ _ hw
    have hon := hop value hw
    obtain ⟨-, h2, -⟩ | ⟨h1, -, -⟩ | ⟨-, ht⟩ := p.writeLcdc_cases value
    · exact absurd (hon.symm.trans h2) (by decide)
    · exact absurd (henabled.symm.trans h1) (by decide)
    · rw [ht]
      refine ⟨hon, ?_, marks_evaluateStat _ hn1 hn2⟩
      rw [hd, Nat.add_zero, hmod]
      exact position_congr rfl
  | writeStat value hw =>
    -- The line is evaluated twice, first with all four enables set.
    obtain ⟨hn1, hn2, hd⟩ := hwrite _ _ hw
    refine ⟨henabled, ?_, fun he => absurd he hn1, ?_, fun _ => rfl,
      iff_of_false List.not_mem_nil hn2, fun e he => absurd he List.not_mem_nil⟩
    · rw [hd, Nat.add_zero, hmod]
      exact position_congr rfl
    · refine iff_of_false ?_ hn1
      rw [Ppu.writeStat, Tick.andThen_requested, InterruptMask.has_union, evaluateStat,
        evaluateStatWithEnables_vblank, evaluateStatWithEnables_vblank]
      decide
  | writeLyc value hw =>
    obtain ⟨hn1, hn2, hd⟩ := hwrite _ _ hw
    refine ⟨?_, ?_, marks_evaluateStat _ hn1 hn2⟩
    · rw [lcdEnabled, writeLyc_lcdc]
      exact henabled
    · rw [hd, Nat.add_zero, hmod]
      exact position_congr (p.writeLyc_raster value)
  | untouched q hne _ hq =>
    have hd : dots [op] = 0 := by
      cases op with
      | dot => exact absurd rfl hne
      | _ => rfl
    refine ⟨?_, ?_, marks_quiet _ (fun h => hne h.1) (fun h => hne h.1)⟩
    · rw [Tick.quiet_ppu, lcdEnabled, hq.lcdc]
      exact henabled
    · rw [hd, Nat.add_zero, hmod]
      exact position_congr hq.raster

/-! ## Runs -/

theorem dots_cons (op : Op) (ops : List Op) : dots (op :: ops) = dots [op] + dots ops := by
  show List.countP Op.isDot ([op] ++ ops) = _
  exact List.countP_append

/-- What holds after a run that keeps the LCD on. -/
structure RunAdvances (p : Ppu) (ops : List Op) : Prop where
  enabled : (run ops p).ppu.lcdEnabled = true
  position : (run ops p).ppu.position = (p.position + dots ops) % dotsPerFrame
  lit : ∀ e ∈ (run ops p).log, e ≠ .lcdOn ∧ e ≠ .lcdOff

theorem run_advances {p : Ppu} (hp : Reachable system p) (henabled : p.lcdEnabled = true)
    (ops : List Op) (hops : ∀ op ∈ ops, op.KeepsLcdOn) : RunAdvances p ops := by
  induction ops generalizing p with
  | nil =>
    have hlt := position_lt (timeline_of_reachable hp henabled)
    have hzero : dots [] = 0 := rfl
    refine ⟨henabled, ?_, fun e he => absurd he List.not_mem_nil⟩
    rw [hzero, Nat.add_zero, Nat.mod_eq_of_lt hlt]
    rfl
  | cons op ops ih =>
    have hstep := (step_cases p op).advances (timeline_of_reachable hp henabled) henabled
      (hops op List.mem_cons_self)
    have hrest := ih (hp.ofNext op) hstep.enabled fun o ho => hops o (List.mem_cons_of_mem _ ho)
    refine ⟨hrest.enabled, ?_, ?_⟩
    · show (run ops (p.step op).ppu).ppu.position = _
      rw [hrest.position, hstep.position, dots_cons op ops, Nat.mod_add_mod, Nat.add_assoc]
    · intro e he
      rcases List.mem_append.mp he with he | he
      · exact hstep.marks.lit e he
      · exact hrest.lit e he

theorem run_append (ops more : List Op) (p : Ppu) :
    run (ops ++ more) p = (run ops p).andThen (run more) := by
  induction ops generalizing p with
  | nil => exact (Tick.quiet_andThen p _).symm
  | cons op ops ih =>
    show (p.step op).andThen (run (ops ++ more)) =
      ((p.step op).andThen (run ops)).andThen (run more)
    rw [Tick.andThen_assoc]
    exact congrArg _ (funext ih)

theorem frames_run_append (ops more : List Op) (p : Ppu) :
    Scanout.frames (run (ops ++ more) p).log =
      Scanout.frames (run ops p).log ++ Scanout.frames (run more (run ops p).ppu).log := by
  rw [run_append, Tick.andThen_log, Scanout.frames_append]

theorem run_singleton (op : Op) (p : Ppu) : run [op] p = p.step op := Tick.andThen_quiet _

theorem keepsLcdOn_dot : Op.dot.KeepsLcdOn := by
  intro value hw
  cases hw

/-- A dot marks the VBlank and the wrap. -/
theorem dot_marks {p : Ppu} (hp : Reachable system p) (henabled : p.lcdEnabled = true) :
    Marks (p.step .dot) (EntersVblank p .dot) (Wraps p .dot) :=
  ((step_cases p .dot).advances (timeline_of_reachable hp henabled) henabled keepsLcdOn_dot).marks

theorem keepsLcdOn_replicate_dot {n : Nat} : ∀ op ∈ List.replicate n Op.dot, op.KeepsLcdOn := by
  intro op hop
  rw [List.eq_of_mem_replicate hop]
  exact keepsLcdOn_dot

/-- The clock of the device is a run of dots. -/
theorem tick_eq_run {p : Ppu} (hp : Reachable system p) (n : Nat) :
    p.tick n = run (.replicate n .dot) p := by
  unfold tick
  split
  · next henabled =>
    induction n with
    | zero => rfl
    | succ n ih =>
      have hlast := (run_advances hp henabled _ (keepsLcdOn_replicate_dot (n := n))).enabled
      have hone : run [.dot] (run (.replicate n .dot) p).ppu =
          (run (.replicate n .dot) p).ppu.tickOne := by
        rw [run_singleton]
        exact tick_one_of_enabled hlast
      rw [List.replicate_succ', run_append, tickLoop, ih, Tick.andThen, Tick.andThen, hone]
  · next hdisabled =>
    have hstep : p.step .dot = .quiet p := if_neg hdisabled
    induction n with
    | zero => rfl
    | succ n ih => rw [List.replicate_succ, run, hstep, Tick.quiet_andThen, ← ih]

/-- Between two returns to line 0 the lines are scanned in order. -/
theorem scanlines_between {p : Ppu} (hp : Reachable system p) {ops : List Op}
    (hlit : ∀ e ∈ (run ops p).log, e ≠ .lcdOn ∧ e ≠ .lcdOff)
    {past frame future : List PpuEvent}
    (hlog : (run ops p).log = past ++ .wrap :: (frame ++ .wrap :: future))
    (hframe : .wrap ∉ frame) : Scanout.scanlines frame = List.range 144 := by
  obtain ⟨s, hs⟩ := shows_of_reachable hp
  obtain ⟨t, hrun, -⟩ := run_simulates hp hs ops
  rw [hlog] at hrun
  obtain ⟨u, -, hrun⟩ := hrun.split
  obtain ⟨v, hwrap, hrun⟩ := hrun.cons_inv
  obtain ⟨w, hbetween, hrun⟩ := hrun.split
  obtain ⟨x, hagain, -⟩ := hrun.cons_inv
  refine Scanout.scanlines_of_run hbetween (hwrap.events_boundary (.inl rfl)) ?_ hagain
  intro e he
  have hmem : e ∈ (run ops p).log := by
    rw [hlog]
    exact List.mem_append_right _ (List.mem_cons_of_mem _ (List.mem_append_left _ he))
  rintro (rfl | rfl | rfl)
  · exact hframe he
  · exact (hlit _ hmem).1 rfl
  · exact (hlit _ hmem).2 rfl

/-- **What the dot that enters the VBlank hands out**: one frame, with the next number, that
waits to be taken; and nothing else hands one out. -/
structure HandsOut (p : Ppu) (op : Op) (t : Tick) : Prop where
  entered : EntersVblank p op → ∃ f, t.log = [.frame f] ∧ t.ppu.takeFrame.1 = some f ∧
    f.sequence = p.nextSequence ∧ t.ppu.nextSequence = p.nextSequence + 1
  kept : ¬ EntersVblank p op → Scanout.frames t.log = [] ∧ t.ppu.nextSequence = p.nextSequence ∧
    (op ≠ .takeFrame → t.ppu.takeFrame.1 = p.takeFrame.1)

theorem Advances.handsOut {p : Ppu} {op : Op} (h : Advances p op (p.step op)) :
    HandsOut p op (p.step op) := by
  constructor
  case entered =>
    intro henters
    obtain ⟨f, hlog⟩ := h.marks.frame henters
    have hop : op ≠ .takeFrame := by
      rw [henters.1]
      exact nofun
    obtain ⟨hnumbers, hnext, hpending⟩ := publishes_step p hop
    have hframes : Scanout.frames (p.step op).log = [f] := by
      rw [hlog]
      rfl
    rw [hframes] at hnumbers hnext hpending
    exact ⟨f, hlog, hpending, List.head_eq_of_cons_eq hnumbers, hnext⟩
  case kept =>
    intro hnot
    have hframes := h.marks.noFrame hnot
    by_cases hop : op = .takeFrame
    · subst hop
      exact ⟨hframes, rfl, fun hne => absurd rfl hne⟩
    · obtain ⟨-, hnext, hpending⟩ := publishes_step p hop
      rw [hframes] at hnext hpending
      exact ⟨hframes, hnext, fun _ => hpending⟩

/-- **The raster of a PPU with the LCD on.**  After any operations that keep LCDC bit 7
set the position is ahead by the number of dots, modulo a frame; the dot that enters
line 144 hands out one frame and asks for one VBlank interrupt, and nothing else
does; between two wraps the lines 0 to 143 are scanned once, in order; and the
published frames are numbered one after the other. -/
theorem raster_progress {p : Ppu} (hp : Reachable system p) (henabled : p.lcdEnabled = true)
    (ops : List Op) (hops : ∀ op ∈ ops, op.KeepsLcdOn) :
    ((run ops p).ppu.position = (p.position + dots ops) % dotsPerFrame ∧
      (run ops p).ppu.internalLine < 154 ∧ (run ops p).ppu.dot < 456) ∧
    (∀ op : Op, op.KeepsLcdOn →
      HandsOut (run ops p).ppu op ((run ops p).ppu.step op) ∧
      (((run ops p).ppu.step op).requested.has .vblank = true ↔
        EntersVblank (run ops p).ppu op) ∧
      (.wrap ∈ ((run ops p).ppu.step op).log ↔ Wraps (run ops p).ppu op)) ∧
    (∀ past frame future, (run ops p).log = past ++ .wrap :: (frame ++ .wrap :: future) →
      .wrap ∉ frame → Scanout.scanlines frame = List.range 144) ∧
    (Scanout.frames (run ops p).log).map Frame.sequence =
      List.range' p.nextSequence (Scanout.frames (run ops p).log).length := by
  have hrun := run_advances hp henabled ops hops
  have htimeline := timeline_of_reachable (reachable_run hp ops) hrun.enabled
  refine ⟨⟨hrun.position, htimeline.line_lt, htimeline.dot_lt⟩, fun op hop => ?_, ?_, ?_⟩
  · have hadvances := (step_cases _ op).advances htimeline hrun.enabled hop
    exact ⟨hadvances.handsOut, hadvances.marks.interrupt, hadvances.marks.wrap⟩
  · intro past frame future hlog hframe
    exact scanlines_between hp hrun.lit hlog hframe
  · obtain ⟨s, hs⟩ := shows_of_reachable hp
    obtain ⟨t, hscan, -⟩ := run_simulates hp hs ops
    rw [← hs.sequence]
    exact (Scanout.sequence_of_run hscan).1

/-- The first frame after the boot ROM is published with dot 65664. -/
theorem log_firstVblank : ∃ f, (run (.replicate 65664 .dot) postBootDmg).log =
    (run (.replicate 65663 .dot) postBootDmg).log ++ [.frame f] := by
  have hstart : Reachable system postBootDmg := .start rfl
  have hrun := run_advances hstart rfl _ (keepsLcdOn_replicate_dot (n := 65663))
  have hposition : (run (.replicate 65663 .dot) postBootDmg).ppu.position = 65663 := by
    rw [hrun.position, dots, List.countP_replicate]
    rfl
  -- the last dot enters line 144
  obtain ⟨f, hlog⟩ : ∃ f, ((run (.replicate 65663 .dot) postBootDmg).ppu.step .dot).log =
      [.frame f] :=
    (dot_marks (reachable_run hstart _) hrun.enabled).frame ⟨rfl, by rw [hposition]⟩
  refine ⟨f, ?_⟩
  rw [List.replicate_succ' (n := 65663), run_append, Tick.andThen_log, run_singleton, hlog]

/-- A frame's worth of dots after the boot ROM a frame waits to be taken. -/
theorem exists_pendingFrame :
    ∃ f, (run (.replicate dotsPerFrame .dot) postBootDmg).ppu.pendingFrame = some f := by
  obtain ⟨f, hfirst⟩ := log_firstVblank
  have hsplit : dotsPerFrame = 65664 + 4560 := rfl
  have hpublishes := publishes_run (.replicate dotsPerFrame .dot)
    (fun op hop => by rw [List.eq_of_mem_replicate hop]; exact nofun) postBootDmg
  have hframe : f ∈ Scanout.frames (run (.replicate dotsPerFrame .dot) postBootDmg).log := by
    rw [hsplit, List.replicate_add, run_append, Tick.andThen_log, hfirst, Scanout.frames_append,
      Scanout.frames_append]
    exact List.mem_append_left _ (List.mem_append_right _ List.mem_cons_self)
  obtain ⟨g, hlast⟩ : ∃ g,
      (Scanout.frames (run (.replicate dotsPerFrame .dot) postBootDmg).log).getLast? = some g :=
    ⟨_, List.getLast?_eq_some_getLast (List.ne_nil_of_mem hframe)⟩
  refine ⟨g, ?_⟩
  rw [hpublishes.pending, hlast]
  rfl

/-- From the end of the boot ROM 70224 dots lead back to position 0, and the dot after 65663
hands out frame 1. -/
theorem raster_progress_oneFrame :
    (run (.replicate dotsPerFrame .dot) postBootDmg).ppu.position = 0 ∧
      ∃ f, ((run (.replicate 65663 .dot) postBootDmg).ppu.step .dot).ppu.takeFrame.1 = some f ∧
        f.sequence = (run (.replicate 65663 .dot) postBootDmg).ppu.nextSequence := by
  have h := fun n => raster_progress (p := postBootDmg) (.start rfl) rfl (.replicate n .dot)
    keepsLcdOn_replicate_dot
  have hposition : ∀ n, n < dotsPerFrame →
      (run (.replicate n .dot) postBootDmg).ppu.position = n := by
    intro n hn
    rw [(h n).1.1, dots, List.countP_replicate]
    show (0 + n) % dotsPerFrame = n
    rw [Nat.zero_add, Nat.mod_eq_of_lt hn]
  constructor
  · rw [(h dotsPerFrame).1.1, dots, List.countP_replicate]
    rfl
  · have henters : EntersVblank (run (.replicate 65663 .dot) postBootDmg).ppu .dot :=
      ⟨rfl, by rw [hposition 65663 (by decide)]⟩
    obtain ⟨f, -, htaken, hsequence, -⟩ :=
      (((h 65663).2.1 .dot keepsLcdOn_dot).1).entered henters
    exact ⟨f, htaken, hsequence⟩

end Ppu

end Pockiva
