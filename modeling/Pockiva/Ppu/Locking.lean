import Pockiva.Ppu.Reachable

/-! # The mode and the memories it locks

The mode is a stored field that changes at single dots; what the CPU may touch is computed
from the dot.  On the timeline the two agree (`locking`), but for the dots on which writes
still get through: dot 80, and the first four of the OAM scan.
-/
namespace Pockiva

open Transition

namespace Ppu

/-- FF41 shows the mode. -/
def Reports (p : Ppu) (mode : LcdMode) : Prop := p.read 0xff41 &&& 3 = mode.bits

/-- A read returns what is stored, and a write stores it. -/
def VramOpen (p : Ppu) : Prop :=
  ∀ address, inVram address → p.read address = p.vram.get (address - 0x8000).toNat ∧
    ∀ value, p.write address value =
      .quiet { p with vram := p.vram.set (address - 0x8000).toNat value }

def OamOpen (p : Ppu) : Prop :=
  ∀ address, inOam address → p.read address = p.oam.get (address - 0xfe00).toNat ∧
    ∀ value, p.write address value =
      .quiet { p with oam := p.oam.set (address - 0xfe00).toNat value }

/-- **What the mode says about the memories.** -/
structure LockLaw (p : Ppu) : Prop where
  drawing : p.lcdEnabled = true → p.internalLine < 144 →
    (p.mode = .drawing ↔ p.mode3StartDot ≤ p.dot ∧ p.dot < p.visibleHblankDot)
  mode3 : p.Reports .drawing → ∀ address, inVram address ∨ inOam address →
    p.read address = 0xff ∧ (p.dot ≠ 80 → ∀ value, p.write address value = .quiet p)
  mode2 : p.Reports .oamScan → ∀ address, inOam address →
    p.read address = 0xff ∧ (4 ≤ p.dot → p.dot ≠ 80 → ∀ value, p.write address value = .quiet p)
  unlocked : p.Reports .vBlank ∨ p.lcdEnabled = false → p.VramOpen ∧ p.OamOpen

/-! ## The mode -/

theorem reports_iff (p : Ppu) (mode : LcdMode) : p.Reports mode ↔ p.mode = mode := by
  have henables : p.registers.stat.enables &&& 3 = 0 := by
    rw [Stat.enables, BitVec.and_assoc]
    exact BitVec.and_zero
  have hflag : (byteOfBool p.lycEqual <<< 2) &&& 3 = 0 := by cases p.lycEqual <;> rfl
  have hbits : p.read 0xff41 &&& 3 = p.mode.bits &&& 3 := by
    rw [read_stat, readStat, BitVec.and_comm, BitVec.and_or_distrib_left,
      BitVec.and_or_distrib_left, BitVec.and_or_distrib_left,
      BitVec.and_comm 3 p.registers.stat.enables, henables,
      BitVec.and_comm 3 (byteOfBool p.lycEqual <<< 2), hflag, BitVec.and_comm 3 p.mode.bits]
    exact BitVec.zero_or
  rw [Reports, hbits]
  cases p.mode <;> cases mode <;> decide

/-- Mode 3 is a part of the visible lines that the timeline bounds. -/
theorem mode_eq_drawing_iff {p : Ppu} (h : p.raster.Timeline) (hline : p.internalLine < 144) :
    p.mode = .drawing ↔ p.mode3StartDot ≤ p.dot ∧ p.dot < p.visibleHblankDot := by
  cases h.visible hline with
  | scan hdot hmode =>
    have hdot' : p.dot < p.mode3StartDot := hdot
    have hmode' : p.mode = p.raster.scanMode := hmode
    constructor
    · intro hdrawing
      rw [hdrawing, Raster.scanMode] at hmode'
      split at hmode'
      · cases hmode'
      · cases hmode'
    · rintro ⟨hstart, -⟩
      omega
  | drawing hstart hdot hmode => exact ⟨fun _ => ⟨hstart, hdot⟩, fun _ => hmode⟩
  | hblank hdot hmode =>
    have hdot' : p.visibleHblankDot ≤ p.dot := hdot
    have hmode' : p.mode = .hBlank := hmode
    constructor
    · intro hdrawing
      rw [hdrawing] at hmode'
      cases hmode'
    · rintro ⟨-, hlt⟩
      omega

/-- Where the OAM is scanned. -/
theorem scan_of_mode {p : Ppu} (h : p.raster.Timeline) (hmode : p.mode = .oamScan) :
    p.internalLine < 144 ∧ p.startupLine = false ∧ p.dot < p.mode3StartDot ∧
      p.visibleHblankDot = 252 ∧ p.mode3EndDot = 252 := by
  have hline : p.internalLine < 144 := by
    refine Nat.lt_of_not_le fun hge => ?_
    have hvblank : p.mode = .vBlank := h.vblank hge
    rw [hmode] at hvblank
    cases hvblank
  cases h.visible hline with
  | scan hdot hscan hend hvisible =>
    have hscan' : p.mode = p.raster.scanMode := hscan
    refine ⟨hline, ?_, hdot, hvisible, hend⟩
    rw [hmode, Raster.scanMode] at hscan'
    split at hscan'
    · cases hscan'
    · rename_i hnot
      have hstartup : ¬ p.startupLine = true := fun hs => hnot (.inl hs)
      exact Bool.eq_false_iff.mpr hstartup
  | drawing _ _ hdrawing =>
    have hdrawing' : p.mode = .drawing := hdrawing
    rw [hmode] at hdrawing'
    cases hdrawing'
  | hblank _ hhblank =>
    have hhblank' : p.mode = .hBlank := hhblank
    rw [hmode] at hhblank'
    cases hhblank'

/-- The vertical blank has no visible line. -/
theorem line_of_vblank {p : Ppu} (h : p.raster.Timeline) (hmode : p.mode = .vBlank) :
    144 ≤ p.internalLine := by
  refine Nat.le_of_not_lt fun hline => ?_
  cases h.visible hline with
  | scan _ hscan =>
    have hscan' : p.mode = p.raster.scanMode := hscan
    rw [hmode, Raster.scanMode] at hscan'
    split at hscan'
    · cases hscan'
    · cases hscan'
  | drawing _ _ hdrawing =>
    have hdrawing' : p.mode = .drawing := hdrawing
    rw [hmode] at hdrawing'
    cases hdrawing'
  | hblank _ hhblank =>
    have hhblank' : p.mode = .hBlank := hhblank
    rw [hmode] at hhblank'
    cases hhblank'

/-! ## The memories -/

/-- An address of a memory is not one of a register. -/
theorem not_register {address : Word} (h : inVram address ∨ inOam address) :
    address.toNat < 0xff40 := by
  have hle : address ≤ 0xfe9f := by
    rcases h with ⟨-, hle⟩ | ⟨-, hle⟩
    · exact BitVec.le_trans hle (by decide)
    · exact hle
  exact Nat.lt_of_le_of_lt (BitVec.le_def.mp hle) (by decide)

theorem not_both {P : Prop} {b : Bool} (h : P → b = false) : ¬ (P ∧ b = true) := by
  rintro ⟨hp, hb⟩
  rw [h hp] at hb
  cases hb

/-- A locked memory reads as FF. -/
theorem read_locked {p : Ppu} {address : Word} (h : inVram address ∨ inOam address)
    (hvram : inVram address → p.vramCpuAccessible = false)
    (hoam : inOam address → p.oamCpuAccessible = false) : p.read address = 0xff := by
  have hlt := not_register h
  rw [read, if_neg (not_both hvram), if_neg (not_both hoam)]
  split
  case h_13 => rfl
  all_goals omega

/-- A write to a locked memory is lost. -/
theorem write_locked {p : Ppu} {address : Word} (h : inVram address ∨ inOam address)
    (hvram : inVram address → p.vramCpuWriteAccessible = false)
    (hoam : inOam address → p.oamCpuWriteAccessible = false) (value : Byte) :
    p.write address value = .quiet p := by
  have hlt := not_register h
  have hne : ∀ register : Word, 0xff40 ≤ register.toNat → address ≠ register := by
    rintro register hle rfl
    omega
  have hregisters : writeRegister p.registers address value = p.registers := by
    unfold writeRegister
    split
    case h_9 => rfl
    all_goals omega
  rw [write, if_neg (not_both hvram), if_neg (not_both hoam), if_neg (hne _ (by decide)),
    if_neg (hne _ (by decide)), if_neg (hne _ (by decide)), hregisters]

theorem open_of_accessible {p : Ppu} (hvram : p.vramCpuAccessible = true)
    (hoam : p.oamCpuAccessible = true) : p.VramOpen ∧ p.OamOpen := by
  have hvramWrite : p.vramCpuWriteAccessible = true := by
    rw [vramCpuWriteAccessible, hvram, Bool.true_or]
  have hoamWrite : p.oamCpuWriteAccessible = true := by
    rw [oamCpuWriteAccessible, hoam, Bool.true_or]
  refine ⟨fun address h => ⟨if_pos ⟨h, hvram⟩, fun value => if_pos ⟨h, hvramWrite⟩⟩, ?_⟩
  intro address h
  have hnot : ¬ inVram address := fun hv => absurd (BitVec.le_trans h.1 hv.2) (by decide)
  refine ⟨?_, fun value => ?_⟩
  · rw [read, if_neg fun hc => hnot hc.1, if_pos ⟨h, hoam⟩]
  · rw [write, if_neg fun hc => hnot hc.1, if_pos ⟨h, hoamWrite⟩]

/-- The end of mode 3 for the CPU is not before the one of the mode. -/
theorem le_accessHblankDot {p : Ppu} (h : p.visibleHblankDot ≤ p.mode3EndDot) :
    p.visibleHblankDot ≤ p.accessHblankDot := by
  unfold accessHblankDot
  split
  · exact Nat.le_refl _
  · exact h

/-- In mode 3 both memories are locked. -/
theorem locked_of_drawing {p : Ppu} (h : p.raster.Timeline) (henabled : p.lcdEnabled = true)
    (hmode : p.mode = .drawing) :
    (p.vramCpuAccessible = false ∧ p.oamCpuAccessible = false) ∧
      (p.dot ≠ 80 → p.vramCpuWriteAccessible = false ∧ p.oamCpuWriteAccessible = false) := by
  have hline : p.internalLine < 144 := by
    refine Nat.lt_of_not_le fun hge => ?_
    have hvblank : p.mode = .vBlank := h.vblank hge
    rw [hmode] at hvblank
    cases hvblank
  obtain ⟨hstart, hdot⟩ := (mode_eq_drawing_iff h hline).mp hmode
  obtain ⟨-, -, hends, -⟩ := stage_dots h hline
  have haccess := le_accessHblankDot hends
  have hb : 80 ≤ p.mode3StartDot ∧ p.mode3StartDot ≤ 84 := h.start_bounds
  have h80 : mode2Dots = 80 := rfl
  have hnot : ¬ (p.lcdEnabled = false ∨ visibleLines ≤ p.internalLine) := by
    rw [henabled]
    rintro (hc | hc)
    · cases hc
    · exact absurd hline (Nat.not_lt_of_le hc)
  have hvram : p.vramCpuAccessible = false := by
    rw [vramCpuAccessible, if_neg hnot]
    split
    · exact decide_eq_false (by omega)
    · exact decide_eq_false (by omega)
  have hoam : p.oamCpuAccessible = false := by
    rw [oamCpuAccessible, if_neg hnot]
    split
    · exact decide_eq_false (by omega)
    · exact decide_eq_false (by omega)
  refine ⟨⟨hvram, hoam⟩, fun hne => ⟨?_, ?_⟩⟩
  · rw [vramCpuWriteAccessible, hvram, decide_eq_false hne, Bool.and_false, Bool.or_false]
  · rw [oamCpuWriteAccessible, hoam,
      decide_eq_false (p := p.dot < 4 ∨ p.dot = mode2Dots) (by omega), Bool.and_false,
      Bool.or_false]

/-- During the scan OAM is locked. -/
theorem locked_of_scan {p : Ppu} (h : p.raster.Timeline) (henabled : p.lcdEnabled = true)
    (hmode : p.mode = .oamScan) :
    p.oamCpuAccessible = false ∧
      (4 ≤ p.dot → p.dot ≠ 80 → p.oamCpuWriteAccessible = false) := by
  obtain ⟨hline, hstartup, hdot, hvisible, hend⟩ := scan_of_mode h hmode
  have haccess := le_accessHblankDot (p := p) (by omega)
  have hb : 80 ≤ p.mode3StartDot ∧ p.mode3StartDot ≤ 84 := h.start_bounds
  have h80 : mode2Dots = 80 := rfl
  have hnot : ¬ (p.lcdEnabled = false ∨ visibleLines ≤ p.internalLine) := by
    rw [henabled]
    rintro (hc | hc)
    · cases hc
    · exact absurd hline (Nat.not_lt_of_le hc)
  have hoam : p.oamCpuAccessible = false := by
    rw [oamCpuAccessible, if_neg hnot, hstartup]
    exact decide_eq_false (by omega)
  refine ⟨hoam, fun hlow hne => ?_⟩
  rw [oamCpuWriteAccessible, hoam, decide_eq_false (p := p.dot < 4 ∨ p.dot = mode2Dots) (by omega),
    Bool.and_false, Bool.or_false]

/-! ## A stopped raster -/

/-- While the LCD is off the mode is 0. -/
theorem StepCase.stopped_mode {p : Ppu} {op : Op} {t : Tick}
    (ht : p.lcdEnabled = true → p.raster.Timeline)
    (h : p.lcdEnabled = false → p.mode = .hBlank) (e : StepCase p op t)
    (hdisabled : t.ppu.lcdEnabled = false) : t.ppu.mode = .hBlank := by
  cases e with
  | dot _ he =>
    rw [lcdEnabled, (tickOne_event (ht he)).registers] at hdisabled
    exact absurd (he.symm.trans hdisabled) (by decide)
  | stopped _ hd => exact h hd
  | writeLcdc value =>
    obtain ⟨h1, h2, ht⟩ | ⟨h1, h2, ht⟩ | ⟨h12, ht⟩ := p.writeLcdc_cases value
    · rw [ht]
      rfl
    · rw [ht] at hdisabled
      exact absurd (h2.symm.trans hdisabled) (by decide)
    · rw [ht] at hdisabled ⊢
      exact h (h12.trans hdisabled)
  | writeStat value => exact h hdisabled
  | writeLyc value =>
    rw [lcdEnabled, writeLyc_lcdc] at hdisabled
    have hmode : (p.writeLyc value).ppu.mode = p.mode :=
      congrArg Raster.mode (writeLyc_raster p value)
    rw [hmode]
    exact h hdisabled
  | untouched q _ _ hq =>
    rw [Tick.quiet_ppu, lcdEnabled, hq.lcdc] at hdisabled
    have hmode : q.mode = p.mode := congrArg Raster.mode hq.raster
    rw [Tick.quiet_ppu, hmode]
    exact h hdisabled

theorem mode_of_disabled {p : Ppu} (h : Reachable system p) (hdisabled : p.lcdEnabled = false) :
    p.mode = .hBlank := by
  refine (h.invariant (P := fun p => Reachable system p ∧
    (p.lcdEnabled = false → p.mode = .hBlank)) ?_ ?_).2 hdisabled
  · rintro p rfl
    exact ⟨.start rfl, fun hd => absurd hd (by decide)⟩
  · rintro p op q ⟨hr, hp⟩ rfl
    exact ⟨hr.ofNext op, (step_cases p op).stopped_mode (timeline_of_reachable hr) hp⟩

/-- A mode other than 0 is one of a running raster. -/
theorem enabled_of_mode {p : Ppu} (h : Reachable system p) (hmode : p.mode ≠ .hBlank) :
    p.lcdEnabled = true := by
  cases hd : p.lcdEnabled with
  | true => rfl
  | false => exact absurd (mode_of_disabled h hd) hmode

/-- **Main result.**  The mode FF41 shows and what the CPU may touch agree in every reachable
state. -/
theorem locking {p : Ppu} (h : Reachable system p) : p.LockLaw := by
  have hstate : p.mode ≠ .hBlank → p.lcdEnabled = true ∧ p.raster.Timeline := fun hmode =>
    have henabled := enabled_of_mode h hmode
    ⟨henabled, timeline_of_reachable h henabled⟩
  refine ⟨fun henabled hline => mode_eq_drawing_iff (timeline_of_reachable h henabled) hline,
    ?_, ?_, ?_⟩
  · intro hreports address haddress
    have hmode := (p.reports_iff _).mp hreports
    obtain ⟨henabled, ht⟩ := hstate (by rw [hmode]; decide)
    obtain ⟨⟨hvram, hoam⟩, hwrite⟩ := locked_of_drawing ht henabled hmode
    refine ⟨read_locked haddress (fun _ => hvram) fun _ => hoam, fun hne value => ?_⟩
    exact write_locked haddress (fun _ => (hwrite hne).1) (fun _ => (hwrite hne).2) value
  · intro hreports address haddress
    have hmode := (p.reports_iff _).mp hreports
    obtain ⟨henabled, ht⟩ := hstate (by rw [hmode]; decide)
    obtain ⟨hoam, hwrite⟩ := locked_of_scan ht henabled hmode
    have hnot : ¬ inVram address := fun hv =>
      absurd (BitVec.le_trans haddress.1 hv.2) (by decide)
    refine ⟨read_locked (.inr haddress) (fun hv => absurd hv hnot) fun _ => hoam, ?_⟩
    intro hlow hne value
    exact write_locked (.inr haddress) (fun hv => absurd hv hnot) (fun _ => hwrite hlow hne) value
  · intro hunlocked
    have hout : p.lcdEnabled = false ∨ visibleLines ≤ p.internalLine := by
      rcases hunlocked with hreports | hdisabled
      · have hmode := (p.reports_iff _).mp hreports
        obtain ⟨-, ht⟩ := hstate (by rw [hmode]; decide)
        exact .inr (line_of_vblank ht hmode)
      · exact .inl hdisabled
    exact open_of_accessible (if_pos hout) (if_pos hout)

/-- The end of the boot ROM: the first scan. -/
theorem locking_postBootDmg : postBootDmg.Reports .oamScan ∧ postBootDmg.read 0xfe00 = 0xff :=
  have hreports : postBootDmg.Reports .oamScan := (reports_iff _ _).mpr rfl
  ⟨hreports, ((locking (p := postBootDmg) (.start rfl)).mode2 hreports 0xfe00 (by decide)).1⟩

end Ppu

end Pockiva
