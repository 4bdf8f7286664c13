import Pockiva.BusFrame
import Pockiva.Ppu.Effects

/-! # OAM DMA

A write of `v` to FF46 starts a transfer: in each of the next 160 M-cycles one byte of
the page `v` moves to OAM, and the CPU reaches HRAM and FF46 only.  The transfer is
followed along any run in which FF46 is not written again (`oam_dma`).
-/
namespace Pockiva

open Transition

variable {M : MixerModel}

namespace MachineBus

/-! ## Runs on the bus -/

/-- The operation takes an M-cycle. -/
def Op.clocks : Op → Bool
  | .cpu (.read8 _) => true
  | .cpu (.write8 _ _) => true
  | .cpu .idleMCycle => true
  | _ => false

/-- The operation neither writes FF46 nor resets the machine. -/
def Op.KeepsDma : Op → Prop
  | .cpu (.write8 address _) => address ≠ 0xff46
  | .reset _ _ => False
  | _ => True

/-- The M-cycles of a sequence of operations. -/
def mCycles (ops : List Op) : Nat := ops.countP Op.clocks

/-! ## The DMA unit -/

/-- The unit after `k` M-cycles of a transfer from page `v`. -/
def Transferring (v : Byte) (k : Nat) (d : OamDma) : Prop :=
  if k < 160 then d = ⟨v, BitVec.ofNat 8 k, true⟩ else d.active = false

theorem Transferring.active {v : Byte} {k : Nat} {d : OamDma} (h : Transferring v k d) :
    d.active = decide (k < 160) := by
  unfold Transferring at h
  by_cases hk : k < 160
  · rw [if_pos hk] at h
    rw [h, decide_eq_true hk]
  · rw [if_neg hk] at h
    rw [h, decide_eq_false hk]

theorem Transferring.eq {v : Byte} {k : Nat} {d : OamDma} (h : Transferring v k d) (hk : k < 160) :
    d = ⟨v, BitVec.ofNat 8 k, true⟩ := by
  unfold Transferring at h
  rwa [if_pos hk] at h

/-- An M-cycle of the unit. -/
theorem Transferring.advance {v : Byte} {k : Nat} {d : OamDma} (h : Transferring v k d) :
    Transferring v (k + 1) (if d.active then d.advance else d) := by
  rw [h.active]
  by_cases hk : k < 160
  · rw [h.eq hk, decide_eq_true hk, if_pos rfl]
    have hindex : (BitVec.ofNat 8 k + 1 : Byte) = BitVec.ofNat 8 (k + 1) := by
      rw [BitVec.ofNat_add]
      rfl
    unfold Transferring OamDma.advance
    dsimp only
    rw [hindex]
    by_cases hlast : k + 1 < 160
    · have hne : BitVec.ofNat 8 (k + 1) ≠ 160 := by
        intro heq
        have hnat : (k + 1) % 256 = 160 := congrArg BitVec.toNat heq
        omega
      rw [if_pos hlast, if_neg hne]
    · obtain rfl : k = 159 := by omega
      rfl
  · rw [decide_eq_false hk, if_neg (by decide)]
    unfold Transferring at h ⊢
    rw [if_neg hk] at h
    rw [if_neg (by omega)]
    exact h

/-- Only a write to FF46 reaches the DMA unit. -/
theorem writeUnclocked_dma (b : MachineBus M) {address : Word} (h : address ≠ 0xff46)
    (value : Byte) : (b.writeUnclocked address value).dma = b.dma := by
  have hcase := b.writeUnclocked_cases address value
  generalize b.writeUnclocked address value = c at hcase
  cases hcase with
  | dma h' => exact absurd h' h
  | _ => rfl

theorem write8_dma (b : MachineBus M) {address : Word} (h : address ≠ 0xff46) (value : Byte) :
    (b.write8 address value).dma = if b.dma.active then b.dma.advance else b.dma := by
  rw [write8]
  split
  · split
    · rw [tickMCycle_dma, writeUnclocked_dma _ h]
    · rw [writeUnclocked_dma _ h, tickMCycle_dma]
  · exact b.tickMCycle_dma

/-- **An operation clocks the unit if it takes an M-cycle, and else leaves it alone.** -/
theorem apply_dma (b : MachineBus M) {op : Op} (h : op.KeepsDma) :
    (b.apply op).dma =
      if op.clocks then (if b.dma.active then b.dma.advance else b.dma) else b.dma := by
  cases op with
  | cpu op =>
    cases op with
    | read8 address => exact b.tickMCycle_dma
    | write8 address value => exact b.write8_dma h value
    | idleMCycle => exact b.tickMCycle_dma
    | acknowledgeInterrupt i => rfl
    | resetDivider => rfl
  | reset now state => cases h
  | setUnixSeconds now => rfl
  | setJoypadState state => rfl
  | takeFrame => rfl
  | drainAudio => rfl

/-- **The write of FF46 starts the unit**, whatever it was doing. -/
theorem write8_ff46_dma (b : MachineBus M) (value : Byte) :
    (b.write8 0xff46 value).dma = ⟨value, 0, true⟩ := by
  have hallowed : b.writeAllowed 0xff46 = true := by simp [writeAllowed]
  rw [write8, if_pos hallowed, if_neg (by decide)]
  have hcase := b.tickMCycle.writeUnclocked_cases 0xff46 value
  have hvideo : ¬ (inRom 0xff46 ∨ inExternalRam 0xff46) := by decide
  rw [writeUnclocked, if_neg hvideo, if_pos (by decide)]
  rfl

theorem transferring_run {v : Byte} {b : MachineBus M} {k : Nat} (h : Transferring v k b.dma)
    {ops : List Op} (hops : ∀ op ∈ ops, op.KeepsDma) :
    Transferring v (k + mCycles ops) (b.run ops).dma := by
  induction ops generalizing b k with
  | nil => exact h
  | cons op ops ih =>
    have hstep : Transferring v (k + if op.clocks then 1 else 0) (b.apply op).dma := by
      rw [b.apply_dma (hops op List.mem_cons_self)]
      cases op.clocks with
      | true => exact h.advance
      | false => exact h
    have hrest := ih hstep fun op' hop' => hops op' (List.mem_cons_of_mem _ hop')
    have hcount : k + mCycles (op :: ops) = (k + if op.clocks then 1 else 0) + mCycles ops := by
      rw [mCycles, List.countP_cons, mCycles]
      omega
    rw [hcount]
    exact hrest

/-! ## OAM -/

/-- The byte the unit reads in this M-cycle: after the timer was clocked, before the PPU
and the APU are. -/
def dmaByte (b : MachineBus M) (v : Byte) (k : Nat) : Byte :=
  b.afterTimer.readUnclocked (wordOfBytes v (BitVec.ofNat 8 k))

theorem tickMCycle_video (b : MachineBus M) :
    b.tickMCycle.video = (b.afterTimer.tickDma.video.tick 4).ppu := by
  obtain ⟨interrupts, heq⟩ := tickMCycle_eq b
  rw [heq]

/-- An M-cycle of a transfer writes one byte of OAM, any other none. -/
theorem Transferring.oam_tickMCycle {v : Byte} {k : Nat} {b : MachineBus M}
    (h : Transferring v k b.dma) :
    b.tickMCycle.video.oam =
      if k < 160 then b.video.oam.set k (b.dmaByte v k) else b.video.oam := by
  rw [tickMCycle_video, (Ppu.Plain.tick _ 4).oam]
  by_cases hk : k < 160
  · have hdma : b.afterTimer.dma = ⟨v, BitVec.ofNat 8 k, true⟩ := h.eq hk
    have hactive : b.afterTimer.dma.active = true := by rw [hdma]
    have hindex : (BitVec.ofNat 8 k).toNat = k := by
      rw [BitVec.toNat_ofNat]
      omega
    rw [tickDma_of_active hactive, if_pos hk]
    dsimp only [Ppu.dmaWriteOam]
    rw [hdma, hindex]
    rfl
  · have hidle : b.afterTimer.dma.active = false := by
      have hdecide := h.active
      rw [decide_eq_false hk] at hdecide
      exact hdecide
    rw [tickDma_of_inactive hidle, if_neg hk]
    rfl

/-! ## The CPU during a transfer -/

/-- Outside HRAM the CPU reads FF. -/
theorem read8_of_active {b : MachineBus M} (h : b.dma.active = true) {address : Word}
    (ha : ¬ inHram address) : (b.read8 address).1 = 0xff :=
  if_pos ⟨h, ha⟩

/-- Outside HRAM and FF46 a write of the CPU only takes its M-cycle. -/
theorem write8_of_active {b : MachineBus M} (h : b.dma.active = true) {address : Word}
    (ha : ¬ inHram address) (hne : address ≠ 0xff46) (value : Byte) :
    b.write8 address value = b.tickMCycle := by
  have hblocked : b.writeAllowed address = false := by
    rw [writeAllowed, h, decide_eq_false ha, beq_false_of_ne hne]
    rfl
  rw [write8, hblocked, if_neg (by decide)]

/-- Only an address of the PPU reaches the PPU. -/
theorem writeUnclocked_video (b : MachineBus M) {address : Word} (h : ¬ inVideo address)
    (value : Byte) : (b.writeUnclocked address value).video = b.video := by
  have hcase := b.writeUnclocked_cases address value
  generalize b.writeUnclocked address value = c at hcase
  cases hcase with
  | video h' _ => exact absurd h' h
  | dma h' =>
    subst h'
    exact absurd (by decide) h
  | _ => rfl

/-- A write to HRAM takes its M-cycle and then changes HRAM. -/
theorem write8_hram (b : MachineBus M) {address : Word} (ha : inHram address) (value : Byte) :
    (b.write8 address value).video = b.tickMCycle.video := by
  have hearly : ¬ writesEarly address := by
    unfold writesEarly Ppu.inVram Ppu.inOam
    unfold inHram at ha
    bv_omega
  have hvideo : ¬ inVideo address := by
    unfold inVideo Ppu.inVram Ppu.inOam
    unfold inHram at ha
    bv_omega
  have hallowed : b.writeAllowed address = true := by simp [writeAllowed, ha]
  rw [write8, if_pos hallowed, if_neg hearly, writeUnclocked_video _ hvideo]

/-- **During a transfer OAM changes in M-cycles only, and by the transfer only.** -/
theorem oam_apply {b : MachineBus M} (hactive : b.dma.active = true) {op : Op} (h : op.KeepsDma) :
    (b.apply op).video.oam = if op.clocks then b.tickMCycle.video.oam else b.video.oam := by
  cases op with
  | cpu op =>
    cases op with
    | read8 address => rfl
    | write8 address value =>
      by_cases ha : inHram address
      · exact congrArg Ppu.oam (b.write8_hram ha value)
      · exact congrArg (fun c : MachineBus M => c.video.oam) (write8_of_active hactive ha h value)
    | idleMCycle => rfl
    | acknowledgeInterrupt i => rfl
    | resetDivider => rfl
  | reset now state => cases h
  | setUnixSeconds now => rfl
  | setJoypadState state => rfl
  | takeFrame => rfl
  | drainAudio => rfl

/-- An operation that takes no M-cycle never changes OAM. -/
theorem oam_apply_unclocked (b : MachineBus M) {op : Op} (h : op.KeepsDma)
    (hclocks : op.clocks = false) : (b.apply op).video.oam = b.video.oam := by
  cases op with
  | cpu op =>
    cases op with
    | acknowledgeInterrupt i => rfl
    | resetDivider => rfl
    | _ => cases hclocks
  | reset now state => cases h
  | setUnixSeconds now => rfl
  | setJoypadState state => rfl
  | takeFrame => rfl
  | drainAudio => rfl

/-- The byte the unit reads in each M-cycle of a run, from M-cycle `k` of the transfer on. -/
def dmaBytes (v : Byte) : Nat → MachineBus M → List Op → List Byte
  | _, _, [] => []
  | k, b, op :: ops =>
    if op.clocks then b.dmaByte v k :: dmaBytes v (k + 1) (b.apply op) ops
    else dmaBytes v k (b.apply op) ops

/-- **The first `k` M-cycles fill the first `k` bytes of OAM**, and no others. -/
theorem Transferring.oam_run {v : Byte} {b : MachineBus M} {k : Nat}
    (h : Transferring v k b.dma) {ops : List Op} (hops : ∀ op ∈ ops, op.KeepsDma)
    (hk : k + mCycles ops ≤ 160) (j : Nat) :
    (b.run ops).video.oam.get j =
      if k ≤ j ∧ j < k + mCycles ops then (dmaBytes v k b ops).getD (j - k) 0
      else b.video.oam.get j := by
  induction ops generalizing b k with
  | nil =>
    have hnone : ¬ (k ≤ j ∧ j < k + mCycles []) := by
      simp [mCycles]
    rw [if_neg hnone]
    rfl
  | cons op ops ih =>
    have hop := hops op List.mem_cons_self
    have hrest : ∀ op' ∈ ops, op'.KeepsDma := fun op' hop' => hops op' (List.mem_cons_of_mem _ hop')
    have hstep : Transferring v (k + if op.clocks then 1 else 0) (b.apply op).dma := by
      rw [b.apply_dma hop]
      cases op.clocks with
      | true => exact h.advance
      | false => exact h
    have hcount : mCycles (op :: ops) = mCycles ops + if op.clocks then 1 else 0 := by
      rw [mCycles, List.countP_cons, mCycles]
    have hrun : b.run (op :: ops) = (b.apply op).run ops := rfl
    rw [hcount] at hk ⊢
    rw [hrun, dmaBytes]
    cases hclocks : op.clocks with
    | true =>
      rw [hclocks, if_pos rfl] at hk hstep
      rw [if_pos rfl, if_pos rfl, ih hstep hrest (by omega)]
      have hlt : k < 160 := by omega
      have hactive : b.dma.active = true := by rw [h.active, decide_eq_true hlt]
      have hoam := oam_apply hactive hop
      rw [hclocks, if_pos rfl, h.oam_tickMCycle, if_pos hlt] at hoam
      by_cases hjk : j = k
      · subst hjk
        rw [if_neg (by omega), if_pos (by omega), hoam, Bytes.get_set_self _ hlt, Nat.sub_self]
        rfl
      · have hsame : (b.apply op).video.oam.get j = b.video.oam.get j := by
          rw [hoam, Bytes.get_set_of_ne _ hjk]
        by_cases hin : k + 1 ≤ j ∧ j < k + 1 + mCycles ops
        · have hindex : j - k = j - (k + 1) + 1 := by omega
          rw [if_pos hin, if_pos (by omega), hindex, List.getD_cons_succ]
        · rw [if_neg hin, if_neg (by omega), hsame]
    | false =>
      rw [hclocks] at hk hstep
      have hoam := b.oam_apply_unclocked hop hclocks
      simp only [Bool.false_eq_true, if_false, Nat.add_zero] at hk hstep ⊢
      rw [ih hstep hrest hk, hoam]

end MachineBus

/-! ## The law -/

open MachineBus

/-- A machine `k` M-cycles after the write of `v` to FF46. -/
structure OamTransfer (v : Byte) (k : Nat) (b : MachineBus M) : Prop where
  /-- The transfer takes 160 M-cycles. -/
  active : b.dma.active = decide (k < 160)
  /-- The next M-cycle moves one byte, unless the transfer is over. -/
  moves : b.tickMCycle.video.oam =
    if k < 160 then b.video.oam.set k (b.dmaByte v k) else b.video.oam
  read : k < 160 → ∀ address, ¬ inHram address → (b.read8 address).1 = 0xff
  write : k < 160 → ∀ address value, ¬ inHram address → address ≠ 0xff46 →
    b.write8 address value = b.tickMCycle
  restart : ∀ value, (b.write8 0xff46 value).dma = ⟨value, 0, true⟩

/-- The unit addresses a byte of OAM. -/
def IndexInOam (b : MachineBus M) : Prop := b.dma.active = true → b.dma.index.toNat < 160

/-- The index of the unit stays within OAM. -/
theorem index_lt_of_reachable {rom : List Byte} {sampleRate : Nat} {b : MachineBus M}
    (h : Reachable (MachineBus.system M rom sampleRate) b) : IndexInOam b := by
  have hkept : Preserved (M := M) IndexInOam := by
    constructor
    case tickMCycle =>
      intro b hb
      rw [IndexInOam, tickMCycle_dma]
      by_cases hb' : b.dma.active = true
      · have hlt := hb hb'
        rw [if_pos hb']
        unfold OamDma.advance
        dsimp only
        by_cases hlast : b.dma.index + 1 = 160
        · rw [if_pos hlast]
          exact fun hfalse => absurd hfalse (by decide)
        · intro _
          have hne : (b.dma.index + 1).toNat ≠ 160 := fun heq => hlast (BitVec.eq_of_toNat_eq heq)
          have hnext : (b.dma.index + 1).toNat = b.dma.index.toNat + 1 := by
            rw [BitVec.toNat_add, Nat.mod_eq_of_lt]
            · rfl
            · exact Nat.lt_of_le_of_lt (Nat.succ_le_succ hlt.le) (by decide)
          omega
      · rw [if_neg hb']
        exact hb
    case writeUnclocked =>
      intro b address value hb
      have hcase := b.writeUnclocked_cases address value
      generalize b.writeUnclocked address value = c at hcase
      cases hcase with
      | dma _ => exact fun _ => (by decide : (0 : Byte).toNat < 160)
      | _ => exact hb
    case reset =>
      intro b now state _ hactive
      have hidle : (b.reset now state).dma = .idle := rfl
      rw [hidle] at hactive
      cases hactive
    all_goals
      intros
      assumption
  exact hkept.invariant h fun _ _ _ _ hactive => nomatch hactive

/-- **OAM DMA.**  In any state of the machine, after a write of `v` to FF46 and any
operations that do not write FF46 again, as many M-cycles as have passed have moved one
byte each; the first 160 of them fill OAM in order, from what the machine showed at that
moment; and the unit never addresses a byte outside OAM. -/
theorem oam_dma {rom : List Byte} {sampleRate : Nat} {b : MachineBus M} {ops : List MachineBus.Op}
    (h : Reachable (MachineBus.system M rom sampleRate) b) (v : Byte)
    (hops : ∀ op ∈ ops, op.KeepsDma) :
    OamTransfer v (mCycles ops) ((b.write8 0xff46 v).run ops) ∧
      (mCycles ops ≤ 160 → ∀ j, ((b.write8 0xff46 v).run ops).video.oam.get j =
        if j < mCycles ops then (dmaBytes v 0 (b.write8 0xff46 v) ops).getD j 0
        else (b.write8 0xff46 v).video.oam.get j) ∧
      IndexInOam b := by
  have hstart : Transferring v 0 (b.write8 0xff46 v).dma := by
    rw [write8_ff46_dma]
    rfl
  have hrun := transferring_run hstart hops
  rw [Nat.zero_add] at hrun
  have hactive := hrun.active
  refine ⟨⟨hactive, hrun.oam_tickMCycle, ?_, ?_, fun value => write8_ff46_dma _ value⟩, ?_,
    index_lt_of_reachable h⟩
  · intro hk address ha
    exact read8_of_active (hactive.trans (decide_eq_true hk)) ha
  · intro hk address value ha hne
    exact write8_of_active (hactive.trans (decide_eq_true hk)) ha hne value
  · intro hk j
    have hoam := hstart.oam_run hops (by rwa [Nat.zero_add]) j
    rw [hoam, Nat.zero_add]
    refine if_congr ?_ rfl rfl
    omega

/-- A transfer while the CPU idles: over after 160 M-cycles. -/
theorem oam_dma_idle :
    OamTransfer 0x01 160
      ((nopBus.write8 0xff46 0x01).run (List.replicate 160 (.cpu .idleMCycle))) := by
  have hidle : ∀ op ∈ List.replicate 160 (MachineBus.Op.cpu .idleMCycle), op.KeepsDma := by
    intro op hop
    rw [List.eq_of_mem_replicate hop]
    trivial
  have hcount : mCycles (List.replicate 160 (.cpu .idleMCycle)) = 160 := by
    rw [mCycles, List.countP_replicate]
    rfl
  have hlaw := (oam_dma reachable_nopBus 0x01 hidle).1
  rwa [hcount] at hlaw

end Pockiva
