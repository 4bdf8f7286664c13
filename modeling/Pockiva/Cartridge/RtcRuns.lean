import Pockiva.Cartridge.RtcWrites

/-! # The clock does not depend on when it is looked at

The clock is brought up to date whenever it is latched, written or reset, which moves the
base it counts from.  None of that shows: a clock is a reading at some time (`Reading`),
which only a write to a register replaces, and it shows that reading plus the seconds
since, if it is not halted (`tracks_run`).  So operations that write no register can be
put in anywhere, and time spent halted is never counted.
-/
namespace Pockiva

open Transition

namespace RtcState

/-! ## A reading and the seconds since -/

/-- The view after some seconds: a halted clock stands still, and the carry remembers that
the counter ran over. -/
def View.elapse (v : View) (seconds : Nat) : View :=
  if v.halted then v
  else
    { counter := (v.counter + seconds) % rtcPeriodSeconds
      carry := v.carry || decide (rtcPeriodSeconds ≤ v.counter + seconds)
      halted := false }

/-- What a clock showed at some time. -/
structure Reading where
  view : View
  since : Nat

namespace Reading

/-- What it shows at `now`; before the time of the reading nothing has elapsed. -/
def showing (d : Reading) (now : Nat) : View := d.view.elapse (now - d.since)

/-- Only a write to a register makes a new reading. -/
def apply (d : Reading) : Op → Reading
  | .writeRegister selector value now =>
    match replaceRegister (d.showing now).registers selector value with
    | none => d
    | some registers => ⟨.ofRegisters registers, now⟩
  | _ => d

/-- The reading a clock was last brought up to date with. -/
def ofState (r : RtcState) : Reading := ⟨⟨r.counterSeconds, r.carry, r.halted⟩, r.lastUpdateUnix⟩

end Reading

/-- The operation writes no register. -/
def Op.Quiet : Op → Prop
  | .writeRegister _ _ _ => False
  | _ => True

instance (op : Op) : Decidable op.Quiet := by
  cases op with
  | writeRegister selector value now => exact inferInstanceAs (Decidable False)
  | _ => exact inferInstanceAs (Decidable True)

/-- The clock and the reading after some operations. -/
def run (r : RtcState) (ops : List Op) : RtcState := ops.foldl apply r

def Reading.run (d : Reading) (ops : List Op) : Reading := ops.foldl Reading.apply d

/-- What a clock shows, from `view` on the way of `live`. -/
theorem view_eq_showing {r : RtcState} (hr : r.counterSeconds < rtcPeriodSeconds) {t : Nat}
    (ht : t < 2 ^ 63) : r.view t = (Reading.ofState r).showing t := by
  have hbound : t + rtcPeriodSeconds ≤ 2 ^ 64 := by
    have : rtcPeriodSeconds ≤ 2 ^ 63 := by decide
    omega
  unfold Reading.showing View.elapse Reading.ofState
  dsimp only
  by_cases hh : r.halted = true
  · rw [if_pos hh]
    exact view_of_still hr (.inl hh)
  · rw [if_neg hh]
    rw [Bool.not_eq_true] at hh
    by_cases hle : r.lastUpdateUnix ≤ t
    · rw [view, live_of_running hr hh hle hbound, hh]
    · have hzero : t - r.lastUpdateUnix = 0 := by omega
      rw [view_of_still hr (.inr (by omega)), hzero, Nat.add_zero, Nat.mod_eq_of_lt hr,
        decide_eq_false (Nat.not_le_of_lt hr), Bool.or_false, hh]

/-! ## The clock follows the reading -/

/-- From `start` on the clock shows the reading. -/
structure Tracks (r : RtcState) (d : Reading) (start : Nat) : Prop where
  valid : r.counterSeconds < rtcPeriodSeconds
  shows : ∀ t, start ≤ t → t < 2 ^ 63 → r.view t = d.showing t

theorem tracks_ofState {r : RtcState} (hr : r.counterSeconds < rtcPeriodSeconds) :
    Tracks r (.ofState r) 0 := ⟨hr, fun _ _ ht => view_eq_showing hr ht⟩

/-- What a clock shows later does not depend on its being brought up to date. -/
theorem view_sync {r : RtcState} (hr : r.counterSeconds < rtcPeriodSeconds) {now t : Nat}
    (hle : now ≤ t) (ht : t < 2 ^ 63) : (r.sync now).view t = r.view t := by
  have hbound : t + rtcPeriodSeconds ≤ 2 ^ 64 := by
    have : rtcPeriodSeconds ≤ 2 ^ 63 := by decide
    omega
  rw [view, view, live_sync hr hle hbound, sync_halted]

/-- **A quiet operation does not show.** -/
theorem view_quiet {r : RtcState} (hr : r.counterSeconds < rtcPeriodSeconds) {op : Op}
    (hquiet : op.Quiet) {t : Nat} (hle : op.now ≤ t) (ht : t < 2 ^ 63) :
    (r.apply op).view t = r.view t ∧ (r.apply op).counterSeconds < rtcPeriodSeconds := by
  cases op with
  | sync now => exact ⟨view_sync hr hle ht, live_counter_lt hr now⟩
  | latch value now =>
    rw [apply, latch]
    split
    · exact ⟨rfl, hr⟩
    · split
      · exact ⟨view_sync hr hle ht, live_counter_lt hr now⟩
      · exact ⟨rfl, hr⟩
  | writeRegister selector value now => exact hquiet.elim
  | reset now => exact ⟨view_sync hr hle ht, live_counter_lt hr now⟩
  | batteryState now => exact ⟨rfl, hr⟩

/-- **A write makes a new reading of the clock.** -/
theorem Tracks.write {r : RtcState} {d : Reading} {start : Nat} (h : Tracks r d start)
    (selector value : Byte) {now : Nat} (hle : start ≤ now) (hnow : now < 2 ^ 63) :
    Tracks (r.writeRegister selector value now) (d.apply (.writeRegister selector value now))
      now := by
  have hnowView := h.shows now hle hnow
  have hsync := view_sync_self h.valid now
  have hregisters : (r.sync now).registers now = (d.showing now).registers := by
    rw [registers_eq, hsync, hnowView]
  cases hs : replaceRegister (d.showing now).registers selector value with
  | none =>
    rw [writeRegister, hregisters, Reading.apply, hs]
    refine ⟨live_counter_lt h.valid now, ?_⟩
    intro t hlater ht
    exact (view_sync h.valid hlater ht).trans (h.shows t (by omega) ht)
  | some replaced =>
    have hnormal := (written_registers (d.showing now)).normal.replaceRegister hs
    have hwritten : r.writeRegister selector value now =
        { r.sync now with
          counterSeconds := replaced.counter
          halted := replaced.dayHigh &&& 0x40 != 0
          carry := replaced.dayHigh &&& 0x80 != 0
          lastUpdateUnix :=
            if (r.sync now).halted ≠ (replaced.dayHigh &&& 0x40 != 0) ∨
                (replaced.dayHigh &&& 0x40 != 0) = false then now
            else (r.sync now).lastUpdateUnix } := by
      rw [writeRegister, hregisters, hs]
    rw [hwritten, Reading.apply, hs]
    refine ⟨hnormal.counter_lt, ?_⟩
    intro t hlater ht
    rw [view_eq_showing hnormal.counter_lt ht]
    unfold Reading.showing View.elapse Reading.ofState View.ofRegisters
    dsimp only
    by_cases hhalted : (replaced.dayHigh &&& 0x40 != 0) = true
    · rw [if_pos hhalted, if_pos hhalted]
    · rw [if_neg hhalted, if_neg hhalted, if_pos (.inr (eq_false_of_ne_true hhalted))]

theorem Tracks.apply {r : RtcState} {d : Reading} {start : Nat} (h : Tracks r d start) {op : Op}
    (hle : start ≤ op.now) (hnow : op.now < 2 ^ 63) :
    Tracks (r.apply op) (d.apply op) op.now := by
  by_cases hquiet : op.Quiet
  · have hsame : d.apply op = d := by
      cases op with
      | writeRegister selector value now => exact hquiet.elim
      | _ => rfl
    rw [hsame]
    refine ⟨(view_quiet h.valid hquiet (Nat.le_refl _) hnow).2, ?_⟩
    intro t hlater ht
    exact (view_quiet h.valid hquiet hlater ht).1.trans (h.shows t (by omega) ht)
  · cases op with
    | writeRegister selector value now => exact h.write selector value hle hnow
    | _ => exact absurd trivial hquiet

/-- Operations at readings of the wall clock that never go back. -/
def Ordered (ops : List Op) : Prop := (ops.map Op.now).Pairwise (· ≤ ·)

/-- **A run of the clock follows the reading.** -/
theorem Tracks.run {r : RtcState} {d : Reading} {start : Nat} (h : Tracks r d start)
    {ops : List Op} (hordered : Ordered ops) (hlater : ∀ op ∈ ops, start ≤ op.now)
    (hnow : ∀ op ∈ ops, op.now < 2 ^ 63) :
    ∃ since, (∀ t, start ≤ t → (∀ op ∈ ops, op.now ≤ t) → since ≤ t) ∧
      Tracks (r.run ops) (d.run ops) since := by
  induction ops generalizing r d start with
  | nil => exact ⟨start, fun t hstart _ => hstart, h⟩
  | cons op ops ih =>
    have hop : start ≤ op.now := hlater op List.mem_cons_self
    obtain ⟨hfirst, hrest⟩ := List.pairwise_cons.mp hordered
    have hafter : ∀ later ∈ ops, op.now ≤ later.now := fun later hmem =>
      hfirst later.now (List.mem_map_of_mem hmem)
    obtain ⟨since, hsince, htracks⟩ :=
      ih (h.apply hop (hnow op List.mem_cons_self)) hrest hafter
        fun later hmem => hnow later (List.mem_cons_of_mem _ hmem)
    refine ⟨since, ?_, htracks⟩
    intro t _ hall
    exact hsince t (hall op List.mem_cons_self)
      fun later hmem => hall later (List.mem_cons_of_mem _ hmem)

/-- What the clock shows after a run is what the reading shows. -/
theorem view_run {r : RtcState} (hr : r.counterSeconds < rtcPeriodSeconds) {ops : List Op}
    (hordered : Ordered ops) {t : Nat} (hlater : ∀ op ∈ ops, op.now ≤ t) (ht : t < 2 ^ 63) :
    (r.run ops).view t = ((Reading.ofState r).run ops).showing t := by
  obtain ⟨since, hsince, htracks⟩ := (tracks_ofState hr).run hordered (fun _ _ => Nat.zero_le _)
    fun op hmem => Nat.lt_of_le_of_lt (hlater op hmem) ht
  exact htracks.shows t (hsince t (Nat.zero_le t) hlater) ht

/-- The reading does not see what is quiet. -/
theorem Reading.run_filter (d : Reading) (ops : List Op) :
    d.run (ops.filter fun op => ¬ op.Quiet) = d.run ops := by
  induction ops generalizing d with
  | nil => rfl
  | cons op ops ih =>
    by_cases hquiet : op.Quiet
    · have hsame : d.apply op = d := by
        cases op with
        | writeRegister selector value now => exact hquiet.elim
        | _ => rfl
      have hrun : d.run (op :: ops) = (d.apply op).run ops := rfl
      rw [List.filter_cons_of_neg (by simpa using hquiet), hrun, hsame]
      exact ih d
    · rw [List.filter_cons_of_pos (by simpa using hquiet)]
      exact ih _

theorem Ordered.filter {ops : List Op} (h : Ordered ops) (p : Op → Bool) :
    Ordered (ops.filter p) := h.sublist (List.Sublist.map _ List.filter_sublist)

/-! ## A halted clock and a wall clock that went back -/

/-- A counter below 512 days survives the way through the registers. -/
theorem ofRegisters_registers {v : View} (h : v.counter < rtcPeriodSeconds) :
    View.ofRegisters v.registers = v := by
  have hlt : v.counter < 512 * 86400 := h
  obtain ⟨counter, carry, halted⟩ := v
  dsimp only at hlt
  have hflags : ∀ (days : Byte) (halted carry : Bool),
      (((days &&& 1) ||| (byteOfBool halted <<< 6) ||| (byteOfBool carry <<< 7)) &&& 1 =
          days &&& 1) ∧
      ((((days &&& 1) ||| (byteOfBool halted <<< 6) ||| (byteOfBool carry <<< 7)) &&& 0x80) != 0) =
          carry ∧
      ((((days &&& 1) ||| (byteOfBool halted <<< 6) ||| (byteOfBool carry <<< 7)) &&& 0x40) != 0) =
          halted := by
    intro days halted carry
    revert days
    cases halted <;> cases carry <;> decide
  obtain ⟨hdays, hcarry, hhalted⟩ := hflags (BitVec.ofNat 8 (counter / 86400 / 256)) halted carry
  rw [View.ofRegisters, View.mk.injEq]
  refine ⟨?_, hcarry, hhalted⟩
  unfold RtcRegisters.counter View.registers
  dsimp only
  rw [hdays, days_eq]
  simp only [BitVec.toNat_ofNat]
  omega

/-- The operation writes the last register with the value it shows. -/
def Op.Rewrites (v : View) : Op → Prop
  | .writeRegister selector value _ => selector = 0x0c ∧ value &&& 0xc1 = v.registers.dayHigh
  | _ => False

/-- A halted clock shows what it holds. -/
theorem view_of_halted {r : RtcState} (h : r.halted = true) (now : Nat) :
    r.view now = ⟨r.counterSeconds, r.carry, true⟩ := by
  rw [view, live_of_halted h, h]

/-- Bringing a halted clock up to date changes nothing it holds. -/
theorem sync_of_halted {r : RtcState} (h : r.halted = true) (now : Nat) :
    (r.sync now).counterSeconds = r.counterSeconds ∧ (r.sync now).carry = r.carry := by
  unfold sync
  dsimp only
  rw [live_of_halted h]
  exact ⟨rfl, rfl⟩

/-- **A halted clock stands still**, also when its last register is rewritten. -/
theorem apply_of_halted {r : RtcState} (hr : r.counterSeconds < rtcPeriodSeconds)
    (h : r.halted = true) {op : Op} (hop : op.Quiet ∨ op.Rewrites (r.view op.now)) :
    (r.apply op).halted = true ∧ (r.apply op).counterSeconds = r.counterSeconds ∧
      (r.apply op).carry = r.carry := by
  have hsync := fun now => sync_of_halted h now
  cases op with
  | sync now => exact ⟨h, hsync now⟩
  | latch value now =>
    rw [apply, latch]
    split
    · exact ⟨h, rfl, rfl⟩
    · split
      · exact ⟨h, hsync now⟩
      · exact ⟨h, rfl, rfl⟩
  | reset now => exact ⟨h, hsync now⟩
  | batteryState now => exact ⟨h, rfl, rfl⟩
  | writeRegister selector value now =>
    rcases hop with hquiet | ⟨rfl, hsame⟩
    · exact hquiet.elim
    · have hreplaced : replaceRegister (r.view now).registers 0x0c value =
          some (r.view now).registers := by
        show some ({ (r.view now).registers with dayHigh := value &&& 0xc1 } : RtcRegisters) = _
        rw [hsame]
        rfl
      have hwritten := view_writeRegister hr 0x0c value now
      rw [View.write, hreplaced] at hwritten
      dsimp only at hwritten
      have hlt : (r.view now).counter < rtcPeriodSeconds := live_counter_lt hr now
      rw [ofRegisters_registers hlt, view_of_halted h] at hwritten
      have hhalted : (r.writeRegister 0x0c value now).halted = true := congrArg View.halted hwritten
      rw [view_of_halted hhalted, View.mk.injEq] at hwritten
      exact ⟨hhalted, hwritten.1, hwritten.2.1⟩

theorem run_of_halted {r : RtcState} (hr : r.counterSeconds < rtcPeriodSeconds)
    (h : r.halted = true) {ops : List Op}
    (hops : ∀ op ∈ ops, op.Quiet ∨ op.Rewrites ⟨r.counterSeconds, r.carry, true⟩) :
    (r.run ops).halted = true ∧ (r.run ops).counterSeconds = r.counterSeconds ∧
      (r.run ops).carry = r.carry := by
  induction ops generalizing r with
  | nil => exact ⟨h, rfl, rfl⟩
  | cons op ops ih =>
    have hview : r.view op.now = ⟨r.counterSeconds, r.carry, true⟩ := view_of_halted h op.now
    have hop : op.Quiet ∨ op.Rewrites (r.view op.now) := by
      rw [hview]
      exact hops op List.mem_cons_self
    obtain ⟨hhalted, hcounter, hcarry⟩ := apply_of_halted hr h hop
    have hrest := ih (r := r.apply op) (by rw [hcounter]; exact hr) hhalted (by
      rw [hcounter, hcarry]
      exact fun later hmem => hops later (List.mem_cons_of_mem _ hmem))
    rw [hcounter, hcarry] at hrest
    exact hrest

/-- Quiet operations before the last recorded time leave the clock's base alone. -/
theorem run_before {r : RtcState} {ops : List Op}
    (hops : ∀ op ∈ ops, op.Quiet ∧ op.now ≤ r.lastUpdateUnix)
    (hr : r.counterSeconds < rtcPeriodSeconds) :
    (r.run ops).counterSeconds = r.counterSeconds ∧ (r.run ops).carry = r.carry ∧
      (r.run ops).halted = r.halted ∧ (r.run ops).lastUpdateUnix = r.lastUpdateUnix := by
  induction ops generalizing r with
  | nil => exact ⟨rfl, rfl, rfl, rfl⟩
  | cons op ops ih =>
    obtain ⟨hquiet, hle⟩ := hops op List.mem_cons_self
    have hsync : ∀ now ≤ r.lastUpdateUnix, (r.sync now).counterSeconds = r.counterSeconds ∧
        (r.sync now).carry = r.carry ∧ (r.sync now).halted = r.halted ∧
        (r.sync now).lastUpdateUnix = r.lastUpdateUnix := by
      intro now hnow
      have hview : r.view now = ⟨r.counterSeconds, r.carry, r.halted⟩ :=
        view_of_still hr (.inr hnow)
      refine ⟨congrArg View.counter hview, congrArg View.carry hview, rfl, ?_⟩
      rw [sync_lastUpdateUnix]
      omega
    have hone : (r.apply op).counterSeconds = r.counterSeconds ∧ (r.apply op).carry = r.carry ∧
        (r.apply op).halted = r.halted ∧ (r.apply op).lastUpdateUnix = r.lastUpdateUnix := by
      cases op with
      | sync now => exact hsync now hle
      | latch value now =>
        rw [apply, latch]
        split
        · exact ⟨rfl, rfl, rfl, rfl⟩
        · split
          · exact hsync now hle
          · exact ⟨rfl, rfl, rfl, rfl⟩
      | writeRegister selector value now => exact hquiet.elim
      | reset now => exact hsync now hle
      | batteryState now => exact ⟨rfl, rfl, rfl, rfl⟩
    obtain ⟨hcounter, hcarry, hhalted, hupdate⟩ := hone
    have hrest := ih (r := r.apply op) (by
      rw [hupdate]
      exact fun later hmem => hops later (List.mem_cons_of_mem _ hmem)) (by rw [hcounter]; exact hr)
    rw [hcounter, hcarry, hhalted, hupdate] at hrest
    exact hrest

/-! ## Path independence -/

/-- **What a clock shows does not depend on the path.** -/
structure PathIndependent (r : RtcState) : Prop where
  /-- The counter stays below 512 days. -/
  counter_lt : ∀ ops : List Op, (∀ op ∈ ops, op.now < 2 ^ 64) →
    (r.run ops).counterSeconds < rtcPeriodSeconds ∧
      ∀ t, ((r.run ops).live t).1 < rtcPeriodSeconds
  /-- Operations that write no register can be put in or left out anywhere. -/
  insertion : ∀ ops : List Op, Ordered ops → ∀ t < 2 ^ 63, (∀ op ∈ ops, op.now ≤ t) →
    (r.run ops).live t = (r.run (ops.filter fun op => ¬ op.Quiet)).live t
  /-- The clock shows the last reading and the seconds since in which it was not halted. -/
  shows : ∀ ops : List Op, Ordered ops → ∀ t < 2 ^ 63, (∀ op ∈ ops, op.now ≤ t) →
    (r.run ops).view t = ((Reading.ofState r).run ops).showing t
  /-- While it runs, the clock advances by the seconds elapsed. -/
  running : r.halted = false → ∀ s t, r.lastUpdateUnix ≤ s → s ≤ t → t < 2 ^ 63 →
    r.live t = (((r.live s).1 + (t - s)) % rtcPeriodSeconds,
      (r.live s).2 || decide (rtcPeriodSeconds ≤ (r.live s).1 + (t - s)))
  /-- Halted it stands still, however often its last register is rewritten. -/
  halted : r.halted = true → ∀ ops : List Op,
    (∀ op ∈ ops, op.Quiet ∨ op.Rewrites ⟨r.counterSeconds, r.carry, true⟩) →
    ∀ t, (r.run ops).live t = (r.counterSeconds, r.carry)
  /-- Until the last recorded time has passed again it stands still as well. -/
  backwards : ∀ ops : List Op, (∀ op ∈ ops, op.Quiet ∧ op.now ≤ r.lastUpdateUnix) →
    ∀ t ≤ r.lastUpdateUnix, (r.run ops).live t = (r.counterSeconds, r.carry)

theorem Valid.run {r : RtcState} (h : r.Valid) {ops : List Op}
    (hnow : ∀ op ∈ ops, op.now < 2 ^ 64) : (r.run ops).Valid := by
  induction ops generalizing r with
  | nil => exact h
  | cons op ops ih =>
    exact ih (h.apply (hnow op List.mem_cons_self))
      fun later hmem => hnow later (List.mem_cons_of_mem _ hmem)

/-- A running clock between two times. -/
theorem live_between {r : RtcState} (hr : r.counterSeconds < rtcPeriodSeconds)
    (hruns : r.halted = false) {s t : Nat} (hs : r.lastUpdateUnix ≤ s) (hle : s ≤ t)
    (ht : t < 2 ^ 63) :
    r.live t = (((r.live s).1 + (t - s)) % rtcPeriodSeconds,
      (r.live s).2 || decide (rtcPeriodSeconds ≤ (r.live s).1 + (t - s))) := by
  have hbound : t + rtcPeriodSeconds ≤ 2 ^ 64 := by
    have : rtcPeriodSeconds ≤ 2 ^ 63 := by decide
    omega
  have hsync := live_sync hr hle hbound
  have hvalid : (r.sync s).counterSeconds < rtcPeriodSeconds := live_counter_lt hr s
  have hupdate : (r.sync s).lastUpdateUnix = s := by
    rw [sync_lastUpdateUnix]
    omega
  rw [← hsync, live_of_running hvalid hruns (by omega) hbound, hupdate]
  rfl

/-- **RTC path independence**, of every clock there is. -/
theorem rtc_path_independence {r : RtcState} (h : Reachable system r) : r.PathIndependent := by
  have hvalid := valid_of_reachable h
  have hr := hvalid.counter_lt
  refine ⟨?_, ?_, ?_, ?_, ?_, ?_⟩
  · intro ops hnow
    have hrun := (hvalid.run hnow).counter_lt
    exact ⟨hrun, live_counter_lt hrun⟩
  · intro ops hordered t ht hlater
    have hall := view_run hr hordered hlater ht
    have hwrites := view_run hr (hordered.filter fun op => decide (¬ op.Quiet))
      (fun op hmem => hlater op (List.mem_of_mem_filter hmem)) ht
    rw [Reading.run_filter] at hwrites
    have hsame := hall.trans hwrites.symm
    exact Prod.ext (congrArg View.counter hsame) (congrArg View.carry hsame)
  · intro ops hordered t ht hlater
    exact view_run hr hordered hlater ht
  · intro hruns s t hs hle ht
    exact live_between hr hruns hs hle ht
  · intro hhalted ops hops t
    obtain ⟨hstill, hcounter, hcarry⟩ := run_of_halted hr hhalted hops
    rw [live_of_halted hstill, hcounter, hcarry]
  · intro ops hops t ht
    obtain ⟨hcounter, hcarry, -, hupdate⟩ := run_before hops hr
    have hcounterLt : (r.run ops).counterSeconds < rtcPeriodSeconds := by rw [hcounter]; exact hr
    have hstill : (r.run ops).halted = true ∨ t ≤ (r.run ops).lastUpdateUnix :=
      .inr (by rw [hupdate]; exact ht)
    have hview := view_of_still hcounterLt hstill
    rw [← hcounter, ← hcarry]
    exact Prod.ext (congrArg View.counter hview) (congrArg View.carry hview)

/-- A new clock. -/
theorem rtc_path_independence_new : (new 1).PathIndependent :=
  rtc_path_independence (.start ⟨1, by decide, .inl rfl⟩)

end RtcState

end Pockiva
