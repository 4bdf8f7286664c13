import Pockiva.Interrupts

/-! # What the CPU asks of its bus

`CpuBus` is the trait of the same name.  `TimedCpuBus` states the timing contract
its implementations share: an access or an idle cycle takes four T-cycles, the
two bookkeeping operations take none.
-/
namespace Pockiva

class CpuBus (β : Type) where
  read8 : β → Word → Byte × β
  write8 : β → Word → Byte → β
  idleMCycle : β → β
  peek8 : β → Word → Byte
  elapsedTCycles : β → Nat
  pendingInterrupts : β → InterruptMask
  acknowledgeInterrupt : β → Interrupt → β
  resetDivider : β → β

/-- Every access takes one M-cycle. -/
class TimedCpuBus (β : Type) [CpuBus β] : Prop where
  elapsed_read8 : ∀ (b : β) (a : Word),
    CpuBus.elapsedTCycles (CpuBus.read8 b a).2 = CpuBus.elapsedTCycles b + 4
  elapsed_write8 : ∀ (b : β) (a : Word) (v : Byte),
    CpuBus.elapsedTCycles (CpuBus.write8 b a v) = CpuBus.elapsedTCycles b + 4
  elapsed_idleMCycle : ∀ b : β,
    CpuBus.elapsedTCycles (CpuBus.idleMCycle b) = CpuBus.elapsedTCycles b + 4
  elapsed_acknowledgeInterrupt : ∀ (b : β) (i : Interrupt),
    CpuBus.elapsedTCycles (CpuBus.acknowledgeInterrupt b i) = CpuBus.elapsedTCycles b
  elapsed_resetDivider : ∀ b : β,
    CpuBus.elapsedTCycles (CpuBus.resetDivider b) = CpuBus.elapsedTCycles b

attribute [simp] TimedCpuBus.elapsed_read8 TimedCpuBus.elapsed_write8
  TimedCpuBus.elapsed_idleMCycle TimedCpuBus.elapsed_acknowledgeInterrupt
  TimedCpuBus.elapsed_resetDivider

/-- A read returns what a peek at the same instant would. -/
class CoherentCpuBus (β : Type) [CpuBus β] : Prop where
  read8_eq_peek8 : ∀ (b : β) (a : Word), (CpuBus.read8 b a).1 = CpuBus.peek8 b a

end Pockiva
