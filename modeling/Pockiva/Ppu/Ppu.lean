import Pockiva.Ppu.Timing

/-! # The PPU on the bus

Reads and writes of VRAM, OAM and the registers, OAM DMA, and the clock of the
whole device.  `step` and `run` are the operations the bus performs, one T-cycle at
a time.
-/
namespace Pockiva
namespace Ppu

/-- An address of VRAM, 8000–9FFF. -/
def inVram (address : Word) : Prop := 0x8000 ≤ address ∧ address ≤ 0x9fff

/-- An address of OAM, FE00–FE9F. -/
def inOam (address : Word) : Prop := 0xfe00 ≤ address ∧ address ≤ 0xfe9f

instance (address : Word) : Decidable (inVram address) := inferInstanceAs (Decidable (_ ∧ _))

instance (address : Word) : Decidable (inOam address) := inferInstanceAs (Decidable (_ ∧ _))

/-! ## What the CPU may touch -/

def accessHblankDot (p : Ppu) : Nat := if p.lcdPhase = 0 then p.visibleHblankDot else p.mode3EndDot

def vramCpuAccessible (p : Ppu) : Bool :=
  if p.lcdEnabled = false ∨ visibleLines ≤ p.internalLine then true
  else if p.startupLine then
    decide (p.dot < p.mode3StartDot ∨ p.accessHblankDot ≤ p.dot)
  else decide (p.dot < mode2Dots ∨ p.accessHblankDot ≤ p.dot)

def vramCpuWriteAccessible (p : Ppu) : Bool :=
  p.vramCpuAccessible
    || (p.lcdEnabled && !p.startupLine && decide (p.internalLine < visibleLines)
      && decide (p.dot = mode2Dots))

def oamCpuAccessible (p : Ppu) : Bool :=
  if p.lcdEnabled = false ∨ visibleLines ≤ p.internalLine then true
  else if p.startupLine then
    decide (p.dot < p.mode3StartDot ∨ p.accessHblankDot ≤ p.dot)
  else decide (p.accessHblankDot ≤ p.dot)

def oamCpuWriteAccessible (p : Ppu) : Bool :=
  p.oamCpuAccessible
    || (p.lcdEnabled && !p.startupLine && decide (p.internalLine < visibleLines)
      && decide (p.dot < 4 ∨ p.dot = mode2Dots))

/-! ## Reads and writes -/

/-- FF41: the enables, the LY flag and the mode. -/
def readStat (p : Ppu) : Byte :=
  0x80 ||| p.registers.stat.enables ||| (byteOfBool p.lycEqual <<< 2) ||| p.mode.bits

def read (p : Ppu) (address : Word) : Byte :=
  if inVram address ∧ p.vramCpuAccessible = true then p.vram.get (address - 0x8000).toNat
  else if inOam address ∧ p.oamCpuAccessible = true then p.oam.get (address - 0xfe00).toNat
  else match address.toNat with
    | 0xff40 => p.registers.lcdc.bits
    | 0xff41 => p.readStat
    | 0xff42 => p.registers.scy
    | 0xff43 => p.registers.scx
    | 0xff44 => p.readableLy
    | 0xff45 => p.registers.lyc
    | 0xff46 => p.registers.dma
    | 0xff47 => p.registers.bgp
    | 0xff48 => p.registers.obp0
    | 0xff49 => p.registers.obp1
    | 0xff4a => p.registers.wy
    | 0xff4b => p.registers.wx
    | _ => 0xff

theorem read_stat (p : Ppu) : p.read 0xff41 = p.readStat := by
  have hvram : ¬ inVram 0xff41 := by decide
  have hoam : ¬ inOam 0xff41 := by decide
  rw [read, if_neg fun h => hvram h.1, if_neg fun h => hoam h.1]
  rfl

theorem read_ly (p : Ppu) : p.read 0xff44 = p.readableLy := by
  have hvram : ¬ inVram 0xff44 := by decide
  have hoam : ¬ inOam 0xff44 := by decide
  rw [read, if_neg fun h => hvram h.1, if_neg fun h => hoam h.1]
  rfl

/-- The raster stops. -/
def disableLcd (p : Ppu) : Ppu :=
  { p with
    mode := .hBlank
    dot := 0
    internalLine := 0
    windowLine := 0
    startupLine := false
    lcdPhase := 0
    selectedSprites := []
    visibleHblankDot := mode2Dots + baseMode3Dots }

/-- The raster starts at dot 8 of a line 0 without OAM scan. -/
def enableLcd (p : Ppu) : Ppu :=
  let p : Ppu :=
    { p with
      mode := .hBlank
      dot := 8
      internalLine := 0
      windowLine := 0
      blankFirstFrame := true
      startupLine := true
      lcdPhase := 2 }
  { p.updateLycComparison with
    selectedSprites := []
    mode3EndDot := mode2Dots + baseMode3Dots
    visibleHblankDot := mode2Dots + baseMode3Dots }

/-- The PPU with a new value in LCDC. -/
def setLcdc (p : Ppu) (value : Byte) : Ppu :=
  { p with registers := { p.registers with lcdc := ⟨value⟩ } }

def writeLcdc (p : Ppu) (value : Byte) : Tick :=
  let q := p.setLcdc value
  if p.lcdEnabled && !q.lcdEnabled then ⟨q.disableLcd, .empty, [.lcdOff]⟩
  else if !p.lcdEnabled && q.lcdEnabled then
    ⟨q.enableLcd.evaluateStat.ppu, q.enableLcd.evaluateStat.requested, [.lcdOn]⟩
  else q.evaluateStat

/-- On the DMG a write to FF41 is preceded by an instant with all sources enabled. -/
def writeStat (p : Ppu) (value : Byte) : Tick :=
  (p.evaluateStatWithEnables 0x78).andThen fun p =>
    Ppu.evaluateStat
      { p with registers := { p.registers with stat := p.registers.stat.write value } }

def writeLyc (p : Ppu) (value : Byte) : Tick :=
  let p : Ppu := { p with registers := { p.registers with lyc := value } }
  (if p.lcdEnabled then p.updateLycComparison else p).evaluateStat

/-- The registers a write only stores, and what it stores in them. -/
def writeRegister (r : PpuRegisters) (address : Word) (value : Byte) : PpuRegisters :=
  match address.toNat with
  | 0xff42 => { r with scy := value }
  | 0xff43 => { r with scx := value }
  | 0xff46 => { r with dma := value }
  | 0xff47 => { r with bgp := value }
  | 0xff48 => { r with obp0 := value }
  | 0xff49 => { r with obp1 := value }
  | 0xff4a => { r with wy := value }
  | 0xff4b => { r with wx := value }
  | _ => r

def write (p : Ppu) (address : Word) (value : Byte) : Tick :=
  if inVram address ∧ p.vramCpuWriteAccessible = true then
    .quiet { p with vram := p.vram.set (address - 0x8000).toNat value }
  else if inOam address ∧ p.oamCpuWriteAccessible = true then
    .quiet { p with oam := p.oam.set (address - 0xfe00).toNat value }
  else if address = 0xff40 then p.writeLcdc value
  else if address = 0xff41 then p.writeStat value
  else if address = 0xff45 then p.writeLyc value
  else .quiet { p with registers := writeRegister p.registers address value }

def dmaWriteOam (p : Ppu) (index value : Byte) : Ppu :=
  { p with oam := p.oam.set index.toNat value }

/-- The loop of `tick`, which the source enters only while the LCD is enabled. -/
def tickLoop : Nat → Ppu → Tick
  | 0, p => .quiet p
  | n + 1, p => (tickLoop n p).andThen tickOne

def tick (p : Ppu) (tCycles : Nat) : Tick :=
  if p.lcdEnabled then tickLoop tCycles p else .quiet p

def frameReady (p : Ppu) : Bool := p.pendingFrame.isSome

/-- The published frame, which is handed out once. -/
def takeFrame (p : Ppu) : Option Frame × Ppu := (p.pendingFrame, { p with pendingFrame := none })

/-! ## Runs -/

/-- What happens to a PPU: a T-cycle, a CPU write, a byte of OAM DMA, or the frame
being taken. -/
inductive Op where
  | dot
  | write (address : Word) (value : Byte)
  | dmaWriteOam (index value : Byte)
  | takeFrame

def step (op : Op) (p : Ppu) : Tick :=
  match op with
  | .dot => p.tick 1
  | .write address value => p.write address value
  | .dmaWriteOam index value => .quiet (p.dmaWriteOam index value)
  | .takeFrame => .quiet p.takeFrame.2

/-- A sequence of operations. -/
def run : List Op → Ppu → Tick
  | [], p => .quiet p
  | op :: ops, p => (p.step op).andThen (run ops)

end Ppu

end Pockiva
