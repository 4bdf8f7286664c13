import Pockiva.Apu.Apu
import Pockiva.Apu.ChannelInvariants
import Pockiva.Apu.Channels
import Pockiva.Apu.Conservation
import Pockiva.Apu.Divider
import Pockiva.Apu.Envelopes
import Pockiva.Apu.Invariants
import Pockiva.Apu.Lengths
import Pockiva.Apu.Noise
import Pockiva.Apu.Oscillators
import Pockiva.Apu.Power
import Pockiva.Apu.RegisterFile
import Pockiva.Apu.Samples
import Pockiva.Apu.Sequencer
import Pockiva.Apu.Sweep
import Pockiva.Apu.SweepLaw
import Pockiva.Apu.Units
import Pockiva.Apu.Waveforms
import Pockiva.Bus
import Pockiva.BusFrame
import Pockiva.Cartridge.Banking
import Pockiva.Cartridge.Battery
import Pockiva.Cartridge.Cartridge
import Pockiva.Cartridge.ExternalRam
import Pockiva.Cartridge.Header
import Pockiva.Cartridge.Image
import Pockiva.Cartridge.Mbc3
import Pockiva.Cartridge.Reachable
import Pockiva.Cartridge.RomBanks
import Pockiva.Cartridge.Rtc
import Pockiva.Cartridge.RtcRuns
import Pockiva.Cartridge.RtcWrites
import Pockiva.Contracts
import Pockiva.Cpu.Accesses
import Pockiva.Cpu.Bcd
import Pockiva.Cpu.Binary
import Pockiva.Cpu.Bus
import Pockiva.Cpu.Decode
import Pockiva.Cpu.Dispatch
import Pockiva.Cpu.EiDelay
import Pockiva.Cpu.Execute
import Pockiva.Cpu.Flow
import Pockiva.Cpu.Prediction
import Pockiva.Cpu.Registers
import Pockiva.Cpu.Stack
import Pockiva.Cpu.Timing
import Pockiva.CycleBudget
import Pockiva.Desktop.AudioFlush
import Pockiva.Desktop.AudioPacing
import Pockiva.Desktop.AudioPump
import Pockiva.Desktop.AudioQueue
import Pockiva.Desktop.AudioWorker
import Pockiva.Desktop.ControllerGenerations
import Pockiva.Desktop.FrameAcknowledgement
import Pockiva.Desktop.FrameDelivery
import Pockiva.Desktop.FrameHandout
import Pockiva.Desktop.FramePacing
import Pockiva.Desktop.FramePacket
import Pockiva.Desktop.FrameQueue
import Pockiva.Desktop.FrameWindow
import Pockiva.Desktop.KeyboardPath
import Pockiva.Desktop.Lifecycle
import Pockiva.Desktop.MockCore
import Pockiva.Desktop.RemoteInput
import Pockiva.Desktop.Runtime
import Pockiva.Desktop.RuntimeAudio
import Pockiva.Desktop.Worker
import Pockiva.Devices
import Pockiva.FrameNumbers
import Pockiva.HaltedCore
import Pockiva.Hooks.FrameCanvas
import Pockiva.Hooks.KeyboardInput
import Pockiva.Hooks.RemoteSession
import Pockiva.IllegalOpcodes
import Pockiva.Input
import Pockiva.InputLines
import Pockiva.Interrupts
import Pockiva.Joypad
import Pockiva.Lib.Checked
import Pockiva.Lib.Countdown
import Pockiva.Lib.Custody
import Pockiva.Lib.DigitWalk
import Pockiva.Lib.EvictingQueue
import Pockiva.Lib.Interference
import Pockiva.Lib.LittleEndian
import Pockiva.Lib.Log
import Pockiva.Lib.Lookahead
import Pockiva.Lib.Radix
import Pockiva.Lib.Records
import Pockiva.Lib.Selection
import Pockiva.Lib.SerialCalls
import Pockiva.Lib.SetDelta
import Pockiva.Lib.Since
import Pockiva.Lib.StackOps
import Pockiva.Lib.Throwing
import Pockiva.Lib.TokenBucket
import Pockiva.Lib.Transition
import Pockiva.Lib.Turns
import Pockiva.Lib.Validation
import Pockiva.Lib.XorLinear
import Pockiva.Machine
import Pockiva.MachineRuns
import Pockiva.MachineStack
import Pockiva.Network.Acceptance
import Pockiva.Network.Bracketing
import Pockiva.Network.Messages
import Pockiva.Network.RateLaw
import Pockiva.Network.RateLimit
import Pockiva.Network.Server
import Pockiva.Network.Session
import Pockiva.OamTransfer
import Pockiva.Ppu.CheckedRender
import Pockiva.Ppu.Effects
import Pockiva.Ppu.FrameIntegrity
import Pockiva.Ppu.Locking
import Pockiva.Ppu.LyFlag
import Pockiva.Ppu.Mode3
import Pockiva.Ppu.Numbering
import Pockiva.Ppu.Ppu
import Pockiva.Ppu.Progress
import Pockiva.Ppu.Reachable
import Pockiva.Ppu.Refinement
import Pockiva.Ppu.Render
import Pockiva.Ppu.ScanlineRuns
import Pockiva.Ppu.Scanlines
import Pockiva.Ppu.Scanout
import Pockiva.Ppu.Scene
import Pockiva.Ppu.StatLine
import Pockiva.Ppu.State
import Pockiva.Ppu.StillFrame
import Pockiva.Ppu.Timeline
import Pockiva.Ppu.Timing
import Pockiva.RamView
import Pockiva.Remote.Coherence
import Pockiva.Remote.Coordination
import Pockiva.Remote.Delivery
import Pockiva.Remote.Effects
import Pockiva.Remote.Lifecycle
import Pockiva.Remote.Listener
import Pockiva.Remote.Manager
import Pockiva.Remote.Reports
import Pockiva.RemoteController.Contiguity
import Pockiva.RemoteController.ControllerInput
import Pockiva.RemoteController.InputSimulation
import Pockiva.RemoteController.PointerTracker
import Pockiva.RemoteController.Recovery
import Pockiva.RemoteController.SentInput
import Pockiva.RemoteController.Session
import Pockiva.RemoteController.Settled
import Pockiva.RemoteController.StaleCallbacks
import Pockiva.Reset
import Pockiva.Slices
import Pockiva.Timer
import Pockiva.Timer.ClosedForm
import Pockiva.Timer.Cycles
import Pockiva.Timer.Windows
