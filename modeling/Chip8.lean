import Chip8.Display.Canvas
import Chip8.Instruction.Shape
import Chip8.Main
import Chip8.Proofs.InstructionFrame
import Chip8.Proofs.StepStages
import Chip8.Proofs.Evolution
import Chip8.Proofs.HostCalls
import Chip8.Proofs.ImageLoading
import Chip8.Proofs.WellFormed
import Chip8.Proofs.FailedStep
import Chip8.Proofs.KeyWait
import Chip8.Proofs.PlainRun
import Chip8.Proofs.TickRate
import Chip8.Proofs.ExactTime
import Chip8.Proofs.EventOrder
import Chip8.Proofs.PowerCycle
import Chip8.Proofs.DialectIsolation
import Chip8.Proofs.CallReturn
import Chip8.Proofs.ReportCounts
import Chip8.Proofs.ReportStop
import Chip8.Proofs.FinalHalt
import Chip8.Proofs.WriteSet
import Chip8.Proofs.PeripheralIsolation
import Chip8.Proofs.SpriteHits
import Chip8.Proofs.SpriteUndo
import Chip8.Proofs.Leniency
import Chip8.Proofs.HeldKeys
import Chip8.Proofs.DoubleValue
import Chip8.Proofs.DoubleOrder
import Chip8.Proofs.DoubleRounding
import Chip8.Proofs.DoubleArithmetic
import Chip8.Proofs.FiniteRate
import Chip8.Proofs.StretchRefusal
import Chip8.Proofs.FailedFrame
import Chip8.Proofs.RunOutcome
import Chip8.Proofs.RunEnding
import Chip8.Proofs.FrameBudget
import Chip8.Proofs.KeyEdges
import Chip8.Proofs.AddressRange
import Chip8.Proofs.ByteArithmetic
import Chip8.Proofs.OpcodeGrammar
import Chip8.Proofs.RunComposition
import Chip8.Proofs.RegisterTransfer
import Chip8.Proofs.TimerCountdown
import Chip8.Proofs.PacingLaps
import Chip8.Proofs.FaultPlace
import Chip8.Proofs.ArgumentText
import Chip8.Proofs.RepeatedSetup
import Chip8.Proofs.RandomByte
import Chip8.Proofs.ShortestDecimal
