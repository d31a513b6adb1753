import Chip8.Frontend.Console
import Chip8.Frontend.Start
import Chip8.Journal.FileSink
import Chip8.Journal.Setup
import Chip8.Machine.Cycle
import Chip8.Machine.Panel
import Chip8.Main
import Chip8.Numeral.Shortest
import Chip8.Proofs.Frontend.Cadence
import Chip8.Proofs.Frontend.Control
import Chip8.Proofs.Frontend.Course
import Chip8.Proofs.Frontend.Start
import Chip8.Proofs.Hardware.CallStack
import Chip8.Proofs.Hardware.Image
import Chip8.Proofs.Hardware.Picture
import Chip8.Proofs.Hardware.Transfer
import Chip8.Proofs.Instruction.Arithmetic
import Chip8.Proofs.Instruction.Assembler
import Chip8.Proofs.Instruction.Digits
import Chip8.Proofs.Instruction.Failure
import Chip8.Proofs.Instruction.Parts
import Chip8.Proofs.Instruction.RoundTrip
import Chip8.Proofs.Instruction.Scope
import Chip8.Proofs.Instruction.Words
import Chip8.Proofs.Journal.Chronology
import Chip8.Proofs.Journal.Delivery
import Chip8.Proofs.Machine.Alike
import Chip8.Proofs.Machine.Announcements
import Chip8.Proofs.Machine.Bounds
import Chip8.Proofs.Machine.ComputedJump
import Chip8.Proofs.Machine.Counter
import Chip8.Proofs.Machine.Cycle
import Chip8.Proofs.Machine.Disassembly
import Chip8.Proofs.Machine.Failure
import Chip8.Proofs.Machine.Frame
import Chip8.Proofs.Machine.FrameCycles
import Chip8.Proofs.Machine.Informed
import Chip8.Proofs.Machine.Interruption
import Chip8.Proofs.Machine.Isolation
import Chip8.Proofs.Machine.KeyWait
import Chip8.Proofs.Machine.Listeners
import Chip8.Proofs.Machine.Loading
import Chip8.Proofs.Machine.Log
import Chip8.Proofs.Machine.Observation
import Chip8.Proofs.Machine.Program
import Chip8.Proofs.Machine.Reserved
import Chip8.Proofs.Machine.Restart
import Chip8.Proofs.Machine.Run
import Chip8.Proofs.Machine.Scope
import Chip8.Proofs.Machine.Standing
import Chip8.Proofs.Machine.Subroutine
import Chip8.Proofs.Machine.Tone
import Chip8.Proofs.Settings.Keyboard
import Chip8.Proofs.Settings.Load
import Chip8.Proofs.Settings.Merge
import Chip8.Proofs.Settings.Overrides
import Chip8.Proofs.Settings.Reading
import Chip8.Proofs.Settings.Validity
import Chip8.Settings.Load
