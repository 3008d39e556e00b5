import Chip8.Text.Hex
import Chip8.Text.Duration
import Chip8.Text.CharClass
import Chip8.Text.Printable
import Chip8.Text.Attached
import Chip8.Text.Quoted
import Chip8.Text.Conjunct
import Chip8.Text.Emoji
import Chip8.Text.Cluster
import Chip8.Text.Wide
import Chip8.Text.Width
import Chip8.Opcode
import Chip8.Instruction
import Chip8.Instruction.Listing
import Chip8.Error
import Chip8.Memory
import Chip8.Memory.HexDump
import Chip8.FrameBuffer
import Chip8.Keypad
import Chip8.CallStack
import Chip8.Registers
import Chip8.State
import Chip8.Interpreter
import Chip8.Snapshot
import Chip8.Config
import Chip8.Command
import Chip8.Update
import Chip8.Journal
import Chip8.Machine.Activities
import Chip8.Machine.Basic
import Chip8.Machine.Acting
import Chip8.Machine.Schedule
import Chip8.Machine.Calls
import Chip8.Machine.Progress
import Chip8.Screen.Grid
import Chip8.Screen.MemoryCursor
import Chip8.Screen.Resolution
import Chip8.Screen.Wrap
import Chip8.Screen.Panels
import Chip8.Screen.Dashboard
import Chip8.Session.Basic
import Chip8.Session.Schedule
import Chip8.Terminal.Keyboard
import Chip8.Terminal.Painting
import Chip8.Terminal.Display
import Chip8.CommandLine.Arguments
import Chip8.CommandLine.Usage
import Chip8.CommandLine.Folder
import Chip8.CommandLine.Program
import Chip8.Main
import Chip8.Proofs.Interpreter.Run
import Chip8.Proofs.Interpreter.Overlooked
import Chip8.Proofs.Interpreter.LowIndex
import Chip8.Proofs.Interpreter.Written
import Chip8.Proofs.Interpreter.Fault
import Chip8.Proofs.Interpreter.ArrayState
import Chip8.Proofs.Interpreter.Bounds
import Chip8.Proofs.Interpreter.Soundness
import Chip8.Proofs.Machine.Effects
import Chip8.Proofs.Machine.Loading
import Chip8.Proofs.Machine.Lifecycle
import Chip8.Proofs.Machine.Faults
import Chip8.Proofs.Machine.Handover
import Chip8.Proofs.Machine.Shared
import Chip8.Proofs.Machine.KeyConservation
import Chip8.Proofs.Machine.KeyOrder
import Chip8.Proofs.Session.Run
import Chip8.Proofs.Session.Faithful
import Chip8.Proofs.Session.Result
import Chip8.Proofs.Interpreter.Inner
import Chip8.Proofs.Interpreter.Independence
import Chip8.Proofs.Interpreter.Stuck
import Chip8.Proofs.Interpreter.CallHistory
import Chip8.Proofs.Machine.News
import Chip8.Proofs.Session.Redraw
import Chip8.Proofs.Machine.Stepping
import Chip8.Proofs.Machine.KeyNews
import Chip8.Proofs.Machine.Ledger
import Chip8.Proofs.Machine.Chronicle
import Chip8.Proofs.Session.Ending
import Chip8.Proofs.Interpreter.Marks
import Chip8.Proofs.Session.Serial
import Chip8.Proofs.Session.Stages
import Chip8.Proofs.Session.Sequential
import Chip8.Proofs.FrameBuffer.Sprite
import Chip8.Proofs.FrameBuffer.Overlay
import Chip8.Proofs.Machine.KeyHistory
import Chip8.Proofs.Memory.HexDump
import Chip8.Proofs.Interpreter.Observation
import Chip8.Proofs.Memory.Wrapping
import Chip8.Proofs.Interpreter.Drawing
import Chip8.Proofs.Interpreter.Arithmetic
import Chip8.Proofs.Interpreter.DescribedFlag
import Chip8.Proofs.Interpreter.ControlFlow
import Chip8.Proofs.Instruction.Spelling
import Chip8.Proofs.Memory.Blocks
import Chip8.Proofs.Interpreter.Untouched
import Chip8.Proofs.Interpreter.RegisterBlocks
import Chip8.Proofs.Interpreter.Waiting
import Chip8.Proofs.Memory.Writing
import Chip8.Proofs.Instruction.Mnemonic
import Chip8.Proofs.Interpreter.LastAttempt
import Chip8.Proofs.Interpreter.Countdown
import Chip8.Proofs.Interpreter.IndexLead
import Chip8.Proofs.Screen.MarkedRow
import Chip8.Proofs.Screen.Picture
import Chip8.Proofs.Memory.HexReading
import Chip8.Proofs.Interpreter.Decimal
