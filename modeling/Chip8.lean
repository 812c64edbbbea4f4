import Chip8.Main
import Chip8.Machine.Host
import Chip8.Proofs.Access
import Chip8.Proofs.Form
import Chip8.Proofs.Mnemonic
import Chip8.Proofs.Perform
import Chip8.Proofs.Effects
import Chip8.Proofs.Writes
import Chip8.Proofs.Control
import Chip8.Proofs.Reachable
import Chip8.Proofs.Refusal
import Chip8.Proofs.Subroutine
import Chip8.Proofs.Frame
import Chip8.Proofs.Drawing
import Chip8.Proofs.Handout
import Chip8.Proofs.Debugging
import Chip8.Proofs.Leads
import Chip8.Proofs.Window
import Chip8.Proofs.Listing
import Chip8.Proofs.Questions
import Chip8.Proofs.Turns
import Chip8.Proofs.Waiting
import Chip8.Proofs.Countdown
import Chip8.Proofs.Running
import Chip8.Proofs.Dialects
import Chip8.Proofs.Keys
import Chip8.Proofs.RandomStream
import Chip8.Proofs.Doubles
import Chip8.Proofs.Rising
import Chip8.Proofs.Arithmetic
import Chip8.Proofs.Stamp
import Chip8.Proofs.Overlay
import Chip8.Proofs.Events
import Chip8.Proofs.Session
import Chip8.Proofs.Successor
import Chip8.Proofs.Blocks
import Chip8.Proofs.Digits
import Chip8.Proofs.Spelling
import Chip8.Proofs.Exact
import Chip8.Proofs.Clock
import Chip8.Proofs.BoundedStack
import Chip8.Proofs.KeySet
import Chip8.Proofs.Capitals
import Chip8.Proofs.Enlarging
import Chip8.Proofs.Filtering
import Chip8.Proofs.Ranges
import Chip8.Proofs.Marks
import Chip8.Proofs.Dump
import Chip8.Proofs.Numeral
import Chip8.Proofs.Arguments
import Chip8.Proofs.CommandLine
import Chip8.Log.Printer
