import Console6502.Host.Device
import Console6502.Main
import Console6502.Proofs.Accesses
import Console6502.Proofs.Operands
import Console6502.Proofs.Steps
import Console6502.Proofs.Traffic
import Console6502.Proofs.Arithmetic
import Console6502.Proofs.Registers
import Console6502.Proofs.Control
import Console6502.Proofs.Safety
import Console6502.Proofs.Lockstep
import Console6502.Proofs.Transparency
import Console6502.Proofs.Commands
import Console6502.Proofs.Window
import Console6502.Proofs.Layers
import Console6502.Proofs.Picture
import Console6502.Proofs.Peeks
import Console6502.Proofs.Pacing
import Console6502.Proofs.Unbounded
import Console6502.Proofs.Stack
import Console6502.Proofs.Stranded
import Console6502.Proofs.Images
import Console6502.Proofs.Drawing
import Console6502.Proofs.Listings
import Console6502.Proofs.Verdicts
import Console6502.Proofs.Rendering
import Console6502.Proofs.Reports
import Console6502.Proofs.Numbers
import Console6502.Proofs.Sums
import Console6502.Proofs.Rotations
import Console6502.Proofs.Targets
import Console6502.Proofs.Tables
import Console6502.Proofs.Loads
import Console6502.Proofs.Frames
import Console6502.Proofs.Geometry
import Console6502.Proofs.Ring
import Console6502.Proofs.Digits
import Console6502.Proofs.Journals
import Console6502.Proofs.Trimming
import Console6502.Proofs.Names
import Console6502.Proofs.Quoting
import Console6502.Proofs.Numerals
