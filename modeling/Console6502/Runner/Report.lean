import Console6502.Host.Screen
import Console6502.Machine
import Console6502.Memory
import Console6502.Runner.Disk
import Console6502.Runner.Help

namespace Console6502.Runner

structure Outcome where
  exit : Nat
  stdout : String := ""
  stderr : String := ""
deriving DecidableEq, Repr

inductive Failure
  | unreadable (path : String) (why : ReadError)
  | emptyImage (path : String)
  | stopped (pc : Address) (why : Fault)
deriving DecidableEq, Repr

namespace Failure

def withCause (context cause : String) : String :=
  s!"Error: {context}\n\nCaused by:\n    {cause}\n"

def text : Failure → String
  | unreadable path why => withCause s!"reading {path}" why.message
  | emptyImage path => s!"Error: {path} is empty\n"
  | stopped pc why => withCause s!"execution stopped at PC 0x{Text.hexAddress pc}" why.message

end Failure

def blankScreen (input : Byte) : Screen := Screen.blank 32 32 input

/-- The machine that programs run on. The key code is held down all along. -/
def console (input : Byte) (seed : UInt64) : Machine (Memory Screen) :=
  Machine.new (Memory.console (blankScreen input) (Random.Source.ofSeed seed))
    InstructionSet.standard

/-- The display of a machine; one without a layer shows nothing. -/
def frame (m : Machine (Memory Screen)) : Frame :=
  match m.core.seq.bus.outer? with
  | some layer => layer.device.frame
  | none => (blankScreen noInput).frame

/-- The final state of a machine that took `count` steps. -/
def report (m : Machine (Memory Screen)) (count : Nat) (showScreen : Bool) : String :=
  let cpu := m.core.cpu
  let ending := if m.halted then "halted" else "step limit reached"
  let pointers := s!"PC:{Text.hexAddress m.core.seq.pc} SP:{Text.hexByte m.core.seq.sp}"
  let registers :=
    s!"A:{Text.hexByte cpu.a} X:{Text.hexByte cpu.x} Y:{Text.hexByte cpu.y}"
  let flags := s!"C:{cpu.carry.toNat} Z:{cpu.zero.toNat} N:{cpu.negative.toNat}"
  let screen := if showScreen then (frame m).render else ""
  s!"{ending} after {count} instructions\n{pointers} {registers} {flags}\n" ++
    s!"pixel writes: {(frame m).writes}\n" ++ screen

/-- Runs an image. Without a seed among the options the random register starts from `entropy`. -/
def execute (o : Options) (image : List Byte) (entropy : UInt64) : Except Failure String :=
  if image.isEmpty then .error (.emptyImage o.program)
  else
    let m := console (o.input?.getD noInput) (o.seed?.getD entropy)
    match (m.load image o.origin).runFor o.maxSteps.toNat with
    | (.error fault, m) => .error (.stopped m.core.seq.pc fault)
    | (.ok count, m) => .ok (report m count o.showScreen)

/-- How the runner ends when the file has been read, or could not be. -/
def outcome (o : Options) (file : Except ReadError (List Byte)) (entropy : UInt64) : Outcome :=
  let result : Except Failure String :=
    match file with
    | .error why => .error (.unreadable o.program why)
    | .ok image => execute o image entropy
  match result with
  | .ok text => { exit := 0, stdout := text }
  | .error failure => { exit := 1, stderr := failure.text }

def refusal (e : UsageError) : Outcome := { exit := 2, stderr := e.message ++ "\n" }

def help : Outcome := { exit := 0, stdout := helpText }

/-- The runner, started at a place on a disk. Its arguments are looked into before any file. -/
def run (here : Place) (arguments : List String) (entropy : UInt64) : Outcome :=
  match Request.parse arguments with
  | .error e => refusal e
  | .ok .help => help
  | .ok (.run o) => outcome o (here.read o.program) entropy

end Console6502.Runner
