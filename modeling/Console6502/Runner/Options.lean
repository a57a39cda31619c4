import Console6502.Runner.Value
import Console6502.Sequencer
import Console6502.Text.Terminal

namespace Console6502.Runner

structure Options where
  program : String
  origin : Address := programOrigin
  maxSteps : UInt64 := 1000000
  seed? : Option UInt64 := none
  input? : Option Byte := none
  showScreen : Bool := false
deriving DecidableEq, Repr

/-- The options that take a value. -/
inductive Setting
  | origin
  | maxSteps
  | seed
  | input
deriving DecidableEq, Repr

namespace Setting

def all : List Setting := [origin, maxSteps, seed, input]

def name : Setting → String
  | origin => "origin"
  | maxSteps => "max-steps"
  | seed => "seed"
  | input => "input"

/-- The option with a stand-in for its value. -/
def usage : Setting → String
  | origin => "--origin <ORIGIN>"
  | maxSteps => "--max-steps <MAX_STEPS>"
  | seed => "--seed <SEED>"
  | input => "--input <INPUT>"

def ofName? (name : String) : Option Setting := all.find? (·.name == name)

end Setting

/-- The options that take no value. -/
inductive Switch
  | showScreen
  | help
deriving DecidableEq, Repr

namespace Switch

def all : List Switch := [showScreen, help]

def name : Switch → String
  | showScreen => "show-screen"
  | help => "help"

/-- The letter that stands for the name behind a single dash. -/
def letter? : Switch → Option Char
  | showScreen => none
  | help => some 'h'

def usage (s : Switch) : String := "--" ++ s.name

def ofName? (name : String) : Option Switch := all.find? (·.name == name)

def ofLetter? (letter : Char) : Option Switch := all.find? (·.letter? == some letter)

end Switch

inductive Request
  | help
  | run (options : Options)
deriving DecidableEq, Repr

inductive UsageError
  | invalidValue (raw : String) (setting : Setting) (why : ValueError)
  | missingValue (usage : String)
  | unwantedValue (raw usage : String)
  | repeated (usage : String)
  | unexpected (argument : String)
  | missingProgram
deriving DecidableEq, Repr

/-- What a refusal says. An argument is repeated as a terminal would show it, so that it cannot act
on the one that reads the message. -/
def UsageError.message : UsageError → String
  | invalidValue raw setting why =>
    s!"error: invalid value '{Text.visible raw}' for '{setting.usage}': {why.message}"
  | missingValue usage => s!"error: a value is required for '{usage}' but none was supplied"
  | unwantedValue raw usage =>
    s!"error: unexpected value '{Text.visible raw}' for '{usage}' found; no more were expected"
  | repeated usage => s!"error: the argument '{usage}' cannot be used multiple times"
  | unexpected argument => s!"error: unexpected argument '{Text.visible argument}' found"
  | missingProgram => "error: the following required arguments were not provided:"

/-- What the arguments read so far have settled. -/
structure Draft where
  program? : Option String := none
  origin? : Option Address := none
  maxSteps? : Option UInt64 := none
  seed? : Option UInt64 := none
  input? : Option Byte := none
  showScreen : Bool := false
  help : Bool := false

/-- An argument that was read but not looked into yet: that is done when the next one is
recognised. -/
inductive Pending
  | nothing
  | program (path : String)
  | setting (setting : Setting) (raw? : Option String)

namespace Draft

def has (d : Draft) : Setting → Bool
  | .origin => d.origin?.isSome
  | .maxSteps => d.maxSteps?.isSome
  | .seed => d.seed?.isSome
  | .input => d.input?.isSome

/-- Takes in the value of an option that was not given before. -/
def give (d : Draft) (setting : Setting) (raw : String) : Except UsageError Draft :=
  let refuse (why : ValueError) : UsageError := .invalidValue raw setting why
  if d.has setting then .error (.repeated setting.usage)
  else
    match setting with
    | .origin =>
      match readAddress raw.toList with
      | .ok value => .ok { d with origin? := some value }
      | .error why => .error (refuse why)
    | .maxSteps =>
      match readCount raw.toList with
      | .ok value => .ok { d with maxSteps? := some value }
      | .error why => .error (refuse why)
    | .seed =>
      match readCount raw.toList with
      | .ok value => .ok { d with seed? := some value }
      | .error why => .error (refuse why)
    | .input =>
      match readByte raw.toList with
      | .ok value => .ok { d with input? := some value }
      | .error why => .error (refuse why)

def settle (d : Draft) : Pending → Except UsageError Draft
  | .nothing => .ok d
  | .program path =>
    if path.isEmpty then .error (.missingValue "<PROGRAM>") else .ok { d with program? := some path }
  | .setting setting none => .error (.missingValue setting.usage)
  | .setting setting (some raw) => d.give setting raw

def turnOn (d : Draft) : Switch → Except UsageError Draft
  | .showScreen =>
    if d.showScreen then .error (.repeated Switch.showScreen.usage)
    else .ok { d with showScreen := true }
  | .help => .ok { d with help := true }

/-- The request once all arguments are read. Help needs no program. -/
def finish (d : Draft) : Except UsageError Request :=
  if d.help then .ok .help
  else
    match d.program? with
    | none => .error .missingProgram
    | some program =>
      let defaults : Options := { program }
      .ok (.run {
        program
        origin := d.origin?.getD defaults.origin
        maxSteps := d.maxSteps?.getD defaults.maxSteps
        seed? := d.seed?
        input? := d.input?
        showScreen := d.showScreen })

end Draft

inductive Argument
  /-- Two dashes alone: no option comes after them. -/
  | divider
  /-- Two dashes and a name, perhaps with a value behind an equals sign. -/
  | long (name : String) (raw? : Option String)
  /-- One dash and something behind it. -/
  | short (letter : Char)
  /-- Anything else, a single dash included. -/
  | word (text : String)
deriving DecidableEq, Repr

def Argument.ofText (text : String) : Argument :=
  match text.toList with
  | ['-', '-'] => divider
  | '-' :: '-' :: rest =>
    let name := String.ofList (rest.takeWhile (· != '='))
    match rest.dropWhile (· != '=') with
    | [] => long name none
    | _ :: raw => long name (some (String.ofList raw))
  | '-' :: letter :: _ => short letter
  | _ => word text

/-- Whether the program was named, in the draft or by the pending argument. -/
def hasProgram (d : Draft) : Pending → Bool
  | .program _ => true
  | _ => d.program?.isSome

/-- Reads arguments one after the other; `free` says that options may still come. Whoever asks for
help gets it, whatever comes behind. -/
def readArguments (free : Bool) (d : Draft) (pending : Pending) :
    List String → Except UsageError Draft
  | [] => d.settle pending
  | text :: rest =>
    let word : Except UsageError Draft :=
      if hasProgram d pending then .error (.unexpected text)
      else
        match d.settle pending with
        | .error e => .error e
        | .ok d => readArguments free d (.program text) rest
    let turnOn (switch : Switch) : Except UsageError Draft :=
      match d.settle pending with
      | .error e => .error e
      | .ok d =>
        match d.turnOn switch with
        | .error e => .error e
        | .ok d => if d.help then .ok d else readArguments free d .nothing rest
    if free then
      match Argument.ofText text with
      | .divider => readArguments false d pending rest
      | .long name raw? =>
        match Setting.ofName? name, Switch.ofName? name, raw? with
        | some setting, _, none =>
          match d.settle pending with
          | .error e => .error e
          | .ok d => readArguments free d (.setting setting none) rest
        | some setting, _, some raw =>
          match d.settle pending with
          | .error e => .error e
          | .ok d =>
            match d.give setting raw with
            | .error e => .error e
            | .ok d => readArguments free d .nothing rest
        | none, some switch, none => turnOn switch
        | none, some switch, some raw => .error (.unwantedValue raw switch.usage)
        | none, none, _ => .error (.unexpected ("--" ++ name))
      | .short letter =>
        match Switch.ofLetter? letter with
        | some switch => turnOn switch
        | none => .error (.unexpected (String.ofList ['-', letter]))
      | .word text =>
        match pending with
        | .setting setting none => readArguments free d (.setting setting (some text)) rest
        | _ => word
    else word

/-- Reads a command line without the name of the command. -/
def Request.parse (arguments : List String) : Except UsageError Request :=
  match readArguments true {} .nothing arguments with
  | .error e => .error e
  | .ok d => d.finish

end Console6502.Runner
