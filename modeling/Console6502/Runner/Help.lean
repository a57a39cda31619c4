import Console6502.Runner.Options

namespace Console6502.Runner

def Setting.purpose : Setting → String
  | origin => "Load address (decimal or 0x-prefixed hex) [default: 0x0600]"
  | maxSteps => "Stop after this many instructions even if no BRK was reached [default: 1000000]"
  | seed => "Seed for the random-source register (OS entropy if omitted)"
  | input => "Key code to place in the input register before running"

def Switch.purpose : Switch → String
  | showScreen => "Print the display as text when execution stops"
  | help => "Print help"

namespace Help

/-- A way to write an argument, and what the argument is for. -/
structure Entry where
  form : String
  purpose : String
deriving DecidableEq, Repr

/-- Names stand below one another, with room for a letter before each. -/
def Entry.ofSetting (s : Setting) : Entry := ⟨"    " ++ s.usage, s.purpose⟩

def Entry.ofSwitch (s : Switch) : Entry :=
  match s.letter? with
  | some letter => ⟨String.ofList ['-', letter, ',', ' '] ++ s.usage, s.purpose⟩
  | none => ⟨"    " ++ s.usage, s.purpose⟩

def options : List Entry := Setting.all.map Entry.ofSetting ++ Switch.all.map Entry.ofSwitch

def arguments : List Entry :=
  [⟨"<PROGRAM>", "Program image with no header; loaded verbatim at --origin"⟩]

def width (entries : List Entry) : Nat := (entries.map (·.form.length)).foldl max 0

/-- An entry on a line of its own, its purpose in the second column. -/
def Entry.line (width : Nat) (e : Entry) : String :=
  let gap := String.ofList (List.replicate (width - e.form.length) ' ')
  s!"  {e.form}{gap}  {e.purpose}\n"

def paragraph (title : String) (entries : List Entry) : String :=
  s!"{title}:\n" ++ String.join (entries.map (·.line (width entries)))

end Help

def helpText : String :=
  "Run a flat 6502 binary against a headless display\n\n" ++
    "Usage: sim6502 [OPTIONS] <PROGRAM>\n\n" ++
    Help.paragraph "Arguments" Help.arguments ++ "\n" ++ Help.paragraph "Options" Help.options

end Console6502.Runner
