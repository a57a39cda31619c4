namespace Console6502.Text

namespace Terminal

/-- What the next character belongs to. -/
inductive State
  | ground
  /-- Right behind an escape character. -/
  | escape
  /-- In an escape sequence that goes on until its final character. -/
  | escapeIntermediate
  | control
  /-- In the head of a device control string: at its start, in its parameters, behind them. -/
  | deviceEntry
  | deviceParameter
  | deviceIntermediate
  /-- In a string that a terminator ends. -/
  | string
  /-- In an operating system command: a string that a bell ends as well. -/
  | command
deriving DecidableEq, Repr

/-- The control characters that lay out the page. -/
def isLayout (c : Char) : Bool := c == '\t' || c == '\n' || c == '\x0c' || c == '\r'

/-- Whether a character is put on the page. Inside a sequence that is layout alone; strings hide
even that. -/
def State.shows : State → Char → Bool
  | ground, c => isLayout c || (' ' ≤ c && c != '\x7f')
  | escape, c => isLayout c
  | escapeIntermediate, c => isLayout c
  | control, c => isLayout c
  | _, _ => false

/-- A byte 9C terminates a string, also when it is a part of some other character. -/
def isTerminator (c : Char) : Bool := (String.utf8EncodeChar c).contains 0x9c

/-- The sequence that a character behind an escape character begins. -/
def State.ofIntroducer (c : Char) : State :=
  match c with
  | '[' => control
  | ']' => command
  | 'P' => deviceEntry
  | 'X' => string
  | '^' => string
  | '_' => string
  | c =>
    if ' ' ≤ c && c ≤ '/' then escapeIntermediate
    else if '0' ≤ c && c ≤ '~' then ground
    else escape

/-- The state behind a character that is not shown. -/
def State.next (s : State) (c : Char) : State :=
  if c == '\x18' || c == '\x1a' then ground
  else if c == '\x1b' then escape
  else
    match s with
    | ground => ground
    | escape => ofIntroducer c
    | escapeIntermediate => if '0' ≤ c && c ≤ '~' then ground else escapeIntermediate
    | control => if '@' ≤ c && c ≤ '~' then ground else control
    | deviceEntry =>
      if ' ' ≤ c && c ≤ '/' then deviceIntermediate
      else if '0' ≤ c && c ≤ '?' then deviceParameter
      else if '@' ≤ c && c ≤ '~' then string
      else deviceEntry
    | deviceParameter =>
      if ' ' ≤ c && c ≤ '/' then deviceIntermediate
      else if '<' ≤ c && c ≤ '~' then string
      else deviceParameter
    | deviceIntermediate => if '0' ≤ c && c ≤ '~' then string else deviceIntermediate
    | string => if isTerminator c then ground else string
    | command => if c == '\x07' then ground else command

structure Page where
  state : State := .ground
  /-- Layout was shown in the middle of a sequence. What follows is text, until a character that
  is not shown takes the sequence up again. -/
  interrupted : Bool := false
  /-- The latest character comes first. -/
  shown : List Char := []

/-- Takes in one character. A shown one outside ASCII leaves no sequence to take up. -/
def Page.put (p : Page) (c : Char) : Page :=
  let reading := if p.interrupted then .ground else p.state
  if reading.shows c then
    { state := if c < '\x80' then p.state else .ground, interrupted := true, shown := c :: p.shown }
  else { p with state := p.state.next c, interrupted := false }

end Terminal

/-- The characters of a text that a terminal shows. -/
def visible (text : String) : String :=
  let page : Terminal.Page := text.toList.foldl Terminal.Page.put {}
  String.ofList page.shown.reverse

end Console6502.Text
