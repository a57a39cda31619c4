import Console6502.Text.Unprintable

namespace Console6502.Text

/-- A character by its code point, in lower-case digits without leading zeros. -/
def codePoint (c : Char) : List Char :=
  ['\\', 'u', '{'] ++ Nat.toDigits 16 c.toNat ++ ['}']

/-- How a character stands inside quotes. An apostrophe needs no escape there. -/
def escaped (c : Char) : List Char :=
  match c with
  | '"' => ['\\', '"']
  | '\\' => ['\\', '\\']
  | '\x00' => ['\\', '0']
  | '\t' => ['\\', 't']
  | '\r' => ['\\', 'r']
  | '\n' => ['\\', 'n']
  | c => if isUnprintable c then codePoint c else [c]

def quoted (text : List Char) : String :=
  String.ofList ('"' :: text.flatMap escaped ++ ['"'])

end Console6502.Text
