namespace Console6502.Text

inductive NumberError
  | empty
  | invalidDigit
  | tooLarge
deriving DecidableEq, Repr

def NumberError.message : NumberError → String
  | .empty => "cannot parse integer from empty string"
  | .invalidDigit => "invalid digit found in string"
  | .tooLarge => "number too large to fit in target type"

/-- The value of a digit, letters of either case standing for ten and up. -/
def digit? (radix : Nat) (c : Char) : Option Nat :=
  let value? :=
    if '0' ≤ c ∧ c ≤ '9' then some (c.toNat - '0'.toNat)
    else if 'a' ≤ c ∧ c ≤ 'z' then some (c.toNat - 'a'.toNat + 10)
    else if 'A' ≤ c ∧ c ≤ 'Z' then some (c.toNat - 'A'.toNat + 10)
    else none
  value?.filter (· < radix)

/-- Appends digits to a value. Reading ends at the first character that is no digit, and at the
first digit that takes the value over the limit. -/
def readDigits (radix limit : Nat) (value : Nat) : List Char → Except NumberError Nat
  | [] => .ok value
  | c :: rest =>
    match digit? radix c with
    | none => .error .invalidDigit
    | some d =>
      let value := value * radix + d
      if limit < value then .error .tooLarge else readDigits radix limit value rest

/-- Reads at most one plus and then digits. A sign with nothing behind it is a bad digit. -/
def readUnsigned (radix limit : Nat) : List Char → Except NumberError Nat
  | [] => .error .empty
  | ['+'] => .error .invalidDigit
  | '+' :: digits => readDigits radix limit 0 digits
  | digits => readDigits radix limit 0 digits

end Console6502.Text
