namespace Console6502.Text

/-- The characters with the Unicode property White_Space. -/
def blanks : List Char :=
  ['\t', '\n', '\x0b', '\x0c', '\r', ' ', '\u0085', '\u00a0', '\u1680', '\u2000', '\u2001',
   '\u2002', '\u2003', '\u2004', '\u2005', '\u2006', '\u2007', '\u2008', '\u2009', '\u200a',
   '\u2028', '\u2029', '\u202f', '\u205f', '\u3000']

def isBlank (c : Char) : Bool := blanks.contains c

def trimFront (text : List Char) : List Char := text.dropWhile isBlank

def trimBack (text : List Char) : List Char := (trimFront text.reverse).reverse

/-- Drops the blanks at both ends; those inside stay. -/
def trim (text : List Char) : List Char := trimBack (trimFront text)

end Console6502.Text
