import Console6502.Host.Frame

namespace Console6502

structure Screen where
  frame : Frame
  input : Byte := noInput

namespace Screen

def blank (width height : UInt16) (input : Byte) : Screen := ⟨Frame.blank width height, input⟩

def draw (s : Screen) (p : Pixel) : Screen :=
  match s with
  | ⟨frame, input⟩ => ⟨frame.draw p, input⟩

/-- Another key was pressed. -/
def setInput (s : Screen) (code : Byte) : Screen := { s with input := code }

end Screen

instance : Host Screen where
  lastInput := Screen.input
  draw := Screen.draw

end Console6502
