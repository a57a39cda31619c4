import Console6502.Host.Screen

namespace Console6502

inductive Device
  /-- No input and no display. -/
  | null
  | screen (screen : Screen)
  /-- Notes every pixel, in the order of arrival. -/
  | recorder (pixels : Array Pixel) (input : Byte)

namespace Device

def lastInput : Device → Byte
  | null => noInput
  | screen s => s.input
  | recorder _ input => input

def draw : Device → Pixel → Device
  | null, _ => null
  | screen s, p => screen (s.draw p)
  | recorder pixels input, p => recorder (pixels.push p) input

/-- Another key was pressed, if there is anything to tell. -/
def setInput : Device → Byte → Device
  | null, _ => null
  | screen s, code => screen (s.setInput code)
  | recorder pixels _, code => recorder pixels code

def frame? : Device → Option Frame
  | screen s => some s.frame
  | _ => none

/-- The pixels noted so far, of a device that notes them. -/
def pixels? : Device → Option (Array Pixel)
  | recorder pixels _ => some pixels
  | _ => none

end Device

instance : Host Device where
  lastInput := Device.lastInput
  draw := Device.draw

end Console6502
