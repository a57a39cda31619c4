import Console6502.Runner.Report

namespace Console6502.Runner

/-- The number of a system error, which some calls give negated. -/
def errorNumber (code : UInt32) : UInt32 := if code < 0x80000000 then code else 0 - code

def ReadError.ofSystem : IO.Error → ReadError
  | .noFileOrDirectory .. => .notFound
  | .permissionDenied .. => .denied
  | .inappropriateType _ code text =>
    match errorNumber code with
    | 20 => .notDirectory
    | 21 => .isDirectory
    | _ => .other text
  | .invalidArgument _ code text => if errorNumber code == 36 then .nameTooLong else .other text
  | e => .other (toString e)

def readImage (path : String) : IO (Except ReadError (List Byte)) := do
  try
    let bytes ← IO.FS.readBinFile path
    return .ok bytes.toList
  catch e => return .error (.ofSystem e)

def command (arguments : List String) : IO UInt32 := do
  let result ←
    match Request.parse arguments with
    | .error e => pure (refusal e)
    | .ok .help => pure help
    | .ok (.run o) => do
      let file ← readImage o.program
      let entropy ← IO.rand 0 0xFFFFFFFFFFFFFFFF
      pure (outcome o file (UInt64.ofNat entropy))
  IO.print result.stdout
  IO.eprint result.stderr
  return UInt32.ofNat result.exit

end Console6502.Runner

def main : List String → IO UInt32 := Console6502.Runner.command
