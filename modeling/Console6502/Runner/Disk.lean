import Console6502.Word

namespace Console6502.Runner

inductive ReadError
  | notFound
  | notDirectory
  | isDirectory
  | nameTooLong
  | denied
  | other (text : String)
deriving DecidableEq, Repr

def ReadError.message : ReadError → String
  | notFound => "No such file or directory (os error 2)"
  | notDirectory => "Not a directory (os error 20)"
  | isDirectory => "Is a directory (os error 21)"
  | nameTooLong => "File name too long (os error 36)"
  | denied => "Permission denied (os error 13)"
  | other text => text

inductive Node
  | file (bytes : List Byte)
  | directory (entries : List (String × Node))

/-- A node of the tree with the directories around it, the innermost first. -/
structure Place where
  node : Node
  around : List Node := []

def nameLimit : Nat := 255

def pathLimit : Nat := 4095

namespace Place

def root (p : Place) : Place :=
  match p.around.getLast? with
  | some node => { node }
  | none => p

/-- The directory around this place. Nothing is around the root, so it leads to itself. -/
def parent (p : Place) : Place :=
  match p.around with
  | node :: around => { node, around }
  | [] => p

/-- Follows one name of a path. Only a directory can be left by a name, also by one that stays. -/
def follow (p : Place) (name : String) : Except ReadError Place :=
  match p.node with
  | .file _ => .error .notDirectory
  | .directory entries =>
    if name.isEmpty || name == "." then .ok p
    else if name == ".." then .ok p.parent
    else if nameLimit < name.utf8ByteSize then .error .nameTooLong
    else
      match entries.lookup name with
      | some node => .ok { node, around := p.node :: p.around }
      | none => .error .notFound

def followAll (p : Place) : List String → Except ReadError Place
  | [] => .ok p
  | name :: rest =>
    match p.follow name with
    | .error e => .error e
    | .ok p => p.followAll rest

/-- Goes where a path leads: from the root if a slash comes first, or else from here. -/
def find (p : Place) (path : String) : Except ReadError Place :=
  if path.isEmpty then .error .notFound
  else if pathLimit < path.utf8ByteSize then .error .nameTooLong
  else
    let start := if path.startsWith "/" then p.root else p
    start.followAll (path.splitOn "/")

def read (p : Place) (path : String) : Except ReadError (List Byte) :=
  match p.find path with
  | .error e => .error e
  | .ok place =>
    match place.node with
    | .file bytes => .ok bytes
    | .directory _ => .error .isDirectory

end Place

end Console6502.Runner
