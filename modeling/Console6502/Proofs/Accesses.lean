import Console6502.Bus

namespace Console6502

inductive Access
  | read (a : Address)
  | write (a : Address) (b : Byte)
deriving DecidableEq, Repr

/-- The cell that an access reads, if it is not a write. -/
def Access.cell? : Access → Option Address
  | read a => some a
  | write _ _ => none

theorem Access.cells_reads (cells : List Address) :
    (cells.map Access.read).filterMap cell? = cells := by
  induction cells with
  | nil => rfl
  | cons a cells ih => exact congrArg (a :: ·) ih

theorem Access.cells_writes (writes : List (Address × Byte)) :
    (writes.map fun (a, b) => Access.write a b).filterMap cell? = [] := by
  induction writes with
  | nil => rfl
  | cons w writes ih => exact ih

/-- The cell that an access stores to and what it stores there, if it is not a read. -/
def Access.write? : Access → Option (Address × Byte)
  | read _ => none
  | write a b => some (a, b)

theorem Access.writes_reads (cells : List Address) :
    (cells.map Access.read).filterMap write? = [] := by
  induction cells with
  | nil => rfl
  | cons a cells ih => exact ih

theorem Access.writes_writes (writes : List (Address × Byte)) :
    (writes.map fun (a, b) => Access.write a b).filterMap write? = writes := by
  induction writes with
  | nil => rfl
  | cons w writes ih => exact congrArg (w :: ·) ih

namespace Bus

variable {M : Type} [Bus M]

def access (bus : M) : Access → M
  | .read a => (read bus a).2
  | .write a b => write bus a b

/-- The bus that is left when accesses are performed in order. -/
def perform (bus : M) (accesses : List Access) : M := accesses.foldl access bus

def readAll (bus : M) : List Address → List Byte × M
  | [] => ([], bus)
  | a :: cells =>
    let (b, bus) := read bus a
    let (bytes, bus) := readAll bus cells
    (b :: bytes, bus)

def writeAll (bus : M) (writes : List (Address × Byte)) : M :=
  writes.foldl (fun bus (a, b) => write bus a b) bus

theorem perform_append (bus : M) (first last : List Access) :
    perform bus (first ++ last) = perform (perform bus first) last :=
  List.foldl_append

theorem perform_reads (bus : M) (cells : List Address) :
    perform bus (cells.map .read) = (readAll bus cells).2 := by
  induction cells generalizing bus with
  | nil => rfl
  | cons a cells ih => exact ih (read bus a).2

theorem perform_writes (bus : M) (writes : List (Address × Byte)) :
    perform bus (writes.map fun (a, b) => .write a b) = writeAll bus writes := by
  simp only [perform, writeAll, List.foldl_map]
  rfl

theorem readAll_append (bus : M) (first last : List Address) :
    readAll bus (first ++ last) =
      ((readAll bus first).1 ++ (readAll (readAll bus first).2 last).1,
        (readAll (readAll bus first).2 last).2) := by
  induction first generalizing bus with
  | nil => rfl
  | cons a first ih => simp only [List.cons_append, readAll, ih]

end Bus

end Console6502
