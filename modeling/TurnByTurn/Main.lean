import TurnByTurn.Command.Run

/-! # The program

The commands on the computer that the program runs on. Standard output is what a command prints, and
the reason of a failure goes to standard error. -/

namespace TurnByTurn.Main

/-- A path as the operating system takes it. -/
def entry (p : Path) : IO.FS.DirEntry := ⟨p.text, ""⟩

/-- Whether there is a file of the given kind at a path. -/
def isKind (kind : IO.FS.FileType) (p : Path) : IO Bool := do
  try
    return (← (entry p).root.metadata).type == kind
  catch _ => return false

/-- The result of an action, if it succeeds. -/
def attempt {α : Type} (action : IO α) : IO (Option α) := do
  try
    return some (← action)
  catch _ => return none

/-- The files below a folder. -/
partial def filesBelow (p : Path) : IO (List (List String)) := do
  let mut files := #[]
  for e in ← (entry p).root.readDir do
    let child := p.join e.fileName
    if ← isKind .file child then
      files := files.push [e.fileName]
    else if ← isKind .dir child then
      for below in ← filesBelow child do
        files := files.push (e.fileName :: below)
  return files.toList

/-- A file that can be written, after making the folders on the way to it. -/
def create (p : Path) : IO IO.FS.Handle := do
  match (entry p).root.parent with
  | some parent => IO.FS.createDirAll parent
  | none => pure ()
  IO.FS.Handle.mk p.text .write

/-- Writes a text to a file, after making the folders on the way to it. -/
def write (p : Path) (text : String) : IO (Option WriteFault) := do
  match ← attempt (create p) with
  | none => return some .unreachable
  | some file =>
      match ← attempt (do file.putStr text; file.flush) with
      | none => return some .full
      | some _ => return none

/-- The names on the way to the current folder, if it is there. -/
def current : IO (Option (List String)) :=
  return (← attempt IO.currentDir).map (·.components.filter (· ≠ ""))

/-- **The computer as a host.** -/
def host : Host IO where
  current := current
  isFile := isKind .file
  read p := attempt (IO.FS.readFile p.text)
  filesBelow p := attempt (filesBelow p)
  write := write
  lookup name := IO.getEnv name

end TurnByTurn.Main

open TurnByTurn in
/-- Runs the command of the arguments. -/
def main (args : List String) : IO UInt32 := do
  match ← Command.run Main.host args with
  | .ok text =>
      IO.print text
      return 0
  | .error fault =>
      IO.eprintln ("error: " ++ fault.message)
      return fault.exitCode.toUInt32
