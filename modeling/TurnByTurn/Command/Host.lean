import TurnByTurn.Files.Tree

/-! # What a command needs from its host

Commands read and write files and look up variables. They do so through a `Host`, so that the same
commands run on a computer and on a tree of files.

* **`Host`** — the operations.
* **`Tree.host`** — the operations on a tree. -/

namespace TurnByTurn

/-- **What a command needs from its host.** -/
structure Host (m : Type → Type) where
  /-- The names on the way to the current folder, if it is there. -/
  current : m (Option (List String))
  /-- Whether there is a file at a path. -/
  isFile : Path → m Bool
  /-- The text of a file, if it can be read. -/
  read : Path → m (Option String)
  /-- The files below a folder, in any order, each given by the names on the way to it; none if the
  folder cannot be read. -/
  filesBelow : Path → m (Option (List (List String)))
  /-- Writes a text to a file, after making the folders on the way to it; tells why that did not work. -/
  write : Path → String → m (Option WriteFault)
  /-- The value of a variable. -/
  lookup : String → m (Option String)

namespace Tree

/-- **A tree of files as a host**, with the place of the current folder and the given variables. A write
that fails leaves the folders that were made for it. -/
def host (current : List String) (environment : String → Option String) : Host (StateM Tree) where
  current := return some current
  isFile p := return (← get).isFileAt current p
  read p := return (← get).read? current p
  filesBelow p := do
    match (← get).find? current p with
    -- a file whose path gets too long on the way is not seen
    | some (.folder entries) => return some ((filesIn entries).filter (p.joinAll · |>.isUsable))
    | _ => return none
  write p text := do
    match (← get).write current p text with
    | .ok t =>
        set t
        return none
    | .error fault =>
        modify (·.prepare current p)
        return some fault
  lookup name := return environment name

end Tree

end TurnByTurn
