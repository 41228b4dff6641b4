import TurnByTurn.Files.Device
import TurnByTurn.Files.Path

/-! # Trees of files

A tree of folders, files and devices without links. Places in it are lists of names from the root; a path
is followed name by name from the root or from the current folder, `.` staying where it is and `..` going
back, unless it is too long.

* **`Tree.get?`**, **`Tree.put`** — what is at a place, and the tree with something else there.
* **`Tree.find?`**, **`Tree.read?`** — what is at a path, and the text there.
* **`Tree.write`** — the tree after a text was written at a path.
* **`Tree.prepare`** — the tree after the folders for that were made.
* **`Tree.files`** — the places of all files. -/

namespace TurnByTurn

/-- **A file with its text, a folder with its entries, or a device.** -/
inductive Tree where
  | file (text : String)
  | folder (entries : List (String × Tree))
  | device (device : Device)

namespace Tree

/-- The folder without entries. -/
def empty : Tree := folder []

/-- The entries of a folder; nothing else has any. -/
def entries : Tree → List (String × Tree)
  | folder entries => entries
  | _ => []

/-- The tree in which nothing is but the devices, in their usual places. -/
def bare : Tree := folder [("dev", folder [
  ("null", device .null), ("zero", device .zeros), ("random", device .noise),
  ("urandom", device .noise), ("full", device .full), ("stdin", device .input),
  ("stdout", device (.output "")), ("stderr", device .errors), ("tty", device .terminal)])]

/-! ## Places -/

/-- **What is at a place.** -/
def get? (t : Tree) : List String → Option Tree
  | [] => some t
  | name :: rest =>
      match t.entries.lookup name with
      | some child => child.get? rest
      | none => none

/-- Entries with another tree under a name. -/
def setEntry (name : String) (t : Tree) : List (String × Tree) → List (String × Tree)
  | [] => [(name, t)]
  | (other, old) :: rest =>
      if other = name then (other, t) :: rest else (other, old) :: setEntry name t rest

/-- **The tree with something else at a place.** Folders that are missing on the way are made. -/
def put (new : Tree) (t : Tree) : List String → Tree
  | [] => new
  | name :: rest =>
      folder (setEntry name (new.put ((t.entries.lookup name).getD empty) rest) t.entries)

/-- The root is where the way begins. -/
@[simp] theorem get?_nil (t : Tree) : t.get? [] = some t := rfl

/-- An entry that was set is found. -/
@[simp] theorem lookup_setEntry (name : String) (t : Tree) (entries : List (String × Tree)) :
    (setEntry name t entries).lookup name = some t := by
  induction entries with
  | nil => simp [setEntry]
  | cons entry rest ih =>
      obtain ⟨other, old⟩ := entry
      unfold setEntry
      split
      · rename_i h
        subst h
        exact List.lookup_cons_self
      · rename_i h
        have : (name == other) = false := beq_eq_false_iff_ne.2 fun h' => h h'.symm
        rw [List.lookup_cons, this]
        exact ih

/-- What was put at a place is there. -/
@[simp] theorem get?_put (new t : Tree) (place : List String) :
    (new.put t place).get? place = some new := by
  induction place generalizing t with
  | nil => rfl
  | cons name rest ih => simp [put, get?, entries, ih]

/-! ## Paths -/

/-- Where a segment of a path leads from a place, which has to be a folder. Nothing is above the root. -/
def enter (t : Tree) (here : List String) (segment : String) : Option (List String) :=
  match t.get? here with
  | some (folder _) =>
      if segment = "" ∨ segment = "." then some here
      else if segment = ".." then some here.dropLast
      else some (here ++ [segment])
  | _ => none

/-- The place to which a path leads from the current folder. -/
def locate? (t : Tree) (current : List String) (p : Path) : Option (List String) :=
  if p.isUsable then p.segments.foldlM t.enter (p.origin current) else none

/-- **What is at a path.** -/
def find? (t : Tree) (current : List String) (p : Path) : Option Tree :=
  (t.locate? current p).bind t.get?

/-- Whether there is a file at a path, and not a folder or a device. -/
def isFileAt (t : Tree) (current : List String) (p : Path) : Bool :=
  match t.find? current p with
  | some (file _) => true
  | _ => false

/-- **The text at a path**, if a file or a device is there. -/
def read? (t : Tree) (current : List String) (p : Path) : Option String :=
  match t.find? current p with
  | some (file text) => some text
  | some (device d) => d.text?
  | _ => none

/-! ## Writing -/

/-- The tree with the folder to which a segment leads, made if it is missing, and its place. -/
def makeFolder (at' : Tree × List String) (segment : String) : Option (Tree × List String) :=
  match at'.1.enter at'.2 segment with
  | none => none
  | some there =>
      match at'.1.get? there with
      | some (folder _) => some (at'.1, there)
      | some _ => none
      | none => some (empty.put at'.1 there, there)

/-- The tree after a text was written at a place in an existing folder. A file that is there already is
replaced, a device takes the text if it can. -/
def writeAt (t : Tree) (place : List String) (text : String) : Except WriteFault Tree :=
  match t.get? place with
  | some (folder _) => .error .unreachable
  | some (device d) => (d.write text).map fun d => (device d).put t place
  | _ => .ok ((file text).put t place)

/-- **The tree after a text was written at a path.** The folders on the way are made. -/
def write (t : Tree) (current : List String) (p : Path) (text : String) : Except WriteFault Tree :=
  match p.isUsable, p.segments.getLast? with
  | true, some name =>
      match p.segments.dropLast.foldlM makeFolder (t, p.origin current) with
      | some (t, here) =>
          -- these name the folder itself or the one above it
          if name = "" ∨ name = "." ∨ name = ".." then .error .unreachable
          else t.writeAt (here ++ [name]) text
      | none => .error .unreachable
  | _, _ => .error .unreachable

/-- The tree with the folders to which some segments lead, made up to the first one that cannot be. -/
def makeFolders (t : Tree) (here : List String) : List String → Tree
  | [] => t
  | segment :: rest =>
      match makeFolder (t, here) segment with
      | some (t', there) => t'.makeFolders there rest
      | none => t

/-- **The tree after the folders on the way of a path were made**, as far as they can be. They stay also if
nothing can be written at the path then. -/
def prepare (t : Tree) (current : List String) (p : Path) : Tree :=
  t.makeFolders (p.origin current) p.makeable

/-! ## All files -/

mutual

/-- **The places of all files**, in the order of the entries. -/
def files : Tree → List (List String)
  | file _ => [[]]
  | folder entries => filesIn entries
  | device _ => []

/-- The places of the files of some entries. -/
def filesIn : List (String × Tree) → List (List String)
  | [] => []
  | (name, t) :: rest => t.files.map (name :: ·) ++ filesIn rest

end

end Tree

end TurnByTurn
