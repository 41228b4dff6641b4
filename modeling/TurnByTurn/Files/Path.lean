/-! # Paths

A path is the text that names a file: names with slashes between them.

* **`Path.segments`** — what stands between the slashes.
* **`Path.join`** — the path of something inside a folder.
* **`Path.isUsable`** — whether a path is short enough for a file.
* **`Path.makeable`** — the folders that can be made on the way.
* **`extension?`** — the end of a file's name that tells its format.
* **`sortedNames`** — files in the order of their names, folder by folder. -/

namespace TurnByTurn

/-- **The text that names a file.** -/
structure Path where
  text : String
deriving DecidableEq, Repr

namespace Path

/-- Whether the path starts at the root of all files and not at the current folder. -/
def isAbsolute (p : Path) : Bool := p.text.toList.head? = some '/'

/-- The place at which following the path begins, given the place of the current folder. -/
def origin (current : List String) (p : Path) : List String := if p.isAbsolute then [] else current

/-- **What stands between the slashes**, empty where two of them touch. -/
def segments (p : Path) : List String := (p.text.toList.splitOn '/').map String.ofList

/-- **The path of something inside a folder.** A slash is put between the two unless there is one. -/
def join (folder : Path) (name : String) : Path :=
  ⟨if folder.text.toList.getLast? = some '/' then folder.text ++ name else folder.text ++ "/" ++ name⟩

/-- The path of a file that lies some folders deep inside a folder. -/
def joinAll (folder : Path) (names : List String) : Path := names.foldl join folder

/-- The path inside nothing is the folder's own. -/
@[simp] theorem joinAll_nil (folder : Path) : folder.joinAll [] = folder := rfl

/-- A path is entered name by name. -/
@[simp] theorem joinAll_cons (folder : Path) (name : String) (names : List String) :
    folder.joinAll (name :: names) = (folder.join name).joinAll names := rfl

/-! ## Length -/

/-- The bytes that a name may have. -/
def longestName : Nat := 255

/-- The bytes that a whole path may have. -/
def longest : Nat := 4095

/-- **Whether a path is short enough for a file.** A path that is too long leads nowhere, even if all
its names do nothing but stay where they are. -/
def isUsable (p : Path) : Bool :=
  p.text.utf8ByteSize ≤ longest && p.segments.all fun name => name.utf8ByteSize ≤ longestName

/-! ## The folder of a path -/

/-- Whether a segment leads nowhere else. -/
def stays (segment : String) : Bool := segment = "" ∨ segment = "."

/-- Segments without those at the end that lead nowhere else. -/
def trimmed (segments : List String) : List String := (segments.reverse.dropWhile stays).reverse

/-- The segments before the last one that leads somewhere. -/
def folder (p : Path) : List String := (trimmed p.segments).dropLast

/-- **The segments for which folders can be made** on the way of a path. If the path of its folder is too
long there are none, and else they end before the first name that is. -/
def makeable (p : Path) : List String :=
  if ("/".intercalate (trimmed p.folder)).utf8ByteSize ≤ longest then
    p.folder.takeWhile fun name => name.utf8ByteSize ≤ longestName
  else []

end Path

/-- **What follows the last point of a file's name.** A point at the beginning of the name does not
count: `.json` has no extension. -/
def extension? (name : String) : Option String :=
  -- the point has to have something before it
  let backward := name.toList.reverse
  match backward.dropWhile (· ≠ '.') with
  | '.' :: _ :: _ => some (.ofList (backward.takeWhile (· ≠ '.')).reverse)
  | _ => none

/-- The order of two names, by the code points of their characters. -/
def compareNames (a b : String) : Ordering :=
  List.compareLex (fun c d => compare c.toNat d.toNat) a.toList b.toList

/-- **Files in the order of their names**, each given by the folders on the way to it and its own name. -/
def sortedNames (files : List (List String)) : List (List String) :=
  files.mergeSort fun a b => (List.compareLex compareNames a b).isLE

/-- Sorting keeps every file. -/
theorem perm_sortedNames (files : List (List String)) : (sortedNames files).Perm files :=
  List.mergeSort_perm ..

end TurnByTurn
