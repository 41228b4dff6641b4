import TurnByTurn.Command.Fault
import TurnByTurn.Command.Host
import TurnByTurn.Settings.Binding

/-! # Variables

Variables come from the host and from the settings file of the current folder, or of the nearest folder
above it that has one. What the host has is kept, and so is the first of several bindings of a name. No
variable can hold the character of code point zero, which ends a value.

* **`Environment.settingsPaths`** — where the settings file may be.
* **`Environment.load`** — the bindings of the settings file that count.
* **`Environment.value?`** — the value of a variable.
* **`Environment.referent?`** — what a reference in a value means. -/

namespace TurnByTurn

/-- **Variables that the host does not have**, with their values. -/
abbrev Environment : Type := List (String × String)

namespace Environment

open Settings (Binding Part)
open Command (Fault)

variable {m : Type → Type} [Monad m]

/-- **The value of a variable**, of the host or else among the given ones. -/
def value? (host : Host m) (environment : Environment) (name : String) : m (Option String) := do
  match ← host.lookup name with
  | some value => return some value
  | none => return environment.lookup name

/-- **What a reference means.** A variable stands among the others as one text, its name and its value
with an equals sign between them; a reference means what follows it and an equals sign in such a text.
So `A=x` means the rest of a value of `A` that begins with `x=`. -/
def referent? (host : Host m) (environment : Environment) (reference : List Char) :
    m (Option (List Char)) := do
  let name := reference.takeWhile (· ≠ '=')
  match ← value? host environment (.ofList name) with
  | some value => return (reference ++ ['=']).isPrefixOf? (name ++ '=' :: value.toList)
  | none => return none

/-- The text of a value. A reference that means nothing is empty. -/
def expand (host : Host m) (environment : Environment) : List Part → m (List Char)
  | [] => return []
  | .character c :: rest => return c :: (← expand host environment rest)
  | .reference name :: rest => do
      let value ← referent? host environment name
      return value.getD [] ++ (← expand host environment rest)

/-- The variables after some more bindings. -/
def bind (host : Host m) (environment : Environment) : List Binding → ExceptT Fault m Environment
  | [] => return environment
  | b :: rest => do
      match ← (value? host environment b.name : m (Option String)) with
      -- the name has a value already, which stays
      | some _ => bind host environment rest
      | none =>
          let value ← (expand host environment b.value : m (List Char))
          if value.contains '\x00' then throw .unsettable
          bind host ((b.name, .ofList value) :: environment) rest

/-- **The paths at which the settings file may be**: in the current folder, and then in those above it. -/
def settingsPaths (current : List String) : List Path :=
  (List.range (current.length + 1)).reverse.map fun depth =>
    (⟨"/"⟩ : Path).joinAll (current.take depth ++ [".env"])

/-- The text of the first file at some paths. The search does not go on after a path that is too long. -/
def firstText? (host : Host m) : List Path → m (Option String)
  | [] => return none
  | p :: rest => do
      if !p.isUsable then return none
      else if ← host.isFile p then host.read p
      else firstText? host rest

/-- **The variables of the settings file.** Without the file there are none. -/
def load (host : Host m) : ExceptT Fault m Environment := do
  let some current ← (host.current : m (Option (List String))) | return []
  match ← (firstText? host (settingsPaths current) : m (Option String)) with
  | some text => bind host [] (Settings.bindings text)
  | none => return []

end Environment

end TurnByTurn
