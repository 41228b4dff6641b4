import TurnByTurn.Phrases.Template
import TurnByTurn.Text.Blank
import TurnByTurn.Text.Lowercase

/-! # Phrase bundles

A bundle gives templates for keys. It is written as lines `key=template`; blank lines and lines that
start with `#` say nothing, and neither does a line without an equals sign. Keys are the same whatever
their letter case, and a later line for a key replaces an earlier one.

* **`Bundle.binding?`** — what a line says.
* **`Bundle.read`** — the bundle of a text.
* **`Bundle.template?`** — the template of a key.
* **`Bundle.phrase`** — the text for a key with parameters. -/

namespace TurnByTurn

/-- Templates for keys, in the order of their lines. -/
structure Bundle where
  locale : String
  bindings : List (String × String)
deriving DecidableEq, Repr

namespace Bundle

/-! ## Reading -/

/-- **What a line says**: the key before the first equals sign in small letters and the template after
it, both without blanks around them. -/
def binding? (line : List Char) : Option (String × String) :=
  let line := Text.trim line
  -- the blanks go first, so a comment may be indented
  if line.head? = some '#' then none
  else
    match line.dropWhile (· ≠ '=') with
    | [] => none
    | _ :: template =>
        some (Text.lowercase (.ofList (Text.trim (line.takeWhile (· ≠ '=')))),
          .ofList (Text.trim template))

/-- An empty line says nothing. -/
@[simp] theorem binding?_nil : binding? [] = none := by decide

/-- **The bundle of a text.** -/
def read (locale text : String) : Bundle where
  locale := locale
  bindings := (Text.lines text.toList).filterMap binding?

/-! ## Looking up -/

/-- **The template of a key**: that of the last line that has it. -/
def template? (bundle : Bundle) (key : String) : Option String :=
  (bundle.bindings.reverse.find? (·.1 = Text.lowercase key)).map (·.2)

/-- Whether some line has the key. -/
def contains (bundle : Bundle) (key : String) : Bool := (bundle.template? key).isSome

/-- **The text for a key.** A key without a template, or with an empty one, is its own text. -/
def phrase (bundle : Bundle) (key : String) (params : List String) : String :=
  match bundle.template? key with
  | none => key
  | some template => if template = "" then key else Template.format template params

end Bundle

end TurnByTurn
