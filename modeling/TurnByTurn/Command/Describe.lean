import TurnByTurn.Command.Environment
import TurnByTurn.Command.Trace
import TurnByTurn.Text.Table

/-! # The describe command

Shows the maneuvers of a route file as a table or as JSON.

* **`Describe.phrasebook`** — whose phrases are used.
* **`Describe.row`** — a maneuver as a row of the table.
* **`Describe.run`** — the command. -/

namespace TurnByTurn.Command.Describe

variable {m : Type → Type} [Monad m]

/-- The variable that names a locale. -/
def localeVariable : String := "HERMES_LOCALE"

/-- **The phrasebook that is asked for.** A locale is taken from the arguments, from a variable, or by
default, in this order; a file of phrases outweighs the built-in ones. -/
def phrasebook (host : Host m) (environment : Environment) (asked : Describe) :
    ExceptT Fault m Phrasebook := do
  let configured ← (Environment.value? host environment localeVariable : m (Option String))
  let locale := (asked.locale <|> configured).getD Locale.default
  match asked.phrases with
  | none => return .ofBundle (Locale.bundle locale)
  | some p =>
      match ← host.read p with
      | none => throw .inaccessible
      | some text => return .ofBundle (.read locale text)

/-- The head of the table. -/
def header : List String := ["#", "Maneuver", "Distance (m)", "Time", "Heading", "Note"]

/-- Compass point and bearing in one cell, empty when there is none. -/
def headingCell (maneuver : Maneuver) : String :=
  if maneuver.direction = "" then ""
  else maneuver.direction ++ " (" ++ maneuver.azimuth ++ "°)"

/-- **The row of a maneuver** with its number, counted from zero. -/
def row (maneuver : Maneuver) (number : Nat) : Except Fault (List String) :=
  match Duration.ofMilliseconds? maneuver.time with
  | none => .error .durationTooLarge
  | some duration => .ok [
      toString (number + 1), maneuver.text, Binary64.whole maneuver.distance.value, duration.text,
      headingCell maneuver, (maneuver.note.map (·.message)).getD ""]

/-- **The describe command**, and what it prints. -/
def run (host : Host m) (environment : Environment) (asked : Describe) :
    ExceptT Fault m String := do
  let phrasebook ← phrasebook host environment asked
  -- the phrases are looked for before the route
  let route ← load host asked.input
  let maneuvers := route.maneuvers phrasebook .greatCircle
  if asked.json then return (Json.Value.array (maneuvers.map Maneuver.json)).pretty ++ "\n"
  else
    match maneuvers.zipIdx.mapM fun (maneuver, number) => row maneuver number with
    | .error fault => throw fault
    | .ok rows => return Text.Table.draw header rows ++ "\n"

end TurnByTurn.Command.Describe
