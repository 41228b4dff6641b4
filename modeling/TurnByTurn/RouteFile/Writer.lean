import TurnByTurn.Json.Value
import TurnByTurn.RouteFile.Basic

/-! # Writing route files

Every field is written, in the order of declaration; what is absent is `null`.

* **`RouteFile.json`** — the route as a JSON value.
* **`RouteFile.write`** — its text. -/

namespace TurnByTurn

open Json (Value)

/-- The note as a JSON value. -/
def Note.json (a : Note) : Value :=
  .object [("importance", .integer a.importance.toInt), ("message", .text a.message)]

namespace RouteFile

/-- The entry as a JSON value. -/
def Entry.json (entry : Entry) : Value :=
  .object [
    ("sign", .integer entry.sign.toInt),
    ("name", .text entry.name),
    ("via_position", .ofOption (.integer ·.toNat) entry.viaPosition),
    ("annotation", .ofOption Note.json entry.note),
    ("points", .array (entry.points.map fun c => .array (c.map .real))),
    ("distance", .ofOption .real entry.distance),
    ("time", .integer entry.time.toNat)]

/-- **The route as a JSON value.** -/
def json (file : RouteFile) : Value :=
  .object [("instructions", .array (file.entries.map Entry.json))]

/-- **The text of a route**, without blanks. -/
def write (file : RouteFile) : String := file.json.compact

end RouteFile

end TurnByTurn
