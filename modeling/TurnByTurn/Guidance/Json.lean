import TurnByTurn.Guidance.Maneuver
import TurnByTurn.Guidance.Trace
import TurnByTurn.Json.Record

/-! # Guidance in JSON

How points, lengths, compass points, samples and maneuvers are written as JSON and, where a text may
hold them, read from it.

* **`Sample.json`**, **`Maneuver.json`** — the rows of traces and of descriptions.
* **`Point.json`**, **`Point.record`** — points by field names.
* **`Compass.read`** — a compass point by its abbreviation. -/

namespace TurnByTurn

open Json (Value Fault Record need)

/-- A field that is left out when it is absent. -/
def fieldIfPresent {α : Type} (key : String) (write : α → Value) (a : Option α) :
    List (String × Value) :=
  a.toList.map fun a => (key, write a)

/-! ## Lengths and points -/

/-- The length as a JSON value. -/
def Meters.json (a : Meters) : Value := .real a.value

/-- The point as a JSON value. -/
def Point.json (p : Point) : Value :=
  .object ([("lat", .real p.latitude), ("lon", .real p.longitude)]
    ++ fieldIfPresent "ele" .real p.elevation)

/-- A point of which some fields are read. -/
structure Point.Draft where
  latitude : Option Float := none
  longitude : Option Float := none
  elevation : Option (Option Float) := none

/-- **The fields of a point.** Other fields are passed over. -/
def Point.record : Record Point.Draft Point where
  name := "GeoPoint"
  strict := false
  blank := {}
  fields := [
    .of "lat" false .double (·.latitude) fun a draft => { draft with latitude := some a },
    .of "lon" false .double (·.longitude) fun a draft => { draft with longitude := some a },
    .of "ele" true (.optional .double) (·.elevation)
      fun a draft => { draft with elevation := some a }]
  finish draft := do
    let latitude ← need "lat" draft.latitude
    let longitude ← need "lon" draft.longitude
    return ⟨latitude, longitude, draft.elevation.getD none⟩

/-! ## Compass points -/

namespace Compass

/-- The compass point with an abbreviation. -/
def accept (label : String) (rest : List Char) : Except Fault (Compass × List Char) :=
  match ofLabel? label with
  | some c => .ok (c, rest)
  | none => .error (.mismatch (.unknownVariant label (all.map Compass.label)))

/-- The compass point whose abbreviation stands in quotation marks. -/
def readLabel (s : List Char) : Except Fault (Compass × List Char) :=
  match Json.skipBlank s with
  | [] => .error .unfinished
  | '"' :: rest => do
      let (label, rest) ← Json.readText rest
      accept label rest
  | _ => .error .malformed

/-- The compass point that is the only key of an object, whose value has to be `null`. -/
def readMember (s : List Char) : Except Fault (Compass × List Char) := do
  let (c, rest) ← readLabel s
  -- a compass point carries nothing, so its value is null
  let rest ← Json.afterColon rest
  let (head, rest) ← Json.readHead rest
  match head with
  | .null => pure ()
  | head => throw (.mismatch (.wrongType head.found "unit"))
  match Json.skipBlank rest with
  | [] => throw .unfinished
  | '\x7d' :: rest => return (c, rest)
  | _ => throw .malformed

/-- **A compass point**: its abbreviation, or an object with the abbreviation as its only key. -/
def read (s : List Char) : Except Fault (Compass × List Char) :=
  match Json.skipBlank s with
  | '\x7b' :: rest => readMember rest
  | s => readLabel s

end Compass

/-! ## Samples and maneuvers -/

/-- The fields of a sample. Without elevation there is no field for it. -/
def Sample.fields (sample : Sample) : List (String × Value) :=
  [("lat", .real sample.latitude), ("lon", .real sample.longitude)]
    ++ fieldIfPresent "ele" .real sample.elevation
    ++ [("time", .integer sample.time.toNat)]

/-- **The sample as a JSON value.** -/
def Sample.json (sample : Sample) : Value := .object sample.fields

/-- **The maneuver as a JSON value.** Only a via point has a position, and only an annotated
instruction has a note. -/
def Maneuver.json (m : Maneuver) : Value :=
  .object ([
    ("text", .text m.text),
    ("sign", .integer m.sign.toInt),
    ("street_name", .text m.street),
    ("distance", m.distance.json),
    ("time", .integer m.time.toNat),
    ("interval", .array [.integer m.interval.1, .integer m.interval.2]),
    ("direction", .text m.direction),
    ("azimuth", .text m.azimuth)]
    ++ fieldIfPresent "via_position" (.integer ·.toNat) m.viaPosition
    ++ fieldIfPresent "annotation_text" (.text ·.message) m.note
    ++ fieldIfPresent "annotation_importance" (.integer ·.importance.toInt) m.note)

end TurnByTurn
