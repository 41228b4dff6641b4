import TurnByTurn.Json.Record
import TurnByTurn.RouteFile.Basic

/-! # Reading route files

Route files are JSON. Routes, their entries and notes refuse fields that they do not know.

* **`Note.record`**, **`RouteFile.Entry.record`**, **`RouteFile.record`** — the three records.
* **`RouteFile.read`** — the route of a text. -/

namespace TurnByTurn

open Json (Decoder Field Record need)

/-! ## Notes -/

/-- A note of which some fields are read. -/
structure Note.Draft where
  importance : Option Int32 := none
  message : Option String := none

/-- **The fields of a note.** Both have defaults. -/
def Note.record : Record Note.Draft Note where
  name := "InstructionAnnotation"
  strict := true
  blank := {}
  fields := [
    .of "importance" true .int32 (·.importance) fun a draft => { draft with importance := some a },
    .of "message" true .string (·.message) fun a draft => { draft with message := some a }]
  finish draft := .ok ⟨draft.importance.getD 0, draft.message.getD ""⟩

/-! ## Routes -/

namespace RouteFile

/-- An entry of which some fields are read. -/
structure Entry.Draft where
  sign : Option Int32 := none
  name : Option String := none
  viaPosition : Option (Option UInt64) := none
  note : Option (Option Note) := none
  points : Option (List (List Float)) := none
  distance : Option (Option Float) := none
  time : Option Milliseconds := none

/-- **The fields of an entry.** Sign and points must be there; name and duration have defaults, and
what else is missing is absent. -/
def Entry.record : Record Entry.Draft Entry where
  name := "JsonInstruction"
  strict := true
  blank := {}
  fields := [
    .of "sign" false .int32 (·.sign) fun a draft => { draft with sign := some a },
    .of "name" true .string (·.name) fun a draft => { draft with name := some a },
    .of "via_position" false (.optional (.natural64 "usize")) (·.viaPosition)
      fun a draft => { draft with viaPosition := some a },
    .of "annotation" false (.optional Note.record.decoder) (·.note)
      fun a draft => { draft with note := some a },
    .of "points" false (.array (.array .double)) (·.points)
      fun a draft => { draft with points := some a },
    .of "distance" false (.optional .double) (·.distance)
      fun a draft => { draft with distance := some a },
    .of "time" true (.natural64 "u64") (·.time) fun a draft => { draft with time := some a }]
  finish draft := do
    let sign ← need "sign" draft.sign
    let points ← need "points" draft.points
    return {
      sign := sign
      name := draft.name.getD ""
      viaPosition := draft.viaPosition.getD none
      note := draft.note.getD none
      points := points
      distance := draft.distance.getD none
      time := draft.time.getD 0 }

/-- **The only field of a route.** -/
def record : Record (Option (List Entry)) RouteFile where
  name := "JsonRoute"
  strict := true
  blank := none
  fields := [.of "instructions" false (.array Entry.record.decoder) id fun a _ => some a]
  finish draft := (need "instructions" draft).map RouteFile.mk

/-- **The route of a text.** -/
def read (s : String) : Except Json.Fault RouteFile := Json.document record.decoder.read s

end RouteFile

end TurnByTurn
