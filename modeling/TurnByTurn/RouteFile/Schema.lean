import TurnByTurn.Json.Value

/-! # The schema of route files

* **`RouteFile.schema`** — a JSON schema that describes route files. -/

namespace TurnByTurn.RouteFile

open Json (Value)

/-- A schema that stands under another name. -/
def reference (name : String) : Value := .object [("$ref", .text ("#/$defs/" ++ name))]

/-- A value of one type or `null`. -/
def nullable (type : String) : String × Value := ("type", .array [.text type, .text "null"])

/-- The schema of notes. -/
def noteSchema : Value := .object [
  ("description", .text ("Extra information attached to an instruction, like a warning about the "
    ++ "road\nahead. Carried along, never interpreted here.")),
  ("type", .text "object"),
  ("properties", .object [
    ("importance", .object [
      ("type", .text "integer"), ("format", .text "int32"), ("default", .integer 0)]),
    ("message", .object [("type", .text "string"), ("default", .text "")])]),
  ("additionalProperties", .bool false)]

/-- The schema of entries. -/
def entrySchema : Value := .object [
  ("type", .text "object"),
  ("properties", .object [
    ("annotation", .object [
      ("anyOf", .array [reference "Annotation", .object [("type", .text "null")]])]),
    ("distance", .object [
      ("description",
        .text "Meters until the next instruction, computed from the points when absent"),
      nullable "number", ("format", .text "double")]),
    ("name", .object [
      ("description", .text "Name of the street being entered"),
      ("type", .text "string"), ("default", .text "")]),
    ("points", .object [
      ("description", .text ("\x60[lon, lat]\x60 or \x60[lon, lat, ele]\x60, "
        ++ "the same arity for the whole route")),
      ("type", .text "array"),
      ("items", .object [
        ("type", .text "array"),
        ("items", .object [("type", .text "number"), ("format", .text "double")])])]),
    ("sign", .object [
      ("description",
        .text "Turn code from -3 (sharp left) to 3 (sharp right), 4 finish, 5 reached via"),
      ("type", .text "integer"), ("format", .text "int32")]),
    ("time", .object [
      ("description", .text "Milliseconds until the next instruction"),
      ("type", .text "integer"), ("format", .text "uint64"), ("default", .integer 0),
      ("minimum", .integer 0)]),
    ("via_position", .object [
      ("description", .text "1-based via point index, required when sign is 5"),
      nullable "integer", ("format", .text "uint"), ("minimum", .integer 0)])]),
  ("additionalProperties", .bool false),
  ("required", .array [.text "sign", .text "points"])]

/-- **The schema of route files.** -/
def schema : Value := .object [
  ("$schema", .text "https://json-schema.org/draft/2020-12/schema"),
  ("title", .text "Route"),
  ("type", .text "object"),
  ("properties", .object [
    ("instructions", .object [("type", .text "array"), ("items", reference "Instruction")])]),
  ("additionalProperties", .bool false),
  ("required", .array [.text "instructions"]),
  ("$defs", .object [("Annotation", noteSchema), ("Instruction", entrySchema)])]

end TurnByTurn.RouteFile
