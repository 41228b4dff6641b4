import TurnByTurn.Command.Arguments
import TurnByTurn.Command.Host
import TurnByTurn.Guidance.Json
import TurnByTurn.RouteFile.Build
import TurnByTurn.RouteFile.Reader

/-! # The trace command

Traces one route file, or all route files below a folder. Everything about a route is computed before
anything of it is written; with an output folder each trace is written before the next route is read.

* **`load`**, **`saveTrace`** — the route of a file, and a trace to a file.
* **`timed`** — the trace of a route, with moments when there is a departure.
* **`Trace.run`** — the command. -/

namespace TurnByTurn.Command

open Json (Value)

variable {m : Type → Type} [Monad m]

/-! ## Routes -/

/-- **The route of a file.** -/
def load (host : Host m) (p : Path) : ExceptT Fault m Route := do
  match ← host.read p with
  | none => throw .inaccessible
  | some text =>
      match RouteFile.read text with
      | .error fault => throw (.unreadable fault)
      | .ok file =>
          match file.route .greatCircle with
          | .error error => throw (.unguidable error)
          | .ok route => return route

/-- Writes a text to a file. -/
def save (host : Host m) (p : Path) (text : String) : ExceptT Fault m Unit := do
  match ← host.write p text with
  | none => return ()
  | some _ => throw .inaccessible

/-- The bytes of a trace that are collected before they are written. -/
def portion : Nat := 8192

/-- **Writes a trace to a file.** It is written in portions, and that there is room for the last one is
not checked. So a trace of a single portion needs no room. -/
def saveTrace (host : Host m) (p : Path) (trace : Value) : ExceptT Fault m Unit := do
  let text := trace.pretty
  match ← host.write p text with
  | none => return ()
  | some .full => if portion < text.utf8ByteSize then throw .inaccessible
  | some .unreachable => throw .inaccessible

/-! ## Traces with moments -/

/-- A sample and, when there is a departure, the moment it is reached. -/
structure TimedSample where
  sample : Sample
  moment : Option Moment

/-- The timed sample as a JSON value. -/
def TimedSample.json (t : TimedSample) : Value :=
  .object (t.sample.fields ++ fieldIfPresent "timestamp" (.text ·.text) t.moment)

/-- The moment some time after the departure. -/
def momentAfter (start : Moment) (time : Milliseconds) : Except Fault Moment :=
  match Duration.ofMilliseconds? time with
  | none => .error .durationTooLarge
  | some duration =>
      match start.later? duration.milliseconds with
      | none => .error .momentOutOfRange
      | some moment => .ok moment

/-- A sample with its moment. -/
def timedSample (start : Option Moment) (sample : Sample) : Except Fault TimedSample :=
  match start with
  | none => .ok ⟨sample, none⟩
  | some start => (momentAfter start sample.time).map fun moment => ⟨sample, some moment⟩

/-- **The trace of a route.** The whole duration has to be one for display. -/
def timed (start : Option Moment) (route : Route) : Except Fault (List TimedSample) :=
  match route.trace .greatCircle 0, route.totalTime with
  | .error error, _ => .error (.unguidable error)
  | _, .error error => .error (.unguidable error)
  | .ok samples, .ok total =>
      match Duration.ofMilliseconds? total with
      | none => .error .durationTooLarge
      -- the whole duration is shown as well, and so has to fit
      | some _ => samples.mapM (timedSample start)

/-- A trace as a JSON value. -/
def traceJson (samples : List TimedSample) : Value := .array (samples.map TimedSample.json)

/-! ## The command -/

namespace Trace

/-- The trace of a file. -/
def ofFile (host : Host m) (asked : Trace) (p : Path) : ExceptT Fault m Value := do
  let route ← load host p
  match timed asked.start route with
  | .error fault => throw fault
  | .ok samples => return traceJson samples

/-- Writes the traces of files below the input folder to the output folder, each under the name of its
file. -/
def saveAll (host : Host m) (asked : Trace) (out : Path) : List (List String) → ExceptT Fault m Unit
  | [] => return ()
  | names :: rest => do
      let trace ← ofFile host asked (asked.input.joinAll names)
      -- only the file's own name counts in the output folder
      saveTrace host (out.join (names.getLastD "")) trace
      saveAll host asked out rest

/-- The traces of files below the input folder, each with its path. -/
def rows (host : Host m) (asked : Trace) : List (List String) → ExceptT Fault m (List Value)
  | [] => return []
  | names :: rest => do
      let p := asked.input.joinAll names
      let trace ← ofFile host asked p
      let later ← rows host asked rest
      return .object [("route", .text p.text), ("samples", trace)] :: later

/-- The route files below a folder, in the order of their names. -/
def routeFiles (host : Host m) (folder : Path) : ExceptT Fault m (List (List String)) := do
  match ← host.filesBelow folder with
  | none => throw .inaccessible
  | some files =>
      return (sortedNames files).filter fun names => extension? (names.getLastD "") = some "json"

/-- **The trace command**, and what it prints. -/
def run (host : Host m) (asked : Trace) : ExceptT Fault m String := do
  if ← host.isFile asked.input then
    let trace ← ofFile host asked asked.input
    match asked.out with
    | some out =>
        saveTrace host out trace
        return ""
    | none => return trace.pretty ++ "\n"
  else
    let files ← routeFiles host asked.input
    match asked.out with
    | some out =>
        saveAll host asked out files
        return ""
    | none => return (Value.array (← rows host asked files)).pretty ++ "\n"

end Trace

end TurnByTurn.Command
