import TurnByTurn.Calendar.Duration
import TurnByTurn.Guidance.Error
import TurnByTurn.Json.Fault

/-! # Why a command fails

* **`Command.Fault`** — the reasons.
* **`Fault.exitCode`** — the exit code that tells them apart from success.
* **`Fault.message`** — the sentence for the user. -/

namespace TurnByTurn.Command

/-- **Why a command fails.** -/
inductive Fault where
  /-- The arguments make no sense. -/
  | usage
  /-- The arguments stop before a word that is needed, and help is shown. -/
  | help
  /-- The settings file gives a variable a value that no variable can have. -/
  | unsettable
  /-- A file or a folder cannot be read or written. -/
  | inaccessible
  /-- A route file is no route file. -/
  | unreadable (fault : Json.Fault)
  /-- A route is no route, or cannot be traced. -/
  | unguidable (error : GuidanceError)
  /-- A duration is too long for display. -/
  | durationTooLarge
  /-- A moment is beyond all moments. -/
  | momentOutOfRange

namespace Fault

/-- **The exit code**: two for arguments, 101 for settings that break the program off, one for
everything else. -/
def exitCode : Fault → Nat
  | usage => 2
  | help => 2
  | unsettable => 101
  | _ => 1

/-- **The sentence for the user.** -/
def message : Fault → String
  | usage => "invalid arguments"
  | help => "a subcommand is needed"
  | unsettable => "a variable cannot have the value that is set"
  | inaccessible => "a file cannot be read or written"
  | unreadable .unfinished => "the route file ends too early"
  | unreadable .malformed => "the route file is no JSON"
  | unreadable (.mismatch m) => m.message
  | unguidable error => error.message
  | durationTooLarge => Duration.tooLarge
  | momentOutOfRange => "the moment is out of range"

end Fault

end TurnByTurn.Command
