import TurnByTurn.Command.Describe
import TurnByTurn.RouteFile.Schema

/-! # Running commands

* **`Command.execute`** — runs a command on a host.
* **`Command.run`** — runs the command of some arguments. -/

namespace TurnByTurn.Command

variable {m : Type → Type} [Monad m]

/-- **Runs a command** and tells what it prints. -/
def execute (host : Host m) (environment : Environment) : Command → ExceptT Fault m String
  | nothing => return ""
  | trace asked => asked.run host
  | describe asked => asked.run host environment
  | schema out => do
      save host out RouteFile.schema.pretty
      return ""

/-- **Runs the command of some arguments** and tells what it prints, or why it fails. -/
def run (host : Host m) (args : List String) : m (Except Fault String) := ExceptT.run do
  let environment ← Environment.load host
  match ofArguments args with
  | .error fault => throw fault
  | .ok command => execute host environment command

end TurnByTurn.Command
