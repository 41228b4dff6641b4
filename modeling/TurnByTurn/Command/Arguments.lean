import TurnByTurn.Calendar.Reader
import TurnByTurn.Command.Fault
import TurnByTurn.Files.Path

/-! # Arguments

A command is a word with options after it. Options are long, as in `--input a` or `--input=a`, or
short, as in `-i a`, `-ia` or `-i=a`, and may be given once.

* **`Command`** — what is asked for.
* **`Option.read`** — the options of a command.
* **`Command.ofArguments`** — the command of a list of arguments. -/

namespace TurnByTurn

/-- What the trace command is asked for. -/
structure Command.Trace where
  input : Path
  out : Option Path
  start : Option Moment

/-- What the describe command is asked for. -/
structure Command.Describe where
  input : Path
  locale : Option String
  /-- A file of phrases. -/
  phrases : Option Path
  json : Bool

/-- **What is asked for.** -/
inductive Command where
  | nothing
  | trace (asked : Command.Trace)
  | describe (asked : Command.Describe)
  | schema (out : Path)

namespace Command

/-! ## Options -/

/-- **An option**: its long name, perhaps a letter, and whether it takes a value. -/
structure Flag where
  name : String
  letter : Option Char
  takesValue : Bool

/-- The options that are given, with their values. -/
abbrev Given : Type := List (String × String)

/-- Whether an argument can be the value of the option before it: it does not look like an option. -/
def isValue (arg : String) : Bool :=
  match arg.toList with
  -- a dash alone is a name like any other
  | ['-'] => true
  | '-' :: _ => false
  | _ => true

/-- An option that is spelled `flag`, with the value that is attached to it, if any, and the arguments
after it. -/
def takeFlag (flag : Flag) (attached : Option String) (rest : List String) :
    Option ((String × String) × List String) :=
  match flag.takesValue, attached, rest with
  | false, none, rest => some ((flag.name, ""), rest)
  | false, some _, _ => none
  | true, some value, rest => some ((flag.name, value), rest)
  | true, none, value :: rest => if isValue value then some ((flag.name, value), rest) else none
  | true, none, [] => none

/-- The option of an argument, with the value that is attached to it. -/
def flagOf? (flags : List Flag) (arg : String) : Option (Flag × Option String) :=
  match arg.toList with
  | '-' :: '-' :: word =>
      let name := String.ofList (word.takeWhile (· ≠ '='))
      let value := match word.dropWhile (· ≠ '=') with
        | [] => none
        | _ :: value => some (String.ofList value)
      (flags.find? (·.name = name)).map (·, value)
  | '-' :: letter :: tail =>
      let value := match tail with
        | [] => none
        | '=' :: value => some (String.ofList value)
        | value => some (String.ofList value)
      (flags.find? (·.letter = some letter)).map (·, value)
  | _ => none

/-- What follows an option is shorter. -/
theorem length_of_takeFlag {flag : Flag} {attached : Option String} {rest left : List String}
    {given : String × String} (h : takeFlag flag attached rest = some (given, left)) :
    left.length ≤ rest.length := by
  unfold takeFlag at h
  split at h
  · cases h
    exact Nat.le_refl _
  · cases h
  · cases h
    exact Nat.le_refl _
  · split at h
    · cases h
      simp
    · cases h
  · cases h

/-- **The options of a command.** Two dashes may end them; anything else that is no option is a
mistake. -/
def given? (flags : List Flag) (args : List String) : Option Given :=
  match args with
  | [] => some []
  | ["--"] => some []
  | arg :: rest =>
      match flagOf? flags arg with
      | none => none
      | some (flag, attached) =>
          match h : takeFlag flag attached rest with
          | none => none
          | some (given, left) =>
              have := length_of_takeFlag h
              (given? flags left).map (given :: ·)
termination_by args.length

/-- The options of a command, each given at most once. -/
def once? (flags : List Flag) (args : List String) : Option Given :=
  match given? flags args with
  | some given => if (given.map (·.1)).Nodup then some given else none
  | none => none

/-- The path that an option gives; it is not empty. -/
def path? (given : Given) (name : String) : Except Fault (Option Path) :=
  match given.lookup name with
  | none => .ok none
  | some "" => .error .usage
  | some text => .ok (some ⟨text⟩)

/-- The path that an option has to give. -/
def neededPath (given : Given) (name : String) : Except Fault Path :=
  match path? given name with
  | .ok (some p) => .ok p
  | _ => .error .usage

/-! ## Commands -/

/-- The options of the trace command. -/
def Trace.flags : List Flag :=
  [⟨"input", some 'i', true⟩, ⟨"out", some 'o', true⟩, ⟨"start", some 's', true⟩]

/-- The trace command with the given options. -/
def Trace.ofGiven (given : Given) : Except Fault Trace := do
  let input ← neededPath given "input"
  let out ← path? given "out"
  let start ← match given.lookup "start" with
    | none => pure none
    | some text =>
        match Moment.read text with
        | .ok m => pure (some m)
        | .error _ => throw .usage
  return ⟨input, out, start⟩

/-- The options of the describe command. -/
def Describe.flags : List Flag :=
  [⟨"input", some 'i', true⟩, ⟨"locale", some 'l', true⟩, ⟨"translations", none, true⟩,
    ⟨"json", none, false⟩]

/-- The describe command with the given options. -/
def Describe.ofGiven (given : Given) : Except Fault Describe := do
  let input ← neededPath given "input"
  let phrases ← path? given "translations"
  return ⟨input, given.lookup "locale", phrases, (given.lookup "json").isSome⟩

/-- A command whose options are read by `ofGiven`. -/
def withOptions {α : Type} (flags : List Flag) (ofGiven : Given → Except Fault α) (args : List String) :
    Except Fault α :=
  match once? flags args with
  | some given => ofGiven given
  | none => .error .usage

/-- The command after the word `generate`, which is never complete on its own. -/
def generate (args : List String) : Except Fault Command :=
  match args with
  | [] => .error .help
  | ["--"] => .error .help
  | "json-schema" :: rest =>
      (withOptions [⟨"out", some 'o', true⟩] (neededPath · "out") rest).map schema
  | _ => .error .usage

/-- The command of the arguments after those that make it talkative, which may be done once. -/
def ofWords (talkative : Bool) (args : List String) : Except Fault Command :=
  match args with
  | [] => .ok nothing
  | ["--"] => .ok nothing
  | word :: rest =>
      if word = "-d" ∨ word = "--debug" then
        if talkative then .error .usage else ofWords true rest
      else if word = "trace" then (withOptions Trace.flags Trace.ofGiven rest).map trace
      else if word = "describe" ∨ word = "d" then
        (withOptions Describe.flags Describe.ofGiven rest).map describe
      else if word = "generate" ∨ word = "g" then generate rest
      else .error .usage

/-- **The command of a list of arguments.** -/
def ofArguments (args : List String) : Except Fault Command := ofWords false args

end Command

end TurnByTurn
