/-! # Devices

Places of a tree of files at which something else than a file lies, which can be read and written all
the same.

* **`Device`** — the devices.
* **`Device.text?`** — what is read of a device.
* **`Device.write`** — a device after something was written to it. -/

namespace TurnByTurn

/-- **Why a text cannot be written.** -/
inductive WriteFault where
  /-- There is nothing to write to, and it cannot be made. -/
  | unreachable
  /-- There is no room for the text. -/
  | full
deriving DecidableEq, Repr

/-- **Something that is no file.** -/
inductive Device where
  /-- It is empty, and what is written to it is gone. -/
  | null
  /-- Zeros without end, and what is written to it is gone. -/
  | zeros
  /-- Noise without end, and what is written to it is gone. -/
  | noise
  /-- Zeros without end, and nothing can be written to it. -/
  | full
  /-- The standard input, which is empty. -/
  | input
  /-- The standard output, with what was written to it. -/
  | output (text : String)
  /-- The standard output of errors, which nobody looks at. -/
  | errors
  /-- The terminal of the user, which is not there. -/
  | terminal
deriving DecidableEq, Repr

namespace Device

/-- **What is read of a device**, if it can be read. What has no end is read no further than to its first
character, with which no readable text begins. -/
def text? : Device → Option String
  | zeros => some "\x00"
  | noise => some "\x00"
  | full => some "\x00"
  | terminal => none
  | _ => some ""

/-- **The device after a text was written to it.** -/
def write (text : String) : Device → Except WriteFault Device
  | full => if text = "" then .ok full else .error .full
  | output before => .ok (output (before ++ text))
  | terminal => .error .unreachable
  | d => .ok d

/-- What is written to the standard output comes after what is there already. -/
@[simp] theorem write_output (before text : String) :
    (output before).write text = .ok (output (before ++ text)) := rfl

end Device

end TurnByTurn
