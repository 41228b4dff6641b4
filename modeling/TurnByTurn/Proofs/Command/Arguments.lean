import Mathlib.Tactic.SplitIfs
import TurnByTurn.Command.Arguments

/-! # What the arguments guarantee

* **`Command.text_ne_empty_of_ofArguments`** — the trace command is never asked for an empty path. -/

namespace TurnByTurn.Command

variable {ε α β : Type} {p : Path} {given : Given} {name : String}

/-! ## Results -/

/-- Two steps succeed when both do. -/
theorem exists_of_bind_eq_ok {x : Except ε α} {f : α → Except ε β} {b : β} (h : x >>= f = .ok b) :
    ∃ a, x = .ok a ∧ f a = .ok b := by
  cases x with
  | error e => cases h
  | ok a => exact ⟨a, rfl, h⟩

/-- What a result is made of succeeded. -/
theorem exists_of_map_eq_ok {x : Except ε α} {f : α → β} {b : β} (h : x.map f = .ok b) :
    ∃ a, x = .ok a ∧ f a = b := by
  cases x with
  | error e => cases h
  | ok a => exact ⟨a, rfl, Except.ok.inj h⟩

/-! ## Paths -/

/-- The path that an option gives is not empty. -/
theorem text_ne_empty_of_path? (h : path? given name = .ok (some p)) : p.text ≠ "" := by
  rw [path?] at h
  split at h
  · cases h
  · cases h
  · rename_i text htext _
    cases h
    exact htext

/-- The path that an option has to give is not empty. -/
theorem text_ne_empty_of_neededPath (h : neededPath given name = .ok p) : p.text ≠ "" := by
  rw [neededPath] at h
  split at h
  · rename_i p' hp
    cases h
    exact text_ne_empty_of_path? hp
  · cases h

/-! ## The trace command -/

/-- The word `generate` asks for no trace. -/
theorem generate_ne_trace (args : List String) (asked : Trace) : generate args ≠ .ok (.trace asked) := by
  intro h
  unfold generate at h
  split at h
  · cases h
  · cases h
  · obtain ⟨out, -, hasked⟩ := exists_of_map_eq_ok h
    cases hasked
  · cases h

/-- The trace command is read from the options after the word `trace`. -/
theorem exists_withOptions_of_ofWords {talkative : Bool} {args : List String} {asked : Trace}
    (h : ofWords talkative args = .ok (.trace asked)) :
    ∃ rest, withOptions Trace.flags Trace.ofGiven rest = .ok asked := by
  induction args generalizing talkative with
  | nil => cases h
  | cons word args ih =>
      unfold ofWords at h
      split at h
      · cases h
      · cases h
      · rename_i heq
        cases heq
        split_ifs at h
        · exact ih h
        · obtain ⟨asked', hasked', heq⟩ := exists_of_map_eq_ok h
          cases heq
          exact ⟨args, hasked'⟩
        · obtain ⟨other, -, heq⟩ := exists_of_map_eq_ok h
          cases heq
        · exact absurd h (generate_ne_trace args asked)

/-- **The paths of the trace command are not empty.** -/
theorem text_ne_empty_of_ofArguments {args : List String} {asked : Trace}
    (h : ofArguments args = .ok (.trace asked)) :
    asked.input.text ≠ "" ∧ ∀ out ∈ asked.out, out.text ≠ "" := by
  obtain ⟨rest, hrest⟩ := exists_withOptions_of_ofWords h
  rw [withOptions] at hrest
  split at hrest
  · rename_i given _
    obtain ⟨input, hinput, hrest⟩ := exists_of_bind_eq_ok hrest
    obtain ⟨out, hout, hrest⟩ := exists_of_bind_eq_ok hrest
    obtain ⟨start, rfl⟩ : ∃ start, asked = ⟨input, out, start⟩ := by
      dsimp only at hrest
      split at hrest
      · exact ⟨none, (Except.ok.inj hrest).symm⟩
      · split at hrest
        · rename_i m _
          exact ⟨some m, (Except.ok.inj hrest).symm⟩
        · cases hrest
    refine ⟨text_ne_empty_of_neededPath hinput, ?_⟩
    rintro p rfl
    exact text_ne_empty_of_path? hout
  · cases hrest

end TurnByTurn.Command
