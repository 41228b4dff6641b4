import TurnByTurn.Text.Digits

/-! # Message templates

A template is a text with places for parameters: `%s` takes the next parameter, `%1$s` a certain one,
and `%%` stands for a percent sign. A percent sign that begins none of these is an ordinary character.

* **`Piece`** — what a template is made of.
* **`Template.pieces`** — the pieces of a template, from left to right.
* **`Template.fill`** — the text of the pieces with the parameters in their places. -/

namespace TurnByTurn

/-- A piece of a template. -/
inductive Piece where
  /-- A character that is copied. -/
  | literal (c : Char)
  /-- The place of the next parameter. -/
  | next
  /-- The place of the parameter with the given number, and how it was spelled. -/
  | numbered (number : Nat) (spelling : List Char)
deriving DecidableEq, Repr

namespace Template

/-! ## Reading -/

/-- **A number and `$s`**, as they follow the percent sign of a numbered place: the number, counted
from one and of at most 64 bits, the text that wrote it, and the rest. -/
def numbered? (s : List Char) : Option (Nat × List Char × List Char) :=
  match s.takeWhile Char.isDigit, s.dropWhile Char.isDigit with
  -- a number beyond 64 bits numbers nothing
  | ds, '$' :: 's' :: rest =>
      if 0 < naturalOf ds ∧ naturalOf ds < 0x10000000000000000 then some (naturalOf ds, ds, rest) else none
  | _, _ => none

/-- What follows a numbered place is shorter than what follows its percent sign. -/
theorem length_of_numbered? {s ds rest : List Char} {n : Nat}
    (h : numbered? s = some (n, ds, rest)) : rest.length < s.length := by
  have hs : (s.dropWhile Char.isDigit).length ≤ s.length :=
    (List.dropWhile_suffix _).sublist.length_le
  unfold numbered? at h
  split at h
  · rename_i r hr
    rw [hr] at hs
    split at h
    · simp only [Option.some.injEq, Prod.mk.injEq] at h
      obtain ⟨-, -, rfl⟩ := h
      simp only [List.length_cons] at hs
      omega
    · cases h
  · cases h

/-- **The pieces of a template**, from left to right. At each percent sign the first reading that fits
is taken. -/
def pieces : List Char → List Piece
  | [] => []
  | '%' :: '%' :: rest => .literal '%' :: pieces rest
  | '%' :: 's' :: rest => .next :: pieces rest
  | '%' :: s =>
      match h : numbered? s with
      | some (n, ds, rest) =>
          have := length_of_numbered? h
          .numbered n ('%' :: ds ++ ['$', 's']) :: pieces rest
      | none => .literal '%' :: pieces s
  | c :: rest => .literal c :: pieces rest
termination_by s => s.length
decreasing_by all_goals simp_wf; try omega

/-! ## Filling -/

/-- A parameter, or the place as it was spelled when there is no such parameter. -/
def parameter (params : List String) (index : Nat) (spelling : List Char) : List Char :=
  match params[index]? with
  | some p => p.toList
  | none => spelling

/-- **The text of the pieces**, of which `%s` places so far took `used` parameters. -/
def fill (params : List String) (used : Nat) : List Piece → List Char
  | [] => []
  | .literal c :: rest => c :: fill params used rest
  | .next :: rest => parameter params used ['%', 's'] ++ fill params (used + 1) rest
  | .numbered n spelling :: rest => parameter params (n - 1) spelling ++ fill params used rest

/-- No pieces, no text. -/
@[simp] theorem fill_nil (params : List String) (used : Nat) : fill params used [] = [] := rfl

/-- A literal piece is copied. -/
@[simp] theorem fill_literal (params : List String) (used : Nat) (c : Char) (rest : List Piece) :
    fill params used (.literal c :: rest) = c :: fill params used rest := rfl

/-- A `%s` place takes the next parameter. -/
@[simp] theorem fill_next (params : List String) (used : Nat) (rest : List Piece) :
    fill params used (.next :: rest)
      = parameter params used ['%', 's'] ++ fill params (used + 1) rest := rfl

/-- A numbered place leaves the count of `%s` places alone. -/
@[simp] theorem fill_numbered (params : List String) (used n : Nat) (spelling : List Char)
    (rest : List Piece) :
    fill params used (.numbered n spelling :: rest)
      = parameter params (n - 1) spelling ++ fill params used rest := rfl

/-- **A template with its parameters in place.** -/
def format (template : String) (params : List String) : String :=
  .ofList (fill params 0 (pieces template.toList))

end Template

end TurnByTurn
