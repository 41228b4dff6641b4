import Mathlib.Algebra.Order.Ring.Nat
import Mathlib.Data.List.TakeWhile
import TurnByTurn.Phrases.Template

/-! # How templates are read and filled

A percent sign begins a place or stands for itself, and which of the two is decided by what follows it
alone. So every template has one reading, and what it shows is what its pieces show, one after the other.

* **`Template.Reads`** — the readings of a template, from left to right.
* **`Template.reads_iff`** — every template has exactly one.
* **`Template.shown`** — what pieces show: the `%s` places take the parameters in order, whatever stands
  between them.
* **`Template.Part`** — text and places from which a template can be put together.
* **`Template.format_spec`** — what every template shows, and that each part of one that was put together
  shows what it was meant to. -/

namespace TurnByTurn

/-- **A list is cut where a property ends**: all before has it, and what comes first behind has not. -/
theorem takeWhile_dropWhile_eq_iff {α : Type*} {p : α → Bool} {s before after : List α} :
    s.takeWhile p = before ∧ s.dropWhile p = after ↔
      s = before ++ after ∧ (∀ a ∈ before, p a = true) ∧ ∀ a ∈ after.head?, p a = false := by
  constructor
  · rintro ⟨rfl, rfl⟩
    refine ⟨List.takeWhile_append_dropWhile.symm, fun a ha => List.mem_takeWhile_imp ha, fun a ha => ?_⟩
    have hstop := List.head?_dropWhile_not p s
    rw [Option.mem_def.mp ha] at hstop
    simpa using hstop
  · rintro ⟨rfl, hbefore, hafter⟩
    rw [List.takeWhile_append_of_pos hbefore, List.dropWhile_append_of_pos hbefore]
    cases after with
    | nil => simp
    | cons a after =>
        have ha : ¬p a = true := by simp [hafter a rfl]
        rw [List.takeWhile_cons_of_neg ha, List.dropWhile_cons_of_neg ha, List.append_nil]
        exact ⟨rfl, rfl⟩

/-! ## Readings -/

namespace Template

/-- The digits of a number from one on that has at most 64 bits. Zeros may stand in front. -/
def IsNumbering (ds : List Char) : Prop :=
  (∀ c ∈ ds, c.isDigit = true) ∧ 0 < naturalOf ds ∧ naturalOf ds < 2 ^ 64

/-- How the place with a number is spelled. -/
def numberedPlace (ds : List Char) : List Char := '%' :: ds ++ ['$', 's']

/-- What can follow a percent sign that does not stand for itself: another one, an `s`, or a number with
`$s`. -/
inductive Completes : List Char → Prop
  | percent (rest : List Char) : Completes ('%' :: rest)
  | next (rest : List Char) : Completes ('s' :: rest)
  | numbered {ds : List Char} (rest : List Char) : IsNumbering ds → Completes (ds ++ '$' :: 's' :: rest)

/-- **The readings of a template.** Only a percent sign that nothing completes stands for itself. -/
inductive Reads : List Char → List Piece → Prop
  | nil : Reads [] []
  | plain {c : Char} {s : List Char} {ps : List Piece} : c ≠ '%' → Reads s ps →
      Reads (c :: s) (.literal c :: ps)
  | percent {s : List Char} {ps : List Piece} : Reads s ps → Reads ('%' :: '%' :: s) (.literal '%' :: ps)
  | next {s : List Char} {ps : List Piece} : Reads s ps → Reads ('%' :: 's' :: s) (.next :: ps)
  | numbered {ds s : List Char} {ps : List Piece} : IsNumbering ds → Reads s ps →
      Reads (numberedPlace ds ++ s) (.numbered (naturalOf ds) (numberedPlace ds) :: ps)
  | alone {s : List Char} {ps : List Piece} : ¬Completes s → Reads s ps →
      Reads ('%' :: s) (.literal '%' :: ps)

/-- **A number and `$s` are read exactly where they stand.** -/
theorem numbered?_eq_some_iff {s ds rest : List Char} {n : ℕ} :
    numbered? s = some (n, ds, rest) ↔
      IsNumbering ds ∧ n = naturalOf ds ∧ s = ds ++ '$' :: 's' :: rest := by
  constructor
  · intro h
    unfold numbered? at h
    split at h
    · rename_i hrest
      obtain ⟨hs, hdigits, -⟩ := takeWhile_dropWhile_eq_iff.mp ⟨rfl, hrest⟩
      split at h
      · rename_i hn
        cases h
        exact ⟨⟨hdigits, hn⟩, rfl, hs⟩
      · cases h
    · cases h
  · rintro ⟨⟨hdigits, hn⟩, rfl, hs⟩
    obtain ⟨htake, hdrop⟩ := takeWhile_dropWhile_eq_iff.mpr ⟨hs, hdigits, by simp⟩
    rw [numbered?, htake, hdrop]
    exact if_pos hn

/-! ## The one reading -/

/-- An ordinary character is a piece of its own. -/
theorem pieces_plain {c : Char} (hc : c ≠ '%') (s : List Char) :
    pieces (c :: s) = .literal c :: pieces s := by
  rw [pieces]
  all_goals simp_all

/-- Two percent signs show one. -/
theorem pieces_percent (s : List Char) : pieces ('%' :: '%' :: s) = .literal '%' :: pieces s := by
  rw [pieces]

/-- A percent sign and an `s` are a place. -/
theorem pieces_next (s : List Char) : pieces ('%' :: 's' :: s) = .next :: pieces s := by
  rw [pieces]

/-- A number with `$s` after a percent sign is a place. -/
theorem pieces_numbered {ds : List Char} (h : IsNumbering ds) (s : List Char) :
    pieces (numberedPlace ds ++ s) = .numbered (naturalOf ds) (numberedPlace ds) :: pieces s := by
  have hshape : numberedPlace ds ++ s = '%' :: (ds ++ '$' :: 's' :: s) := by simp [numberedPlace]
  have hread : numbered? (ds ++ '$' :: 's' :: s) = some (naturalOf ds, ds, s) :=
    numbered?_eq_some_iff.mpr ⟨h, rfl, rfl⟩
  have hstart : ∀ c rest, ds ++ '$' :: 's' :: s = c :: rest → c.isDigit = true ∨ c = '$' := by
    intro c rest heq
    cases ds with
    | nil => exact Or.inr (List.cons.inj heq).1.symm
    | cons d ds' => exact Or.inl ((List.cons.inj heq).1 ▸ h.1 d List.mem_cons_self)
  rw [hshape, pieces]
  · split
    · rename_i n ds' rest heq
      cases hread.symm.trans heq
      rfl
    · rename_i heq
      cases hread.symm.trans heq
  · intro rest heq
    exact absurd (hstart _ _ heq) (by decide)
  · intro rest heq
    exact absurd (hstart _ _ heq) (by decide)

/-- A percent sign that nothing completes shows itself. -/
theorem pieces_alone {s : List Char} (h : ¬Completes s) :
    pieces ('%' :: s) = .literal '%' :: pieces s := by
  rw [pieces]
  · split
    · rename_i n ds rest hread
      obtain ⟨hds, -, rfl⟩ := numbered?_eq_some_iff.mp hread
      exact absurd (.numbered rest hds) h
    · rfl
  · rintro rest rfl
    exact h (.percent rest)
  · rintro rest rfl
    exact h (.next rest)

/-- The pieces of a template are a reading of it. -/
theorem reads_pieces (s : List Char) : Reads s (pieces s) := by
  induction s using pieces.induct with
  | case1 => rw [pieces]; exact .nil
  | case2 s ih => rw [pieces_percent]; exact .percent ih
  | case3 s ih => rw [pieces_next]; exact .next ih
  | case4 s hpercent hnext n ds rest hread _ ih =>
      obtain ⟨hds, -, rfl⟩ := numbered?_eq_some_iff.mp hread
      have hshape : '%' :: (ds ++ '$' :: 's' :: rest) = numberedPlace ds ++ rest := by
        simp [numberedPlace]
      rw [hshape, pieces_numbered hds]
      exact .numbered hds ih
  | case5 s hpercent hnext hread ih =>
      have halone : ¬Completes s := by
        rintro (⟨rest⟩ | ⟨rest⟩ | ⟨rest, hds⟩)
        · exact hpercent rest rfl
        · exact hnext rest rfl
        · cases hread.symm.trans (numbered?_eq_some_iff.mpr ⟨hds, rfl, rfl⟩)
      rw [pieces_alone halone]
      exact .alone halone ih
  | case6 c s _ _ hc ih => rw [pieces_plain hc]; exact .plain hc ih

/-- **Every template has exactly one reading**, that in which it is filled. -/
theorem reads_iff {s : List Char} {ps : List Piece} : Reads s ps ↔ ps = pieces s := by
  constructor
  · intro h
    induction h with
    | nil => rw [pieces]
    | plain hc _ ih => rw [pieces_plain hc, ih]
    | percent _ ih => rw [pieces_percent, ih]
    | next _ ih => rw [pieces_next, ih]
    | numbered hds _ ih => rw [pieces_numbered hds, ih]
    | alone halone _ ih => rw [pieces_alone halone, ih]
  · rintro rfl
    exact reads_pieces s

end Template

/-! ## What a reading shows -/

/-- What a piece shows before which `before` places took a parameter in turn: a place without a parameter shows
how it was spelled. -/
def Piece.shown (params : List String) (before : ℕ) : Piece → List Char
  | .literal c => [c]
  | .next => (params[before]?.map String.toList).getD ['%', 's']
  | .numbered n spelling => (params[n - 1]?.map String.toList).getD spelling

namespace Template

/-- A place shows its parameter, if there is one. -/
theorem parameter_eq (params : List String) (index : ℕ) (spelling : List Char) :
    parameter params index spelling = (params[index]?.map String.toList).getD spelling := by
  unfold parameter
  cases params[index]? <;> rfl

/-- **What pieces show**, one after the other. The `k`-th of the `%s` places takes the `k`-th parameter,
whatever stands between them. -/
def shown (params : List String) (ps : List Piece) : List Char :=
  (ps.mapIdx fun i piece => piece.shown params ((ps.take i).count .next)).flatten

/-- Pieces are filled with what they show when some places took a parameter before. -/
theorem fill_eq (params : List String) (used : ℕ) (ps : List Piece) :
    fill params used ps
      = (ps.mapIdx fun i piece => piece.shown params (used + (ps.take i).count .next)).flatten := by
  induction ps generalizing used with
  | nil => rfl
  | cons piece ps ih =>
      cases piece with
      | literal c => simp [ih, Piece.shown]
      | next => simp [ih, Piece.shown, parameter_eq, Nat.add_assoc, Nat.add_comm 1]
      | numbered n spelling => simp [ih, Piece.shown, parameter_eq]

/-- **A template shows what its pieces show.** -/
theorem format_eq (template : String) (params : List String) :
    format template params = .ofList (shown params (pieces template.toList)) := by
  simp [format, fill_eq, shown]

/-! ## Templates that are put together -/

/-- **What a template can be put together from**: a text that is meant as it stands, the place of the next
parameter, and the place of a certain one. -/
inductive Part where
  | text (s : String)
  | next
  | numbered (ds : List Char) (isNumbering : IsNumbering ds)
deriving DecidableEq

namespace Part

/-- How a part is spelled in a template: every percent sign of a text is doubled. -/
def spelled : Part → List Char
  | text s => s.toList.flatMap fun c => if c = '%' then ['%', '%'] else [c]
  | next => ['%', 's']
  | numbered ds _ => numberedPlace ds

/-- The pieces of a part. -/
def pieces : Part → List Piece
  | text s => s.toList.map .literal
  | next => [.next]
  | numbered ds _ => [.numbered (naturalOf ds) (numberedPlace ds)]

/-- What a part shows before which `before` places took a parameter in turn: a text itself, a place its
parameter or else its own spelling. -/
def shown (params : List String) (before : ℕ) : Part → List Char
  | text s => s.toList
  | next => (params[before]?.map String.toList).getD ['%', 's']
  | numbered ds _ => (params[naturalOf ds - 1]?.map String.toList).getD (numberedPlace ds)

end Part

/-- A text whose percent signs are doubled is read as it was before. -/
theorem reads_doubled (s : List Char) {rest : List Char} {ps : List Piece} (h : Reads rest ps) :
    Reads ((s.flatMap fun c => if c = '%' then ['%', '%'] else [c]) ++ rest)
      (s.map .literal ++ ps) := by
  induction s with
  | nil => exact h
  | cons c s ih =>
      rw [List.flatMap_cons, List.append_assoc, List.map_cons, List.cons_append]
      by_cases hc : c = '%'
      · rw [if_pos hc, hc]
        exact .percent ih
      · rw [if_neg hc]
        exact .plain hc ih

/-- **Parts are read as they were meant**, in front of whatever comes after them. -/
theorem reads_spelled (part : Part) {rest : List Char} {ps : List Piece} (h : Reads rest ps) :
    Reads (part.spelled ++ rest) (part.pieces ++ ps) := by
  cases part with
  | text s => exact reads_doubled s.toList h
  | next => exact .next h
  | numbered ds hds => exact .numbered hds h

/-- The pieces of a template that was put together are those of its parts. -/
theorem pieces_flatMap_spelled (parts : List Part) :
    pieces (parts.flatMap Part.spelled) = parts.flatMap Part.pieces := by
  refine (reads_iff.mp ?_).symm
  induction parts with
  | nil => exact .nil
  | cons part parts ih =>
      rw [List.flatMap_cons, List.flatMap_cons]
      exact reads_spelled part ih

/-- Literal pieces are copied. -/
theorem fill_map_literal (params : List String) (used : ℕ) (s : List Char) (ps : List Piece) :
    fill params used (s.map .literal ++ ps) = s ++ fill params used ps := by
  induction s with
  | nil => rfl
  | cons c s ih => rw [List.map_cons, List.cons_append, fill_literal, ih, List.cons_append]

/-- The pieces of parts are filled with what the parts show. -/
theorem fill_flatMap_pieces (params : List String) (used : ℕ) (parts : List Part) :
    fill params used (parts.flatMap Part.pieces)
      = (parts.mapIdx fun i part => part.shown params (used + (parts.take i).count .next)).flatten := by
  induction parts generalizing used with
  | nil => rfl
  | cons part parts ih =>
      rw [List.flatMap_cons]
      cases part with
      | text s => simp [Part.pieces, fill_map_literal, ih, Part.shown]
      | next => simp [Part.pieces, ih, Part.shown, parameter_eq, Nat.add_assoc, Nat.add_comm 1]
      | numbered ds hds => simp [Part.pieces, ih, Part.shown, parameter_eq]

/-- **A template that was put together shows its parts.** -/
theorem format_flatMap_spelled (params : List String) (parts : List Part) :
    format (.ofList (parts.flatMap Part.spelled)) params
      = .ofList (parts.mapIdx fun i part =>
          part.shown params ((parts.take i).count .next)).flatten := by
  rw [format, String.toList_ofList, pieces_flatMap_spelled, fill_flatMap_pieces]
  simp only [Nat.zero_add]

/-- **What a template shows.** It has one reading, and shows what the pieces of this reading show. A
template that was put together shows its texts and, between them, its parameters. -/
theorem format_spec (params : List String) :
    (∀ template : String, ∃ ps, (∀ other, Reads template.toList other ↔ other = ps) ∧
      format template params = .ofList (shown params ps)) ∧
    ∀ parts : List Part, format (.ofList (parts.flatMap Part.spelled)) params
      = .ofList (parts.mapIdx fun i part =>
          part.shown params ((parts.take i).count .next)).flatten :=
  ⟨fun template => ⟨_, fun _ => reads_iff, format_eq template params⟩, format_flatMap_spelled params⟩

/-- A number beyond the parameters leaves its place as it was spelled, and a parameter is not read. -/
example : format "%02$s %s %9$s %s (100%%) %0$s %" ["%s", "b"] = "b %s %9$s b (100%) %0$s %" := by
  cbv

end Template

end TurnByTurn
