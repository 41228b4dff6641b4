import TurnByTurn.Decimal.Shortest
import TurnByTurn.Text.Digits

/-! # Writing decimals

A decimal is written positionally (`12.5`, `0.001`) or with an exponent (`1.5e-6`). A `Layout` says
which numbers get which form; `Layout.plain` is the form of labels and messages, and the JSON writer
has its own.

* **`Decimal.positional`**, **`Decimal.scientific`** — the two forms.
* **`Layout.write`** — a finite double in the layout's form.
* **`display`** — any double in the plain form, with words for what is not finite.
* **`whole`** — any double rounded to a whole number. -/

namespace TurnByTurn

namespace Decimal

/-- The position of the first digit: `e` when the number is `d.ddd · 10 ^ e`. -/
def leading (d : Decimal) : Int := (digits d.coefficient).length + d.exponent - 1

/-- **The digits around a decimal point.** A whole number has no point unless `pointZero` asks for
`.0`. -/
def positional (pointZero : Bool) (d : Decimal) : List Char :=
  let ds := digits d.coefficient
  if 0 ≤ d.exponent then
    ds ++ List.replicate d.exponent.toNat '0' ++ if pointZero then ['.', '0'] else []
  else
    let places := (-d.exponent).toNat
    -- the point is among the digits, or zeros are needed before them
    if places < ds.length then
      ds.take (ds.length - places) ++ '.' :: ds.drop (ds.length - places)
    else
      '0' :: '.' :: (List.replicate (places - ds.length) '0' ++ ds)

/-- **One digit, the others after a point, and the exponent with its sign**: `1e-6`, `1.5e+20`. -/
def scientific (d : Decimal) : List Char :=
  let e := d.leading
  let sign := if e < 0 then '-' else '+'
  (match digits d.coefficient with
    | [] => []
    | [c] => [c]
    | c :: rest => c :: '.' :: rest)
  ++ 'e' :: sign :: digits e.natAbs

end Decimal

/-- **Which form a number takes.** -/
structure Layout where
  /-- Numbers `d.ddd · 10 ^ e` with `e` in this range are written positionally; none means all. -/
  positionalRange : Option (Int × Int)
  /-- Whether whole numbers end in `.0`. -/
  pointZero : Bool
  /-- Which of two equally near shortest decimals is written. -/
  tie : Tie

namespace Layout

/-- **Labels and messages**: always positional, whole numbers without a point. -/
def plain : Layout := ⟨none, false, .up⟩

/-- The text of a decimal. -/
def decimal (layout : Layout) (d : Decimal) : List Char :=
  match layout.positionalRange with
  | none => d.positional layout.pointZero
  | some (low, high) =>
      if low ≤ d.leading ∧ d.leading ≤ high then d.positional layout.pointZero else d.scientific

/-- **The text of a finite double**, with the fewest digits that read back to it. There is none for
an infinity and for NaN. -/
def write (layout : Layout) (x : Float) : Option String :=
  match Binary64.view x with
  | .notANumber => none
  | .infinity _ => none
  | .zero .positive => some (.ofList (layout.decimal ⟨0, 0⟩))
  | .zero .negative => some (.ofList ('-' :: layout.decimal ⟨0, 0⟩))
  | .finite .positive m e _ => some (.ofList (layout.decimal (.shortest layout.tie m e)))
  | .finite .negative m e _ => some (.ofList ('-' :: layout.decimal (.shortest layout.tie m e)))

end Layout

namespace Binary64

/-- The word for a double that is not finite. -/
def nonFiniteText (x : Float) : String :=
  match view x with
  | .infinity .positive => "inf"
  | .infinity .negative => "-inf"
  | _ => "NaN"

/-- **Any double in the plain layout.** -/
def display (x : Float) : String := (Layout.plain.write x).getD (nonFiniteText x)

/-- **Any double rounded to a whole number**, a half going to the even neighbour, the sign kept. -/
def whole (x : Float) : String :=
  match view x with
  | .zero .positive => "0"
  | .zero .negative => "-0"
  | .finite .positive m e _ => .ofList (digits (halfEven m e))
  | .finite .negative m e _ => .ofList ('-' :: digits (halfEven m e))
  | _ => nonFiniteText x

end Binary64

end TurnByTurn
