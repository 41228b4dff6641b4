import TurnByTurn.Proofs.Trace.Timetable

/-! # The legs of a route

A leg leads from one point to the next. The legs of an instruction are those between its own points and
the one on to its follower's first point. Where no instruction is empty, they line up to the legs
between all points of the route.

* **`neighbours`** — the elements of a list, each with the one after it.
* **`Instruction.legs`** — the legs of an instruction; `segments_eq_map_legs` measures them.
* **`Instruction.timeFor`** — the rounded time for some legs; `total_take_steps` finds it in the steps.
* **`Route.legs`** — the legs of the instructions of a route.
* **`Route.flatten_legs`** — no leg is lost and none comes twice.
* **`Route.getElem?_neighbours_points`** — where the legs of an instruction are among all legs. -/

namespace TurnByTurn

open Milliseconds (total)

/-! ## Neighbours -/

/-- **The elements of a list, each with the one after it.** -/
def neighbours {α : Type*} (l : List α) : List (α × α) := l.zip l.tail

section Neighbours

variable {α : Type*} {l : List α} {a b : α} {j : ℕ}

@[simp] theorem neighbours_nil : neighbours ([] : List α) = [] := rfl

@[simp] theorem neighbours_singleton (a : α) : neighbours [a] = [] := rfl

@[simp] theorem neighbours_cons_cons (a b : α) (l : List α) :
    neighbours (a :: b :: l) = (a, b) :: neighbours (b :: l) := rfl

/-- All elements but the last have a neighbour. -/
@[simp] theorem length_neighbours (l : List α) : (neighbours l).length = l.length - 1 := by
  rw [neighbours, List.length_zip, List.length_tail, Nat.min_eq_right (Nat.sub_le _ _)]

/-- Neighbours stand at successive places. -/
theorem getElem?_neighbours_eq_some_iff :
    (neighbours l)[j]? = some (a, b) ↔ l[j]? = some a ∧ l[j + 1]? = some b := by
  rw [neighbours, List.getElem?_zip_eq_some, List.getElem?_tail]

/-- **The neighbours in two lists one after the other**: those in the first list, its last element with
the first one of the second list, and those in the second list. -/
theorem neighbours_append (l l' : List α) :
    neighbours (l ++ l') = neighbours (l ++ l'.head?.toList) ++ neighbours l' := by
  induction l with
  | nil => cases l' <;> rfl
  | cons a l ih =>
      cases l with
      | nil => cases l' <;> rfl
      | cons b l =>
          rw [List.cons_append, List.cons_append, neighbours_cons_cons, List.cons_append,
            List.cons_append, neighbours_cons_cons, List.cons_append, ← List.cons_append, ih]
          rfl

end Neighbours

/-! ## One instruction -/

namespace Instruction

/-- **The legs of an instruction**: from each of its points to the one after it, and from the last one on
to the point `next`. -/
def legs (i : Instruction) (next : Option Point) : List (Point × Point) :=
  neighbours (i.line.points ++ next.toList)

/-- **Segments are the lengths of the legs**, in the dimension of the instruction's own points. -/
theorem segments_eq_map_legs (calculator : Calculator) (i : Instruction) (next : Option Point) :
    i.segments calculator next
      = (i.legs next).map fun leg => calculator.distance i.line.is3d leg.1 leg.2 := by
  rw [legs, neighbours, segments_eq_zipWith, List.map_zip_eq_zipWith]
  rfl

/-- **The rounded time for some legs of an instruction**: each leg takes its share of the duration, rounded
on its own and held inside 64 bits, and nothing where there is no duration. -/
def timeFor (calculator : Calculator) (i : Instruction) (legs : List (Point × Point)) : ℕ :=
  (legs.map fun leg => if i.time = 0 then 0 else
    Binary64.saturated (i.time.toFloat * (calculator.distance i.line.is3d leg.1 leg.2).value
      / i.distance.value)).sum

/-- With a duration, every leg takes its share. -/
theorem timeFor_of_ne_zero (calculator : Calculator) {i : Instruction} (htime : i.time ≠ 0)
    (legs : List (Point × Point)) :
    i.timeFor calculator legs = (legs.map fun leg =>
      Binary64.saturated (i.time.toFloat * (calculator.distance i.line.is3d leg.1 leg.2).value
        / i.distance.value)).sum := by
  simp only [timeFor, if_neg htime]

/-- There is one step for each leg. -/
theorem length_steps (calculator : Calculator) (i : Instruction) (next : Option Point) :
    (i.steps calculator next).length = (i.legs next).length := by
  rw [steps, segments_eq_map_legs, List.length_map, List.length_map]

/-- **The first steps of an instruction sum to the time for its first legs.** -/
theorem total_take_steps (calculator : Calculator) (i : Instruction) (next : Option Point) (j : ℕ) :
    total ((i.steps calculator next).take j) = i.timeFor calculator ((i.legs next).take j) := by
  rw [steps_eq, ← List.map_take, total_map_toUInt64, advances, segments_eq_map_legs, ← List.map_take,
    ← List.map_take, List.map_map, List.map_map, timeFor]
  refine congrArg List.sum (List.map_congr_left fun leg _ => ?_)
  exact saturated_advance i _

/-- The steps of an instruction sum to the time for its legs. -/
theorem total_steps (calculator : Calculator) (i : Instruction) (next : Option Point) :
    total (i.steps calculator next) = i.timeFor calculator (i.legs next) := by
  have hall := total_take_steps calculator i next (i.legs next).length
  rwa [List.take_length, ← length_steps calculator, List.take_length] at hall

/-- **A leg leads from a point to its successor**: the next point of the instruction or, after the last
one, the point `next`. -/
theorem getElem?_legs_eq_some_iff {i : Instruction} {next : Option Point} {j : ℕ} {p q : Point} :
    (i.legs next)[j]? = some (p, q) ↔
      i.line.points[j]? = some p ∧ i.line.points[j + 1]?.or next = some q := by
  rw [legs, getElem?_neighbours_eq_some_iff]
  rcases Nat.lt_trichotomy (j + 1) i.line.points.length with hj | hj | hj
  · rw [List.getElem?_append_left hj, List.getElem?_append_left (Nat.lt_of_succ_lt hj),
      List.getElem?_eq_getElem hj, Option.some_or]
  · rw [List.getElem?_append_left (by omega), List.getElem?_append_right hj.ge, hj,
      Nat.sub_self, ← List.head?_eq_getElem?, List.getElem?_eq_none_iff.mpr le_rfl, Option.none_or]
    cases next <;> rfl
  · -- behind the last point there is neither a point nor a successor
    rw [List.getElem?_append_right (by omega), List.getElem?_append_right hj.le,
      List.getElem?_eq_none_iff.mpr (show i.line.points.length ≤ j by omega)]
    have hbehind : next.toList[j + 1 - i.line.points.length]? = none := by
      rw [List.getElem?_eq_none_iff]
      have hone : next.toList.length ≤ 1 := by cases next <;> simp
      omega
    rw [hbehind]
    simp

/-- There is one leg for each point with a successor. -/
theorem length_legs (i : Instruction) (next : Option Point) :
    (i.legs next).length = i.line.size + next.toList.length - 1 := by
  rw [legs, length_neighbours, List.length_append, Polyline.size]

/-- The first point of a line with points. -/
theorem isSome_first?_of_ne_nil {i : Instruction} (h : i.line.points ≠ []) :
    ∃ p, i.line.first? = some p :=
  Option.isSome_iff_exists.mp (List.isSome_head?.mpr h)

end Instruction

/-! ## A whole route -/

namespace Route

variable {i : Instruction} {instructions rest : List Instruction} {j k : ℕ}

/-- The points up to and including those of the `k`-th instruction. -/
theorem pointsBefore_succ (h : instructions[k]? = some i) :
    pointsBefore instructions (k + 1) = pointsBefore instructions k + i.line.size := by
  rw [pointsBefore, List.take_add_one, h, List.map_append, List.sum_append]
  rfl

/-- Before the end of a route come all of its points. -/
theorem pointsBefore_length (instructions : List Instruction) :
    pointsBefore instructions instructions.length = (instructions.flatMap (·.line.points)).length := by
  rw [pointsBefore, List.take_length, List.length_flatMap]
  rfl

/-- **Where a route goes on after its `k`-th instruction**: the first point of the follower. -/
def onward? (instructions : List Instruction) (k : ℕ) : Option Point :=
  instructions[k + 1]?.bind (·.line.first?)

@[simp] theorem onward?_cons_zero (i : Instruction) (rest : List Instruction) :
    onward? (i :: rest) 0 = rest.head?.bind (·.line.first?) := by
  rw [onward?, List.getElem?_cons_succ, List.head?_eq_getElem?]

@[simp] theorem onward?_cons_succ (i : Instruction) (rest : List Instruction) (k : ℕ) :
    onward? (i :: rest) (k + 1) = onward? rest k := rfl

/-- **The legs of the instructions of a route**, each with the one to its follower's first point. -/
def legs : List Instruction → List (List (Point × Point))
  | [] => []
  | i :: rest => i.legs (rest.head?.bind (·.line.first?)) :: legs rest

/-- The legs of the `k`-th instruction. -/
theorem getElem?_legs (instructions : List Instruction) (k : ℕ) :
    (legs instructions)[k]?
      = instructions[k]?.map fun i => i.legs (onward? instructions k) := by
  induction instructions generalizing k with
  | nil => rfl
  | cons i rest ih =>
      cases k with
      | zero => simp [legs]
      | succ k => simpa [legs] using ih k

/-- The first point after an instruction is that of its follower. -/
theorem head?_flatMap_points (h : ∀ f ∈ rest.head?, f.line.points ≠ []) :
    (rest.flatMap (·.line.points)).head? = rest.head?.bind (·.line.first?) := by
  cases rest with
  | nil => rfl
  | cons f rest =>
      obtain ⟨p, hp⟩ := Instruction.isSome_first?_of_ne_nil (h f rfl)
      rw [List.flatMap_cons, List.head?_append, List.head?_cons, Option.bind_some, hp]
      rw [Polyline.first?] at hp
      rw [hp, Option.some_or]

/-- The legs of a route are those of its first instruction and then those of the others. -/
theorem neighbours_points_cons (i : Instruction) (h : ∀ f ∈ rest.head?, f.line.points ≠ []) :
    neighbours ((i :: rest).flatMap (·.line.points))
      = i.legs (rest.head?.bind (·.line.first?)) ++ neighbours (rest.flatMap (·.line.points)) := by
  rw [List.flatMap_cons, neighbours_append, head?_flatMap_points h, Instruction.legs]

/-- **No leg of a route is lost and none comes twice**: those of its instructions are, one after the
other, those between all its points. -/
theorem flatten_legs (h : ∀ i ∈ instructions, i.line.points ≠ []) :
    (legs instructions).flatten = neighbours (instructions.flatMap (·.line.points)) := by
  induction instructions with
  | nil => rfl
  | cons i rest ih =>
      rw [List.forall_mem_cons] at h
      rw [neighbours_points_cons i fun f hf => h.2 f (List.mem_of_mem_head? hf), legs,
        List.flatten_cons, ih h.2]

/-- **Where the legs of an instruction are among all legs of its route**: from the place of its first
point on. -/
theorem getElem?_neighbours_points (h : ∀ i ∈ instructions, i.line.points ≠ [])
    (hi : instructions[k]? = some i) (hj : j < i.line.size) :
    (neighbours (instructions.flatMap (·.line.points)))[pointsBefore instructions k + j]?
      = (i.legs (onward? instructions k))[j]? := by
  induction instructions generalizing k with
  | nil => cases hi
  | cons head rest ih =>
      rw [List.forall_mem_cons] at h
      rw [neighbours_points_cons head fun f hf => h.2 f (List.mem_of_mem_head? hf)]
      cases rest with
      | nil =>
          -- the last instruction has all legs that are left
          cases k with
          | zero =>
              obtain rfl : head = i := by simpa using hi
              simp
          | succ k => simp at hi
      | cons f rest =>
          obtain ⟨p, hp⟩ := Instruction.isSome_first?_of_ne_nil (h.2 f List.mem_cons_self)
          have hlength : (head.legs (((f :: rest).head?).bind (·.line.first?))).length
              = head.line.size := by
            rw [Instruction.length_legs, List.head?_cons, Option.bind_some, hp]
            rfl
          cases k with
          | zero =>
              obtain rfl : head = i := by simpa using hi
              rw [pointsBefore_zero, Nat.zero_add, List.getElem?_append_left (hlength ▸ hj),
                onward?_cons_zero]
          | succ k =>
              rw [pointsBefore_cons_succ, Nat.add_assoc, ← hlength,
                List.getElem?_append_right (Nat.le_add_right _ _), Nat.add_sub_cancel_left]
              exact ih h.2 (by simpa using hi)

end Route

end TurnByTurn
