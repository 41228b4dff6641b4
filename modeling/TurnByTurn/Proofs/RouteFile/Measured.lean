import TurnByTurn.Proofs.RouteFile.Built
import TurnByTurn.Proofs.Trace.Legs
import TurnByTurn.Proofs.Trace.Order

/-! # Routes with computed lengths

Where no length is written, each instruction is as long as its legs, and a trace spreads its duration
over the very same legs.

* **`Route.IsSurveyed`** — lengths, legs and steps of a route that agree.
* **`Route.IsMeasured.isSurveyed`** — they do when all lengths are sums of segments.
* **`RouteFile.isMeasured_of_instructions`** — computed lengths are such sums.
* **`RouteFile.isSurveyed_of_route`** — a built route without empty entries and without written lengths
  is surveyed. -/

namespace TurnByTurn

/-! ## Surveyed routes -/

namespace Route

variable {calculator : Calculator} {route : Route} {instructions : List Instruction}
  {i : Instruction} {k : ℕ}

/-- **Lengths, legs and steps of a route that agree.** The legs of the `k`-th instruction are those to
`onward? route.instructions k`, the first point of its follower. -/
structure IsSurveyed (calculator : Calculator) (route : Route) : Prop where
  /-- An instruction is as long as its legs, summed from zero in their order. -/
  distance_eq : ∀ (k : ℕ) (i : Instruction), route.instructions[k]? = some i →
    i.distance = Meters.sum ((i.legs (onward? route.instructions k)).map fun leg =>
      calculator.distance i.line.is3d leg.1 leg.2)
  /-- Its legs lead from each of its points to the next one, and from the last one to the first point
  of its follower. -/
  leg_iff : ∀ (k : ℕ) (i : Instruction), route.instructions[k]? = some i → ∀ (j : ℕ) (p q : Point),
    (i.legs (onward? route.instructions k))[j]? = some (p, q) ↔
      i.line.points[j]? = some p ∧
        i.line.points[j + 1]?.or (onward? route.instructions k) = some q
  getElem?_legs : ∀ (k : ℕ) (i : Instruction), route.instructions[k]? = some i →
    (legs route.instructions)[k]? = some (i.legs (onward? route.instructions k))
  /-- One instruction after the other, these are the legs between all points of the route. -/
  flatten_legs : (legs route.instructions).flatten = neighbours route.points
  /-- Wherever the route can be traced, a duration is spread over the same legs: the samples of the
  instruction are its points at the readings of a clock that starts at the exact end of the instructions
  before and advances by one leg after the other, each time by the duration times the leg over the length
  of the instruction, rounded. -/
  samples_eq : ∀ (start : Milliseconds) (samples : List Sample),
    route.trace calculator start = .ok samples →
      ∀ (k : ℕ) (i : Instruction), route.instructions[k]? = some i → i.time ≠ 0 →
        ∃ readings : List Milliseconds,
          readings.length = (i.legs (onward? route.instructions k)).length + 1 ∧
          (∀ (j : ℕ) (reading : Milliseconds), readings[j]? = some reading →
            reading.toNat = start.toNat + timeBefore route.instructions k
              + (((i.legs (onward? route.instructions k)).take j).map fun leg =>
                  Binary64.saturated (i.time.toFloat * (calculator.distance i.line.is3d leg.1 leg.2).value
                    / i.distance.value)).sum) ∧
          (samples.drop (pointsBefore route.instructions k)).take i.line.size
            = List.zipWith (Sample.at i.line.is3d) i.line.points readings

/-- A measured length is the sum of the segments. -/
theorem IsMeasured.distance_eq (h : IsMeasured calculator instructions)
    (hi : instructions[k]? = some i) :
    i.distance = .sum (i.segments calculator (onward? instructions k)) := by
  induction instructions generalizing k with
  | nil => cases hi
  | cons head rest ih =>
      obtain ⟨hhead, hrest⟩ := h
      cases k with
      | zero =>
          obtain rfl : head = i := by simpa using hi
          rw [hhead, onward?_cons_zero]
      | succ k => exact ih hrest (by simpa using hi)

/-- **A measured route without empty instructions is surveyed.** -/
theorem IsMeasured.isSurveyed (h : IsMeasured calculator route.instructions)
    (hpoints : ∀ i ∈ route.instructions, i.line.points ≠ []) : IsSurveyed calculator route where
  distance_eq k i hi := by rw [h.distance_eq hi, Instruction.segments_eq_map_legs]
  leg_iff k i hi j p q := Instruction.getElem?_legs_eq_some_iff
  getElem?_legs k i hi := by rw [Route.getElem?_legs, hi, Option.map_some]
  flatten_legs := Route.flatten_legs hpoints
  samples_eq start samples htrace k i hi htime := by
    obtain ⟨departure, stop, hdeparture, hsamples⟩ := exists_samples_of_traceFrom htrace hi
    obtain ⟨-, -, readings, hclock, hown⟩ := Instruction.samples_eq_ok_iff.mp hsamples
    rw [← onward?] at hclock
    have hlength := Milliseconds.length_of_clock? hclock
    refine ⟨readings, ?_, fun j reading hreading => ?_, hown⟩
    · rw [hlength, Instruction.length_steps]
    · have hj := (List.getElem?_eq_some_iff.mp hreading).1
      obtain ⟨shown, hshown, htimes⟩ := Milliseconds.exists_getElem?_of_clock? hclock
        (Nat.le_of_lt_succ (hlength ▸ hj))
      obtain rfl := Option.some.inj (hreading.symm.trans hshown)
      rw [htimes, hdeparture, Instruction.total_take_steps, Instruction.timeFor_of_ne_zero calculator htime]

end Route

/-! ## Built routes -/

namespace RouteFile

variable {calculator : Calculator} {file : RouteFile} {route : Route} {entries : List Entry}
  {lines : List Polyline} {built : List Instruction}

/-- **Instructions keep their lines, and computed lengths are sums of segments.** Each length was
computed with a view to the next line, which is the line of the next instruction. -/
theorem isMeasured_of_instructions (h : instructions calculator entries lines = .ok built)
    (hlength : entries.length = lines.length) (hdistance : ∀ entry ∈ entries, entry.distance = none) :
    built.map (·.line) = lines ∧ Route.IsMeasured calculator built := by
  induction entries generalizing lines built with
  | nil =>
      cases h
      obtain rfl : lines = [] := List.length_eq_zero_iff.mp hlength.symm
      exact ⟨rfl, trivial⟩
  | cons entry entries ih =>
      cases lines with
      | nil => simp at hlength
      | cons line lines =>
          obtain ⟨first, rest, hfirst, hrest, rfl⟩ := instructions_cons_eq_ok_iff.mp h
          rw [List.forall_mem_cons] at hdistance
          obtain ⟨hlines, hmeasured⟩ := ih hrest (by simpa using hlength) hdistance.2
          obtain ⟨turn, -, rfl, -⟩ := Entry.instruction_eq_ok_iff.mp hfirst
          refine ⟨by rw [List.map_cons, hlines]; rfl, ?_, hmeasured⟩
          have hnext : lines.head?.bind (·.first?) = rest.head?.bind (·.line.first?) := by
            rw [← hlines, List.head?_map, Option.bind_map]
            rfl
          rw [← hnext, Entry.draft, hdistance.1, Instruction.segments_eq_map_legs]
          rfl

/-- **A built route without empty entries and without written lengths is surveyed.** -/
theorem isSurveyed_of_route (hroute : file.route calculator = .ok route)
    (hpoints : ∀ entry ∈ file.entries, entry.points ≠ [])
    (hdistance : ∀ entry ∈ file.entries, entry.distance = none) :
    Route.IsSurveyed calculator route := by
  obtain ⟨lines, hlines, hbuilt, -⟩ := route_eq_ok_iff.mp hroute
  have hlength := (forall₂_of_linesFrom hlines).length_eq
  obtain ⟨-, hmeasured⟩ := isMeasured_of_instructions hbuilt hlength hdistance
  exact hmeasured.isSurveyed (points_ne_nil_of_route hroute hpoints)

deriving instance DecidableEq for Polyline, Instruction, Route

/-- A hill in three stretches: up and down, along a valley, and a last point. -/
def overTheHill : RouteFile := ⟨[
  { sign := 0, points := [[0, 0, 0], [3, 0, 4]], time := 100 },
  { sign := -2, name := "Oak Ave", points := [[6, 0, 0]], time := 26 },
  { sign := 4, points := [[6, 12, 5]] }]⟩

/-- The route of `overTheHill`. Its legs are 5, 5 and 13 meters long. -/
def overTheHillRoute : Route := ⟨[
  { turn := .straight
    name := ""
    line := .ofPoints true [⟨0, 0, some 0⟩, ⟨0, 3, some 4⟩]
    distance := ⟨10⟩
    time := 100 },
  { turn := .left
    name := "Oak Ave"
    line := .ofPoints true [⟨0, 6, some 0⟩]
    distance := ⟨13⟩
    time := 26 },
  { turn := .finish
    name := ""
    line := .ofPoints true [⟨12, 6, some 5⟩] }]⟩

theorem isSurveyed_of_route_overTheHill :
    overTheHill.route .plane = .ok overTheHillRoute ∧
      (∀ entry ∈ overTheHill.entries, entry.points ≠ []) ∧
      (∀ entry ∈ overTheHill.entries, entry.distance = none) ∧
      Route.IsSurveyed .plane overTheHillRoute :=
  have hroute : overTheHill.route .plane = .ok overTheHillRoute := by decide +kernel
  have hpoints : ∀ entry ∈ overTheHill.entries, entry.points ≠ [] := by decide
  have hdistance : ∀ entry ∈ overTheHill.entries, entry.distance = none := by decide
  ⟨hroute, hpoints, hdistance, isSurveyed_of_route hroute hpoints hdistance⟩

end RouteFile

end TurnByTurn
