import Mathlib.Data.List.Forall2
import TurnByTurn.Proofs.Trace.Outcome
import TurnByTurn.RouteFile.Build

/-! # Routes built from files

What a route owes to the file it was built from: one line for each entry, one point for each of its
coordinates, a valid length for each instruction, and durations that fit the clock.

* **`forall₂_of_linesFrom`** — the points of the entries, each from its own coordinates.
* **`exists_of_instructions`** — the entry and the lines that an instruction was made from.
* **`exists_of_route`**, **`duration_lt_of_route`** — what every built route was checked for. -/

namespace TurnByTurn.RouteFile

variable {calculator : Calculator} {file : RouteFile} {route : Route} {is3d : Bool} {index : ℕ}
  {entry : Entry} {entries : List Entry} {line : Polyline} {lines : List Polyline}
  {next : Option Polyline} {i : Instruction} {built : List Instruction}

/-! ## Lines -/

/-- Whether points are those of coordinates, one for one. -/
def ArePoints (is3d : Bool) (coordinates : List (List Float)) (points : List Point) : Prop :=
  List.Forall₂ (fun c p => point is3d c = .ok p) coordinates points

/-- Points of coordinates are in the dimension asked for. -/
theorem ArePoints.isSome_elevation {coordinates : List (List Float)} {points : List Point}
    (h : ArePoints is3d coordinates points) : ∀ p ∈ points, p.elevation.isSome = is3d := by
  induction h with
  | nil => simp
  | cons hp _ ih => exact List.forall_mem_cons.mpr ⟨isSome_elevation_of_point hp, ih⟩

/-- Points come from their coordinates. -/
theorem arePoints_of_pointsFrom {coordinates : List (List Float)} {points : List Point}
    (h : pointsFrom is3d index coordinates = .ok points) : ArePoints is3d coordinates points := by
  induction coordinates generalizing index points with
  | nil =>
      cases h
      exact .nil
  | cons c rest ih =>
      rw [pointsFrom] at h
      cases hp : point is3d c with
      | error error => simp [hp] at h
      | ok p =>
          cases hrest : pointsFrom is3d (index + 1) rest with
          | error error => simp [hp, hrest] at h
          | ok later =>
              obtain rfl : p :: later = points := by simpa [hp, hrest] using h
              exact .cons hp (ih hrest)

/-- **Lines come from their entries**, one for one, and have the points of their coordinates. -/
theorem forall₂_of_linesFrom (h : linesFrom is3d index entries = .ok lines) :
    List.Forall₂ (fun entry line => ArePoints is3d entry.points line.points) entries lines := by
  induction entries generalizing index lines with
  | nil =>
      cases h
      exact .nil
  | cons entry rest ih =>
      rw [linesFrom] at h
      cases hpoints : pointsFrom is3d index entry.points with
      | error error => simp [hpoints] at h
      | ok points =>
          cases hrest : linesFrom is3d (index + entry.points.length) rest with
          | error error => simp [hpoints, hrest] at h
          | ok later =>
              obtain rfl : .ofPoints is3d points :: later = lines := by
                simpa [hpoints, hrest] using h
              have harePoints := arePoints_of_pointsFrom hpoints
              refine .cons ?_ (ih hrest)
              rwa [Polyline.points_ofPoints harePoints.isSome_elevation]

/-! ## Instructions -/

/-- **What an entry says**, with the turn of its number: the instruction before its length is
judged. -/
def Entry.draft (calculator : Calculator) (entry : Entry) (line : Polyline) (next : Option Polyline)
    (turn : Turn) : Instruction where
  turn := turn
  name := entry.name
  line := line
  note := entry.note.getD {}
  distance :=
    match entry.distance with
    | some d => ⟨d⟩
    | none =>
        .sum ((neighbours (line.points ++ (next.bind (·.first?)).toList)).map fun leg =>
          calculator.distance line.is3d leg.1 leg.2)
  time := entry.time

/-- With its turn at hand, only its length stands between an entry and its instruction. -/
theorem Entry.instruction_of_ofSign {turn : Turn}
    (h : Turn.ofSign entry.sign entry.viaPosition = .ok turn) :
    entry.instruction calculator line next =
      if (entry.draft calculator line next turn).distance.isValid then
        .ok (entry.draft calculator line next turn)
      else .error (.invalidDistance (entry.draft calculator line next turn).label) := by
  rw [Entry.instruction, h, Entry.draft]
  cases entry.distance with
  | some d => rfl
  | none =>
      dsimp only
      rw [Instruction.measured_eq, Instruction.segments_eq_map_legs]
      rfl

/-- **An entry makes an instruction exactly when its turn exists and its length is one**; the
instruction is what the entry says. -/
theorem Entry.instruction_eq_ok_iff :
    entry.instruction calculator line next = .ok i ↔
      ∃ turn, Turn.ofSign entry.sign entry.viaPosition = .ok turn ∧
        entry.draft calculator line next turn = i ∧ i.distance.isValid = true := by
  cases hturn : Turn.ofSign entry.sign entry.viaPosition with
  | error error => simp [Entry.instruction, hturn]
  | ok turn =>
      simp only [Entry.instruction_of_ofSign hturn, Except.ok.injEq, exists_eq_left']
      split
      · rename_i hvalid
        rw [Except.ok.injEq]
        exact ⟨fun h => ⟨h, h ▸ hvalid⟩, And.left⟩
      · rename_i hvalid
        simp only [reduceCtorEq, false_iff]
        rintro ⟨rfl, h⟩
        exact hvalid h

/-- Instructions are made of entries and lines one by one. -/
theorem instructions_cons_eq_ok_iff :
    instructions calculator (entry :: entries) (line :: lines) = .ok built ↔
      ∃ first rest, entry.instruction calculator line lines.head? = .ok first ∧
        instructions calculator entries lines = .ok rest ∧ built = first :: rest := by
  rw [instructions]
  cases entry.instruction calculator line lines.head? with
  | error error => simp
  | ok first =>
      cases instructions calculator entries lines with
      | error error => simp
      | ok rest =>
          simp only [Except.ok.injEq, exists_and_left, exists_eq_left']
          exact eq_comm

/-- **Instructions come from their entries and lines**, each with a view to the line after its own. -/
theorem exists_of_instructions (h : instructions calculator entries lines = .ok built) {k : ℕ}
    (hi : built[k]? = some i) :
    ∃ entry line, entries[k]? = some entry ∧ lines[k]? = some line ∧
      entry.instruction calculator line lines[k + 1]? = .ok i := by
  induction entries generalizing lines built k with
  | nil =>
      cases h
      cases hi
  | cons entry entries ih =>
      cases lines with
      | nil =>
          cases h
          cases hi
      | cons line lines =>
          obtain ⟨first, rest, hfirst, hrest, rfl⟩ := instructions_cons_eq_ok_iff.mp h
          cases k with
          | zero =>
              obtain rfl : first = i := by simpa using hi
              exact ⟨entry, line, rfl, rfl, by simpa [List.head?_eq_getElem?] using hfirst⟩
          | succ k => exact ih hrest (by simpa using hi)

/-! ## Routes -/

/-- **A file makes a route exactly when its lines and its instructions can be made and its durations
have a sum.** -/
theorem route_eq_ok_iff :
    file.route calculator = .ok route ↔
      ∃ lines, file.lines = .ok lines ∧
        instructions calculator file.entries lines = .ok route.instructions ∧
          ∃ sum, route.totalTime = .ok sum := by
  rw [RouteFile.route]
  cases file.lines with
  | error error => simp
  | ok lines =>
      simp only [Except.ok.injEq, exists_eq_left']
      cases instructions calculator file.entries lines with
      | error error => simp
      | ok built =>
          simp only [Except.ok.injEq]
          constructor
          · intro h
            cases hsum : Route.totalTime ⟨built⟩ with
            | error error => simp [hsum] at h
            | ok sum =>
                obtain rfl : ⟨built⟩ = route := by simpa [hsum] using h
                exact ⟨rfl, sum, hsum⟩
          · rintro ⟨rfl, sum, hsum⟩
            rw [hsum]

/-- **An instruction of a built route** has the points of its entry and a length that is one. -/
theorem exists_of_route (h : file.route calculator = .ok route) {k : ℕ}
    (hi : route.instructions[k]? = some i) :
    ∃ entry, file.entries[k]? = some entry ∧ ArePoints file.is3d entry.points i.line.points ∧
      i.distance.isValid = true := by
  obtain ⟨lines, hlines, hbuilt, -⟩ := route_eq_ok_iff.mp h
  obtain ⟨entry, line, hentry, hline, hmade⟩ := exists_of_instructions hbuilt hi
  obtain ⟨turn, -, rfl, hvalid⟩ := Entry.instruction_eq_ok_iff.mp hmade
  refine ⟨entry, hentry, ?_, hvalid⟩
  obtain ⟨hk, rfl⟩ := List.getElem?_eq_some_iff.mp hentry
  obtain ⟨hk', rfl⟩ := List.getElem?_eq_some_iff.mp hline
  exact (forall₂_of_linesFrom hlines).get hk hk'

/-- **Without empty entries a built route has no empty instructions.** -/
theorem points_ne_nil_of_route (h : file.route calculator = .ok route)
    (hpoints : ∀ entry ∈ file.entries, entry.points ≠ []) :
    ∀ i ∈ route.instructions, i.line.points ≠ [] := by
  intro i hi
  obtain ⟨k, hk⟩ := List.mem_iff_getElem?.mp hi
  obtain ⟨entry, hentry, harePoints, -⟩ := exists_of_route h hk
  rw [← List.length_pos_iff, ← harePoints.length_eq, List.length_pos_iff]
  exact hpoints entry (List.mem_of_getElem? hentry)

/-- **The durations of a built route fit the clock.** -/
theorem duration_lt_of_route (h : file.route calculator = .ok route) :
    Route.duration route.instructions < 2 ^ 64 := by
  obtain ⟨-, -, -, hsum⟩ := route_eq_ok_iff.mp h
  simpa using Route.exists_addTimes_iff.mp hsum

end TurnByTurn.RouteFile
