import TurnByTurn.Proofs.RouteFile.Entries
import TurnByTurn.Proofs.RouteFile.Measured

/-! # What a built route keeps of its file

Entry by entry, a built route says what its file says: nothing is left out, added or moved, and all of it
has passed the checks.

* **`Entry.IsKept`** — what an instruction keeps of its entry.
* **`IsFaithful`** — what a route keeps of its file.
* **`isFaithful_of_route`** — every built route keeps all of it. -/

namespace TurnByTurn.RouteFile

variable {calculator : Calculator} {file : RouteFile} {route : Route} {is3d : Bool}
  {entry : Entry} {entries : List Entry} {line : Polyline} {lines : List Polyline}
  {next : Option Polyline} {i : Instruction} {built : List Instruction}

/-- **What an instruction keeps of its entry**, in a route of the given dimension. -/
structure Entry.IsKept (is3d : Bool) (entry : Entry) (i : Instruction) : Prop where
  /-- Its points are the places that the coordinates name, one for one. -/
  map_points : i.line.points.map some = entry.points.map place?
  is3d_eq : i.line.is3d = is3d
  isSome_elevation : ∀ p ∈ i.line.points, p.elevation.isSome = is3d
  latitude_mem : ∀ p ∈ i.line.points, -90 ≤ p.latitude ∧ p.latitude ≤ 90
  longitude_mem : ∀ p ∈ i.line.points, -180 ≤ p.longitude ∧ p.longitude ≤ 180
  /-- Its length is one, and the written one if there is one. -/
  distance_valid : i.distance.value.isFinite = true ∧ 0 ≤ i.distance.value
  distance_eq : ∀ d, entry.distance = some d → i.distance.value = d
  /-- Its turn has the number and, at a via point, the position, which is there. -/
  sign_eq : i.turn.sign = entry.sign
  viaPosition_eq : i.turn.viaPosition? = if entry.sign = 5 then entry.viaPosition else none
  isSome_viaPosition : entry.sign = 5 → entry.viaPosition.isSome = true
  name_eq : i.name = entry.name
  time_eq : i.time = entry.time
  /-- A missing note counts as the empty one. -/
  note_eq : i.note = entry.note.getD ⟨0, ""⟩

/-- **What a route keeps of its file**: one instruction for each entry in its order, all in the dimension of
the file, and durations that have a sum. -/
structure IsFaithful (file : RouteFile) (route : Route) : Prop where
  instructions : List.Forall₂ (Entry.IsKept file.is3d) file.entries route.instructions
  totalTime_isOk : ∃ sum, route.totalTime = .ok sum

/-- **An instruction keeps its entry**, when it was made from the entry's line. -/
theorem Entry.isKept_of_instruction (hline : entry.IsDrawn is3d line)
    (h : entry.instruction calculator line next = .ok i) : entry.IsKept is3d i := by
  obtain ⟨turn, hturn, rfl, hvalid⟩ := Entry.instruction_eq_ok_iff.mp h
  obtain ⟨hsign, hvia, hposition⟩ := Turn.ofSign_eq_ok_iff.mp hturn
  exact {
    map_points := hline.map_points
    is3d_eq := hline.is3d_eq
    isSome_elevation := fun p hp => (line.uniform p hp).trans hline.is3d_eq
    latitude_mem := fun p hp => (onEarth_iff.mp (hline.onEarth p hp)).1
    longitude_mem := fun p hp => (onEarth_iff.mp (hline.onEarth p hp)).2
    distance_valid := by simpa [Meters.isValid] using hvalid
    distance_eq := fun d hd => by rw [draft, hd]
    sign_eq := hsign
    viaPosition_eq := hposition
    isSome_viaPosition := hvia
    name_eq := rfl
    time_eq := rfl
    note_eq := rfl }

/-- Instructions keep their entries, one for one. -/
theorem forall₂_isKept_of_instructions (hlines : List.Forall₂ (Entry.IsDrawn is3d) entries lines)
    (h : instructions calculator entries lines = .ok built) :
    List.Forall₂ (Entry.IsKept is3d) entries built := by
  induction hlines generalizing built with
  | nil =>
      cases h
      exact .nil
  | cons hline _ ih =>
      obtain ⟨first, rest, hfirst, hrest, rfl⟩ := instructions_cons_eq_ok_iff.mp h
      exact .cons (Entry.isKept_of_instruction hline hfirst) (ih hrest)

/-- **A built route keeps all that its file says.** -/
theorem isFaithful_of_route (h : file.route calculator = .ok route) : IsFaithful file route := by
  obtain ⟨lines, hlines, hbuilt, hsum⟩ := route_eq_ok_iff.mp h
  exact ⟨forall₂_isKept_of_instructions (isDrawn_of_linesFrom hlines) hbuilt, hsum⟩

/-- A tour past a via point, with a position where none is looked at. -/
def pastTheFountain : RouteFile := ⟨[
  { sign := -1, name := "Quay", viaPosition := some 7, note := some ⟨-2, "cobbles"⟩,
    points := [[4.5, 50.25], [4.75, 50.5]], distance := some 1250.5, time := 60000 },
  { sign := 5, viaPosition := some 1, points := [[4.75, -90]] },
  { sign := 4, name := "Gate", points := [], distance := some 0 }]⟩

/-- The route of `pastTheFountain`. -/
def pastTheFountainRoute : Route := ⟨[
  { turn := .slightLeft
    name := "Quay"
    line := .ofPoints false [⟨50.25, 4.5, none⟩, ⟨50.5, 4.75, none⟩]
    note := ⟨-2, "cobbles"⟩
    distance := ⟨1250.5⟩
    time := 60000 },
  { turn := .reachedVia 1
    name := ""
    line := .ofPoints false [⟨-90, 4.75, none⟩] },
  { turn := .finish
    name := "Gate"
    line := .ofPoints false [] }]⟩

theorem isFaithful_of_route_pastTheFountain :
    pastTheFountain.route .plane = .ok pastTheFountainRoute ∧
      IsFaithful pastTheFountain pastTheFountainRoute :=
  have hroute : pastTheFountain.route .plane = .ok pastTheFountainRoute := by decide +kernel
  ⟨hroute, isFaithful_of_route hroute⟩

end TurnByTurn.RouteFile
