import TurnByTurn.Proofs.RouteFile.Built
import TurnByTurn.Proofs.Trace.Legs

/-! # What an entry says

An entry names its turn by a number and its places by coordinates, and says how long it is or leaves that
to be computed.

* **`Turn.ofSign_eq_ok_iff`**, **`Turn.ofSign_eq_error_iff`** — the turn that a number names.
* **`place?`** — the place that coordinates name.
* **`dimension`** — how many numbers the first coordinates of a route have.
* **`IsBad`**, **`flaw`** — whether coordinates are bad, and what is said about them then.
* **`point_eq_ok_iff`**, **`point_eq_error_iff`** — coordinates become the place they name, or are refused
  as bad.
* **`Entry.path`**, **`Entry.length`**, **`Entry.label`** — the places of an entry, its length, and what it
  is called in messages.
* **`Entry.draft_distance`**, **`Entry.draft_label`** — the instruction of an entry agrees with it. -/

namespace TurnByTurn

/-! ## Turns -/

namespace Turn

variable {number : Int32} {viaPosition : Option UInt64} {turn : Turn} {error : GuidanceError}

/-- The number of every turn is from -3 to 5. -/
theorem sign_bounds (turn : Turn) : -3 ≤ turn.sign.toInt ∧ turn.sign.toInt ≤ 5 := by
  cases turn <;> simp [sign]

/-- The number of a reached via point. -/
theorem eq_five_iff : number = 5 ↔ number.toInt = 5 := by
  rw [← Int32.toInt_inj]
  rfl

/-- **A number names a turn** that has this number, and a position exactly at a via point. -/
theorem ofSign_eq_ok_iff :
    ofSign number viaPosition = .ok turn ↔
      turn.sign = number ∧ (number = 5 → viaPosition.isSome) ∧
        turn.viaPosition? = if number = 5 then viaPosition else none := by
  constructor
  · intro h
    unfold ofSign at h
    split at h
    case h_9 h5 =>
      obtain rfl := eq_five_iff.mpr h5
      cases viaPosition with
      | none => cases h
      | some position =>
          cases h
          simp [sign, viaPosition?]
    case h_10 => cases h
    all_goals
      rename_i hsign
      cases h
      have hnumber : number ≠ 5 := by simp [eq_five_iff, hsign]
      exact ⟨Int32.toInt_inj.mp (hsign ▸ rfl), fun h5 => absurd h5 hnumber, (if_neg hnumber).symm⟩
  · rintro ⟨rfl, -, hposition⟩
    have hvia : ∀ position, turn = reachedVia position → viaPosition = some position := by
      rintro position rfl
      simpa [sign, viaPosition?] using hposition.symm
    cases turn with
    | reachedVia position => rw [hvia position rfl]; rfl
    | _ => rfl

/-- **A number names no turn** when no turn has it, or when it is that of a via point without a
position. -/
theorem ofSign_eq_error_iff :
    ofSign number viaPosition = .error error ↔
      (number.toInt < -3 ∨ 5 < number.toInt) ∧ error = .unknownTurn number ∨
        number = 5 ∧ viaPosition = none ∧ error = .missingViaPosition := by
  constructor
  · intro h
    unfold ofSign at h
    split at h
    case h_9 h5 =>
      cases viaPosition with
      | none => exact Or.inr ⟨eq_five_iff.mpr h5, rfl, by simpa using h.symm⟩
      | some position => cases h
    case h_10 =>
      refine Or.inl ⟨?_, by simpa using h.symm⟩
      simp only [imp_false] at *
      omega
    all_goals cases h
  · rintro (⟨hnumber, rfl⟩ | ⟨rfl, rfl, rfl⟩)
    · unfold ofSign
      split
      case h_10 => rfl
      all_goals
        rename_i hsign
        rw [hsign] at hnumber
        exact absurd hnumber (by decide)
    · rfl

end Turn

namespace RouteFile

variable {calculator : Calculator} {is3d : Bool} {index : ℕ} {c : List Float} {p : Point}
  {entry : Entry} {entries : List Entry} {line : Polyline} {lines : List Polyline} {turn : Turn}
  {next : Option Polyline}

/-! ## Places -/

/-- **The place that coordinates name**: the longitude comes first, the latitude second, and a third number
is the elevation. -/
def place? : List Float → Option Point
  | [longitude, latitude] => some ⟨latitude, longitude, none⟩
  | [longitude, latitude, elevation] => some ⟨latitude, longitude, some elevation⟩
  | _ => none

/-- The points of the earth, by latitude and longitude. -/
theorem onEarth_iff :
    onEarth p = true ↔
      (-90 ≤ p.latitude ∧ p.latitude ≤ 90) ∧ (-180 ≤ p.longitude ∧ p.longitude ≤ 180) := by
  simp only [onEarth, Bool.and_eq_true, decide_eq_true_iff, and_assoc]

/-- A point is taken when it is on the earth. -/
theorem checked_eq_ok_iff {q : Point} : point.checked p = .ok q ↔ p = q ∧ onEarth p = true := by
  unfold point.checked
  cases onEarth p <;> simp

/-- A point is refused when it is not on the earth. -/
theorem checked_eq_error_iff {error : CoordinateError} :
    point.checked p = .error error ↔ onEarth p = false ∧ error = .outOfRange := by
  unfold point.checked
  cases onEarth p <;> simp [eq_comm]

/-- **Coordinates become the place they name**, when it is on the earth and in the dimension asked for. -/
theorem point_eq_ok_iff :
    point is3d c = .ok p ↔ place? c = some p ∧ p.elevation.isSome = is3d ∧ onEarth p = true := by
  rcases c with _ | ⟨x, _ | ⟨y, _ | ⟨z, _ | ⟨w, rest⟩⟩⟩⟩
  · simp [point, place?]
  · simp [point, place?]
  · cases is3d
    · rw [point, checked_eq_ok_iff, place?, Option.some.injEq]
      refine and_congr_right ?_
      rintro rfl
      simp
    · simp only [point, place?, Option.some.injEq, reduceCtorEq, false_iff]
      rintro ⟨rfl, hdimension, -⟩
      simp at hdimension
  · cases is3d
    · simp only [point, place?, Option.some.injEq, reduceCtorEq, false_iff]
      rintro ⟨rfl, hdimension, -⟩
      simp at hdimension
    · rw [point, checked_eq_ok_iff, place?, Option.some.injEq]
      refine and_congr_right ?_
      rintro rfl
      simp
  · simp [point, place?]

/-! ## Bad coordinates -/

/-- **The dimension of a route**: how many numbers the first coordinates of the whole route have. -/
def dimension (file : RouteFile) : Option ℕ := file.coordinates.head?.map List.length

/-- **Whether coordinates are bad** in a route of the given dimension: they are no two or three numbers,
not of that dimension, or no place on the earth. -/
def IsBad (dimension : Option ℕ) (numbers : List Float) : Prop :=
  (numbers.length ≠ 2 ∧ numbers.length ≠ 3) ∨ some numbers.length ≠ dimension ∨
    (∃ latitude : Float, numbers[1]? = some latitude ∧ ¬(-90 ≤ latitude ∧ latitude ≤ 90)) ∨
      ∃ longitude : Float, numbers[0]? = some longitude ∧ ¬(-180 ≤ longitude ∧ longitude ≤ 180)

/-- **What is said about bad coordinates.** -/
def flaw (dimension : Option ℕ) (numbers : List Float) : CoordinateError :=
  if numbers.length ≠ 2 ∧ numbers.length ≠ 3 then .wrongLength
  else if some numbers.length ≠ dimension then .mixedDimensions
  else .outOfRange

/-- A route has elevations when its dimension is three. -/
theorem is3d_iff {file : RouteFile} : file.is3d = true ↔ file.dimension = some 3 := by
  unfold is3d dimension
  cases file.coordinates.head? <;> simp

/-- Coordinates of the right dimension are bad when they are no place on the earth. -/
theorem isBad_iff_of_place? (h : place? c = some p) :
    IsBad (some c.length) c ↔ onEarth p = false := by
  rw [← Bool.not_eq_true, onEarth_iff, not_and_or]
  rcases c with _ | ⟨x, _ | ⟨y, _ | ⟨z, _ | ⟨w, rest⟩⟩⟩⟩
  · cases h
  · cases h
  · obtain rfl : ⟨y, x, none⟩ = p := by simpa [place?] using h
    simp [IsBad]
  · obtain rfl : ⟨y, x, some z⟩ = p := by simpa [place?] using h
    simp [IsBad]
  · cases h

/-- **Coordinates are refused exactly when they are bad**, in a route whose dimension is one. -/
theorem point_eq_error_iff {error : CoordinateError} :
    point is3d c = .error error ↔
      IsBad (some (if is3d then 3 else 2)) c ∧ error = flaw (some (if is3d then 3 else 2)) c := by
  rcases c with _ | ⟨x, _ | ⟨y, _ | ⟨z, _ | ⟨w, rest⟩⟩⟩⟩
  · simp [point, IsBad, flaw, eq_comm]
  · simp [point, IsBad, flaw, eq_comm]
  · cases is3d
    · have hbad := isBad_iff_of_place? (c := [x, y]) rfl
      simp only [List.length_cons, List.length_nil, Nat.zero_add, Nat.reduceAdd] at hbad
      simp only [point, checked_eq_error_iff, Bool.false_eq_true, if_false, hbad]
      simp [flaw]
    · simp [point, IsBad, flaw, eq_comm]
  · cases is3d
    · simp [point, IsBad, flaw, eq_comm]
    · have hbad := isBad_iff_of_place? (c := [x, y, z]) rfl
      simp only [List.length_cons, List.length_nil, Nat.zero_add, Nat.reduceAdd] at hbad
      simp only [point, checked_eq_error_iff, if_true, hbad]
      simp [flaw]
  · simp [point, IsBad, flaw, eq_comm]

/-- First coordinates that are neither two nor three numbers are refused as such. -/
theorem point_eq_error_of_length (h : c.length ≠ 2 ∧ c.length ≠ 3) :
    point is3d c = .error .wrongLength := by
  rw [point_eq_error_iff]
  exact ⟨Or.inl h, by rw [flaw, if_pos h]⟩

/-! ## Lines -/

/-- **The places of an entry.** Coordinates that name none are left out. -/
def Entry.path (entry : Entry) : List Point := entry.points.filterMap place?

/-- **Whether a line is that of an entry** in the dimension of its route: it has the places of the entry,
and they are on the earth. -/
structure Entry.IsDrawn (is3d : Bool) (entry : Entry) (line : Polyline) : Prop where
  is3d_eq : line.is3d = is3d
  map_points : line.points.map some = entry.points.map place?
  onEarth : ∀ p ∈ line.points, onEarth p = true

/-- A line has the places of its entry. -/
theorem Entry.IsDrawn.points_eq (h : entry.IsDrawn is3d line) : line.points = entry.path := by
  have hpath := congrArg (List.filterMap id) h.map_points
  simpa [List.filterMap_map, Entry.path] using hpath

/-- Points of coordinates are the places they name, and on the earth. -/
theorem ArePoints.map_points {coordinates : List (List Float)} {points : List Point}
    (h : ArePoints is3d coordinates points) :
    points.map some = coordinates.map place? ∧ ∀ p ∈ points, onEarth p = true := by
  induction h with
  | nil => simp
  | cons hp _ ih =>
      obtain ⟨hplace, -, hearth⟩ := point_eq_ok_iff.mp hp
      rw [List.map_cons, List.map_cons, ih.1, hplace]
      exact ⟨rfl, List.forall_mem_cons.mpr ⟨hearth, ih.2⟩⟩

/-- **Lines are drawn from their entries**, one for one. -/
theorem isDrawn_of_linesFrom (h : linesFrom is3d index entries = .ok lines) :
    List.Forall₂ (Entry.IsDrawn is3d) entries lines := by
  have hpoints := forall₂_of_linesFrom h
  induction entries generalizing index lines with
  | nil =>
      cases h
      exact .nil
  | cons entry rest ih =>
      rw [linesFrom] at h
      cases hown : pointsFrom is3d index entry.points with
      | error error => simp [hown] at h
      | ok points =>
          cases hrest : linesFrom is3d (index + entry.points.length) rest with
          | error error => simp [hown, hrest] at h
          | ok later =>
              obtain rfl : .ofPoints is3d points :: later = lines := by simpa [hown, hrest] using h
              obtain ⟨hfirst, hlater⟩ := List.forall₂_cons.mp hpoints
              obtain ⟨hmap, hearth⟩ := hfirst.map_points
              exact .cons ⟨rfl, hmap, hearth⟩ (ih hrest hlater)

/-! ## Lengths and labels -/

/-- The first place of the entry after the one at an index. -/
def onward? (entries : List Entry) (k : ℕ) : Option Point := entries[k + 1]?.bind (·.path.head?)

@[simp] theorem onward?_cons_zero (entry : Entry) (entries : List Entry) :
    onward? (entry :: entries) 0 = entries.head?.bind (·.path.head?) := by
  simp [onward?, List.head?_eq_getElem?]

@[simp] theorem onward?_cons_succ (entry : Entry) (entries : List Entry) (k : ℕ) :
    onward? (entry :: entries) (k + 1) = onward? entries k := rfl

/-- **The length of an entry in meters** up to the point `next`: the written one, or else the lengths of its
legs, from each of its places to the next one and from the last one to `next`, added to zero one after the
other. -/
def Entry.length (calculator : Calculator) (is3d : Bool) (entry : Entry) (next : Option Point) : Float :=
  match entry.distance with
  | some d => d
  | none =>
      (neighbours (entry.path ++ next.toList)).foldl
        (fun sum leg => sum + (calculator.distance is3d leg.1 leg.2).value) 0

/-- **The label of an entry**: sign, street, length and duration. -/
def Entry.label (calculator : Calculator) (is3d : Bool) (entry : Entry) (next : Option Point) :
    String :=
  "(" ++ toString entry.sign.toInt ++ "," ++ entry.name ++ ","
    ++ Binary64.display (entry.length calculator is3d next) ++ "," ++ toString entry.time.toNat ++ ")"

/-- A sum of lengths is added up in their values. -/
theorem value_sum_map {α : Type*} (f : α → Meters) (as : List α) :
    (Meters.sum (as.map f)).value = as.foldl (fun sum a => sum + (f a).value) 0 := by
  rw [Meters.sum, List.foldl_map]
  refine (List.foldl_hom Meters.value fun sum a => ?_).symm
  rfl

/-- **The length of an instruction is that of its entry.** -/
theorem Entry.draft_distance (h : entry.IsDrawn is3d line) :
    (entry.draft calculator line next turn).distance
      = ⟨entry.length calculator is3d (next.bind (·.first?))⟩ := by
  rw [draft, length, ← h.points_eq, ← h.is3d_eq]
  cases entry.distance with
  | some d => rfl
  | none => exact congrArg Meters.mk (value_sum_map ..)

/-- **An instruction is called what its entry is called.** -/
theorem Entry.draft_label (h : entry.IsDrawn is3d line)
    (hturn : Turn.ofSign entry.sign entry.viaPosition = .ok turn) :
    (entry.draft calculator line next turn).label
      = entry.label calculator is3d (next.bind (·.first?)) := by
  obtain ⟨hsign, -⟩ := Turn.ofSign_eq_ok_iff.mp hturn
  rw [Instruction.label, draft_distance h, label, ← hsign]
  rfl

end RouteFile

end TurnByTurn
