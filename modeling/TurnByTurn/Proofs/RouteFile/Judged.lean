import TurnByTurn.Proofs.RouteFile.Entries

/-! # How a file is judged

A file goes through three judgements, and the first fault of the first judgement that finds any is the
answer: its coordinates over all entries, then turn and length of one entry after the other, then the sum
of the durations.

* **`IsFirst`** — the first of the faults at the places of a list.
* **`CoordinateFault`**, **`EntryFault`**, **`ClockFault`** — what each judgement finds at a place.
* **`lines_eq_error_iff`**, **`instructions_eq_error_iff`**, **`addTimes_eq_error_iff`** — each judgement
  ends with its first fault.
* **`IsJudged`**, **`isJudged_route`** — how every file is judged. -/

namespace TurnByTurn

open Milliseconds (total)

/-! ## The first fault -/

section IsFirst

variable {α : Type*} {fault : ℕ → GuidanceError → Prop} {error : GuidanceError}
  {outcome : Except GuidanceError α}

/-- **The first of the faults** that are found at places counted from zero. -/
def IsFirst (fault : ℕ → GuidanceError → Prop) (error : GuidanceError) : Prop :=
  ∃ k, fault k error ∧ ∀ j < k, ∀ other, ¬fault j other

/-- The first fault is at the first place, or there is none there and it is the first one behind. -/
theorem isFirst_iff :
    IsFirst fault error ↔
      fault 0 error ∨ (∀ other, ¬fault 0 other) ∧ IsFirst (fun k => fault (k + 1)) error := by
  constructor
  · rintro ⟨k, hk, hbefore⟩
    cases k with
    | zero => exact Or.inl hk
    | succ k =>
        exact Or.inr ⟨hbefore 0 k.succ_pos, k, hk, fun j hj => hbefore (j + 1) (Nat.succ_lt_succ hj)⟩
  · rintro (hfirst | ⟨hnone, k, hk, hbefore⟩)
    · exact ⟨0, hfirst, fun j hj => absurd hj j.not_lt_zero⟩
    · refine ⟨k + 1, hk, fun j hj => ?_⟩
      cases j with
      | zero => exact hnone
      | succ j => exact hbefore j (Nat.lt_of_succ_lt_succ hj)

/-- Without places there is no first fault. -/
theorem not_isFirst (h : ∀ k error, ¬fault k error) : ¬IsFirst fault error :=
  fun ⟨k, hk, _⟩ => h k error hk

/-- **Where only a first fault can stop it, an outcome is one exactly when there are no faults.** -/
theorem isOk_iff_of_error_iff (h : ∀ error, outcome = .error error ↔ IsFirst fault error) :
    (∃ a, outcome = .ok a) ↔ ∀ k error, ¬fault k error := by
  classical
  constructor
  · rintro ⟨a, rfl⟩ k error hk
    -- the fault at the smallest place would be the outcome
    have hfaulty : ∃ k, ∃ error, fault k error := ⟨k, error, hk⟩
    obtain ⟨first, hfirst⟩ := Nat.find_spec hfaulty
    cases (h first).mpr
      ⟨_, hfirst, fun j hj other hother => Nat.find_min hfaulty hj ⟨other, hother⟩⟩
  · intro hnone
    cases outcome with
    | ok a => exact ⟨a, rfl⟩
    | error error => exact absurd ((h error).mp rfl) (not_isFirst hnone)

end IsFirst

namespace RouteFile

variable {calculator : Calculator} {file : RouteFile} {is3d : Bool} {index : ℕ}
  {entry : Entry} {entries : List Entry} {line : Polyline} {lines : List Polyline}
  {next : Option Polyline} {error : GuidanceError} {built : List Instruction}

/-! ## Coordinates -/

/-- **What is wrong with the coordinates at a place**, counted over all entries. -/
def CoordinateFault (file : RouteFile) (k : ℕ) (error : GuidanceError) : Prop :=
  ∃ c, file.coordinates[k]? = some c ∧ IsBad file.dimension c ∧
    error = .invalidCoordinates k (flaw file.dimension c)

/-- Coordinates that are refused at a place, in a list that begins at `index`. -/
private def Refused (is3d : Bool) (index : ℕ) (coordinates : List (List Float)) (k : ℕ)
    (error : GuidanceError) : Prop :=
  ∃ c flaw, coordinates[k]? = some c ∧ point is3d c = .error flaw ∧
    error = .invalidCoordinates (index + k) flaw

private theorem refused_cons_zero {c : List Float} {rest : List (List Float)} :
    Refused is3d index (c :: rest) 0 error ↔
      ∃ flaw, point is3d c = .error flaw ∧ error = .invalidCoordinates index flaw := by
  simp [Refused]

private theorem refused_cons_succ {c : List Float} {rest : List (List Float)} :
    (fun k => Refused is3d index (c :: rest) (k + 1)) = Refused is3d (index + 1) rest := by
  funext k error
  simp only [Refused, List.getElem?_cons_succ, Nat.add_assoc, Nat.add_comm 1]

/-- Points fail with the first coordinates that are refused. -/
private theorem pointsFrom_eq_error_iff {coordinates : List (List Float)} :
    pointsFrom is3d index coordinates = .error error ↔
      IsFirst (Refused is3d index coordinates) error := by
  induction coordinates generalizing index with
  | nil =>
      simp only [pointsFrom, reduceCtorEq, false_iff]
      exact not_isFirst fun k error => by simp [Refused]
  | cons c rest ih =>
      rw [isFirst_iff, refused_cons_succ, ← ih, pointsFrom]
      simp only [refused_cons_zero]
      cases hc : point is3d c with
      | error flaw => simp [eq_comm]
      | ok p => cases pointsFrom is3d (index + 1) rest <;> simp

/-- Points fail in the first part, or it has its points and they fail in the second one. -/
private theorem pointsFrom_append_eq_error_iff {coordinates later : List (List Float)} :
    pointsFrom is3d index (coordinates ++ later) = .error error ↔
      pointsFrom is3d index coordinates = .error error ∨
        (∃ points, pointsFrom is3d index coordinates = .ok points) ∧
          pointsFrom is3d (index + coordinates.length) later = .error error := by
  induction coordinates generalizing index with
  | nil => simp [pointsFrom]
  | cons c rest ih =>
      rw [List.cons_append, pointsFrom, pointsFrom, List.length_cons, ← Nat.add_assoc,
        Nat.add_right_comm]
      cases point is3d c with
      | error flaw => simp
      | ok p =>
          have hrest := @ih (index + 1)
          cases hall : pointsFrom is3d (index + 1) (rest ++ later) <;>
            cases hfirst : pointsFrom is3d (index + 1) rest <;>
              simpa [hall, hfirst] using hrest

/-- **Lines fail exactly as the points of all their coordinates do.** -/
private theorem linesFrom_eq_error_iff :
    linesFrom is3d index entries = .error error ↔
      pointsFrom is3d index (entries.flatMap (·.points)) = .error error := by
  induction entries generalizing index with
  | nil => simp [linesFrom, pointsFrom]
  | cons entry rest ih =>
      rw [List.flatMap_cons, pointsFrom_append_eq_error_iff, ← ih, linesFrom]
      cases pointsFrom is3d index entry.points with
      | error fault => simp
      | ok points =>
          cases linesFrom is3d (index + entry.points.length) rest <;> simp

/-- **The lines of a file fail exactly with its first bad coordinates.** -/
theorem lines_eq_error_iff : file.lines = .error error ↔ IsFirst file.CoordinateFault error := by
  rw [lines, linesFrom_eq_error_iff, pointsFrom_eq_error_iff]
  change IsFirst (Refused file.is3d 0 file.coordinates) error ↔ _
  by_cases hdimension : file.dimension = some (if file.is3d then 3 else 2)
  · have hfault : Refused file.is3d 0 file.coordinates = file.CoordinateFault := by
      funext k error
      simp only [Refused, CoordinateFault, point_eq_error_iff, hdimension, Nat.zero_add]
      grind
    rw [hfault]
  · -- the first coordinates of all are neither two nor three numbers, or there are none
    cases hcoordinates : file.coordinates with
    | nil =>
        refine iff_of_false (not_isFirst fun k error => ?_) (not_isFirst fun k error => ?_)
        · simp [Refused]
        · simp [CoordinateFault, hcoordinates]
    | cons c rest =>
        have hlength : c.length ≠ 2 ∧ c.length ≠ 3 := by
          have hdim : file.dimension = some c.length := by simp [dimension, hcoordinates]
          have h3d : file.is3d = true ↔ file.dimension = some 3 := is3d_iff
          rw [hdim, Option.some.injEq] at h3d hdimension
          cases hfile : file.is3d <;> simp_all
        have hrefused : point file.is3d c = .error .wrongLength := point_eq_error_of_length hlength
        have hbad : IsBad file.dimension c := Or.inl hlength
        have hflaw : flaw file.dimension c = .wrongLength := if_pos hlength
        have hleft : IsFirst (Refused file.is3d 0 (c :: rest)) error ↔
            error = .invalidCoordinates 0 .wrongLength := by
          rw [isFirst_iff]
          simp [refused_cons_zero, hrefused]
        have hright : IsFirst file.CoordinateFault error ↔
            error = .invalidCoordinates 0 .wrongLength := by
          rw [isFirst_iff]
          simp [CoordinateFault, hcoordinates, hbad, hflaw]
        rw [hleft, hright]

/-! ## Turns and lengths -/

/-- A length is not valid when it is negative or not finite. -/
theorem isValid_eq_false_iff {x : Float} :
    (⟨x⟩ : Meters).isValid = false ↔ x < 0 ∨ x.isFinite = false := by
  rw [Meters.isValid]
  cases hfinite : x.isFinite with
  | false => simp
  | true => simp [Binary64.zero_le_iff hfinite]

/-- **What is checked at an entry**, in this order: its number is that of a turn, a via point has a
position, and its length is finite and not negative. -/
def Entry.checks (calculator : Calculator) (is3d : Bool) (entry : Entry) (next : Option Point) :
    List Check :=
  [⟨entry.sign.toInt < -3 || 5 < entry.sign.toInt, .unknownTurn entry.sign⟩,
    ⟨entry.sign = 5 && entry.viaPosition.isNone, .missingViaPosition⟩,
    ⟨entry.length calculator is3d next < 0 || !(entry.length calculator is3d next).isFinite,
      .invalidDistance (entry.label calculator is3d next)⟩]

/-- **What is wrong at an entry**: the first check there that fails. -/
def EntryFault (calculator : Calculator) (is3d : Bool) (entries : List Entry) (k : ℕ)
    (error : GuidanceError) : Prop :=
  ∃ entry, entries[k]? = some entry ∧
    Check.first? (entry.checks calculator is3d (onward? entries k)) = some error

/-- **An entry makes no instruction exactly when a check fails**, and the first one says why. -/
theorem Entry.instruction_eq_error_iff (hline : entry.IsDrawn is3d line) :
    entry.instruction calculator line next = .error error ↔
      Check.first? (entry.checks calculator is3d (next.bind (·.first?))) = some error := by
  cases hturn : Turn.ofSign entry.sign entry.viaPosition with
  | error fault =>
      rw [instruction, hturn, checks]
      rcases Turn.ofSign_eq_error_iff.mp hturn with ⟨hsign, rfl⟩ | ⟨hsign, hvia, rfl⟩
      · simp [hsign]
      · simp [hsign, hvia]
  | ok turn =>
      obtain ⟨hsign, hvia, -⟩ := Turn.ofSign_eq_ok_iff.mp hturn
      have hbounds := turn.sign_bounds
      rw [hsign] at hbounds
      have hknown : ¬(entry.sign.toInt < -3 ∨ 5 < entry.sign.toInt) := by omega
      have hposition : ¬(entry.sign = 5 ∧ entry.viaPosition.isNone = true) := by
        rintro ⟨h5, hnone⟩
        simp [Option.isNone_iff_eq_none.mp hnone] at hvia
        exact hvia h5
      rw [instruction_of_ofSign hturn, draft_distance hline, draft_label hline hturn, checks]
      simp only [Check.first?_cons, Check.first?_nil, Bool.or_eq_true, Bool.and_eq_true,
        decide_eq_true_iff, Bool.not_eq_true', hknown, hposition, if_false, ← isValid_eq_false_iff]
      cases (Meters.mk (entry.length calculator is3d (next.bind (·.first?)))).isValid <;> simp

/-- The line after a line begins where the entry after its entry does. -/
theorem head?_bind_first? (hlines : List.Forall₂ (Entry.IsDrawn is3d) entries lines) :
    lines.head?.bind (·.first?) = entries.head?.bind (·.path.head?) := by
  cases hlines with
  | nil => rfl
  | cons hline _ =>
      rw [List.head?_cons, List.head?_cons, Option.bind_some, Option.bind_some, ← hline.points_eq]
      rfl

/-- Instructions fail at their first entry, or it has its own and they fail at a later one. -/
theorem instructions_cons_eq_error_iff :
    instructions calculator (entry :: entries) (line :: lines) = .error error ↔
      entry.instruction calculator line lines.head? = .error error ∨
        (∀ fault, entry.instruction calculator line lines.head? ≠ .error fault) ∧
          instructions calculator entries lines = .error error := by
  rw [instructions]
  cases entry.instruction calculator line lines.head? with
  | error fault => simp
  | ok first => cases instructions calculator entries lines <;> simp

/-- **Instructions fail exactly with the first fault of an entry.** -/
theorem instructions_eq_error_iff (hlines : List.Forall₂ (Entry.IsDrawn is3d) entries lines) :
    instructions calculator entries lines = .error error ↔
      IsFirst (EntryFault calculator is3d entries) error := by
  induction hlines with
  | nil =>
      simp only [instructions, reduceCtorEq, false_iff]
      exact not_isFirst fun k error => by simp [EntryFault]
  | @cons entry line entries lines hline hlines ih =>
      have hfirst : ∀ fault, entry.instruction calculator line lines.head? = .error fault ↔
          EntryFault calculator is3d (entry :: entries) 0 fault := by
        intro fault
        rw [Entry.instruction_eq_error_iff hline, head?_bind_first? hlines]
        simp [EntryFault]
      have hlater : (fun k => EntryFault calculator is3d (entry :: entries) (k + 1))
          = EntryFault calculator is3d entries := by
        funext k fault
        simp [EntryFault]
      rw [instructions_cons_eq_error_iff, isFirst_iff, hlater, ← ih]
      simp only [ne_eq, hfirst]

/-! ## Durations -/

/-- **What is wrong with the durations at an entry**: the exact sum up to it and with it exceeds the
clock. -/
def ClockFault (calculator : Calculator) (is3d : Bool) (entries : List Entry) (k : ℕ)
    (error : GuidanceError) : Prop :=
  ∃ entry, entries[k]? = some entry ∧ 2 ^ 64 ≤ total ((entries.take (k + 1)).map (·.time)) ∧
    error = .timeOverflow (entry.label calculator is3d (onward? entries k))

/-- **A sum of durations fails exactly at the first instruction with which it exceeds the clock.** -/
theorem addTimes_eq_error_iff {sum : Milliseconds} {instructions : List Instruction} :
    Route.addTimes sum instructions = .error error ↔
      IsFirst (fun k error => ∃ i, instructions[k]? = some i ∧
        2 ^ 64 ≤ sum.toNat + total ((instructions.take (k + 1)).map (·.time)) ∧
          error = .timeOverflow i.label) error := by
  induction instructions generalizing sum with
  | nil =>
      simp only [Route.addTimes, reduceCtorEq, false_iff]
      exact not_isFirst fun k error => by simp
  | cons i rest ih =>
      rw [isFirst_iff, Route.addTimes]
      simp only [List.getElem?_cons_zero, List.getElem?_cons_succ, List.take_succ_cons, List.map_cons,
        List.take_zero, List.map_nil, Milliseconds.total_cons, Milliseconds.total_nil, Nat.add_zero,
        Option.some.injEq, exists_eq_left']
      cases hnext : sum.add? i.time with
      | none =>
          have hover := Milliseconds.add?_eq_none_iff.mp hnext
          simp [hover, eq_comm]
      | some next =>
          have hsum := Milliseconds.add?_eq_some_iff.mp hnext
          have hfits : ¬2 ^ 64 ≤ sum.toNat + i.time.toNat := by
            have := next.toNat_lt
            omega
          simp only [ih, hsum, hfits, false_and, false_or, not_false_eq_true, implies_true, true_and,
            Nat.add_assoc]

/-- Instructions are called what their entries are called, and take as long. -/
theorem getElem?_instructions (hlines : List.Forall₂ (Entry.IsDrawn is3d) entries lines)
    (h : instructions calculator entries lines = .ok built) (k : ℕ) :
    built[k]?.map (fun i => (i.label, i.time))
      = entries[k]?.map fun entry =>
          (entry.label calculator is3d (onward? entries k), entry.time) := by
  induction hlines generalizing built k with
  | nil =>
      cases h
      rfl
  | @cons entry line entries lines hline hlines ih =>
      obtain ⟨first, rest, hfirst, hrest, rfl⟩ := instructions_cons_eq_ok_iff.mp h
      cases k with
      | zero =>
          obtain ⟨turn, hturn, rfl, -⟩ := Entry.instruction_eq_ok_iff.mp hfirst
          simp only [List.getElem?_cons_zero, Option.map_some, onward?_cons_zero,
            Entry.draft_label hline hturn, head?_bind_first? hlines]
          rfl
      | succ k => simpa using ih hrest k

/-- **The durations of instructions fail exactly where those of their entries exceed the clock.** -/
theorem totalTime_eq_error_iff (hlines : List.Forall₂ (Entry.IsDrawn is3d) entries lines)
    (h : instructions calculator entries lines = .ok built) :
    Route.totalTime ⟨built⟩ = .error error ↔
      IsFirst (ClockFault calculator is3d entries) error := by
  have hshown := getElem?_instructions hlines h
  have htimes : built.map (·.time) = entries.map (·.time) := by
    refine List.ext_getElem? fun k => ?_
    have := congrArg (Option.map Prod.snd) (hshown k)
    simpa [Option.map_map, Function.comp_def] using this
  have hfault : (fun k error => ∃ i, built[k]? = some i ∧
      2 ^ 64 ≤ (0 : Milliseconds).toNat + total ((built.take (k + 1)).map (·.time)) ∧
        error = .timeOverflow i.label) = ClockFault calculator is3d entries := by
    funext k error
    rw [List.map_take, htimes, ← List.map_take, UInt64.toNat_zero, Nat.zero_add, ClockFault]
    have hlabel := congrArg (Option.map Prod.fst) (hshown k)
    simp only [Option.map_map, Function.comp_def] at hlabel
    cases hi : built[k]? <;> cases hentry : entries[k]? <;> simp_all
  rw [Route.totalTime, addTimes_eq_error_iff, hfault]

/-! ## The judgement -/

/-- **How a file is judged**: by the first of its bad coordinates; if there are none, by the first fault
of an entry; if there is none either, by the first entry with which the durations exceed the clock. -/
structure IsJudged (calculator : Calculator) (file : RouteFile)
    (outcome : Except GuidanceError Route) : Prop where
  /-- A file is refused for one of these reasons only, and in this order. -/
  error_iff : ∀ error, outcome = .error error ↔
    IsFirst file.CoordinateFault error ∨
      (∀ k other, ¬file.CoordinateFault k other) ∧
        (IsFirst (EntryFault calculator file.is3d file.entries) error ∨
          (∀ k other, ¬EntryFault calculator file.is3d file.entries k other) ∧
            IsFirst (ClockFault calculator file.is3d file.entries) error)
  /-- Otherwise there is a route. -/
  isOk_iff : (∃ route, outcome = .ok route) ↔
    (∀ k other, ¬file.CoordinateFault k other) ∧
      (∀ k other, ¬EntryFault calculator file.is3d file.entries k other) ∧
        ∀ k other, ¬ClockFault calculator file.is3d file.entries k other

/-- **Every file is judged in this way.** -/
theorem isJudged_route (calculator : Calculator) (file : RouteFile) :
    IsJudged calculator file (file.route calculator) := by
  have hnocoordinate := isOk_iff_of_error_iff (@lines_eq_error_iff file)
  cases hlines : file.lines with
  | error first =>
      have hroute : file.route calculator = .error first := by rw [route, hlines]
      rw [hroute]
      constructor
      · intro error
        rw [← lines_eq_error_iff, ← hnocoordinate, hlines]
        simp
      · rw [← hnocoordinate, hlines]
        simp
  | ok lines =>
      have hdrawn := isDrawn_of_linesFrom hlines
      have hentry : ∀ error, instructions calculator file.entries lines = .error error ↔
          IsFirst (EntryFault calculator file.is3d file.entries) error :=
        fun error => instructions_eq_error_iff hdrawn
      have hnoentry := isOk_iff_of_error_iff hentry
      cases hbuilt : instructions calculator file.entries lines with
      | error first =>
          have hroute : file.route calculator = .error first := by rw [route, hlines]; simp [hbuilt]
          rw [hroute]
          constructor
          · intro error
            rw [← lines_eq_error_iff, ← hnocoordinate, ← hentry, ← hnoentry, hlines, hbuilt]
            simp
          · rw [← hnocoordinate, ← hnoentry, hlines, hbuilt]
            simp
      | ok built =>
          have hclock : ∀ error, Route.totalTime ⟨built⟩ = .error error ↔
              IsFirst (ClockFault calculator file.is3d file.entries) error :=
            fun error => totalTime_eq_error_iff hdrawn hbuilt
          have hnoclock := isOk_iff_of_error_iff hclock
          constructor
          · intro error
            rw [← lines_eq_error_iff, ← hnocoordinate, ← hentry, ← hnoentry, ← hclock, route,
              hlines, hbuilt]
            cases hsum : Route.totalTime ⟨built⟩ <;> simp [hbuilt, hsum]
          · rw [← hnocoordinate, ← hnoentry, ← hnoclock, route, hlines, hbuilt]
            cases hsum : Route.totalTime ⟨built⟩ <;> simp [hbuilt, hsum]

/-- Bad coordinates of the second entry come before the unknown turn of the first one. -/
example : route .plane ⟨[{ sign := 9, points := [[0, 0]] }, { sign := 5, points := [[0, 0, 1]] }]⟩
    = .error (.invalidCoordinates 1 .mixedDimensions) := rfl

end RouteFile

end TurnByTurn
