import Mathlib.Data.List.Forall2
import TurnByTurn.Guidance.Maneuver
import TurnByTurn.Proofs.Trace.Legs
import TurnByTurn.RouteFile.Build

/-! # The intervals of maneuvers

Maneuvers count the points of a route on their own, a trace takes them one by one. Where the route can
be traced both agree; where it ends in an instruction without points the count goes astray.

* **`Route.getElem?_maneuvers`** — the maneuver of the `k`-th instruction.
* **`Route.interval_of_getElem?`** — from the points before an instruction to the points before the next
  one, one less at the end of the route.
* **`Maneuver.Tiles`** — intervals that lie in order on the points of a route.
* **`Route.tiles_maneuvers_iff`** — they do so exactly when the last instruction has points.
* **`Route.not_tiles_deadEnd`** — a route that can be built and whose intervals do not.
* **`Route.IndexesTrace`**, **`Route.indexesTrace_maneuvers`** — intervals as places in a trace. -/

namespace TurnByTurn

open Milliseconds (total)

/-! ## Maneuvers and their instructions -/

/-- An empty note is the note that instructions have by default. -/
theorem Note.eq_default_of_isEmpty {note : Note} (h : note.isEmpty = true) : note = {} := by
  obtain ⟨importance, message⟩ := note
  simp only [isEmpty, Bool.and_eq_true, decide_eq_true_iff, String.isEmpty_iff] at h
  obtain ⟨rfl, rfl⟩ := h
  rfl

/-- **What a maneuver tells of its instruction**, whatever its place on the route. -/
structure Maneuver.Shows (phrasebook : Phrasebook) (m : Maneuver) (i : Instruction) : Prop where
  text_eq : m.text = i.turn.sentence phrasebook i.name
  sign_eq : m.sign = i.turn.sign
  street_eq : m.street = i.name
  distance_eq : m.distance = i.distance
  time_eq : m.time = i.time
  viaPosition_eq : m.viaPosition = i.turn.viaPosition?
  /-- An absent note stands for an empty one. -/
  note_eq : m.note.getD {} = i.note

/-- A maneuver shows the instruction it is made of. -/
theorem Maneuver.shows_ofInstruction (phrasebook : Phrasebook) (calculator : Calculator) (start : ℕ)
    (i : Instruction) (follower : Option Instruction) :
    Shows phrasebook (ofInstruction phrasebook calculator start i follower) i where
  text_eq := rfl
  sign_eq := rfl
  street_eq := rfl
  distance_eq := rfl
  time_eq := rfl
  viaPosition_eq := rfl
  note_eq := by
    rw [ofInstruction]
    by_cases hempty : i.note.isEmpty = true
    · rw [if_pos hempty, Option.getD_none, Note.eq_default_of_isEmpty hempty]
    · rw [if_neg hempty, Option.getD_some]

namespace Route

variable {phrasebook : Phrasebook} {calculator : Calculator} {route : Route} {start : Milliseconds}
  {instructions : List Instruction} {samples : List Sample} {i : Instruction} {m : Maneuver} {k : ℕ}

/-- The maneuvers of instructions whose points begin at index `first`. Only the end of the last interval
is not the number of points so far, and nothing begins there. -/
theorem getElem?_maneuversFrom (phrasebook : Phrasebook) (calculator : Calculator) (first : ℕ)
    (instructions : List Instruction) (k : ℕ) :
    (maneuversFrom phrasebook calculator first instructions)[k]?
      = instructions[k]?.map fun i => Maneuver.ofInstruction phrasebook calculator
          (first + pointsBefore instructions k) i instructions[k + 1]? := by
  induction instructions generalizing first k with
  | nil => rfl
  | cons i rest ih =>
      rw [maneuversFrom]
      cases k with
      | zero => simp [List.head?_eq_getElem?]
      | succ k =>
          rw [List.getElem?_cons_succ, ih, List.getElem?_cons_succ, List.getElem?_cons_succ,
            pointsBefore_cons_succ]
          cases rest with
          | nil => rfl
          | cons f rest =>
              have hend : (Maneuver.ofInstruction phrasebook calculator first i
                  (f :: rest).head?).interval.2 = first + i.line.size := rfl
              rw [hend, Nat.add_assoc]

/-- **The maneuver of the `k`-th instruction** begins where the points before it end. -/
theorem getElem?_maneuvers (phrasebook : Phrasebook) (calculator : Calculator) (route : Route)
    (k : ℕ) :
    (route.maneuvers phrasebook calculator)[k]?
      = route.instructions[k]?.map fun i => Maneuver.ofInstruction phrasebook calculator
          (pointsBefore route.instructions k) i route.instructions[k + 1]? := by
  rw [maneuvers, getElem?_maneuversFrom]
  simp only [Nat.zero_add]

/-- There are as many maneuvers as instructions. -/
@[simp] theorem length_maneuvers (phrasebook : Phrasebook) (calculator : Calculator) (route : Route) :
    (route.maneuvers phrasebook calculator).length = route.instructions.length :=
  length_maneuversFrom ..

/-- The instruction of a maneuver. -/
theorem exists_of_getElem?_maneuvers (h : (route.maneuvers phrasebook calculator)[k]? = some m) :
    ∃ i, route.instructions[k]? = some i ∧ m = Maneuver.ofInstruction phrasebook calculator
      (pointsBefore route.instructions k) i route.instructions[k + 1]? := by
  rw [getElem?_maneuvers, Option.map_eq_some_iff] at h
  obtain ⟨i, hi, rfl⟩ := h
  exact ⟨i, hi, rfl⟩

/-- **Maneuvers show the instructions of a route one for one, in its order.** -/
theorem forall₂_shows_maneuvers (phrasebook : Phrasebook) (calculator : Calculator) (route : Route) :
    List.Forall₂ (Maneuver.Shows phrasebook) (route.maneuvers phrasebook calculator)
      route.instructions := by
  refine List.forall₂_iff_get.mpr ⟨length_maneuvers .., fun k hm hi => ?_⟩
  obtain ⟨i, hi', hshows⟩ := exists_of_getElem?_maneuvers (List.getElem?_eq_getElem hm)
  rw [List.getElem?_eq_getElem hi, Option.some.injEq] at hi'
  rw [List.get_eq_getElem, List.get_eq_getElem, hshows, hi']
  exact Maneuver.shows_ofInstruction ..

/-- The durations of maneuvers are those of their instructions. -/
theorem total_time_take_maneuvers (phrasebook : Phrasebook) (calculator : Calculator) (route : Route)
    (k : ℕ) :
    total (((route.maneuvers phrasebook calculator).take k).map (·.time))
      = timeBefore route.instructions k := by
  have htimes : (route.maneuvers phrasebook calculator).map (·.time)
      = route.instructions.map (·.time) := by
    refine List.ext_getElem? fun j => ?_
    rw [List.getElem?_map, List.getElem?_map, getElem?_maneuvers, Option.map_map]
    rfl
  rw [List.map_take, htimes, ← List.map_take]
  rfl

/-! ## Intervals and points -/

/-- The points of a route are those before its end. -/
theorem totalPoints_eq (route : Route) :
    route.totalPoints = pointsBefore route.instructions route.instructions.length := by
  rw [pointsBefore_length]
  rfl

/-- Further on, more points have come before. -/
theorem pointsBefore_mono (instructions : List Instruction) : Monotone (pointsBefore instructions) := by
  intro k k' hk
  rw [pointsBefore, pointsBefore, List.map_take, List.map_take]
  exact List.monotone_sum_take _ hk

/-- **An interval reaches from the points before its instruction to the points before the next one.** At
the end of the route it is one shorter. -/
theorem interval_of_getElem? (h : (route.maneuvers phrasebook calculator)[k]? = some m) :
    m.interval = (pointsBefore route.instructions k, pointsBefore route.instructions (k + 1)
      - if k + 1 = route.instructions.length then 1 else 0) := by
  obtain ⟨i, hi, rfl⟩ := exists_of_getElem?_maneuvers h
  have hk : k < route.instructions.length := (List.getElem?_eq_some_iff.mp hi).1
  rw [Maneuver.ofInstruction, pointsBefore_succ hi]
  by_cases hlast : k + 1 = route.instructions.length
  · rw [if_pos hlast, List.getElem?_eq_none_iff.mpr hlast.ge]
    rfl
  · rw [if_neg hlast, List.getElem?_eq_getElem (Nat.lt_of_le_of_ne hk hlast)]
    rfl

/-- The maneuver of the last instruction. -/
theorem exists_getLast?_maneuvers (phrasebook : Phrasebook) (calculator : Calculator)
    (h : route.instructions.getLast? = some i) :
    ∃ m n, route.instructions.length = n + 1 ∧
      (route.maneuvers phrasebook calculator)[n]? = some m ∧
      route.totalPoints = pointsBefore route.instructions n + i.line.size := by
  have hne : route.instructions ≠ [] := by
    intro hnil
    rw [hnil] at h
    cases h
  obtain ⟨n, hn⟩ := Nat.exists_eq_add_one_of_ne_zero (List.length_pos_iff.mpr hne).ne'
  rw [List.getLast?_eq_getElem?, hn, Nat.add_sub_cancel] at h
  refine ⟨_, n, hn, by rw [getElem?_maneuvers, h, Option.map_some], ?_⟩
  rw [totalPoints_eq, hn, pointsBefore_succ h]

end Route

/-! ## Intervals in order -/

/-- **Intervals that lie in order on the points of a route**: from its first point on, each to where the
next one begins, none backwards and none beyond the last point. -/
structure Maneuver.Tiles (maneuvers : List Maneuver) (points : ℕ) : Prop where
  head : ∀ m ∈ maneuvers.head?, m.interval.1 = 0
  joined : maneuvers.IsChain fun m m' => m.interval.2 = m'.interval.1
  ordered : ∀ m ∈ maneuvers, m.interval.1 ≤ m.interval.2
  inside : ∀ m ∈ maneuvers, m.interval.2 ≤ points - 1

namespace Route

variable {phrasebook : Phrasebook} {calculator : Calculator} {route : Route} {start : Milliseconds}
  {samples : List Sample} {i : Instruction} {m : Maneuver} {k : ℕ}

/-- The first interval begins at the first point. -/
theorem interval_of_head? (h : (route.maneuvers phrasebook calculator).head? = some m) :
    m.interval.1 = 0 := by
  rw [List.head?_eq_getElem?] at h
  rw [interval_of_getElem? h, pointsBefore_zero]

/-- **Each interval ends where the next one begins**, whatever has points and what has none. -/
theorem interval_succ_of_getElem? {m' : Maneuver}
    (h : (route.maneuvers phrasebook calculator)[k]? = some m)
    (h' : (route.maneuvers phrasebook calculator)[k + 1]? = some m') :
    m.interval.2 = m'.interval.1 := by
  have hk : k + 1 < route.instructions.length := by
    rw [← length_maneuvers phrasebook calculator]
    exact (List.getElem?_eq_some_iff.mp h').1
  rw [interval_of_getElem? h, interval_of_getElem? h', if_neg hk.ne, Nat.sub_zero]

/-- **Where the last instruction has points, intervals lie in order.** The points that an interval
leaves to the others are at least those of the last instruction. -/
theorem tiles_of_getLast? (phrasebook : Phrasebook) (calculator : Calculator)
    (h : route.instructions.getLast? = some i) (hne : i.line.points ≠ []) :
    Maneuver.Tiles (route.maneuvers phrasebook calculator) route.totalPoints := by
  obtain ⟨last, n, hn, -, htotal⟩ := exists_getLast?_maneuvers phrasebook calculator h
  have hsize : 0 < i.line.size := List.length_pos_iff.mpr hne
  have hinterval : ∀ m ∈ route.maneuvers phrasebook calculator,
      m.interval.1 ≤ m.interval.2 ∧ m.interval.2 ≤ route.totalPoints - 1 := by
    intro m hm
    obtain ⟨k, hk⟩ := List.mem_iff_getElem?.mp hm
    have hlt : k < route.instructions.length := by
      rw [← length_maneuvers phrasebook calculator]
      exact (List.getElem?_eq_some_iff.mp hk).1
    rw [interval_of_getElem? hk]
    by_cases hlast : k + 1 = route.instructions.length
    · obtain rfl : k = n := by omega
      rw [if_pos hlast, hlast, ← totalPoints_eq]
      constructor
      · show pointsBefore route.instructions k ≤ route.totalPoints - 1
        omega
      · exact le_rfl
    · rw [if_neg hlast]
      constructor
      · exact pointsBefore_mono _ (Nat.le_succ k)
      · have hle := pointsBefore_mono route.instructions (show k + 1 ≤ n by omega)
        show pointsBefore route.instructions (k + 1) ≤ route.totalPoints - 1
        omega
  refine ⟨fun m hm => interval_of_head? hm, ?_, fun m hm => (hinterval m hm).1,
    fun m hm => (hinterval m hm).2⟩
  exact List.isChain_iff_getElem.mpr fun k hk => interval_succ_of_getElem?
    (List.getElem?_eq_getElem (Nat.lt_of_succ_lt hk)) (List.getElem?_eq_getElem hk)

/-- **At the end of a route without points there the last interval runs backwards**, from behind the last
point to the last point. -/
theorem interval_of_points_eq_nil (h : route.instructions.getLast? = some i)
    (hnil : i.line.points = []) :
    ∃ m ∈ route.maneuvers phrasebook calculator,
      m.interval = (route.totalPoints, route.totalPoints - 1) := by
  obtain ⟨m, n, hn, hm, htotal⟩ := exists_getLast?_maneuvers phrasebook calculator h
  have hsize : i.line.size = 0 := List.length_eq_zero_iff.mpr hnil
  refine ⟨m, List.mem_of_getElem? hm, ?_⟩
  rw [interval_of_getElem? hm, if_pos hn.symm, ← hn, ← totalPoints_eq, htotal, hsize]
  rfl

/-- **Intervals lie in order exactly when the last instruction has points.** Empty instructions before it
do no harm: their intervals are empty too. -/
theorem tiles_maneuvers_iff (phrasebook : Phrasebook) (calculator : Calculator)
    (hpoints : 0 < route.totalPoints) :
    Maneuver.Tiles (route.maneuvers phrasebook calculator) route.totalPoints ↔
      ∃ last, route.instructions.getLast? = some last ∧ last.line.points ≠ [] := by
  constructor
  · intro htiles
    cases hlast : route.instructions.getLast? with
    | none =>
        rw [totalPoints_eq, List.getLast?_eq_none_iff.mp hlast] at hpoints
        exact absurd hpoints (Nat.lt_irrefl 0)
    | some last =>
        refine ⟨last, rfl, fun hnil => ?_⟩
        obtain ⟨m, hm, hinterval⟩ := interval_of_points_eq_nil hlast hnil
        have hle := htiles.ordered m hm
        rw [hinterval] at hle
        exact absurd hle (Nat.not_le.mpr (Nat.sub_lt hpoints Nat.one_pos))
  · rintro ⟨last, hlast, hne⟩
    exact tiles_of_getLast? phrasebook calculator hlast hne

/-- A route whose last instruction has no points. -/
def deadEnd : Route := ⟨[
  { turn := .straight
    name := ""
    line := .ofPoints false [⟨0, 0, none⟩] },
  { turn := .finish
    name := ""
    line := .ofPoints false [] }]⟩

theorem tiles_maneuvers_iff_deadEnd :
    0 < deadEnd.totalPoints ∧
      (Maneuver.Tiles (deadEnd.maneuvers .keys .plane) deadEnd.totalPoints ↔
        ∃ last, deadEnd.instructions.getLast? = some last ∧ last.line.points ≠ []) :=
  ⟨by decide, tiles_maneuvers_iff .keys .plane (by decide)⟩

/-- **A route that can be built and whose intervals are not in order**: of its one point, the second
maneuver begins behind it and ends at it. -/
theorem not_tiles_deadEnd :
    RouteFile.route .plane ⟨[{ sign := 0, points := [[0, 0]] }, { sign := 4, points := [] }]⟩
        = .ok deadEnd ∧
      0 < deadEnd.totalPoints ∧
      (deadEnd.maneuvers .keys .plane).map (·.interval) = [(0, 1), (1, 0)] ∧
      ¬Maneuver.Tiles (deadEnd.maneuvers .keys .plane) deadEnd.totalPoints := by
  have hintervals : (deadEnd.maneuvers .keys .plane).map (·.interval) = [(0, 1), (1, 0)] := rfl
  refine ⟨rfl, by decide, hintervals, fun htiles => ?_⟩
  have hmem : (1, 0) ∈ (deadEnd.maneuvers .keys .plane).map (·.interval) := by
    rw [hintervals]
    exact List.mem_cons_of_mem _ List.mem_cons_self
  obtain ⟨m, hm, hinterval⟩ := List.mem_map.mp hmem
  have hle := htiles.ordered m hm
  rw [hinterval] at hle
  exact absurd hle (by decide)

/-! ## Intervals and traces -/

/-- **Intervals as places in a trace** that starts at `start`. Times are summed over the maneuvers. -/
structure IndexesTrace (phrasebook : Phrasebook) (calculator : Calculator) (route : Route)
    (start : Milliseconds) (samples : List Sample) (maneuvers : List Maneuver) : Prop where
  /-- There is one maneuver for each instruction, in the same order. -/
  shows : List.Forall₂ (Maneuver.Shows phrasebook) maneuvers route.instructions
  /-- Where an interval begins stands the first sample of its instruction, and those after it follow;
  it is taken at the first point, at the end of the maneuvers before. -/
  begins : ∀ (k : ℕ) (m : Maneuver) (i : Instruction), maneuvers[k]? = some m →
    route.instructions[k]? = some i →
      ∃ departure stop : Milliseconds,
        departure.toNat = start.toNat + total ((maneuvers.take k).map (·.time)) ∧
        i.samples calculator route.instructions[k + 1]? departure
          = .ok ((samples.drop m.interval.1).take i.line.size, stop) ∧
        ∃ sample, samples[m.interval.1]? = some sample ∧ i.line.first? = some sample.point ∧
          sample.time = departure
  /-- An interval ends where the next one begins, at the end of its own maneuver. -/
  ends : ∀ (k : ℕ) (m m' : Maneuver), maneuvers[k]? = some m → maneuvers[k + 1]? = some m' →
    m.interval.2 = m'.interval.1 ∧
      ∃ sample, samples[m.interval.2]? = some sample ∧
        sample.time.toNat = start.toNat + total ((maneuvers.take (k + 1)).map (·.time))
  /-- The last interval ends at the last sample. -/
  last : ∀ m ∈ maneuvers.getLast?, m.interval.2 = samples.length - 1
  /-- No interval runs backwards or leaves the trace. -/
  inside : ∀ m ∈ maneuvers, m.interval.1 ≤ m.interval.2 ∧ m.interval.2 < samples.length

/-- A trace has one sample for each point of its route. -/
theorem length_of_trace (h : route.trace calculator start = .ok samples) :
    samples.length = route.totalPoints :=
  length_of_traceFrom h

/-- **The sample where an instruction begins**: at its first point, at the end of the ones before. -/
theorem exists_getElem?_pointsBefore (h : route.trace calculator start = .ok samples)
    (hi : route.instructions[k]? = some i) :
    ∃ sample, samples[pointsBefore route.instructions k]? = some sample ∧
      i.line.first? = some sample.point ∧
      sample.time.toNat = start.toNat + timeBefore route.instructions k := by
  obtain ⟨p, hp⟩ := Instruction.isSome_first?_of_ne_nil
    (points_ne_nil_of_traceFrom h (List.mem_of_getElem? hi))
  have hpoint : i.line.points[0]? = some p := by
    rw [← List.head?_eq_getElem?]
    exact hp
  obtain ⟨time, hsample, htime⟩ := exists_getElem?_of_traceFrom h hi hpoint
  refine ⟨_, hsample, ?_, ?_⟩
  · rw [hp, Sample.point_at (i.line.uniform p (List.mem_of_getElem? hpoint))]
  · rw [Sample.time_at, htime, List.take_zero, Milliseconds.total_nil, Nat.add_zero]

/-- **The intervals of a route that can be traced are places in its trace.** -/
theorem indexesTrace_maneuvers (phrasebook : Phrasebook)
    (h : route.trace calculator start = .ok samples) :
    IndexesTrace phrasebook calculator route start samples
      (route.maneuvers phrasebook calculator) where
  shows := forall₂_shows_maneuvers ..
  begins k m i hm hi := by
    obtain ⟨departure, stop, hdeparture, hsamples⟩ := exists_samples_of_traceFrom h hi
    obtain ⟨sample, hsample, hfirst, htime⟩ := exists_getElem?_pointsBefore h hi
    rw [total_time_take_maneuvers, interval_of_getElem? hm]
    refine ⟨departure, stop, hdeparture, hsamples, sample, hsample, hfirst, ?_⟩
    rw [← UInt64.toNat_inj, htime, hdeparture]
  ends k m m' hm hm' := by
    obtain ⟨i, hi, -⟩ := exists_of_getElem?_maneuvers hm'
    obtain ⟨sample, hsample, -, htime⟩ := exists_getElem?_pointsBefore h hi
    have hjoined := interval_succ_of_getElem? hm hm'
    refine ⟨hjoined, sample, ?_, ?_⟩
    · rw [hjoined, interval_of_getElem? hm']
      exact hsample
    · rw [htime, total_time_take_maneuvers]
  last m hm := by
    rw [Option.mem_def, List.getLast?_eq_getElem?] at hm
    have hpos : (route.maneuvers phrasebook calculator).length - 1 + 1
        = route.instructions.length := by
      have hlt := (List.getElem?_eq_some_iff.mp hm).1
      rw [← length_maneuvers phrasebook calculator]
      omega
    rw [interval_of_getElem? hm, if_pos hpos, hpos, ← totalPoints_eq, length_of_trace h]
  inside m hm := by
    obtain ⟨k, hk⟩ := List.mem_iff_getElem?.mp hm
    obtain ⟨i, hi, -⟩ := exists_of_getElem?_maneuvers hk
    have hne : route.instructions ≠ [] := List.ne_nil_of_mem (List.mem_of_getElem? hi)
    have htiles := tiles_of_getLast? phrasebook calculator (List.getLast?_eq_some_getLast hne)
      (points_ne_nil_of_traceFrom h (List.getLast_mem hne))
    obtain ⟨sample, hsample, -⟩ := exists_getElem?_pointsBefore h hi
    have hlt := (List.getElem?_eq_some_iff.mp hsample).1
    have hinside := htiles.inside m hm
    rw [← length_of_trace h] at hinside
    exact ⟨htiles.ordered m hm, by omega⟩

theorem indexesTrace_maneuvers_threeLegs :
    threeLegs.trace .plane 500 = .ok threeLegsSamples ∧
      IndexesTrace .keys .plane threeLegs 500 threeLegsSamples
        (threeLegs.maneuvers .keys .plane) :=
  have h : threeLegs.trace .plane 500 = .ok threeLegsSamples := by decide +kernel
  ⟨h, indexesTrace_maneuvers .keys h⟩

end Route

end TurnByTurn
