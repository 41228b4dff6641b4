import TurnByTurn.Command.Trace
import TurnByTurn.Proofs.RouteFile.RoundTrip

/-! # What is written for a trace

A trace is written as an array of objects, one for each sample in order. Their times are whole numbers of up to
64 bits, which JSON keeps exactly.

* **`Node.IsSample`** — the trees that stand for a sample.
* **`Command.isArrayOf_of_traceJson`** — what is written for a trace without departure stands for its samples. -/

namespace TurnByTurn

open Json (Node Value HasKeys Holds Tells)

variable {t : Node}

/-- **A tree that stands for a double**: a number to which it is nearest. JSON has no number for what is not
finite. -/
def Json.Node.IsReal (t : Node) (x : Float) : Prop :=
  (∃ l, t = .number l ∧ l.nearest? = some x) ∨ x.isFinite = false ∧ t = .null

/-- What is written for a double stands for it. -/
theorem Json.Value.Says.isReal {x : Float} (h : (Value.real x).Says t) : t.IsReal x := by
  cases h with
  | real _ hl => exact .inl ⟨_, rfl, hl⟩
  | notFinite hx => exact .inr ⟨hx, rfl⟩

/-! ## Samples -/

/-- **The members of an object that stands for a sample.** Only in three dimensions there is an elevation, and
there is nothing else. -/
structure Sample.IsWrittenAs (sample : Sample) (ms : List (String × Node)) : Prop where
  keys : HasKeys ["lat", "lon", "ele", "time"] ms
  latitude : Holds ms "lat" Node.IsReal sample.latitude
  longitude : Holds ms "lon" Node.IsReal sample.longitude
  elevation : Tells ms "ele" Node.IsReal sample.elevation
  time : Holds ms "time" Node.IsNatural64 sample.time

/-- **A tree that stands for a sample.** -/
def Json.Node.IsSample (t : Node) (sample : Sample) : Prop := ∃ ms, t = .object ms ∧ sample.IsWrittenAs ms

/-- **What is written for a sample stands for it.** -/
theorem Sample.isSample_of_json {sample : Sample} (h : sample.json.Says t) : t.IsSample sample := by
  obtain ⟨latitude, longitude, elevation, time⟩ := sample
  cases h with
  | object hfields =>
      obtain _ | ⟨hlatitude, hfields⟩ := hfields
      obtain _ | ⟨hlongitude, hfields⟩ := hfields
      cases elevation with
      | none =>
          obtain _ | ⟨htime, hfields⟩ := hfields
          cases hfields
          exact ⟨_, rfl, ⟨by simp, by simp⟩, ⟨_, by simp, hlatitude.isReal⟩, ⟨_, by simp, hlongitude.isReal⟩,
            by simp [Tells], ⟨_, by simp, htime.isNatural64⟩⟩
      | some elevation =>
          obtain _ | ⟨helevation, hfields⟩ := hfields
          obtain _ | ⟨htime, hfields⟩ := hfields
          cases hfields
          exact ⟨_, rfl, ⟨by simp, by simp⟩, ⟨_, by simp, hlatitude.isReal⟩, ⟨_, by simp, hlongitude.isReal⟩,
            ⟨_, by simp, helevation.isReal⟩, ⟨_, by simp, htime.isNatural64⟩⟩

/-! ## Traces -/

namespace Command

/-- A sample as it is written without departure. -/
def untimed (sample : Sample) : TimedSample := ⟨sample, none⟩

/-- Without departure a sample is written as itself. -/
theorem json_untimed (sample : Sample) : (untimed sample).json = sample.json :=
  congrArg Value.object (List.append_nil sample.fields)

/-- **What is written for a trace without departure stands for its samples.** -/
theorem isArrayOf_of_traceJson {samples : List Sample} (h : (traceJson (samples.map untimed)).Says t) :
    t.IsArrayOf Node.IsSample samples := by
  rw [traceJson, List.map_map] at h
  refine h.isArrayOf fun sample _ t hsays => Sample.isSample_of_json ?_
  rwa [← json_untimed]

end Command

end TurnByTurn
