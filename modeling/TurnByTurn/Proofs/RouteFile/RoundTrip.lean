import TurnByTurn.Proofs.Json.Writing
import TurnByTurn.Proofs.RouteFile.Shapes
import TurnByTurn.RouteFile.Writer

/-! # Reading what was written

The text that is written for a route is read as this route, as long as its doubles are finite and each of them
is read back: JSON has no numbers for what is not finite, and numbers of many digits may be read as another double.

* **`RouteFile.doubles`** — the doubles of a route.
* **`RouteFile.IsFinite`** — routes whose doubles are finite.
* **`Json.Value.Says.isOptional`**, **`Json.Value.Says.isArrayOf`** — what is written for options and lists.
* **`RouteFile.Entry.isEntry_of_json`** — what is written for an entry stands for it.
* **`RouteFile.read_write`** — a route is read back from its text. -/

namespace TurnByTurn

open Json (Node Value HasKeys IsDocument ReadsBack)

variable {α : Type} {t : Node} {Means : Node → α → Prop} {write : α → Value}

/-! ## Values -/

namespace Json.Value.Says

theorem isInt32 {n : Int32} (h : (Value.integer n.toInt).Says t) : t.IsInt32 n := by
  cases h with
  | integer hl => exact ⟨_, rfl, hl⟩

theorem isNatural64 {n : UInt64} (h : (Value.integer n.toNat).Says t) : t.IsNatural64 n := by
  cases h with
  | integer hl => exact ⟨_, rfl, hl⟩

theorem isText {s : String} (h : (Value.text s).Says t) : t.IsText s := by
  cases h
  rfl

/-- A double that is read back stands for itself. -/
theorem isDouble {x : Float} (hx : x.isFinite = true) (hback : ReadsBack x) (h : (Value.real x).Says t) :
    t.IsDouble x := by
  cases h with
  | real hspells _ => exact ⟨_, rfl, (readAgain?_of_spells hspells).symm.trans hback⟩
  | notFinite hx' =>
      rw [hx] at hx'
      cases hx'

/-- What is absent is written as `null`. -/
theorem isOptional {o : Option α} (hwrite : ∀ a ∈ o, ∀ t, (write a).Says t → Means t a)
    (h : (Value.ofOption write o).Says t) : t.IsOptional Means o := by
  cases o with
  | none =>
      cases h
      rfl
  | some a => exact hwrite a rfl t h

/-- A list is written element by element. -/
theorem isArrayOf {as : List α} (hwrite : ∀ a ∈ as, ∀ t, (write a).Says t → Means t a)
    (h : (Value.array (as.map write)).Says t) : t.IsArrayOf Means as := by
  cases h with
  | @array _ ts hts =>
      refine ⟨ts, rfl, ?_⟩
      induction as generalizing ts with
      | nil =>
          cases hts
          exact .nil
      | cons a as ih =>
          cases hts with
          | cons ha hrest =>
              exact .cons (hwrite a List.mem_cons_self _ ha)
                (ih (fun a' ha' => hwrite a' (List.mem_cons_of_mem _ ha')) hrest)

end Json.Value.Says

/-! ## Notes and entries -/

/-- **What is written for a note stands for it.** -/
theorem Note.isNote_of_json {note : Note} (h : note.json.Says t) : t.IsNote note := by
  cases h with
  | object hfields =>
      cases hfields with
      | cons himportance hfields =>
          cases hfields with
          | cons hmessage hfields =>
              cases hfields
              exact ⟨_, rfl, ⟨by simp, by simp⟩, .inl ⟨_, by simp, himportance.isInt32⟩,
                .inl ⟨_, by simp, hmessage.isText⟩⟩

namespace RouteFile

/-- The doubles of an entry. -/
def Entry.doubles (entry : Entry) : List Float := entry.points.flatten ++ entry.distance.toList

/-- **The doubles of a route**: coordinates and distances. -/
def doubles (file : RouteFile) : List Float := file.entries.flatMap Entry.doubles

/-- **A route with finite doubles.** -/
def IsFinite (file : RouteFile) : Prop := ∀ x ∈ file.doubles, x.isFinite = true

instance (file : RouteFile) : Decidable file.IsFinite :=
  inferInstanceAs (Decidable (∀ x ∈ file.doubles, x.isFinite = true))

/-- **What is written for an entry stands for it.** -/
theorem Entry.isEntry_of_json {entry : Entry}
    (hdouble : ∀ x ∈ entry.doubles, ∀ t, (Value.real x).Says t → t.IsDouble x) (h : entry.json.Says t) :
    t.IsEntry entry := by
  cases h with
  | object hfields =>
      obtain _ | ⟨hsign, hfields⟩ := hfields
      obtain _ | ⟨hname, hfields⟩ := hfields
      obtain _ | ⟨hviaPosition, hfields⟩ := hfields
      obtain _ | ⟨hnote, hfields⟩ := hfields
      obtain _ | ⟨hpoints, hfields⟩ := hfields
      obtain _ | ⟨hdistance, hfields⟩ := hfields
      obtain _ | ⟨htime, hfields⟩ := hfields
      cases hfields
      have hviaPosition' : Node.IsOptional Node.IsNatural64 _ entry.viaPosition :=
        hviaPosition.isOptional fun _ _ _ h => h.isNatural64
      have hnote' : Node.IsOptional Node.IsNote _ entry.note :=
        hnote.isOptional fun _ _ _ h => Note.isNote_of_json h
      have hpoints' : Node.IsArrayOf (Node.IsArrayOf Node.IsDouble) _ entry.points :=
        hpoints.isArrayOf fun point hpoint _ h =>
          h.isArrayOf fun x hx => hdouble x (by
            rw [doubles, List.mem_append, List.mem_flatten]
            exact .inl ⟨point, hpoint, hx⟩)
      have hdistance' : Node.IsOptional Node.IsDouble _ entry.distance :=
        hdistance.isOptional fun x hx => hdouble x (by
          rw [doubles, List.mem_append, Option.mem_toList]
          exact .inr hx)
      exact ⟨_, rfl, ⟨by simp, by simp⟩, ⟨_, by simp, hsign.isInt32⟩, .inl ⟨_, by simp, hname.isText⟩,
        .inl ⟨_, by simp, hviaPosition'⟩, .inl ⟨_, by simp, hnote'⟩, ⟨_, by simp, hpoints'⟩,
        .inl ⟨_, by simp, hdistance'⟩, .inl ⟨_, by simp, htime.isNatural64⟩⟩

/-- **What is written for a route stands for it.** -/
theorem isRoute_of_json {file : RouteFile} (hfinite : file.IsFinite)
    (hback : ∀ x ∈ file.doubles, x.isFinite = true → ReadsBack x) (h : file.json.Says t) : t.IsRoute file := by
  have hdouble (x : Float) (hx : x ∈ file.doubles) (t : Node) (h : (Value.real x).Says t) : t.IsDouble x :=
    h.isDouble (hfinite x hx) (hback x hx (hfinite x hx))
  cases h with
  | object hfields =>
      cases hfields with
      | cons hentries hfields =>
          cases hfields
          exact ⟨_, rfl, ⟨by simp, by simp⟩, _, by simp,
            hentries.isArrayOf fun entry hentry _ h => Entry.isEntry_of_json (fun x hx => hdouble x
              (List.mem_flatMap.mpr ⟨entry, hentry, hx⟩)) h⟩

/-- A text that says what is written for a route is read as this route. -/
theorem read_of_json {file : RouteFile} {text : String} (hfinite : file.IsFinite)
    (hback : ∀ x ∈ file.doubles, x.isFinite = true → ReadsBack x) (hdocument : IsDocument t text.toList)
    (hmeans : file.json.Says t) : read text = .ok file := by
  have hroute := isRoute_of_json hfinite hback hmeans
  exact (read_eq_ok_iff hdocument hroute.isInObjects).mpr hroute

/-- **A route is read back from its text**, field by field, be it written without blanks or on lines, if each of its
finite doubles is. -/
theorem read_write {file : RouteFile} (h : file.IsFinite)
    (hback : ∀ x ∈ file.doubles, x.isFinite = true → ReadsBack x) :
    read file.write = .ok file ∧ read file.json.pretty = .ok file := by
  obtain ⟨t, hdocument, hmeans⟩ := Json.exists_isDocument_compact file.json
  obtain ⟨t', hdocument', hmeans'⟩ := Json.exists_isDocument_pretty file.json
  exact ⟨read_of_json h hback hdocument hmeans, read_of_json h hback hdocument' hmeans'⟩

/-- A route with names to escape, numbers at their limits, and fields that are absent. -/
def overTheBorder : RouteFile := ⟨[
  { sign := -2147483648, name := "Rue de l’Étang \"Nord\"\n\u0001", viaPosition := some 18446744073709551615,
    note := some ⟨2147483647, "\\"⟩, points := [[4.5, -0.0, 1e300], [], [5e-324]], distance := some 0.1,
    time := 18446744073709551615 },
  { sign := 4, points := [] }]⟩

theorem read_write_overTheBorder :
    overTheBorder.IsFinite ∧ (∀ x ∈ overTheBorder.doubles, x.isFinite = true → ReadsBack x) ∧
      (read overTheBorder.write = .ok overTheBorder ∧
        read overTheBorder.json.pretty = .ok overTheBorder) :=
  have hfinite : overTheBorder.IsFinite := by decide +kernel
  have hback : ∀ x ∈ overTheBorder.doubles, x.isFinite = true → ReadsBack x := by decide +kernel
  ⟨hfinite, hback, read_write hfinite hback⟩

end RouteFile

end TurnByTurn
