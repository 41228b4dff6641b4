import TurnByTurn.Proofs.Json.Order
import TurnByTurn.Proofs.Json.Writing
import TurnByTurn.Proofs.RouteFile.Shapes

/-! # Which texts are route files

A text is a route file if its objects have the keys that they may have, each at most once, those that
they must have, and values of the right kinds. The order of the keys does not matter.

* **`Node.IsIntegerWithin`**, **`Node.IsNumber`** — values of the right kinds.
* **`Note.Fits`**, **`RouteFile.Entry.Fits`**, **`Node.FitsRoute`** — the objects from which notes, entries
  and routes are read.
* **`RouteFile.read_spec`** — which texts are route files, and what is read from them. -/

namespace TurnByTurn

open Json (Node HasKeys Holds HoldsOr IsDocument Reordered Respects)

variable {t u : Node} {ms : List (String × Node)} {key : String} {keys : List String}

/-! ## Values -/

namespace Json.Node

variable {α : Type} {Means : Node → α → Prop}

/-- **An integer within bounds**, written without fraction and exponent. -/
def IsIntegerWithin (low high : ℤ) (t : Node) : Prop :=
  ∃ l n, t = .number l ∧ l.IsInteger n ∧ low ≤ n ∧ n ≤ high

/-- **A number that is read as a double**, as it is not beyond all of them. -/
def IsNumber (t : Node) : Prop := ∃ l, t = .number l ∧ l.double?.isSome

theorem exists_isInt32_iff : (∃ n, t.IsInt32 n) ↔ t.IsIntegerWithin (-2 ^ 31) (2 ^ 31 - 1) := by
  constructor
  · rintro ⟨n, l, rfl, hl⟩
    have hlow := n.le_toInt
    have hhigh := n.toInt_lt
    exact ⟨l, _, rfl, hl, hlow, by omega⟩
  · rintro ⟨l, n, rfl, hl, hlow, hhigh⟩
    refine ⟨.ofInt n, l, rfl, ?_⟩
    rwa [Int32.toInt_ofInt_of_le hlow (by omega)]

theorem exists_isNatural64_iff : (∃ n, t.IsNatural64 n) ↔ t.IsIntegerWithin 0 (2 ^ 64 - 1) := by
  constructor
  · rintro ⟨n, l, rfl, hl⟩
    have hhigh := n.toNat_lt
    exact ⟨l, _, rfl, hl, by omega, by omega⟩
  · rintro ⟨l, n, rfl, hl, hlow, hhigh⟩
    refine ⟨.ofNat n.toNat, l, rfl, ?_⟩
    rwa [UInt64.toNat_ofNat', Nat.mod_eq_of_lt (by omega), Int.toNat_of_nonneg hlow]

theorem exists_isDouble_iff : (∃ x, t.IsDouble x) ↔ t.IsNumber := by
  simp only [IsDouble, IsNumber, Option.isSome_iff_exists]
  constructor
  · rintro ⟨x, l, rfl, hx⟩
    exact ⟨l, rfl, x, hx⟩
  · rintro ⟨l, rfl, x, hx⟩
    exact ⟨x, l, rfl, hx⟩

theorem exists_isOptional_iff : (∃ o, t.IsOptional Means o) ↔ t = .null ∨ ∃ a, Means t a := by
  constructor
  · rintro ⟨_ | a, ho⟩
    · exact .inl ho
    · exact .inr ⟨a, ho⟩
  · rintro (hnull | ⟨a, ha⟩)
    · exact ⟨none, hnull⟩
    · exact ⟨some a, ha⟩

theorem exists_isArrayOf_iff :
    (∃ as, t.IsArrayOf Means as) ↔ ∃ ts, t = .array ts ∧ ∀ x ∈ ts, ∃ a, Means x a := by
  simp only [IsArrayOf, ← Json.exists_forall₂_iff]
  constructor
  · rintro ⟨as, ts, rfl, has⟩
    exact ⟨ts, rfl, as, has⟩
  · rintro ⟨ts, rfl, as, has⟩
    exact ⟨as, ts, rfl, has⟩

theorem exists_holds_iff :
    (∃ a, Holds ms key Means a) ↔ ∃ x, (key, x) ∈ ms ∧ ∃ a, Means x a := by
  constructor
  · rintro ⟨a, x, hx, ha⟩
    exact ⟨x, hx, a, ha⟩
  · rintro ⟨x, hx, a, ha⟩
    exact ⟨a, x, hx, ha⟩

theorem exists_holdsOr_iff {default : α} (hkeys : HasKeys keys ms) :
    (∃ a, HoldsOr default ms key Means a) ↔ ∀ x, (key, x) ∈ ms → ∃ a, Means x a := by
  constructor
  · rintro ⟨a, ha⟩ x hx
    exact ⟨a, ha.of_mem hkeys hx⟩
  · intro h
    by_cases hx : ∃ x, (key, x) ∈ ms
    · obtain ⟨x, hx⟩ := hx
      obtain ⟨a, ha⟩ := h x hx
      exact ⟨a, .inl ⟨x, hx, ha⟩⟩
    · exact ⟨default, .inr ⟨not_exists.mp hx, rfl⟩⟩

end Json.Node

/-! ## Objects -/

/-- **The members from which a note is read**: two keys, each at most once, an integer of 32 bits and a
string. -/
structure Note.Fits (ms : List (String × Node)) : Prop where
  keys : HasKeys ["importance", "message"] ms
  importance : ∀ x, ("importance", x) ∈ ms → x.IsIntegerWithin (-2 ^ 31) (2 ^ 31 - 1)
  message : ∀ x, ("message", x) ∈ ms → ∃ s, x = .text s

theorem Note.fits_iff : Note.Fits ms ↔ ∃ note : Note, note.IsWrittenAs ms := by
  constructor
  · rintro ⟨hkeys, himportance, hmessage⟩
    simp only [← Node.exists_isInt32_iff] at himportance
    obtain ⟨importance, himportance⟩ := (Node.exists_holdsOr_iff hkeys).mpr himportance
    obtain ⟨message, hmessage⟩ := (Node.exists_holdsOr_iff hkeys).mpr hmessage
    exact ⟨⟨importance, message⟩, hkeys, himportance, hmessage⟩
  · rintro ⟨note, hkeys, himportance, hmessage⟩
    refine ⟨hkeys, fun x hx => ?_, (Node.exists_holdsOr_iff hkeys).mp ⟨_, hmessage⟩⟩
    exact Node.exists_isInt32_iff.mp ⟨_, himportance.of_mem hkeys hx⟩

theorem Json.Node.exists_isNote_iff :
    (∃ note, t.IsNote note) ↔ ∃ fields, t = .object fields ∧ Note.Fits fields := by
  simp only [Note.fits_iff, IsNote]
  constructor
  · rintro ⟨note, fields, rfl, hnote⟩
    exact ⟨fields, rfl, note, hnote⟩
  · rintro ⟨fields, rfl, note, hnote⟩
    exact ⟨note, fields, rfl, hnote⟩

namespace RouteFile

/-- **The members from which an entry is read**: seven keys, each at most once, of which sign and points
must be there. -/
structure Entry.Fits (ms : List (String × Node)) : Prop where
  keys : HasKeys ["sign", "name", "via_position", "annotation", "points", "distance", "time"] ms
  sign : ∃ x, ("sign", x) ∈ ms ∧ x.IsIntegerWithin (-2 ^ 31) (2 ^ 31 - 1)
  name : ∀ x, ("name", x) ∈ ms → ∃ s, x = .text s
  viaPosition : ∀ x, ("via_position", x) ∈ ms → x = .null ∨ x.IsIntegerWithin 0 (2 ^ 64 - 1)
  note : ∀ x, ("annotation", x) ∈ ms → x = .null ∨ ∃ fields, x = .object fields ∧ Note.Fits fields
  points : ∃ x, ("points", x) ∈ ms ∧ ∃ points, x = .array points ∧
    ∀ point ∈ points, ∃ cs, point = .array cs ∧ ∀ coordinate ∈ cs, coordinate.IsNumber
  distance : ∀ x, ("distance", x) ∈ ms → x = .null ∨ x.IsNumber
  time : ∀ x, ("time", x) ∈ ms → x.IsIntegerWithin 0 (2 ^ 64 - 1)

theorem Entry.fits_iff : Entry.Fits ms ↔ ∃ entry : Entry, entry.IsWrittenAs ms := by
  constructor
  · rintro ⟨hkeys, hsign, hname, hviaPosition, hnote, hpoints, hdistance, htime⟩
    simp only [← Node.exists_isInt32_iff, ← Node.exists_isNatural64_iff, ← Node.exists_isDouble_iff,
      ← Node.exists_isNote_iff, ← Node.exists_isOptional_iff, ← Node.exists_isArrayOf_iff]
      at hsign hviaPosition hnote hpoints hdistance htime
    obtain ⟨sign, hsign⟩ := Node.exists_holds_iff.mpr hsign
    obtain ⟨name, hname⟩ := (Node.exists_holdsOr_iff hkeys).mpr hname
    obtain ⟨viaPosition, hviaPosition⟩ := (Node.exists_holdsOr_iff hkeys).mpr hviaPosition
    obtain ⟨note, hnote⟩ := (Node.exists_holdsOr_iff hkeys).mpr hnote
    obtain ⟨points, hpoints⟩ := Node.exists_holds_iff.mpr hpoints
    obtain ⟨distance, hdistance⟩ := (Node.exists_holdsOr_iff hkeys).mpr hdistance
    obtain ⟨time, htime⟩ := (Node.exists_holdsOr_iff hkeys).mpr htime
    exact ⟨⟨sign, name, viaPosition, note, points, distance, time⟩, hkeys, hsign, hname, hviaPosition,
      hnote, hpoints, hdistance, htime⟩
  · rintro ⟨entry, h⟩
    refine ⟨h.keys, ?_, (Node.exists_holdsOr_iff h.keys).mp ⟨_, h.name⟩, ?_, ?_, ?_, ?_, ?_⟩ <;>
    simp only [← Node.exists_isInt32_iff, ← Node.exists_isNatural64_iff, ← Node.exists_isDouble_iff,
      ← Node.exists_isNote_iff, ← Node.exists_isOptional_iff, ← Node.exists_isArrayOf_iff]
    · exact Node.exists_holds_iff.mp ⟨_, h.sign⟩
    · exact (Node.exists_holdsOr_iff h.keys).mp ⟨_, h.viaPosition⟩
    · exact (Node.exists_holdsOr_iff h.keys).mp ⟨_, h.note⟩
    · exact Node.exists_holds_iff.mp ⟨_, h.points⟩
    · exact (Node.exists_holdsOr_iff h.keys).mp ⟨_, h.distance⟩
    · exact (Node.exists_holdsOr_iff h.keys).mp ⟨_, h.time⟩

end RouteFile

theorem Json.Node.exists_isEntry_iff :
    (∃ entry, t.IsEntry entry) ↔ ∃ fields, t = .object fields ∧ RouteFile.Entry.Fits fields := by
  simp only [RouteFile.Entry.fits_iff, IsEntry]
  constructor
  · rintro ⟨entry, fields, rfl, hentry⟩
    exact ⟨fields, rfl, entry, hentry⟩
  · rintro ⟨fields, rfl, entry, hentry⟩
    exact ⟨entry, fields, rfl, hentry⟩

/-- **The trees from which a route is read**: an object of which the only member is an array of entries. -/
def Json.Node.FitsRoute (t : Node) : Prop :=
  ∃ es, t = .object [("instructions", .array es)] ∧
    ∀ e ∈ es, ∃ ms, e = .object ms ∧ RouteFile.Entry.Fits ms

/-- An object that has only one key, and has it, has one member. -/
theorem Json.HasKeys.eq_singleton {x : Node} (h : HasKeys [key] ms) (hx : (key, x) ∈ ms) :
    ms = [(key, x)] := by
  have hall : ∀ m ∈ ms, m = (key, x) := by
    rintro ⟨key', y⟩ hy
    obtain rfl : key' = key := List.mem_singleton.mp (h.known _ hy)
    rw [h.eq_of_mem hy hx]
  cases ms with
  | nil => cases hx
  | cons m ms =>
      cases ms with
      | nil => rw [hall m List.mem_cons_self]
      | cons m' ms =>
          have hnodup := h.nodup
          rw [hall m List.mem_cons_self, hall m' (by simp)] at hnodup
          simp at hnodup

theorem Json.Node.fitsRoute_iff : t.FitsRoute ↔ ∃ file, t.IsRoute file := by
  simp only [FitsRoute, ← exists_isEntry_iff, ← Json.exists_forall₂_iff]
  constructor
  · rintro ⟨es, rfl, entries, hall⟩
    exact ⟨⟨entries⟩, _, rfl, ⟨by simp, by simp⟩, _, List.mem_cons_self, es, rfl, hall⟩
  · rintro ⟨file, ms, rfl, hkeys, x, hx, es, rfl, hall⟩
    exact ⟨es, by rw [hkeys.eq_singleton hx], file.entries, hall⟩

/-! ## The order of the keys -/

theorem Json.Node.isNote_respects : Respects Node.IsNote := by
  rintro t u note h ⟨ms, rfl, hkeys, himportance, hmessage⟩
  obtain ⟨ns, rfl⟩ := h.exists_object
  exact ⟨ns, rfl, h.hasKeys hkeys, isInt32_respects.holdsOr h himportance,
    isText_respects.holdsOr h hmessage⟩

theorem Json.Node.isEntry_respects : Respects Node.IsEntry := by
  rintro t u entry h ⟨ms, rfl, hentry⟩
  obtain ⟨ns, rfl⟩ := h.exists_object
  exact ⟨ns, rfl, h.hasKeys hentry.keys, isInt32_respects.holds h hentry.sign,
    isText_respects.holdsOr h hentry.name,
    isNatural64_respects.isOptional.holdsOr h hentry.viaPosition,
    isNote_respects.isOptional.holdsOr h hentry.note,
    isDouble_respects.isArrayOf.isArrayOf.holds h hentry.points,
    isDouble_respects.isOptional.holdsOr h hentry.distance, isNatural64_respects.holdsOr h hentry.time⟩

theorem Json.Node.isRoute_respects : Respects Node.IsRoute := by
  rintro t u file h ⟨ms, rfl, hkeys, hentries⟩
  obtain ⟨ns, rfl⟩ := h.exists_object
  exact ⟨ns, rfl, h.hasKeys hkeys, isEntry_respects.isArrayOf.holds h hentries⟩

/-! ## Texts -/

namespace RouteFile

/-- The tree of a route that only arrives, with the points before the sign. -/
def arrivalTree : Node :=
  .object [("instructions",
    .array [.object [("points", .array []), ("sign", .number ⟨false, ['4'], [], none⟩)]])]

/-- A text of this tree. -/
def arrivalText : String := "\x7b\"instructions\": [\x7b\"points\":[],\"sign\": 4\x7d]\x7d\n"

theorem isDocument_arrival : IsDocument arrivalTree arrivalText.toList := by
  have hspace : Json.AreBlanks [' '] := by simp [Json.AreBlanks]
  have hline : Json.AreBlanks ['\n'] := by simp [Json.AreBlanks]
  have hnone := Json.areBlanks_nil
  have hfour : Json.Spells (.number ⟨false, ['4'], [], none⟩) ['4'] :=
    .number (.mk false (areWholeDigits_digits 4) .absent .absent)
  have hpoints := Json.SpellsMember.mk hnone (Json.spellsText_textChars "points") hnone hnone
    (.array (.nil hnone))
  have hsign := Json.SpellsMember.mk hnone (Json.spellsText_textChars "sign") hnone hspace hfour
  have hentry := Json.Spells.object (.cons hpoints hnone (.last hsign hnone))
  have hentries := Json.SpellsMember.mk hnone (Json.spellsText_textChars "instructions") hnone hspace
    (.array (.last hnone hentry hnone))
  exact .mk hnone (.object (.last hentries hnone)) hline

theorem isInObjects_arrival : arrivalTree.IsInObjects where
  route := by simp [arrivalTree]
  entries := by
    rintro ms ts ⟨⟩ hts
    obtain rfl : ts = _ := by simpa using hts
    simp
  notes := by
    rintro ms ts ⟨⟩ hts
    obtain rfl : ts = _ := by simpa using hts
    simp

end RouteFile

end TurnByTurn
