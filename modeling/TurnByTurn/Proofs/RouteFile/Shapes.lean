import TurnByTurn.Proofs.Json.Records
import TurnByTurn.RouteFile.Reader

/-! # What the text of a route file says

The tree of a route file is an object of objects. Each of them says the same whatever the order of its
members, and a field that is missing says its default.

* **`Note.IsWrittenAs`**, **`RouteFile.Entry.IsWrittenAs`** — the objects that stand for a note and for an
  entry.
* **`Node.IsNote`**, **`Node.IsEntry`**, **`Node.IsRoute`** — the trees that stand for them, and for a
  route.
* **`Node.IsInObjects`** — trees in which routes, entries and notes are no arrays.
* **`RouteFile.read_eq_ok_iff`** — a text is read as the route that its tree stands for. -/

namespace TurnByTurn

open Json (Node Slot HasKeys Holds HoldsOr Tells Decoder IsDocument)
open Json.Record (Collects HasSlots reads_of_collects_iff)

variable {t : Node} {ms : List (String × Node)}

/-! ## Notes -/

namespace Note

variable {note note' : Note}

/-- The slots of a note. -/
def slots : List (Slot Draft) := [
  ⟨Int32, "importance", true, .int32, (·.importance),
    fun a draft => { draft with importance := some a }, Node.IsInt32⟩,
  ⟨String, "message", true, .string, (·.message),
    fun a draft => { draft with message := some a }, Node.IsText⟩]

theorem record_hasSlots : record.HasSlots slots where
  strict := rfl
  fields_eq := rfl
  nodup := by decide
  get_blank := by simp [slots, record]
  get_set := by simp [slots]
  get_set_of_ne := by simp [slots]

/-- **The members of an object that stands for a note.** Both may be missing. -/
structure IsWrittenAs (note : Note) (ms : List (String × Node)) : Prop where
  keys : HasKeys ["importance", "message"] ms
  importance : HoldsOr 0 ms "importance" Node.IsInt32 note.importance
  message : HoldsOr "" ms "message" Node.IsText note.message

theorem IsWrittenAs.unique (h : note.IsWrittenAs ms) (h' : note'.IsWrittenAs ms) : note = note' := by
  obtain ⟨importance, message⟩ := note
  obtain ⟨importance', message'⟩ := note'
  obtain rfl : importance = importance' :=
    h.importance.unique Node.isInt32_unique h.keys h'.importance
  obtain rfl : message = message' := h.message.unique Node.isText_unique h.keys h'.message
  rfl

/-- What the members of an object collect is the note that they stand for. -/
theorem isWrittenAs_of_collects {final : Draft} (h : Collects slots record.blank ms final)
    (hfinish : record.finish final = .ok note) : note.IsWrittenAs ms := by
  obtain rfl := Except.ok.inj hfinish
  have htells := h.forall_tells record_hasSlots
  simp only [slots, List.forall_mem_cons] at htells
  obtain ⟨himportance, hmessage, -⟩ := htells
  exact ⟨h.hasKeys record_hasSlots, himportance.holdsOr, hmessage.holdsOr⟩

/-- **The members of an object collect a note exactly if they stand for it.** -/
theorem collects_iff :
    (∃ final, Collects slots record.blank ms final ∧ record.finish final = .ok note) ↔
      note.IsWrittenAs ms := by
  constructor
  · rintro ⟨final, hcollects, hfinish⟩
    exact isWrittenAs_of_collects hcollects hfinish
  · intro h
    have hmeans : ∀ slot ∈ slots, ∀ t, (slot.key, t) ∈ ms → ∃ b, slot.Means t b := by
      simp only [slots, List.forall_mem_cons]
      exact ⟨fun t ht => ⟨_, h.importance.of_mem h.keys ht⟩, fun t ht => ⟨_, h.message.of_mem h.keys ht⟩,
        by simp⟩
    obtain ⟨final, hfinal⟩ := Json.Record.exists_collects record_hasSlots h.keys hmeans
    exact ⟨final, hfinal, congrArg _ ((isWrittenAs_of_collects hfinal rfl).unique h)⟩

end Note

/-- **A tree that stands for a note.** -/
def Json.Node.IsNote (t : Node) (note : Note) : Prop := ∃ ms, t = .object ms ∧ note.IsWrittenAs ms

theorem Json.Node.isNote_unique : Relator.RightUnique Node.IsNote := by
  rintro t note note' ⟨ms, rfl, h⟩ ⟨ms', hms, h'⟩
  cases hms
  exact h.unique h'

/-- **A note is read from the objects that stand for it.** -/
theorem Note.reads (harray : ∀ ts, t ≠ .array ts) : Note.record.decoder.Reads t t.IsNote := by
  refine reads_of_collects_iff record_hasSlots harray (fun _ _ => collects_iff) fun ms _ => ?_
  simp only [slots, List.forall_mem_cons]
  exact ⟨fun t _ => Decoder.reads_int32, fun t _ => Decoder.reads_string, by simp⟩

/-! ## Entries -/

namespace RouteFile

namespace Entry

variable {entry entry' : Entry}

/-- The slots of an entry. -/
def slots : List (Slot Draft) := [
  ⟨Int32, "sign", false, .int32, (·.sign), fun a draft => { draft with sign := some a }, Node.IsInt32⟩,
  ⟨String, "name", true, .string, (·.name), fun a draft => { draft with name := some a }, Node.IsText⟩,
  ⟨Option UInt64, "via_position", false, .optional (.natural64 "usize"), (·.viaPosition),
    fun a draft => { draft with viaPosition := some a }, Node.IsOptional Node.IsNatural64⟩,
  ⟨Option Note, "annotation", false, .optional Note.record.decoder, (·.note),
    fun a draft => { draft with note := some a }, Node.IsOptional Node.IsNote⟩,
  ⟨List (List Float), "points", false, .array (.array .double), (·.points),
    fun a draft => { draft with points := some a }, Node.IsArrayOf (Node.IsArrayOf Node.IsDouble)⟩,
  ⟨Option Float, "distance", false, .optional .double, (·.distance),
    fun a draft => { draft with distance := some a }, Node.IsOptional Node.IsDouble⟩,
  ⟨Milliseconds, "time", true, .natural64 "u64", (·.time),
    fun a draft => { draft with time := some a }, Node.IsNatural64⟩]

theorem record_hasSlots : record.HasSlots slots where
  strict := rfl
  fields_eq := rfl
  nodup := by decide
  get_blank := by simp [slots, record]
  get_set := by simp [slots]
  get_set_of_ne := by simp [slots]

/-- **The members of an object that stands for an entry.** Sign and points must be there. -/
structure IsWrittenAs (entry : Entry) (ms : List (String × Node)) : Prop where
  keys : HasKeys ["sign", "name", "via_position", "annotation", "points", "distance", "time"] ms
  sign : Holds ms "sign" Node.IsInt32 entry.sign
  name : HoldsOr "" ms "name" Node.IsText entry.name
  viaPosition : HoldsOr none ms "via_position" (Node.IsOptional Node.IsNatural64) entry.viaPosition
  note : HoldsOr none ms "annotation" (Node.IsOptional Node.IsNote) entry.note
  points : Holds ms "points" (Node.IsArrayOf (Node.IsArrayOf Node.IsDouble)) entry.points
  distance : HoldsOr none ms "distance" (Node.IsOptional Node.IsDouble) entry.distance
  time : HoldsOr 0 ms "time" Node.IsNatural64 entry.time

theorem IsWrittenAs.unique (h : entry.IsWrittenAs ms) (h' : entry'.IsWrittenAs ms) : entry = entry' := by
  obtain ⟨sign, name, viaPosition, note, points, distance, time⟩ := entry
  obtain ⟨sign', name', viaPosition', note', points', distance', time'⟩ := entry'
  obtain rfl : sign = sign' := h.sign.unique Node.isInt32_unique h.keys h'.sign
  obtain rfl : name = name' := h.name.unique Node.isText_unique h.keys h'.name
  obtain rfl : viaPosition = viaPosition' :=
    h.viaPosition.unique (Node.isOptional_unique Node.isNatural64_unique (by simp [Node.IsNatural64]))
      h.keys h'.viaPosition
  obtain rfl : note = note' :=
    h.note.unique (Node.isOptional_unique Node.isNote_unique (by simp [Node.IsNote])) h.keys h'.note
  obtain rfl : points = points' :=
    h.points.unique (Node.isArrayOf_unique (Node.isArrayOf_unique Node.isDouble_unique)) h.keys
      h'.points
  obtain rfl : distance = distance' :=
    h.distance.unique (Node.isOptional_unique Node.isDouble_unique (by simp [Node.IsDouble])) h.keys
      h'.distance
  obtain rfl : time = time' := h.time.unique Node.isNatural64_unique h.keys h'.time
  rfl

/-- A draft with sign and points becomes an entry. -/
theorem exists_finish {draft : Draft} {sign : Int32} {points : List (List Float)}
    (hsign : draft.sign = some sign) (hpoints : draft.points = some points) :
    ∃ entry, record.finish draft = .ok entry := by
  obtain ⟨_, name, viaPosition, note, _, distance, time⟩ := draft
  subst hsign hpoints
  exact ⟨_, rfl⟩

/-- What the members of an object collect is the entry that they stand for. -/
theorem isWrittenAs_of_collects {final : Draft} (h : Collects slots record.blank ms final)
    (hfinish : record.finish final = .ok entry) : entry.IsWrittenAs ms := by
  have htells := h.forall_tells record_hasSlots
  simp only [slots, List.forall_mem_cons] at htells
  obtain ⟨hsign, hname, hviaPosition, hnote, hpoints, hdistance, htime, -⟩ := htells
  obtain ⟨sign, name, viaPosition, note, points, distance, time⟩ := final
  cases sign with
  | none => cases hfinish
  | some sign =>
      cases points with
      | none => cases hfinish
      | some points =>
          obtain rfl := Except.ok.inj hfinish
          exact ⟨h.hasKeys record_hasSlots, hsign, hname.holdsOr, hviaPosition.holdsOr, hnote.holdsOr,
            hpoints, hdistance.holdsOr, htime.holdsOr⟩

/-- **The members of an object collect an entry exactly if they stand for it.** -/
theorem collects_iff :
    (∃ final, Collects slots record.blank ms final ∧ record.finish final = .ok entry) ↔
      entry.IsWrittenAs ms := by
  constructor
  · rintro ⟨final, hcollects, hfinish⟩
    exact isWrittenAs_of_collects hcollects hfinish
  · intro h
    have hmeans : ∀ slot ∈ slots, ∀ t, (slot.key, t) ∈ ms → ∃ b, slot.Means t b := by
      simp only [slots, List.forall_mem_cons]
      exact ⟨fun t ht => ⟨_, h.sign.of_mem h.keys ht⟩, fun t ht => ⟨_, h.name.of_mem h.keys ht⟩,
        fun t ht => ⟨_, h.viaPosition.of_mem h.keys ht⟩, fun t ht => ⟨_, h.note.of_mem h.keys ht⟩,
        fun t ht => ⟨_, h.points.of_mem h.keys ht⟩, fun t ht => ⟨_, h.distance.of_mem h.keys ht⟩,
        fun t ht => ⟨_, h.time.of_mem h.keys ht⟩, by simp⟩
    obtain ⟨final, hfinal⟩ := Json.Record.exists_collects record_hasSlots h.keys hmeans
    have htells := hfinal.forall_tells record_hasSlots
    simp only [slots, List.forall_mem_cons] at htells
    obtain ⟨hsign, -, -, -, hpoints, -⟩ := htells
    obtain ⟨sign, hsign, -⟩ := hsign.exists_of_holds h.sign
    obtain ⟨points, hpoints, -⟩ := hpoints.exists_of_holds h.points
    obtain ⟨entry', hfinish⟩ := exists_finish hsign hpoints
    refine ⟨final, hfinal, ?_⟩
    rw [hfinish, (isWrittenAs_of_collects hfinal hfinish).unique h]

end Entry

end RouteFile

/-- **A tree that stands for an entry.** -/
def Json.Node.IsEntry (t : Node) (entry : RouteFile.Entry) : Prop :=
  ∃ ms, t = .object ms ∧ entry.IsWrittenAs ms

theorem Json.Node.isEntry_unique : Relator.RightUnique Node.IsEntry := by
  rintro t entry entry' ⟨ms, rfl, h⟩ ⟨ms', hms, h'⟩
  cases hms
  exact h.unique h'

namespace RouteFile

/-- **An entry is read from the objects that stand for it.** -/
theorem Entry.reads (harray : ∀ ts, t ≠ .array ts)
    (hnote : ∀ ms, t = .object ms → ∀ x, ("annotation", x) ∈ ms → ∀ ts, x ≠ .array ts) :
    Entry.record.decoder.Reads t t.IsEntry := by
  refine reads_of_collects_iff record_hasSlots harray (fun _ _ => collects_iff) fun ms hms => ?_
  simp only [slots, List.forall_mem_cons]
  refine ⟨fun t _ => Decoder.reads_int32, fun t _ => Decoder.reads_string, fun t _ => ?_,
    fun t ht => ?_, fun t _ => ?_, fun t _ => ?_, fun t _ => Decoder.reads_natural64, by simp⟩
  · exact Decoder.reads_optional Decoder.reads_natural64 (by simp [Node.IsNatural64])
  · exact Decoder.reads_optional (Note.reads (hnote ms hms t ht)) (by simp [Node.IsNote])
  · exact Decoder.reads_array fun _ _ _ _ => Decoder.reads_array fun _ _ _ _ => Decoder.reads_double
  · exact Decoder.reads_optional Decoder.reads_double (by simp [Node.IsDouble])

/-! ## Routes -/

variable {file file' : RouteFile}

/-- The only slot of a route. -/
def slots : List (Slot (Option (List Entry))) := [
  ⟨List Entry, "instructions", false, .array Entry.record.decoder, id, fun a _ => some a,
    Node.IsArrayOf Node.IsEntry⟩]

theorem record_hasSlots : record.HasSlots slots where
  strict := rfl
  fields_eq := rfl
  nodup := by decide
  get_blank := by simp [slots, record]
  get_set := by simp [slots]
  get_set_of_ne := by simp [slots]

/-- **The members of an object that stands for a route**: its entries and nothing else. -/
structure IsWrittenAs (file : RouteFile) (ms : List (String × Node)) : Prop where
  keys : HasKeys ["instructions"] ms
  entries : Holds ms "instructions" (Node.IsArrayOf Node.IsEntry) file.entries

/-- **The members of an object collect a route exactly if they stand for it.** -/
theorem collects_iff :
    (∃ final, Collects slots record.blank ms final ∧ record.finish final = .ok file) ↔
      file.IsWrittenAs ms := by
  have htells : ∀ final, Collects slots record.blank ms final →
      Tells ms "instructions" (Node.IsArrayOf Node.IsEntry) final := fun final hfinal =>
    hfinal.tells record_hasSlots List.mem_cons_self rfl
  constructor
  · rintro ⟨final, hcollects, hfinish⟩
    cases final with
    | none => cases hfinish
    | some entries =>
        obtain rfl := Except.ok.inj hfinish
        exact ⟨hcollects.hasKeys record_hasSlots, htells _ hcollects⟩
  · intro h
    have hmeans : ∀ slot ∈ slots, ∀ t, (slot.key, t) ∈ ms → ∃ b, slot.Means t b := by
      simp only [slots, List.forall_mem_cons]
      exact ⟨fun t ht => ⟨_, h.entries.of_mem h.keys ht⟩, by simp⟩
    obtain ⟨final, hfinal⟩ := Json.Record.exists_collects record_hasSlots h.keys hmeans
    obtain ⟨entries, rfl, hentries⟩ := (htells final hfinal).exists_of_holds h.entries
    have heq : entries = file.entries :=
      hentries.unique (Node.isArrayOf_unique Node.isEntry_unique) h.keys h.entries
    exact ⟨some entries, hfinal, by rw [heq]; rfl⟩

end RouteFile

/-- **A tree that stands for a route.** -/
def Json.Node.IsRoute (t : Node) (file : RouteFile) : Prop := ∃ ms, t = .object ms ∧ file.IsWrittenAs ms

/-- **Trees in which routes, entries and notes are no arrays.** -/
structure Json.Node.IsInObjects (t : Node) : Prop where
  route : ∀ ts, t ≠ .array ts
  entries : ∀ ms ts, t = .object ms → ("instructions", .array ts) ∈ ms → ∀ e ∈ ts, ∀ us, e ≠ .array us
  notes : ∀ ms ts, t = .object ms → ("instructions", .array ts) ∈ ms →
    ∀ e ∈ ts, ∀ fields, e = .object fields → ∀ x, ("annotation", x) ∈ fields → ∀ us, x ≠ .array us

namespace RouteFile

variable {file : RouteFile} {s : String}

/-- **A route is read from the objects that stand for it.** -/
theorem reads (h : t.IsInObjects) : record.decoder.Reads t t.IsRoute := by
  refine reads_of_collects_iff record_hasSlots h.route (fun _ _ => collects_iff) fun ms hms => ?_
  simp only [slots, List.forall_mem_singleton]
  intro t' ht'
  refine Decoder.reads_array ?_
  rintro ts rfl e he
  exact Entry.reads (h.entries ms ts hms ht' e he) (h.notes ms ts hms ht' e he)

/-- **A text is read as the route that its tree stands for**, and as none if it stands for none. -/
theorem read_eq_ok_iff (hdocument : IsDocument t s.toList) (hobjects : t.IsInObjects) :
    read s = .ok file ↔ t.IsRoute file :=
  Json.document_eq_ok_iff hdocument (reads hobjects)

end RouteFile

/-- What stands for a route is in objects. -/
theorem Json.Node.IsRoute.isInObjects {file : RouteFile} (h : t.IsRoute file) : t.IsInObjects := by
  obtain ⟨ms, rfl, hkeys, hentries⟩ := h
  have hall : ∀ ts, ("instructions", .array ts) ∈ ms →
      ∀ e ∈ ts, ∃ entry : RouteFile.Entry, e.IsEntry entry := by
    intro ts hts e he
    obtain ⟨ts', heq, hforall⟩ := hentries.of_mem hkeys hts
    cases heq
    exact Json.exists_forall₂_iff.mp ⟨_, hforall⟩ e he
  refine ⟨by simp, ?_, ?_⟩
  · rintro _ ts ⟨⟩ hts e he us rfl
    obtain ⟨entry, fields, heq, -⟩ := hall ts hts _ he
    cases heq
  · rintro _ ts ⟨⟩ hts e he fields rfl x hx us rfl
    obtain ⟨entry, fields', heq, hentry⟩ := hall ts hts _ he
    cases heq
    have hnote := hentry.note.of_mem hentry.keys hx
    cases hvalue : entry.note with
    | none => rw [hvalue] at hnote; cases hnote
    | some note =>
        rw [hvalue] at hnote
        obtain ⟨_, heq, -⟩ := hnote
        cases heq

end TurnByTurn
