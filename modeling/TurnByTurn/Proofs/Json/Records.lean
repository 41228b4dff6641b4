import TurnByTurn.Json.Record
import TurnByTurn.Proofs.Json.Reading

/-! # Reading records from objects

The members of an object are put into a draft one after the other. What comes out does not depend on
their order: every field has its own slot in the draft, which only its own member fills.

* **`Slot`**, **`Record.HasSlots`** — the places of the fields in the drafts of a record.
* **`Record.Collects`** — what the members of an object make of a draft.
* **`Record.reads_object`**, **`Record.reads_of_collects_iff`** — a record is read as what its members
  collect.
* **`HasKeys`**, **`Holds`**, **`HoldsOr`** — what an object says, whatever the order of its members.
* **`Record.Collects.tells`**, **`Record.exists_collects`** — what is collected, and when. -/

namespace TurnByTurn.Json

variable {σ α β : Type} {t : Node} {ms : List (String × Node)} {m : String × Node} {key : String}
  {s b inner part rest rest' : List Char}

/-! ## Members -/

/-- The brace that closes an object. -/
theorem nextKey_of_blanks {first : Bool} (h : AreBlanks b) :
    nextKey first (b ++ '\x7d' :: rest) = .ok (none, rest) := by
  unfold nextKey nextQuote
  rw [skipBlank_append h, skipBlank_cons rfl]
  rfl

/-- The quote before the first key. -/
theorem nextQuote_of_blanks (h : AreBlanks b) : nextQuote true (b ++ '"' :: rest) = .ok (true, rest) := by
  unfold nextQuote
  rw [skipBlank_append h, skipBlank_cons rfl]
  rfl

/-- The quote before another key comes after a comma. -/
theorem nextQuote_of_comma {before : List Char} (hb : AreBlanks b) (hbefore : AreBlanks before) :
    nextQuote false (b ++ ',' :: (before ++ '"' :: rest)) = .ok (true, rest) := by
  unfold nextQuote
  rw [skipBlank_append hb, skipBlank_cons rfl]
  change afterQuote (skipBlank (before ++ '"' :: rest)) = _
  rw [skipBlank_append hbefore, skipBlank_cons rfl]
  rfl

/-- The first member of an object begins with its key. -/
theorem nextKey_of_member (h : SpellsMember (key, t) part) :
    ∃ between beforeValue s, AreBlanks between ∧ AreBlanks beforeValue ∧ Spells t s ∧
      ∀ tail, nextKey true (part ++ tail) =
        .ok (some key, between ++ ':' :: (beforeValue ++ (s ++ tail))) := by
  cases h with
  | mk hbefore hkey hbetween hvalue hs =>
      refine ⟨_, _, _, hbetween, hvalue, hs, fun tail => ?_⟩
      cases hkey with
      | mk hchars =>
          unfold nextKey
          simp only [List.append_assoc, List.cons_append, List.nil_append,
            nextQuote_of_blanks hbefore, readText_of_spells hchars]

/-- Another member of an object comes after a comma, and then begins as the first one does. -/
theorem nextKey_of_comma (hb : AreBlanks b) (h : SpellsMember m part) :
    nextKey false (b ++ ',' :: (part ++ rest)) = nextKey true (part ++ rest) := by
  cases h with
  | mk hbefore hkey hbetween hvalue hs =>
      cases hkey with
      | mk hchars =>
          unfold nextKey
          simp only [List.append_assoc, List.cons_append, List.nil_append,
            nextQuote_of_comma hb hbefore, nextQuote_of_blanks hbefore]

/-- The colon after a key. -/
theorem afterColon_of_blanks (h : AreBlanks b) : afterColon (b ++ ':' :: rest) = .ok rest := by
  unfold afterColon
  rw [skipBlank_append h, skipBlank_cons rfl]
  rfl

/-! ## Slots -/

/-- **The place of a field in the drafts of a record**, and what trees mean there. -/
structure Slot (σ : Type) where
  Value : Type
  key : String
  hasDefault : Bool
  decoder : Decoder Value
  get : σ → Option Value
  set : Value → σ → σ
  Means : Node → Value → Prop

/-- The field that is kept in the slot. -/
def Slot.field (slot : Slot σ) : Field σ :=
  .of slot.key slot.hasDefault slot.decoder slot.get slot.set

namespace Record

variable {record : Record σ α} {slots : List (Slot σ)} {slot : Slot σ} {draft final : σ} {a : α}
  {first : Bool}

/-- **A record with its slots.** No two slots have the same key, and what is put into one is found there
and nowhere else. -/
structure HasSlots (record : Record σ α) (slots : List (Slot σ)) : Prop where
  strict : record.strict = true
  fields_eq : record.fields = slots.map Slot.field
  nodup : (slots.map (·.key)).Nodup
  get_blank : ∀ slot ∈ slots, slot.get record.blank = none
  get_set : ∀ slot ∈ slots, ∀ a draft, slot.get (slot.set a draft) = some a
  get_set_of_ne : ∀ slot ∈ slots, ∀ other ∈ slots, other.key ≠ slot.key →
    ∀ a draft, other.get (slot.set a draft) = other.get draft

/-- A key belongs to one slot. -/
theorem HasSlots.eq_of_key_eq {slot' : Slot σ} (h : record.HasSlots slots) (hslot : slot ∈ slots)
    (hslot' : slot' ∈ slots) (hkey : slot.key = slot'.key) : slot = slot' :=
  List.inj_on_of_nodup_map h.nodup hslot hslot' hkey

/-- The field with a key is the one in the slot with this key. -/
theorem HasSlots.field?_eq_some_iff (h : record.HasSlots slots) {field : Field σ} :
    record.field? key = some field ↔ ∃ slot ∈ slots, slot.key = key ∧ field = slot.field := by
  rw [field?, h.fields_eq]
  constructor
  · intro hfind
    have hkey : field.key = key := by simpa using List.find?_some hfind
    obtain ⟨slot, hslot, rfl⟩ := List.mem_map.mp (List.mem_of_find?_eq_some hfind)
    exact ⟨slot, hslot, hkey, rfl⟩
  · rintro ⟨slot, hslot, hkey, rfl⟩
    have hsome : ((slots.map Slot.field).find? fun field => field.key = key).isSome := by
      rw [List.find?_isSome]
      exact ⟨slot.field, List.mem_map_of_mem hslot, decide_eq_true hkey⟩
    obtain ⟨field, hfind⟩ := Option.isSome_iff_exists.mp hsome
    have hkey' : field.key = key := by simpa using List.find?_some hfind
    obtain ⟨slot', hslot', rfl⟩ := List.mem_map.mp (List.mem_of_find?_eq_some hfind)
    rw [hfind, h.eq_of_key_eq hslot' hslot (hkey'.trans hkey.symm)]

/-! ## Reading members -/

/-- **What the members of an object make of a draft.** Every key has its slot, which is still empty, and
its value is put there. -/
inductive Collects (slots : List (Slot σ)) : σ → List (String × Node) → σ → Prop
  | nil {draft : σ} : Collects slots draft [] draft
  | cons {draft final : σ} {slot : Slot σ} {t : Node} {b : slot.Value} {ms : List (String × Node)} :
      slot ∈ slots → slot.get draft = none → slot.Means t b →
        Collects slots (slot.set b draft) ms final → Collects slots draft ((slot.key, t) :: ms) final

/-- No members leave the draft as it is. -/
theorem exists_collects_nil_iff {P : σ → Prop} :
    (∃ final, Collects slots draft [] final ∧ P final) ↔ P draft := by
  constructor
  · rintro ⟨final, hcollects, hfinal⟩
    cases hcollects
    exact hfinal
  · exact fun hdraft => ⟨draft, .nil, hdraft⟩

/-- A member is collected if its slot is empty, and the others are collected after it. -/
theorem exists_collects_cons_iff {P : σ → Prop} :
    (∃ final, Collects slots draft ((key, t) :: ms) final ∧ P final) ↔
      ∃ slot ∈ slots, slot.key = key ∧ slot.get draft = none ∧ ∃ b, slot.Means t b ∧
        ∃ final, Collects slots (slot.set b draft) ms final ∧ P final := by
  constructor
  · rintro ⟨final, hcollects, hfinal⟩
    cases hcollects with
    | cons hslot hget hb hcollects => exact ⟨_, hslot, rfl, hget, _, hb, final, hcollects, hfinal⟩
  · rintro ⟨slot, hslot, rfl, hget, b, hb, final, hcollects, hfinal⟩
    exact ⟨final, .cons hslot hget hb hcollects, hfinal⟩

theorem members_of_end (h : nextKey first s = .ok (none, rest)) :
    record.members draft first s = record.done draft rest := by
  unfold members
  split <;> simp_all

/-- A strict record reads the value of a key that it knows and that is not yet in the draft. -/
theorem members_of_key {tail : List Char} (hstrict : record.strict = true)
    (h : nextKey first s = .ok (some key, tail)) :
    record.members draft first s = match record.field? key with
      | none => .error (.mismatch (.unknownField key (record.fields.map (·.key))))
      | some field =>
          if field.isSet draft then .error (.mismatch (.duplicateField key))
          else match afterColon tail with
            | .error fault => .error fault
            | .ok value => match field.decoder.read value with
              | .error fault => .error fault
              | .ok (put, rest) => record.members (put draft) false rest := by
  rw [members]
  split
  · simp_all
  · simp_all
  · rename_i key' tail' heq
    rw [h] at heq
    obtain ⟨hkey, rfl⟩ := Prod.mk.inj (Except.ok.inj heq)
    obtain rfl := Option.some.inj hkey
    cases hfield : record.field? key with
    | none => simp [hstrict]
    | some field =>
        simp only
        split
        · rfl
        · split <;> simp_all
          split <;> simp_all

/-- What is read from a member on: its key has an empty slot, and the others are read after it. -/
theorem members_eq_ok_iff {x tail between beforeValue : List Char} (h : record.HasSlots slots)
    (hnext : nextKey first x = .ok (some key, between ++ ':' :: (beforeValue ++ (s ++ tail))))
    (hbetween : AreBlanks between) (hvalue : AreBlanks beforeValue) (hs : Spells t s)
    (htail : Ends tail)
    (hreads : ∀ slot ∈ slots, slot.key = key → slot.decoder.Reads t (slot.Means t)) :
    record.members draft first x = .ok (a, rest') ↔
      ∃ slot ∈ slots, slot.key = key ∧ slot.get draft = none ∧
        ∃ b, slot.Means t b ∧ record.members (slot.set b draft) false tail = .ok (a, rest') := by
  rw [members_of_key h.strict hnext]
  cases hfield : record.field? key with
  | none =>
      simp only [reduceCtorEq, false_iff]
      rintro ⟨slot, hslot, hkey, -⟩
      rw [h.field?_eq_some_iff.mpr ⟨slot, hslot, hkey, rfl⟩] at hfield
      cases hfield
  | some field =>
      obtain ⟨slot, hslot, hkey, rfl⟩ := h.field?_eq_some_iff.mp hfield
      have hunique : ∀ slot' ∈ slots, slot'.key = key → slot' = slot := fun slot' hslot' hkey' =>
        h.eq_of_key_eq hslot' hslot (hkey'.trans hkey.symm)
      have hset : slot.field.isSet draft = (slot.get draft).isSome := rfl
      rw [afterColon_of_blanks hbetween]
      simp only [hset]
      rw [Decoder.read_append _ hvalue]
      cases hget : slot.get draft with
      | some b =>
          simp only [Option.isSome_some, if_true, reduceCtorEq, false_iff]
          rintro ⟨slot', hslot', hkey', hget', -⟩
          rw [hunique slot' hslot' hkey', hget] at hget'
          cases hget'
      | none =>
          have hput := (hreads slot hslot hkey).map slot.set
          obtain ⟨_, ⟨b, hb, rfl⟩, hone, hd⟩ | ⟨hnone, fault, hd⟩ := hput.cases hs htail
          · have hread : slot.field.decoder.read (s ++ tail) = .ok (slot.set b, tail) := hd
            simp only [hread, Option.isSome_none, Bool.false_eq_true, if_false]
            constructor
            · exact fun hmembers => ⟨slot, hslot, hkey, hget, b, hb, hmembers⟩
            · rintro ⟨slot', hslot', hkey', -, b', hb', hmembers⟩
              obtain rfl := hunique slot' hslot' hkey'
              rwa [hone _ ⟨b', hb', rfl⟩] at hmembers
          · have hread : slot.field.decoder.read (s ++ tail) = .error fault := hd
            simp only [hread, Option.isSome_none, Bool.false_eq_true, if_false, reduceCtorEq, false_iff]
            rintro ⟨slot', hslot', hkey', -, b', hb', -⟩
            obtain rfl := hunique slot' hslot' hkey'
            exact hnone _ ⟨b', hb', rfl⟩

/-- At the closing brace the draft is finished. -/
theorem members_done_iff (hb : AreBlanks b) :
    record.members draft first (b ++ '\x7d' :: rest) = .ok (a, rest') ↔
      record.finish draft = .ok a ∧ rest' = rest := by
  rw [members_of_end (nextKey_of_blanks hb)]
  unfold done
  cases record.finish draft <;> simp [eq_comm]

/-- **The members of an object are read one after the other**, up to the closing brace. -/
theorem members_of_spells {x : List Char} (h : record.HasSlots slots)
    (hspells : SpellsMembers (m :: ms) inner)
    (hreads : ∀ slot ∈ slots, ∀ t, (slot.key, t) ∈ m :: ms → slot.decoder.Reads t (slot.Means t))
    (hnext : nextKey first x = nextKey true (inner ++ '\x7d' :: rest)) :
    record.members draft first x = .ok (a, rest') ↔
      ∃ final, Collects slots draft (m :: ms) final ∧ record.finish final = .ok a ∧ rest' = rest := by
  induction ms generalizing m inner first x draft with
  | nil =>
      obtain ⟨key, t⟩ := m
      cases hspells with
      | @last _ part after hmember hafter =>
          have hends : Ends (after ++ '\x7d' :: rest) := .append hafter (by rintro c ⟨rfl⟩; decide)
          obtain ⟨between, beforeValue, s, hbetween, hvalue, hs, hkey⟩ := nextKey_of_member hmember
          rw [List.append_assoc, hkey] at hnext
          rw [exists_collects_cons_iff,
            members_eq_ok_iff h hnext hbetween hvalue hs hends fun slot hslot hkey =>
              hreads slot hslot t (by simp [hkey])]
          simp only [exists_collects_nil_iff, members_done_iff hafter]
  | cons next ms ih =>
      obtain ⟨key, t⟩ := m
      cases hspells with
      | @cons _ _ _ part after tail hmember hafter htail =>
          have hends : Ends (after ++ ',' :: (tail ++ '\x7d' :: rest)) :=
            .append hafter (by rintro c ⟨rfl⟩; decide)
          obtain ⟨between, beforeValue, s, hbetween, hvalue, hs, hkey⟩ := nextKey_of_member hmember
          simp only [List.append_assoc, List.cons_append] at hnext
          rw [hkey] at hnext
          obtain ⟨part', tail', hmember', rfl⟩ := htail.exists_append
          have hrest : ∀ draft, record.members draft false
              (after ++ ',' :: (part' ++ tail' ++ '\x7d' :: rest)) = .ok (a, rest') ↔
                ∃ final, Collects slots draft (next :: ms) final ∧
                  record.finish final = .ok a ∧ rest' = rest := by
            intro draft
            refine ih htail (fun slot hslot t ht => ?_) ?_
            · exact hreads slot hslot t (List.mem_cons_of_mem _ ht)
            · rw [List.append_assoc]
              exact nextKey_of_comma hafter hmember'
          rw [exists_collects_cons_iff,
            members_eq_ok_iff h hnext hbetween hvalue hs hends fun slot hslot hkey =>
              hreads slot hslot t (by simp [hkey])]
          simp only [hrest]

/-- **A strict record is read from an object as what its members collect.** -/
theorem reads_object (h : record.HasSlots slots)
    (hreads : ∀ slot ∈ slots, ∀ t, (slot.key, t) ∈ ms → slot.decoder.Reads t (slot.Means t)) :
    record.decoder.Reads (.object ms) fun a =>
      ∃ final, Collects slots record.blank ms final ∧ record.finish final = .ok a := by
  refine Decoder.reads_of_ofHead rfl fun inside rest hinside _ a rest' => ?_
  cases hinside with
  | @object _ inner hinner =>
      rw [List.append_assoc, List.singleton_append]
      change record.members record.blank true (inner ++ '\x7d' :: rest) = .ok (a, rest') ↔ _
      rw [← exists_and_right]
      simp only [and_assoc]
      cases ms with
      | nil =>
          cases hinner with
          | nil hblank => rw [exists_collects_nil_iff, members_done_iff hblank]
      | cons m ms => exact members_of_spells h hinner hreads rfl

/-- What is no array and no object is read as no record. -/
theorem reads_neither (harray : ∀ ts, t ≠ .array ts) (hobject : ∀ ms, t ≠ .object ms) :
    record.decoder.Reads t fun _ => False := by
  refine Decoder.reads_none fun head hhead s r => ?_
  cases head with
  | array => exact absurd (Node.head?_eq_array_iff.mp hhead) (by simpa using harray)
  | object => exact absurd (Node.head?_eq_object_iff.mp hhead) (by simpa using hobject)
  | _ => simp [decoder]

/-- **A record is read from the objects that stand for it**, and from nothing else but arrays. -/
theorem reads_of_collects_iff {IsWrittenAs : α → List (String × Node) → Prop}
    (h : record.HasSlots slots) (harray : ∀ ts, t ≠ .array ts)
    (hcollects : ∀ ms a, (∃ final, Collects slots record.blank ms final ∧
      record.finish final = .ok a) ↔ IsWrittenAs a ms)
    (hreads : ∀ ms, t = .object ms → ∀ slot ∈ slots, ∀ u, (slot.key, u) ∈ ms →
      slot.decoder.Reads u (slot.Means u)) :
    record.decoder.Reads t fun a => ∃ ms, t = .object ms ∧ IsWrittenAs a ms := by
  by_cases hobject : ∃ ms, t = .object ms
  · obtain ⟨ms, rfl⟩ := hobject
    refine (reads_object h (hreads ms rfl)).congr fun a => ?_
    simp [hcollects]
  · refine (reads_neither harray fun ms hms => hobject ⟨ms, hms⟩).congr fun a => ?_
    simp only [false_iff]
    rintro ⟨ms, hms, -⟩
    exact hobject ⟨ms, hms⟩

end Record

/-! ## What an object says -/

/-- **Only these keys, each at most once.** -/
structure HasKeys (keys : List String) (ms : List (String × Node)) : Prop where
  nodup : (ms.map Prod.fst).Nodup
  known : ∀ m ∈ ms, m.1 ∈ keys

/-- **An object holds a value under a key.** -/
def Holds (ms : List (String × Node)) (key : String) (Means : Node → α → Prop) (a : α) : Prop :=
  ∃ t, (key, t) ∈ ms ∧ Means t a

/-- **An object holds a value under a key, or does not have the key** and the value is the default. -/
def HoldsOr (default : α) (ms : List (String × Node)) (key : String) (Means : Node → α → Prop) (a : α) :
    Prop :=
  Holds ms key Means a ∨ (∀ t, (key, t) ∉ ms) ∧ a = default

/-- An object holds a value under a key, or does not have the key and there is none. -/
def Tells (ms : List (String × Node)) (key : String) (Means : Node → α → Prop) : Option α → Prop
  | none => ∀ t, (key, t) ∉ ms
  | some a => Holds ms key Means a

variable {keys : List String} {Means : Node → α → Prop} {a a' default : α} {o : Option α}

/-- A key stands for one value. -/
theorem HasKeys.eq_of_mem {t' : Node} (h : HasKeys keys ms) (ht : (key, t) ∈ ms)
    (ht' : (key, t') ∈ ms) : t = t' :=
  congrArg Prod.snd (List.inj_on_of_nodup_map h.nodup ht ht' rfl)

theorem Holds.of_mem (h : Holds ms key Means a) (hkeys : HasKeys keys ms) (ht : (key, t) ∈ ms) :
    Means t a := by
  obtain ⟨t', ht', ha⟩ := h
  rwa [hkeys.eq_of_mem ht ht']

theorem HoldsOr.of_mem (h : HoldsOr default ms key Means a) (hkeys : HasKeys keys ms)
    (ht : (key, t) ∈ ms) : Means t a := by
  obtain h | ⟨hnone, -⟩ := h
  · exact h.of_mem hkeys ht
  · exact absurd ht (hnone t)

theorem Holds.unique (hmeans : Relator.RightUnique Means) (hkeys : HasKeys keys ms)
    (h : Holds ms key Means a) (h' : Holds ms key Means a') : a = a' := by
  obtain ⟨t, ht, ha⟩ := h
  exact hmeans ha (h'.of_mem hkeys ht)

theorem HoldsOr.unique (hmeans : Relator.RightUnique Means) (hkeys : HasKeys keys ms)
    (h : HoldsOr default ms key Means a) (h' : HoldsOr default ms key Means a') : a = a' := by
  obtain ⟨t, ht, ha⟩ | ⟨hnone, rfl⟩ := h
  · exact hmeans ha (h'.of_mem hkeys ht)
  · obtain ⟨t, ht, -⟩ | ⟨-, rfl⟩ := h'
    · exact absurd ht (hnone t)
    · rfl

/-- What is not told is the default. -/
theorem Tells.holdsOr (h : Tells ms key Means o) : HoldsOr default ms key Means (o.getD default) := by
  cases o with
  | none => exact .inr ⟨h, rfl⟩
  | some a => exact .inl h

/-- A member with another key tells nothing. -/
theorem Tells.cons {key' : String} (h : Tells ms key Means o) (hkey : key ≠ key') :
    Tells ((key', t) :: ms) key Means o := by
  cases o with
  | none =>
      intro t' ht'
      rcases List.mem_cons.mp ht' with heq | htail
      · exact hkey (congrArg Prod.fst heq)
      · exact h t' htail
  | some a =>
      obtain ⟨t', ht', ha⟩ := h
      exact ⟨t', List.mem_cons_of_mem _ ht', ha⟩

/-- What an object holds is told. -/
theorem Tells.exists_of_holds (h : Tells ms key Means o) (ha : Holds ms key Means a) :
    ∃ a', o = some a' ∧ Holds ms key Means a' := by
  cases o with
  | none =>
      obtain ⟨t, ht, -⟩ := ha
      exact absurd ht (h t)
  | some a' => exact ⟨a', rfl, h⟩

/-! ## What is collected -/

namespace Record

variable {record : Record σ α} {slots : List (Slot σ)} {slot : Slot σ} {draft final : σ}

/-- A slot that is filled stays as it is, and its key does not come again. -/
theorem Collects.get_of_ne_none (h : Collects slots draft ms final) (hslots : record.HasSlots slots)
    (hslot : slot ∈ slots) (hsome : slot.get draft ≠ none) :
    slot.get final = slot.get draft ∧ ∀ t, (slot.key, t) ∉ ms := by
  induction h with
  | nil => exact ⟨rfl, by simp⟩
  | @cons draft final slot' t b ms hslot' hget _ _ ih =>
      have hkey : slot.key ≠ slot'.key := by
        intro hkey
        obtain rfl := hslots.eq_of_key_eq hslot hslot' hkey
        exact hsome hget
      have hother := hslots.get_set_of_ne slot' hslot' slot hslot hkey b draft
      obtain ⟨hfinal, hnone⟩ := ih (by rwa [hother])
      refine ⟨hfinal.trans hother, fun t' ht' => ?_⟩
      rcases List.mem_cons.mp ht' with heq | htail
      · exact hkey (congrArg Prod.fst heq)
      · exact hnone t' htail

/-- **A slot that is empty is filled by its own member**, if there is one. -/
theorem Collects.tells (h : Collects slots draft ms final) (hslots : record.HasSlots slots)
    (hslot : slot ∈ slots) (hnone : slot.get draft = none) :
    Tells ms slot.key slot.Means (slot.get final) := by
  induction h with
  | nil =>
      rw [hnone]
      exact fun t => by simp
  | @cons draft final slot' t b ms hslot' _ hb hrest ih =>
      by_cases hkey : slot.key = slot'.key
      · obtain rfl := hslots.eq_of_key_eq hslot hslot' hkey
        have hget := hslots.get_set slot hslot b draft
        rw [(hrest.get_of_ne_none hslots hslot (by simp [hget])).1, hget]
        exact ⟨t, List.mem_cons_self, hb⟩
      · have htells := ih (by rw [hslots.get_set_of_ne slot' hslot' slot hslot hkey, hnone])
        exact htells.cons hkey

/-- From a blank draft on, every slot is filled by its own member. -/
theorem Collects.forall_tells (h : Collects slots record.blank ms final)
    (hslots : record.HasSlots slots) : ∀ slot ∈ slots, Tells ms slot.key slot.Means (slot.get final) :=
  fun slot hslot => h.tells hslots hslot (hslots.get_blank slot hslot)

/-- **Members are collected only if every key is known and comes once.** -/
theorem Collects.hasKeys (h : Collects slots draft ms final) (hslots : record.HasSlots slots) :
    HasKeys (slots.map (·.key)) ms := by
  induction h with
  | nil => exact ⟨by simp, by simp⟩
  | @cons draft final slot t b ms hslot _ _ hrest ih =>
      have hget := hslots.get_set slot hslot b draft
      have hnew := (hrest.get_of_ne_none hslots hslot (by simp [hget])).2
      refine ⟨?_, ?_⟩
      · rw [List.map_cons, List.nodup_cons]
        refine ⟨fun hmem => ?_, ih.nodup⟩
        obtain ⟨⟨key, t'⟩, ht', rfl⟩ := List.mem_map.mp hmem
        exact hnew t' ht'
      · rintro m hm
        rcases List.mem_cons.mp hm with rfl | htail
        · exact List.mem_map_of_mem hslot
        · exact ih.known m htail

/-- Members are collected by a draft in which the slots of their keys are empty. -/
theorem exists_collects_of_get_eq_none (hslots : record.HasSlots slots)
    (hnodup : (ms.map Prod.fst).Nodup)
    (hms : ∀ m ∈ ms, ∃ slot ∈ slots, slot.key = m.1 ∧ slot.get draft = none ∧ ∃ b, slot.Means m.2 b) :
    ∃ final, Collects slots draft ms final := by
  induction ms generalizing draft with
  | nil => exact ⟨draft, .nil⟩
  | cons m ms ih =>
      obtain ⟨key, t⟩ := m
      rw [List.map_cons, List.nodup_cons] at hnodup
      obtain ⟨slot, hslot, rfl, hget, b, hb⟩ := hms _ List.mem_cons_self
      have hms' : ∀ m ∈ ms, ∃ slot' ∈ slots, slot'.key = m.1 ∧ slot'.get (slot.set b draft) = none ∧
          ∃ b, slot'.Means m.2 b := by
        intro m hm
        obtain ⟨slot', hslot', hkey, hget', hb'⟩ := hms m (List.mem_cons_of_mem _ hm)
        have hne : slot'.key ≠ slot.key := fun heq =>
          hnodup.1 (List.mem_map.mpr ⟨m, hm, hkey.symm.trans heq⟩)
        refine ⟨slot', hslot', hkey, ?_, hb'⟩
        rw [hslots.get_set_of_ne slot hslot slot' hslot' hne, hget']
      obtain ⟨final, hfinal⟩ := ih hnodup.2 hms'
      exact ⟨final, .cons hslot hget hb hfinal⟩

/-- **Members are collected if every key is known and comes once**, and every value means something
there. -/
theorem exists_collects (hslots : record.HasSlots slots) (hkeys : HasKeys (slots.map (·.key)) ms)
    (hmeans : ∀ slot ∈ slots, ∀ t, (slot.key, t) ∈ ms → ∃ b, slot.Means t b) :
    ∃ final, Collects slots record.blank ms final := by
  refine exists_collects_of_get_eq_none hslots hkeys.nodup fun m hm => ?_
  obtain ⟨slot, hslot, hkey⟩ := List.mem_map.mp (hkeys.known m hm)
  exact ⟨slot, hslot, hkey, hslots.get_blank slot hslot, hmeans slot hslot m.2 (by rwa [hkey])⟩

end Record

end TurnByTurn.Json
