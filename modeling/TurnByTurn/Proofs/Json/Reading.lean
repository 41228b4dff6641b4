import TurnByTurn.Json.Decoder
import TurnByTurn.Proofs.Json.Doubles
import TurnByTurn.Proofs.Json.Strings

/-! # Reading trees

A text is read from left to right and never as a tree, but what comes out depends on the tree that it
spells and on nothing else: not on blanks, not on the escapes inside strings.

* **`Node.head?`**, **`readHead_of_spells`** — how a tree begins.
* **`Decoder.Reads`** — what a decoder makes of every text of a tree.
* **`Node.IsInt32`**, **`Node.IsNatural64`**, **`Node.IsDouble`**, **`Node.IsText`** — scalars.
* **`Node.IsOptional`**, **`Node.IsArrayOf`** — values made of others.
* **`document_eq_ok_iff`** — whole texts. -/

namespace TurnByTurn.Json

variable {α β : Type} {t : Node} {ts : List Node} {s b inside rest rest' : List Char}

/-! ## Blanks -/

/-- Blanks are skipped. -/
theorem skipBlank_append (h : AreBlanks b) : skipBlank (b ++ s) = skipBlank s := by
  refine List.dropWhile_append_of_pos fun c hc => ?_
  have hmem := h c hc
  simp only [List.mem_cons, List.not_mem_nil, or_false] at hmem
  rcases hmem with rfl | rfl | rfl | rfl <;> rfl

/-- Nothing is skipped before what is no blank. -/
theorem skipBlank_cons {c : Char} (h : isBlank c = false) : skipBlank (c :: s) = c :: s :=
  List.dropWhile_cons_of_neg (by simp [h])

/-- Blanks end a value, where what comes after them does. -/
theorem Ends.append (h : AreBlanks b) (hs : Ends s) : Ends (b ++ s) := by
  cases b with
  | nil => exact hs
  | cons c b =>
      rintro c' ⟨rfl⟩
      have hmem := h c List.mem_cons_self
      simp only [List.mem_cons, List.not_mem_nil, or_false] at hmem ⊢
      tauto

/-- A value is read after blanks as it is without them. -/
theorem Decoder.read_append (d : Decoder α) (h : AreBlanks b) : d.read (b ++ s) = d.read s := by
  unfold Decoder.read readHead
  rw [skipBlank_append h]

/-! ## Heads -/

/-- **How a tree begins.** A number beyond all doubles has no head. -/
def Node.head? : Node → Option Head
  | .null => some .null
  | .bool b => some (.bool b)
  | .number l => l.number?.map .number
  | .text s => some (.text s)
  | .array _ => some .array
  | .object _ => some .object

/-- Arrays begin as arrays. -/
theorem Node.head?_eq_array_iff : t.head? = some .array ↔ ∃ ts, t = .array ts := by
  cases t <;> simp [head?]

/-- Objects begin as objects. -/
theorem Node.head?_eq_object_iff : t.head? = some .object ↔ ∃ ms, t = .object ms := by
  cases t <;> simp [head?]

/-- **What is left of a tree's text after its head**: of an array and of an object, all up to the closing
bracket. -/
inductive SpellsInside : Node → List Char → Prop
  | null : SpellsInside .null []
  | bool {b : Bool} : SpellsInside (.bool b) []
  | number {l : Literal} : SpellsInside (.number l) []
  | text {s : String} : SpellsInside (.text s) []
  | array {ts : List Node} {inner : List Char} : SpellsElements ts inner →
      SpellsInside (.array ts) (inner ++ [']'])
  | object {ms : List (String × Node)} {inner : List Char} : SpellsMembers ms inner →
      SpellsInside (.object ms) (inner ++ ['\x7d'])

/-- The first character of a value is no blank and closes no array. -/
theorem exists_cons_of_spells (h : Spells t s) :
    ∃ c tail, s = c :: tail ∧ isBlank c = false ∧ c ≠ ']' := by
  cases h with
  | null => exact ⟨_, _, rfl, rfl, by decide⟩
  | true => exact ⟨_, _, rfl, rfl, by decide⟩
  | false => exact ⟨_, _, rfl, rfl, by decide⟩
  | text htext => cases htext; exact ⟨_, _, rfl, rfl, by decide⟩
  | array _ => exact ⟨_, _, rfl, rfl, by decide⟩
  | object _ => exact ⟨_, _, rfl, rfl, by decide⟩
  | number hnumber =>
      obtain ⟨c, tail, rfl, hc⟩ := Literal.exists_cons_of_spells hnumber
      refine ⟨c, tail, rfl, ?_, ?_⟩
      · rcases hc with rfl | hdigit
        · rfl
        · by_contra hblank
          simp only [isBlank, Bool.not_eq_false, Bool.or_eq_true, decide_eq_true_iff] at hblank
          rcases hblank with ((rfl | rfl) | rfl) | rfl <;> exact absurd hdigit (by decide)
      · rintro rfl
        rcases hc with hc | hc <;> exact absurd hc (by decide)

/-- The elements of an array begin with the first of them, after blanks. -/
theorem SpellsElements.exists_append {inner : List Char} (h : SpellsElements (t :: ts) inner) :
    ∃ before s tail, AreBlanks before ∧ Spells t s ∧ inner = before ++ (s ++ tail) := by
  cases h with
  | last hbefore hs _ => exact ⟨_, _, _, hbefore, hs, rfl⟩
  | cons hbefore hs _ _ => exact ⟨_, _, _, hbefore, hs, rfl⟩

/-- The members of an object begin with the first of them. -/
theorem SpellsMembers.exists_append {m : String × Node} {ms : List (String × Node)} {inner : List Char}
    (h : SpellsMembers (m :: ms) inner) : ∃ part tail, SpellsMember m part ∧ inner = part ++ tail := by
  cases h with
  | last hmember _ => exact ⟨_, _, hmember, rfl⟩
  | cons hmember _ _ => exact ⟨_, _, hmember, rfl⟩

/-- The head of a number is the number that its literal stands for. -/
theorem readHead_of_literal {l : Literal} (h : l.Spells s) (hrest : Ends rest) :
    readHead (s ++ rest) = match l.number? with
      | some n => .ok (.number n, rest)
      | none => .error .malformed := by
  have hread : readNumber (s ++ rest) = match l.number? with
      | some n => .ok (n, rest)
      | none => .error .malformed := by
    unfold readNumber
    rw [Literal.read_of_spells h hrest]
    rfl
  obtain ⟨c, tail, rfl, hblank, -⟩ := exists_cons_of_spells (.number h)
  obtain ⟨c', tail', heq, hc⟩ := Literal.exists_cons_of_spells h
  obtain ⟨rfl, rfl⟩ := List.cons.inj heq
  have hc' : (c = '-' || c.isDigit) = true := by simpa using hc
  unfold readHead
  rw [List.cons_append] at hread ⊢
  rw [skipBlank_cons hblank]
  split
  case h_1 heq => cases heq
  case h_8 heq =>
    obtain ⟨rfl, rfl⟩ := List.cons.inj heq
    rw [if_pos hc', hread]
    cases l.number? <;> rfl
  -- a number begins with no bracket, no quote and no letter
  all_goals
    rename_i heq
    rw [(List.cons.inj heq).1] at hc
    exact absurd hc (by decide)

/-- **The head of a tree is read from each of its texts.** -/
theorem readHead_of_spells (h : Spells t s) (hrest : Ends rest) :
    ∃ inside, SpellsInside t inside ∧ readHead (s ++ rest) = match t.head? with
      | some head => .ok (head, inside ++ rest)
      | none => .error .malformed := by
  cases h with
  | null => exact ⟨[], .null, rfl⟩
  | true => exact ⟨[], .bool, rfl⟩
  | false => exact ⟨[], .bool, rfl⟩
  | number hnumber =>
      refine ⟨[], .number, ?_⟩
      rw [readHead_of_literal hnumber hrest]
      simp only [Node.head?]
      cases Literal.number? _ <;> rfl
  | text htext =>
      cases htext with
      | mk hchars =>
          refine ⟨[], .text, ?_⟩
          rw [List.cons_append, List.append_assoc, List.singleton_append]
          unfold readHead
          rw [skipBlank_cons rfl]
          simp only [readText_of_spells hchars]
          rfl
  | array helements => exact ⟨_, .array helements, rfl⟩
  | object hmembers => exact ⟨_, .object hmembers, rfl⟩

/-! ## What decoders make of trees -/

namespace Decoder

variable {d : Decoder α} {Means Means' : α → Prop} {a a' : α}

/-- **What a decoder makes of every text of a tree**: it reads the tree as the values that it means, and
gives what follows the text; where the tree means none, it fails. -/
def Reads (d : Decoder α) (t : Node) (Means : α → Prop) : Prop :=
  ∀ s rest, Spells t s → Ends rest →
    ∀ a rest', d.read (s ++ rest) = .ok (a, rest') ↔ Means a ∧ rest' = rest

/-- A tree means one value, which is read, or none, and then reading fails. -/
theorem Reads.cases (h : d.Reads t Means) (hs : Spells t s) (hrest : Ends rest) :
    (∃ a, Means a ∧ (∀ a', Means a' → a' = a) ∧ d.read (s ++ rest) = .ok (a, rest)) ∨
      (∀ a, ¬Means a) ∧ ∃ fault, d.read (s ++ rest) = .error fault := by
  have hread := h s rest hs hrest
  cases hd : d.read (s ++ rest) with
  | error fault =>
      refine .inr ⟨fun a ha => ?_, fault, rfl⟩
      rw [(hread a rest).mpr ⟨ha, rfl⟩] at hd
      cases hd
  | ok r =>
      obtain ⟨ha, hrest'⟩ := (hread r.1 r.2).mp hd
      refine .inl ⟨r.1, ha, fun a' ha' => ?_, by rw [← hrest']⟩
      rw [(hread a' rest).mpr ⟨ha', rfl⟩] at hd
      exact congrArg Prod.fst (Except.ok.inj hd)

/-- What a tree means can be said in other words. -/
theorem Reads.congr (h : d.Reads t Means) (hmeans : ∀ a, Means a ↔ Means' a) : d.Reads t Means' :=
  fun s rest hs hrest a rest' => (h s rest hs hrest a rest').trans (and_congr_left' (hmeans a))

/-- A text is read as its head and what comes after it. -/
theorem read_of_spells (d : Decoder α) (h : Spells t s) (hrest : Ends rest) :
    ∃ inside, SpellsInside t inside ∧ d.read (s ++ rest) = match t.head? with
      | some head => d.ofHead head (inside ++ rest)
      | none => .error .malformed := by
  obtain ⟨inside, hinside, hhead⟩ := readHead_of_spells h hrest
  refine ⟨inside, hinside, ?_⟩
  unfold read
  rw [hhead]
  cases t.head? <;> rfl

/-- A decoder is known by what it does after a head. -/
theorem reads_of_ofHead {head : Head} (hhead : t.head? = some head)
    (h : ∀ inside rest, SpellsInside t inside → Ends rest →
      ∀ a rest', d.ofHead head (inside ++ rest) = .ok (a, rest') ↔ Means a ∧ rest' = rest) :
    d.Reads t Means := by
  intro s rest hs hrest
  obtain ⟨inside, hinside, hread⟩ := d.read_of_spells hs hrest
  rw [hread, hhead]
  exact h inside rest hinside hrest

/-- A tree is refused where its head is, whatever comes after it. -/
theorem reads_none (h : ∀ head, t.head? = some head → ∀ s r, d.ofHead head s ≠ .ok r) :
    d.Reads t fun _ => False := by
  intro s rest hs hrest a rest'
  obtain ⟨inside, -, hread⟩ := d.read_of_spells hs hrest
  rw [hread]
  cases hhead : t.head? with
  | none => simp
  | some head => simp [h head hhead]

/-- A function of what is read. -/
theorem read_map (f : α → β) (d : Decoder α) (s : List Char) :
    (d.map f).read s = (d.read s).map fun r => (f r.1, r.2) := by
  unfold read map
  cases readHead s with
  | error fault => rfl
  | ok r =>
      simp only
      cases d.ofHead r.1 r.2 <;> rfl

/-- A function of what is read means the function of what is meant. -/
theorem Reads.map (h : d.Reads t Means) (f : α → β) :
    (d.map f).Reads t fun b => ∃ a, Means a ∧ b = f a := by
  intro s rest hs hrest b rest'
  rw [read_map]
  obtain ⟨a, ha, hunique, hd⟩ | ⟨hnone, fault, hd⟩ := h.cases hs hrest
  · simp only [hd, Except.map, Except.ok.injEq, Prod.mk.injEq]
    constructor
    · rintro ⟨rfl, rfl⟩
      exact ⟨⟨a, ha, rfl⟩, rfl⟩
    · rintro ⟨⟨a', ha', rfl⟩, rfl⟩
      rw [hunique a' ha']
      exact ⟨rfl, rfl⟩
  · simp [hd, hnone, Except.map]

/-! ## Scalars -/

/-- A scalar is accepted or refused by its head. -/
theorem reads_scalar {accept : Head → Except Mismatch α} (harray : ∀ a, accept .array ≠ .ok a)
    (hobject : ∀ a, accept .object ≠ .ok a) :
    (scalar accept).Reads t fun a => ∃ head, t.head? = some head ∧ accept head = .ok a := by
  intro s rest hs hrest a rest'
  obtain ⟨inside, hinside, hread⟩ := (scalar accept).read_of_spells hs hrest
  rw [hread]
  cases hhead : t.head? with
  | none => simp
  | some head =>
      -- only heads of arrays and objects leave something unread, and they are refused
      have hnil : (∃ a, accept head = .ok a) → inside = [] := by
        rintro ⟨a, ha⟩
        cases hinside with
        | array _ => cases hhead; exact absurd ha (harray a)
        | object _ => cases hhead; exact absurd ha (hobject a)
        | _ => rfl
      simp only [scalar]
      cases haccept : accept head with
      | error m => simp [haccept]
      | ok a' =>
          rw [hnil ⟨a', haccept⟩]
          simp [haccept, eq_comm]

end Decoder

namespace Node

/-- **A whole number of 32 bits with a sign.** -/
def IsInt32 (t : Node) (n : Int32) : Prop := ∃ l, t = .number l ∧ l.IsInteger n.toInt

/-- **A whole number of 64 bits without a sign.** -/
def IsNatural64 (t : Node) (n : UInt64) : Prop := ∃ l, t = .number l ∧ l.IsInteger n.toNat

/-- **A number**, and the double that it is read as. -/
def IsDouble (t : Node) (x : Float) : Prop := ∃ l, t = .number l ∧ l.double? = some x

/-- **A string.** -/
def IsText (t : Node) (s : String) : Prop := t = .text s

/-- A tree begins as an integer of 64 bits if it is one. -/
theorem head?_eq_integer_iff {n : ℤ} : t.head? = some (.number (.integer n)) ↔
    ∃ l, t = .number l ∧ l.IsInteger n ∧ -2 ^ 63 ≤ n ∧ n < 2 ^ 64 := by
  cases t with
  | number l =>
      simp only [head?, Option.map_eq_some_iff, Head.number.injEq, exists_eq_right, number.injEq,
        exists_eq_left', Literal.number?_eq_integer_iff]
  | _ => simp [head?]

theorem isInt32_unique : Relator.RightUnique IsInt32 := by
  rintro t n n' ⟨l, rfl, h⟩ ⟨l', hl, h'⟩
  cases hl
  exact Int32.toInt_inj.mp (h.unique h')

theorem isNatural64_unique : Relator.RightUnique IsNatural64 := by
  rintro t n n' ⟨l, rfl, h⟩ ⟨l', hl, h'⟩
  cases hl
  exact UInt64.toNat_inj.mp (by exact_mod_cast h.unique h')

theorem isDouble_unique : Relator.RightUnique IsDouble := by
  rintro t x x' ⟨l, rfl, h⟩ ⟨l', hl, h'⟩
  cases hl
  exact Option.some.inj (h.symm.trans h')

theorem isText_unique : Relator.RightUnique IsText := by
  rintro t s s' rfl h'
  exact text.inj h'

end Node

namespace Decoder

variable {d : Decoder α}

/-- A scalar that accepts the integers among the `value a`, and nothing else. -/
theorem reads_integer {accept : Head → Except Mismatch α} {value : α → ℤ}
    (haccept : ∀ head a, accept head = .ok a ↔ head = .number (.integer (value a)))
    (hfits : ∀ a, -2 ^ 63 ≤ value a ∧ value a < 2 ^ 64) :
    (scalar accept).Reads t fun a => ∃ l, t = .number l ∧ l.IsInteger (value a) := by
  refine (reads_scalar (by simp [haccept]) (by simp [haccept])).congr fun a => ?_
  simp only [haccept, exists_eq_right, Node.head?_eq_integer_iff, hfits, and_true]

/-- **Integers of 32 bits are read as themselves**, everything else is refused. -/
theorem reads_int32 : int32.Reads t t.IsInt32 := by
  refine reads_integer (fun head n => ?_) fun n => ?_
  · have hlow := n.le_toInt
    have hhigh := n.toInt_lt
    split
    · rename_i k
      split
      · rename_i hk
        simp only [Except.ok.injEq, Head.number.injEq, Number.integer.injEq]
        constructor
        · rintro rfl
          rw [Int32.toInt_ofInt_of_le (by omega) (by omega)]
        · rintro rfl
          exact n.ofInt_toInt
      · simp only [reduceCtorEq, Head.number.injEq, Number.integer.injEq, false_iff]
        omega
    · rename_i hinteger
      simpa using hinteger n.toInt
  · have hlow := n.le_toInt
    have hhigh := n.toInt_lt
    omega

/-- **Natural numbers of 64 bits are read as themselves**, everything else is refused. -/
theorem reads_natural64 {expected : String} : (natural64 expected).Reads t t.IsNatural64 := by
  refine reads_integer (fun head n => ?_) fun n => ?_
  · have hhigh := n.toNat_lt
    split
    · rename_i k
      split
      · rename_i hk
        simp only [Except.ok.injEq, Head.number.injEq, Number.integer.injEq]
        constructor
        · rintro rfl
          rw [UInt64.toNat_ofNat', Nat.mod_eq_of_lt (by omega), Int.toNat_of_nonneg hk.1]
        · rintro rfl
          rw [Int.toNat_natCast, UInt64.ofNat_toNat]
      · simp only [reduceCtorEq, Head.number.injEq, Number.integer.injEq, false_iff]
        omega
    · rename_i hinteger
      simpa using hinteger n.toNat
  · have hhigh := n.toNat_lt
    omega

/-- **Strings are read as themselves**, everything else is refused. -/
theorem reads_string : string.Reads t t.IsText := by
  refine (reads_scalar (by simp) (by simp)).congr fun s => ?_
  cases t with
  | text s' => simp [Node.head?, Node.IsText]
  | number l => simp [Node.head?, Node.IsText]
  | _ => simp [Node.head?, Node.IsText]

/-- **Numbers are read as doubles**, however they are written. -/
theorem reads_double : double.Reads t t.IsDouble := by
  refine (reads_scalar (by simp) (by simp)).congr fun x => ?_
  cases t with
  | number l =>
      simp only [Node.head?, Node.IsDouble, Node.number.injEq, exists_eq_left']
      by_cases hinteger : ∃ n, l.number? = some (.integer n)
      · obtain ⟨n, hn⟩ := hinteger
        simp [hn, Literal.double?_of_integer hn]
      · rw [Literal.number?_eq_real fun n hn => hinteger ⟨n, hn⟩]
        cases l.double? <;> simp
  | _ => simp [Node.head?, Node.IsDouble]

/-! ## Values made of others -/

end Decoder

/-- Trees mean values together if each of them means one. -/
theorem exists_forall₂_iff {Means : Node → α → Prop} :
    (∃ as, List.Forall₂ Means ts as) ↔ ∀ t ∈ ts, ∃ a, Means t a := by
  induction ts with
  | nil => simp
  | cons t ts ih =>
      rw [List.forall_mem_cons, ← ih]
      constructor
      · rintro ⟨_, ha | ⟨ha, has⟩⟩
        exact ⟨⟨_, ha⟩, _, has⟩
      · rintro ⟨⟨a, ha⟩, as, has⟩
        exact ⟨a :: as, .cons ha has⟩

namespace Node

variable {Means : Node → α → Prop}

/-- **A value or `null`.** -/
def IsOptional (Means : Node → α → Prop) (t : Node) : Option α → Prop
  | none => t = .null
  | some a => Means t a

/-- **An array of values.** -/
def IsArrayOf (Means : Node → α → Prop) (t : Node) (as : List α) : Prop :=
  ∃ ts, t = .array ts ∧ List.Forall₂ Means ts as

theorem isOptional_unique (h : Relator.RightUnique Means) (hnull : ∀ a, ¬Means .null a) :
    Relator.RightUnique (IsOptional Means) := by
  intro t a a' ha ha'
  cases a with
  | none =>
      obtain rfl : t = .null := ha
      cases a' with
      | none => rfl
      | some a' => exact absurd ha' (hnull a')
  | some a =>
      cases a' with
      | none =>
          obtain rfl : t = .null := ha'
          exact absurd ha (hnull a)
      | some a' => exact congrArg some (h ha ha')

theorem isArrayOf_unique (h : Relator.RightUnique Means) : Relator.RightUnique (IsArrayOf Means) := by
  rintro t as as' ⟨ts, rfl, has⟩ ⟨ts', hts, has'⟩
  cases hts
  exact h.forall₂ has has'

end Node

namespace Decoder

variable {d : Decoder α} {Means : Node → α → Prop} {first : Bool} {as : List α}

/-- What does not begin as `null` is read by the other decoder. -/
theorem read_optional (h : ∀ tail, readHead s ≠ .ok (.null, tail)) :
    (optional d).read s = (d.map some).read s := by
  unfold read
  cases hhead : readHead s with
  | error fault => rfl
  | ok r =>
      obtain ⟨head, tail⟩ := r
      cases head with
      | null => exact absurd hhead (h tail)
      | _ => rfl

/-- **`null` is read as nothing**, everything else as a value. -/
theorem reads_optional (h : d.Reads t (Means t)) (hnull : ∀ a, ¬Means .null a) :
    (optional d).Reads t (t.IsOptional Means) := by
  intro s rest hs hrest a rest'
  by_cases htree : t = .null
  · subst htree
    cases hs
    change Except.ok (none, rest) = Except.ok (a, rest') ↔ _
    cases a with
    | none => simp [Node.IsOptional, eq_comm]
    | some a => simp [Node.IsOptional, hnull a]
  · have hhead : ∀ tail, readHead (s ++ rest) ≠ .ok (.null, tail) := by
      intro tail hhead
      obtain ⟨inside, -, hread⟩ := readHead_of_spells hs hrest
      rw [hread] at hhead
      cases t with
      | null => exact htree rfl
      | number l =>
          simp only [Node.head?] at hhead
          cases hnumber : l.number? <;> simp [hnumber] at hhead
      | _ => simp [Node.head?] at hhead
    rw [read_optional hhead, h.map some s rest hs hrest a rest']
    cases a <;> simp [Node.IsOptional, htree]

/-! ### Arrays -/

theorem elements_of_end (h : nextElement first s = .ok (false, rest)) :
    d.elements first s = .ok ([], rest) := by
  unfold elements
  split <;> simp_all

theorem elements_of_next {element : List Char} (h : nextElement first s = .ok (true, element)) :
    d.elements first s = match d.read element with
      | .error fault => .error fault
      | .ok (a, tail) => (d.elements false tail).map fun r => (a :: r.1, r.2) := by
  rw [elements]
  split <;> simp_all
  split <;> simp_all
  split <;> simp_all [Except.map]

/-- The bracket that closes an array. -/
theorem nextElement_of_blanks (h : AreBlanks b) :
    nextElement first (b ++ ']' :: rest) = .ok (false, rest) := by
  unfold nextElement
  rw [skipBlank_append h, skipBlank_cons rfl]
  rfl

/-- The comma before another element. -/
theorem nextElement_of_comma (h : AreBlanks b) :
    nextElement false (b ++ ',' :: rest) = .ok (true, rest) := by
  unfold nextElement
  rw [skipBlank_append h, skipBlank_cons rfl]
  rfl

/-- The first element of an array. -/
theorem nextElement_of_spells {before : List Char} (hbefore : AreBlanks before) (hs : Spells t s) :
    nextElement true (before ++ (s ++ rest)) = .ok (true, s ++ rest) := by
  obtain ⟨c, tail, rfl, hblank, hclose⟩ := exists_cons_of_spells hs
  unfold nextElement
  rw [skipBlank_append hbefore, List.cons_append, skipBlank_cons hblank]
  split
  · rename_i heq; cases heq
  · rename_i heq; exact absurd (List.cons.inj heq).1 hclose
  · rename_i heq
    obtain ⟨rfl, rfl⟩ := List.cons.inj heq
    rfl

/-- What an array holds from an element on is what this element means and what the rest holds. -/
theorem elements_eq_ok_iff {x y tail : List Char} (hnext : nextElement first x = .ok (true, y))
    (hs : Spells t s) (htail : Ends tail) (hy : d.read y = d.read (s ++ tail))
    (hreads : d.Reads t (Means t)) :
    d.elements first x = .ok (as, rest') ↔
      ∃ a as', Means t a ∧ d.elements false tail = .ok (as', rest') ∧ as = a :: as' := by
  rw [elements_of_next hnext, hy]
  obtain ⟨a, ha, hunique, hd⟩ | ⟨hnone, fault, hd⟩ := hreads.cases hs htail
  · rw [hd]
    constructor
    · intro h
      cases helements : d.elements false tail with
      | error fault => simp [helements, Except.map] at h
      | ok r =>
          simp only [helements, Except.map, Except.ok.injEq, Prod.mk.injEq] at h
          obtain ⟨rfl, rfl⟩ := h
          exact ⟨a, r.1, ha, rfl, rfl⟩
    · rintro ⟨a', as', ha', helements, rfl⟩
      simp only [hunique a' ha', helements, Except.map]
  · simp [hd, hnone]

/-- **The elements of an array are read one after the other**, up to the closing bracket. -/
theorem elements_of_spells {inner x y : List Char} (h : SpellsElements (t :: ts) inner)
    (hreads : ∀ t' ∈ t :: ts, d.Reads t' (Means t')) (hnext : nextElement first x = .ok (true, y))
    (hy : d.read y = d.read (inner ++ ']' :: rest)) :
    d.elements first x = .ok (as, rest') ↔ List.Forall₂ Means (t :: ts) as ∧ rest' = rest := by
  induction ts generalizing t inner first x y as with
  | nil =>
      cases h with
      | @last _ before s after hbefore hs hafter =>
          have hends : Ends (after ++ ']' :: rest) := .append hafter (by rintro c ⟨rfl⟩; decide)
          have hy' : d.read y = d.read (s ++ (after ++ ']' :: rest)) := by
            rw [hy, List.append_assoc, read_append d hbefore, List.append_assoc]
          rw [elements_eq_ok_iff hnext hs hends hy' (hreads t List.mem_cons_self),
            elements_of_end (nextElement_of_blanks hafter)]
          constructor
          · rintro ⟨a, as', ha, hok, rfl⟩
            obtain ⟨rfl, rfl⟩ := Prod.mk.inj (Except.ok.inj hok)
            exact ⟨.cons ha .nil, rfl⟩
          · rintro ⟨hall, rfl⟩
            cases hall with
            | cons ha hnil =>
                cases hnil
                exact ⟨_, [], ha, rfl, rfl⟩
  | cons next ts ih =>
      cases h with
      | @cons _ _ _ before s after tail hbefore hs hafter htail =>
          have hends : Ends (after ++ ',' :: (tail ++ ']' :: rest)) :=
            .append hafter (by rintro c ⟨rfl⟩; decide)
          have hy' : d.read y = d.read (s ++ (after ++ ',' :: (tail ++ ']' :: rest))) := by
            rw [hy, List.append_assoc, read_append d hbefore]
            simp only [List.append_assoc, List.cons_append]
          rw [elements_eq_ok_iff hnext hs hends hy' (hreads t List.mem_cons_self)]
          have hrest : ∀ as, d.elements false (after ++ ',' :: (tail ++ ']' :: rest)) = .ok (as, rest') ↔
              List.Forall₂ Means (next :: ts) as ∧ rest' = rest := fun as =>
            ih htail (fun t' ht' => hreads t' (List.mem_cons_of_mem _ ht')) (nextElement_of_comma hafter)
              rfl
          simp only [hrest]
          constructor
          · rintro ⟨a, as', ha, ⟨hall, rfl⟩, rfl⟩
            exact ⟨.cons ha hall, rfl⟩
          · rintro ⟨hall, rfl⟩
            cases hall with
            | cons ha hall => exact ⟨_, _, ha, ⟨hall, rfl⟩, rfl⟩

/-- **An array is read element by element**, everything else is refused. -/
theorem reads_array (hreads : ∀ ts, t = .array ts → ∀ t' ∈ ts, d.Reads t' (Means t')) :
    (array d).Reads t (t.IsArrayOf Means) := by
  by_cases harray : ∃ ts, t = .array ts
  · obtain ⟨ts, rfl⟩ := harray
    have hmeans : ∀ as, (Node.array ts).IsArrayOf Means as ↔ List.Forall₂ Means ts as := by
      simp [Node.IsArrayOf]
    refine reads_of_ofHead rfl fun inside rest hinside _ as rest' => ?_
    cases hinside with
    | @array _ inner hinner =>
        rw [hmeans, List.append_assoc, List.singleton_append]
        change d.elements true (inner ++ ']' :: rest) = .ok (as, rest') ↔ _
        cases ts with
        | nil =>
            cases hinner with
            | nil hblank =>
                rw [elements_of_end (nextElement_of_blanks hblank)]
                simp [eq_comm]
        | cons t ts =>
            obtain ⟨before, s, tail, hbefore, hs, rfl⟩ := hinner.exists_append
            rw [List.append_assoc, List.append_assoc]
            refine elements_of_spells hinner (hreads _ rfl) (nextElement_of_spells hbefore hs) ?_
            rw [List.append_assoc, read_append d hbefore, List.append_assoc]
  · refine (reads_none fun head hhead s r => ?_).congr fun as => ?_
    · cases head with
      | array => exact absurd (Node.head?_eq_array_iff.mp hhead) harray
      | _ => simp [array]
    · simp only [Node.IsArrayOf, false_iff]
      rintro ⟨ts, hts, -⟩
      exact harray ⟨ts, hts⟩

end Decoder

/-! ## Whole texts -/

/-- **A whole text is read as its tree is**, whatever blanks are around it. -/
theorem document_eq_ok_iff {d : Decoder α} {text : String} {Means : α → Prop} {a : α}
    (h : IsDocument t text.toList) (hreads : d.Reads t Means) :
    document d.read text = .ok a ↔ Means a := by
  unfold document
  generalize text.toList = chars at h
  cases h with
  | @mk before s after hbefore hs hafter =>
      have hends : Ends after := by simpa using Ends.append hafter (s := []) (by rintro c ⟨⟩)
      have hblank : skipBlank after = [] := by simpa using skipBlank_append (s := []) hafter
      rw [Decoder.read_append d hbefore]
      obtain ⟨a', ha', hunique, hd⟩ | ⟨hnone, fault, hd⟩ := hreads.cases hs hends
      · simp only [hd, hblank, List.isEmpty_nil, if_true, Except.ok.injEq]
        constructor
        · rintro rfl
          exact ha'
        · exact fun ha => (hunique a ha).symm
      · simp [hd, hnone]

end TurnByTurn.Json
