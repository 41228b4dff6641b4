import TurnByTurn.Proofs.Json.Numerals

/-! # Writing values

The texts of a value, the compact one and the one on lines, are texts of the grammar, and their trees say
what the value says.

* **`spellsText_textChars`** — strings are written with the escapes of the grammar.
* **`Value.Says`** — the trees that say what a value says.
* **`exists_isDocument_compact`**, **`exists_isDocument_pretty`** — every value is written as such a tree. -/

namespace TurnByTurn.Json

/-! ## Strings -/

/-- Small digits of base sixteen. -/
theorem isHexDigit_hexDigit (n : ℕ) : IsHexDigit (Text.hexDigit n) (n % 16) := by
  have hall : ∀ i : Fin 16, "0123456789abcdef".toList[i.val]? = some (Text.hexDigit i.val) := by decide
  have hmod : Text.hexDigit n = Text.hexDigit (n % 16) := by simp [Text.hexDigit]
  rw [hmod]
  exact .inl (hall ⟨n % 16, Nat.mod_lt _ (by decide)⟩)

/-- **A character is written in one of its ways.** -/
theorem spellsChar_escape (c : Char) : SpellsChar c (Value.escape c) := by
  unfold Value.escape
  -- seven characters have a letter of their own
  iterate 7
    split
    · rename_i h
      subst h
      exact .letter (by decide)
  split
  · rename_i hquote hbackslash _ _ _ _ _ hcontrol
    have hzero : IsHexDigit '0' 0 := .inl rfl
    have hdigits := AreHexDigits.mk hzero hzero (isHexDigit_hexDigit (c.toNat / 16))
      (isHexDigit_hexDigit c.toNat)
    have hvalue : 4096 * 0 + 256 * 0 + 16 * (c.toNat / 16 % 16) + c.toNat % 16 = c.toNat := by omega
    rw [hvalue] at hdigits
    have hspells := SpellsChar.number hdigits (by omega)
    rwa [Char.ofNat_toNat] at hspells
  · rename_i hquote hbackslash _ _ _ _ _ hcontrol
    exact .plain hquote hbackslash (by omega)

theorem spellsChars_flatMap (cs : List Char) : SpellsChars cs (cs.flatMap Value.escape) := by
  induction cs with
  | nil => exact .nil
  | cons c cs ih =>
      rw [List.flatMap_cons]
      exact .cons (spellsChar_escape c) ih

/-- **A string is written in one of its ways.** -/
theorem spellsText_textChars (s : String) : SpellsText s (Value.textChars s) :=
  .mk (spellsChars_flatMap s.toList)

/-! ## Values -/

mutual

/-- **The trees that say what a value says.** A double is said by the number of its text, to which it is
nearest, and doubles that are not finite are not said. -/
inductive Value.Says : Value → Node → Prop
  | null : Says .null .null
  | bool {b : Bool} : Says (.bool b) (.bool b)
  | integer {n : ℤ} {l : Literal} : l.IsInteger n → Says (.integer n) (.number l)
  | real {x : Float} {l : Literal} : l.Spells (realChars x) → l.nearest? = some x → Says (.real x) (.number l)
  | notFinite {x : Float} : x.isFinite = false → Says (.real x) .null
  | text {s : String} : Says (.text s) (.text s)
  | array {vs : List Value} {ts : List Node} : SaysElements vs ts → Says (.array vs) (.array ts)
  | object {fs : List (String × Value)} {ms : List (String × Node)} : SaysFields fs ms →
      Says (.object fs) (.object ms)

/-- Elements are said one by one. -/
inductive Value.SaysElements : List Value → List Node → Prop
  | nil : SaysElements [] []
  | cons {v : Value} {vs : List Value} {t : Node} {ts : List Node} : v.Says t → SaysElements vs ts →
      SaysElements (v :: vs) (t :: ts)

/-- Fields are said one by one, under their keys. -/
inductive Value.SaysFields : List (String × Value) → List (String × Node) → Prop
  | nil : SaysFields [] []
  | cons {key : String} {v : Value} {fs : List (String × Value)} {t : Node} {ms : List (String × Node)} :
      v.Says t → SaysFields fs ms → SaysFields ((key, v) :: fs) ((key, t) :: ms)

end

/-- No blanks. -/
theorem areBlanks_nil : AreBlanks [] := by
  intro c hc
  cases hc

/-- A field is written as a member. -/
theorem spellsMember_field (key : String) {v : Value} {t : Node} (h : Spells t v.compactChars) :
    SpellsMember (key, t) (Value.textChars key ++ ':' :: v.compactChars) :=
  .mk areBlanks_nil (spellsText_textChars key) areBlanks_nil areBlanks_nil h

/-- What is not finite is written as `null`. -/
theorem realChars_of_not_finite {x : Float} (hx : x.isFinite = false) :
    Value.realChars x = ['n', 'u', 'l', 'l'] := by
  change (Binary64.view x).isFinite = false at hx
  unfold Value.realChars Layout.write
  cases hview : Binary64.view x with
  | notANumber => rfl
  | infinity s => rfl
  | zero s => rw [hview] at hx; cases hx
  | finite s m e hm => rw [hview] at hx; cases hx

mutual

/-- **Every value is written as a tree that says the same.** -/
theorem exists_spells_compactChars : (v : Value) → ∃ t, Spells t v.compactChars ∧ v.Says t
  | .null => ⟨.null, .null, .null⟩
  | .bool true => ⟨.bool true, .true, .bool⟩
  | .bool false => ⟨.bool false, .false, .bool⟩
  | .integer n => by
      obtain ⟨l, hspells, hl⟩ := exists_literal_integer n
      exact ⟨.number l, .number hspells, .integer hl⟩
  | .real x => by
      cases hx : x.isFinite with
      | true =>
          obtain ⟨l, hspells, hl⟩ := exists_literal_real hx
          exact ⟨.number l, .number hspells, .real hspells hl⟩
      | false =>
          refine ⟨.null, ?_, .notFinite hx⟩
          rw [Value.compactChars, realChars_of_not_finite hx]
          exact .null
  | .text s => ⟨.text s, .text (spellsText_textChars s), .text⟩
  | .array vs => by
      obtain ⟨ts, hspells, hmeans⟩ := exists_spells_compactElements vs
      exact ⟨.array ts, .array hspells, .array hmeans⟩
  | .object fs => by
      obtain ⟨ms, hspells, hmeans⟩ := exists_spells_compactFields fs
      exact ⟨.object ms, .object hspells, .object hmeans⟩

/-- Elements are written with commas between them. -/
theorem exists_spells_compactElements : (vs : List Value) →
    ∃ ts, SpellsElements ts (Value.compactElements vs) ∧ Value.SaysElements vs ts
  | [] => ⟨[], .nil areBlanks_nil, .nil⟩
  | [v] => by
      obtain ⟨t, hspells, hmeans⟩ := exists_spells_compactChars v
      refine ⟨[t], ?_, .cons hmeans .nil⟩
      simpa [Value.compactElements] using SpellsElements.last areBlanks_nil hspells areBlanks_nil
  | v :: w :: vs => by
      obtain ⟨t, hspells, hmeans⟩ := exists_spells_compactChars v
      obtain ⟨ts, hrest, hmeansRest⟩ := exists_spells_compactElements (w :: vs)
      cases hmeansRest with
      | cons hmeans' hrestMeans =>
          refine ⟨_ :: _ :: _, ?_, .cons hmeans (.cons hmeans' hrestMeans)⟩
          exact SpellsElements.cons areBlanks_nil hspells areBlanks_nil hrest

/-- Fields are written with commas between them. -/
theorem exists_spells_compactFields : (fs : List (String × Value)) →
    ∃ ms, SpellsMembers ms (Value.compactFields fs) ∧ Value.SaysFields fs ms
  | [] => ⟨[], .nil areBlanks_nil, .nil⟩
  | [(key, v)] => by
      obtain ⟨t, hspells, hmeans⟩ := exists_spells_compactChars v
      refine ⟨[(key, t)], ?_, .cons hmeans .nil⟩
      simpa [Value.compactFields] using
        SpellsMembers.last (spellsMember_field key hspells) areBlanks_nil
  | (key, v) :: f :: fs => by
      obtain ⟨t, hspells, hmeans⟩ := exists_spells_compactChars v
      obtain ⟨ms, hrest, hmeansRest⟩ := exists_spells_compactFields (f :: fs)
      cases hmeansRest with
      | cons hmeans' hrestMeans =>
          refine ⟨_ :: _ :: _, ?_, .cons hmeans (.cons hmeans' hrestMeans)⟩
          exact SpellsMembers.cons (spellsMember_field key hspells) areBlanks_nil hrest

end

/-! ## Values on lines -/

/-- The beginning of a line is blank. -/
theorem areBlanks_newLine (depth : ℕ) : AreBlanks (Value.newLine depth) := by
  intro c hc
  rcases List.mem_cons.mp hc with rfl | hspace
  · decide
  · rw [List.eq_of_mem_replicate hspace]
    decide

/-- A field is written as a member on a line of its own. -/
theorem spellsMember_line (key : String) {t : Node} {s : List Char} (depth : ℕ) (h : Spells t s) :
    SpellsMember (key, t) (Value.newLine depth ++ (Value.textChars key ++ ':' :: ' ' :: s)) :=
  .mk (areBlanks_newLine depth) (spellsText_textChars key) areBlanks_nil
    (show AreBlanks [' '] from by intro c hc; simp_all) h

mutual

/-- **Every value is written on lines as a tree that says the same.** -/
theorem exists_spells_prettyChars (depth : ℕ) :
    (v : Value) → ∃ t, Spells t (v.prettyChars depth) ∧ v.Says t
  | .null => exists_spells_compactChars .null
  | .bool b => exists_spells_compactChars (.bool b)
  | .integer n => exists_spells_compactChars (.integer n)
  | .real x => exists_spells_compactChars (.real x)
  | .text s => exists_spells_compactChars (.text s)
  | .array [] => ⟨.array [], .array (.nil areBlanks_nil), .array .nil⟩
  | .array (v :: vs) => by
      obtain ⟨ts, hspells, hmeans⟩ := exists_spells_prettyElements (depth + 1) (v :: vs) (by simp)
      exact ⟨.array ts, .array (hspells _ (areBlanks_newLine depth)), .array hmeans⟩
  | .object [] => ⟨.object [], .object (.nil areBlanks_nil), .object .nil⟩
  | .object (f :: fs) => by
      obtain ⟨ms, hspells, hmeans⟩ := exists_spells_prettyFields (depth + 1) (f :: fs) (by simp)
      exact ⟨.object ms, .object (hspells _ (areBlanks_newLine depth)), .object hmeans⟩

/-- Elements are written on lines of their own, with blanks after the last one. -/
theorem exists_spells_prettyElements (depth : ℕ) : (vs : List Value) → vs ≠ [] →
    ∃ ts, (∀ after, AreBlanks after → SpellsElements ts (Value.prettyElements depth vs ++ after)) ∧
      Value.SaysElements vs ts
  | [], hne => absurd rfl hne
  | [v], _ => by
      obtain ⟨t, hspells, hmeans⟩ := exists_spells_prettyChars depth v
      refine ⟨[t], fun after hafter => ?_, .cons hmeans .nil⟩
      simpa [Value.prettyElements] using
        SpellsElements.last (areBlanks_newLine depth) hspells hafter
  | v :: w :: vs, _ => by
      obtain ⟨t, hspells, hmeans⟩ := exists_spells_prettyChars depth v
      obtain ⟨ts, hrest, hmeansRest⟩ := exists_spells_prettyElements depth (w :: vs) (by simp)
      cases hmeansRest with
      | cons hmeans' hrestMeans =>
          refine ⟨_ :: _ :: _, fun after hafter => ?_, .cons hmeans (.cons hmeans' hrestMeans)⟩
          simpa [Value.prettyElements] using
            SpellsElements.cons (areBlanks_newLine depth) hspells areBlanks_nil (hrest after hafter)

/-- Fields are written on lines of their own, with blanks after the last one. -/
theorem exists_spells_prettyFields (depth : ℕ) : (fs : List (String × Value)) → fs ≠ [] →
    ∃ ms, (∀ after, AreBlanks after → SpellsMembers ms (Value.prettyFields depth fs ++ after)) ∧
      Value.SaysFields fs ms
  | [], hne => absurd rfl hne
  | [(key, v)], _ => by
      obtain ⟨t, hspells, hmeans⟩ := exists_spells_prettyChars depth v
      refine ⟨[(key, t)], fun after hafter => ?_, .cons hmeans .nil⟩
      simpa [Value.prettyFields] using
        SpellsMembers.last (spellsMember_line key depth hspells) hafter
  | (key, v) :: f :: fs, _ => by
      obtain ⟨t, hspells, hmeans⟩ := exists_spells_prettyChars depth v
      obtain ⟨ms, hrest, hmeansRest⟩ := exists_spells_prettyFields depth (f :: fs) (by simp)
      cases hmeansRest with
      | cons hmeans' hrestMeans =>
          refine ⟨_ :: _ :: _, fun after hafter => ?_, .cons hmeans (.cons hmeans' hrestMeans)⟩
          simpa [Value.prettyFields] using
            SpellsMembers.cons (spellsMember_line key depth hspells) areBlanks_nil
              (hrest after hafter)

end

/-! ## Whole texts -/

/-- A text of a tree is a whole text. -/
theorem isDocument_of_spells {t : Node} {s : List Char} (h : Spells t s) : IsDocument t s := by
  simpa using IsDocument.mk areBlanks_nil h areBlanks_nil

/-- **The compact text of a value is a JSON text** that says the same. -/
theorem exists_isDocument_compact (v : Value) : ∃ t, IsDocument t v.compact.toList ∧ v.Says t := by
  obtain ⟨t, hspells, hmeans⟩ := exists_spells_compactChars v
  exact ⟨t, by rw [Value.compact, String.toList_ofList]; exact isDocument_of_spells hspells, hmeans⟩

/-- **The text of a value on lines is a JSON text** that says the same. -/
theorem exists_isDocument_pretty (v : Value) : ∃ t, IsDocument t v.pretty.toList ∧ v.Says t := by
  obtain ⟨t, hspells, hmeans⟩ := exists_spells_prettyChars 0 v
  exact ⟨t, by rw [Value.pretty, String.toList_ofList]; exact isDocument_of_spells hspells, hmeans⟩

end TurnByTurn.Json
