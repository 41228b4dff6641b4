import TurnByTurn.Guidance.Sentence
import TurnByTurn.Proofs.Phrases.Bundles

/-! # The sentences of the built-in languages

With the built-in phrases the driver reads whole sentences of one language, into which the street's name is
put as it is.

* **`Locale.IsGerman`** — the locales that are answered in German.
* **`Language.sentence`** — the sentences of a language.
* **`Language.phrases`** — the phrases of a language, as they are put together.
* **`exists_language`** — every locale is answered in one language, and every turn in its sentence. -/

namespace TurnByTurn

/-! ## Languages -/

/-- **The locales that are answered in German**: what comes before the first `_` or `-` is `de` in small
letters. -/
def Locale.IsGerman (locale : String) : Prop :=
  ∃ before after, locale.toList = before ++ after ∧ (∀ c ∈ before, c ≠ '_' ∧ c ≠ '-') ∧
    (∀ c ∈ after.head?, c = '_' ∨ c = '-') ∧ Text.lowercase (.ofList before) = "de"

/-- The language of a locale is `de` exactly when it is answered in German. -/
theorem Locale.language_eq_iff {locale : String} : language locale = "de" ↔ IsGerman locale := by
  constructor
  · intro h
    obtain ⟨hlocale, hbefore, hafter⟩ := takeWhile_dropWhile_eq_iff.mp
      ⟨rfl, Eq.refl (locale.toList.dropWhile fun c => c ≠ '_' && c ≠ '-')⟩
    exact ⟨_, _, hlocale, fun c hc => by simpa using hbefore c hc,
      fun c hc => by simpa [Classical.or_iff_not_imp_left] using hafter c hc, h⟩
  · rintro ⟨before, after, hlocale, hbefore, hafter, hlower⟩
    obtain ⟨htake, -⟩ : locale.toList.takeWhile (fun c => c ≠ '_' && c ≠ '-') = before ∧ _ :=
      takeWhile_dropWhile_eq_iff.mpr ⟨hlocale, fun c hc => by simpa using hbefore c hc,
        fun c hc => by simpa [Classical.or_iff_not_imp_left] using hafter c hc⟩
    rw [language, htake, hlower]

/-- A built-in language. -/
inductive Language where
  | english
  | german
deriving DecidableEq

namespace Language

open Template (Part)

/-- What a turn in a direction is called, into a street or not. -/
def turning (street direction : String) : Language → String
  | english => if street = "" then "turn " ++ direction else "turn " ++ direction ++ " onto " ++ street
  | german =>
      if street = "" then direction ++ " abbiegen" else direction ++ " abbiegen auf " ++ street

/-- **The sentences of a language.** -/
def sentence (street : String) : Language → Turn → String
  | english, .sharpLeft => turning street "sharp left" english
  | english, .left => turning street "left" english
  | english, .slightLeft => turning street "slight left" english
  | english, .straight => if street = "" then "continue" else "continue onto " ++ street
  | english, .slightRight => turning street "slight right" english
  | english, .right => turning street "right" english
  | english, .sharpRight => turning street "sharp right" english
  | english, .finish => "finish!"
  | english, .reachedVia position => "stopover " ++ toString position.toNat
  | german, .sharpLeft => turning street "scharf links" german
  | german, .left => turning street "links" german
  | german, .slightLeft => turning street "leicht links" german
  | german, .straight => if street = "" then "geradeaus" else "geradeaus auf " ++ street
  | german, .slightRight => turning street "leicht rechts" german
  | german, .right => turning street "rechts" german
  | german, .sharpRight => turning street "scharf rechts" german
  | german, .finish => "Ziel erreicht!"
  | german, .reachedVia position => "Zwischenziel " ++ toString position.toNat ++ " erreicht"

/-! ## Phrases -/

/-- The place of the first parameter. -/
def first : Part := .numbered ['1'] ⟨List.forall_mem_singleton.mpr (by decide), by decide +kernel⟩

/-- The place of the second parameter. -/
def second : Part := .numbered ['2'] ⟨List.forall_mem_singleton.mpr (by decide), by decide +kernel⟩

/-- A text shows itself. -/
theorem ofList_shown_text (params : List String) (before : ℕ) (s : String) :
    .ofList ((Part.text s).shown params before) = s := String.ofList_toList

/-- The place of the first parameter shows it. -/
theorem ofList_shown_first (a : String) (params : List String) (before : ℕ) :
    .ofList (first.shown (a :: params) before) = a := String.ofList_toList

/-- The place of the second parameter shows it. -/
theorem ofList_shown_second (a b : String) (params : List String) (before : ℕ) :
    .ofList (second.shown (a :: b :: params) before) = b := String.ofList_toList

/-- **The phrases of a language**, put together from texts and places. -/
def phrases : Language → List (String × List Part)
  | english => [
      ("turn", [.text "turn ", first]),
      ("turn_onto", [.text "turn ", first, .text " onto ", second]),
      ("continue", [.text "continue"]),
      ("continue_onto", [.text "continue onto ", first]),
      ("finish", [.text "finish!"]),
      ("stopover", [.text "stopover ", first]),
      ("sharp_left", [.text "sharp left"]),
      ("left", [.text "left"]),
      ("slight_left", [.text "slight left"]),
      ("slight_right", [.text "slight right"]),
      ("right", [.text "right"]),
      ("sharp_right", [.text "sharp right"])]
  | german => [
      ("turn", [first, .text " abbiegen"]),
      ("turn_onto", [first, .text " abbiegen auf ", second]),
      ("continue", [.text "geradeaus"]),
      ("continue_onto", [.text "geradeaus auf ", first]),
      ("finish", [.text "Ziel erreicht!"]),
      ("stopover", [.text "Zwischenziel ", first, .text " erreicht"]),
      ("sharp_left", [.text "scharf links"]),
      ("left", [.text "links"]),
      ("slight_left", [.text "leicht links"]),
      ("slight_right", [.text "leicht rechts"]),
      ("right", [.text "rechts"]),
      ("sharp_right", [.text "scharf rechts"])]

/-- The bundle of a language. -/
def bundle : Language → Bundle
  | english => .read Locale.default Locale.english
  | german => .read "de" Locale.german

/-- The bundle of a language binds its phrases. -/
theorem bindings_bundle (language : Language) :
    language.bundle.bindings
      = language.phrases.map fun entry => (entry.1, .ofList (entry.2.flatMap Part.spelled)) := by
  cases language with
  | english => rw [bundle, Locale.english, Bundle.bindings_read_intercalate]; decide +kernel
  | german => rw [bundle, Locale.german, Bundle.bindings_read_intercalate]; decide +kernel

/-- The keys of a language are in small letters. -/
theorem lowercase_key (language : Language) :
    ∀ entry ∈ language.phrases, Text.lowercase entry.1 = entry.1 := by
  cases language <;> decide +kernel

/-- Every key of a language has one phrase. -/
theorem find?_key (language : Language) :
    ∀ entry ∈ language.phrases, language.phrases.reverse.find? (·.1 = entry.1) = some entry := by
  cases language <;> simp [phrases]

/-- **The bundle of a language has its phrases.** -/
theorem template?_bundle {language : Language} {entry : String × List Part}
    (h : entry ∈ language.phrases) :
    language.bundle.template? entry.1 = some (.ofList (entry.2.flatMap Part.spelled)) := by
  rw [Bundle.template?, bindings_bundle, ← List.map_reverse, List.find?_map, Function.comp_def,
    lowercase_key language entry h, find?_key language entry h]
  rfl

/-- **What a language shows for a key**: the parts of its phrase, one after the other. -/
theorem phrase_bundle {language : Language} {key : String} {parts : List Part}
    (h : (key, parts) ∈ language.phrases) (params : List String) :
    language.bundle.phrase key params
      = String.join (parts.mapIdx fun i part =>
          .ofList (part.shown params ((parts.take i).count .next))) := by
  have hne : String.ofList (parts.flatMap Part.spelled) ≠ "" := by
    have hall : ∀ entry ∈ language.phrases, entry.2.flatMap Part.spelled ≠ [] := by
      cases language <;> decide
    intro hempty
    exact hall _ h (by simpa using congrArg String.toList hempty)
  simp only [Bundle.phrase, template?_bundle h, if_neg hne, Template.format_flatMap_spelled]
  refine String.toList_inj.mp ?_
  simp [String.toList_join, List.flatMap_def, List.mapIdx_eq_zipIdx_map, Function.comp_def]

/-- A phrase without places is shown as it is. -/
theorem phrase_text {language : Language} {key s : String} (h : (key, [.text s]) ∈ language.phrases) :
    language.bundle.phrase key [] = s := by
  rw [phrase_bundle h]
  simp [ofList_shown_text]

/-- A phrase that ends in its only place. -/
theorem phrase_text_first {language : Language} {key s : String}
    (h : (key, [.text s, first]) ∈ language.phrases) (a : String) :
    language.bundle.phrase key [a] = s ++ a := by
  rw [phrase_bundle h]
  simp [ofList_shown_text, ofList_shown_first]

/-- What a turn without a street is called. -/
theorem phrase_turn (language : Language) (direction : String) :
    language.bundle.phrase "turn" [direction] = turning "" direction language := by
  cases language with
  | english => exact phrase_text_first (by simp [phrases]) direction
  | german =>
      have hphrase : ("turn", [first, .text " abbiegen"]) ∈ phrases german := by simp [phrases]
      rw [phrase_bundle hphrase]
      simp [ofList_shown_text, ofList_shown_first, turning]

/-- What a turn into a street is called. -/
theorem phrase_turn_onto (language : Language) (direction : String) {street : String} (h : street ≠ "") :
    language.bundle.phrase "turn_onto" [direction, street] = turning street direction language := by
  cases language with
  | english =>
      have hphrase : ("turn_onto", [.text "turn ", first, .text " onto ", second]) ∈ phrases english := by
        simp [phrases]
      rw [phrase_bundle hphrase]
      simp [ofList_shown_text, ofList_shown_first, ofList_shown_second, turning, h, String.append_assoc]
  | german =>
      have hphrase : ("turn_onto", [first, .text " abbiegen auf ", second]) ∈ phrases german := by
        simp [phrases]
      rw [phrase_bundle hphrase]
      simp [ofList_shown_text, ofList_shown_first, ofList_shown_second, turning, h, String.append_assoc]

/-- **A turn in a direction is called as its language calls it.** -/
theorem turning_bundle {language : Language} {key direction : String}
    (h : (key, [.text direction]) ∈ language.phrases) (street : String) :
    Turn.turning (.ofBundle language.bundle) street key = turning street direction language := by
  simp only [Turn.turning, Phrasebook.ofBundle, phrase_text h]
  by_cases hstreet : street = ""
  · rw [if_pos hstreet, hstreet, phrase_turn]
  · rw [if_neg hstreet, phrase_turn_onto _ _ hstreet]

/-- Going straight on is called as its language calls it, into a street or not. -/
theorem straight_bundle {language : Language} {alone onto : String}
    (halone : ("continue", [.text alone]) ∈ language.phrases)
    (honto : ("continue_onto", [.text onto, first]) ∈ language.phrases) (street : String) :
    Turn.sentence (.ofBundle language.bundle) street .straight
      = if street = "" then alone else onto ++ street := by
  simp only [Turn.sentence, Phrasebook.ofBundle, phrase_text halone, phrase_text_first honto]

/-- The end of the route is called as its language calls it. -/
theorem finish_bundle {language : Language} {s : String}
    (h : ("finish", [.text s]) ∈ language.phrases) (street : String) :
    Turn.sentence (.ofBundle language.bundle) street .finish = s := by
  simp only [Turn.sentence, Phrasebook.ofBundle, phrase_text h]

/-- A via point is called by its position. -/
theorem reachedVia_bundle (language : Language) (street : String) (position : UInt64) :
    Turn.sentence (.ofBundle language.bundle) street (.reachedVia position)
      = language.sentence street (.reachedVia position) := by
  simp only [Turn.sentence, Phrasebook.ofBundle]
  cases language with
  | english =>
      have hphrase : ("stopover", [.text "stopover ", first]) ∈ phrases english := by simp [phrases]
      rw [phrase_text_first hphrase]
      rfl
  | german =>
      have hphrase : ("stopover", [.text "Zwischenziel ", first, .text " erreicht"]) ∈ phrases german := by
        simp [phrases]
      rw [phrase_bundle hphrase]
      simp [ofList_shown_text, ofList_shown_first, sentence, String.append_assoc]

/-- **The phrases of a language make its sentences.** -/
theorem sentence_bundle (language : Language) (turn : Turn) (street : String) :
    turn.sentence (.ofBundle language.bundle) street = language.sentence street turn := by
  cases turn with
  | reachedVia position => exact reachedVia_bundle language street position
  | straight => cases language <;> exact straight_bundle (by simp [phrases]) (by simp [phrases]) street
  | finish => cases language <;> exact finish_bundle (by simp [phrases, sentence]) street
  | _ => cases language <;> exact turning_bundle (by simp [phrases]) street

end Language

/-- A name that looks like a place is put into the sentence as it is. -/
example : Turn.sentence (.ofBundle Language.german.bundle) "%1$s=%s" .slightLeft
    = "leicht links abbiegen auf %1$s=%s" := by
  rw [Language.sentence_bundle]
  decide +kernel

end TurnByTurn
