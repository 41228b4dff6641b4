import TurnByTurn.Phrases.Bundle

/-! # Built-in languages

English and German bundles come with the library.

* **`Locale.language`** — the language that a locale names.
* **`Locale.bundle`** — the built-in bundle for a locale, English for languages that have none. -/

namespace TurnByTurn.Locale

/-- The locale of those who name none. -/
def default : String := "en"

/-- The English phrases. -/
def english : String := String.intercalate "\n" [
  "# English",
  "turn=turn %1$s",
  "turn_onto=turn %1$s onto %2$s",
  "continue=continue",
  "continue_onto=continue onto %1$s",
  "finish=finish!",
  "stopover=stopover %1$s",
  "sharp_left=sharp left",
  "left=left",
  "slight_left=slight left",
  "slight_right=slight right",
  "right=right",
  "sharp_right=sharp right"]

/-- The German phrases. -/
def german : String := String.intercalate "\n" [
  "# Deutsch",
  "turn=%1$s abbiegen",
  "turn_onto=%1$s abbiegen auf %2$s",
  "continue=geradeaus",
  "continue_onto=geradeaus auf %1$s",
  "finish=Ziel erreicht!",
  "stopover=Zwischenziel %1$s erreicht",
  "sharp_left=scharf links",
  "left=links",
  "slight_left=leicht links",
  "slight_right=leicht rechts",
  "right=rechts",
  "sharp_right=scharf rechts"]

/-- **The language that a locale names**: what comes before the first `_` or `-`, in small letters. -/
def language (locale : String) : String :=
  Text.lowercase (.ofList (locale.toList.takeWhile fun c => c ≠ '_' && c ≠ '-'))

/-- **The built-in bundle for a locale.** A language that is not built in is answered in English. -/
def bundle (locale : String) : Bundle :=
  if language locale = "de" then .read "de" german else .read default english

end TurnByTurn.Locale
