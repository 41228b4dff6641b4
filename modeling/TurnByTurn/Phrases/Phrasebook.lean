import TurnByTurn.Phrases.Locale

/-! # Phrasebooks

A phrasebook has a text for every message key. Usually a bundle stands behind it; `Phrasebook.keys` shows
which key was asked for instead. -/

namespace TurnByTurn

/-- **Something that has a text for every key.** -/
structure Phrasebook where
  locale : String
  phrase : String → List String → String

namespace Phrasebook

/-- The phrasebook with the phrases of a bundle. -/
def ofBundle (bundle : Bundle) : Phrasebook := ⟨bundle.locale, bundle.phrase⟩

/-- **Shows keys and parameters themselves**, as in `turn_onto(left,Oak Ave)`. -/
def keys : Phrasebook where
  locale := "keys"
  phrase key params :=
    if params.isEmpty then key else key ++ "(" ++ ",".intercalate params ++ ")"

end Phrasebook

end TurnByTurn
