import TurnByTurn.Guidance.Turn
import TurnByTurn.Phrases.Phrasebook

/-! # Sentences for the driver

* **`Turn.sentence`** — what the driver reads at a turn into a street. -/

namespace TurnByTurn.Turn

/-- The sentence for a turn in a direction, whose phrase is a part of it. -/
def turning (phrasebook : Phrasebook) (street direction : String) : String :=
  if street = "" then phrasebook.phrase "turn" [phrasebook.phrase direction []]
  else phrasebook.phrase "turn_onto" [phrasebook.phrase direction [], street]

/-- **What the driver reads.** A street without a name is not mentioned. The end of the route and a via
point never mention a street. -/
def sentence (phrasebook : Phrasebook) (street : String) : Turn → String
  | sharpLeft => turning phrasebook street "sharp_left"
  | left => turning phrasebook street "left"
  | slightLeft => turning phrasebook street "slight_left"
  | straight =>
      if street = "" then phrasebook.phrase "continue" []
      else phrasebook.phrase "continue_onto" [street]
  | slightRight => turning phrasebook street "slight_right"
  | right => turning phrasebook street "right"
  | sharpRight => turning phrasebook street "sharp_right"
  | finish => phrasebook.phrase "finish" []
  | reachedVia position => phrasebook.phrase "stopover" [toString position.toNat]

end TurnByTurn.Turn
