import TurnByTurn.Geometry.Compass
import TurnByTurn.Proofs.Binary64.Remainder
import TurnByTurn.Proofs.Decimal.Whole

/-! # The sectors of the compass

A compass point stands for the bearings within half a sector of its heading, whole turns left aside. The edges
of the sectors are halves of a degree, and rounding to whole degrees takes a half upwards, as the sectors take
in their left edges: so a bearing and its whole degrees are in one sector.

* **`Compass.Covers`** — the bearings that a compass point stands for.
* **`Compass.Covers.unique`** — no bearing has two compass points.
* **`Compass.Covers.halfAway`** — whole degrees stay in the sector.
* **`Compass.ofBearing_eq_iff`** — from zero to a whole turn a bearing has the compass point that stands for it.
* **`bearingText_eq`**, **`Compass.ofBearing_degrees`** — the whole degrees of a bearing, and their compass
  point. -/

namespace TurnByTurn

open Binary64

namespace Compass

variable {c c' : Compass} {q : ℚ} {b r : Float} {n : ℤ}

/-! ## Sectors -/

/-- **The bearings that a compass point stands for**: those within half a sector of its heading, the left edge
counted in and the right one not, whole turns left aside. -/
def Covers (c : Compass) (q : ℚ) : Prop :=
  ∃ turns : ℤ, (c.heading : ℚ) - 45 / 2 ≤ q + 360 * turns ∧ q + 360 * turns < c.heading + 45 / 2

/-- Headings are whole sectors from north. -/
theorem exists_heading_eq (c : Compass) : ∃ n : ℕ, n < 8 ∧ c.heading = 45 * n := by
  cases c with
  | north => exact ⟨0, by decide, rfl⟩
  | northEast => exact ⟨1, by decide, rfl⟩
  | east => exact ⟨2, by decide, rfl⟩
  | southEast => exact ⟨3, by decide, rfl⟩
  | south => exact ⟨4, by decide, rfl⟩
  | southWest => exact ⟨5, by decide, rfl⟩
  | west => exact ⟨6, by decide, rfl⟩
  | northWest => exact ⟨7, by decide, rfl⟩

/-- Headings tell compass points apart. -/
theorem heading_injective (h : c.heading = c'.heading) : c = c' := by
  cases c <;> cases c' <;> first | rfl | (simp only [heading] at h; omega)

/-- **No bearing has two compass points.** -/
theorem Covers.unique (h : c.Covers q) (h' : c'.Covers q) : c = c' := by
  obtain ⟨k, hle, hlt⟩ := h
  obtain ⟨k', hle', hlt'⟩ := h'
  obtain ⟨n, hn, hc⟩ := exists_heading_eq c
  obtain ⟨n', hn', hc'⟩ := exists_heading_eq c'
  rw [hc] at hle hlt
  rw [hc'] at hle' hlt'
  push_cast at hle hlt hle' hlt'
  -- two headings less than a sector apart, whole turns left aside, are the same
  have hbelow : ((45 * n - 45 * n' - 360 * (k - k') : ℤ) : ℚ) < 45 := by
    push_cast
    linarith
  have habove : (-45 : ℚ) < ((45 * n - 45 * n' - 360 * (k - k') : ℤ) : ℚ) := by
    push_cast
    linarith
  have hbelow' : (45 * n - 45 * n' - 360 * (k - k') : ℤ) < 45 := by exact_mod_cast hbelow
  have habove' : (-45 : ℤ) < 45 * n - 45 * n' - 360 * (k - k') := by exact_mod_cast habove
  refine heading_injective ?_
  rw [hc, hc']
  omega

/-- Whole turns lead back to the same compass point. -/
theorem covers_add_turns_iff (k : ℤ) : c.Covers (q + 360 * k) ↔ c.Covers q := by
  constructor
  · rintro ⟨turns, hle, hlt⟩
    refine ⟨turns + k, ?_, ?_⟩ <;> push_cast <;> linarith
  · rintro ⟨turns, hle, hlt⟩
    refine ⟨turns - k, ?_, ?_⟩ <;> push_cast <;> linarith

/-- **Whole degrees stay in the sector.** Its edges are halves, and a half goes up. -/
theorem Covers.halfAway (h0 : 0 ≤ q) (h : c.Covers q) : c.Covers (halfAway q) := by
  obtain ⟨turns, hle, hlt⟩ := h
  rw [Binary64.halfAway, if_pos h0]
  refine ⟨turns, ?_, ?_⟩
  · have hfloor : (c.heading : ℤ) - 22 - 360 * turns ≤ ⌊q + 1 / 2⌋ := by
      rw [Int.le_floor]
      push_cast
      linarith
    have hfloor' : (c.heading : ℚ) - 22 - 360 * turns ≤ ⌊q + 1 / 2⌋ := by exact_mod_cast hfloor
    linarith
  · have hfloor : ⌊q + 1 / 2⌋ < (c.heading : ℤ) + 23 - 360 * turns := by
      rw [Int.floor_lt]
      push_cast
      linarith
    have hfloor' : ⌊q + 1 / 2⌋ ≤ (c.heading : ℤ) + 22 - 360 * turns := by omega
    have hfloor'' : (⌊q + 1 / 2⌋ : ℚ) ≤ c.heading + 22 - 360 * turns := by exact_mod_cast hfloor'
    linarith

/-! ## Bearings -/

/-- A whole turn is one. -/
theorem value_turn : value 360 = 360 := by
  have hview : view 360 = .finite .positive (45 * 2 ^ 47) (-44) (by decide) := rfl
  rw [value_of_positive hview]
  norm_num

/-- To be below a double is to be below its value. -/
theorem lt_edge_iff {edge : Float} (m : ℕ) (e : ℤ) (hm : 0 < m) (hr : r.isFinite = true)
    (hedge : view edge = .finite .positive m e hm) : r < edge ↔ value r < m * 2 ^ e := by
  have hfinite : edge.isFinite = true := by
    change (view edge).isFinite = true
    rw [hedge]
    rfl
  rw [lt_iff_value hr hfinite, value_of_positive hedge]

/-- The compass point of a bearing below one turn, decided on its value. -/
theorem covers_sector (hr : r.isFinite = true) (h0 : 0 ≤ value r) (hlt : value r < 360)
    (hb : positiveRemainder b 360 = r) : (ofBearing b).Covers (value r) := by
  have h₁ : r < 22.5 ↔ value r < 45 / 2 :=
    (lt_edge_iff (45 * 2 ^ 47) (-48) (by decide) hr rfl).trans (by norm_num)
  have h₂ : r < 67.5 ↔ value r < 135 / 2 :=
    (lt_edge_iff (135 * 2 ^ 45) (-46) (by decide) hr rfl).trans (by norm_num)
  have h₃ : r < 112.5 ↔ value r < 225 / 2 :=
    (lt_edge_iff (225 * 2 ^ 45) (-46) (by decide) hr rfl).trans (by norm_num)
  have h₄ : r < 157.5 ↔ value r < 315 / 2 :=
    (lt_edge_iff (315 * 2 ^ 44) (-45) (by decide) hr rfl).trans (by norm_num)
  have h₅ : r < 202.5 ↔ value r < 405 / 2 :=
    (lt_edge_iff (405 * 2 ^ 44) (-45) (by decide) hr rfl).trans (by norm_num)
  have h₆ : r < 247.5 ↔ value r < 495 / 2 :=
    (lt_edge_iff (495 * 2 ^ 44) (-45) (by decide) hr rfl).trans (by norm_num)
  have h₇ : r < 292.5 ↔ value r < 585 / 2 :=
    (lt_edge_iff (585 * 2 ^ 43) (-44) (by decide) hr rfl).trans (by norm_num)
  have h₈ : r < 337.5 ↔ value r < 675 / 2 :=
    (lt_edge_iff (675 * 2 ^ 43) (-44) (by decide) hr rfl).trans (by norm_num)
  rw [ofBearing, hb]
  simp only [h₁, h₂, h₃, h₄, h₅, h₆, h₇, h₈]
  split_ifs
  -- the second half of the northern sector reaches into the next turn
  case neg => refine ⟨-1, ?_, ?_⟩ <;> simp only [heading] <;> push_cast <;> linarith
  all_goals refine ⟨0, ?_, ?_⟩ <;> simp only [heading] <;> push_cast <;> linarith

/-- Bearings from zero to a whole turn are finite. -/
theorem isFinite_of_le (h0 : 0 ≤ b) (h1 : b ≤ 360) : b.isFinite = true := by
  rw [le_iff_view] at h0 h1
  change (view b).isFinite = true
  cases hb : view b with
  | notANumber =>
      rw [hb] at h1
      cases h1
  | infinity s =>
      rw [hb] at h0 h1
      cases s with
      | negative => cases h0
      | positive => cases h1
  | zero s => rfl
  | finite s m e hm => rfl

/-- Bearings from zero to a whole turn have a value there. -/
theorem value_bounds (h0 : 0 ≤ b) (h1 : b ≤ 360) : 0 ≤ value b ∧ value b ≤ 360 := by
  have hb := isFinite_of_le h0 h1
  rw [le_iff_value rfl hb, value_zero] at h0
  rw [le_iff_value hb rfl, value_turn] at h1
  exact ⟨h0, h1⟩

/-- **The compass point of a bearing stands for it.** -/
theorem covers_ofBearing (h0 : 0 ≤ b) (h1 : b ≤ 360) : (ofBearing b).Covers (value b) := by
  have hb := isFinite_of_le h0 h1
  obtain ⟨hge, hle⟩ := value_bounds h0 h1
  rw [← value_turn] at hle
  have hpos : 0 < value 360 := by rw [value_turn]; norm_num
  obtain ⟨r, hr, hfinite, ⟨hvalue, hlt⟩ | ⟨hzero, hturn⟩⟩ := exists_positiveRemainder_eq hb hge hpos hle
  · rw [value_turn] at hlt
    rw [← hvalue] at hge hlt ⊢
    exact covers_sector hfinite hge hlt hr
  · -- a whole turn leads back to north
    have hnorth := covers_sector hfinite hzero.ge (by rw [hzero]; norm_num) hr
    have hshift := (covers_add_turns_iff 1).mpr hnorth
    rw [hzero] at hshift
    rw [hturn, value_turn]
    norm_num at hshift
    exact hshift

/-- **From zero to a whole turn a bearing has the compass point that stands for it.** -/
theorem ofBearing_eq_iff (h0 : 0 ≤ b) (h1 : b ≤ 360) : ofBearing b = c ↔ c.Covers (value b) := by
  constructor
  · rintro rfl
    exact covers_ofBearing h0 h1
  · intro h
    exact (covers_ofBearing h0 h1).unique h

/-! ## Whole degrees -/

/-- The whole degrees of a bearing are those of one turn. -/
theorem halfAway_bounds (h0 : 0 ≤ b) (h1 : b ≤ 360) :
    0 ≤ Binary64.halfAway (value b) ∧ Binary64.halfAway (value b) < 361 := by
  obtain ⟨hge, hle⟩ := value_bounds h0 h1
  refine ⟨halfAway_nonneg hge, ?_⟩
  rw [Binary64.halfAway, if_pos hge, Int.floor_lt]
  push_cast
  linarith

/-- **A bearing and its whole degrees have the same compass point.** -/
theorem ofBearing_degrees (h0 : 0 ≤ b) (h1 : b ≤ 360) :
    ofBearing (.ofInt (Binary64.halfAway (value b))) = ofBearing b := by
  obtain ⟨hge, hlt⟩ := halfAway_bounds h0 h1
  have hcovers := (covers_ofBearing h0 h1).halfAway (value_bounds h0 h1).1
  obtain ⟨n, hn⟩ := Int.eq_ofNat_of_zero_le hge
  rw [hn] at hcovers hlt ⊢
  obtain ⟨hfinite, hvalue⟩ := value_ofNat (n := n) (by omega)
  change ofBearing (.ofNat n) = _
  have hn0 : 0 ≤ Float.ofNat n := by
    rw [le_iff_value rfl hfinite, value_zero, hvalue]
    exact n.cast_nonneg
  have hn1 : Float.ofNat n ≤ 360 := by
    rw [le_iff_value hfinite rfl, value_turn, hvalue]
    exact_mod_cast (by omega : n ≤ 360)
  rw [ofBearing_eq_iff hn0 hn1, hvalue]
  exact_mod_cast hcovers

end Compass

/-- **A bearing is shown in whole degrees, a half rounded away from zero.** -/
theorem bearingText_eq {b : Float} (h0 : 0 ≤ b) (h1 : b ≤ 360) :
    bearingText b = toString (halfAway (value b)) := by
  obtain ⟨hge, hlt⟩ := Compass.halfAway_bounds h0 h1
  rw [bearingText, toInt64_of_finite (Compass.isFinite_of_le h0 h1), min_eq_left, max_eq_left]
  · exact le_trans (by decide) hge
  · exact le_trans hlt.le (by decide)

end TurnByTurn
