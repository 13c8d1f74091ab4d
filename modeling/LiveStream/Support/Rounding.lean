import Mathlib

/-! Python's `round(value, digits)` on exact numbers: to the nearest, ties to even. -/

namespace LiveStream.Support

def roundEven (value : ℚ) : ℤ :=
  if value - ⌊value⌋ < 1 / 2 then ⌊value⌋
  else if 1 / 2 < value - ⌊value⌋ then ⌊value⌋ + 1
  else if ⌊value⌋ % 2 = 0 then ⌊value⌋ else ⌊value⌋ + 1

def roundDigits (digits : ℕ) (value : ℚ) : ℚ := roundEven (value * 10 ^ digits) / 10 ^ digits

theorem floor_le_roundEven (value : ℚ) : ⌊value⌋ ≤ roundEven value := by
  unfold roundEven
  split_ifs <;> omega

theorem roundEven_le_floor_add (value : ℚ) : roundEven value ≤ ⌊value⌋ + 1 := by
  unfold roundEven
  split_ifs <;> omega

theorem roundEven_mono {left right : ℚ} (ordered : left ≤ right) :
    roundEven left ≤ roundEven right := by
  rcases (Int.floor_le_floor ordered).lt_or_eq with apart | same
  · calc roundEven left ≤ ⌊left⌋ + 1 := roundEven_le_floor_add left
      _ ≤ ⌊right⌋ := apart
      _ ≤ roundEven right := floor_le_roundEven right
  · have rest : left - ⌊right⌋ ≤ right - ⌊right⌋ := by linarith
    unfold roundEven
    rw [same]
    by_cases low : right - ⌊right⌋ < 1 / 2
    · rw [if_pos low, if_pos (rest.trans_lt low)]
    · rw [if_neg low]
      by_cases high : 1 / 2 < right - ⌊right⌋
      · rw [if_pos high]
        split_ifs <;> omega
      · rw [if_neg high]
        have bound : ¬ 1 / 2 < left - ⌊right⌋ := fun above => high (above.trans_le rest)
        rw [if_neg bound]
        split_ifs <;> omega

theorem roundDigits_mono {digits : ℕ} {left right : ℚ} (ordered : left ≤ right) :
    roundDigits digits left ≤ roundDigits digits right := by
  unfold roundDigits
  gcongr
  exact_mod_cast roundEven_mono (by gcongr)

@[simp] theorem roundDigits_zero (digits : ℕ) : roundDigits digits 0 = 0 := by
  simp [roundDigits, roundEven]

end LiveStream.Support
