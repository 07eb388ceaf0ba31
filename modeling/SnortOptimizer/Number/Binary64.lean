import Mathlib.Data.Nat.Log
import Mathlib.Tactic.Ring

/-!
# Binary floating point

As much of the 64-bit floating point numbers as a duration needs: a number times a whole constant,
rounded to the nearest number with 53 binary digits, and cut off to a 64-bit integer.

A product with a whole number has no finer binary digits than the number had, so the limit on the
exponent never matters. A product that is too large to be a finite number is left as it is here: it
is out of the range of the integers just like the infinity it stands for.
-/

namespace SnortOptimizer.Number

inductive Binary64 where
  | finite (negative : Bool) (mant : Nat) (exp : Int)    -- `± mant * 2 ^ exp`
  | inf (negative : Bool)
  | nan
  deriving DecidableEq, Repr

/-- The nearest number with 53 binary digits; in the middle of two, the even one. -/
def roundMant (m : Nat) : Nat :=
  let unit := 2 ^ (m.log2 + 1 - 53)
  let q := m / unit
  let r := m % unit
  if 2 * r < unit ∨ (2 * r = unit ∧ q % 2 = 0) then q * unit else (q + 1) * unit

/-- The product with a whole number that is itself a floating point number. -/
def Binary64.mulNat (x : Binary64) (k : Nat) : Binary64 :=
  match x with
  | .finite negative mant exp => .finite negative (roundMant (mant * k)) exp
  | .inf negative => if k = 0 then .nan else .inf negative
  | .nan => .nan

/-- The whole part of `m * 2 ^ exp`. -/
def wholePart (m : Nat) : Int → Nat
  | .ofNat e => m * 2 ^ e
  | .negSucc e => m / 2 ^ (e + 1)

/-- The conversion to `int64`. The language leaves its result open where the number does not fit;
this is what the common processors give. -/
def Binary64.toInt64 : Binary64 → Int
  | .finite negative mant exp =>
      let n : Int := if negative then -(wholePart mant exp : Int) else wholePart mant exp
      if -2 ^ 63 ≤ n ∧ n < 2 ^ 63 then n else -2 ^ 63
  | _ => -2 ^ 63

/-- A sum of 64-bit integers as the machine computes it. -/
def wrap64 (n : Int) : Int := n.bmod (2 ^ 64)

theorem wrap64_of_fits {n : Int} (hlo : -2 ^ 63 ≤ n) (hhi : n < 2 ^ 63) : wrap64 n = n := by
  apply Int.bmod_eq_of_le
  · exact hlo
  · exact hhi

/-- A product that fits. -/
theorem Binary64.toInt64_mulNat {mant k : Nat} {exp : Int}
    (h : wholePart (roundMant (mant * k)) exp < 2 ^ 63) :
    ((Binary64.finite false mant exp).mulNat k).toInt64 = wholePart (roundMant (mant * k)) exp := by
  rw [Binary64.mulNat, Binary64.toInt64]
  generalize wholePart (roundMant (mant * k)) exp = n at *
  have hfits : -2 ^ 63 ≤ (n : Int) ∧ (n : Int) < 2 ^ 63 := by omega
  simp only [Bool.false_eq_true, if_false]
  rw [if_pos hfits]

/-! ## Numbers that need no rounding -/

/-- At most 53 binary digits, but for zeros at the end. -/
def Short (m : Nat) : Prop := ∃ k e, k < 2 ^ 53 ∧ m = k * 2 ^ e

theorem div_unit_lt (m : Nat) : m / 2 ^ (m.log2 + 1 - 53) < 2 ^ 53 := by
  apply Nat.div_lt_of_lt_mul
  calc m < 2 ^ (m.log2 + 1) := Nat.lt_log2_self
    _ ≤ 2 ^ ((m.log2 + 1 - 53) + 53) := Nat.pow_le_pow_right (by decide) (by omega)
    _ = 2 ^ (m.log2 + 1 - 53) * 2 ^ 53 := Nat.pow_add 2 _ _

/-- The unit of the last digit divides a short number. -/
theorem Short.unit_dvd {m : Nat} (h : Short m) : 2 ^ (m.log2 + 1 - 53) ∣ m := by
  obtain ⟨k, e, hk, rfl⟩ := h
  rcases Nat.eq_zero_or_pos (k * 2 ^ e) with hzero | hpos
  · rw [hzero]
    exact Nat.dvd_zero _
  · have hle : 2 ^ (k * 2 ^ e).log2 ≤ k * 2 ^ e := Nat.log2_self_le (by omega)
    have hlt : 2 ^ (k * 2 ^ e).log2 < 2 ^ (53 + e) := by
      rw [Nat.pow_add]
      exact Nat.lt_of_le_of_lt hle (Nat.mul_lt_mul_of_pos_right hk (Nat.pow_pos (by decide)))
    have hlog : (k * 2 ^ e).log2 < 53 + e := (Nat.pow_lt_pow_iff_right (by decide)).mp hlt
    exact Nat.dvd_trans (Nat.pow_dvd_pow 2 (by omega)) (Nat.dvd_mul_left _ _)

theorem roundMant_eq_self_iff (m : Nat) : roundMant m = m ↔ Short m := by
  have hunit : 0 < 2 ^ (m.log2 + 1 - 53) := Nat.pow_pos (by decide)
  constructor
  · intro h
    refine ⟨m / 2 ^ (m.log2 + 1 - 53), m.log2 + 1 - 53, div_unit_lt m, ?_⟩
    rw [roundMant] at h
    split at h
    · exact h.symm
    · -- a number that is rounded up is not the next multiple of the unit already
      have hquotient := congrArg (fun n => n / 2 ^ (m.log2 + 1 - 53)) h
      rw [Nat.mul_div_cancel _ hunit] at hquotient
      omega
  · intro h
    have hzero : m % 2 ^ (m.log2 + 1 - 53) = 0 := Nat.mod_eq_zero_of_dvd h.unit_dvd
    rw [roundMant, hzero, if_pos (.inl (by omega))]
    exact Nat.div_mul_cancel h.unit_dvd

/-! ## Bounds

The rounded number is at least half of the number and at most its double. -/

theorem pow_log2_sub_le {m : Nat} (hm : 0 < m) : 2 ^ (m.log2 + 1 - 53) ≤ m := by
  calc 2 ^ (m.log2 + 1 - 53) ≤ 2 ^ m.log2 := Nat.pow_le_pow_right (by decide) (by omega)
    _ ≤ m := Nat.log2_self_le (by omega)

theorem roundMant_bounds (m : Nat) : m ≤ 2 * roundMant m ∧ roundMant m ≤ 2 * m := by
  rcases Nat.eq_zero_or_pos m with rfl | hm
  · decide
  have hunit : 0 < 2 ^ (m.log2 + 1 - 53) := Nat.pow_pos (by decide)
  have hq : 0 < m / 2 ^ (m.log2 + 1 - 53) := Nat.div_pos (pow_log2_sub_le hm) hunit
  have hsplit := Nat.div_add_mod' m (2 ^ (m.log2 + 1 - 53))
  have hr := Nat.mod_lt m hunit
  unfold roundMant
  dsimp only
  generalize 2 ^ (m.log2 + 1 - 53) = unit at *
  generalize m / unit = q at *
  generalize m % unit = r at *
  have hle : unit ≤ q * unit := Nat.le_mul_of_pos_left unit hq
  have hsucc : (q + 1) * unit = q * unit + unit := Nat.succ_mul q unit
  split <;> omega

theorem wholePart_mono {m n : Nat} (h : m ≤ n) (exp : Int) : wholePart m exp ≤ wholePart n exp := by
  cases exp with
  | ofNat e => exact Nat.mul_le_mul_right _ h
  | negSucc e => exact Nat.div_le_div_right h

theorem two_mul_wholePart_le (m : Nat) (exp : Int) :
    2 * wholePart m exp ≤ wholePart (2 * m) exp := by
  cases exp with
  | ofNat e => exact Nat.le_of_eq (Nat.mul_assoc 2 m (2 ^ e)).symm
  | negSucc e => exact Nat.mul_div_le_mul_div_assoc 2 m (2 ^ (e + 1))

/-- A much larger factor gives at least the double, whatever is lost in rounding. -/
theorem two_mul_wholePart_mul_le {j k : Nat} (h : 8 * j ≤ k) (mant : Nat) (exp : Int) :
    2 * wholePart (roundMant (mant * j)) exp ≤ wholePart (roundMant (mant * k)) exp := by
  have hj := (roundMant_bounds (mant * j)).2
  have hk := (roundMant_bounds (mant * k)).1
  have hmul : mant * (8 * j) ≤ mant * k := Nat.mul_le_mul_left mant h
  have heq : mant * (8 * j) = 8 * (mant * j) := by ring
  calc 2 * wholePart (roundMant (mant * j)) exp
      ≤ wholePart (2 * roundMant (mant * j)) exp := two_mul_wholePart_le _ _
    _ ≤ wholePart (roundMant (mant * k)) exp := wholePart_mono (by omega) exp

end SnortOptimizer.Number
