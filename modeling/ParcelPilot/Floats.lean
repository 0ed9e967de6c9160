import Mathlib.Data.Rat.Defs
import Mathlib.Order.Lattice
import Mathlib.Algebra.Order.Ring.Unbundled.Rat

namespace ParcelPilot

-- A float of the interpreter. Its finite values are exact: nothing is rounded.
inductive PyFloat where
  | finite (value : Rat)
  | infinite (negative : Bool)
  | nan
deriving DecidableEq,Repr

namespace PyFloat

instance : Coe Rat PyFloat := ⟨.finite⟩

instance {n : Nat} : OfNat PyFloat n := ⟨.finite n⟩

-- `one < two`
def below : PyFloat → PyFloat → Bool
  | .finite one,.finite two => one < two
  | .finite _,.infinite negative => !negative
  | .infinite negative,.finite _ => negative
  | .infinite one,.infinite two => one && !two
  | _,_ => false

instance : LT PyFloat := ⟨fun one two => below one two = true⟩

instance : LE PyFloat := ⟨fun one two => one < two ∨ one = two ∧ one ≠ .nan⟩

instance (one two : PyFloat) : Decidable (one < two) := inferInstanceAs (Decidable (below one two = true))

instance (one two : PyFloat) : Decidable (one ≤ two) :=
  inferInstanceAs (Decidable (one < two ∨ one = two ∧ one ≠ .nan))

-- `min(one, two)`: the first, unless the second is smaller
instance : Min PyFloat := ⟨fun one two => if two < one then two else one⟩

-- `factor * value`
instance : HMul Rat PyFloat PyFloat := ⟨fun factor value =>
  match value with
  | .finite value => .finite (factor * value)
  | .infinite negative => if factor = 0 then .nan else .infinite (negative != decide (factor < 0))
  | .nan => .nan⟩

variable {one two : Rat} {value larger : PyFloat} {cap share : Rat}

@[simp] theorem finite_lt : (PyFloat.finite one < PyFloat.finite two) ↔ one < two := decide_eq_true_iff

@[simp] theorem finite_le : (PyFloat.finite one ≤ PyFloat.finite two) ↔ one ≤ two := by
  constructor
  · rintro (less | ⟨same,_⟩)
    · exact le_of_lt (finite_lt.mp less)
    · exact le_of_eq (PyFloat.finite.inj same)
  · intro within
    rcases lt_or_eq_of_le within with less | same
    · exact .inl (finite_lt.mpr less)
    · exact .inr ⟨congrArg _ same,nofun⟩

theorem known_le (known : value ≠ .nan) : value ≤ value := .inr ⟨rfl,known⟩

theorem above_finite (least : .finite one ≤ value) :
    (∃ amount : Rat, value = .finite amount ∧ one ≤ amount) ∨ value = .infinite false := by
  cases value with
  | finite amount => exact .inl ⟨amount,rfl,finite_le.mp least⟩
  | infinite negative =>
      cases negative with
      | false => exact .inr rfl
      | true => rcases least with less | same <;> simp_all [LT.lt,below]
  | nan => rcases least with less | same <;> simp_all [LT.lt,below]

theorem above_infinite (least : .infinite false ≤ value) : value = .infinite false := by
  rcases least with less | ⟨same,_⟩
  · cases value <;> cases less
  · exact same.symm

theorem capped_finite (cap share amount : Rat) :
    min (PyFloat.finite cap) (share * PyFloat.finite amount) = .finite (min cap (share * amount)) := by
  change (if PyFloat.finite (share * amount) < .finite cap then PyFloat.finite (share * amount)
    else .finite cap) = _
  by_cases less : share * amount < cap
  · rw [if_pos (finite_lt.mpr less),min_eq_right (le_of_lt less)]
  · rw [if_neg (mt finite_lt.mp less),min_eq_left (not_lt.mp less)]

theorem capped_infinite (fair : 0 ≤ share) :
    min (PyFloat.finite cap) (share * PyFloat.infinite false) = .finite cap := by
  by_cases none : share = 0
  · subst none
    rfl
  · have some : ¬ share < 0 := not_lt.mpr fair
    change (if (if share = 0 then PyFloat.nan else .infinite (false != decide (share < 0))) <
      .finite cap then _ else PyFloat.finite cap) = _
    simp only [if_neg none,some]
    rfl

theorem capped_bounds (bounded : 0 ≤ cap) (fair : 0 ≤ share) (nonneg : 0 ≤ value) :
    ∃ amount : Rat, min (PyFloat.finite cap) (share * value) = .finite amount ∧ 0 ≤ amount ∧
      amount ≤ cap := by
  rcases above_finite nonneg with ⟨amount,rfl,paid⟩ | rfl
  · exact ⟨_,capped_finite cap share amount,le_min bounded (Rat.mul_nonneg fair paid),min_le_left _ _⟩
  · exact ⟨_,capped_infinite fair,bounded,le_refl _⟩

theorem capped_monotone (fair : 0 ≤ share) (nonneg : 0 ≤ value) (dearer : value ≤ larger) :
    min (PyFloat.finite cap) (share * value) ≤ min (PyFloat.finite cap) (share * larger) := by
  rcases above_finite nonneg with ⟨amount,rfl,paid⟩ | rfl
  · rcases above_finite dearer with ⟨more,rfl,ordered⟩ | rfl
    · rw [capped_finite,capped_finite,finite_le]
      exact min_le_min_left cap (Rat.mul_le_mul_of_nonneg_left ordered fair)
    · rw [capped_finite,capped_infinite fair,finite_le]
      exact min_le_left _ _
  · rw [above_infinite dearer,capped_infinite fair,finite_le]

theorem capped_known (cap : Rat) (value : PyFloat) : min (PyFloat.finite cap) value ≠ .nan := by
  change (if value < .finite cap then value else .finite cap) ≠ .nan
  split
  · rename_i less
    rintro rfl
    cases less
  · exact nofun

end PyFloat

end ParcelPilot
