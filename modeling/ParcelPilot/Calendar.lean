import Mathlib.Data.Nat.Basic
import ParcelPilot.Time

namespace ParcelPilot.Calendar

-- `_is_leap`, `_days_in_month`, `_days_before_month` and `_days_before_year` of
-- the proleptic Gregorian calendar
def isLeap (year : Nat) : Bool := year % 4 = 0 && (year % 100 != 0 || year % 400 = 0)

def daysInMonth (year month : Nat) : Nat :=
  if month = 2 then (if isLeap year then 29 else 28)
  else if month = 4 ∨ month = 6 ∨ month = 9 ∨ month = 11 then 30 else 31

def daysBeforeMonth (year month : Nat) : Nat :=
  [0,31,59,90,120,151,181,212,243,273,304,334].getD (month - 1) 0 +
    if 2 < month ∧ isLeap year = true then 1 else 0

def daysBeforeYear (year : Nat) : Nat :=
  (year - 1) * 365 + (year - 1) / 4 - (year - 1) / 100 + (year - 1) / 400

-- `_check_date_fields`
def ValidDate (year month day : Nat) : Prop :=
  (1 ≤ year ∧ year ≤ 9999) ∧ (1 ≤ month ∧ month ≤ 12) ∧ 1 ≤ day ∧ day ≤ daysInMonth year month

instance (year month day : Nat) : Decidable (ValidDate year month day) :=
  inferInstanceAs (Decidable (_ ∧ _ ∧ _))

-- `_ymd2ord`, counted from 0
def ordinal (year month day : Nat) : Int :=
  ((daysBeforeYear year + daysBeforeMonth year month + day : Nat) : Int) - 1

-- Years of an era begin in March: `eraDays y` days lie before the year `y` of it,
-- and `skewed` is what the year of a day is divided out of.
def eraDays (year : Nat) : Nat := 365 * year + year / 4 - year / 100

def skewed (doe : Nat) : Nat := doe - doe / 1460 + doe / 36524 - doe / 146096

theorem skewed_step (doe : Nat) : skewed doe ≤ skewed (doe + 1) := by
  unfold skewed
  omega

theorem skewed_mono {one two : Nat} (le : one ≤ two) : skewed one ≤ skewed two := by
  induction two,le using Nat.le_induction with
  | base => exact Nat.le_refl _
  | succ two _ ih => exact Nat.le_trans ih (skewed_step two)

theorem skewed_begins : ∀ year < 400, 365 * year ≤ skewed (eraDays year) ∧
    (0 < year → skewed (eraDays year - 1) < 365 * year) := by decide +kernel

theorem year_reached {year doe : Nat} (inEra : year < 400) :
    365 * year ≤ skewed doe ↔ eraDays year ≤ doe := by
  obtain ⟨begins,before⟩ := skewed_begins year inEra
  constructor
  · intro reached
    apply Nat.le_of_not_lt
    intro early
    have positive : 0 < year := by
      rcases Nat.eq_zero_or_pos year with rfl | positive
      · simp [eraDays] at early
      · exact positive
    have last : skewed doe ≤ skewed (eraDays year - 1) := skewed_mono (by omega)
    have bound := before positive
    omega
  · intro after
    exact Nat.le_trans begins (skewed_mono after)

theorem era_year {doe : Nat} (inEra : doe < 146097) :
    skewed doe / 365 < 400 ∧ eraDays (skewed doe / 365) ≤ doe ∧
      (doe < eraDays (skewed doe / 365 + 1) ∨ doe = 146096 ∧ skewed doe / 365 = 399) := by
  have last : skewed doe ≤ 145999 := skewed_mono (show doe ≤ 146096 by omega)
  have below : skewed doe / 365 < 400 := by omega
  refine ⟨below,(year_reached below).mp (by omega),?_⟩
  by_cases next : skewed doe / 365 + 1 < 400
  · left
    apply Nat.lt_of_not_le
    intro after
    have reached := (year_reached next).mpr after
    omega
  · have final : skewed doe / 365 = 399 := by omega
    rw [final]
    unfold eraDays
    omega

-- Days from 0001-01-01 to the first of March of a year, and 306 more
def marchDays (year : Nat) : Nat := 365 * year + year / 4 - year / 100 + year / 400

theorem march_era {yoe era : Nat} (inEra : yoe < 400) :
    marchDays (yoe + era * 400) = era * 146097 + eraDays yoe := by
  have fours : (yoe + era * 400) / 4 = yoe / 4 + era * 100 := by omega
  have hundreds : (yoe + era * 400) / 100 = yoe / 100 + era * 4 := by omega
  have eras : (yoe + era * 400) / 400 = era := by omega
  unfold marchDays eraDays
  rw [fours,hundreds,eras]
  omega

theorem quotient_step (year n : Nat) :
    (year + 1) / n = year / n + if (year + 1) % n = 0 then 1 else 0 := by
  rw [Nat.succ_div]
  simp only [Nat.dvd_iff_mod_eq_zero]

theorem march_year {year : Nat} (positive : 1 ≤ year) :
    daysBeforeYear year + 365 + (if isLeap year then 1 else 0) = marchDays year := by
  obtain ⟨before,rfl⟩ := Nat.exists_eq_add_of_le' positive
  have hundreds : (before + 1) % 400 = 0 → (before + 1) % 100 = 0 := by omega
  have fours : (before + 1) % 100 = 0 → (before + 1) % 4 = 0 := by omega
  have fewer : before / 100 ≤ before / 4 := by omega
  unfold daysBeforeYear marchDays isLeap
  rw [Nat.add_sub_cancel,quotient_step before 4,quotient_step before 100,
    quotient_step before 400]
  by_cases four : (before + 1) % 4 = 0
  · by_cases hundred : (before + 1) % 100 = 0
    · by_cases fourHundred : (before + 1) % 400 = 0 <;> simp [four,hundred,fourHundred] <;> omega
    · have no : ¬ (before + 1) % 400 = 0 := fun multiple => hundred (hundreds multiple)
      simp [four,hundred,no]
      omega
  · have no : ¬ (before + 1) % 100 = 0 := fun multiple => four (fours multiple)
    have none : ¬ (before + 1) % 400 = 0 := fun multiple => no (hundreds multiple)
    simp [four,no,none]
    omega

theorem january_year (year : Nat) : daysBeforeYear (year + 1) = marchDays year := by
  unfold daysBeforeYear marchDays
  omega

-- The months from March on, and January and February of the year after
theorem march_month {doy mp : Nat} (inYear : doy ≤ 365) (found : mp = (5 * doy + 2) / 153) :
    mp ≤ 11 ∧ (153 * mp + 2) / 5 ≤ doy ∧ doy < (153 * (mp + 1) + 2) / 5 := by
  subst found
  omega

theorem month_days : ∀ mp < 10,
    [0,31,59,90,120,151,181,212,243,273,304,334].getD (mp + 3 - 1) 0 = 59 + (153 * mp + 2) / 5 := by
  decide

theorem month_length : ∀ mp < 10, ∀ year,
    (153 * (mp + 1) + 2) / 5 = (153 * mp + 2) / 5 + daysInMonth year (mp + 3) := by
  intro mp small year
  unfold daysInMonth
  have few : mp = 0 ∨ mp = 1 ∨ mp = 2 ∨ mp = 3 ∨ mp = 4 ∨ mp = 5 ∨ mp = 6 ∨ mp = 7 ∨ mp = 8 ∨ mp = 9 := by
    omega
  rcases few with rfl | rfl | rfl | rfl | rfl | rfl | rfl | rfl | rfl | rfl <;> rfl

theorem leap_length {yoe era : Nat} (inEra : yoe < 400)
    (long : eraDays yoe + 365 < eraDays (yoe + 1) ∨ yoe = 399) :
    isLeap (yoe + era * 400 + 1) = true := by
  unfold eraDays at long
  unfold isLeap
  simp only [bne_iff_ne,Bool.and_eq_true,Bool.or_eq_true,decide_eq_true_eq]
  omega

theorem civil_valid {date : Date} (inRange : 0 ≤ date ∧ date < maxOrdinal) :
    ValidDate (civil date).1 (civil date).2.1 (civil date).2.2 ∧
      ordinal (civil date).1 (civil date).2.1 (civil date).2.2 = date := by
  obtain ⟨days,rfl⟩ := Int.eq_ofNat_of_zero_le inRange.1
  have early : days < 3652059 := by
    have bound : (days : Int) < 3652059 := inRange.2
    omega
  unfold civil
  simp only [Int.toNat_natCast]
  generalize eraIs : (days + 306) / 146097 = era
  generalize doeIs : (days + 306) % 146097 = doe
  have inEra : doe < 146097 := by omega
  obtain ⟨small,began,ends⟩ := era_year inEra
  change skewed doe / 365 < 400 at small
  have same : (doe - doe / 1460 + doe / 36524 - doe / 146096) / 365 = skewed doe / 365 := rfl
  rw [same]
  generalize skewed doe / 365 = yoe at small began ends ⊢
  have within : 365 * yoe + yoe / 4 - yoe / 100 = eraDays yoe := rfl
  rw [within]
  have length : eraDays (yoe + 1) ≤ eraDays yoe + 366 := by
    unfold eraDays
    omega
  have final : yoe = 399 → eraDays yoe = 145731 := by
    rintro rfl
    rfl
  have inYear : doe - eraDays yoe ≤ 365 := by omega
  obtain ⟨last,from_,until_⟩ := march_month inYear rfl
  generalize (5 * (doe - eraDays yoe) + 2) / 153 = mp at last from_ until_ ⊢
  have march := @march_era yoe era small
  have first : yoe = 0 → eraDays yoe = 0 := by
    rintro rfl
    rfl
  by_cases spring : mp < 10
  · have table := month_days mp spring
    have length := month_length mp spring (yoe + era * 400)
    have positive : 1 ≤ yoe + era * 400 := by omega
    have year := march_year positive
    rw [if_pos spring,if_neg (by omega : ¬ mp + 3 ≤ 2),Nat.add_zero]
    refine ⟨⟨by omega,by omega,by omega,by omega⟩,?_⟩
    unfold ordinal daysBeforeMonth
    rw [table]
    simp only [show 2 < mp + 3 from by omega,true_and]
    omega
  · have year := january_year (yoe + era * 400)
    have leap := @leap_length yoe era small
    rw [if_neg spring,if_pos (by omega : mp - 9 ≤ 2)]
    have winter : mp = 10 ∨ mp = 11 := by omega
    rcases winter with rfl | rfl
    · refine ⟨⟨by omega,by omega,by omega,?_⟩,?_⟩
      · change doe - eraDays yoe - (153 * 10 + 2) / 5 + 1 ≤ 31
        omega
      · have before : daysBeforeMonth (yoe + era * 400 + 1) (10 - 9) = 0 := rfl
        unfold ordinal
        rw [before]
        omega
    · refine ⟨⟨by omega,by omega,by omega,?_⟩,?_⟩
      · have february : daysInMonth (yoe + era * 400 + 1) 2 =
            if isLeap (yoe + era * 400 + 1) then 29 else 28 := rfl
        change _ ≤ daysInMonth (yoe + era * 400 + 1) 2
        rw [february]
        by_cases long : isLeap (yoe + era * 400 + 1) = true
        · rw [if_pos long]
          omega
        · have short : ¬ (eraDays yoe + 365 < eraDays (yoe + 1) ∨ yoe = 399) := fun late => long (leap late)
          rw [if_neg long]
          omega
      · have before : daysBeforeMonth (yoe + era * 400 + 1) (11 - 9) = 31 := rfl
        unfold ordinal
        rw [before]
        omega

end ParcelPilot.Calendar
