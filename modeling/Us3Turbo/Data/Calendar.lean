import Mathlib.Tactic.ByContra

/-! # The Gregorian calendar

Years are counted from the first of March, so that the leap day is the last day of its year,
and months from 0 for March.
-/

namespace Us3Turbo.Data.Calendar

/-- The days from 1 March of the year 0 to 1 March of `year`. -/
def yearStart (year : Int) : Int := 365 * year + year / 4 - year / 100 + year / 400

/-- The days from 1 March to the first day of `month`. -/
def monthStart (month : Int) : Int := (153 * month + 2) / 5

/-- `days` after 1 March of the year 0 it is `day` days into the month. -/
structure IsDate (days year month day : Int) : Prop where
  parts : days = yearStart year + monthStart month + day
  months : 0 ≤ month ∧ month ≤ 11
  begun : 0 ≤ day
  inMonth : day < monthStart (month + 1) - monthStart month
  inYear : days < yearStart (year + 1)

variable {days later year month day year' month' day' dayOfEra : Int}

theorem yearStart_mono (ordered : year ≤ year') : yearStart year ≤ yearStart year' := by
  unfold yearStart
  omega

theorem yearStart_era (yearOfEra era : Int) :
    yearStart (yearOfEra + era * 400) = yearStart yearOfEra + era * 146097 := by
  unfold yearStart
  omega

namespace IsDate

theorem lt_of_fields (first : IsDate days year month day) (second : IsDate later year' month' day')
    (fields : year < year' ∨ year = year' ∧ (month < month' ∨ month = month' ∧ day < day')) :
    days < later := by
  have inYear := first.inYear
  have inMonth := first.inMonth
  have here := first.parts
  have there := second.parts
  have months := second.months
  have begun := second.begun
  simp only [monthStart] at inMonth here there
  rcases fields with years | ⟨rfl, later | ⟨rfl, later⟩⟩
  · have between := yearStart_mono (show year + 1 ≤ year' by omega)
    omega
  · omega
  · omega

/-- Dates are ordered by year, month and day. -/
theorem lt_iff (first : IsDate days year month day) (second : IsDate later year' month' day') :
    days < later ↔ year < year' ∨ year = year' ∧ (month < month' ∨ month = month' ∧ day < day') := by
  constructor
  · intro before
    by_contra unordered
    have turned : year' < year ∨ year' = year ∧ (month' < month ∨ month' = month ∧ day' ≤ day) := by
      omega
    rcases turned with years | ⟨rfl, months | ⟨rfl, day⟩⟩
    · exact absurd (second.lt_of_fields first (.inl years)) (by omega)
    · exact absurd (second.lt_of_fields first (.inr ⟨rfl, .inl months⟩)) (by omega)
    · have here := first.parts
      have there := second.parts
      omega
  · exact first.lt_of_fields second

end IsDate

/-! ## The date of a day

An era has 400 years, four centuries and a day; a century has 25 times four years, less the
leap day of its last year.
-/

def yearOfEra (dayOfEra : Int) : Int :=
  (dayOfEra - dayOfEra / 1460 + dayOfEra / 36524 - dayOfEra / 146096) / 365

theorem yearOfEra_parts {century four rest year : Int} (centuries : 0 ≤ century ∧ century ≤ 3)
    (fours : 0 ≤ four ∧ four ≤ 24) (years : 0 ≤ year ∧ year ≤ 3)
    (inCentury : 0 ≤ rest ∧ 1461 * four + rest < 36524)
    (inYear : 365 * year ≤ rest ∧ rest < 365 * (year + 1) + (if year = 3 then 1 else 0)) :
    yearOfEra (36524 * century + 1461 * four + rest) = 100 * century + 4 * four + year := by
  have leap : rest ≤ 1460 := by
    split at inYear <;> omega
  have first : (36524 * century + 1461 * four + rest) / 36524 = century := by omega
  have last : (36524 * century + 1461 * four + rest) / 146096 = 0 := by omega
  have days : (36524 * century + 1461 * four + rest) / 1460 =
      25 * century + four + (if 24 * century + four + rest ≥ 1460 then 1 else 0) := by
    split <;> omega
  rw [yearOfEra, first, last, days]
  split at inYear <;> split <;> omega

theorem yearStart_parts (century four year : Int) (centuries : 0 ≤ century ∧ century ≤ 3)
    (fours : 0 ≤ four ∧ four ≤ 24) (years : 0 ≤ year ∧ year ≤ 3) :
    yearStart (100 * century + 4 * four + year) = 36524 * century + 1461 * four + 365 * year := by
  unfold yearStart
  omega

theorem yearOfEra_spec (inside : 0 ≤ dayOfEra ∧ dayOfEra < 146097) :
    0 ≤ yearOfEra dayOfEra ∧ yearOfEra dayOfEra < 400 ∧
      yearStart (yearOfEra dayOfEra) ≤ dayOfEra ∧ dayOfEra < yearStart (yearOfEra dayOfEra + 1) := by
  by_cases last : dayOfEra = 146096
  · subst last
    decide
  · obtain ⟨century, centuries⟩ : ∃ century, century = dayOfEra / 36524 := ⟨_, rfl⟩
    obtain ⟨four, fours⟩ : ∃ four, four = dayOfEra % 36524 / 1461 := ⟨_, rfl⟩
    obtain ⟨rest, rests⟩ : ∃ rest, rest = dayOfEra % 36524 % 1461 := ⟨_, rfl⟩
    obtain ⟨year, years⟩ : ∃ year, year = if rest = 1460 then 3 else rest / 365 := ⟨_, rfl⟩
    have whole : dayOfEra = 36524 * century + 1461 * four + rest := by omega
    have bounds : (0 ≤ century ∧ century ≤ 3) ∧ (0 ≤ four ∧ four ≤ 24) ∧ 0 ≤ year ∧ year ≤ 3 := by
      split at years <;> omega
    have inYear : 365 * year ≤ rest ∧ rest < 365 * (year + 1) + (if year = 3 then 1 else 0) := by
      split at years <;> split <;> omega
    have inCentury : 0 ≤ rest ∧ 1461 * four + rest < 36524 := by omega
    have decoded := yearOfEra_parts bounds.1 bounds.2.1 bounds.2.2 inCentury inYear
    have start := yearStart_parts century four year bounds.1 bounds.2.1 bounds.2.2
    rw [whole, decoded, start]
    refine ⟨by omega, by omega, by omega, ?_⟩
    obtain ⟨centuries, fours, years⟩ := bounds
    -- the year after is in the same four years, the same century, the same era or none of them
    by_cases final : year = 3
    · subst final
      by_cases leap : four = 24
      · subst leap
        by_cases era : century = 3
        · subst era
          change _ < (146097 : Int)
          omega
        · have next := yearStart_parts (century + 1) 0 0 (by omega) (by decide) (by decide)
          rw [show 100 * century + 4 * 24 + 3 + 1 = 100 * (century + 1) + 4 * 0 + 0 by omega, next]
          omega
      · have next := yearStart_parts century (four + 1) 0 centuries (by omega) (by decide)
        rw [show 100 * century + 4 * four + 3 + 1 = 100 * century + 4 * (four + 1) + 0 by omega, next]
        omega
    · have next := yearStart_parts century four (year + 1) centuries fours (by omega)
      rw [show 100 * century + 4 * four + year + 1 = 100 * century + 4 * four + (year + 1) by omega, next]
      omega

/-- The month of a day of the year. -/
def monthOf (dayOfYear : Int) : Int := (5 * dayOfYear + 2) / 153

theorem isDate (days : Int) :
    let era := days / 146097
    let year := yearOfEra (days % 146097)
    let dayOfYear := days % 146097 - yearStart year
    IsDate days (year + era * 400) (monthOf dayOfYear) (dayOfYear - monthStart (monthOf dayOfYear)) := by
  intro era year dayOfYear
  obtain ⟨_, _, begun, ends⟩ := yearOfEra_spec
    (show 0 ≤ days % 146097 ∧ days % 146097 < 146097 by omega)
  change yearStart year ≤ _ at begun
  change _ < yearStart (year + 1) at ends
  have length : yearStart (year + 1) ≤ yearStart year + 366 := by
    unfold yearStart
    omega
  have next := yearStart_era (year + 1) era
  have here := yearStart_era year era
  have inside : 0 ≤ dayOfYear ∧ dayOfYear ≤ 365 := by omega
  generalize known : dayOfYear = day at inside ⊢
  refine ⟨?_, ?_, ?_, ?_, ?_⟩
  · rw [here]
    omega
  · unfold monthOf
    omega
  · unfold monthStart monthOf
    omega
  · unfold monthStart monthOf
    omega
  · rw [show year + era * 400 + 1 = year + 1 + era * 400 by omega, next]
    omega

end Us3Turbo.Data.Calendar
