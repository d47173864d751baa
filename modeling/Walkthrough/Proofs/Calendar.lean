import Mathlib.Tactic.IntervalCases
import Walkthrough.Moment.Clock
import Walkthrough.Proofs.Moments

/-!
# The clock and the calendar

The clock counts seconds, and a date is made of years, months and days.  Main statements: a date is
found again from the number of its days; and so the moment for which a plain date stands in a zone
is the one at which the clock of that zone shows midnight.  Years are taken from March to February
in cycles of 400, as they are counted, and a year of a cycle is cut into what it has of centuries,
of groups of four years, and of single ones.
-/

namespace Walkthrough

variable {year month day dayOfYear : Nat}

/-! ### One cycle of years -/

/-- Whether a year of a cycle has a day of a number.  Only a year that goes on to the 29th of
February has the number 365. -/
def YearHasDay (year dayOfYear : Nat) : Prop :=
  dayOfYear < 365 ∨ dayOfYear = 365 ∧ (year + 1) % 4 = 0 ∧ ((year + 1) % 100 ≠ 0 ∨ year = 399)

lemma daysBeforeYear_split {century four one : Nat} (hfour : four < 25) (hone : one < 4) :
    daysBeforeYear (100 * century + (4 * four + one)) =
      36524 * century + (1461 * four + 365 * one) := by
  have hfours : (100 * century + (4 * four + one)) / 4 = 25 * century + four := by omega
  have hcenturies : (100 * century + (4 * four + one)) / 100 = century := by omega
  rw [daysBeforeYear, hfours, hcenturies]
  omega

/-- A day of a cycle tells its year.  The corrections take out the days that only some years have,
so that all years are of one length. -/
lemma year_of_dayOfCycle (hyear : year < 400) (h : YearHasDay year dayOfYear) :
    let day := daysBeforeYear year + dayOfYear
    day < 146097 ∧ (day - day / 1460 + day / 36524 - day / 146096) / 365 = year := by
  obtain ⟨century, four, one, hfour, hone, rfl⟩ : ∃ century four one, four < 25 ∧ one < 4 ∧
      year = 100 * century + (4 * four + one) :=
    ⟨year / 100, year % 100 / 4, year % 4, by omega, by omega, by omega⟩
  intro day
  have hday : day = 36524 * century + (1461 * four + 365 * one) + dayOfYear :=
    congrArg (· + dayOfYear) (daysBeforeYear_split hfour hone)
  clear_value day
  have hlast : dayOfYear < 365 ∨ dayOfYear = 365 ∧ one = 3 ∧ (four < 24 ∨ century = 3) := by
    rcases h with h | ⟨h, hleap, hcentury⟩
    · exact Or.inl h
    · right
      omega
  have hfours : day / 1460 = 25 * century + four ∨
      one = 3 ∧ 0 < dayOfYear ∧ day / 1460 = 25 * century + four + 1 := by omega
  -- all days but the very last one of the cycle are of the century that they seem to be of
  have hcentury : 1461 * four + 365 * one + dayOfYear < 36524 ∨ day = 146096 := by omega
  rcases hcentury with hwithin | hlastday
  · have hcenturies : day / 36524 = century := by omega
    have hcycle : day / 146096 = 0 := by omega
    rw [hcenturies, hcycle]
    refine ⟨by omega, ?_⟩
    rcases hfours with hfours | ⟨rfl, hpos, hfours⟩
    all_goals
      rw [hfours]
      omega
  · rw [hlastday]
    refine ⟨by decide, ?_⟩
    omega

/-- A day of a year tells its month and its day of the month. -/
lemma month_of_dayOfYear (hpos : 1 ≤ day)
    (hlast : daysBeforeMonth month + day ≤ daysBeforeMonth (month + 1)) :
    let dayOfYear := daysBeforeMonth month + (day - 1)
    (5 * dayOfYear + 2) / 153 = month ∧ dayOfYear - daysBeforeMonth month + 1 = day := by
  intro dayOfYear
  have hdayOfYear : dayOfYear = daysBeforeMonth month + (day - 1) := rfl
  clear_value dayOfYear
  rw [daysBeforeMonth] at hdayOfYear ⊢
  rw [daysBeforeMonth, daysBeforeMonth] at hlast
  constructor <;> omega

/-! ### Dates -/

namespace Date

variable (date : Date)

lemma daysBeforeMonth_add_day_le :
    daysBeforeMonth date.marchMonth + date.day ≤ daysBeforeMonth (date.marchMonth + 1) := by
  obtain ⟨-, hday⟩ := date.day_mem
  obtain ⟨hfirst, hlast⟩ := date.month_mem
  rw [daysInMonth] at hday
  rw [marchMonth, daysBeforeMonth, daysBeforeMonth]
  interval_cases date.month <;> grind

lemma yearHasDay {cycle : Int} (hyear : year < 400) (h : date.marchYear = cycle * 400 + year) :
    YearHasDay year (daysBeforeMonth date.marchMonth + (date.day - 1)) := by
  obtain ⟨hpos, hday⟩ := date.day_mem
  have hmonth := date.month_mem
  rw [daysInMonth, isLeapYear] at hday
  rw [marchYear] at h
  rw [YearHasDay, marchMonth, daysBeforeMonth]
  simp only [Bool.and_eq_true, Bool.or_eq_true, beq_iff_eq, bne_iff_ne] at hday
  split_ifs at h hday ⊢ <;> omega

/-- The year and the month of a date are those counted from March, shifted back. -/
lemma year_and_month :
    date.marchYear + (if date.marchMonth < 10 then 0 else 1) = date.year ∧
      (if date.marchMonth < 10 then date.marchMonth + 3 else date.marchMonth - 9) = date.month := by
  have hmonth := date.month_mem
  rw [marchYear, marchMonth]
  split_ifs <;> omega

/-- A date is found again from the number of its days. -/
theorem ofDays?_days : ofDays? date.days = some date := by
  obtain ⟨cycle, year, hyear, hmarch⟩ : ∃ (cycle : Int) (year : Nat), year < 400 ∧
      date.marchYear = cycle * 400 + year :=
    ⟨date.marchYear / 400, (date.marchYear % 400).toNat, by omega, by omega⟩
  obtain ⟨hbound, hyearFound⟩ := year_of_dayOfCycle hyear (date.yearHasDay hyear hmarch)
  obtain ⟨hmonthFound, hdayFound⟩ :=
    month_of_dayOfYear date.day_mem.1 date.daysBeforeMonth_add_day_le
  obtain ⟨hyearOf, hmonthOf⟩ := date.year_and_month
  set dayOfYear := daysBeforeMonth date.marchMonth + (date.day - 1)
  set day := daysBeforeYear year + dayOfYear with hday
  have hdays : date.days + daysBeforeClock = cycle * daysOfCycle + day := by
    have hcycle : Int.fdiv date.marchYear 400 = cycle := by
      rw [Int.fdiv_eq_ediv_of_nonneg _ (by decide)]
      omega
    have hrest : (date.marchYear - cycle * 400).toNat = year := by omega
    rw [days, hcycle, hrest]
    omega
  have hcycleFound : Int.fdiv (date.days + daysBeforeClock) daysOfCycle = cycle := by
    rw [hdays, Int.fdiv_eq_ediv_of_nonneg _ (by decide), daysOfCycle]
    omega
  have hdayOfCycle : (date.days + daysBeforeClock - cycle * daysOfCycle).toNat = day := by
    rw [hdays]
    omega
  have hdayOfYear : day - daysBeforeYear year = dayOfYear := by omega
  rw [ofDays?]
  simp only [hcycleFound, hdayOfCycle, hyearFound, hdayOfYear, hmonthFound, hdayFound, ← hmarch,
    hyearOf, hmonthOf]
  exact date.of?_eq

end Date

/-- The moment at which a day starts in a zone is the one at which the clock there shows its
midnight. -/
theorem Zone.midnight?_eq_ofClock? {zone : Zone} {date : Date} {ahead : Int}
    (h : zone.ahead? date = some ahead) :
    zone.midnight? date = Moment.ofClock? ahead (date.days * 86400 - ahead) 0 := by
  have hshown : date.days * 86400 - ahead + ahead = date.days * 86400 := by omega
  have hdays : Int.fdiv (date.days * 86400) 86400 = date.days := by
    rw [Int.fdiv_eq_ediv_of_nonneg _ (by decide)]
    omega
  have hrest : (date.days * 86400 - date.days * 86400).toNat = 0 := by omega
  rw [midnight?, h, Moment.ofClock?]
  simp only [hshown, hdays, hrest, date.ofDays?_days]
  rfl

end Walkthrough
