import Mathlib

/-! # Civil dates

A month is numbered through from the first month of year 0, so that the month after the last one
of a year is the first one of the next year. A day that runs past its month counts on in the
months that follow, which is how calendar arithmetic on dates behaves in most run-time libraries.
-/
namespace EduPod

def isLeapYear (year : ℕ) : Bool := year % 4 == 0 && (year % 100 != 0 || year % 400 == 0)

def daysInMonth (monthNumber : ℕ) : ℕ :=
  match monthNumber % 12 with
  | 1 => if isLeapYear (monthNumber / 12) then 29 else 28
  | 3 | 5 | 8 | 10 => 30
  | _ => 31

theorem daysInMonth_bounds (monthNumber : ℕ) :
    28 ≤ daysInMonth monthNumber ∧ daysInMonth monthNumber ≤ 31 := by
  unfold daysInMonth
  split
  · split <;> simp
  all_goals simp

structure CivilDate where
  monthNumber : ℕ
  day : ℕ
  pos : 1 ≤ day
  le : day ≤ daysInMonth monthNumber
  deriving DecidableEq

namespace CivilDate

instance : LE CivilDate where
  le a b := a.monthNumber < b.monthNumber ∨ a.monthNumber = b.monthNumber ∧ a.day ≤ b.day

instance (a b : CivilDate) : Decidable (a ≤ b) :=
  inferInstanceAs (Decidable (a.monthNumber < b.monthNumber ∨ a.monthNumber = b.monthNumber ∧ a.day ≤ b.day))

/-- The month and the day that a day count lands on; every month takes off at least one day, so
the count itself is fuel enough. -/
@[grind] def carry : ℕ → ℕ → ℕ → ℕ × ℕ
  | 0, month, day => (month,day)
  | fuel + 1, month, day =>
    if day ≤ daysInMonth month then (month,day) else carry fuel (month + 1) (day - daysInMonth month)

theorem carry_valid {fuel month day : ℕ} (hpos : 1 ≤ day) (hfuel : day ≤ fuel) :
    1 ≤ (carry fuel month day).2 ∧
      (carry fuel month day).2 ≤ daysInMonth (carry fuel month day).1 := by
  induction fuel generalizing month day with
  | zero => omega
  | succ fuel ih =>
    unfold carry
    split
    · rename_i h
      exact ⟨hpos,h⟩
    · have := daysInMonth_bounds month
      apply ih <;> omega

/-- The date `day - 1` days after the first of the month. -/
def makeDay (month day : ℕ) (h : 1 ≤ day) : CivilDate where
  monthNumber := (carry day month day).1
  day := (carry day month day).2
  pos := (carry_valid h day.le_refl).1
  le := (carry_valid h day.le_refl).2

/-- The date so many days after the beginning of 1970. -/
def ofEpochDay (days : ℕ) : CivilDate := makeDay (12 * 1970) (days + 1) days.succ_pos

def addMonth (date : CivilDate) : CivilDate := makeDay (date.monthNumber + 1) date.day date.pos

def addDays (date : CivilDate) (days : ℕ) : CivilDate :=
  makeDay date.monthNumber (date.day + days) (le_add_right date.pos)

def firstOfMonth (month : ℕ) : CivilDate where
  monthNumber := month
  day := 1
  pos := le_rfl
  le := le_trans (by decide) (daysInMonth_bounds month).1

def lastOfMonth (month : ℕ) : CivilDate where
  monthNumber := month
  day := daysInMonth month
  pos := le_trans (by decide) (daysInMonth_bounds month).1
  le := le_rfl

/-! Counting on never goes back, and stays in the month exactly while the day fits. -/

theorem le_carry (fuel month day : ℕ) : month ≤ (carry fuel month day).1 := by
  induction fuel generalizing month day with
  | zero => exact le_refl month
  | succ fuel ih =>
    unfold carry
    split
    · exact le_refl month
    · exact (Nat.le_succ month).trans (ih _ _)

theorem carry_month_iff {fuel month day : ℕ} (hfuel : day ≤ fuel) (hpos : 1 ≤ day) :
    (carry fuel month day).1 = month ↔ day ≤ daysInMonth month := by
  cases fuel with
  | zero => omega
  | succ fuel =>
    unfold carry
    by_cases h : day ≤ daysInMonth month
    · rw [if_pos h]
      exact iff_of_true rfl h
    · rw [if_neg h]
      have := le_carry fuel (month + 1) (day - daysInMonth month)
      refine iff_of_false ?_ h
      omega

variable (date : CivilDate)

theorem lt_addMonth : date.monthNumber < date.addMonth.monthNumber := le_carry _ (date.monthNumber + 1) _

/-- One month on is in the next calendar month precisely when that month has the day. -/
theorem addMonth_monthNumber_iff :
    date.addMonth.monthNumber = date.monthNumber + 1 ↔ date.day ≤ daysInMonth (date.monthNumber + 1) :=
  carry_month_iff date.day.le_refl date.pos

end CivilDate

end EduPod
