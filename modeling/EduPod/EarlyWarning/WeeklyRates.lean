import Mathlib
import EduPod.Foundation.Double
import EduPod.Foundation.Rounding

/-! # Weekly rates behind the trajectory signals

Attendance and read rates are worked out for the last weeks, each over the rows of a window that ends
whole weeks before now. Instants are milliseconds, in a zone without daylight saving time.
-/
namespace EduPod.EarlyWarning

def msPerDay : ℤ := 24 * 60 * 60 * 1000

theorem msPerDay_eq : msPerDay = 86400000 := rfl

/-- Day 0 is a Thursday; Sunday has number 0. -/
def isWeekend (instant : ℤ) : Bool :=
  let day := (instant / msPerDay + 4) % 7
  day = 0 || day = 6

inductive DerivedStatus
  | present | partiallyAbsent | absent | late | excused
  deriving DecidableEq, Repr

/-- `summaryDate` is a date column, the number of its day. -/
structure AttendanceSummaryRow where
  summaryDate : ℤ
  derivedStatus : DerivedStatus
  deriving DecidableEq, Repr

structure NotificationRow where
  createdAt : ℤ
  readAt : Option ℤ
  deriving DecidableEq, Repr

/-- What the weekly rates differ in: when a row is dated, whether it counts and whether it counts as met. -/
structure WeeklyRate (α : Type*) where
  date : α → ℤ
  counts : α → Bool
  met : α → Bool

def weekEnd (now : ℤ) (w : ℕ) : ℤ := now - w * 7 * msPerDay

def weekStart (now : ℤ) (w : ℕ) : ℤ := weekEnd now w - 6 * msPerDay

def WeeklyRate.weekRows {α : Type*} (rate : WeeklyRate α) (now : ℤ) (rows : List α) (w : ℕ) : List α :=
  rows.filter fun row => weekStart now w ≤ rate.date row && rate.date row ≤ weekEnd now w && rate.counts row

/-- The percentages, oldest week first; a week without rows counts as full. -/
def WeeklyRate.compute {α : Type*} (rate : WeeklyRate α) (now : ℤ) (rows : List α) (weekCount : ℕ) : List ℤ :=
  (List.range weekCount).reverse.map fun w =>
    let week := rate.weekRows now rows w
    if week.length = 0 then 100
    else Rounding.nearest (toDouble (toDouble (week.countP rate.met / week.length) * 100))

def attendanceRate : WeeklyRate AttendanceSummaryRow where
  date s := s.summaryDate * msPerDay
  counts s := !isWeekend (s.summaryDate * msPerDay)
  met s := s.derivedStatus = .present || s.derivedStatus = .late

def readRate : WeeklyRate NotificationRow where
  date n := n.createdAt
  counts _ := true
  met n := n.readAt.isSome

/-- The worker's collector. -/
def computeWeeklyAttendanceRates : ℤ → List AttendanceSummaryRow → ℕ → List ℤ := attendanceRate.compute

/-- The collector of the API. -/
def computeWeeklyRates : ℤ → List AttendanceSummaryRow → ℕ → List ℤ := attendanceRate.compute

def computeWeeklyReadRates (notifications : List NotificationRow) (now : ℤ) (weekCount : ℕ) : List ℤ :=
  readRate.compute now notifications weekCount

/-! ## Which rows a week counts -/

variable {α : Type*} {rate : WeeklyRate α} {rows : List α} {now instant day : ℤ} {weekCount w : ℕ}

/-- The days of the last weeks, up to now. -/
def WithinLast (now : ℤ) (weekCount : ℕ) (instant : ℤ) : Prop :=
  now - weekCount * 7 * msPerDay < instant ∧ instant ≤ now

/-- Every row of the last weeks that counts is one of exactly one week. -/
def CountedOnce (rate : WeeklyRate α) (now : ℤ) (rows : List α) (weekCount : ℕ) : Prop :=
  ∀ row ∈ rows, rate.counts row → WithinLast now weekCount (rate.date row) →
    ∃! w, w < weekCount ∧ row ∈ rate.weekRows now rows w

/-- An instant less than a day short of a whole number of weeks ago lies between two windows. -/
theorem window_iff : weekStart now w ≤ instant ∧ instant ≤ weekEnd now w ↔
    (now - instant) / (7 * msPerDay) = w ∧ (now - instant) % (7 * msPerDay) ≤ 6 * msPerDay := by
  simp only [weekStart,weekEnd,msPerDay]
  omega

theorem withinLast_iff :
    WithinLast now weekCount instant ↔ instant ≤ now ∧ (now - instant) / (7 * msPerDay) < weekCount := by
  simp only [WithinLast,msPerDay]
  omega

theorem mem_weekRows {row : α} : row ∈ rate.weekRows now rows w ↔ row ∈ rows ∧ rate.counts row ∧
    (now - rate.date row) / (7 * msPerDay) = w ∧ (now - rate.date row) % (7 * msPerDay) ≤ 6 * msPerDay := by
  simp only [WeeklyRate.weekRows,List.mem_filter,Bool.and_eq_true,decide_eq_true_eq,window_iff]
  tauto

theorem countedOnce_iff_remainder : CountedOnce rate now rows weekCount ↔
    ∀ row ∈ rows, rate.counts row → WithinLast now weekCount (rate.date row) →
      (now - rate.date row) % (7 * msPerDay) ≤ 6 * msPerDay := by
  constructor
  · intro h row hrow hcounts hwithin
    obtain ⟨w,⟨-,hweek⟩,-⟩ := h row hrow hcounts hwithin
    exact (mem_weekRows.mp hweek).2.2.2
  · intro h row hrow hcounts hwithin
    have hinside := h row hrow hcounts hwithin
    obtain ⟨hpast,hweeks⟩ := withinLast_iff.mp hwithin
    have hnonneg : 0 ≤ (now - rate.date row) / (7 * msPerDay) := by
      simp only [msPerDay]
      omega
    obtain ⟨w,hw⟩ := Int.eq_ofNat_of_zero_le hnonneg
    refine ⟨w,⟨by omega,mem_weekRows.mpr ⟨hrow,hcounts,hw,hinside⟩⟩,?_⟩
    rintro w' ⟨-,hweek⟩
    have hw' := (mem_weekRows.mp hweek).2.2.1
    omega

/-! ## Attendance -/

theorem isWeekend_iff (instant : ℤ) :
    isWeekend instant ↔ (instant / msPerDay + 4) % 7 = 0 ∨ (instant / msPerDay + 4) % 7 = 6 := by
  simp [isWeekend]

/-- A school day that a clock past midnight leaves out has the weekday of tomorrow. -/
def SkippedDay (now day : ℤ) : Prop := now % msPerDay ≠ 0 ∧ (now / msPerDay - day) % 7 = 6

theorem remainder_le_iff (now day : ℤ) :
    (now - day * msPerDay) % (7 * msPerDay) ≤ 6 * msPerDay ↔ ¬SkippedDay now day := by
  simp only [SkippedDay,msPerDay]
  omega

theorem isWeekend_skipped (h : SkippedDay now day) : isWeekend (day * msPerDay) = isWeekend (now + msPerDay) := by
  obtain ⟨-,hday⟩ := h
  rw [Bool.eq_iff_iff,isWeekend_iff,isWeekend_iff]
  rw [msPerDay_eq] at hday ⊢
  omega

theorem attendance_countedOnce_iff (summaries : List AttendanceSummaryRow) :
    CountedOnce attendanceRate now summaries weekCount ↔
      ∀ s ∈ summaries, attendanceRate.counts s → WithinLast now weekCount (attendanceRate.date s) →
        ¬SkippedDay now s.summaryDate := by
  rw [countedOnce_iff_remainder]
  simp only [← remainder_le_iff]
  rfl

/-- Which rows the weekly rates count once: for attendance all but those of the skipped days, for
notifications all that do not lie in the day between two windows. -/
theorem countedOnce_iff (now : ℤ) (summaries : List AttendanceSummaryRow) (notifications : List NotificationRow)
    (weekCount : ℕ) :
    (CountedOnce attendanceRate now summaries weekCount ↔
      ∀ s ∈ summaries, attendanceRate.counts s → WithinLast now weekCount (attendanceRate.date s) →
        ¬SkippedDay now s.summaryDate) ∧
    (CountedOnce readRate now notifications weekCount ↔
      ∀ n ∈ notifications, WithinLast now weekCount n.createdAt →
        (now - n.createdAt) % (7 * msPerDay) ≤ 6 * msPerDay) := by
  refine ⟨attendance_countedOnce_iff summaries,?_⟩
  rw [countedOnce_iff_remainder]
  simp [readRate]

/-- Wednesday noon, and the Thursday before. -/
theorem not_countedOnce : ¬ ∀ (now : ℤ) (summaries : List AttendanceSummaryRow) (weekCount : ℕ),
    CountedOnce attendanceRate now summaries weekCount := by
  intro h
  have hskipped := countedOnce_iff_remainder.mp (h (6 * msPerDay + msPerDay / 2) [⟨0,.present⟩] 4)
    ⟨0,.present⟩ (by simp) (by decide) ⟨by decide,by decide⟩
  exact absurd hskipped (by decide)

/-- Some school day is left out at every time of a day but midnight, unless tomorrow is on a weekend. -/
theorem countedOnce_forall_iff (now : ℤ) (weekCount : ℕ) :
    (∀ summaries, CountedOnce attendanceRate now summaries weekCount) ↔
      weekCount = 0 ∨ now % msPerDay = 0 ∨ isWeekend (now + msPerDay) := by
  simp only [attendance_countedOnce_iff]
  constructor
  · intro h
    by_contra hnot
    push Not at hnot
    obtain ⟨hweeks,hclock,hschool⟩ := hnot
    have hskipped : SkippedDay now (now / msPerDay - 6) := ⟨hclock,by omega⟩
    have hcounts : attendanceRate.counts ⟨now / msPerDay - 6,.present⟩ := by
      simpa [attendanceRate,isWeekend_skipped hskipped] using hschool
    have hwithin : WithinLast now weekCount ((now / msPerDay - 6) * msPerDay) := by
      unfold WithinLast
      rw [msPerDay_eq] at hclock ⊢
      omega
    exact h [⟨_,.present⟩] _ List.mem_cons_self hcounts hwithin hskipped
  · rintro h summaries s - hcounts hwithin hskipped
    rcases h with rfl | hclock | hweekend
    · have hnone := (withinLast_iff.mp hwithin)
      rw [msPerDay_eq] at hnone
      omega
    · exact hskipped.1 hclock
    · have hschool : isWeekend (s.summaryDate * msPerDay) = false := by simpa [attendanceRate] using hcounts
      rw [isWeekend_skipped hskipped,hweekend] at hschool
      contradiction

end EduPod.EarlyWarning
