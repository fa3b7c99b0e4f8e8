import EduPod.Foundation.Grouping
import EduPod.Scheduling.DemandMet
import EduPod.Scheduling.Validation

/-! # The validator's weekly frequency check

The check goes over every curriculum row and every section of the row's year group, whichever class the
row is for. The lesson builder takes the rows in force for the class.
-/
namespace EduPod.Scheduling
open Grouping

section
/-- A violation with the class and the subject it is about. -/
structure SubjectViolation where
  tier : ℕ
  category : String
  cells : List ViolationCell
  subjectId : String
  classId : String
  deriving DecidableEq

def subjectEntries (assignments : List SolverAssignmentV2) (classId subjectId : String) : List SolverAssignmentV2 :=
  assignments.filter fun a => a.classId = classId && a.subjectId = some subjectId && !a.isSupervision

/-- One round of the check's loops: a row against one section of its year group. -/
def minFrequencyViolation (assignments : List SolverAssignmentV2) (curriculum : CurriculumEntry) (s : YearGroupSection) :
    Option SubjectViolation :=
  let entries := subjectEntries assignments s.classId curriculum.subjectId
  if (entries.length : ℤ) < curriculum.minPeriodsPerWeek then
    some {
      tier := 2
      category := "subject_min_frequency"
      cells := if entries.isEmpty then [⟨curriculum.yearGroupId,firstDay,0⟩]
        else entries.map fun a => ⟨a.yearGroupId,a.weekday,a.periodOrder⟩
      subjectId := curriculum.subjectId
      classId := s.classId }
  else none

def sectionsOf (input : SolverInputV2) (yearGroupId : String) : List YearGroupSection :=
  ((input.yearGroups.find? fun y => y.yearGroupId = yearGroupId).map (·.sections)).getD []

def checkTier2SubjectMinFrequency (input : SolverInputV2) (assignments : List SolverAssignmentV2) :
    List SubjectViolation :=
  input.curriculum.flatMap fun curriculum =>
    (sectionsOf input curriculum.yearGroupId).filterMap (minFrequencyViolation assignments curriculum)

/-! ## What the check should report -/

def Reported (input : SolverInputV2) (assignments : List SolverAssignmentV2) (classId subjectId : String) : Prop :=
  ∃ v ∈ checkTier2SubjectMinFrequency input assignments, v.classId = classId ∧ v.subjectId = subjectId

/-- The class has fewer periods of the row's subject than the row asks for. -/
def Short (assignments : List SolverAssignmentV2) (classId : String) (e : CurriculumEntry) : Prop :=
  ((subjectEntries assignments classId e.subjectId).length : ℤ) < e.minPeriodsPerWeek

/-- A row that is in force for the class, in a year group that lists it, asks for more than there is. -/
def FallsShort (input : SolverInputV2) (assignments : List SolverAssignmentV2) (classId subjectId : String) : Prop :=
  ∃ k ∈ listedClasses input, k.2 = classId ∧
    ∃ e ∈ curriculumForClass input classId k.1, e.subjectId = subjectId ∧ Short assignments classId e

/-- The class's own row, or a baseline row that it does not override. -/
def InForce (input : SolverInputV2) (classId : String) (e : CurriculumEntry) : Prop :=
  e.classId = some classId ∨ e.classId = none ∧ (classId,e.subjectId) ∉ overrideKeys input

/-- The first year group of that id lists the class. -/
def ListedFirst (input : SolverInputV2) (yearGroupId classId : String) : Prop :=
  ∃ s ∈ sectionsOf input yearGroupId, s.classId = classId

/-- No row is held against a class that it is not in force for, unless one in force is short as well; and a
class that only a second year group of an id lists is found through some other row. -/
structure RowsApply (input : SolverInputV2) (assignments : List SolverAssignmentV2) : Prop where
  foreign : ∀ e ∈ input.curriculum, ∀ classId, ListedFirst input e.yearGroupId classId → ¬ InForce input classId e →
    Short assignments classId e → FallsShort input assignments classId e.subjectId
  hidden : ∀ e ∈ input.curriculum, ∀ classId, (e.yearGroupId,classId) ∈ listedClasses input →
    ¬ ListedFirst input e.yearGroupId classId → InForce input classId e → Short assignments classId e →
      ∃ e' ∈ input.curriculum, e'.subjectId = e.subjectId ∧ ListedFirst input e'.yearGroupId classId ∧
        Short assignments classId e'

section
variable {input : SolverInputV2} {assignments : List SolverAssignmentV2} {classId subjectId yearGroupId : String}

theorem mem_curriculumForClass {e : CurriculumEntry} : e ∈ curriculumForClass input classId yearGroupId ↔
    e ∈ input.curriculum ∧ e.yearGroupId = yearGroupId ∧ InForce input classId e := by
  have hseen : ∀ e : CurriculumEntry, e.subjectId ∈ (input.curriculum.filter fun entry =>
      entry.yearGroupId = yearGroupId && entry.classId = some classId).map (·.subjectId) →
        (classId,e.subjectId) ∈ overrideKeys input := by
    intro e he
    obtain ⟨own,hown,hsubject⟩ := List.mem_map.mp he
    obtain ⟨hmem,hp⟩ := List.mem_filter.mp hown
    simp only [Bool.and_eq_true,decide_eq_true_eq] at hp
    exact List.mem_filterMap.mpr ⟨own,hmem,by simp [hp.2,hsubject]⟩
  simp only [curriculumForClass,List.mem_append,List.mem_filter,Bool.and_eq_true,decide_eq_true_eq,InForce]
  constructor
  · rintro (⟨hmem,hyear,hown⟩ | ⟨hmem,⟨⟨hyear,hbase⟩,-⟩,hkey⟩)
    · exact ⟨hmem,hyear,.inl hown⟩
    · exact ⟨hmem,hyear,.inr ⟨hbase,hkey⟩⟩
  · rintro ⟨hmem,hyear,hown | ⟨hbase,hkey⟩⟩
    · exact .inl ⟨hmem,hyear,hown⟩
    · exact .inr ⟨hmem,⟨⟨hyear,hbase⟩,fun hs => hkey (hseen e hs)⟩,hkey⟩

/-- What a round reports: that the class is short of the row's subject. -/
theorem minFrequencyViolation_eq_some {e : CurriculumEntry} {s : YearGroupSection} {v : SubjectViolation}
    (h : minFrequencyViolation assignments e s = some v) :
    Short assignments s.classId e ∧ v.classId = s.classId ∧ v.subjectId = e.subjectId := by
  simp only [minFrequencyViolation] at h
  split at h
  · rename_i hshort
    cases h
    exact ⟨hshort,rfl,rfl⟩
  · cases h

theorem exists_minFrequencyViolation {e : CurriculumEntry} {s : YearGroupSection} (h : Short assignments s.classId e) :
    ∃ v, minFrequencyViolation assignments e s = some v := by
  simp only [minFrequencyViolation]
  exact ⟨_,if_pos h⟩

/-- A class and subject are reported for any row of the subject that is short in a section of its year group. -/
theorem reported_iff : Reported input assignments classId subjectId ↔ ∃ e ∈ input.curriculum,
    e.subjectId = subjectId ∧ ListedFirst input e.yearGroupId classId ∧ Short assignments classId e := by
  constructor
  · rintro ⟨v,hv,rfl,rfl⟩
    obtain ⟨e,he,hv⟩ := List.mem_flatMap.mp hv
    obtain ⟨s,hs,hv⟩ := List.mem_filterMap.mp hv
    obtain ⟨hshort,hclass,hsubject⟩ := minFrequencyViolation_eq_some hv
    rw [hclass,hsubject]
    exact ⟨e,he,rfl,⟨s,hs,rfl⟩,hshort⟩
  · rintro ⟨e,he,rfl,⟨s,hs,rfl⟩,hshort⟩
    obtain ⟨v,hv⟩ := exists_minFrequencyViolation hshort
    obtain ⟨-,hclass,hsubject⟩ := minFrequencyViolation_eq_some hv
    exact ⟨v,List.mem_flatMap.mpr ⟨e,he,List.mem_filterMap.mpr ⟨s,hs,hv⟩⟩,hclass,hsubject⟩

theorem fallsShort_iff : FallsShort input assignments classId subjectId ↔ ∃ e ∈ input.curriculum,
    e.subjectId = subjectId ∧ (e.yearGroupId,classId) ∈ listedClasses input ∧ InForce input classId e ∧
      Short assignments classId e := by
  constructor
  · rintro ⟨k,hk,rfl,e,he,hsubject,hshort⟩
    obtain ⟨hmem,hyear,hforce⟩ := mem_curriculumForClass.mp he
    exact ⟨e,hmem,hsubject,hyear ▸ hk,hforce,hshort⟩
  · rintro ⟨e,hmem,hsubject,hlisted,hforce,hshort⟩
    exact ⟨_,hlisted,rfl,e,mem_curriculumForClass.mpr ⟨hmem,rfl,hforce⟩,hsubject,hshort⟩

theorem listed_of_listedFirst (h : ListedFirst input yearGroupId classId) : (yearGroupId,classId) ∈ listedClasses input := by
  obtain ⟨s,hs,rfl⟩ := h
  rw [sectionsOf] at hs
  cases hfind : input.yearGroups.find? fun y => y.yearGroupId = yearGroupId with
  | none => simp [hfind] at hs
  | some yg =>
    have hid : yg.yearGroupId = yearGroupId := by simpa using List.find?_some hfind
    rw [hfind] at hs
    exact List.mem_flatMap.mpr ⟨yg,List.mem_of_find?_eq_some hfind,List.mem_map.mpr ⟨s,hs,by rw [hid]⟩⟩

end

/-- The check reports the classes and subjects that fall short precisely if no row is held against a class
that it is not in force for. -/
theorem reported_iff_fallsShort (input : SolverInputV2) (assignments : List SolverAssignmentV2) :
    (∀ classId subjectId, Reported input assignments classId subjectId ↔ FallsShort input assignments classId subjectId) ↔
      RowsApply input assignments := by
  constructor
  · intro h
    refine ⟨fun e he classId hfirst _ hshort => ?_,fun e he classId hlisted _ hforce hshort => ?_⟩
    · exact (h classId e.subjectId).mp (reported_iff.mpr ⟨e,he,rfl,hfirst,hshort⟩)
    · exact reported_iff.mp ((h classId e.subjectId).mpr (fallsShort_iff.mpr ⟨e,he,rfl,hlisted,hforce,hshort⟩))
  · intro h classId subjectId
    constructor
    · intro hreported
      obtain ⟨e,he,rfl,hfirst,hshort⟩ := reported_iff.mp hreported
      by_cases hforce : InForce input classId e
      · exact fallsShort_iff.mpr ⟨e,he,rfl,listed_of_listedFirst hfirst,hforce,hshort⟩
      · exact h.foreign e he classId hfirst hforce hshort
    · intro hfalls
      obtain ⟨e,he,rfl,hlisted,hforce,hshort⟩ := fallsShort_iff.mp hfalls
      by_cases hfirst : ListedFirst input e.yearGroupId classId
      · exact reported_iff.mpr ⟨e,he,rfl,hfirst,hshort⟩
      · exact reported_iff.mpr (h.hidden e he classId hlisted hfirst hforce hshort)

/-- One class that takes one period of a subject instead of the five of its year group. -/
def reducedClass : SolverInputV2 :=
  { SolverInputV2.empty with
    yearGroups := [⟨"y",[⟨"c"⟩],[]⟩]
    curriculum := [{ CurriculumEntry.single "y" "maths" with minPeriodsPerWeek := 5 },
      { CurriculumEntry.single "y" "maths" with classId := some "c" }] }

def reducedEntry : SolverAssignmentV2 := ⟨"c",some "maths","y",none,none,firstDay,1,"09:00","10:00",false,none,false⟩

/-- Its one period is all it needs, and it is reported for the row that it overrides. -/
theorem not_reported_iff_fallsShort : ¬ ∀ (input : SolverInputV2) (assignments : List SolverAssignmentV2) classId subjectId,
    Reported input assignments classId subjectId ↔ FallsShort input assignments classId subjectId := by
  intro h
  have hreported : Reported reducedClass [reducedEntry] "c" "maths" :=
    ⟨⟨2,"subject_min_frequency",[⟨"y",firstDay,1⟩],"maths","c"⟩,by decide,rfl,rfl⟩
  obtain ⟨e,he,hsubject,-,hforce,hshort⟩ := fallsShort_iff.mp ((h reducedClass [reducedEntry] "c" "maths").mp hreported)
  have hrows : e = { CurriculumEntry.single "y" "maths" with minPeriodsPerWeek := 5 } ∨
      e = { CurriculumEntry.single "y" "maths" with classId := some "c" } := by simpa [reducedClass] using he
  rcases hrows with rfl | rfl
  · rcases hforce with hown | ⟨-,hkey⟩
    · cases hown
    · exact hkey (by decide)
  · exact absurd hshort (by unfold Short; decide)

end

/-! ## The checks of the schedule validator

One check finds double-booked teachers and blocks a schedule; the hard checks after it ask for an
acknowledgement. The checks of preferences report a tier that nothing decides on and are left out.
-/

structure StudentOverlap where
  classIdA : String
  classIdB : String
  deriving DecidableEq

structure RelatedEntities where
  teacherStaffId : Option String := none
  subjectId : Option String := none
  classId : Option String := none
  roomId : Option String := none
  breakGroupId : Option String := none
  deriving DecidableEq

structure ScheduleViolation where
  tier : ℕ
  category : String
  cells : List ViolationCell
  related : RelatedEntities
  deriving DecidableEq

/-- An id that is neither missing nor blank. -/
def idGiven (id : Option String) : Bool := id.any (· ≠ "")

def cellOf (a : SolverAssignmentV2) : ViolationCell := ⟨a.yearGroupId,a.weekday,a.periodOrder⟩

def slotOf (yearGroups : List YearGroupInput) (a : SolverAssignmentV2) : Option PeriodSlotV2 :=
  getSlot (getYearGroupGrid yearGroups a.yearGroupId) a.weekday a.periodOrder

def overlapping (yearGroups : List YearGroupInput) (a b : SolverAssignmentV2) : Bool :=
  match slotOf yearGroups a, slotOf yearGroups b with
  | some aSlot, some bSlot => aSlot.startTime < bSlot.endTime && bSlot.startTime < aSlot.endTime
  | _, _ => false

/-- Every pair of positions `i < j`. -/
@[grind] def orderedPairs {α : Type*} : List α → List (α × α)
  | [] => []
  | a :: rest => rest.map (fun b => (a,b)) ++ orderedPairs rest

/-- The first element of each key. -/
def firstOfEach {α κ : Type*} [DecidableEq κ] (key : α → κ) (xs : List α) : List α :=
  (groupBy key xs).filterMap fun g => g.2.head?

/-- The pairs of entries of one owner, a teacher or a room, on one day. -/
def sameDayPairs (owner : SolverAssignmentV2 → Option String) (assignments : List SolverAssignmentV2) :
    List (SolverAssignmentV2 × SolverAssignmentV2) :=
  (groupBy (fun a => (owner a,a.weekday)) (assignments.filter fun a => idGiven (owner a))).flatMap fun g => orderedPairs g.2

/-- Overlapping pairs, one for each pair of cells. -/
def clashes (yearGroups : List YearGroupInput) (pairs : List (SolverAssignmentV2 × SolverAssignmentV2)) :
    List (SolverAssignmentV2 × SolverAssignmentV2) :=
  firstOfEach (fun p => s(cellOf p.1,cellOf p.2)) (pairs.filter fun p => overlapping yearGroups p.1 p.2)

def checkTier1TeacherDoubleBooking (input : SolverInputV2) (assignments : List SolverAssignmentV2) :
    List ScheduleViolation :=
  (clashes input.yearGroups (sameDayPairs (·.teacherStaffId) assignments)).map fun p =>
    ⟨1,"teacher_double_booking",[cellOf p.1,cellOf p.2],{ teacherStaffId := p.1.teacherStaffId }⟩

/-! ## Teachers -/

def teacherOf (input : SolverInputV2) (a : SolverAssignmentV2) : Option TeacherInputV2 :=
  input.teachers.find? fun t => a.teacherStaffId = some t.staffProfileId

def checkTier2TeacherCompetency (input : SolverInputV2) (assignments : List SolverAssignmentV2) :
    List ScheduleViolation :=
  (assignments.filter fun a => idGiven a.teacherStaffId && idGiven a.subjectId && !a.isSupervision).filterMap fun a =>
    (teacherOf input a).bind fun teacher =>
      if teacher.competencies.any fun c => a.subjectId = some c.subjectId && c.yearGroupId = a.yearGroupId then none
      else some ⟨2,"teacher_competency",[cellOf a],
        { teacherStaffId := a.teacherStaffId, subjectId := a.subjectId }⟩

def teacherEntries (assignments : List SolverAssignmentV2) (teacher : TeacherInputV2) : List SolverAssignmentV2 :=
  assignments.filter fun a => a.teacherStaffId = some teacher.staffProfileId && !a.isSupervision

def checkTier2TeacherDailyLoad (input : SolverInputV2) (assignments : List SolverAssignmentV2) :
    List ScheduleViolation :=
  input.teachers.flatMap fun teacher => teacher.maxPeriodsPerDay.toList.flatMap fun (limit : ℤ) =>
    (List.finRange 7).filterMap fun weekday =>
      let dayEntries := (teacherEntries assignments teacher).filter fun a => a.weekday = weekday
      if limit < dayEntries.length then
        some ⟨2,"teacher_daily_load",dayEntries.map cellOf,{ teacherStaffId := teacher.staffProfileId }⟩
      else none

def checkTier2TeacherWeeklyLoad (input : SolverInputV2) (assignments : List SolverAssignmentV2) :
    List ScheduleViolation :=
  input.teachers.flatMap fun teacher => teacher.maxPeriodsPerWeek.toList.filterMap fun (limit : ℤ) =>
    let weeklyEntries := teacherEntries assignments teacher
    if limit < weeklyEntries.length then
      some ⟨2,"teacher_weekly_load",(weeklyEntries.take 5).map cellOf,{ teacherStaffId := teacher.staffProfileId }⟩
    else none

/-! ## Rooms -/

def roomOfEntry (input : SolverInputV2) (a : SolverAssignmentV2) : Option RoomInfoV2 :=
  input.rooms.find? fun r => a.roomId = some r.roomId

def checkTier2RoomDoubleBooking (input : SolverInputV2) (assignments : List SolverAssignmentV2) :
    List ScheduleViolation :=
  (clashes input.yearGroups ((sameDayPairs (·.roomId) assignments).filter fun p =>
    (roomOfEntry input p.1).any (·.isExclusive))).map fun p =>
      ⟨2,"room_double_booking",[cellOf p.1,cellOf p.2],{ roomId := p.1.roomId }⟩

def curriculumOf (input : SolverInputV2) (a : SolverAssignmentV2) : Option CurriculumEntry :=
  input.curriculum.find? fun c => c.yearGroupId = a.yearGroupId && a.subjectId = some c.subjectId

def checkTier2RoomTypeMismatch (input : SolverInputV2) (assignments : List SolverAssignmentV2) :
    List ScheduleViolation :=
  (assignments.filter fun a => idGiven a.roomId && idGiven a.subjectId && !a.isSupervision).filterMap fun a =>
    (((curriculumOf input a).bind (·.requiredRoomType)).filter (· ≠ "")).bind fun requiredRoomType =>
      (roomOfEntry input a).bind fun room =>
        if room.roomType = requiredRoomType then none
        else some ⟨2,"room_type_mismatch",[cellOf a],{ roomId := a.roomId, subjectId := a.subjectId }⟩

/-! ## Subjects -/

/-- Every row with each section of its year group. -/
def curriculumSections (input : SolverInputV2) : List (CurriculumEntry × YearGroupSection) :=
  input.curriculum.flatMap fun curriculum => (sectionsOf input curriculum.yearGroupId).map fun s => (curriculum,s)

def dayEntries (assignments : List SolverAssignmentV2) (r : CurriculumEntry × YearGroupSection) (weekday : Fin 7) :
    List SolverAssignmentV2 :=
  (subjectEntries assignments r.2.classId r.1.subjectId).filter fun a => a.weekday = weekday

def subjectRelated (r : CurriculumEntry × YearGroupSection) : RelatedEntities :=
  { subjectId := r.1.subjectId, classId := r.2.classId }

def checkTier2SubjectMaxPerDay (input : SolverInputV2) (assignments : List SolverAssignmentV2) :
    List ScheduleViolation :=
  (curriculumSections input).flatMap fun r => (List.finRange 7).filterMap fun weekday =>
    if r.1.maxPeriodsPerDay < (dayEntries assignments r weekday).length then
      some ⟨2,"subject_max_per_day",(dayEntries assignments r weekday).map cellOf,subjectRelated r⟩
    else none

/-- The period orders of a day's entries, in order. -/
def dayOrders (assignments : List SolverAssignmentV2) (r : CurriculumEntry × YearGroupSection) (weekday : Fin 7) : List ℕ :=
  ((dayEntries assignments r weekday).map (·.periodOrder)).insertionSort (· ≤ ·)

/-- The longest run of orders that stand next to each other among the slots. -/
def longestRun (slots orders : List ℕ) : ℕ :=
  ((orders.zip orders.tail).foldl (fun (run : ℕ × ℕ) p =>
    if p.1 ∈ slots ∧ p.2 ∈ slots ∧ slots.idxOf p.2 = slots.idxOf p.1 + 1 then (max run.1 (run.2 + 1),run.2 + 1)
    else (run.1,1)) (1,1)).1

def teachingOrders (periodGrid : List PeriodSlotV2) (weekday : Fin 7) : List ℕ :=
  ((periodGrid.filter fun p => p.weekday = weekday && p.periodType = .teaching).map (·.periodOrder)).insertionSort (· ≤ ·)

def checkTier2MaxConsecutive (input : SolverInputV2) (assignments : List SolverAssignmentV2) : List ScheduleViolation :=
  (curriculumSections input).flatMap fun r => (List.finRange 7).filterMap fun weekday =>
    let orders := dayOrders assignments r weekday
    let teachingSlots := teachingOrders (getYearGroupGrid input.yearGroups r.1.yearGroupId) weekday
    if r.1.maxPeriodsPerDay < orders.length ∧ r.1.maxPeriodsPerDay < longestRun teachingSlots orders then
      some ⟨2,"max_consecutive_exceeded",orders.map fun po => ⟨r.1.yearGroupId,weekday,po⟩,subjectRelated r⟩
    else none

/-- Teaching periods that no yard break or other duty stands between; classroom breaks do not count. -/
def teachingSlotSequences (slots : List PeriodSlotV2) : List (List ℕ) :=
  let sequences := slots.foldl (fun (s : List (List ℕ) × List ℕ) slot =>
    if slot.periodType = .teaching then (s.1,s.2 ++ [slot.periodOrder])
    else if slot.supervisionMode = .classroomPrevious ∨ slot.supervisionMode = .classroomNext then s
    else if s.2 = [] then s
    else (s.1 ++ [s.2],[])) ([],[])
  sequences.1 ++ if sequences.2 = [] then [] else [sequences.2]

def hasAdjacentPair (sequences : List (List ℕ)) (orders : List ℕ) (order : ℕ) : Bool :=
  sequences.any fun seq =>
    let idx := seq.idxOf order
    order ∈ seq && ((0 < idx && (seq[idx - 1]?).any (· ∈ orders)) || (seq[idx + 1]?).any (· ∈ orders))

def checkTier2MinConsecutive (input : SolverInputV2) (assignments : List SolverAssignmentV2) : List ScheduleViolation :=
  ((curriculumSections input).filter (·.1.requiresDoublePeriod)).flatMap fun r => (List.finRange 7).filterMap fun weekday =>
    let orders := dayOrders assignments r weekday
    let sequences := teachingSlotSequences (daySlots (getYearGroupGrid input.yearGroups r.1.yearGroupId) weekday)
    if orders.length < 2 then none
    else (orders.find? fun order => !hasAdjacentPair sequences orders order).map fun order =>
      ⟨2,"min_consecutive_violated",[⟨r.1.yearGroupId,weekday,order⟩],subjectRelated r⟩

/-! ## Breaks and students -/

/-- The yard breaks of a break group, the first year group's for each cell. -/
def yardBreaks (input : SolverInputV2) (breakGroupId : String) : List (String × PeriodSlotV2) :=
  firstOfEach (fun b => (b.2.weekday,b.2.periodOrder)) (input.yearGroups.flatMap fun yg =>
    (yg.periodGrid.filter fun slot => slot.supervisionMode = .yard && slot.breakGroupId = some breakGroupId).map fun slot =>
      (yg.yearGroupId,slot))

def checkTier2BreakSupervisionUnderstaffed (input : SolverInputV2) (assignments : List SolverAssignmentV2) :
    List ScheduleViolation :=
  input.breakGroups.flatMap fun bg => (yardBreaks input bg.breakGroupId).filterMap fun b =>
    let supervisors := assignments.filter fun a => a.isSupervision && a.breakGroupId = some bg.breakGroupId &&
      a.weekday = b.2.weekday && a.periodOrder = b.2.periodOrder
    if (supervisors.length : ℤ) < bg.requiredSupervisorCount then
      some ⟨2,"break_supervision_understaffed",[⟨b.1,b.2.weekday,b.2.periodOrder⟩],{ breakGroupId := bg.breakGroupId }⟩
    else none

/-- The teaching period a classroom break belongs to. -/
def adjacentTeachingSlot (periodGrid : List PeriodSlotV2) (breakSlot : PeriodSlotV2) : Option PeriodSlotV2 :=
  let slots := daySlots periodGrid breakSlot.weekday
  let breakIdx := slots.findIdx fun s => s.periodOrder = breakSlot.periodOrder
  if breakSlot.supervisionMode = .classroomPrevious then
    ((slots.take breakIdx).reverse).find? fun s => s.periodType = .teaching
  else (slots.drop (breakIdx + 1)).find? fun s => s.periodType = .teaching

def checkTier2ClassroomBreakTeacherMissing (input : SolverInputV2) (assignments : List SolverAssignmentV2) :
    List ScheduleViolation :=
  input.yearGroups.flatMap fun yg =>
    (yg.periodGrid.filter fun p => p.supervisionMode = .classroomPrevious || p.supervisionMode = .classroomNext).flatMap
      fun breakSlot => yg.sections.filterMap fun s =>
        let adjacentAssignment := (adjacentTeachingSlot yg.periodGrid breakSlot).bind fun slot =>
          assignments.find? fun a => a.classId = s.classId && a.weekday = breakSlot.weekday &&
            a.periodOrder = slot.periodOrder && !a.isSupervision
        if adjacentAssignment.any fun a => idGiven a.teacherStaffId then none
        else some ⟨2,"classroom_break_teacher_missing",[⟨yg.yearGroupId,breakSlot.weekday,breakSlot.periodOrder⟩],
          { classId := s.classId }⟩

/-- The lessons of two classes that share students, on the same day. -/
def sharedDayLessons (studentOverlaps : List StudentOverlap) (assignments : List SolverAssignmentV2) :
    List (StudentOverlap × SolverAssignmentV2 × SolverAssignmentV2) :=
  let lessonsOf (classId : String) := assignments.filter fun a => a.classId = classId && !a.isSupervision
  studentOverlaps.flatMap fun o => (lessonsOf o.classIdA).flatMap fun a =>
    ((lessonsOf o.classIdB).filter fun b => a.weekday = b.weekday).map fun b => (o,a,b)

def checkTier2StudentOverlap (input : SolverInputV2) (studentOverlaps : List StudentOverlap)
    (assignments : List SolverAssignmentV2) : List ScheduleViolation :=
  let classCell (a : SolverAssignmentV2) := (a.classId,a.weekday,a.periodOrder)
  (firstOfEach (fun p => s(classCell p.2.1,classCell p.2.2)) ((sharedDayLessons studentOverlaps assignments).filter fun p =>
    overlapping input.yearGroups p.2.1 p.2.2)).map fun p =>
      ⟨2,"student_overlap",[cellOf p.2.1,cellOf p.2.2],{ classId := p.1.classIdA }⟩

/-! ## All checks -/

def ConstraintViolation.scheduled (v : ConstraintViolation) : ScheduleViolation :=
  ⟨v.tier,v.category,v.cells,{ teacherStaffId := v.teacherStaffId }⟩

def SubjectViolation.scheduled (v : SubjectViolation) : ScheduleViolation :=
  ⟨v.tier,v.category,v.cells,{ subjectId := v.subjectId, classId := v.classId }⟩

/-- The violations that an apply decides on, in the order of the checks. -/
def scheduleViolations (input : SolverInputV2) (studentOverlaps : List StudentOverlap)
    (assignments : List SolverAssignmentV2) : List ScheduleViolation :=
  checkTier1TeacherDoubleBooking input assignments ++
  (checkTier2TeacherAvailability input assignments).map (·.scheduled) ++
  checkTier2TeacherCompetency input assignments ++
  (checkTier2SubjectMinFrequency input assignments).map (·.scheduled) ++
  checkTier2SubjectMaxPerDay input assignments ++
  checkTier2TeacherDailyLoad input assignments ++
  checkTier2TeacherWeeklyLoad input assignments ++
  checkTier2RoomDoubleBooking input assignments ++
  checkTier2RoomTypeMismatch input assignments ++
  checkTier2BreakSupervisionUnderstaffed input assignments ++
  checkTier2ClassroomBreakTeacherMissing input assignments ++
  checkTier2StudentOverlap input studentOverlaps assignments ++
  checkTier2MaxConsecutive input assignments ++
  checkTier2MinConsecutive input assignments

end EduPod.Scheduling
