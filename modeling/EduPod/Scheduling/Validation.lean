import EduPod.Scheduling.Slots

/-! # The validator's teacher availability check

The validator runs on the whole grid of the entry's year group, breaks included, and on
entries of any origin.
-/
namespace EduPod.Scheduling

inductive BreakDirection
  | before | after
  deriving DecidableEq

structure AdjacentBreak where
  slot : PeriodSlotV2
  direction : BreakDirection
  deriving DecidableEq

/-- A year group's cells of one weekday by period order. -/
def daySlots (periodGrid : List PeriodSlotV2) (weekday : Fin 7) : List PeriodSlotV2 :=
  (periodGrid.filter fun p => p.weekday = weekday).insertionSort fun a b => a.periodOrder ≤ b.periodOrder

def findAdjacentBreaks (periodGrid : List PeriodSlotV2) (weekday : Fin 7) (periodOrder : ℕ) : List AdjacentBreak :=
  let (prev,next) := neighbours (fun s => s.periodOrder = periodOrder) (daySlots periodGrid weekday)
  ((next.filter fun s => s.supervisionMode = .classroomPrevious).toList.map fun s => ⟨s,.after⟩) ++
    (prev.filter fun s => s.supervisionMode = .classroomNext).toList.map fun s => ⟨s,.before⟩

def getYearGroupGrid (yearGroups : List YearGroupInput) (yearGroupId : String) : List PeriodSlotV2 :=
  ((yearGroups.find? fun y => y.yearGroupId = yearGroupId).map (·.periodGrid)).getD []

def getSlot (grid : List PeriodSlotV2) (weekday : Fin 7) (periodOrder : ℕ) : Option PeriodSlotV2 :=
  grid.find? fun p => p.weekday = weekday && p.periodOrder = periodOrder

structure ViolationCell where
  yearGroupId : String
  weekday : Fin 7
  periodOrder : ℕ
  deriving DecidableEq

/-- A violation with the teacher it is about. -/
structure ConstraintViolation where
  tier : ℕ
  category : String
  message : String
  cells : List ViolationCell
  teacherStaffId : Option String
  teacherName : Option String
  deriving DecidableEq

/-- One adjacent break stretches the range in its direction. -/
def extendRange (range : String × String) (ab : AdjacentBreak) : String × String :=
  match ab.direction with
  | .before => if ab.slot.startTime < range.1 then (ab.slot.startTime,range.2) else range
  | .after => if range.2 < ab.slot.endTime then (range.1,ab.slot.endTime) else range

/-- The range a teacher has to be available in; breaks count for lessons only. -/
def effectiveRange (grid : List PeriodSlotV2) (a : SolverAssignmentV2) (slot : PeriodSlotV2) : String × String :=
  (if a.isSupervision then [] else findAdjacentBreaks grid a.weekday a.periodOrder).foldl extendRange
    (slot.startTime,slot.endTime)

def availabilityViolation (a : SolverAssignmentV2) (teacher : TeacherInputV2) (message : String) :
    ConstraintViolation where
  tier := 2
  category := "teacher_availability"
  message := message
  cells := [⟨a.yearGroupId,a.weekday,a.periodOrder⟩]
  teacherStaffId := a.teacherStaffId
  teacherName := some teacher.name

/-- One round of the check's loop: the violations of one entry. -/
def availabilityViolations (input : SolverInputV2) (a : SolverAssignmentV2) : List ConstraintViolation :=
  match a.teacherStaffId.filter (· ≠ "") with
  | none => []
  | some id =>
    match input.teachers.find? fun t => t.staffProfileId = id with
    | none => []
    | some teacher =>
      if teacher.availability.isEmpty then []
      else
        let grid := getYearGroupGrid input.yearGroups a.yearGroupId
        match getSlot grid a.weekday a.periodOrder with
        | none => []
        | some slot =>
          let range := effectiveRange grid a slot
          let dayAvail := teacher.availability.filter fun av => av.weekday = a.weekday
          if dayAvail.isEmpty then
            [availabilityViolation a teacher (teacher.name ++ " has no availability on weekday " ++
              toString a.weekday.val)]
          else if dayAvail.any fun av => av.start ≤ range.1 && range.2 ≤ av.stop then []
          else [availabilityViolation a teacher (teacher.name ++ " is not available for " ++ range.1 ++ "-" ++
            range.2 ++ " on weekday " ++ toString a.weekday.val)]

def checkTier2TeacherAvailability (input : SolverInputV2) (assignments : List SolverAssignmentV2) :
    List ConstraintViolation := assignments.flatMap (availabilityViolations input)

/-! ## When an entry raises nothing -/

/-- The windows of the entry's teacher cover its range, whenever the check gets that far. -/
def CoversRange (input : SolverInputV2) (a : SolverAssignmentV2) (teacher : TeacherInputV2) : Prop :=
  ∀ slot, getSlot (getYearGroupGrid input.yearGroups a.yearGroupId) a.weekday a.periodOrder = some slot →
    ∃ av ∈ teacher.availability, av.weekday = a.weekday ∧
      av.start ≤ (effectiveRange (getYearGroupGrid input.yearGroups a.yearGroupId) a slot).1 ∧
      (effectiveRange (getYearGroupGrid input.yearGroups a.yearGroupId) a slot).2 ≤ av.stop

theorem availabilityViolations_eq_nil_iff {input : SolverInputV2} {a : SolverAssignmentV2} {id : String}
    {teacher : TeacherInputV2} (hid : a.teacherStaffId = some id)
    (ht : input.teachers.find? (fun t => t.staffProfileId = id) = some teacher) :
    availabilityViolations input a = [] ↔ id = "" ∨ teacher.availability = [] ∨ CoversRange input a teacher := by
  unfold availabilityViolations
  by_cases he : id = ""
  · have hf : a.teacherStaffId.filter (· ≠ "") = none := by
      rw [hid,he]
      rfl
    simp only [hf,he,true_or]
  have hf : a.teacherStaffId.filter (· ≠ "") = some id := by simp [hid,he]
  simp only [hf,ht,he,false_or]
  by_cases hav : teacher.availability = []
  · simp [hav]
  simp only [List.isEmpty_iff,hav,if_false,false_or,CoversRange]
  cases hs : getSlot (getYearGroupGrid input.yearGroups a.yearGroupId) a.weekday a.periodOrder with
  | none => simp
  | some slot =>
    simp only [Option.some.injEq,forall_eq',List.filter_eq_nil_iff]
    split
    · rename_i hno
      simp only [List.cons_ne_self,false_iff,not_exists,not_and]
      exact fun av hmem hw => absurd hw (by simpa using hno av hmem)
    · split
      · rename_i hany
        simpa [and_assoc] using hany
      · rename_i hany
        simp only [reduceCtorEq,false_iff]
        simpa [and_assoc] using hany

end EduPod.Scheduling
