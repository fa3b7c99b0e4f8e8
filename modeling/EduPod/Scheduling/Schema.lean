import Mathlib

/-! # The solver's input and output contract

Identifiers and clock times are strings and compare as strings do. Names and other
fields that no part of the solver reads are left out.
-/
namespace EduPod.Scheduling

inductive PeriodType
  | teaching | breakSupervision | assembly | lunchDuty | free
  deriving DecidableEq

inductive SupervisionMode
  | none | yard | classroomPrevious | classroomNext
  deriving DecidableEq

inductive PreferenceType
  | subject | classPref | timeSlot
  deriving DecidableEq

inductive PreferencePriority
  | low | medium | high
  deriving DecidableEq

structure PeriodSlotV2 where
  weekday : Fin 7
  periodOrder : ℕ
  startTime : String
  endTime : String
  periodType : PeriodType
  supervisionMode : SupervisionMode
  breakGroupId : Option String
  deriving DecidableEq

structure YearGroupSection where
  classId : String
  deriving DecidableEq

structure YearGroupInput where
  yearGroupId : String
  sections : List YearGroupSection
  periodGrid : List PeriodSlotV2
  deriving DecidableEq

structure CurriculumEntry where
  yearGroupId : String
  subjectId : String
  minPeriodsPerWeek : ℤ
  maxPeriodsPerDay : ℤ
  requiresDoublePeriod : Bool
  doublePeriodCount : Option ℤ
  requiredRoomType : Option String
  preferredRoomId : Option String
  classId : Option String
  deriving DecidableEq

structure TeacherCompetencyEntry where
  subjectId : String
  yearGroupId : String
  classId : Option String
  deriving DecidableEq

structure TeacherAvailabilityWindow where
  weekday : Fin 7
  start : String
  stop : String
  deriving DecidableEq

/-- A value of the untyped preference payload; of a list or an object only whether it is empty. -/
inductive PayloadValue
  | null
  | bool (b : Bool)
  | num (q : ℚ)
  | str (s : String)
  | compound (isEmpty : Bool)
  deriving DecidableEq

/-- The preference payload: its fields when it is an object, none otherwise. -/
structure PreferencePayload where
  classId : Option PayloadValue
  weekday : Option PayloadValue
  periodOrder : Option PayloadValue
  preferred : Option PayloadValue
  deriving DecidableEq

structure TeacherPreferenceInput where
  id : String
  preferenceType : PreferenceType
  preferencePayload : PreferencePayload
  priority : PreferencePriority
  deriving DecidableEq

structure TeacherInputV2 where
  staffProfileId : String
  name : String
  competencies : List TeacherCompetencyEntry
  availability : List TeacherAvailabilityWindow
  preferences : List TeacherPreferenceInput
  maxPeriodsPerWeek : Option ℤ
  maxPeriodsPerDay : Option ℤ
  maxSupervisionDutiesPerWeek : Option ℤ
  deriving DecidableEq

structure BreakGroupInput where
  breakGroupId : String
  requiredSupervisorCount : ℤ
  deriving DecidableEq

structure RoomInfoV2 where
  roomId : String
  roomType : String
  isExclusive : Bool
  deriving DecidableEq

structure PinnedEntryV2 where
  classId : String
  subjectId : Option String
  yearGroupId : Option String
  roomId : Option String
  teacherStaffId : Option String
  weekday : Fin 7
  periodOrder : ℕ
  deriving DecidableEq

structure ClassRoomOverride where
  classId : String
  subjectId : Option String
  preferredRoomId : Option String
  deriving DecidableEq

structure PreferenceWeights where
  low : ℤ
  medium : ℤ
  high : ℤ
  deriving DecidableEq

structure GlobalSoftWeights where
  evenSubjectSpread : ℤ
  minimiseTeacherGaps : ℤ
  roomConsistency : ℤ
  workloadBalance : ℤ
  breakDutyBalance : ℤ
  deriving DecidableEq

/-- `roomClosures` lists the room of each closure row; a closure blocks the whole week. -/
structure SolverInputV2 where
  yearGroups : List YearGroupInput
  curriculum : List CurriculumEntry
  teachers : List TeacherInputV2
  rooms : List RoomInfoV2
  roomClosures : List String
  breakGroups : List BreakGroupInput
  pinnedEntries : List PinnedEntryV2
  classRoomOverrides : List ClassRoomOverride
  preferenceWeights : PreferenceWeights
  globalSoftWeights : GlobalSoftWeights
  deriving DecidableEq

structure SolverAssignmentV2 where
  classId : String
  subjectId : Option String
  yearGroupId : String
  roomId : Option String
  teacherStaffId : Option String
  weekday : Fin 7
  periodOrder : ℕ
  startTime : String
  endTime : String
  isPinned : Bool
  breakGroupId : Option String
  isSupervision : Bool
  deriving DecidableEq

structure UnassignedSlotV2 where
  yearGroupId : String
  subjectId : Option String
  classId : Option String
  periodsRemaining : ℕ
  reason : String
  deriving DecidableEq

def firstDay : Fin 7 := 0

def secondDay : Fin 7 := 1

/-- A plain teaching cell. -/
def PeriodSlotV2.teaching (weekday : Fin 7) (periodOrder : ℕ) (startTime endTime : String) : PeriodSlotV2 :=
  ⟨weekday,periodOrder,startTime,endTime,.teaching,.none,none⟩

/-- A baseline row of one single period a week, without a room type. -/
def CurriculumEntry.single (yearGroupId subjectId : String) : CurriculumEntry :=
  ⟨yearGroupId,subjectId,1,1,false,none,none,none,none⟩

/-- A teacher without caps or preferences. -/
def TeacherInputV2.plain (staffProfileId : String) (competencies : List TeacherCompetencyEntry)
    (availability : List TeacherAvailabilityWindow) : TeacherInputV2 :=
  ⟨staffProfileId,staffProfileId,competencies,availability,[],none,none,none⟩

/-- Every list empty and every weight zero. -/
def SolverInputV2.empty : SolverInputV2 where
  yearGroups := []
  curriculum := []
  teachers := []
  rooms := []
  roomClosures := []
  breakGroups := []
  pinnedEntries := []
  classRoomOverrides := []
  preferenceWeights := ⟨0,0,0⟩
  globalSoftWeights := ⟨0,0,0,0,0⟩

end EduPod.Scheduling
