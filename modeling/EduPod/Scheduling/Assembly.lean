import EduPod.Foundation.Fallible
import EduPod.Foundation.UniqueIndex
import EduPod.Scheduling.Schema

/-! # Assembling the solver input

Loaded tables become a version 3 input, which the sidecar turns into the version 2 input that it solves.
Demand is one row a class and subject, from an override of the class or from its year group.
-/
namespace EduPod.Scheduling
open Fallible

/-! ## What is loaded -/

structure YearGroupWithClasses where
  id : String
  classes : List String

structure PeriodTemplate where
  yearGroupId : Option String
  slot : PeriodSlotV2

structure CurriculumRow where
  yearGroupId : String
  subjectId : String
  minPeriodsPerWeek : ℤ
  maxPeriodsPerDay : ℤ
  preferredPeriodsPerWeek : Option ℤ
  requiresDoublePeriod : Bool
  doublePeriodCount : Option ℤ

structure ClassSubjectOverrideRow where
  classId : String
  subjectId : String
  subjectName : String
  yearGroupId : String
  periodsPerWeek : ℤ
  maxPeriodsPerDay : Option ℤ
  requiresDoublePeriod : Bool
  doublePeriodCount : Option ℤ
  requiredRoomType : Option String

structure PinnedScheduleRecord where
  scheduleId : String
  classId : String
  subjectId : Option String
  yearGroupId : Option String
  roomId : Option String
  teacherStaffId : Option String
  weekday : Fin 7
  periodOrder : ℕ

structure ClassRoomOverrideRecord where
  classId : String
  preferredRoomId : Option String

structure PreferenceWeightSettings where
  low : Option ℤ
  medium : Option ℤ
  high : Option ℤ

structure GlobalSoftWeightSettings where
  evenSubjectSpread : Option ℤ
  minimiseTeacherGaps : Option ℤ
  roomConsistency : Option ℤ
  workloadBalance : Option ℤ
  breakDutyBalance : Option ℤ

/-- The rows of one academic year. A teacher's record has what the solver reads of a teacher; year groups and
classes are rows with ids of their own. -/
structure TenantData where
  yearGroups : List YearGroupWithClasses
  periodTemplates : List PeriodTemplate
  curriculum : List CurriculumRow
  classSubjectOverrides : List ClassSubjectOverrideRow
  classSubjectAssignments : List (String × String)
  teachers : List TeacherInputV2
  rooms : List RoomInfoV2
  roomClosures : List String
  breakGroups : List BreakGroupInput
  pinnedSchedules : List PinnedScheduleRecord
  classRoomOverrides : List ClassRoomOverrideRecord
  preferenceWeights : PreferenceWeightSettings
  globalSoftWeights : GlobalSoftWeightSettings
  strictClassSubjectOverride : Bool
  yearGroupsOnce : (yearGroups.map (·.id)).Nodup
  classesOnce : (yearGroups.flatMap (·.classes)).Nodup

/-! ## The version 3 input -/

structure PeriodSlotV3 where
  index : ℕ
  yearGroupId : String
  slot : PeriodSlotV2
  deriving DecidableEq

structure ClassV3 where
  classId : String
  yearGroupId : String
  deriving DecidableEq

structure TeacherV3 where
  staffProfileId : String
  name : String
  competencies : List TeacherCompetencyEntry
  availability : List TeacherAvailabilityWindow
  maxPeriodsPerWeek : Option ℤ
  maxPeriodsPerDay : Option ℤ
  maxSupervisionDutiesPerWeek : Option ℤ
  deriving DecidableEq

structure DemandV3 where
  classId : String
  subjectId : String
  periodsPerWeek : ℤ
  maxPerDay : Option ℤ
  requiredDoubles : ℤ
  requiredRoomType : Option String
  deriving DecidableEq

structure ClassPreferenceV3 where
  classId : String
  subjectId : String
  preferredPeriodsPerWeek : Option ℤ
  preferredRoomId : Option String
  deriving DecidableEq

structure TeacherPreferenceV3 where
  teacherStaffId : String
  preference : TeacherPreferenceInput
  deriving DecidableEq

structure PreferencesV3 where
  classPreferences : List ClassPreferenceV3
  teacherPreferences : List TeacherPreferenceV3
  globalWeights : GlobalSoftWeights
  preferenceWeights : PreferenceWeights
  deriving DecidableEq

structure PinnedAssignmentV3 where
  scheduleId : String
  classId : String
  subjectId : Option String
  periodIndex : ℕ
  teacherStaffId : Option String
  roomId : Option String
  deriving DecidableEq

structure SolverInputV3 where
  periodSlots : List PeriodSlotV3
  classes : List ClassV3
  teachers : List TeacherV3
  rooms : List RoomInfoV2
  roomClosures : List String
  breakGroups : List BreakGroupInput
  demand : List DemandV3
  preferences : PreferencesV3
  pinned : List PinnedAssignmentV3
  deriving DecidableEq

/-! ## Period slots and pins -/

/-- The year group's own templates, and the default ones where it has none. -/
def templatesFor (periodTemplates : List PeriodTemplate) (yearGroupId : String) : List PeriodSlotV2 :=
  let own := (periodTemplates.filter fun pt => pt.yearGroupId = some yearGroupId).map (·.slot)
  let covered := own.map fun slot => (slot.weekday,slot.periodOrder)
  own ++ ((periodTemplates.filter fun pt => pt.yearGroupId = none).map (·.slot)).filter fun slot =>
    !covered.contains (slot.weekday,slot.periodOrder)

def buildPeriodSlots (yearGroups : List YearGroupWithClasses) (periodTemplates : List PeriodTemplate) : List PeriodSlotV3 :=
  ((yearGroups.flatMap fun yg => (templatesFor periodTemplates yg.id).map fun slot => (yg.id,slot)).zipIdx).map fun row =>
    ⟨row.2,row.1.1,row.1.2⟩

/-- The last slot at a year group's cell. -/
def slotLookup (periodSlots : List PeriodSlotV3) (yearGroupId : String) (weekday : Fin 7) (periodOrder : ℕ) : Option ℕ :=
  ((periodSlots.filter fun s =>
    s.yearGroupId = yearGroupId ∧ s.slot.weekday = weekday ∧ s.slot.periodOrder = periodOrder).getLast?).map (·.index)

/-- The first slot of any year group at a cell. -/
def fallbackLookup (periodSlots : List PeriodSlotV3) (weekday : Fin 7) (periodOrder : ℕ) : Option ℕ :=
  (periodSlots.find? fun s => s.slot.weekday = weekday ∧ s.slot.periodOrder = periodOrder).map (·.index)

def buildPinned (pinnedSchedules : List PinnedScheduleRecord) (periodSlots : List PeriodSlotV3) : List PinnedAssignmentV3 :=
  pinnedSchedules.map fun pin => {
    scheduleId := pin.scheduleId
    classId := pin.classId
    subjectId := pin.subjectId
    periodIndex := ((slotLookup periodSlots (pin.yearGroupId.getD "") pin.weekday pin.periodOrder).or
      (fallbackLookup periodSlots pin.weekday pin.periodOrder)).getD 0
    teacherStaffId := pin.teacherStaffId
    roomId := pin.roomId }

/-! ## Demand -/

def classesIn (yearGroups : List YearGroupWithClasses) (yearGroupId : String) : List String :=
  (yearGroups.find? fun yg => yg.id = yearGroupId).elim [] (·.classes)

inductive AssemblyError
  | classSubjectOverrideMismatch (violations : List String)

structure OverrideApplied where
  classId : String
  subjectId : String
  baselinePeriods : Option ℤ
  overridePeriods : ℤ
  deriving DecidableEq

structure BuildDemandResult where
  demand : List DemandV3
  overridesApplied : List OverrideApplied

def baselineMap (curriculum : List CurriculumRow) : UniqueIndex (String × String) CurriculumRow :=
  .load (curriculum.map fun cr => ((cr.yearGroupId,cr.subjectId),cr))

def strictViolation (baseline : Option CurriculumRow) (ovr : ClassSubjectOverrideRow) : Option String :=
  match baseline with
  | some baseline =>
    if baseline.minPeriodsPerWeek = ovr.periodsPerWeek then none
    else some ("class " ++ ovr.classId ++ " " ++ ovr.subjectName ++ ": override says " ++ toString ovr.periodsPerWeek ++
      " periods/week, year-group says " ++ toString baseline.minPeriodsPerWeek)
  | none => some ("class " ++ ovr.classId ++ " " ++ ovr.subjectName ++
      ": override defines a subject absent from year-group curriculum")

def requiredDoubles (requiresDoublePeriod : Bool) (doublePeriodCount : Option ℤ) : ℤ :=
  if requiresDoublePeriod then doublePeriodCount.getD 1 else 0

def curriculumDemand (cr : CurriculumRow) (classId : String) : DemandV3 where
  classId := classId
  subjectId := cr.subjectId
  periodsPerWeek := cr.minPeriodsPerWeek
  maxPerDay := some cr.maxPeriodsPerDay
  requiredDoubles := requiredDoubles cr.requiresDoublePeriod cr.doublePeriodCount
  requiredRoomType := none

def overrideDemand (baseline : Option CurriculumRow) (ovr : ClassSubjectOverrideRow) : DemandV3 where
  classId := ovr.classId
  subjectId := ovr.subjectId
  periodsPerWeek := ovr.periodsPerWeek
  maxPerDay := some ((ovr.maxPeriodsPerDay.or (baseline.map (·.maxPeriodsPerDay))).getD ovr.periodsPerWeek)
  requiredDoubles := requiredDoubles ovr.requiresDoublePeriod ovr.doublePeriodCount
  requiredRoomType := ovr.requiredRoomType

def buildDemand (yearGroups : List YearGroupWithClasses) (curriculum : List CurriculumRow)
    (classSubjectOverrides : List ClassSubjectOverrideRow) (classSubjectAssignments : List (String × String))
    (strictClassSubjectOverride : Bool) : Except AssemblyError BuildDemandResult := do
  let baselineOf (ovr : ClassSubjectOverrideRow) := (baselineMap curriculum).get? (ovr.yearGroupId,ovr.subjectId)
  let violationOf (ovr : ClassSubjectOverrideRow) :=
    if strictClassSubjectOverride then strictViolation (baselineOf ovr) ovr else none
  let strictViolations := classSubjectOverrides.filterMap violationOf
  let applied := classSubjectOverrides.filter fun ovr => (violationOf ovr).isNone
  let overrideMap : UniqueIndex (String × String) ClassSubjectOverrideRow :=
    .load (applied.map fun ovr => ((ovr.classId,ovr.subjectId),ovr))
  ensure (strictViolations = []) (.classSubjectOverrideMismatch strictViolations)
  let fromCurriculum := curriculum.flatMap fun cr =>
    (classesIn yearGroups cr.yearGroupId).filterMap fun classId =>
      let key := (classId,cr.subjectId)
      if (overrideMap.get? key).isSome then none
      else if classSubjectAssignments ≠ [] ∧ classSubjectAssignments.contains key = false then none
      else some (curriculumDemand cr classId)
  return {
    demand := fromCurriculum ++ overrideMap.rows.map fun row => overrideDemand (baselineOf row.2) row.2
    overridesApplied := applied.map fun ovr =>
      ⟨ovr.classId,ovr.subjectId,(baselineOf ovr).map (·.minPeriodsPerWeek),ovr.periodsPerWeek⟩ }

/-! ## Preferences and the whole input -/

def roomPreferences (yearGroups : List YearGroupWithClasses) (curriculum : List CurriculumRow)
    (classPreferences : List ClassPreferenceV3) (ovr : ClassRoomOverrideRecord) : List ClassPreferenceV3 :=
  if ovr.preferredRoomId = none then classPreferences
  else if classPreferences.any fun cp => cp.classId = ovr.classId then
    classPreferences.map fun cp => if cp.classId = ovr.classId then { cp with preferredRoomId := ovr.preferredRoomId } else cp
  else
    let subjects := (yearGroups.find? fun yg => ovr.classId ∈ yg.classes).elim [] fun classYg =>
      ((curriculum.filter fun cr => cr.yearGroupId = classYg.id).map (·.subjectId)).eraseDups
    classPreferences ++ subjects.map fun subjectId => ⟨ovr.classId,subjectId,none,ovr.preferredRoomId⟩

def buildPreferences (data : TenantData) : PreferencesV3 where
  classPreferences :=
    data.classRoomOverrides.foldl (roomPreferences data.yearGroups data.curriculum)
      (data.curriculum.flatMap fun cr =>
        (classesIn data.yearGroups cr.yearGroupId).filterMap fun classId =>
          cr.preferredPeriodsPerWeek.map fun periods => ⟨classId,cr.subjectId,some periods,none⟩)
  teacherPreferences := data.teachers.flatMap fun t => t.preferences.map fun pref => ⟨t.staffProfileId,pref⟩
  globalWeights := {
    evenSubjectSpread := data.globalSoftWeights.evenSubjectSpread.getD 2
    minimiseTeacherGaps := data.globalSoftWeights.minimiseTeacherGaps.getD 1
    roomConsistency := data.globalSoftWeights.roomConsistency.getD 1
    workloadBalance := data.globalSoftWeights.workloadBalance.getD 1
    breakDutyBalance := data.globalSoftWeights.breakDutyBalance.getD 1 }
  preferenceWeights := {
    low := data.preferenceWeights.low.getD 1
    medium := data.preferenceWeights.medium.getD 2
    high := data.preferenceWeights.high.getD 3 }

def buildTeacher (t : TeacherInputV2) : TeacherV3 :=
  ⟨t.staffProfileId,t.name,t.competencies,t.availability,t.maxPeriodsPerWeek,t.maxPeriodsPerDay,t.maxSupervisionDutiesPerWeek⟩

def flatClasses (yearGroups : List YearGroupWithClasses) : List ClassV3 :=
  yearGroups.flatMap fun yg => yg.classes.map fun classId => ⟨classId,yg.id⟩

def assembleSolverInput (data : TenantData) : Except AssemblyError SolverInputV3 := do
  let periodSlots := buildPeriodSlots data.yearGroups data.periodTemplates
  let result ← buildDemand data.yearGroups data.curriculum data.classSubjectOverrides data.classSubjectAssignments
    data.strictClassSubjectOverride
  return {
    periodSlots
    classes := flatClasses data.yearGroups
    teachers := data.teachers.map buildTeacher
    rooms := data.rooms
    roomClosures := data.roomClosures
    breakGroups := data.breakGroups
    demand := result.demand
    preferences := buildPreferences data
    pinned := buildPinned data.pinnedSchedules periodSlots }

/-! ## The version 2 input -/

/-- The year group a class is listed with last. -/
def classYearGroup (v3 : SolverInputV3) (classId : String) : String :=
  (((v3.classes.filter fun cls => cls.classId = classId).getLast?).map (·.yearGroupId)).getD ""

def preferredRoomOf (v3 : SolverInputV3) (classId subjectId : String) : Option String :=
  ((v3.preferences.classPreferences.filter fun cp => cp.classId = classId ∧ cp.subjectId = subjectId).getLast?).bind
    (·.preferredRoomId)

def curriculumEntry (v3 : SolverInputV3) (d : DemandV3) : CurriculumEntry where
  yearGroupId := classYearGroup v3 d.classId
  subjectId := d.subjectId
  minPeriodsPerWeek := d.periodsPerWeek
  maxPeriodsPerDay := (d.maxPerDay.filter (· ≠ 0)).getD d.periodsPerWeek
  requiresDoublePeriod := 0 < d.requiredDoubles
  doublePeriodCount := if 0 < d.requiredDoubles then some d.requiredDoubles else none
  requiredRoomType := d.requiredRoomType
  preferredRoomId := preferredRoomOf v3 d.classId d.subjectId
  classId := some d.classId

def teacherInput (v3 : SolverInputV3) (t : TeacherV3) : TeacherInputV2 where
  staffProfileId := t.staffProfileId
  name := t.name
  competencies := t.competencies
  availability := t.availability
  preferences := (v3.preferences.teacherPreferences.filter fun tp => tp.teacherStaffId = t.staffProfileId).map (·.preference)
  maxPeriodsPerWeek := t.maxPeriodsPerWeek
  maxPeriodsPerDay := t.maxPeriodsPerDay
  maxSupervisionDutiesPerWeek := t.maxSupervisionDutiesPerWeek

def pinnedEntry (v3 : SolverInputV3) (p : PinnedAssignmentV3) : PinnedEntryV2 :=
  let found := (v3.periodSlots.filter fun s => s.index = p.periodIndex).getLast?
  { classId := p.classId
    subjectId := p.subjectId
    yearGroupId := some ((found.map (·.yearGroupId)).getD "")
    roomId := p.roomId
    teacherStaffId := p.teacherStaffId
    weekday := (found.map (·.slot.weekday)).getD firstDay
    periodOrder := (found.map (·.slot.periodOrder)).getD 0 }

def yearGroupIds (v3 : SolverInputV3) : List String :=
  (v3.classes.map (·.yearGroupId) ++ v3.periodSlots.map (·.yearGroupId)).eraseDups

def v3InputToV2 (v3 : SolverInputV3) : SolverInputV2 where
  yearGroups := (yearGroupIds v3).map fun ygId => {
    yearGroupId := ygId
    sections := (v3.classes.filter fun cls => cls.yearGroupId = ygId).map fun cls => ⟨cls.classId⟩
    periodGrid := (v3.periodSlots.filter fun s => s.yearGroupId = ygId).map (·.slot) }
  curriculum := v3.demand.map (curriculumEntry v3)
  teachers := v3.teachers.map (teacherInput v3)
  rooms := v3.rooms
  roomClosures := v3.roomClosures
  breakGroups := v3.breakGroups
  pinnedEntries := v3.pinned.map (pinnedEntry v3)
  classRoomOverrides := (v3.preferences.classPreferences.filter fun cp => cp.preferredRoomId.isSome).map fun cp =>
    ⟨cp.classId,some cp.subjectId,cp.preferredRoomId⟩
  preferenceWeights := v3.preferences.preferenceWeights
  globalSoftWeights := v3.preferences.globalWeights

end EduPod.Scheduling
