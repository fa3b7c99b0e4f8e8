import EduPod.Foundation.Fallible
import EduPod.Scheduling.ApplyRun
import EduPod.Scheduling.Assembly
import EduPod.Scheduling.ScheduleChecks

/-! # The schedules two ways of applying a run write

Both end or delete the schedules an earlier run inserted and insert the entries of the result. They
look times up under different keys, and only one of them drops duplicates and inactive classes.
-/
namespace EduPod.Scheduling
open Fallible

section
inductive ScheduleSource
  | manual | autoGenerated | pinned
  deriving DecidableEq

/-- A row of the schedules table; days are counted, and attendance sessions only as to their number. -/
structure ScheduleRow where
  classId : String
  roomId : Option String
  teacherStaffId : Option String
  weekday : Fin 7
  periodOrder : ℕ
  startTime : String
  endTime : String
  effectiveStart : ℤ
  effectiveEnd : Option ℤ
  isPinned : Bool
  source : ScheduleSource
  attendanceSessions : ℕ
  deriving DecidableEq

structure ClassRow where
  yearGroupId : Option String
  subjectId : Option String
  active : Bool

/-- The classes, the period grid and the schedules of one academic year. -/
structure SchoolYear where
  classes : String → Option ClassRow
  periodTemplates : List PeriodTemplate
  schedules : List ScheduleRow

/-! ## What goes and what comes -/

/-- A schedule of an earlier run is deleted, or ends today where attendance was taken. -/
def endAutoGenerated (today : ℤ) (r : ScheduleRow) : Option ScheduleRow :=
  if r.source = .autoGenerated then
    if 0 < r.attendanceSessions then some { r with effectiveEnd := some today } else none
  else some r

def newSchedule (today : ℤ) (e : SolverAssignmentV2) (times : String × String) : ScheduleRow where
  classId := e.classId
  roomId := e.roomId
  teacherStaffId := e.teacherStaffId
  weekday := e.weekday
  periodOrder := e.periodOrder
  startTime := times.1
  endTime := times.2
  effectiveStart := today
  effectiveEnd := none
  isPinned := e.isPinned
  source := .autoGenerated
  attendanceSessions := 0

/-- The times of the entry itself, when neither is blank. -/
def ownTimes (e : SolverAssignmentV2) : Option (String × String) :=
  if e.startTime = "" ∨ e.endTime = "" then none else some (e.startTime,e.endTime)

namespace SchoolYear
variable (year : SchoolYear)

/-- The times of the last template among those that count at a cell. -/
def templateTimes (counts : Option String → Bool) (weekday : Fin 7) (periodOrder : ℕ) : Option (String × String) :=
  ((year.periodTemplates.filter fun pt => counts pt.yearGroupId && pt.slot.weekday = weekday &&
    pt.slot.periodOrder = periodOrder).getLast?).map fun pt => (pt.slot.startTime,pt.slot.endTime)

def isActive (classId : String) : Bool := (year.classes classId).any (·.active)

/-- The schedules `SchedulingApplyService.apply` inserts for unadjusted entries: of several in one cell of a
class the last one stays. -/
def applyInserts (today : ℤ) (entries : List SolverAssignmentV2) : List ScheduleRow :=
  let entriesMap := UniqueIndex.load (entries.map fun e => ((e.classId,e.weekday,e.periodOrder),e))
  ((entriesMap.rows.map Prod.snd).filter fun e => year.isActive e.classId).filterMap fun e =>
    ((ownTimes e).or (year.templateTimes (fun _ => true) e.weekday e.periodOrder)).map (newSchedule today e)

/-- The schedules `applyRun` inserts. -/
def applyRunInserts (today : ℤ) (entries : List SolverAssignmentV2) : List ScheduleRow :=
  (entries.filter fun e => !e.isSupervision).filterMap fun e =>
    ((ownTimes e).or ((year.templateTimes (· = some e.yearGroupId) e.weekday e.periodOrder).or
      (year.templateTimes (· = none) e.weekday e.periodOrder))).map (newSchedule today e)

/-- The table after either of them. -/
def withInserted (today : ℤ) (inserted : List ScheduleRow) : List ScheduleRow :=
  year.schedules.filterMap (endAutoGenerated today) ++ inserted

end SchoolYear

/-! ## The adjustable merge on numbers -/

section
variable (number minutes : String → ℕ)

/-- An entry with numbers for its ids and minutes for its times. -/
def numberedEntry (e : SolverAssignmentV2) : ApplyRun.ResultEntry where
  classId := number e.classId
  roomId := e.roomId.map number
  teacherStaffId := e.teacherStaffId.map number
  weekday := e.weekday
  periodOrder := e.periodOrder
  startTime := if e.startTime = "" then none else some (minutes e.startTime)
  endTime := if e.endTime = "" then none else some (minutes e.endTime)
  isPinned := e.isPinned

def numberedTemplate (pt : PeriodTemplate) : ApplyRun.PeriodTemplate where
  weekday := pt.slot.weekday
  periodOrder := pt.slot.periodOrder
  yearGroupId := pt.yearGroupId.map number
  startTime := minutes pt.slot.startTime
  endTime := minutes pt.slot.endTime

def numberedSchedule (r : ScheduleRow) : ApplyRun.Schedule where
  classId := number r.classId
  roomId := r.roomId.map number
  teacherStaffId := r.teacherStaffId.map number
  weekday := r.weekday
  periodOrder := r.periodOrder
  startTime := minutes r.startTime
  endTime := minutes r.endTime
  isPinned := r.isPinned

/-- The school that the merge sees of a year. -/
structure Numbers (year : SchoolYear) (school : ApplyRun.School) : Prop where
  templates : school.periodTemplates = year.periodTemplates.map (numberedTemplate number minutes)
  active : ∀ classId, school.isActive (number classId) = year.isActive classId

variable {number minutes} {year : SchoolYear} {school : ApplyRun.School}

def numberedCell (number : String → ℕ) (cell : String × Fin 7 × ℕ) : ApplyRun.EntryKey :=
  ⟨number cell.1,cell.2.1,cell.2.2⟩

theorem numberedCell_injective (hn : Function.Injective number) : Function.Injective (numberedCell number) := by
  rintro ⟨c,w,p⟩ ⟨c',w',p'⟩ h
  simp only [numberedCell,ApplyRun.EntryKey.mk.injEq,Nat.cast_inj] at h
  obtain ⟨hc,hw,hp⟩ := h
  rw [hn hc,Fin.val_injective hw,hp]

theorem mergeEntries_numbered (hn : Function.Injective number) (entries : List SolverAssignmentV2) :
    (ApplyRun.mergeEntries (entries.map (numberedEntry number minutes)) []).rows.map Prod.snd =
      ((UniqueIndex.load (entries.map fun e => ((e.classId,e.weekday,e.periodOrder),e))).rows.map Prod.snd).map
        (numberedEntry number minutes) := by
  have hload : ApplyRun.mergeEntries (entries.map (numberedEntry number minutes)) [] = UniqueIndex.load
      ((entries.map fun e => ((e.classId,e.weekday,e.periodOrder),e)).map
        (Prod.map (numberedCell number) (numberedEntry number minutes))) := by
    unfold ApplyRun.mergeEntries UniqueIndex.load
    rw [List.foldl_nil,List.foldl_map,List.foldl_map,List.foldl_map]
    rfl
  rw [hload,UniqueIndex.rows_load_map (numberedCell_injective hn),List.map_map,List.map_map]
  rfl

theorem periodTimes_numbered (h : Numbers number minutes year school) (weekday : Fin 7) (periodOrder : ℕ) :
    school.periodTimes weekday periodOrder =
      (year.templateTimes (fun _ => true) weekday periodOrder).map (Prod.map minutes minutes) := by
  have hcell : ((fun pt : ApplyRun.PeriodTemplate => decide (pt.weekday = (weekday : ℕ)) &&
      decide (pt.periodOrder = (periodOrder : ℕ))) ∘ numberedTemplate number minutes) =
        fun pt => true && decide (pt.slot.weekday = weekday) && decide (pt.slot.periodOrder = periodOrder) := by
    funext pt
    simp [numberedTemplate,Fin.val_inj]
  unfold ApplyRun.School.periodTimes SchoolYear.templateTimes
  rw [h.templates,List.filter_map,hcell,List.getLast?_map,Option.map_map,Option.map_map]
  rfl

theorem timesOf_numbered (h : Numbers number minutes year school) (e : SolverAssignmentV2) :
    school.timesOf (numberedEntry number minutes e) =
      ((ownTimes e).or (year.templateTimes (fun _ => true) e.weekday e.periodOrder)).map (Prod.map minutes minutes) := by
  unfold ApplyRun.School.timesOf ownTimes
  simp only [numberedEntry]
  by_cases hs : e.startTime = ""
  · simp [hs,periodTimes_numbered h]
  · by_cases he : e.endTime = ""
    · simp [hs,he,periodTimes_numbered h]
    · simp [hs,he]

/-- Without adjustments the merge inserts these schedules. -/
theorem insertedSchedules_numbered (hn : Function.Injective number) (h : Numbers number minutes year school) (today : ℤ)
    (entries : List SolverAssignmentV2) :
    school.insertedSchedules (ApplyRun.mergeEntries (entries.map (numberedEntry number minutes)) []) =
      (year.applyInserts today entries).map (numberedSchedule number minutes) := by
  unfold ApplyRun.School.insertedSchedules SchoolYear.applyInserts
  dsimp only
  rw [mergeEntries_numbered hn,List.filter_map,List.filterMap_map,List.map_filterMap]
  have hactive : ((fun e => school.isActive e.classId) ∘ numberedEntry number minutes) = fun e => year.isActive e.classId :=
    funext fun e => h.active e.classId
  rw [hactive]
  congr 1
  funext e
  simp only [Function.comp,ApplyRun.School.scheduleOf,timesOf_numbered h,Option.map_map]
  rfl
end

end

/-! ## Applying a stored run

A run stores its solver input as a document. `applyRun` validates the entries against that document and reads
the fields of a version 2 input in it, while the runs that are triggered now store a version 3 input.
-/

inductive InputField
  | yearGroups | curriculum | teachers | rooms | breakGroups | studentOverlaps
  deriving DecidableEq

/-- The stored input, as far as applying reads it. A field that the document lacks is undefined. -/
structure StoredInput where
  gridHash : Option String
  yearGroups : Option (List YearGroupInput)
  curriculum : Option (List CurriculumEntry)
  teachers : Option (List TeacherInputV2)
  rooms : Option (List RoomInfoV2)
  breakGroups : Option (List BreakGroupInput)
  studentOverlaps : Option (List StudentOverlap)

def storedV2 (input : SolverInputV2) (studentOverlaps : List StudentOverlap) : StoredInput where
  gridHash := none
  yearGroups := some input.yearGroups
  curriculum := some input.curriculum
  teachers := some input.teachers
  rooms := some input.rooms
  breakGroups := some input.breakGroups
  studentOverlaps := some studentOverlaps

/-- A version 3 input has period slots and classes instead of year groups, demand instead of curriculum, and
its teachers come without their preferences. -/
def storedV3 (v3 : SolverInputV3) (studentOverlaps : List StudentOverlap) : StoredInput where
  gridHash := none
  yearGroups := none
  curriculum := none
  teachers := some (v3.teachers.map fun t => { teacherInput v3 t with preferences := [] })
  rooms := some v3.rooms
  breakGroups := some v3.breakGroups
  studentOverlaps := some studentOverlaps

/-- What the document says, nothing where it is silent. -/
def StoredInput.input (stored : StoredInput) : SolverInputV2 :=
  { SolverInputV2.empty with
    yearGroups := stored.yearGroups.getD []
    curriculum := stored.curriculum.getD []
    teachers := stored.teachers.getD []
    rooms := stored.rooms.getD []
    breakGroups := stored.breakGroups.getD [] }

inductive ApplyRunError
  | schedulingRunNotFound
  | runNotApplicable
  | noResultJson
  | tier1Violations (violations : List ScheduleViolation)
  | undefinedField (field : InputField)

/-- A check that reaches a field throws when the field is undefined. -/
def reading {α : Type*} (reached : Prop) [Decidable reached] (field : Option α) (name : InputField) :
    Except ApplyRunError PUnit := ensure (reached → field.isSome) (.undefinedField name)

/-- The fields are read in the order of the checks; one that an earlier check has read is not listed again. -/
def validateSchedule (stored : StoredInput) (assignments : List SolverAssignmentV2) :
    Except ApplyRunError (List ScheduleViolation) := do
  let input := stored.input
  -- the grids of two entries of a teacher on a day, the teacher's name for a clash
  reading (sameDayPairs (·.teacherStaffId) assignments ≠ []) stored.yearGroups .yearGroups
  reading (checkTier1TeacherDoubleBooking input assignments ≠ []) stored.teachers .teachers
  -- availability, then competency, which looks the subject's name up for a violation
  reading (assignments.any fun a => idGiven a.teacherStaffId) stored.teachers .teachers
  reading (assignments.any fun a => idGiven a.teacherStaffId && (teacherOf input a).any (·.availability ≠ []))
    stored.yearGroups .yearGroups
  reading (checkTier2TeacherCompetency input assignments ≠ []) stored.curriculum .curriculum
  -- the rows of the frequency check and the sections they are for
  reading True stored.curriculum .curriculum
  reading (input.curriculum ≠ []) stored.yearGroups .yearGroups
  reading True stored.teachers .teachers
  -- rooms by day, then by type
  reading (sameDayPairs (·.roomId) assignments ≠ []) stored.rooms .rooms
  reading ((sameDayPairs (·.roomId) assignments).any fun p => (roomOfEntry input p.1).any (·.isExclusive))
    stored.yearGroups .yearGroups
  reading (assignments.any fun a => idGiven a.roomId && idGiven a.subjectId && !a.isSupervision &&
    (curriculumOf input a).any fun c => idGiven c.requiredRoomType) stored.rooms .rooms
  reading True stored.breakGroups .breakGroups
  reading True stored.yearGroups .yearGroups
  reading True stored.studentOverlaps .studentOverlaps
  return scheduleViolations input (stored.studentOverlaps.getD []) assignments

structure StoredRun where
  status : ApplyRun.RunStatus
  updatedAt : ℤ
  configSnapshot : Option StoredInput
  entries : Option (List SolverAssignmentV2)

/-- Without a stored input nothing is validated. -/
def StoredRun.violations (run : StoredRun) (entries : List SolverAssignmentV2) :
    Except ApplyRunError (List ScheduleViolation) :=
  run.configSnapshot.elim (.ok []) fun stored => validateSchedule stored entries

inductive ApplyRunResult
  | requiresAcknowledgement (tier2Violations : List ScheduleViolation)
  | applied (inserted : List ScheduleRow)

namespace SchoolYear
variable (year : SchoolYear) (today : ℤ)

/-- What is done about the violations of a run's entries. -/
def decideOn (entries : List SolverAssignmentV2) (acknowledgedViolations : Bool) (violations : List ScheduleViolation) :
    Except ApplyRunError ApplyRunResult :=
  let tier1 := violations.filter (·.tier = 1)
  let tier2 := violations.filter (·.tier = 2)
  if tier1 ≠ [] then .error (.tier1Violations tier1)
  else if tier2 ≠ [] ∧ acknowledgedViolations = false then .ok (.requiresAcknowledgement tier2)
  else .ok (.applied (year.applyRunInserts today entries))

/-- `applyRun`, down to the schedules it inserts. -/
def applyRun (run : Option StoredRun) (acknowledgedViolations : Bool) : Except ApplyRunError ApplyRunResult := do
  let run ← require run .schedulingRunNotFound
  ensure (run.status = .completed) .runNotApplicable
  let entries ← require run.entries .noResultJson
  let violations ← run.violations entries
  year.decideOn today entries acknowledgedViolations violations

/-- `SchedulingApplyService.apply` of a run without adjustments, down to the schedules it inserts. -/
def apply (run : Option StoredRun) (expectedUpdatedAt : ℤ) (currentGridHash : String) :
    Except ApplyRun.ApplyError (List ScheduleRow) := do
  let run ← require run .schedulingRunNotFound
  ensure (run.status = .completed) .runNotApplicable
  ensure (expectedUpdatedAt = run.updatedAt) .staleRun
  ensure ((run.configSnapshot.bind (·.gridHash)).all fun hash => hash = "" || hash = currentGridHash) .periodGridChanged
  let entries ← require run.entries .noResultJson
  return year.applyInserts today entries

end SchoolYear

/-! ## Documents of either version -/

section
variable {stored : StoredInput} {assignments : List SolverAssignmentV2}

theorem reading_bind_eq_ok {α β : Type} {reached : Prop} [Decidable reached] {field : Option α} {name : InputField}
    {f : PUnit → Except ApplyRunError β} {b : β} :
    reading reached field name >>= f = .ok b ↔ (reached → field.isSome = true) ∧ f ⟨⟩ = .ok b := ensure_bind_eq_ok

theorem reading_some {α : Type*} {reached : Prop} [Decidable reached] (a : α) (name : InputField) :
    reading reached (some a) name = .ok ⟨⟩ := if_pos fun _ => rfl

def IsUndefined (e : ApplyRunError) : Prop := ∃ field, e = .undefinedField field

theorem isUndefined_of_reading {α β : Type} {reached : Prop} [Decidable reached] {field : Option α} {name : InputField}
    {f : PUnit → Except ApplyRunError β} (hf : ∀ e, f ⟨⟩ = .error e → IsUndefined e) :
    ∀ e, reading reached field name >>= f = .error e → IsUndefined e := by
  intro e he
  by_cases h : reached → field.isSome = true
  · rw [reading,ensure,if_pos h] at he
    exact hf e he
  · rw [reading,ensure,if_neg h] at he
    cases he
    exact ⟨name,rfl⟩

/-- The validator only fails at a field that it does not find. -/
theorem isUndefined_of_validateSchedule : ∀ e, validateSchedule stored assignments = .error e → IsUndefined e := by
  unfold validateSchedule
  dsimp only
  repeat apply isUndefined_of_reading
  intro e he
  cases he

/-- A document that is validated has its curriculum. -/
theorem curriculum_of_validateSchedule {violations : List ScheduleViolation}
    (h : validateSchedule stored assignments = .ok violations) : stored.curriculum.isSome = true := by
  unfold validateSchedule at h
  dsimp only at h
  obtain ⟨-,h⟩ := reading_bind_eq_ok.mp h
  obtain ⟨-,h⟩ := reading_bind_eq_ok.mp h
  obtain ⟨-,h⟩ := reading_bind_eq_ok.mp h
  obtain ⟨-,h⟩ := reading_bind_eq_ok.mp h
  obtain ⟨-,h⟩ := reading_bind_eq_ok.mp h
  obtain ⟨hcurriculum,-⟩ := reading_bind_eq_ok.mp h
  exact hcurriculum trivial

end

/-! ## Runs of either version -/

section
variable {year : SchoolYear} {today : ℤ} {run : StoredRun} {entries : List SolverAssignmentV2} {acknowledgedViolations : Bool}

/-- Past its first checks an apply turns on what the validator says. -/
theorem applyRun_of_completed (hstatus : run.status = .completed) (hentries : run.entries = some entries) :
    year.applyRun today (some run) acknowledgedViolations =
      run.violations entries >>= year.decideOn today entries acknowledgedViolations := by
  obtain ⟨status,updatedAt,configSnapshot,entries'⟩ := run
  obtain rfl : status = .completed := hstatus
  obtain rfl : entries' = some entries := hentries
  rfl

/-- A run is decided on when it is applied, waits for an acknowledgement or is blocked. -/
def Decided (result : Except ApplyRunError ApplyRunResult) : Prop :=
  (∃ r, result = .ok r) ∨ ∃ violations, result = .error (.tier1Violations violations)

/-- With a version 3 document no completed run is. -/
theorem isUndefined_storedV3 {v3 : SolverInputV3} {studentOverlaps : List StudentOverlap} (hstatus : run.status = .completed)
    (hentries : run.entries = some entries) (hsnapshot : run.configSnapshot = some (storedV3 v3 studentOverlaps)) :
    ∃ e, year.applyRun today (some run) acknowledgedViolations = .error e ∧ IsUndefined e := by
  have hviolations : run.violations entries = validateSchedule (storedV3 v3 studentOverlaps) entries := by
    rw [StoredRun.violations,hsnapshot]
    rfl
  have hnever : ∀ violations, validateSchedule (storedV3 v3 studentOverlaps) entries ≠ .ok violations := fun _ h =>
    Bool.false_ne_true (curriculum_of_validateSchedule h)
  obtain ⟨e,he⟩ := exists_error_of_ne_ok hnever
  refine ⟨e,?_,isUndefined_of_validateSchedule e he⟩
  rw [applyRun_of_completed hstatus hentries,hviolations,he]
  rfl

end

/-! ## What the two ways should agree on -/

/-- A completed run as the worker leaves it: the triggered version 3 input beside the entries of the result. -/
def producedRun (v3 : SolverInputV3) (studentOverlaps : List StudentOverlap) (entries : List SolverAssignmentV2)
    (updatedAt : ℤ) : StoredRun where
  status := .completed
  updatedAt := updatedAt
  configSnapshot := some (storedV3 v3 studentOverlaps)
  entries := some entries

/-- The run is decided on, blocked exactly for a tier-1 violation of the version 2 form, and applied with the
schedules that the other service inserts. -/
structure AgreesWithApply (year : SchoolYear) (today : ℤ) (v3 : SolverInputV3) (studentOverlaps : List StudentOverlap)
    (entries : List SolverAssignmentV2) (updatedAt : ℤ) (acknowledgedViolations : Bool) (currentGridHash : String) : Prop where
  decided : Decided (year.applyRun today (some (producedRun v3 studentOverlaps entries updatedAt)) acknowledgedViolations)
  blocked : (∃ violations, year.applyRun today (some (producedRun v3 studentOverlaps entries updatedAt))
      acknowledgedViolations = .error (.tier1Violations violations)) ↔
    ∃ violations, validateSchedule (storedV2 (v3InputToV2 v3) studentOverlaps) entries = .ok violations ∧
      ∃ v ∈ violations, v.tier = 1
  inserted : ∀ rows rows',
    year.applyRun today (some (producedRun v3 studentOverlaps entries updatedAt)) acknowledgedViolations = .ok (.applied rows) →
      year.apply today (some (producedRun v3 studentOverlaps entries updatedAt)) updatedAt currentGridHash = .ok rows' →
        rows.Perm rows'

/-- No triggered run is ever decided on. -/
theorem not_agreesWithApply (year : SchoolYear) (today : ℤ) (v3 : SolverInputV3) (studentOverlaps : List StudentOverlap)
    (entries : List SolverAssignmentV2) (updatedAt : ℤ) (acknowledgedViolations : Bool) (currentGridHash : String) :
    ¬ AgreesWithApply year today v3 studentOverlaps entries updatedAt acknowledgedViolations currentGridHash := by
  intro h
  have hrun : ∃ e, year.applyRun today (some (producedRun v3 studentOverlaps entries updatedAt)) acknowledgedViolations =
      .error e ∧ IsUndefined e := isUndefined_storedV3 rfl rfl rfl
  obtain ⟨_,he,field,rfl⟩ := hrun
  obtain ⟨r,hr⟩ | ⟨violations,hviolations⟩ := h.decided
  · rw [he] at hr
    cases hr
  · rw [he] at hviolations
    cases hviolations

/-! ## One lesson in a grid of one period -/

def gridOfOne : SolverInputV3 where
  periodSlots := [⟨0,"y",.teaching firstDay 0 "09:00" "10:00"⟩]
  classes := [⟨"a","y"⟩]
  teachers := [⟨"t","T",[⟨"s","y",none⟩],[],none,none,none⟩]
  rooms := []
  roomClosures := []
  breakGroups := []
  demand := [⟨"a","s",1,none,0,none⟩]
  preferences := ⟨[],[],⟨2,1,1,1,1⟩,⟨1,2,3⟩⟩
  pinned := []

def placedLesson : SolverAssignmentV2 := ⟨"a",some "s","y",none,some "t",firstDay,0,"09:00","10:00",false,none,false⟩

def classOfOne : SchoolYear where
  classes classId := if classId = "a" then some ⟨some "y",some "s",true⟩ else none
  periodTemplates := [⟨some "y",.teaching firstDay 0 "09:00" "10:00"⟩]
  schedules := []

/-- The one lesson is where it was asked for, and the run cannot be applied. -/
theorem not_agreesWithApply_placed :
    scheduleViolations (v3InputToV2 gridOfOne) [] [placedLesson] = [] ∧
      ¬ AgreesWithApply classOfOne 0 gridOfOne [] [placedLesson] 0 false "" := by
  refine ⟨by decide +kernel,fun h => ?_⟩
  have hrun : classOfOne.applyRun 0 (some (producedRun gridOfOne [] [placedLesson] 0)) false =
      .error (.undefinedField .curriculum) := rfl
  obtain ⟨r,hr⟩ | ⟨violations,hviolations⟩ := h.decided
  · rw [hrun] at hr
    cases hr
  · rw [hrun] at hviolations
    cases hviolations

end EduPod.Scheduling
