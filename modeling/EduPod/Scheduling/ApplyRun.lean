import EduPod.Foundation.Fallible
import EduPod.Foundation.UniqueIndex

/-! # Applying a scheduling run

The merge of a run's result with the adjustments proposed since, and the schedules it inserts.
Clock times are minutes of the day, a blank time is missing.
-/
namespace EduPod.Scheduling.ApplyRun
open Fallible

structure ResultEntry where
  classId : ℕ
  roomId : Option ℕ
  teacherStaffId : Option ℕ
  weekday : ℤ
  periodOrder : ℤ
  startTime : Option ℕ
  endTime : Option ℕ
  isPinned : Bool
  deriving DecidableEq, Repr

/-- `entryKey`: class, weekday and period. -/
structure EntryKey where
  classId : ℕ
  weekday : ℤ
  periodOrder : ℤ
  deriving DecidableEq, Repr

def ResultEntry.key (e : ResultEntry) : EntryKey := ⟨e.classId,e.weekday,e.periodOrder⟩

inductive Adjustment
  | move (classId : ℕ) (fromWeekday fromPeriodOrder toWeekday toPeriodOrder : ℤ) (toRoomId : Option ℕ)
  | swap (entryA entryB : EntryKey)
  | remove (classId : ℕ) (weekday periodOrder : ℤ)
  | add (classId : ℕ) (roomId teacherStaffId : Option ℕ) (weekday periodOrder : ℤ)
  deriving DecidableEq, Repr

abbrev EntriesMap := UniqueIndex EntryKey ResultEntry

def setEntry (m : EntriesMap) (e : ResultEntry) : EntriesMap := m.set e.key e

/-- The entry a move puts down. -/
def moved (existing : ResultEntry) (toWeekday toPeriodOrder : ℤ) (toRoomId : Option ℕ) : ResultEntry :=
  { existing with weekday := toWeekday, periodOrder := toPeriodOrder, roomId := toRoomId.or existing.roomId }

/-- An entry put where another one is. -/
def putAt (e other : ResultEntry) : ResultEntry :=
  { e with weekday := other.weekday, periodOrder := other.periodOrder }

/-- An added entry has no times of its own. -/
def added (classId : ℕ) (roomId teacherStaffId : Option ℕ) (weekday periodOrder : ℤ) : ResultEntry where
  classId
  roomId
  teacherStaffId
  weekday
  periodOrder
  startTime := none
  endTime := none
  isPinned := false

def applyAdjustment (m : EntriesMap) : Adjustment → EntriesMap
  | .move classId fromWeekday fromPeriodOrder toWeekday toPeriodOrder toRoomId =>
    match m.get? ⟨classId,fromWeekday,fromPeriodOrder⟩ with
    | none => m
    | some existing =>
      (m.erase ⟨classId,fromWeekday,fromPeriodOrder⟩).set ⟨classId,toWeekday,toPeriodOrder⟩
        (moved existing toWeekday toPeriodOrder toRoomId)
  | .swap entryA entryB =>
    match m.get? entryA, m.get? entryB with
    | some a, some b => setEntry (setEntry ((m.erase entryA).erase entryB) (putAt a b)) (putAt b a)
    | _, _ => m
  | .remove classId weekday periodOrder => m.erase ⟨classId,weekday,periodOrder⟩
  | .add classId roomId teacherStaffId weekday periodOrder =>
    setEntry m (added classId roomId teacherStaffId weekday periodOrder)

def mergeEntries (entries : List ResultEntry) (adjustments : List Adjustment) : EntriesMap :=
  adjustments.foldl applyAdjustment (entries.foldl setEntry UniqueIndex.empty)

structure PeriodTemplate where
  weekday : ℤ
  periodOrder : ℤ
  yearGroupId : Option ℕ
  startTime : ℕ
  endTime : ℕ
  deriving DecidableEq, Repr

structure SchoolClass where
  yearGroupId : Option ℕ
  active : Bool
  deriving DecidableEq, Repr

/-- The classes and the period grid of the run's year. -/
structure School where
  classes : ℕ → Option SchoolClass
  periodTemplates : List PeriodTemplate

def School.isActive (school : School) (classId : ℕ) : Bool := (school.classes classId).any (·.active)

/-- `periodMap`: of several templates under one key the last one stays. -/
def School.periodTimes (school : School) (weekday periodOrder : ℤ) : Option (ℕ × ℕ) :=
  ((school.periodTemplates.filter fun pt => pt.weekday = weekday && pt.periodOrder = periodOrder).getLast?).map
    fun pt => (pt.startTime,pt.endTime)

/-- The times of an entry: its own where it has both, else those of its period. -/
def School.timesOf (school : School) (e : ResultEntry) : Option (ℕ × ℕ) :=
  match e.startTime, e.endTime with
  | some startTime, some endTime => some (startTime,endTime)
  | _, _ => school.periodTimes e.weekday e.periodOrder

structure Schedule where
  classId : ℕ
  roomId : Option ℕ
  teacherStaffId : Option ℕ
  weekday : ℤ
  periodOrder : ℤ
  startTime : ℕ
  endTime : ℕ
  isPinned : Bool
  deriving DecidableEq, Repr

/-- The row inserted for an entry; an entry without times is skipped. -/
def School.scheduleOf (school : School) (e : ResultEntry) : Option Schedule :=
  (school.timesOf e).map fun times =>
    { classId := e.classId
      roomId := e.roomId
      teacherStaffId := e.teacherStaffId
      weekday := e.weekday
      periodOrder := e.periodOrder
      startTime := times.1
      endTime := times.2
      isPinned := e.isPinned }

def School.insertedSchedules (school : School) (m : EntriesMap) : List Schedule :=
  ((m.rows.map Prod.snd).filter fun e => school.isActive e.classId).filterMap school.scheduleOf

inductive RunStatus
  | queued | running | completed | failed | applied | discarded
  deriving DecidableEq, Repr

structure SchedulingRun where
  status : RunStatus
  updatedAt : ℤ
  snapshotGridHash : Option String
  entries : Option (List ResultEntry)
  proposedAdjustments : List Adjustment

inductive ApplyError
  | schedulingRunNotFound | runNotApplicable | staleRun | periodGridChanged | noResultJson
  deriving DecidableEq, Repr

/-- `apply`, down to the schedules it inserts. -/
def School.apply (school : School) (run : Option SchedulingRun) (expectedUpdatedAt : ℤ) (currentGridHash : String) :
    Except ApplyError (List Schedule) := do
  let run ← require run .schedulingRunNotFound
  ensure (run.status = .completed) .runNotApplicable
  ensure (expectedUpdatedAt = run.updatedAt) .staleRun
  ensure (run.snapshotGridHash.all fun hash => hash = "" || hash = currentGridHash) .periodGridChanged
  let entries ← require run.entries .noResultJson
  return school.insertedSchedules (mergeEntries entries run.proposedAdjustments)

end EduPod.Scheduling.ApplyRun
