import EduPod.Foundation.Grouping
import EduPod.Foundation.LinearModel
import EduPod.Foundation.Pouring

/-! # The exam solver

An exam is placed in one of two slots of an allowed day and given rooms and invigilators. Days are
counted as proleptic ordinals and times in minutes since midnight, as the solver parses them.
-/
namespace EduPod.Scheduling.Exams
open Grouping LinearModel

inductive ExamMode
  | inPerson | online
  deriving DecidableEq, Repr

structure ExamSolverExam where
  examSubjectConfigId : String
  yearGroupId : String
  paperNumber : ℕ
  durationMinutes : ℕ
  studentCount : ℕ
  invigilatorsRequired : ℕ
  mode : ExamMode
  paper_mem : paperNumber = 1 ∨ paperNumber = 2
  duration_mem : 1 ≤ durationMinutes ∧ durationMinutes ≤ 600
  invigilators_le : invigilatorsRequired ≤ 50

structure ExamSolverRoom where
  roomId : String
  capacity : ℕ
  capacity_pos : 1 ≤ capacity

/-- The two times of a window, as `_parse_hhmm` reads them. -/
structure ExamSolverWindow where
  start : ℤ
  stop : ℤ
  deriving DecidableEq, Repr

structure ExamSolverInput where
  startDate : ℕ
  endDate : ℕ
  allowedWeekdays : List ℤ
  morningWindow : ExamSolverWindow
  afternoonWindow : ExamSolverWindow
  minGapMinutes : ℕ
  maxExamsPerDayPerYg : ℕ
  exams : List ExamSolverExam
  rooms : List ExamSolverRoom
  invigilators : List String
  weekdays_length : 1 ≤ allowedWeekdays.length ∧ allowedWeekdays.length ≤ 7
  gap_le : minGapMinutes ≤ 480
  exams_mem : 1 ≤ maxExamsPerDayPerYg ∧ maxExamsPerDayPerYg ≤ 10

structure ExamSolverRoomAssignment where
  roomId : String
  capacity : ℕ
  studentCountInRoom : ℤ
  deriving DecidableEq, Repr

structure ExamSolverSlot where
  examSubjectConfigId : String
  paperNumber : ℕ
  date : ℕ
  startTime : ℤ
  endTime : ℤ
  roomAssignments : List ExamSolverRoomAssignment
  invigilatorIds : List String
  deriving DecidableEq, Repr

/-! ## Days and times -/

/-- Sunday is 0; the ordinal 1 is a Monday. -/
def sunWeekday (day : ℕ) : ℕ := day % 7

def iterAllowedDates (start stop : ℕ) (allowedWeekdays : List ℤ) : List ℕ :=
  (List.range' start (stop + 1 - start)).filter fun day => (sunWeekday day : ℤ) ∈ allowedWeekdays

/-- The minutes of the time `_minutes_to_hhmm` writes. -/
def minutesToHhmm (total : ℤ) : ℤ := max 0 total % (24 * 60)

/-- `_SlotGeometry`: slot 0 is the morning, any other the afternoon. -/
structure SlotGeometry where
  morningStart : ℤ
  morningEnd : ℤ
  afternoonStart : ℤ
  afternoonEnd : ℤ

namespace SlotGeometry

def fits (geom : SlotGeometry) (slot : ℕ) (durationMinutes : ℕ) : Bool :=
  if slot = 0 then geom.morningStart + durationMinutes ≤ geom.morningEnd
  else geom.afternoonStart + durationMinutes ≤ geom.afternoonEnd

def slotStart (geom : SlotGeometry) (slot : ℕ) : ℤ := if slot = 0 then geom.morningStart else geom.afternoonStart

end SlotGeometry

namespace ExamSolverInput

def dates (input : ExamSolverInput) : List ℕ := iterAllowedDates input.startDate input.endDate input.allowedWeekdays

def geom (input : ExamSolverInput) : SlotGeometry where
  morningStart := input.morningWindow.start
  morningEnd := input.morningWindow.stop
  afternoonStart := input.afternoonWindow.start
  afternoonEnd := input.afternoonWindow.stop

end ExamSolverInput

/-! ## The constraints -/

/-- The variables, by the positions of exam, day, slot, room and invigilator. -/
inductive ExamVar
  | slotAssign (e d s : ℕ)
  | usesRoom (e r : ℕ)
  | roomBusy (e d s r : ℕ)
  | invigAssign (e i : ℕ)
  | invigBusy (e d s i : ℕ)
  | load (i : ℕ)
  | loadMax
  | loadMin
  deriving DecidableEq

open ExamVar

variable (input : ExamSolverInput)

def numDays : ℕ := input.dates.length
def numSlots : ℕ := 2
def numExams : ℕ := input.exams.length
def numRooms : ℕ := input.rooms.length
def numInvig : ℕ := input.invigilators.length

/-- The positions of a day and a slot, day by day. -/
def daySlots : List (ℕ × ℕ) := (List.range (numDays input)).flatMap fun d => (List.range numSlots).map fun s => (d,s)

def boolVar (x : ExamVar) : Constraint ExamVar := .bounds x 0 1

def isZero (x : ExamVar) : Constraint ExamVar := .eq (.ofVar x) (.ofInt 0)

/-- The slot variables of an exam; a slot that is too short is closed. -/
def slotVariables (exam : ExamSolverExam × ℕ) : List (Constraint ExamVar) :=
  (daySlots input).flatMap fun ds =>
    boolVar (slotAssign exam.2 ds.1 ds.2) ::
      if input.geom.fits ds.2 exam.1.durationMinutes then [] else [isZero (slotAssign exam.2 ds.1 ds.2)]

def placedOnce (exam : ExamSolverExam × ℕ) : Constraint ExamVar :=
  .eq (.sumOf ((daySlots input).map fun ds => slotAssign exam.2 ds.1 ds.2)) (.ofInt 1)

/-- The slot variables of some exams on a day. -/
def onDay (members : List (ExamSolverExam × ℕ)) (d : ℕ) : List ExamVar :=
  members.flatMap fun exam => (List.range numSlots).map fun s => slotAssign exam.2 d s

def paperGroups : List (String × List (ExamSolverExam × ℕ)) :=
  groupBy (fun exam => exam.1.examSubjectConfigId) input.exams.zipIdx

/-- Papers of one subject are on different days. -/
def paperConstraints : List (Constraint ExamVar) :=
  (paperGroups input).flatMap fun group =>
    if group.2.length < 2 then []
    else (List.range (numDays input)).map fun d => .le (.sumOf (onDay group.2 d)) (.ofInt 1)

def ygExams : List (String × List (ExamSolverExam × ℕ)) := groupBy (fun exam => exam.1.yearGroupId) input.exams.zipIdx

def ygDay (members : List (ExamSolverExam × ℕ)) (d : ℕ) : List (Constraint ExamVar) :=
  .le (.sumOf (onDay members d)) (.ofInt input.maxExamsPerDayPerYg) ::
    (List.range numSlots).map fun s => .le (.sumOf (members.map fun exam => slotAssign exam.2 d s)) (.ofInt 1)

/-- The pairs of a morning and an afternoon exam of a year group that are too close. -/
def minGap (members : List (ExamSolverExam × ℕ)) (d : ℕ) : List (Constraint ExamVar) :=
  members.flatMap fun m =>
    if (input.minGapMinutes : ℤ) ≤ input.geom.afternoonStart - (input.geom.morningStart + m.1.durationMinutes) then []
    else members.flatMap fun a =>
      if a.2 = m.2 then []
      else [.le (.sumOf [slotAssign m.2 d 0,slotAssign a.2 d 1]) (.ofInt 1)]

def yearGroupConstraints : List (Constraint ExamVar) :=
  (ygExams input).flatMap fun group =>
    ((List.range (numDays input)).flatMap fun d => ygDay input group.2 d) ++
      if 0 < input.minGapMinutes then (List.range (numDays input)).flatMap fun d => minGap input group.2 d else []

/-- Only an exam with students in person takes rooms. -/
def takesRooms (exam : ExamSolverExam) : Bool := exam.mode = .inPerson && exam.studentCount ≠ 0

def roomVariables (exam : ExamSolverExam × ℕ) : List (Constraint ExamVar) :=
  (List.range (numRooms input)).flatMap fun r =>
    boolVar (usesRoom exam.2 r) :: if takesRooms exam.1 then [] else [isZero (usesRoom exam.2 r)]

def capacityConstraint (exam : ExamSolverExam × ℕ) : List (Constraint ExamVar) :=
  if takesRooms exam.1 then
    [.le (.ofInt exam.1.studentCount)
      ⟨input.rooms.zipIdx.map fun room => ((room.1.capacity : ℤ),usesRoom exam.2 room.2),0⟩]
  else []

/-- No two exams of a slot have the same one: `busy` is the product of being placed there and having it. -/
def exclusive (busy : ℕ → ExamVar) (placed has : ℕ → ExamVar) : List (Constraint ExamVar) :=
  ((List.range (numExams input)).flatMap fun e => product (busy e) (placed e) (has e)) ++
    [.le (.sumOf ((List.range (numExams input)).map busy)) (.ofInt 1)]

def roomBusyConstraints : List (Constraint ExamVar) :=
  (daySlots input).flatMap fun ds => (List.range (numRooms input)).flatMap fun r =>
    exclusive input (fun e => roomBusy e ds.1 ds.2 r) (fun e => slotAssign e ds.1 ds.2) (fun e => usesRoom e r)

def invigilatorVariables (exam : ExamSolverExam × ℕ) : List (Constraint ExamVar) :=
  let row := (List.range (numInvig input)).map fun i => invigAssign exam.2 i
  row.map boolVar ++ [.eq (.sumOf row) (.ofInt (min exam.1.invigilatorsRequired (numInvig input) : ℕ))]

def invigBusyConstraints : List (Constraint ExamVar) :=
  (daySlots input).flatMap fun ds => (List.range (numInvig input)).flatMap fun i =>
    exclusive input (fun e => invigBusy e ds.1 ds.2 i) (fun e => slotAssign e ds.1 ds.2) (fun e => invigAssign e i)

/-- The loads the objective weighs. -/
def loadConstraints : List (Constraint ExamVar) :=
  ((List.range (numInvig input)).flatMap fun i =>
    [.bounds (load i) 0 (numExams input),
      .eq (.ofVar (load i)) (.sumOf ((List.range (numExams input)).map fun e => invigAssign e i))]) ++
    if numInvig input = 0 then []
    else
      let loads := (List.range (numInvig input)).map fun i => LinExpr.ofVar (load i)
      [.bounds loadMax 0 (numExams input),.bounds loadMin 0 (numExams input),.maxEq (.ofVar loadMax) loads,
        .minEq (.ofVar loadMin) loads]

def examModel : List (Constraint ExamVar) :=
  input.exams.zipIdx.flatMap (slotVariables input) ++ input.exams.zipIdx.map (placedOnce input) ++
    paperConstraints input ++ yearGroupConstraints input ++ input.exams.zipIdx.flatMap (roomVariables input) ++
    input.exams.zipIdx.flatMap (capacityConstraint input) ++ roomBusyConstraints input ++
    input.exams.zipIdx.flatMap (invigilatorVariables input) ++ invigBusyConstraints input ++ loadConstraints input

/-! ## The output -/

variable (v : ExamVar → ℤ)

/-- `_assign_rooms_to_exam`: the students go into the chosen rooms, the largest first. -/
def assignRoomsToExam (exam : ExamSolverExam) (usedRooms : List ExamSolverRoom) : List ExamSolverRoomAssignment :=
  if takesRooms exam then
    let picked := usedRooms.insertionSort fun a b => b.capacity ≤ a.capacity
    (Pouring.pour (fun room => (room.capacity : ℤ)) exam.studentCount picked).map fun p =>
      ⟨p.1.roomId,p.1.capacity,p.2⟩
  else []

/-- The first day and slot an exam is assigned to. -/
def chosen (e : ℕ) : Option (ℕ × ℕ) := (daySlots input).find? fun ds => v (slotAssign e ds.1 ds.2) = 1

def usedRooms (e : ℕ) : List ExamSolverRoom :=
  (input.rooms.zipIdx.filter fun room => v (usesRoom e room.2) = 1).map Prod.fst

def invigilatorIds (e : ℕ) : List String :=
  (input.invigilators.zipIdx.filter fun i => v (invigAssign e i.2) = 1).map Prod.fst

def outSlot (exam : ExamSolverExam × ℕ) (ds : ℕ × ℕ) : ExamSolverSlot :=
  let startMinutes := input.geom.slotStart ds.2
  { examSubjectConfigId := exam.1.examSubjectConfigId
    paperNumber := exam.1.paperNumber
    date := input.dates.getD ds.1 0
    startTime := minutesToHhmm startMinutes
    endTime := minutesToHhmm (startMinutes + exam.1.durationMinutes)
    roomAssignments := assignRoomsToExam exam.1 (usedRooms input v exam.2)
    invigilatorIds := invigilatorIds input v exam.2 }

/-- The exams that are placed, with the slot that is put out for each. -/
def placedExams : List (ExamSolverExam × ExamSolverSlot) :=
  input.exams.zipIdx.filterMap fun exam => (chosen input v exam.2).map fun ds => (exam.1,outSlot input v exam ds)

/-- The slots of the answer; without an allowed day, or without exams, the solver is not asked. -/
def outSlots : List ExamSolverSlot :=
  if input.dates = [] then [] else (placedExams input v).map Prod.snd

end EduPod.Scheduling.Exams
