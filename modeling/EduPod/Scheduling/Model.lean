import EduPod.Foundation.LinearModel
import EduPod.Scheduling.Pruning

/-! # The hard constraints of the timetable model

The sections A to H follow the source. Assignments are known by their position in the
flat list of legal assignments.
-/
namespace EduPod.Scheduling
open Grouping LinearModel

/-- The variables of the model. Those of the soft terms are created after the hard ones. -/
inductive Var
  | placement (la : ℕ)
  | placed (lesson : ℕ)
  | supervision (breakGroup slot teacher : ℕ)
  | prefSatisfied (teacher pref : ℕ)
  | prefAny (teacher pref : ℕ)
  | spreadMax (classId subjectId : String)
  | spreadMin (classId subjectId : String)
  | spreadDiff (classId subjectId : String)
  | gapLast (teacher : ℕ) (weekday : Fin 7)
  | gapFirst (teacher : ℕ) (weekday : Fin 7)
  | gap (teacher : ℕ) (weekday : Fin 7)
  | workloadMax
  | workloadMin
  | workloadSpread
  | dutyMax
  | dutyMin
  | dutySpread
  deriving DecidableEq

/-- A legal assignment with its position. -/
abbrev Indexed := LegalAssignment × ℕ

def placementVar (la : Indexed) : Var := .placement la.2

def placementVars (las : List Indexed) : List Var := las.map placementVar

def isZero (x : Var) : Constraint Var := .eq (.ofVar x) (.ofInt 0)

def boolVar (x : Var) : Constraint Var := .bounds x 0 1

section
variable (input : SolverInputV2) (lessons : List Lesson) (slots : List PhysicalSlot)
  (legal : List LegalAssignment)

/-! ## A: placement -/

def sectionA : List (Constraint Var) :=
  (placementVars legal.zipIdx).map boolVar ++
  (List.range lessons.length).flatMap fun lessonIdx =>
    let las := legalByLesson legal lessonIdx
    if las.isEmpty then []
    else [boolVar (.placed lessonIdx),.eq (.sumOf (placementVars las)) (.ofVar (.placed lessonIdx))]

/-! ## B: subject periods per day -/

/-- The cap of a class and subject: that of the last legal assignment. -/
def capLookup (classId subjectId : String) : ℤ :=
  ((lastWith (fun la => la.lesson.classId = classId && la.lesson.subjectId = subjectId) legal).map
    fun la => la.lesson.maxPeriodsPerDay).getD 0

def subjectKey (la : Indexed) : String × String := (la.1.lesson.classId,la.1.lesson.subjectId)

def subjectDayKey (la : Indexed) : String × String × Fin 7 :=
  (la.1.lesson.classId,la.1.lesson.subjectId,la.1.slot.weekday)

def sectionB : List (Constraint Var) :=
  (groupBy subjectDayKey legal.zipIdx).flatMap fun g =>
    capNonneg (capLookup legal g.1.1 g.1.2.1 - subjectClassDay input slots g.1.1 g.1.2.1 g.1.2.2)
      (placementVars g.2)

/-! ## C: class no-overlap -/

def classKey (la : Indexed) : String × ℕ := (la.1.lesson.classId,la.1.slot.timeGroupId)

def sectionC : List (Constraint Var) :=
  (groupBy classKey legal.zipIdx).flatMap fun g =>
    capPositive (1 - classTg input slots g.1.1 g.1.2) (placementVars g.2)

/-! ## D: room capacity -/

def exclusiveByType (roomType : String) : ℕ :=
  (openRooms input).countP fun r => r.isExclusive && r.roomType = roomType

def hasNonexclusiveByType (roomType : String) : Bool :=
  (openRooms input).any fun r => !r.isExclusive && r.roomType = roomType

def totalExclusive : ℕ := (openRooms input).countP fun r => r.isExclusive

def hasAnyNonexclusive : Bool := (openRooms input).any fun r => !r.isExclusive

/-- The types that have an open exclusive room. -/
def exclusiveTypes : List String :=
  (((openRooms input).filter (·.isExclusive)).map (·.roomType)).eraseDups

def roomCapacity (roomType : Option String) (tg : ℕ) : ℤ :=
  let unlimited : ℤ := max legal.length 1
  match roomType with
  | none =>
    if hasAnyNonexclusive input then unlimited
    else totalExclusive input - (((exclusiveTypes input).map fun t => pinnedRoomLoadAtTg input slots t tg).sum : ℕ)
  | some t =>
    if hasNonexclusiveByType input t then unlimited
    else exclusiveByType input t - pinnedRoomLoadAtTg input slots t tg

/-- An open room that lessons of the type share freely. -/
def hasNonexclusive : Option String → Bool
  | none => hasAnyNonexclusive input
  | some t => hasNonexclusiveByType input t

/-- Open exclusive rooms for lessons of the type. -/
def exclusiveSupply : Option String → ℕ
  | none => totalExclusive input
  | some t => exclusiveByType input t

/-- Pins in exclusive rooms for lessons of the type. -/
def pinnedRooms (roomType : Option String) (tg : ℕ) : ℕ :=
  match roomType with
  | none => ((exclusiveTypes input).map fun t => pinnedRoomLoadAtTg input slots t tg).sum
  | some t => pinnedRoomLoadAtTg input slots t tg

def roomKey (la : Indexed) : Option String × ℕ := (la.1.lesson.requiredRoomType,la.1.slot.timeGroupId)

def sectionD : List (Constraint Var) :=
  (groupBy roomKey legal.zipIdx).flatMap fun g =>
    capPositive (roomCapacity input slots legal g.1.1 g.1.2) (placementVars g.2)

/-! ## E: teacher caps -/

def byTeacher (teacherIdx : ℕ) : List Indexed :=
  legal.zipIdx.filter fun la => la.1.teacherIdx = teacherIdx

def byTeacherDay (teacherIdx : ℕ) (weekday : Fin 7) : List Indexed :=
  legal.zipIdx.filter fun la => la.1.teacherIdx = teacherIdx && la.1.slot.weekday = weekday

def weekCap (teacher : TeacherInputV2) (teacherIdx : ℕ) : List (Constraint Var) :=
  match teacher.maxPeriodsPerWeek with
  | none => []
  | some cap => capNonneg (cap - teacherWeek input slots teacherIdx) (placementVars (byTeacher legal teacherIdx))

def dayCap (teacher : TeacherInputV2) (teacherIdx : ℕ) : List (Constraint Var) :=
  match teacher.maxPeriodsPerDay with
  | none => []
  | some cap => (List.finRange 7).flatMap fun weekday =>
    capNonneg (cap - teacherDay input slots teacherIdx weekday)
      (placementVars (byTeacherDay legal teacherIdx weekday))

def sectionE : List (Constraint Var) :=
  input.teachers.zipIdx.flatMap fun t => weekCap input slots legal t.1 t.2 ++ dayCap input slots legal t.1 t.2

/-! ## F: double periods -/

/-- The teaching slots of a slot's year group and weekday, by period order. -/
def teachingDay (s : PhysicalSlot) : List PhysicalSlot :=
  ((teachingSlotsByYearGroup slots s.yearGroupId).filter fun t => t.weekday = s.weekday).insertionSort
    fun a b => a.periodOrder ≤ b.periodOrder

/-- The next teaching slot, when its period order is the next one. -/
def nextTeaching (s : PhysicalSlot) : Option PhysicalSlot :=
  (neighbours (fun t => t.slotId = s.slotId) (teachingDay slots s)).2.filter fun n =>
    n.periodOrder = s.periodOrder + 1

/-- The lessons of each pair index. -/
def doublePairs : List (ℕ × List ℕ) :=
  (groupBy Prod.fst (lessons.zipIdx.filterMap fun l => l.1.doublePairIndex.map fun p => (p,l.2))).map fun g =>
    (g.1,g.2.map Prod.snd)

/-- The follower's assignment right after one of the anchor's, with the same teacher. -/
def followerMatch (followerLegal : List Indexed) (la : Indexed) : Option Indexed :=
  (nextTeaching slots la.1.slot).bind fun next =>
    lastWith (fun m => m.1.teacherIdx = la.1.teacherIdx && m.1.slot.slotId = next.slotId) followerLegal

def followsAnchor (anchorLegal : List Indexed) (m : Indexed) : Bool :=
  anchorLegal.any fun la => la.1.teacherIdx = m.1.teacherIdx &&
    (nextTeaching slots la.1.slot).any fun next => next.slotId = m.1.slot.slotId

def pairConstraints (anchorLegal followerLegal : List Indexed) : List (Constraint Var) :=
  (anchorLegal.map fun la => match followerMatch slots followerLegal la with
    | none => isZero (.placement la.2)
    | some m => .eq (.ofVar (.placement la.2)) (.ofVar (.placement m.2))) ++
  (followerLegal.filter fun m => !followsAnchor slots anchorLegal m).map fun m => isZero (.placement m.2)

def sectionF : List (Constraint Var) :=
  (doublePairs lessons).flatMap fun pair => match pair.2 with
    | [anchor,follower] => pairConstraints slots (legalByLesson legal anchor) (legalByLesson legal follower)
    | _ => []

/-! ## G: yard supervision -/

/-- Availability for a duty is checked without the break extension. -/
def availableForSupervision (teacher : TeacherInputV2) (slot : PhysicalSlot) : Bool :=
  teacherAvailable teacher slot.weekday slot.startTime slot.endTime

def slotSupervision (breakGroup : ℕ) (slot : PhysicalSlot) : List ((ℕ × ℕ) × Var) :=
  (input.teachers.zipIdx.filter fun t => availableForSupervision t.1 slot).map fun t =>
    ((slot.slotId,t.2),.supervision breakGroup slot.slotId t.2)

/-- `supervision_vars`: one variable a `(slot, teacher)` key. -/
def supervisionVars : List ((ℕ × ℕ) × Var) :=
  ofPairs (input.breakGroups.zipIdx.flatMap fun bg =>
    (supervisionSlotsByBreakGroup slots bg.1.breakGroupId).flatMap fun s => slotSupervision input bg.2 s)

/-- Supervisors a slot still needs. -/
def supervisorNeed (breakGroup : BreakGroupInput) (slot : PhysicalSlot) : ℤ :=
  max (breakGroup.requiredSupervisorCount - supervisorsAtSlot input slots breakGroup.breakGroupId slot.slotId) 0

def slotNeed (breakGroup : BreakGroupInput × ℕ) (slot : PhysicalSlot) : List (Constraint Var) :=
  let vars := (slotSupervision input breakGroup.2 slot).map Prod.snd
  let need := supervisorNeed input slots breakGroup.1 slot
  vars.map boolVar ++
    -- nobody is available: the slot is left unfilled
    if vars.isEmpty && 0 < need then [] else [.eq (.sumOf vars) (.ofInt need)]

def dutyCap (teacher : TeacherInputV2) (teacherIdx : ℕ) : List (Constraint Var) :=
  match teacher.maxSupervisionDutiesPerWeek with
  | none => []
  | some cap => capNonneg (cap - supPerTeacherWeek input slots teacherIdx)
      (((supervisionVars input slots).filter fun e => e.1.2 = teacherIdx).map Prod.snd)

def sectionG : List (Constraint Var) :=
  (input.breakGroups.zipIdx.flatMap fun bg =>
    (supervisionSlotsByBreakGroup slots bg.1.breakGroupId).flatMap fun s => slotNeed input slots bg s) ++
  input.teachers.zipIdx.flatMap fun t => dutyCap input slots t.1 t.2

/-! ## H: teacher no-overlap -/

/-- A variable that occupies a teacher in a time group. -/
structure TeacherUse where
  teacherIdx : ℕ
  timeGroupId : ℕ
  var : Var

def teachingUses : List TeacherUse :=
  legal.zipIdx.map fun la => ⟨la.1.teacherIdx,la.1.slot.timeGroupId,.placement la.2⟩

def supervisionUses : List TeacherUse :=
  (supervisionVars input slots).filterMap fun e =>
    (slots.find? fun s => s.slotId = e.1.1).map fun s => ⟨e.1.2,s.timeGroupId,e.2⟩

def sectionH : List (Constraint Var) :=
  (groupBy (fun u => (u.teacherIdx,u.timeGroupId)) (teachingUses legal ++ supervisionUses input slots)).flatMap
    fun g => capPositive (1 - teacherTg input slots g.1.1 g.1.2) (g.2.map (·.var))

def buildModel : List (Constraint Var) :=
  sectionA lessons legal ++ sectionB input slots legal ++ sectionC input slots legal ++
  sectionD input slots legal ++ sectionE input slots legal ++ sectionF lessons slots legal ++
  sectionG input slots ++ sectionH input slots legal

end

/-! ## The pipeline up to the model -/

namespace SolverInputV2
variable (input : SolverInputV2)

def slots : List PhysicalSlot := enumerateSlots input.yearGroups
def lessons : List Lesson := buildLessons input
def legal : List LegalAssignment := buildLegalAssignments input input.lessons input.slots
def model : List (Constraint Var) := buildModel input input.lessons input.slots input.legal

end SolverInputV2

end EduPod.Scheduling
