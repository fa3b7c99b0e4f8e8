import EduPod.Foundation.GroupedCaps
import EduPod.Scheduling.Model

/-! # The room pass after the solve

Placed lessons are visited by lesson id. A lesson takes its preferred room, else the first
room of its pool that is free in its time group; a double-period follower takes its
anchor's room without looking.
-/
namespace EduPod.Scheduling
open Grouping LinearModel

section
/-- The output entry of a pin and its cell. -/
def pinEntry (p : PinnedEntryV2 × PhysicalSlot) : SolverAssignmentV2 where
  classId := p.1.classId
  subjectId := p.1.subjectId
  yearGroupId := p.2.yearGroupId
  roomId := p.1.roomId
  teacherStaffId := p.1.teacherStaffId
  weekday := p.1.weekday
  periodOrder := p.1.periodOrder
  startTime := p.2.startTime
  endTime := p.2.endTime
  isPinned := true
  breakGroupId := p.2.breakGroupId
  isSupervision := p.2.isYard

/-- Pinned entries whose cell was found, as output entries. -/
def pinnedToAssignments (input : SolverInputV2) (slots : List PhysicalSlot) : List SolverAssignmentV2 :=
  (resolvedPins input slots).map pinEntry

section
variable (input : SolverInputV2)

def exclusiveRooms : List RoomInfoV2 := (openRooms input).filter (·.isExclusive)

def nonexclusiveRooms : List RoomInfoV2 := (openRooms input).filter fun r => !r.isExclusive

/-- The room ids of a pool: those of one type, or those of all types, type by type. -/
def poolOf (rooms : List RoomInfoV2) (roomType : Option String) : List String :=
  match roomType with
  | none => (groupBy (·.roomType) rooms).flatMap fun g => g.2.map (·.roomId)
  | some t => (rooms.filter fun r => r.roomType = t).map (·.roomId)

def typePool (roomType : Option String) : List String := poolOf (exclusiveRooms input) roomType

def nePool (roomType : Option String) : List String := poolOf (nonexclusiveRooms input) roomType

/-- A missing or empty id is no preference. -/
def truthy (s : Option String) : Bool := s.any (· ≠ "")

/-- The last preferred room among the override rows of a class and subject. -/
def overrideRoom (classId : String) (subjectId : Option String) : Option String :=
  (lastWith (fun o => o.classId = classId && o.subjectId = subjectId && o.preferredRoomId.isSome)
    input.classRoomOverrides).bind (·.preferredRoomId)

def preferredRoom (lesson : Lesson) : Option String :=
  let bySubject := overrideRoom input lesson.classId (some lesson.subjectId)
  let byClass := overrideRoom input lesson.classId none
  if truthy bySubject then bySubject
  else if truthy byClass then byClass
  else lesson.preferredRoomId

def candidateRooms (lesson : Lesson) : List String :=
  let preferred := preferredRoom input lesson
  let exclusive := typePool input lesson.requiredRoomType
  let nonexclusive := nePool input lesson.requiredRoomType
  let first := preferred.toList.filter fun p => truthy preferred && (p ∈ exclusive || p ∈ nonexclusive)
  first ++ (exclusive.filter fun r => some r ≠ preferred) ++ nonexclusive.filter fun r => some r ≠ preferred

/-- Some open non-exclusive room has the id. -/
def isNonexclusiveId (roomId : String) : Bool := (nonexclusiveRooms input).any fun r => r.roomId = roomId

structure RoomState where
  used : List (String × ℕ)
  anchorRoom : List (ℕ × Option String)
  assignments : List (ℕ × Option String)
  deriving DecidableEq

/-- The room of the pair's other lesson, when that one was visited before and has a room. -/
def followerRoom (st : RoomState) (lesson : Lesson) : Option String :=
  if lesson.requiresDoublePeriod then
    lesson.doublePairIndex.bind fun p => ((st.anchorRoom.find? fun a => a.1 = p).map Prod.snd).join
  else none

def chooseRoom (st : RoomState) (lesson : Lesson) (tg : ℕ) : Option String :=
  (candidateRooms input lesson).find? fun r => isNonexclusiveId input r || !st.used.contains (r,tg)

/-- Remember the room of the first visited lesson of a pair. -/
def recordAnchor (st : RoomState) (lesson : Lesson) (chosen : Option String) : List (ℕ × Option String) :=
  match lesson.doublePairIndex with
  | some p => if lesson.requiresDoublePeriod && p ∉ st.anchorRoom.map Prod.fst then st.anchorRoom ++ [(p,chosen)]
      else st.anchorRoom
  | none => st.anchorRoom

def assignRoom (st : RoomState) (record : Indexed) : RoomState :=
  let lesson := record.1.lesson
  let tg := record.1.slot.timeGroupId
  match followerRoom st lesson with
  | some room => { st with used := (room,tg) :: st.used, assignments := st.assignments ++ [(record.2,some room)] }
  | none =>
    let chosen := chooseRoom input st lesson tg
    { used := match chosen with
        | some room => if isNonexclusiveId input room then st.used else (room,tg) :: st.used
        | none => st.used
      anchorRoom := recordAnchor st lesson chosen
      assignments := st.assignments ++ [(record.2,chosen)] }

/-- The pairs the pins occupy: their room at every cell with their keys. -/
def pinnedUse (slots : List PhysicalSlot) (pinned : List SolverAssignmentV2) : List (String × ℕ) :=
  pinned.flatMap fun pin => match pin.roomId with
    | none => []
    | some room => (slots.filter fun s =>
        s.weekday = pin.weekday && s.periodOrder = pin.periodOrder && s.yearGroupId = pin.yearGroupId).map
          fun s => (room,s.timeGroupId)

/-- The visiting order: lesson id, then position. -/
def recordLe (a b : Indexed) : Prop :=
  a.1.lesson.lessonId < b.1.lesson.lessonId ∨ (a.1.lesson.lessonId = b.1.lesson.lessonId ∧ a.2 ≤ b.2)

instance : DecidableRel recordLe := fun a b =>
  inferInstanceAs (Decidable (a.1.lesson.lessonId < b.1.lesson.lessonId ∨
    (a.1.lesson.lessonId = b.1.lesson.lessonId ∧ a.2 ≤ b.2)))

def sortedRecords (placedRecords : List Indexed) : List Indexed := placedRecords.insertionSort recordLe

def initialRooms (slots : List PhysicalSlot) : RoomState :=
  ⟨pinnedUse slots (pinnedToAssignments input slots),[],[]⟩

/-- `_assign_rooms`: the room of each placed record, by position. -/
def assignRooms (slots : List PhysicalSlot) (placedRecords : List Indexed) : List (ℕ × Option String) :=
  ((sortedRecords placedRecords).foldl (assignRoom input) (initialRooms input slots)).assignments

/-- Look a room assignment up; no row and a row without a room read the same. -/
def roomOf (assignments : List (ℕ × Option String)) (laIdx : ℕ) : Option String :=
  ((assignments.find? fun a => a.1 = laIdx).map Prod.snd).join

end

end

/-! ## The schedule a valuation stands for -/

/-- The legal assignments a valuation places, in order. -/
def placedRecords (v : Var → ℤ) (legal : List LegalAssignment) : List Indexed :=
  chosen v placementVar legal.zipIdx

def lessonEntry (rooms : List (ℕ × Option String)) (la : Indexed) : SolverAssignmentV2 where
  classId := la.1.lesson.classId
  subjectId := some la.1.lesson.subjectId
  yearGroupId := la.1.lesson.yearGroupId
  roomId := roomOf rooms la.2
  teacherStaffId := some la.1.teacher.staffProfileId
  weekday := la.1.slot.weekday
  periodOrder := la.1.slot.periodOrder
  startTime := la.1.slot.startTime
  endTime := la.1.slot.endTime
  isPinned := false
  breakGroupId := none
  isSupervision := false

def supervisionEntry (slot : PhysicalSlot) (teacher : TeacherInputV2) : SolverAssignmentV2 where
  classId := ""
  subjectId := none
  yearGroupId := slot.yearGroupId
  roomId := none
  teacherStaffId := some teacher.staffProfileId
  weekday := slot.weekday
  periodOrder := slot.periodOrder
  startTime := slot.startTime
  endTime := slot.endTime
  isPinned := false
  breakGroupId := slot.breakGroupId
  isSupervision := true

/-- The slot and teacher of a duty variable. -/
def dutyOf (input : SolverInputV2) (slots : List PhysicalSlot) (e : (ℕ × ℕ) × Var) :
    Option (PhysicalSlot × TeacherInputV2) :=
  (slots.find? fun s => s.slotId = e.1.1).bind fun s => input.teachers[e.1.2]?.map fun t => (s,t)

/-- The duties a valuation fills, with their slot and teacher. -/
def filledDuties (input : SolverInputV2) (slots : List PhysicalSlot) (v : Var → ℤ) :
    List (PhysicalSlot × TeacherInputV2) :=
  (chosen v Prod.snd (supervisionVars input slots)).filterMap (dutyOf input slots)

/-- The entries of a schedule: pins, placed lessons with their rooms, filled duties. -/
def scheduleEntries (input : SolverInputV2) (slots : List PhysicalSlot) (placed : List Indexed)
    (duties : List (PhysicalSlot × TeacherInputV2)) : List SolverAssignmentV2 :=
  pinnedToAssignments input slots ++ placed.map (lessonEntry (assignRooms input slots placed)) ++
    duties.map fun d => supervisionEntry d.1 d.2

/-- The entries `_build_solution_output` reads off a valuation. -/
def solutionEntries (input : SolverInputV2) (v : Var → ℤ) : List SolverAssignmentV2 :=
  scheduleEntries input input.slots (placedRecords v input.legal) (filledDuties input input.slots v)

end EduPod.Scheduling
