import EduPod.Scheduling.Model

/-! # The greedy assignment

Lessons are placed round by round over the classes, then unplaced ones by displacing one
lesson, then once more where room was made. The history records every commit that passed
the legality test, with the state it was made in; the algorithm does not read it.
-/
namespace EduPod.Scheduling
open Grouping

structure GreedyState where
  classBusy : List (String × ℕ)
  teacherBusy : List (ℕ × ℕ)
  teacherWeekCount : ℕ → ℤ
  teacherDayCount : ℕ × Fin 7 → ℤ
  subjectClassDayCount : String × String × Fin 7 → ℤ
  roomsUsedAtTg : Option String × ℕ → ℤ
  /-- `chosen_la_by_lesson`: an assignment carries its lesson's index. -/
  chosen : List Indexed
  chosenByPair : List (ℕ × ℕ × ℕ)
  classSubjectDaysUsed : List ((String × String) × Fin 7)

structure Greedy where
  state : GreedyState
  history : List (GreedyState × Indexed)

/-- `d[k] += n` on a table of counts. -/
def bump {κ : Type*} [DecidableEq κ] (d : κ → ℤ) (k : κ) (n : ℤ) : κ → ℤ := Function.update d k (d k + n)

def discard {α : Type*} [DecidableEq α] (a : α) (xs : List α) : List α := xs.filter fun x => x ≠ a

def teacherKey (la : Indexed) : ℕ × ℕ := (la.1.teacherIdx,la.1.slot.timeGroupId)

def teacherDayKey (la : Indexed) : ℕ × Fin 7 := (la.1.teacherIdx,la.1.slot.weekday)

/-- The slot and teacher a pair's first placed lesson fixes. -/
def pairTarget (la : Indexed) : ℕ × ℕ := (la.1.slot.slotId,la.1.teacherIdx)

def GreedyState.pairOf (st : GreedyState) (p : ℕ) : Option (ℕ × ℕ) :=
  (st.chosenByPair.find? fun e => e.1 = p).map Prod.snd

def commitPair (st : GreedyState) (la : Indexed) : List (ℕ × ℕ × ℕ) :=
  match la.1.lesson.doublePairIndex with
  | some p => if la.1.lesson.requiresDoublePeriod && (st.pairOf p).isNone then st.chosenByPair ++ [(p,pairTarget la)]
      else st.chosenByPair
  | none => st.chosenByPair

def commit (st : GreedyState) (la : Indexed) : GreedyState where
  classBusy := st.classBusy.insert (classKey la)
  teacherBusy := st.teacherBusy.insert (teacherKey la)
  teacherWeekCount := bump st.teacherWeekCount la.1.teacherIdx 1
  teacherDayCount := bump st.teacherDayCount (teacherDayKey la) 1
  subjectClassDayCount := bump st.subjectClassDayCount (subjectDayKey la) 1
  roomsUsedAtTg := bump st.roomsUsedAtTg (roomKey la) 1
  chosen := st.chosen ++ [la]
  chosenByPair := commitPair st la
  classSubjectDaysUsed := st.classSubjectDaysUsed.insert (subjectKey la,la.1.slot.weekday)

def rollbackPair (st : GreedyState) (la : Indexed) : List (ℕ × ℕ × ℕ) :=
  match la.1.lesson.doublePairIndex with
  | some p => if la.1.lesson.requiresDoublePeriod && st.pairOf p = some (pairTarget la) then
      st.chosenByPair.filter fun e => e.1 ≠ p
      else st.chosenByPair
  | none => st.chosenByPair

def rollback (st : GreedyState) (la : Indexed) : GreedyState where
  classBusy := discard (classKey la) st.classBusy
  teacherBusy := discard (teacherKey la) st.teacherBusy
  teacherWeekCount := bump st.teacherWeekCount la.1.teacherIdx (-1)
  teacherDayCount := bump st.teacherDayCount (teacherDayKey la) (-1)
  subjectClassDayCount := bump st.subjectClassDayCount (subjectDayKey la) (-1)
  roomsUsedAtTg := bump st.roomsUsedAtTg (roomKey la) (-1)
  chosen := st.chosen.filter fun m => m.1.lessonIdx ≠ la.1.lessonIdx
  chosenByPair := rollbackPair st la
  classSubjectDaysUsed :=
    -- the day stays marked while the pair of class and subject has a period on it
    if st.subjectClassDayCount (subjectDayKey la) - 1 ≤ 0 then
      discard (subjectKey la,la.1.slot.weekday) st.classSubjectDaysUsed
    else st.classSubjectDaysUsed

/-! ## Legality -/

def poolFull (input : SolverInputV2) (st : GreedyState) (la : Indexed) : Bool :=
  match la.1.lesson.requiredRoomType with
  | none => !hasAnyNonexclusive input && (totalExclusive input : ℤ) ≤ st.roomsUsedAtTg (roomKey la)
  | some t => !hasNonexclusiveByType input t && (exclusiveByType input t : ℤ) ≤ st.roomsUsedAtTg (roomKey la)

/-- A lesson of a placed pair has to take the very slot and teacher of the first one. -/
def followsTarget (st : GreedyState) (la : Indexed) : Bool :=
  if la.1.lesson.requiresDoublePeriod then
    la.1.lesson.doublePairIndex.all fun p => (st.pairOf p).all fun target => pairTarget la = target
  else true

def isLegal (input : SolverInputV2) (st : GreedyState) (la : Indexed) : Bool :=
  classKey la ∉ st.classBusy && teacherKey la ∉ st.teacherBusy &&
  (la.1.teacher.maxPeriodsPerWeek.all fun cap => st.teacherWeekCount la.1.teacherIdx < cap) &&
  (la.1.teacher.maxPeriodsPerDay.all fun cap => st.teacherDayCount (teacherDayKey la) < cap) &&
  st.subjectClassDayCount (subjectDayKey la) < la.1.lesson.maxPeriodsPerDay &&
  !poolFull input st la && followsTarget st la

def GreedyState.placed (st : GreedyState) (lessonIdx : ℕ) : Bool := st.chosen.any fun m => m.1.lessonIdx = lessonIdx

/-! ## The moves -/

/-- A commit that passed the test. -/
def commitLegal (g : Greedy) (la : Indexed) : Greedy := ⟨commit g.state la,g.history ++ [(g.state,la)]⟩

def undo (g : Greedy) (la : Indexed) : Greedy := ⟨rollback g.state la,g.history⟩

/-- The commit that puts a displaced lesson back without a test. -/
def restore (g : Greedy) (la : Indexed) : Greedy := ⟨commit g.state la,g.history⟩

section
variable (input : SolverInputV2)

/-- Candidates on days that class and subject do not use yet come first. -/
def daySpreadLe (st : GreedyState) (a b : Indexed) : Prop :=
  let used := fun la : Indexed => decide ((subjectKey la,la.1.slot.weekday) ∈ st.classSubjectDaysUsed)
  used a < used b ∨ (used a = used b ∧ a.2 ≤ b.2)

instance (st : GreedyState) : DecidableRel (daySpreadLe st) := fun a b =>
  inferInstanceAs (Decidable (decide ((subjectKey a,a.1.slot.weekday) ∈ st.classSubjectDaysUsed) <
    decide ((subjectKey b,b.1.slot.weekday) ∈ st.classSubjectDaysUsed) ∨
    (decide ((subjectKey a,a.1.slot.weekday) ∈ st.classSubjectDaysUsed) =
      decide ((subjectKey b,b.1.slot.weekday) ∈ st.classSubjectDaysUsed) ∧ a.2 ≤ b.2)))

/-- `_try_place`: commit the first legal candidate; says whether there was one. -/
def tryPlace (g : Greedy) (lessonIdx : ℕ) : Greedy × Bool :=
  if g.state.placed lessonIdx then (g,false)
  else
    match ((legalByLesson input.legal lessonIdx).insertionSort (daySpreadLe g.state)).find? (isLegal input g.state) with
    | some la => (commitLegal g la,true)
    | none => (g,false)

/-- The placed lesson that holds the class or, failing that, the teacher of a candidate. -/
def findBlocker (st : GreedyState) (placedLa : List Indexed) (la : Indexed) : Option Indexed :=
  if classKey la ∈ st.classBusy then placedLa.find? fun m => classKey m = classKey la
  else if teacherKey la ∈ st.teacherBusy then placedLa.find? fun m => teacherKey m = teacherKey la
  else none

/-- The first other candidate of a displaced lesson that is legal. -/
def findAlternative (g : Greedy) (blocker : Indexed) : Option Indexed :=
  (legalByLesson input.legal blocker.1.lessonIdx).find? fun alt => alt.2 ≠ blocker.2 && isLegal input g.state alt

/-- The candidates of an unplaced lesson in turn: displace the blocker, move it elsewhere,
place the lesson; on failure put everything back. -/
@[grind] def trySwapFrom (placedLa : List Indexed) : List Indexed → Greedy → Greedy
  | [], g => g
  | laU :: rest, g =>
    match (findBlocker g.state placedLa laU).bind fun b => g.state.chosen.find? fun m => m.1.lessonIdx = b.1.lessonIdx with
    | none => trySwapFrom placedLa rest g
    | some blocker =>
      if blocker.1.lesson.requiresDoublePeriod then trySwapFrom placedLa rest g
      else
        let removed := undo g blocker
        match findAlternative input removed blocker with
        | none => trySwapFrom placedLa rest (restore removed blocker)
        | some alt =>
          let rehomed := commitLegal removed alt
          if isLegal input rehomed.state laU then commitLegal rehomed laU
          else trySwapFrom placedLa rest (restore (undo rehomed alt) blocker)

/-- `_try_one_swap`. -/
def tryOneSwap (g : Greedy) (lessonIdx : ℕ) : Greedy :=
  match input.lessons[lessonIdx]? with
  | none => g
  | some lesson =>
    if lesson.requiresDoublePeriod then g
    else trySwapFrom input g.state.chosen (legalByLesson input.legal lessonIdx) g

/-! ## The phases -/

def initialState : GreedyState where
  classBusy := ((resolvedPins input input.slots).map fun p => (p.1.classId,p.2.timeGroupId)).eraseDups
  teacherBusy := []
  teacherWeekCount := fun _ => 0
  teacherDayCount := fun _ => 0
  subjectClassDayCount := fun k => (resolvedPins input input.slots).countP fun p =>
    p.1.classId = k.1 && p.1.subjectId = some k.2.1 && p.2.weekday = k.2.2
  roomsUsedAtTg := fun _ => 0
  chosen := []
  chosenByPair := []
  classSubjectDaysUsed := []

/-- `_compute_scarcity` of one lesson. -/
def scarcity (lesson : Lesson) (lessonIdx : ℕ) : ℤ :=
  let domain := legalByLesson input.legal lessonIdx
  let teachers := (domain.map fun la => la.1.teacherIdx).eraseDups
  (if lesson.requiresDoublePeriod then 200 else 100) +
  (if lesson.subjectId ≠ "" then max 0 (50 - teachers.length * 10) else 0) +
  (match lesson.requiredRoomType with
    | some t => if t ≠ "" then max 0 (40 - (input.rooms.countP fun r => r.roomType = t) * 10) else 0
    | none => 0) +
  max 0 (30 - (domain.length / 5 : ℕ))

/-- Harder lessons first, then by index. -/
def harderLe (a b : Lesson × ℕ) : Prop :=
  scarcity input b.1 b.2 < scarcity input a.1 a.2 ∨ (scarcity input a.1 a.2 = scarcity input b.1 b.2 ∧ a.2 ≤ b.2)

instance : DecidableRel (harderLe input) := fun a b => inferInstanceAs (Decidable
  (scarcity input b.1 b.2 < scarcity input a.1 a.2 ∨ (scarcity input a.1 a.2 = scarcity input b.1 b.2 ∧ a.2 ≤ b.2)))

/-- The lessons of each class, hardest first, the classes by id. -/
def byClass : List (String × List (Lesson × ℕ)) :=
  ((groupBy (fun l : Lesson × ℕ => l.1.classId) input.lessons.zipIdx).map fun g =>
    (g.1,g.2.insertionSort (harderLe input))).insertionSort fun a b => a.1 ≤ b.1

/-- The order of the first phase: one lesson of every class a round. -/
def roundRobin : List ℕ :=
  let maxRounds := ((byClass input).map fun g => g.2.length).foldr max 0
  (List.range maxRounds).flatMap fun r => (byClass input).filterMap fun g => g.2[r]?.map Prod.snd

def unplaced (st : GreedyState) : List ℕ := (List.range input.lessons.length).filter fun i => !st.placed i

def phase1 (g : Greedy) : Greedy := (roundRobin input).foldl (fun g i => (tryPlace input g i).1) g

def phase2 (g : Greedy) : Greedy :=
  (unplaced input g.state).foldl (fun g i => if g.state.placed i then g else tryOneSwap input g i) g

/-- One retry over the unplaced lessons, with whether any was placed. -/
def retry (g : Greedy) : Greedy × Bool :=
  (unplaced input g.state).foldl (fun p i => ((tryPlace input p.1 i).1,p.2 || (tryPlace input p.1 i).2)) (g,false)

@[grind] def phase3 : ℕ → Greedy → Greedy
  | 0, g => g
  | rounds + 1, g =>
    if (unplaced input g.state).isEmpty then g
    else if (retry input g).2 then phase3 rounds (retry input g).1 else (retry input g).1

def greedyRun : Greedy := phase3 input 3 (phase2 input (phase1 input ⟨initialState input,[]⟩))

/-- `greedy_assign`: the assignments the greedy places. -/
def greedyAssign : List Indexed := (greedyRun input).state.chosen

end

end EduPod.Scheduling
