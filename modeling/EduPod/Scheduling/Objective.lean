import EduPod.Scheduling.Model
import EduPod.Scheduling.ModelFacts

/-! # The soft signals

Every signal adds variables and constraints of its own and a weighted term of the
objective. Room consistency adds none: the room pass after the solve looks after it.
-/
namespace EduPod.Scheduling
open Grouping LinearModel

section
/-- A coefficient and an expression: a reward if positive, a penalty if negative. -/
abbrev ObjectiveTerm := ℤ × LinExpr Var

structure SoftSignal where
  constraints : List (Constraint Var)
  terms : List ObjectiveTerm

/-! ## Teacher preferences -/

namespace PayloadValue

def truthy : PayloadValue → Bool
  | null => false
  | bool b => b
  | num q => q ≠ 0
  | str s => s ≠ ""
  | compound isEmpty => !isEmpty

/-- Equality with an integer; a boolean equals 0 or 1. -/
def eqInt (n : ℕ) : PayloadValue → Bool
  | bool b => n = b.toNat
  | num q => n = q
  | _ => false

def eqStr (s : String) : PayloadValue → Bool
  | str t => s = t
  | _ => false

end PayloadValue

/-- A field that is present and not null. -/
def given (field : Option PayloadValue) : Option PayloadValue := field.filter (· ≠ .null)

def priorityWeight (weights : PreferenceWeights) : PreferencePriority → ℤ
  | .high => weights.high
  | .medium => weights.medium
  | .low => weights.low

/-- The assignment would satisfy the preference of its teacher. -/
def matchesPref (pref : TeacherPreferenceInput) (la : Indexed) : Bool :=
  match pref.preferenceType with
  | .classPref => pref.preferencePayload.classId.all fun target => !target.truthy || target.eqStr la.1.lesson.classId
  | .timeSlot => (given pref.preferencePayload.weekday).all (·.eqInt la.1.slot.weekday) &&
      (given pref.preferencePayload.periodOrder).all (·.eqInt la.1.slot.periodOrder)
  | .subject => true

def matchingPlacementVars (legal : List LegalAssignment) (teacherIdx : ℕ) (pref : TeacherPreferenceInput) : List Var :=
  placementVars (legal.zipIdx.filter fun la => la.1.teacherIdx = teacherIdx && matchesPref pref la)

/-- Subject preferences, and those without a target, are never satisfied. -/
def neverSatisfied (pref : TeacherPreferenceInput) : Bool :=
  match pref.preferenceType with
  | .subject => true
  | .classPref => !pref.preferencePayload.classId.any PayloadValue.truthy
  | .timeSlot => (given pref.preferencePayload.weekday).isNone && (given pref.preferencePayload.periodOrder).isNone

/-- The preference asks for its target; otherwise to avoid it. -/
def wants (pref : TeacherPreferenceInput) : Bool := pref.preferencePayload.preferred ≠ some (.bool false)

structure TeacherPrefSatVar where
  weight : ℤ
  satisfied : LinExpr Var

section
variable (input : SolverInputV2) (lessons : List Lesson) (slots : List PhysicalSlot)
  (legal : List LegalAssignment)

/-- A teacher's preference with both positions. -/
abbrev IndexedPref := ℕ × TeacherPreferenceInput × ℕ

def indexedPrefs : List IndexedPref :=
  input.teachers.zipIdx.flatMap fun t => t.1.preferences.zipIdx.map fun p => (t.2,p)

def teacherPrefVar (p : IndexedPref) : TeacherPrefSatVar where
  weight := priorityWeight input.preferenceWeights p.2.1.priority
  satisfied := if neverSatisfied p.2.1 then .ofInt 0 else .ofVar (.prefSatisfied p.1 p.2.2)

def teacherPrefVars : List TeacherPrefSatVar := (indexedPrefs input).map (teacherPrefVar input)

def prefConstraints (p : IndexedPref) : List (Constraint Var) :=
  let satisfied := Var.prefSatisfied p.1 p.2.2
  let anyMatch := Var.prefAny p.1 p.2.2
  if neverSatisfied p.2.1 then []
  else
    match matchingPlacementVars legal p.1 p.2.1 with
    | [] => [boolVar satisfied,.eq (.ofVar satisfied) (.ofInt (if wants p.2.1 then 0 else 1))]
    | found => [boolVar satisfied,boolVar anyMatch,.maxEq (.ofVar anyMatch) (found.map .ofVar),
        if wants p.2.1 then .eq (.ofVar satisfied) (.ofVar anyMatch)
        else .eq (.add (.ofVar satisfied) (.ofVar anyMatch)) (.ofInt 1)]

def prefSignal : SoftSignal where
  constraints := (indexedPrefs input).flatMap (prefConstraints legal)
  terms := ((teacherPrefVars input).filter fun p => 0 < p.weight).map fun p => (p.weight,p.satisfied)

/-! ## Differences between a largest and a smallest count -/

/-- `diff == max - min` over the counts, all three within `[0, upper]`. -/
def spreadConstraints (maxVar minVar diff : Var) (upper : ℤ) (counts : List (LinExpr Var)) : List (Constraint Var) :=
  [.bounds maxVar 0 upper,.bounds minVar 0 upper,.maxEq (.ofVar maxVar) counts,.minEq (.ofVar minVar) counts,
    .bounds diff 0 upper,.eq (.ofVar diff) (.sub (.ofVar maxVar) (.ofVar minVar))]

/-! ## Even subject spread -/

def usedWeekdays (las : List Indexed) : List (Fin 7) :=
  (List.finRange 7).filter fun weekday => las.any fun la => la.1.slot.weekday = weekday

def perDaySums (las : List Indexed) : List (LinExpr Var) :=
  (usedWeekdays las).map fun weekday => .sumOf (placementVars (las.filter fun la => la.1.slot.weekday = weekday))

/-- The lessons of a class and subject. -/
def demandOf (k : String × String) : ℕ := lessons.countP fun l => l.classId = k.1 && l.subjectId = k.2

/-- The classes and subjects with lessons to spread over several days, with their assignments. -/
def spreadGroups : List ((String × String) × List Indexed) :=
  (groupBy subjectKey legal.zipIdx).filter fun g => 2 ≤ (usedWeekdays g.2).length && 1 < demandOf lessons g.1

def evenSubjectSpread (weight : ℤ) : SoftSignal where
  constraints := (spreadGroups lessons legal).flatMap fun g =>
    spreadConstraints (.spreadMax g.1.1 g.1.2) (.spreadMin g.1.1 g.1.2) (.spreadDiff g.1.1 g.1.2)
      (demandOf lessons g.1) (perDaySums g.2)
  terms := (spreadGroups lessons legal).map fun g => (-weight,.ofVar (.spreadDiff g.1.1 g.1.2))

/-! ## Teacher gaps -/

/-- The teaching periods of each weekday that has any, in order. -/
def teachingPeriods : List (Fin 7 × List ℕ) :=
  (groupBy (·.weekday) (slots.filter fun s => s.periodType = .teaching)).map fun g =>
    (g.1,(g.2.map (·.periodOrder)).eraseDups.insertionSort (· ≤ ·))

def byTeacherDayPeriod (teacherIdx : ℕ) (weekday : Fin 7) (period : ℕ) : List Indexed :=
  legal.zipIdx.filter fun la => la.1.teacherIdx = teacherIdx && la.1.slot.weekday = weekday &&
    la.1.slot.periodOrder = period

/-- A teacher's day with several teaching periods. -/
structure TeacherDay where
  teacherIdx : ℕ
  weekday : Fin 7
  periods : List ℕ

def TeacherDay.lastPeriod (g : TeacherDay) : ℕ := g.periods.getLastD 0

def teacherIndices : List ℕ := List.range input.teachers.length

/-- The days on which a teacher has a legal assignment in one of at least two periods. -/
def gapDays : List TeacherDay :=
  (teacherIndices input).flatMap fun t =>
    ((teachingPeriods slots).filter fun d => 2 ≤ d.2.length &&
      d.2.any fun p => !(byTeacherDayPeriod legal t d.1 p).isEmpty).map fun d => ⟨t,d.1,d.2⟩

def presentAt (g : TeacherDay) (period : ℕ) : LinExpr Var :=
  .sumOf (placementVars (byTeacherDayPeriod legal g.teacherIdx g.weekday period))

def countExpr (g : TeacherDay) : LinExpr Var := .sumAll (g.periods.map (presentAt legal g))

def gapConstraints (g : TeacherDay) : List (Constraint Var) :=
  let maxP : ℤ := g.lastPeriod
  let sentinel := maxP + 2
  let lastPos := Var.gapLast g.teacherIdx g.weekday
  let firstPos := Var.gapFirst g.teacherIdx g.weekday
  let gap := Var.gap g.teacherIdx g.weekday
  [.bounds lastPos 0 (maxP + 1),
    .maxEq (.ofVar lastPos) (g.periods.map fun p : ℕ => .scale (p + 1) (presentAt legal g p)),
    .bounds firstPos 1 (maxP + 1 + sentinel),
    .minEq (.ofVar firstPos) (g.periods.map fun p : ℕ =>
      .add (.ofInt (p + 1)) (.scale sentinel (.sub (.ofInt 1) (presentAt legal g p)))),
    .bounds gap 0 maxP,
    .le (.sub (.add (.sub (.ofVar lastPos) (.ofVar firstPos)) (.ofInt 1)) (countExpr legal g)) (.ofVar gap)]

def teacherGaps (weight : ℤ) : SoftSignal where
  constraints := (gapDays input slots legal).flatMap (gapConstraints legal)
  terms := (gapDays input slots legal).map fun g => (-weight,.ofVar (.gap g.teacherIdx g.weekday))

/-! ## Balance -/

def workloadCounts : List (LinExpr Var) :=
  (teacherIndices input).map fun t => .sumOf (placementVars (byTeacher legal t))

/-- Several teachers, and a legal assignment for one of them. -/
def hasWorkload : Bool :=
  1 < input.teachers.length && (teacherIndices input).any fun t => !(byTeacher legal t).isEmpty

def workloadBalance (weight : ℤ) : SoftSignal :=
  if hasWorkload input legal then
    ⟨spreadConstraints .workloadMax .workloadMin .workloadSpread (max 1 legal.length) (workloadCounts input legal),
      [(-weight,.ofVar .workloadSpread)]⟩
  else ⟨[],[]⟩

/-- The duty variables of each teacher who has any. -/
def dutiesByTeacher : List (ℕ × List ((ℕ × ℕ) × Var)) := groupBy (fun e => e.1.2) (supervisionVars input slots)

/-- The most duties open to one teacher, at least 1. -/
def mostDuties : ℕ := ((dutiesByTeacher input slots).map fun g => g.2.length).foldr max 1

def breakDutyBalance (weight : ℤ) : SoftSignal :=
  if 1 < (dutiesByTeacher input slots).length then
    ⟨spreadConstraints .dutyMax .dutyMin .dutySpread (mostDuties input slots)
        ((dutiesByTeacher input slots).map fun g => .sumOf (g.2.map Prod.snd)),
      [(-weight,.ofVar .dutySpread)]⟩
  else ⟨[],[]⟩

/-! ## All signals -/

/-- A signal is left out unless its weight is positive. -/
def whenPositive (weight : ℤ) (signal : ℤ → SoftSignal) : SoftSignal := if 0 < weight then signal weight else ⟨[],[]⟩

def softSignals : List SoftSignal :=
  [prefSignal input legal,
    whenPositive input.globalSoftWeights.evenSubjectSpread (evenSubjectSpread lessons legal),
    whenPositive input.globalSoftWeights.minimiseTeacherGaps (teacherGaps input slots legal),
    whenPositive input.globalSoftWeights.workloadBalance (workloadBalance input legal),
    whenPositive input.globalSoftWeights.breakDutyBalance (breakDutyBalance input slots)]

def buildSoftConstraints : SoftSignal :=
  ⟨(softSignals input lessons slots legal).flatMap (·.constraints),
    (softSignals input lessons slots legal).flatMap (·.terms)⟩

end

def SolverInputV2.soft (input : SolverInputV2) : SoftSignal :=
  buildSoftConstraints input input.lessons input.slots input.legal

end

/-! ## The objective

Placed lessons and filled duties count with the placement weight, the soft terms with
their own ones.
-/

def globalSum (g : GlobalSoftWeights) : ℤ :=
  g.evenSubjectSpread + g.minimiseTeacherGaps + g.roomConsistency + g.workloadBalance + g.breakDutyBalance

section
variable (input : SolverInputV2)

def prefSum : ℤ := ((teacherPrefVars input).map (·.weight)).sum

def computePlacementWeight : ℤ :=
  max (2 * (globalSum input.globalSoftWeights * max input.lessons.length 1 + prefSum input) + 1) 1

/-- The indicators of the lessons with a legal assignment. -/
def placedIndicators : List Var :=
  ((List.range input.lessons.length).filter fun l => !(legalByLesson input.legal l).isEmpty).map .placed

def supervisionIndicators : List Var := (supervisionVars input input.slots).map Prod.snd

/-- Placed lessons and filled duties. -/
def placements (v : Var → ℤ) : ℤ :=
  ((placedIndicators input).map v).sum + ((supervisionIndicators input).map v).sum

/-- `assemble_objective`: what is maximised. -/
def objective : LinExpr Var :=
  let weight := computePlacementWeight input
  .add (.add (.scale weight (.sumOf (placedIndicators input))) (.scale weight (.sumOf (supervisionIndicators input))))
    (.sumAll (input.soft.terms.map fun t => t.2.scale t.1))

end

end EduPod.Scheduling
