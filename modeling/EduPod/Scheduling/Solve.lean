import EduPod.Scheduling.Entries
import EduPod.Scheduling.Hints
import EduPod.Scheduling.Objective

/-! # What a solve hands back

The constraint solver is outside; its answer is a parameter. So is the global part of the
reported score, which is rounded from floating-point fractions.
-/
namespace EduPod.Scheduling
open LinearModel

inductive CpSatStatus
  | optimal | feasible | infeasible | unknown
  deriving DecidableEq

/-- The answer of the constraint solver. -/
inductive CpResult
  | modelInvalid
  | infeasible
  | unknown
  | found (optimal : Bool) (v : Var → ℤ)

structure SolverOutputV2 where
  entries : List SolverAssignmentV2
  unassigned : List UnassignedSlotV2
  score : ℤ
  maxScore : ℤ
  cpSatStatus : CpSatStatus

section
variable (globalSoftScore : List SolverAssignmentV2 → ℤ) (input : SolverInputV2)

/-- The rows of the lessons that are not placed; a pruning diagnostic goes before the default reason. -/
def unassignedRows (placed : List ℕ) (reason : ℕ → String) : List UnassignedSlotV2 :=
  (input.lessons.zipIdx.filter fun l => l.2 ∉ placed).map fun l =>
    { yearGroupId := l.1.yearGroupId
      subjectId := some l.1.subjectId
      classId := some l.1.classId
      periodsRemaining := 1
      reason := (diagnostic input input.slots l.1).getD (reason l.2) }

def computeMaxScore : ℤ :=
  let g := input.globalSoftWeights
  prefSum input + (max g.evenSubjectSpread 0 + max g.minimiseTeacherGaps 0 + max g.roomConsistency 0 +
    max g.workloadBalance 0 + max g.breakDutyBalance 0)

/-- The weights of the satisfied preferences and the global part. -/
def reportedScore (v : Var → ℤ) (entries : List SolverAssignmentV2) : ℤ :=
  (((teacherPrefVars input).filter fun p => p.satisfied.eval v ≠ 0).map (·.weight)).sum + globalSoftScore entries

def buildInfeasibleOutput : SolverOutputV2 where
  entries := pinnedToAssignments input input.slots
  unassigned := unassignedRows input [] fun _ =>
    "CP-SAT reported INFEASIBLE — at least one hard constraint is unsatisfiable"
  score := 0
  maxScore := prefSum input
  cpSatStatus := .infeasible

def lessonIds (placed : List Indexed) : List ℕ := placed.map fun la => la.1.lessonIdx

def buildSolutionOutput (v : Var → ℤ) (status : CpSatStatus) : SolverOutputV2 where
  entries := solutionEntries input v
  unassigned := unassignedRows input (lessonIds (placedRecords v input.legal)) fun lessonIdx =>
    if (legalByLesson input.legal lessonIdx).isEmpty then "No legal (slot, teacher, room) tuple available"
    else "Could not be placed without violating a hard constraint (no compatible (slot, teacher, room) survives the aggregate constraints)"
  score := reportedScore globalSoftScore input v (solutionEntries input v)
  maxScore := computeMaxScore input
  cpSatStatus := status

/-- The greedy's assignments by position. -/
def greedyRecords : List Indexed := (greedyAssign input).insertionSort fun a b => a.2 ≤ b.2

def greedyEntries : List SolverAssignmentV2 := scheduleEntries input input.slots (greedyRecords input) []

def buildGreedyOutput (status : CpSatStatus) : SolverOutputV2 where
  entries := greedyEntries input
  unassigned := unassignedRows input (lessonIds (greedyRecords input)) fun _ =>
    "Greedy fallback could not place this lesson (CP-SAT timed out before improving on the greedy seed)"
  score := globalSoftScore (greedyEntries input)
  maxScore := computeMaxScore input
  cpSatStatus := status

/-- Entries first, then the score. -/
def keyLe (a b : SolverOutputV2) : Prop :=
  a.entries.length < b.entries.length ∨ (a.entries.length = b.entries.length ∧ a.score ≤ b.score)

instance (a b : SolverOutputV2) : Decidable (keyLe a b) :=
  inferInstanceAs (Decidable (a.entries.length < b.entries.length ∨
    (a.entries.length = b.entries.length ∧ a.score ≤ b.score)))

def cpsatStatus (optimal : Bool) : CpSatStatus := if optimal then .optimal else .feasible

/-- The better of the solver's schedule and the greedy's. -/
def bestOutput (optimal : Bool) (v : Var → ℤ) : SolverOutputV2 :=
  let cpsatOutput := buildSolutionOutput globalSoftScore input v (cpsatStatus optimal)
  if keyLe (buildGreedyOutput globalSoftScore input .unknown) cpsatOutput then cpsatOutput
  else buildGreedyOutput globalSoftScore input (cpsatStatus optimal)

def solve : CpResult → Except String SolverOutputV2
  | .modelInvalid => .error "CP-SAT reports MODEL_INVALID — model build is broken"
  | .infeasible => .ok (buildInfeasibleOutput input)
  | .unknown => .ok (buildGreedyOutput globalSoftScore input .unknown)
  | .found optimal v => .ok (bestOutput globalSoftScore input optimal v)

end

end EduPod.Scheduling
