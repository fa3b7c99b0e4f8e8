import EduPod.Foundation.TransactionLog
import EduPod.Foundation.UniqueIndex

/-! # Grades and grade curves, statement by statement

The requests that write the grades of an assessment. Their checks are queries of their own, what
they write is one transaction. What a curve makes of a score is a parameter.
-/
namespace EduPod.Gradebook
open ReadCommitted Script

inductive AssessmentStatus
  | draft | open | closed | locked | submittedLocked | unlockRequested | reopened | finalLocked
  deriving DecidableEq, Repr

inductive CurveMethod
  | linearShift | linearScale | sqrt | bell | custom
  deriving DecidableEq, Repr

/-- `curveApplied` is `none` as long as no curve is applied. Dates are days. -/
structure Assessment where
  status : AssessmentStatus
  classId : ℕ
  maxScore : ℚ
  dueDate : Option ℤ
  gradingDeadline : Option ℤ
  curveApplied : Option CurveMethod

/-- What has been written to `raw_score`, and by what: an entry, a curve or its undoing. -/
inductive ScoreWrite
  | entered (score : Option ℚ)
  | curved (auditId : ℕ) (score : ℚ)
  | reverted (auditId : ℕ) (score : ℚ)
  deriving DecidableEq

def ScoreWrite.score : ScoreWrite → Option ℚ
  | entered score => score
  | curved _ score => some score
  | reverted _ score => some score

def scoreOf (writes : List ScoreWrite) : Option ℚ := writes.getLast?.bind ScoreWrite.score

/-- A grade with all that was ever written to its score; the column is the last of it. -/
structure Grade where
  isMissing : Bool
  comment : Option String
  enteredByUserId : ℕ
  enteredAt : Option ℤ
  writes : List ScoreWrite

def Grade.rawScore (g : Grade) : Option ℚ := scoreOf g.writes

structure GradeCurveAudit where
  assessmentId : ℕ
  appliedByUserId : ℕ
  method : CurveMethod
  beforeScores : List (ℕ × ℚ)
  afterScores : List (ℕ × ℚ)
  canUndo : Bool

structure GradeEditAudit where
  assessmentId : ℕ
  studentId : ℕ
  oldRawScore : Option ℚ
  newRawScore : Option ℚ
  oldComment : Option String
  newComment : Option String
  editedByUserId : ℕ

/-- An assessment and a student, the key of a grade. -/
abbrev GradeKey := ℕ × ℕ

structure GradeRecords where
  assessments : UniqueIndex ℕ Assessment
  enrolled : ℕ → List ℕ
  requireGradeComment : Bool
  grades : UniqueIndex GradeKey Grade
  curveAudits : Table GradeCurveAudit
  editAudits : List GradeEditAudit

inductive GradeError
  | assessmentNotFound | assessmentLocked | curveAlreadyApplied | noGrades | curveAuditNotFound | undoNotAvailable
  | assessmentNotGradeable | gradingWindowNotOpen | gradingWindowClosed | studentsNotEnrolled | commentRequired
  | scoreExceedsMax | scoreNegative | recordNotFound
  deriving DecidableEq, Repr

inductive Row
  | assessment (id : ℕ)
  | grade (key : GradeKey)
  | curveAudit (id : ℕ)
  deriving DecidableEq, Repr

abbrev Tx := Script GradeRecords Row GradeError

/-- The grades of an assessment that have a score. -/
def GradeRecords.scored (d : GradeRecords) (assessmentId : ℕ) : List (ℕ × ℚ) :=
  d.grades.rows.filterMap fun g => if g.1.1 = assessmentId then g.2.rawScore.map (g.1.2,·) else none

def GradeRecords.writeScore (key : GradeKey) (write : GradeRecords → ScoreWrite) (d : GradeRecords) : GradeRecords :=
  { d with grades := d.grades.modify key fun g => { g with writes := g.writes ++ [write d] } }

def GradeRecords.setCurve (assessmentId : ℕ) (method : Option CurveMethod) (d : GradeRecords) : GradeRecords :=
  { d with assessments := d.assessments.modify assessmentId fun a => { a with curveApplied := method } }

/-! ## Curves -/

structure ApplyCurveDto where
  method : CurveMethod
  params : List (String × ℚ)

/-- The audit a curve writes is the next one. -/
@[grind] def applyScores (assessmentId : ℕ) : List (ℕ × ℚ) → Tx Unit
  | [] => done ()
  | (studentId,score) :: rest => do
    updateRow (.grade (assessmentId,studentId)) (fun d => (d.grades.get? (assessmentId,studentId)).isSome)
      (GradeRecords.writeScore (assessmentId,studentId) fun d => .curved d.curveAudits.next score) .recordNotFound
    applyScores assessmentId rest

/-- `transformScores`: every method maps the scores one by one, given all of them. -/
def transformScores (curve : ApplyCurveDto → ℚ → List ℚ → ℚ → ℚ) (beforeScores : List (ℕ × ℚ)) (maxScore : ℚ)
    (dto : ApplyCurveDto) : List (ℕ × ℚ) :=
  beforeScores.map fun s => (s.1,curve dto maxScore (beforeScores.map Prod.snd) s.2)

def applyCurve (curve : ApplyCurveDto → ℚ → List ℚ → ℚ → ℚ) (assessmentId userId : ℕ) (dto : ApplyCurveDto) :
    Tx Unit := do
  let found ← read fun d => d.assessments.get? assessmentId
  let assessment ← require found .assessmentNotFound
  ensure (assessment.status ≠ .locked) .assessmentLocked
  ensure (assessment.curveApplied = none) .curveAlreadyApplied
  let beforeScores ← read fun d => d.scored assessmentId
  ensure (beforeScores ≠ []) .noGrades
  let afterScores := transformScores curve beforeScores assessment.maxScore dto
  applyScores assessmentId afterScores
  updateRow (.assessment assessmentId) (fun d => (d.assessments.get? assessmentId).isSome)
    (GradeRecords.setCurve assessmentId (some dto.method)) .recordNotFound
  insert fun d => { d with curveAudits := d.curveAudits.insert {
    assessmentId := assessmentId
    appliedByUserId := userId
    method := dto.method
    beforeScores := beforeScores
    afterScores := afterScores
    canUndo := true } }

/-- Each grade is looked up and, if it is there, gets its score back. -/
@[grind] def revertScores (assessmentId auditId : ℕ) : List (ℕ × ℚ) → Tx Unit
  | [] => done ()
  | (studentId,score) :: rest => do
    let _ ← updateWhere (.grade (assessmentId,studentId)) (fun d => (d.grades.get? (assessmentId,studentId)).isSome)
      (GradeRecords.writeScore (assessmentId,studentId) fun _ => .reverted auditId score)
    revertScores assessmentId auditId rest

def undoCurve (assessmentId auditId : ℕ) : Tx Unit := do
  let found ← read fun d => (d.curveAudits.get? auditId).filter fun audit => audit.assessmentId = assessmentId
  let audit ← require found .curveAuditNotFound
  ensure (audit.canUndo = true) .undoNotAvailable
  revertScores assessmentId auditId audit.beforeScores
  updateRow (.assessment assessmentId) (fun d => (d.assessments.get? assessmentId).isSome)
    (GradeRecords.setCurve assessmentId none) .recordNotFound
  updateRow (.curveAudit auditId) (fun d => (d.curveAudits.get? auditId).isSome)
    (fun d => { d with curveAudits := d.curveAudits.modify auditId fun audit => { audit with canUndo := false } })
    .recordNotFound

/-! ## Entering grades -/

structure GradeEntry where
  studentId : ℕ
  rawScore : Option ℚ
  isMissing : Bool
  comment : Option String

/-- The first score out of range. -/
def scoreError (maxScore : ℚ) (grades : List GradeEntry) : Option GradeError :=
  grades.findSome? fun g => g.rawScore.bind fun score =>
    if maxScore < score then some .scoreExceedsMax else if score < 0 then some .scoreNegative else none

/-- Who entered a grade and when: the first to give it a score. -/
def enteredOf (existing : Option Grade) (g : GradeEntry) (userId : ℕ) (now : ℤ) : ℕ × Option ℤ :=
  match existing with
  | some old =>
    if old.rawScore.isSome then (old.enteredByUserId,old.enteredAt)
    else (userId,if g.rawScore = none then none else some now)
  | none => (userId,if g.rawScore = none then none else some now)

/-- The upsert on `idx_grades_unique`. -/
def upsertGrade (key : GradeKey) (g : GradeEntry) (entered : ℕ × Option ℤ) : Tx Unit :=
  statement (fun _ => [.grade key])
    (fun _ d => { d with
      grades := (d.grades.modify key fun old => {
          isMissing := g.isMissing
          comment := g.comment
          enteredByUserId := entered.1
          enteredAt := entered.2
          writes := old.writes ++ [.entered g.rawScore] }).insert key {
        isMissing := g.isMissing
        comment := g.comment
        enteredByUserId := entered.1
        enteredAt := entered.2
        writes := [.entered g.rawScore] } })
    fun _ => done ()

@[grind] def upsertGrades (assessmentId userId : ℕ) (now : ℤ) (existing : ℕ → Option Grade) : List GradeEntry → Tx Unit
  | [] => done ()
  | g :: rest => do
    upsertGrade (assessmentId,g.studentId) g (enteredOf (existing g.studentId) g userId now)
    upsertGrades assessmentId userId now existing rest

/-- A reopened assessment records each score that changes. -/
@[grind] def auditEdits (assessmentId userId : ℕ) (existing : ℕ → Option Grade) : List GradeEntry → Tx Unit
  | [] => done ()
  | g :: rest =>
    match existing g.studentId with
    | none => auditEdits assessmentId userId existing rest
    | some old =>
      if old.rawScore = g.rawScore then auditEdits assessmentId userId existing rest
      else do
        insert fun d => { d with editAudits := d.editAudits ++ [{
          assessmentId := assessmentId
          studentId := g.studentId
          oldRawScore := old.rawScore
          newRawScore := g.rawScore
          oldComment := old.comment
          newComment := g.comment
          editedByUserId := userId }] }
        auditEdits assessmentId userId existing rest

/-- `today` and `now` are the server's day and time. -/
def bulkUpsert (assessmentId userId : ℕ) (today now : ℤ) (grades : List GradeEntry) : Tx Unit := do
  let found ← read fun d => d.assessments.get? assessmentId
  let assessment ← require found .assessmentNotFound
  ensure (assessment.status = .open ∨ assessment.status = .reopened) .assessmentNotGradeable
  ensure (assessment.status = .open → assessment.dueDate.all (· ≤ today) = true) .gradingWindowNotOpen
  ensure (assessment.status = .open → assessment.gradingDeadline.all (today ≤ ·) = true) .gradingWindowClosed
  let enrolled ← read fun d => d.enrolled assessment.classId
  ensure (∀ g ∈ grades, g.studentId ∈ enrolled) .studentsNotEnrolled
  let requireGradeComment ← read (·.requireGradeComment)
  ensure (requireGradeComment = true → ∀ g ∈ grades, g.rawScore ≠ none → g.comment.getD "" ≠ "") .commentRequired
  match scoreError assessment.maxScore grades with
  | some e => fail e
  | none => do
    let existing ← read fun d => fun studentId => d.grades.get? (assessmentId,studentId)
    upsertGrades assessmentId userId now existing grades
    if assessment.status = .reopened then auditEdits assessmentId userId existing grades else done ()

inductive GradeRequest
  | applyCurve (assessmentId userId : ℕ) (dto : ApplyCurveDto)
  | undoCurve (assessmentId auditId : ℕ)
  | bulkUpsert (assessmentId userId : ℕ) (today now : ℤ) (grades : List GradeEntry)

def serve (curve : ApplyCurveDto → ℚ → List ℚ → ℚ → ℚ) : GradeRequest → Tx Unit
  | .applyCurve assessmentId userId dto => applyCurve curve assessmentId userId dto
  | .undoCurve assessmentId auditId => undoCurve assessmentId auditId
  | .bulkUpsert assessmentId userId today now grades => bulkUpsert assessmentId userId today now grades

end EduPod.Gradebook
