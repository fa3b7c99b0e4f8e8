import EduPod.Admissions.Records

/-! # Promotion off the waiting list

The services and the worker each have their own pass over the waiting list of a pair.
-/
namespace EduPod.Admissions
open ReadCommitted Script

/-- The waiting list of a pair, without those that wait for the year's setup. -/
def School.waiting (d : School) (academicYearId yearGroupId : ℕ) : List (ℕ × Application) :=
  d.applications.select fun a => a.targets academicYearId yearGroupId && a.status = .waitingList &&
    a.waitingListSubstatus = none

/-- `ORDER BY is_sibling_application DESC, apply_date ASC`. -/
def siblingsFirst (a b : ℕ × Application) : Bool :=
  if a.2.isSiblingApplication = b.2.isSiblingApplication then a.2.applyDate ≤ b.2.applyDate
  else a.2.isSiblingApplication

/-- `ORDER BY apply_date ASC`. -/
def earliestFirst (a b : ℕ × Application) : Bool := a.2.applyDate ≤ b.2.applyDate

/-- The first so many of the waiting list; applications that compare equal keep their order. -/
def candidates (le : ℕ × Application → ℕ × Application → Bool) (limit : ℕ) (waiting : List (ℕ × Application)) : List ℕ :=
  ((waiting.insertionSort fun a b => le a b = true).take limit).map Prod.fst

/-- One application after the other, each with its note. -/
@[grind] def promoteAll (authorUserId : Option ℕ) : List ℕ → Tx Unit
  | [] => pure ()
  | id :: ids => do
    updateApplication id fun a => { a with status := .readyToAdmit }
    createNote id authorUserId .autoPromoted
    promoteAll authorUserId ids

structure PromotionResult where
  promotedApplicationIds : List ℕ
  remainingSeats : ℕ
  deriving DecidableEq, Repr

namespace AutoPromotion

/-- What `FOR UPDATE SKIP LOCKED` selects, where `skipped` are the rows another session holds. -/
def selectCandidates (skipped : List ℕ) (academicYearId yearGroupId limit : ℕ) : Tx (List ℕ) :=
  let chosen := fun d : School =>
    candidates siblingsFirst limit ((d.waiting academicYearId yearGroupId).filter fun a => !skipped.contains a.1)
  statement (fun view => applicationRows view (chosen view)) (fun _ db => db) fun view => done (chosen view)

def promoteYearGroup (skipped : List ℕ) (academicYearId yearGroupId : ℕ) : Tx PromotionResult := do
  let capacity ← getAvailableSeats academicYearId yearGroupId
  if capacity.availableSeats = 0 then return ⟨[],0⟩
  let promoted ← selectCandidates skipped academicYearId yearGroupId capacity.availableSeats
  promoteAll none promoted
  return ⟨promoted,capacity.availableSeats - promoted.length⟩

end AutoPromotion

namespace PaymentExpiry

/-- The worker counts the seats itself, reads the waiting list without locking it, and reports how
many it promoted. -/
def promoteYearGroup (academicYearId yearGroupId attributionUserId : ℕ) : Tx ℕ := do
  let classes ← read fun d => d.activeClasses academicYearId yearGroupId
  if classes = [] then return 0
  let totalCapacity := (classes.map (·.2.maxCapacity)).sum
  let enrolled ← read fun d => ((d.enrolments.filter fun e =>
    e.status = .active && (classes.map Prod.fst).contains e.classId).map (·.studentId)).eraseDups
  let conditionalCount ← read fun d => d.countByStatus academicYearId yearGroupId .conditionalApproval
  let availableSeats := totalCapacity - enrolled.length - conditionalCount
  if availableSeats = 0 then return 0
  let promoted ← read fun d => candidates earliestFirst availableSeats (d.waiting academicYearId yearGroupId)
  promoteAll (some attributionUserId) promoted
  return promoted.length

end PaymentExpiry

/-! ## The admissions state machine

Each request is one transaction. Some lock the application before they read its status; `reject` and
`withdraw` read it first and update it by its identifier.
-/

/-- A student's form as it comes in. -/
structure Submission where
  submittedByParentId : Option ℕ
  dateOfBirth : Option ℤ
  payload : Option RawPayload
  targetAcademicYearId : ℕ
  targetYearGroupId : ℕ
  applyDate : ℤ
  submissionBatchId : Option ℕ
  deriving DecidableEq, Repr

/-- The row a submission becomes. -/
def Submission.row (s : Submission) (householdId : Option ℕ) (isSibling : Bool) (status : ApplicationStatus)
    (substatus : Option WaitingListSubstatus) : Application where
  submittedByParentId := s.submittedByParentId
  dateOfBirth := s.dateOfBirth
  status := status
  reviewedByUserId := none
  payload := s.payload
  paymentAmountCents := none
  paymentDeadline := none
  rejectionReason := none
  targetAcademicYearId := some s.targetAcademicYearId
  targetYearGroupId := some s.targetYearGroupId
  applyDate := s.applyDate
  waitingListSubstatus := substatus
  overrideRecordId := none
  materialisedStudentId := none
  householdId := householdId
  submissionBatchId := s.submissionBatchId
  isSiblingApplication := isSibling

/-- Where a submitted application goes: the status and the substatus. -/
def routeSubmittedApplication (capacity : School.AvailableSeats) : ApplicationStatus × Option WaitingListSubstatus :=
  if !capacity.configured then (.waitingList,some .awaitingYearSetup)
  else if 0 < capacity.availableSeats then (.readyToAdmit,none)
  else (.waitingList,none)

/-- Nobody else sees the row before it is routed, so it is written once that is settled. -/
def createAndRoute (householdId : Option ℕ) (isSibling : Bool) (s : Submission) : Tx Unit := do
  lock [.sequence]
  let capacity ← getAvailableSeats s.targetAcademicYearId s.targetYearGroupId
  let (status,substatus) := routeSubmittedApplication capacity
  insert fun d => { d with applications := d.applications.insert (s.row householdId isSibling status substatus) }

def submit (s : Submission) : Tx Unit := createAndRoute none false s

@[grind] def createAll (householdId : Option ℕ) (isSibling : Bool) : List Submission → Tx Unit
  | [] => pure ()
  | s :: students => do
    createAndRoute householdId isSibling s
    createAll householdId isSibling students

/-- The public form: several students at once, for a household with a number or for a new one. -/
def createPublic (existingHouseholdId : Option ℕ) (students : List Submission) : Tx Unit :=
  match existingHouseholdId with
  | some householdId => do
    let found ← read fun d => (d.households.lookup householdId).filter fun h => h.householdNumber.isSome
    let _ ← require found .householdNotFound
    let isSibling ← read fun d => d.students.any fun s => s.2.householdId = householdId && s.2.status = .active
    createAll (some householdId) isSibling students
  | none => createAll none false students

/-- The pair an application is for. -/
def Application.target? (a : Application) : Option (ℕ × ℕ) := do
  let academicYearId ← a.targetAcademicYearId
  let yearGroupId ← a.targetYearGroupId
  return (academicYearId,yearGroupId)

def moveToConditionalApproval (applicationId actingUserId : ℕ) (paymentAmountCents paymentDeadline : ℤ) : Tx Unit := do
  let found ← selectForUpdate applicationId
  let current ← require found .applicationNotFound
  assertTransitionAllowed current.status .conditionalApproval
  let target ← require current.target? .missingTargetYearGroup
  lock [.capacity target.2]
  let capacity ← getAvailableSeats target.1 target.2
  ensure (capacity.availableSeats ≠ 0) .capacityExhausted
  updateApplication applicationId fun a => { a with
    status := .conditionalApproval
    paymentAmountCents := some paymentAmountCents
    paymentDeadline := some paymentDeadline
    reviewedByUserId := some actingUserId }
  createNote applicationId (some actingUserId) .movedToConditionalApproval

/-- A seat held by a conditional approval is handed on in the same transaction. -/
def releaseSeat (skipped : List ℕ) (current : Application) : Tx Unit :=
  match current.target? with
  | some target =>
    if current.status = .conditionalApproval then do
      let _ ← AutoPromotion.promoteYearGroup skipped target.1 target.2
      return ()
    else return ()
  | none => return ()

def reject (skipped : List ℕ) (applicationId actingUserId : ℕ) (reason : String) : Tx Unit := do
  ensure (reason ≠ "") .rejectionReasonRequired
  let found ← findApplication applicationId
  let current ← require found .applicationNotFound
  assertTransitionAllowed current.status .rejected
  updateApplication applicationId fun a => { a with
    status := .rejected
    rejectionReason := some reason
    reviewedByUserId := some actingUserId }
  createNote applicationId (some actingUserId) .rejected
  releaseSeat skipped current

def withdraw (skipped : List ℕ) (applicationId actingUserId : ℕ) (isParent : Bool) : Tx Unit := do
  let found ← findApplication applicationId
  let current ← require found .applicationNotFound
  if isParent then
    let parent ← read fun d => d.parents.find? fun p => p.2.userId = some actingUserId
    ensure (parent.isSome ∧ current.submittedByParentId = parent.map Prod.fst) .notApplicationOwner
  assertTransitionAllowed current.status .withdrawn
  updateApplication applicationId fun a => { a with
    status := .withdrawn
    reviewedByUserId := some actingUserId }
  createNote applicationId (some actingUserId) .withdrawn
  releaseSeat skipped current

/-- An admin picks an application out of order; the justification comes trimmed. -/
def manuallyPromoteToReadyToAdmit (applicationId actingUserId : ℕ) (justification : String) : Tx Unit := do
  ensure (10 ≤ utf16Length justification) .justificationTooShort
  let found ← selectForUpdate applicationId
  let current ← require found .applicationNotFound
  ensure (current.status = .waitingList) .invalidStatusTransition
  let row ← findApplication applicationId
  ensure (row.bind (·.waitingListSubstatus) ≠ some .awaitingYearSetup) .awaitingYearSetup
  let target ← require current.target? .missingTargetYearGroup
  lock [.capacity target.2]
  let capacity ← getAvailableSeats target.1 target.2
  let readyToAdmitCount ← read fun d => d.countByStatus target.1 target.2 .readyToAdmit
  ensure (readyToAdmitCount < capacity.availableSeats) .capacityExhausted
  updateApplication applicationId fun a => { a with status := .readyToAdmit }
  createNote applicationId (some actingUserId) .manuallyPromoted

inductive PaymentSource
  | stripe | cash | bankTransfer | override
  deriving DecidableEq, Repr

def PaymentSource.action : PaymentSource → NoteAction
  | cash => .cashRecorded
  | bankTransfer => .bankRecorded
  | stripe => .stripeCompleted
  | override => .overrideApproved

def markApproved (applicationId : ℕ) (actingUserId : Option ℕ) (paymentSource : PaymentSource)
    (overrideRecordId : Option ℕ) : Tx Unit := do
  let found ← findApplication applicationId
  let current ← require found .applicationNotFound
  assertTransitionAllowed current.status .approved
  updateApplication applicationId fun a => { a with
    status := .approved
    overrideRecordId := overrideRecordId
    paymentDeadline := none
    reviewedByUserId := actingUserId <|> a.reviewedByUserId }
  createNote applicationId actingUserId paymentSource.action

end EduPod.Admissions
