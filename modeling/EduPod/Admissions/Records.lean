import EduPod.Foundation.HeldRows

/-! # Admission records and the seats of a year group

The rows admissions reads and writes, for one tenant. Applications are numbered as they are
inserted; students, households and overrides come under identifiers drawn beforehand.
-/
namespace EduPod.Admissions
open ReadCommitted Script

inductive ApplicationStatus
  | submitted | waitingList | readyToAdmit | conditionalApproval | approved | rejected | withdrawn
  deriving DecidableEq, Repr

/-- Nothing leads out of a terminal status. -/
def ApplicationStatus.validTransitions : ApplicationStatus → List ApplicationStatus
  | submitted => [readyToAdmit,waitingList]
  | waitingList => [readyToAdmit,rejected,withdrawn]
  | readyToAdmit => [conditionalApproval,rejected,withdrawn]
  | conditionalApproval => [approved,waitingList,rejected,withdrawn]
  | approved => []
  | rejected => []
  | withdrawn => []

def ApplicationStatus.terminal (status : ApplicationStatus) : Bool := status.validTransitions.isEmpty

inductive WaitingListSubstatus
  | awaitingYearSetup
  deriving DecidableEq, Repr

/-- A parent as the form names them. -/
structure ParentDetails where
  firstName : Option String
  lastName : Option String
  email : Option String
  phone : Option String
  deriving DecidableEq, Repr

/-- The keys of `payload_json` that a conversion reads, `student_dob` as the date it parses to. -/
structure RawPayload where
  parent1 : ParentDetails
  parent2 : ParentDetails
  addressLine1 : Option String
  city : Option String
  country : Option String
  studentFirstName : Option String
  studentLastName : Option String
  studentDob : Option ℤ
  deriving DecidableEq, Repr

structure Application where
  submittedByParentId : Option ℕ
  dateOfBirth : Option ℤ
  status : ApplicationStatus
  reviewedByUserId : Option ℕ
  payload : Option RawPayload
  paymentAmountCents : Option ℤ
  paymentDeadline : Option ℤ
  rejectionReason : Option String
  targetAcademicYearId : Option ℕ
  targetYearGroupId : Option ℕ
  applyDate : ℤ
  waitingListSubstatus : Option WaitingListSubstatus
  overrideRecordId : Option ℕ
  materialisedStudentId : Option ℕ
  householdId : Option ℕ
  submissionBatchId : Option ℕ
  isSiblingApplication : Bool
  deriving DecidableEq, Repr

inductive ClassStatus
  | active | inactive | archived
  deriving DecidableEq, Repr

structure SchoolClass where
  academicYearId : ℕ
  yearGroupId : Option ℕ
  maxCapacity : ℕ
  status : ClassStatus
  deriving DecidableEq, Repr

inductive EnrolmentStatus
  | active | dropped | completed
  deriving DecidableEq, Repr

structure ClassEnrolment where
  classId : ℕ
  studentId : ℕ
  status : EnrolmentStatus
  deriving DecidableEq, Repr

inductive StudentStatus
  | applicant | active | withdrawn | graduated | archived
  deriving DecidableEq, Repr

structure Parent where
  userId : Option ℕ
  email : Option String
  phone : Option String
  isPrimaryContact : Bool
  deriving DecidableEq, Repr

/-- A household with the parents linked to it. -/
structure Household where
  householdNumber : Option String
  studentCounter : ℕ
  parents : List ℕ
  deriving DecidableEq, Repr

/-- A student with the parents linked to them. -/
structure Student where
  householdId : ℕ
  firstName : String
  lastName : String
  dateOfBirth : ℤ
  status : StudentStatus
  yearGroupId : Option ℕ
  parents : List ℕ
  deriving DecidableEq, Repr

structure AdmissionOverride where
  applicationId : ℕ
  approvedByUserId : ℕ
  expectedAmountCents : ℤ
  actualAmountCents : ℤ
  justification : String
  deriving DecidableEq, Repr

inductive PaymentEventStatus
  | succeeded | receivedOutOfBand
  deriving DecidableEq, Repr

structure PaymentEvent where
  applicationId : ℕ
  stripeEventId : ℕ
  amountCents : ℤ
  status : PaymentEventStatus
  deriving DecidableEq, Repr

inductive NoteAction
  | movedToConditionalApproval | rejected | withdrawn | manuallyPromoted | autoPromoted | revertedByExpiry
  | cashRecorded | bankRecorded | stripeCompleted | overrideApproved
  deriving DecidableEq, Repr

/-- A note under the user it is attributed to, or under the system's sentinel. -/
structure ApplicationNote where
  applicationId : ℕ
  authorUserId : Option ℕ
  action : NoteAction
  deriving DecidableEq, Repr

structure School where
  applications : Table Application
  classes : List (ℕ × SchoolClass)
  enrolments : List ClassEnrolment
  students : List (ℕ × Student)
  households : List (ℕ × Household)
  parents : List (ℕ × Parent)
  overrides : List (ℕ × AdmissionOverride)
  paymentEvents : List PaymentEvent
  notes : List ApplicationNote

/-- What the services lock: rows, the capacity of a year group by an advisory lock, the number
sequence, and the entries of unique indexes. -/
inductive Row
  | application (id : ℕ) | capacity (yearGroupId : ℕ) | sequence | household (id : ℕ)
  | materialised (studentId : ℕ) | paymentEvent (stripeEventId : ℕ)
  deriving DecidableEq, Repr

inductive AdmissionsError
  | applicationNotFound | missingTargetYearGroup | invalidStatusTransition | capacityExhausted
  | rejectionReasonRequired | notApplicationOwner | justificationTooShort | awaitingYearSetup
  | invalidStatus | expectedAmountMissing | paymentBelowThreshold | amountMetadataInvalid
  | amountMismatchMetadata | amountMismatchActual | reviewerMissing | payloadMalformed | householdNotFound
  | householdNumberGenerationFailed | householdStudentCapReached | conversionStateCorrupt
  | recordNotFound | uniqueViolation
  deriving DecidableEq, Repr

abbrev Tx := Script School Row AdmissionsError

/-! ## Seats -/

def Application.targets (a : Application) (academicYearId yearGroupId : ℕ) : Bool :=
  a.targetAcademicYearId = some academicYearId && a.targetYearGroupId = some yearGroupId

namespace School
variable (d : School) (academicYearId yearGroupId : ℕ)

def activeClasses : List (ℕ × SchoolClass) := d.classes.filter fun c =>
  c.2.academicYearId = academicYearId && c.2.yearGroupId = some yearGroupId && c.2.status = .active

def totalCapacity : ℕ := ((d.activeClasses academicYearId yearGroupId).map (·.2.maxCapacity)).sum

/-- The distinct students with an active enrolment in an active class of the pair. -/
def enrolledStudents : List ℕ :=
  let classIds := (d.activeClasses academicYearId yearGroupId).map Prod.fst
  ((d.enrolments.filter fun e => e.status = .active && classIds.contains e.classId).map (·.studentId)).eraseDups

/-- How many applications for the pair have a status. -/
def countByStatus (status : ApplicationStatus) : ℕ :=
  (d.applications.select fun a => a.targets academicYearId yearGroupId && a.status = status).length

structure AvailableSeats where
  totalCapacity : ℕ
  enrolledStudentCount : ℕ
  conditionalApprovalCount : ℕ
  availableSeats : ℕ
  configured : Bool
  deriving DecidableEq, Repr

/-- Subtraction stops at zero, as `GREATEST(0, …)` does. -/
def availableSeats : AvailableSeats :=
  let total := d.totalCapacity academicYearId yearGroupId
  let enrolled := (d.enrolledStudents academicYearId yearGroupId).length
  let conditional := d.countByStatus academicYearId yearGroupId .conditionalApproval
  ⟨total,enrolled,conditional,total - enrolled - conditional,0 < total⟩

end School

def getAvailableSeats (academicYearId yearGroupId : ℕ) : Tx School.AvailableSeats :=
  read fun d => d.availableSeats academicYearId yearGroupId

/-! ## Statements on one application -/

def findApplication (id : ℕ) : Tx (Option Application) := read fun d => d.applications.get? id

/-- The rows among these applications that are there. -/
def applicationRows (d : School) (ids : List ℕ) : List Row :=
  (ids.filter fun id => (d.applications.get? id).isSome).map .application

/-- `SELECT … FOR UPDATE` of one application. -/
def selectForUpdate (id : ℕ) : Tx (Option Application) :=
  statement (fun view => applicationRows view [id]) (fun _ db => db) fun view => done (view.applications.get? id)

/-- An update by identifier, whatever the row holds by then. -/
def updateApplication (id : ℕ) (change : Application → Application) : Tx Unit := do
  let found ← updateWhere (.application id) (fun d => (d.applications.get? id).isSome)
    fun d => { d with applications := d.applications.modify id change }
  ensure (found = true) .recordNotFound

def createNote (applicationId : ℕ) (authorUserId : Option ℕ) (action : NoteAction) : Tx Unit :=
  insert fun db => { db with notes := db.notes ++ [⟨applicationId,authorUserId,action⟩] }

/-- The length of a text in the source's units. -/
def utf16Length (s : String) : ℕ := (s.toList.map fun c => if c.toNat < 0x10000 then 1 else 2).sum

def assertTransitionAllowed (source target : ApplicationStatus) : Tx Unit :=
  ensure (target ∈ source.validTransitions) .invalidStatusTransition

end EduPod.Admissions
