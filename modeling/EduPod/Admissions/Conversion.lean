import EduPod.Foundation.TableBulk
import EduPod.Admissions.Records

/-! # Turning an application into a student

The statements of one conversion. It leaves the application's status to its caller.
-/
namespace EduPod.Admissions
open ReadCommitted Script

/-- The identifiers and household numbers drawn at random for one conversion. -/
structure Draws where
  studentId : ℕ
  householdId : ℕ
  parent1Id : ℕ
  parent2Id : ℕ
  householdNumbers : List String
  deriving DecidableEq, Repr

structure ConversionPayload where
  parent1 : ParentDetails
  parent2 : ParentDetails
  studentFirstName : String
  studentLastName : String
  studentDob : Option ℤ
  deriving DecidableEq, Repr

/-- A string that is not empty. -/
def asString (s : Option String) : Option String := s.filter (· ≠ "")

def ParentDetails.parse (p : ParentDetails) : ParentDetails :=
  ⟨asString p.firstName,asString p.lastName,asString p.email,asString p.phone⟩

/-- The keys a new household cannot do without. -/
def RawPayload.required (raw : RawPayload) : List (Option String) :=
  [raw.parent1.firstName,raw.parent1.lastName,raw.addressLine1,raw.city,raw.country]

def parseConversionPayload (raw : Option RawPayload) (existingHousehold : Bool) : Option ConversionPayload := do
  let obj ← raw
  guard (existingHousehold || obj.required.all fun v => (asString v).isSome)
  return ⟨obj.parent1.parse,obj.parent2.parse,(asString obj.studentFirstName).getD "",
    (asString obj.studentLastName).getD "",obj.studentDob⟩

def resolveDateOfBirth (application : Application) (payload : ConversionPayload) : Option ℤ :=
  application.dateOfBirth <|> payload.studentDob

/-- Point the application at a student, whom no other application may point at. -/
def materialise (applicationId studentId : ℕ) : Tx Unit := do
  let taken ← statement (fun _ => [.materialised studentId]) (fun _ db => db) fun view =>
    done (view.applications.rows.any fun r => r.1 ≠ applicationId && r.2.materialisedStudentId = some studentId)
  ensure (taken = false) .uniqueViolation
  updateApplication applicationId fun a => { a with materialisedStudentId := some studentId }

/-- The student an earlier conversion made, if they are still there; otherwise the pointer is cleared. -/
def loadExistingStudent (applicationId : ℕ) : Option ℕ → Tx (Option ℕ)
  | none => return none
  | some studentId => do
    let existing ← read fun d => d.students.lookup studentId
    match existing with
    | some student => do
      ensure (student.parents ≠ []) .conversionStateCorrupt
      return some studentId
    | none => do
      updateApplication applicationId fun a => { a with materialisedStudentId := none }
      return none

/-- An active student of the same name and date of birth, with a parent linked. -/
def findDuplicateStudent (payload : ConversionPayload) (dateOfBirth : ℤ) : Tx (Option ℕ) :=
  read fun d => (d.students.find? fun s => s.2.firstName = payload.studentFirstName &&
    s.2.lastName = payload.studentLastName && s.2.dateOfBirth = dateOfBirth && s.2.status = .active).bind fun s =>
      if s.2.parents = [] then none else some s.1

structure ResolvedParent where
  id : ℕ
  matchedExisting : Bool
  householdId : Option ℕ
  deriving DecidableEq, Repr

/-- The one parent with this address or number, or a new one. -/
def resolveOrCreateParent (input : ParentDetails) (drawn : ℕ) (isPrimary : Bool) : Tx ResolvedParent := do
  let found ← read fun d => d.parents.filter fun p =>
    (input.email.isSome && p.2.email = input.email) || (input.phone.isSome && p.2.phone = input.phone)
  match found with
  | [parent] => do
    let link ← read fun d => d.households.find? fun h => h.2.parents.contains parent.1
    return ⟨parent.1,true,link.map Prod.fst⟩
  | _ => do
    insert fun d => { d with parents := d.parents ++ [(drawn,⟨none,input.email,input.phone,isPrimary⟩)] }
    return ⟨drawn,false,none⟩

/-- The first of eight drawn numbers that no household has. -/
def generateUniqueHouseholdNumber (drawn : List String) : Tx String := do
  let number ← read fun d =>
    (drawn.take 8).find? fun code => !d.households.any fun h => h.2.householdNumber = some code
  require number .householdNumberGenerationFailed

def linkParent (householdId parentId : ℕ) : Tx Unit :=
  insert fun d => { d with households := d.households.map fun h =>
    if h.1 = householdId ∧ parentId ∉ h.2.parents then (h.1,{ h.2 with parents := h.2.parents ++ [parentId] }) else h }

def linkSecondParent (householdId : ℕ) : Option ResolvedParent → Tx Unit
  | some parent => linkParent householdId parent.id
  | none => pure ()

/-- The other applications of the batch that have no household yet. -/
def School.batchSiblings (d : School) (applicationId : ℕ) (submissionBatchId : Option ℕ) : List ℕ :=
  (d.applications.rows.filter fun r => submissionBatchId.isSome && r.2.submissionBatchId = submissionBatchId &&
    r.2.householdId = none && r.1 ≠ applicationId).map Prod.fst

/-- `updateMany` on the siblings. -/
def linkBatch (applicationId : ℕ) (submissionBatchId : Option ℕ) (householdId : ℕ) : Tx Unit :=
  let siblings := fun d : School => d.batchSiblings applicationId submissionBatchId
  statement (fun view => applicationRows view (siblings view))
    (fun view db => { db with applications := db.applications.mapRows fun id a =>
      if (siblings view).contains id then { a with householdId := some householdId } else a })
    fun _ => done ()

/-- The second parent, where the form names one. -/
def resolveSecondParent (payload : ConversionPayload) (drawn : ℕ) : Tx (Option ResolvedParent) :=
  if payload.parent2.firstName.isSome ∧ payload.parent2.lastName.isSome then
    some <$> resolveOrCreateParent payload.parent2 drawn false
  else pure none

/-- The first parent's household, or a new one with its number. -/
def householdOf (parent1 : ResolvedParent) (draws : Draws) : Tx (ℕ × Option String) :=
  match parent1.householdId with
  | some householdId => do
    let existing ← read fun d => d.households.lookup householdId
    return (householdId,existing.bind (·.householdNumber))
  | none => do
    let number ← generateUniqueHouseholdNumber draws.householdNumbers
    insert fun d => { d with households := d.households ++ [(draws.householdId,⟨some number,0,[parent1.id]⟩)] }
    return (draws.householdId,some number)

/-- The household of the application, found or made, with its number. -/
def resolveHousehold (applicationId : ℕ) (application : Application) (payload : ConversionPayload) (draws : Draws) :
    Tx (ℕ × Option String) :=
  match application.householdId with
  | some householdId => do
    let found ← read fun d => d.households.lookup householdId
    let household ← require found .householdNotFound
    return (householdId,household.householdNumber)
  | none => do
    let parent1 ← resolveOrCreateParent payload.parent1 draws.parent1Id true
    let parent2 ← resolveSecondParent payload draws.parent2Id
    let household ← householdOf parent1 draws
    linkSecondParent household.1 parent2
    linkBatch applicationId application.submissionBatchId household.1
    updateApplication applicationId fun a => { a with householdId := some household.1 }
    return household

def householdMaxStudents : ℕ := 99

/-- Count the student in their household, or draw a number from the tenant's sequence. -/
def takeStudentNumber (householdId : ℕ) : Option String → Tx Unit
  | some _ => statement (fun _ => [.household householdId])
      (fun _ db => { db with households := db.households.map fun h =>
        if h.1 = householdId then (h.1,{ h.2 with studentCounter := h.2.studentCounter + 1 }) else h })
      fun view => ensure (∀ h, view.households.lookup householdId = some h → h.studentCounter + 1 ≤ householdMaxStudents)
        .householdStudentCapReached
  | none => lock [.sequence]

/-- The student, with the parents of the household linked. -/
def createStudent (studentId : ℕ) (student : Student) : Tx Unit := do
  insert fun d => { d with students := d.students ++ [(studentId,student)] }
  let household ← read fun d => d.households.lookup student.householdId
  insert fun d => { d with students := d.students.map fun s =>
    if s.1 = studentId then (s.1,{ s.2 with parents := (household.map (·.parents)).getD [] }) else s }

/-- A duplicate is linked rather than made again. -/
def materialiseNew (applicationId : ℕ) (application : Application) (draws : Draws) : Tx (ℕ × Bool) := do
  let payload ← require (parseConversionPayload application.payload application.householdId.isSome) .payloadMalformed
  let dateOfBirth ← require (resolveDateOfBirth application payload) .payloadMalformed
  let duplicate ← findDuplicateStudent payload dateOfBirth
  match duplicate with
  | some studentId => do
    materialise applicationId studentId
    return (studentId,false)
  | none => do
    let household ← resolveHousehold applicationId application payload draws
    takeStudentNumber household.1 household.2
    createStudent draws.studentId ⟨household.1,payload.studentFirstName,payload.studentLastName,dateOfBirth,.active,
      application.targetYearGroupId,[]⟩
    materialise applicationId draws.studentId
    return (draws.studentId,true)

/-- The student of an application and whether the conversion made them. The row is read as it is locked. -/
def convertToStudent (applicationId : ℕ) (draws : Draws) : Tx (ℕ × Bool) := do
  let found ← selectForUpdate applicationId
  let application ← require found .applicationNotFound
  let existing ← loadExistingStudent applicationId application.materialisedStudentId
  match existing with
  | some studentId => return (studentId,false)
  | none => materialiseNew applicationId application draws

end EduPod.Admissions
