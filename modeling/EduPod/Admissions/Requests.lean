import EduPod.Admissions.Conversion
import EduPod.Admissions.StateMachine

/-! # Payments, overrides, expiries, and every request on the admissions records

A payment or an override locks the application, requires a conditional approval, makes the student
and approves. The worker reverts an expired approval without a lock.
-/
namespace EduPod.Admissions
open ReadCommitted Script

def lockConditionalApproval (applicationId : ℕ) : Tx Application := do
  let found ← selectForUpdate applicationId
  let row ← require found .applicationNotFound
  ensure (row.status = .conditionalApproval) .invalidStatus
  return row

/-- Cash and bank transfers. -/
def runPaymentFlow (applicationId actingUserId : ℕ) (paymentSource : PaymentSource) (amountCents : ℤ)
    (draws : Draws) : Tx Unit := do
  let locked ← lockConditionalApproval applicationId
  let expected := locked.paymentAmountCents.getD 0
  ensure (0 < expected) .expectedAmountMissing
  ensure (expected ≤ amountCents) .paymentBelowThreshold
  let _ ← convertToStudent applicationId draws
  markApproved applicationId (some actingUserId) paymentSource none
  createNote applicationId (some actingUserId) paymentSource.action

/-- The justification comes trimmed. -/
def forceApproveWithOverride (applicationId actingUserId overrideId : ℕ) (actualAmountCollectedCents : ℤ)
    (justification : String) (draws : Draws) : Tx Unit := do
  ensure (20 ≤ utf16Length justification) .justificationTooShort
  let locked ← lockConditionalApproval applicationId
  let expectedCents := locked.paymentAmountCents.getD 0
  insert fun d => { d with overrides := d.overrides ++
    [(overrideId,⟨applicationId,actingUserId,expectedCents,actualAmountCollectedCents,justification⟩)] }
  updateApplication applicationId fun a => { a with overrideRecordId := some overrideId }
  let _ ← convertToStudent applicationId draws
  markApproved applicationId (some actingUserId) .override (some overrideId)
  createNote applicationId (some actingUserId) .overrideApproved

/-- Record the event of a checkout, once. -/
def createPaymentEvent (event : PaymentEvent) : Tx Unit :=
  statement (fun _ => [.paymentEvent event.stripeEventId])
    (fun _ db => { db with paymentEvents := db.paymentEvents ++ [event] })
    fun view => ensure (∀ e ∈ view.paymentEvents, e.stripeEventId ≠ event.stripeEventId) .uniqueViolation

/-- The webhook of a paid checkout session reads the application before the conversion locks it. -/
def handleAdmissionsCheckoutCompleted (eventId applicationId : ℕ) (expectedCents actualCents : ℤ) (draws : Draws) :
    Tx Unit := do
  ensure (0 < expectedCents) .amountMetadataInvalid
  let existing ← read fun d => d.paymentEvents.find? fun e => e.stripeEventId = eventId
  if existing.isSome then return ()
  let found ← findApplication applicationId
  let application ← require found .applicationNotFound
  ensure (application.paymentAmountCents = some expectedCents) .amountMismatchMetadata
  ensure (actualCents = expectedCents) .amountMismatchActual
  if application.status ≠ .conditionalApproval then
    createPaymentEvent ⟨applicationId,eventId,actualCents,.receivedOutOfBand⟩
  else
    createPaymentEvent ⟨applicationId,eventId,actualCents,.succeeded⟩
    let _ ← require application.reviewedByUserId .reviewerMissing
    let _ ← convertToStudent applicationId draws
    markApproved applicationId none .stripe none

namespace PaymentExpiry

structure RevertOutcome where
  reverted : Bool
  reviewerUserId : Option ℕ
  deriving DecidableEq, Repr

/-- The note needs a user it is attributed to. -/
def noteRevert (applicationId : ℕ) : Option ℕ → Tx Unit
  | some reviewer => createNote applicationId (some reviewer) .revertedByExpiry
  | none => pure ()

/-- The worker's transaction on one application whose payment window has run out. -/
def revertApplication (applicationId : ℕ) (now : ℤ) : Tx RevertOutcome := do
  let found ← read fun d => (d.applications.get? applicationId).filter fun a => a.status = .conditionalApproval
  match found with
  | none => return ⟨false,none⟩
  | some current =>
    if current.paymentDeadline.any (· < now) then do
      updateApplication applicationId fun a => { a with
        status := .waitingList
        waitingListSubstatus := none
        paymentAmountCents := none
        paymentDeadline := none }
      noteRevert applicationId current.reviewedByUserId
      return ⟨true,current.reviewedByUserId⟩
    else return ⟨false,none⟩

end PaymentExpiry

/-- A request on the admissions records. -/
inductive AdmissionsRequest
  | submit (s : Submission)
  | createPublic (existingHouseholdId : Option ℕ) (students : List Submission)
  | moveToConditionalApproval (applicationId actingUserId : ℕ) (paymentAmountCents paymentDeadline : ℤ)
  | recordPayment (applicationId actingUserId : ℕ) (paymentSource : PaymentSource) (amountCents : ℤ) (draws : Draws)
  | checkoutCompleted (eventId applicationId : ℕ) (expectedCents actualCents : ℤ) (draws : Draws)
  | forceApproveWithOverride (applicationId actingUserId overrideId : ℕ) (actualAmountCollectedCents : ℤ)
    (justification : String) (draws : Draws)
  | reject (skipped : List ℕ) (applicationId actingUserId : ℕ) (reason : String)
  | withdraw (skipped : List ℕ) (applicationId actingUserId : ℕ) (isParent : Bool)
  | revertApplication (applicationId : ℕ) (now : ℤ)
  | promoteAfterExpiry (academicYearId yearGroupId attributionUserId : ℕ)
  | manuallyPromote (applicationId actingUserId : ℕ) (justification : String)

def serve : AdmissionsRequest → Tx Unit
  | .submit s => Admissions.submit s
  | .createPublic existingHouseholdId students => Admissions.createPublic existingHouseholdId students
  | .moveToConditionalApproval applicationId actingUserId paymentAmountCents paymentDeadline =>
    Admissions.moveToConditionalApproval applicationId actingUserId paymentAmountCents paymentDeadline
  | .recordPayment applicationId actingUserId paymentSource amountCents draws =>
    runPaymentFlow applicationId actingUserId paymentSource amountCents draws
  | .checkoutCompleted eventId applicationId expectedCents actualCents draws =>
    handleAdmissionsCheckoutCompleted eventId applicationId expectedCents actualCents draws
  | .forceApproveWithOverride applicationId actingUserId overrideId actualAmountCollectedCents justification draws =>
    Admissions.forceApproveWithOverride applicationId actingUserId overrideId actualAmountCollectedCents justification
      draws
  | .reject skipped applicationId actingUserId reason => Admissions.reject skipped applicationId actingUserId reason
  | .withdraw skipped applicationId actingUserId isParent =>
    Admissions.withdraw skipped applicationId actingUserId isParent
  | .revertApplication applicationId now => do
    let _ ← PaymentExpiry.revertApplication applicationId now
    return ()
  | .promoteAfterExpiry academicYearId yearGroupId attributionUserId => do
    let _ ← PaymentExpiry.promoteYearGroup academicYearId yearGroupId attributionUserId
    return ()
  | .manuallyPromote applicationId actingUserId justification =>
    manuallyPromoteToReadyToAdmit applicationId actingUserId justification

end EduPod.Admissions
