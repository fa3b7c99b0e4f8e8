import EduPod.Finance.InvoiceStatus
import EduPod.Payroll.Records
import EduPod.Foundation.Fallible
import EduPod.Foundation.Processes

/-! # Approval requests and their callbacks

A decision is a conditional update. Whatever follows an approval reads a request, or a batch of them,
and later writes to it by id: the failed enqueue of the approval itself, the manual and the bulk
retry, and the reconciliation sweep. A callback job may be delivered any number of times.
-/
namespace EduPod.Approvals
open Fallible Processes Finance Payroll

inductive RequestStatus
  | pendingApproval | approved | rejected | executed | cancelled | expired
  deriving DecidableEq, Repr

inductive CallbackStatus
  | pending | executed | failed | alreadyDone | skipped
  deriving DecidableEq, Repr

inductive AnnouncementStatus
  | draft | pendingApproval | scheduled | published | archived
  deriving DecidableEq, Repr

/-- What a request asks approval for. -/
inductive Entity
  | announcement (status : AnnouncementStatus)
  | invoice (status : InvoiceStatus)
  | payrollRun (status : PayrollRunStatus)
  deriving DecidableEq

inductive Callback
  | announcementPublish | invoiceIssue | payrollFinalise
  deriving DecidableEq, Repr

def modeACallbacks (actionType : String) : Option Callback :=
  match actionType with
  | "announcement_publish" => some .announcementPublish
  | "invoice_issue" => some .invoiceIssue
  | "payroll_finalise" => some .payrollFinalise
  | _ => none

inductive Decision
  | approved | rejected | cancelled
  deriving DecidableEq, Repr

def Decision.status : Decision → RequestStatus
  | .approved => .approved
  | .rejected => .rejected
  | .cancelled => .cancelled

/-- A request. `decisions` are those that have taken effect on it, and `callbackExecuted` says that a
callback has executed for it. -/
structure ApprovalRequest where
  actionType : String
  targetEntityId : ℕ
  requesterUserId : ℕ
  approverUserId : Option ℕ
  status : RequestStatus
  decidedAt : Option ℕ
  callbackStatus : Option CallbackStatus
  callbackAttempts : ℕ
  decisions : List Decision
  callbackExecuted : Bool
  deriving DecidableEq

structure CallbackJob where
  callback : Callback
  approvalRequestId : ℕ
  targetEntityId : ℕ
  deriving DecidableEq

/-- An entity left `pending_approval` through the callback of a request. -/
structure Release where
  entityId : ℕ
  requestId : ℕ
  deriving DecidableEq

structure Records where
  requests : Table ApprovalRequest
  entities : Table Entity
  jobs : List CallbackJob
  releases : List Release

/-- The entities that requests can be about, and no request yet. -/
def Records.start (entities : Table Entity) : Records := ⟨Table.empty,entities,[],[]⟩

inductive ApprovalError
  | requestNotFound
  | invalidStatus (status : RequestStatus)
  | selfApprovalBlocked
  | selfRejectionBlocked
  | notRequester
  | callbackAlreadyExecuted
  | callbackNotRetryable
  | callbackNotStale
  | noCallbackMapping
  deriving DecidableEq, Repr

/-- The callback states that writes after a decision leave behind. -/
inductive Unfinished
  | pending | failed
  deriving DecidableEq, Repr

def Unfinished.status : Unfinished → CallbackStatus
  | .pending => .pending
  | .failed => .failed

/-- A write of the callback columns by id. -/
structure CallbackWrite where
  id : ℕ
  status : Unfinished
  attempts : Option ℕ
  deriving DecidableEq

/-- What a process has still to do: a write, or a job to add and what is written when it is or is not. -/
inductive Action
  | write (w : CallbackWrite)
  | enqueue (job : CallbackJob) (added : Option CallbackWrite) (failed : CallbackWrite)

inductive Request
  | submit (actionType : String) (targetEntityId requesterUserId : ℕ)
  | approve (id approverUserId : ℕ)
  | reject (id approverUserId : ℕ)
  | cancel (id requesterUserId : ℕ)
  | retryCallback (id : ℕ)
  | bulkRetryCallbacks (statusFilter : Option Unfinished) (maxCount : ℕ)
  | reconciliation
  | delivery (job : CallbackJob)

inductive Process
  | opened (request : Request)
  | transition (id actorUserId : ℕ) (decision : Decision) (job : Option CallbackJob)
  | acting (rest : List Action)
  | processJob (job : CallbackJob) (found : Entity)

/-- What comes from outside: the time, and whether a queue takes a job. -/
structure Input where
  now : ℕ
  queueUp : Bool

/-! ## Decisions -/

def ApprovalRequest.job (request : ApprovalRequest) (id : ℕ) (callback : Callback) : CallbackJob :=
  ⟨callback,id,request.targetEntityId⟩

def approve (db : Records) (id approverUserId : ℕ) : Except ApprovalError Process := do
  let request ← require (db.requests.get? id) .requestNotFound
  ensure (request.status = .pendingApproval) (.invalidStatus request.status)
  ensure (request.requesterUserId ≠ approverUserId) .selfApprovalBlocked
  return .transition id approverUserId .approved ((modeACallbacks request.actionType).map (request.job id))

def reject (db : Records) (id approverUserId : ℕ) : Except ApprovalError Process := do
  let request ← require (db.requests.get? id) .requestNotFound
  ensure (request.status = .pendingApproval) (.invalidStatus request.status)
  ensure (request.requesterUserId ≠ approverUserId) .selfRejectionBlocked
  return .transition id approverUserId .rejected none

def cancel (db : Records) (id requesterUserId : ℕ) : Except ApprovalError Process := do
  let request ← require (db.requests.get? id) .requestNotFound
  ensure (request.status = .pendingApproval) (.invalidStatus request.status)
  ensure (request.requesterUserId = requesterUserId) .notRequester
  return .transition id requesterUserId .cancelled none

/-- A cancellation has no approver. -/
def ApprovalRequest.decide (decision : Decision) (actorUserId now : ℕ) (hasCallback : Bool)
    (request : ApprovalRequest) : ApprovalRequest :=
  { request with
    status := decision.status
    approverUserId := if decision = .cancelled then request.approverUserId else some actorUserId
    decidedAt := some now
    callbackStatus := if hasCallback then some .pending else request.callbackStatus
    callbackAttempts := if hasCallback then 0 else request.callbackAttempts
    decisions := request.decisions ++ [decision] }

def isPending (db : Records) (id : ℕ) : Bool :=
  (db.requests.get? id).any fun request => request.status = .pendingApproval

/-- The update is under the condition that the request is still pending. -/
def transitionPendingRequest (db : Records) (id actorUserId now : ℕ) (decision : Decision) (hasCallback : Bool) : Records :=
  if isPending db id then
    { db with requests := db.requests.modify id (.decide decision actorUserId now hasCallback) }
  else db

/-! ## Retries -/

def staleThresholdMs : ℕ := 30 * 60 * 1000

def maxCallbackAttempts : ℕ := 5

/-- The writes of a manual or bulk retry. -/
def retryActions (id : ℕ) (job : CallbackJob) : List Action :=
  [.write ⟨id,.pending,some 0⟩,.enqueue job none ⟨id,.failed,none⟩]

def retryCallback (db : Records) (id now : ℕ) : Except ApprovalError Process := do
  let request ← require (db.requests.get? id) .requestNotFound
  ensure (request.status = .approved) (.invalidStatus request.status)
  ensure (request.callbackStatus ≠ some .executed) .callbackAlreadyExecuted
  ensure (request.callbackStatus = some .failed ∨ request.callbackStatus = some .pending) .callbackNotRetryable
  ensure (request.callbackStatus = some .failed ∨ request.decidedAt.all fun at_ => at_ + staleThresholdMs ≤ now)
    .callbackNotStale
  let callback ← require (modeACallbacks request.actionType) .noCallbackMapping
  return .acting (retryActions id (request.job id callback))

def decidedBefore (now : ℕ) (request : ApprovalRequest) : Bool :=
  request.decidedAt.any fun at_ => at_ + staleThresholdMs < now

/-- Approved requests, those decided first ahead. -/
def stuckRequests (db : Records) (wanted : ApprovalRequest → Bool) (take : ℕ) : List (ℕ × ApprovalRequest) :=
  let found := db.requests.select fun request => request.status = .approved && wanted request
  (found.insertionSort fun a b => a.2.decidedAt.getD 0 ≤ b.2.decidedAt.getD 0).take take

def bulkActions (q : ℕ × ApprovalRequest) : List Action :=
  match modeACallbacks q.2.actionType with
  | none => []
  | some callback => retryActions q.1 (q.2.job q.1 callback)

def bulkRetryCallbacks (db : Records) (statusFilter : Option Unfinished) (maxCount now : ℕ) : Process :=
  let callbackStatusFilter := match statusFilter with
    | some status => [status]
    | none => [.failed,.pending]
  let wanted request := callbackStatusFilter.any (fun status => request.callbackStatus = some status.status) &&
    decidedBefore now request
  .acting ((stuckRequests db wanted maxCount).flatMap bulkActions)

/-- The sweep adds the job first, and then writes the status. -/
def sweepActions (q : ℕ × ApprovalRequest) : List Action :=
  match modeACallbacks q.2.actionType with
  | none => []
  | some callback =>
    let newAttemptCount := q.2.callbackAttempts + 1
    if maxCallbackAttempts ≤ newAttemptCount then [.write ⟨q.1,.failed,some newAttemptCount⟩]
    else [.enqueue (q.2.job q.1 callback) (some ⟨q.1,.pending,some newAttemptCount⟩) ⟨q.1,.failed,some newAttemptCount⟩]

def reconciliation (db : Records) (now : ℕ) : Process :=
  let wanted request := (request.callbackStatus = some .pending || request.callbackStatus = some .failed) &&
    request.callbackAttempts < maxCallbackAttempts && decidedBefore now request
  .acting ((stuckRequests db wanted 100).flatMap sweepActions)

def CallbackWrite.apply (w : CallbackWrite) (request : ApprovalRequest) : ApprovalRequest :=
  { request with
    callbackStatus := some w.status.status
    callbackAttempts := w.attempts.getD request.callbackAttempts }

/-! ## Callback jobs -/

def Callback.handles : Callback → Entity → Bool
  | .announcementPublish, .announcement _ => true
  | .invoiceIssue, .invoice _ => true
  | .payrollFinalise, .payrollRun _ => true
  | _, _ => false

def Entity.isPendingApproval : Entity → Bool
  | .announcement status => status = .pendingApproval
  | .invoice status => status = .pendingApproval
  | .payrollRun status => status = .pendingApproval

def Entity.isPostApproval : Entity → Bool
  | .announcement status => status = .published
  | .invoice status => status = .issued
  | .payrollRun status => status = .finalised

def Entity.release : Entity → Entity
  | .announcement _ => .announcement .published
  | .invoice _ => .invoice .issued
  | .payrollRun _ => .payrollRun .finalised

def ApprovalRequest.execute (request : ApprovalRequest) : ApprovalRequest :=
  { request with status := .executed, callbackStatus := some .executed, callbackExecuted := true }

def ApprovalRequest.selfHeal (isPostApproval : Bool) (request : ApprovalRequest) : ApprovalRequest :=
  if isPostApproval then { request with status := .executed, callbackStatus := some .alreadyDone }
  else { request with callbackStatus := some .skipped }

/-- What the callback writes, given what it has read of the entity. -/
def processJob (db : Records) (job : CallbackJob) (found : Entity) : Records :=
  if found.isPendingApproval then
    { db with
      entities := db.entities.modify job.targetEntityId Entity.release
      requests := db.requests.modify job.approvalRequestId ApprovalRequest.execute
      releases :=
        if (db.entities.get? job.targetEntityId).any Entity.isPendingApproval then
          db.releases ++ [⟨job.targetEntityId,job.approvalRequestId⟩]
        else db.releases }
  else
    { db with requests := db.requests.modify job.approvalRequestId (.selfHeal found.isPostApproval) }

/-! ## Processes -/

def submitted (actionType : String) (targetEntityId requesterUserId : ℕ) : ApprovalRequest where
  actionType := actionType
  targetEntityId := targetEntityId
  requesterUserId := requesterUserId
  approverUserId := none
  status := .pendingApproval
  decidedAt := none
  callbackStatus := none
  callbackAttempts := 0
  decisions := []
  callbackExecuted := false

/-- The first action of a request. A job is delivered if it has been added at some time. -/
def open_ (db : Records) (input : Input) : Request → Option Process
  | .submit .. => none
  | .approve id approverUserId => (approve db id approverUserId).toOption
  | .reject id approverUserId => (reject db id approverUserId).toOption
  | .cancel id requesterUserId => (cancel db id requesterUserId).toOption
  | .retryCallback id => (retryCallback db id input.now).toOption
  | .bulkRetryCallbacks statusFilter maxCount => some (bulkRetryCallbacks db statusFilter maxCount input.now)
  | .reconciliation => some (reconciliation db input.now)
  | .delivery job =>
    if job ∈ db.jobs then
      ((db.entities.get? job.targetEntityId).filter job.callback.handles).map (.processJob job)
    else none

def act (db : Records) (process : Process) (input : Input) : Records × Option Process :=
  match process with
  | .opened (.submit actionType targetEntityId requesterUserId) =>
    ({ db with requests := db.requests.insert (submitted actionType targetEntityId requesterUserId) },none)
  | .opened request => (db,open_ db input request)
  | .transition id actorUserId decision job =>
    (transitionPendingRequest db id actorUserId input.now decision job.isSome,
      if isPending db id then job.map fun job => .acting [.enqueue job none ⟨id,.failed,none⟩] else none)
  | .acting [] => (db,none)
  | .acting (.write w :: rest) => ({ db with requests := db.requests.modify w.id w.apply },some (.acting rest))
  | .acting (.enqueue job added failed :: rest) =>
    if input.queueUp then ({ db with jobs := db.jobs ++ [job] },some (.acting (added.toList.map .write ++ rest)))
    else (db,some (.acting (.write failed :: rest)))
  | .processJob job found => (processJob db job found,none)

def protocol : Protocol Records Process Request Input := ⟨.opened,act⟩

end EduPod.Approvals
