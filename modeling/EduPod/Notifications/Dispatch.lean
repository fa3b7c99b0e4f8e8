import EduPod.Foundation.Grouping
import EduPod.Foundation.Processes
import EduPod.Foundation.TableBulk

/-! # Dispatching notifications

Two ticks find notifications that are to be sent and enqueue jobs for them, in batches per tenant. A
job loads its notifications in one transaction and then sends one after the other outside of it, each
row written when its provider has answered. Looking up template, contact and credentials, rendering
and the provider itself are outside: an action is told what they come to.
-/
namespace EduPod.Notifications
open Processes Grouping

inductive NotificationChannel
  | email | whatsapp | inApp | sms
  deriving DecidableEq, Repr

inductive NotificationStatus
  | queued | claimed | sent | delivered | failed | read
  deriving DecidableEq, Repr

/-- A notification. `recorded` says that a send of it has succeeded and was recorded. -/
structure Notification where
  tenantId : ℕ
  recipientUserId : ℕ
  channel : NotificationChannel
  templateKey : Option String
  locale : String
  payloadJson : String
  sourceEntityType : Option String
  sourceEntityId : Option ℕ
  status : NotificationStatus
  providerMessageId : Option String
  failureReason : Option String
  attemptCount : ℕ
  maxAttempts : ℕ
  nextRetryAt : Option ℕ
  chainId : Option ℕ
  recorded : Bool
  deriving DecidableEq

structure DispatchJob where
  tenantId : ℕ
  notificationIds : List ℕ
  announcementId : Option ℕ
  deriving DecidableEq

structure Outbox where
  notifications : Table Notification
  jobs : List DispatchJob

def Outbox.empty : Outbox := ⟨Table.empty,[]⟩

/-- What the lookups and the rendering come to. -/
inductive Preparation
  | noTemplate
  | noContact
  | administrativeSkip (reason : String)
  | renderingFails (message : String)
  | ready

/-- What comes from outside. -/
structure Input where
  now : ℕ
  moduleEnabled : Bool
  preparation : Preparation
  answer : Except String String
  drawnChainId : ℕ

/-- What another module asks for: a notification to be sent. -/
structure Submission where
  tenantId : ℕ
  recipientUserId : ℕ
  channel : NotificationChannel
  templateKey : Option String
  locale : String
  payloadJson : String
  sourceEntityType : Option String
  sourceEntityId : Option ℕ
  maxAttempts : ℕ

inductive Request
  | submit (submission : Submission)
  | enqueue (job : DispatchJob)
  | dispatchQueued
  | retryFailed
  | delivery (job : DispatchJob)

inductive TickAction
  | clearRetry (tenantId : ℕ) (ids : List ℕ)
  | retryGroup (tenantId : ℕ) (ids : List ℕ)
  | add (job : DispatchJob)

/-- A job that is `calling` has handed its notification to the provider and awaits the answer. -/
inductive Process
  | opened (request : Request)
  | ticking (rest : List TickAction)
  | dispatching (rest : List (ℕ × Notification))
  | calling (id : ℕ) (notification : Notification) (rest : List (ℕ × Notification))
  | fallingBack (id : ℕ) (notification : Notification) (channel : NotificationChannel) (rest : List (ℕ × Notification))

def queuedNotification (s : Submission) : Notification where
  tenantId := s.tenantId
  recipientUserId := s.recipientUserId
  channel := s.channel
  templateKey := s.templateKey
  locale := s.locale
  payloadJson := s.payloadJson
  sourceEntityType := s.sourceEntityType
  sourceEntityId := s.sourceEntityId
  status := .queued
  providerMessageId := none
  failureReason := none
  attemptCount := 0
  maxAttempts := s.maxAttempts
  nextRetryAt := none
  chainId := none
  recorded := false

/-! ## The ticks -/

def batchSize : ℕ := 50

def hardMaxAttempts : ℕ := 10

/-- The rows found, in batches per tenant. -/
def byTenant (found : List (ℕ × Notification)) : List (ℕ × List ℕ) :=
  (groupBy (fun q => q.2.tenantId) found).map fun g => (g.1,g.2.map Prod.fst)

def dispatchQueued (db : Outbox) (now : ℕ) : Process :=
  let found := db.notifications.select fun n =>
    n.status = .queued && n.channel ≠ .inApp && n.nextRetryAt.all fun at_ => at_ ≤ now
  .ticking ((byTenant (found.take batchSize)).flatMap fun g => [.clearRetry g.1 g.2,.add ⟨g.1,g.2,none⟩])

def retryFailed (db : Outbox) (now : ℕ) : Process :=
  let found := db.notifications.select fun n =>
    n.status = .failed && n.nextRetryAt.any (fun at_ => at_ ≤ now) && n.attemptCount < hardMaxAttempts
  let eligible := found.filter fun q => q.2.attemptCount < q.2.maxAttempts
  .ticking ((byTenant eligible).map fun g => .retryGroup g.1 g.2)

def updateMany (db : Outbox) (tenantId : ℕ) (ids : List ℕ) (p : Notification → Bool) (g : Notification → Notification) : Outbox :=
  { db with notifications := db.notifications.mapRows fun id n =>
      if ids.contains id && n.tenantId == tenantId && p n then g n else n }

/-- The rows stay queued. -/
def clearRetry (db : Outbox) (tenantId : ℕ) (ids : List ℕ) : Outbox :=
  updateMany db tenantId ids (fun n => n.status = .queued) fun n => { n with nextRetryAt := none }

def retryGroup (db : Outbox) (tenantId : ℕ) (ids : List ℕ) : Outbox :=
  updateMany db tenantId ids (fun _ => true) fun n => { n with status := .queued, nextRetryAt := none }

/-! ## A dispatch job -/

def loadNotifications (db : Outbox) (job : DispatchJob) : List (ℕ × Notification) :=
  let announced := job.announcementId.toList.flatMap fun announcementId => (db.notifications.select fun n =>
    n.tenantId = job.tenantId && n.sourceEntityType = some "announcement" && n.sourceEntityId = some announcementId &&
      n.channel ≠ .inApp && (n.status = .queued || n.status = .failed)).map Prod.fst
  let resolvedIds := if job.notificationIds = [] then announced else job.notificationIds
  db.notifications.rows.filter fun q => resolvedIds.contains q.1 && q.2.tenantId == job.tenantId &&
    (q.2.status = .queued || q.2.status = .failed)

def fallbackChain : NotificationChannel → Option NotificationChannel
  | .whatsapp => some .sms
  | .sms => some .email
  | .email => some .inApp
  | .inApp => none

def noTemplateReason : NotificationChannel → String
  | .email => "No email template for locale"
  | .whatsapp => "No WhatsApp template for locale"
  | .sms => "No SMS template for locale"
  | .inApp => ""

def noContactReason : NotificationChannel → String
  | .email => "No email address found for recipient"
  | .whatsapp => "No WhatsApp phone number found"
  | .sms => "No phone number found"
  | .inApp => ""

def update (db : Outbox) (id : ℕ) (g : Notification → Notification) : Outbox :=
  { db with notifications := db.notifications.modify id g }

def markFailed (loaded : Notification) (reason : String) (n : Notification) : Notification :=
  { n with
    status := .failed
    attemptCount := loaded.attemptCount + 1
    failureReason := some reason
    nextRetryAt := none }

/-- Failed, to be retried after `60s · 2 ^ attempt`. -/
def retryLater (loaded : Notification) (reason : String) (now : ℕ) (n : Notification) : Notification :=
  { n with
    status := .failed
    attemptCount := loaded.attemptCount + 1
    failureReason := some reason
    nextRetryAt := some (now + 60000 * 2 ^ (loaded.attemptCount + 1)) }

def markDelivered (loaded : Notification) (n : Notification) : Notification :=
  { n with status := .delivered, attemptCount := loaded.attemptCount + 1 }

def markSent (loaded : Notification) (messageId : String) (n : Notification) : Notification :=
  { n with
    status := .sent
    providerMessageId := some messageId
    attemptCount := loaded.attemptCount + 1
    recorded := true }

/-- Mark the notification failed for good and fall back to the next channel, if there is one. -/
def deadLetter (db : Outbox) (id : ℕ) (loaded : Notification) (reason : String) (rest : List (ℕ × Notification)) :
    Outbox × Option Process :=
  (update db id (markFailed loaded reason),
    some ((fallbackChain loaded.channel).elim (.dispatching rest) fun channel => .fallingBack id loaded channel rest))

def handleFailure (db : Outbox) (id : ℕ) (loaded : Notification) (reason : String) (now : ℕ) (rest : List (ℕ × Notification)) :
    Outbox × Option Process :=
  if loaded.maxAttempts ≤ loaded.attemptCount + 1 then deadLetter db id loaded reason rest
  else (update db id (retryLater loaded reason now),some (.dispatching rest))

/-- All up to the call of the provider. -/
def prepare (db : Outbox) (id : ℕ) (loaded : Notification) (input : Input) (rest : List (ℕ × Notification)) :
    Outbox × Option Process :=
  if loaded.channel = .inApp then (update db id (markDelivered loaded),some (.dispatching rest))
  else
    match input.preparation with
    | .noTemplate => deadLetter db id loaded (noTemplateReason loaded.channel) rest
    | .noContact => deadLetter db id loaded (noContactReason loaded.channel) rest
    | .administrativeSkip reason => deadLetter db id loaded reason rest
    | .renderingFails message => handleFailure db id loaded message input.now rest
    | .ready => (db,some (.calling id loaded rest))

/-- The fallback belongs to the chain of the notification, which is drawn if there is none yet. -/
def createFallbackNotification (db : Outbox) (id : ℕ) (original : Notification) (channel : NotificationChannel)
    (drawn : ℕ) (rest : List (ℕ × Notification)) : Outbox × Option Process :=
  match original.chainId with
  | none =>
    (update db id fun n => { n with chainId := some drawn },
      some (.fallingBack id { original with chainId := some drawn } channel rest))
  | some chainId =>
    ({ db with notifications := db.notifications.insert { original with
        channel := channel
        status := if channel = .inApp then .delivered else .queued
        providerMessageId := none
        failureReason := none
        attemptCount := 0
        maxAttempts := 3
        nextRetryAt := none
        chainId := some chainId
        recorded := false } },some (.dispatching rest))

/-! ## Processes -/

def act (db : Outbox) (process : Process) (input : Input) : Outbox × Option Process :=
  match process with
  | .opened (.submit submission) => ({ db with notifications := db.notifications.insert (queuedNotification submission) },none)
  | .opened (.enqueue job) => ({ db with jobs := db.jobs ++ [job] },none)
  | .opened .dispatchQueued => (db,some (dispatchQueued db input.now))
  | .opened .retryFailed => (db,some (retryFailed db input.now))
  | .opened (.delivery job) =>
    (db,if job ∈ db.jobs ∧ input.moduleEnabled = true then some (.dispatching (loadNotifications db job)) else none)
  | .ticking [] => (db,none)
  | .ticking (.clearRetry tenantId ids :: rest) => (clearRetry db tenantId ids,some (.ticking rest))
  | .ticking (.retryGroup tenantId ids :: rest) =>
    if input.moduleEnabled then
      (retryGroup db tenantId ids,
        some (.ticking ((ids.toChunks batchSize).map (fun batch => .add ⟨tenantId,batch,none⟩) ++ rest)))
    else (db,some (.ticking rest))
  | .ticking (.add job :: rest) => ({ db with jobs := db.jobs ++ [job] },some (.ticking rest))
  | .dispatching [] => (db,none)
  | .dispatching ((id,loaded) :: rest) => prepare db id loaded input rest
  | .calling id loaded rest =>
    match input.answer with
    | .ok messageId => (update db id (markSent loaded messageId),some (.dispatching rest))
    | .error message => handleFailure db id loaded message input.now rest
  | .fallingBack id original channel rest => createFallbackNotification db id original channel input.drawnChainId rest

def protocol : Protocol Outbox Process Request Input := ⟨.opened,act⟩

end EduPod.Notifications
