import EduPod.Foundation.Fallible
import EduPod.Foundation.Grouping
import EduPod.Inbox.School

/-! # Who may write to whom

The relational scope of a sender, the policy that decides on a new conversation, and the three ways to
create one.
-/
namespace EduPod.Inbox
open Fallible

/-! ## Relational scope -/

def MessagingRole.isAdminTier : MessagingRole → Bool
  | .owner | .principal | .vicePrincipal => true
  | _ => false

def MessagingRole.isAlwaysReachableStaff : MessagingRole → Bool
  | .office | .finance | .nurse => true
  | _ => false

namespace School
variable (school : School)

def resolveTeacherReachableParentUserIds (teacherUserId : ℕ) : List ℕ :=
  match school.findStaffByUserId teacherUserId with
  | none => []
  | some staff =>
    let classIds := school.findClassIdsByStaff staff.id
    let studentIds := (classIds.flatMap school.findEnrolledStudentIds).dedup
    let parentIds := school.findParentIdsByStudentIds studentIds
    (school.parents.filter fun p => parentIds.contains p.id).filterMap Parent.userId

def resolveParentReachableTeacherUserIds (parentUserId : ℕ) : List ℕ :=
  match school.findParentByUserId parentUserId with
  | none => []
  | some parent =>
    let studentIds := school.findLinkedStudentIds parent.id
    let classIds := school.findClassIdsByStudentIds studentIds
    let staffProfileIds := school.findStaffProfileIdsByClassIds classIds
    (school.staffProfiles.filter fun s => staffProfileIds.contains s.id).map StaffProfile.userId

/-- Whether one recipient is reachable. -/
def canReach (senderUserId : ℕ) (senderRole recipientRole : MessagingRole) (recipientUserId : ℕ) : Bool :=
  if senderRole.isAdminTier || senderRole.isAlwaysReachableStaff || (senderRole = .teacher && recipientRole = .teacher) then
    true
  else if (senderRole = .parent || senderRole = .student) &&
      (recipientRole.isAdminTier || recipientRole.isAlwaysReachableStaff) then
    true
  else if senderRole = .teacher && recipientRole = .parent then
    (school.resolveTeacherReachableParentUserIds senderUserId).contains recipientUserId
  else if senderRole = .parent && recipientRole = .teacher then
    (school.resolveParentReachableTeacherUserIds senderUserId).contains recipientUserId
  else
    -- students have no users of their own yet, and no rule sanctions the other pairs
    false

/-- The unreachable recipients of a batch. -/
def canReachBatch (senderUserId : ℕ) (recipientUserIds : List ℕ) (senderRole recipientRole : MessagingRole) : List ℕ :=
  (recipientUserIds.filter fun id => !school.canReach senderUserId senderRole recipientRole id).dedup

end School

/-! ## The policy -/

/-- A tenant's switches. -/
structure InboxSettings where
  messagingEnabled : Bool
  studentsCanInitiate : Bool
  parentsCanInitiate : Bool
  parentToParentMessaging : Bool
  studentToStudentMessaging : Bool
  studentToParentMessaging : Bool

inductive ConversationKind
  | direct | group | broadcast
  deriving DecidableEq, Repr

inductive PolicyDenialCode
  | messagingDisabledForTenant | studentInitiationDisabled | parentInitiationDisabled | rolePairNotAllowed
  | relationalScopeViolated | parentToParentDisabled | studentToStudentDisabled | studentToParentDisabled
  | unknownSenderRole | unknownRecipientRole
  deriving DecidableEq, Repr

inductive PolicyDecision
  | allowed
  | denied (reason : PolicyDenialCode) (deniedRecipientIds : List ℕ)
  deriving DecidableEq, Repr

/-- What a send sees: the school, its switches, its policy matrix and its saved audiences. -/
structure Tenant where
  school : School
  settings : Option InboxSettings
  matrix : MessagingRole → MessagingRole → Bool
  savedAudiences : ℕ → Option (SavedAudienceRow AudienceProviderKey AudienceParams) := fun _ => none
  /-- `findActiveDirectBetween` finds a thread. -/
  activeDirect : ℕ → ℕ → Bool := fun _ _ => false

namespace Tenant
variable (tenant : Tenant)

/-- The denial of the recipients of one role, if any. -/
def denial (settings : InboxSettings) (senderUserId : ℕ) (senderRole : MessagingRole) (kind : ConversationKind)
    (skipRelationalCheck : Bool) (bucket : MessagingRole × List ℕ) : Option (PolicyDenialCode × List ℕ) :=
  if !tenant.matrix senderRole bucket.1 then some (.rolePairNotAllowed,bucket.2)
  else if senderRole = .parent && bucket.1 = .parent && !settings.parentToParentMessaging then
    some (.parentToParentDisabled,bucket.2)
  else if senderRole = .student && bucket.1 = .student && !settings.studentToStudentMessaging then
    some (.studentToStudentDisabled,bucket.2)
  else if senderRole = .student && bucket.1 = .parent && !settings.studentToParentMessaging then
    some (.studentToParentDisabled,bucket.2)
  else if senderRole.isAdminTier || skipRelationalCheck || kind = .broadcast then none
  else
    let unreachable := tenant.school.canReachBatch senderUserId bucket.2 senderRole bucket.1
    if unreachable ≠ [] then some (.relationalScopeViolated,unreachable) else none

/-- The recipients by role, roles in order of first appearance. -/
def byRecipientRole (recipientUserIds : List ℕ) : List (MessagingRole × List ℕ) :=
  (Grouping.groupBy Prod.fst (recipientUserIds.filterMap fun id =>
    (tenant.school.resolveMessagingRole id).map fun role => (role,id))).map fun g => (g.1,g.2.map Prod.snd)

/-- The first denial gives the reason. -/
def decisionOf : List (PolicyDenialCode × List ℕ) → PolicyDecision
  | [] => .allowed
  | (reason,ids) :: rest => .denied reason (ids ++ rest.flatMap Prod.snd)

def canStartConversation (senderUserId : ℕ) (recipientUserIds : List ℕ) (kind : ConversationKind)
    (skipRelationalCheck : Bool) : PolicyDecision :=
  match tenant.settings with
  | none => .denied .messagingDisabledForTenant []
  | some settings =>
    if !settings.messagingEnabled then .denied .messagingDisabledForTenant []
    else
      match tenant.school.resolveMessagingRole senderUserId with
      | none => .denied .unknownSenderRole []
      | some senderRole =>
        if senderRole = .student && !settings.studentsCanInitiate then .denied .studentInitiationDisabled []
        else if senderRole = .parent && !settings.parentsCanInitiate then .denied .parentInitiationDisabled []
        else if recipientUserIds = [] then .denied .rolePairNotAllowed []
        else
          let unknownRoleRecipients := recipientUserIds.filter fun id => (tenant.school.resolveMessagingRole id).isNone
          if unknownRoleRecipients ≠ [] then .denied .unknownRecipientRole unknownRoleRecipients
          else
            decisionOf ((tenant.byRecipientRole recipientUserIds).filterMap
              (tenant.denial settings senderUserId senderRole kind skipRelationalCheck))

end Tenant

/-! ## Creating conversations -/

inductive SendError
  | cannotMessageSelf | groupSizeOutOfRange | senderInRecipients | duplicateRecipients | subjectInvalid
  | attachmentsInvalid | broadcastNotAllowedForRole | broadcastAudienceEmpty | messageBodyEmpty
  | unknownSenderRole | unknownRecipientRole
  | denied (reason : PolicyDenialCode) (deniedRecipientIds : List ℕ)
  deriving DecidableEq, Repr

structure Participant where
  userId : ℕ
  roleAtJoin : MessagingRole
  unreadCount : ℕ
  deriving DecidableEq, Repr

/-- The message of a send: whether its trimmed body is empty and its attachments pass. -/
structure Draft where
  bodyEmpty : Bool
  attachmentsValid : Bool

structure DirectInput where
  recipientUserId : ℕ
  draft : Draft

/-- `subjectLength` counts the trimmed subject. -/
structure GroupInput where
  recipientUserIds : List ℕ
  subjectLength : ℕ
  draft : Draft

/-- A saved audience wins over a definition. -/
structure BroadcastInput where
  audienceDefinition : Option Audience
  savedAudienceId : Option ℕ
  draft : Draft

def PolicyDecision.denyIfNotAllowed : PolicyDecision → Except SendError PUnit
  | .allowed => .ok ⟨⟩
  | .denied reason ids => .error (.denied reason ids)

/-- The rows of the recipients; each needs a role. -/
@[grind] def recipientRows (school : School) : List ℕ → Except SendError (List Participant)
  | [] => .ok []
  | id :: ids => do
    let role ← require (school.resolveMessagingRole id) .unknownRecipientRole
    let rows ← recipientRows school ids
    .ok (⟨id,role,1⟩ :: rows)

/-- The definition the audience engine answers for. -/
def BroadcastInput.definition (input : BroadcastInput) : Option Audience :=
  match input.savedAudienceId with
  | some id => some (.savedGroup (some id))
  | none => input.audienceDefinition

namespace Tenant
variable (tenant : Tenant)

/-- The participants of the new thread, if it is new; the message counts as unread at once. -/
def createDirect (senderUserId : ℕ) (input : DirectInput) : Except SendError (Option (List Participant)) := do
  ensure (senderUserId ≠ input.recipientUserId) .cannotMessageSelf
  ensure (input.draft.attachmentsValid = true) .attachmentsInvalid
  (tenant.canStartConversation senderUserId [input.recipientUserId] .direct false).denyIfNotAllowed
  let senderRole ← require (tenant.school.resolveMessagingRole senderUserId) .unknownSenderRole
  let recipientRole ← require (tenant.school.resolveMessagingRole input.recipientUserId) .unknownRecipientRole
  ensure (input.draft.bodyEmpty = false) .messageBodyEmpty
  if tenant.activeDirect senderUserId input.recipientUserId then .ok none
  else .ok (some [⟨senderUserId,senderRole,0⟩,⟨input.recipientUserId,recipientRole,1⟩])

def createGroup (senderUserId : ℕ) (input : GroupInput) : Except SendError (List Participant) := do
  ensure (2 ≤ input.recipientUserIds.length ∧ input.recipientUserIds.length ≤ 49) .groupSizeOutOfRange
  ensure (senderUserId ∉ input.recipientUserIds) .senderInRecipients
  ensure (input.recipientUserIds.dedup.length = input.recipientUserIds.length) .duplicateRecipients
  ensure (1 ≤ input.subjectLength ∧ input.subjectLength ≤ 255) .subjectInvalid
  ensure (input.draft.attachmentsValid = true) .attachmentsInvalid
  (tenant.canStartConversation senderUserId input.recipientUserIds .group false).denyIfNotAllowed
  let senderRole ← require (tenant.school.resolveMessagingRole senderUserId) .unknownSenderRole
  let rows ← recipientRows tenant.school input.recipientUserIds
  ensure (input.draft.bodyEmpty = false) .messageBodyEmpty
  .ok (⟨senderUserId,senderRole,0⟩ :: rows)

/-- The policy only drops the recipients of forbidden role pairs; any other denial stops the send. -/
def filterByPolicy (senderUserId : ℕ) (recipients : List ℕ) : Except SendError (List ℕ) :=
  match tenant.canStartConversation senderUserId recipients .broadcast true with
  | .allowed => .ok recipients
  | .denied .rolePairNotAllowed denied =>
    let kept := recipients.filter fun id => !denied.contains id
    if kept = [] then .error .broadcastAudienceEmpty else .ok kept
  | .denied reason denied => .error (.denied reason denied)

/-- `userIds` is what the audience engine has resolved the audience to. -/
def createBroadcast (senderUserId : ℕ) (input : BroadcastInput) (userIds : List ℕ) : Except SendError (List Participant) := do
  let senderRole ← require (tenant.school.resolveMessagingRole senderUserId) .unknownSenderRole
  ensure (senderRole ≠ .parent ∧ senderRole ≠ .student) .broadcastNotAllowedForRole
  ensure (input.draft.attachmentsValid = true) .attachmentsInvalid
  ensure (userIds ≠ []) .broadcastAudienceEmpty
  let recipients ← tenant.filterByPolicy senderUserId (userIds.filter fun id => id ≠ senderUserId)
  let recipients := recipients.filter fun id => (tenant.school.resolveMessagingRole id).isSome
  ensure (recipients ≠ []) .broadcastAudienceEmpty
  let rows ← recipientRows tenant.school recipients
  ensure (input.draft.bodyEmpty = false) .messageBodyEmpty
  .ok (⟨senderUserId,senderRole,0⟩ :: rows)

/-- How the engine starts on an audience, if the request names one that exists. -/
def startAudience (input : BroadcastInput) : Option (Task ProviderError × List ℕ) :=
  let db := tenant.school.directory tenant.savedAudiences
  match input.savedAudienceId with
  | some id => (tenant.savedAudiences id).map fun row => resolveStoredDefinition db row (AUDIENCE_MAX_DEPTH + 1) [id]
  | none => input.audienceDefinition.map (compose db)

/-- The engine may resolve the audience to these users, in some order. -/
def Resolves (input : BroadcastInput) (userIds : List ℕ) : Prop :=
  ∃ start s users, tenant.startAudience input = some start ∧
    Reaches (tenant.school.directory tenant.savedAudiences) start s ∧ s.1.outcome = some (.ok users) ∧
    userIds.Nodup ∧ userIds.toFinset = users

end Tenant

/-- A request for a new conversation. -/
inductive Creation
  | direct (input : DirectInput)
  | group (input : GroupInput)
  | broadcast (input : BroadcastInput)

/-- The request may create a conversation with these participants. -/
def Tenant.Creates (tenant : Tenant) (senderUserId : ℕ) : Creation → List Participant → Prop
  | .direct input, participants => tenant.createDirect senderUserId input = .ok (some participants)
  | .group input, participants => tenant.createGroup senderUserId input = .ok participants
  | .broadcast input, participants => ∃ userIds, tenant.Resolves input userIds ∧
      tenant.createBroadcast senderUserId input userIds = .ok participants

end EduPod.Inbox
