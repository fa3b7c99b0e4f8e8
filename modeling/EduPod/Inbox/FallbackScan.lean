import Mathlib
import EduPod.Foundation.StableSort
import EduPod.Inbox.Conversations
import EduPod.Inbox.School
import EduPod.Notifications.Dispatch

/-! # The scan for unread messages

A scan of a tenant looks at the oldest messages that have not been dispatched yet, notifies those who have unread
messages in their threads on other channels and stamps them. The queue has one worker and a scan is one
transaction, so scans come one after the other.
-/
namespace EduPod.Inbox.FallbackScan
open Conversations Runs
open Notifications (NotificationChannel)

/-- A row of the messages. `position` is its place in the log of its conversation; notices have no sender. -/
structure Message where
  conversationId : ℕ
  senderUserId : Option ℕ
  position : ℕ
  createdAt : ℤ
  disableFallback : Bool
  deleted : Bool
  fallbackDispatched : Bool
  deriving DecidableEq

def Message.stampIf (m : Message) (chosen : Bool) : Message :=
  if chosen then { m with fallbackDispatched := true } else m

/-- A notification the scan has created, and whether its recipient had read the message before. -/
structure FallbackNotification where
  recipientUserId : ℕ
  channel : NotificationChannel
  locale : String
  conversationId : ℕ
  messageId : ℕ
  hadRead : Bool
  deriving DecidableEq

structure Store where
  conversations : Table Conversation
  messages : Table Message
  notifications : List FallbackNotification

structure TenantSettingsInbox where
  messagingEnabled : Bool
  fallbackAdminEnabled : Bool
  fallbackAdminAfterHours : ℤ
  fallbackAdminChannels : List String
  fallbackTeacherEnabled : Bool
  fallbackTeacherAfterHours : ℤ
  fallbackTeacherChannels : List String
  deriving DecidableEq

structure User where
  id : ℕ
  email : Option String
  preferredLocale : Option String

structure ParentPhones where
  userId : Option ℕ
  phone : Option String
  whatsappPhone : Option String

/-- What a scan reads besides the messages and the participants. -/
structure Records where
  settings : Option TenantSettingsInbox
  school : School
  users : List User
  parents : List ParentPhones

/-! ## Channels and contacts -/

/-- `FALLBACK_CHANNEL_SET`: the inbox itself is the source, never a target. -/
def fallbackChannelOf : String → Option NotificationChannel
  | "email" => some .email
  | "sms" => some .sms
  | "whatsapp" => some .whatsapp
  | _ => none

def filterChannels (raw : List String) : List NotificationChannel := raw.eraseDups.filterMap fallbackChannelOf

structure ResolvedContact where
  email : Option String
  phone : Option String
  whatsapp : Option String
  locale : Option String

/-- Of several rows of a parent the last counts. -/
def resolveContact (records : Records) (userId : ℕ) : Option ResolvedContact :=
  (records.users.find? fun u : User => u.id = userId).map fun u =>
    let parent := (records.parents.filter fun p : ParentPhones => p.userId = some userId).getLast?
    ⟨u.email,parent.bind ParentPhones.phone,parent.bind ParentPhones.whatsappPhone,u.preferredLocale⟩

def present (text : Option String) : Bool := text.any fun t => t ≠ ""

def hasContactForChannel (contact : ResolvedContact) : NotificationChannel → Bool
  | .email => present contact.email
  | .sms => present contact.phone
  | .whatsapp => present contact.whatsapp
  | .inApp => false

/-! ## Buckets -/

inductive Bucket
  | admin | teacher
  deriving DecidableEq

/-- Parents and students are never escalated. -/
def bucketOf : MessagingRole → Option Bucket
  | .teacher => some .teacher
  | .owner | .principal | .vicePrincipal | .office | .finance | .nurse => some .admin
  | .parent | .student => none

namespace TenantSettingsInbox
variable (settings : TenantSettingsInbox)

def enabled : Bucket → Bool
  | .admin => settings.fallbackAdminEnabled
  | .teacher => settings.fallbackTeacherEnabled

def channels : Bucket → List NotificationChannel
  | .admin => filterChannels settings.fallbackAdminChannels
  | .teacher => filterChannels settings.fallbackTeacherChannels

def thresholdMs : Bucket → ℤ
  | .admin => settings.fallbackAdminAfterHours * 3600 * 1000
  | .teacher => settings.fallbackTeacherAfterHours * 3600 * 1000

def active (bucket : Bucket) : Bool := settings.enabled bucket && !(settings.channels bucket).isEmpty

def enabledThresholds : List ℤ := ([Bucket.admin,.teacher].filter settings.active).map settings.thresholdMs

end TenantSettingsInbox

/-! ## A scan -/

def SCAN_CHUNK_SIZE : ℕ := 500

namespace Store
variable (db : Store)

/-- Not dispatched, opted out, deleted or in a frozen conversation. -/
def pending (m : Message) : Bool :=
  !m.fallbackDispatched && !m.disableFallback && !m.deleted &&
    (db.conversations.get? m.conversationId).any fun c => !c.frozen

def isCandidate (cutoff : ℤ) (m : Message) : Bool := db.pending m && decide (m.createdAt < cutoff)

def candidates (cutoff : ℤ) : List (ℕ × Message) := db.messages.select (db.isCandidate cutoff)

def older (a b : ℕ × Message) : Prop := a.2.createdAt ≤ b.2.createdAt

instance : DecidableRel older := fun a b => inferInstanceAs (Decidable (a.2.createdAt ≤ b.2.createdAt))

def loadCandidateMessages (cutoff : ℤ) : List (ℕ × Message) :=
  ((db.candidates cutoff).insertionSort older).take SCAN_CHUNK_SIZE

/-- The participants of a conversation with unread messages, each once. -/
def unreadIn (conversationId : ℕ) : List ℕ :=
  ((db.conversations.get? conversationId).elim [] fun c =>
    (c.participants.filter fun p => decide (0 < p.unreadCount)).map ConversationParticipant.userId).dedup

def recipientsOf (m : Message) : List ℕ :=
  (db.unreadIn m.conversationId).filter fun uid => decide (some uid ≠ m.senderUserId)

/-- The user has read the thread or written in it since the message. -/
def hasRead (m : Message) (userId : ℕ) : Bool :=
  (db.conversations.get? m.conversationId).any fun c =>
    (c.log.drop (m.position + 1)).any fun e => e.userId = some userId

def rowsFor (records : Records) (channels : List NotificationChannel) (row : ℕ × Message) : List FallbackNotification :=
  (db.recipientsOf row.2).flatMap fun recipientId => (resolveContact records recipientId).elim [] fun contact =>
    (channels.filter fun channel => hasContactForChannel contact channel).map fun channel =>
      ⟨recipientId,channel,contact.locale.getD "en",row.2.conversationId,row.1,db.hasRead row.2 recipientId⟩

/-- The messages of a bucket that are stamped: none where nobody at all is to be told, and otherwise those in whose
threads anything is unread, if only by the sender. -/
def messagesToStamp (bucket : List (ℕ × Message)) (channels : List NotificationChannel) : List (ℕ × Message) :=
  if bucket.isEmpty || channels.isEmpty || bucket.all fun row => (db.recipientsOf row.2).isEmpty then []
  else bucket.filter fun row => !(db.unreadIn row.2.conversationId).isEmpty

def dispatchBucket (records : Records) (bucket : List (ℕ × Message)) (channels : List NotificationChannel) : Store :=
  let stamped := db.messagesToStamp bucket channels
  { db with
    notifications := db.notifications ++ stamped.flatMap (db.rowsFor records channels)
    messages := db.messages.mapRows fun id m => m.stampIf ((stamped.map Prod.fst).contains id) }

end Store

def senderBucket (records : Records) (m : Message) : Option Bucket :=
  (m.senderUserId.bind records.school.resolveMessagingRole).bind bucketOf

def due (records : Records) (settings : TenantSettingsInbox) (now : ℤ) (bucket : Bucket) (m : Message) : Bool :=
  senderBucket records m = some bucket && settings.active bucket &&
    decide (settings.thresholdMs bucket ≤ now - m.createdAt)

def bucketRows (records : Records) (settings : TenantSettingsInbox) (now : ℤ) (candidates : List (ℕ × Message))
    (bucket : Bucket) : List (ℕ × Message) :=
  candidates.filter fun row => due records settings now bucket row.2

/-- The settings of a scan that comes as far as its query, and the smaller of the thresholds in use. -/
def started (records : Records) : Option (TenantSettingsInbox × ℤ) :=
  records.settings.bind fun settings =>
    if !settings.messagingEnabled then none
    else if !settings.fallbackAdminEnabled && !settings.fallbackTeacherEnabled then none
    else settings.enabledThresholds.min?.map fun minThresholdMs => (settings,minThresholdMs)

def scanTenant (records : Records) (now : ℤ) (db : Store) : Store :=
  match started records with
  | none => db
  | some (settings,minThresholdMs) =>
    let candidates := db.loadCandidateMessages (now - minThresholdMs)
    let afterAdmin := db.dispatchBucket records (bucketRows records settings now candidates .admin)
      (settings.channels .admin)
    afterAdmin.dispatchBucket records (bucketRows records settings now candidates .teacher) (settings.channels .teacher)

/-! ## What has to hold -/

/-- A message that somebody else has not read, of a bucket in use, and older than the bucket's threshold. -/
def eligible (records : Records) (now : ℤ) (db : Store) (m : Message) : Bool :=
  (records.settings.any fun settings => settings.messagingEnabled && (senderBucket records m).any fun bucket =>
    settings.active bucket && decide (settings.thresholdMs bucket < now - m.createdAt)) &&
  db.pending m && !(db.recipientsOf m).isEmpty

def eligibleRows (records : Records) (now : ℤ) (db : Store) : List (ℕ × Message) :=
  db.messages.select (eligible records now db)

def isStamped (db : Store) (id : ℕ) : Bool := (db.messages.get? id).any Message.fallbackDispatched

/-- If there are eligible messages, a scan stamps one. -/
def Progresses (records : Records) (now : ℤ) (db : Store) : Prop :=
  eligibleRows records now db ≠ [] → ∃ row ∈ eligibleRows records now db, isStamped (scanTenant records now db) row.1

/-- How many candidates, eligible or not, come before a message. -/
def waitingBefore (records : Records) (now : ℤ) (db : Store) (row : ℕ × Message) : ℕ :=
  (started records).elim 0 fun s =>
    let candidates := db.candidates (now - s.2)
    (candidates.filter fun a => StableSort.Precedes Store.older candidates a row).length

/-- If there are eligible messages, one of them is among the oldest candidates. -/
def Reached (records : Records) (now : ℤ) (db : Store) : Prop :=
  eligibleRows records now db ≠ [] →
    ∃ row ∈ eligibleRows records now db, waitingBefore records now db row < SCAN_CHUNK_SIZE

/-! ## What a scan stamps -/

instance : IsTrans (ℕ × Message) Store.older := ⟨fun _ _ _ hab hbc => Int.le_trans hab hbc⟩

instance : Std.Total Store.older := ⟨fun a b => le_total a.2.createdAt b.2.createdAt⟩

theorem stampIf_stampIf (m : Message) (a b : Bool) : (m.stampIf a).stampIf b = m.stampIf (a || b) := by
  cases a <;> cases b <;> rfl

@[simp] theorem fallbackDispatched_stampIf (m : Message) (a : Bool) :
    (m.stampIf a).fallbackDispatched = (a || m.fallbackDispatched) := by
  cases a <;> rfl

section
variable {db : Store} {records : Records} {now : ℤ} {bucket : List (ℕ × Message)} {channels : List NotificationChannel}

theorem messagesToStamp_subset : db.messagesToStamp bucket channels ⊆ bucket := by
  intro row h
  unfold Store.messagesToStamp at h
  split at h
  · cases h
  · exact (List.mem_filter.mp h).1

/-- Whom a message is for has unread messages in its thread. -/
theorem unreadIn_ne_nil {m : Message} (h : db.recipientsOf m ≠ []) : db.unreadIn m.conversationId ≠ [] := by
  intro hnone
  rw [Store.recipientsOf,hnone] at h
  exact h rfl

/-- One message with recipients is enough for the bucket not to be left at once. -/
theorem mem_messagesToStamp {row : ℕ × Message} (hrow : row ∈ bucket) (hchannels : channels ≠ [])
    (h : db.recipientsOf row.2 ≠ []) : row ∈ db.messagesToStamp bucket channels := by
  have hsome : (bucket.all fun row => (db.recipientsOf row.2).isEmpty) = false := by
    refine List.all_eq_false.mpr ⟨row,hrow,?_⟩
    simpa using h
  have hbucket : bucket ≠ [] := List.ne_nil_of_mem hrow
  unfold Store.messagesToStamp
  rw [if_neg (by simp [hbucket,hchannels,hsome])]
  refine List.mem_filter.mpr ⟨hrow,?_⟩
  simpa using unreadIn_ne_nil h

end

/-- Everything that a scan stamps. -/
def stampedBy (records : Records) (now : ℤ) (db : Store) : List (ℕ × Message) :=
  (started records).elim [] fun s =>
    let candidates := db.loadCandidateMessages (now - s.2)
    db.messagesToStamp (bucketRows records s.1 now candidates .admin) (s.1.channels .admin) ++
      db.messagesToStamp (bucketRows records s.1 now candidates .teacher) (s.1.channels .teacher)

section
variable {db : Store} {records : Records} {now : ℤ}

theorem conversations_scanTenant (records : Records) (now : ℤ) (db : Store) :
    (scanTenant records now db).conversations = db.conversations := by
  unfold scanTenant
  split <;> rfl

theorem messages_scanTenant (records : Records) (now : ℤ) (db : Store) :
    (scanTenant records now db).messages = db.messages.mapRows fun id m =>
      m.stampIf (((stampedBy records now db).map Prod.fst).contains id) := by
  unfold scanTenant stampedBy
  cases hstart : started records with
  | none => exact (Table.mapRows_eq_self fun r _ => rfl).symm
  | some s =>
    dsimp only [Option.elim_some]
    rw [Store.dispatchBucket,Store.dispatchBucket]
    dsimp only
    rw [Table.mapRows_mapRows]
    apply Table.mapRows_congr
    intro r _
    rw [stampIf_stampIf,List.map_append,List.contains_append]
    rfl

theorem stampedBy_eq {s : TenantSettingsInbox × ℤ} (hs : started records = some s) :
    stampedBy records now db =
      db.messagesToStamp (bucketRows records s.1 now (db.loadCandidateMessages (now - s.2)) .admin)
          (s.1.channels .admin) ++
        db.messagesToStamp (bucketRows records s.1 now (db.loadCandidateMessages (now - s.2)) .teacher)
          (s.1.channels .teacher) := by
  rw [stampedBy,hs]
  rfl

/-- What is stamped was loaded. -/
theorem mem_loaded_of_stamped {row : ℕ × Message} (h : row ∈ stampedBy records now db) :
    ∃ s, started records = some s ∧ row ∈ db.loadCandidateMessages (now - s.2) := by
  cases hs : started records with
  | none =>
    rw [stampedBy,hs] at h
    cases h
  | some s =>
    refine ⟨s,rfl,?_⟩
    rw [stampedBy_eq hs] at h
    rcases List.mem_append.mp h with h | h
    · exact List.mem_of_mem_filter (messagesToStamp_subset h)
    · exact List.mem_of_mem_filter (messagesToStamp_subset h)

theorem mem_loadCandidateMessages_iff {cutoff : ℤ} {row : ℕ × Message} :
    row ∈ db.loadCandidateMessages cutoff ↔ row ∈ db.candidates cutoff ∧
      ((db.candidates cutoff).filter fun a => StableSort.Precedes Store.older (db.candidates cutoff) a row).length <
        SCAN_CHUNK_SIZE := by
  have hnodup : (db.candidates cutoff).Nodup := List.Nodup.of_map Prod.fst (Table.nodup_select _ _)
  constructor
  · intro h
    have hmem : row ∈ db.candidates cutoff := (List.mem_insertionSort _).mp (List.mem_of_mem_take h)
    exact ⟨hmem,(StableSort.mem_take_insertionSort_iff hnodup hmem _).mp h⟩
  · rintro ⟨hmem,hplace⟩
    exact (StableSort.mem_take_insertionSort_iff hnodup hmem _).mpr hplace

/-- A row of the table is stamped if its id is. -/
theorem mem_map_stampedBy_iff {row : ℕ × Message} (hrow : row ∈ db.messages.rows) :
    row.1 ∈ (stampedBy records now db).map Prod.fst ↔ row ∈ stampedBy records now db := by
  refine ⟨fun h => ?_,List.mem_map_of_mem⟩
  obtain ⟨other,hother,hid⟩ := List.mem_map.mp h
  obtain ⟨s,-,hloaded⟩ := mem_loaded_of_stamped hother
  have hmem := (List.mem_filter.mp (mem_loadCandidateMessages_iff.mp hloaded).1).1
  rwa [← Table.row_unique hmem hrow hid]

theorem isStamped_scanTenant {row : ℕ × Message} (hrow : row ∈ db.messages.rows) :
    isStamped (scanTenant records now db) row.1 = true ↔
      row.2.fallbackDispatched = true ∨ row ∈ stampedBy records now db := by
  rw [isStamped,messages_scanTenant,Table.get?_mapRows,Table.get?_of_row hrow,Option.map_some,Option.any_some,
    fallbackDispatched_stampIf,Bool.or_eq_true,List.contains_iff_mem,mem_map_stampedBy_iff hrow,or_comm]

/-- The thresholds in use are those of the active buckets. -/
theorem mem_enabledThresholds {settings : TenantSettingsInbox} {b : Bucket} (h : settings.active b = true) :
    settings.thresholdMs b ∈ settings.enabledThresholds := by
  refine List.mem_map_of_mem (List.mem_filter.mpr ⟨?_,h⟩)
  cases b <;> simp

/-- Where a bucket is in use, a scan comes as far as its query, with a threshold that is no larger. -/
theorem exists_started {settings : TenantSettingsInbox} {b : Bucket} (hsettings : records.settings = some settings)
    (hmessaging : settings.messagingEnabled = true) (h : settings.active b = true) :
    ∃ minThresholdMs, started records = some (settings,minThresholdMs) ∧ minThresholdMs ≤ settings.thresholdMs b := by
  have henabled : ¬((!settings.fallbackAdminEnabled && !settings.fallbackTeacherEnabled) = true) := by
    have hb : settings.enabled b = true := (Bool.and_eq_true_iff.mp h).1
    cases b with
    | admin => simp [show settings.fallbackAdminEnabled = true from hb]
    | teacher => simp [show settings.fallbackTeacherEnabled = true from hb]
  obtain ⟨least,hleast⟩ := Option.isSome_iff_exists.mp (List.isSome_min?_of_mem (mem_enabledThresholds h))
  refine ⟨least,?_,(List.min?_eq_some_iff.mp hleast).2 _ (mem_enabledThresholds h)⟩
  rw [started,hsettings,Option.bind_some,if_neg (by simp [hmessaging]),if_neg henabled,hleast]
  rfl

/-- What makes a message eligible. -/
theorem eligible_iff {m : Message} : eligible records now db m = true ↔
    (∃ settings b, records.settings = some settings ∧ settings.messagingEnabled = true ∧
      senderBucket records m = some b ∧ settings.active b = true ∧ settings.thresholdMs b < now - m.createdAt) ∧
    db.pending m = true ∧ db.recipientsOf m ≠ [] := by
  cases hsettings : records.settings with
  | none => simp [eligible,hsettings]
  | some settings =>
    cases hb : senderBucket records m with
    | none => simp [eligible,hsettings,hb]
    | some b =>
      simp [eligible,hsettings,hb,and_assoc]

/-- An eligible message is a candidate, and a scan that loads it stamps it. -/
theorem stamped_iff_of_eligible {row : ℕ × Message} (h : row ∈ eligibleRows records now db) :
    row ∈ stampedBy records now db ↔ waitingBefore records now db row < SCAN_CHUNK_SIZE := by
  obtain ⟨hrow,heligible⟩ := List.mem_filter.mp h
  obtain ⟨⟨settings,b,hsettings,hmessaging,hb,hactive,hage⟩,hpending,hrecipients⟩ := eligible_iff.mp heligible
  obtain ⟨least,hstart,hle⟩ := exists_started hsettings hmessaging hactive
  have hcandidate : row ∈ db.candidates (now - least) := by
    refine List.mem_filter.mpr ⟨hrow,Bool.and_eq_true_iff.mpr ⟨hpending,decide_eq_true ?_⟩⟩
    omega
  have hplace : waitingBefore records now db row < SCAN_CHUNK_SIZE ↔ row ∈ db.loadCandidateMessages (now - least) := by
    rw [mem_loadCandidateMessages_iff,and_iff_right hcandidate,waitingBefore,hstart]
    rfl
  rw [hplace]
  constructor
  · intro hstamped
    obtain ⟨s,hs,hloaded⟩ := mem_loaded_of_stamped hstamped
    obtain rfl := Option.some.inj (hs.symm.trans hstart)
    exact hloaded
  · intro hloaded
    have hdue : due records settings now b row.2 = true := by
      simp [due,hb,hactive,hage.le]
    have hbucket : row ∈ bucketRows records settings now (db.loadCandidateMessages (now - least)) b :=
      List.mem_filter.mpr ⟨hloaded,hdue⟩
    have hchannels : settings.channels b ≠ [] := by
      simpa using (Bool.and_eq_true_iff.mp hactive).2
    have hstamped := mem_messagesToStamp hbucket hchannels hrecipients
    rw [stampedBy_eq hstart]
    cases b with
    | admin => exact List.mem_append_left _ hstamped
    | teacher => exact List.mem_append_right _ hstamped

/-- Nothing but the oldest candidates is ever looked at. -/
theorem progresses_iff_reached (records : Records) (now : ℤ) (db : Store) :
    Progresses records now db ↔ Reached records now db := by
  refine imp_congr_right fun _ => exists_congr fun row => and_congr_right fun h => ?_
  obtain ⟨hrow,heligible⟩ := List.mem_filter.mp h
  have hpending := (eligible_iff.mp heligible).2.1
  have hunstamped : ¬row.2.fallbackDispatched = true := by
    simp only [Store.pending,Bool.and_eq_true,Bool.not_eq_true'] at hpending
    simp [hpending.1.1.1]
  rw [isStamped_scanTenant hrow,or_iff_right hunstamped,stamped_iff_of_eligible h]

/-! ## Draining -/

theorem eligible_scanTenant (later : ℤ) :
    eligible records later (scanTenant records now db) = eligible records later db := by
  funext m
  simp only [eligible,Store.pending,Store.recipientsOf,Store.unreadIn,conversations_scanTenant]

theorem eligible_stampIf (m : Message) (chosen : Bool) :
    eligible records now db (m.stampIf chosen) = (eligible records now db m && !chosen) := by
  cases chosen with
  | false => rw [Bool.not_false,Bool.and_true]; rfl
  | true => simp [eligible,Store.pending]

/-- A scan takes what it stamps from the eligible messages and leaves the others as they are. -/
theorem eligibleRows_scanTenant (later : ℤ) : eligibleRows records later (scanTenant records now db) =
    (eligibleRows records later db).filter fun row => !((stampedBy records now db).map Prod.fst).contains row.1 := by
  simp only [eligibleRows,Table.select,eligible_scanTenant,messages_scanTenant,Table.mapRows,List.filter_map,
    List.filter_filter,Function.comp_def]
  have hsame : ∀ row ∈ db.messages.rows.filter fun row =>
      !((stampedBy records now db).map Prod.fst).contains row.1 && eligible records later db row.2,
      (row.1,row.2.stampIf (((stampedBy records now db).map Prod.fst).contains row.1)) = row := by
    intro row hrow
    have hnot := (Bool.and_eq_true_iff.mp (List.mem_filter.mp hrow).2).1
    rw [Bool.not_eq_true'] at hnot
    rw [hnot]
    rfl
  have hkept : ∀ row : ℕ × Message,
      eligible records later db (row.2.stampIf (((stampedBy records now db).map Prod.fst).contains row.1)) =
        (!((stampedBy records now db).map Prod.fst).contains row.1 && eligible records later db row.2) := by
    intro row
    rw [eligible_stampIf,Bool.and_comm]
  rw [List.filter_congr fun row _ => hkept row]
  exact (List.map_congr_left hsame).trans (List.map_id _)

/-- What is eligible stays so as time goes by. -/
theorem eligibleRows_mono {later : ℤ} (h : now ≤ later) :
    eligibleRows records now db ⊆ eligibleRows records later db := by
  intro row hrow
  obtain ⟨hmem,heligible⟩ := List.mem_filter.mp hrow
  obtain ⟨⟨settings,b,hsettings,hmessaging,hb,hactive,hage⟩,hrest⟩ := eligible_iff.mp heligible
  refine List.mem_filter.mpr ⟨hmem,eligible_iff.mpr ⟨⟨settings,b,hsettings,hmessaging,hb,hactive,?_⟩,hrest⟩⟩
  omega

end

def scans (records : Records) (times : List ℤ) (db : Store) : Store :=
  times.foldl (fun db now => scanTenant records now db) db

theorem eligibleRows_scans_subset (records : Records) (now : ℤ) (times : List ℤ) (db : Store) :
    eligibleRows records now (scans records times db) ⊆ eligibleRows records now db := by
  induction times generalizing db with
  | nil => exact List.Subset.refl _
  | cons t times ih =>
    have hrest : eligibleRows records now (scans records times (scanTenant records t db)) ⊆ _ :=
      ih (scanTenant records t db)
    rw [eligibleRows_scanTenant] at hrest
    exact List.Subset.trans hrest (List.filter_subset_self _)

/-- As long as something is eligible, each scan that gets at an eligible message takes one. -/
theorem length_lt_of_eligible {records : Records} {first last : ℤ} (hfirst : first ≤ last) {times : List ℤ} {db : Store}
    (hbetween : ∀ now ∈ times, first ≤ now ∧ now ≤ last)
    (hreached : Guarded (fun db now => scanTenant records now db) (fun db now => Reached records now db) db times)
    (h : eligibleRows records first (scans records times db) ≠ []) :
    times.length < (eligibleRows records last db).length := by
  induction times generalizing db with
  | nil =>
    obtain ⟨row,hrow⟩ := List.exists_mem_of_ne_nil _ h
    exact List.length_pos_of_mem (eligibleRows_mono hfirst hrow)
  | cons now times ih =>
    obtain ⟨hnow,hbetween⟩ := List.forall_mem_cons.mp hbetween
    have hrest : times.length < (eligibleRows records last (scanTenant records now db)).length :=
      ih hbetween hreached.2 h
    obtain ⟨left,hleft⟩ := List.exists_mem_of_ne_nil _ h
    have hsome : eligibleRows records now db ≠ [] :=
      List.ne_nil_of_mem (eligibleRows_mono hnow.1 (eligibleRows_scans_subset records first (now :: times) db hleft))
    obtain ⟨row,hrow,hwaiting⟩ := hreached.1 hsome
    have hstamped := (stamped_iff_of_eligible hrow).mpr hwaiting
    have hfewer : (eligibleRows records last (scanTenant records now db)).length <
        (eligibleRows records last db).length := by
      rw [eligibleRows_scanTenant]
      refine List.length_filter_lt_length_iff_exists.mpr ⟨row,eligibleRows_mono hnow.2 hrow,?_⟩
      rw [List.contains_iff_mem.mpr (List.mem_map_of_mem hstamped)]
      exact Bool.false_ne_true
    rw [List.length_cons]
    omega

theorem isStamped_scanTenant_of {records : Records} {db : Store} {id : ℕ} (now : ℤ) (h : isStamped db id = true) :
    isStamped (scanTenant records now db) id = true := by
  unfold isStamped at h ⊢
  rw [messages_scanTenant,Table.get?_mapRows]
  cases hm : db.messages.get? id with
  | none =>
    rw [hm] at h
    cases h
  | some m =>
    rw [hm,Option.any_some] at h
    rw [Option.map_some,Option.any_some,fallbackDispatched_stampIf,h,Bool.or_true]

theorem isStamped_scans_of {records : Records} {id : ℕ} {times : List ℤ} {db : Store} (h : isStamped db id = true) :
    isStamped (scans records times db) id = true := by
  induction times generalizing db with
  | nil => exact h
  | cons now times ih => exact ih (isStamped_scanTenant_of now h)

/-- What does not stay eligible has been stamped. -/
theorem stamped_or_eligible_scans {records : Records} {now : ℤ} {row : ℕ × Message} (times : List ℤ) {db : Store}
    (h : row ∈ eligibleRows records now db) :
    isStamped (scans records times db) row.1 = true ∨ row ∈ eligibleRows records now (scans records times db) := by
  induction times generalizing db with
  | nil => exact .inr h
  | cons t times ih =>
    have hrow := (List.mem_filter.mp h).1
    by_cases hstamped : row ∈ stampedBy records t db
    · have hscan := (isStamped_scanTenant hrow).mpr (.inr hstamped)
      have hend : isStamped (scans records times (scanTenant records t db)) row.1 = true := isStamped_scans_of hscan
      exact .inl hend
    · apply ih
      rw [eligibleRows_scanTenant]
      refine List.mem_filter.mpr ⟨h,?_⟩
      rw [Bool.not_eq_true',Bool.eq_false_iff,ne_eq,List.contains_iff_mem,mem_map_stampedBy_iff hrow]
      exact hstamped

/-- As many scans as there are messages that are eligible by the last of them, each getting at one that is eligible
at its time, drain what was eligible at first. -/
theorem drained {records : Records} {first last : ℤ} (hfirst : first ≤ last) {times : List ℤ} {db : Store}
    (hbetween : ∀ now ∈ times, first ≤ now ∧ now ≤ last)
    (hreached : Guarded (fun db now => scanTenant records now db) (fun db now => Reached records now db) db times)
    (hmany : (eligibleRows records last db).length ≤ times.length) {row : ℕ × Message}
    (hrow : row ∈ eligibleRows records first db) : isStamped (scans records times db) row.1 = true := by
  refine (stamped_or_eligible_scans times hrow).resolve_right fun hleft => ?_
  have hlt := length_lt_of_eligible hfirst hbetween hreached (List.ne_nil_of_mem hleft)
  omega

/-- A scan makes progress exactly where one of the eligible messages is among the oldest candidates, and scans that
all do drain what is eligible. -/
theorem progresses_iff (records : Records) :
    (∀ now db, Progresses records now db ↔ Reached records now db) ∧
      ∀ first last times db, first ≤ last → (∀ now ∈ times, first ≤ now ∧ now ≤ last) →
        Guarded (fun db now => scanTenant records now db) (fun db now => Reached records now db) db times →
        (eligibleRows records last db).length ≤ times.length →
        ∀ row ∈ eligibleRows records first db, isStamped (scans records times db) row.1 = true :=
  ⟨progresses_iff_reached records,fun _ _ _ _ hfirst hbetween hreached hmany _ hrow =>
    drained hfirst hbetween hreached hmany hrow⟩

/-! ## A thread of parents' messages -/

theorem le_waitingBefore {records : Records} {s : TenantSettingsInbox × ℤ} (hs : started records = some s) (now : ℤ)
    (db : Store) (row : ℕ × Message) :
    ((db.candidates (now - s.2)).filter fun a => decide (a.2.createdAt < row.2.createdAt)).length ≤
      waitingBefore records now db row := by
  rw [waitingBefore,hs]
  refine (List.monotone_filter_right _ fun a ha => ?_).length_le
  have hlt : a.2.createdAt < row.2.createdAt := of_decide_eq_true ha
  exact decide_eq_true ⟨hlt.le,fun hle => absurd hle (Int.not_le.mpr hlt)⟩

/-- Teachers' messages that nobody reads are escalated by email after three hours. -/
def teacherRecords : Records where
  settings := some ⟨true,false,24,[],true,3,["email"]⟩
  school :=
    { memberships := [⟨1,true,["parent"]⟩,⟨2,true,["teacher"]⟩]
      staffProfiles := []
      classStaff := []
      classEnrolments := []
      studentParents := []
      parents := [] }
  users := [⟨1,some "parent@school",none⟩,⟨2,some "teacher@school",none⟩]
  parents := []

def answeredMessages : List Message :=
  (List.range 500).map (fun k => ⟨0,some 1,k,0,false,false,false⟩) ++ [⟨0,some 2,500,1,false,false,false⟩]

/-- Five hundred messages of a parent that the teacher has answered once. -/
def answeredThread : Store where
  conversations := Table.empty.insert ⟨.direct,none,1,true,false,[⟨1,1,false⟩,⟨2,0,false⟩],
    List.replicate 500 (.message (some 1)) ++ [.message (some 2)]⟩
  messages := Table.empty.insertAll answeredMessages
  notifications := []

theorem rows_answeredThread : answeredThread.messages.rows = (answeredMessages.zipIdx 0).map Prod.swap :=
  (Table.rows_insertAll Table.empty answeredMessages).trans (List.nil_append _)

/-- All messages but the last are the parent's, and five hundred candidates are older than that. -/
theorem answeredThread_spec : (∀ row ∈ answeredThread.messages.rows,
      row.2.senderUserId = some 1 ∨ row = (500,⟨0,some 2,500,1,false,false,false⟩)) ∧
    (500,⟨0,some 2,500,1,false,false,false⟩) ∈ answeredThread.messages.rows ∧
    ((answeredThread.candidates (86400000 - 10800000)).filter fun a => decide (a.2.createdAt < 1)).length = 500 := by
  rw [Store.candidates,Table.select,rows_answeredThread]
  exact ⟨by decide +kernel,by decide +kernel,by decide +kernel⟩

/-- Nobody escalates a parent's message, and the five hundred of them are all that a scan looks at. -/
theorem not_progresses : ¬ ∀ (records : Records) (now : ℤ) (db : Store), Progresses records now db := by
  intro h
  have hreached := (progresses_iff_reached _ _ _).mp (h teacherRecords 86400000 answeredThread)
  have hstart : started teacherRecords = some (⟨true,false,24,[],true,3,["email"]⟩,10800000) := by decide
  have hteacher : (500,⟨0,some 2,500,1,false,false,false⟩) ∈ eligibleRows teacherRecords 86400000 answeredThread :=
    List.mem_filter.mpr ⟨answeredThread_spec.2.1,by decide⟩
  obtain ⟨row,hrow,hwaiting⟩ := hreached (List.ne_nil_of_mem hteacher)
  obtain ⟨hmem,heligible⟩ := List.mem_filter.mp hrow
  rcases answeredThread_spec.1 row hmem with hparent | rfl
  · obtain ⟨⟨settings,b,-,-,hb,-⟩,-⟩ := eligible_iff.mp heligible
    have hnone : senderBucket teacherRecords row.2 = none := by
      rw [senderBucket,hparent]
      decide
    rw [hnone] at hb
    cases hb
  · have hmany := le_waitingBefore hstart 86400000 answeredThread (500,⟨0,some 2,500,1,false,false,false⟩)
    rw [answeredThread_spec.2.2] at hmany
    exact absurd hwaiting (Nat.not_lt.mpr hmany)

/-- One unread message of a teacher. -/
def unreadThread : Store where
  conversations := Table.empty.insert ⟨.direct,none,2,true,false,[⟨2,0,false⟩,⟨1,1,false⟩],[.message (some 2)]⟩
  messages := Table.empty.insert ⟨0,some 2,0,0,false,false,false⟩
  notifications := []

theorem progresses_iff_unreadThread :
    (Progresses teacherRecords 86400000 unreadThread ↔ Reached teacherRecords 86400000 unreadThread) ∧
      isStamped (scans teacherRecords [86400000] unreadThread) 0 = true := by
  have h := progresses_iff teacherRecords
  refine ⟨h.1 86400000 unreadThread,?_⟩
  refine h.2 86400000 86400000 [86400000] unreadThread (le_refl _) (by decide) ⟨fun _ => ?_,trivial⟩ (by decide)
    (0,⟨0,some 2,0,0,false,false,false⟩) (by decide)
  exact ⟨(0,⟨0,some 2,0,0,false,false,false⟩),by decide,by decide⟩

end EduPod.Inbox.FallbackScan
