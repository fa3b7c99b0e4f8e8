import Mathlib
import EduPod.Foundation.TableBulk
import EduPod.Inbox.FallbackScan

/-! # Fallback notifications and what has been read

Messages are written and read by requests that run at the same time, and scans come in between. A scan takes a
participant whose thread has anything unread for one who has not read the message at hand.
-/
namespace EduPod.Inbox.FallbackReads
open Conversations FallbackScan Processes Runs
open Notifications (NotificationChannel)

inductive Request
  | thread (request : Conversations.Request)
  | deleteMessage (messageId : ℕ)
  | scan

inductive Process
  | thread (process : Conversations.Process)
  | deleting (messageId : ℕ)
  | scanning

structure Input where
  answer : Conversations.Input
  disableFallback : Bool
  now : ℤ
  records : Records

/-- The row of a message in a log. Notices are not opted out. -/
def messageAt (conversationId : ℕ) (input : Input) (entry : Entry × ℕ) : Option Message :=
  match entry.1 with
  | .message sender => some ⟨conversationId,sender,entry.2,input.now,sender.isSome && input.disableFallback,false,false⟩
  | .read _ => none

/-- The rows of the messages that an action has added to the logs. -/
def written (before after : Table Conversation) (input : Input) : List Message :=
  after.rows.flatMap fun row =>
    (row.2.log.zipIdx.drop ((before.get? row.1).elim 0 fun c => c.log.length)).filterMap (messageAt row.1 input)

def act (db : Store) (process : Process) (input : Input) : Store × Option Process :=
  match process with
  | .thread process =>
    let acted := Conversations.act db.conversations process input.answer
    ({ db with
       conversations := acted.1
       messages := db.messages.insertAll (written db.conversations acted.1 input) },acted.2.map .thread)
  | .deleting messageId =>
    (if input.answer.permitted then
      { db with messages := db.messages.modify messageId fun m => { m with deleted := true } } else db,none)
  | .scanning => (scanTenant input.records input.now db,none)

def opened : Request → Process
  | .thread request => .thread (.opened request)
  | .deleteMessage messageId => .deleting messageId
  | .scan => .scanning

def protocol : Protocol Store Process Request Input := ⟨opened,act⟩

def emptyStore : Store := ⟨Table.empty,Table.empty,[]⟩

/-! ## What has to hold -/

/-- Each notification is for a participant other than the sender who had not read the message, and there is at most
one for a message, recipient and channel. -/
structure Correct (db : Store) : Prop where
  addressed : ∀ n ∈ db.notifications, ∃ m c, db.messages.get? n.messageId = some m ∧
    db.conversations.get? m.conversationId = some c ∧ n.recipientUserId ∈ c.users ∧
    some n.recipientUserId ≠ m.senderUserId
  unread : ∀ n ∈ db.notifications, n.hadRead = false
  once : (db.notifications.map fun n => (n.messageId,n.recipientUserId,n.channel)).Nodup

/-- The messages of others that follow a place in a log. -/
def laterMessages (log : List Entry) (position userId : ℕ) : ℕ :=
  (log.drop (position + 1)).countP fun e => e.isMessage && e.userId.any fun sender => sender ≠ userId

def reachable (records : Records) (channels : List NotificationChannel) (userId : ℕ) : Bool :=
  (resolveContact records userId).any fun contact => channels.any fun channel => hasContactForChannel contact channel

/-- The counter of each participant that a message is escalated to counts more than the messages after it. -/
def Covers (records : Records) (now : ℤ) (db : Store) : Prop :=
  ∀ s, started records = some s → ∀ b, ∀ row ∈ bucketRows records s.1 now (db.loadCandidateMessages (now - s.2)) b,
    ∀ c, db.conversations.get? row.2.conversationId = some c → ∀ p ∈ c.participants, 0 < p.unreadCount →
      some p.userId ≠ row.2.senderUserId → reachable records (s.1.channels b) p.userId = true →
      laterMessages c.log row.2.position p.userId < p.unreadCount

def Covered (db : Store) (process : Process) (input : Input) : Prop :=
  match process with
  | .scanning => Covers input.records input.now db
  | _ => True

/-! ## Counters and reads -/

/-- The thread without its notices. -/
def tacit (c : Conversation) : Conversation := { c with log := c.log.filter fun e => e.userId.isSome }

section
variable (c : Conversation) (user creator : ℕ) (flag : Bool)

theorem tacit_sent : tacit (c.sent user flag) = (tacit c).sent user flag := by
  simp [tacit,Conversation.sent,Entry.userId]

theorem tacit_answered : tacit (c.answered user creator) = (tacit c).answered user creator := by
  simp [tacit,Conversation.answered,Entry.userId]

theorem tacit_readBy : tacit (c.readBy user) = (tacit c).readBy user := by
  simp [tacit,Conversation.readBy,Entry.userId]

theorem counted_tacit_setFrozen {c : Conversation} (h : (tacit c).Counted) : (tacit (c.setFrozen flag)).Counted := by
  unfold Conversation.setFrozen
  split
  · exact h
  · intro p hp
    have hlog : (c.log ++ [Entry.message none]).filter (fun e => e.userId.isSome) = (tacit c).log := by
      simp [tacit,Entry.userId]
    change _ = unreadSince ((c.log ++ [Entry.message none]).filter fun e => e.userId.isSome) _
    rw [hlog]
    exact h p hp

end

/-- Without notices, the counter of a thread exceeds what came after a message of another exactly as long as the user
has neither read the thread nor written in it since. -/
theorem unreadSince_le_iff {before after : List Entry} {sender user : ℕ} (hne : sender ≠ user)
    (hafter : ∀ e ∈ after, e.userId.isSome = true) :
    unreadSince (before ++ .message (some sender) :: after) user ≤
        after.countP (fun e => e.isMessage && e.userId.any fun s => s ≠ user) ↔
      ∃ e ∈ after, e.userId = some user := by
  rw [unreadSince,List.reverse_append,List.reverse_cons,List.append_assoc,List.singleton_append]
  constructor
  · intro hle
    by_contra hnone
    have hothers : ∀ e ∈ after.reverse, decide (e.userId ≠ some user) = true := fun e he =>
      decide_eq_true fun heq => hnone ⟨e,List.mem_reverse.mp he,heq⟩
    have hself : decide ((Entry.message (some sender)).userId ≠ some user) = true := by simp [Entry.userId,hne]
    rw [List.takeWhile_append_of_pos hothers,
      List.takeWhile_cons_of_pos (p := fun e : Entry => decide (e.userId ≠ some user)) hself,List.countP_append,
      List.countP_cons_of_pos (p := Entry.isMessage) rfl,List.countP_reverse] at hle
    have hfewer : after.countP (fun e => e.isMessage && e.userId.any fun s => s ≠ user) ≤
        after.countP Entry.isMessage :=
      List.countP_mono_left fun e _ he => (Bool.and_eq_true_iff.mp he).1
    omega
  · rintro ⟨e,he,heq⟩
    have hstops : ¬(after.reverse.takeWhile fun e => decide (e.userId ≠ some user)).length = after.reverse.length := by
      intro hlength
      have hall := List.takeWhile_eq_self_iff.mp ((List.takeWhile_prefix _).eq_of_length hlength)
      exact of_decide_eq_true (hall e (List.mem_reverse.mpr he)) heq
    rw [List.takeWhile_append,if_neg hstops,← List.countP_reverse (l := after)]
    have hcounted : ∀ a ∈ after.reverse.takeWhile (fun e => decide (e.userId ≠ some user)), a.isMessage = true →
        (a.isMessage && a.userId.any fun s => s ≠ user) = true := by
      intro a ha hmessage
      have hother : a.userId ≠ some user := of_decide_eq_true
        (List.mem_takeWhile_imp (p := fun e : Entry => decide (e.userId ≠ some user)) ha)
      have hmem : a ∈ after := List.mem_reverse.mp ((List.takeWhile_sublist _).subset ha)
      obtain ⟨s,hs⟩ := Option.isSome_iff_exists.mp (hafter a hmem)
      rw [hs] at hother
      rw [hmessage,hs,Bool.true_and,Option.any_some]
      exact decide_eq_true fun h => hother (congrArg some h)
    exact (List.countP_mono_left hcounted).trans ((List.takeWhile_sublist _).countP_le)

/-- The counter covers a message exactly as long as the participant has neither read the thread nor written in it. -/
theorem later_lt_unreadCount_iff {c : Conversation} (h : (tacit c).Counted) {p : ConversationParticipant}
    (hp : p ∈ c.participants) {position sender : ℕ} (hmessage : c.log[position]? = some (.message (some sender)))
    (hne : sender ≠ p.userId) : laterMessages c.log position p.userId < p.unreadCount ↔
      ((c.log.drop (position + 1)).any fun e => e.userId = some p.userId) = false := by
  obtain ⟨hlt,hentry⟩ := List.getElem?_eq_some_iff.mp hmessage
  have hlog : (tacit c).log = (c.log.take position).filter (fun e => e.userId.isSome) ++
      .message (some sender) :: (c.log.drop (position + 1)).filter fun e => e.userId.isSome := by
    conv_lhs => rw [tacit,← List.take_append_drop position c.log,List.drop_eq_getElem_cons hlt,hentry]
    rw [List.filter_append,List.filter_cons_of_pos rfl]
  have hlater : ((c.log.drop (position + 1)).filter fun e => e.userId.isSome).countP
      (fun e => e.isMessage && e.userId.any fun s => s ≠ p.userId) = laterMessages c.log position p.userId := by
    rw [List.countP_filter,laterMessages]
    apply List.countP_congr
    intro e _
    cases e.userId <;> simp
  have hafter : ∀ e ∈ (c.log.drop (position + 1)).filter fun e => e.userId.isSome, e.userId.isSome = true :=
    fun e he => (List.mem_filter.mp he).2
  have hiff := @unreadSince_le_iff ((c.log.take position).filter fun e => e.userId.isSome) _ _ _ hne hafter
  rw [hlater,← hlog,← h p hp] at hiff
  rw [← Nat.not_le,hiff,List.any_eq_false]
  constructor
  · intro hnone e he heq
    have huser : e.userId = some p.userId := of_decide_eq_true heq
    exact hnone ⟨e,List.mem_filter.mpr ⟨he,by rw [huser]; rfl⟩,huser⟩
  · rintro hnone ⟨e,he,huser⟩
    exact hnone e (List.mem_filter.mp he).1 (decide_eq_true huser)

/-! ## What requests keep -/

theorem counted_tacit_act {db : Table Conversation} {process : Conversations.Process}
    (h : db.All fun c => (tacit c).Counted) (hk : Known db process) (input : Conversations.Input) :
    (Conversations.act db process input).1.All fun c => (tacit c).Counted := by
  have hmodify : ∀ i (g : Conversation → Conversation),
      (∀ c, db.get? i = some c → (tacit c).Counted → (tacit (g c)).Counted) →
      (db.modify i g).All fun c => (tacit c).Counted := fun i g hg => h.modify fun c hc => hg c hc (h.get? hc)
  cases process with
  | opened request =>
    cases request with
    | createDirect s r => exact h
    | createGroup s recipients =>
      rw [Conversations.act]
      split
      · exact h.insert (counted_newConversation (‹_ ∧ _› : _ ∧ _ ∧ s ∉ recipients ∧ _).2.2.1)
      · exact h
    | createBroadcast s userIds allowReplies =>
      rw [Conversations.act]
      split
      · exact h.insert (counted_newConversation (s := s) (by simp))
      · exact h
    | sendReply s i => exact h
    | getThread user i => exact h
    | markRead user i => exact h
    | markAllRead user =>
      intro r hr
      obtain ⟨q,hq,rfl⟩ := Table.mem_mapRows.mp hr
      dsimp only
      split
      · rw [tacit_readBy]
        exact counted_readBy (h q hq)
      · exact h q hq
    | setArchived user i archived => exact hmodify i _ fun c _ hc => counted_setArchived hc archived
    | setFrozen i frozen => exact hmodify i _ fun c _ hc => counted_tacit_setFrozen frozen hc
  | startingDirect s r existing =>
    cases existing with
    | none =>
      refine h.insert ?_
      rw [tacit_sent]
      exact counted_sent (counted_newConversation_zero .direct none s true [r]) true
    | some i =>
      refine hmodify i _ fun c _ hc => ?_
      rw [tacit_sent]
      exact counted_sent hc true
  | replying s i =>
    refine hmodify i _ fun c _ hc => ?_
    rw [tacit_sent]
    exact counted_sent hc false
  | answering s b creator => exact h
  | spawning s b creator existing =>
    cases existing with
    | none =>
      refine h.insert ?_
      rw [tacit_answered]
      apply counted_answered (counted_newConversation_zero .direct (some b) s true [creator]) hk.1
      intro u hu
      simpa [Conversation.users,newConversation] using hu
    | some i =>
      obtain ⟨c,hget,-,husers⟩ := hk.2 i rfl
      refine hmodify i _ fun a ha hc => ?_
      obtain rfl := Option.some.inj (ha.symm.trans hget)
      rw [tacit_answered]
      exact counted_answered hc hk.1 husers
  | reading user i =>
    refine hmodify i _ fun c _ hc => ?_
    rw [tacit_readBy]
    exact counted_readBy hc

theorem respects_prefix : Respects fun c c' => c.log <+: c'.log where
  refl := fun c => List.prefix_refl c.log
  sent := fun c _ _ => List.prefix_append c.log _
  answered := fun c _ _ => List.prefix_append c.log _
  readBy := fun c _ => List.prefix_append c.log _
  setArchived := fun c _ _ => List.prefix_refl c.log
  setFrozen := by
    intro c flag
    unfold Conversation.setFrozen
    split
    · exact List.prefix_refl c.log
    · exact List.prefix_append c.log _

/-- A row that an action adds is of a message in the log. -/
theorem logged_of_written {before after : Table Conversation} {input : Input} {m : Message}
    (h : m ∈ written before after input) :
    ∃ c, after.get? m.conversationId = some c ∧ c.log[m.position]? = some (.message m.senderUserId) := by
  obtain ⟨row,hrow,hm⟩ := List.mem_flatMap.mp h
  obtain ⟨⟨entry,position⟩,hentry,hm⟩ := List.mem_filterMap.mp hm
  have hlog : row.2.log[position]? = some entry := List.mem_zipIdx_iff_getElem?.mp (List.drop_subset _ _ hentry)
  cases entry with
  | read user => cases hm
  | message sender =>
    obtain rfl := Option.some.inj hm
    exact ⟨row.2,Table.get?_of_row hrow,hlog⟩

/-! ## What a scan creates -/

section
variable (db : Store) (records : Records) (now : ℤ)

/-- The notifications for a bucket of a scan with given settings and threshold. -/
def createdFor (s : TenantSettingsInbox × ℤ) (b : Bucket) : List FallbackNotification :=
  (db.messagesToStamp (bucketRows records s.1 now (db.loadCandidateMessages (now - s.2)) b) (s.1.channels b)).flatMap
    (db.rowsFor records (s.1.channels b))

theorem notifications_scanTenant : (scanTenant records now db).notifications =
    db.notifications ++ (started records).elim [] fun s =>
      createdFor db records now s .admin ++ createdFor db records now s .teacher := by
  unfold scanTenant
  cases started records with
  | none => exact (List.append_nil _).symm
  | some s => exact List.append_assoc _ _ _

variable {db records now}

theorem mem_rowsFor_iff {channels : List NotificationChannel} {row : ℕ × Message} {n : FallbackNotification} :
    n ∈ db.rowsFor records channels row ↔ n.recipientUserId ∈ db.recipientsOf row.2 ∧
      n.messageId = row.1 ∧ n.conversationId = row.2.conversationId ∧ n.hadRead = db.hasRead row.2 n.recipientUserId ∧
      ∃ contact, resolveContact records n.recipientUserId = some contact ∧ n.locale = contact.locale.getD "en" ∧
        n.channel ∈ channels ∧ hasContactForChannel contact n.channel = true := by
  rw [Store.rowsFor,List.mem_flatMap]
  constructor
  · rintro ⟨uid,huid,hn⟩
    cases hcontact : resolveContact records uid with
    | none =>
      rw [hcontact] at hn
      cases hn
    | some contact =>
      rw [hcontact,Option.elim_some] at hn
      obtain ⟨channel,hchannel,rfl⟩ := List.mem_map.mp hn
      exact ⟨huid,rfl,rfl,rfl,contact,hcontact,rfl,List.mem_filter.mp hchannel⟩
  · rintro ⟨huid,hid,hconversation,hread,contact,hcontact,hlocale,hchannel⟩
    refine ⟨n.recipientUserId,huid,?_⟩
    rw [hcontact,Option.elim_some]
    refine List.mem_map.mpr ⟨n.channel,List.mem_filter.mpr hchannel,?_⟩
    rw [← hid,← hconversation,← hread,← hlocale]

theorem mem_recipientsOf_iff {m : Message} {userId : ℕ} : userId ∈ db.recipientsOf m ↔
    (∃ c, db.conversations.get? m.conversationId = some c ∧
      ∃ p ∈ c.participants, p.userId = userId ∧ 0 < p.unreadCount) ∧ some userId ≠ m.senderUserId := by
  rw [Store.recipientsOf,List.mem_filter,decide_eq_true_iff,Store.unreadIn,List.mem_dedup]
  refine and_congr_left fun _ => ?_
  cases db.conversations.get? m.conversationId with
  | none => simp
  | some c =>
    rw [Option.elim_some,List.mem_map]
    constructor
    · rintro ⟨p,hp,huser⟩
      obtain ⟨hmem,hcount⟩ := List.mem_filter.mp hp
      exact ⟨c,rfl,p,hmem,huser,of_decide_eq_true hcount⟩
    · rintro ⟨c',hc',p,hmem,huser,hcount⟩
      obtain rfl := Option.some.inj hc'
      exact ⟨p,List.mem_filter.mpr ⟨hmem,decide_eq_true hcount⟩,huser⟩

/-- What is due has been loaded: a row of the messages, not yet dispatched, of a sender with a role. -/
theorem due_row {cutoff : ℤ} {settings : TenantSettingsInbox} {b : Bucket} {row : ℕ × Message}
    (h : row ∈ bucketRows records settings now (db.loadCandidateMessages cutoff) b) :
    db.messages.get? row.1 = some row.2 ∧ row.2.fallbackDispatched = false ∧ senderBucket records row.2 = some b ∧
      ∃ sender, row.2.senderUserId = some sender := by
  obtain ⟨hloaded,hdue⟩ := List.mem_filter.mp h
  obtain ⟨hrow,hcandidate⟩ := List.mem_filter.mp (mem_loadCandidateMessages_iff.mp hloaded).1
  have hbucket : senderBucket records row.2 = some b := by
    simp only [due,Bool.and_eq_true] at hdue
    exact of_decide_eq_true hdue.1.1
  refine ⟨Table.get?_of_row hrow,?_,hbucket,?_⟩
  · simp only [Store.isCandidate,Store.pending,Bool.and_eq_true,Bool.not_eq_true'] at hcandidate
    exact hcandidate.1.1.1.1
  · cases hsender : row.2.senderUserId with
    | none =>
      rw [senderBucket,hsender] at hbucket
      cases hbucket
    | some sender => exact ⟨sender,rfl⟩

end

/-! ## Once for each message, recipient and channel -/

section
variable {db : Store} {records : Records} {now : ℤ}

def key (n : FallbackNotification) : ℕ × ℕ × NotificationChannel := (n.messageId,n.recipientUserId,n.channel)

theorem nodup_filterChannels (raw : List String) : (filterChannels raw).Nodup := by
  refine (Grouping.nodup_eraseDups raw).filterMap ?_
  intro a b channel ha hb
  unfold fallbackChannelOf at ha hb
  split at ha <;> split at hb <;> cases ha <;> cases hb <;> rfl

theorem nodup_channels (settings : TenantSettingsInbox) (b : Bucket) : (settings.channels b).Nodup := by
  cases b <;> exact nodup_filterChannels _

theorem nodup_keys_rowsFor {channels : List NotificationChannel} (h : channels.Nodup) (row : ℕ × Message) :
    ((db.rowsFor records channels row).map key).Nodup := by
  rw [Store.rowsFor,List.map_flatMap,List.nodup_flatMap]
  constructor
  · intro uid _
    cases resolveContact records uid with
    | none => exact List.nodup_nil
    | some contact =>
      rw [Option.elim_some,List.map_map]
      refine (h.filter _).map fun x y hxy => ?_
      have hkeys : (row.1,uid,x) = (row.1,uid,y) := hxy
      exact (Prod.mk.inj (Prod.mk.inj hkeys).2).2
  · have hrecipients : (db.recipientsOf row.2).Nodup := (List.nodup_dedup _).filter _
    refine hrecipients.imp fun {u v} hne k hu hv => hne ?_
    have huser : ∀ {uid}, k ∈ ((resolveContact records uid).elim [] fun contact =>
        (channels.filter fun channel => hasContactForChannel contact channel).map fun channel =>
          (⟨uid,channel,contact.locale.getD "en",row.2.conversationId,row.1,db.hasRead row.2 uid⟩ :
            FallbackNotification)).map key → k.2.1 = uid := by
      intro uid hk
      obtain ⟨n,hn,rfl⟩ := List.mem_map.mp hk
      cases hcontact : resolveContact records uid with
      | none =>
        rw [hcontact] at hn
        cases hn
      | some contact =>
        rw [hcontact] at hn
        obtain ⟨channel,-,rfl⟩ := List.mem_map.mp hn
        rfl
    exact (huser hu).symm.trans (huser hv)

theorem nodup_loaded (cutoff : ℤ) : ((db.loadCandidateMessages cutoff).map Prod.fst).Nodup := by
  have hsorted : (((db.candidates cutoff).insertionSort Store.older).map Prod.fst).Nodup :=
    ((List.perm_insertionSort _ _).map Prod.fst).nodup_iff.mpr (Table.nodup_select _ _)
  exact ((List.take_sublist _ _).map Prod.fst).nodup hsorted

theorem sublist_messagesToStamp (bucket : List (ℕ × Message)) (channels : List NotificationChannel) :
    (db.messagesToStamp bucket channels).Sublist bucket := by
  unfold Store.messagesToStamp
  split
  · exact List.nil_sublist _
  · exact List.filter_sublist

theorem messageId_of_createdFor {s : TenantSettingsInbox × ℤ} {b : Bucket} {n : FallbackNotification}
    (h : n ∈ createdFor db records now s b) :
    ∃ row ∈ db.messagesToStamp (bucketRows records s.1 now (db.loadCandidateMessages (now - s.2)) b) (s.1.channels b),
      n ∈ db.rowsFor records (s.1.channels b) row ∧ n.messageId = row.1 := by
  obtain ⟨row,hrow,hn⟩ := List.mem_flatMap.mp h
  exact ⟨row,hrow,hn,(mem_rowsFor_iff.mp hn).2.1⟩

theorem nodup_createdFor (s : TenantSettingsInbox × ℤ) (b : Bucket) :
    ((createdFor db records now s b).map key).Nodup := by
  rw [createdFor,List.map_flatMap,List.nodup_flatMap]
  refine ⟨fun row _ => nodup_keys_rowsFor (nodup_channels s.1 b) row,?_⟩
  have hids : ((db.messagesToStamp (bucketRows records s.1 now (db.loadCandidateMessages (now - s.2)) b)
      (s.1.channels b)).map Prod.fst).Nodup :=
    (((sublist_messagesToStamp _ _).trans List.filter_sublist).map Prod.fst).nodup (nodup_loaded _)
  refine (List.pairwise_map.mp hids).imp fun {r q} hne k hr hq => hne ?_
  obtain ⟨n,hn,rfl⟩ := List.mem_map.mp hr
  obtain ⟨n',hn',hkey⟩ := List.mem_map.mp hq
  have hsame : n'.messageId = n.messageId := (Prod.mk.inj hkey).1
  rw [(mem_rowsFor_iff.mp hn).2.1,(mem_rowsFor_iff.mp hn').2.1] at hsame
  exact hsame.symm

/-- A sender has one role, so a message is in one bucket. -/
theorem disjoint_createdFor (s : TenantSettingsInbox × ℤ) :
    List.Disjoint ((createdFor db records now s .admin).map key) ((createdFor db records now s .teacher).map key) := by
  intro k hadmin hteacher
  obtain ⟨n,hn,rfl⟩ := List.mem_map.mp hadmin
  obtain ⟨n',hn',hkey⟩ := List.mem_map.mp hteacher
  obtain ⟨row,hrow,-,hid⟩ := messageId_of_createdFor hn
  obtain ⟨row',hrow',-,hid'⟩ := messageId_of_createdFor hn'
  have hdue := due_row (messagesToStamp_subset hrow)
  have hdue' := due_row (messagesToStamp_subset hrow')
  have hsame : row'.1 = row.1 := by rw [← hid,← hid']; exact (Prod.mk.inj hkey).1
  have hmessage : row.2 = row'.2 := Option.some.inj (by rw [← hdue.1,← hdue'.1,hsame])
  have hbuckets : some Bucket.admin = some Bucket.teacher := by
    rw [← hdue.2.2.1,← hdue'.2.2.1,hmessage]
  cases hbuckets

end

/-! ## What every action keeps -/

structure Invariant (db : Store) : Prop where
  proper : db.conversations.All Proper
  counted : db.conversations.All fun c => (tacit c).Counted
  logged : ∀ r ∈ db.messages.rows, ∃ c, db.conversations.get? r.2.conversationId = some c ∧
    c.log[r.2.position]? = some (.message r.2.senderUserId)
  addressed : ∀ n ∈ db.notifications, ∃ m c, db.messages.get? n.messageId = some m ∧ m.fallbackDispatched = true ∧
    db.conversations.get? m.conversationId = some c ∧ n.recipientUserId ∈ c.users ∧
    some n.recipientUserId ≠ m.senderUserId
  once : (db.notifications.map key).Nodup

def Knows (db : Store) : Process → Prop
  | .thread process => Known db.conversations process
  | _ => True

theorem invariant_emptyStore : Invariant emptyStore :=
  ⟨Table.all_empty _,Table.all_empty _,fun _ h => (by cases h),fun _ h => (by cases h),List.nodup_nil⟩

section
variable {db : Store} {input : Input}

theorem invariant_thread {process : Conversations.Process} (h : Invariant db) (hk : Known db.conversations process) :
    Invariant (act db (.thread process) input).1 := by
  have hlogs := related_act respects_prefix db.conversations process input.answer
  have halike := retains_act db.conversations process input.answer
  refine ⟨proper_act h.proper hk _,counted_tacit_act h.counted hk _,?_,?_,h.once⟩
  · intro r hr
    have hsome := Table.get?_of_row hr
    rcases Table.get?_insertAll_cases hsome with hold | ⟨-,hnew⟩
    · obtain ⟨c,hc,hlog⟩ := h.logged _ (Table.mem_of_get? hold)
      obtain ⟨c',hc',hextends⟩ := hlogs _ c hc
      obtain ⟨hlt,hentry⟩ := List.getElem?_eq_some_iff.mp hlog
      exact ⟨c',hc',hentry ▸ List.prefix_iff_getElem?.mp hextends _ hlt⟩
    · exact logged_of_written hnew
  · intro n hn
    obtain ⟨m,c,hm,hstamped,hc,huser,hsender⟩ := h.addressed n hn
    obtain ⟨c',hc',hcolumns⟩ := halike _ c hc
    exact ⟨m,c',Table.get?_insertAll_of_some hm _,hstamped,hc',hcolumns.users ▸ huser,hsender⟩

/-- A message stays the one it was, and stays dispatched if it has been. -/
structure Stays (m m' : Message) : Prop where
  conversationId : m'.conversationId = m.conversationId
  senderUserId : m'.senderUserId = m.senderUserId
  position : m'.position = m.position
  fallbackDispatched : m.fallbackDispatched = true → m'.fallbackDispatched = true

theorem invariant_messages (h : Invariant db) {f : ℕ → Message → Message} (hf : ∀ id m, Stays m (f id m)) :
    Invariant { db with messages := db.messages.mapRows f } := by
  refine ⟨h.proper,h.counted,fun r hr => ?_,fun n hn => ?_,h.once⟩
  · obtain ⟨q,hq,rfl⟩ := Table.mem_mapRows.mp hr
    have hstays := hf q.1 q.2
    dsimp only
    rw [hstays.conversationId,hstays.senderUserId,hstays.position]
    exact h.logged q hq
  · obtain ⟨m,c,hm,hstamped,hrest⟩ := h.addressed n hn
    have hstays := hf n.messageId m
    refine ⟨f n.messageId m,c,?_,hstays.fallbackDispatched hstamped,?_⟩
    · rw [Table.get?_mapRows,hm]
      rfl
    · rw [hstays.conversationId,hstays.senderUserId]
      exact hrest

theorem invariant_deleting (h : Invariant db) (messageId : ℕ) : Invariant (act db (.deleting messageId) input).1 := by
  rw [act]
  dsimp only
  split
  · rw [Table.modify_eq_mapRows]
    refine invariant_messages h fun _ m => ?_
    split
    · exact ⟨rfl,rfl,rfl,id⟩
    · exact ⟨rfl,rfl,rfl,id⟩
  · exact h

theorem stays_stampIf (m : Message) (chosen : Bool) : Stays m (m.stampIf chosen) := by
  cases chosen
  · exact ⟨rfl,rfl,rfl,id⟩
  · exact ⟨rfl,rfl,rfl,fun _ => rfl⟩

/-- The message of a new notification was not dispatched before and is now, and its recipient is another participant
with unread messages in the thread. -/
theorem created_row {records : Records} {now : ℤ} {s : TenantSettingsInbox × ℤ} (hs : started records = some s)
    {b : Bucket} {n : FallbackNotification} (hn : n ∈ createdFor db records now s b) :
    ∃ m, db.messages.get? n.messageId = some m ∧ m.fallbackDispatched = false ∧
      (scanTenant records now db).messages.get? n.messageId = some (m.stampIf true) ∧
      n.recipientUserId ∈ db.recipientsOf m := by
  obtain ⟨row,hrow,hmem,hid⟩ := messageId_of_createdFor hn
  have hdue := due_row (messagesToStamp_subset hrow)
  have hstamped : row ∈ stampedBy records now db := by
    rw [stampedBy_eq hs]
    cases b with
    | admin => exact List.mem_append_left _ hrow
    | teacher => exact List.mem_append_right _ hrow
  refine ⟨row.2,hid ▸ hdue.1,hdue.2.1,?_,(mem_rowsFor_iff.mp hmem).1⟩
  rw [hid,messages_scanTenant,Table.get?_mapRows,hdue.1,Option.map_some,
    List.contains_iff_mem.mpr (List.mem_map_of_mem hstamped)]

/-- Nobody is told again about a message that has been dispatched. -/
theorem invariant_scanTenant (h : Invariant db) (records : Records) (now : ℤ) :
    Invariant (scanTenant records now db) := by
  cases hs : started records with
  | none =>
    have hsame : scanTenant records now db = db := by rw [scanTenant,hs]
    rwa [hsame]
  | some s =>
    have hstamps := invariant_messages h
      (f := fun id m => m.stampIf (((stampedBy records now db).map Prod.fst).contains id)) fun _ m => stays_stampIf m _
    rw [← messages_scanTenant records now db] at hstamps
    have hconversations := conversations_scanTenant records now db
    have hnotifications := notifications_scanTenant db records now
    rw [hs,Option.elim_some] at hnotifications
    have hnew : ∀ n ∈ createdFor db records now s .admin ++ createdFor db records now s .teacher,
        ∃ b, n ∈ createdFor db records now s b := by
      intro n hn
      rcases List.mem_append.mp hn with hn | hn
      · exact ⟨.admin,hn⟩
      · exact ⟨.teacher,hn⟩
    refine ⟨hconversations ▸ hstamps.proper,hconversations ▸ hstamps.counted,hconversations ▸ hstamps.logged,?_,?_⟩
    · rw [hnotifications,hconversations]
      intro n hn
      rcases List.mem_append.mp hn with hold | hn
      · exact hstamps.addressed n hold
      · obtain ⟨b,hn⟩ := hnew n hn
        obtain ⟨m,-,-,hget,hrecipient⟩ := created_row hs hn
        obtain ⟨⟨c,hc,p,hp,huser,-⟩,hsender⟩ := mem_recipientsOf_iff.mp hrecipient
        exact ⟨m.stampIf true,c,hget,rfl,hc,List.mem_map.mpr ⟨p,hp,huser⟩,hsender⟩
    · rw [hnotifications,List.map_append,List.map_append,List.nodup_append]
      refine ⟨h.once,List.nodup_append.mpr ⟨nodup_createdFor s .admin,nodup_createdFor s .teacher,
        fun _ ha _ hb heq => disjoint_createdFor s ha (heq ▸ hb)⟩,fun k hold k' hk heq => ?_⟩
      rw [← heq,← List.map_append] at hk
      obtain ⟨n,hn,rfl⟩ := List.mem_map.mp hold
      obtain ⟨n',hn',hkey⟩ := List.mem_map.mp hk
      obtain ⟨b,hn'⟩ := hnew n' hn'
      obtain ⟨m,-,hm,hstamped,-⟩ := h.addressed n hn
      obtain ⟨m',hm',hfresh,-⟩ := created_row hs hn'
      have hid : n'.messageId = n.messageId := (Prod.mk.inj hkey).1
      rw [hid,hm] at hm'
      obtain rfl := Option.some.inj hm'
      rw [hstamped] at hfresh
      cases hfresh

end

theorem kept_invariant : Kept protocol Invariant Knows where
  opened := by
    intro _ request _
    cases request <;> trivial
  store := by
    intro db process input h hk
    cases process with
    | thread process => exact invariant_thread h hk
    | deleting messageId => exact invariant_deleting h messageId
    | scanning => exact invariant_scanTenant h input.records input.now
  own := by
    intro db process input next _ hk hnext
    cases process with
    | thread process =>
      obtain ⟨q,hq,rfl⟩ := Option.map_eq_some_iff.mp hnext
      exact known_own hk hq
    | deleting messageId => cases hnext
    | scanning => cases hnext
  others := by
    intro db process input other _ _ hother
    cases other with
    | thread other =>
      cases process with
      | thread process => exact hother.of_retains (retains_act db.conversations process input.answer)
      | deleting messageId =>
        have hsame : (act db (.deleting messageId) input).1.conversations = db.conversations := by
          rw [act]
          dsimp only
          split <;> rfl
        change Known (act db (.deleting messageId) input).1.conversations other
        rwa [hsame]
      | scanning =>
        change Known (scanTenant input.records input.now db).conversations other
        rwa [conversations_scanTenant]
    | deleting messageId => trivial
    | scanning => trivial

/-! ## Which scans take the right ones -/

section
variable {db : Store}

theorem Invariant.correct_iff_unread (h : Invariant db) : Correct db ↔ ∀ n ∈ db.notifications, n.hadRead = false := by
  refine ⟨Correct.unread,fun hunread => ⟨fun n hn => ?_,hunread,h.once⟩⟩
  obtain ⟨m,c,hm,-,hrest⟩ := h.addressed n hn
  exact ⟨m,c,hm,hrest⟩

/-- For a message that is due, the code's counter decides whether a participant has read it. -/
theorem hasRead_eq_false_iff (h : Invariant db) {row : ℕ × Message} {sender : ℕ}
    (hrow : db.messages.get? row.1 = some row.2) (hsender : row.2.senderUserId = some sender) {c : Conversation}
    (hc : db.conversations.get? row.2.conversationId = some c) {p : ConversationParticipant} (hp : p ∈ c.participants)
    (hne : some p.userId ≠ row.2.senderUserId) :
    db.hasRead row.2 p.userId = false ↔ laterMessages c.log row.2.position p.userId < p.unreadCount := by
  obtain ⟨c',hc',hlog⟩ := h.logged row (Table.mem_of_get? hrow)
  obtain rfl := Option.some.inj (hc'.symm.trans hc)
  rw [hsender] at hlog hne
  have hother : sender ≠ p.userId := fun heq => hne (congrArg some heq.symm)
  rw [later_lt_unreadCount_iff (h.counted.get? hc) hp hlog hother,Store.hasRead,hc]
  rfl

theorem unread_scanTenant_iff (h : Invariant db) (hunread : ∀ n ∈ db.notifications, n.hadRead = false)
    (records : Records) (now : ℤ) :
    (∀ n ∈ (scanTenant records now db).notifications, n.hadRead = false) ↔ Covers records now db := by
  rw [notifications_scanTenant]
  constructor
  · intro hall s hs b row hrow c hc p hp hcount hne hreach
    obtain ⟨hget,-,-,sender,hsender⟩ := due_row hrow
    refine (hasRead_eq_false_iff h hget hsender hc hp hne).mp ?_
    obtain ⟨contact,hcontact,hchannels⟩ := (Option.any_eq_true _ _).mp hreach
    obtain ⟨channel,hchannel,hhas⟩ := List.any_eq_true.mp hchannels
    have hrecipient : p.userId ∈ db.recipientsOf row.2 := mem_recipientsOf_iff.mpr ⟨⟨c,hc,p,hp,rfl,hcount⟩,hne⟩
    have hstamp := mem_messagesToStamp hrow (List.ne_nil_of_mem hchannel) (List.ne_nil_of_mem hrecipient)
    have hcreated : ⟨p.userId,channel,contact.locale.getD "en",row.2.conversationId,row.1,db.hasRead row.2 p.userId⟩ ∈
        createdFor db records now s b := List.mem_flatMap.mpr ⟨row,hstamp,mem_rowsFor_iff.mpr
      ⟨hrecipient,rfl,rfl,rfl,contact,hcontact,rfl,hchannel,hhas⟩⟩
    have hnew := hall ⟨p.userId,channel,contact.locale.getD "en",row.2.conversationId,row.1,db.hasRead row.2 p.userId⟩
    refine hnew (List.mem_append_right _ ?_)
    rw [hs,Option.elim_some]
    cases b with
    | admin => exact List.mem_append_left _ hcreated
    | teacher => exact List.mem_append_right _ hcreated
  · intro hcovers n hn
    rcases List.mem_append.mp hn with hold | hn
    · exact hunread n hold
    · cases hs : started records with
      | none =>
        rw [hs] at hn
        cases hn
      | some s =>
        rw [hs,Option.elim_some] at hn
        have hbucket : ∃ b, n ∈ createdFor db records now s b :=
          (List.mem_append.mp hn).elim (fun hn => ⟨.admin,hn⟩) fun hn => ⟨.teacher,hn⟩
        obtain ⟨b,hn⟩ := hbucket
        obtain ⟨row,hrow,hmem,hid⟩ := messageId_of_createdFor hn
        have hdue := messagesToStamp_subset hrow
        obtain ⟨hget,-,-,sender,hsender⟩ := due_row hdue
        obtain ⟨hrecipient,-,-,hread,contact,hcontact,-,hchannel,hhas⟩ := mem_rowsFor_iff.mp hmem
        obtain ⟨⟨c,hc,p,hp,huser,hcount⟩,hne⟩ := mem_recipientsOf_iff.mp hrecipient
        rw [hread,← huser]
        rw [← huser] at hne
        refine (hasRead_eq_false_iff h hget hsender hc hp hne).mpr (hcovers s hs b row hdue c hc p hp hcount hne ?_)
        rw [reachable,huser,hcontact,Option.any_some]
        exact List.any_eq_true.mpr ⟨n.channel,hchannel,hhas⟩

end

theorem correct_act_iff {db : Store} {process : Process} (h : Invariant db) (hk : Knows db process)
    (hcorrect : Correct db) (input : Input) : Correct (act db process input).1 ↔ Covered db process input := by
  have hnext : Invariant (act db process input).1 := kept_invariant.store db process input h hk
  rw [hnext.correct_iff_unread]
  cases process with
  | thread process => exact iff_of_true hcorrect.unread trivial
  | deleting messageId =>
    refine iff_of_true ?_ trivial
    have hsame : (act db (.deleting messageId) input).1.notifications = db.notifications := by
      rw [act]
      dsimp only
      split <;> rfl
    rw [hsame]
    exact hcorrect.unread
  | scanning => exact unread_scanTenant_iff h hcorrect.unread input.records input.now

/-- Exactly the histories in whose scans the counters cover the messages that are escalated notify only those who have
not read the message. -/
theorem correct_iff (events : List (Event Request Input)) :
    (∀ st ∈ trace (step protocol) (State.idle emptyStore) events, Correct st.store) ↔
      Guarded (step protocol) (AtAct Covered) (State.idle emptyStore) events :=
  trace_iff_atAct kept_invariant (fun _ _ input h hk hcorrect => correct_act_iff h hk hcorrect input)
    invariant_emptyStore ⟨fun _ h => (by cases h),fun _ h => (by cases h),List.nodup_nil⟩ events

/-- A teacher writes to a parent, who reads the message, and writes again. A scan then takes the first message for
unread. -/
def readThenWritten : List (Event Request Input) :=
  let at_ (now : ℤ) : Input := ⟨⟨true,0⟩,false,now,teacherRecords⟩
  [.start (.thread (.createDirect 2 1)),.act 0 (at_ 0),.act 0 (at_ 0),
    .start (.thread (.markRead 1 0)),.act 1 (at_ 1),.act 1 (at_ 1),
    .start (.thread (.sendReply 2 0)),.act 2 (at_ 2),.act 2 (at_ 2),
    .start .scan,.act 3 (at_ 86400000)]

theorem not_correct : ¬ ∀ events : List (Event Request Input),
    ∀ st ∈ trace (step protocol) (State.idle emptyStore) events, Correct st.store := by
  intro h
  have hlast := (h readThenWritten _ (foldl_mem_trace _ _)).unread
  have hread : ∃ n ∈ (readThenWritten.foldl (step protocol) (State.idle emptyStore)).store.notifications,
      n.hadRead = true := by
    decide +kernel
  obtain ⟨n,hn,htrue⟩ := hread
  rw [hlast n hn] at htrue
  cases htrue

end EduPod.Inbox.FallbackReads
