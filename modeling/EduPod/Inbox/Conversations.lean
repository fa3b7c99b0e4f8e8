import Mathlib
import EduPod.Foundation.Processes
import EduPod.Foundation.TableBulk
import EduPod.Inbox.MessagingPolicy

/-! # Conversations

Direct threads, groups and broadcasts with their participants. The thread of a direct message is looked up
before the transaction that writes to it, and a recipient who answers a broadcast looks for an own thread
without locking anything.
-/
namespace EduPod.Inbox.Conversations
open Processes Runs

structure ConversationParticipant where
  userId : ℕ
  unreadCount : ℕ
  archived : Bool

/-- A row of the messages, or a point at which a participant has read the thread. Notices of the
administration have no user as their sender. -/
inductive Entry
  | message (senderUserId : Option ℕ)
  | read (userId : ℕ)

@[grind] def Entry.userId : Entry → Option ℕ
  | .message sender => sender
  | .read user => some user

@[grind] def Entry.isMessage : Entry → Bool
  | .message _ => true
  | .read _ => false

/-- `spawnedFrom` is the broadcast that the marker in a subject names. -/
structure Conversation where
  kind : ConversationKind
  spawnedFrom : Option ℕ
  createdByUserId : ℕ
  allowReplies : Bool
  frozen : Bool
  participants : List ConversationParticipant
  log : List Entry

namespace Conversation
variable (c : Conversation)

def users : List ℕ := c.participants.map ConversationParticipant.userId

def participant (userId : ℕ) : Option ConversationParticipant := c.participants.find? fun p => p.userId = userId

/-- A message, as direct messages and replies append it; the sender's own archive flag is only cleared by the former. -/
def sent (senderUserId : ℕ) (unarchive : Bool) : Conversation :=
  { c with
    log := c.log ++ [.message (some senderUserId)]
    participants := c.participants.map fun p =>
      if p.userId = senderUserId then { p with unreadCount := 0,archived := p.archived && !unarchive }
      else { p with unreadCount := p.unreadCount + 1,archived := false } }

/-- The answer to a broadcast, which only counts for the creator of the broadcast. -/
def answered (senderUserId broadcastCreatorUserId : ℕ) : Conversation :=
  { c with
    log := c.log ++ [.message (some senderUserId)]
    participants := c.participants.map fun p =>
      if p.userId = broadcastCreatorUserId then { p with unreadCount := p.unreadCount + 1,archived := false }
      else if p.userId = senderUserId then { p with unreadCount := 0 }
      else p }

def readBy (userId : ℕ) : Conversation :=
  { c with
    log := c.log ++ [.read userId]
    participants := c.participants.map fun p => if p.userId = userId then { p with unreadCount := 0 } else p }

def setArchived (userId : ℕ) (archived : Bool) : Conversation :=
  { c with participants := c.participants.map fun p => if p.userId = userId then { p with archived := archived } else p }

/-- Freezing and unfreezing leave a notice in the thread. -/
def setFrozen (frozen : Bool) : Conversation :=
  if c.frozen = frozen then c else { c with frozen := frozen,log := c.log ++ [.message none] }

/-- Either side has not archived the thread. -/
def activeBetween (userA userB : ℕ) : Bool :=
  c.kind = .direct && (c.participant userA).any fun row => (c.participant userB).any fun other => !row.archived || !other.archived

def canReplyToConversation (senderUserId : ℕ) : Bool :=
  !c.frozen && (c.participant senderUserId).isSome &&
    (c.kind = .direct || c.kind = .group || c.createdByUserId = senderUserId || c.allowReplies)

end Conversation

def newConversation (kind : ConversationKind) (spawnedFrom : Option ℕ) (creator : ℕ) (allowReplies : Bool)
    (others : List ℕ) (unreadCount : ℕ) : Conversation :=
  ⟨kind,spawnedFrom,creator,allowReplies,false,⟨creator,0,false⟩ :: others.map fun id => ⟨id,unreadCount,false⟩,[]⟩

inductive Request
  | createDirect (senderUserId recipientUserId : ℕ)
  | createGroup (senderUserId : ℕ) (recipientUserIds : List ℕ)
  | createBroadcast (senderUserId : ℕ) (recipientUserIds : List ℕ) (allowReplies : Bool)
  | sendReply (senderUserId conversationId : ℕ)
  | getThread (userId conversationId : ℕ)
  | markRead (userId conversationId : ℕ)
  | markAllRead (userId : ℕ)
  | setArchived (userId conversationId : ℕ) (archived : Bool)
  | setFrozen (conversationId : ℕ) (frozen : Bool)

inductive Process
  | opened (request : Request)
  | startingDirect (senderUserId recipientUserId : ℕ) (existing : Option ℕ)
  | replying (senderUserId conversationId : ℕ)
  | answering (senderUserId broadcastConversationId broadcastCreatorUserId : ℕ)
  | spawning (senderUserId broadcastConversationId broadcastCreatorUserId : ℕ) (existing : Option ℕ)
  | reading (userId conversationId : ℕ)

/-- Whether policy, roles and body let a request pass, and the row that a query without an order gives first. -/
structure Input where
  permitted : Bool
  row : ℕ

def first (rows : List (ℕ × Conversation)) (row : ℕ) : Option ℕ :=
  if (rows.map Prod.fst).contains row then some row else rows.head?.map Prod.fst

def findActiveDirectBetween (db : Table Conversation) (userA userB row : ℕ) : Option ℕ :=
  first (db.select fun c => c.activeBetween userA userB) row

def findSpawned (db : Table Conversation) (senderUserId broadcastConversationId broadcastCreatorUserId row : ℕ) : Option ℕ :=
  first (db.select fun c => c.kind = .direct && c.spawnedFrom = some broadcastConversationId &&
    c.users.all fun u => u = senderUserId || u = broadcastCreatorUserId) row

@[grind] def act (db : Table Conversation) (process : Process) (input : Input) : Table Conversation × Option Process :=
  match process with
  | .opened (.createDirect s r) =>
    (db,if s ≠ r ∧ input.permitted then some (.startingDirect s r (findActiveDirectBetween db s r input.row)) else none)
  | .opened (.createGroup s recipients) =>
    (if 2 ≤ recipients.length ∧ recipients.length ≤ 49 ∧ s ∉ recipients ∧ recipients.Nodup ∧ input.permitted then
      db.insert { newConversation .group none s true recipients 1 with log := [.message (some s)] } else db,none)
  | .opened (.createBroadcast s userIds allowReplies) =>
    let recipients := userIds.filter fun id => id ≠ s
    (if recipients ≠ [] ∧ recipients.Nodup ∧ input.permitted then
      db.insert { newConversation .broadcast none s allowReplies recipients 1 with log := [.message (some s)] } else db,none)
  | .opened (.sendReply s i) =>
    (db,((db.get? i).filter fun c => c.canReplyToConversation s).map fun c =>
      if c.kind = .broadcast ∧ c.createdByUserId ≠ s then .answering s i c.createdByUserId else .replying s i)
  | .opened (.getThread user i) =>
    (db,(((db.get? i).bind fun c => c.participant user).filter fun p => 0 < p.unreadCount).map fun _ => .reading user i)
  | .opened (.markRead user i) => (db,((db.get? i).bind fun c => c.participant user).map fun _ => .reading user i)
  | .opened (.markAllRead user) =>
    (db.mapRows fun _ c => if (c.participant user).any fun p => 0 < p.unreadCount then c.readBy user else c,none)
  | .opened (.setArchived user i archived) => (db.modify i fun c => c.setArchived user archived,none)
  | .opened (.setFrozen i frozen) => (db.modify i fun c => c.setFrozen frozen,none)
  | .startingDirect s _ (some i) => (db.modify i fun c => c.sent s true,none)
  | .startingDirect s r none => (db.insert ((newConversation .direct none s true [r] 0).sent s true),none)
  | .replying s i => (db.modify i fun c => c.sent s false,none)
  | .answering s b creator => (db,if input.permitted then some (.spawning s b creator (findSpawned db s b creator input.row)) else none)
  | .spawning s _ creator (some i) => (db.modify i fun c => c.answered s creator,none)
  | .spawning s b creator none => (db.insert ((newConversation .direct (some b) s true [creator] 0).answered s creator),none)
  | .reading user i => (db.modify i fun c => c.readBy user,none)

def protocol : Protocol (Table Conversation) Process Request Input := ⟨.opened,act⟩

/-! ## What has to hold -/

/-- The messages by others since a user last read the thread or wrote in it. -/
@[grind] def unreadSince (log : List Entry) (userId : ℕ) : ℕ :=
  (log.reverse.takeWhile fun e => e.userId ≠ some userId).countP Entry.isMessage

namespace Conversation
variable (c c' : Conversation)

/-- A direct conversation of two users that was not spawned by a broadcast. -/
def IsDirect : Prop := c.kind = .direct ∧ c.spawnedFrom = none

/-- A direct conversation that not both sides have archived. -/
def IsLive : Prop := c.IsDirect ∧ ∃ p ∈ c.participants, p.archived = false

def Joins (u v : ℕ) : Prop := u ∈ c.users ∧ v ∈ c.users

def SamePair : Prop := ∃ u v, u ≠ v ∧ c.Joins u v ∧ c'.Joins u v

def Counted : Prop := ∀ p ∈ c.participants, p.unreadCount = unreadSince c.log p.userId

end Conversation

/-- One live direct conversation for each pair, one spawned thread for each recipient who answers a broadcast,
and counters that count. -/
structure Sound (db : Table Conversation) : Prop where
  direct : ∀ i j c c', db.get? i = some c → db.get? j = some c' → c.IsLive → c'.IsLive → c.SamePair c' → i = j
  spawned : ∀ broadcast recipient i j c c', db.get? i = some c → db.get? j = some c' →
    c.spawnedFrom = some broadcast → c'.spawnedFrom = some broadcast →
    c.createdByUserId = recipient → c'.createdByUserId = recipient → i = j
  counted : ∀ i c, db.get? i = some c → c.Counted

/-- No other live direct conversation is between the same users. -/
def Unrivalled (db : Table Conversation) (i : ℕ) : Prop :=
  ∀ c, db.get? i = some c → c.IsDirect → ∀ j c', db.get? j = some c' → c'.IsLive → c.SamePair c' → j = i

/-- A direct conversation that is started, written to or taken out of the archive is the only live one of its
pair then, a thread that is spawned is the first of its recipient, and no notice is written. -/
def Safe (db : Table Conversation) (process : Process) (_ : Input) : Prop :=
  match process with
  | .startingDirect s r none => ∀ j c, db.get? j = some c → c.IsLive → ¬ c.Joins s r
  | .startingDirect _ _ (some i) => Unrivalled db i
  | .replying _ i => Unrivalled db i
  | .opened (.setArchived user i false) => (∃ c, db.get? i = some c ∧ user ∈ c.users) → Unrivalled db i
  | .spawning s b _ none => ∀ j c, db.get? j = some c → c.spawnedFrom = some b → c.createdByUserId ≠ s
  | .opened (.setFrozen i frozen) => ∀ c, db.get? i = some c → c.frozen = frozen
  | _ => True


/-! ## What an action leaves as it is -/

/-- The columns that no update writes. -/
structure Alike (c c' : Conversation) : Prop where
  kind : c'.kind = c.kind
  spawnedFrom : c'.spawnedFrom = c.spawnedFrom
  creator : c'.createdByUserId = c.createdByUserId
  users : c'.users = c.users

theorem Alike.refl (c : Conversation) : Alike c c := ⟨rfl,rfl,rfl,rfl⟩

theorem Alike.isDirect_iff {c c' : Conversation} (h : Alike c c') : c'.IsDirect ↔ c.IsDirect := by
  rw [Conversation.IsDirect,Conversation.IsDirect,h.kind,h.spawnedFrom]

theorem Alike.joins_iff {c c' : Conversation} (h : Alike c c') (u v : ℕ) : c'.Joins u v ↔ c.Joins u v := by
  rw [Conversation.Joins,Conversation.Joins,h.users]

/-- A rewriting of the participants that keeps their ids. -/
theorem alike_map {c : Conversation} {g : ConversationParticipant → ConversationParticipant}
    (hg : ∀ p, (g p).userId = p.userId) (log : List Entry) :
    Alike c { c with log := log,participants := c.participants.map g } := by
  refine ⟨rfl,rfl,rfl,?_⟩
  rw [Conversation.users,Conversation.users,List.map_map]
  exact List.map_congr_left fun p _ => hg p

section
variable (c : Conversation) (user creator : ℕ) (flag : Bool)

theorem alike_sent : Alike c (c.sent user flag) := alike_map (fun p => by split <;> rfl) _

theorem alike_answered : Alike c (c.answered user creator) := by
  apply alike_map
  intro p
  split
  · rfl
  · split <;> rfl

theorem alike_readBy : Alike c (c.readBy user) := alike_map (fun p => by split <;> rfl) _

theorem alike_setArchived : Alike c (c.setArchived user flag) := alike_map (fun p => by split <;> rfl) _

theorem alike_setFrozen : Alike c (c.setFrozen flag) := by
  unfold Conversation.setFrozen
  split
  · exact Alike.refl c
  · exact ⟨rfl,rfl,rfl,rfl⟩

end

/-! ## Counters -/

theorem unreadSince_message (log : List Entry) (sender : Option ℕ) (user : ℕ) :
    unreadSince (log ++ [.message sender]) user = if sender = some user then 0 else unreadSince log user + 1 := by
  simp only [unreadSince,List.reverse_append,List.reverse_singleton,List.singleton_append,List.takeWhile_cons,Entry.userId]
  by_cases h : sender = some user
  · simp [h]
  · simp only [ne_eq,h,not_false_eq_true,decide_true,if_true,if_false,List.countP_cons,Entry.isMessage]

theorem unreadSince_read (log : List Entry) (reader user : ℕ) :
    unreadSince (log ++ [.read reader]) user = if reader = user then 0 else unreadSince log user := by
  simp only [unreadSince,List.reverse_append,List.reverse_singleton,List.singleton_append,List.takeWhile_cons,Entry.userId]
  by_cases h : reader = user
  · simp [h]
  · simp only [ne_eq,Option.some.injEq,h,not_false_eq_true,decide_true,if_true,if_false,List.countP_cons,
      Entry.isMessage,Bool.false_eq_true,Nat.add_zero]

section
variable {c : Conversation} {user creator : ℕ}

theorem counted_sent (h : c.Counted) (flag : Bool) : (c.sent user flag).Counted := by
  intro p hp
  obtain ⟨q,hq,rfl⟩ := List.mem_map.mp hp
  have hcount := h q hq
  change _ = unreadSince (c.log ++ [.message (some user)]) _
  rw [unreadSince_message]
  by_cases hself : q.userId = user
  · simp [hself]
  · simp [hself,Ne.symm hself,hcount]

/-- Nobody but the two of them may be in the thread, for nobody else is told. -/
theorem counted_answered (h : c.Counted) (hne : user ≠ creator) (husers : ∀ u ∈ c.users, u = user ∨ u = creator) :
    (c.answered user creator).Counted := by
  intro p hp
  obtain ⟨q,hq,rfl⟩ := List.mem_map.mp hp
  have hcount := h q hq
  change _ = unreadSince (c.log ++ [.message (some user)]) _
  rw [unreadSince_message]
  rcases husers q.userId (List.mem_map_of_mem hq) with hself | hother
  · simp [hself,hne]
  · simp [hother,hne,hcount]

theorem counted_readBy (h : c.Counted) : (c.readBy user).Counted := by
  intro p hp
  obtain ⟨q,hq,rfl⟩ := List.mem_map.mp hp
  have hcount := h q hq
  change _ = unreadSince (c.log ++ [.read user]) _
  rw [unreadSince_read]
  by_cases hself : q.userId = user
  · simp [hself]
  · simp [hself,Ne.symm hself,hcount]

theorem counted_setArchived (h : c.Counted) (flag : Bool) : (c.setArchived user flag).Counted := by
  intro p hp
  obtain ⟨q,hq,rfl⟩ := List.mem_map.mp hp
  have hcount := h q hq
  change _ = unreadSince c.log _
  split <;> exact hcount

/-- A notice is a message that no counter counts. -/
theorem counted_setFrozen_iff (h : c.Counted) (husers : c.users ≠ []) (frozen : Bool) :
    (c.setFrozen frozen).Counted ↔ c.frozen = frozen := by
  unfold Conversation.setFrozen
  split
  · exact iff_of_true h ‹_›
  · refine iff_of_false (fun hnew => ?_) ‹_›
    obtain ⟨u,hu⟩ := List.exists_mem_of_ne_nil _ husers
    obtain ⟨p,hp,-⟩ := List.mem_map.mp hu
    have hold := h p hp
    have hcount : p.unreadCount = unreadSince (c.log ++ [.message none]) p.userId := hnew p hp
    rw [unreadSince_message,if_neg (by simp)] at hcount
    omega

end

theorem counted_newConversation {kind : ConversationKind} {spawnedFrom : Option ℕ} {s : ℕ} {allowReplies : Bool}
    {others : List ℕ} (hs : s ∉ others) :
    Conversation.Counted { newConversation kind spawnedFrom s allowReplies others 1 with log := [.message (some s)] } := by
  intro p hp
  rcases List.mem_cons.mp hp with rfl | hp
  · simp [unreadSince,Entry.userId]
  · obtain ⟨u,hu,rfl⟩ := List.mem_map.mp hp
    have hne : s ≠ u := fun h => hs (h ▸ hu)
    simp [unreadSince,Entry.userId,Entry.isMessage,hne]

theorem counted_newConversation_zero (kind : ConversationKind) (spawnedFrom : Option ℕ) (s : ℕ) (allowReplies : Bool)
    (others : List ℕ) : (newConversation kind spawnedFrom s allowReplies others 0).Counted := by
  intro p hp
  rcases List.mem_cons.mp hp with rfl | hp
  · rfl
  · obtain ⟨u,-,rfl⟩ := List.mem_map.mp hp
    rfl

/-! ## Who is in a conversation -/

/-- A direct conversation has two sides, and every conversation its creator. -/
structure Proper (c : Conversation) : Prop where
  sides : c.kind = .direct → ∃ u v, u ≠ v ∧ c.users = [u,v]
  users : c.users ≠ []

theorem Proper.of_alike {c c' : Conversation} (h : Proper c) (halike : Alike c c') : Proper c' := by
  refine ⟨?_,?_⟩
  · rw [halike.kind,halike.users]
    exact h.sides
  · rw [halike.users]
    exact h.users

theorem proper_newDirect {spawnedFrom : Option ℕ} {s r : ℕ} (h : s ≠ r) :
    Proper (newConversation .direct spawnedFrom s true [r] 0) := ⟨fun _ => ⟨s,r,h,rfl⟩,List.cons_ne_nil _ _⟩

/-- What a process has read and relies on. -/
def Known (db : Table Conversation) : Process → Prop
  | .startingDirect s r _ => s ≠ r
  | .answering s _ creator => s ≠ creator
  | .spawning s b creator existing => s ≠ creator ∧ ∀ i, existing = some i →
    ∃ c, db.get? i = some c ∧ c.spawnedFrom = some b ∧ ∀ u ∈ c.users, u = s ∨ u = creator
  | _ => True

/-- The conversations stay, with the columns that no update writes. -/
def Retains (db db' : Table Conversation) : Prop := ∀ i c, db.get? i = some c → ∃ c', db'.get? i = some c' ∧ Alike c c'

/-- What holds between a conversation and each update of it. -/
structure Respects (R : Conversation → Conversation → Prop) : Prop where
  refl : ∀ c, R c c
  sent : ∀ c user flag, R c (c.sent user flag)
  answered : ∀ c user creator, R c (c.answered user creator)
  readBy : ∀ c user, R c (c.readBy user)
  setArchived : ∀ c user flag, R c (c.setArchived user flag)
  setFrozen : ∀ c flag, R c (c.setFrozen flag)

theorem respects_alike : Respects Alike := ⟨Alike.refl,alike_sent,alike_answered,alike_readBy,alike_setArchived,alike_setFrozen⟩

theorem mem_of_first {rows : List (ℕ × Conversation)} {row i : ℕ} (h : first rows row = some i) : ∃ c, (i,c) ∈ rows := by
  unfold first at h
  split at h
  · obtain rfl := Option.some.inj h
    obtain ⟨r,hr,hi⟩ := List.mem_map.mp (List.contains_iff_mem.mp ‹_›)
    exact ⟨r.2,hi ▸ hr⟩
  · obtain ⟨r,hr,rfl⟩ := Option.map_eq_some_iff.mp h
    exact ⟨r.2,List.mem_of_mem_head? hr⟩

section
variable {db : Table Conversation} {process : Process}

theorem related_act {R : Conversation → Conversation → Prop} (hR : Respects R) (db : Table Conversation) (process : Process)
    (input : Input) : Table.Related R db (act db process input).1 := by
  cases process with
  | opened request =>
    cases request with
    | createDirect s r => exact Table.related_refl hR.refl
    | createGroup s recipients =>
      rw [act]
      split
      · exact Table.related_insert hR.refl _
      · exact Table.related_refl hR.refl
    | createBroadcast s userIds allowReplies =>
      rw [act]
      split
      · exact Table.related_insert hR.refl _
      · exact Table.related_refl hR.refl
    | sendReply s i => exact Table.related_refl hR.refl
    | getThread user i => exact Table.related_refl hR.refl
    | markRead user i => exact Table.related_refl hR.refl
    | markAllRead user =>
      apply Table.related_mapRows
      intro _ c
      split
      · exact hR.readBy c user
      · exact hR.refl c
    | setArchived user i archived => exact Table.related_modify hR.refl i fun c => hR.setArchived c user archived
    | setFrozen i frozen => exact Table.related_modify hR.refl i fun c => hR.setFrozen c frozen
  | startingDirect s r existing =>
    cases existing with
    | none => exact Table.related_insert hR.refl _
    | some i => exact Table.related_modify hR.refl i fun c => hR.sent c s true
  | replying s i => exact Table.related_modify hR.refl i fun c => hR.sent c s false
  | answering s b creator => exact Table.related_refl hR.refl
  | spawning s b creator existing =>
    cases existing with
    | none => exact Table.related_insert hR.refl _
    | some i => exact Table.related_modify hR.refl i fun c => hR.answered c s creator
  | reading user i => exact Table.related_modify hR.refl i fun c => hR.readBy c user

theorem retains_act (db : Table Conversation) (process : Process) (input : Input) : Retains db (act db process input).1 :=
  related_act respects_alike db process input

theorem Known.of_retains {db' : Table Conversation} (h : Retains db db') (hk : Known db process) : Known db' process := by
  cases process with
  | spawning s b creator existing =>
    refine ⟨hk.1,fun i hi => ?_⟩
    obtain ⟨c,hc,hspawned,husers⟩ := hk.2 i hi
    obtain ⟨c',hc',halike⟩ := h i c hc
    exact ⟨c',hc',halike.spawnedFrom.trans hspawned,by rwa [halike.users]⟩
  | opened request => trivial
  | startingDirect s r existing => exact hk
  | answering s b creator => exact hk
  | replying s i => trivial
  | reading user i => trivial

theorem known_own {next : Process} {input : Input} (hk : Known db process)
    (hnext : (act db process input).2 = some next) : Known (act db process input).1 next := by
  cases process with
  | opened request =>
    cases request with
    | createDirect s r =>
      rw [act] at hnext
      dsimp only at hnext
      split at hnext
      · obtain rfl := Option.some.inj hnext
        exact (‹_ ∧ _› : s ≠ r ∧ _).1
      · cases hnext
    | sendReply s i =>
      obtain ⟨c,-,rfl⟩ := Option.map_eq_some_iff.mp hnext
      split
      · exact (‹_ ∧ _› : _ ∧ c.createdByUserId ≠ s).2.symm
      · trivial
    | getThread user i =>
      obtain ⟨p,-,rfl⟩ := Option.map_eq_some_iff.mp hnext
      trivial
    | markRead user i =>
      obtain ⟨p,-,rfl⟩ := Option.map_eq_some_iff.mp hnext
      trivial
    | createGroup s recipients => cases hnext
    | createBroadcast s userIds allowReplies => cases hnext
    | markAllRead user => cases hnext
    | setArchived user i archived => cases hnext
    | setFrozen i frozen => cases hnext
  | answering s b creator =>
    rw [act] at hnext
    dsimp only at hnext
    split at hnext
    · obtain rfl := Option.some.inj hnext
      refine ⟨hk,fun i hi => ?_⟩
      obtain ⟨c,hc⟩ := mem_of_first hi
      obtain ⟨hmem,hfits⟩ := List.mem_filter.mp hc
      obtain ⟨hkind,husers⟩ := Bool.and_eq_true_iff.mp hfits
      have hspawned := of_decide_eq_true (Bool.and_eq_true_iff.mp hkind).2
      refine ⟨c,Table.get?_of_mem hmem,hspawned,fun u hu => ?_⟩
      simpa using List.all_eq_true.mp husers u hu
    · cases hnext
  | startingDirect s r existing => cases existing <;> cases hnext
  | spawning s b creator existing => cases existing <;> cases hnext
  | replying s i => cases hnext
  | reading user i => cases hnext

theorem proper_act (h : db.All Proper) (hk : Known db process) (input : Input) : (act db process input).1.All Proper := by
  have hmodify : ∀ i (g : Conversation → Conversation), (∀ c, Alike c (g c)) → (db.modify i g).All Proper :=
    fun i g hg => h.modify fun c hc => (h.get? hc).of_alike (hg c)
  cases process with
  | opened request =>
    cases request with
    | createDirect s r => exact h
    | createGroup s recipients =>
      rw [act]
      split
      · exact h.insert ⟨fun hkind => (by cases hkind),List.cons_ne_nil _ _⟩
      · exact h
    | createBroadcast s userIds allowReplies =>
      rw [act]
      split
      · exact h.insert ⟨fun hkind => (by cases hkind),List.cons_ne_nil _ _⟩
      · exact h
    | sendReply s i => exact h
    | getThread user i => exact h
    | markRead user i => exact h
    | markAllRead user =>
      intro r hr
      obtain ⟨q,hq,rfl⟩ := Table.mem_mapRows.mp hr
      dsimp only
      split
      · exact (h q hq).of_alike (alike_readBy q.2 user)
      · exact h q hq
    | setArchived user i archived => exact hmodify i _ fun c => alike_setArchived c user archived
    | setFrozen i frozen => exact hmodify i _ fun c => alike_setFrozen c frozen
  | startingDirect s r existing =>
    cases existing with
    | none => exact h.insert ((proper_newDirect hk).of_alike (alike_sent _ s true))
    | some i => exact hmodify i _ fun c => alike_sent c s true
  | replying s i => exact hmodify i _ fun c => alike_sent c s false
  | answering s b creator => exact h
  | spawning s b creator existing =>
    cases existing with
    | none => exact h.insert ((proper_newDirect hk.1).of_alike (alike_answered _ s creator))
    | some i => exact hmodify i _ fun c => alike_answered c s creator
  | reading user i => exact hmodify i _ fun c => alike_readBy c user

end

theorem kept_known : Kept protocol (fun db => db.All Proper) Known where
  opened := fun _ _ _ => trivial
  store := fun _ _ input h hk => proper_act h hk input
  own := fun _ _ _ _ _ hk hnext => known_own hk hnext
  others := fun db process input _ _ _ hother => hother.of_retains (retains_act db process input)

/-! ## Which actions keep it -/

section
variable {db : Table Conversation} {c : Conversation} {i : ℕ}

theorem samePair_comm {c' : Conversation} : c.SamePair c' ↔ c'.SamePair c := by
  constructor <;> exact fun ⟨u,v,hne,h,h'⟩ => ⟨u,v,hne,h',h⟩

theorem Alike.samePair_iff {a b : Conversation} (h : Alike a b) (c' : Conversation) : b.SamePair c' ↔ a.SamePair c' := by
  simp only [Conversation.SamePair,h.joins_iff]

theorem sound_insert_iff (h : Sound db) :
    Sound (db.insert c) ↔ (c.IsLive → ∀ j c', db.get? j = some c' → c'.IsLive → ¬ c.SamePair c') ∧
      (∀ b, c.spawnedFrom = some b → ∀ j c', db.get? j = some c' → c'.spawnedFrom = some b →
        c'.createdByUserId ≠ c.createdByUserId) ∧ c.Counted := by
  have hself : (db.insert c).get? db.next = some c := by rw [Table.get?_insert,if_pos rfl]
  have hold : ∀ {j c'}, db.get? j = some c' → j ≠ db.next ∧ (db.insert c).get? j = some c' := by
    intro j c' hc'
    have hne := (Table.lt_next_of_get? hc').ne
    exact ⟨hne,by rwa [Table.get?_insert,if_neg hne]⟩
  have hcases : ∀ {j c'}, (db.insert c).get? j = some c' → (j = db.next ∧ c' = c) ∨ db.get? j = some c' := by
    intro j c' hc'
    rw [Table.get?_insert] at hc'
    split at hc'
    · exact .inl ⟨‹_›,(Option.some.inj hc').symm⟩
    · exact .inr hc'
  constructor
  · intro hnew
    refine ⟨fun hlive j c' hc' hlive' hpair => ?_,fun b hb j c' hc' hb' hsame => ?_,hnew.counted _ _ hself⟩
    · exact (hold hc').1 (hnew.direct _ _ _ _ hself (hold hc').2 hlive hlive' hpair).symm
    · exact (hold hc').1 (hnew.spawned b _ _ _ _ _ hself (hold hc').2 hb hb' rfl hsame).symm
  · rintro ⟨hdirect,hspawned,hcounted⟩
    refine ⟨?_,?_,?_⟩
    · intro i j a a' ha ha' hlive hlive' hpair
      rcases hcases ha with ⟨rfl,rfl⟩ | hwas <;> rcases hcases ha' with ⟨rfl,rfl⟩ | hwas'
      · rfl
      · exact absurd hpair (hdirect hlive _ _ hwas' hlive')
      · exact absurd (samePair_comm.mp hpair) (hdirect hlive' _ _ hwas hlive)
      · exact h.direct _ _ _ _ hwas hwas' hlive hlive' hpair
    · intro b r i j a a' ha ha' hb hb' hr hr'
      rcases hcases ha with ⟨rfl,rfl⟩ | hwas <;> rcases hcases ha' with ⟨rfl,rfl⟩ | hwas'
      · rfl
      · exact absurd (hr'.trans hr.symm) (hspawned b hb _ _ hwas' hb')
      · exact absurd (hr.trans hr'.symm) (hspawned b hb' _ _ hwas hb)
      · exact h.spawned b r _ _ _ _ hwas hwas' hb hb' hr hr'
    · intro j a ha
      rcases hcases ha with ⟨rfl,rfl⟩ | ha
      · exact hcounted
      · exact h.counted _ _ ha

theorem Sound.unrivalled (h : Sound db) (hget : db.get? i = some c) (hlive : c.IsLive) : Unrivalled db i := by
  intro a ha _ j c' hc' hlive' hpair
  obtain rfl := Option.some.inj (ha.symm.trans hget)
  exact (h.direct i j a c' hget hc' hlive hlive' hpair).symm

/-- An update of one conversation that leaves the others alone. -/
theorem sound_modify_iff {g : Conversation → Conversation} (hg : ∀ c, Alike c (g c)) (h : Sound db)
    (hget : db.get? i = some c) :
    Sound (db.modify i g) ↔ ((g c).IsLive → Unrivalled db i) ∧ (g c).Counted := by
  have hself : (db.modify i g).get? i = some (g c) := Table.get?_modify_self hget g
  have hother : ∀ {j}, j ≠ i → (db.modify i g).get? j = db.get? j := fun hne => Table.get?_modify_ne _ hne g
  have hcases : ∀ {j a}, (db.modify i g).get? j = some a → (j = i ∧ a = g c) ∨ (j ≠ i ∧ db.get? j = some a) := by
    intro j a ha
    by_cases hne : j = i
    · subst hne
      exact .inl ⟨rfl,Option.some.inj (ha.symm.trans hself)⟩
    · exact .inr ⟨hne,by rwa [hother hne] at ha⟩
  constructor
  · intro hnew
    refine ⟨fun hlive a ha _ j c' hc' hlive' hpair => ?_,hnew.counted _ _ hself⟩
    obtain rfl := Option.some.inj (ha.symm.trans hget)
    by_contra hne
    refine hne (hnew.direct i j _ _ hself ?_ hlive hlive' (((hg a).samePair_iff c').mpr hpair)).symm
    rwa [hother hne]
  · rintro ⟨hunrivalled,hcounted⟩
    refine ⟨?_,?_,?_⟩
    · intro j k a a' ha ha' hlive hlive' hpair
      rcases hcases ha with ⟨rfl,rfl⟩ | ⟨hj,hwas⟩ <;> rcases hcases ha' with ⟨rfl,rfl⟩ | ⟨hk,hwas'⟩
      · rfl
      · exact (hunrivalled hlive c hget ((hg c).isDirect_iff.mp hlive.1) k a' hwas' hlive'
          (((hg c).samePair_iff a').mp hpair)).symm
      · exact hunrivalled hlive' c hget ((hg c).isDirect_iff.mp hlive'.1) j a hwas hlive
          (((hg c).samePair_iff a).mp (samePair_comm.mp hpair))
      · exact h.direct _ _ _ _ hwas hwas' hlive hlive' hpair
    · intro b r j k a a' ha ha' hb hb' hr hr'
      rcases hcases ha with ⟨rfl,rfl⟩ | ⟨hj,hwas⟩ <;> rcases hcases ha' with ⟨rfl,rfl⟩ | ⟨hk,hwas'⟩
      · rfl
      · exact h.spawned b r _ _ _ _ hget hwas' ((hg c).spawnedFrom ▸ hb) hb' ((hg c).creator ▸ hr) hr'
      · exact h.spawned b r _ _ _ _ hwas hget hb ((hg c).spawnedFrom ▸ hb') hr ((hg c).creator ▸ hr')
      · exact h.spawned b r _ _ _ _ hwas hwas' hb hb' hr hr'
    · intro j a ha
      rcases hcases ha with ⟨rfl,rfl⟩ | ⟨hj,ha⟩
      · exact hcounted
      · exact h.counted _ _ ha

/-- Where the conversation ends up live, it has to be the only one. -/
theorem sound_modify_live_iff {g : Conversation → Conversation} (hg : ∀ c, Alike c (g c)) (h : Sound db)
    (hcounted : ∀ c, db.get? i = some c → (g c).Counted)
    (hlive : ∀ c, db.get? i = some c → c.IsDirect → ∃ p ∈ (g c).participants, p.archived = false) :
    Sound (db.modify i g) ↔ Unrivalled db i := by
  cases hget : db.get? i with
  | none =>
    rw [Table.modify_eq_self_iff.mpr fun c hc => by rw [hget] at hc; cases hc]
    exact iff_of_true h fun c hc => by rw [hget] at hc; cases hc
  | some c =>
    rw [sound_modify_iff hg h hget]
    constructor
    · rintro ⟨hunrivalled,-⟩ a ha hdirect
      obtain rfl := Option.some.inj (ha.symm.trans hget)
      exact hunrivalled ⟨(hg a).isDirect_iff.mpr hdirect,hlive a hget hdirect⟩ a ha hdirect
    · exact fun hunrivalled => ⟨fun _ => hunrivalled,hcounted c hget⟩

/-- Where it was live before if it is afterwards, nothing can go wrong. -/
theorem sound_modify {g : Conversation → Conversation} (hg : ∀ c, Alike c (g c)) (h : Sound db)
    (hcounted : ∀ c, db.get? i = some c → (g c).Counted)
    (hlive : ∀ c, db.get? i = some c → (g c).IsLive → c.IsLive) : Sound (db.modify i g) := by
  cases hget : db.get? i with
  | none =>
    rwa [Table.modify_eq_self_iff.mpr fun c hc => by rw [hget] at hc; cases hc]
  | some c =>
    exact (sound_modify_iff hg h hget).mpr ⟨fun hnew => h.unrivalled hget (hlive c hget hnew),hcounted c hget⟩

end

section
variable {db : Table Conversation} {process : Process}

theorem isLive_of_readBy {c : Conversation} {user : ℕ} (h : (c.readBy user).IsLive) : c.IsLive := by
  obtain ⟨hdirect,p,hp,hactive⟩ := h
  obtain ⟨q,hq,rfl⟩ := List.mem_map.mp hp
  refine ⟨hdirect,q,hq,?_⟩
  split at hactive <;> exact hactive

theorem isLive_of_setFrozen {c : Conversation} {frozen : Bool} (h : (c.setFrozen frozen).IsLive) : c.IsLive := by
  unfold Conversation.setFrozen at h
  split at h <;> exact h

theorem sound_mapRows {f : ℕ → Conversation → Conversation} (hf : ∀ i c, Alike c (f i c)) (h : Sound db)
    (hcounted : ∀ i c, c.Counted → (f i c).Counted) (hlive : ∀ i c, (f i c).IsLive → c.IsLive) :
    Sound (db.mapRows f) := by
  have hcases : ∀ {i a}, (db.mapRows f).get? i = some a → ∃ c, db.get? i = some c ∧ f i c = a := by
    intro i a ha
    rw [Table.get?_mapRows] at ha
    exact Option.map_eq_some_iff.mp ha
  refine ⟨?_,?_,?_⟩
  · intro i j a a' ha ha' hl hl' hpair
    obtain ⟨c,hc,rfl⟩ := hcases ha
    obtain ⟨c',hc',rfl⟩ := hcases ha'
    have hpair : c.SamePair c' := by
      rwa [(hf i c).samePair_iff,samePair_comm,(hf j c').samePair_iff,samePair_comm] at hpair
    exact h.direct _ _ _ _ hc hc' (hlive i c hl) (hlive j c' hl') hpair
  · intro b r i j a a' ha ha' hb hb' hr hr'
    obtain ⟨c,hc,rfl⟩ := hcases ha
    obtain ⟨c',hc',rfl⟩ := hcases ha'
    exact h.spawned b r _ _ _ _ hc hc' ((hf i c).spawnedFrom ▸ hb) ((hf j c').spawnedFrom ▸ hb')
      ((hf i c).creator ▸ hr) ((hf j c').creator ▸ hr')
  · intro i a ha
    obtain ⟨c,hc,rfl⟩ := hcases ha
    exact hcounted i c (h.counted _ _ hc)

/-- A new group or broadcast is no direct conversation. -/
theorem sound_insert_other {c : Conversation} (h : Sound db) (hkind : c.kind ≠ .direct) (hspawned : c.spawnedFrom = none)
    (hcounted : c.Counted) : Sound (db.insert c) := by
  refine (sound_insert_iff h).mpr ⟨fun hlive => absurd hlive.1.1 hkind,fun b hb => ?_,hcounted⟩
  rw [hspawned] at hb
  cases hb

/-- Both sides of a direct message see the thread again. -/
theorem exists_active_sent {c : Conversation} {s : ℕ} {flag : Bool} (hp : Proper c) (hdirect : flag = false → c.IsDirect) :
    ∃ p ∈ (c.sent s flag).participants, p.archived = false := by
  cases flag with
  | true =>
    obtain ⟨u,hu⟩ := List.exists_mem_of_ne_nil _ hp.users
    obtain ⟨p,hmem,-⟩ := List.mem_map.mp hu
    refine ⟨_,List.mem_map_of_mem hmem,?_⟩
    split <;> simp
  | false =>
    obtain ⟨u,v,hne,husers⟩ := hp.sides (hdirect rfl).1
    have hother : ∃ w ∈ c.users, w ≠ s := by
      by_cases hu : u = s
      · exact ⟨v,by simp [husers],fun hv => hne (hu.trans hv.symm)⟩
      · exact ⟨u,by simp [husers],hu⟩
    obtain ⟨w,hw,hws⟩ := hother
    obtain ⟨p,hmem,rfl⟩ := List.mem_map.mp hw
    refine ⟨_,List.mem_map_of_mem hmem,?_⟩
    rw [if_neg hws]

theorem isLive_of_setArchived {c : Conversation} {user : ℕ} (h : (c.setArchived user true).IsLive) : c.IsLive := by
  obtain ⟨hdirect,p,hp,hactive⟩ := h
  obtain ⟨q,hq,rfl⟩ := List.mem_map.mp hp
  refine ⟨hdirect,q,hq,?_⟩
  split at hactive
  · cases hactive
  · exact hactive

theorem setArchived_eq_self {c : Conversation} {user : ℕ} (h : user ∉ c.users) (archived : Bool) :
    c.setArchived user archived = c := by
  have hmap : (c.participants.map fun p => if p.userId = user then { p with archived := archived } else p) = c.participants := by
    conv_rhs => rw [← List.map_id c.participants]
    apply List.map_congr_left
    intro p hp
    have hne : p.userId ≠ user := fun heq => h (List.mem_map.mpr ⟨p,hp,heq⟩)
    rw [if_neg hne]
    rfl
  rw [Conversation.setArchived,hmap]

theorem sound_setArchived_iff {user i : ℕ} (h : Sound db) (archived : Bool) :
    Sound (db.modify i fun c => c.setArchived user archived) ↔
      Safe db (.opened (.setArchived user i archived)) ⟨true,0⟩ := by
  have hcounted : ∀ c, db.get? i = some c → (c.setArchived user archived).Counted :=
    fun c hc => counted_setArchived (h.counted i c hc) archived
  cases archived with
  | true =>
    exact iff_of_true (sound_modify (fun c => alike_setArchived c user true) h hcounted
      fun c _ hc => isLive_of_setArchived hc) trivial
  | false =>
    by_cases hmem : ∃ c, db.get? i = some c ∧ user ∈ c.users
    · change _ ↔ (∃ c, db.get? i = some c ∧ user ∈ c.users) → Unrivalled db i
      rw [sound_modify_live_iff (fun c => alike_setArchived c user false) h hcounted,forall_prop_of_true hmem]
      intro c hc _
      obtain ⟨a,ha,hin⟩ := hmem
      obtain rfl := Option.some.inj (ha.symm.trans hc)
      obtain ⟨p,hp,huser⟩ := List.mem_map.mp hin
      exact ⟨_,List.mem_map_of_mem hp,by rw [if_pos huser]⟩
    · refine iff_of_true ?_ fun hin => absurd hin hmem
      rwa [Table.modify_eq_self_iff.mpr]
      intro c hc
      exact setArchived_eq_self (fun hin => hmem ⟨c,hc,hin⟩) false

theorem sound_newDirect_iff {s r : ℕ} (h : Sound db) (hne : s ≠ r) :
    Sound (db.insert ((newConversation .direct none s true [r] 0).sent s true)) ↔
      ∀ j c, db.get? j = some c → c.IsLive → ¬ c.Joins s r := by
  have halike := alike_sent (newConversation .direct none s true [r] 0) s true
  have husers : ∀ u, u ∈ (newConversation .direct none s true [r] 0).users ↔ u = s ∨ u = r := by
    intro u
    simp [Conversation.users,newConversation]
  have hlive : ((newConversation .direct none s true [r] 0).sent s true).IsLive :=
    ⟨⟨rfl,rfl⟩,exists_active_sent (proper_newDirect hne) fun hf => (by cases hf)⟩
  have hpair : ∀ c : Conversation, ((newConversation .direct none s true [r] 0).sent s true).SamePair c ↔ c.Joins s r := by
    intro c
    rw [halike.samePair_iff]
    constructor
    · rintro ⟨u,v,huv,⟨hu,hv⟩,hu',hv'⟩
      rcases (husers u).mp hu with rfl | rfl <;> rcases (husers v).mp hv with rfl | rfl
      · exact absurd rfl huv
      · exact ⟨hu',hv'⟩
      · exact ⟨hv',hu'⟩
      · exact absurd rfl huv
    · exact fun hjoins => ⟨s,r,hne,⟨(husers s).mpr (.inl rfl),(husers r).mpr (.inr rfl)⟩,hjoins⟩
  rw [sound_insert_iff h]
  constructor
  · rintro ⟨hdirect,-,-⟩ j c hc hlive' hjoins
    exact hdirect hlive j c hc hlive' ((hpair c).mpr hjoins)
  · intro hfree
    refine ⟨fun _ j c hc hlive' hsame => hfree j c hc hlive' ((hpair c).mp hsame),fun b hb => (by cases hb),?_⟩
    exact counted_sent (counted_newConversation_zero .direct none s true [r]) true

theorem sound_spawned_iff {s b creator : ℕ} (h : Sound db) (hne : s ≠ creator) :
    Sound (db.insert ((newConversation .direct (some b) s true [creator] 0).answered s creator)) ↔
      ∀ j c, db.get? j = some c → c.spawnedFrom = some b → c.createdByUserId ≠ s := by
  rw [sound_insert_iff h]
  constructor
  · rintro ⟨-,hspawned,-⟩ j c hc hb
    exact hspawned b rfl j c hc hb
  · intro hfirst
    refine ⟨fun hlive => (by cases hlive.1.2),fun b' hb' j c hc hb => ?_,?_⟩
    · obtain rfl : b = b' := Option.some.inj hb'
      exact hfirst j c hc hb
    · apply counted_answered (counted_newConversation_zero .direct (some b) s true [creator]) hne
      intro u hu
      simpa [Conversation.users,newConversation] using hu

theorem sound_act_iff (hall : db.All Proper) (hk : Known db process) (h : Sound db) (input : Input) :
    Sound (act db process input).1 ↔ Safe db process input := by
  cases process with
  | opened request =>
    cases request with
    | createDirect s r => exact iff_of_true h trivial
    | createGroup s recipients =>
      refine iff_of_true ?_ trivial
      rw [act]
      split
      · refine sound_insert_other h (fun hkind => (by cases hkind)) rfl (counted_newConversation ?_)
        exact (‹_ ∧ _› : _ ∧ _ ∧ s ∉ recipients ∧ _).2.2.1
      · exact h
    | createBroadcast s userIds allowReplies =>
      refine iff_of_true ?_ trivial
      rw [act]
      split
      · refine sound_insert_other h (fun hkind => (by cases hkind)) rfl (counted_newConversation ?_)
        simp
      · exact h
    | sendReply s i => exact iff_of_true h trivial
    | getThread user i => exact iff_of_true h trivial
    | markRead user i => exact iff_of_true h trivial
    | markAllRead user =>
      refine iff_of_true ?_ trivial
      change Sound (db.mapRows fun _ c => if (c.participant user).any fun p => 0 < p.unreadCount then c.readBy user else c)
      refine sound_mapRows ?_ h ?_ ?_
      · intro _ c
        split
        · exact alike_readBy c user
        · exact Alike.refl c
      · intro _ c hc
        split
        · exact counted_readBy hc
        · exact hc
      · intro _ c hc
        split at hc
        · exact isLive_of_readBy hc
        · exact hc
    | setArchived user i archived => exact sound_setArchived_iff h archived
    | setFrozen i frozen =>
      change Sound (db.modify i fun c => c.setFrozen frozen) ↔ ∀ c, db.get? i = some c → c.frozen = frozen
      cases hget : db.get? i with
      | none =>
        rw [Table.modify_eq_self_iff.mpr fun c hc => by rw [hget] at hc; cases hc]
        exact iff_of_true h fun c hc => by cases hc
      | some c =>
        have hunrivalled : (c.setFrozen frozen).IsLive → Unrivalled db i := fun hnew =>
          h.unrivalled hget (isLive_of_setFrozen hnew)
        rw [sound_modify_iff (fun c => alike_setFrozen c frozen) h hget,and_iff_right hunrivalled,
          counted_setFrozen_iff (h.counted i c hget) (hall.get? hget).users]
        constructor
        · intro hsame a ha
          rwa [← Option.some.inj ha]
        · exact fun hsame => hsame c rfl
  | startingDirect s r existing =>
    cases existing with
    | none => exact sound_newDirect_iff h hk
    | some i =>
      refine sound_modify_live_iff (fun c => alike_sent c s true) h (fun c hc => counted_sent (h.counted i c hc) true) ?_
      exact fun c hc _ => exists_active_sent (hall.get? hc) (fun hf => (by cases hf))
  | replying s i =>
    refine sound_modify_live_iff (fun c => alike_sent c s false) h (fun c hc => counted_sent (h.counted i c hc) false) ?_
    exact fun c hc hdirect => exists_active_sent (hall.get? hc) fun _ => hdirect
  | answering s b creator => exact iff_of_true h trivial
  | spawning s b creator existing =>
    cases existing with
    | none => exact sound_spawned_iff h hk.1
    | some i =>
      obtain ⟨c,hget,hspawned,husers⟩ := hk.2 i rfl
      have hsame : ∀ a, db.get? i = some a → a = c := fun a ha => Option.some.inj (ha.symm.trans hget)
      refine iff_of_true (sound_modify (fun c => alike_answered c s creator) h ?_ ?_) trivial
      · intro a ha
        rw [hsame a ha]
        exact counted_answered (h.counted i c hget) hk.1 husers
      · intro a ha hnew
        have hnone := ((alike_answered a s creator).isDirect_iff.mp hnew.1).2
        rw [hsame a ha,hspawned] at hnone
        cases hnone
  | reading user i =>
    exact iff_of_true (sound_modify (fun c => alike_readBy c user) h (fun c hc => counted_readBy (h.counted i c hc))
      fun c _ hc => isLive_of_readBy hc) trivial

end

/-- Exactly the runs whose actions are safe keep one live conversation for each pair, one thread for each recipient
of a broadcast and the counters right. -/
theorem sound_iff (events : List (Event Request Input)) :
    (∀ st ∈ trace (step protocol) (State.idle Table.empty) events, Sound st.store) ↔
      Guarded (step protocol) (AtAct Safe) (State.idle Table.empty) events :=
  trace_iff_atAct kept_known (fun _ _ input hall hk h => sound_act_iff hall hk h input) (Table.all_empty _)
    ⟨fun _ _ _ _ hc => (by cases hc),fun _ _ _ _ _ _ hc => (by cases hc),fun _ _ hc => (by cases hc)⟩ events

/-- Two users write to each other at the same time: both lookups come before either transaction. -/
theorem not_sound : ¬ ∀ events : List (Event Request Input),
    ∀ st ∈ trace (step protocol) (State.idle Table.empty) events, Sound st.store := by
  intro h
  have hlast := h [.start (.createDirect 1 2),.start (.createDirect 2 1),.act 0 ⟨true,0⟩,.act 1 ⟨true,0⟩,
    .act 0 ⟨true,0⟩,.act 1 ⟨true,0⟩] _ (foldl_mem_trace _ _)
  have hsame := hlast.direct 0 1 _ _ rfl rfl ⟨⟨rfl,rfl⟩,⟨1,0,false⟩,List.mem_cons_self,rfl⟩
    ⟨⟨rfl,rfl⟩,⟨2,0,false⟩,List.mem_cons_self,rfl⟩
    ⟨1,2,by decide,⟨List.mem_cons_self,List.mem_cons_of_mem _ List.mem_cons_self⟩,
      List.mem_cons_of_mem _ List.mem_cons_self,List.mem_cons_self⟩
  exact absurd hsame (by decide)

end EduPod.Inbox.Conversations
