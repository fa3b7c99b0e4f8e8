import Mathlib
import EduPod.Foundation.Chains
import EduPod.Foundation.Runs
import EduPod.Notifications.Dispatch

/-! # Chains of fallbacks

A notification that fails for good falls back to the next channel, and the rows that stand for one notification share a
chain. Here the jobs run one after the other; a failed row may be loaded again by any of them.
-/
namespace EduPod.Notifications
open Runs Chains

def rank : NotificationChannel → ℕ
  | .whatsapp => 0
  | .sms => 1
  | .email => 2
  | .inApp => 3

/-- A chain id that no row has, as a random one. -/
def freshChainId (db : Outbox) : ℕ := ((db.notifications.rows.map fun q => q.2.chainId.getD 0).foldr max 0) + 1

/-- A process alone, for so many actions at most. -/
@[grind] def settle (input : Input) : ℕ → Outbox × Option Process → Outbox
  | 0, (db,_) => db
  | _ + 1, (db,none) => db
  | actions + 1, (db,some process) => settle input actions (act db process input)

/-- Preparing, calling, drawing a chain and writing the fallback are four actions. -/
def attempt (inputs : ℕ → Input) (db : Outbox) (q : ℕ × Notification) : Outbox :=
  settle { inputs q.1 with drawnChainId := freshChainId db } 4 (db,some (.dispatching [q]))

/-- What happens to the outbox. Ticks that make failed rows due again may name any rows. -/
inductive OutboxEvent
  | submit (submission : Submission)
  | clearRetry (tenantId : ℕ) (ids : List ℕ)
  | retryGroup (tenantId : ℕ) (ids : List ℕ)
  | deliver (job : DispatchJob) (inputs : ℕ → Input)

def outboxStep (db : Outbox) : OutboxEvent → Outbox
  | .submit submission => { db with notifications := db.notifications.insert (queuedNotification submission) }
  | .clearRetry tenantId ids => clearRetry db tenantId ids
  | .retryGroup tenantId ids => retryGroup db tenantId ids
  | .deliver job inputs => (loadNotifications db job).foldl (attempt inputs) db

/-! ## Proper chains -/

def Outbox.row? (db : Outbox) (id : ℕ) : Option Notification := db.notifications.get? id

def Outbox.chainOf (db : Outbox) (id : ℕ) : Option ℕ := (db.row? id).bind Notification.chainId

def Outbox.rankOf (db : Outbox) (id : ℕ) : ℕ := (db.row? id).elim 0 fun n => rank n.channel

/-- Two rows share a chain id. -/
def Linked (db : Outbox) (i j : ℕ) : Prop := Tied db.chainOf i j

/-- The chain of a row: itself, and what shares its chain id. -/
def InChain (db : Outbox) (i j : ℕ) : Prop := j = i ∨ Linked db i j

/-- Failed with no attempt left, or none planned. -/
def Dead (n : Notification) : Prop := n.status = .failed ∧ (n.maxAttempts ≤ n.attemptCount ∨ n.nextRetryAt = none)

/-- Nothing is going to be tried any more. -/
def Settled (n : Notification) : Prop := n.status = .delivered ∨ Dead n

structure ProperChains (db : Outbox) : Prop where
  onePerChannel : ∀ i j n m, db.row? i = some n → db.row? j = some m → Linked db i j → n.channel = m.channel → i = j
  follows : ∀ i j m, db.row? j = some m → Linked db i j → i < j →
    ∃ p n, p < j ∧ Linked db p j ∧ db.row? p = some n ∧ fallbackChain n.channel = some m.channel
  ends : ∀ i n, db.row? i = some n →
    (∀ j m, InChain db i j → db.row? j = some m → m.status ≠ .sent ∧ Settled m) →
    ∃ j m, InChain db i j ∧ db.row? j = some m ∧ (∀ k, InChain db i k → k ≤ j) ∧
      m.channel = .inApp ∧ m.status = .delivered

/-- Nothing is left to try for a notification that has to be sent. -/
def Exhausts (loaded : Notification) (input : Input) : Prop :=
  match input.preparation, input.answer with
  | .noTemplate, _ | .noContact, _ | .administrativeSkip _, _ => True
  | .renderingFails _, _ => loaded.maxAttempts ≤ loaded.attemptCount + 1
  | .ready, .error _ => loaded.maxAttempts ≤ loaded.attemptCount + 1
  | .ready, .ok _ => False

/-- The attempt ends in a fallback. -/
def FallsBack (loaded : Notification) (input : Input) : Prop := loaded.channel ≠ .inApp ∧ Exhausts loaded input

/-- No attempt falls back from a row that has done so before. -/
def FallsBackOnce (db : Outbox) : OutboxEvent → Prop
  | .deliver job inputs => Guarded (attempt inputs)
      (fun db q => FallsBack q.2 (inputs q.1) → ∀ j, Linked db q.1 j → j ≤ q.1) db (loadNotifications db job)
  | _ => True

/-! ## One attempt -/

section
variable {db : Outbox} {id : ℕ} {loaded : Notification}

theorem fallbackChain_rank {channel next : NotificationChannel} :
    fallbackChain channel = some next ↔ rank next = rank channel + 1 := by
  cases channel <;> cases next <;> simp [fallbackChain,rank]

theorem rank_injective : Function.Injective rank := by
  intro a b
  cases a <;> cases b <;> simp [rank]

theorem exists_fallback {channel : NotificationChannel} (h : channel ≠ .inApp) : ∃ next, fallbackChain channel = some next := by
  cases channel
  case inApp => exact absurd rfl h
  all_goals exact ⟨_,rfl⟩

theorem ne_freshChainId {n : Notification} {c : ℕ} (hn : db.row? id = some n) (hc : n.chainId = some c) :
    c ≠ freshChainId db := by
  have hmem : c ∈ db.notifications.rows.map fun q => q.2.chainId.getD 0 :=
    List.mem_map.mpr ⟨(id,n),Table.mem_of_get? hn,by rw [hc]; rfl⟩
  have hle : c ≤ (db.notifications.rows.map fun q => q.2.chainId.getD 0).foldr max 0 := by
    generalize (db.notifications.rows.map fun q => q.2.chainId.getD 0) = cs at hmem
    induction cs with
    | nil => cases hmem
    | cons a cs ih =>
      rw [List.foldr_cons]
      rcases List.mem_cons.mp hmem with rfl | hmem
      · exact le_max_left _ _
      · exact (ih hmem).trans (le_max_right _ _)
  rw [freshChainId]
  omega

/-- A row rewritten in place: it keeps its channel and its chain and does not die. -/
structure Rewrites (n m : Notification) : Prop where
  channel : m.channel = n.channel
  chainId : m.chainId = n.chainId
  dead : Dead m → Dead n
  failed : m.status = .failed → m.channel ≠ .inApp ∨ n.status = .failed
  delivered : m.status = .delivered → m.channel = .inApp ∨ n.status = .delivered

theorem Rewrites.refl (n : Notification) : Rewrites n n := ⟨rfl,rfl,id,.inr,.inr⟩

/-- The fallback of a notification. -/
def fallbackOf (loaded : Notification) (channel : NotificationChannel) (chainId : ℕ) : Notification :=
  { loaded with
    channel := channel
    status := if channel = .inApp then .delivered else .queued
    providerMessageId := none
    failureReason := none
    attemptCount := 0
    maxAttempts := 3
    nextRetryAt := none
    chainId := some chainId
    recorded := false }

def failInChain (loaded : Notification) (reason : String) (chainId : ℕ) (n : Notification) : Notification :=
  { markFailed loaded reason n with chainId := some chainId }

/-- The row is marked as failed, gets its chain and is followed by its fallback. -/
def fallsTo (db : Outbox) (id : ℕ) (loaded : Notification) (reason : String) (channel : NotificationChannel)
    (chainId : ℕ) : Outbox :=
  { db with
    notifications := (db.notifications.modify id (failInChain loaded reason chainId)).insert
      (fallbackOf loaded channel chainId) }

theorem settle_none (input : Input) (actions : ℕ) (db : Outbox) : settle input actions (db,none) = db := by
  cases actions <;> rfl

theorem settle_done (input : Input) (actions : ℕ) (db : Outbox) :
    settle input actions (db,some (.dispatching [])) = db := by
  cases actions with
  | zero => rfl
  | succ actions => exact settle_none input actions db

theorem settle_fallback (reason : String) {channel : NotificationChannel} (hloaded : db.row? id = some loaded)
    (hfall : fallbackChain loaded.channel = some channel) (input : Input) (actions : ℕ) :
    settle input (actions + 2) (deadLetter db id loaded reason []) =
      fallsTo db id loaded reason channel (loaded.chainId.getD input.drawnChainId) := by
  rw [deadLetter,hfall,Option.elim_some,settle,act]
  cases hchain : loaded.chainId with
  | none =>
    simp only [createFallbackNotification,hchain,settle,act,settle_done,Option.getD_none]
    simp only [fallsTo,update,Table.modify_eq_mapRows,Table.mapRows_mapRows]
    congr 2
    refine Table.mapRows_congr fun r _ => ?_
    by_cases h : r.1 = id
    · simp [h,failInChain]
    · simp [h]
  | some c =>
    simp only [createFallbackNotification,hchain,settle_done,Option.getD_some]
    simp only [fallsTo,update,Table.modify_eq_mapRows]
    congr 2
    refine Table.mapRows_congr fun r hr => ?_
    by_cases h : r.1 = id
    · have hrow : r.2 = loaded := Option.some.inj ((Table.get?_of_row hr).symm.trans (h ▸ hloaded))
      simp [h,hrow,failInChain,markFailed,hchain]
    · simp [h]

/-- The row is rewritten to something alive, or falls back. -/
def Comes (db : Outbox) (id : ℕ) (loaded : Notification) (chainId : ℕ) (falls : Prop) (db' : Outbox) : Prop :=
  (¬ falls ∧ ∃ g : Notification → Notification, Rewrites loaded (g loaded) ∧ db' = update db id g) ∨
  (falls ∧ ∃ reason channel, fallbackChain loaded.channel = some channel ∧
    db' = fallsTo db id loaded reason channel chainId)

theorem rewrites_markDelivered (h : loaded.channel = .inApp) : Rewrites loaded (markDelivered loaded loaded) where
  channel := rfl
  chainId := rfl
  dead hdead := by cases hdead.1
  failed hfailed := by cases hfailed
  delivered _ := .inl h

theorem rewrites_markSent (messageId : String) : Rewrites loaded (markSent loaded messageId loaded) where
  channel := rfl
  chainId := rfl
  dead hdead := by cases hdead.1
  failed hfailed := by cases hfailed
  delivered hdelivered := by cases hdelivered

theorem rewrites_retryLater (hin : loaded.channel ≠ .inApp) (hleft : ¬ loaded.maxAttempts ≤ loaded.attemptCount + 1)
    (reason : String) (now : ℕ) : Rewrites loaded (retryLater loaded reason now loaded) where
  channel := rfl
  chainId := rfl
  dead hdead := by
    rcases hdead.2 with h | h
    · exact absurd h hleft
    · cases h
  failed _ := .inl hin
  delivered hdelivered := by cases hdelivered

theorem settle_deadLetter (hloaded : db.row? id = some loaded) (hin : loaded.channel ≠ .inApp) (reason : String)
    (input : Input) (actions : ℕ) : Comes db id loaded (loaded.chainId.getD input.drawnChainId) True
      (settle input (actions + 2) (deadLetter db id loaded reason [])) := by
  obtain ⟨channel,hfall⟩ := exists_fallback hin
  exact .inr ⟨trivial,reason,channel,hfall,settle_fallback reason hloaded hfall input actions⟩

theorem settle_handleFailure (hloaded : db.row? id = some loaded) (hin : loaded.channel ≠ .inApp) (reason : String)
    (now : ℕ) (input : Input) (actions : ℕ) : Comes db id loaded (loaded.chainId.getD input.drawnChainId)
      (loaded.maxAttempts ≤ loaded.attemptCount + 1)
      (settle input (actions + 2) (handleFailure db id loaded reason now [])) := by
  rw [handleFailure]
  by_cases hleft : loaded.maxAttempts ≤ loaded.attemptCount + 1
  · rw [if_pos hleft]
    obtain ⟨channel,hfall⟩ := exists_fallback hin
    exact .inr ⟨hleft,reason,channel,hfall,settle_fallback reason hloaded hfall input actions⟩
  · rw [if_neg hleft]
    exact .inl ⟨hleft,retryLater loaded reason now,rewrites_retryLater hin hleft reason now,
      settle_done input (actions + 2) _⟩

/-- What an attempt comes to. -/
theorem attempt_comes (inputs : ℕ → Input) (hloaded : db.row? id = some loaded) :
    Comes db id loaded (loaded.chainId.getD (freshChainId db)) (FallsBack loaded (inputs id))
      (attempt inputs db (id,loaded)) := by
  rw [attempt,settle,act,prepare]
  by_cases hin : loaded.channel = .inApp
  · rw [if_pos hin]
    exact .inl ⟨fun h => h.1 hin,markDelivered loaded,rewrites_markDelivered hin,settle_done _ 3 _⟩
  · rw [if_neg hin]
    have hfalls : FallsBack loaded (inputs id) = Exhausts loaded (inputs id) := propext (and_iff_right hin)
    dsimp only
    cases hprepared : (inputs id).preparation with
    | noTemplate =>
      simp only [hfalls,Exhausts,hprepared]
      exact settle_deadLetter hloaded hin _ _ 1
    | noContact =>
      simp only [hfalls,Exhausts,hprepared]
      exact settle_deadLetter hloaded hin _ _ 1
    | administrativeSkip reason =>
      simp only [hfalls,Exhausts,hprepared]
      exact settle_deadLetter hloaded hin _ _ 1
    | renderingFails message =>
      simp only [hfalls,Exhausts,hprepared]
      exact settle_handleFailure hloaded hin _ _ _ 1
    | ready =>
      simp only [hfalls,Exhausts,hprepared,settle,act]
      cases (inputs id).answer with
      | ok messageId => exact .inl ⟨fun h => h,markSent loaded messageId,rewrites_markSent messageId,settle_done _ 2 _⟩
      | error message => exact settle_handleFailure hloaded hin _ _ _ 0

end

/-! ## What every history keeps -/

/-- Only rows for the inbox are delivered, and these never fail; a dead row has been followed by another one of its
chain. -/
structure Kept (db : Outbox) : Prop where
  failed : ∀ i n, db.row? i = some n → n.channel = .inApp → n.status ≠ .failed
  delivered : ∀ i n, db.row? i = some n → n.status = .delivered → n.channel = .inApp
  dead : ∀ i n, db.row? i = some n → Dead n → ∃ j, i < j ∧ Linked db i j
  stepwise : Stepwise db.chainOf db.rankOf

section
variable {db db' : Outbox} {id : ℕ} {loaded : Notification}

/-- Rows are rewritten in place. -/
structure Frame (db db' : Outbox) : Prop where
  rows : ∀ i m, db'.row? i = some m → ∃ n, db.row? i = some n ∧ Rewrites n m
  none : ∀ i, db'.row? i = none → db.row? i = none

theorem Frame.chainOf_eq (h : Frame db db') : db'.chainOf = db.chainOf := by
  funext i
  unfold Outbox.chainOf
  cases hm : db'.row? i with
  | none => rw [h.none i hm]
  | some m =>
    obtain ⟨n,hn,hr⟩ := h.rows i m hm
    rw [hn]
    exact hr.chainId

theorem Frame.rankOf_eq (h : Frame db db') : db'.rankOf = db.rankOf := by
  funext i
  unfold Outbox.rankOf
  cases hm : db'.row? i with
  | none => rw [h.none i hm]
  | some m =>
    obtain ⟨n,hn,hr⟩ := h.rows i m hm
    rw [hn]
    exact congrArg rank hr.channel

theorem Frame.distinct_iff (h : Frame db db') : Distinct db'.chainOf db'.rankOf ↔ Distinct db.chainOf db.rankOf := by
  rw [h.chainOf_eq,h.rankOf_eq]

theorem Frame.kept (h : Frame db db') (hk : Kept db) : Kept db' where
  failed i m hm hin hfailed := by
    obtain ⟨n,hn,hr⟩ := h.rows i m hm
    rcases hr.failed hfailed with hne | hf
    · exact hne hin
    · exact hk.failed i n hn (hr.channel ▸ hin) hf
  delivered i m hm hdelivered := by
    obtain ⟨n,hn,hr⟩ := h.rows i m hm
    rcases hr.delivered hdelivered with hin | hd
    · exact hin
    · exact hr.channel.trans (hk.delivered i n hn hd)
  dead i m hm hdead := by
    obtain ⟨n,hn,hr⟩ := h.rows i m hm
    obtain ⟨j,hij,hlinked⟩ := hk.dead i n hn (hr.dead hdead)
    exact ⟨j,hij,by rw [Linked,h.chainOf_eq]; exact hlinked⟩
  stepwise := by
    rw [h.chainOf_eq,h.rankOf_eq]
    exact hk.stepwise

theorem row?_update (g : Notification → Notification) (i : ℕ) :
    (update db id g).row? i = if i = id then (db.row? i).map g else db.row? i := Table.get?_modify _ _ _ _

theorem frame_update {g : Notification → Notification} (hloaded : db.row? id = some loaded)
    (hg : Rewrites loaded (g loaded)) : Frame db (update db id g) where
  rows i m hm := by
    rw [row?_update] at hm
    split at hm
    case isTrue hi =>
      rw [hi,hloaded] at hm
      obtain rfl := Option.some.inj hm
      exact ⟨loaded,hi ▸ hloaded,hg⟩
    case isFalse => exact ⟨m,hm,.refl m⟩
  none i hm := by
    rw [row?_update] at hm
    split at hm
    · exact Option.map_eq_none_iff.mp hm
    · exact hm

theorem frame_updateMany {tenantId : ℕ} {ids : List ℕ} {p : Notification → Bool} {g : Notification → Notification}
    (hg : ∀ n, p n = true → Rewrites n (g n)) : Frame db (updateMany db tenantId ids p g) where
  rows i m hm := by
    obtain ⟨n,hn,rfl⟩ := Option.map_eq_some_iff.mp ((Table.get?_mapRows _ _ _).symm.trans hm)
    refine ⟨n,hn,?_⟩
    split
    case isTrue h => exact hg n (Bool.and_eq_true_iff.mp h).2
    case isFalse => exact .refl n
  none i hm := Option.map_eq_none_iff.mp ((Table.get?_mapRows _ _ _).symm.trans hm)

theorem frame_clearRetry (tenantId : ℕ) (ids : List ℕ) : Frame db (clearRetry db tenantId ids) := by
  refine frame_updateMany fun n hn => ?_
  have hqueued : n.status = .queued := of_decide_eq_true hn
  exact {
    channel := rfl
    chainId := rfl
    dead := fun h => absurd (hqueued.symm.trans h.1) (by decide)
    failed := fun h => .inr h
    delivered := fun h => .inr h }

theorem frame_retryGroup (tenantId : ℕ) (ids : List ℕ) : Frame db (retryGroup db tenantId ids) :=
  frame_updateMany fun _ _ => {
    channel := rfl
    chainId := rfl
    dead := fun h => by cases h.1
    failed := fun h => by cases h
    delivered := fun h => by cases h }

/-! A submitted row belongs to no chain. -/

theorem row?_insert (new : Notification) (i : ℕ) :
    ({ db with notifications := db.notifications.insert new } : Outbox).row? i =
      if i = db.notifications.next then some new else db.row? i := Table.get?_insert _ _ _

theorem lt_next_of_row {i : ℕ} {n : Notification} (h : db.row? i = some n) : i < db.notifications.next :=
  Table.lt_next_of_get? h

theorem lt_next_of_chainOf {i : ℕ} (h : db.chainOf i ≠ none) : i < db.notifications.next := by
  cases hn : db.row? i with
  | none => exact absurd (by rw [Outbox.chainOf,hn]; rfl) h
  | some n => exact lt_next_of_row hn

theorem chainOf_submit (s : Submission) : (outboxStep db (.submit s)).chainOf = db.chainOf := by
  funext i
  rw [Outbox.chainOf,outboxStep,row?_insert]
  split
  case isTrue hi =>
    have hnone : db.row? i = none := hi ▸ Table.get?_next _
    rw [Outbox.chainOf,hnone]
    rfl
  case isFalse => rfl

theorem rankOf_submit (s : Submission) {i : ℕ} (hi : db.chainOf i ≠ none) :
    (outboxStep db (.submit s)).rankOf i = db.rankOf i := by
  rw [Outbox.rankOf,outboxStep,row?_insert,if_neg (lt_next_of_chainOf hi).ne]
  rfl

theorem kept_submit (s : Submission) (hk : Kept db) : Kept (outboxStep db (.submit s)) where
  failed i n hn hin := by
    rw [outboxStep,row?_insert] at hn
    split at hn
    · obtain rfl := Option.some.inj hn
      exact fun h => by cases h
    · exact hk.failed i n hn hin
  delivered i n hn hdelivered := by
    rw [outboxStep,row?_insert] at hn
    split at hn
    · obtain rfl := Option.some.inj hn
      cases hdelivered
    · exact hk.delivered i n hn hdelivered
  dead i n hn hdead := by
    rw [outboxStep,row?_insert] at hn
    split at hn
    · obtain rfl := Option.some.inj hn
      cases hdead.1
    · obtain ⟨j,hij,hlinked⟩ := hk.dead i n hn hdead
      exact ⟨j,hij,by rw [Linked,chainOf_submit]; exact hlinked⟩
  stepwise := by
    rw [chainOf_submit]
    exact stepwise_congr (fun _ hj => rankOf_submit s hj) hk.stepwise

theorem distinct_submit_iff (s : Submission) : Distinct (outboxStep db (.submit s)).chainOf
    (outboxStep db (.submit s)).rankOf ↔ Distinct db.chainOf db.rankOf := by
  rw [chainOf_submit]
  exact distinct_congr fun _ hj => rankOf_submit s hj

/-! The fallback follows its row in the chain. -/

theorem row?_fallsTo (reason : String) (channel : NotificationChannel) (c i : ℕ) :
    (fallsTo db id loaded reason channel c).row? i =
      if i = db.notifications.next then some (fallbackOf loaded channel c)
      else if i = id then (db.row? i).map (failInChain loaded reason c)
      else db.row? i := by
  refine (Table.get?_insert _ _ _).trans ?_
  rw [Table.next_modify]
  split
  · rfl
  · exact Table.get?_modify _ _ _ _

theorem extends_fallsTo (hloaded : db.row? id = some loaded) (reason : String) {channel : NotificationChannel}
    (hfall : fallbackChain loaded.channel = some channel) :
    Extends db.chainOf (fallsTo db id loaded reason channel (loaded.chainId.getD (freshChainId db))).chainOf
      db.rankOf (fallsTo db id loaded reason channel (loaded.chainId.getD (freshChainId db))).rankOf
      id db.notifications.next (loaded.chainId.getD (freshChainId db)) where
  below := lt_next_of_row hloaded
  fresh j hj := lt_next_of_chainOf hj
  belongs := by
    rw [Outbox.chainOf,hloaded,Option.bind_some]
    cases hc : loaded.chainId with
    | some c => exact .inl rfl
    | none =>
      refine .inr ⟨rfl,fun j hj => ?_⟩
      obtain ⟨n,hn,hchain⟩ := Option.bind_eq_some_iff.mp hj
      exact ne_freshChainId hn hchain rfl
  chain_eq j := by
    rw [Outbox.chainOf,row?_fallsTo]
    by_cases hnew : j = db.notifications.next
    · rw [if_pos hnew,if_pos (.inl hnew)]
      rfl
    · by_cases hj : j = id
      · subst hj
        rw [if_neg hnew,if_pos rfl,if_pos (.inr rfl),hloaded]
        rfl
      · rw [if_neg hnew,if_neg hj,if_neg (not_or.mpr ⟨hnew,hj⟩)]
        rfl
  rank_eq j := by
    rw [Outbox.rankOf,row?_fallsTo]
    by_cases hnew : j = db.notifications.next
    · rw [if_pos hnew,if_pos hnew,Outbox.rankOf,hloaded]
      exact fallbackChain_rank.mp hfall
    · rw [if_neg hnew,if_neg hnew,Outbox.rankOf]
      by_cases hj : j = id
      · subst hj
        rw [if_pos rfl,hloaded]
        rfl
      · rw [if_neg hj]

theorem kept_fallsTo (hk : Kept db) (hloaded : db.row? id = some loaded) (reason : String)
    {channel : NotificationChannel} (hfall : fallbackChain loaded.channel = some channel) :
    Kept (fallsTo db id loaded reason channel (loaded.chainId.getD (freshChainId db))) := by
  have hext := extends_fallsTo hloaded reason hfall
  -- the row that falls back is followed by its fallback
  have hfollowed : Linked (fallsTo db id loaded reason channel (loaded.chainId.getD (freshChainId db))) id
      db.notifications.next := ⟨_,hext.chain_self_iff.mpr (.inr (.inl rfl)),hext.chain_self_iff.mpr (.inl rfl)⟩
  have hchannel : loaded.channel ≠ .inApp := by
    intro h
    rw [h] at hfall
    cases hfall
  refine ⟨fun i n hn hin => ?_,fun i n hn hdelivered => ?_,fun i n hn hdead => ?_,hext.stepwise hk.stepwise⟩
  · rw [row?_fallsTo] at hn
    split at hn
    · obtain rfl := Option.some.inj hn
      have hstatus : (fallbackOf loaded channel (loaded.chainId.getD (freshChainId db))).status = .delivered := if_pos hin
      rw [hstatus]
      decide
    · split at hn
      case isTrue hi =>
        rw [hi,hloaded] at hn
        obtain rfl := Option.some.inj hn
        exact absurd hin hchannel
      case isFalse => exact hk.failed i n hn hin
  · rw [row?_fallsTo] at hn
    split at hn
    · obtain rfl := Option.some.inj hn
      by_contra hin
      have hstatus : (fallbackOf loaded channel (loaded.chainId.getD (freshChainId db))).status = .queued := if_neg hin
      exact absurd (hstatus.symm.trans hdelivered) (by decide)
    · split at hn
      · obtain ⟨m,-,rfl⟩ := Option.map_eq_some_iff.mp hn
        cases hdelivered
      · exact hk.delivered i n hn hdelivered
  · rw [row?_fallsTo] at hn
    split at hn
    · obtain rfl := Option.some.inj hn
      have hstatus : (fallbackOf loaded channel (loaded.chainId.getD (freshChainId db))).status ≠ .failed := by
        unfold fallbackOf
        dsimp only
        split <;> decide
      exact absurd hdead.1 hstatus
    · split at hn
      case isTrue hi => exact ⟨_,hi ▸ hext.below,hi ▸ hfollowed⟩
      case isFalse =>
        obtain ⟨j,hij,c,hi,hj⟩ := hk.dead i n hn hdead
        exact ⟨j,hij,c,hext.chain_mono hi,hext.chain_mono hj⟩

/-! ## One attempt, and a job of them -/

theorem attempt_kept (inputs : ℕ → Input) (hk : Kept db) (hloaded : db.row? id = some loaded) :
    Kept (attempt inputs db (id,loaded)) := by
  rcases attempt_comes inputs hloaded with ⟨-,g,hg,h⟩ | ⟨-,reason,channel,hfall,h⟩
  · rw [h]
    exact (frame_update hloaded hg).kept hk
  · rw [h]
    exact kept_fallsTo hk hloaded reason hfall

theorem attempt_distinct_iff (inputs : ℕ → Input) (hk : Kept db) (hd : Distinct db.chainOf db.rankOf)
    (hloaded : db.row? id = some loaded) :
    Distinct (attempt inputs db (id,loaded)).chainOf (attempt inputs db (id,loaded)).rankOf ↔
      (FallsBack loaded (inputs id) → ∀ j, Linked db id j → j ≤ id) := by
  rcases attempt_comes inputs hloaded with ⟨hnot,g,hg,h⟩ | ⟨hfalls,reason,channel,hfall,h⟩
  · rw [h,(frame_update hloaded hg).distinct_iff]
    exact iff_of_true hd fun hfalls => absurd hfalls hnot
  · rw [h,(extends_fallsTo hloaded reason hfall).distinct_iff hd hk.stepwise]
    exact ⟨fun h _ => h,fun h => h hfalls⟩

theorem distinct_of_attempt (inputs : ℕ → Input) (hloaded : db.row? id = some loaded)
    (hd : Distinct (attempt inputs db (id,loaded)).chainOf (attempt inputs db (id,loaded)).rankOf) :
    Distinct db.chainOf db.rankOf := by
  rcases attempt_comes inputs hloaded with ⟨-,g,hg,h⟩ | ⟨-,reason,channel,hfall,h⟩
  · rw [h,(frame_update hloaded hg).distinct_iff] at hd
    exact hd
  · rw [h] at hd
    exact (extends_fallsTo hloaded reason hfall).distinct_of hd

/-- Other rows stay as they are. -/
theorem row?_attempt (inputs : ℕ → Input) (hloaded : db.row? id = some loaded) {i : ℕ} {n : Notification}
    (hn : db.row? i = some n) (hi : i ≠ id) : (attempt inputs db (id,loaded)).row? i = some n := by
  rcases attempt_comes inputs hloaded with ⟨-,g,hg,h⟩ | ⟨-,reason,channel,hfall,h⟩
  · rw [h,row?_update,if_neg hi,hn]
  · rw [h,row?_fallsTo,if_neg (lt_next_of_row hn).ne,if_neg hi,hn]

/-- What is loaded: each row once, as it is. -/
structure Loaded (db : Outbox) (qs : List (ℕ × Notification)) : Prop where
  current : ∀ q ∈ qs, db.row? q.1 = some q.2
  nodup : (qs.map Prod.fst).Nodup

theorem loaded_loadNotifications (db : Outbox) (job : DispatchJob) : Loaded db (loadNotifications db job) where
  current _ hq := Table.get?_of_row (List.mem_of_mem_filter hq)
  nodup := db.notifications.nodup.sublist (List.filter_sublist.map _)

theorem Loaded.attempt {q : ℕ × Notification} {qs : List (ℕ × Notification)} (h : Loaded db (q :: qs))
    (inputs : ℕ → Input) : Loaded (attempt inputs db q) qs where
  current q' hq' := by
    have hne : q'.1 ≠ q.1 := fun he => (List.nodup_cons.mp h.nodup).1 (he ▸ List.mem_map_of_mem hq')
    exact row?_attempt inputs (h.current q List.mem_cons_self) (h.current q' (List.mem_cons_of_mem _ hq')) hne
  nodup := (List.nodup_cons.mp h.nodup).2

theorem attempts_kept (inputs : ℕ → Input) (qs : List (ℕ × Notification)) {db : Outbox} (hk : Kept db)
    (hl : Loaded db qs) : Kept (qs.foldl (attempt inputs) db) := by
  induction qs generalizing db with
  | nil => exact hk
  | cons q qs ih => exact ih (attempt_kept inputs hk (hl.current q List.mem_cons_self)) (hl.attempt inputs)

theorem distinct_of_attempts (inputs : ℕ → Input) (qs : List (ℕ × Notification)) {db : Outbox} (hl : Loaded db qs)
    (hd : Distinct (qs.foldl (attempt inputs) db).chainOf (qs.foldl (attempt inputs) db).rankOf) :
    Distinct db.chainOf db.rankOf := by
  induction qs generalizing db with
  | nil => exact hd
  | cons q qs ih => exact distinct_of_attempt inputs (hl.current q List.mem_cons_self) (ih (hl.attempt inputs) hd)

theorem attempts_distinct_iff (inputs : ℕ → Input) (qs : List (ℕ × Notification)) {db : Outbox} (hk : Kept db)
    (hd : Distinct db.chainOf db.rankOf) (hl : Loaded db qs) :
    Distinct (qs.foldl (attempt inputs) db).chainOf (qs.foldl (attempt inputs) db).rankOf ↔ Guarded (attempt inputs)
      (fun db q => FallsBack q.2 (inputs q.1) → ∀ j, Linked db q.1 j → j ≤ q.1) db qs := by
  induction qs generalizing db with
  | nil => exact iff_of_true hd trivial
  | cons q qs ih =>
    have hloaded := hl.current q List.mem_cons_self
    have hone := attempt_distinct_iff inputs hk hd hloaded
    have hrest (hd' : Distinct (attempt inputs db q).chainOf (attempt inputs db q).rankOf) :=
      ih (attempt_kept inputs hk hloaded) hd' (hl.attempt inputs)
    rw [List.foldl_cons]
    constructor
    · intro h
      have hd' := distinct_of_attempts inputs qs (hl.attempt inputs) h
      exact ⟨hone.mp hd',(hrest hd').mp h⟩
    · rintro ⟨hq,hqs⟩
      exact (hrest (hone.mpr hq)).mpr hqs

theorem outboxStep_kept (event : OutboxEvent) (hk : Kept db) : Kept (outboxStep db event) := by
  cases event with
  | submit s => exact kept_submit s hk
  | clearRetry tenantId ids => exact (frame_clearRetry tenantId ids).kept hk
  | retryGroup tenantId ids => exact (frame_retryGroup tenantId ids).kept hk
  | deliver job inputs => exact attempts_kept inputs _ hk (loaded_loadNotifications db job)

theorem outboxStep_distinct_iff (event : OutboxEvent) (hk : Kept db) (hd : Distinct db.chainOf db.rankOf) :
    Distinct (outboxStep db event).chainOf (outboxStep db event).rankOf ↔ FallsBackOnce db event := by
  cases event with
  | submit s => exact iff_of_true ((distinct_submit_iff s).mpr hd) trivial
  | clearRetry tenantId ids => exact iff_of_true ((frame_clearRetry tenantId ids).distinct_iff.mpr hd) trivial
  | retryGroup tenantId ids => exact iff_of_true ((frame_retryGroup tenantId ids).distinct_iff.mpr hd) trivial
  | deliver job inputs => exact attempts_distinct_iff inputs _ hk hd (loaded_loadNotifications db job)

/-! ## Main theorem -/

theorem rankOf_of_row {i : ℕ} {n : Notification} (h : db.row? i = some n) : db.rankOf i = rank n.channel := by
  rw [Outbox.rankOf,h]
  rfl

theorem Linked.rows {i j : ℕ} (h : Linked db i j) : ∃ n m, db.row? i = some n ∧ db.row? j = some m := by
  obtain ⟨c,hi,hj⟩ := h
  obtain ⟨n,hn,-⟩ := Option.bind_eq_some_iff.mp hi
  obtain ⟨m,hm,-⟩ := Option.bind_eq_some_iff.mp hj
  exact ⟨n,m,hn,hm⟩

/-- The last row of a chain that is settled is a delivered one. -/
theorem Kept.ends (hk : Kept db) {i : ℕ} {n : Notification} (hn : db.row? i = some n)
    (hsettled : ∀ j m, InChain db i j → db.row? j = some m → m.status ≠ .sent ∧ Settled m) :
    ∃ j m, InChain db i j ∧ db.row? j = some m ∧ (∀ k, InChain db i k → k ≤ j) ∧
      m.channel = .inApp ∧ m.status = .delivered := by
  classical
  have hrow {k : ℕ} (hik : InChain db i k) : ∃ m, db.row? k = some m := by
    rcases hik with rfl | h
    · exact ⟨n,hn⟩
    · obtain ⟨-,m,-,hm⟩ := h.rows
      exact ⟨m,hm⟩
  have hbound {k : ℕ} (hik : InChain db i k) : k ≤ db.notifications.next := by
    obtain ⟨m,hm⟩ := hrow hik
    exact (lt_next_of_row hm).le
  obtain ⟨j,hij,hmax⟩ : ∃ j, InChain db i j ∧ ∀ k, InChain db i k → k ≤ j :=
    ⟨Nat.findGreatest (InChain db i) db.notifications.next,
      Nat.findGreatest_spec (hbound (.inl rfl)) (.inl rfl),fun k hik => Nat.le_findGreatest (hbound hik) hik⟩
  obtain ⟨m,hm⟩ := hrow hij
  rcases (hsettled j m hij hm).2 with hdelivered | hdead
  · exact ⟨j,m,hij,hm,hmax,hk.delivered j m hm hdelivered,hdelivered⟩
  · obtain ⟨l,hjl,hlinked⟩ := hk.dead j m hm hdead
    have hil : InChain db i l := by
      rcases hij with rfl | hij
      · exact .inr hlinked
      · exact .inr (hij.trans hlinked)
    exact absurd (hmax l hil) (not_le.mpr hjl)

theorem Kept.follows (hk : Kept db) {i j : ℕ} {m : Notification} (hm : db.row? j = some m) (hij : Linked db i j)
    (hlt : i < j) : ∃ p n, p < j ∧ Linked db p j ∧ db.row? p = some n ∧ fallbackChain n.channel = some m.channel := by
  obtain ⟨p,hpj,hp,hrank⟩ := hk.stepwise i j hij hlt
  obtain ⟨n,-,hn,-⟩ := Linked.rows hp
  rw [rankOf_of_row hm,rankOf_of_row hn] at hrank
  exact ⟨p,n,hpj,hp,hn,fallbackChain_rank.mpr hrank⟩

theorem Kept.proper_iff_distinct (hk : Kept db) : ProperChains db ↔ Distinct db.chainOf db.rankOf := by
  constructor
  · intro h i j hij hrank
    obtain ⟨n,m,hn,hm⟩ := Linked.rows hij
    rw [rankOf_of_row hn,rankOf_of_row hm] at hrank
    exact h.onePerChannel i j n m hn hm hij (rank_injective hrank)
  · intro hd
    exact {
      onePerChannel := fun i j n m hn hm hij hc => hd i j hij (by rw [rankOf_of_row hn,rankOf_of_row hm,hc])
      follows := fun i j m hm hij hlt => hk.follows hm hij hlt
      ends := fun i n hn hsettled => hk.ends hn hsettled }

end

theorem kept_empty : Kept Outbox.empty where
  failed _ _ hn := by cases hn
  delivered _ _ hn := by cases hn
  dead _ _ hn := by cases hn
  stepwise := by
    rintro i j ⟨c,hi,-⟩
    cases hi

/-- The chains are proper all along exactly when no attempt falls back twice from one row. -/
theorem properChains_iff (events : List OutboxEvent) :
    (∀ db ∈ trace outboxStep Outbox.empty events, ProperChains db) ↔
      Guarded outboxStep FallsBackOnce Outbox.empty events := by
  have hdistinct : Distinct Outbox.empty.chainOf Outbox.empty.rankOf := by
    rintro i j ⟨c,hi,-⟩
    cases hi
  have hkept : ∀ db ∈ trace outboxStep Outbox.empty events, Kept db :=
    trace_invariant (fun _ event hk (_ : True) => outboxStep_kept event hk) kept_empty (guarded_of_forall fun _ _ => trivial)
  rw [← trace_invariant_iff (fun _ event hk => outboxStep_kept event hk)
    (fun _ event hk hd => outboxStep_distinct_iff event hk hd) kept_empty hdistinct]
  exact forall₂_congr fun db hdb => (hkept db hdb).proper_iff_distinct

/-- An email without an address, dispatched by two jobs, leaves two rows for the inbox. -/
theorem not_properChains : ¬ ∀ events : List OutboxEvent,
    ∀ db ∈ trace outboxStep Outbox.empty events, ProperChains db := by
  intro h
  let job : OutboxEvent := .deliver ⟨1,[0],none⟩ fun _ => ⟨0,true,.noContact,.error "",0⟩
  let events : List OutboxEvent := [.submit ⟨1,7,.email,none,"en","",none,none,3⟩,job,job]
  have hproper := h events (events.foldl outboxStep Outbox.empty) (foldl_mem_trace _ _)
  have hrows : ∃ n m, (events.foldl outboxStep Outbox.empty).row? 1 = some n ∧
      (events.foldl outboxStep Outbox.empty).row? 2 = some m ∧ n.channel = m.channel := by
    refine ⟨_,_,rfl,rfl,rfl⟩
  obtain ⟨n,m,hn,hm,hc⟩ := hrows
  exact absurd (hproper.onePerChannel 1 2 n m hn hm ⟨1,by decide +kernel,by decide +kernel⟩ hc) (by decide)

end EduPod.Notifications
