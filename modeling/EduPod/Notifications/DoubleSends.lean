import EduPod.Notifications.Dispatch

/-! # Notifications sent twice

Nothing in the rows says that a notification is being sent. If no job loads what another one still
has in hand, and no retry tick puts a notification back that was sent meanwhile, the provider never
gets a notification again that was sent, nor two at a time.
-/
namespace EduPod.Notifications
open Processes Runs

/-- The notifications a job has in hand: loaded, and not yet through. -/
def Process.claims : Process → List ℕ
  | .dispatching rest => rest.map Prod.fst
  | .calling id _ rest => id :: rest.map Prod.fst
  | .fallingBack _ _ _ rest => rest.map Prod.fst
  | _ => []

/-- The notification that is with the provider. -/
def Process.calls : Process → Option ℕ
  | .calling id _ _ => some id
  | _ => none

/-- What the next action of a retry tick puts back. -/
def Process.resets : Process → List ℕ
  | .ticking (.retryGroup _ ids :: _) => ids
  | _ => []

/-- What is with the provider has not been sent and recorded, and is there once only. -/
def SentOnce (st : State Outbox Process) : Prop := ∀ i q id, st.processes.get? i = some q → q.calls = some id →
  (∀ n, st.store.notifications.get? id = some n → n.recorded = false) ∧
    ∀ j q', j ≠ i → st.processes.get? j = some q' → q'.calls ≠ some id

/-- What a retry tick puts back has not been sent. -/
def ResetsUnsent (db : Outbox) (process : Process) (input : Input) : Prop := ∀ tenantId ids rest,
  process = .ticking (.retryGroup tenantId ids :: rest) → input.moduleEnabled = true → ∀ id ∈ ids, ∀ n,
    db.notifications.get? id = some n → n.tenantId = tenantId → n.status ≠ .sent

/-- A recorded send is in the status. -/
def RecordedSent (db : Outbox) : Prop := ∀ id n, db.notifications.get? id = some n → n.recorded = true → n.status = .sent

structure InHand (db : Outbox) (process : Process) : Prop where
  once : process.claims.Nodup
  unrecorded : ∀ id ∈ process.claims, ∃ n, db.notifications.get? id = some n ∧ n.recorded = false

/-! ## Writes -/

/-- Outside of `ids` the rows keep whether they are recorded. -/
def KeepsOutside (ids : List ℕ) (db db' : Outbox) : Prop := ∀ id n, db.notifications.get? id = some n → id ∉ ids →
  ∃ n', db'.notifications.get? id = some n' ∧ n'.recorded = n.recorded

section
variable {db db' : Outbox} {id : ℕ} {ids : List ℕ} {loaded : Notification} {rest : List (ℕ × Notification)}

theorem KeepsOutside.refl (ids : List ℕ) (db : Outbox) : KeepsOutside ids db db := fun _ n hn _ => ⟨n,hn,rfl⟩

theorem keepsOutside_update (id : ℕ) (g : Notification → Notification) : KeepsOutside [id] db (update db id g) := by
  intro i n hn hi
  exact ⟨n,by rw [update,Table.get?_modify_ne _ (by simpa using hi)]; exact hn,rfl⟩

/-- An update that leaves the recorded flag alone. -/
theorem keepsOutside_update_quiet (id : ℕ) {g : Notification → Notification} (hg : ∀ n, (g n).recorded = n.recorded) :
    KeepsOutside [] db (update db id g) := by
  intro i n hn _
  by_cases hi : i = id
  · subst hi
    exact ⟨g n,Table.get?_modify_self hn g,hg n⟩
  · exact ⟨n,by rw [update,Table.get?_modify_ne _ hi]; exact hn,rfl⟩

theorem keepsOutside_insert (new : Notification) : KeepsOutside [] db { db with notifications := db.notifications.insert new } := by
  intro i n hn _
  refine ⟨n,?_,rfl⟩
  rw [Table.get?_insert,if_neg (Table.lt_next_of_get? hn).ne]
  exact hn

theorem keepsOutside_updateMany {tenantId : ℕ} {p : Notification → Bool} {g : Notification → Notification}
    (hg : ∀ n, (g n).recorded = n.recorded) : KeepsOutside [] db (updateMany db tenantId ids p g) := by
  intro i n hn _
  refine ⟨_,by rw [updateMany,Table.get?_mapRows,hn]; rfl,?_⟩
  dsimp only
  split
  · exact hg n
  · rfl

theorem RecordedSent.update (h : RecordedSent db) {id : ℕ} {g : Notification → Notification}
    (hg : ∀ n, db.notifications.get? id = some n → (g n).recorded = true → (g n).status = .sent) :
    RecordedSent (update db id g) := by
  intro i n hn
  rw [Notifications.update,Table.get?_modify] at hn
  split at hn
  · rename_i hi
    subst hi
    obtain ⟨n,hold,rfl⟩ := Option.map_eq_some_iff.mp hn
    exact hg n hold
  · exact h i n hn

theorem RecordedSent.insert (h : RecordedSent db) {new : Notification} (hnew : new.recorded = false) :
    RecordedSent { db with notifications := db.notifications.insert new } := by
  intro i n hn
  rw [Table.get?_insert] at hn
  split at hn
  · rw [← Option.some.inj hn,hnew]
    exact fun he => (by cases he)
  · exact h i n hn

theorem RecordedSent.updateMany (h : RecordedSent db) {tenantId : ℕ} {p : Notification → Bool} {g : Notification → Notification}
    (hg : ∀ i ∈ ids, ∀ n, db.notifications.get? i = some n → n.tenantId = tenantId → p n = true → (g n).recorded = true →
      (g n).status = .sent) : RecordedSent (updateMany db tenantId ids p g) := by
  intro i n hn
  rw [Notifications.updateMany,Table.get?_mapRows] at hn
  obtain ⟨n,hold,rfl⟩ := Option.map_eq_some_iff.mp hn
  split
  · rename_i hcond
    simp only [Bool.and_eq_true,List.contains_iff_mem,beq_iff_eq] at hcond
    exact hg i hcond.1.1 n hold hcond.1.2 hcond.2
  · exact h i n hold

/-! ## What a job writes to the notification it is at -/

/-- An action writes the row a job is at, if any, and leaves it as recorded as it was. -/
def WritesQuietly (db : Outbox) (id : ℕ) (db' : Outbox) : Prop :=
  ∃ g : Notification → Notification, (∀ n, (g n).recorded = n.recorded) ∧ db' = update db id g

theorem claims_deadLetter {reason : String} {next : Process} (h : (deadLetter db id loaded reason rest).2 = some next) :
    next.claims = rest.map Prod.fst := by
  obtain rfl := Option.some.inj h
  cases fallbackChain loaded.channel <;> rfl

theorem writesQuietly_deadLetter (reason : String) : WritesQuietly db id (deadLetter db id loaded reason rest).1 :=
  ⟨markFailed loaded reason,fun _ => rfl,rfl⟩

theorem writesQuietly_handleFailure (reason : String) (now : ℕ) :
    WritesQuietly db id (handleFailure db id loaded reason now rest).1 := by
  unfold handleFailure
  split
  · exact writesQuietly_deadLetter reason
  · exact ⟨retryLater loaded reason now,fun _ => rfl,rfl⟩

theorem claims_handleFailure {reason : String} {now : ℕ} {next : Process}
    (h : (handleFailure db id loaded reason now rest).2 = some next) : next.claims = rest.map Prod.fst := by
  unfold handleFailure at h
  split at h
  · exact claims_deadLetter h
  · obtain rfl := Option.some.inj h
    rfl

/-- A notification is handed over without a write; otherwise the job is through with it. -/
theorem prepare_cases (db : Outbox) (id : ℕ) (loaded : Notification) (input : Input) (rest : List (ℕ × Notification)) :
    prepare db id loaded input rest = (db,some (.calling id loaded rest)) ∨
      WritesQuietly db id (prepare db id loaded input rest).1 ∧
        ∀ next, (prepare db id loaded input rest).2 = some next → next.claims = rest.map Prod.fst := by
  unfold prepare
  split
  · refine .inr ⟨⟨markDelivered loaded,fun _ => rfl,rfl⟩,fun next h => ?_⟩
    obtain rfl := Option.some.inj h
    rfl
  · cases input.preparation with
    | noTemplate => exact .inr ⟨writesQuietly_deadLetter _,fun _ h => claims_deadLetter h⟩
    | noContact => exact .inr ⟨writesQuietly_deadLetter _,fun _ h => claims_deadLetter h⟩
    | administrativeSkip reason => exact .inr ⟨writesQuietly_deadLetter _,fun _ h => claims_deadLetter h⟩
    | renderingFails message => exact .inr ⟨writesQuietly_handleFailure _ _,fun _ h => claims_handleFailure h⟩
    | ready => exact .inl rfl

/-! ## What an action writes, and what it has in hand after -/

theorem KeepsOutside.mono {ids' : List ℕ} (h : KeepsOutside ids db db') (hsub : ∀ i ∈ ids, i ∈ ids') : KeepsOutside ids' db db' :=
  fun i n hn hi => h i n hn fun hmem => hi (hsub i hmem)

theorem WritesQuietly.keepsOutside (h : WritesQuietly db id db') : KeepsOutside [] db db' := by
  obtain ⟨g,hg,rfl⟩ := h
  exact keepsOutside_update_quiet id hg

theorem WritesQuietly.recordedSent (h : WritesQuietly db id db') (hsent : RecordedSent db)
    (hid : ∃ n, db.notifications.get? id = some n ∧ n.recorded = false) : RecordedSent db' := by
  obtain ⟨g,hg,rfl⟩ := h
  obtain ⟨n,hn,hr⟩ := hid
  refine hsent.update fun n' hn' hr' => ?_
  obtain rfl := Option.some.inj (hn.symm.trans hn')
  rw [hg,hr] at hr'
  cases hr'

end

/-- The notification whose send an action records. -/
def records (process : Process) (input : Input) : List ℕ :=
  match process,input.answer with
  | .calling id _ _,.ok _ => [id]
  | _,_ => []

section
variable (db : Outbox) (process : Process) (input : Input)

theorem act_keepsOutside : KeepsOutside (records process input) db (act db process input).1 := by
  cases process with
  | opened request => cases request with
    | submit submission => exact keepsOutside_insert _
    | enqueue job => exact .refl _ _
    | dispatchQueued => exact .refl _ _
    | retryFailed => exact .refl _ _
    | delivery job => exact .refl _ _
  | ticking actions => cases actions with
    | nil => exact .refl _ _
    | cons action rest => cases action with
      | clearRetry tenantId ids => exact keepsOutside_updateMany fun _ => rfl
      | retryGroup tenantId ids =>
        simp only [act]
        split
        · exact keepsOutside_updateMany fun _ => rfl
        · exact .refl _ _
      | add job => exact .refl _ _
  | dispatching rest => cases rest with
    | nil => exact .refl _ _
    | cons q rest =>
      rcases prepare_cases db q.1 q.2 input rest with h | ⟨h,-⟩
      · simp only [act,h]
        exact .refl _ _
      · exact h.keepsOutside
  | calling id loaded rest =>
    cases h : input.answer with
    | ok messageId =>
      simp only [act,records,h]
      exact keepsOutside_update _ _
    | error message =>
      simp only [act,records,h]
      exact (writesQuietly_handleFailure _ _).keepsOutside
  | fallingBack id original channel rest =>
    simp only [act,createFallbackNotification]
    split
    · exact keepsOutside_update_quiet id fun _ => rfl
    · exact keepsOutside_insert _

theorem records_subset : ∀ k ∈ records process input, k ∈ process.claims := by
  intro k hk
  cases process with
  | calling id loaded rest =>
    cases ha : input.answer with
    | ok messageId =>
      simp only [records,ha,List.mem_singleton] at hk
      rw [hk]
      exact List.mem_cons_self
    | error message => simp [records,ha] at hk
  | opened request => cases hk
  | ticking actions => cases hk
  | dispatching rest => cases hk
  | fallingBack id original channel rest => cases hk

/-- What a job has in hand gets less, but when it loads, and what has been recorded is out of its hands. -/
theorem act_claims {next : Process} (h : (act db process input).2 = some next) :
    (∃ job, process = .opened (.delivery job) ∧ next = .dispatching (loadNotifications db job)) ∨
      next.claims.Sublist process.claims ∧ (process.claims.Nodup → ∀ k ∈ records process input, k ∉ next.claims) := by
  cases process with
  | opened request => cases request with
    | submit submission => cases h
    | enqueue job => cases h
    | dispatchQueued =>
      obtain rfl := Option.some.inj h
      exact .inr ⟨List.nil_sublist _,fun _ k hk => (by cases hk)⟩
    | retryFailed =>
      obtain rfl := Option.some.inj h
      exact .inr ⟨List.nil_sublist _,fun _ k hk => (by cases hk)⟩
    | delivery job =>
      simp only [act] at h
      split at h
      · exact .inl ⟨job,rfl,(Option.some.inj h).symm⟩
      · cases h
  | ticking actions =>
    refine .inr ⟨?_,fun _ k hk => (by cases hk)⟩
    cases actions with
    | nil => cases h
    | cons action rest => cases action with
      | clearRetry tenantId ids =>
        obtain rfl := Option.some.inj h
        exact List.nil_sublist _
      | retryGroup tenantId ids =>
        simp only [act] at h
        split at h <;> obtain rfl := Option.some.inj h <;> exact List.nil_sublist _
      | add job =>
        obtain rfl := Option.some.inj h
        exact List.nil_sublist _
  | dispatching rest =>
    refine .inr ⟨?_,fun _ k hk => (by cases hk)⟩
    cases rest with
    | nil => cases h
    | cons q rest =>
      simp only [act] at h
      rcases prepare_cases db q.1 q.2 input rest with he | ⟨-,hnext⟩
      · rw [he] at h
        obtain rfl := Option.some.inj h
        exact List.Sublist.refl _
      · rw [hnext next h]
        exact List.sublist_cons_self _ _
  | calling id loaded rest =>
    have hrest : next.claims = rest.map Prod.fst := by
      simp only [act] at h
      cases ha : input.answer with
      | ok messageId =>
        rw [ha] at h
        obtain rfl := Option.some.inj h
        rfl
      | error message =>
        rw [ha] at h
        exact claims_handleFailure h
    refine .inr ⟨?_,fun honce k hk => ?_⟩
    · rw [hrest]
      exact List.sublist_cons_self _ _
    · cases ha : input.answer with
      | ok messageId =>
        simp only [records,ha,List.mem_singleton] at hk
        rw [hk,hrest]
        exact (List.nodup_cons.mp honce).1
      | error message => simp [records,ha] at hk
  | fallingBack id original channel rest =>
    refine .inr ⟨?_,fun _ k hk => (by cases hk)⟩
    simp only [act,createFallbackNotification] at h
    split at h <;> obtain rfl := Option.some.inj h <;> exact List.Sublist.refl _

variable {db process input}

theorem act_recordedSent (hsent : RecordedSent db) (hI : InHand db process) (hreset : ResetsUnsent db process input) :
    RecordedSent (act db process input).1 := by
  cases process with
  | opened request => cases request with
    | submit submission => exact hsent.insert rfl
    | enqueue job => exact hsent
    | dispatchQueued => exact hsent
    | retryFailed => exact hsent
    | delivery job => exact hsent
  | ticking actions => cases actions with
    | nil => exact hsent
    | cons action rest => cases action with
      | clearRetry tenantId ids => exact hsent.updateMany fun i _ n hn _ _ hr => hsent i n hn hr
      | retryGroup tenantId ids =>
        simp only [act]
        split
        · rename_i henabled
          refine hsent.updateMany fun i hi n hn ht _ hr => ?_
          exact absurd (hsent i n hn hr) (hreset tenantId ids rest rfl henabled i hi n hn ht)
        · exact hsent
      | add job => exact hsent
  | dispatching rest => cases rest with
    | nil => exact hsent
    | cons q rest =>
      rcases prepare_cases db q.1 q.2 input rest with h | ⟨h,-⟩
      · simp only [act,h]
        exact hsent
      · exact h.recordedSent hsent (hI.unrecorded q.1 List.mem_cons_self)
  | calling id loaded rest =>
    simp only [act]
    split
    · exact hsent.update fun _ _ _ => rfl
    · exact (writesQuietly_handleFailure _ _).recordedSent hsent (hI.unrecorded id List.mem_cons_self)
  | fallingBack id original channel rest =>
    simp only [act,createFallbackNotification]
    split
    · exact hsent.update fun n hn hr => hsent id n hn hr
    · exact hsent.insert rfl

/-- What a job loads has not been recorded. -/
theorem inHand_load (hsent : RecordedSent db) (job : DispatchJob) : InHand db (.dispatching (loadNotifications db job)) := by
  refine ⟨(List.filter_sublist.map Prod.fst).nodup db.notifications.nodup,fun id hid => ?_⟩
  obtain ⟨⟨i,n⟩,hq,rfl⟩ := List.mem_map.mp hid
  obtain ⟨hrow,hcond⟩ := List.mem_filter.mp hq
  simp only [Bool.and_eq_true,Bool.or_eq_true,decide_eq_true_eq] at hcond
  refine ⟨n,Table.get?_of_mem hrow,?_⟩
  cases hr : n.recorded with
  | false => rfl
  | true =>
    have hs := hsent i n (Table.get?_of_mem hrow) hr
    rcases hcond.2 with h | h <;> rw [hs] at h <;> cases h

theorem InHand.keeps {db' : Outbox} {next : Process} {ids : List ℕ} (h : InHand db process) (hk : KeepsOutside ids db db')
    (hsub : next.claims.Sublist process.claims) (hids : ∀ k ∈ ids, k ∉ next.claims) : InHand db' next := by
  refine ⟨hsub.nodup h.once,fun id hid => ?_⟩
  obtain ⟨n,hn,hr⟩ := h.unrecorded id (hsub.subset hid)
  obtain ⟨n',hn',hr'⟩ := hk id n hn fun hmem => hids id hmem hid
  exact ⟨n',hn',hr'.trans hr⟩

theorem inHand_act {next : Process} (hsent : RecordedSent db) (hI : InHand db process)
    (h : (act db process input).2 = some next) : InHand (act db process input).1 next := by
  rcases act_claims db process input h with ⟨job,rfl,rfl⟩ | ⟨hsub,hout⟩
  · exact inHand_load hsent job
  · exact hI.keeps (act_keepsOutside db process input) hsub (hout hI.once)

theorem inHand_others {other : Process} (hother : InHand db other) (hd : List.Disjoint process.claims other.claims) :
    InHand (act db process input).1 other := by
  refine hother.keeps (act_keepsOutside db process input) (List.Sublist.refl _) fun k hk => ?_
  exact hd (records_subset process input k hk)

end

theorem inHand_opened (db : Outbox) (request : Request) : InHand db (.opened request) :=
  ⟨List.nodup_nil,fun _ hid => (by cases hid)⟩

theorem keptExclusive : KeptExclusive protocol Process.claims RecordedSent InHand ResetsUnsent where
  opened db request _ := inHand_opened db request
  unclaimed _ := rfl
  store _ _ _ hsent hI hreset := act_recordedSent hsent hI hreset
  own _ _ _ _ hsent hI _ h := inHand_act hsent hI h
  others _ _ _ _ _ _ hother _ hd := inHand_others hother hd

theorem recordedSent_empty : RecordedSent Outbox.empty := fun _ _ hn => (by cases hn)

/-! ## Main theorem -/

/-- A job loads what no other job has in hand. -/
def LoadsFree (st : State Outbox Process) : Event Request Input → Prop
  | .act id _ => ∀ job, st.processes.get? id = some (.opened (.delivery job)) →
    ∀ k ∈ (loadNotifications st.store job).map Prod.fst, ∀ j other, j ≠ id → st.processes.get? j = some other → k ∉ other.claims
  | _ => True

theorem takesFree_of_loadsFree {st : State Outbox Process} {e : Event Request Input} (h : LoadsFree st e) :
    TakesFree Process.claims protocol st e := by
  cases e with
  | start request => trivial
  | stop id => trivial
  | act id input =>
    intro q next hq hnext k hk hout j other hj hother
    rcases act_claims st.store q input hnext with ⟨job,rfl,rfl⟩ | ⟨hsub,-⟩
    · exact h job hq k hk j other hj hother
    · exact absurd (hsub.subset hk) hout

theorem mem_claims_of_calls {q : Process} {id : ℕ} (h : q.calls = some id) : id ∈ q.claims := by
  cases q with
  | calling i loaded rest =>
    obtain rfl := Option.some.inj h
    exact List.mem_cons_self
  | opened request => cases h
  | ticking actions => cases h
  | dispatching rest => cases h
  | fallingBack i original channel rest => cases h

theorem sentOnce_of_holds {st : State Outbox Process} (h : Holds RecordedSent InHand st) (he : Exclusive Process.claims st) :
    SentOnce st := by
  intro i q id hq hcalls
  refine ⟨fun n hn => ?_,fun j q' hj hq' hcalls' => ?_⟩
  · obtain ⟨n',hn',hr⟩ := (h.processes i q hq).unrecorded id (mem_claims_of_calls hcalls)
    obtain rfl := Option.some.inj (hn.symm.trans hn')
    exact hr
  · exact he i j q q' hj.symm hq hq' (mem_claims_of_calls hcalls) (mem_claims_of_calls hcalls')

/-- Where no job loads what another one has in hand and no tick puts back what has been sent, nothing that
has been sent goes to the provider again, and nothing is there twice. -/
theorem sentOnce_of_careful {events : List (Event Request Input)}
    (h : Guarded (step protocol) (fun st e => LoadsFree st e ∧ AtAct ResetsUnsent st e) (State.idle Outbox.empty) events) :
    ∀ st ∈ trace (step protocol) (State.idle Outbox.empty) events, SentOnce st := by
  have hcareful := h.mono fun _ _ hg => And.intro (takesFree_of_loadsFree hg.1) hg.2
  intro st hst
  obtain ⟨hholds,hexclusive⟩ := exclusive_trace keptExclusive recordedSent_empty hcareful st hst
  exact sentOnce_of_holds hholds hexclusive

/-- Nothing is loaded or put back while other jobs have something in hand. -/
theorem careful_of_rows {st : State Outbox Process} {id : ℕ} {input : Input}
    (h : ∀ r ∈ st.processes.rows, (r.1 ≠ id → r.2.claims = []) ∧ r.2.resets = []) :
    LoadsFree st (.act id input) ∧ AtAct ResetsUnsent st (.act id input : Event Request Input) := by
  refine ⟨fun job hjob k hk j other hj hother => ?_,fun q hq tenantId ids rest he henabled i hi => ?_⟩
  · rw [(h _ (Table.mem_of_get? hother)).1 hj]
    exact List.not_mem_nil
  · have hnone := (h _ (Table.mem_of_get? hq)).2
    subst he
    simp only [Process.resets] at hnone
    rw [hnone] at hi
    cases hi

/-- A notification is found by a tick, enqueued, loaded and sent. -/
theorem sentOnce_single :
    let input : Input := ⟨0,true,.ready,.ok "message",0⟩
    ∀ st ∈ trace (step protocol) (State.idle Outbox.empty)
      [.start (.submit ⟨1,1,.email,none,"en","",none,none,3⟩),.act 0 input,.start .dispatchQueued,.act 1 input,.act 1 input,
        .act 1 input,.act 1 input,.start (.delivery ⟨1,[0],none⟩),.act 2 input,.act 2 input,.act 2 input], SentOnce st := by
  intro input
  refine sentOnce_of_careful ⟨⟨trivial,trivial⟩,careful_of_rows ?_,⟨trivial,trivial⟩,careful_of_rows ?_,careful_of_rows ?_,
    careful_of_rows ?_,careful_of_rows ?_,⟨trivial,trivial⟩,careful_of_rows ?_,careful_of_rows ?_,careful_of_rows ?_,trivial⟩
  all_goals decide +kernel

/-- The row stays queued, so that the next tick enqueues it again, and both jobs hand it over. -/
theorem not_sentOnce : ¬ ∀ events : List (Event Request Input),
    ∀ st ∈ trace (step protocol) (State.idle Outbox.empty) events, SentOnce st := by
  intro h
  let input : Input := ⟨0,true,.ready,.ok "message",0⟩
  let events : List (Event Request Input) := [.start (.submit ⟨1,1,.email,none,"en","",none,none,3⟩),.act 0 input,
    .start .dispatchQueued,.act 1 input,.act 1 input,.act 1 input,.start .dispatchQueued,.act 2 input,.act 2 input,.act 2 input,
    .start (.delivery ⟨1,[0],none⟩),.act 3 input,.act 3 input,.start (.delivery ⟨1,[0],none⟩),.act 4 input,.act 4 input]
  let last := events.foldl (step protocol) (State.idle Outbox.empty)
  have hsent : SentOnce last := h events last (foldl_mem_trace _ _)
  have hfirst : (last.processes.get? 3).map Process.calls = some (some 0) := by decide +kernel
  have hsecond : (last.processes.get? 4).map Process.calls = some (some 0) := by decide +kernel
  obtain ⟨q,hq,hcalls⟩ := Option.map_eq_some_iff.mp hfirst
  obtain ⟨q',hq',hcalls'⟩ := Option.map_eq_some_iff.mp hsecond
  exact (hsent 3 q 0 hq hcalls).2 4 q' (by decide) hq' hcalls'

end EduPod.Notifications
