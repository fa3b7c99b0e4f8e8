import EduPod.Approvals.Callbacks

/-! # Decisions and callbacks in any order

One decision at most takes effect, and an entity is released once, for an approved request. That an
executed callback stays executed is up to the writes by id: each of them must come before it.
-/
namespace EduPod.Approvals
open Processes Runs

/-- One decision at most has taken effect, and the status says which. -/
def ApprovalRequest.Decided (r : ApprovalRequest) : Prop :=
  (r.status = .pendingApproval ∧ r.decisions = [] ∧ r.callbackExecuted = false) ∨
    ∃ d, r.decisions = [d] ∧ (r.status = d.status ∨ d = .approved ∧ r.status = .executed)

/-- The request of this id has been approved, and is about the entity. -/
def ApprovedFor (db : Records) (id entityId : ℕ) : Prop :=
  ∃ r, db.requests.get? id = some r ∧ r.decisions = [.approved] ∧ r.targetEntityId = entityId

/-- What holds of the records whatever happens. -/
structure Recorded (db : Records) : Prop where
  decided : ∀ id r, db.requests.get? id = some r → r.Decided
  jobs : ∀ job ∈ db.jobs, ApprovedFor db job.approvalRequestId job.targetEntityId
  approved : ∀ q ∈ db.releases, ApprovedFor db q.requestId q.entityId
  gone : ∀ q ∈ db.releases, (db.entities.get? q.entityId).any Entity.isPendingApproval = false
  once : (db.releases.map Release.entityId).Nodup

/-- Once a callback has executed, the callback is neither pending nor failed again. -/
def ApprovalRequest.StaysExecuted (r : ApprovalRequest) : Prop :=
  r.callbackExecuted = true → r.callbackStatus ≠ some .pending ∧ r.callbackStatus ≠ some .failed

structure Records.Sound (db : Records) : Prop where
  decided : ∀ id r, db.requests.get? id = some r → r.Decided
  approved : ∀ q ∈ db.releases, ApprovedFor db q.requestId q.entityId
  once : (db.releases.map Release.entityId).Nodup
  executed : ∀ id r, db.requests.get? id = some r → r.StaysExecuted

/-- A write of the callback columns comes before the callback of the request has executed. -/
def BeforeExecution (db : Records) (process : Process) (_ : Input) : Prop :=
  ∀ w rest, process = .acting (.write w :: rest) → ∀ r, db.requests.get? w.id = some r → r.callbackExecuted = false

/-! ## What an action does to the requests -/

/-- A decision that has been taken stays, and so does what the request is about. -/
structure ApprovalRequest.Precedes (r r' : ApprovalRequest) : Prop where
  target : r'.targetEntityId = r.targetEntityId
  decisions : r.decisions ≠ [] → r'.decisions = r.decisions

def Keeps (db db' : Records) : Prop :=
  ∀ id r, db.requests.get? id = some r → ∃ r', db'.requests.get? id = some r' ∧ r.Precedes r'

section
variable {db db' : Records} {r : ApprovalRequest}

theorem ApprovalRequest.Precedes.refl (r : ApprovalRequest) : r.Precedes r := ⟨rfl,fun _ => rfl⟩

theorem Keeps.of_requests (h : db'.requests = db.requests) : Keeps db db' := fun id r hr => ⟨r,by rw [h]; exact hr,.refl r⟩

theorem Keeps.of_insert {new : ApprovalRequest} (h : db'.requests = db.requests.insert new) : Keeps db db' := by
  intro id r hr
  refine ⟨r,?_,.refl r⟩
  rw [h,Table.get?_insert,if_neg (Table.lt_next_of_get? hr).ne]
  exact hr

theorem Keeps.of_modify {id : ℕ} {g : ApprovalRequest → ApprovalRequest} (h : db'.requests = db.requests.modify id g)
    (hg : ∀ r, db.requests.get? id = some r → r.Precedes (g r)) : Keeps db db' := by
  intro i r hr
  rw [h]
  by_cases hi : i = id
  · subst hi
    exact ⟨g r,Table.get?_modify_self hr g,hg r hr⟩
  · exact ⟨r,by rw [Table.get?_modify_ne _ hi]; exact hr,.refl r⟩

theorem ApprovedFor.keeps (hk : Keeps db db') {id entityId : ℕ} (h : ApprovedFor db id entityId) : ApprovedFor db' id entityId := by
  obtain ⟨r,hr,hd,ht⟩ := h
  obtain ⟨r',hr',hp⟩ := hk id r hr
  exact ⟨r',hr',by rw [hp.decisions (by simp [hd]),hd],hp.target.trans ht⟩

theorem ApprovalRequest.Decided.approved (h : r.Decided) (hs : r.status = .approved) : r.decisions = [.approved] := by
  rcases h with ⟨hp,-⟩ | ⟨d,hd,hstatus | ⟨rfl,-⟩⟩
  · rw [hs] at hp
    cases hp
  · rw [hs] at hstatus
    cases d
    · exact hd
    · cases hstatus
    · cases hstatus
  · exact hd

theorem ApprovalRequest.Decided.pending (h : r.Decided) (hs : r.status = .pendingApproval) :
    r.decisions = [] ∧ r.callbackExecuted = false := by
  rcases h with ⟨-,hd⟩ | ⟨d,-,hstatus | ⟨-,hstatus⟩⟩
  · exact hd
  · rw [hs] at hstatus
    cases d <;> cases hstatus
  · rw [hs] at hstatus
    cases hstatus

theorem isPending_iff {id : ℕ} : isPending db id = true ↔ ∃ r, db.requests.get? id = some r ∧ r.status = .pendingApproval := by
  unfold isPending
  cases db.requests.get? id <;> simp

theorem isPending_get? {id : ℕ} (h : isPending db id = true) (hr : db.requests.get? id = some r) : r.status = .pendingApproval := by
  obtain ⟨r',hr',hs⟩ := isPending_iff.mp h
  obtain rfl := Option.some.inj (hr.symm.trans hr')
  exact hs

theorem precedes_write (w : CallbackWrite) (r : ApprovalRequest) : r.Precedes (w.apply r) := ⟨rfl,fun _ => rfl⟩

theorem precedes_execute (r : ApprovalRequest) : r.Precedes r.execute := ⟨rfl,fun _ => rfl⟩

theorem precedes_selfHeal (isPostApproval : Bool) (r : ApprovalRequest) : r.Precedes (r.selfHeal isPostApproval) := by
  cases isPostApproval <;> exact ⟨rfl,fun _ => rfl⟩

theorem requests_processJob (job : CallbackJob) (found : Entity) : (processJob db job found).requests =
    db.requests.modify job.approvalRequestId
      (if found.isPendingApproval then ApprovalRequest.execute else .selfHeal found.isPostApproval) := by
  unfold processJob
  split <;> rfl

theorem keeps_processJob (job : CallbackJob) (found : Entity) : Keeps db (processJob db job found) := by
  refine Keeps.of_modify (requests_processJob job found) fun r _ => ?_
  split
  · exact precedes_execute r
  · exact precedes_selfHeal _ r

theorem keeps_transition (h : Recorded db) (id actorUserId now : ℕ) (decision : Decision) (hasCallback : Bool) :
    Keeps db (transitionPendingRequest db id actorUserId now decision hasCallback) := by
  unfold transitionPendingRequest
  split
  · rename_i hp
    refine Keeps.of_modify rfl fun r hr => ⟨rfl,fun hne => ?_⟩
    exact absurd ((h.decided id r hr).pending (isPending_get? hp hr)).1 hne
  · exact Keeps.of_requests rfl

theorem keeps_act (h : Recorded db) (process : Process) (input : Input) : Keeps db (act db process input).1 := by
  cases process with
  | opened request =>
    cases request with
    | submit actionType targetEntityId requesterUserId => exact Keeps.of_insert rfl
    | _ => exact Keeps.of_requests rfl
  | transition id actorUserId decision job => exact keeps_transition h id actorUserId input.now decision job.isSome
  | acting rest =>
    cases rest with
    | nil => exact Keeps.of_requests rfl
    | cons action rest =>
      cases action with
      | write w => exact Keeps.of_modify rfl fun r _ => precedes_write w r
      | enqueue job added failed =>
        rw [act]
        split <;> exact Keeps.of_requests rfl
  | processJob job found => exact keeps_processJob job found

end

/-! ## What a process knows -/

/-- A job that is to be added is for a request that has been approved. -/
def Action.Standing (db : Records) : Action → Prop
  | .write _ => True
  | .enqueue job _ _ => ApprovedFor db job.approvalRequestId job.targetEntityId

def Standing (db : Records) : Process → Prop
  | .opened _ => True
  | .transition id _ decision job => ∀ j ∈ job, decision = .approved ∧ j.approvalRequestId = id ∧
      ∃ r, db.requests.get? id = some r ∧ r.targetEntityId = j.targetEntityId
  | .acting rest => ∀ action ∈ rest, action.Standing db
  | .processJob job _ => ApprovedFor db job.approvalRequestId job.targetEntityId

section
variable {db db' : Records}

theorem Standing.keeps (hk : Keeps db db') {process : Process} (h : Standing db process) : Standing db' process := by
  cases process with
  | opened request => trivial
  | transition id actorUserId decision job =>
    intro j hj
    obtain ⟨hd,hid,r,hr,ht⟩ := h j hj
    obtain ⟨r',hr',hp⟩ := hk id r hr
    exact ⟨hd,hid,r',hr',hp.target.trans ht⟩
  | acting rest =>
    intro action ha
    have haction := h action ha
    cases action with
    | write w => trivial
    | enqueue job added failed => exact haction.keeps hk
  | processJob job found => exact ApprovedFor.keeps hk h

theorem standing_approve {id actorUserId : ℕ} {process : Process} (h : approve db id actorUserId = .ok process) :
    Standing db process := by
  unfold approve at h
  simp only [Fallible.require_bind_eq_ok,Fallible.ensure_bind_eq_ok,Fallible.pure_eq_ok] at h
  obtain ⟨r,hr,-,-,rfl⟩ := h
  intro j hj
  obtain ⟨callback,-,rfl⟩ := Option.map_eq_some_iff.mp hj
  exact ⟨rfl,rfl,r,hr,rfl⟩

theorem standing_reject {id actorUserId : ℕ} {process : Process} (h : reject db id actorUserId = .ok process) :
    Standing db process := by
  unfold reject at h
  simp only [Fallible.require_bind_eq_ok,Fallible.ensure_bind_eq_ok,Fallible.pure_eq_ok] at h
  obtain ⟨r,hr,-,-,rfl⟩ := h
  exact fun j hj => (by cases hj)

theorem standing_cancel {id requesterUserId : ℕ} {process : Process} (h : cancel db id requesterUserId = .ok process) :
    Standing db process := by
  unfold cancel at h
  simp only [Fallible.require_bind_eq_ok,Fallible.ensure_bind_eq_ok,Fallible.pure_eq_ok] at h
  obtain ⟨r,hr,-,-,rfl⟩ := h
  exact fun j hj => (by cases hj)

theorem standing_retryActions {id : ℕ} {job : CallbackJob} (h : ApprovedFor db job.approvalRequestId job.targetEntityId) :
    ∀ action ∈ retryActions id job, action.Standing db := by
  intro action ha
  rcases List.mem_pair.mp ha with rfl | rfl
  · trivial
  · exact h

/-- An approved request of the records is one that has been approved. -/
theorem Recorded.approvedFor (h : Recorded db) {id : ℕ} {r : ApprovalRequest} (hr : db.requests.get? id = some r)
    (hs : r.status = .approved) : ApprovedFor db id r.targetEntityId := ⟨r,hr,(h.decided id r hr).approved hs,rfl⟩

theorem standing_retryCallback (hrec : Recorded db) {id now : ℕ} {process : Process}
    (h : retryCallback db id now = .ok process) : Standing db process := by
  unfold retryCallback at h
  simp only [Fallible.require_bind_eq_ok,Fallible.ensure_bind_eq_ok,Fallible.pure_eq_ok] at h
  obtain ⟨r,hr,hs,-,-,-,callback,-,rfl⟩ := h
  exact standing_retryActions (hrec.approvedFor hr hs)

theorem mem_stuckRequests {wanted : ApprovalRequest → Bool} {take : ℕ} {q : ℕ × ApprovalRequest}
    (h : q ∈ stuckRequests db wanted take) : db.requests.get? q.1 = some q.2 ∧ q.2.status = .approved := by
  have hsorted := (List.perm_insertionSort _ _).mem_iff.mp (List.mem_of_mem_take h)
  obtain ⟨hmem,hwanted⟩ := List.mem_filter.mp hsorted
  rw [Bool.and_eq_true,decide_eq_true_eq] at hwanted
  exact ⟨Table.get?_of_mem hmem,hwanted.1⟩

/-- A batch of approved requests gives actions that stand if those for one request do. -/
theorem standing_batch (hrec : Recorded db) {wanted : ApprovalRequest → Bool} {take : ℕ}
    {actions : ℕ × ApprovalRequest → List Action} (h : ∀ q, ApprovedFor db q.1 q.2.targetEntityId → ∀ action ∈ actions q, action.Standing db) :
    Standing db (.acting ((stuckRequests db wanted take).flatMap actions)) := by
  intro action ha
  obtain ⟨q,hq,ha⟩ := List.mem_flatMap.mp ha
  obtain ⟨hr,hs⟩ := mem_stuckRequests hq
  exact h q (hrec.approvedFor hr hs) action ha

theorem standing_bulkActions {q : ℕ × ApprovalRequest} (h : ApprovedFor db q.1 q.2.targetEntityId) :
    ∀ action ∈ bulkActions q, action.Standing db := by
  unfold bulkActions
  split
  · simp
  · exact standing_retryActions h

theorem standing_sweepActions {q : ℕ × ApprovalRequest} (h : ApprovedFor db q.1 q.2.targetEntityId) :
    ∀ action ∈ sweepActions q, action.Standing db := by
  unfold sweepActions
  split
  · simp
  · intro action ha
    dsimp only at ha
    split at ha
    · rw [List.mem_singleton.mp ha]
      trivial
    · rw [List.mem_singleton.mp ha]
      exact h

theorem standing_open (h : Recorded db) (input : Input) (request : Request) {process : Process}
    (ho : open_ db input request = some process) : Standing db process := by
  have hok : ∀ {x : Except ApprovalError Process}, x.toOption = some process → x = .ok process := by
    rintro (e | p) hx
    · cases hx
    · rw [← Option.some.inj hx]
  cases request with
  | submit actionType targetEntityId requesterUserId => cases ho
  | approve id approverUserId => exact standing_approve (hok ho)
  | reject id approverUserId => exact standing_reject (hok ho)
  | cancel id requesterUserId => exact standing_cancel (hok ho)
  | retryCallback id => exact standing_retryCallback h (hok ho)
  | bulkRetryCallbacks statusFilter maxCount =>
    rw [← Option.some.inj ho]
    exact standing_batch h fun q hq => standing_bulkActions hq
  | reconciliation =>
    rw [← Option.some.inj ho]
    exact standing_batch h fun q hq => standing_sweepActions hq
  | delivery job =>
    rw [open_] at ho
    split at ho
    · rename_i hjob
      obtain ⟨found,-,rfl⟩ := Option.map_eq_some_iff.mp ho
      exact h.jobs job hjob
    · cases ho

end

/-! ## One action -/

section
variable {db : Records}

theorem decided_decide {r : ApprovalRequest} (h : r.decisions = []) (decision : Decision) (actorUserId now : ℕ)
    (hasCallback : Bool) : (r.decide decision actorUserId now hasCallback).Decided :=
  .inr ⟨decision,by rw [ApprovalRequest.decide,h]; rfl,.inl rfl⟩

theorem decided_execute {r : ApprovalRequest} (h : r.decisions = [.approved]) : r.execute.Decided :=
  .inr ⟨.approved,h,.inr ⟨rfl,rfl⟩⟩

theorem decided_selfHeal {r : ApprovalRequest} (hr : r.Decided) (h : r.decisions = [.approved]) (isPostApproval : Bool) :
    (r.selfHeal isPostApproval).Decided := by
  cases isPostApproval with
  | true => exact .inr ⟨.approved,h,.inr ⟨rfl,rfl⟩⟩
  | false => exact hr

/-- The rows that an update by id leaves are the old ones and the updated one. -/
theorem forall_modify_iff {id : ℕ} {g : ApprovalRequest → ApprovalRequest} {p : ApprovalRequest → Prop}
    (h : ∀ i r, db.requests.get? i = some r → p r) :
    (∀ i r, (db.requests.modify id g).get? i = some r → p r) ↔ ∀ r, db.requests.get? id = some r → p (g r) := by
  constructor
  · exact fun hall r hr => hall id (g r) (Table.get?_modify_self hr g)
  · intro hg i r' hr'
    rw [Table.get?_modify] at hr'
    split at hr'
    · rename_i hi
      subst hi
      obtain ⟨r,hr,rfl⟩ := Option.map_eq_some_iff.mp hr'
      exact hg r hr
    · exact h i r' hr'

theorem forall_insert {new : ApprovalRequest} {p : ApprovalRequest → Prop} (h : ∀ i r, db.requests.get? i = some r → p r)
    (hnew : p new) : ∀ i r, (db.requests.insert new).get? i = some r → p r := by
  intro i r hr
  rw [Table.get?_insert] at hr
  split at hr
  · rwa [← Option.some.inj hr]
  · exact h i r hr

theorem decided_act (h : Recorded db) {process : Process} (hs : Standing db process) (input : Input) :
    ∀ id r, (act db process input).1.requests.get? id = some r → r.Decided := by
  cases process with
  | opened request =>
    cases request with
    | submit actionType targetEntityId requesterUserId => exact forall_insert h.decided (.inl ⟨rfl,rfl,rfl⟩)
    | _ => exact h.decided
  | transition id actorUserId decision job =>
    rw [act,transitionPendingRequest]
    split
    · rename_i hp
      exact (forall_modify_iff h.decided).mpr fun r hr =>
        decided_decide ((h.decided id r hr).pending (isPending_get? hp hr)).1 ..
    · exact h.decided
  | acting rest =>
    cases rest with
    | nil => exact h.decided
    | cons action rest =>
      cases action with
      | write w => exact (forall_modify_iff h.decided).mpr fun r hr => h.decided w.id r hr
      | enqueue job added failed =>
        rw [act]
        split <;> exact h.decided
  | processJob job found =>
    obtain ⟨r,hr,hd,-⟩ := hs
    rw [act,requests_processJob,forall_modify_iff h.decided]
    intro r' hr'
    obtain rfl := Option.some.inj (hr.symm.trans hr')
    split
    · exact decided_execute hd
    · exact decided_selfHeal (h.decided _ r hr) hd _

theorem release_isPendingApproval (e : Entity) : e.release.isPendingApproval = false := by
  cases e <;> rfl

/-- Writing an entity leaves no entity pending that was not. -/
theorem gone_modify (h : Recorded db) (id : ℕ) : ∀ q ∈ db.releases,
    ((db.entities.modify id Entity.release).get? q.entityId).any Entity.isPendingApproval = false := by
  intro q hq
  rw [Table.get?_modify]
  split
  · cases db.entities.get? q.entityId with
    | none => rfl
    | some e => exact release_isPendingApproval e
  · exact h.gone q hq

/-- The callback of an approved request keeps the records: an entity that it releases was pending until now. -/
theorem recorded_processJob (h : Recorded db) {job : CallbackJob} {found : Entity}
    (hs : Standing db (.processJob job found)) : Recorded (processJob db job found) := by
  have hkeeps : Keeps db (processJob db job found) := keeps_processJob job found
  have hdecided := decided_act h hs ⟨0,true⟩
  have hjobs : ∀ j ∈ db.jobs, ApprovedFor (processJob db job found) j.approvalRequestId j.targetEntityId :=
    fun j hj => (h.jobs j hj).keeps hkeeps
  have happroved : ∀ q ∈ db.releases, ApprovedFor (processJob db job found) q.requestId q.entityId :=
    fun q hq => (h.approved q hq).keeps hkeeps
  have hjob := ApprovedFor.keeps hkeeps hs
  have hgone := gone_modify h job.targetEntityId
  cases hfound : found.isPendingApproval with
  | false =>
    rw [act] at hdecided
    simp only [processJob,hfound,Bool.false_eq_true,if_false] at hdecided hjobs happroved ⊢
    exact ⟨hdecided,hjobs,happroved,h.gone,h.once⟩
  | true =>
    rw [act] at hdecided
    simp only [processJob,hfound,if_true] at hdecided hjobs happroved hjob ⊢
    cases hpending : (db.entities.get? job.targetEntityId).any Entity.isPendingApproval with
    | false =>
      simp only [hpending,Bool.false_eq_true,if_false] at hdecided hjobs happroved ⊢
      exact ⟨hdecided,hjobs,happroved,hgone,h.once⟩
    | true =>
      simp only [hpending,if_true] at hdecided hjobs happroved hjob ⊢
      have hnew : ((db.entities.modify job.targetEntityId Entity.release).get? job.targetEntityId).any
          Entity.isPendingApproval = false := by
        rw [Table.get?_modify,if_pos rfl]
        cases db.entities.get? job.targetEntityId with
        | none => rfl
        | some e => exact release_isPendingApproval e
      refine ⟨hdecided,hjobs,?_,?_,?_⟩
      · exact List.forall_mem_append.mpr ⟨happroved,List.forall_mem_singleton.mpr hjob⟩
      · exact List.forall_mem_append.mpr ⟨hgone,List.forall_mem_singleton.mpr hnew⟩
      · rw [List.map_append,List.nodup_append]
        refine ⟨h.once,List.nodup_singleton _,?_⟩
        rintro _ hold _ hone rfl
        obtain ⟨q,hq,he⟩ := List.mem_map.mp hold
        have hstill := h.gone q hq
        rw [he,List.mem_singleton.mp hone,hpending] at hstill
        cases hstill

theorem Recorded.of_frame (h : Recorded db) {db' : Records} (hk : Keeps db db')
    (hd : ∀ id r, db'.requests.get? id = some r → r.Decided)
    (hj : ∀ job ∈ db'.jobs, ApprovedFor db' job.approvalRequestId job.targetEntityId) (he : db'.entities = db.entities)
    (hr : db'.releases = db.releases) : Recorded db' :=
  ⟨hd,hj,fun q hq => (h.approved q (hr ▸ hq)).keeps hk,fun q hq => by rw [he]; exact h.gone q (hr ▸ hq),hr ▸ h.once⟩

theorem recorded_act (h : Recorded db) {process : Process} (hs : Standing db process) (input : Input) :
    Recorded (act db process input).1 := by
  have hk := keeps_act h process input
  have hd := decided_act h hs input
  have hjobs : ∀ job ∈ db.jobs, ApprovedFor (act db process input).1 job.approvalRequestId job.targetEntityId :=
    fun job hj => (h.jobs job hj).keeps hk
  cases process with
  | opened request => cases request <;> exact h.of_frame hk hd hjobs rfl rfl
  | transition id actorUserId decision job =>
    rw [act,transitionPendingRequest] at hk hd hjobs ⊢
    split at hk
    · rw [if_pos ‹_›] at hd hjobs ⊢
      exact h.of_frame hk hd hjobs rfl rfl
    · rw [if_neg ‹_›]
      exact h
  | acting rest =>
    cases rest with
    | nil => exact h
    | cons action rest =>
      cases action with
      | write w => exact h.of_frame hk hd hjobs rfl rfl
      | enqueue job added failed =>
        have hjob := hs _ List.mem_cons_self
        rw [act]
        split
        · refine h.of_frame (Keeps.of_requests rfl) h.decided ?_ rfl rfl
          exact List.forall_mem_append.mpr ⟨h.jobs,List.forall_mem_singleton.mpr hjob⟩
        · exact h
  | processJob job found => exact recorded_processJob h hs

theorem standing_own (h : Recorded db) {process next : Process} (hs : Standing db process) (input : Input)
    (hn : (act db process input).2 = some next) : Standing (act db process input).1 next := by
  have hk := keeps_act h process input
  cases process with
  | opened request =>
    have hopen : (act db (.opened request) input).1 = db ∧ open_ db input request = some next := by
      cases request with
      | submit actionType targetEntityId requesterUserId => cases hn
      | _ => exact ⟨rfl,hn⟩
    rw [hopen.1]
    exact standing_open h input request hopen.2
  | transition id actorUserId decision job =>
    simp only [act] at hn ⊢
    split at hn
    · rename_i hp
      obtain ⟨j,hj,rfl⟩ := Option.map_eq_some_iff.mp hn
      obtain ⟨rfl,rfl,r,hr,ht⟩ := hs j hj
      refine List.forall_mem_singleton.mpr ?_
      rw [transitionPendingRequest,if_pos hp]
      refine ⟨_,Table.get?_modify_self hr _,?_,ht⟩
      rw [ApprovalRequest.decide,((h.decided _ r hr).pending (isPending_get? hp hr)).1]
      rfl
    · cases hn
  | acting rest =>
    have hrest : ∀ action rest', rest = action :: rest' → Standing db (.acting rest') := by
      rintro action rest' rfl a ha
      exact hs a (List.mem_cons_of_mem _ ha)
    cases rest with
    | nil => cases hn
    | cons action rest =>
      have hlater := hrest action rest rfl
      cases action with
      | write w =>
        obtain rfl := Option.some.inj hn
        exact hlater.keeps hk
      | enqueue job added failed =>
        simp only [act] at hn hk ⊢
        split at hn
        · rw [if_pos ‹_›] at hk ⊢
          obtain rfl := Option.some.inj hn
          refine Standing.keeps hk (List.forall_mem_append.mpr ⟨fun a ha => ?_,hlater⟩)
          obtain ⟨w,-,rfl⟩ := List.mem_map.mp ha
          trivial
        · rw [if_neg ‹_›]
          obtain rfl := Option.some.inj hn
          exact List.forall_mem_cons.mpr ⟨trivial,hlater⟩
  | processJob job found => cases hn

theorem kept_protocol : Kept protocol Recorded Standing where
  opened _ _ _ := trivial
  store _ _ input h hs := recorded_act h hs input
  own _ _ input _ h hs hn := standing_own h hs input hn
  others _ process input _ h _ ho := ho.keeps (keeps_act h process input)

theorem staysExecuted_write_iff (w : CallbackWrite) (r : ApprovalRequest) :
    (w.apply r).StaysExecuted ↔ r.callbackExecuted = false := by
  unfold ApprovalRequest.StaysExecuted CallbackWrite.apply
  cases w.status <;> cases r.callbackExecuted <;> simp [Unfinished.status]

theorem staysExecuted_selfHeal (r : ApprovalRequest) (isPostApproval : Bool) : (r.selfHeal isPostApproval).StaysExecuted := by
  cases isPostApproval <;> exact fun _ => ⟨by simp [ApprovalRequest.selfHeal],by simp [ApprovalRequest.selfHeal]⟩

theorem staysExecuted_act_iff (h : Recorded db) {process : Process} (hs : Standing db process) (input : Input)
    (hp : ∀ id r, db.requests.get? id = some r → r.StaysExecuted) :
    (∀ id r, (act db process input).1.requests.get? id = some r → r.StaysExecuted) ↔ BeforeExecution db process input := by
  cases process with
  | opened request =>
    refine iff_of_true ?_ (fun w rest he => by cases he)
    cases request with
    | submit actionType targetEntityId requesterUserId => exact forall_insert hp fun he => (by cases he)
    | _ => exact hp
  | transition id actorUserId decision job =>
    refine iff_of_true ?_ (fun w rest he => by cases he)
    rw [act,transitionPendingRequest]
    split
    · rename_i hpending
      refine (forall_modify_iff hp).mpr fun r hr he => ?_
      have hnot := ((h.decided id r hr).pending (isPending_get? hpending hr)).2
      exact absurd (hnot.symm.trans he) Bool.false_ne_true
    · exact hp
  | acting rest =>
    cases rest with
    | nil => exact iff_of_true hp (fun w rest he => by cases he)
    | cons action rest =>
      cases action with
      | write w =>
        have hguard : BeforeExecution db (.acting (.write w :: rest)) input ↔
            ∀ r, db.requests.get? w.id = some r → r.callbackExecuted = false := by
          constructor
          · exact fun hg => hg w rest rfl
          · rintro hg w' rest' he
            obtain ⟨rfl,-⟩ := by simpa using he
            exact hg
        rw [hguard,act,forall_modify_iff hp]
        exact forall₂_congr fun r _ => staysExecuted_write_iff w r
      | enqueue job added failed =>
        refine iff_of_true ?_ (fun w rest he => by simp at he)
        rw [act]
        split <;> exact hp
  | processJob job found =>
    refine iff_of_true ?_ (fun w rest he => by cases he)
    rw [act,requests_processJob,forall_modify_iff hp]
    intro r hr
    split
    · exact fun _ => ⟨by simp [ApprovalRequest.execute],by simp [ApprovalRequest.execute]⟩
    · exact staysExecuted_selfHeal r _

/-- In every interleaving decisions, releases and executed callbacks are sound throughout precisely when
every write by id comes before the callback of its request has executed. -/
theorem approvals_sound_iff (entities : Table Entity) (events : List (Event Request Input)) :
    (∀ st ∈ trace (step protocol) (State.idle (Records.start entities)) events, st.store.Sound) ↔
      Guarded (step protocol) (AtAct BeforeExecution) (State.idle (Records.start entities)) events := by
  have hstart : Recorded (Records.start entities) :=
    ⟨fun _ _ h => (by cases h),fun _ h => (by cases h),fun _ h => (by cases h),fun _ h => (by cases h),List.nodup_nil⟩
  have hiff := trace_iff_atAct (P := fun db => ∀ id r, db.requests.get? id = some r → r.StaysExecuted) kept_protocol
    (fun db process input h hs hp => staysExecuted_act_iff h hs input hp) hstart (fun _ _ h => (by cases h)) events
  rw [← hiff]
  refine forall₂_congr fun st hst => ⟨fun h => h.executed,fun hp => ?_⟩
  have hrec := (holds_trace kept_protocol hstart events st hst).store
  exact ⟨hrec.decided,hrec.approved,hrec.once,hp⟩

end

/-! A manual retry has read its request, the callback executes, and then the retry writes. -/

def oneInvoice : Table Entity := Table.empty.insert (.invoice .pendingApproval)

def lateRetry : List (Event Request Input) :=
  [.start (.submit "invoice_issue" 0 1),.act 0 ⟨0,true⟩,.start (.approve 0 2),.act 1 ⟨0,true⟩,.act 1 ⟨0,true⟩,.act 1 ⟨0,true⟩,
    .start (.retryCallback 0),.act 2 ⟨staleThresholdMs,true⟩,.start (.delivery ⟨.invoiceIssue,0,0⟩),.act 3 ⟨staleThresholdMs,true⟩,
    .act 3 ⟨staleThresholdMs,true⟩,.act 2 ⟨staleThresholdMs,true⟩]

/-- The callback has executed and is pending again. -/
theorem not_approvals_sound : ¬ ∀ (entities : Table Entity) (events : List (Event Request Input)),
    ∀ st ∈ trace (step protocol) (State.idle (Records.start entities)) events, st.store.Sound := by
  intro h
  have hsound := h oneInvoice lateRetry _ (foldl_mem_trace _ _)
  have hrow : ((lateRetry.foldl (step protocol) (State.idle (Records.start oneInvoice))).store.requests.get? 0).map
      (fun r => (r.callbackExecuted,r.callbackStatus)) = some (true,some .pending) := by
    decide +kernel
  obtain ⟨r,hr,hcolumns⟩ := Option.map_eq_some_iff.mp hrow
  obtain ⟨hexecuted,hstatus⟩ := Prod.mk.inj hcolumns
  exact (hsound.executed 0 r hr hexecuted).1 hstatus

end EduPod.Approvals
