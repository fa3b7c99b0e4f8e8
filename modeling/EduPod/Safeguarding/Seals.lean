import Mathlib
import EduPod.Foundation.Processes

/-! # Sealing safeguarding concerns

Every request on a concern reads it and checks what it has read, then writes the concern by id and adds an action to
its log. No row is locked between the two, so a concern may be sealed, or its seal taken back, in between.
-/
namespace EduPod.Safeguarding
open Processes Runs

inductive SafeguardingStatus
  | reported | acknowledged | underInvestigation | referred | monitoring | resolved | sealed
  deriving DecidableEq

inductive SafeguardingConcernType
  | physicalAbuse | emotionalAbuse | sexualAbuse | neglect | selfHarm | bullying | onlineSafety | domesticViolence
  | substanceAbuse | mentalHealth | radicalisation | other

inductive SafeguardingSeverity
  | low | medium | high | critical

inductive ReporterAckStatus
  | received | assigned | underReview

inductive SafeguardingActionType
  | noteAdded | statusChanged | assigned | meetingHeld | parentContacted | agencyContacted | tuslaReferred
  | gardaReferred | documentUploaded | documentDownloaded | reviewCompleted
  deriving DecidableEq

inductive ReferralType
  | tusla | garda

/-- What an action says beside its description. A seal's status change also names its two users; a request may record
any of these, or something else. -/
inductive Metadata
  | statusChange (from_ : Option SafeguardingStatus) (to_ : SafeguardingStatus) (initiatedBy approvedBy : Option ℕ)
  | fieldsUpdated (fields : List String)
  | assignment (designatedLiaisonId assignedToId : Option ℕ)
  | referral (referenceNumber : String) (referredAt : ℤ)
  | sealInitiated (initiatedBy : ℕ)
  | sealRejected (initiatedBy : Option ℕ) (rejectedBy : ℕ) (reason : String)
  | other

structure SafeguardingAction where
  actionById : ℕ
  actionType : SafeguardingActionType
  description : String
  dueDate : Option ℤ
  metadata : Metadata

/-- The log of a concern is kept with it, in the order of the actions. -/
structure SafeguardingConcern where
  studentId : ℕ
  reportedById : ℕ
  concernType : SafeguardingConcernType
  severity : SafeguardingSeverity
  status : SafeguardingStatus
  description : String
  immediateActionsTaken : Option String
  designatedLiaisonId : Option ℕ
  assignedToId : Option ℕ
  isTuslaReferral : Bool
  tuslaReferenceNumber : Option String
  tuslaReferredAt : Option ℤ
  isGardaReferral : Bool
  gardaReferenceNumber : Option String
  gardaReferredAt : Option ℤ
  resolvedAt : Option ℤ
  reporterAcknowledgementStatus : Option ReporterAckStatus
  slaFirstResponseDue : ℤ
  slaFirstResponseMetAt : Option ℤ
  sealedAt : Option ℤ
  sealedById : Option ℕ
  sealedReason : Option String
  sealApprovedById : Option ℕ
  actions : List SafeguardingAction

structure ReportSafeguardingConcernDto where
  studentId : ℕ
  concernType : SafeguardingConcernType
  severity : SafeguardingSeverity
  description : String
  immediateActionsTaken : Option String

structure SafeguardingSettings where
  slaHours : SafeguardingSeverity → ℤ
  designatedLiaisonUserId : Option ℕ

/-- A field that is not given is `none`. -/
structure UpdateSafeguardingConcernDto where
  description : Option String
  concernType : Option SafeguardingConcernType
  severity : Option SafeguardingSeverity
  immediateActionsTaken : Option (Option String)

structure RecordSafeguardingActionDto where
  actionType : SafeguardingActionType
  description : String
  dueDate : Option ℤ
  metadata : Option Metadata

inductive Edit
  | updateConcern (userId : ℕ) (dto : UpdateSafeguardingConcernDto)
  | transitionStatus (userId : ℕ) (status : SafeguardingStatus) (reason : String)
  | assignConcern (userId : ℕ) (designatedLiaisonId assignedToId : Option (Option ℕ))
  | recordReferral (userId : ℕ) (type : ReferralType) (referenceNumber : String) (referredAt : ℤ)
  | recordAction (userId : ℕ) (dto : RecordSafeguardingActionDto)
  | initiateSeal (userId : ℕ) (reason : String)
  | approveSeal (userId : ℕ)
  | rejectSeal (userId : ℕ) (reason : String)

inductive Request
  | reportConcern (userId : ℕ) (dto : ReportSafeguardingConcernDto) (settings : SafeguardingSettings)
  | edit (concernId : ℕ) (edit : Edit)

inductive SafeguardingError
  | concernSealed | invalidTransition | sealViaDedicatedEndpoint | sealRequiresResolved | sealAlreadyInitiated
  | sealNotInitiated | dualControlViolation | sealAlreadyApplied

def validTransitions : SafeguardingStatus → List SafeguardingStatus
  | .reported => [.acknowledged]
  | .acknowledged => [.underInvestigation]
  | .underInvestigation => [.referred,.monitoring,.resolved]
  | .referred => [.monitoring,.resolved]
  | .monitoring => [.resolved]
  | .resolved => [.sealed]
  | .sealed => []

def isValidSafeguardingTransition (from_ to_ : SafeguardingStatus) : Bool := (validTransitions from_).contains to_

/-! ## Checking what was read -/

/-- Why the request is refused on the concern that it reads. -/
def Edit.refusal (found : SafeguardingConcern) : Edit → Option SafeguardingError
  | .transitionStatus _ status _ =>
    if found.status = .sealed then some .concernSealed
    else if !isValidSafeguardingTransition found.status status then some .invalidTransition
    else if status = .sealed then some .sealViaDedicatedEndpoint
    else none
  | .initiateSeal _ _ =>
    if found.status ≠ .resolved then some .sealRequiresResolved
    else if found.sealedById.isSome then some .sealAlreadyInitiated
    else none
  | .approveSeal userId =>
    if found.sealedById = none then some .sealNotInitiated
    else if found.sealedById = some userId then some .dualControlViolation
    else if found.status ≠ .resolved then some .sealRequiresResolved
    else none
  | .rejectSeal userId _ =>
    if found.sealedById = none then some .sealNotInitiated
    else if found.sealedAt.isSome then some .sealAlreadyApplied
    else if found.sealedById = some userId then some .dualControlViolation
    else none
  | _ => if found.status = .sealed then some .concernSealed else none

/-- A request that has passed the checks on the concern it has read. -/
structure Accepted where
  edit : Edit
  found : SafeguardingConcern
  accepted : edit.refusal found = none

inductive Process
  | opened (request : Request)
  | writing (concernId : ℕ) (accepted : Accepted)

def Edit.accept (concernId : ℕ) (edit : Edit) (found : SafeguardingConcern) : Option Process :=
  if h : edit.refusal found = none then some (.writing concernId ⟨edit,found,h⟩) else none

/-! ## Writing -/

def Edit.update (now : ℤ) (concern : SafeguardingConcern) : Edit → SafeguardingConcern
  | .updateConcern _ dto =>
    { concern with
      description := dto.description.getD concern.description
      concernType := dto.concernType.getD concern.concernType
      severity := dto.severity.getD concern.severity
      immediateActionsTaken := dto.immediateActionsTaken.getD concern.immediateActionsTaken }
  | .transitionStatus _ status _ =>
    { concern with
      status
      slaFirstResponseMetAt := if status = .acknowledged then some now else concern.slaFirstResponseMetAt
      reporterAcknowledgementStatus :=
        if status = .acknowledged then some .assigned
        else if status = .underInvestigation then some .underReview
        else concern.reporterAcknowledgementStatus
      resolvedAt := if status = .resolved then some now else concern.resolvedAt }
  | .assignConcern _ designatedLiaisonId assignedToId =>
    { concern with
      designatedLiaisonId := designatedLiaisonId.getD concern.designatedLiaisonId
      assignedToId := assignedToId.getD concern.assignedToId }
  | .recordReferral _ .tusla referenceNumber referredAt =>
    { concern with
      isTuslaReferral := true
      tuslaReferenceNumber := some referenceNumber
      tuslaReferredAt := some referredAt }
  | .recordReferral _ .garda referenceNumber referredAt =>
    { concern with
      isGardaReferral := true
      gardaReferenceNumber := some referenceNumber
      gardaReferredAt := some referredAt }
  | .recordAction _ _ => concern
  | .initiateSeal userId reason => { concern with sealedById := some userId, sealedReason := some reason }
  | .approveSeal userId =>
    { concern with status := .sealed, sealedAt := some now, sealApprovedById := some userId }
  | .rejectSeal _ _ => { concern with sealedById := none, sealedReason := none }

def UpdateSafeguardingConcernDto.fields (dto : UpdateSafeguardingConcernDto) : List String :=
  (if dto.description.isSome then ["description"] else []) ++
    (if dto.concernType.isSome then ["concern_type"] else []) ++
    (if dto.severity.isSome then ["severity"] else []) ++
    (if dto.immediateActionsTaken.isSome then ["immediate_actions_taken"] else [])

/-- The statuses and users in the log are those that were read. -/
def Edit.action (found : SafeguardingConcern) : Edit → SafeguardingAction
  | .updateConcern userId dto => ⟨userId,.noteAdded,"Concern details updated",none,.fieldsUpdated dto.fields⟩
  | .transitionStatus userId status reason =>
    ⟨userId,.statusChanged,reason,none,.statusChange (some found.status) status none none⟩
  | .assignConcern userId designatedLiaisonId assignedToId =>
    ⟨userId,.assigned,"Concern assigned",none,.assignment (designatedLiaisonId.getD none) (assignedToId.getD none)⟩
  | .recordReferral userId .tusla referenceNumber referredAt =>
    ⟨userId,.tuslaReferred,"Tusla referral recorded: " ++ referenceNumber,none,.referral referenceNumber referredAt⟩
  | .recordReferral userId .garda referenceNumber referredAt =>
    ⟨userId,.gardaReferred,"Garda referral recorded: " ++ referenceNumber,none,.referral referenceNumber referredAt⟩
  | .recordAction userId dto => ⟨userId,dto.actionType,dto.description,dto.dueDate,dto.metadata.getD .other⟩
  | .initiateSeal userId reason => ⟨userId,.statusChanged,"Seal initiated: " ++ reason,none,.sealInitiated userId⟩
  | .approveSeal userId =>
    ⟨userId,.statusChanged,"Concern sealed (dual-control approved)",none,
      .statusChange (some .resolved) .sealed found.sealedById (some userId)⟩
  | .rejectSeal userId reason =>
    ⟨userId,.statusChanged,"Seal request rejected: " ++ reason,none,.sealRejected found.sealedById userId reason⟩

def Accepted.write (accepted : Accepted) (now : ℤ) (concern : SafeguardingConcern) : SafeguardingConcern :=
  { accepted.edit.update now concern with actions := concern.actions ++ [accepted.edit.action accepted.found] }

def msPerHour : ℤ := 3600000

def reportedConcern (userId : ℕ) (dto : ReportSafeguardingConcernDto) (settings : SafeguardingSettings) (now : ℤ) :
    SafeguardingConcern where
  studentId := dto.studentId
  reportedById := userId
  concernType := dto.concernType
  severity := dto.severity
  status := .reported
  description := dto.description
  immediateActionsTaken := dto.immediateActionsTaken
  designatedLiaisonId := settings.designatedLiaisonUserId
  assignedToId := none
  isTuslaReferral := false
  tuslaReferenceNumber := none
  tuslaReferredAt := none
  isGardaReferral := false
  gardaReferenceNumber := none
  gardaReferredAt := none
  resolvedAt := none
  reporterAcknowledgementStatus := none
  slaFirstResponseDue := now + settings.slaHours dto.severity * msPerHour
  slaFirstResponseMetAt := none
  sealedAt := none
  sealedById := none
  sealedReason := none
  sealApprovedById := none
  actions := [⟨userId,.statusChanged,"Concern reported",none,.statusChange none .reported none none⟩]

def act (concerns : Table SafeguardingConcern) (process : Process) (now : ℤ) :
    Table SafeguardingConcern × Option Process :=
  match process with
  | .opened (.reportConcern userId dto settings) => (concerns.insert (reportedConcern userId dto settings now),none)
  | .opened (.edit concernId edit) => (concerns,(concerns.get? concernId).bind (edit.accept concernId))
  | .writing concernId accepted => (concerns.modify concernId (accepted.write now),none)

def protocol : Protocol (Table SafeguardingConcern) Process Request ℤ := ⟨.opened,act⟩

/-- A request with nothing in between its reading and its writing. -/
def serve (concerns : Table SafeguardingConcern) (request : Request × ℤ) : Table SafeguardingConcern :=
  let read := act concerns (.opened request.1) request.2
  (read.2.map fun process => (act read.1 process request.2).1).getD read.1

/-! ## What the log of a concern says -/

abbrev StatusChange := Option SafeguardingStatus × SafeguardingStatus

def Metadata.change? : Metadata → Option StatusChange
  | .statusChange from_ to_ _ _ => some (from_,to_)
  | _ => none

def SafeguardingAction.change? (action : SafeguardingAction) : Option StatusChange :=
  if action.actionType = .statusChanged then action.metadata.change? else none

def SafeguardingConcern.changes (concern : SafeguardingConcern) : List StatusChange :=
  concern.actions.filterMap SafeguardingAction.change?

/-- Only the report has nothing before it. -/
def isLawful : Option SafeguardingStatus → SafeguardingStatus → Bool
  | none, to_ => to_ = .reported
  | some from_, to_ => isValidSafeguardingTransition from_ to_

/-- The status the changes lead to, when each is lawful and starts from what the one before it ends in. -/
def follow (changes : List StatusChange) : Option (Option SafeguardingStatus) :=
  changes.foldl (fun reached change => reached.bind fun status =>
    if change.1 = status ∧ isLawful change.1 change.2 then some (some change.2) else none) (some none)

/-- The log leads to the status, and a sealed concern was sealed by two users. -/
structure SafeguardingConcern.Explained (concern : SafeguardingConcern) : Prop where
  log : follow concern.changes = some (some concern.status)
  dual : concern.status = .sealed → concern.sealedAt.isSome = true ∧ ∃ initiator approver,
    concern.sealedById = some initiator ∧ concern.sealApprovedById = some approver ∧ initiator ≠ approver

def AllExplained (concerns : Table SafeguardingConcern) : Prop :=
  ∀ id concern, concerns.get? id = some concern → concern.Explained

/-- Nothing of a sealed concern changes, its log included. -/
def SealedStay (concerns later : Table SafeguardingConcern) : Prop :=
  ∀ id concern, concerns.get? id = some concern → concern.status = .sealed → later.get? id = some concern

/-- What a write must find: a status change the status that was read, a seal a resolved concern whose seal another user
has initiated; any other write a concern that is not sealed, and it may not pass for a status change. -/
def Accepted.Finds (accepted : Accepted) (concern : SafeguardingConcern) : Prop :=
  match accepted.edit with
  | .transitionStatus _ _ _ => concern.status = accepted.found.status
  | .approveSeal userId =>
    concern.status = .resolved ∧ ∃ initiator, concern.sealedById = some initiator ∧ initiator ≠ userId
  | _ => concern.status ≠ .sealed ∧ (accepted.edit.action accepted.found).change? = none

def Timely (concerns : Table SafeguardingConcern) : Process → ℤ → Prop
  | .opened _, _ => True
  | .writing id accepted, _ => ∀ concern, concerns.get? id = some concern → accepted.Finds concern

section
variable {concerns later last : Table SafeguardingConcern} {concern : SafeguardingConcern} {accepted : Accepted}
  {now : ℤ} {id : ℕ}

theorem follow_append_iff {changes : List StatusChange} {status : SafeguardingStatus}
    (h : follow changes = some (some status)) (from_ : Option SafeguardingStatus) (to_ reached : SafeguardingStatus) :
    follow (changes ++ [(from_,to_)]) = some (some reached) ↔
      from_ = some status ∧ isValidSafeguardingTransition status to_ = true ∧ to_ = reached := by
  have happend : follow (changes ++ [(from_,to_)]) = (follow changes).bind fun status =>
      if from_ = status ∧ isLawful from_ to_ then some (some to_) else none := by
    rw [follow,List.foldl_append]
    rfl
  rw [happend,h,Option.bind_some]
  constructor
  · intro hreached
    split at hreached
    · rename_i hlawful
      obtain ⟨rfl,hvalid⟩ := hlawful
      exact ⟨rfl,hvalid,Option.some.inj (Option.some.inj hreached)⟩
    · cases hreached
  · rintro ⟨rfl,hvalid,rfl⟩
    exact if_pos ⟨rfl,hvalid⟩

theorem isValidSafeguardingTransition_self (status : SafeguardingStatus) :
    isValidSafeguardingTransition status status = false := by cases status <;> decide

theorem changes_write : (accepted.write now concern).changes =
    concern.changes ++ (accepted.edit.action accepted.found).change?.toList := by
  rw [SafeguardingConcern.changes,Accepted.write,List.filterMap_append]
  cases h : (accepted.edit.action accepted.found).change? <;> simp [SafeguardingConcern.changes,h]

/-- Every write adds an action to the log. -/
theorem write_ne : accepted.write now concern ≠ concern := by
  intro h
  have hlength := congrArg (fun c => c.actions.length) h
  simp only [Accepted.write,List.length_append,List.length_singleton] at hlength
  omega

theorem explained_write_of_status (h : concern.Explained) (hsealed : concern.status ≠ .sealed)
    (hstatus : (accepted.write now concern).status = concern.status) :
    (accepted.write now concern).Explained ↔ (accepted.edit.action accepted.found).change? = none := by
  cases hchange : (accepted.edit.action accepted.found).change? with
  | none =>
    refine iff_of_true ⟨?_,fun hs => absurd (hstatus.symm.trans hs) hsealed⟩ rfl
    rw [changes_write,hchange,hstatus,Option.toList_none,List.append_nil]
    exact h.log
  | some change =>
    refine iff_of_false (fun hexplained => ?_) (by simp)
    have hlog := hexplained.log
    rw [changes_write,hchange,hstatus,Option.toList_some] at hlog
    obtain ⟨-,hvalid,hto⟩ := (follow_append_iff h.log _ _ _).mp hlog
    rw [hto,isValidSafeguardingTransition_self] at hvalid
    cases hvalid

theorem refusal_eq_none_iff {p : Prop} [Decidable p] {error : SafeguardingError} {rest : Option SafeguardingError} :
    (if p then some error else rest) = none ↔ ¬p ∧ rest = none := by
  split <;> simp [*]

theorem accepted_transitionStatus {found : SafeguardingConcern} {userId : ℕ} {status : SafeguardingStatus}
    {reason : String} (h : (Edit.transitionStatus userId status reason).refusal found = none) :
    found.status ≠ .sealed ∧ isValidSafeguardingTransition found.status status = true ∧ status ≠ .sealed := by
  simpa [Edit.refusal,refusal_eq_none_iff] using h

/-- A write leaves a sealed concern as it is and an explained one explained just when it finds what it must. -/
theorem write_iff (h : concern.Explained) : ((concern.status = .sealed → accepted.write now concern = concern) ∧
    (accepted.write now concern).Explained) ↔ accepted.Finds concern := by
  have hopen : (concern.status = .sealed → accepted.write now concern = concern) ↔ concern.status ≠ .sealed :=
    ⟨fun hkept hs => write_ne (hkept hs),fun hne hs => absurd hs hne⟩
  rw [hopen]
  have hplain : (accepted.write now concern).status = concern.status → (concern.status ≠ .sealed ∧
      (accepted.write now concern).Explained ↔
        concern.status ≠ .sealed ∧ (accepted.edit.action accepted.found).change? = none) :=
    fun hstatus => and_congr_right fun hsealed => explained_write_of_status h hsealed hstatus
  have hlog : (accepted.write now concern).changes = _ := changes_write
  obtain ⟨edit,found,haccepted⟩ := accepted
  cases edit with
  | transitionStatus userId status reason =>
    obtain ⟨hfound,hvalid,hsealed⟩ := accepted_transitionStatus haccepted
    have hlead := hlog.symm ▸ follow_append_iff h.log (some found.status) status status
    constructor
    · rintro ⟨-,hexplained⟩
      exact (Option.some.inj (hlead.mp hexplained.log).1).symm
    · intro hstatus
      change concern.status = found.status at hstatus
      refine ⟨hstatus ▸ hfound,hlead.mpr ⟨by rw [hstatus],?_,rfl⟩,fun hs => absurd hs hsealed⟩
      rw [hstatus]
      exact hvalid
  | approveSeal userId =>
    have hlead := hlog.symm ▸ follow_append_iff h.log (some .resolved) .sealed .sealed
    constructor
    · rintro ⟨-,hexplained⟩
      obtain ⟨-,initiator,approver,hinitiator,happrover,hne⟩ := hexplained.dual rfl
      obtain rfl := Option.some.inj happrover
      exact ⟨(Option.some.inj (hlead.mp hexplained.log).1).symm,initiator,hinitiator,hne⟩
    · rintro ⟨hstatus,initiator,hinitiator,hne⟩
      refine ⟨by rw [hstatus]; decide,hlead.mpr ⟨by rw [hstatus],by rw [hstatus]; decide,rfl⟩,fun _ => ⟨rfl,?_⟩⟩
      exact ⟨initiator,userId,hinitiator,rfl,hne⟩
  | recordReferral userId type referenceNumber referredAt => exact hplain (by cases type <;> rfl)
  | updateConcern userId dto => exact hplain rfl
  | assignConcern userId designatedLiaisonId assignedToId => exact hplain rfl
  | recordAction userId dto => exact hplain rfl
  | initiateSeal userId reason => exact hplain rfl
  | rejectSeal userId reason => exact hplain rfl

/-! ## Runs -/

theorem SealedStay.refl (concerns : Table SafeguardingConcern) : SealedStay concerns concerns := fun _ _ h _ => h

theorem SealedStay.trans (h : SealedStay concerns later) (h' : SealedStay later last) : SealedStay concerns last :=
  fun id concern hget hs => h' id concern (h id concern hget hs) hs

theorem explained_reportedConcern (userId : ℕ) (dto : ReportSafeguardingConcernDto) (settings : SafeguardingSettings)
    (now : ℤ) : (reportedConcern userId dto settings now).Explained := ⟨rfl,fun hs => by cases hs⟩

theorem act_iff (h : AllExplained concerns) (process : Process) (now : ℤ) :
    (SealedStay concerns (act concerns process now).1 ∧ AllExplained (act concerns process now).1) ↔
      Timely concerns process now := by
  cases process with
  | opened request =>
    refine iff_of_true ?_ trivial
    cases request with
    | edit concernId edit => exact ⟨.refl _,h⟩
    | reportConcern userId dto settings =>
      refine ⟨fun id concern hget _ => ?_,fun id concern hget => ?_⟩
      · have hlt := Table.lt_next_of_get? hget
        rw [act,Table.get?_insert,if_neg (by omega)]
        exact hget
      · rw [act,Table.get?_insert] at hget
        split at hget
        · obtain rfl := Option.some.inj hget
          exact explained_reportedConcern userId dto settings now
        · exact h id concern hget
  | writing id accepted =>
    constructor
    · rintro ⟨hstay,hexplained⟩ concern hget
      have hwritten : (concerns.modify id (accepted.write now)).get? id = some (accepted.write now concern) :=
        Table.get?_modify_self hget _
      exact (write_iff (h id concern hget)).mp
        ⟨fun hs => Option.some.inj (hwritten.symm.trans (hstay id concern hget hs)),hexplained id _ hwritten⟩
    · intro hfinds
      refine ⟨fun i concern hget hs => ?_,fun i concern hget => ?_⟩
      · by_cases hi : i = id
        · subst hi
          have hkept : accepted.write now concern = concern :=
            ((write_iff (h i concern hget)).mpr (hfinds concern hget)).1 hs
          exact (Table.get?_modify_self hget _).trans (congrArg some hkept)
        · exact (Table.get?_modify_ne concerns hi _).trans hget
      · rw [act,Table.get?_modify] at hget
        split at hget
        · rename_i hi
          subst hi
          obtain ⟨old,hold,rfl⟩ := Option.map_eq_some_iff.mp hget
          exact ((write_iff (h i old hold)).mpr (hfinds old hold)).2
        · exact h i concern hget

/-- In any interleaving, sealed concerns never change, each was sealed by two users and every log leads to the status
of its concern, if and only if every write still finds what it must. -/
theorem seals_run_iff (events : List (Event Request ℤ)) :
    ((trace (step protocol) (State.idle .empty) events).Pairwise (fun st later => SealedStay st.store later.store) ∧
      ∀ st ∈ trace (step protocol) (State.idle .empty) events,AllExplained st.store) ↔
        Guarded (step protocol) (AtAct Timely) (State.idle .empty) events := by
  have hpairs : (trace (step protocol) (State.idle .empty) events).Pairwise (fun st later =>
      SealedStay st.store later.store) ↔ Guarded (step protocol) (fun st e =>
        SealedStay st.store (step protocol st e).store) (State.idle .empty) events :=
    (by refine trace_pairwise_iff ?_; exact fun _ _ _ => SealedStay.trans)
  refine (and_congr_left' hpairs).trans ((guarded_and_trace_iff
    (I := fun st : State (Table SafeguardingConcern) Process => AllExplained st.store) fun st e hst => ?_).trans
      (and_iff_right fun _ _ hget => by cases hget))
  exact step_atAct_iff (P := fun concerns => SealedStay st.store concerns ∧ AllExplained concerns) ⟨.refl _,hst⟩
    (fun _ q input _ => act_iff hst q input) e

/-! ## One request after another -/

/-- The change that an action recorded by hand passes for. -/
def Edit.claimed : Edit → Option StatusChange
  | .recordAction _ dto => if dto.actionType = .statusChanged then (dto.metadata.getD .other).change? else none
  | _ => none

/-- The checks on a concern are what the write must find in it. -/
theorem finds_found_iff (h : accepted.found.Explained) :
    accepted.Finds accepted.found ↔ accepted.edit.claimed = none := by
  obtain ⟨edit,found,haccepted⟩ := accepted
  have hopen : (if found.status = .sealed then some SafeguardingError.concernSealed else none) = none →
      found.status ≠ .sealed := fun hnone hs => by simp [hs] at hnone
  cases edit with
  | updateConcern userId dto => exact iff_of_true ⟨hopen haccepted,rfl⟩ rfl
  | transitionStatus userId status reason => exact iff_of_true rfl rfl
  | assignConcern userId designatedLiaisonId assignedToId => exact iff_of_true ⟨hopen haccepted,rfl⟩ rfl
  | recordReferral userId type referenceNumber referredAt =>
    exact iff_of_true ⟨hopen haccepted,by cases type <;> rfl⟩ rfl
  | recordAction userId dto => exact and_iff_right (hopen haccepted)
  | initiateSeal userId reason =>
    refine iff_of_true ⟨fun hs => ?_,rfl⟩ rfl
    change found.status = .sealed at hs
    simp [Edit.refusal,hs] at haccepted
  | approveSeal userId =>
    refine iff_of_true ?_ rfl
    change found.status = .resolved ∧ _
    cases hby : found.sealedById with
    | none => simp [Edit.refusal,hby] at haccepted
    | some initiator =>
      obtain ⟨huser,hstatus⟩ : initiator ≠ userId ∧ found.status = .resolved := by
        simpa [Edit.refusal,refusal_eq_none_iff,hby] using haccepted
      exact ⟨hstatus,initiator,rfl,huser⟩
  | rejectSeal userId reason =>
    refine iff_of_true ⟨fun hs => ?_,rfl⟩ rfl
    obtain ⟨hat,initiator,approver,hby,-⟩ := h.dual hs
    change found.sealedAt.isSome = true at hat
    change found.sealedById = some initiator at hby
    simp [Edit.refusal,hat,hby] at haccepted

/-- No action recorded on a concern that is open passes for a status change. -/
def ClaimsNoChange (concerns : Table SafeguardingConcern) : Request × ℤ → Prop
  | (.reportConcern _ _ _, _) => True
  | (.edit id edit, _) => ∀ found, concerns.get? id = some found → edit.refusal found = none → edit.claimed = none

theorem serve_iff (h : AllExplained concerns) (request : Request × ℤ) :
    (SealedStay concerns (serve concerns request) ∧ AllExplained (serve concerns request)) ↔
      ClaimsNoChange concerns request := by
  obtain ⟨request,now⟩ := request
  cases request with
  | reportConcern userId dto settings => exact act_iff h (.opened (.reportConcern userId dto settings)) now
  | edit id edit =>
    have hidle : SealedStay concerns concerns ∧ AllExplained concerns := ⟨.refl _,h⟩
    cases hget : concerns.get? id with
    | none =>
      have hserve : serve concerns (.edit id edit,now) = concerns := by simp [serve,act,hget]
      rw [hserve]
      exact iff_of_true hidle fun found hfound => by simp [hget] at hfound
    | some found =>
      by_cases haccepted : edit.refusal found = none
      · have hserve : serve concerns (.edit id edit,now) =
            (act concerns (.writing id ⟨edit,found,haccepted⟩) now).1 := by
          simp [serve,act,hget,Edit.accept,haccepted]
        rw [hserve,act_iff h]
        have hfinds : Accepted.Finds ⟨edit,found,haccepted⟩ found ↔ edit.claimed = none :=
          finds_found_iff (h id found hget)
        constructor
        · exact fun htimely _ _ _ => hfinds.mp (htimely found hget)
        · intro hclaims concern hconcern
          obtain rfl := Option.some.inj (hget.symm.trans hconcern)
          exact hfinds.mpr (hclaims found hget haccepted)
      · have hserve : serve concerns (.edit id edit,now) = concerns := by
          simp [serve,act,hget,Edit.accept,haccepted]
        rw [hserve]
        refine iff_of_true hidle fun concern hconcern hnone => ?_
        obtain rfl := Option.some.inj (hget.symm.trans hconcern)
        exact absurd hnone haccepted

/-- With one request after another, the same holds if and only if no action recorded by hand passes for a change. -/
theorem requests_run_iff (requests : List (Request × ℤ)) :
    ((trace serve .empty requests).Pairwise SealedStay ∧
      ∀ concerns ∈ trace serve .empty requests,AllExplained concerns) ↔
        Guarded serve ClaimsNoChange .empty requests := by
  have hpairs : (trace serve .empty requests).Pairwise SealedStay ↔
      Guarded serve (fun concerns request => SealedStay concerns (serve concerns request)) .empty requests :=
    (by refine trace_pairwise_iff ?_; exact fun _ _ _ => SealedStay.trans)
  exact (and_congr_left' hpairs).trans ((guarded_and_trace_iff fun concerns request h => serve_iff h request).trans
    (and_iff_right fun _ _ hget => by cases hget))

end

end EduPod.Safeguarding
