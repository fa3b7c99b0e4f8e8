import EduPod.Admissions.RowLaws

/-! # Every request obeys its law

The status a request gives to an application it holds, and the status it knows the application to
have had, where it has locked the row before reading it.
-/
namespace EduPod.Admissions
open ReadCommitted Script

/-- The status a request leaves a held application in, unless it leaves the status alone. -/
def AdmissionsRequest.sets : AdmissionsRequest → ℕ → Option ApplicationStatus
  | .submit _,_ | .createPublic ..,_ => none
  | .moveToConditionalApproval applicationId ..,i => if i = applicationId then some .conditionalApproval else none
  | .recordPayment applicationId ..,i | .checkoutCompleted _ applicationId ..,i | .forceApproveWithOverride applicationId ..,i =>
    if i = applicationId then some .approved else none
  | .reject _ applicationId ..,i => some (if i = applicationId then .rejected else .readyToAdmit)
  | .withdraw _ applicationId ..,i => some (if i = applicationId then .withdrawn else .readyToAdmit)
  | .revertApplication applicationId _,i => if i = applicationId then some .waitingList else none
  | .promoteAfterExpiry ..,_ => some .readyToAdmit
  | .manuallyPromote applicationId ..,i => if i = applicationId then some .readyToAdmit else none

/-- The status the application has had since the request locked it. -/
def AdmissionsRequest.checks : AdmissionsRequest → ℕ → Option ApplicationStatus
  | .moveToConditionalApproval applicationId ..,i => if i = applicationId then some .readyToAdmit else none
  | .recordPayment applicationId ..,i | .checkoutCompleted _ applicationId ..,i | .forceApproveWithOverride applicationId ..,i =>
    if i = applicationId then some .conditionalApproval else none
  | .reject _ applicationId ..,i | .withdraw _ applicationId ..,i =>
    if i = applicationId then none else some .waitingList
  | .manuallyPromote applicationId ..,i => if i = applicationId then some .waitingList else none
  | _,_ => none

/-- What a request may do to an application it holds. -/
structure Law (request : AdmissionsRequest) (i : ℕ) (x y : Application) : Prop where
  year : y.targetAcademicYearId = x.targetAcademicYearId
  group : y.targetYearGroupId = x.targetYearGroupId
  checked : ∀ status, request.checks i = some status → x.status = status
  status : y.status = (request.sets i).getD x.status
  student : request.sets i ≠ some .approved → y.materialisedStudentId = x.materialisedStudentId

/-- Only submissions make applications, and these are not admitted yet. -/
def Fresh : AdmissionsRequest → Application → Prop
  | .submit _,a | .createPublic ..,a => a.status = .readyToAdmit ∨ a.status = .waitingList
  | _,_ => False

/-- All that a conversion of application `a` leaves alone. -/
structure Kept (a i : ℕ) (x y : Application) : Prop where
  year : y.targetAcademicYearId = x.targetAcademicYearId
  group : y.targetYearGroupId = x.targetYearGroupId
  status : y.status = x.status
  student : i ≠ a → y.materialisedStudentId = x.materialisedStudentId

theorem kept_refl (a i : ℕ) (x : Application) : Kept a i x x := ⟨rfl,rfl,rfl,fun _ => rfl⟩

theorem Kept.change {a i : ℕ} {x y y' : Application} (h : Kept a i x y)
    (hy : y'.targetAcademicYearId = y.targetAcademicYearId ∧ y'.targetYearGroupId = y.targetYearGroupId ∧
      y'.status = y.status ∧ (i ≠ a → y'.materialisedStudentId = y.materialisedStudentId)) : Kept a i x y' :=
  ⟨hy.1.trans h.year,hy.2.1.trans h.group,hy.2.2.1.trans h.status,fun hi => (hy.2.2.2 hi).trans (h.student hi)⟩

theorem eq_readyToAdmit {status : ApplicationStatus} (h : .conditionalApproval ∈ status.validTransitions) :
    status = .readyToAdmit := by
  cases status <;> simp [ApplicationStatus.validTransitions] at h ⊢

theorem eq_conditionalApproval {status : ApplicationStatus} (h : .approved ∈ status.validTransitions) :
    status = .conditionalApproval := by
  cases status <;> simp [ApplicationStatus.validTransitions] at h ⊢

/-! ## Conversions -/

section
variable {a : ℕ}

theorem preserves_kept_update {change : Application → Application} (h : ∀ y,
    (change y).targetAcademicYearId = y.targetAcademicYearId ∧ (change y).targetYearGroupId = y.targetYearGroupId ∧
      (change y).status = y.status) : Preserves (Kept a) (updateApplication a change) :=
  preserves_updateApplication (fun x => (kept_refl a a x).change ⟨(h x).1,(h x).2.1,(h x).2.2,fun hi => (hi rfl).elim⟩)
    fun _ y hp => hp.change ⟨(h y).1,(h y).2.1,(h y).2.2,fun hi => (hi rfl).elim⟩

theorem preserves_materialise (studentId : ℕ) : Preserves (Kept a) (materialise a studentId) := by
  refine Preserves.bind (preserves_quiet (by simp) (fun _ _ => rfl) fun v => preserves_pure _) fun taken => ?_
  exact preserves_ensure.bind fun _ => preserves_kept_update fun y => ⟨rfl,rfl,rfl⟩

theorem preserves_loadExistingStudent (pointer : Option ℕ) : Preserves (Kept a) (loadExistingStudent a pointer) := by
  cases pointer with
  | none => exact preserves_pure none
  | some studentId =>
    refine (preserves_read _).bind fun existing => ?_
    cases existing with
    | some student => exact preserves_ensure.bind fun _ => preserves_pure _
    | none => exact Preserves.bind (preserves_kept_update fun y => ⟨rfl,rfl,rfl⟩) fun _ => preserves_pure _

theorem preserves_resolveOrCreateParent {P : ℕ → Application → Application → Prop} (input : ParentDetails) (drawn : ℕ)
    (isPrimary : Bool) : Preserves P (resolveOrCreateParent input drawn isPrimary) := by
  refine (preserves_read _).bind fun found => ?_
  split
  · exact (preserves_read _).bind fun link => preserves_pure _
  · exact Preserves.bind (preserves_insert fun _ => rfl) fun _ => preserves_pure _

theorem preserves_resolveSecondParent {P : ℕ → Application → Application → Prop} (payload : ConversionPayload) (drawn : ℕ) :
    Preserves P (resolveSecondParent payload drawn) := by
  unfold resolveSecondParent
  split
  · exact (preserves_resolveOrCreateParent _ _ _).bind fun parent => preserves_pure _
  · exact preserves_pure none

theorem preserves_householdOf {P : ℕ → Application → Application → Prop} (parent1 : ResolvedParent) (draws : Draws) :
    Preserves P (householdOf parent1 draws) := by
  unfold householdOf
  split
  · exact (preserves_read _).bind fun existing => preserves_pure _
  · refine Preserves.bind ((preserves_read _).bind fun number => preserves_require) fun number => ?_
    exact Preserves.bind (preserves_insert fun _ => rfl) fun _ => preserves_pure _

theorem preserves_linkSecondParent {P : ℕ → Application → Application → Prop} (householdId : ℕ)
    (parent2 : Option ResolvedParent) : Preserves P (linkSecondParent householdId parent2) := by
  cases parent2 with
  | some parent => exact preserves_insert fun _ => rfl
  | none => exact preserves_pure ()

theorem preserves_resolveHousehold (application : Application) (payload : ConversionPayload) (draws : Draws) :
    Preserves (Kept a) (resolveHousehold a application payload draws) := by
  unfold resolveHousehold
  split
  · exact (preserves_read _).bind fun found => preserves_require.bind fun household => preserves_pure _
  · refine (preserves_resolveOrCreateParent _ _ _).bind fun parent1 => ?_
    refine (preserves_resolveSecondParent _ _).bind fun parent2 => (preserves_householdOf _ _).bind fun household => ?_
    refine (preserves_linkSecondParent _ _).bind fun _ => Preserves.bind (preserves_linkBatch ?_ (kept_refl a)) fun _ => ?_
    · exact fun i x y hp => hp.change ⟨rfl,rfl,rfl,fun _ => rfl⟩
    · exact Preserves.bind (preserves_kept_update fun y => ⟨rfl,rfl,rfl⟩) fun _ => preserves_pure _

theorem preserves_takeStudentNumber {P : ℕ → Application → Application → Prop} (householdId : ℕ) (number : Option String) :
    Preserves P (takeStudentNumber householdId number) := by
  cases number with
  | some number => exact preserves_quiet (by simp) (fun _ _ => rfl) fun v => preserves_ensure
  | none => exact preserves_quiet (by simp) (fun _ _ => rfl) fun v => preserves_pure ()

theorem preserves_createStudent {P : ℕ → Application → Application → Prop} (studentId : ℕ) (student : Student) :
    Preserves P (createStudent studentId student) :=
  Preserves.bind (preserves_insert fun _ => rfl) fun _ => (preserves_read _).bind fun _ => preserves_insert fun _ => rfl

theorem preserves_materialiseNew (application : Application) (draws : Draws) :
    Preserves (Kept a) (materialiseNew a application draws) := by
  refine preserves_require.bind fun payload => preserves_require.bind fun dateOfBirth => ?_
  refine Preserves.bind (preserves_read _) fun duplicate => ?_
  cases duplicate with
  | some studentId => exact (preserves_materialise studentId).bind fun _ => preserves_pure _
  | none =>
    refine (preserves_resolveHousehold _ _ _).bind fun household => (preserves_takeStudentNumber _ _).bind fun _ => ?_
    exact (preserves_createStudent _ _).bind fun _ => (preserves_materialise _).bind fun _ => preserves_pure _

theorem lawful_convertToStudent {law : ℕ → Application → Application → Prop} {ids : List ℕ} {held : List Row}
    {base view : School} {draws : Draws} {f : ℕ × Bool → Tx Unit} (h : Knows (Kept a) ids held base view)
    (hnext : ∀ held' base' view' b, Knows (Kept a) (a :: ids) held' base' view' → LawfulTx law held' base' view' (f b)) :
    LawfulTx law held base view (convertToStudent a draws >>= f) := by
  rw [convertToStudent,Script.bind_assoc]
  refine lawful_selectForUpdate (kept_refl a a) h (fun _ _ _ => trivial) fun held' base' view' application hk => ?_
  rw [Script.bind_assoc]
  refine lawful_require fun application _ => ?_
  rw [Script.bind_assoc]
  refine (preserves_loadExistingStudent _).next (hk.imp fun i x y hp => hp.1) fun held'' base'' view'' existing hk' => ?_
  cases existing with
  | some studentId => exact hnext _ _ _ _ hk'
  | none => exact (preserves_materialiseNew _ _).next hk' hnext

/-- An approval finds a conditional approval and leaves the application approved. -/
structure Approved (a i : ℕ) (x y : Application) : Prop where
  year : y.targetAcademicYearId = x.targetAcademicYearId
  group : y.targetYearGroupId = x.targetYearGroupId
  self : i = a → x.status = .conditionalApproval ∧ y.status = .approved
  others : i ≠ a → y.status = x.status ∧ y.materialisedStudentId = x.materialisedStudentId

theorem lawful_markApproved {law : ℕ → Application → Application → Prop} {ids : List ℕ} {held : List Row}
    {base view : School} {actingUserId : Option ℕ} {paymentSource : PaymentSource} {overrideRecordId : Option ℕ}
    {f : Unit → Tx Unit} (h : Knows (Kept a) (a :: ids) held base view)
    (hnext : ∀ held' base' view', Knows (Approved a) [] held' base' view' → LawfulTx law held' base' view' (f ())) :
    LawfulTx law held base view (markApproved a actingUserId paymentSource overrideRecordId >>= f) := by
  rw [markApproved,Script.bind_assoc]
  refine lawful_findApplication List.mem_cons_self h fun base' view' c hk => ?_
  rw [Script.bind_assoc]
  refine lawful_require fun current hc => ?_
  obtain rfl : c = current := Option.some.inj hc
  rw [Script.bind_assoc]
  refine lawful_ensure fun ht => ?_
  have hstatus := eq_conditionalApproval ht
  rw [Script.bind_assoc]
  have hmem : Row.application a ∈ held := hk.holds a List.mem_cons_self
  refine lawful_updateApplication (Q := Approved a) hk (fun hh => (hh hmem).elim) ?_ ?_ fun held' base' view' hk' => ?_
  · rintro x y ⟨hp,hy⟩
    have hx : x.status = .conditionalApproval := by rw [← hp.status,hy rfl,hstatus]
    exact ⟨hp.year,hp.group,fun _ => ⟨hx,rfl⟩,fun hi => (hi rfl).elim⟩
  · rintro i x y hi ⟨hp,-⟩
    exact ⟨hp.year,hp.group,fun he => (hi he).elim,fun _ => ⟨hp.status,hp.student hi⟩⟩
  · refine (preserves_createNote _ _ _).next ⟨hk'.obeys,fun _ hi => (List.not_mem_nil hi).elim⟩ ?_
    exact fun held'' base'' view'' _ => hnext held'' base'' view''

end

/-! ## The requests -/

section
variable {base view : School} {request : AdmissionsRequest}

/-- The law of a request that approves one application. -/
theorem Approved.law {a i : ℕ} {x y : Application} (h : Approved a i x y)
    (hs : ∀ i, request.sets i = if i = a then some .approved else none)
    (hc : ∀ i, request.checks i = if i = a then some .conditionalApproval else none) : Law request i x y := by
  refine ⟨h.year,h.group,?_,?_,?_⟩
  · intro status
    rw [hc]
    split
    · rename_i hi
      rintro ⟨⟩
      exact (h.self hi).1
    · exact fun h => by cases h
  · rw [hs]
    split
    · exact (h.self ‹i = a›).2
    · exact (h.others ‹i ≠ a›).1
  · rw [hs]
    split
    · exact fun h => (h rfl).elim
    · exact fun _ => (h.others ‹i ≠ a›).2

/-- Nothing is held at the start of a request. -/
theorem knows_start {P : ℕ → Application → Application → Prop} : Knows P [] [] base view :=
  knows_nil fun _ => List.not_mem_nil

theorem lawful_lockConditionalApproval {a : ℕ} {law : ℕ → Application → Application → Prop} {f : Application → Tx Unit}
    (hnext : ∀ held' base' view' c, Knows (Kept a) [a] held' base' view' → LawfulTx law held' base' view' (f c)) :
    LawfulTx law [] base view (lockConditionalApproval a >>= f) := by
  rw [lockConditionalApproval,Script.bind_assoc]
  refine lawful_selectForUpdate (kept_refl a a) knows_start (fun _ _ _ => trivial) fun held' base' view' c hk => ?_
  rw [Script.bind_assoc]
  refine lawful_require fun row _ => ?_
  rw [Script.bind_assoc]
  exact lawful_ensure fun _ => hnext _ _ _ _ (hk.imp fun i x y hp => hp.1)

theorem lawful_runPaymentFlow {a actingUserId : ℕ} {paymentSource : PaymentSource} {amountCents : ℤ} {draws : Draws} :
    LawfulTx (Law (.recordPayment a actingUserId paymentSource amountCents draws)) [] base view
      (runPaymentFlow a actingUserId paymentSource amountCents draws) := by
  refine lawful_lockConditionalApproval fun held base view locked hk => ?_
  refine lawful_ensure fun _ => lawful_ensure fun _ => lawful_convertToStudent hk fun held base view student hk => ?_
  refine lawful_markApproved hk fun held base view hk => ?_
  exact (preserves_createNote _ _ _).last hk fun i x y hp => hp.law (fun _ => rfl) fun _ => rfl

theorem lawful_forceApproveWithOverride {a actingUserId overrideId : ℕ} {actual : ℤ} {justification : String} {draws : Draws} :
    LawfulTx (Law (.forceApproveWithOverride a actingUserId overrideId actual justification draws)) [] base view
      (forceApproveWithOverride a actingUserId overrideId actual justification draws) := by
  refine lawful_ensure fun _ => lawful_lockConditionalApproval fun held base view locked hk => ?_
  refine Preserves.next (preserves_insert fun _ => rfl) hk fun held base view _ hk => ?_
  refine Preserves.next (preserves_kept_update fun y => ⟨rfl,rfl,rfl⟩) hk fun held base view _ hk => ?_
  refine lawful_convertToStudent hk fun held base view student hk => lawful_markApproved hk fun held base view hk => ?_
  exact (preserves_createNote _ _ _).last hk fun i x y hp => hp.law (fun _ => rfl) fun _ => rfl

theorem lawful_checkoutCompleted {eventId a : ℕ} {expectedCents actualCents : ℤ} {draws : Draws} :
    LawfulTx (Law (.checkoutCompleted eventId a expectedCents actualCents draws)) [] base view
      (handleAdmissionsCheckoutCompleted eventId a expectedCents actualCents draws) := by
  have hevent : ∀ {P : ℕ → Application → Application → Prop} {event}, Preserves P (createPaymentEvent event) :=
    fun {_ _} => preserves_quiet (by simp) (fun _ _ => rfl) fun _ => preserves_ensure
  have hheld : Knows (fun _ _ _ => False) [] [] base view := knows_start
  refine lawful_ensure fun _ => (preserves_read _).next hheld fun held base view existing hk => ?_
  split
  · exact (preserves_pure ()).last hk fun i x y hp => hp.elim
  · refine (preserves_read _).next hk fun held base view found hk => lawful_require fun application _ => ?_
    refine lawful_ensure fun _ => lawful_ensure fun _ => ?_
    split
    · exact hevent.last hk fun i x y hp => hp.elim
    · refine hevent.next hk fun held base view _ hk => lawful_require fun reviewer _ => ?_
      refine lawful_convertToStudent (hk.imp fun i x y hp => hp.elim) fun held base view student hk => ?_
      rw [← Script.bind_done (markApproved _ _ _ _)]
      exact lawful_markApproved hk fun held base view hk => (hk.imp fun i x y hp => hp.law (fun _ => rfl) fun _ => rfl).obeys

theorem preserves_lock {P : ℕ → Application → Application → Prop} {rows : List Row} (h : ∀ i, Row.application i ∉ rows) :
    Preserves P (lock rows) := preserves_quiet (fun _ => h) (fun _ _ => rfl) fun _ => preserves_pure ()

/-- Application `a` is held as it was found. -/
def Locked (a i : ℕ) (x y : Application) : Prop := i = a ∧ x = y

theorem lawful_moveToConditionalApproval {a actingUserId : ℕ} {paymentAmountCents paymentDeadline : ℤ} :
    LawfulTx (Law (.moveToConditionalApproval a actingUserId paymentAmountCents paymentDeadline)) [] base view
      (moveToConditionalApproval a actingUserId paymentAmountCents paymentDeadline) := by
  have hstart : Knows (Locked a) [] [] base view := knows_start
  refine lawful_selectForUpdate (fun x => ⟨rfl,rfl⟩) hstart (fun _ _ _ => trivial) fun held base view c hk => ?_
  refine lawful_require fun current hc => lawful_ensure fun ht => lawful_require fun target _ => ?_
  obtain rfl : c = current := Option.some.inj hc
  have hstatus := eq_readyToAdmit ht
  refine (preserves_lock (by simp)).next hk fun held base view _ hk => ?_
  refine (preserves_read _).next hk fun held base view capacity hk => lawful_ensure fun _ => ?_
  refine lawful_updateApplication (Q := Law (.moveToConditionalApproval a actingUserId paymentAmountCents paymentDeadline))
    hk (fun hh => (hh (hk.holds a List.mem_cons_self)).elim) ?_ ?_ fun held base view hk => ?_
  · rintro x y ⟨⟨-,rfl⟩,hy⟩
    have hx : x.status = .readyToAdmit := (hy rfl) ▸ hstatus
    refine ⟨rfl,rfl,?_,?_,fun _ => rfl⟩ <;> simp [AdmissionsRequest.checks,AdmissionsRequest.sets,hx]
  · exact fun i x y hi ⟨⟨he,_⟩,_⟩ => (hi he).elim
  · exact (preserves_createNote _ _ _).last hk fun i x y hp => hp

theorem lawful_manuallyPromote {a actingUserId : ℕ} {justification : String} :
    LawfulTx (Law (.manuallyPromote a actingUserId justification)) [] base view
      (manuallyPromoteToReadyToAdmit a actingUserId justification) := by
  have hstart : Knows (Locked a) [] [] base view := knows_start
  refine lawful_ensure fun _ => lawful_selectForUpdate (fun x => ⟨rfl,rfl⟩) hstart (fun _ _ _ => trivial) ?_
  intro held base view c hk
  refine lawful_require fun current hc => lawful_ensure fun hstatus => ?_
  obtain rfl : c = current := Option.some.inj hc
  refine (preserves_read _).next hk fun held base view row hk => lawful_ensure fun _ => lawful_require fun target _ => ?_
  refine (preserves_lock (by simp)).next hk fun held base view _ hk => (preserves_read _).next hk ?_
  refine fun held base view capacity hk => (preserves_read _).next hk fun held base view count hk => lawful_ensure fun _ => ?_
  refine lawful_updateApplication (Q := Law (.manuallyPromote a actingUserId justification)) hk
    (fun hh => (hh (hk.holds a List.mem_cons_self)).elim) ?_ ?_ fun held base view hk => ?_
  · rintro x y ⟨⟨-,rfl⟩,hy⟩
    have hx : x.status = .waitingList := (hy rfl) ▸ hstatus
    refine ⟨rfl,rfl,?_,?_,fun _ => rfl⟩ <;> simp [AdmissionsRequest.checks,AdmissionsRequest.sets,hx]
  · exact fun i x y hi ⟨⟨he,_⟩,_⟩ => (hi he).elim
  · exact (preserves_createNote _ _ _).last hk fun i x y hp => hp

/-- Application `a` has been given a status, whatever its status was. -/
structure Overwritten (a : ℕ) (status : ApplicationStatus) (i : ℕ) (x y : Application) : Prop where
  only : i = a
  year : y.targetAcademicYearId = x.targetAcademicYearId
  group : y.targetYearGroupId = x.targetYearGroupId
  status : y.status = status
  student : y.materialisedStudentId = x.materialisedStudentId

/-- The law of a request that releases a seat and hands it on. -/
structure Released (a : ℕ) (status : ApplicationStatus) (i : ℕ) (x y : Application) : Prop where
  year : y.targetAcademicYearId = x.targetAcademicYearId
  group : y.targetYearGroupId = x.targetYearGroupId
  self : i = a → y.status = status
  others : i ≠ a → x.status = .waitingList ∧ y.status = .readyToAdmit
  student : y.materialisedStudentId = x.materialisedStudentId

theorem lawful_releaseSeat {a : ℕ} {status : ApplicationStatus} {skipped : List ℕ} {current : Application} {held : List Row}
    {law : ℕ → Application → Application → Prop} (hs : status ≠ .waitingList)
    (h : Knows (Overwritten a status) [a] held base view) (hlaw : ∀ i x y, Released a status i x y → law i x y) :
    LawfulTx law held base view (releaseSeat skipped current) := by
  have hdone : ∀ {held base view}, Knows (Overwritten a status) [a] held base view →
      LawfulTx law held base view (pure ()) := fun hk => (preserves_pure ()).last hk fun i x y hp =>
    hlaw i x y ⟨hp.year,hp.group,fun _ => hp.status,fun hi => (hi hp.only).elim,hp.student⟩
  unfold releaseSeat
  cases current.target? with
  | none => exact hdone h
  | some target =>
    by_cases hc : current.status = .conditionalApproval
    swap
    · simp only [hc,if_false]
      exact hdone h
    simp only [hc,if_true]
    rw [AutoPromotion.promoteYearGroup,Script.bind_assoc]
    refine (preserves_read _).next h fun held base view capacity hk => ?_
    split
    · exact hdone hk
    · rw [Script.bind_assoc]
      refine lawful_selectCandidates hk fun held base view chosen hk => ?_
      rw [Script.bind_assoc]
      refine lawful_promoteAll (P := Released a status) chosen (fun i hi => .inl (List.mem_append_left _ hi))
        (hk.imp ?_) fun held base view hk => ?_
      · rintro i x y ⟨hp | ⟨hi,hc,rfl⟩,hw⟩
        · have hnot : i ∉ chosen := fun hc => hs (hp.status.symm.trans (hw hc))
          rw [if_neg hnot]
          exact ⟨hp.year,hp.group,fun _ => hp.status,fun hi => (hi hp.only).elim,hp.student⟩
        · rw [if_pos hc]
          exact ⟨rfl,rfl,fun he => (hi (he ▸ List.mem_cons_self)).elim,fun _ => ⟨hw hc,rfl⟩,rfl⟩
      · exact (preserves_pure ()).last hk hlaw

/-- The law of a request that releases one application's seat. -/
theorem Released.law {a i : ℕ} {x y : Application} {status : ApplicationStatus} (h : Released a status i x y)
    (hs : ∀ i, request.sets i = some (if i = a then status else .readyToAdmit))
    (hc : ∀ i, request.checks i = if i = a then none else some .waitingList) : Law request i x y := by
  refine ⟨h.year,h.group,?_,?_,fun _ => h.student⟩
  · intro status'
    rw [hc]
    split
    · exact fun h => by cases h
    · rintro ⟨⟩
      exact (h.others ‹i ≠ a›).1
  · rw [hs,Option.getD_some]
    split
    · exact h.self ‹i = a›
    · exact (h.others ‹i ≠ a›).2

/-- An update of an application that is not held yet. -/
theorem lawful_overwrite {a : ℕ} {status : ApplicationStatus} {change : Application → Application} {held : List Row}
    {law : ℕ → Application → Application → Prop} {f : Unit → Tx Unit} (h : Knows (fun _ _ _ => False) [] held base view)
    (hchange : ∀ x, Overwritten a status a x (change x))
    (hnext : ∀ held' base' view', Knows (Overwritten a status) [a] held' base' view' → LawfulTx law held' base' view' (f ())) :
    LawfulTx law held base view (updateApplication a change >>= f) :=
  lawful_updateApplication h (fun _ => hchange) (fun _ _ hp => hp.elim) (fun _ _ _ _ hp => hp.elim) hnext

theorem lawful_reject {a actingUserId : ℕ} {reason : String} {skipped : List ℕ} :
    LawfulTx (Law (.reject skipped a actingUserId reason)) [] base view (reject skipped a actingUserId reason) := by
  have hstart : Knows (fun _ _ _ => False) [] [] base view := knows_start
  refine lawful_ensure fun _ => (preserves_read _).next hstart fun held base view found hk => ?_
  refine lawful_require fun current _ => lawful_ensure fun _ => ?_
  refine lawful_overwrite hk (fun x => ⟨rfl,rfl,rfl,rfl,rfl⟩) fun held base view hk => ?_
  refine (preserves_createNote _ _ _).next hk fun held base view _ hk => ?_
  exact lawful_releaseSeat (by decide) hk fun i x y hp => hp.law (fun _ => rfl) fun _ => rfl

theorem lawful_withdraw {a actingUserId : ℕ} {isParent : Bool} {skipped : List ℕ} :
    LawfulTx (Law (.withdraw skipped a actingUserId isParent)) [] base view (withdraw skipped a actingUserId isParent) := by
  have hstart : Knows (fun _ _ _ => False) [] [] base view := knows_start
  have hrest : ∀ {held base view} {current : Application}, Knows (fun _ _ _ => False) [] held base view →
      LawfulTx (Law (.withdraw skipped a actingUserId isParent)) held base view (do
        assertTransitionAllowed current.status .withdrawn
        updateApplication a fun b => { b with status := .withdrawn, reviewedByUserId := some actingUserId }
        createNote a (some actingUserId) .withdrawn
        releaseSeat skipped current) := by
    intro held base view current hk
    refine lawful_ensure fun _ => ?_
    refine lawful_overwrite hk (fun x => ⟨rfl,rfl,rfl,rfl,rfl⟩) fun held base view hk => ?_
    refine (preserves_createNote _ _ _).next hk fun held base view _ hk => ?_
    exact lawful_releaseSeat (by decide) hk fun i x y hp => hp.law (fun _ => rfl) fun _ => rfl
  refine (preserves_read _).next hstart fun held base view found hk => lawful_require fun current _ => ?_
  cases isParent with
  | false => exact hrest hk
  | true => exact (preserves_read _).next hk fun held base view parent hk => lawful_ensure fun _ => hrest hk

theorem preserves_noteRevert {P : ℕ → Application → Application → Prop} (id : ℕ) (reviewer : Option ℕ) :
    Preserves P (PaymentExpiry.noteRevert id reviewer) := by
  cases reviewer with
  | none => exact preserves_pure ()
  | some reviewer => exact preserves_createNote _ _ _

theorem lawful_revertApplication {a : ℕ} {now : ℤ} :
    LawfulTx (Law (.revertApplication a now)) [] base view (serve (.revertApplication a now)) := by
  have hstart : Knows (fun _ _ _ => False) [] [] base view := knows_start
  have hlaw : ∀ i x y, Overwritten a .waitingList i x y → Law (.revertApplication a now) i x y := by
    rintro i x y ⟨rfl,hyear,hgroup,hstatus,hstudent⟩
    refine ⟨hyear,hgroup,fun _ h => (Option.some_ne_none _ h.symm).elim,?_,fun _ => hstudent⟩
    simpa [AdmissionsRequest.sets] using hstatus
  rw [serve,PaymentExpiry.revertApplication,Script.bind_assoc]
  refine (preserves_read _).next hstart fun held base view found hk => ?_
  cases found with
  | none => exact (preserves_pure ()).last hk fun i x y hp => hp.elim
  | some current =>
    dsimp only
    split
    · rw [Script.bind_assoc]
      refine lawful_overwrite hk (fun x => ⟨rfl,rfl,rfl,rfl,rfl⟩) fun held base view hk => ?_
      rw [Script.bind_assoc]
      refine (preserves_noteRevert _ _).next hk fun held base view _ hk => ?_
      exact (preserves_pure ()).last hk hlaw
    · exact (preserves_pure ()).last hk fun i x y hp => hp.elim

theorem lawful_promoteAfterExpiry {academicYearId yearGroupId attributionUserId : ℕ} :
    LawfulTx (Law (.promoteAfterExpiry academicYearId yearGroupId attributionUserId)) [] base view
      (serve (.promoteAfterExpiry academicYearId yearGroupId attributionUserId)) := by
  have hdone : ∀ {held base view}, Knows (fun _ _ _ => False) [] held base view →
      LawfulTx (Law (.promoteAfterExpiry academicYearId yearGroupId attributionUserId)) held base view (pure ()) :=
    fun hk => (preserves_pure ()).last hk fun i x y hp => hp.elim
  have hstart : Knows (fun _ _ _ => False) [] [] base view := knows_start
  rw [serve,PaymentExpiry.promoteYearGroup,Script.bind_assoc]
  refine (preserves_read _).next hstart fun held base view classes hk => ?_
  split
  · exact hdone hk
  rw [Script.bind_assoc]
  refine (preserves_read _).next hk fun held base view enrolled hk => ?_
  rw [Script.bind_assoc]
  refine (preserves_read _).next hk fun held base view conditionalCount hk => ?_
  dsimp only
  split
  · exact hdone hk
  rw [Script.bind_assoc]
  refine (preserves_read _).next hk fun held base view promoted hk => ?_
  rw [Script.bind_assoc]
  refine lawful_promoteAll (P := Law (.promoteAfterExpiry academicYearId yearGroupId attributionUserId)) promoted
    (fun i hi => .inr fun x => ⟨rfl,rfl,fun _ h => (Option.some_ne_none _ h.symm).elim,rfl,fun _ => rfl⟩) (hk.imp fun i x y hp => hp.elim) ?_
  exact fun held base view hk => (preserves_pure ()).last hk fun i x y hp => hp

theorem route_status (capacity : School.AvailableSeats) : (routeSubmittedApplication capacity).1 = .readyToAdmit ∨
    (routeSubmittedApplication capacity).1 = .waitingList := by
  unfold routeSubmittedApplication
  split
  · exact .inr rfl
  · split
    · exact .inl rfl
    · exact .inr rfl

/-- A submission holds no application, and the one it makes is not admitted yet. -/
theorem lawful_createAndRoute {fresh : Application → Prop} {law : ℕ → Application → Application → Prop} {held : List Row}
    {householdId : Option ℕ} {isSibling : Bool} {s : Submission} {f : Unit → Tx Unit}
    (hfresh : ∀ a : Application, a.status = .readyToAdmit ∨ a.status = .waitingList → fresh a)
    (h : Knows (fun _ _ _ => False) [] held base view)
    (hnext : ∀ held' base' view', Knows (fun _ _ _ => False) [] held' base' view' →
      Lawful School.application Row.application fresh law held' base' view' (f ())) :
    Lawful School.application Row.application fresh law held base view (createAndRoute householdId isSibling s >>= f) := by
  refine lawful_quiet (by simp) (fun _ _ => rfl) h fun held base view _ hk => ?_
  refine lawful_quiet (fun _ _ => List.not_mem_nil) (fun _ _ => rfl) hk fun held base view v hk => ?_
  intro base' view' hb hv _
  have hnone : ∀ i, Row.application i ∉ held := by
    intro i hi
    obtain ⟨-,-,-,-,hp⟩ := hk.obeys i hi
    exact hp
  have hrow := hfresh (s.row householdId isSibling (routeSubmittedApplication
    (v.availableSeats s.targetAcademicYearId s.targetYearGroupId)).1 (routeSubmittedApplication
    (v.availableSeats s.targetAcademicYearId s.targetYearGroupId)).2) (route_status _)
  refine ⟨fun i hi => (List.not_mem_nil hi).elim,⟨fun d i _ => ?_,fun d d' _ i hi => ?_⟩,?_⟩
  · change (d.applications.insert _).get? i = d.applications.get? i ∨ d.applications.get? i = none ∧
      ∃ a, (d.applications.insert _).get? i = some a ∧ fresh a
    rw [Table.get?_insert]
    split
    · rename_i hi
      refine .inr ⟨?_,_,rfl,hrow⟩
      rw [hi]
      exact Table.get?_next _
    · exact .inl rfl
  · rw [List.append_nil] at hi
    exact (hnone i hi).elim
  · rw [List.append_nil]
    exact hnext _ _ _ (knows_nil hnone)

theorem lawful_createAll {fresh : Application → Prop} {law : ℕ → Application → Application → Prop} {held : List Row}
    {householdId : Option ℕ} {isSibling : Bool} {students : List Submission}
    (hfresh : ∀ a : Application, a.status = .readyToAdmit ∨ a.status = .waitingList → fresh a)
    (h : Knows (fun _ _ _ => False) [] held base view) :
    Lawful School.application Row.application fresh law held base view (createAll householdId isSibling students) := by
  induction students generalizing held base view with
  | nil =>
    intro i hi
    obtain ⟨_,_,_,_,hp⟩ := h.obeys i hi
    exact hp.elim
  | cons s students ih => exact lawful_createAndRoute hfresh h fun held base view hk => ih hk

theorem lawful_createPublic {fresh : Application → Prop} {law : ℕ → Application → Application → Prop}
    {existingHouseholdId : Option ℕ} {students : List Submission}
    (hfresh : ∀ a : Application, a.status = .readyToAdmit ∨ a.status = .waitingList → fresh a) :
    Lawful School.application Row.application fresh law [] base view (createPublic existingHouseholdId students) := by
  have hstart : Knows (fun _ _ _ => False) [] [] base view := knows_start
  cases existingHouseholdId with
  | none => exact lawful_createAll hfresh hstart
  | some householdId =>
    refine lawful_quiet (fun _ _ => List.not_mem_nil) (fun _ _ => rfl) hstart fun held base view v hk => ?_
    refine lawful_require fun household _ => ?_
    exact lawful_quiet (fun _ _ => List.not_mem_nil) (fun _ _ => rfl) hk fun held base view v hk => lawful_createAll hfresh hk

theorem lawful_serve (request : AdmissionsRequest) (db : School) :
    Lawful School.application Row.application (Fresh request) (Law request) [] db db (serve request) := by
  cases request with
  | submit s =>
    change Lawful _ _ _ _ _ _ _ (createAll none false [s])
    exact lawful_createAll (fun a ha => ha) knows_start
  | createPublic existingHouseholdId students => exact lawful_createPublic fun a ha => ha
  | moveToConditionalApproval => exact lawful_moveToConditionalApproval
  | recordPayment => exact lawful_runPaymentFlow
  | checkoutCompleted => exact lawful_checkoutCompleted
  | forceApproveWithOverride => exact lawful_forceApproveWithOverride
  | reject => exact lawful_reject
  | withdraw => exact lawful_withdraw
  | revertApplication => exact lawful_revertApplication
  | promoteAfterExpiry => exact lawful_promoteAfterExpiry
  | manuallyPromote => exact lawful_manuallyPromote

end

abbrev AdmissionsSession := Session School Row AdmissionsError AdmissionsRequest
abbrev AdmissionsState := State School Row AdmissionsError AdmissionsRequest

/-- In every interleaving the sessions know the rows they hold, and no row is held twice. -/
def Ordered (st : AdmissionsState) : Prop := Coherent (Standing School.application Row.application Fresh Law) st

theorem step_ordered (st : AdmissionsState) (e : Event AdmissionsRequest) (h : Ordered st) :
    Ordered (ReadCommitted.step serve st e) := coherent_step (maintained_standing lawful_serve) st e h

theorem ordered_idle (d : School) : Ordered (State.idle d) := coherent_idle _ d

end EduPod.Admissions
