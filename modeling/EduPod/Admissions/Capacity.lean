import EduPod.Admissions.RequestLaws
import EduPod.Admissions.SeatsTaken

/-! # Approved, rejected and withdrawn are final

Payments and overrides decide under the lock of the application. `reject`, `withdraw`, the expiry
revert and the worker's promotions decide on what they read before they had it, so what matters is
what the application has become by the time they commit.
-/
namespace EduPod.Admissions
open ReadCommitted Script Runs

/-- Every application in a terminal status is still there, in the same status. -/
def Settled (d d' : School) : Prop := ∀ i a, d.application i = some a → a.status.terminal = true →
  ∃ a', d'.application i = some a' ∧ a'.status = a.status

/-- The status a request gives to an application it did not lock before reading it. -/
def AdmissionsRequest.unlocked (request : AdmissionsRequest) (i : ℕ) : Option ApplicationStatus :=
  if request.checks i = none then request.sets i else none

/-- A request that has updated an application it read without a lock finds it, as committed by now,
in no terminal status but the one it gives. -/
def DecidesInTime (st : AdmissionsState) : Event AdmissionsRequest → Prop
  | .advance id => ∀ s, st.sessions.get? id = some s → s.script.commits = true →
    ∀ i status, Row.application i ∈ s.held → s.request.unlocked i = some status →
      ∀ a, st.db.application i = some a → a.status.terminal = true → a.status = status
  | _ => True

theorem Settled.trans {d d' d'' : School} (h : Settled d d') (h' : Settled d' d'') : Settled d d'' := by
  intro i a ha ht
  obtain ⟨b,hb,hs⟩ := h i a ha ht
  obtain ⟨c,hc,hs'⟩ := h' i b hb (by rw [hs,ht])
  exact ⟨c,hc,hs'.trans hs⟩

theorem settled_refl (d : School) : Settled d d := fun _ a ha _ => ⟨a,ha,rfl⟩

/-- What a request finds under a lock is never terminal. -/
theorem terminal_checks {request : AdmissionsRequest} {i : ℕ} {status : ApplicationStatus}
    (h : request.checks i = some status) : status.terminal = false := by
  cases request <;> simp only [AdmissionsRequest.checks] at h <;> first
    | cases h
    | (split at h <;> cases h; rfl)

/-- One step leaves terminal applications alone precisely when a request that commits has decided in time. -/
theorem step_settled_iff (st : AdmissionsState) (e : Event AdmissionsRequest) (h : Ordered st) :
    Settled st.db (ReadCommitted.step serve st e).db ↔ DecidesInTime st e := by
  cases e with
  | start request => exact iff_of_true (settled_refl st.db) trivial
  | abort id => exact iff_of_true (settled_refl st.db) trivial
  | advance id =>
    cases hs : st.sessions.get? id with
    | none =>
      rw [step_advance_none hs]
      exact iff_of_true (settled_refl st.db) fun s hs' => by simp [hs] at hs'
    | some s =>
      rw [step_advance_db hs]
      by_cases hc : s.script.commits = true
      swap
      · rw [if_neg hc]
        refine iff_of_true (settled_refl st.db) fun s' hs' hc' => ?_
        obtain rfl : s = s' := Option.some.inj (hs.symm.trans hs')
        exact absurd hc' hc
      rw [if_pos hc]
      have hstand := h.sessions id s hs
      have hobeys := hstand.obeys hc
      constructor
      · intro hsettled s' hs' _ i status hi hu a ha ht
        obtain rfl : s = s' := Option.some.inj (hs.symm.trans hs')
        obtain ⟨x,y,hx,hy,hlaw⟩ := hobeys i hi
        obtain rfl : a = x := Option.some.inj (ha.symm.trans hx)
        obtain ⟨y',hy',hsame⟩ := hsettled i a ha ht
        obtain rfl : y = y' := Option.some.inj (hy.symm.trans hy')
        have hsets : s.request.sets i = some status := by
          unfold AdmissionsRequest.unlocked at hu
          split at hu
          · exact hu
          · cases hu
        rw [← hsame,hlaw.status,hsets,Option.getD_some]
      · intro hg i a ha ht
        by_cases hi : Row.application i ∈ s.held
        swap
        · exact ⟨a,(hstand.owns.framed st.db).kept hi ha,rfl⟩
        obtain ⟨x,y,hx,hy,hlaw⟩ := hobeys i hi
        obtain rfl : a = x := Option.some.inj (ha.symm.trans hx)
        refine ⟨y,hy,?_⟩
        rw [hlaw.status]
        cases hsets : s.request.sets i with
        | none => rfl
        | some status =>
          cases hchecks : s.request.checks i with
          | some found =>
            have hfound := terminal_checks hchecks
            rw [← hlaw.checked found hchecks,ht] at hfound
            cases hfound
          | none =>
            have hu : s.request.unlocked i = some status := by
              rw [AdmissionsRequest.unlocked,if_pos hchecks,hsets]
            exact (hg s hs hc i status hi hu a ha ht).symm

/-- In every interleaving, approved, rejected and withdrawn applications stay what they are from any
state on to every later one precisely when each request that reads without a lock decides in time. -/
theorem trace_settled_iff (d : School) (events : List (Event AdmissionsRequest)) :
    (trace (ReadCommitted.step serve) (State.idle d) events).Pairwise (fun st st' => Settled st.db st'.db) ↔
      Guarded (ReadCommitted.step serve) DecidesInTime (State.idle d) events :=
  (trace_pairwise_iff fun _ _ _ h h' => h.trans h').trans
    (guarded_iff step_ordered step_settled_iff (ordered_idle d))

/-- A conditional approval whose window has closed, for a household that is known already. -/
def expiredApplication : Application where
  submittedByParentId := none
  dateOfBirth := some 5000
  status := .conditionalApproval
  reviewedByUserId := some 1
  payload := some ⟨⟨none,none,none,none⟩,⟨none,none,none,none⟩,none,none,none,some "Ada",some "Byrne",none⟩
  paymentAmountCents := some 10000
  paymentDeadline := some 10
  rejectionReason := none
  targetAcademicYearId := some 1
  targetYearGroupId := some 1
  applyDate := 0
  waitingListSubstatus := none
  overrideRecordId := none
  materialisedStudentId := none
  householdId := some 1
  submissionBatchId := none
  isSiblingApplication := false

def expiredSchool : School where
  applications := Table.empty.insert expiredApplication
  classes := [(1,⟨1,some 1,20,.active⟩)]
  enrolments := []
  students := []
  households := [(1,⟨some "ABC123",0,[1]⟩)]
  parents := [(1,⟨none,none,none,true⟩)]
  overrides := []
  paymentEvents := []
  notes := []

def cashPayment : AdmissionsRequest := .recordPayment 0 2 .cash 10000 ⟨7,8,9,10,[]⟩

/-- The worker reads the expired application, and a cash payment approves it. -/
def paidMeanwhile : List (Event AdmissionsRequest) :=
  [.start (.revertApplication 0 20),.start cashPayment,.advance 0] ++ List.replicate 15 (.advance 1)

/-- Then the worker reverts it. -/
def lateRevert : List (Event AdmissionsRequest) := List.replicate 3 (.advance 0)

theorem not_settled : ¬ ∀ (d : School) (events : List (Event AdmissionsRequest)),
    (trace (ReadCommitted.step serve) (State.idle d) events).Pairwise fun st st' => Settled st.db st'.db := by
  intro h
  have hsettled := rel_foldl_of_pairwise (fun st => settled_refl st.db) (h expiredSchool (paidMeanwhile ++ lateRevert))
  have hbefore : ((paidMeanwhile.foldl (ReadCommitted.step serve) (State.idle expiredSchool)).db.application 0).map
      (·.status) = some .approved := by decide +kernel
  have hafter : ((lateRevert.foldl (ReadCommitted.step serve) (paidMeanwhile.foldl (ReadCommitted.step serve)
      (State.idle expiredSchool))).db.application 0).map (·.status) = some .waitingList := by decide +kernel
  obtain ⟨a,ha,hs⟩ := Option.map_eq_some_iff.mp hbefore
  obtain ⟨a',ha',hs'⟩ := hsettled 0 a ha (by rw [hs]; rfl)
  rw [ha',Option.map_some,hs',hs] at hafter
  cases hafter

/-! ## The seats of a year group in every interleaving

Classes and enrolments stay as they are. Only a conditional approval takes a seat that was not taken
before, so what matters is whether it commits while one is left.
-/

/-- What fixes the capacity. -/
def School.placement (d : School) : List (ℕ × SchoolClass) × List ClassEnrolment := (d.classes,d.enrolments)

section
variable {β : Type}

theorem keeps_insert {w : School → School} (hw : ∀ d, (w d).placement = d.placement) :
    (Script.insert w : Tx Unit).Keeps School.placement := keeps_statement (fun _ => hw) fun _ => trivial

theorem keeps_lock (rows : List Row) : (lock rows : Tx Unit).Keeps School.placement :=
  keeps_statement (fun _ _ => rfl) fun _ => trivial

theorem keeps_updateApplication (id : ℕ) (change : Application → Application) :
    (updateApplication id change).Keeps School.placement := by
  refine Keeps.bind (keeps_statement (fun view d => ?_) fun _ => trivial) fun _ => keeps_ensure
  split <;> rfl

theorem keeps_createNote (id : ℕ) (author : Option ℕ) (action : NoteAction) :
    (createNote id author action).Keeps School.placement := keeps_insert fun _ => rfl

theorem keeps_selectForUpdate (id : ℕ) : (selectForUpdate id).Keeps School.placement :=
  keeps_statement (fun _ _ => rfl) fun _ => trivial

theorem keeps_promoteAll (author : Option ℕ) (ids : List ℕ) : (promoteAll author ids).Keeps School.placement := by
  induction ids with
  | nil => trivial
  | cons id ids ih => exact (keeps_updateApplication _ _).bind fun _ => (keeps_createNote _ _ _).bind fun _ => ih

theorem keeps_materialise (id studentId : ℕ) : (materialise id studentId).Keeps School.placement :=
  Keeps.bind (keeps_statement (fun _ _ => rfl) fun _ => trivial) fun _ => keeps_ensure.bind fun _ =>
    keeps_updateApplication _ _

theorem keeps_loadExistingStudent (id : ℕ) (pointer : Option ℕ) :
    (loadExistingStudent id pointer).Keeps School.placement := by
  cases pointer with
  | none => trivial
  | some studentId =>
    refine (keeps_read _).bind fun existing => ?_
    cases existing with
    | some student => exact keeps_ensure.bind fun _ => trivial
    | none => exact (keeps_updateApplication _ _).bind fun _ => trivial

theorem keeps_resolveOrCreateParent (input : ParentDetails) (drawn : ℕ) (isPrimary : Bool) :
    (resolveOrCreateParent input drawn isPrimary).Keeps School.placement := by
  refine (keeps_read _).bind fun found => ?_
  split
  · exact (keeps_read _).bind fun link => trivial
  · exact (keeps_insert fun _ => rfl).bind fun _ => trivial

theorem keeps_resolveHousehold (id : ℕ) (application : Application) (payload : ConversionPayload) (draws : Draws) :
    (resolveHousehold id application payload draws).Keeps School.placement := by
  unfold resolveHousehold
  split
  · exact (keeps_read _).bind fun found => keeps_require.bind fun household => trivial
  · refine (keeps_resolveOrCreateParent _ _ _).bind fun parent1 => Keeps.bind ?_ fun parent2 => Keeps.bind ?_ fun household => ?_
    · unfold resolveSecondParent
      split
      · exact (keeps_resolveOrCreateParent _ _ _).bind fun _ => trivial
      · trivial
    · unfold householdOf
      split
      · exact (keeps_read _).bind fun existing => trivial
      · exact Keeps.bind ((keeps_read _).bind fun _ => keeps_require) fun _ => (keeps_insert fun _ => rfl).bind fun _ => trivial
    · refine Keeps.bind ?_ fun _ => Keeps.bind (keeps_statement (fun _ _ => rfl) fun _ => trivial) fun _ =>
        (keeps_updateApplication _ _).bind fun _ => trivial
      cases parent2 with
      | some parent => exact keeps_insert fun _ => rfl
      | none => trivial

theorem keeps_takeStudentNumber (householdId : ℕ) (number : Option String) :
    (takeStudentNumber householdId number).Keeps School.placement := by
  cases number with
  | some number => exact keeps_statement (fun _ _ => rfl) fun _ => keeps_ensure
  | none => exact keeps_lock _

theorem keeps_convertToStudent (id : ℕ) (draws : Draws) : (convertToStudent id draws).Keeps School.placement := by
  refine (keeps_selectForUpdate _).bind fun found => keeps_require.bind fun application => ?_
  refine (keeps_loadExistingStudent _ _).bind fun existing => ?_
  cases existing with
  | some studentId => trivial
  | none =>
    refine keeps_require.bind fun payload => keeps_require.bind fun dateOfBirth => Keeps.bind (keeps_read _) fun duplicate => ?_
    cases duplicate with
    | some studentId => exact (keeps_materialise _ _).bind fun _ => trivial
    | none =>
      refine (keeps_resolveHousehold _ _ _ _).bind fun household => (keeps_takeStudentNumber _ _).bind fun _ => ?_
      refine Keeps.bind ((keeps_insert fun _ => rfl).bind fun _ => (keeps_read _).bind fun _ => keeps_insert fun _ => rfl) ?_
      exact fun _ => (keeps_materialise _ _).bind fun _ => trivial

theorem keeps_markApproved (id : ℕ) (actingUserId : Option ℕ) (paymentSource : PaymentSource) (overrideRecordId : Option ℕ) :
    (markApproved id actingUserId paymentSource overrideRecordId).Keeps School.placement :=
  Keeps.bind (keeps_read _) fun _ => keeps_require.bind fun _ => keeps_ensure.bind fun _ =>
    (keeps_updateApplication _ _).bind fun _ => keeps_createNote _ _ _

theorem keeps_lockConditionalApproval (id : ℕ) : (lockConditionalApproval id).Keeps School.placement :=
  (keeps_selectForUpdate _).bind fun _ => keeps_require.bind fun _ => keeps_ensure.bind fun _ => trivial

theorem keeps_releaseSeat (skipped : List ℕ) (current : Application) : (releaseSeat skipped current).Keeps School.placement := by
  unfold releaseSeat
  split
  · split
    · refine Keeps.bind ((keeps_read _).bind fun capacity => ?_) fun _ => trivial
      split
      · trivial
      · exact Keeps.bind (keeps_statement (fun _ _ => rfl) fun _ => trivial) fun _ =>
          (keeps_promoteAll _ _).bind fun _ => trivial
    · trivial
  · trivial

theorem keeps_createAll (householdId : Option ℕ) (isSibling : Bool) (students : List Submission) :
    (createAll householdId isSibling students).Keeps School.placement := by
  induction students with
  | nil => trivial
  | cons s students ih =>
    exact Keeps.bind ((keeps_lock _).bind fun _ => (keeps_read _).bind fun _ => keeps_insert fun _ => rfl) fun _ => ih

theorem keeps_serve (request : AdmissionsRequest) : (serve request).Keeps School.placement := by
  cases request with
  | submit s => exact (keeps_lock _).bind fun _ => (keeps_read _).bind fun _ => keeps_insert fun _ => rfl
  | createPublic existingHouseholdId students =>
    cases existingHouseholdId with
    | none => exact keeps_createAll _ _ _
    | some householdId =>
      exact (keeps_read _).bind fun _ => keeps_require.bind fun _ => (keeps_read _).bind fun _ => keeps_createAll _ _ _
  | moveToConditionalApproval =>
    refine (keeps_selectForUpdate _).bind fun _ => keeps_require.bind fun _ => keeps_ensure.bind fun _ => ?_
    refine keeps_require.bind fun _ => (keeps_lock _).bind fun _ => Keeps.bind (keeps_read _) fun _ => ?_
    exact keeps_ensure.bind fun _ => (keeps_updateApplication _ _).bind fun _ => keeps_createNote _ _ _
  | recordPayment =>
    refine (keeps_lockConditionalApproval _).bind fun _ => keeps_ensure.bind fun _ => keeps_ensure.bind fun _ => ?_
    exact (keeps_convertToStudent _ _).bind fun _ => (keeps_markApproved _ _ _ _).bind fun _ => keeps_createNote _ _ _
  | checkoutCompleted =>
    have hevent : ∀ event, (createPaymentEvent event).Keeps School.placement := fun _ =>
      keeps_statement (fun _ _ => rfl) fun _ => keeps_ensure
    refine keeps_ensure.bind fun _ => (keeps_read _).bind fun existing => ?_
    split
    · trivial
    · refine Keeps.bind (keeps_read _) fun _ => keeps_require.bind fun _ => keeps_ensure.bind fun _ => keeps_ensure.bind fun _ => ?_
      split
      · exact hevent _
      · refine (hevent _).bind fun _ => keeps_require.bind fun _ => (keeps_convertToStudent _ _).bind fun _ => ?_
        exact keeps_markApproved _ _ _ _
  | forceApproveWithOverride =>
    refine keeps_ensure.bind fun _ => (keeps_lockConditionalApproval _).bind fun _ => (keeps_insert fun _ => rfl).bind fun _ => ?_
    refine (keeps_updateApplication _ _).bind fun _ => (keeps_convertToStudent _ _).bind fun _ => ?_
    exact (keeps_markApproved _ _ _ _).bind fun _ => keeps_createNote _ _ _
  | reject =>
    refine keeps_ensure.bind fun _ => Keeps.bind (keeps_read _) fun _ => keeps_require.bind fun _ => keeps_ensure.bind fun _ => ?_
    exact (keeps_updateApplication _ _).bind fun _ => (keeps_createNote _ _ _).bind fun _ => keeps_releaseSeat _ _
  | withdraw skipped id actingUserId isParent =>
    refine Keeps.bind (keeps_read _) fun _ => keeps_require.bind fun current => ?_
    have hrest : (do
        assertTransitionAllowed current.status .withdrawn
        updateApplication id fun b => { b with status := .withdrawn, reviewedByUserId := some actingUserId }
        createNote id (some actingUserId) .withdrawn
        releaseSeat skipped current).Keeps School.placement :=
      keeps_ensure.bind fun _ => (keeps_updateApplication _ _).bind fun _ => (keeps_createNote _ _ _).bind fun _ =>
        keeps_releaseSeat _ _
    cases isParent with
    | false => exact hrest
    | true => exact (keeps_read _).bind fun _ => keeps_ensure.bind fun _ => hrest
  | revertApplication id now =>
    refine Keeps.bind ((keeps_read _).bind fun found => ?_) fun _ => trivial
    split
    · trivial
    · split
      · refine (keeps_updateApplication _ _).bind fun _ => Keeps.bind ?_ fun _ => trivial
        cases Application.reviewedByUserId _ with
        | none => trivial
        | some reviewer => exact keeps_createNote _ _ _
      · trivial
  | promoteAfterExpiry =>
    refine Keeps.bind ((keeps_read _).bind fun classes => ?_) fun _ => trivial
    split
    · trivial
    · refine (keeps_read _).bind fun _ => (keeps_read _).bind fun _ => ?_
      dsimp only
      split
      · trivial
      · exact (keeps_read _).bind fun _ => (keeps_promoteAll _ _).bind fun _ => trivial
  | manuallyPromote =>
    refine keeps_ensure.bind fun _ => (keeps_selectForUpdate _).bind fun _ => keeps_require.bind fun _ => ?_
    refine keeps_ensure.bind fun _ => Keeps.bind (keeps_read _) fun _ => keeps_ensure.bind fun _ => keeps_require.bind fun _ => ?_
    refine (keeps_lock _).bind fun _ => Keeps.bind (keeps_read _) fun _ => (keeps_read _).bind fun _ => keeps_ensure.bind fun _ => ?_
    exact (keeps_updateApplication _ _).bind fun _ => keeps_createNote _ _ _

end

/-- Every session leaves classes and enrolments alone. -/
def Unplacing (_ : School) (s : AdmissionsSession) : Prop :=
  (∀ d, (s.pending d).placement = d.placement) ∧ s.script.Keeps School.placement

def Admitting (st : AdmissionsState) : Prop := Ordered st ∧ Coherent Unplacing st

theorem step_admitting (st : AdmissionsState) (e : Event AdmissionsRequest) (h : Admitting st) :
    Admitting (ReadCommitted.step serve st e) :=
  ⟨step_ordered st e h.1,coherent_step (maintained_keeps keeps_serve) st e h.2⟩

/-- A conditional approval for the pair commits only while more seats are counted as free than
approved students are still without a place in a class. -/
def ApprovesWithRoom (academicYearId yearGroupId : ℕ) (st : AdmissionsState) : Event AdmissionsRequest → Prop
  | .advance id => ∀ s, st.sessions.get? id = some s → s.script.commits = true → ∀ i x,
    Row.application i ∈ s.held → s.request.sets i = some .conditionalApproval → st.db.application i = some x →
      x.targets academicYearId yearGroupId = true →
        st.db.unplaced academicYearId yearGroupId < (st.db.availableSeats academicYearId yearGroupId).availableSeats
  | _ => True

theorem outcome_of_standing {d : School} {s : AdmissionsSession}
    (h : Standing School.application Row.application Fresh Law d s) (hc : s.script.commits = true) (i : ℕ) :
    Outcome s.request i (d.application i) ((s.pending d).application i) := by
  by_cases hi : Row.application i ∈ s.held
  · obtain ⟨x,y,hx,hy,hlaw⟩ := h.obeys hc i hi
    exact .ruled x y hx hy hlaw
  · rcases h.owns.framed d i hi with he | ⟨hn,a,ha,hf⟩
    · exact .same he
    · exact .made a hn ha hf

/-- One step keeps the seats taken within the capacity precisely when a conditional approval finds room. -/
theorem step_withinCapacity_iff (academicYearId yearGroupId : ℕ) (st : AdmissionsState) (e : Event AdmissionsRequest)
    (h : Admitting st) (hw : st.db.WithinCapacity academicYearId yearGroupId) :
    (ReadCommitted.step serve st e).db.WithinCapacity academicYearId yearGroupId ↔
      ApprovesWithRoom academicYearId yearGroupId st e := by
  cases e with
  | start request => exact iff_of_true hw trivial
  | abort id => exact iff_of_true hw trivial
  | advance id =>
    cases hs : st.sessions.get? id with
    | none =>
      rw [step_advance_none hs]
      exact iff_of_true hw fun s hs' => by simp [hs] at hs'
    | some s =>
      rw [step_advance_db hs]
      by_cases hc : s.script.commits = true
      swap
      · rw [if_neg hc]
        refine iff_of_true hw fun s' hs' hc' => ?_
        obtain rfl : s = s' := Option.some.inj (hs.symm.trans hs')
        exact absurd hc' hc
      rw [if_pos hc]
      have hstand := h.1.sessions id s hs
      have hout := outcome_of_standing hstand hc
      obtain ⟨hclasses,henrol⟩ := Prod.mk.inj ((h.2.sessions id s hs).1 st.db)
      have htotal : (s.pending st.db).totalCapacity academicYearId yearGroupId =
          st.db.totalCapacity academicYearId yearGroupId := by
        simp only [School.totalCapacity,School.activeClasses,hclasses]
      have henrolled : (s.pending st.db).enrolledStudents academicYearId yearGroupId =
          st.db.enrolledStudents academicYearId yearGroupId := by
        simp only [School.enrolledStudents,School.activeClasses,hclasses,henrol]
      unfold School.WithinCapacity at hw ⊢
      rw [htotal]
      by_cases hgrant : ∃ i x, Row.application i ∈ s.held ∧ s.request.sets i = some .conditionalApproval ∧
          st.db.application i = some x ∧ x.targets academicYearId yearGroupId = true
      · obtain ⟨i,x,hi,hset,hx,ht⟩ := hgrant
        obtain ⟨x',y,hx',hy,hlaw⟩ := hstand.obeys hc i hi
        obtain rfl : x = x' := Option.some.inj (hx.symm.trans hx')
        rw [seatsTaken_succ hout henrolled hset hx hy hlaw ht,Nat.succ_le_iff,seatsTaken_lt_iff]
        constructor
        · intro hroom s' hs' _ _ _ _ _ _ _
          exact hroom
        · exact fun hg => hg s hs hc i x hi hset hx ht
      · refine iff_of_true ((seatsTaken_le hout henrolled ?_).trans hw) ?_
        · intro i x hset hx hne
          cases ht : x.targets academicYearId yearGroupId with
          | false => rfl
          | true =>
            refine (hgrant ⟨i,x,?_,hset,hx,ht⟩).elim
            by_contra hi
            exact hne ((hstand.owns.framed st.db).kept hi hx)
        · intro s' hs' _ i x hi hset hx ht
          obtain rfl : s = s' := Option.some.inj (hs.symm.trans hs')
          exact (hgrant ⟨i,x,hi,hset,hx,ht⟩).elim

/-- A class of one, and two applications that are ready to be admitted. -/
def oneSeat : School where
  applications := (Table.empty.insert { expiredApplication with status := .readyToAdmit }).insert
    { expiredApplication with
      status := .readyToAdmit
      payload := some ⟨⟨none,none,none,none⟩,⟨none,none,none,none⟩,none,none,none,some "Ben",some "Byrne",none⟩ }
  classes := [(1,⟨1,some 1,1,.active⟩)]
  enrolments := []
  students := []
  households := [(1,⟨some "ABC123",0,[1]⟩)]
  parents := [(1,⟨none,none,none,true⟩)]
  overrides := []
  paymentEvents := []
  notes := []

/-- The first is approved and paid for before the second is approved; each request runs alone. -/
def oneAfterTheOther : List (Event AdmissionsRequest) :=
  .start (.moveToConditionalApproval 0 1 10000 30) :: List.replicate 7 (.advance 0) ++
    .start (.recordPayment 0 1 .cash 10000 ⟨7,8,9,10,[]⟩) :: List.replicate 15 (.advance 1) ++
      .start (.moveToConditionalApproval 1 1 10000 30) :: List.replicate 7 (.advance 2)

end EduPod.Admissions
