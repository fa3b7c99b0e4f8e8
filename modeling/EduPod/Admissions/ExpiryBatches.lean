import EduPod.Admissions.Capacity
import EduPod.Admissions.PromotionPolicy

/-! # A batch of expired payment windows

The worker reverts every application of a tenant whose payment window has run out and then makes one
promotion pass for each pair it took a seat from. Nobody acts beside it. The database tells the time of
the scan, the worker that of the reverts.
-/
namespace EduPod.Admissions
open ReadCommitted Script

namespace PaymentExpiry

structure ExpiredApplicationRow where
  id : ℕ
  targetAcademicYearId : Option ℕ
  targetYearGroupId : Option ℕ
  deriving DecidableEq, Repr

/-- The payment window of an application has run out. -/
def lapsed (now : ℤ) (a : Application) : Bool := a.status = .conditionalApproval && a.paymentDeadline.any (· < now)

def findExpired (d : School) (now : ℤ) : List ExpiredApplicationRow :=
  ((d.applications.select (lapsed now)).insertionSort fun a b => earliestFirst a b = true).map fun r =>
    ⟨r.1,r.2.targetAcademicYearId,r.2.targetYearGroupId⟩

/-- The reviewer a pair's promotions are attributed to, pairs in the order of their first revert. -/
abbrev YearGroupReviewers := List ((ℕ × ℕ) × ℕ)

def noteReviewer (reviewers : YearGroupReviewers) (app : ExpiredApplicationRow) (outcome : RevertOutcome) :
    YearGroupReviewers :=
  match app.targetAcademicYearId, app.targetYearGroupId, outcome.reviewerUserId with
  | some academicYearId, some yearGroupId, some reviewer =>
    if (reviewers.map Prod.fst).contains (academicYearId,yearGroupId) then reviewers
    else reviewers ++ [((academicYearId,yearGroupId),reviewer)]
  | _, _, _ => reviewers

/-- One row of the first phase. A row that fails is skipped. -/
def revertNext (now : ℤ) (st : School × YearGroupReviewers) (app : ExpiredApplicationRow) : School × YearGroupReviewers :=
  match (revertApplication app.id now).run st.1 st.1 with
  | (_,.ok (view,outcome)) => (view,if outcome.reverted then noteReviewer st.2 app outcome else st.2)
  | (db,.error _) => (db,st.2)

def processTenantBatch (now : ℤ) (applications : List ExpiredApplicationRow) (d : School) : School :=
  let st := applications.foldl (revertNext now) (d,[])
  st.2.foldl (fun d pass => afterExpiry pass.1.1 pass.1.2 pass.2 d) st.1

end PaymentExpiry

open PaymentExpiry

/-- What the scan and the reverts leave. -/
def afterBatch (d : School) (scanned now : ℤ) : School := processTenantBatch now (findExpired d scanned) d

/-! ## The reverts -/

def Application.revert (a : Application) : Application := { a with
  status := .waitingList
  waitingListSubstatus := none
  paymentAmountCents := none
  paymentDeadline := none }

section
variable {d : School} {now scanned : ℤ}

theorem run_createNote (db view : School) (id : ℕ) (author : Option ℕ) (action : NoteAction) :
    (createNote id author action).run db view =
      (db,.ok ({ view with notes := view.notes ++ [⟨id,author,action⟩] },())) := rfl

theorem run_noteRevert (db view : School) (id : ℕ) (reviewer : Option ℕ) : ∃ notes,
    (noteRevert id reviewer).run db view = (db,.ok ({ view with notes := notes },())) := by
  cases reviewer with
  | none => exact ⟨view.notes,rfl⟩
  | some reviewer => exact ⟨_,run_createNote db view id _ _⟩

theorem run_read {β γ : Type} (db view : School) (q : School → β) (f : β → Tx γ) :
    (read q >>= f).run db view = (f (q view)).run db view := rfl

/-- The transaction on one application by itself. -/
theorem run_revertApplication (d : School) (id : ℕ) (now : ℤ) :
    (∀ a, d.application id = some a → lapsed now a = false) ∧
      (revertApplication id now).run d d = (d,.ok (d,⟨false,none⟩)) ∨
    ∃ a notes, d.application id = some a ∧ lapsed now a = true ∧ (revertApplication id now).run d d =
      (d,.ok ({ d with applications := d.applications.modify id Application.revert, notes := notes },
        ⟨true,a.reviewedByUserId⟩)) := by
  rw [revertApplication,run_read]
  cases hfound : (d.applications.get? id).filter fun a => a.status = .conditionalApproval with
  | none =>
    refine .inl ⟨fun a ha => ?_,rfl⟩
    rw [show d.applications.get? id = some a from ha,Option.filter_eq_none_iff] at hfound
    have hstatus : ¬a.status = .conditionalApproval := by simpa using hfound a rfl
    simp [lapsed,hstatus]
  | some a =>
    obtain ⟨hget,hstatus⟩ := Option.filter_eq_some_iff.mp hfound
    rw [decide_eq_true_eq] at hstatus
    dsimp only
    by_cases hdeadline : a.paymentDeadline.any (· < now) = true
    · have happ : d.application id = some a := hget
      have hsome : (d.application id).isSome = true := by rw [happ]; rfl
      obtain ⟨notes,hnote⟩ := run_noteRevert d { d with applications := d.applications.modify id Application.revert } id
        a.reviewedByUserId
      refine .inr ⟨a,notes,hget,by simp [lapsed,hstatus,hdeadline],?_⟩
      rw [if_pos hdeadline]
      refine (run_bind_ok (run_updateApplication d hsome) _).trans ?_
      refine (run_bind_ok hnote _).trans ?_
      rfl
    · refine .inl ⟨fun b hb => ?_,by rw [if_neg hdeadline]; rfl⟩
      obtain rfl : a = b := Option.some.inj (hget.symm.trans hb)
      simp only [Bool.not_eq_true] at hdeadline
      simp [lapsed,hdeadline]

/-- What the first phase leaves of the records that the second one reads. -/
theorem foldl_revertNext (applications : List ExpiredApplicationRow) (st : School × YearGroupReviewers) :
    (applications.foldl (revertNext now) st).1.applications = st.1.applications.mapRows (fun id a =>
      if (applications.map (·.id)).contains id && lapsed now a then a.revert else a) ∧
    (applications.foldl (revertNext now) st).1.placement = st.1.placement := by
  induction applications generalizing st with
  | nil => exact ⟨(Table.mapRows_eq_self fun r _ => rfl).symm,rfl⟩
  | cons app applications ih =>
    have hrest := ih (revertNext now st app)
    rw [List.foldl_cons]
    rcases run_revertApplication st.1 app.id now with ⟨hnot,hrun⟩ | ⟨a,notes,ha,hlapsed,hrun⟩
    · have hnext : revertNext now st app = (st.1,st.2) := by simp only [revertNext,hrun,Bool.false_eq_true,if_false]
      rw [hnext] at hrest ⊢
      refine ⟨hrest.1.trans (Table.mapRows_congr fun r hr => ?_),hrest.2⟩
      by_cases hid : r.1 = app.id
      · have hr' : lapsed now r.2 = false := hnot r.2 (hid ▸ Table.get?_of_row hr)
        simp [hr']
      · simp [hid]
    · have hnext : (revertNext now st app).1 =
          { st.1 with applications := st.1.applications.modify app.id Application.revert, notes := notes } := by
        simp only [revertNext,hrun]
      rw [hnext] at hrest
      refine ⟨hrest.1.trans ?_,hrest.2⟩
      rw [Table.modify_eq_mapRows,Table.mapRows_mapRows]
      refine Table.mapRows_congr fun r hr => ?_
      by_cases hid : r.1 = app.id
      · obtain rfl : a = r.2 := Option.some.inj (ha.symm.trans (hid ▸ Table.get?_of_row hr))
        have hagain : lapsed now r.2.revert = false := rfl
        simp [hid,hlapsed,hagain]
      · simp [hid]

theorem noteReviewer_keys (reviewers : YearGroupReviewers) (app : ExpiredApplicationRow) (outcome : RevertOutcome)
    (p : ℕ × ℕ) : p ∈ (noteReviewer reviewers app outcome).map Prod.fst ↔ p ∈ reviewers.map Prod.fst ∨
      app.targetAcademicYearId = some p.1 ∧ app.targetYearGroupId = some p.2 ∧ outcome.reviewerUserId.isSome = true := by
  unfold noteReviewer
  split
  · rename_i academicYearId yearGroupId reviewer hyear hgroup hreviewer
    have hpair : app.targetAcademicYearId = some p.1 ∧ app.targetYearGroupId = some p.2 ∧
        outcome.reviewerUserId.isSome = true ↔ p = (academicYearId,yearGroupId) := by
      rw [hyear,hgroup,hreviewer,Prod.ext_iff]
      simp only [Option.some.injEq,Option.isSome_some,and_true]
      exact and_congr eq_comm eq_comm
    rw [hpair]
    split
    · rename_i hmem
      rw [List.contains_iff_mem] at hmem
      exact (or_iff_left_of_imp fun h => by rwa [h]).symm
    · rw [List.map_append,List.mem_append]
      exact or_congr_right List.mem_singleton
  · rename_i hnot
    refine (or_iff_left_of_imp ?_).symm
    rintro ⟨hyear,hgroup,hreviewer⟩
    obtain ⟨reviewer,hreviewer⟩ := Option.isSome_iff_exists.mp hreviewer
    exact absurd hreviewer (hnot _ _ _ hyear hgroup)

theorem nodup_noteReviewer {reviewers : YearGroupReviewers} (h : (reviewers.map Prod.fst).Nodup)
    (app : ExpiredApplicationRow) (outcome : RevertOutcome) :
    ((noteReviewer reviewers app outcome).map Prod.fst).Nodup := by
  unfold noteReviewer
  split
  · split
    · exact h
    · rename_i hnew
      rw [List.contains_iff_mem] at hnew
      rw [List.map_append]
      exact h.append (List.nodup_singleton _) (List.disjoint_singleton.mpr hnew)
  · exact h

/-- The pairs that a pass is made for. -/
theorem foldl_revertNext_keys (applications : List ExpiredApplicationRow) (hn : (applications.map (·.id)).Nodup)
    (st : School × YearGroupReviewers) (p : ℕ × ℕ) :
    p ∈ (applications.foldl (revertNext now) st).2.map Prod.fst ↔ p ∈ st.2.map Prod.fst ∨
      ∃ app ∈ applications, ∃ a, st.1.application app.id = some a ∧ lapsed now a = true ∧
        a.reviewedByUserId.isSome = true ∧ app.targetAcademicYearId = some p.1 ∧ app.targetYearGroupId = some p.2 := by
  induction applications generalizing st with
  | nil => simp
  | cons app applications ih =>
    obtain ⟨hnew,hn⟩ := List.nodup_cons.mp hn
    rw [List.foldl_cons,ih hn]
    simp only [List.mem_cons,exists_eq_or_imp]
    rcases run_revertApplication st.1 app.id now with ⟨hnot,hrun⟩ | ⟨a,notes,ha,hlapsed,hrun⟩
    · have hnext : revertNext now st app = (st.1,st.2) := by simp only [revertNext,hrun,Bool.false_eq_true,if_false]
      rw [hnext]
      refine or_congr_right (or_iff_right_of_imp ?_).symm
      rintro ⟨a,ha,hlapsed,-⟩
      exact absurd hlapsed (by rw [hnot a ha]; exact Bool.false_ne_true)
    · have hnext : revertNext now st app =
          ({ st.1 with applications := st.1.applications.modify app.id Application.revert, notes := notes },
            noteReviewer st.2 app ⟨true,a.reviewedByUserId⟩) := by
        simp only [revertNext,hrun,if_true]
      have hothers : ∀ other ∈ applications, (revertNext now st app).1.application other.id = st.1.application other.id := by
        intro other hother
        have hne : other.id ≠ app.id := fun h => hnew (List.mem_map.mpr ⟨other,hother,h⟩)
        rw [hnext]
        exact Table.get?_modify_ne _ hne _
      have hkeys : p ∈ (revertNext now st app).2.map Prod.fst ↔ p ∈ st.2.map Prod.fst ∨
          ∃ b, st.1.application app.id = some b ∧ lapsed now b = true ∧ b.reviewedByUserId.isSome = true ∧
            app.targetAcademicYearId = some p.1 ∧ app.targetYearGroupId = some p.2 := by
        rw [hnext,noteReviewer_keys]
        simp only [ha,Option.some.injEq,exists_eq_left',hlapsed,true_and]
        exact or_congr_right ⟨fun ⟨h,h',h''⟩ => ⟨h'',h,h'⟩,fun ⟨h'',h,h'⟩ => ⟨h,h',h''⟩⟩
      rw [hkeys,or_assoc]
      refine or_congr_right (or_congr_right (exists_congr fun other => and_congr_right fun hother => ?_))
      rw [hothers other hother]

theorem nodup_foldl_revertNext (applications : List ExpiredApplicationRow) {st : School × YearGroupReviewers}
    (h : (st.2.map Prod.fst).Nodup) : ((applications.foldl (revertNext now) st).2.map Prod.fst).Nodup := by
  induction applications generalizing st with
  | nil => exact h
  | cons app applications ih =>
    apply ih
    unfold revertNext
    split
    · split
      · exact nodup_noteReviewer h app _
      · exact h
    · exact h

end

/-! ## The passes -/

section
variable {d : School} {author : Option ℕ} {ids : List ℕ} {p q : ℕ × ℕ}

theorem Application.targets_unique {a : Application} (h : a.targets p.1 p.2 = true) (h' : a.targets q.1 q.2 = true) :
    p = q := by
  simp only [Application.targets,Bool.and_eq_true,decide_eq_true_eq] at h h'
  exact Prod.ext (Option.some.inj (h.1.symm.trans h'.1)) (Option.some.inj (h.2.symm.trans h'.2))

theorem targets_of_waits {a : Application} (h : a.waits p.1 p.2 = true) : a.targets p.1 p.2 = true := by
  simp only [Application.waits,Bool.and_eq_true] at h
  exact h.1.1

/-- A pass over another pair leaves the applications of this one as they are. -/
theorem select_promote {P : Application → Bool} (hP : ∀ a, P a = true → a.targets p.1 p.2 = true)
    (hids : ∀ i ∈ ids, ∃ a, d.application i = some a ∧ a.targets q.1 q.2 = true) (hne : p ≠ q) :
    (d.promote author ids).applications.select P = d.applications.select P := by
  have hother : ∀ r ∈ d.applications.rows, r.1 ∈ ids → r.2.targets p.1 p.2 = false := by
    intro r hr hid
    obtain ⟨a,ha,hq⟩ := hids r.1 hid
    obtain rfl : a = r.2 := Option.some.inj (ha.symm.trans (Table.get?_of_row hr))
    rw [← Bool.not_eq_true]
    exact fun hp => hne (Application.targets_unique hp hq)
  have hsame : ∀ r ∈ d.applications.rows, P (if ids.contains r.1 then { r.2 with status := .readyToAdmit } else r.2) = P r.2 := by
    intro r hr
    by_cases hid : r.1 ∈ ids
    · have hnot : ∀ a : Application, a.targets p.1 p.2 = false → P a = false := fun a ha => by
        rw [← Bool.not_eq_true]
        exact fun h => Bool.false_ne_true (ha.symm.trans (hP a h))
      rw [if_pos (by simpa using hid),hnot r.2 (hother r hr hid)]
      exact hnot _ (hother r hr hid)
    · rw [if_neg (by simpa using hid)]
  rw [School.promote,Table.select_mapRows hsame]
  refine (List.map_congr_left fun r hr => ?_).trans (List.map_id _)
  obtain ⟨hr,hPr⟩ := List.mem_filter.mp hr
  have hid : r.1 ∉ ids := fun hid => Bool.false_ne_true ((hother r hr hid).symm.trans (hP r.2 hPr))
  rw [if_neg (by simpa using hid)]
  rfl

theorem chosen_promote_of_ne (hids : ∀ i ∈ ids, ∃ a, d.application i = some a ∧ a.targets q.1 q.2 = true) (hne : p ≠ q)
    (le : ℕ × Application → ℕ × Application → Bool) :
    (d.promote author ids).chosen p.1 p.2 le = d.chosen p.1 p.2 le := by
  have hwaiting : (d.promote author ids).waiting p.1 p.2 = d.waiting p.1 p.2 :=
    select_promote (fun a h => targets_of_waits h) hids hne
  have hcount : (d.promote author ids).countByStatus p.1 p.2 .conditionalApproval =
      d.countByStatus p.1 p.2 .conditionalApproval := by
    rw [School.countByStatus,School.countByStatus,select_promote _ hids hne]
    intro a h
    simp only [Bool.and_eq_true] at h
    exact h.1
  have hfree : (d.promote author ids).freeSeats p.1 p.2 = d.freeSeats p.1 p.2 := by
    simp only [School.freeSeats,School.availableSeats,hcount]
    rfl
  rw [School.chosen,School.chosen,hwaiting,hfree]

/-- Of the passes made one after the other the one for its own pair decides what an application becomes. -/
theorem foldl_afterExpiry (reviewers : YearGroupReviewers) (hn : (reviewers.map Prod.fst).Nodup) {d : School} {i : ℕ}
    {a : Application} (ha : d.application i = some a) (hp : a.targets p.1 p.2 = true) :
    (reviewers.foldl (fun d pass => afterExpiry pass.1.1 pass.1.2 pass.2 d) d).application i =
      some (if p ∈ reviewers.map Prod.fst ∧ i ∈ d.chosen p.1 p.2 earliestFirst then { a with status := .readyToAdmit }
        else a) := by
  induction reviewers generalizing d a with
  | nil => simpa using ha
  | cons pass reviewers ih =>
    obtain ⟨hnew,hn⟩ := List.nodup_cons.mp hn
    rw [List.foldl_cons,afterExpiry_eq]
    have hnext := application_promote d (some pass.2) (d.chosen pass.1.1 pass.1.2 earliestFirst) i
    rw [ha,Option.map_some] at hnext
    by_cases hpass : pass.1 = p
    · rw [hpass] at hnew hnext ⊢
      have htargets : (if (d.chosen p.1 p.2 earliestFirst).contains i then { a with status := .readyToAdmit }
          else a : Application).targets p.1 p.2 = true := by split <;> exact hp
      have hmem : p ∈ (pass :: reviewers).map Prod.fst := by
        rw [← hpass]
        exact List.mem_cons_self
      rw [ih hn hnext htargets,if_neg fun h => hnew h.1]
      simp only [hmem,true_and,List.contains_eq_mem,decide_eq_true_eq]
    · have htargets : ∀ j ∈ d.chosen pass.1.1 pass.1.2 earliestFirst,
          ∃ b, d.application j = some b ∧ b.targets pass.1.1 pass.1.2 = true := by
        intro j hj
        obtain ⟨b,hb,hw⟩ := chosen_waits d _ _ _ j hj
        exact ⟨b,hb,targets_of_waits hw⟩
      have hout : i ∉ d.chosen pass.1.1 pass.1.2 earliestFirst := by
        intro hi
        obtain ⟨b,hb,hq⟩ := htargets i hi
        obtain rfl : a = b := Option.some.inj (ha.symm.trans hb)
        exact hpass (Application.targets_unique hq hp)
      rw [if_neg (by simpa using hout)] at hnext
      rw [ih hn hnext hp,chosen_promote_of_ne htargets fun h => hpass h.symm]
      have hkeys : p ∈ (pass :: reviewers).map Prod.fst ↔ p ∈ reviewers.map Prod.fst := by
        rw [List.map_cons,List.mem_cons]
        exact or_iff_right fun h => hpass h.symm
      simp only [hkeys]

end

/-! ## One pair -/

section
variable (d : School) (scanned now : ℤ) (p : ℕ × ℕ)

/-- The batch takes the seat of the application. -/
def Application.lapses (a : Application) : Bool := a.targets p.1 p.2 && (lapsed scanned a && lapsed now a)

/-- The applications that lose their seat in the batch. -/
def School.released : List (ℕ × Application) := d.applications.select fun a => a.lapses scanned now p

/-- Those and the ones that wait already. -/
def School.contenders : List (ℕ × Application) :=
  d.applications.select fun a => a.waits p.1 p.2 || a.lapses scanned now p

/-- The seats free once the batch has taken its own back. -/
def School.seatsThen : ℕ :=
  d.totalCapacity p.1 p.2 - (d.enrolledStudents p.1 p.2).length -
    (d.applications.select fun a => a.targets p.1 p.2 && a.status = .conditionalApproval &&
      !a.lapses scanned now p).length

/-- How many contenders come before one by their day of application. -/
def School.ahead (r : ℕ × Application) : ℕ :=
  ((d.contenders scanned now p).filter fun b =>
    StableSort.Precedes (fun a b => earliestFirst a b = true) (d.contenders scanned now p) b r).length

def readyAfter (i : ℕ) : Bool := ((afterBatch d scanned now).application i).any (·.status = .readyToAdmit)

/-- A pass follows: somebody reviewed an application that loses its seat. -/
def PassFollows : Prop := ∃ r ∈ d.released scanned now p, r.2.reviewedByUserId.isSome = true

/-- The seats go to the others: nobody who lost a seat is ready again while somebody who waited is not, and as
many of those who waited are ready as there were seats taken back and free. -/
def SeatsGoToOthers : Prop := PassFollows d scanned now p →
  (d.released scanned now p).length ≤ (d.waiting p.1 p.2).length →
    (∀ r ∈ d.released scanned now p, readyAfter d scanned now r.1 = true →
      ∀ w ∈ d.waiting p.1 p.2, readyAfter d scanned now w.1 = true) ∧
    min (d.seatsThen scanned now p) (d.released scanned now p).length ≤
      ((d.waiting p.1 p.2).filter fun w => readyAfter d scanned now w.1).length

variable {d scanned now p}

/-- What the reverts make of an application. -/
def reverted (scanned now : ℤ) (a : Application) : Application :=
  if lapsed scanned a && lapsed now a then a.revert else a

theorem waits_reverted (a : Application) :
    (reverted scanned now a).waits p.1 p.2 = (a.waits p.1 p.2 || a.lapses scanned now p) := by
  unfold reverted Application.lapses
  cases h : lapsed scanned a && lapsed now a with
  | false => simp
  | true =>
    have hstatus : a.status = .conditionalApproval := by
      simp only [lapsed,Bool.and_eq_true,decide_eq_true_eq] at h
      exact h.1.1
    simp [Application.waits,Application.revert,Application.targets,hstatus]

theorem conditional_reverted (a : Application) :
    ((reverted scanned now a).targets p.1 p.2 && decide ((reverted scanned now a).status = .conditionalApproval)) =
      (a.targets p.1 p.2 && decide (a.status = .conditionalApproval) && !a.lapses scanned now p) := by
  unfold reverted Application.lapses
  cases lapsed scanned a && lapsed now a with
  | false => simp
  | true => cases ht : a.targets p.1 p.2 <;> simp [Application.revert]

theorem applyDate_reverted (a : Application) : (reverted scanned now a).applyDate = a.applyDate := by
  unfold reverted
  split <;> rfl

theorem reverts_applications : ((findExpired d scanned).foldl (revertNext now) (d,[])).1.applications =
    d.applications.mapRows fun _ a => reverted scanned now a := by
  rw [(foldl_revertNext _ _).1]
  refine Table.mapRows_congr fun r hr => ?_
  have hscan : ((findExpired d scanned).map (·.id)).contains r.1 = lapsed scanned r.2 := by
    rw [Bool.eq_iff_iff,List.contains_iff_mem,findExpired,List.map_map,List.mem_map]
    constructor
    · rintro ⟨q,hq,he⟩
      obtain ⟨hq,hlapsed⟩ := List.mem_filter.mp ((List.mem_insertionSort _).mp hq)
      rwa [← Table.row_unique hq hr he]
    · intro hlapsed
      exact ⟨r,(List.mem_insertionSort _).mpr (List.mem_filter.mpr ⟨hr,hlapsed⟩),rfl⟩
  rw [hscan]
  rfl

theorem nodup_findExpired : ((findExpired d scanned).map (·.id)).Nodup := by
  rw [findExpired,List.map_map]
  exact ((List.perm_insertionSort _ _).map Prod.fst).nodup_iff.mpr (Table.nodup_select _ _)

/-- A pass is made for the pair precisely when it follows. -/
theorem mem_reviewers : p ∈ ((findExpired d scanned).foldl (revertNext now) (d,[])).2.map Prod.fst ↔
    PassFollows d scanned now p := by
  rw [foldl_revertNext_keys _ nodup_findExpired,List.map_nil]
  simp only [List.not_mem_nil,false_or,PassFollows]
  constructor
  · rintro ⟨app,happ,a,ha,hnow,hreviewer,hyear,hgroup⟩
    obtain ⟨r,hr,rfl⟩ := List.mem_map.mp happ
    obtain ⟨hr,hscan⟩ := List.mem_filter.mp ((List.mem_insertionSort _).mp hr)
    obtain rfl : a = r.2 := Option.some.inj (ha.symm.trans (Table.get?_of_row hr))
    have htargets : r.2.targets p.1 p.2 = true := by
      simp only [Application.targets,Bool.and_eq_true,decide_eq_true_eq]
      exact ⟨hyear,hgroup⟩
    refine ⟨r,List.mem_filter.mpr ⟨hr,?_⟩,hreviewer⟩
    simp only [Application.lapses,htargets,hscan,hnow,Bool.and_self]
  · rintro ⟨r,hr,hreviewer⟩
    obtain ⟨hr,hlapses⟩ := List.mem_filter.mp hr
    simp only [Application.lapses,Application.targets,Bool.and_eq_true,decide_eq_true_eq] at hlapses
    obtain ⟨⟨hyear,hgroup⟩,hscan,hnow⟩ := hlapses
    exact ⟨_,List.mem_map_of_mem ((List.mem_insertionSort _).mpr (List.mem_filter.mpr ⟨hr,hscan⟩)),r.2,
      Table.get?_of_row hr,hnow,hreviewer,hyear,hgroup⟩

/-- The pair's pass as the reverts leave it to. -/
theorem chosen_reverts :
    ((findExpired d scanned).foldl (revertNext now) (d,[])).1.chosen p.1 p.2 earliestFirst =
      (((d.contenders scanned now p).insertionSort fun a b => earliestFirst a b = true).take
        (d.seatsThen scanned now p)).map Prod.fst := by
  have happlications : ((findExpired d scanned).foldl (revertNext now) (d,[])).1.applications =
      d.applications.mapRows fun _ a => reverted scanned now a := reverts_applications
  have hplacement : ((findExpired d scanned).foldl (revertNext now) (d,[])).1.placement = d.placement :=
    (foldl_revertNext _ _).2
  generalize ((findExpired d scanned).foldl (revertNext now) (d,[])).1 = d₁ at happlications hplacement ⊢
  obtain ⟨hclasses,henrolments⟩ := Prod.mk.inj hplacement
  have hwaiting : d₁.waiting p.1 p.2 =
      (d.contenders scanned now p).map fun r => (r.1,reverted scanned now r.2) := by
    rw [School.waiting,happlications,Table.select,Table.mapRows,List.filter_map]
    exact congrArg _ (List.filter_congr fun r _ => waits_reverted r.2)
  have hcount : d₁.countByStatus p.1 p.2 .conditionalApproval = (d.applications.select fun a =>
      a.targets p.1 p.2 && a.status = .conditionalApproval && !a.lapses scanned now p).length := by
    rw [School.countByStatus,happlications,Table.select,Table.mapRows,List.filter_map,List.length_map]
    exact congrArg _ (List.filter_congr fun r _ => conditional_reverted r.2)
  have hfree : d₁.freeSeats p.1 p.2 = d.seatsThen scanned now p := by
    have hseats : ∀ e : School, e.classes = d.classes → e.enrolments = d.enrolments →
        e.totalCapacity p.1 p.2 = d.totalCapacity p.1 p.2 ∧
          e.enrolledStudents p.1 p.2 = d.enrolledStudents p.1 p.2 := by
      intro e hc he
      simp only [School.totalCapacity,School.enrolledStudents,School.activeClasses,hc,he,and_self]
    obtain ⟨htotal,henrolled⟩ := hseats d₁ hclasses henrolments
    simp only [School.freeSeats,School.availableSeats,htotal,henrolled,hcount,School.seatsThen]
  rw [School.chosen,candidates,hwaiting,hfree,← List.map_insertionSort (r := fun a b => earliestFirst a b = true),
    ← List.map_take,List.map_map]
  · rfl
  · intro a _ b _
    simp only [earliestFirst,applyDate_reverted]

theorem nodup_contenders : (d.contenders scanned now p).Nodup := List.Nodup.of_map _ (Table.nodup_select _ _)

/-- Whether a contender is ready after the batch depends on its place alone. -/
theorem readyAfter_iff {r : ℕ × Application} (hr : r ∈ d.contenders scanned now p) : readyAfter d scanned now r.1 = true ↔
    PassFollows d scanned now p ∧ d.ahead scanned now p r < d.seatsThen scanned now p := by
  obtain ⟨hrow,hcontends⟩ := List.mem_filter.mp hr
  have hget : ((findExpired d scanned).foldl (revertNext now) (d,[])).1.application r.1 =
      some (reverted scanned now r.2) := by
    rw [School.application,reverts_applications,Table.get?_mapRows,Table.get?_of_row hrow]
    rfl
  have hwaits : (reverted scanned now r.2).waits p.1 p.2 = true := (waits_reverted r.2).trans hcontends
  have hstatus : (reverted scanned now r.2).status = .waitingList := by
    simp only [Application.waits,Bool.and_eq_true,decide_eq_true_eq] at hwaits
    exact hwaits.1.2
  have hkeys : (((findExpired d scanned).foldl (revertNext now) (d,[])).2.map Prod.fst).Nodup :=
    nodup_foldl_revertNext _ List.nodup_nil
  have hplace : r.1 ∈ (((d.contenders scanned now p).insertionSort fun a b => earliestFirst a b = true).take
      (d.seatsThen scanned now p)).map Prod.fst ↔ d.ahead scanned now p r < d.seatsThen scanned now p := by
    rw [School.ahead,← StableSort.mem_take_insertionSort_iff nodup_contenders hr]
    constructor
    · intro h
      obtain ⟨q,hq,he⟩ := List.mem_map.mp h
      have hqc := (List.mem_insertionSort _).mp (List.mem_of_mem_take hq)
      rwa [← Table.row_unique (List.mem_filter.mp hqc).1 hrow he]
    · exact fun h => List.mem_map_of_mem h
  rw [readyAfter,afterBatch,processTenantBatch,foldl_afterExpiry _ hkeys hget (targets_of_waits hwaits)]
  split
  · rename_i h
    rw [mem_reviewers,chosen_reverts,hplace] at h
    exact iff_of_true rfl h
  · rename_i h
    rw [mem_reviewers,chosen_reverts,hplace] at h
    exact iff_of_false (by simp [hstatus]) h

/-! ## Whom the seats go to -/

/-- As many contenders have a place as there are seats for them. -/
theorem length_filter_ahead (n : ℕ) :
    ((d.contenders scanned now p).filter fun r => d.ahead scanned now p r < n).length =
      min n (d.contenders scanned now p).length := by
  have hperm := List.perm_insertionSort (fun a b => earliestFirst a b = true) (d.contenders scanned now p)
  have hnodup : (d.contenders scanned now p).Nodup := nodup_contenders
  have hsorted := hperm.nodup_iff.mpr hnodup
  have hsame : ((d.contenders scanned now p).filter fun r => d.ahead scanned now p r < n).Perm
      (((d.contenders scanned now p).insertionSort fun a b => earliestFirst a b = true).take n) := by
    refine (List.perm_ext_iff_of_nodup (nodup_contenders.filter _) (hsorted.sublist (List.take_sublist _ _))).mpr fun r => ?_
    rw [List.mem_filter,decide_eq_true_eq]
    constructor
    · rintro ⟨hr,hahead⟩
      exact (StableSort.mem_take_insertionSort_iff nodup_contenders hr n).mpr hahead
    · intro hr
      have hmem := hperm.subset (List.mem_of_mem_take hr)
      exact ⟨hmem,(StableSort.mem_take_insertionSort_iff nodup_contenders hmem n).mp hr⟩
  rw [hsame.length_eq,List.length_take,hperm.length_eq]

theorem waits_of_lapses {a : Application} (h : a.lapses scanned now p = true) : a.waits p.1 p.2 = false := by
  simp only [Application.lapses,lapsed,Bool.and_eq_true,decide_eq_true_eq] at h
  simp [Application.waits,h.2.1.1]

theorem length_contenders_filter (P : ℕ × Application → Bool) : ((d.contenders scanned now p).filter P).length =
    ((d.waiting p.1 p.2).filter P).length + ((d.released scanned now p).filter P).length := by
  simp only [School.contenders,School.waiting,School.released,Table.select,List.filter_filter,← List.countP_eq_length_filter]
  induction d.applications.rows with
  | nil => rfl
  | cons r rows ih =>
    simp only [List.countP_cons,ih]
    change _ + ite ((P r && (r.2.waits p.1 p.2 || r.2.lapses scanned now p)) = true) 1 0 =
      _ + ite ((P r && r.2.waits p.1 p.2) = true) 1 0 + (_ + ite _ 1 0)
    cases hP : P r with
    | false => simp only [Bool.false_and,Bool.false_eq_true,if_false]; omega
    | true =>
      cases hl : r.2.lapses scanned now p with
      | false => simp only [Bool.true_and,Bool.or_false,Bool.false_eq_true,if_false]; omega
      | true =>
        simp only [Bool.true_and,waits_of_lapses hl,Bool.or_true,Bool.false_eq_true,if_false,if_true]; omega

/-- Either everyone who loses a seat has as many contenders ahead as seats are free then, or nobody who waited
has. -/
def QueueFavoursOthers (d : School) (scanned now : ℤ) (p : ℕ × ℕ) : Prop :=
  (∀ r ∈ d.released scanned now p, d.seatsThen scanned now p ≤ d.ahead scanned now p r) ∨
    ∀ w ∈ d.waiting p.1 p.2, d.ahead scanned now p w < d.seatsThen scanned now p

/-- The seats a batch takes back go to the others precisely when the days of application make it so. -/
theorem seatsGoToOthers_iff (d : School) (scanned now : ℤ) (p : ℕ × ℕ) : SeatsGoToOthers d scanned now p ↔
    (PassFollows d scanned now p → (d.released scanned now p).length ≤ (d.waiting p.1 p.2).length →
      QueueFavoursOthers d scanned now p) := by
  refine forall_congr' fun hpass => forall_congr' fun hroom => ?_
  have hreleased : ∀ r ∈ d.released scanned now p, r ∈ d.contenders scanned now p := by
    intro r hr
    obtain ⟨hr,hl⟩ := List.mem_filter.mp hr
    exact List.mem_filter.mpr ⟨hr,by simp only [hl,Bool.or_true]⟩
  have hwaiting : ∀ w ∈ d.waiting p.1 p.2, w ∈ d.contenders scanned now p := by
    intro w hw
    obtain ⟨hw,hwaits⟩ := List.mem_filter.mp hw
    have hwaits : w.2.waits p.1 p.2 = true := hwaits
    exact List.mem_filter.mpr ⟨hw,by simp only [hwaits,Bool.true_or]⟩
  have hready : ∀ r ∈ d.contenders scanned now p,
      readyAfter d scanned now r.1 = true ↔ d.ahead scanned now p r < d.seatsThen scanned now p := by
    intro r hr
    rw [readyAfter_iff hr]
    exact and_iff_right hpass
  constructor
  · rintro ⟨hover,-⟩
    by_cases hnone : ∀ r ∈ d.released scanned now p, d.seatsThen scanned now p ≤ d.ahead scanned now p r
    · exact .inl hnone
    · push Not at hnone
      obtain ⟨r,hr,hahead⟩ := hnone
      refine .inr fun w hw => ?_
      exact (hready w (hwaiting w hw)).mp (hover r hr ((hready r (hreleased r hr)).mpr hahead) w hw)
  · intro hqueue
    have hcontenders : ∀ P : ℕ × Application → Bool, ((d.contenders scanned now p).filter P).length =
        ((d.waiting p.1 p.2).filter P).length + ((d.released scanned now p).filter P).length := length_contenders_filter
    have hcount := hcontenders fun r => d.ahead scanned now p r < d.seatsThen scanned now p
    have hall := hcontenders fun _ => true
    have hothers : (d.waiting p.1 p.2).filter (fun w => readyAfter d scanned now w.1) =
        (d.waiting p.1 p.2).filter fun w => d.ahead scanned now p w < d.seatsThen scanned now p := by
      refine List.filter_congr fun w hw => ?_
      rw [Bool.eq_iff_iff,decide_eq_true_eq]
      exact hready w (hwaiting w hw)
    rw [length_filter_ahead] at hcount
    simp only [List.filter_true] at hall
    rw [hothers]
    rcases hqueue with hnone | hevery
    · have hnil : (d.released scanned now p).filter (fun r => d.ahead scanned now p r < d.seatsThen scanned now p) = [] := by
        rw [List.filter_eq_nil_iff]
        intro r hr
        simpa using hnone r hr
      rw [hnil,List.length_nil] at hcount
      refine ⟨fun r hr hagain => ?_,by omega⟩
      exact absurd ((hready r (hreleased r hr)).mp hagain) (Nat.not_lt.mpr (hnone r hr))
    · have hself : (d.waiting p.1 p.2).filter (fun w => d.ahead scanned now p w < d.seatsThen scanned now p) =
          d.waiting p.1 p.2 := List.filter_eq_self.mpr fun w hw => decide_eq_true (hevery w hw)
      rw [hself]
      exact ⟨fun r hr _ w hw => (hready w (hwaiting w hw)).mpr (hevery w hw),by omega⟩

end

/-! The first applicant let the payment window pass while another waits for the one seat. -/

def lapsedBeforeWaiting : School where
  applications := (Table.empty.insert { waitingApplication 1 false with
    status := .conditionalApproval
    paymentDeadline := some 10
    reviewedByUserId := some 7 }).insert (waitingApplication 2 false)
  classes := [(1,⟨1,some 1,1,.active⟩)]
  enrolments := []
  students := []
  households := []
  parents := []
  overrides := []
  paymentEvents := []
  notes := []

/-- The seat goes back to the one that lost it. -/
theorem not_seatsGoToOthers : ¬∀ d scanned now p, SeatsGoToOthers d scanned now p := by
  intro h
  have hover := (h lapsedBeforeWaiting 20 20 (1,1) ⟨_,List.mem_cons_self,rfl⟩ (by decide)).1 _ List.mem_cons_self
    (by decide +kernel) _ List.mem_cons_self
  revert hover
  decide +kernel

end EduPod.Admissions
