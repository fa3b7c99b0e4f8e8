import EduPod.Foundation.StableSort
import EduPod.Admissions.SeatsTaken

/-! # Two promotion passes over one waiting list

The pass of the services and the pass of the worker, each with nobody beside it.
-/
namespace EduPod.Admissions
open ReadCommitted Script

/-- The applications a pass leaves ready to admit, each with its note. -/
def School.promote (d : School) (author : Option ℕ) (ids : List ℕ) : School := { d with
  applications := d.applications.mapRows fun id a => if ids.contains id then { a with status := .readyToAdmit } else a
  notes := d.notes ++ ids.map fun id => ⟨id,author,.autoPromoted⟩ }

/-- What the worker's pass leaves behind. -/
def afterExpiry (academicYearId yearGroupId attributionUserId : ℕ) (d : School) : School :=
  settled ((PaymentExpiry.promoteYearGroup academicYearId yearGroupId attributionUserId).run d d)

/-- What the services' pass leaves behind. -/
def afterRelease (academicYearId yearGroupId : ℕ) (d : School) : School :=
  settled ((AutoPromotion.promoteYearGroup [] academicYearId yearGroupId).run d d)

/-- The applications promoted from `d` to `d'`, in the order of their notes. -/
def promoted (d d' : School) : List ℕ := (d'.notes.drop d.notes.length).map (·.applicationId)

section
variable {d : School} {author : Option ℕ} {ids : List ℕ}

theorem promote_nil (d : School) (author : Option ℕ) : d.promote author [] = d := by
  have hrows : (d.applications.mapRows fun id a =>
      if ([] : List ℕ).contains id then { a with status := ApplicationStatus.readyToAdmit } else a) = d.applications :=
    Table.mapRows_eq_self fun r _ => rfl
  rw [School.promote,hrows,List.map_nil,List.append_nil]

theorem promoted_promote (d : School) (author : Option ℕ) (ids : List ℕ) : promoted d (d.promote author ids) = ids := by
  rw [promoted,School.promote,List.drop_left,List.map_map]
  exact List.map_id ids

theorem application_promote (d : School) (author : Option ℕ) (ids : List ℕ) (i : ℕ) :
    (d.promote author ids).application i =
      (d.application i).map fun a => if ids.contains i then { a with status := .readyToAdmit } else a :=
  Table.get?_mapRows _ _ _

theorem promote_cons (d : School) (author : Option ℕ) (id : ℕ) (ids : List ℕ) :
    ({ d with
      applications := d.applications.modify id fun a => { a with status := .readyToAdmit }
      notes := d.notes ++ [⟨id,author,.autoPromoted⟩] } : School).promote author ids = d.promote author (id :: ids) := by
  have hrows : ((d.applications.modify id fun a => { a with status := .readyToAdmit }).mapRows fun i a =>
      if ids.contains i then { a with status := ApplicationStatus.readyToAdmit } else a) =
      d.applications.mapRows fun i a => if (id :: ids).contains i then { a with status := .readyToAdmit } else a := by
    rw [Table.modify_eq_mapRows,Table.mapRows_mapRows]
    apply Table.mapRows_congr
    intro r _
    by_cases hr : r.1 = id
    · simp [hr]
    · simp [hr]
  simp only [School.promote,hrows,List.map_cons,List.append_assoc,List.singleton_append]

theorem run_updateApplication (db : School) {view : School} {id : ℕ} {change : Application → Application}
    (h : (view.application id).isSome = true) : (updateApplication id change).run db view =
      (db,.ok ({ view with applications := view.applications.modify id change },())) := by
  have hfound : (view.applications.get? id).isSome = true := h
  simp only [updateApplication,updateWhere,Bind.bind,Script.bind,run,hfound,if_true,ensure]

theorem run_promoteAll (db : School) {view : School} (h : ∀ id ∈ ids, (view.application id).isSome = true) :
    (promoteAll author ids).run db view = (db,.ok (view.promote author ids,())) := by
  induction ids generalizing view with
  | nil =>
    rw [promote_nil]
    rfl
  | cons id ids ih =>
    rw [promoteAll,run_bind_ok (run_updateApplication db (h id List.mem_cons_self)),← promote_cons]
    refine ih fun j hj => ?_
    have hrow := h j (List.mem_cons_of_mem _ hj)
    simp only [School.application,Table.get?_modify] at hrow ⊢
    split <;> simpa using hrow

end

section
variable (d : School) (academicYearId yearGroupId : ℕ)

/-- The free seats as both passes count them. -/
def School.freeSeats : ℕ := (d.availableSeats academicYearId yearGroupId).availableSeats

/-- Whom a pass takes, first come by `le`. -/
def School.chosen (le : ℕ × Application → ℕ × Application → Bool) : List ℕ :=
  candidates le (d.freeSeats academicYearId yearGroupId) (d.waiting academicYearId yearGroupId)

theorem chosen_isSome (le : ℕ × Application → ℕ × Application → Bool) :
    ∀ id ∈ d.chosen academicYearId yearGroupId le, (d.application id).isSome = true := by
  intro id hid
  obtain ⟨a,ha⟩ := mem_candidates hid
  exact Option.isSome_iff_exists.mpr ⟨a,Table.get?_of_mem (List.mem_filter.mp ha).1⟩

theorem chosen_eq_nil (le : ℕ × Application → ℕ × Application → Bool) (h : d.freeSeats academicYearId yearGroupId = 0) :
    d.chosen academicYearId yearGroupId le = [] := by
  rw [School.chosen,h]
  rfl

theorem afterExpiry_eq (attributionUserId : ℕ) : afterExpiry academicYearId yearGroupId attributionUserId d =
    d.promote (some attributionUserId) (d.chosen academicYearId yearGroupId earliestFirst) := by
  have hnone : d.freeSeats academicYearId yearGroupId = 0 →
      d = d.promote (some attributionUserId) (d.chosen academicYearId yearGroupId earliestFirst) := by
    intro h
    rw [chosen_eq_nil d _ _ _ h,promote_nil]
  rw [afterExpiry,PaymentExpiry.promoteYearGroup]
  change settled ((ite (d.activeClasses academicYearId yearGroupId = []) _ _ : Tx ℕ).run d d) = _
  split
  · rename_i hclasses
    apply hnone
    simp [School.freeSeats,School.availableSeats,School.totalCapacity,hclasses]
  · change settled ((ite (d.freeSeats academicYearId yearGroupId = 0) _ _ : Tx ℕ).run d d) = _
    split
    · exact hnone ‹_›
    · change settled (Script.run (promoteAll (some attributionUserId) (d.chosen academicYearId yearGroupId earliestFirst) >>=
        fun _ => _) d d) = _
      rw [run_bind_ok (run_promoteAll d (chosen_isSome d _ _ _))]
      rfl

theorem afterRelease_eq : afterRelease academicYearId yearGroupId d =
    d.promote none (d.chosen academicYearId yearGroupId siblingsFirst) := by
  have hskip : ((d.waiting academicYearId yearGroupId).filter fun a => !([] : List ℕ).contains a.1) =
      d.waiting academicYearId yearGroupId := List.filter_eq_self.mpr fun _ _ => rfl
  rw [afterRelease,AutoPromotion.promoteYearGroup]
  change settled ((ite (d.freeSeats academicYearId yearGroupId = 0) _ _ : Tx PromotionResult).run d d) = _
  split
  · rename_i h
    rw [chosen_eq_nil d _ _ _ h,promote_nil]
    rfl
  · change settled (Script.run (promoteAll none (candidates siblingsFirst (d.freeSeats academicYearId yearGroupId)
      ((d.waiting academicYearId yearGroupId).filter fun a => !([] : List ℕ).contains a.1)) >>= fun _ => _) d d) = _
    rw [hskip]
    change settled (Script.run (promoteAll none (d.chosen academicYearId yearGroupId siblingsFirst) >>= fun _ => _) d d) = _
    rw [run_bind_ok (run_promoteAll d (chosen_isSome d _ _ _))]
    rfl

end

/-! ## Counting -/

section
variable {d : School} {academicYearId yearGroupId : ℕ} {author : Option ℕ} {ids : List ℕ}

/-- An application a pass may take. -/
def Application.waits (academicYearId yearGroupId : ℕ) (a : Application) : Bool :=
  a.targets academicYearId yearGroupId && a.status = .waitingList && a.waitingListSubstatus = none

theorem mem_waiting {i : ℕ} {a : Application} : (i,a) ∈ d.waiting academicYearId yearGroupId ↔
    d.application i = some a ∧ a.waits academicYearId yearGroupId = true :=
  List.mem_filter.trans (and_congr_left fun _ => Table.get?_eq_some_iff.symm)

theorem card_waiting : (d.waiting academicYearId yearGroupId).length =
    (d.idsWhere (·.waits academicYearId yearGroupId)).card := (card_idsWhere d _).symm

theorem mem_idsWhere_promote {p : Application → Bool} {i : ℕ} : i ∈ (d.promote author ids).idsWhere p ↔
    ∃ a, d.application i = some a ∧ p (if ids.contains i then { a with status := .readyToAdmit } else a) = true := by
  simp only [mem_idsWhere,application_promote,Option.map_eq_some_iff]
  constructor
  · rintro ⟨_,⟨a,ha,rfl⟩,hp⟩
    exact ⟨a,ha,hp⟩
  · rintro ⟨a,ha,hp⟩
    exact ⟨_,⟨a,ha,rfl⟩,hp⟩

theorem waiting_promote : (d.promote author ids).idsWhere (·.waits academicYearId yearGroupId) =
    d.idsWhere (·.waits academicYearId yearGroupId) \ ids.toFinset := by
  ext i
  rw [mem_idsWhere_promote,Finset.mem_sdiff,mem_idsWhere,List.mem_toFinset]
  by_cases hi : i ∈ ids
  · simp [hi,Application.waits]
  · simp [hi]

variable (hids : ∀ i ∈ ids, ∃ a, d.application i = some a ∧ a.waits academicYearId yearGroupId = true)
include hids

theorem ready_promote : (d.promote author ids).idsWhere
      (fun a => a.targets academicYearId yearGroupId && a.status = .readyToAdmit) =
    d.idsWhere (fun a => a.targets academicYearId yearGroupId && a.status = .readyToAdmit) ∪ ids.toFinset := by
  ext i
  rw [mem_idsWhere_promote,Finset.mem_union,mem_idsWhere,List.mem_toFinset]
  by_cases hi : i ∈ ids
  · obtain ⟨a,ha,hw⟩ := hids i hi
    simp only [Application.waits,Bool.and_eq_true] at hw
    simpa [hi,ha,Application.targets] using hw.1.1
  · simp [hi]

theorem conditional_promote : (d.promote author ids).idsWhere
      (fun a => a.targets academicYearId yearGroupId && a.status = .conditionalApproval) =
    d.idsWhere (fun a => a.targets academicYearId yearGroupId && a.status = .conditionalApproval) := by
  ext i
  rw [mem_idsWhere_promote,mem_idsWhere]
  by_cases hi : i ∈ ids
  · obtain ⟨a,ha,hw⟩ := hids i hi
    simp only [Application.waits,Bool.and_eq_true,decide_eq_true_eq] at hw
    simp [hi,ha,hw.1.2]
  · simp [hi]

theorem freeSeats_promote :
    (d.promote author ids).freeSeats academicYearId yearGroupId = d.freeSeats academicYearId yearGroupId := by
  have hcount : (d.promote author ids).countByStatus academicYearId yearGroupId .conditionalApproval =
      d.countByStatus academicYearId yearGroupId .conditionalApproval := by
    rw [School.countByStatus,School.countByStatus,← card_idsWhere,← card_idsWhere,conditional_promote hids]
  simp only [School.freeSeats,School.availableSeats,hcount]
  rfl

theorem countReady_promote (hn : ids.Nodup) : (d.promote author ids).countByStatus academicYearId yearGroupId .readyToAdmit =
    d.countByStatus academicYearId yearGroupId .readyToAdmit + ids.length := by
  rw [School.countByStatus,School.countByStatus,← card_idsWhere,← card_idsWhere,ready_promote hids,
    Finset.card_union_of_disjoint,List.toFinset_card_of_nodup hn]
  rw [Finset.disjoint_left]
  intro i hi hi'
  obtain ⟨a,ha,hr⟩ := mem_idsWhere.mp hi
  obtain ⟨b,hb,hw⟩ := hids i (List.mem_toFinset.mp hi')
  obtain rfl : a = b := Option.some.inj (ha.symm.trans hb)
  simp only [Application.waits,Bool.and_eq_true,decide_eq_true_eq] at hr hw
  rw [hr.2] at hw
  cases hw.1.2

theorem countWaiting_promote (hn : ids.Nodup) : ((d.promote author ids).waiting academicYearId yearGroupId).length =
    (d.waiting academicYearId yearGroupId).length - ids.length := by
  rw [card_waiting,card_waiting,waiting_promote,Finset.card_sdiff_of_subset,List.toFinset_card_of_nodup hn]
  intro i hi
  exact mem_idsWhere.mpr (hids i (List.mem_toFinset.mp hi))

end

section
variable (d : School) (academicYearId yearGroupId : ℕ) (le : ℕ × Application → ℕ × Application → Bool)

theorem chosen_waits : ∀ i ∈ d.chosen academicYearId yearGroupId le,
    ∃ a, d.application i = some a ∧ a.waits academicYearId yearGroupId = true := by
  intro i hi
  obtain ⟨a,ha⟩ := mem_candidates hi
  exact ⟨a,mem_waiting.mp ha⟩

theorem nodup_chosen : (d.chosen academicYearId yearGroupId le).Nodup := by
  have hsorted : (((d.waiting academicYearId yearGroupId).insertionSort fun a b => le a b = true).map Prod.fst).Nodup :=
    ((List.perm_insertionSort _ _).map Prod.fst).nodup_iff.mpr (Table.nodup_select _ _)
  exact ((List.take_sublist _ _).map Prod.fst).nodup hsorted

theorem length_chosen : (d.chosen academicYearId yearGroupId le).length =
    min (d.freeSeats academicYearId yearGroupId) (d.waiting academicYearId yearGroupId).length := by
  rw [School.chosen,candidates,List.length_map,List.length_take,List.length_insertionSort]

end

/-! ## One policy -/

instance : IsTrans (ℕ × Application) fun a b => earliestFirst a b = true where
  trans a b c hab hbc := by
    simp only [earliestFirst,decide_eq_true_eq] at hab hbc ⊢
    exact hab.trans hbc

instance : Std.Total (α := ℕ × Application) fun a b => earliestFirst a b = true where
  total a b := by
    simp only [earliestFirst,decide_eq_true_eq]
    exact le_total _ _

theorem siblingsFirst_iff (a b : ℕ × Application) : siblingsFirst a b = true ↔
    StableSort.flaggedFirst (fun c : ℕ × Application => c.2.isSiblingApplication) (fun a b => earliestFirst a b = true) a b := by
  rw [siblingsFirst,StableSort.flaggedFirst,earliestFirst]
  split <;> rfl

section
variable (d : School) (academicYearId yearGroupId : ℕ)

/-- The waiting list, first come first. -/
def School.queue : List (ℕ × Application) :=
  (d.waiting academicYearId yearGroupId).insertionSort fun a b => earliestFirst a b = true

/-- Nobody waits ahead of a sibling application. -/
def School.SiblingsAhead : Prop := (d.queue academicYearId yearGroupId).Pairwise fun a b =>
  b.2.isSiblingApplication = true → a.2.isSiblingApplication = true

theorem queue_siblingsFirst :
    ((d.waiting academicYearId yearGroupId).insertionSort fun a b => siblingsFirst a b = true) =
      (d.queue academicYearId yearGroupId).filter (fun a => a.2.isSiblingApplication) ++
        (d.queue academicYearId yearGroupId).filter fun a => !a.2.isSiblingApplication :=
  (StableSort.insertionSort_congr siblingsFirst_iff _).trans (StableSort.insertionSort_flaggedFirst _)

/-- The rows of a waiting list are told apart by their identifiers. -/
theorem eq_of_map_fst_eq {l l' : List (ℕ × Application)} (hl : ∀ r ∈ l, r ∈ d.waiting academicYearId yearGroupId)
    (hl' : ∀ r ∈ l', r ∈ d.waiting academicYearId yearGroupId) (h : l.map Prod.fst = l'.map Prod.fst) : l = l' := by
  have hread : ∀ l : List (ℕ × Application), (∀ r ∈ l, r ∈ d.waiting academicYearId yearGroupId) →
      l.map some = (l.map Prod.fst).map fun i => (d.application i).map (Prod.mk i) := by
    intro l hl
    rw [List.map_map]
    refine List.map_congr_left fun r hr => ?_
    simp [(mem_waiting.mp (hl r hr)).1]
  have hsome : l.map some = l'.map some := by rw [hread l hl,hread l' hl',h]
  exact Option.some_injective _ |>.list_map hsome

variable {d academicYearId yearGroupId}

/-- With a seat for everyone who waits, the two orders take the same applications precisely when
they agree on the whole queue. -/
theorem chosen_eq_iff (h : (d.waiting academicYearId yearGroupId).length ≤ d.freeSeats academicYearId yearGroupId) :
    d.chosen academicYearId yearGroupId earliestFirst = d.chosen academicYearId yearGroupId siblingsFirst ↔
      d.SiblingsAhead academicYearId yearGroupId := by
  have hall : ∀ le : ℕ × Application → ℕ × Application → Bool, d.chosen academicYearId yearGroupId le =
      ((d.waiting academicYearId yearGroupId).insertionSort fun a b => le a b = true).map Prod.fst := by
    intro le
    rw [School.chosen,candidates,List.take_of_length_le ((List.length_insertionSort _ _).trans_le h)]
  rw [hall,hall,School.SiblingsAhead,← StableSort.filter_append_filter_not_eq_iff,← queue_siblingsFirst]
  constructor
  · intro hids
    refine (eq_of_map_fst_eq d academicYearId yearGroupId ?_ ?_ hids).symm
    · exact fun r hr => (List.mem_insertionSort _).mp hr
    · exact fun r hr => (List.mem_insertionSort _).mp hr
  · intro hrows
    rw [hrows]
    rfl

end

/-- The passes of the services and of the worker as one policy for a pair: the same applications in
the same order, no more of them ready than seats are free, and nobody on a second pass. -/
structure PromotesAlike (d : School) (academicYearId yearGroupId attributionUserId : ℕ) : Prop where
  same : promoted d (afterExpiry academicYearId yearGroupId attributionUserId d) =
    promoted d (afterRelease academicYearId yearGroupId d)
  within : ∀ after ∈ [afterExpiry academicYearId yearGroupId attributionUserId,afterRelease academicYearId yearGroupId],
    (after d).countByStatus academicYearId yearGroupId .readyToAdmit ≤ (after d).freeSeats academicYearId yearGroupId
  idle : ∀ after ∈ [afterExpiry academicYearId yearGroupId attributionUserId,afterRelease academicYearId yearGroupId],
    ∀ again ∈ [afterExpiry academicYearId yearGroupId attributionUserId,afterRelease academicYearId yearGroupId],
      promoted (after d) (again (after d)) = []

section
variable {d : School} {academicYearId yearGroupId : ℕ}

/-- A pass by any order promotes as many as both the seats and the waiting list allow, whatever is
already ready. -/
theorem within_promote_iff (author : Option ℕ) (le : ℕ × Application → ℕ × Application → Bool) :
    (d.promote author (d.chosen academicYearId yearGroupId le)).countByStatus academicYearId yearGroupId .readyToAdmit ≤
        (d.promote author (d.chosen academicYearId yearGroupId le)).freeSeats academicYearId yearGroupId ↔
      d.countByStatus academicYearId yearGroupId .readyToAdmit +
          min (d.freeSeats academicYearId yearGroupId) (d.waiting academicYearId yearGroupId).length ≤
        d.freeSeats academicYearId yearGroupId := by
  have hwaits := chosen_waits d academicYearId yearGroupId le
  rw [countReady_promote hwaits (nodup_chosen d _ _ le),freeSeats_promote hwaits,length_chosen]

/-- A second pass finds the same seats free and promotes again whoever still waits. -/
theorem chosen_promote_eq_nil_iff (author : Option ℕ) (le again : ℕ × Application → ℕ × Application → Bool) :
    (d.promote author (d.chosen academicYearId yearGroupId le)).chosen academicYearId yearGroupId again = [] ↔
      d.freeSeats academicYearId yearGroupId = 0 ∨
        (d.waiting academicYearId yearGroupId).length ≤ d.freeSeats academicYearId yearGroupId := by
  have hwaits := chosen_waits d academicYearId yearGroupId le
  rw [← List.length_eq_zero_iff,length_chosen,freeSeats_promote hwaits,countWaiting_promote hwaits (nodup_chosen d _ _ le),
    length_chosen]
  omega

/-- The passes are one policy precisely when no seat is free and nobody is ready, or everybody who is
ready or waits has a free seat and nobody waits ahead of a sibling application. -/
theorem promotesAlike_iff (d : School) (academicYearId yearGroupId attributionUserId : ℕ) :
    PromotesAlike d academicYearId yearGroupId attributionUserId ↔
      d.freeSeats academicYearId yearGroupId = 0 ∧ d.countByStatus academicYearId yearGroupId .readyToAdmit = 0 ∨
      d.countByStatus academicYearId yearGroupId .readyToAdmit + (d.waiting academicYearId yearGroupId).length ≤
        d.freeSeats academicYearId yearGroupId ∧ d.SiblingsAhead academicYearId yearGroupId := by
  have hpasses : PromotesAlike d academicYearId yearGroupId attributionUserId ↔
      d.chosen academicYearId yearGroupId earliestFirst = d.chosen academicYearId yearGroupId siblingsFirst ∧
      d.countByStatus academicYearId yearGroupId .readyToAdmit +
          min (d.freeSeats academicYearId yearGroupId) (d.waiting academicYearId yearGroupId).length ≤
        d.freeSeats academicYearId yearGroupId ∧
      (d.freeSeats academicYearId yearGroupId = 0 ∨
        (d.waiting academicYearId yearGroupId).length ≤ d.freeSeats academicYearId yearGroupId) := by
    constructor
    · rintro ⟨hsame,hwithin,hidle⟩
      rw [afterExpiry_eq,afterRelease_eq,promoted_promote,promoted_promote] at hsame
      have hready := hwithin _ List.mem_cons_self
      have hnobody := hidle _ List.mem_cons_self _ List.mem_cons_self
      rw [afterExpiry_eq,within_promote_iff] at hready
      rw [afterExpiry_eq,afterExpiry_eq,promoted_promote,chosen_promote_eq_nil_iff] at hnobody
      exact ⟨hsame,hready,hnobody⟩
    · rintro ⟨hsame,hready,hnobody⟩
      refine ⟨?_,?_,?_⟩
      · rwa [afterExpiry_eq,afterRelease_eq,promoted_promote,promoted_promote]
      · simp only [List.forall_mem_cons,afterExpiry_eq,afterRelease_eq,within_promote_iff]
        exact ⟨hready,hready,fun _ h => (List.not_mem_nil h).elim⟩
      · simp only [List.forall_mem_cons,afterExpiry_eq,afterRelease_eq,promoted_promote,chosen_promote_eq_nil_iff]
        exact ⟨⟨hnobody,hnobody,fun _ h => (List.not_mem_nil h).elim⟩,⟨hnobody,hnobody,fun _ h => (List.not_mem_nil h).elim⟩,
          fun _ h => (List.not_mem_nil h).elim⟩
  rw [hpasses]
  constructor
  · rintro ⟨hsame,hready,hnobody⟩
    rcases hnobody with h | h
    · exact .inl ⟨h,by omega⟩
    · exact .inr ⟨by omega,(chosen_eq_iff h).mp hsame⟩
  · rintro (⟨hfree,hready⟩ | ⟨hroom,hahead⟩)
    · rw [chosen_eq_nil d _ _ _ hfree,chosen_eq_nil d _ _ _ hfree]
      exact ⟨rfl,by omega,.inl hfree⟩
    · have h : (d.waiting academicYearId yearGroupId).length ≤ d.freeSeats academicYearId yearGroupId := by omega
      exact ⟨(chosen_eq_iff h).mpr hahead,by omega,.inr h⟩

end

/-- An application on the waiting list that came on a day. -/
def waitingApplication (applyDate : ℤ) (isSiblingApplication : Bool) : Application where
  submittedByParentId := none
  dateOfBirth := none
  status := .waitingList
  reviewedByUserId := none
  payload := none
  paymentAmountCents := none
  paymentDeadline := none
  rejectionReason := none
  targetAcademicYearId := some 1
  targetYearGroupId := some 1
  applyDate
  waitingListSubstatus := none
  overrideRecordId := none
  materialisedStudentId := none
  householdId := none
  submissionBatchId := none
  isSiblingApplication

/-- One free seat, and a sibling application behind another. -/
def siblingBehind : School where
  applications := (Table.empty.insert (waitingApplication 1 false)).insert (waitingApplication 2 true)
  classes := [(1,⟨1,some 1,1,.active⟩)]
  enrolments := []
  students := []
  households := []
  parents := []
  overrides := []
  paymentEvents := []
  notes := []

/-- The worker takes the first, the services take the sibling. -/
theorem not_promotesAlike : ¬ ∀ (d : School) (academicYearId yearGroupId attributionUserId : ℕ),
    PromotesAlike d academicYearId yearGroupId attributionUserId := by
  intro h
  have hsame := (h siblingBehind 1 1 7).same
  revert hsame
  decide +kernel

/-- Two passes of the worker admit both to the one seat. -/
example : ((afterExpiry 1 1 7 (afterExpiry 1 1 7 siblingBehind)).countByStatus 1 1 .readyToAdmit,
    siblingBehind.freeSeats 1 1) = (2,1) := by decide +kernel

end EduPod.Admissions
