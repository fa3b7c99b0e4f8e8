import EduPod.Foundation.Grouping
import EduPod.Admissions.RequestLaws

/-! # The seats taken in a year group

A seat is taken by a conditional approval, by an approved application with its student, and by every
other student enrolled in a class of the pair. `getAvailableSeats` counts conditional approvals and
enrolments, so it overlooks approved students until they are placed in a class.
-/
namespace EduPod.Admissions
open ReadCommitted Script

/-- An approved application of the pair, its student made. -/
def Application.admitted (academicYearId yearGroupId : ℕ) (a : Application) : Bool :=
  a.targets academicYearId yearGroupId && a.status = .approved && a.materialisedStudentId.isSome

/-- An application that takes a seat of the pair. -/
def Application.takesSeat (academicYearId yearGroupId : ℕ) (a : Application) : Bool :=
  (a.targets academicYearId yearGroupId && a.status = .conditionalApproval) || a.admitted academicYearId yearGroupId

/-- The identifiers of the applications with a property. -/
def School.idsWhere (d : School) (p : Application → Bool) : Finset ℕ := ((d.applications.select p).map Prod.fst).toFinset

namespace School
variable (d : School) (academicYearId yearGroupId : ℕ)

/-- The students of the pair's approved applications. -/
def admittedStudents : Finset ℕ :=
  ((d.applications.select (·.admitted academicYearId yearGroupId)).filterMap (·.2.materialisedStudentId)).toFinset

def seatsTaken : ℕ := (d.idsWhere (·.takesSeat academicYearId yearGroupId)).card +
  ((d.enrolledStudents academicYearId yearGroupId).toFinset \ d.admittedStudents academicYearId yearGroupId).card

/-- Approved applications without an enrolled student of their own. -/
def unplaced : ℕ := (d.idsWhere (·.admitted academicYearId yearGroupId)).card -
  ((d.enrolledStudents academicYearId yearGroupId).toFinset ∩ d.admittedStudents academicYearId yearGroupId).card

def WithinCapacity : Prop := d.seatsTaken academicYearId yearGroupId ≤ d.totalCapacity academicYearId yearGroupId

instance : Decidable (d.WithinCapacity academicYearId yearGroupId) := inferInstanceAs (Decidable (_ ≤ _))

end School

section
variable {d d' : School} {academicYearId yearGroupId : ℕ}

theorem mem_idsWhere {p : Application → Bool} {i : ℕ} :
    i ∈ d.idsWhere p ↔ ∃ a, d.application i = some a ∧ p a = true := by
  simp only [School.idsWhere,List.mem_toFinset,List.mem_map,Table.select,List.mem_filter]
  constructor
  · rintro ⟨r,⟨hr,hp⟩,rfl⟩
    exact ⟨r.2,Table.get?_of_mem hr,hp⟩
  · rintro ⟨a,ha,hp⟩
    exact ⟨(i,a),⟨Table.mem_of_get? ha,hp⟩,rfl⟩

theorem mem_admittedStudents {s : ℕ} : s ∈ d.admittedStudents academicYearId yearGroupId ↔
    ∃ i a, d.application i = some a ∧ a.admitted academicYearId yearGroupId = true ∧ a.materialisedStudentId = some s := by
  simp only [School.admittedStudents,List.mem_toFinset,List.mem_filterMap,Table.select,List.mem_filter]
  constructor
  · rintro ⟨r,⟨hr,hp⟩,hs⟩
    exact ⟨r.1,r.2,Table.get?_of_mem hr,hp,hs⟩
  · rintro ⟨i,a,ha,hp,hs⟩
    exact ⟨(i,a),⟨Table.mem_of_get? ha,hp⟩,hs⟩

theorem card_idsWhere (d : School) (p : Application → Bool) : (d.idsWhere p).card = (d.applications.select p).length := by
  rw [School.idsWhere,List.toFinset_card_of_nodup (Table.nodup_select _ _),List.length_map]

/-- The student of an application. -/
def School.studentOf (d : School) (i : ℕ) : ℕ := ((d.application i).bind (·.materialisedStudentId)).getD 0

theorem admittedStudents_subset : d.admittedStudents academicYearId yearGroupId ⊆
    (d.idsWhere (·.admitted academicYearId yearGroupId)).image d.studentOf := by
  intro s hs
  obtain ⟨i,a,ha,hp,hm⟩ := mem_admittedStudents.mp hs
  refine Finset.mem_image.mpr ⟨i,mem_idsWhere.mpr ⟨a,ha,hp⟩,?_⟩
  simp [School.studentOf,ha,hm]

/-- What is taken is what `getAvailableSeats` counts, and the unplaced besides. -/
theorem seatsTaken_eq : d.seatsTaken academicYearId yearGroupId =
    (d.enrolledStudents academicYearId yearGroupId).length +
      d.countByStatus academicYearId yearGroupId .conditionalApproval + d.unplaced academicYearId yearGroupId := by
  have hsplit : (d.idsWhere (·.takesSeat academicYearId yearGroupId)).card =
      d.countByStatus academicYearId yearGroupId .conditionalApproval +
        (d.idsWhere (·.admitted academicYearId yearGroupId)).card := by
    have hunion : d.idsWhere (·.takesSeat academicYearId yearGroupId) =
        d.idsWhere (fun a => a.targets academicYearId yearGroupId && a.status = .conditionalApproval) ∪
          d.idsWhere (·.admitted academicYearId yearGroupId) := by
      ext i
      simp only [Finset.mem_union,mem_idsWhere,Application.takesSeat,Bool.or_eq_true,← exists_or,← and_or_left]
    rw [hunion,Finset.card_union_of_disjoint,card_idsWhere]
    · rfl
    · rw [Finset.disjoint_left]
      intro i hi hi'
      obtain ⟨a,ha,hc⟩ := mem_idsWhere.mp hi
      obtain ⟨b,hb,hp⟩ := mem_idsWhere.mp hi'
      obtain rfl : a = b := Option.some.inj (ha.symm.trans hb)
      simp only [Application.admitted,Bool.and_eq_true,decide_eq_true_eq] at hc hp
      rw [hp.1.2] at hc
      cases hc.2
  have hcard : (d.enrolledStudents academicYearId yearGroupId).toFinset.card =
      (d.enrolledStudents academicYearId yearGroupId).length :=
    List.toFinset_card_of_nodup (Grouping.nodup_eraseDups _)
  have hparts := Finset.card_sdiff_add_card_inter (d.enrolledStudents academicYearId yearGroupId).toFinset
    (d.admittedStudents academicYearId yearGroupId)
  have hle : ((d.enrolledStudents academicYearId yearGroupId).toFinset ∩ d.admittedStudents academicYearId yearGroupId).card ≤
      (d.idsWhere (·.admitted academicYearId yearGroupId)).card :=
    ((Finset.card_le_card Finset.inter_subset_right).trans (Finset.card_le_card admittedStudents_subset)).trans
      Finset.card_image_le
  unfold School.seatsTaken School.unplaced
  omega

/-- There is room for one more precisely when the seats counted as free outnumber the unplaced. -/
theorem seatsTaken_lt_iff : d.seatsTaken academicYearId yearGroupId < d.totalCapacity academicYearId yearGroupId ↔
    d.unplaced academicYearId yearGroupId < (d.availableSeats academicYearId yearGroupId).availableSeats := by
  rw [seatsTaken_eq]
  change _ ↔ _ < d.totalCapacity academicYearId yearGroupId - _ - _
  omega

/-! ## What a commit does to the seats taken -/

theorem sets_approved {request : AdmissionsRequest} {i : ℕ} (h : request.sets i = some .approved) :
    request.checks i = some .conditionalApproval := by
  cases request <;> simp only [AdmissionsRequest.sets,AdmissionsRequest.checks] at h ⊢ <;> grind

/-- Only a request for a conditional approval grants one, to its own application. -/
theorem sets_conditionalApproval {request : AdmissionsRequest} {i : ℕ} (h : request.sets i = some .conditionalApproval) :
    request.checks i = some .readyToAdmit ∧ ∀ j, j ≠ i → request.sets j = none := by
  cases request <;> simp only [AdmissionsRequest.sets,AdmissionsRequest.checks] at h ⊢ <;> grind

section
variable {request : AdmissionsRequest} {i : ℕ} {x y : Application}

theorem Law.targets (h : Law request i x y) : y.targets academicYearId yearGroupId = x.targets academicYearId yearGroupId := by
  rw [Application.targets,Application.targets,h.year,h.group]

/-- Nobody takes a seat by a request that grants none. -/
theorem Law.takesSeat (h : Law request i x y)
    (hs : request.sets i = some .conditionalApproval → x.targets academicYearId yearGroupId = false)
    (hy : y.takesSeat academicYearId yearGroupId = true) : x.takesSeat academicYearId yearGroupId = true := by
  have htargets : y.targets academicYearId yearGroupId = x.targets academicYearId yearGroupId := h.targets
  simp only [Application.takesSeat,Application.admitted,htargets,Bool.or_eq_true,Bool.and_eq_true,decide_eq_true_eq] at hy ⊢
  have hstatus := h.status
  cases hsets : request.sets i with
  | none =>
    rw [hsets,Option.getD_none] at hstatus
    rw [hstatus,h.student (by simp [hsets])] at hy
    exact hy
  | some status =>
    rw [hsets,Option.getD_some] at hstatus
    rcases hy with ⟨ht,hc⟩ | ⟨⟨ht,ha⟩,-⟩
    · rw [hs (by rw [hsets,← hstatus,hc])] at ht
      cases ht
    · have hx := h.checked _ (sets_approved (by rw [hsets,← hstatus,ha]))
      exact .inl ⟨ht,hx⟩

/-- An admitted application stays admitted with its student, or gives its seat up. -/
theorem Law.admitted (h : Law request i x y) (hx : x.admitted academicYearId yearGroupId = true) :
    (y.admitted academicYearId yearGroupId = true ∧ y.materialisedStudentId = x.materialisedStudentId) ∨
      y.takesSeat academicYearId yearGroupId = false := by
  have htargets : y.targets academicYearId yearGroupId = x.targets academicYearId yearGroupId := h.targets
  simp only [Application.admitted,Bool.and_eq_true,decide_eq_true_eq] at hx
  obtain ⟨⟨ht,ha⟩,hm⟩ := hx
  have hstatus := h.status
  cases hsets : request.sets i with
  | none =>
    rw [hsets,Option.getD_none,ha] at hstatus
    have hsame := h.student (by simp [hsets])
    exact .inl ⟨by simp [Application.admitted,htargets,ht,hstatus,hsame,hm],hsame⟩
  | some status =>
    rw [hsets,Option.getD_some] at hstatus
    refine .inr ?_
    have hnapproved : status ≠ .approved := by
      rintro rfl
      have := h.checked _ (sets_approved hsets)
      rw [ha] at this
      cases this
    have hnconditional : status ≠ .conditionalApproval := by
      rintro rfl
      have := h.checked _ (sets_conditionalApproval hsets).1
      rw [ha] at this
      cases this
    simp [Application.takesSeat,Application.admitted,hstatus,hnapproved,hnconditional]

end

/-- What becomes of an application by a commit. -/
inductive Outcome (request : AdmissionsRequest) (i : ℕ) (o o' : Option Application) : Prop
  | same (h : o' = o)
  | ruled (x y : Application) (hx : o = some x) (hy : o' = some y) (hlaw : Law request i x y)
  | made (a : Application) (ho : o = none) (ha : o' = some a) (hfresh : Fresh request a)

theorem Fresh.takesSeat {request : AdmissionsRequest} {a : Application} (h : Fresh request a) :
    a.takesSeat academicYearId yearGroupId = false := by
  have hstatus : a.status = .readyToAdmit ∨ a.status = .waitingList := by
    cases request <;> first
      | exact h
      | exact h.elim
  rcases hstatus with h | h <;> simp [Application.takesSeat,Application.admitted,h]

section
variable {request : AdmissionsRequest} (houtcome : ∀ i, Outcome request i (d.application i) (d'.application i))
include houtcome

theorem takesSeat_subset (hs : ∀ i x, request.sets i = some .conditionalApproval → d.application i = some x →
    d'.application i ≠ some x → x.targets academicYearId yearGroupId = false) :
    d'.idsWhere (·.takesSeat academicYearId yearGroupId) ⊆ d.idsWhere (·.takesSeat academicYearId yearGroupId) := by
  intro i hi
  obtain ⟨y,hy,ht⟩ := mem_idsWhere.mp hi
  rcases houtcome i with h | ⟨x,y',hx,hy',hlaw⟩ | ⟨a,-,ha,hfresh⟩
  · exact mem_idsWhere.mpr ⟨y,h ▸ hy,ht⟩
  · obtain rfl : y = y' := Option.some.inj (hy.symm.trans hy')
    refine mem_idsWhere.mpr ⟨x,hx,?_⟩
    by_cases hxy : x = y
    · exact hxy ▸ ht
    · refine hlaw.takesSeat (fun hset => hs i x hset hx ?_) ht
      rw [hy]
      exact fun he => hxy (Option.some.inj he).symm
  · obtain rfl : y = a := Option.some.inj (hy.symm.trans ha)
    rw [hfresh.takesSeat] at ht
    cases ht

/-- A student who is no longer admitted had a seat that was given up. -/
theorem admittedStudents_sdiff_subset : d.admittedStudents academicYearId yearGroupId \
    d'.admittedStudents academicYearId yearGroupId ⊆
      (d.idsWhere (·.takesSeat academicYearId yearGroupId) \ d'.idsWhere (·.takesSeat academicYearId yearGroupId)).image
        d.studentOf := by
  intro s hs
  obtain ⟨hs,hs'⟩ := Finset.mem_sdiff.mp hs
  obtain ⟨i,x,hx,ha,hm⟩ := mem_admittedStudents.mp hs
  refine Finset.mem_image.mpr ⟨i,Finset.mem_sdiff.mpr ⟨mem_idsWhere.mpr ⟨x,hx,?_⟩,fun hi => ?_⟩,?_⟩
  · rw [Application.takesSeat,ha,Bool.or_true]
  · obtain ⟨y,hy,ht⟩ := mem_idsWhere.mp hi
    rcases houtcome i with h | ⟨x',y',hx',hy',hlaw⟩ | ⟨a,hnone,-,-⟩
    · exact hs' (mem_admittedStudents.mpr ⟨i,x,by rw [h,hx],ha,hm⟩)
    · obtain rfl : x = x' := Option.some.inj (hx.symm.trans hx')
      obtain rfl : y = y' := Option.some.inj (hy.symm.trans hy')
      rcases hlaw.admitted ha with ⟨ha',hm'⟩ | hnot
      · exact hs' (mem_admittedStudents.mpr ⟨i,y,hy,ha',hm'.trans hm⟩)
      · rw [hnot] at ht
        cases ht
    · rw [hnone] at hx
      cases hx
  · simp [School.studentOf,hx,hm]

theorem seatsTaken_le (he : d'.enrolledStudents academicYearId yearGroupId = d.enrolledStudents academicYearId yearGroupId)
    (hs : ∀ i x, request.sets i = some .conditionalApproval → d.application i = some x →
      d'.application i ≠ some x → x.targets academicYearId yearGroupId = false) :
    d'.seatsTaken academicYearId yearGroupId ≤ d.seatsTaken academicYearId yearGroupId := by
  have hsub := takesSeat_subset houtcome hs
  have hgiven := Finset.card_sdiff_add_card_eq_card hsub
  have hcharge : d.admittedStudents academicYearId yearGroupId \ d'.admittedStudents academicYearId yearGroupId ⊆ _ :=
    admittedStudents_sdiff_subset houtcome
  have hcharged := (Finset.card_le_card hcharge).trans Finset.card_image_le
  have hothers : (d.enrolledStudents academicYearId yearGroupId).toFinset \ d'.admittedStudents academicYearId yearGroupId ⊆
      ((d.enrolledStudents academicYearId yearGroupId).toFinset \ d.admittedStudents academicYearId yearGroupId) ∪
        (d.admittedStudents academicYearId yearGroupId \ d'.admittedStudents academicYearId yearGroupId) := by
    intro s hs
    simp only [Finset.mem_union,Finset.mem_sdiff] at hs ⊢
    tauto
  have hcard := (Finset.card_le_card hothers).trans (Finset.card_union_le _ _)
  unfold School.seatsTaken
  rw [he]
  omega

/-- An application whose status the request leaves alone is admitted, and takes a seat, as before. -/
theorem seated_iff {i : ℕ} (hs : request.sets i = none) (m : Option ℕ) :
    ((∃ y, d'.application i = some y ∧ y.admitted academicYearId yearGroupId = true ∧ y.materialisedStudentId = m) ↔
      ∃ x, d.application i = some x ∧ x.admitted academicYearId yearGroupId = true ∧ x.materialisedStudentId = m) ∧
    ((∃ y, d'.application i = some y ∧ y.takesSeat academicYearId yearGroupId = true) ↔
      ∃ x, d.application i = some x ∧ x.takesSeat academicYearId yearGroupId = true) := by
  rcases houtcome i with h | ⟨x,y,hx,hy,hlaw⟩ | ⟨a,ho,ha,hfresh⟩
  · rw [h]
    exact ⟨Iff.rfl,Iff.rfl⟩
  · have hstatus := hlaw.status
    rw [hs,Option.getD_none] at hstatus
    have hstudent := hlaw.student (by simp [hs])
    have htargets : y.targets academicYearId yearGroupId = x.targets academicYearId yearGroupId := hlaw.targets
    have hadmitted : y.admitted academicYearId yearGroupId = x.admitted academicYearId yearGroupId := by
      simp only [Application.admitted,hstatus,hstudent,htargets]
    have hseat : y.takesSeat academicYearId yearGroupId = x.takesSeat academicYearId yearGroupId := by
      simp only [Application.takesSeat,hstatus,htargets,hadmitted]
    simp only [hx,hy,Option.some.injEq,exists_eq_left',hadmitted,hseat,hstudent,and_self]
  · have hseat : a.takesSeat academicYearId yearGroupId = false := hfresh.takesSeat
    have hnot : a.admitted academicYearId yearGroupId = false := (Bool.or_eq_false_iff.mp hseat).2
    simp [ho,ha,hseat,hnot]

/-- A conditional approval takes exactly one seat more. -/
theorem seatsTaken_succ (he : d'.enrolledStudents academicYearId yearGroupId = d.enrolledStudents academicYearId yearGroupId)
    {i : ℕ} {x y : Application} (hset : request.sets i = some .conditionalApproval) (hx : d.application i = some x)
    (hy : d'.application i = some y) (hlaw : Law request i x y) (ht : x.targets academicYearId yearGroupId = true) :
    d'.seatsTaken academicYearId yearGroupId = d.seatsTaken academicYearId yearGroupId + 1 := by
  obtain ⟨hchecked,hothers⟩ := sets_conditionalApproval hset
  have hready : x.status = .readyToAdmit := hlaw.checked _ hchecked
  have hgranted : y.status = .conditionalApproval := by rw [hlaw.status,hset,Option.getD_some]
  have hnot : i ∉ d.idsWhere (·.takesSeat academicYearId yearGroupId) := by
    rw [mem_idsWhere]
    rintro ⟨a,ha,htakes⟩
    obtain rfl : x = a := Option.some.inj (hx.symm.trans ha)
    simp [Application.takesSeat,Application.admitted,hready] at htakes
  have hseats : d'.idsWhere (·.takesSeat academicYearId yearGroupId) =
      insert i (d.idsWhere (·.takesSeat academicYearId yearGroupId)) := by
    ext j
    rw [Finset.mem_insert,mem_idsWhere,mem_idsWhere]
    by_cases hj : j = i
    · subst hj
      refine iff_of_true ⟨y,hy,?_⟩ (.inl rfl)
      simp [Application.takesSeat,hgranted,hlaw.targets,ht]
    · rw [or_iff_right hj]
      exact (seated_iff houtcome (hothers j hj) none).2
  have hstudents : d'.admittedStudents academicYearId yearGroupId = d.admittedStudents academicYearId yearGroupId := by
    ext s
    rw [mem_admittedStudents,mem_admittedStudents]
    refine exists_congr fun j => ?_
    by_cases hj : j = i
    · subst hj
      refine iff_of_false ?_ ?_
      · rintro ⟨a,ha,hadm,-⟩
        obtain rfl : y = a := Option.some.inj (hy.symm.trans ha)
        simp [Application.admitted,hgranted] at hadm
      · rintro ⟨a,ha,hadm,-⟩
        obtain rfl : x = a := Option.some.inj (hx.symm.trans ha)
        simp [Application.admitted,hready] at hadm
    · exact (seated_iff houtcome (hothers j hj) (some s)).1
  unfold School.seatsTaken
  rw [he,hseats,hstudents,Finset.card_insert_of_notMem hnot]
  omega

end

end

end EduPod.Admissions
