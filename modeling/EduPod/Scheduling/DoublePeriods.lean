import Mathlib
import EduPod.Scheduling.HintsRun

/-! # Double periods

The two lessons of a pair are tied by equalities between single placement variables and by
variables forced to zero. A schedule of the model keeps every pair together or leaves it out.
-/
namespace EduPod.Scheduling
open Grouping LinearModel

/-! ## What it means -/

/-- The lessons that carry a pair index. -/
def pairMembers (lessons : List Lesson) (p : ℕ) : List (Lesson × ℕ) :=
  lessons.zipIdx.filter fun l => l.1.doublePairIndex = some p

/-- Where a schedule places a lesson. -/
def placesOf (placed : List Indexed) (lessonIdx : ℕ) : List LegalAssignment :=
  (placed.filter fun la => la.1.lessonIdx = lessonIdx).map Prod.fst

/-- The same teacher, on one day of one year group, in the very next period. -/
structure Consecutive (a b : LegalAssignment) : Prop where
  teacherIdx : b.teacherIdx = a.teacherIdx
  teacher : b.teacher = a.teacher
  yearGroupId : b.slot.yearGroupId = a.slot.yearGroupId
  weekday : b.slot.weekday = a.slot.weekday
  periodOrder : b.slot.periodOrder = a.slot.periodOrder + 1

/-- Neither lesson is placed, or each is placed once, the second right after the first. -/
def KeptTogether (placed : List Indexed) (anchor follower : ℕ) : Prop :=
  placesOf placed anchor = [] ∧ placesOf placed follower = [] ∨
    ∃ a b, placesOf placed anchor = [a] ∧ placesOf placed follower = [b] ∧ Consecutive a b

/-! ## The lessons of a pair -/

theorem filter_emitDoubles (d : Demand) (n remaining pairIndex p : ℕ) :
    ((emitDoubles d n remaining pairIndex).1.filter fun l => l.doublePairIndex = some p) =
      if pairIndex ≤ p ∧ p < (emitDoubles d n remaining pairIndex).2.2 then [pairLesson d p 0,pairLesson d p 1]
      else [] := by
  fun_induction emitDoubles d n remaining pairIndex with
  | case1 n remaining pairIndex rest left next he ih =>
    have hnext := (le_pairIndex_emitDoubles d n remaining (pairIndex + 1)).1
    rw [he] at ih hnext
    dsimp only at ih hnext ⊢
    have hidx : ∀ k, (pairLesson d pairIndex k).doublePairIndex = some pairIndex := fun _ => rfl
    by_cases hp : pairIndex = p
    · subst hp
      have hnone : ¬(pairIndex + 1 ≤ pairIndex ∧ pairIndex < next) := by omega
      have hsome : pairIndex ≤ pairIndex ∧ pairIndex < next := by omega
      rw [if_neg hnone] at ih
      rw [if_pos hsome,List.filter_cons_of_pos (by simp [hidx]),List.filter_cons_of_pos (by simp [hidx]),ih]
    · have hiff : (pairIndex ≤ p ∧ p < next) ↔ pairIndex + 1 ≤ p ∧ p < next := by omega
      rw [List.filter_cons_of_neg (by simp [hidx,hp]),List.filter_cons_of_neg (by simp [hidx,hp]),ih]
      simp only [hiff]
  | case2 n remaining pairIndex =>
    have hnone : ¬(pairIndex ≤ p ∧ p < pairIndex) := by omega
    rw [if_neg hnone]
    rfl

theorem filter_entryLessons (input : SolverInputV2) (d : Demand) (pairIndex p : ℕ) :
    ((entryLessons input d pairIndex).1.filter fun l => l.doublePairIndex = some p) =
      if pairIndex ≤ p ∧ p < (entryLessons input d pairIndex).2 then [pairLesson d p 0,pairLesson d p 1] else [] := by
  have hdoubles := filter_emitDoubles d (doublesToPlace input d) (remainingPeriods input d) pairIndex p
  have hsingles : ∀ n, ((List.range n).map (singleLesson d)).filter (fun l => l.doublePairIndex = some p) = [] := by
    intro n
    rw [List.filter_eq_nil_iff]
    intro l hl
    obtain ⟨i,-,rfl⟩ := List.mem_map.mp hl
    simp [singleLesson]
  rw [entryLessons]
  dsimp only
  rw [List.filter_append,hsingles,List.append_nil,hdoubles]

/-- A pair index belongs to no lesson, or to the two lessons of one pair of one row. -/
theorem filter_lessonsFrom (input : SolverInputV2) (ds : List Demand) (pairIndex p : ℕ) :
    (lessonsFrom input ds pairIndex).filter (fun l => l.doublePairIndex = some p) = [] ∨
    ∃ d, (lessonsFrom input ds pairIndex).filter (fun l => l.doublePairIndex = some p) =
      [pairLesson d p 0,pairLesson d p 1] := by
  induction ds generalizing pairIndex with
  | nil => exact Or.inl rfl
  | cons d rest ih =>
    rw [lessonsFrom,List.filter_append,filter_entryLessons]
    split
    · rename_i hp
      have hrest : (lessonsFrom input rest (entryLessons input d pairIndex).2).filter
          (fun l => l.doublePairIndex = some p) = [] := by
        rw [List.filter_eq_nil_iff]
        intro l hl hlp
        have hle := le_pairIndex_lessonsFrom hl (of_decide_eq_true hlp)
        omega
      rw [hrest]
      exact Or.inr ⟨d,rfl⟩
    · exact ih (entryLessons input d pairIndex).2

theorem map_fst_pairMembers (lessons : List Lesson) (p : ℕ) :
    (pairMembers lessons p).map Prod.fst = lessons.filter fun l => l.doublePairIndex = some p := by
  have hfst : lessons.zipIdx.map Prod.fst = lessons := List.zipIdx_map_fst ..
  rw [pairMembers]
  conv_rhs => rw [← hfst]
  rw [List.filter_map]
  rfl

/-- The lessons of a pair, with their positions. -/
theorem pairMembers_buildLessons (input : SolverInputV2) (p : ℕ) : pairMembers input.lessons p = [] ∨
    ∃ d anchor follower, pairMembers input.lessons p = [(pairLesson d p 0,anchor),(pairLesson d p 1,follower)] := by
  have hmap := map_fst_pairMembers input.lessons p
  rcases filter_lessonsFrom input (demands input) 0 p with hnil | ⟨d,hpair⟩
  · rw [SolverInputV2.lessons,buildLessons,hnil] at hmap
    exact Or.inl (List.map_eq_nil_iff.mp hmap)
  · rw [SolverInputV2.lessons,buildLessons,hpair] at hmap
    obtain ⟨l,ls,hmem,hl,hls⟩ := List.map_eq_cons_iff.mp hmap
    obtain ⟨m,ms,rfl,hm,hms⟩ := List.map_eq_cons_iff.mp hls
    obtain rfl := List.map_eq_nil_iff.mp hms
    exact Or.inr ⟨d,l.2,m.2,hmem.trans (by rw [← hl,← hm])⟩

/-- The pairs of the model are the pair indices with their lessons. -/
theorem mem_doublePairs {lessons : List Lesson} {p : ℕ} (h : pairMembers lessons p ≠ []) :
    (p,(pairMembers lessons p).map Prod.snd) ∈ doublePairs lessons := by
  have hfilter : ∀ xs : List (Lesson × ℕ),
      ((xs.filterMap fun l => l.1.doublePairIndex.map fun q => (q,l.2)).filter fun e => e.1 = p).map Prod.snd =
        (xs.filter fun l => l.1.doublePairIndex = some p).map Prod.snd := by
    intro xs
    induction xs with
    | nil => rfl
    | cons x xs ih =>
      cases hx : x.1.doublePairIndex with
      | none => simpa [hx] using ih
      | some q =>
        by_cases hq : q = p
        · simpa [hx,hq] using ih
        · simpa [hx,hq] using ih
  obtain ⟨l,hl⟩ := List.exists_mem_of_ne_nil _ h
  obtain ⟨hmem,hp⟩ := List.mem_filter.mp hl
  refine List.mem_map.mpr ⟨_,group_mem (x := (p,l.2)) (List.mem_filterMap.mpr ⟨l,hmem,?_⟩),?_⟩
  · rw [of_decide_eq_true hp]
    rfl
  · rw [pairMembers,← hfilter]

/-! ## Legal assignments of one lesson differ in slot or teacher -/

theorem nodup_enumerateSlots (yearGroups : List YearGroupInput) : (enumerateSlots yearGroups).Nodup := by
  have hid : ∀ {i : ℕ} {s : PhysicalSlot}, (enumerateSlots yearGroups)[i]? = some s → s.slotId = i := by
    intro i s hi
    rw [getElem?_enumerateSlots] at hi
    obtain ⟨cell,-,hi⟩ := Option.bind_eq_some_iff.mp hi
    obtain ⟨g,-,rfl⟩ := Option.map_eq_some_iff.mp hi
    rfl
  rw [List.nodup_iff_getElem?_ne_getElem?]
  intro i j hij hj heq
  obtain ⟨s,hs⟩ : ∃ s, (enumerateSlots yearGroups)[j]? = some s := ⟨_,List.getElem?_eq_getElem hj⟩
  have hi := hid (heq.trans hs)
  have hj := hid hs
  omega

theorem nodup_zipIdx {α : Type} (xs : List α) : xs.zipIdx.Nodup := by
  refine List.Nodup.of_map Prod.snd ?_
  rw [List.zipIdx_map_snd]
  exact List.nodup_range'

theorem nodup_competentTeachers (teachers : List TeacherInputV2) (classId yearGroupId subjectId : String) :
    (competentTeachers teachers classId yearGroupId subjectId).Nodup := by
  simp only [competentTeachers]
  split
  · exact (nodup_zipIdx teachers).filter _
  · exact (nodup_zipIdx teachers).filter _

theorem nodup_candidates (input : SolverInputV2) (lesson : Lesson) {slots : List PhysicalSlot} (hs : slots.Nodup) :
    (candidates input lesson slots).Nodup := by
  rw [candidates,List.nodup_flatMap]
  constructor
  · intro s _
    exact ((nodup_competentTeachers ..).filter _).map fun _ _ h => (Prod.mk.inj h).2
  · refine (hs.filter _).imp fun hne c hc hc' => hne ?_
    obtain ⟨t,-,rfl⟩ := List.mem_map.mp hc
    obtain ⟨t',-,he⟩ := List.mem_map.mp hc'
    exact (Prod.mk.inj he).1.symm

theorem sublist_pruneLesson (input : SolverInputV2) (slots : List PhysicalSlot) (lesson : Lesson) :
    (pruneLesson input slots lesson).1.Sublist (candidates input lesson slots) := by
  have hlegal : (pruneLesson.legalOrDiagnostic lesson (candidates input lesson slots)).1.Sublist
      (candidates input lesson slots) := by
    unfold pruneLesson.legalOrDiagnostic
    split
    · exact List.nil_sublist _
    · exact List.Sublist.refl _
  unfold pruneLesson
  split
  · exact List.nil_sublist _
  split
  · exact List.nil_sublist _
  split
  · split
    · exact List.nil_sublist _
    · exact hlegal
  · exact hlegal

theorem nodup_legal (input : SolverInputV2) : input.legal.Nodup := by
  rw [SolverInputV2.legal,buildLegalAssignments,List.nodup_flatMap]
  constructor
  · intro l _
    refine ((nodup_candidates input l.1 (nodup_enumerateSlots _)).sublist (sublist_pruneLesson ..)).map ?_
    intro c c' h
    rw [LegalAssignment.mk.injEq] at h
    exact Prod.ext h.2.2.1 (Prod.ext h.2.2.2.2 h.2.2.2.1)
  · have hpos : input.lessons.zipIdx.Pairwise fun l m => l.2 ≠ m.2 := by
      rw [← List.pairwise_map,List.zipIdx_map_snd]
      exact List.nodup_range'
    refine hpos.imp fun hne la hla hla' => hne ?_
    obtain ⟨c,-,rfl⟩ := List.mem_map.mp hla
    obtain ⟨c',-,he⟩ := List.mem_map.mp hla'
    exact (congrArg LegalAssignment.lessonIdx he).symm

section
variable {input : SolverInputV2}

/-- A lesson has at most one legal assignment a slot and teacher. -/
theorem eq_of_cell_eq {la m : Indexed} (hla : la ∈ input.legal.zipIdx) (hm : m ∈ input.legal.zipIdx)
    (hlesson : la.1.lessonIdx = m.1.lessonIdx) (hteacher : la.1.teacherIdx = m.1.teacherIdx)
    (hslot : la.1.slot.slotId = m.1.slot.slotId) : la = m := by
  have hw := wellFormed_of_zipIdx hla
  have hw' := wellFormed_of_zipIdx hm
  have hl : la.1.lesson = m.1.lesson := by
    have h := hw.lesson
    rw [hlesson,hw'.lesson] at h
    exact (Option.some.inj h).symm
  have ht : la.1.teacher = m.1.teacher := by
    have h := hw.teacher
    rw [hteacher,hw'.teacher] at h
    exact (Option.some.inj h).symm
  have hs : la.1.slot = m.1.slot :=
    eq_of_slotId_eq (mem_teachingSlots.mp hw.slot).1 (mem_teachingSlots.mp hw'.slot).1 hslot
  have hfst : la.1 = m.1 := by
    rw [LegalAssignment.mk.injEq (la.1.lessonIdx)]
    exact ⟨hlesson,hl,hs,hteacher,ht⟩
  have hi := List.mem_zipIdx_iff_getElem?.mp hla
  have hj := List.mem_zipIdx_iff_getElem?.mp hm
  rw [← hfst] at hj
  exact Prod.ext hfst ((List.getElem?_inj (List.getElem?_eq_some_iff.mp hi).1 (nodup_legal input)).mp (hi.trans hj.symm))

/-! ## What the pair constraints say -/

theorem nextTeaching_spec {slots : List PhysicalSlot} {s n : PhysicalSlot} (h : nextTeaching slots s = some n) :
    n ∈ slots ∧ n.yearGroupId = s.yearGroupId ∧ n.weekday = s.weekday ∧ n.periodOrder = s.periodOrder + 1 := by
  obtain ⟨hnext,horder⟩ := Option.filter_eq_some_iff.mp h
  have hday : n ∈ teachingDay slots s := by
    unfold neighbours at hnext
    split at hnext
    · cases hnext
    · exact List.mem_of_getElem? hnext
  obtain ⟨hteaching,hweekday⟩ := List.mem_filter.mp ((List.mem_insertionSort _).mp hday)
  obtain ⟨hslots,-,hyear⟩ := mem_teachingSlots.mp hteaching
  exact ⟨hslots,hyear,of_decide_eq_true hweekday,of_decide_eq_true horder⟩

/-- What stands in the slot after an assignment, with its teacher, is consecutive to it. -/
theorem consecutive_of_next {la m : Indexed} (hla : la ∈ input.legal.zipIdx) (hm : m ∈ input.legal.zipIdx)
    (hteacher : m.1.teacherIdx = la.1.teacherIdx) {n : PhysicalSlot}
    (hn : nextTeaching input.slots la.1.slot = some n) (hslot : m.1.slot.slotId = n.slotId) :
    Consecutive la.1 m.1 := by
  obtain ⟨hmem,hyear,hweekday,horder⟩ := nextTeaching_spec hn
  have hw := wellFormed_of_zipIdx hla
  have hw' := wellFormed_of_zipIdx hm
  have heq : m.1.slot = n := eq_of_slotId_eq (mem_teachingSlots.mp hw'.slot).1 hmem hslot
  have ht : m.1.teacher = la.1.teacher := by
    have h := hw.teacher
    rw [← hteacher,hw'.teacher] at h
    exact Option.some.inj h
  rw [← heq] at hyear hweekday horder
  exact ⟨hteacher,ht,hyear,hweekday,horder⟩

variable {v : Var → ℤ} {anchor follower : ℕ}

/-- A placed anchor takes its follower along. -/
theorem exists_follower (h : Sat v (pairConstraints input.slots (legalByLesson input.legal anchor)
    (legalByLesson input.legal follower))) {la : Indexed} (hla : la ∈ legalByLesson input.legal anchor)
    (hone : v (placementVar la) = 1) :
    ∃ m ∈ legalByLesson input.legal follower, v (placementVar m) = 1 ∧ Consecutive la.1 m.1 := by
  have hc := sat_map.mp (sat_append.mp h).1 la hla
  cases hmatch : followerMatch input.slots (legalByLesson input.legal follower) la with
  | none =>
    rw [hmatch] at hc
    simp only [isZero,Constraint.Holds,LinExpr.eval_ofVar,LinExpr.eval_ofInt] at hc
    rw [placementVar,hc] at hone
    cases hone
  | some m =>
    rw [hmatch] at hc
    simp only [Constraint.Holds,LinExpr.eval_ofVar] at hc
    obtain ⟨n,hn,hlast⟩ := Option.bind_eq_some_iff.mp hmatch
    have hm := mem_of_lastWith hlast
    have hkey := lastWith_spec hlast
    rw [Bool.and_eq_true] at hkey
    exact ⟨m,hm,hc.symm.trans hone,consecutive_of_next (mem_legalByLesson.mp hla).1 (mem_legalByLesson.mp hm).1
      (of_decide_eq_true hkey.1) hn (of_decide_eq_true hkey.2)⟩

/-- A placed follower stands after a placed anchor. -/
theorem exists_anchor (h : Sat v (pairConstraints input.slots (legalByLesson input.legal anchor)
    (legalByLesson input.legal follower))) {m : Indexed} (hm : m ∈ legalByLesson input.legal follower)
    (hone : v (placementVar m) = 1) :
    ∃ la ∈ legalByLesson input.legal anchor, v (placementVar la) = 1 ∧ Consecutive la.1 m.1 := by
  obtain ⟨hpairs,hzero⟩ := sat_append.mp h
  have hfollows : followsAnchor input.slots (legalByLesson input.legal anchor) m = true := by
    by_contra hno
    have hc := sat_map.mp hzero m (List.mem_filter.mpr ⟨hm,by simpa using hno⟩)
    simp only [isZero,Constraint.Holds,LinExpr.eval_ofVar,LinExpr.eval_ofInt] at hc
    rw [placementVar,hc] at hone
    cases hone
  obtain ⟨la,hla,hkey⟩ := List.any_eq_true.mp hfollows
  rw [Bool.and_eq_true,decide_eq_true_eq,Option.any_eq_true] at hkey
  obtain ⟨hteacher,n,hn,hslot⟩ := hkey
  have hslot := of_decide_eq_true hslot
  refine ⟨la,hla,?_,consecutive_of_next (mem_legalByLesson.mp hla).1 (mem_legalByLesson.mp hm).1 hteacher.symm hn
    hslot.symm⟩
  -- the match the equality was made with can only be this follower
  obtain ⟨m',hlast⟩ : ∃ m', lastWith (fun w => w.1.teacherIdx = la.1.teacherIdx && w.1.slot.slotId = n.slotId)
      (legalByLesson input.legal follower) = some m' :=
    Option.isSome_iff_exists.mp (isSome_lastWith.mpr ⟨m,hm,by simp [hteacher,hslot]⟩)
  have hmatch : followerMatch input.slots (legalByLesson input.legal follower) la = some m' := by
    rw [followerMatch,hn]
    exact hlast
  have hkey := lastWith_spec hlast
  rw [Bool.and_eq_true] at hkey
  obtain ⟨hm',hlesson'⟩ := mem_legalByLesson.mp (mem_of_lastWith hlast)
  obtain ⟨hmem,hlesson⟩ := mem_legalByLesson.mp hm
  have hsame : m' = m := eq_of_cell_eq hm' hmem (hlesson'.trans hlesson.symm)
    ((of_decide_eq_true hkey.1).trans hteacher) ((of_decide_eq_true hkey.2).trans hslot)
  have hc := sat_map.mp hpairs la hla
  rw [hmatch,hsame] at hc
  simp only [Constraint.Holds,LinExpr.eval_ofVar] at hc
  exact hc.trans hone

theorem placesOf_eq_singleton (hs : Sound input (placedRecords v input.legal)) {la : Indexed}
    (hla : la ∈ placedRecords v input.legal) : placesOf (placedRecords v input.legal) la.1.lessonIdx = [la.1] := by
  have hn := List.Nodup.of_map _ hs.lessons
  have hfilter : (placedRecords v input.legal).filter (fun m => m.1.lessonIdx = la.1.lessonIdx) = [la] := by
    refine List.perm_singleton.mp ((List.perm_ext_iff_of_nodup (hn.filter _) (List.nodup_singleton la)).mpr fun m => ?_)
    rw [List.mem_filter,List.mem_singleton]
    constructor
    · rintro ⟨hm,hidx⟩
      exact List.inj_on_of_nodup_map hs.lessons hm hla (of_decide_eq_true hidx)
    · rintro rfl
      exact ⟨hla,decide_eq_true rfl⟩
  rw [placesOf,hfilter]
  rfl

theorem placesOf_eq_nil {placed : List Indexed} {i : ℕ} :
    placesOf placed i = [] ↔ ∀ la ∈ placed, la.1.lessonIdx ≠ i := by
  simp [placesOf]

theorem keptTogether_of_pairConstraints (hs : Sound input (placedRecords v input.legal))
    (h : Sat v (pairConstraints input.slots (legalByLesson input.legal anchor) (legalByLesson input.legal follower))) :
    KeptTogether (placedRecords v input.legal) anchor follower := by
  by_cases ha : ∃ la ∈ placedRecords v input.legal, la.1.lessonIdx = anchor
  · obtain ⟨la,hla,rfl⟩ := ha
    obtain ⟨hlegal,hone⟩ := mem_chosen.mp hla
    obtain ⟨m,hm,hmone,hcons⟩ := exists_follower h (mem_legalByLesson.mpr ⟨hlegal,rfl⟩) hone
    obtain ⟨hmlegal,rfl⟩ := mem_legalByLesson.mp hm
    exact Or.inr ⟨la.1,m.1,placesOf_eq_singleton hs hla,
      placesOf_eq_singleton hs (mem_chosen.mpr ⟨hmlegal,hmone⟩),hcons⟩
  · have hnone : ∀ la ∈ placedRecords v input.legal, la.1.lessonIdx ≠ anchor := fun la hla he => ha ⟨la,hla,he⟩
    refine Or.inl ⟨placesOf_eq_nil.mpr hnone,placesOf_eq_nil.mpr fun m hm hidx => ?_⟩
    obtain ⟨hlegal,hone⟩ := mem_chosen.mp hm
    obtain ⟨la,hla,hlaone,-⟩ := exists_anchor h (mem_legalByLesson.mpr ⟨hlegal,hidx⟩) hone
    obtain ⟨hlalegal,hlaidx⟩ := mem_legalByLesson.mp hla
    exact hnone la (mem_chosen.mpr ⟨hlalegal,hlaone⟩) hlaidx

end

/-- Every pair index in use stands for two lessons, and a valuation of the model keeps them
together or places neither. -/
theorem keptTogether_of_sat {input : SolverInputV2} {v : Var → ℤ} (h : Sat v input.model) {p : ℕ}
    (hp : p ∈ input.lessons.filterMap (·.doublePairIndex)) :
    ∃ d anchor follower, pairMembers input.lessons p = [(pairLesson d p 0,anchor),(pairLesson d p 1,follower)] ∧
      KeptTogether (placedRecords v input.legal) anchor follower := by
  obtain ⟨hA,-,-,-,-,hF,-,-⟩ := sat_model_iff.mp h
  obtain ⟨lesson,hlesson,hidx⟩ := List.mem_filterMap.mp hp
  have hne : pairMembers input.lessons p ≠ [] := by
    intro hnil
    have hnone := map_fst_pairMembers input.lessons p
    rw [hnil] at hnone
    have hmem : lesson ∈ input.lessons.filter fun l => l.doublePairIndex = some p :=
      List.mem_filter.mpr ⟨hlesson,decide_eq_true hidx⟩
    rw [← hnone] at hmem
    cases hmem
  have hpairs := mem_doublePairs hne
  obtain ⟨d,anchor,follower,hmembers⟩ := (pairMembers_buildLessons input p).resolve_left hne
  rw [hmembers] at hpairs
  exact ⟨d,anchor,follower,hmembers,
    keptTogether_of_pairConstraints (sound_placedRecords hA) (sat_flatMap.mp hF _ hpairs)⟩

/-! One class with two double periods of maths on a day of three periods. -/

def twoDoubles : SolverInputV2 :=
  { SolverInputV2.empty with
    yearGroups := [⟨"Y",[⟨"a"⟩],[.teaching firstDay 0 "09:00" "10:00",.teaching firstDay 1 "10:00" "11:00",
      .teaching firstDay 2 "11:00" "12:00"]⟩]
    curriculum := [⟨"Y","maths",4,4,true,some 2,none,none,none⟩]
    teachers := [.plain "s" [⟨"maths","Y",none⟩] []]
    rooms := [⟨"hall","hall",false⟩] }

/-- The first pair is placed in the second and third period, the other one is not. -/
def firstPairLate : Var → ℤ
  | .placement la => if la = 1 ∨ la = 5 then 1 else 0
  | .placed l => if l < 2 then 1 else 0
  | _ => 0

theorem keptTogether_twoDoubles : ∃ d anchor follower,
    pairMembers twoDoubles.lessons 0 = [(pairLesson d 0 0,anchor),(pairLesson d 0 1,follower)] ∧
      KeptTogether (placedRecords firstPairLate twoDoubles.legal) anchor follower :=
  keptTogether_of_sat (by decide +kernel) (by decide +kernel)

end EduPod.Scheduling
