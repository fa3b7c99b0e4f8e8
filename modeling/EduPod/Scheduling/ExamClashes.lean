import Mathlib
import EduPod.Scheduling.ExamSolver

/-! # Exams that overlap in time

The constraints keep a room, an invigilator and a year group from two exams of one slot of a day. The
answer has clock times, and whether it is free of clashes depends on the two windows as well.
-/
namespace EduPod.Scheduling.Exams
open Grouping LinearModel ExamVar
variable {input : ExamSolverInput} {v : ExamVar → ℤ} {exam exam' : ExamSolverExam × ℕ} {ds ds' : ℕ × ℕ}

def Overlap (a b : ExamSolverSlot) : Prop := a.date = b.date ∧ a.startTime < b.endTime ∧ b.startTime < a.endTime

instance (a b : ExamSolverSlot) : Decidable (Overlap a b) := inferInstanceAs (Decidable (_ ∧ _ ∧ _))

def YearGroupsApart (input : ExamSolverInput) (v : ExamVar → ℤ) : Prop :=
  (placedExams input v).Pairwise fun a b => Overlap a.2 b.2 → a.1.yearGroupId ≠ b.1.yearGroupId

structure NoClash (input : ExamSolverInput) (v : ExamVar → ℤ) : Prop where
  rooms : (placedExams input v).Pairwise fun a b => Overlap a.2 b.2 →
    ∀ roomId ∈ a.2.roomAssignments.map (·.roomId), roomId ∉ b.2.roomAssignments.map (·.roomId)
  invigilators : (placedExams input v).Pairwise fun a b => Overlap a.2 b.2 →
    ∀ invigilatorId ∈ a.2.invigilatorIds, invigilatorId ∉ b.2.invigilatorIds
  yearGroups : YearGroupsApart input v

/-- The times are those of a day, so that none wraps around when it is written. -/
def ExamSolverWindow.IsClock (window : ExamSolverWindow) : Prop := 0 ≤ window.start ∧ window.stop < 24 * 60

/-- No time is in both windows. -/
def WindowsApart (input : ExamSolverInput) : Prop :=
  input.morningWindow.stop ≤ input.afternoonWindow.start ∨ input.afternoonWindow.stop ≤ input.morningWindow.start

/-! ## What the constraints say -/

theorem mem_daySlots : ds ∈ daySlots input ↔ ds.1 < numDays input ∧ ds.2 < numSlots := by
  obtain ⟨d,s⟩ := ds
  simp [daySlots]

theorem bool_of_holds {x : ExamVar} (h : (boolVar x).Holds v) : v x = 0 ∨ v x = 1 := by
  simp only [boolVar,Constraint.Holds] at h
  omega

theorem lt_numExams (hexam : exam ∈ input.exams.zipIdx) : exam.2 < numExams input :=
  (List.getElem?_eq_some_iff.mp (List.mem_zipIdx_iff_getElem?.mp hexam)).1

theorem eq_of_snd_eq (hexam : exam ∈ input.exams.zipIdx) (hexam' : exam' ∈ input.exams.zipIdx) (h : exam.2 = exam'.2) :
    exam = exam' := by
  have hfst := List.mem_zipIdx_iff_getElem?.mp hexam
  have hfst' := List.mem_zipIdx_iff_getElem?.mp hexam'
  rw [h,hfst'] at hfst
  exact Prod.ext (Option.some.inj hfst).symm h

theorem nodup_exams : input.exams.zipIdx.Nodup := by
  refine List.Nodup.of_map Prod.snd ?_
  rw [List.zipIdx_map_snd]
  exact List.nodup_range'

/-- The sections of the model, each satisfied. -/
structure Satisfied (input : ExamSolverInput) (v : ExamVar → ℤ) : Prop where
  slots : ∀ exam ∈ input.exams.zipIdx, Sat v (slotVariables input exam)
  yearGroups : Sat v (yearGroupConstraints input)
  rooms : ∀ exam ∈ input.exams.zipIdx, Sat v (roomVariables input exam)
  roomBusy : Sat v (roomBusyConstraints input)
  invigilators : ∀ exam ∈ input.exams.zipIdx, Sat v (invigilatorVariables input exam)
  invigBusy : Sat v (invigBusyConstraints input)

theorem satisfied_of_sat (h : Sat v (examModel input)) : Satisfied input v := by
  simp only [examModel,sat_append,sat_flatMap] at h
  obtain ⟨⟨⟨⟨⟨⟨⟨⟨⟨hslots,-⟩,-⟩,hyear⟩,hrooms⟩,-⟩,hbusy⟩,hinvig⟩,hinvigBusy⟩,-⟩ := h
  exact ⟨hslots,hyear,hrooms,hbusy,hinvig,hinvigBusy⟩

namespace Satisfied

theorem slot_bool (h : Satisfied input v) (hexam : exam ∈ input.exams.zipIdx) (hds : ds ∈ daySlots input) :
    v (slotAssign exam.2 ds.1 ds.2) = 0 ∨ v (slotAssign exam.2 ds.1 ds.2) = 1 := by
  have hvars := sat_flatMap.mp (h.slots exam hexam) ds hds
  exact bool_of_holds (sat_cons.mp hvars).1

/-- An exam is only placed where its duration fits. -/
theorem fits (h : Satisfied input v) (hexam : exam ∈ input.exams.zipIdx) (hds : ds ∈ daySlots input)
    (hplaced : v (slotAssign exam.2 ds.1 ds.2) = 1) : input.geom.fits ds.2 exam.1.durationMinutes = true := by
  have hvars := (sat_cons.mp (sat_flatMap.mp (h.slots exam hexam) ds hds)).2
  cases hfits : input.geom.fits ds.2 exam.1.durationMinutes with
  | true => rfl
  | false =>
    rw [hfits] at hvars
    simp [isZero,Constraint.Holds] at hvars
    omega

theorem usesRoom_bool (h : Satisfied input v) (hexam : exam ∈ input.exams.zipIdx) {r : ℕ} (hr : r < numRooms input) :
    v (usesRoom exam.2 r) = 0 ∨ v (usesRoom exam.2 r) = 1 := by
  have hvars := sat_flatMap.mp (h.rooms exam hexam) r (List.mem_range.mpr hr)
  exact bool_of_holds (sat_cons.mp hvars).1

theorem invigAssign_bool (h : Satisfied input v) (hexam : exam ∈ input.exams.zipIdx) {i : ℕ}
    (hi : i < numInvig input) : v (invigAssign exam.2 i) = 0 ∨ v (invigAssign exam.2 i) = 1 := by
  have hrow := (sat_append.mp (h.invigilators exam hexam)).1
  rw [List.map_map] at hrow
  exact bool_of_holds (sat_map.mp hrow i (List.mem_range.mpr hi))

end Satisfied

theorem exists_exam {e : ℕ} (he : e < numExams input) : ∃ exam ∈ input.exams.zipIdx, exam.2 = e :=
  ⟨(input.exams[e],e),List.mem_zipIdx_iff_getElem?.mpr (List.getElem?_eq_getElem he),rfl⟩

/-- What is exclusive in a slot belongs to one exam there. -/
theorem eq_of_exclusive {busy placed has : ℕ → ExamVar} (h : Sat v (exclusive input busy placed has))
    (hplaced : ∀ e < numExams input, v (placed e) = 0 ∨ v (placed e) = 1)
    (hhas : ∀ e < numExams input, v (has e) = 0 ∨ v (has e) = 1) {e e' : ℕ} (he : e < numExams input)
    (he' : e' < numExams input) (hpe : v (placed e) = 1) (hpe' : v (placed e') = 1) (hhe : v (has e) = 1)
    (hhe' : v (has e') = 1) : e = e' := by
  obtain ⟨hproducts,hsum⟩ := sat_append.mp h
  have hbusy : ∀ e < numExams input, v (busy e) = v (placed e) * v (has e) := by
    intro e he
    exact (sat_product_iff (hplaced e he) (hhas e he)).mp (sat_flatMap.mp hproducts e (List.mem_range.mpr he))
  have hnonneg : ∀ e ∈ List.range (numExams input), 0 ≤ v (busy e) := by
    intro e he
    have hlt := List.mem_range.mp he
    rw [hbusy e hlt]
    rcases hplaced e hlt with hp | hp <;> rcases hhas e hlt with hh | hh <;> simp [hp,hh]
  have hle : ((List.range (numExams input)).map fun e => v (busy e)).sum ≤ 1 := by
    simpa [Constraint.Holds,Function.comp_def] using hsum
  refine eq_of_sum_le_one List.nodup_range hnonneg hle (List.mem_range.mpr he) (List.mem_range.mpr he') ?_ ?_
  · rw [hbusy e he,hpe,hhe,one_mul]
  · rw [hbusy e' he',hpe',hhe',one_mul]

namespace Satisfied

theorem slot_bool_of_lt (h : Satisfied input v) (hds : ds ∈ daySlots input) {e : ℕ} (he : e < numExams input) :
    v (slotAssign e ds.1 ds.2) = 0 ∨ v (slotAssign e ds.1 ds.2) = 1 := by
  obtain ⟨exam,hexam,rfl⟩ := exists_exam he
  exact h.slot_bool hexam hds

/-- Two exams in one slot of a day do not share a room. -/
theorem room_eq (h : Satisfied input v) (hds : ds ∈ daySlots input) (hexam : exam ∈ input.exams.zipIdx)
    (hexam' : exam' ∈ input.exams.zipIdx) (hplaced : v (slotAssign exam.2 ds.1 ds.2) = 1)
    (hplaced' : v (slotAssign exam'.2 ds.1 ds.2) = 1) {r : ℕ} (hr : r < numRooms input)
    (huses : v (usesRoom exam.2 r) = 1) (huses' : v (usesRoom exam'.2 r) = 1) : exam = exam' := by
  have hexclusive := sat_flatMap.mp (sat_flatMap.mp h.roomBusy ds hds) r (List.mem_range.mpr hr)
  refine eq_of_snd_eq hexam hexam' (eq_of_exclusive hexclusive (fun e he => h.slot_bool_of_lt hds he) ?_
    (lt_numExams hexam) (lt_numExams hexam') hplaced hplaced' huses huses')
  intro e he
  obtain ⟨other,hother,rfl⟩ := exists_exam he
  exact h.usesRoom_bool hother hr

/-- Nor an invigilator. -/
theorem invig_eq (h : Satisfied input v) (hds : ds ∈ daySlots input) (hexam : exam ∈ input.exams.zipIdx)
    (hexam' : exam' ∈ input.exams.zipIdx) (hplaced : v (slotAssign exam.2 ds.1 ds.2) = 1)
    (hplaced' : v (slotAssign exam'.2 ds.1 ds.2) = 1) {i : ℕ} (hi : i < numInvig input)
    (hhas : v (invigAssign exam.2 i) = 1) (hhas' : v (invigAssign exam'.2 i) = 1) : exam = exam' := by
  have hexclusive := sat_flatMap.mp (sat_flatMap.mp h.invigBusy ds hds) i (List.mem_range.mpr hi)
  refine eq_of_snd_eq hexam hexam' (eq_of_exclusive hexclusive (fun e he => h.slot_bool_of_lt hds he) ?_
    (lt_numExams hexam) (lt_numExams hexam') hplaced hplaced' hhas hhas')
  intro e he
  obtain ⟨other,hother,rfl⟩ := exists_exam he
  exact h.invigAssign_bool hother hi

/-- Nor are they of one year group. -/
theorem yearGroup_eq (h : Satisfied input v) (hds : ds ∈ daySlots input) (hexam : exam ∈ input.exams.zipIdx)
    (hexam' : exam' ∈ input.exams.zipIdx) (hplaced : v (slotAssign exam.2 ds.1 ds.2) = 1)
    (hplaced' : v (slotAssign exam'.2 ds.1 ds.2) = 1) (hyear : exam.1.yearGroupId = exam'.1.yearGroupId) :
    exam = exam' := by
  obtain ⟨hday,hslot⟩ := mem_daySlots.mp hds
  set members := input.exams.zipIdx.filter fun other => other.1.yearGroupId = exam.1.yearGroupId
  have hdays := (sat_append.mp (sat_flatMap.mp h.yearGroups _ (group_mem hexam))).1
  have hcaps := (sat_cons.mp (sat_flatMap.mp hdays ds.1 (List.mem_range.mpr hday))).2
  have hsum : (members.map fun other => v (slotAssign other.2 ds.1 ds.2)).sum ≤ 1 := by
    simpa [Constraint.Holds,Function.comp_def] using sat_map.mp hcaps ds.2 (List.mem_range.mpr hslot)
  have hnonneg : ∀ other ∈ members, 0 ≤ v (slotAssign other.2 ds.1 ds.2) := by
    intro other hother
    have hbool := h.slot_bool (List.mem_filter.mp hother).1 hds
    omega
  have hmem : exam ∈ members := List.mem_filter.mpr ⟨hexam,by simp⟩
  have hmem' : exam' ∈ members := List.mem_filter.mpr ⟨hexam',by simpa using hyear.symm⟩
  exact eq_of_sum_le_one (nodup_exams.filter _) hnonneg hsum hmem hmem' hplaced hplaced'

/-- With a gap to keep, an afternoon exam of a year group starts after the morning exam of its day has ended. -/
theorem gap_le (h : Satisfied input v) (hgap : 0 < input.minGapMinutes) {d : ℕ} (hd : d < numDays input)
    (hexam : exam ∈ input.exams.zipIdx) (hexam' : exam' ∈ input.exams.zipIdx) (hne : exam.2 ≠ exam'.2)
    (hyear : exam.1.yearGroupId = exam'.1.yearGroupId) (hmorning : v (slotAssign exam.2 d 0) = 1)
    (hafternoon : v (slotAssign exam'.2 d 1) = 1) :
    input.geom.morningStart + exam.1.durationMinutes + input.minGapMinutes ≤ input.geom.afternoonStart := by
  by_contra hclose
  have hgaps := (sat_append.mp (sat_flatMap.mp h.yearGroups _ (group_mem hexam))).2
  rw [if_pos hgap] at hgaps
  have hmember : exam ∈ input.exams.zipIdx.filter fun other => other.1.yearGroupId = exam.1.yearGroupId :=
    List.mem_filter.mpr ⟨hexam,by simp⟩
  have hmember' : exam' ∈ input.exams.zipIdx.filter fun other => other.1.yearGroupId = exam.1.yearGroupId :=
    List.mem_filter.mpr ⟨hexam',by simpa using hyear.symm⟩
  have hpairs := sat_flatMap.mp (sat_flatMap.mp hgaps d (List.mem_range.mpr hd)) exam hmember
  rw [if_neg (by omega)] at hpairs
  have hpair := sat_flatMap.mp hpairs exam' hmember'
  rw [if_neg hne.symm] at hpair
  simp [Constraint.Holds,hmorning,hafternoon] at hpair

end Satisfied

/-! ## What the answer shows -/

theorem chosen_spec {e : ℕ} (h : chosen input v e = some ds) :
    ds ∈ daySlots input ∧ v (slotAssign e ds.1 ds.2) = 1 :=
  ⟨List.mem_of_find?_eq_some h,by simpa using List.find?_some h⟩

theorem nodup_dates (input : ExamSolverInput) : input.dates.Nodup :=
  List.Nodup.filter _ List.nodup_range'

theorem day_eq (hds : ds ∈ daySlots input) (hds' : ds' ∈ daySlots input)
    (hdate : (outSlot input v exam ds).date = (outSlot input v exam' ds').date) : ds.1 = ds'.1 := by
  have hday : ds.1 < input.dates.length := (mem_daySlots.mp hds).1
  have hday' : ds'.1 < input.dates.length := (mem_daySlots.mp hds').1
  simp only [outSlot,List.getD_eq_getElem?_getD,List.getElem?_eq_getElem hday,List.getElem?_eq_getElem hday',
    Option.getD_some] at hdate
  exact (nodup_dates input).getElem_inj_iff.mp hdate

theorem fits_iff (slot durationMinutes : ℕ) : input.geom.fits slot durationMinutes = true ↔
    slot = 0 ∧ input.morningWindow.start + durationMinutes ≤ input.morningWindow.stop ∨
      slot ≠ 0 ∧ input.afternoonWindow.start + durationMinutes ≤ input.afternoonWindow.stop := by
  unfold SlotGeometry.fits ExamSolverInput.geom
  by_cases h : slot = 0 <;> simp [h]

theorem slotStart_eq (slot : ℕ) : input.geom.slotStart slot =
    if slot = 0 then input.morningWindow.start else input.afternoonWindow.start := rfl

theorem minutesToHhmm_of_clock {total : ℤ} (hpos : 0 ≤ total) (hlt : total < 24 * 60) : minutesToHhmm total = total := by
  unfold minutesToHhmm
  omega

/-- An exam that fits its window is shown with the times it has. -/
theorem outSlot_times (hmorning : input.morningWindow.IsClock) (hafternoon : input.afternoonWindow.IsClock)
    (hfits : input.geom.fits ds.2 exam.1.durationMinutes = true) :
    (outSlot input v exam ds).startTime = input.geom.slotStart ds.2 ∧
      (outSlot input v exam ds).endTime = input.geom.slotStart ds.2 + exam.1.durationMinutes := by
  obtain ⟨hm,hm'⟩ := hmorning
  obtain ⟨ha,ha'⟩ := hafternoon
  have hbounds : 0 ≤ input.geom.slotStart ds.2 ∧ input.geom.slotStart ds.2 + exam.1.durationMinutes < 24 * 60 := by
    rw [fits_iff] at hfits
    rw [slotStart_eq]
    split_ifs <;> omega
  exact ⟨minutesToHhmm_of_clock hbounds.1 (by omega),minutesToHhmm_of_clock (by omega) hbounds.2⟩

/-- Exams of windows that are apart only overlap in the same one. -/
theorem slot_eq_of_apart (hapart : WindowsApart input) (hds : ds ∈ daySlots input) (hds' : ds' ∈ daySlots input)
    (hfits : input.geom.fits ds.2 exam.1.durationMinutes = true)
    (hfits' : input.geom.fits ds'.2 exam'.1.durationMinutes = true)
    (hstart : input.geom.slotStart ds.2 < input.geom.slotStart ds'.2 + exam'.1.durationMinutes)
    (hstart' : input.geom.slotStart ds'.2 < input.geom.slotStart ds.2 + exam.1.durationMinutes) : ds.2 = ds'.2 := by
  have hslot := (mem_daySlots.mp hds).2
  have hslot' := (mem_daySlots.mp hds').2
  unfold numSlots at hslot hslot'
  unfold WindowsApart at hapart
  rw [fits_iff] at hfits hfits'
  rw [slotStart_eq,slotStart_eq] at hstart hstart'
  split_ifs at hstart hstart' <;> omega

theorem mem_roomAssignments {r : String} (h : r ∈ (outSlot input v exam ds).roomAssignments.map (·.roomId)) :
    ∃ room ∈ input.rooms.zipIdx, v (usesRoom exam.2 room.2) = 1 ∧ room.1.roomId = r := by
  simp only [outSlot,assignRoomsToExam] at h
  split at h
  · rw [List.map_map] at h
    obtain ⟨p,hp,rfl⟩ := List.mem_map.mp h
    have hpicked := (List.perm_insertionSort _ _).subset (Pouring.mem_of_mem_pour hp)
    obtain ⟨room,hroom,hroom'⟩ := List.mem_map.mp hpicked
    obtain ⟨hmem,huses⟩ := List.mem_filter.mp hroom
    exact ⟨room,hmem,by simpa using huses,by rw [hroom']; rfl⟩
  · cases h

theorem mem_invigilatorIds {i : String} (h : i ∈ (outSlot input v exam ds).invigilatorIds) :
    ∃ invig ∈ input.invigilators.zipIdx, v (invigAssign exam.2 invig.2) = 1 ∧ invig.1 = i := by
  obtain ⟨invig,hinvig,rfl⟩ := List.mem_map.mp h
  obtain ⟨hmem,hhas⟩ := List.mem_filter.mp hinvig
  exact ⟨invig,hmem,by simpa using hhas,rfl⟩

/-- Entries with distinct keys are known by their key. -/
theorem eq_of_key_eq {α : Type} {key : α → String} {xs : List α} (hnodup : (xs.map key).Nodup) {a b : α × ℕ}
    (ha : a ∈ xs.zipIdx) (hb : b ∈ xs.zipIdx) (h : key a.1 = key b.1) : a = b := by
  have hkeys : (xs.zipIdx.map fun x => key x.1).Nodup := by
    have hmap : (xs.zipIdx.map Prod.fst).map key = xs.zipIdx.map fun x => key x.1 := List.map_map
    rwa [← hmap,List.zipIdx_map_fst]
  exact List.inj_on_of_nodup_map hkeys ha hb h

/-- What holds of any two exams and the slots they are put in holds of the answer. -/
theorem pairwise_placedExams {R : ExamSolverExam × ExamSolverSlot → ExamSolverExam × ExamSolverSlot → Prop}
    (hR : ∀ exam ∈ input.exams.zipIdx, ∀ exam' ∈ input.exams.zipIdx, exam ≠ exam' → ∀ ds ds',
      chosen input v exam.2 = some ds → chosen input v exam'.2 = some ds' →
      R (exam.1,outSlot input v exam ds) (exam'.1,outSlot input v exam' ds')) : (placedExams input v).Pairwise R := by
  unfold placedExams
  rw [List.pairwise_filterMap]
  refine nodup_exams.pairwise_of_forall_ne fun exam hexam exam' hexam' hne => ?_
  intro out hout out' hout'
  obtain ⟨ds,hds,rfl⟩ := Option.map_eq_some_iff.mp hout
  obtain ⟨ds',hds',rfl⟩ := Option.map_eq_some_iff.mp hout'
  exact hR exam hexam exam' hexam' hne ds ds' hds hds'

/-- Exams that overlap in windows that are apart are in one slot of one day. -/
theorem slot_eq (h : Satisfied input v) (hmorning : input.morningWindow.IsClock)
    (hafternoon : input.afternoonWindow.IsClock) (hapart : WindowsApart input) (hexam : exam ∈ input.exams.zipIdx)
    (hexam' : exam' ∈ input.exams.zipIdx) (hds : chosen input v exam.2 = some ds)
    (hds' : chosen input v exam'.2 = some ds')
    (hoverlap : Overlap (outSlot input v exam ds) (outSlot input v exam' ds')) : ds = ds' := by
  obtain ⟨hmem,hplaced⟩ := chosen_spec hds
  obtain ⟨hmem',hplaced'⟩ := chosen_spec hds'
  have hfits := h.fits hexam hmem hplaced
  have hfits' := h.fits hexam' hmem' hplaced'
  obtain ⟨hdate,hstart,hstart'⟩ := hoverlap
  obtain ⟨hs,he⟩ := outSlot_times hmorning hafternoon hfits
  obtain ⟨hs',he'⟩ := outSlot_times hmorning hafternoon hfits'
  rw [hs,he'] at hstart
  rw [hs',he] at hstart'
  exact Prod.ext (day_eq hmem hmem' hdate) (slot_eq_of_apart hapart hmem hmem' hfits hfits' hstart hstart')

/-- Two exams of a year group with a gap to keep do not overlap, whatever the windows. -/
theorem not_overlap_of_gap (h : Satisfied input v) (hmorning : input.morningWindow.IsClock)
    (hafternoon : input.afternoonWindow.IsClock) (hgap : 0 < input.minGapMinutes) (hexam : exam ∈ input.exams.zipIdx)
    (hexam' : exam' ∈ input.exams.zipIdx) (hne : exam ≠ exam') (hds : chosen input v exam.2 = some ds)
    (hds' : chosen input v exam'.2 = some ds') (hyear : exam.1.yearGroupId = exam'.1.yearGroupId) :
    ¬ Overlap (outSlot input v exam ds) (outSlot input v exam' ds') := by
  rintro ⟨hdate,hstart,hstart'⟩
  obtain ⟨hmem,hplaced⟩ := chosen_spec hds
  obtain ⟨hmem',hplaced'⟩ := chosen_spec hds'
  have htimes := outSlot_times (v := v) hmorning hafternoon (h.fits hexam hmem hplaced)
  have htimes' := outSlot_times (v := v) hmorning hafternoon (h.fits hexam' hmem' hplaced')
  rw [htimes.1,htimes'.2] at hstart
  rw [htimes'.1,htimes.2] at hstart'
  have hday := day_eq hmem hmem' hdate
  have hsame : ds.2 ≠ ds'.2 := by
    intro hslot
    obtain rfl : ds = ds' := Prod.ext hday hslot
    exact hne (h.yearGroup_eq hmem hexam hexam' hplaced hplaced' hyear)
  obtain ⟨hd,hslot⟩ := mem_daySlots.mp hmem
  have hslot' := (mem_daySlots.mp hmem').2
  have hpair : ds.2 = 0 ∧ ds'.2 = 1 ∨ ds.2 = 1 ∧ ds'.2 = 0 := by
    unfold numSlots at hslot hslot'
    omega
  have hne' : exam.2 ≠ exam'.2 := fun heq => hne (eq_of_snd_eq hexam hexam' heq)
  have hfirst : input.geom.slotStart 0 = input.geom.morningStart := rfl
  have hsecond : input.geom.slotStart 1 = input.geom.afternoonStart := rfl
  rcases hpair with ⟨hzero,hone⟩ | ⟨hone,hzero⟩
  · rw [hzero] at hplaced hstart hstart'
    rw [hone,← hday] at hplaced'
    rw [hone] at hstart hstart'
    have hgaps := h.gap_le hgap hd hexam hexam' hne' hyear hplaced hplaced'
    rw [hsecond,hfirst] at hstart'
    omega
  · rw [hone] at hplaced hstart hstart'
    rw [hzero,← hday] at hplaced'
    rw [hzero] at hstart hstart'
    have hgaps := h.gap_le hgap hd hexam' hexam hne'.symm hyear.symm hplaced' hplaced
    rw [hsecond,hfirst] at hstart
    omega

/-- If the windows are apart, no two exams that overlap share a room, an invigilator or a year group; if a gap is to
be kept, no two of a year group overlap in any case. -/
theorem noClash (h : Sat v (examModel input)) (hmorning : input.morningWindow.IsClock)
    (hafternoon : input.afternoonWindow.IsClock) (hrooms : (input.rooms.map (·.roomId)).Nodup)
    (hinvigilators : input.invigilators.Nodup) :
    (WindowsApart input → NoClash input v) ∧ (0 < input.minGapMinutes → YearGroupsApart input v) := by
  have hsat := satisfied_of_sat h
  constructor
  · intro hapart
    constructor
    · refine pairwise_placedExams fun exam hexam exam' hexam' hne ds ds' hds hds' hoverlap r hr hr' => ?_
      obtain rfl := slot_eq hsat hmorning hafternoon hapart hexam hexam' hds hds' hoverlap
      obtain ⟨room,hroom,huses,hid⟩ := mem_roomAssignments hr
      obtain ⟨room',hroom',huses',hid'⟩ := mem_roomAssignments hr'
      obtain rfl := eq_of_key_eq hrooms hroom hroom' (hid.trans hid'.symm)
      have hlt := (List.getElem?_eq_some_iff.mp (List.mem_zipIdx_iff_getElem?.mp hroom)).1
      exact hne (hsat.room_eq (chosen_spec hds).1 hexam hexam' (chosen_spec hds).2 (chosen_spec hds').2 hlt huses huses')
    · refine pairwise_placedExams fun exam hexam exam' hexam' hne ds ds' hds hds' hoverlap i hi hi' => ?_
      obtain rfl := slot_eq hsat hmorning hafternoon hapart hexam hexam' hds hds' hoverlap
      obtain ⟨invig,hinvig,hhas,hid⟩ := mem_invigilatorIds hi
      obtain ⟨invig',hinvig',hhas',hid'⟩ := mem_invigilatorIds hi'
      have hnodup : (input.invigilators.map id).Nodup := by rwa [List.map_id]
      obtain rfl := eq_of_key_eq hnodup hinvig hinvig' (hid.trans hid'.symm)
      have hlt := (List.getElem?_eq_some_iff.mp (List.mem_zipIdx_iff_getElem?.mp hinvig)).1
      exact hne (hsat.invig_eq (chosen_spec hds).1 hexam hexam' (chosen_spec hds).2 (chosen_spec hds').2 hlt hhas hhas')
    · refine pairwise_placedExams fun exam hexam exam' hexam' hne ds ds' hds hds' hoverlap hyear => ?_
      obtain rfl := slot_eq hsat hmorning hafternoon hapart hexam hexam' hds hds' hoverlap
      exact hne (hsat.yearGroup_eq (chosen_spec hds).1 hexam hexam' (chosen_spec hds).2 (chosen_spec hds').2 hyear)
  · intro hgap
    refine pairwise_placedExams fun exam hexam exam' hexam' hne ds ds' hds hds' hoverlap hyear => ?_
    exact not_overlap_of_gap hsat hmorning hafternoon hgap hexam hexam' hne hds hds' hyear hoverlap

/-! ## Windows that overlap -/

theorem weekdays_monday : 1 ≤ [(1 : ℤ)].length ∧ [(1 : ℤ)].length ≤ 7 := by decide

theorem exams_two : 1 ≤ 2 ∧ 2 ≤ 10 := by decide

def longExam : ExamSolverExam := ⟨"maths","year 6",1,240,20,1,.inPerson,by decide,by decide,by decide⟩

def shortExam : ExamSolverExam := ⟨"english","year 6",1,60,20,1,.inPerson,by decide,by decide,by decide⟩

/-- Two exams on a Monday with one room and one invigilator; the morning lasts from nine to one. -/
def oneMonday (afternoonStart : ℤ) : ExamSolverInput where
  startDate := 1
  endDate := 1
  allowedWeekdays := [1]
  morningWindow := ⟨540,780⟩
  afternoonWindow := ⟨afternoonStart,960⟩
  minGapMinutes := 0
  maxExamsPerDayPerYg := 2
  exams := [longExam,shortExam]
  rooms := [⟨"hall",30,by decide⟩]
  invigilators := ["teacher"]
  weekdays_length := weekdays_monday
  gap_le := Nat.zero_le _
  exams_mem := exams_two

/-- The long exam in the morning and the short one in the afternoon. -/
def longThenShort : ExamVar → ℤ
  | slotAssign 0 0 0 | slotAssign 1 0 1 => 1
  | usesRoom _ 0 | invigAssign _ 0 => 1
  | roomBusy 0 0 0 0 | roomBusy 1 0 1 0 => 1
  | invigBusy 0 0 0 0 | invigBusy 1 0 1 0 => 1
  | load 0 | loadMax | loadMin => 2
  | _ => 0

theorem noClash_oneMonday : (WindowsApart (oneMonday 780) → NoClash (oneMonday 780) longThenShort) ∧
    (0 < (oneMonday 780).minGapMinutes → YearGroupsApart (oneMonday 780) longThenShort) :=
  noClash (by decide +kernel) (by unfold ExamSolverWindow.IsClock; decide) (by unfold ExamSolverWindow.IsClock; decide)
    (by decide) (by decide)

/-- With an afternoon from noon on, the two exams share the room and the invigilator for an hour. -/
theorem not_noClash_oneMonday : ¬ ∀ (input : ExamSolverInput) (v : ExamVar → ℤ), Sat v (examModel input) →
    NoClash input v := by
  intro h
  have hclash := h (oneMonday 720) longThenShort (by decide +kernel)
  exact absurd hclash.rooms (by decide +kernel)

end EduPod.Scheduling.Exams
