import EduPod.Scheduling.Pruning
import EduPod.Scheduling.ModelFacts

/-! # No teacher in two places at once

The model keeps the uses of a teacher apart by time group. On aligned grids that keeps
them apart by the clock.
-/
namespace EduPod.Scheduling
open LinearModel

/-- One teacher has two entries that overlap, not both of them pinned. -/
def TeacherClash (a b : SolverAssignmentV2) : Prop :=
  (∃ id, a.teacherStaffId = some id ∧ b.teacherStaffId = some id) ∧ a.weekday = b.weekday ∧
    timesOverlap a.startTime a.endTime b.startTime b.endTime = true ∧ ¬(a.isPinned = true ∧ b.isPinned = true)

def NoTeacherClash (entries : List SolverAssignmentV2) : Prop := entries.Pairwise fun a b => ¬TeacherClash a b

/-- The entry has the teacher of an index in a slot. -/
structure Shows (input : SolverInputV2) (teacherIdx : ℕ) (s : PhysicalSlot) (e : SolverAssignmentV2) : Prop where
  teacher : ∃ t, input.teachers[teacherIdx]? = some t ∧ e.teacherStaffId = some t.staffProfileId
  weekday : e.weekday = s.weekday
  startTime : e.startTime = s.startTime
  endTime : e.endTime = s.endTime

section
variable {input : SolverInputV2} {v : Var → ℤ}

/-! ## Which cells the entries are in -/

theorem shows_lessonEntry {la : Indexed} (h : la ∈ input.legal.zipIdx) (rooms : List (ℕ × Option String)) :
    Shows input la.1.teacherIdx la.1.slot (lessonEntry rooms la) :=
  ⟨⟨la.1.teacher,(wellFormed_of_zipIdx h).teacher,rfl⟩,rfl,rfl,rfl⟩

theorem occupiable_of_legal {la : Indexed} (h : la ∈ input.legal.zipIdx) :
    la.1.slot ∈ input.slots ∧ la.1.slot.Occupiable := by
  obtain ⟨hs,ht,-⟩ := mem_teachingSlots.mp (wellFormed_of_zipIdx h).slot
  exact ⟨hs,Or.inl ht⟩

theorem occupiable_of_duty {e : (ℕ × ℕ) × Var} (h : e ∈ supervisionVars input input.slots) {s : PhysicalSlot}
    (hs : input.slots.find? (fun s => s.slotId = e.1.1) = some s) : s ∈ input.slots ∧ s.Occupiable := by
  have hmem := List.mem_of_find?_eq_some hs
  have hid : s.slotId = e.1.1 := by simpa using List.find?_some hs
  obtain ⟨bg,-,s',hs',t,-,-,rfl⟩ := mem_supervisionVars h
  obtain ⟨hs',hprop⟩ := List.mem_filter.mp hs'
  obtain rfl := eq_of_slotId_eq hmem hs' hid
  rw [Bool.and_eq_true,decide_eq_true_eq,decide_eq_true_eq] at hprop
  exact ⟨hmem,Or.inr ⟨by simp [PhysicalSlot.isYard,hprop.2],by simp [hprop.1]⟩⟩

theorem dutyOf_eq_some {e : (ℕ × ℕ) × Var} {d : PhysicalSlot × TeacherInputV2}
    (h : dutyOf input input.slots e = some d) :
    input.slots.find? (fun s => s.slotId = e.1.1) = some d.1 ∧ input.teachers[e.1.2]? = some d.2 := by
  obtain ⟨s,hs,h⟩ := Option.bind_eq_some_iff.mp h
  obtain ⟨t,ht,rfl⟩ := Option.map_eq_some_iff.mp h
  exact ⟨hs,ht⟩

theorem shows_supervisionEntry {k : ℕ} {d : PhysicalSlot × TeacherInputV2} (ht : input.teachers[k]? = some d.2) :
    Shows input k d.1 (supervisionEntry d.1 d.2) := ⟨⟨d.2,ht,rfl⟩,rfl,rfl,rfl⟩

/-! ## Two entries apart by time group are apart by the clock -/

theorem Shows.overlap {k k' : ℕ} {s s' : PhysicalSlot} {e e' : SolverAssignmentV2} (h : Shows input k s e)
    (h' : Shows input k' s' e') (hc : TeacherClash e e') : slotsOverlap s s' = true := by
  obtain ⟨-,hw,hov,-⟩ := hc
  rw [h.weekday,h'.weekday] at hw
  rw [h.startTime,h.endTime,h'.startTime,h'.endTime] at hov
  simp [slotsOverlap,hw,hov]

theorem Shows.teacherIdx_eq (hd : DistinctStaff input) {k k' : ℕ} {s s' : PhysicalSlot} {e e' : SolverAssignmentV2}
    (h : Shows input k s e) (h' : Shows input k' s' e') (hc : TeacherClash e e') : k = k' := by
  obtain ⟨⟨id,ha,hb⟩,-⟩ := hc
  obtain ⟨t,ht,he⟩ := h.teacher
  obtain ⟨t',ht',he'⟩ := h'.teacher
  rw [he] at ha
  rw [he'] at hb
  exact hd.idx_eq ht ht' ((Option.some.inj ha).trans (Option.some.inj hb).symm)

/-- Two filled cells of one teacher in different time groups do not clash. -/
theorem not_clash_of_key_ne (hd : DistinctStaff input) (ha : Aligned input.yearGroups) {k k' : ℕ}
    {s s' : PhysicalSlot} {e e' : SolverAssignmentV2} (h : Shows input k s e) (h' : Shows input k' s' e')
    (hs : s ∈ input.slots ∧ s.Occupiable) (hs' : s' ∈ input.slots ∧ s'.Occupiable)
    (hne : (k,s.timeGroupId) ≠ (k',s'.timeGroupId)) : ¬TeacherClash e e' := by
  intro hc
  refine hne (Prod.ext (h.teacherIdx_eq hd h' hc) ?_)
  exact ha.timeGroupId_eq hs.1 hs'.1 hs.2 (Or.inl hs'.2) (h.overlap h' hc)

/-- A filled cell of a teacher without pinned load in its time group does not clash with a pin. -/
theorem not_clash_pin (hd : DistinctStaff input) (ha : Aligned input.yearGroups) {k : ℕ} {s : PhysicalSlot}
    {e : SolverAssignmentV2} {p : PinnedEntryV2 × PhysicalSlot} (hp : p ∈ resolvedPins input input.slots)
    (h : Shows input k s e) (hs : s ∈ input.slots ∧ s.Occupiable)
    (hload : teacherTg input input.slots k s.timeGroupId = 0) : ¬TeacherClash (pinEntry p) e := by
  intro hc
  have hpin := (mem_resolvedPins.mp hp).2
  obtain ⟨hmem,hweek,-⟩ := mem_of_resolvePin hpin
  obtain ⟨⟨id,hid,hid'⟩,hw,hov,-⟩ := hc
  obtain ⟨t,ht,he⟩ := h.teacher
  have hk : pinTeacher input p.1 = some k := by
    rw [he] at hid'
    rw [pinTeacher,show p.1.teacherStaffId = some t.staffProfileId from hid.trans hid'.symm]
    exact hd.teacherIdToIdx_eq ht
  have hoverlap : slotsOverlap p.2 s = true := by
    rw [h.weekday,show (pinEntry p).weekday = p.1.weekday from rfl,← hweek] at hw
    rw [h.startTime,h.endTime] at hov
    simp only [slotsOverlap,hw,decide_true,Bool.true_and]
    exact hov
  have htg : s.timeGroupId = p.2.timeGroupId :=
    ha.timeGroupId_eq hs.1 hmem hs.2 (Or.inr ⟨p.1,hpin⟩) (slotsOverlap_comm p.2 s ▸ hoverlap)
  have hno := List.countP_eq_zero.mp hload p hp
  exact hno (by simp [hk,htg])

/-! ## The whole schedule -/

/-- Every satisfying valuation keeps each teacher apart by the clock. -/
theorem noTeacherClash_of_aligned (hd : DistinctStaff input) (ha : Aligned input.yearGroups)
    (hsat : Sat v input.model) : NoTeacherClash (solutionEntries input v) := by
  obtain ⟨hA,-,-,-,-,-,hG,hH⟩ := sat_model_iff.mp hsat
  have hb := PlacementBool.of_sat hA
  obtain ⟨hkeys,hload⟩ := (sat_sectionH_iff (use_bool hb (supervision_bool hG))).mp hH
  rw [chosen_teacherUses] at hkeys hload
  rw [List.map_append,List.map_map,List.nodup_append] at hkeys
  obtain ⟨hlessons,hduties,hcross⟩ := hkeys
  have hlegal : ∀ la ∈ placedRecords v input.legal, la ∈ input.legal.zipIdx := fun la h => (mem_chosen.mp h).1
  -- the use behind a filled duty
  have hduty : ∀ e ∈ chosen v Prod.snd (supervisionVars input input.slots), ∀ s : PhysicalSlot,
      input.slots.find? (fun s => s.slotId = e.1.1) = some s → (⟨e.1.2,s.timeGroupId,e.2⟩ : TeacherUse) ∈
        (chosen v Prod.snd (supervisionVars input input.slots)).filterMap fun e =>
          (input.slots.find? fun s => s.slotId = e.1.1).map fun s => ⟨e.1.2,s.timeGroupId,e.2⟩ := by
    intro e he s hs
    exact List.mem_filterMap.mpr ⟨e,he,by rw [hs]; rfl⟩
  rw [NoTeacherClash,solutionEntries,scheduleEntries,pinnedToAssignments,filledDuties,List.map_filterMap,
    List.pairwise_append,List.pairwise_append]
  refine ⟨⟨?_,?_,?_⟩,?_,?_⟩
  · -- two pins
    refine List.pairwise_map.mpr (List.pairwise_of_forall fun p q => ?_)
    exact fun hc => hc.2.2.2 ⟨rfl,rfl⟩
  · -- two lessons
    refine List.pairwise_map.mpr ((List.pairwise_map.mp hlessons).imp_of_mem fun {a b} ha' hb' hne => ?_)
    exact not_clash_of_key_ne hd ha (shows_lessonEntry (hlegal a ha') _) (shows_lessonEntry (hlegal b hb') _)
      (occupiable_of_legal (hlegal a ha')) (occupiable_of_legal (hlegal b hb')) hne
  · -- a pin and a lesson
    intro x hx y hy
    obtain ⟨p,hp,rfl⟩ := List.mem_map.mp hx
    obtain ⟨la,hla,rfl⟩ := List.mem_map.mp hy
    exact not_clash_pin hd ha hp (shows_lessonEntry (hlegal la hla) _) (occupiable_of_legal (hlegal la hla))
      (hload _ (List.mem_append_left _ (List.mem_map_of_mem hla)))
  · -- two duties
    rw [List.pairwise_filterMap]
    rw [List.Nodup,List.pairwise_map,List.pairwise_filterMap] at hduties
    refine hduties.imp_of_mem fun {a b} ha' hb' hne => ?_
    intro x hx y hy
    obtain ⟨d,hda,rfl⟩ := Option.map_eq_some_iff.mp hx
    obtain ⟨d',hdb,rfl⟩ := Option.map_eq_some_iff.mp hy
    obtain ⟨hs,ht⟩ := dutyOf_eq_some hda
    obtain ⟨hs',ht'⟩ := dutyOf_eq_some hdb
    refine not_clash_of_key_ne hd ha (shows_supervisionEntry ht) (shows_supervisionEntry ht')
      (occupiable_of_duty (mem_chosen.mp ha').1 hs) (occupiable_of_duty (mem_chosen.mp hb').1 hs') ?_
    exact hne _ (by rw [hs]; rfl) _ (by rw [hs']; rfl)
  · -- a pin or a lesson, and a duty
    intro x hx y hy
    obtain ⟨e,he,hy⟩ := List.mem_filterMap.mp hy
    obtain ⟨d,hd',rfl⟩ := Option.map_eq_some_iff.mp hy
    obtain ⟨hs,ht⟩ := dutyOf_eq_some hd'
    have hocc := occupiable_of_duty (mem_chosen.mp he).1 hs
    rcases List.mem_append.mp hx with hx | hx
    · obtain ⟨p,hp,rfl⟩ := List.mem_map.mp hx
      exact not_clash_pin hd ha hp (shows_supervisionEntry ht) hocc
        (hload _ (List.mem_append_right _ (hduty e he d.1 hs)))
    · obtain ⟨la,hla,rfl⟩ := List.mem_map.mp hx
      refine not_clash_of_key_ne hd ha (shows_lessonEntry (hlegal la hla) _) (shows_supervisionEntry ht)
        (occupiable_of_legal (hlegal la hla)) hocc ?_
      exact hcross _ (List.mem_map_of_mem hla) _ (List.mem_map_of_mem (hduty e he d.1 hs))

end

end EduPod.Scheduling
