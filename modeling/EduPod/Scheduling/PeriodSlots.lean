import Mathlib
import EduPod.Scheduling.Assembly

/-! # The grid of a year group

The year group's own rows, and the school's default rows of the cells it leaves open. A cell is a weekday and a
period order, so a default row may lie across the clock times of the year group's own rows.
-/
namespace EduPod.Scheduling

/-- The two rows do not meet. Clock times are texts `HH:mm`, whose order is that of the times. -/
def Apart (a b : PeriodSlotV2) : Prop :=
  a.weekday = b.weekday → a.endTime ≤ b.startTime ∨ b.endTime ≤ a.startTime

instance : DecidableRel Apart := fun _ _ => inferInstanceAs (Decidable (_ → _))

def weekCell (slot : PeriodSlotV2) : Fin 7 × ℕ := (slot.weekday,slot.periodOrder)

/-- Rows that are apart, at most one a cell. -/
structure ProperGrid (rows : List PeriodSlotV2) : Prop where
  apart : rows.Pairwise Apart
  cells : (rows.map weekCell).Nodup

instance (rows : List PeriodSlotV2) : Decidable (ProperGrid rows) :=
  decidable_of_iff (rows.Pairwise Apart ∧ (rows.map weekCell).Nodup) ⟨fun ⟨ha,hc⟩ => ⟨ha,hc⟩,fun ⟨ha,hc⟩ => ⟨ha,hc⟩⟩

/-- The rows of a year group, or those of the school for `none`. -/
def gridOf (periodTemplates : List PeriodTemplate) (owner : Option String) : List PeriodSlotV2 :=
  (periodTemplates.filter fun pt => pt.yearGroupId = owner).map (·.slot)

def slotsOf (slots : List PeriodSlotV3) (yearGroupId : String) : List PeriodSlotV2 :=
  (slots.filter fun s => s.yearGroupId = yearGroupId).map (·.slot)

/-- The default rows that fill the cells a year group leaves open. -/
def openDefaults (periodTemplates : List PeriodTemplate) (yearGroupId : String) : List PeriodSlotV2 :=
  (gridOf periodTemplates none).filter fun slot =>
    !((gridOf periodTemplates (some yearGroupId)).map weekCell).contains (weekCell slot)

/-- Each year group has a proper grid with all its own rows in it, and the slots are numbered through. -/
structure ProperSlots (yearGroups : List YearGroupWithClasses) (periodTemplates : List PeriodTemplate)
    (slots : List PeriodSlotV3) : Prop where
  proper : ∀ yg ∈ yearGroups, ProperGrid (slotsOf slots yg.id)
  own : ∀ yg ∈ yearGroups, gridOf periodTemplates (some yg.id) ⊆ slotsOf slots yg.id
  numbered : slots.map (·.index) = List.range slots.length

section
variable {yearGroups : List YearGroupWithClasses} {periodTemplates : List PeriodTemplate}

theorem templatesFor_eq (periodTemplates : List PeriodTemplate) (yearGroupId : String) :
    templatesFor periodTemplates yearGroupId =
      gridOf periodTemplates (some yearGroupId) ++ openDefaults periodTemplates yearGroupId := rfl

theorem map_index_buildPeriodSlots : (buildPeriodSlots yearGroups periodTemplates).map (·.index) =
    List.range (buildPeriodSlots yearGroups periodTemplates).length := by
  rw [buildPeriodSlots,List.map_map,List.length_map,List.length_zipIdx,List.range_eq_range']
  exact List.zipIdx_map_snd 0 _

/-- Picking the rows of one key out of the rows of all keys. -/
theorem filter_flatMap_key {α β κ : Type*} [DecidableEq κ] (key : α → κ) (rows : κ → List β) {xs : List α}
    (hnodup : (xs.map key).Nodup) {x : α} (hx : x ∈ xs) :
    ((xs.flatMap fun y => (rows (key y)).map (Prod.mk (key y))).filter fun r => r.1 = key x).map Prod.snd =
      rows (key x) := by
  have hown : ∀ y, (((rows (key y)).map (Prod.mk (key y))).filter fun r => r.1 = key x).map Prod.snd =
      if key y = key x then rows (key x) else [] := by
    intro y
    rw [List.filter_map,List.map_map]
    split
    · rename_i heq
      rw [heq,List.filter_eq_self.mpr (by simp)]
      exact List.map_id _
    · rename_i hne
      rw [List.filter_eq_nil_iff.mpr (by simp [hne])]
      rfl
  rw [List.filter_flatMap,List.map_flatMap]
  simp only [hown]
  induction xs with
  | nil => cases hx
  | cons y xs ih =>
    obtain ⟨hnot,hrest⟩ := List.nodup_cons.mp hnodup
    rw [List.flatMap_cons]
    rcases List.mem_cons.mp hx with rfl | hmem
    · have hnone : ∀ z ∈ xs, (if key z = key x then rows (key x) else []) = [] := by
        intro z hz
        exact if_neg fun heq : key z = key x => hnot (heq ▸ List.mem_map_of_mem hz)
      rw [if_pos rfl,List.flatMap_eq_nil_iff.mpr hnone,List.append_nil]
    · have hne : key y ≠ key x := fun heq => hnot (heq ▸ List.mem_map_of_mem hmem)
      rw [if_neg hne,List.nil_append,ih hrest hmem]

theorem slotsOf_buildPeriodSlots (hids : (yearGroups.map (·.id)).Nodup) {yg : YearGroupWithClasses}
    (hyg : yg ∈ yearGroups) :
    slotsOf (buildPeriodSlots yearGroups periodTemplates) yg.id = templatesFor periodTemplates yg.id := by
  rw [slotsOf,buildPeriodSlots,List.filter_map,List.map_map]
  change ((((yearGroups.flatMap fun yg => (templatesFor periodTemplates yg.id).map fun slot => (yg.id,slot)).zipIdx).filter
    ((fun r : String × PeriodSlotV2 => decide (r.1 = yg.id)) ∘ Prod.fst)).map (Prod.snd ∘ Prod.fst)) = _
  rw [← List.map_map,← List.filter_map,List.zipIdx_map_fst]
  exact filter_flatMap_key (·.id) (templatesFor periodTemplates) hids hyg

/-- Cells apart, all that can go wrong is an open default row across an own row. -/
theorem properGrid_templatesFor_iff (hgrids : ∀ owner, ProperGrid (gridOf periodTemplates owner))
    (yearGroupId : String) : ProperGrid (templatesFor periodTemplates yearGroupId) ↔
      ∀ own ∈ gridOf periodTemplates (some yearGroupId), ∀ d ∈ openDefaults periodTemplates yearGroupId,
        Apart own d := by
  have hsublist : (openDefaults periodTemplates yearGroupId).Sublist (gridOf periodTemplates none) :=
    List.filter_sublist
  rw [templatesFor_eq]
  constructor
  · rintro ⟨hapart,-⟩
    exact (List.pairwise_append.mp hapart).2.2
  · intro hcross
    refine ⟨List.pairwise_append.mpr ⟨(hgrids _).apart,(hgrids none).apart.sublist hsublist,hcross⟩,?_⟩
    rw [List.map_append]
    refine List.nodup_append.mpr ⟨(hgrids _).cells,(hgrids none).cells.sublist (hsublist.map _),?_⟩
    rintro c hown _ hopen rfl
    obtain ⟨d,hd,rfl⟩ := List.mem_map.mp hopen
    have hnot := (List.mem_filter.mp hd).2
    rw [Bool.not_eq_true',List.contains_eq_mem,decide_eq_false_iff_not] at hnot
    exact hnot hown

/-- The slots are proper just when no open default row lies across a row of the year group. -/
theorem properSlots_iff (hids : (yearGroups.map (·.id)).Nodup)
    (hgrids : ∀ owner, ProperGrid (gridOf periodTemplates owner)) :
    ProperSlots yearGroups periodTemplates (buildPeriodSlots yearGroups periodTemplates) ↔
      ∀ yg ∈ yearGroups, ∀ own ∈ gridOf periodTemplates (some yg.id), ∀ d ∈ openDefaults periodTemplates yg.id,
        Apart own d := by
  constructor
  · intro h yg hyg
    have hproper := h.proper yg hyg
    rw [slotsOf_buildPeriodSlots hids hyg] at hproper
    exact (properGrid_templatesFor_iff hgrids yg.id).mp hproper
  · intro h
    refine ⟨fun yg hyg => ?_,fun yg hyg => ?_,map_index_buildPeriodSlots⟩
    · rw [slotsOf_buildPeriodSlots hids hyg]
      exact (properGrid_templatesFor_iff hgrids yg.id).mpr (h yg hyg)
    · rw [slotsOf_buildPeriodSlots hids hyg,templatesFor_eq]
      exact List.subset_append_left _ _

end

/-- One long period of the year group, and two periods of the school. -/
def longFirstPeriod : List PeriodTemplate :=
  [⟨some "Y1",secondDay,1,"08:00","09:30",.teaching,.none,none⟩,
    ⟨none,secondDay,1,"08:00","09:00",.teaching,.none,none⟩,⟨none,secondDay,2,"09:00","10:00",.teaching,.none,none⟩]

/-- The owners of rows are those that the rows name. -/
theorem properGrid_of_owners {periodTemplates : List PeriodTemplate}
    (h : ∀ pt ∈ periodTemplates, ProperGrid (gridOf periodTemplates pt.yearGroupId)) (owner : Option String) :
    ProperGrid (gridOf periodTemplates owner) := by
  by_cases howner : ∃ pt ∈ periodTemplates, pt.yearGroupId = owner
  · obtain ⟨pt,hpt,rfl⟩ := howner
    exact h pt hpt
  · have hnone : gridOf periodTemplates owner = [] := by
      rw [gridOf,List.filter_eq_nil_iff.mpr fun pt hpt heq => howner ⟨pt,hpt,of_decide_eq_true heq⟩]
      rfl
    rw [hnone]
    exact ⟨List.Pairwise.nil,List.nodup_nil⟩

theorem properSlots_iff_defaults : ProperSlots [⟨"Y2",[]⟩] longFirstPeriod
    (buildPeriodSlots [⟨"Y2",[]⟩] longFirstPeriod) :=
  (properSlots_iff (by decide) (properGrid_of_owners (by decide))).mpr (by decide)

/-- The second default period begins half an hour before the year group's first one ends. -/
theorem not_properSlots : ¬∀ (yearGroups : List YearGroupWithClasses) (periodTemplates : List PeriodTemplate),
    (yearGroups.map (·.id)).Nodup → (∀ owner, ProperGrid (gridOf periodTemplates owner)) →
      ProperSlots yearGroups periodTemplates (buildPeriodSlots yearGroups periodTemplates) := by
  intro h
  have hproper := (h [⟨"Y1",[]⟩] longFirstPeriod (by decide) (properGrid_of_owners (by decide))).proper _
    List.mem_cons_self
  exact absurd hproper (by decide)

end EduPod.Scheduling
