import EduPod.Foundation.Grouping
import EduPod.Scheduling.Assembly
import EduPod.Scheduling.DemandMet

/-! # What the assembled demand amounts to

Baselines, overrides and the curriculum matrix decide how many periods of a subject a class needs, and the
lessons built from the assembled input are these periods without the pinned ones.
-/
namespace EduPod.Scheduling
open Fallible

/-- The periods a week that a class of a year group is to have of a subject: by its override, else by its
year group if the matrix is not in use or assigns the pair. -/
def requiredPeriods (data : TenantData) (yearGroupId classId subjectId : String) : ℤ :=
  match data.classSubjectOverrides.find? fun ovr => ovr.classId = classId ∧ ovr.subjectId = subjectId with
  | some ovr => ovr.periodsPerWeek
  | none =>
    if data.classSubjectAssignments = [] ∨ data.classSubjectAssignments.contains (classId,subjectId) then
      ((data.curriculum.find? fun cr => cr.yearGroupId = yearGroupId ∧ cr.subjectId = subjectId).map
        (·.minPeriodsPerWeek)).getD 0
    else 0

def pinsOf (data : TenantData) (classId subjectId : String) : ℕ :=
  data.pinnedSchedules.countP fun pin => pin.classId = classId ∧ pin.subjectId = some subjectId

def DemandV3.key (d : DemandV3) : String × String := (d.classId,d.subjectId)

/-- At most one curriculum row a year group and subject, and one override a class and subject. -/
structure RowsOnce (data : TenantData) : Prop where
  curriculum : (data.curriculum.map fun cr => (cr.yearGroupId,cr.subjectId)).Nodup
  overrides : (data.classSubjectOverrides.map fun ovr => (ovr.classId,ovr.subjectId)).Nodup

/-- An override has no baseline, or another number of periods. -/
def Mismatched (data : TenantData) (ovr : ClassSubjectOverrideRow) : Prop :=
  ∀ cr ∈ data.curriculum, cr.yearGroupId = ovr.yearGroupId → cr.subjectId = ovr.subjectId →
    cr.minPeriodsPerWeek ≠ ovr.periodsPerWeek

section
variable {data : TenantData} {result : BuildDemandResult} {v3 : SolverInputV3} {yg : YearGroupWithClasses}
  {classId subjectId : String}

/-! ## Baselines and rejection -/

theorem baselineMap_get?_iff (h : RowsOnce data) {key : String × String} {cr : CurriculumRow} :
    (baselineMap data.curriculum).get? key = some cr ↔ cr ∈ data.curriculum ∧ (cr.yearGroupId,cr.subjectId) = key := by
  rw [baselineMap,UniqueIndex.get?_load_eq_some_iff]
  · constructor
    · intro hmem
      obtain ⟨row,hrow,he⟩ := List.mem_map.mp hmem
      obtain ⟨hkey,rfl⟩ := Prod.mk.inj he
      exact ⟨hrow,hkey⟩
    · rintro ⟨hrow,rfl⟩
      exact List.mem_map.mpr ⟨cr,hrow,rfl⟩
  · rw [List.map_map]
    exact h.curriculum

theorem isSome_strictViolation_iff (h : RowsOnce data) (ovr : ClassSubjectOverrideRow) :
    (strictViolation ((baselineMap data.curriculum).get? (ovr.yearGroupId,ovr.subjectId)) ovr).isSome ↔
      Mismatched data ovr := by
  cases hb : (baselineMap data.curriculum).get? (ovr.yearGroupId,ovr.subjectId) with
  | some baseline =>
    obtain ⟨hrow,hkey⟩ := (baselineMap_get?_iff h).mp hb
    obtain ⟨hyg,hsubject⟩ := Prod.mk.inj hkey
    rw [strictViolation]
    split
    · rename_i heq
      exact iff_of_false Bool.false_ne_true fun hm => hm baseline hrow hyg hsubject heq
    · rename_i hne
      refine iff_of_true rfl fun cr hcr hcyg hcsubject => ?_
      have hget := (baselineMap_get?_iff h).mpr ⟨hcr,show (cr.yearGroupId,cr.subjectId) = (ovr.yearGroupId,ovr.subjectId) by
        rw [hcyg,hcsubject]⟩
      obtain rfl := Option.some.inj (hb.symm.trans hget)
      exact hne
  | none =>
    refine iff_of_true rfl fun cr hcr hcyg hcsubject => ?_
    have hget := (baselineMap_get?_iff h).mpr ⟨hcr,show (cr.yearGroupId,cr.subjectId) = (ovr.yearGroupId,ovr.subjectId) by
      rw [hcyg,hcsubject]⟩
    cases hb.symm.trans hget

/-! ## The rows of the demand -/

/-- The matrix is not in use, or assigns the pair. -/
def Assigned (data : TenantData) (key : String × String) : Prop :=
  data.classSubjectAssignments = [] ∨ data.classSubjectAssignments.contains key

instance (key : String × String) : Decidable (Assigned data key) := inferInstanceAs (Decidable (_ ∨ _))

def overrideKeysOf (data : TenantData) : List (String × String) :=
  data.classSubjectOverrides.map fun ovr => (ovr.classId,ovr.subjectId)

/-- The classes that a curriculum row is fanned out to. -/
def fannedOut (data : TenantData) (cr : CurriculumRow) : List String :=
  (classesIn data.yearGroups cr.yearGroupId).filter fun classId =>
    (overrideKeysOf data).contains (classId,cr.subjectId) = false ∧ Assigned data (classId,cr.subjectId)

def demandRows (data : TenantData) : List DemandV3 :=
  (data.curriculum.flatMap fun cr => (fannedOut data cr).map (curriculumDemand cr)) ++
    data.classSubjectOverrides.map fun ovr =>
      overrideDemand ((baselineMap data.curriculum).get? (ovr.yearGroupId,ovr.subjectId)) ovr

abbrev TenantData.buildDemand (data : TenantData) : Except AssemblyError BuildDemandResult :=
  Scheduling.buildDemand data.yearGroups data.curriculum data.classSubjectOverrides data.classSubjectAssignments
    data.strictClassSubjectOverride

theorem isNone_violation_iff (h : RowsOnce data) (ovr : ClassSubjectOverrideRow) :
    (if data.strictClassSubjectOverride then
      strictViolation ((baselineMap data.curriculum).get? (ovr.yearGroupId,ovr.subjectId)) ovr else none) = none ↔
        (data.strictClassSubjectOverride = true → ¬ Mismatched data ovr) := by
  rw [← isSome_strictViolation_iff h]
  split
  · rename_i hstrict
    simp [hstrict]
  · rename_i hstrict
    simp [hstrict]

/-- Without a mismatch that counts, the demand has every override and every baseline that none of them replaces. -/
theorem buildDemand_eq (h : RowsOnce data)
    (hok : data.strictClassSubjectOverride = true → ∀ ovr ∈ data.classSubjectOverrides, ¬ Mismatched data ovr) :
    data.buildDemand = .ok ⟨demandRows data,data.classSubjectOverrides.map fun ovr =>
      ⟨ovr.classId,ovr.subjectId,((baselineMap data.curriculum).get? (ovr.yearGroupId,ovr.subjectId)).map
        (·.minPeriodsPerWeek),ovr.periodsPerWeek⟩⟩ := by
  have hnone : ∀ ovr ∈ data.classSubjectOverrides, (if data.strictClassSubjectOverride then
      strictViolation ((baselineMap data.curriculum).get? (ovr.yearGroupId,ovr.subjectId)) ovr else none) = none :=
    fun ovr hovr => (isNone_violation_iff h ovr).mpr fun hstrict => hok hstrict ovr hovr
  have hviolations := List.filterMap_eq_nil_iff.mpr hnone
  have happlied := List.filter_eq_self.mpr fun ovr hovr => Option.isNone_iff_eq_none.mpr (hnone ovr hovr)
  have hkeys : ((data.classSubjectOverrides.map fun ovr => ((ovr.classId,ovr.subjectId),ovr)).map Prod.fst).Nodup := by
    rw [List.map_map]
    exact h.overrides
  have hkey : ∀ key, (UniqueIndex.load (data.classSubjectOverrides.map fun ovr =>
      ((ovr.classId,ovr.subjectId),ovr))).get? key ≠ none ↔ key ∈ overrideKeysOf data := by
    intro key
    rw [← Option.isSome_iff_ne_none,← UniqueIndex.mem_keys_iff,UniqueIndex.rows_load hkeys,List.map_map]
    exact Iff.rfl
  have hfanned : ∀ cr : CurriculumRow, ((classesIn data.yearGroups cr.yearGroupId).filterMap fun classId =>
      if ((UniqueIndex.load (data.classSubjectOverrides.map fun ovr =>
        ((ovr.classId,ovr.subjectId),ovr))).get? (classId,cr.subjectId)).isSome then none
      else if data.classSubjectAssignments ≠ [] ∧ data.classSubjectAssignments.contains (classId,cr.subjectId) = false then none
      else some (curriculumDemand cr classId)) = (fannedOut data cr).map (curriculumDemand cr) := by
    intro cr
    rw [fannedOut,← List.filterMap_eq_map (f := curriculumDemand cr),List.filterMap_filter]
    refine List.filterMap_congr fun classId _ => ?_
    by_cases hoverridden : (classId,cr.subjectId) ∈ overrideKeysOf data
    · rw [if_pos (Option.isSome_iff_ne_none.mpr ((hkey _).mpr hoverridden))]
      simp [hoverridden]
    · rw [if_neg fun hsome => hoverridden ((hkey _).mp (Option.isSome_iff_ne_none.mp hsome))]
      by_cases hassigned : Assigned data (classId,cr.subjectId)
      · rw [if_neg fun hn => hassigned.elim hn.1 fun hm => Bool.false_ne_true (hn.2.symm.trans hm)]
        simp [hoverridden,hassigned]
      · rw [if_pos ⟨fun he => hassigned (.inl he),Bool.eq_false_iff.mpr fun hm => hassigned (.inr hm)⟩]
        simp [hoverridden,hassigned]
  rw [TenantData.buildDemand,Scheduling.buildDemand]
  simp only [hviolations,happlied,hfanned,UniqueIndex.rows_load hkeys,List.map_map]
  rfl

theorem buildDemand_rejected_iff (h : RowsOnce data) : (∃ e, data.buildDemand = .error e) ↔
    data.strictClassSubjectOverride = true ∧ ∃ ovr ∈ data.classSubjectOverrides, Mismatched data ovr := by
  constructor
  · rintro ⟨e,he⟩
    by_contra hno
    rw [buildDemand_eq h fun hstrict ovr hovr hm => hno ⟨hstrict,ovr,hovr,hm⟩] at he
    cases he
  · rintro ⟨hstrict,ovr,hovr,hm⟩
    cases hr : data.buildDemand with
    | error e => exact ⟨e,rfl⟩
    | ok result =>
      rw [TenantData.buildDemand,Scheduling.buildDemand] at hr
      have hnone := List.filterMap_eq_nil_iff.mp (ensure_bind_eq_ok.mp hr).1 ovr hovr
      exact absurd hm ((isNone_violation_iff h ovr).mp hnone hstrict)

theorem assemble_rejected_iff : (∃ e, assembleSolverInput data = .error e) ↔ ∃ e, data.buildDemand = .error e := by
  cases hr : data.buildDemand with
  | error e =>
    refine iff_of_true ⟨e,?_⟩ ⟨e,rfl⟩
    rw [TenantData.buildDemand] at hr
    rw [assembleSolverInput,hr]
    rfl
  | ok result =>
    refine iff_of_false ?_ ?_
    · rintro ⟨e,he⟩
      rw [TenantData.buildDemand] at hr
      rw [assembleSolverInput,hr] at he
      cases he
    · rintro ⟨e,he⟩
      cases he

/-- What the counting of lessons needs of an assembled input. -/
theorem assemble_ok (h : RowsOnce data) (hok : assembleSolverInput data = .ok v3) :
    v3.demand = demandRows data ∧ v3.classes = flatClasses data.yearGroups ∧
      v3.pinned = buildPinned data.pinnedSchedules v3.periodSlots := by
  have hnot : ¬ ∃ e, data.buildDemand = .error e := by
    rw [← assemble_rejected_iff,hok]
    rintro ⟨e,he⟩
    cases he
  rw [buildDemand_rejected_iff h] at hnot
  have hdemand := buildDemand_eq h fun hstrict ovr hovr hm => hnot ⟨hstrict,ovr,hovr,hm⟩
  rw [TenantData.buildDemand] at hdemand
  rw [assembleSolverInput,hdemand] at hok
  cases hok
  exact ⟨rfl,rfl,rfl⟩

/-! ## Classes -/

theorem mem_flatClasses {c : ClassV3} : c ∈ flatClasses data.yearGroups ↔
    ∃ yg ∈ data.yearGroups, c.classId ∈ yg.classes ∧ c.yearGroupId = yg.id := by
  rw [flatClasses,List.mem_flatMap]
  refine exists_congr fun yg => and_congr_right fun _ => ?_
  rw [List.mem_map]
  constructor
  · rintro ⟨classId,hc,rfl⟩
    exact ⟨hc,rfl⟩
  · rintro ⟨hc,hyg⟩
    refine ⟨c.classId,hc,?_⟩
    rw [← hyg]

theorem nodup_flatClasses : ((flatClasses data.yearGroups).map (·.classId)).Nodup := by
  have hclasses : (flatClasses data.yearGroups).map (·.classId) = data.yearGroups.flatMap (·.classes) := by
    rw [flatClasses,List.map_flatMap]
    refine List.flatMap_congr fun yg _ => ?_
    rw [List.map_map]
    exact List.map_id _
  exact hclasses ▸ data.classesOnce

theorem mem_classesIn {yearGroupId : String} : classId ∈ classesIn data.yearGroups yearGroupId ↔
    ⟨classId,yearGroupId⟩ ∈ flatClasses data.yearGroups := by
  rw [mem_flatClasses,classesIn]
  constructor
  · intro hc
    cases hf : data.yearGroups.find? fun yg => yg.id = yearGroupId with
    | none =>
      rw [hf] at hc
      cases hc
    | some yg =>
      rw [hf] at hc
      have hid : yg.id = yearGroupId := by simpa using List.find?_some hf
      exact ⟨yg,List.mem_of_find?_eq_some hf,hc,hid.symm⟩
  · rintro ⟨yg,hyg,hc,hid⟩
    cases hf : data.yearGroups.find? fun yg => yg.id = yearGroupId with
    | none => exact absurd hid.symm (by simpa using List.find?_eq_none.mp hf yg hyg)
    | some yg' =>
      have hid' : yg'.id = yearGroupId := by simpa using List.find?_some hf
      obtain rfl := List.inj_on_of_nodup_map data.yearGroupsOnce hyg (List.mem_of_find?_eq_some hf) (hid.symm.trans hid'.symm)
      exact hc

theorem nodup_classesIn (yearGroupId : String) : (classesIn data.yearGroups yearGroupId).Nodup := by
  rw [classesIn]
  cases hf : data.yearGroups.find? fun yg => yg.id = yearGroupId with
  | none => exact List.nodup_nil
  | some yg => exact (List.nodup_flatMap.mp data.classesOnce).1 yg (List.mem_of_find?_eq_some hf)

theorem yearGroupId_unique {yearGroupId yearGroupId' : String} (h : ⟨classId,yearGroupId⟩ ∈ flatClasses data.yearGroups)
    (h' : ⟨classId,yearGroupId'⟩ ∈ flatClasses data.yearGroups) : yearGroupId = yearGroupId' :=
  congrArg ClassV3.yearGroupId (List.inj_on_of_nodup_map nodup_flatClasses h h' rfl)

/-! ## One row each -/

theorem mem_fannedOut {cr : CurriculumRow} : classId ∈ fannedOut data cr ↔
    ⟨classId,cr.yearGroupId⟩ ∈ flatClasses data.yearGroups ∧ (classId,cr.subjectId) ∉ overrideKeysOf data ∧
      Assigned data (classId,cr.subjectId) := by
  rw [fannedOut,List.mem_filter,mem_classesIn,decide_eq_true_iff,List.contains_eq_mem,decide_eq_false_iff_not]

theorem nodup_demandRows (h : RowsOnce data) : ((demandRows data).map DemandV3.key).Nodup := by
  have hoverrides : (data.classSubjectOverrides.map fun ovr =>
      overrideDemand ((baselineMap data.curriculum).get? (ovr.yearGroupId,ovr.subjectId)) ovr).map DemandV3.key =
        overrideKeysOf data := by
    rw [List.map_map]
    rfl
  have hfan : ∀ cr : CurriculumRow, ((fannedOut data cr).map (curriculumDemand cr)).map DemandV3.key =
      (fannedOut data cr).map fun classId => (classId,cr.subjectId) := by
    intro cr
    rw [List.map_map]
    rfl
  rw [demandRows,List.map_append,hoverrides,List.map_flatMap,List.nodup_append',List.nodup_flatMap]
  refine ⟨⟨fun cr _ => ?_,?_⟩,h.overrides,?_⟩
  · rw [hfan]
    exact ((nodup_classesIn _).filter _).map fun a b he => (Prod.mk.inj he).1
  · refine (List.pairwise_map.mp h.curriculum).imp fun {cr cr'} hne key hkey hkey' => hne ?_
    simp only [hfan] at hkey hkey'
    obtain ⟨c,hc,rfl⟩ := List.mem_map.mp hkey
    obtain ⟨c',hc',he⟩ := List.mem_map.mp hkey'
    obtain ⟨rfl,hsubject⟩ := Prod.mk.inj he
    rw [yearGroupId_unique (mem_fannedOut.mp hc).1 (mem_fannedOut.mp hc').1,hsubject]
  · intro key hkey hoverride
    obtain ⟨cr,-,hmem⟩ := List.mem_flatMap.mp hkey
    rw [hfan] at hmem
    obtain ⟨c,hc,rfl⟩ := List.mem_map.mp hmem
    exact (mem_fannedOut.mp hc).2.1 hoverride

theorem find?_demandRows (h : RowsOnce data) {d : DemandV3} (hd : d ∈ demandRows data) :
    (demandRows data).find? (fun d' => d'.classId = d.classId && d'.subjectId = d.subjectId) = some d := by
  cases hf : (demandRows data).find? fun d' => d'.classId = d.classId && d'.subjectId = d.subjectId with
  | none => exact absurd (List.find?_eq_none.mp hf d hd) (by simp)
  | some d' =>
    have hkey := List.find?_some hf
    simp only [Bool.and_eq_true,decide_eq_true_eq] at hkey
    exact congrArg some (List.inj_on_of_nodup_map (nodup_demandRows h) (List.mem_of_find?_eq_some hf) hd
      (Prod.ext hkey.1 hkey.2))

/-- The row of a class and subject asks for the required periods, and without one none are required. -/
theorem periods_demandRows (h : RowsOnce data) {yearGroupId : String} (hc : ⟨classId,yearGroupId⟩ ∈ flatClasses data.yearGroups)
    (subjectId : String) :
    ((demandRows data).find? fun d => d.classId = classId && d.subjectId = subjectId).elim 0 (·.periodsPerWeek) =
      requiredPeriods data yearGroupId classId subjectId := by
  have hrow : ∀ d ∈ demandRows data, d.classId = classId → d.subjectId = subjectId →
      ((demandRows data).find? fun d => d.classId = classId && d.subjectId = subjectId).elim 0 (·.periodsPerWeek) =
        d.periodsPerWeek := by
    rintro d hd rfl rfl
    rw [find?_demandRows h hd]
    rfl
  have hempty : (∀ d ∈ demandRows data, d.classId = classId → d.subjectId ≠ subjectId) →
      ((demandRows data).find? fun d => d.classId = classId && d.subjectId = subjectId).elim 0 (·.periodsPerWeek) = 0 := by
    intro hno
    rw [List.find?_eq_none.mpr fun d hd hkey => ?_]
    · rfl
    · simp only [Bool.and_eq_true,decide_eq_true_eq] at hkey
      exact hno d hd hkey.1 hkey.2
  have hfan : ∀ d ∈ demandRows data, d.classId = classId → d.subjectId = subjectId →
      (∃ ovr ∈ data.classSubjectOverrides, ovr.classId = classId ∧ ovr.subjectId = subjectId) ∨
        Assigned data (classId,subjectId) ∧ ∃ cr ∈ data.curriculum, cr.yearGroupId = yearGroupId ∧ cr.subjectId = subjectId := by
    intro d hd hclass hsubject
    rcases List.mem_append.mp hd with hd | hd
    · obtain ⟨cr,hcr,hd⟩ := List.mem_flatMap.mp hd
      obtain ⟨c,hmem,rfl⟩ := List.mem_map.mp hd
      obtain rfl : c = classId := hclass
      obtain rfl : cr.subjectId = subjectId := hsubject
      obtain ⟨hlisted,-,hassigned⟩ := mem_fannedOut.mp hmem
      exact .inr ⟨hassigned,cr,hcr,yearGroupId_unique hlisted hc,rfl⟩
    · obtain ⟨ovr,hovr,rfl⟩ := List.mem_map.mp hd
      exact .inl ⟨ovr,hovr,hclass,hsubject⟩
  rw [requiredPeriods]
  cases ho : data.classSubjectOverrides.find? fun ovr => ovr.classId = classId ∧ ovr.subjectId = subjectId with
  | some ovr =>
    obtain ⟨hclass,hsubject⟩ : ovr.classId = classId ∧ ovr.subjectId = subjectId := by simpa using List.find?_some ho
    exact hrow _ (List.mem_append_right _ (List.mem_map_of_mem (List.mem_of_find?_eq_some ho))) hclass hsubject
  | none =>
    have hnone : ¬ ∃ ovr ∈ data.classSubjectOverrides, ovr.classId = classId ∧ ovr.subjectId = subjectId := by
      rintro ⟨ovr,hovr,hkey⟩
      exact absurd (decide_eq_true hkey) (List.find?_eq_none.mp ho ovr hovr)
    have hkey : (classId,subjectId) ∉ overrideKeysOf data := by
      intro hmem
      obtain ⟨ovr,hovr,he⟩ := List.mem_map.mp hmem
      exact hnone ⟨ovr,hovr,Prod.mk.inj he⟩
    dsimp only
    split
    · rename_i hassigned
      cases hf : data.curriculum.find? fun cr => cr.yearGroupId = yearGroupId ∧ cr.subjectId = subjectId with
      | some cr =>
        obtain ⟨hyg,rfl⟩ : cr.yearGroupId = yearGroupId ∧ cr.subjectId = subjectId := by simpa using List.find?_some hf
        refine hrow (curriculumDemand cr classId) (List.mem_append_left _ ?_) rfl rfl
        refine List.mem_flatMap.mpr ⟨cr,List.mem_of_find?_eq_some hf,List.mem_map_of_mem ?_⟩
        exact mem_fannedOut.mpr ⟨hyg ▸ hc,hkey,hassigned⟩
      | none =>
        refine hempty fun d hd hclass hsubject => ?_
        rcases hfan d hd hclass hsubject with hover | ⟨-,cr,hcr,hrow⟩
        · exact hnone hover
        · exact absurd (decide_eq_true hrow) (List.find?_eq_none.mp hf cr hcr)
    · rename_i hunassigned
      refine hempty fun d hd hclass hsubject => ?_
      rcases hfan d hd hclass hsubject with hover | ⟨hassigned,-⟩
      · exact hnone hover
      · exact hunassigned hassigned

/-! ## The version 2 input -/

theorem listedClasses_v3InputToV2 : listedClasses (v3InputToV2 v3) =
    (yearGroupIds v3).flatMap fun ygId => (v3.classes.filter fun c => c.yearGroupId = ygId).map fun c => (ygId,c.classId) := by
  simp only [listedClasses,v3InputToV2,List.flatMap_map,List.map_map]
  rfl

theorem mem_listedClasses {yearGroupId : String} : (yearGroupId,classId) ∈ listedClasses (v3InputToV2 v3) ↔
    ⟨classId,yearGroupId⟩ ∈ v3.classes := by
  rw [listedClasses_v3InputToV2,List.mem_flatMap]
  constructor
  · rintro ⟨ygId,-,hmem⟩
    obtain ⟨c,hc,he⟩ := List.mem_map.mp hmem
    obtain ⟨hlisted,hyg⟩ := List.mem_filter.mp hc
    obtain ⟨rfl,rfl⟩ := Prod.mk.inj he
    obtain rfl := of_decide_eq_true hyg
    exact hlisted
  · intro hc
    refine ⟨yearGroupId,?_,List.mem_map.mpr ⟨_,List.mem_filter.mpr ⟨hc,decide_eq_true rfl⟩,rfl⟩⟩
    exact List.mem_eraseDups.mpr (List.mem_append_left _ (List.mem_map_of_mem hc))

theorem classesOnce_v3InputToV2 (hn : (v3.classes.map (·.classId)).Nodup) : ClassesOnce (v3InputToV2 v3) := by
  rw [ClassesOnce,listedClasses_v3InputToV2,List.map_flatMap,List.nodup_flatMap]
  refine ⟨fun ygId _ => ?_,(Grouping.nodup_eraseDups _).imp fun {ygId ygId'} hne classId h h' => hne ?_⟩
  · rw [List.map_map]
    exact (List.filter_sublist.map _).nodup hn
  · simp only [List.map_map] at h h'
    obtain ⟨c,hc,hid⟩ := List.mem_map.mp h
    obtain ⟨c',hc',hid'⟩ := List.mem_map.mp h'
    obtain ⟨hmem,hyg⟩ := List.mem_filter.mp hc
    obtain ⟨hmem',hyg'⟩ := List.mem_filter.mp hc'
    obtain rfl := List.inj_on_of_nodup_map hn hmem hmem' (hid.trans hid'.symm)
    exact (of_decide_eq_true hyg).symm.trans (of_decide_eq_true hyg')

theorem classYearGroup_eq (hn : (v3.classes.map (·.classId)).Nodup) {c : ClassV3} (hc : c ∈ v3.classes) :
    classYearGroup v3 c.classId = c.yearGroupId := by
  have hlast := Grouping.getLast?_filter_eq (p := fun cls : ClassV3 => cls.classId = c.classId) hc (decide_eq_true rfl)
    fun c' hc' hid => List.inj_on_of_nodup_map hn hc' hc (of_decide_eq_true hid)
  rw [classYearGroup,hlast]
  rfl

theorem rowsInClassYear_v3InputToV2 (hn : (v3.classes.map (·.classId)).Nodup) : RowsInClassYear (v3InputToV2 v3) := by
  rintro e he ⟨yearGroupId,classId⟩ hk hclass
  obtain ⟨d,-,rfl⟩ := List.mem_map.mp he
  obtain rfl : d.classId = classId := Option.some.inj hclass
  exact classYearGroup_eq hn (mem_listedClasses.mp hk)

theorem oneRowEach_v3InputToV2 (h : (v3.demand.map DemandV3.key).Nodup) : OneRowEach (v3InputToV2 v3) where
  baseline := by
    have hnil : (v3InputToV2 v3).curriculum.filter (fun e => e.classId = none) = [] := by
      refine List.filter_eq_nil_iff.mpr fun e he => ?_
      obtain ⟨d,-,rfl⟩ := List.mem_map.mp he
      simp [curriculumEntry]
    rw [hnil]
    exact List.nodup_nil
  override := by
    have hkeys : overrideKeys (v3InputToV2 v3) = v3.demand.map DemandV3.key := by
      rw [overrideKeys,v3InputToV2,List.filterMap_map,← List.filterMap_eq_map (f := DemandV3.key)]
      rfl
    rwa [hkeys]

theorem effectiveRow_v3InputToV2 (yearGroupId classId subjectId : String) :
    effectiveRow (v3InputToV2 v3) yearGroupId classId subjectId =
      (v3.demand.find? fun d => d.classId = classId && d.subjectId = subjectId).map (curriculumEntry v3) := by
  have hbaseline : ((v3InputToV2 v3).curriculum.find? fun e =>
      e.yearGroupId = yearGroupId && e.classId = none && e.subjectId = subjectId) = none := by
    refine List.find?_eq_none.mpr fun e he => ?_
    obtain ⟨d,-,rfl⟩ := List.mem_map.mp he
    simp [curriculumEntry]
  rw [effectiveRow,hbaseline,Option.or_none,v3InputToV2,List.find?_map]
  congr 2
  funext d
  simp [curriculumEntry]

theorem pinnedDemand_v3InputToV2 (hpinned : v3.pinned = buildPinned data.pinnedSchedules v3.periodSlots)
    (classId subjectId : String) : pinnedDemand (v3InputToV2 v3) classId subjectId = pinsOf data classId subjectId := by
  rw [pinnedDemand,pinsOf,v3InputToV2,hpinned,buildPinned,List.map_map,List.countP_map]
  refine List.countP_congr fun pin _ => ?_
  simp [pinnedEntry,and_comm]

/-- The lessons of a loaded class and subject are the required periods without the pinned ones. -/
theorem countP_lessons_assembled (h : RowsOnce data) (hok : assembleSolverInput data = .ok v3) (hyg : yg ∈ data.yearGroups)
    (hc : classId ∈ yg.classes) (subjectId : String) :
    ((buildLessons (v3InputToV2 v3)).countP (fun l => l.classId = classId && l.subjectId = subjectId) : ℤ) =
      max 0 (requiredPeriods data yg.id classId subjectId - pinsOf data classId subjectId) := by
  obtain ⟨hdemand,hclasses,hpinned⟩ := assemble_ok h hok
  have hlisted : ⟨classId,yg.id⟩ ∈ flatClasses data.yearGroups := mem_flatClasses.mpr ⟨yg,hyg,hc,rfl⟩
  have hn : (v3.classes.map (·.classId)).Nodup := hclasses ▸ nodup_flatClasses
  have hkeys : (v3.demand.map DemandV3.key).Nodup := hdemand ▸ nodup_demandRows h
  have hcount := countP_lessons (oneRowEach_v3InputToV2 hkeys) (classesOnce_v3InputToV2 hn) (rowsInClassYear_v3InputToV2 hn)
    (mem_listedClasses.mpr (hclasses ▸ hlisted)) subjectId
  have hperiods : ((effectiveRow (v3InputToV2 v3) yg.id classId subjectId).elim 0 (·.minPeriodsPerWeek)) =
      requiredPeriods data yg.id classId subjectId := by
    rw [effectiveRow_v3InputToV2,hdemand,← periods_demandRows h hlisted]
    cases (demandRows data).find? fun d => d.classId = classId && d.subjectId = subjectId <;> rfl
  rw [SolverInputV2.lessons] at hcount
  dsimp only at hcount
  rw [hcount,periodsToPlace,hperiods,pinnedDemand_v3InputToV2 hpinned]
  omega

end

/-- The demand has one row a class and subject at most, the lessons are the required periods without the pinned
ones, and assembly is rejected precisely for a mismatched override under the strict setting. -/
theorem assembled_demand (data : TenantData) (h : RowsOnce data) :
    (∀ result, data.buildDemand = .ok result → (result.demand.map DemandV3.key).Nodup) ∧
    (∀ v3, assembleSolverInput data = .ok v3 → ∀ yg ∈ data.yearGroups, ∀ classId ∈ yg.classes, ∀ subjectId,
      ((buildLessons (v3InputToV2 v3)).countP (fun l => l.classId = classId && l.subjectId = subjectId) : ℤ) =
        max 0 (requiredPeriods data yg.id classId subjectId - pinsOf data classId subjectId)) ∧
    ((∃ e, assembleSolverInput data = .error e) ↔
      data.strictClassSubjectOverride = true ∧ ∃ ovr ∈ data.classSubjectOverrides, Mismatched data ovr) := by
  refine ⟨fun result hresult => ?_,fun v3 hok yg hyg classId hc subjectId => countP_lessons_assembled h hok hyg hc subjectId,
    assemble_rejected_iff.trans (buildDemand_rejected_iff h)⟩
  have hnot : ¬ ∃ e, data.buildDemand = .error e := by
    rw [hresult]
    rintro ⟨e,he⟩
    cases he
  rw [buildDemand_rejected_iff h] at hnot
  rw [buildDemand_eq h fun hstrict ovr hovr hm => hnot ⟨hstrict,ovr,hovr,hm⟩] at hresult
  cases hresult
  exact nodup_demandRows h

def oneYearGroup : List YearGroupWithClasses := [⟨"y",["a","b"]⟩]

theorem nodup_oneYearGroup : (oneYearGroup.map (·.id)).Nodup := by decide

theorem nodup_classes_oneYearGroup : (oneYearGroup.flatMap (·.classes)).Nodup := by decide

/-- Two classes of one year group with five periods of a subject, which one of them has three of by an override. -/
def twoClasses : TenantData where
  yearGroups := oneYearGroup
  periodTemplates := []
  curriculum := [⟨"y","s",5,2,none,false,none⟩]
  classSubjectOverrides := [⟨"b","s","Subject","y",3,none,false,none,none⟩]
  classSubjectAssignments := []
  teachers := []
  rooms := []
  roomClosures := []
  breakGroups := []
  pinnedSchedules := [⟨"p","a",some "s",some "y",none,none,firstDay,1⟩]
  classRoomOverrides := []
  preferenceWeights := ⟨none,none,none⟩
  globalSoftWeights := ⟨none,none,none,none,none⟩
  strictClassSubjectOverride := false
  yearGroupsOnce := nodup_oneYearGroup
  classesOnce := nodup_classes_oneYearGroup

example : requiredPeriods twoClasses "y" "a" "s" = 5 ∧ requiredPeriods twoClasses "y" "b" "s" = 3 ∧
    pinsOf twoClasses "a" "s" = 1 := by decide

theorem assembled_twoClasses :
    (∀ result, twoClasses.buildDemand = .ok result → (result.demand.map DemandV3.key).Nodup) ∧
    (∀ v3, assembleSolverInput twoClasses = .ok v3 → ∀ yg ∈ twoClasses.yearGroups, ∀ classId ∈ yg.classes, ∀ subjectId,
      ((buildLessons (v3InputToV2 v3)).countP (fun l => l.classId = classId && l.subjectId = subjectId) : ℤ) =
        max 0 (requiredPeriods twoClasses yg.id classId subjectId - pinsOf twoClasses classId subjectId)) ∧
    ((∃ e, assembleSolverInput twoClasses = .error e) ↔
      twoClasses.strictClassSubjectOverride = true ∧ ∃ ovr ∈ twoClasses.classSubjectOverrides, Mismatched twoClasses ovr) :=
  assembled_demand twoClasses ⟨by decide,by decide⟩

end EduPod.Scheduling
