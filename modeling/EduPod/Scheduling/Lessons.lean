import EduPod.Scheduling.Schema

/-! # Lesson generation

One lesson a period of demand: class overrides replace the year-group baseline, pinned
periods are subtracted, and double periods come in pairs under a running pair index.
-/
namespace EduPod.Scheduling

structure Lesson where
  lessonId : String
  classId : String
  yearGroupId : String
  subjectId : String
  maxPeriodsPerDay : ℤ
  requiredRoomType : Option String
  preferredRoomId : Option String
  requiresDoublePeriod : Bool
  doublePairIndex : Option ℕ
  deriving DecidableEq

/-- The `(class, subject)` pairs that have a class-specific row. -/
def overrideKeys (input : SolverInputV2) : List (String × String) :=
  input.curriculum.filterMap fun entry => entry.classId.map fun c => (c,entry.subjectId)

def pinnedDemand (input : SolverInputV2) (classId subjectId : String) : ℕ :=
  input.pinnedEntries.countP fun pin => pin.subjectId = some subjectId && pin.classId = classId

/-- The rows in force for one class: its own ones, then the baseline rows they leave. -/
def curriculumForClass (input : SolverInputV2) (classId yearGroupId : String) : List CurriculumEntry :=
  let own := input.curriculum.filter fun entry =>
    entry.yearGroupId = yearGroupId && entry.classId = some classId
  let seenSubjects := own.map (·.subjectId)
  let baseline := input.curriculum.filter fun entry =>
    entry.yearGroupId = yearGroupId && entry.classId = none && entry.subjectId ∉ seenSubjects &&
      (classId,entry.subjectId) ∉ overrideKeys input
  own ++ baseline

/-- One curriculum row in force for one class. -/
structure Demand where
  yearGroupId : String
  classId : String
  entry : CurriculumEntry
  deriving DecidableEq

/-- The rows in the order the nested loops over year groups, sections and rows visit them. -/
def demands (input : SolverInputV2) : List Demand :=
  input.yearGroups.flatMap fun yg => yg.sections.flatMap fun s =>
    (curriculumForClass input s.classId yg.yearGroupId).map fun entry => ⟨yg.yearGroupId,s.classId,entry⟩

def pairLesson (d : Demand) (pairIndex slotIdx : ℕ) : Lesson where
  lessonId := d.classId ++ "::" ++ d.entry.subjectId ++ "::dp" ++ toString pairIndex ++ "::" ++ toString slotIdx
  classId := d.classId
  yearGroupId := d.yearGroupId
  subjectId := d.entry.subjectId
  maxPeriodsPerDay := d.entry.maxPeriodsPerDay
  requiredRoomType := d.entry.requiredRoomType
  preferredRoomId := d.entry.preferredRoomId
  requiresDoublePeriod := true
  doublePairIndex := some pairIndex

def singleLesson (d : Demand) (singleIdx : ℕ) : Lesson where
  lessonId := d.classId ++ "::" ++ d.entry.subjectId ++ "::s" ++ toString singleIdx
  classId := d.classId
  yearGroupId := d.yearGroupId
  subjectId := d.entry.subjectId
  maxPeriodsPerDay := d.entry.maxPeriodsPerDay
  requiredRoomType := d.entry.requiredRoomType
  preferredRoomId := d.entry.preferredRoomId
  requiresDoublePeriod := false
  doublePairIndex := none

/-- The pair loop: at most `doublesToPlace` pairs while two periods remain. Returns the
lessons, the periods left and the next pair index. -/
@[grind] def emitDoubles (d : Demand) : ℕ → ℕ → ℕ → List Lesson × ℕ × ℕ
  | doublesToPlace + 1, remaining + 2, pairIndex =>
    let (rest,left,next) := emitDoubles d doublesToPlace remaining (pairIndex + 1)
    (pairLesson d pairIndex 0 :: pairLesson d pairIndex 1 :: rest,left,next)
  | _, remaining, pairIndex => ([],remaining,pairIndex)

/-- The periods of a row still to place. -/
def remainingPeriods (input : SolverInputV2) (d : Demand) : ℕ :=
  (d.entry.minPeriodsPerWeek - pinnedDemand input d.classId d.entry.subjectId).toNat

def doublesToPlace (input : SolverInputV2) (d : Demand) : ℕ :=
  let required := if d.entry.requiresDoublePeriod then d.entry.doublePeriodCount.getD 0 else 0
  (required - (pinnedDemand input d.classId d.entry.subjectId / 2 : ℕ)).toNat

/-- The lessons of one row, and the next pair index. -/
def entryLessons (input : SolverInputV2) (d : Demand) (pairIndex : ℕ) : List Lesson × ℕ :=
  let (doubles,left,next) := emitDoubles d (doublesToPlace input d) (remainingPeriods input d) pairIndex
  (doubles ++ (List.range left).map (singleLesson d),next)

@[grind] def lessonsFrom (input : SolverInputV2) : List Demand → ℕ → List Lesson
  | [], _ => []
  | d :: rest, pairIndex =>
    let (lessons,next) := entryLessons input d pairIndex
    lessons ++ lessonsFrom input rest next

def buildLessons (input : SolverInputV2) : List Lesson := lessonsFrom input (demands input) 0

/-! ## How many lessons a row yields -/

/-- The lesson belongs to the row: class, subject, year group, caps and rooms are the row's. -/
structure OfDemand (d : Demand) (lesson : Lesson) : Prop where
  classId : lesson.classId = d.classId
  yearGroupId : lesson.yearGroupId = d.yearGroupId
  subjectId : lesson.subjectId = d.entry.subjectId
  maxPeriodsPerDay : lesson.maxPeriodsPerDay = d.entry.maxPeriodsPerDay
  requiredRoomType : lesson.requiredRoomType = d.entry.requiredRoomType
  preferredRoomId : lesson.preferredRoomId = d.entry.preferredRoomId
  double : lesson.requiresDoublePeriod = lesson.doublePairIndex.isSome

theorem ofDemand_pairLesson (d : Demand) (pairIndex slotIdx : ℕ) : OfDemand d (pairLesson d pairIndex slotIdx) :=
  ⟨rfl,rfl,rfl,rfl,rfl,rfl,rfl⟩

theorem ofDemand_singleLesson (d : Demand) (singleIdx : ℕ) : OfDemand d (singleLesson d singleIdx) :=
  ⟨rfl,rfl,rfl,rfl,rfl,rfl,rfl⟩

theorem ofDemand_emitDoubles {d : Demand} {n remaining pairIndex : ℕ} {lesson : Lesson}
    (h : lesson ∈ (emitDoubles d n remaining pairIndex).1) : OfDemand d lesson := by
  fun_induction emitDoubles d n remaining pairIndex with
  | case1 n remaining pairIndex rest left next he ih =>
    rw [he] at ih
    rcases List.mem_cons.mp h with rfl | h
    · exact ofDemand_pairLesson d pairIndex 0
    rcases List.mem_cons.mp h with rfl | h
    · exact ofDemand_pairLesson d pairIndex 1
    · exact ih h
  | case2 => exact absurd h List.not_mem_nil

theorem ofDemand_entryLessons {input : SolverInputV2} {d : Demand} {pairIndex : ℕ} {lesson : Lesson}
    (h : lesson ∈ (entryLessons input d pairIndex).1) : OfDemand d lesson := by
  rcases List.mem_append.mp h with h | h
  · exact ofDemand_emitDoubles h
  · obtain ⟨i,-,rfl⟩ := List.mem_map.mp h
    exact ofDemand_singleLesson d i

/-- Pairing neither adds nor loses a period. -/
theorem length_emitDoubles (d : Demand) (n remaining pairIndex : ℕ) :
    (emitDoubles d n remaining pairIndex).1.length + (emitDoubles d n remaining pairIndex).2.1 = remaining := by
  fun_induction emitDoubles d n remaining pairIndex with
  | case1 n remaining pairIndex rest left next he ih =>
    rw [he] at ih
    simp only [List.length_cons] at ih ⊢
    omega
  | case2 => simp

theorem length_entryLessons (input : SolverInputV2) (d : Demand) (pairIndex : ℕ) :
    (entryLessons input d pairIndex).1.length = remainingPeriods input d := by
  have h := length_emitDoubles d (doublesToPlace input d) (remainingPeriods input d) pairIndex
  simpa [entryLessons] using h

theorem ofDemand_lessonsFrom {input : SolverInputV2} {ds : List Demand} {pairIndex : ℕ} {lesson : Lesson}
    (h : lesson ∈ lessonsFrom input ds pairIndex) : ∃ d ∈ ds, OfDemand d lesson := by
  induction ds generalizing pairIndex with
  | nil => exact absurd h List.not_mem_nil
  | cons d rest ih =>
    rcases List.mem_append.mp h with h | h
    · exact ⟨d,List.mem_cons_self,ofDemand_entryLessons h⟩
    · obtain ⟨d',hd',ho⟩ := ih h
      exact ⟨d',List.mem_cons_of_mem _ hd',ho⟩

/-- The lessons of a class and subject: what remains of each of its rows. -/
theorem countP_lessonsFrom (input : SolverInputV2) (ds : List Demand) (pairIndex : ℕ)
    (classId subjectId : String) :
    (lessonsFrom input ds pairIndex).countP (fun l => l.classId = classId && l.subjectId = subjectId) =
      ((ds.filter fun d => d.classId = classId && d.entry.subjectId = subjectId).map
        (remainingPeriods input)).sum := by
  induction ds generalizing pairIndex with
  | nil => rfl
  | cons d rest ih =>
    have hall : ∀ l ∈ (entryLessons input d pairIndex).1, (l.classId = classId && l.subjectId = subjectId) =
        (d.classId = classId && d.entry.subjectId = subjectId) := by
      intro l hl
      have ho := ofDemand_entryLessons hl
      rw [ho.classId,ho.subjectId]
    rw [lessonsFrom,List.countP_append,ih,List.filter_cons]
    by_cases hd : (d.classId = classId && d.entry.subjectId = subjectId) = true
    · rw [if_pos hd,List.map_cons,List.sum_cons,← length_entryLessons input d pairIndex]
      congr 1
      exact List.countP_eq_length.mpr fun l hl => (hall l hl).trans hd
    · rw [if_neg hd,List.countP_eq_zero.mpr fun l hl => by rw [hall l hl]; exact hd]
      exact Nat.zero_add _

/-- Rows that ask for no double period yield none. -/
theorem doublePairIndex_eq_none {input : SolverInputV2} {ds : List Demand}
    (h : ∀ d ∈ ds, d.entry.requiresDoublePeriod = false) {pairIndex : ℕ} {lesson : Lesson}
    (hl : lesson ∈ lessonsFrom input ds pairIndex) : lesson.doublePairIndex = none := by
  induction ds generalizing pairIndex with
  | nil => exact absurd hl List.not_mem_nil
  | cons d rest ih =>
    obtain ⟨hd,hrest⟩ := List.forall_mem_cons.mp h
    rcases List.mem_append.mp hl with hl | hl
    · have hzero : doublesToPlace input d = 0 := by
        simp only [doublesToPlace,hd,Bool.false_eq_true,if_false]
        omega
      have hemit : ∀ n, emitDoubles d 0 n pairIndex = ([],n,pairIndex) := fun n => by rw [emitDoubles]; simp
      simp only [hzero,hemit,List.nil_append] at hl
      obtain ⟨i,-,rfl⟩ := List.mem_map.mp hl
      rfl
    · exact ih hrest hl

/-- A row with a period left has a lesson. -/
theorem exists_lesson {input : SolverInputV2} {d : Demand} (hd : d ∈ demands input)
    (hpos : 0 < remainingPeriods input d) : ∃ lesson ∈ buildLessons input, OfDemand d lesson := by
  have hmem : ∀ ds pairIndex, d ∈ ds → ∃ next, (entryLessons input d next).1 ⊆ lessonsFrom input ds pairIndex := by
    intro ds
    induction ds with
    | nil => exact fun _ h => absurd h List.not_mem_nil
    | cons d' rest ih =>
      intro pairIndex h
      rcases List.mem_cons.mp h with rfl | h
      · exact ⟨pairIndex,List.subset_append_left _ _⟩
      · obtain ⟨next,hsub⟩ := ih (entryLessons input d' pairIndex).2 h
        exact ⟨next,List.Subset.trans hsub (List.subset_append_right _ _)⟩
  obtain ⟨next,hsub⟩ := hmem (demands input) 0 hd
  obtain ⟨lesson,hl⟩ := List.exists_mem_of_length_pos (length_entryLessons input d next ▸ hpos)
  exact ⟨lesson,hsub hl,ofDemand_entryLessons hl⟩

/-! ## Pair indices -/

theorem le_pairIndex_emitDoubles (d : Demand) (n remaining pairIndex : ℕ) :
    pairIndex ≤ (emitDoubles d n remaining pairIndex).2.2 ∧
      ∀ lesson ∈ (emitDoubles d n remaining pairIndex).1, ∀ p, lesson.doublePairIndex = some p →
        pairIndex ≤ p ∧ p < (emitDoubles d n remaining pairIndex).2.2 := by
  fun_induction emitDoubles d n remaining pairIndex with
  | case1 n remaining pairIndex rest left next he ih =>
    rw [he] at ih
    dsimp only at ih ⊢
    refine ⟨by omega,?_⟩
    simp only [List.forall_mem_cons]
    refine ⟨?_,?_,fun lesson hl p hp => ?_⟩
    · rintro p ⟨⟩
      omega
    · rintro p ⟨⟩
      omega
    · have := ih.2 lesson hl p hp
      omega
  | case2 => exact ⟨le_rfl,fun _ h => absurd h List.not_mem_nil⟩

/-- The pairs of a row are numbered from the running index on, up to the next one. -/
theorem le_pairIndex_entryLessons (input : SolverInputV2) (d : Demand) (pairIndex : ℕ) :
    pairIndex ≤ (entryLessons input d pairIndex).2 ∧
      ∀ lesson ∈ (entryLessons input d pairIndex).1, ∀ p, lesson.doublePairIndex = some p →
        pairIndex ≤ p ∧ p < (entryLessons input d pairIndex).2 := by
  obtain ⟨hle,hbetween⟩ := le_pairIndex_emitDoubles d (doublesToPlace input d)
    (remainingPeriods input d) pairIndex
  refine ⟨hle,fun lesson hl p hp => ?_⟩
  rcases List.mem_append.mp hl with hl | hl
  · exact hbetween lesson hl p hp
  · obtain ⟨i,-,rfl⟩ := List.mem_map.mp hl
    cases hp

theorem le_pairIndex_lessonsFrom {input : SolverInputV2} {ds : List Demand} {pairIndex : ℕ} {lesson : Lesson}
    (hl : lesson ∈ lessonsFrom input ds pairIndex) {p : ℕ} (hp : lesson.doublePairIndex = some p) : pairIndex ≤ p := by
  induction ds generalizing pairIndex with
  | nil => exact absurd hl List.not_mem_nil
  | cons d rest ih =>
    obtain ⟨hle,hbetween⟩ := le_pairIndex_entryLessons input d pairIndex
    rcases List.mem_append.mp hl with hl | hl
    · exact (hbetween lesson hl p hp).1
    · exact hle.trans (ih hl)

/-- The two lessons of a pair come from one row. -/
theorem ofDemand_of_pairIndex {input : SolverInputV2} {ds : List Demand} {pairIndex : ℕ} {l l' : Lesson}
    (hl : l ∈ lessonsFrom input ds pairIndex) (hl' : l' ∈ lessonsFrom input ds pairIndex) {p : ℕ}
    (hp : l.doublePairIndex = some p) (hp' : l'.doublePairIndex = some p) : ∃ d ∈ ds, OfDemand d l ∧ OfDemand d l' := by
  induction ds generalizing pairIndex with
  | nil => exact absurd hl List.not_mem_nil
  | cons d rest ih =>
    obtain ⟨-,hbetween⟩ := le_pairIndex_entryLessons input d pairIndex
    rcases List.mem_append.mp hl with hl | hl <;> rcases List.mem_append.mp hl' with hl' | hl'
    · exact ⟨d,List.mem_cons_self,ofDemand_entryLessons hl,ofDemand_entryLessons hl'⟩
    · exact absurd (le_pairIndex_lessonsFrom hl' hp') (not_le.mpr (hbetween l hl p hp).2)
    · exact absurd (le_pairIndex_lessonsFrom hl hp) (not_le.mpr (hbetween l' hl' p hp').2)
    · obtain ⟨d',hd',ho⟩ := ih hl hl'
      exact ⟨d',List.mem_cons_of_mem _ hd',ho⟩

theorem ofDemand_buildLessons {input : SolverInputV2} {lesson : Lesson} (h : lesson ∈ buildLessons input) :
    ∃ d ∈ demands input, OfDemand d lesson := ofDemand_lessonsFrom h

end EduPod.Scheduling
