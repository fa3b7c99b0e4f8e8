import EduPod.Imports.ImportProcessing

/-! # What becomes of each row

A row is judged by its own fields and by the households, or the addresses, known before it. The transaction
does with every row what its verdict says, until a row aborts it.
-/
namespace EduPod.Imports
open AbortingTransaction AbortingTransaction.Script

/-- A record is created, or the row fails: leaving nothing, leaving a household, or aborting the transaction. -/
inductive Verdict
  | created | rejected | leavesHousehold | aborts
  deriving DecidableEq

def StudentRow.householdText (r : StudentRow) : String := r.householdName.getD (r.lastName ++ " Family")

def StudentRow.storable (r : StudentRow) : Bool :=
  fits (some 100) r.firstName && fits (some 100) r.lastName && r.firstNameAr.all (fits (some 100)) &&
    r.lastNameAr.all (fits (some 100))

def ParentRow.storable (r : ParentRow) : Bool :=
  fits (some 100) r.firstName && fits (some 100) r.lastName && r.phone.all (fits (some 50)) &&
    r.relationshipLabel.all (fits (some 100))

def studentVerdict (c : Conventions) (known : List String) (r : StudentRow) : Verdict :=
  if fits (some 255) r.householdText = false then .aborts
  else if (r.values c).isNone then
    if r.householdName.isSome ∧ r.householdText ∈ known then .rejected else .leavesHousehold
  else if r.storable then .created else .aborts

def parentVerdict (c : Conventions) (known : List String) (r : ParentRow) : Verdict :=
  if fits none r.email = false then .aborts
  else if c.foldCase r.email ∈ known then .rejected
  else if r.storable then .created else .aborts

/-- A row without its required fields is rejected before anything is asked of the database. -/
def verdict (c : Conventions) (importType : ImportType) (headers : List String) (known : List String) (row : List String) :
    Verdict :=
  match importType with
  | .students => (studentRow c headers row).elim .rejected (studentVerdict c known)
  | .parents => (parentRow c headers row).elim .rejected (parentVerdict c known)
  | _ => .rejected

/-- What a row adds to the known households or addresses. -/
def keyOf (c : Conventions) (importType : ImportType) (headers : List String) (row : List String) : String :=
  match importType with
  | .students => (studentRow c headers row).elim "" (·.householdText)
  | .parents => (parentRow c headers row).elim "" fun r => c.foldCase r.email
  | _ => ""

def Verdict.adds (v : Verdict) : Bool := v = .created || v = .leavesHousehold

def knownAfter (c : Conventions) (importType : ImportType) (headers : List String) (known : List String) (row : List String) :
    List String :=
  if (verdict c importType headers known row).adds then keyOf c importType headers row :: known else known

@[grind] def verdicts (c : Conventions) (importType : ImportType) (headers : List String) : List String → List (List String) → List Verdict
  | _, [] => []
  | known, row :: rest => verdict c importType headers known row ::
      verdicts c importType headers (knownAfter c importType headers known row) rest

namespace School

def knownTo (c : Conventions) (importType : ImportType) (s : School) : List String :=
  match importType with
  | .students => s.households.map (·.householdName.text)
  | .parents => s.parents.map fun p => c.foldCase p.email.text
  | _ => []

/-- The students and parents made for a row. -/
def madeFor (s : School) (i : ℕ) : ℕ := s.students.countP (·.fromRow = some i) + s.parents.countP (·.fromRow = some i)

def householdsFor (s : School) (i : ℕ) : ℕ := s.households.countP (·.fromRow = some i)

end School

def School.extend (s : School) (households : List Household) (students : List Student) (parents : List Parent) : School :=
  { s with
    households := s.households ++ households
    students := s.students ++ students
    parents := s.parents ++ parents }

/-- What rows of these verdicts, with their numbers, do to the records. -/
structure Effect (marked : List (Verdict × ℕ)) (s s' : School) : Prop where
  importType : s'.job.importType = s.job.importType
  fileKey : s'.job.fileKey = s.job.fileKey
  made : ∀ j, s'.madeFor j = s.madeFor j + marked.count (.created,j)
  leaves : ∀ j, s.householdsFor j + marked.count (.leavesHousehold,j) ≤ s'.householdsFor j
  spares : ∀ j, (∀ v, (v,j) ∈ marked → v = .rejected) → s'.householdsFor j = s.householdsFor j
  knows : ∀ c importType, s.knownTo c importType ⊆ s'.knownTo c importType

/-! ## Verdicts when more is known -/

section
variable {c : Conventions} {importType : ImportType} {headers row : List String} {known known' : List String}

theorem verdict_congr (h : ∀ name, name ∈ known ↔ name ∈ known') :
    verdict c importType headers known row = verdict c importType headers known' row := by
  have hstudents : studentVerdict c known = studentVerdict c known' := by
    funext r
    simp only [studentVerdict,h]
  have hparents : parentVerdict c known = parentVerdict c known' := by
    funext r
    simp only [parentVerdict,h]
  simp only [verdict,hstudents,hparents]

theorem knownAfter_congr (h : ∀ name, name ∈ known ↔ name ∈ known') (name : String) :
    name ∈ knownAfter c importType headers known row ↔ name ∈ knownAfter c importType headers known' row := by
  unfold knownAfter
  rw [verdict_congr h]
  split
  · rw [List.mem_cons,List.mem_cons,h]
  · exact h name

theorem verdicts_congr (h : ∀ name, name ∈ known ↔ name ∈ known') (rows : List (List String)) :
    verdicts c importType headers known rows = verdicts c importType headers known' rows := by
  induction rows generalizing known known' with
  | nil => rfl
  | cons row rest ih => rw [verdicts,verdicts,verdict_congr h,ih (knownAfter_congr h)]

theorem length_verdicts (known : List String) (rows : List (List String)) :
    (verdicts c importType headers known rows).length = rows.length := by
  induction rows generalizing known with
  | nil => rfl
  | cons row rest ih => simp [verdicts,ih]

/-- With more known a row may be rejected that was not; nothing else changes, unless it aborts. -/
theorem verdict_of_subset (hsub : known ⊆ known') (h : verdict c importType headers known row ≠ .aborts) :
    verdict c importType headers known' row = verdict c importType headers known row ∨
      verdict c importType headers known' row = .rejected ∧
        ((verdict c importType headers known row).adds → keyOf c importType headers row ∈ known') := by
  cases importType with
  | students =>
    cases hr : studentRow c headers row with
    | none => exact .inl (by simp [verdict,hr])
    | some r =>
      simp only [verdict,hr,Option.elim_some,keyOf,studentVerdict] at h ⊢
      have hkeep := fun hin : r.householdText ∈ known => hsub hin
      split_ifs at h ⊢ <;> simp_all
  | parents =>
    cases hr : parentRow c headers row with
    | none => exact .inl (by simp [verdict,hr])
    | some r =>
      simp only [verdict,hr,Option.elim_some,keyOf,parentVerdict] at h ⊢
      have hkeep := fun hin : c.foldCase r.email ∈ known => hsub hin
      split_ifs at h ⊢ <;> simp_all
  | staff | fees | examResults | staffCompensation => exact .inl rfl

theorem knownAfter_subset (hsub : known ⊆ known') (h : verdict c importType headers known row ≠ .aborts) :
    knownAfter c importType headers known row ⊆ knownAfter c importType headers known' row := by
  unfold knownAfter
  obtain heq | ⟨hrejected,hkey⟩ := verdict_of_subset hsub h
  · rw [heq]
    split
    · exact List.cons_subset_cons _ hsub
    · exact hsub
  · have hstays : ¬Verdict.rejected.adds = true := by decide
    rw [hrejected,if_neg hstays]
    by_cases hadds : (verdict c importType headers known row).adds = true
    · rw [if_pos hadds]
      exact List.cons_subset.mpr ⟨hkey hadds,hsub⟩
    · rw [if_neg hadds]
      exact hsub

def Weakens (v v' : Verdict) : Prop := v' = v ∨ v' = .rejected

theorem verdicts_weaken {rows : List (List String)} (hsub : known ⊆ known')
    (h : .aborts ∉ verdicts c importType headers known rows) :
    List.Forall₂ Weakens (verdicts c importType headers known rows) (verdicts c importType headers known' rows) := by
  induction rows generalizing known known' with
  | nil => exact .nil
  | cons row rest ih =>
    rw [verdicts,List.mem_cons,not_or] at h
    have hrow := Ne.symm h.1
    refine .cons ?_ (ih (knownAfter_subset hsub hrow) h.2)
    obtain heq | ⟨hrejected,-⟩ := verdict_of_subset hsub hrow
    · exact .inl heq
    · exact .inr hrejected

end

/-! ## Columns -/

section
variable {limit : Option ℕ} {s first last : String} {n : ℕ}

theorem of?_eq_some (h : fits limit s = true) : Column.of? limit s = some ⟨s,h⟩ := dif_pos h

theorem of?_eq_none (h : fits limit s = false) : Column.of? limit s = none := dif_neg (by simp [h])

theorem fits_none_of_fits (h : fits limit s = true) : fits none s = true := by
  unfold fits at h ⊢
  simpa using (Bool.and_eq_true_iff.mp h).2

theorem isSome_nullable {o : Option String} : (Column.nullable limit o).isSome = o.all (fits limit) := by
  cases o with
  | none => rfl
  | some s =>
    cases h : fits limit s with
    | true => simp [Column.nullable,of?_eq_some h,h]
    | false => simp [Column.nullable,of?_eq_none h,h]

theorem exists_nullable {o : Option String} (h : o.all (fits limit) = true) : ∃ v, Column.nullable limit o = some v :=
  Option.isSome_iff_exists.mp (isSome_nullable.trans h)

/-- Two names of a hundred characters and the blank between them fit into a full name. -/
theorem fits_fullName (hfirst : fits (some 100) first = true) (hlast : fits (some 100) last = true) :
    fits (some 255) (first ++ " " ++ last) = true := by
  simp only [fits,Option.all_some,Bool.and_eq_true,decide_eq_true_eq,Bool.not_eq_true',List.contains_eq_mem,
    decide_eq_false_iff_not,String.length_append,String.toList_append,List.mem_append] at *
  refine ⟨?_,?_⟩
  · have hblank : " ".length = 1 := rfl
    omega
  · have hblank : Char.ofNat 0 ∉ " ".toList := by decide
    tauto

end

/-! ## Effects -/

section
variable {s s' s'' : School} {v : Verdict} {i : ℕ} {marked marked' : List (Verdict × ℕ)} {households : List Household}
  {students : List Student} {parents : List Parent}

theorem extend_nil : s.extend [] [] [] = s := by simp [School.extend]

/-- The job may change its status and its summary without an effect. -/
theorem effect_of_records (himportType : s'.job.importType = s.job.importType) (hfileKey : s'.job.fileKey = s.job.fileKey)
    (hhouseholds : s'.households = s.households) (hstudents : s'.students = s.students)
    (hparents : s'.parents = s.parents) : Effect [] s s' where
  importType := himportType
  fileKey := hfileKey
  made j := by simp [School.madeFor,hstudents,hparents]
  leaves j := by simp [School.householdsFor,hhouseholds]
  spares j _ := by rw [School.householdsFor,School.householdsFor,hhouseholds]
  knows c importType := by
    have heq : s'.knownTo c importType = s.knownTo c importType := by
      cases importType <;> simp only [School.knownTo,hhouseholds,hparents]
    exact heq ▸ List.Subset.refl _

theorem effect_trans (h : Effect marked s s') (h' : Effect marked' s' s'') : Effect (marked ++ marked') s s'' where
  importType := h'.importType.trans h.importType
  fileKey := h'.fileKey.trans h.fileKey
  made j := by
    rw [h'.made,h.made,List.count_append]
    omega
  leaves j := by
    have hleft := h.leaves j
    have hright := h'.leaves j
    rw [List.count_append]
    omega
  spares j hj := by
    rw [h'.spares j fun v hv => hj v (List.mem_append_right _ hv),h.spares j fun v hv => hj v (List.mem_append_left _ hv)]
  knows c importType := List.Subset.trans (h.knows c importType) (h'.knows c importType)

theorem countP_of_forall {α : Type} {xs : List α} {row : α → Option ℕ} (h : ∀ x ∈ xs, row x = some i) (j : ℕ) :
    xs.countP (row · = some j) = if j = i then xs.length else 0 := by
  split
  · rename_i hj
    exact List.countP_eq_length.mpr fun x hx => by simp [h x hx,hj]
  · rename_i hj
    refine List.countP_eq_zero.mpr fun x hx => ?_
    have hne : ¬i = j := fun h' => hj h'.symm
    simp [h x hx,hne]

theorem count_single {w : Verdict} {j : ℕ} : [(v,i)].count (w,j) = if v = w ∧ j = i then 1 else 0 := by
  have hiff : (v,i) = (w,j) ↔ v = w ∧ j = i := by
    rw [Prod.mk.injEq,eq_comm (a := i)]
  simp [List.count_singleton,hiff]

/-- One record for a created row and none otherwise, a household when the verdict says so. -/
theorem effect_extend (hhouseholds : ∀ x ∈ households, x.fromRow = some i) (hstudents : ∀ x ∈ students, x.fromRow = some i)
    (hparents : ∀ x ∈ parents, x.fromRow = some i) (hmade : students.length + parents.length = if v = .created then 1 else 0)
    (hleaves : v = .leavesHousehold → households.length = 1) (hrejected : v = .rejected → households = []) :
    Effect [(v,i)] s (s.extend households students parents) where
  importType := rfl
  fileKey := rfl
  made j := by
    rw [count_single]
    simp only [School.madeFor,School.extend,List.countP_append,countP_of_forall hstudents,countP_of_forall hparents]
    by_cases hj : j = i
    · simp only [hj,and_true,if_true]
      omega
    · simp only [hj,and_false,if_false]
      omega
  leaves j := by
    rw [count_single]
    simp only [School.householdsFor,School.extend,List.countP_append,countP_of_forall hhouseholds]
    by_cases hv : v = .leavesHousehold ∧ j = i
    · have hone := hleaves hv.1
      simp only [hv,and_self,if_true,hone]
      exact le_rfl
    · rw [if_neg hv]
      omega
  spares j hj := by
    simp only [School.householdsFor,School.extend,List.countP_append,countP_of_forall hhouseholds]
    split
    · rename_i hji
      subst hji
      rw [hrejected (hj v (by simp))]
      rfl
    · rfl
  knows c importType := by
    cases importType <;> simp [School.knownTo,School.extend]

end

end EduPod.Imports
