import EduPod.Imports.ImportVerdicts

/-! # The transaction takes every row as its verdict says

On a transaction that has not been aborted, a row of verdict `aborts` aborts it, and every other row leaves it
running with the effect of the verdict. A row on an aborted transaction changes nothing.
-/
namespace EduPod.Imports
open AbortingTransaction AbortingTransaction.Script

/-! ## Households -/

section
variable {c : Conventions} {s : School} {i : ℕ} {headers row : List String}

@[simp] theorem extend_households {hs : List Household} {ss : List Student} {ps : List Parent} :
    (s.extend hs ss ps).households = s.households ++ hs := rfl

theorem sql_ok {α : Type} {f : School → Option (α × School)} {a : α} {s' : School} (h : f s = some (a,s')) :
    sql f ⟨s,false⟩ = (.ok a,⟨s',false⟩) := statement_ok h

theorem sql_refused {α : Type} {f : School → Option (α × School)} (h : f s = none) :
    sql f ⟨s,false⟩ = (.error .refused,⟨s,true⟩) := statement_refused h

theorem createHousehold_ok {name : String} (h : fits (some 255) name = true) :
    sql (School.createHousehold i name) ⟨s,false⟩ =
      (.ok s.households.length,⟨s.extend [⟨⟨name,h⟩,some i⟩] [] [],false⟩) := by
  apply sql_ok
  simp [School.createHousehold,of?_eq_some h,School.extend]

theorem createHousehold_refused {name : String} (h : fits (some 255) name = false) :
    (sql (School.createHousehold i name) ⟨s,false⟩).2.aborted = true := by
  have hnone : School.createHousehold i name s = none := by simp [School.createHousehold,of?_eq_none h]
  rw [sql_refused hnone]

theorem findHousehold_ok {name : String} (h : fits none name = true) :
    sql (School.findHousehold name) ⟨s,false⟩ =
      (.ok (s.households.findIdx? fun x => x.householdName.text = name),⟨s,false⟩) := by
  apply sql_ok
  rw [School.findHousehold,if_pos h]

/-- The household is known under its name, or it is made for the row. -/
theorem householdFor_ok {r : StudentRow} (h : fits (some 255) r.householdText = true) :
    ∃ id households, householdFor i r ⟨s,false⟩ = (.ok id,⟨s.extend households [] [],false⟩) ∧
      households = if r.householdName.isSome ∧ r.householdText ∈ s.knownTo c .students then [] else
        [⟨⟨r.householdText,h⟩,some i⟩] := by
  obtain ⟨firstName,lastName,dateOfBirth,gender,householdName,firstNameAr,lastNameAr⟩ := r
  cases householdName with
  | none => exact ⟨_,_,createHousehold_ok h,by simp [StudentRow.householdText]⟩
  | some name =>
    have hfits : fits none name = true := fits_none_of_fits h
    have hknown : name ∈ s.knownTo c .students ↔ ∃ x ∈ s.households, x.householdName.text = name := by
      simp [School.knownTo]
    simp only [householdFor,bind_ok (findHousehold_ok hfits),StudentRow.householdText,Option.isSome_some,true_and,Option.getD_some,hknown]
    cases hidx : s.households.findIdx? fun x => x.householdName.text = name with
    | some id =>
      obtain ⟨x,hx,hname⟩ : ∃ x ∈ s.households, x.householdName.text = name := by
        by_contra hno
        have hnone : s.households.findIdx? (fun x => x.householdName.text = name) = none :=
          List.findIdx?_eq_none_iff.mpr fun x hx => by simpa using fun hname => hno ⟨x,hx,hname⟩
        rw [hnone] at hidx
        cases hidx
      refine ⟨id,[],?_,(if_pos ⟨x,hx,hname⟩).symm⟩
      rw [extend_nil]
      rfl
    | none =>
      refine ⟨_,_,createHousehold_ok h,(if_neg ?_).symm⟩
      rintro ⟨x,hx,hname⟩
      have hneg := List.findIdx?_eq_none_iff.mp hidx x hx
      simp [hname] at hneg

theorem householdFor_aborts {r : StudentRow} (h : fits (some 255) r.householdText = false) :
    (householdFor i r ⟨s,false⟩).2.aborted = true := by
  obtain ⟨firstName,lastName,dateOfBirth,gender,householdName,firstNameAr,lastNameAr⟩ := r
  cases householdName with
  | none => exact createHousehold_refused h
  | some name =>
    change ((sql (School.findHousehold name) >>= _) _).2.aborted = true
    by_cases hfits : fits none name = true
    · have hmissing : s.households.findIdx? (fun x => x.householdName.text = name) = none := by
        rw [List.findIdx?_eq_none_iff]
        intro x hx
        have hne : ¬x.householdName.text = name := by
          rintro rfl
          have hstorable := x.householdName.storable
          rw [show fits (some 255) x.householdName.text = false from h] at hstorable
          cases hstorable
        simpa using hne
      rw [bind_ok (findHousehold_ok hfits),hmissing]
      exact createHousehold_refused h
    · have hnone : School.findHousehold name s = none := if_neg hfits
      rw [bind_error (sql_refused hnone)]

/-! ## New records -/

theorem fits_of_of?_eq_some {limit : Option ℕ} {text : String} {x : Column limit} (h : Column.of? limit text = some x) :
    fits limit text = true := by
  by_contra hno
  rw [of?_eq_none (eq_false_of_ne_true hno)] at h
  cases h

theorem fits_of_nullable_eq_some {limit : Option ℕ} {o : Option String} {x : Option (Column limit)}
    (h : Column.nullable limit o = some x) : o.all (fits limit) = true := by
  rw [← isSome_nullable,h]
  rfl

theorem exists_record {r : StudentRow} {householdId : ℕ} {values : ℤ × Option Gender} (h : r.storable = true) :
    ∃ student, r.record i householdId values = some student ∧ student.fromRow = some i := by
  simp only [StudentRow.storable,Bool.and_eq_true] at h
  obtain ⟨⟨⟨hfirst,hlast⟩,hfirstAr⟩,hlastAr⟩ := h
  obtain ⟨firstAr,hfirstAr'⟩ := exists_nullable hfirstAr
  obtain ⟨lastAr,hlastAr'⟩ := exists_nullable hlastAr
  have hfullAr : (r.firstNameAr.bind fun first => r.lastNameAr.map fun last => first ++ " " ++ last).all
      (fits (some 255)) = true := by
    cases hf : r.firstNameAr with
    | none => rfl
    | some first =>
      cases hl : r.lastNameAr with
      | none => rfl
      | some last =>
        rw [hf] at hfirstAr
        rw [hl] at hlastAr
        exact fits_fullName hfirstAr hlastAr
  obtain ⟨fullAr,hfullAr'⟩ := exists_nullable hfullAr
  simp only [StudentRow.record,of?_eq_some hfirst,of?_eq_some hlast,of?_eq_some (fits_fullName hfirst hlast),hfirstAr',
    hlastAr',hfullAr',Option.bind_eq_bind,Option.bind_some]
  exact ⟨_,rfl,rfl⟩

theorem storable_of_record {r : StudentRow} {householdId : ℕ} {values : ℤ × Option Gender} {student : Student}
    (h : r.record i householdId values = some student) : r.storable = true := by
  simp only [StudentRow.record,Option.bind_eq_bind,Option.bind_eq_some_iff] at h
  obtain ⟨_,hfirst,_,hlast,_,-,_,hfirstAr,_,hlastAr,-⟩ := h
  simp [StudentRow.storable,fits_of_of?_eq_some hfirst,fits_of_of?_eq_some hlast,fits_of_nullable_eq_some hfirstAr,
    fits_of_nullable_eq_some hlastAr]

theorem exists_parent {r : ParentRow} (hemail : fits none r.email = true) (h : r.storable = true) :
    ∃ parent, r.record i = some parent ∧ parent.fromRow = some i ∧ parent.email.text = r.email := by
  simp only [ParentRow.storable,Bool.and_eq_true] at h
  obtain ⟨⟨⟨hfirst,hlast⟩,hphone⟩,hlabel⟩ := h
  obtain ⟨phone,hphone'⟩ := exists_nullable hphone
  obtain ⟨label,hlabel'⟩ := exists_nullable hlabel
  simp only [ParentRow.record,of?_eq_some hfirst,of?_eq_some hlast,of?_eq_some hemail,hphone',hlabel',Option.bind_eq_bind,
    Option.bind_some]
  exact ⟨_,rfl,rfl,rfl⟩

theorem storable_of_parent {r : ParentRow} {parent : Parent} (h : r.record i = some parent) : r.storable = true := by
  simp only [ParentRow.record,Option.bind_eq_bind,Option.bind_eq_some_iff] at h
  obtain ⟨_,hfirst,_,hlast,_,-,_,hphone,_,hlabel,-⟩ := h
  simp [ParentRow.storable,fits_of_of?_eq_some hfirst,fits_of_of?_eq_some hlast,fits_of_nullable_eq_some hphone,
    fits_of_nullable_eq_some hlabel]

theorem studentVerdict_eq_aborts {known : List String} {r : StudentRow} :
    studentVerdict c known r = .aborts ↔
      fits (some 255) r.householdText = false ∨ (r.values c).isSome ∧ r.storable = false := by
  unfold studentVerdict
  cases hfits : fits (some 255) r.householdText <;> cases hvalues : r.values c <;> cases hstorable : r.storable <;>
    simp <;> split <;> simp

theorem parentVerdict_eq_aborts {known : List String} {r : ParentRow} :
    parentVerdict c known r = .aborts ↔
      fits none r.email = false ∨ c.foldCase r.email ∉ known ∧ r.storable = false := by
  unfold parentVerdict
  cases hfits : fits none r.email <;> by_cases hknown : c.foldCase r.email ∈ known <;> cases hstorable : r.storable <;>
    simp [hknown]

/-- How a row is taken: the transaction goes on, the row returns when it created a record, the records have the
effect of the verdict, and what is known has grown accordingly. -/
def Taken (c : Conventions) (importType : ImportType) (headers row : List String) (i : ℕ) (s : School)
    (run : Except RowError Unit × Tx School) : Prop :=
  ∃ out s', run = (out,⟨s',false⟩) ∧ (out = .ok () ↔ verdict c importType headers (s.knownTo c importType) row = .created) ∧
    Effect [(verdict c importType headers (s.knownTo c importType) row,i)] s s' ∧
    ∀ name, name ∈ s'.knownTo c importType ↔ name ∈ knownAfter c importType headers (s.knownTo c importType) row

/-- A row that is rejected leaves everything as it is. -/
theorem taken_rejected {importType : ImportType} {run : Except RowError Unit × Tx School} {e : RowError}
    (hrun : run = (.error e,⟨s,false⟩)) (h : verdict c importType headers (s.knownTo c importType) row = .rejected) :
    Taken c importType headers row i s run := by
  refine ⟨_,s,hrun,?_,?_,?_⟩
  · simp [h]
  · have heffect : Effect [(.rejected,i)] s (s.extend [] [] []) :=
      effect_extend (by simp) (by simp) (by simp) (by simp) (by simp) (by simp)
    rw [extend_nil] at heffect
    rw [h]
    exact heffect
  · simp [knownAfter,h,Verdict.adds]

/-! ## Student rows -/

theorem inert_sql {α : Type} (f : School → Option (α × School)) : Inert (sql f) := inert_statement _ _ f

theorem inert_householdFor (r : StudentRow) : Inert (householdFor i r) := by
  unfold householdFor
  split
  · refine inert_bind (inert_sql _) fun existing => ?_
    cases existing with
    | some id => exact inert_pure id
    | none => exact inert_sql _
  · exact inert_sql _

theorem inert_processStudentRow : Inert (processStudentRow c i headers row) :=
  inert_bind (inert_require _ _) fun r => inert_bind (inert_householdFor r) fun _ =>
    inert_bind (inert_require _ _) fun _ => inert_sql _

theorem inert_processParentRow : Inert (processParentRow c i headers row) := by
  refine inert_bind (inert_require _ _) fun r => inert_bind (inert_sql _) fun existing => ?_
  split
  · exact inert_throw _
  · exact inert_sql _

section
variable {r : StudentRow}

theorem require_some {α : Type} {a : α} {o : Option α} {e : RowError} {t : Tx School} (h : o = some a) :
    require o e t = (.ok a,t) := by
  rw [h]
  rfl

theorem require_none {α : Type} {o : Option α} {e : RowError} {t : Tx School} (h : o = none) :
    require o e t = (.error e,t) := by
  rw [h]
  rfl

theorem processStudentRow_aborts (hr : studentRow c headers row = some r)
    (h : studentVerdict c (s.knownTo c .students) r = .aborts) :
    (processStudentRow c i headers row ⟨s,false⟩).2.aborted = true := by
  rw [processStudentRow,bind_ok (require_some hr)]
  cases hfits : fits (some 255) r.householdText with
  | false =>
    have hcontinue := fun householdId => inert_bind (inert_require (r.values c) .invalidValue) fun values =>
      inert_sql (School.createStudent r i householdId values)
    exact aborted_bind hcontinue (householdFor_aborts hfits)
  | true =>
    obtain hno | ⟨hvalues,hstorable⟩ := studentVerdict_eq_aborts.mp h
    · rw [hfits] at hno
      cases hno
    obtain ⟨id,households,hrun,-⟩ := householdFor_ok (c := c) (s := s) (i := i) hfits
    obtain ⟨values,hvalues⟩ := Option.isSome_iff_exists.mp hvalues
    rw [bind_ok hrun,bind_ok (require_some hvalues)]
    have hrefused : School.createStudent r i id values (s.extend households [] []) = none := by
      have hrecord : r.record i id values = none := by
        rw [Option.eq_none_iff_forall_ne_some]
        intro student hstudent
        rw [storable_of_record hstudent] at hstorable
        cases hstorable
      rw [School.createStudent,hrecord]
      rfl
    rw [sql_refused hrefused]

/-- The household of a row: one made for the row or none, and known from then on. -/
theorem householdFor_spec (h : fits (some 255) r.householdText = true) :
    ∃ id households, householdFor i r ⟨s,false⟩ = (.ok id,⟨s.extend households [] [],false⟩) ∧
      (∀ x ∈ households, x.fromRow = some i) ∧
      (r.householdName.isSome ∧ r.householdText ∈ s.knownTo c .students → households = []) ∧
      (¬(r.householdName.isSome ∧ r.householdText ∈ s.knownTo c .students) → households.length = 1) ∧
      ∀ name, name ∈ (s.households ++ households).map (·.householdName.text) ↔
        name = r.householdText ∨ name ∈ s.knownTo c .students := by
  obtain ⟨id,households,hrun,hhouseholds⟩ := householdFor_ok (c := c) (s := s) (i := i) h
  refine ⟨id,households,hrun,?_⟩
  by_cases hin : r.householdName.isSome ∧ r.householdText ∈ s.knownTo c .students
  · rw [if_pos hin] at hhouseholds
    subst hhouseholds
    have hsub : ∀ name, name = r.householdText → name ∈ s.knownTo c .students := fun name heq => heq ▸ hin.2
    simpa [hin,School.knownTo] using hsub
  · rw [if_neg hin] at hhouseholds
    subst hhouseholds
    exact ⟨by simp,fun h' => absurd h' hin,fun _ => rfl,fun name => by simp [School.knownTo,or_comm]⟩

/-- A row with its values creates its student, in a household that is known or made for it. -/
theorem processStudentRow_created {values : ℤ × Option Gender} (hr : studentRow c headers row = some r)
    (hfits : fits (some 255) r.householdText = true) (hvalues : r.values c = some values) (hstorable : r.storable = true) :
    Taken c .students headers row i s (processStudentRow c i headers row ⟨s,false⟩) := by
  have hverdict : verdict c .students headers (s.knownTo c .students) row = .created := by
    simp [verdict,hr,studentVerdict,hfits,hvalues,hstorable]
  obtain ⟨id,households,hrun,hfrom,-,-,hknown⟩ := householdFor_spec (c := c) (s := s) (i := i) hfits
  obtain ⟨student,hstudent,hrow⟩ : ∃ student, r.record i id values = some student ∧ student.fromRow = some i :=
    exists_record hstorable
  have hcreate : School.createStudent r i id values (s.extend households [] []) =
      some ((),s.extend households [student] []) := by
    simp [School.createStudent,hstudent,School.extend]
  have hfinal : processStudentRow c i headers row ⟨s,false⟩ = (.ok (),⟨s.extend households [student] [],false⟩) := by
    rw [processStudentRow,bind_ok (require_some hr),bind_ok hrun,bind_ok (require_some hvalues),sql_ok hcreate]
  refine ⟨_,_,hfinal,?_,?_,fun name => (hknown name).trans ?_⟩
  · simp [hverdict]
  · rw [hverdict]
    exact effect_extend hfrom (by simp [hrow]) (by simp) (by simp) (by simp) (by simp)
  · simp [knownAfter,hverdict,Verdict.adds,keyOf,hr]

/-- A date or a gender that the client does not take is noticed when the household is there already. -/
theorem processStudentRow_invalid (hr : studentRow c headers row = some r)
    (hfits : fits (some 255) r.householdText = true) (hvalues : r.values c = none) :
    Taken c .students headers row i s (processStudentRow c i headers row ⟨s,false⟩) := by
  obtain ⟨id,households,hrun,hfrom,hnone,hone,hknown⟩ := householdFor_spec (c := c) (s := s) (i := i) hfits
  have hfinal : processStudentRow c i headers row ⟨s,false⟩ =
      (.error .invalidValue,⟨s.extend households [] [],false⟩) := by
    rw [processStudentRow,bind_ok (require_some hr),bind_ok hrun,bind_error (require_none hvalues)]
  by_cases hin : r.householdName.isSome ∧ r.householdText ∈ s.knownTo c .students
  · rw [hnone hin,extend_nil] at hfinal
    refine taken_rejected hfinal ?_
    simp [verdict,hr,studentVerdict,hfits,hvalues,hin]
  · have hverdict : verdict c .students headers (s.knownTo c .students) row = .leavesHousehold := by
      simp [verdict,hr,studentVerdict,hfits,hvalues,hin]
    refine ⟨_,_,hfinal,?_,?_,fun name => (hknown name).trans ?_⟩
    · simp [hverdict]
    · rw [hverdict]
      exact effect_extend hfrom (by simp) (by simp) (by simp) (fun _ => hone hin) (by simp)
    · simp [knownAfter,hverdict,Verdict.adds,keyOf,hr]

theorem processStudentRow_taken (hr : studentRow c headers row = some r)
    (h : studentVerdict c (s.knownTo c .students) r ≠ .aborts) :
    Taken c .students headers row i s (processStudentRow c i headers row ⟨s,false⟩) := by
  have hlive := fun hno => h (studentVerdict_eq_aborts.mpr hno)
  have hfits : fits (some 255) r.householdText = true := by
    by_contra hno
    exact hlive (.inl (eq_false_of_ne_true hno))
  cases hvalues : r.values c with
  | none => exact processStudentRow_invalid hr hfits hvalues
  | some values =>
    have hstorable : r.storable = true := by
      by_contra hno
      exact hlive (.inr ⟨by simp [hvalues],eq_false_of_ne_true hno⟩)
    exact processStudentRow_created hr hfits hvalues hstorable

end

/-! ## Parent rows -/

section
variable {r : ParentRow}

theorem findParent_ok (h : fits none r.email = true) :
    sql (School.findParent c r.email) ⟨s,false⟩ = (.ok (decide (c.foldCase r.email ∈ s.knownTo c .parents)),⟨s,false⟩) := by
  apply sql_ok
  rw [School.findParent,if_pos h]
  have hany : (s.parents.any fun p => c.foldCase p.email.text = c.foldCase r.email) =
      decide (c.foldCase r.email ∈ s.knownTo c .parents) := by
    rw [Bool.eq_iff_iff]
    simp [School.knownTo]
  rw [hany]

theorem processParentRow_aborts (hr : parentRow c headers row = some r)
    (h : parentVerdict c (s.knownTo c .parents) r = .aborts) :
    (processParentRow c i headers row ⟨s,false⟩).2.aborted = true := by
  rw [processParentRow,bind_ok (require_some hr)]
  cases hfits : fits none r.email with
  | false =>
    have hrefused : School.findParent c r.email s = none := by
      rw [School.findParent,if_neg (by simp [hfits])]
    rw [bind_error (sql_refused hrefused)]
  | true =>
    obtain hno | ⟨hknown,hstorable⟩ := parentVerdict_eq_aborts.mp h
    · rw [hfits] at hno
      cases hno
    have hrefused : School.createParent r i s = none := by
      have hrecord : r.record i = none := by
        rw [Option.eq_none_iff_forall_ne_some]
        intro parent hparent
        rw [storable_of_parent hparent] at hstorable
        cases hstorable
      rw [School.createParent,hrecord]
      rfl
    rw [bind_ok (findParent_ok hfits),decide_eq_false hknown,if_neg (by simp),sql_refused hrefused]

theorem processParentRow_taken (hr : parentRow c headers row = some r)
    (h : parentVerdict c (s.knownTo c .parents) r ≠ .aborts) :
    Taken c .parents headers row i s (processParentRow c i headers row ⟨s,false⟩) := by
  have hlive := fun hno => h (parentVerdict_eq_aborts.mpr hno)
  have hfits : fits none r.email = true := by
    by_contra hno
    exact hlive (.inl (eq_false_of_ne_true hno))
  by_cases hknown : c.foldCase r.email ∈ s.knownTo c .parents
  · have hfinal : processParentRow c i headers row ⟨s,false⟩ = (.error (.parentExists r.email),⟨s,false⟩) := by
      rw [processParentRow,bind_ok (require_some hr),bind_ok (findParent_ok hfits),decide_eq_true hknown,if_pos rfl]
      rfl
    refine taken_rejected hfinal ?_
    simp [verdict,hr,parentVerdict,hfits,hknown]
  · have hstorable : r.storable = true := by
      by_contra hno
      exact hlive (.inr ⟨hknown,eq_false_of_ne_true hno⟩)
    have hverdict : verdict c .parents headers (s.knownTo c .parents) row = .created := by
      simp [verdict,hr,parentVerdict,hfits,hknown,hstorable]
    obtain ⟨parent,hparent,hrow,hemail⟩ := exists_parent (i := i) hfits hstorable
    have hcreate : School.createParent r i s = some ((),s.extend [] [] [parent]) := by
      simp [School.createParent,hparent,School.extend]
    have hfinal : processParentRow c i headers row ⟨s,false⟩ = (.ok (),⟨s.extend [] [] [parent],false⟩) := by
      rw [processParentRow,bind_ok (require_some hr),bind_ok (findParent_ok hfits),decide_eq_false hknown,if_neg (by simp),
        sql_ok hcreate]
    refine ⟨_,_,hfinal,?_,?_,fun name => ?_⟩
    · simp [hverdict]
    · rw [hverdict]
      exact effect_extend (by simp) (by simp) (by simp [hrow]) (by simp) (by simp) (by simp)
    · have hafter : knownAfter c .parents headers (s.knownTo c .parents) row = c.foldCase r.email :: s.knownTo c .parents := by
        simp [knownAfter,hverdict,Verdict.adds,keyOf,hr]
      rw [hafter]
      simp [School.knownTo,School.extend,hemail,or_comm]

end

/-! ## Rows of any import -/

section
variable {importType : ImportType}

theorem inert_processRow : Inert (processRow c importType i headers row) := by
  cases importType with
  | students => exact inert_processStudentRow
  | parents => exact inert_processParentRow
  | staff | fees | examResults | staffCompensation => exact inert_throw _

theorem processRow_aborts (h : verdict c importType headers (s.knownTo c importType) row = .aborts) :
    (processRow c importType i headers row ⟨s,false⟩).2.aborted = true := by
  cases importType with
  | students =>
    cases hr : studentRow c headers row with
    | none => simp [verdict,hr] at h
    | some r => exact processStudentRow_aborts hr (by simpa [verdict,hr] using h)
  | parents =>
    cases hr : parentRow c headers row with
    | none => simp [verdict,hr] at h
    | some r => exact processParentRow_aborts hr (by simpa [verdict,hr] using h)
  | staff | fees | examResults | staffCompensation => simp [verdict] at h

theorem processRow_taken (h : verdict c importType headers (s.knownTo c importType) row ≠ .aborts) :
    Taken c importType headers row i s (processRow c importType i headers row ⟨s,false⟩) := by
  cases importType with
  | students =>
    cases hr : studentRow c headers row with
    | none =>
      have hrun : processRow c .students i headers row ⟨s,false⟩ = (.error .missingFields,⟨s,false⟩) :=
        bind_error (require_none hr)
      exact taken_rejected hrun (by simp [verdict,hr])
    | some r => exact processStudentRow_taken hr (by simpa [verdict,hr] using h)
  | parents =>
    cases hr : parentRow c headers row with
    | none =>
      have hrun : processRow c .parents i headers row ⟨s,false⟩ = (.error .missingFields,⟨s,false⟩) :=
        bind_error (require_none hr)
      exact taken_rejected hrun (by simp [verdict,hr])
    | some r => exact processParentRow_taken hr (by simpa [verdict,hr] using h)
  | staff | fees | examResults | staffCompensation => exact taken_rejected rfl rfl

end

end
end EduPod.Imports
