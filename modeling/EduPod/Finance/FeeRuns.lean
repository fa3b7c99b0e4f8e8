import EduPod.Foundation.Processes
import EduPod.Finance.FeeGeneration

/-! # Confirming fee runs side by side

A confirmed run looks once for what is billed already, before its transaction, and only among stored
invoices. In the meantime other runs may be billed, and invoices be voided or cancelled.
-/
namespace EduPod.Finance.FeeGeneration
open Fallible Grouping Processes Runs

inductive Request
  | confirm (dto : FeeGenerationDto)
  | withdraw (invoiceId : ℕ) (status : InvoiceStatus)

inductive Process
  | opened (request : Request)
  | billing (dto : FeeGenerationDto) (validLines : List PreviewLine)

/-- The transaction of a confirmed run, which fails as a whole if a line does. -/
def bill (school : School) (dto : FeeGenerationDto) (validLines : List PreviewLine) : School :=
  if LinesPass validLines then
    { school with invoices := school.invoices.insertAll ((groupBy (·.householdId) validLines).map (invoiceFor dto)) }
  else school

def withdraw (school : School) (invoiceId : ℕ) (status : InvoiceStatus) : School :=
  if status ∈ [InvoiceStatus.void,.cancelled] then
    { school with invoices := school.invoices.modify invoiceId fun i => { i with status } }
  else school

def act (school : School) (process : Process) (_ : Unit) : School × Option Process :=
  match process with
  | .opened (.confirm dto) =>
    let validLines := (preview school dto).1.filter (isValidLine dto)
    (school,if validLines ≠ [] ∧ school.tenantExists then some (.billing dto validLines) else none)
  | .opened (.withdraw invoiceId status) => (withdraw school invoiceId status,none)
  | .billing dto validLines => (bill school dto validLines,none)

def protocol : Protocol School Process Request Unit := ⟨.opened,act⟩

/-- With nobody in between, reading and billing are a confirmed run. -/
theorem confirm_ok_iff {school school' : School} {dto : FeeGenerationDto} :
    (∃ result, confirm school dto = .ok (school',result)) ↔
      ∃ validLines, (act school (.opened (.confirm dto)) ()).2 = some (.billing dto validLines) ∧ LinesPass validLines ∧
        (act school (.billing dto validLines) ()).1 = school' := by
  simp only [confirm,bind_eq_ok,ensure_eq_ok,pure_eq_ok,act]
  constructor
  · rintro ⟨_,_,hlines,_,htenant,_,hpass,he⟩
    refine ⟨_,if_pos ⟨hlines,htenant⟩,hpass,?_⟩
    rw [bill,if_pos hpass]
    exact congrArg Prod.fst he
  · rintro ⟨validLines,hprocess,hpass,rfl⟩
    split at hprocess
    · rename_i h
      cases hprocess
      rw [bill,if_pos hpass]
      exact ⟨_,(),h.1,(),h.2,(),hpass,rfl⟩
    · cases hprocess

/-! ## What is billed -/

/-- Household, fee structure, student and billing period of a line. -/
abbrev Key := ℕ × ℕ × Option ℕ × CivilDate × CivilDate

def Invoice.keys (i : Invoice) : List Key :=
  i.lines.filterMap fun line => line.feeStructureId.map fun feeStructureId =>
    (i.householdId,feeStructureId,line.studentId,line.billingPeriodStart,line.billingPeriodEnd)

def Invoice.Stands (i : Invoice) : Prop := i.status ∉ [InvoiceStatus.void,.cancelled]

instance (i : Invoice) : Decidable i.Stands := inferInstanceAs (Decidable (_ ∉ _))

def billedKeys (school : School) : List Key :=
  ((school.invoices.select fun i => i.Stands).map Prod.snd).flatMap Invoice.keys

def PreviewLine.key (dto : FeeGenerationDto) (line : PreviewLine) : Key :=
  (line.householdId,line.feeStructureId,line.studentId,dto.billingPeriodStart,dto.billingPeriodEnd)

/-- The amounts of an invoice add up. -/
structure Invoice.Exact (i : Invoice) : Prop where
  discounted : i.subtotalAmount - i.discountAmount = i.totalAmount
  lines : i.totalAmount = (i.lines.map (·.lineTotal)).sum

/-- Nothing is billed twice on invoices that stand, and the invoices generated since add up. -/
structure Billed (first : ℕ) (school : School) : Prop where
  once : (billedKeys school).Nodup
  exact : ∀ id i, first ≤ id → school.invoices.get? id = some i → i.Exact

/-- The lines of a run that is about to be billed, and whose transaction does not fail, name each household,
fee structure and student once, and none that is billed by now. -/
def Unbilled (school : School) (process : Process) (_ : Unit) : Prop :=
  match process with
  | .billing dto validLines => LinesPass validLines → (validLines.map (PreviewLine.key dto)).Nodup ∧
    ∀ line ∈ validLines, line.key dto ∉ billedKeys school
  | _ => True

section
variable {school : School} {dto : FeeGenerationDto} {validLines : List PreviewLine} {first : ℕ}

/-! ## Lines -/

/-- A line is the fee less the discount. -/
def PreviewLine.Exact (line : PreviewLine) : Prop := line.lineTotal = line.baseAmount - line.discountAmount

theorem PreviewLine.exact_of_previewLine {assignment : HouseholdFeeAssignment} {line : PreviewLine}
    (h : previewLine school dto assignment = some line) : line.Exact := by
  simp only [previewLine,Option.bind_eq_bind,Option.bind_eq_some_iff] at h
  obtain ⟨feeStructure,-,household,-,h⟩ := h
  split at h
  · cases h
    exact roundMoney_intCast _
  · cases h

def Priced (_ : School) : Process → Prop
  | .billing _ validLines => ∀ line ∈ validLines, line.Exact
  | _ => True

theorem kept_priced : Kept protocol (fun _ => True) Priced where
  opened := fun _ _ _ => trivial
  store := fun _ _ _ _ _ => trivial
  own := by
    intro school process _ next _ _ hnext
    cases process with
    | opened request =>
      cases request with
      | confirm dto =>
        simp only [protocol,act] at hnext
        split at hnext
        · obtain rfl := Option.some.inj hnext
          intro line hline
          obtain ⟨row,-,hrow⟩ := List.mem_filterMap.mp (List.mem_filter.mp hline).1
          exact PreviewLine.exact_of_previewLine hrow
        · cases hnext
      | withdraw invoiceId status => cases hnext
    | billing dto validLines => cases hnext
  others := by
    intro _ _ _ other _ _ h
    cases other with
    | opened request => trivial
    | billing dto validLines => exact h

/-! ## Billing -/

theorem sum_lineTotal {lines : List PreviewLine} (h : ∀ line ∈ lines, line.Exact) :
    (lines.map (·.baseAmount)).sum - (lines.map (·.discountAmount)).sum = (lines.map (·.lineTotal)).sum := by
  induction lines with
  | nil => rfl
  | cons line lines ih =>
    have hline := h line List.mem_cons_self
    have hlines := ih fun l hl => h l (List.mem_cons_of_mem _ hl)
    rw [PreviewLine.Exact] at hline
    simp only [List.map_cons,List.sum_cons]
    omega

theorem exact_invoiceFor {group : ℕ × List PreviewLine} (h : ∀ line ∈ group.2, line.Exact) : (invoiceFor dto group).Exact where
  discounted := by
    simp only [invoiceFor,roundMoney_intCast]
    exact sum_lineTotal h
  lines := by
    simp only [invoiceFor,roundMoney_intCast,List.map_map]
    rfl

theorem stands_invoiceFor (group : ℕ × List PreviewLine) : (invoiceFor dto group).Stands := by
  simp [Invoice.Stands,invoiceFor]

theorem keys_invoiceFor {group : ℕ × List PreviewLine} (h : group ∈ groupBy (·.householdId) validLines) :
    (invoiceFor dto group).keys = group.2.map (PreviewLine.key dto) := by
  have hhousehold : ∀ line ∈ group.2, line.householdId = group.1 := by
    intro line hline
    rw [(mem_groupBy.mp h).2] at hline
    simpa using (List.mem_filter.mp hline).2
  simp only [Invoice.keys,invoiceFor,List.filterMap_map]
  rw [← List.filterMap_eq_map]
  refine List.filterMap_congr fun line hline => ?_
  simp [PreviewLine.key,hhousehold line hline]

theorem billedKeys_bill (h : LinesPass validLines) : (billedKeys (bill school dto validLines)).Perm
    (billedKeys school ++ validLines.map (PreviewLine.key dto)) := by
  have hstands : ((groupBy (·.householdId) validLines).map (invoiceFor dto)).filter (fun i => decide i.Stands) =
      (groupBy (·.householdId) validLines).map (invoiceFor dto) := by
    refine List.filter_eq_self.mpr fun i hi => ?_
    obtain ⟨group,-,rfl⟩ := List.mem_map.mp hi
    exact decide_eq_true (stands_invoiceFor group)
  have hkeys : ((groupBy (·.householdId) validLines).map (invoiceFor dto)).flatMap Invoice.keys =
      ((groupBy (·.householdId) validLines).flatMap Prod.snd).map (PreviewLine.key dto) := by
    rw [List.flatMap_map,List.map_flatMap]
    exact List.flatMap_congr fun group hgroup => keys_invoiceFor hgroup
  rw [billedKeys,bill,if_pos h,Table.map_select_insertAll,List.flatMap_append,hstands,hkeys]
  exact (perm_flatMap_groupBy.map _).append_left _

theorem nodup_bill_iff (h : (billedKeys school).Nodup) (hpass : LinesPass validLines) :
    (billedKeys (bill school dto validLines)).Nodup ↔
      (validLines.map (PreviewLine.key dto)).Nodup ∧ ∀ line ∈ validLines, line.key dto ∉ billedKeys school := by
  rw [(billedKeys_bill hpass).nodup_iff,List.nodup_append']
  constructor
  · rintro ⟨-,hlines,hdisjoint⟩
    exact ⟨hlines,fun line hline hbilled => hdisjoint hbilled (List.mem_map_of_mem hline)⟩
  · rintro ⟨hlines,hnew⟩
    refine ⟨h,hlines,fun key hbilled hkey => ?_⟩
    obtain ⟨line,hline,rfl⟩ := List.mem_map.mp hkey
    exact hnew line hline hbilled

theorem exact_bill (hpass : LinesPass validLines) (h : ∀ id i, first ≤ id → school.invoices.get? id = some i → i.Exact)
    (hlines : ∀ line ∈ validLines, line.Exact) :
    ∀ id i, first ≤ id → (bill school dto validLines).invoices.get? id = some i → i.Exact := by
  intro id i hid hi
  rw [bill,if_pos hpass] at hi
  rcases Table.get?_insertAll_cases hi with hold | ⟨-,hnew⟩
  · exact h id i hid hold
  · obtain ⟨group,hgroup,rfl⟩ := List.mem_map.mp hnew
    refine exact_invoiceFor fun line hline => hlines line ?_
    rw [(mem_groupBy.mp hgroup).2] at hline
    exact (List.mem_filter.mp hline).1

/-! ## Withdrawing -/

theorem billedKeys_withdraw (invoiceId : ℕ) (status : InvoiceStatus) :
    (billedKeys (withdraw school invoiceId status)).Sublist (billedKeys school) := by
  unfold withdraw
  split
  · rename_i hstatus
    simp only [billedKeys,Table.select,Table.modify]
    induction school.invoices.rows with
    | nil => exact List.Sublist.refl _
    | cons row rows ih =>
      by_cases hrow : row.1 = invoiceId
      · have hgone : ¬ Invoice.Stands { row.2 with status } := fun hs => hs hstatus
        simp only [List.map_cons,if_pos hrow,List.filter_cons,hgone,decide_false,Bool.false_eq_true,if_false]
        split
        · exact ih.trans (List.sublist_append_right _ _)
        · exact ih
      · simp only [List.map_cons,if_neg hrow,List.filter_cons]
        split
        · exact ih.append_left _
        · exact ih
  · exact List.Sublist.refl _

theorem billed_withdraw (h : Billed first school) (invoiceId : ℕ) (status : InvoiceStatus) :
    Billed first (withdraw school invoiceId status) := by
  refine ⟨(billedKeys_withdraw invoiceId status).nodup h.once,?_⟩
  unfold withdraw
  split
  · intro id i hid hi
    rw [Table.get?_modify] at hi
    split at hi
    · obtain ⟨old,hold,rfl⟩ := Option.map_eq_some_iff.mp hi
      exact ⟨(h.exact id old hid hold).discounted,(h.exact id old hid hold).lines⟩
    · exact h.exact id i hid hi
  · exact h.exact

theorem billed_act_iff (h : Billed first school) {process : Process} (hp : Priced school process) (input : Unit) :
    Billed first (act school process input).1 ↔ Unbilled school process input := by
  cases process with
  | opened request =>
    cases request with
    | confirm dto => exact iff_of_true h trivial
    | withdraw invoiceId status => exact iff_of_true (billed_withdraw h invoiceId status) trivial
  | billing dto validLines =>
    by_cases hpass : LinesPass validLines
    · constructor
      · exact fun h' _ => (nodup_bill_iff h.once hpass).mp h'.once
      · exact fun hnew => ⟨(nodup_bill_iff h.once hpass).mpr (hnew hpass),exact_bill hpass h.exact hp⟩
    · refine iff_of_true ?_ fun hp => absurd hp hpass
      rwa [act,bill,if_neg hpass]

end

def tuition : Table FeeStructure := Table.empty.insert ⟨"Tuition",10000,none⟩

def tuitionAssigned : Table HouseholdFeeAssignment := Table.empty.insert ⟨0,none,0,none,none⟩

theorem referenced_tuitionAssigned : tuitionAssigned.All fun a => (tuition.get? a.feeStructureId).isSome :=
  (Table.all_empty _).insert rfl

/-- A household with one assignment of a fee of 100.00. -/
def oneAssignment : School where
  tenantExists := true
  students := Table.empty
  households := Table.empty.insert ⟨some 0⟩
  feeStructures := tuition
  assignments := tuitionAssigned
  invoices := Table.empty
  referenced := referenced_tuitionAssigned

theorem nodup_oneAssignment : (billedKeys oneAssignment).Nodup := List.nodup_nil

def firstTerm : FeeGenerationDto := ⟨[],[0],CivilDate.ofEpochDay 0,CivilDate.ofEpochDay 90,CivilDate.ofEpochDay 30,[]⟩

def oneRun : List (Event Request Unit) := [.start (.confirm firstTerm),.act 0 (),.act 0 ()]

end EduPod.Finance.FeeGeneration
