import EduPod.Foundation.Grouping
import EduPod.Foundation.TableBulk
import EduPod.Finance.RecurringInvoices

/-! # Generating invoices from fee assignments

The preview prices every open assignment of the selected fee structures; confirming it bills each
household for its lines that are not left out. Amounts are in cents.
-/
namespace EduPod.Finance.FeeGeneration
open Fallible Grouping

structure Household where
  primaryBillingParentId : Option ℕ

structure Student where
  active : Bool
  yearGroupId : Option ℕ
  classIds : List ℕ
  householdId : ℕ

structure FeeStructure where
  name : String
  amount : ℤ
  yearGroupId : Option ℕ

structure HouseholdFeeAssignment where
  householdId : ℕ
  studentId : Option ℕ
  feeStructureId : ℕ
  discount : Option (String × Discount)
  effectiveTo : Option CivilDate

structure InvoiceLine where
  unitAmount : ℤ
  lineTotal : ℤ
  studentId : Option ℕ
  feeStructureId : Option ℕ
  billingPeriodStart : CivilDate
  billingPeriodEnd : CivilDate

structure Invoice where
  householdId : ℕ
  status : InvoiceStatus
  dueDate : CivilDate
  subtotalAmount : ℤ
  discountAmount : ℤ
  totalAmount : ℤ
  balanceAmount : ℤ
  lines : List InvoiceLine

/-- The tables of one tenant; every assignment refers to a fee structure that exists. -/
structure School where
  tenantExists : Bool
  students : Table Student
  households : Table Household
  feeStructures : Table FeeStructure
  assignments : Table HouseholdFeeAssignment
  invoices : Table Invoice
  referenced : assignments.All fun a => (feeStructures.get? a.feeStructureId).isSome

structure FeeGenerationDto where
  yearGroupIds : List ℕ
  feeStructureIds : List ℕ
  billingPeriodStart : CivilDate
  billingPeriodEnd : CivilDate
  dueDate : CivilDate
  excludedHouseholdIds : List ℕ

structure PreviewLine where
  householdId : ℕ
  studentId : Option ℕ
  feeStructureId : ℕ
  baseAmount : ℤ
  discountName : Option String
  discountAmount : ℤ
  lineTotal : ℤ
  isDuplicate : Bool
  missingBillingParent : Bool

structure PreviewSummary where
  totalHouseholds : ℕ
  totalLines : ℕ
  totalAmount : ℤ
  duplicatesExcluded : ℕ
  missingBillingParentCount : ℕ

inductive FeeGenerationError
  | noValidLines | tenantNotFound | lineTotalCheck
  deriving DecidableEq, Repr

def inYearGroups (dto : FeeGenerationDto) (feeStructure : FeeStructure) (student : Option Student) : Bool :=
  match feeStructure.yearGroupId with
  | some yearGroupId => yearGroupId ∈ dto.yearGroupIds
  | none => (student.bind (·.yearGroupId)).all fun yearGroupId => yearGroupId ∈ dto.yearGroupIds

/-- What the period's lines on invoices that still stand have billed. -/
def duplicateKeys (school : School) (dto : FeeGenerationDto) : List (ℕ × ℕ × Option ℕ) :=
  (school.invoices.select fun i => i.status ∉ [InvoiceStatus.void,.cancelled]).flatMap fun row =>
    row.2.lines.filterMap fun line => line.feeStructureId.bind fun feeStructureId =>
      if feeStructureId ∈ dto.feeStructureIds ∧ line.billingPeriodStart = dto.billingPeriodStart ∧
          line.billingPeriodEnd = dto.billingPeriodEnd then
        some (row.2.householdId,feeStructureId,line.studentId)
      else none

/-- What a percentage comes to when the product is divided last, in cents and not yet rounded to whole ones. -/
def productByHundred (baseAmount percentage : ℤ) : ℚ :=
  toDouble (toDouble (toDouble (toNumber baseAmount * toNumber percentage) / 100) * 100)

def discountAmount (baseAmount : ℤ) : Option (String × Discount) → ℤ
  | none => 0
  | some (_,discount) =>
    match discount.discountType with
    | .percent => roundMoney (productByHundred baseAmount discount.value)
    | .fixed => min discount.value baseAmount

/-- The line of an assignment, unless the selected year groups leave it out. -/
def previewLine (school : School) (dto : FeeGenerationDto) (assignment : HouseholdFeeAssignment) :
    Option PreviewLine := do
  let feeStructure ← school.feeStructures.get? assignment.feeStructureId
  let household ← school.households.get? assignment.householdId
  if inYearGroups dto feeStructure (assignment.studentId.bind school.students.get?) then
    some {
      householdId := assignment.householdId
      studentId := assignment.studentId
      feeStructureId := assignment.feeStructureId
      baseAmount := feeStructure.amount
      discountName := assignment.discount.map Prod.fst
      discountAmount := discountAmount feeStructure.amount assignment.discount
      lineTotal := roundMoney (feeStructure.amount - discountAmount feeStructure.amount assignment.discount : ℤ)
      isDuplicate := (duplicateKeys school dto).contains
        (assignment.householdId,assignment.feeStructureId,assignment.studentId)
      missingBillingParent := household.primaryBillingParentId.isNone }
  else none

def selectedAssignments (school : School) (dto : FeeGenerationDto) : List (ℕ × HouseholdFeeAssignment) :=
  school.assignments.select fun a => a.feeStructureId ∈ dto.feeStructureIds ∧ a.effectiveTo.isNone

def previewLines (school : School) (dto : FeeGenerationDto) : List PreviewLine :=
  (selectedAssignments school dto).filterMap fun row => previewLine school dto row.2

def preview (school : School) (dto : FeeGenerationDto) : List PreviewLine × PreviewSummary :=
  let lines := previewLines school dto
  let fresh := lines.filter fun l => !l.isDuplicate
  (lines,{
    totalHouseholds := (fresh.map (·.householdId)).eraseDups.length
    totalLines := fresh.length
    totalAmount := roundMoney ((fresh.map (·.lineTotal)).sum : ℤ)
    duplicatesExcluded := lines.countP (·.isDuplicate)
    missingBillingParentCount := lines.countP (·.missingBillingParent) })

def isValidLine (dto : FeeGenerationDto) (line : PreviewLine) : Bool :=
  !line.isDuplicate && line.householdId ∉ dto.excludedHouseholdIds && !line.missingBillingParent

def invoiceFor (dto : FeeGenerationDto) (group : ℕ × List PreviewLine) : Invoice :=
  let subtotal := roundMoney ((group.2.map (·.lineTotal)).sum : ℤ)
  { householdId := group.1
    status := .draft
    dueDate := dto.dueDate
    subtotalAmount := roundMoney ((group.2.map (·.baseAmount)).sum : ℤ)
    discountAmount := roundMoney ((group.2.map (·.discountAmount)).sum : ℤ)
    totalAmount := subtotal
    balanceAmount := subtotal
    lines := group.2.map fun line => {
      unitAmount := line.baseAmount
      lineTotal := line.lineTotal
      studentId := line.studentId
      feeStructureId := some line.feeStructureId
      billingPeriodStart := dto.billingPeriodStart
      billingPeriodEnd := dto.billingPeriodEnd } }

structure ConfirmResult where
  totalAmount : ℤ
  invoices : List Invoice

/-- The check constraint on invoice lines, whose quantity is one here. -/
def LinesPass (validLines : List PreviewLine) : Prop := ∀ line ∈ validLines, line.lineTotal = line.baseAmount

instance (validLines : List PreviewLine) : Decidable (LinesPass validLines) := inferInstanceAs (Decidable (∀ _ ∈ _, _))

def confirm (school : School) (dto : FeeGenerationDto) : Except FeeGenerationError (School × ConfirmResult) := do
  let validLines := (preview school dto).1.filter (isValidLine dto)
  ensure (validLines ≠ []) .noValidLines
  ensure (school.tenantExists = true) .tenantNotFound
  ensure (LinesPass validLines) .lineTotalCheck
  let created := (groupBy (·.householdId) validLines).map (invoiceFor dto)
  return ({ school with invoices := school.invoices.insertAll created },{
    totalAmount := roundMoney ((created.map (·.totalAmount)).sum : ℤ)
    invoices := created })

/-! ## What a confirmed run bills -/

variable {school school' : School} {dto : FeeGenerationDto} {result : ConfirmResult}

/-- The invoices of a run bill its valid lines, each once. -/
theorem confirm_total (h : confirm school dto = .ok (school',result)) :
    (result.invoices.map (·.totalAmount)).sum =
      (((previewLines school dto).filter (isValidLine dto)).map (·.lineTotal)).sum := by
  simp only [confirm,bind_eq_ok,ensure_eq_ok,pure_eq_ok] at h
  obtain ⟨_,-,_,-,_,-,he⟩ := h
  have hinvoices := congrArg (fun r : School × ConfirmResult => r.2.invoices) he
  simp only at hinvoices
  rw [← hinvoices,List.map_map]
  have hgroup : (fun i : Invoice => i.totalAmount) ∘ invoiceFor dto = fun g => (g.2.map (·.lineTotal)).sum := by
    funext g
    exact roundMoney_intCast _
  rw [hgroup]
  exact sum_map_groupBy

theorem previewLines_eq : previewLines school dto =
    ((selectedAssignments school dto).map Prod.snd).filterMap (previewLine school dto) := by
  rw [List.filterMap_map]
  rfl

/-- The line of an assignment that nothing leaves out is its fee less the discount. -/
theorem lineTotal_of_previewLine {assignment : HouseholdFeeAssignment} {line : PreviewLine} {feeStructure : FeeStructure}
    (h : previewLine school dto assignment = some line)
    (hfee : school.feeStructures.get? assignment.feeStructureId = some feeStructure) :
    line.lineTotal = feeStructure.amount - discountAmount feeStructure.amount assignment.discount := by
  simp only [previewLine,hfee,Option.bind_eq_bind,Option.bind_some,Option.bind_eq_some_iff] at h
  obtain ⟨household,-,h⟩ := h
  split at h
  · cases h
    exact roundMoney_intCast _
  · cases h

end EduPod.Finance.FeeGeneration
