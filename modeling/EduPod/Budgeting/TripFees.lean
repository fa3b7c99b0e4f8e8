import EduPod.Budgeting.EventEngine
import EduPod.Finance.FeeGeneration

/-! # Pushing the cost of a trip into the fees

The preview shows what each household would be invoiced next to the engine's total. Generating the
fees creates a fee structure of the per-student cost and one assignment for each participant, which
fee generation then bills.
-/
namespace EduPod.Budgeting
open Fallible Grouping Rounding Finance.FeeGeneration

inductive EventBudgetStatus
  | draft | confirmed | feesGenerated | completed | cancelled
  deriving DecidableEq, Repr

inductive EventBudgetPaymentPlan
  | oneOff | twoPayments | threePayments | fourPayments
  deriving DecidableEq, Repr

inductive TripFeeMode
  | free | costRecovery | subsidised | paymentPlan
  deriving DecidableEq, Repr

structure EventBudget where
  name : String
  eventDate : Option CivilDate
  classId : Option ℕ
  yearGroupId : Option ℕ
  participantCount : ℕ
  drivers : EventDrivers
  status : EventBudgetStatus
  householdSharePct : {pct : ℚ // 0 ≤ pct ∧ pct ≤ 100}
  paymentPlan : EventBudgetPaymentPlan
  feeGenerationRunId : Option ℕ
  feeStructureId : Option ℕ

/-- The tenant's event budgets beside the tables that fees live in. -/
structure Office where
  school : School
  eventBudgets : Table EventBudget

structure Membership where
  isOwner : Bool
  permissions : List String

inductive TripFeeError
  | eventBudgetNotFound
  | eventBudgetNotConfirmed (status : EventBudgetStatus)
  | eventBudgetFreeTrip | confirmationRequired | noParticipants | paymentDatesInvalid
  | noActiveMembership | permissionStackDenied (missing : List String)
  | feeStructureNameTaken
  deriving DecidableEq, Repr

/-! ## Participants -/

structure ParticipantRow where
  studentId : ℕ
  householdId : ℕ
  deriving DecidableEq

def isParticipant (classId yearGroupId : Option ℕ) (student : Student) : Bool :=
  student.active && yearGroupId.all (fun y => student.yearGroupId = some y) &&
    classId.all fun c => c ∈ student.classIds

def findActiveParticipantStudentsWithHousehold (school : School) (classId yearGroupId : Option ℕ) :
    List ParticipantRow :=
  if classId = none ∧ yearGroupId = none then []
  else ((school.students.select (isParticipant classId yearGroupId)).filter fun row =>
    (school.households.get? row.2.householdId).isSome).map fun row => ⟨row.1,row.2.householdId⟩

def countDistinctParticipantHouseholds (school : School) (classId yearGroupId : Option ℕ) : ℕ :=
  if classId = none ∧ yearGroupId = none then 0
  else ((school.students.select (isParticipant classId yearGroupId)).map (·.2.householdId)).eraseDups.length

def loadParticipants (school : School) (row : EventBudget) : List ParticipantRow :=
  if row.classId = none ∧ row.yearGroupId = none then []
  else findActiveParticipantStudentsWithHousehold school row.classId row.yearGroupId

/-- Without a class or a year group a household is taken to send 1.4 students. -/
def countHouseholds (school : School) (row : EventBudget) : ℕ :=
  if row.classId = none ∧ row.yearGroupId = none then
    max 1 (nearest (row.participantCount / (7/5))).toNat
  else
    let distinctCount := countDistinctParticipantHouseholds school row.classId row.yearGroupId
    if distinctCount = 0 then 1 else distinctCount

def engineInputs (school : School) (row : EventBudget) : EventEngineInputs where
  drivers := row.drivers
  participantCount := row.participantCount
  householdCount := countHouseholds school row
  householdSharePct := row.householdSharePct

def runEngineForId (office : Office) (id : ℕ) : Except TripFeeError (EventBudget × EventEngineOutputs × ℕ) := do
  let row ← require (office.eventBudgets.get? id) .eventBudgetNotFound
  return (row,runEventEngine (engineInputs office.school row),countHouseholds office.school row)

/-! ## Households -/

structure HouseholdShare where
  householdId : ℕ
  students : List ℕ
  amount : ℚ
  deriving DecidableEq

/-- The first student of a household opens its entry, each further one adds to it. -/
def householdShare (perStudentCost : ℚ) (group : ℕ × List ParticipantRow) : HouseholdShare where
  householdId := group.1
  students := group.2.map (·.studentId)
  amount := group.2.tail.foldl (fun amount _ => round2 (amount + perStudentCost)) (round2 perStudentCost)

def aggregateByHousehold (participants : List ParticipantRow) (perStudentCost : ℚ) : List HouseholdShare :=
  ((groupBy (·.householdId) participants).map (householdShare perStudentCost)).insertionSort
    fun a b => b.amount ≤ a.amount

/-! ## Payment dates -/

def defaultDueDate (eventDate : CivilDate) : CivilDate :=
  CivilDate.makeDay (eventDate.monthNumber - 1)
    (eventDate.day + (daysInMonth (eventDate.monthNumber - 1) - 14)) (le_add_right eventDate.pos)

def monthsBefore (date : CivilDate) (n : ℕ) : CivilDate := CivilDate.makeDay (date.monthNumber - n) date.day date.pos

def derivePaymentDates (eventDate : Option CivilDate) (paymentPlan : EventBudgetPaymentPlan)
    (override : Option CivilDate) : Option (List CivilDate) :=
  (override <|> eventDate.map defaultDueDate).map fun final =>
    match paymentPlan with
    | .oneOff => [final]
    | .twoPayments => [monthsBefore final 2,final]
    | .threePayments => [monthsBefore final 3,monthsBefore final 1,final]
    | .fourPayments => [monthsBefore final 4,monthsBefore final 2,monthsBefore final 1,final]

def computeMode (hhSharePct : ℚ) (paymentPlan : EventBudgetPaymentPlan) : TripFeeMode :=
  if hhSharePct = 0 then .free
  else if paymentPlan ≠ .oneOff then .paymentPlan
  else if hhSharePct = 100 then .costRecovery
  else .subsidised

/-! ## Preview and generation -/

structure GenerateFeesPreview where
  mode : TripFeeMode
  householdSharePct : ℚ
  paymentPlan : EventBudgetPaymentPlan
  totalToInvoice : ℚ
  totalSchoolSubsidy : ℚ
  householdCount : ℕ
  studentCount : ℕ
  households : List HouseholdShare
  paymentPlanDates : Option (List CivilDate)
  deriving DecidableEq

def previewGenerateFees (office : Office) (eventBudgetId : ℕ) : Except TripFeeError GenerateFeesPreview := do
  let (row,output,householdCount) ← runEngineForId office eventBudgetId
  let participants := loadParticipants office.school row
  let breakdown := aggregateByHousehold participants output.perStudentCost
  return {
    mode := computeMode row.householdSharePct row.paymentPlan
    householdSharePct := row.householdSharePct
    paymentPlan := row.paymentPlan
    totalToInvoice := output.householdTotal
    totalSchoolSubsidy := output.schoolSubsidyAmount
    householdCount := if breakdown.length = 0 then householdCount else breakdown.length
    studentCount := participants.length
    households := breakdown
    paymentPlanDates := derivePaymentDates row.eventDate row.paymentPlan none }

structure GenerateFeesRequest where
  membership : Option Membership
  confirm : Bool
  dueDate : Option CivilDate
  /-- The identifier that is made up for the run. -/
  runId : ℕ

structure GenerateFeesResponse where
  feeStructureId : ℕ
  feeGenerationRunId : ℕ
  totalInvoiced : ℚ
  householdCount : ℕ
  studentCount : ℕ
  deriving DecidableEq

def requiredPermissions : List String := ["budgeting.view","budgeting.generate_fees","finance.manage"]

def assertPermissionStack (membership : Option Membership) : Except TripFeeError PUnit := do
  let membership ← require membership .noActiveMembership
  let missing := requiredPermissions.filter fun p => p ∉ membership.permissions
  ensure (membership.isOwner = true ∨ missing = []) (.permissionStackDenied missing)

/-- The amount column of a fee structure holds whole cents. -/
def tripFeeStructure (row : EventBudget) (output : EventEngineOutputs) : FeeStructure where
  name := ("Event: " ++ row.name).take 150 |>.toString
  amount := Finance.toColumn (output.perStudentCost * 100)
  yearGroupId := none

def tripAssignment (feeStructureId : ℕ) (p : ParticipantRow) : HouseholdFeeAssignment where
  householdId := p.householdId
  studentId := some p.studentId
  feeStructureId := feeStructureId
  discount := none
  effectiveTo := none

theorem referenced_trip (school : School) (fee : FeeStructure) (participants : List ParticipantRow) :
    (school.assignments.insertAll (participants.map (tripAssignment school.feeStructures.next))).All
      fun a => ((school.feeStructures.insert fee).get? a.feeStructureId).isSome := by
  rintro r hr
  have hcases : (∃ q ∈ school.assignments.rows, q.2 = r.2) ∨ r.2 ∈ participants.map (tripAssignment _) :=
    Table.mem_insertAll.mp ⟨r,hr,rfl⟩
  rcases hcases with ⟨q,hq,he⟩ | h
  · have hold := school.referenced q hq
    rw [he] at hold
    exact Table.isSome_get?_insert hold fee
  · obtain ⟨p,-,he⟩ := List.mem_map.mp h
    rw [← he]
    simp [tripAssignment,Table.get?_insert]

/-- The school once the fees of a trip exist. -/
def chargedSchool (school : School) (fee : FeeStructure) (participants : List ParticipantRow) : School :=
  { school with
    feeStructures := school.feeStructures.insert fee
    assignments := school.assignments.insertAll (participants.map (tripAssignment school.feeStructures.next))
    referenced := referenced_trip school fee participants }

def generateFees (office : Office) (eventBudgetId : ℕ) (request : GenerateFeesRequest) :
    Except TripFeeError (Office × GenerateFeesResponse) := do
  assertPermissionStack request.membership
  let (row,output,_) ← runEngineForId office eventBudgetId
  ensure (row.status = .confirmed) (.eventBudgetNotConfirmed row.status)
  ensure (row.householdSharePct.1 ≠ 0) .eventBudgetFreeTrip
  ensure (request.confirm = true) .confirmationRequired
  let participants := loadParticipants office.school row
  ensure (participants ≠ []) .noParticipants
  ensure ((derivePaymentDates row.eventDate row.paymentPlan request.dueDate).any fun dates => dates ≠ [])
    .paymentDatesInvalid
  let fee := tripFeeStructure row output
  -- the names of fee structures are unique in the database
  ensure (∀ r ∈ office.school.feeStructures.rows, r.2.name ≠ fee.name) .feeStructureNameTaken
  let feeStructureId := office.school.feeStructures.next
  return ({
    school := chargedSchool office.school fee participants
    eventBudgets := office.eventBudgets.modify eventBudgetId fun b =>
      { b with status := .feesGenerated, feeStructureId := some feeStructureId, feeGenerationRunId := some request.runId } },{
    feeStructureId := feeStructureId
    feeGenerationRunId := request.runId
    totalInvoiced := output.householdTotal
    householdCount := (participants.map (·.householdId)).eraseDups.length
    studentCount := participants.length })

/-! ## What is charged, in whole cents -/

/-- What one participant is charged, in cents. -/
def chargeCents (row : EventBudget) : ℤ :=
  nearest (householdPart row.drivers row.householdSharePct / row.participantCount * 100)

/-- What the households are to pay together, in cents. -/
def householdCents (row : EventBudget) : ℤ := nearest (householdPart row.drivers row.householdSharePct * 100)

variable {office office' : Office} {id : ℕ} {row : EventBudget}

theorem householdTotal_cents (school : School) (row : EventBudget) :
    (runEventEngine (engineInputs school row)).householdTotal = householdCents row / 100 := householdTotal_eq _

theorem perStudentCost_cents (school : School) (row : EventBudget) :
    (runEventEngine (engineInputs school row)).perStudentCost = chargeCents row / 100 := perStudentCost_eq _

theorem amount_householdShare (charge : ℤ) {group : ℕ × List ParticipantRow} (h : group.2 ≠ []) :
    (householdShare (charge / 100) group).amount = (group.2.map fun _ => (charge / 100 : ℚ)).sum := by
  have hfold : ∀ (rows : List ParticipantRow) (z : ℤ),
      rows.foldl (fun amount _ => round2 (amount + charge / 100)) (z / 100 : ℚ) =
        z / 100 + (rows.map fun _ => (charge / 100 : ℚ)).sum := by
    intro rows
    induction rows with
    | nil => simp
    | cons r rows ih =>
      intro z
      have hadd : (z / 100 + charge / 100 : ℚ) = ((z + charge : ℤ) : ℚ) / 100 := by
        push_cast
        ring
      rw [List.foldl_cons,hadd,round2_cents,ih,← hadd,List.map_cons,List.sum_cons]
      ring
  obtain ⟨first,rest,hgroup⟩ := List.exists_cons_of_ne_nil h
  simp only [householdShare,hgroup,List.tail_cons]
  rw [round2_cents,hfold,List.map_cons,List.sum_cons]

/-- However the participants are grouped, the households' amounts add up to one charge for each. -/
theorem sum_aggregateByHousehold (participants : List ParticipantRow) (charge : ℤ) :
    ((aggregateByHousehold participants (charge / 100)).map (·.amount)).sum = participants.length * (charge / 100 : ℚ) := by
  have hperm := (List.perm_insertionSort (fun a b : HouseholdShare => b.amount ≤ a.amount)
    ((groupBy (·.householdId) participants).map (householdShare (charge / 100)))).map (·.amount)
  rw [aggregateByHousehold,hperm.sum_eq,List.map_map]
  have hgroups : (groupBy (·.householdId) participants).map ((·.amount) ∘ householdShare (charge / 100)) =
      (groupBy (·.householdId) participants).map fun g => (g.2.map fun _ => (charge / 100 : ℚ)).sum := by
    apply List.map_congr_left
    intro g hg
    obtain ⟨⟨p,hp,hk⟩,hrows⟩ := mem_groupBy.mp hg
    apply amount_householdShare
    rw [hrows]
    exact List.ne_nil_of_mem (List.mem_filter.mpr ⟨hp,decide_eq_true hk⟩)
  rw [hgroups,sum_map_groupBy]
  simp

/-! ## Conservation -/

/-- A fee generation run that bills every open assignment of the fee structure and nothing else. -/
def Covers (school : School) (dto : FeeGenerationDto) (feeStructureId : ℕ) : Prop :=
  dto.feeStructureIds = [feeStructureId] ∧ ∀ r ∈ selectedAssignments school dto, ∃ line,
    previewLine school dto r.2 = some line ∧ isValidLine dto line = true

/-- The households of the preview make up the reported total, and the invoices generated for the
event recover it up to less than one cent for each participant. -/
def Conserves (office : Office) (id : ℕ) : Prop :=
  (∀ preview, previewGenerateFees office id = .ok preview →
    (preview.households.map (·.amount)).sum = preview.totalToInvoice) ∧
  ∀ request office' response, generateFees office id request = .ok (office',response) →
    ∀ dto school' result, confirm office'.school dto = .ok (school',result) →
      Covers office'.school dto response.feeStructureId →
        |(((result.invoices.map (·.totalAmount)).sum : ℤ) : ℚ) / 100 - response.totalInvoiced| < response.studentCount / 100

/-- One rounded charge for every participant who is loaded makes up what the households are to pay. -/
def SharesEvenly (school : School) (row : EventBudget) : Prop :=
  (loadParticipants school row).length * chargeCents row = householdCents row

theorem previewGenerateFees_ok (hrow : office.eventBudgets.get? id = some row) :
    ∃ preview, previewGenerateFees office id = .ok preview ∧
      preview.households = aggregateByHousehold (loadParticipants office.school row) (chargeCents row / 100) ∧
      preview.totalToInvoice = householdCents row / 100 := by
  rw [← perStudentCost_cents office.school row,← householdTotal_cents office.school row]
  have hrun : runEngineForId office id = .ok (row,runEventEngine (engineInputs office.school row),
      countHouseholds office.school row) := by
    rw [runEngineForId,hrow]
    rfl
  unfold previewGenerateFees
  rw [hrun]
  exact ⟨_,rfl,rfl,rfl⟩

theorem preview_total_iff (hrow : office.eventBudgets.get? id = some row) :
    (∀ preview, previewGenerateFees office id = .ok preview →
      (preview.households.map (·.amount)).sum = preview.totalToInvoice) ↔ SharesEvenly office.school row := by
  obtain ⟨preview,hok,hhouseholds,htotal⟩ := previewGenerateFees_ok hrow
  have hcents : (preview.households.map (·.amount)).sum = preview.totalToInvoice ↔ SharesEvenly office.school row := by
    rw [hhouseholds,sum_aggregateByHousehold,htotal,SharesEvenly,← mul_div_assoc,
      div_left_inj' (by norm_num : (100 : ℚ) ≠ 0)]
    norm_cast
  rw [← hcents]
  constructor
  · exact fun h => h preview hok
  · intro h preview' hok'
    cases hok.symm.trans hok'
    exact h

theorem generateFees_ok {request : GenerateFeesRequest} {response : GenerateFeesResponse}
    (h : generateFees office id request = .ok (office',response)) : ∃ row,
      office.eventBudgets.get? id = some row ∧ loadParticipants office.school row ≠ [] ∧
      office'.school = chargedSchool office.school
        (tripFeeStructure row (runEventEngine (engineInputs office.school row))) (loadParticipants office.school row) ∧
      response.feeStructureId = office.school.feeStructures.next ∧
      response.totalInvoiced = householdCents row / 100 ∧
      response.studentCount = (loadParticipants office.school row).length := by
  simp only [generateFees,runEngineForId,bind_eq_ok,require_eq_ok,ensure_eq_ok,pure_eq_ok] at h
  obtain ⟨_,-,_,⟨row,hrow,rfl⟩,_,-,_,-,_,-,_,hsome,_,-,_,-,he⟩ := h
  cases he
  exact ⟨row,hrow,hsome,rfl,rfl,householdTotal_cents office.school row,rfl⟩

/-- The open assignments of the new fee structure are the participants'. -/
theorem selected_chargedSchool (school : School) (fee : FeeStructure) (participants : List ParticipantRow)
    {dto : FeeGenerationDto} (h : dto.feeStructureIds = [school.feeStructures.next]) :
    (selectedAssignments (chargedSchool school fee participants) dto).map Prod.snd =
      participants.map (tripAssignment school.feeStructures.next) := by
  rw [selectedAssignments,chargedSchool,Table.map_select_insertAll,h]
  have hold : school.assignments.select
      (fun a => decide (a.feeStructureId ∈ [school.feeStructures.next] ∧ a.effectiveTo.isNone = true)) = [] := by
    rw [Table.select,List.filter_eq_nil_iff]
    intro r hr hsel
    have href : (school.feeStructures.get? r.2.feeStructureId).isSome := school.referenced r hr
    simp only [List.mem_singleton,decide_eq_true_eq] at hsel
    rw [hsel.1,Table.get?_next] at href
    cases href
  rw [hold,List.map_nil,List.nil_append,List.filter_eq_self]
  intro a ha
  obtain ⟨p,-,rfl⟩ := List.mem_map.mp ha
  simp [tripAssignment]

theorem sum_trip_lines {school : School} {dto : FeeGenerationDto} {feeStructureId : ℕ} {fee : FeeStructure}
    (hfee : school.feeStructures.get? feeStructureId = some fee) {participants : List ParticipantRow}
    (h : ∀ p ∈ participants, ∃ line, previewLine school dto (tripAssignment feeStructureId p) = some line ∧
      isValidLine dto line = true) :
    ((((participants.map (tripAssignment feeStructureId)).filterMap (previewLine school dto)).filter
      (isValidLine dto)).map (·.lineTotal)).sum = participants.length * fee.amount := by
  induction participants with
  | nil => simp
  | cons p participants ih =>
    obtain ⟨line,hline,hvalid⟩ := h p List.mem_cons_self
    have htotal : line.lineTotal = fee.amount := by
      rw [lineTotal_of_previewLine hline hfee]
      exact sub_zero _
    rw [List.map_cons,List.filterMap_cons_some hline,List.filter_cons,if_pos hvalid,List.map_cons,List.sum_cons,
      htotal,ih fun p' h' => h p' (List.mem_cons_of_mem _ h'),List.length_cons]
    push_cast
    ring

theorem confirm_trip_total {fee : FeeStructure} {school school' : School} {participants : List ParticipantRow}
    {dto : FeeGenerationDto} {result : ConfirmResult}
    (h : confirm (chargedSchool school fee participants) dto = .ok (school',result))
    (hc : Covers (chargedSchool school fee participants) dto school.feeStructures.next) :
    (result.invoices.map (·.totalAmount)).sum = participants.length * fee.amount := by
  obtain ⟨hids,hall⟩ := hc
  have hselected := selected_chargedSchool school fee participants hids
  have hfee : (chargedSchool school fee participants).feeStructures.get? school.feeStructures.next = some fee := by
    simp [chargedSchool,Table.get?_insert]
  rw [confirm_total h,previewLines_eq,hselected,sum_trip_lines hfee]
  intro p hp
  have hmem : tripAssignment school.feeStructures.next p ∈
      (selectedAssignments (chargedSchool school fee participants) dto).map Prod.snd :=
    hselected ▸ List.mem_map_of_mem hp
  obtain ⟨r,hr,he⟩ := List.mem_map.mp hmem
  exact he ▸ hall r hr

theorem amount_tripFeeStructure (school : School) (row : EventBudget) :
    (tripFeeStructure row (runEventEngine (engineInputs school row))).amount = chargeCents row := by
  rw [tripFeeStructure,perStudentCost_cents,div_mul_cancel₀ _ (by norm_num)]
  exact Finance.toColumn_intCast _

/-- The invoices of an event charge every participant alike. -/
theorem invoiced_of_generateFees {request : GenerateFeesRequest} {response : GenerateFeesResponse}
    {dto : FeeGenerationDto} {school' : School} {result : ConfirmResult}
    (h : generateFees office id request = .ok (office',response)) (hrow : office.eventBudgets.get? id = some row)
    (hconfirm : confirm office'.school dto = .ok (school',result))
    (hc : Covers office'.school dto response.feeStructureId) :
    (result.invoices.map (·.totalAmount)).sum = (loadParticipants office.school row).length * chargeCents row := by
  obtain ⟨row',hrow',-,hschool,hid,-⟩ := generateFees_ok h
  cases hrow.symm.trans hrow'
  rw [hschool] at hconfirm hc
  rw [hid] at hc
  rw [confirm_trip_total hconfirm hc,amount_tripFeeStructure]

theorem full_share_bounds : (0 : ℚ) ≤ 100 ∧ (100 : ℚ) ≤ 100 := by norm_num

theorem referenced_nothing (feeStructures : Table FeeStructure) : (Table.empty : Table HouseholdFeeAssignment).All
    fun a => (feeStructures.get? a.feeStructureId).isSome := fun _ h => absurd h List.not_mem_nil

def museumTrip : EventBudget where
  name := "Museum"
  eventDate := none
  classId := none
  yearGroupId := some 0
  participantCount := 3
  drivers := {
    transport := some ⟨100,1⟩, entryTickets := none, food := none, accommodation := none, chaperones := none
    equipmentHire := none, contingencyPct := 0, customLines := [] }
  status := .confirmed
  householdSharePct := ⟨100,full_share_bounds⟩
  paymentPlan := .oneOff
  feeGenerationRunId := none
  feeStructureId := none

def museumOffice : Office where
  school := {
    tenantExists := true
    students := Table.empty.insertAll [⟨true,some 0,[],0⟩,⟨true,some 0,[],1⟩,⟨true,some 0,[],1⟩]
    households := Table.empty.insertAll [⟨some 0⟩,⟨some 1⟩]
    feeStructures := Table.empty
    assignments := Table.empty
    invoices := Table.empty
    referenced := referenced_nothing Table.empty }
  eventBudgets := Table.empty.insert museumTrip

theorem chargeCents_eq (row : EventBudget) : chargeCents row =
    nearest (householdPart row.drivers row.householdSharePct * 100 / row.participantCount) := by
  rw [chargeCents,div_mul_eq_mul_div]

/-- Everyone counted takes part: the total is conserved when its cents divide evenly. -/
theorem sharesEvenly_iff_dvd {school : School} (hpos : 0 < row.participantCount)
    (h : (loadParticipants school row).length = row.participantCount) :
    SharesEvenly school row ↔ (row.participantCount : ℤ) ∣ householdCents row := by
  rw [SharesEvenly,h,chargeCents_eq]
  exact mul_nearest_div_eq_iff hpos _

/-- Everyone counted takes part: less than one cent for each is lost or gained. -/
theorem recovered_lt {school : School} (hpos : 0 < row.participantCount)
    (h : (loadParticipants school row).length = row.participantCount) :
    |(loadParticipants school row).length * chargeCents row - householdCents row| < (loadParticipants school row).length := by
  rw [h,chargeCents_eq]
  exact abs_mul_nearest_div_sub_lt hpos _

end EduPod.Budgeting
