import EduPod.Foundation.Rounding

/-! # The calculator for event and trip budgets

Amounts are exact rationals. What the schemas keep non-negative is non-negative by its type.
-/
namespace EduPod.Budgeting
open Rounding

section
def round2 (n : ℚ) : ℚ := nearest (n * 100) / 100

/-- Whole cents stay as they are. -/
theorem round2_cents (z : ℤ) : round2 (z / 100) = z / 100 := by
  unfold round2
  rw [div_mul_cancel₀ _ (by norm_num),nearest_intCast]

structure EventTransport where
  unitCost : ℚ≥0
  units : ℕ

structure EventEntryTickets where
  perStudentCost : ℚ≥0
  count : ℕ

structure EventFood where
  perPersonCost : ℚ≥0
  count : ℕ

structure EventAccommodation where
  perNightCost : ℚ≥0
  nights : ℕ
  count : ℕ

structure EventChaperones where
  count : ℕ
  perChaperoneCost : ℚ≥0

structure EventEquipmentItem where
  name : String
  cost : ℚ≥0

structure EventCustomLine where
  name : String
  amount : ℚ

structure EventDrivers where
  transport : Option EventTransport
  entryTickets : Option EventEntryTickets
  food : Option EventFood
  accommodation : Option EventAccommodation
  chaperones : Option EventChaperones
  equipmentHire : Option (List EventEquipmentItem)
  contingencyPct : ℚ≥0
  customLines : List EventCustomLine

structure EventEngineInputs where
  drivers : EventDrivers
  participantCount : ℕ
  householdCount : ℕ
  householdSharePct : ℚ

structure EventEngineLineItem where
  name : String
  amount : ℚ
  perStudent : ℚ
  deriving DecidableEq

structure EventEngineOutputs where
  lineItems : List EventEngineLineItem
  totalCost : ℚ
  contingencyAmount : ℚ
  perStudentCost : ℚ
  perHouseholdCost : ℚ
  householdTotal : ℚ
  schoolSubsidyAmount : ℚ
  breakevenParticipants : Option ℤ
  deriving DecidableEq

def optionalLine {α : Type} (name : String) (driver : Option α) (amount : α → ℚ) : List (String × ℚ) :=
  driver.toList.map fun d => (name,amount d)

/-- What is pushed, in the order of the source. -/
def driverLines (drivers : EventDrivers) : List (String × ℚ) :=
  optionalLine "Transport" drivers.transport (fun t => t.unitCost * t.units) ++
  optionalLine "Tickets" drivers.entryTickets (fun t => t.perStudentCost * t.count) ++
  optionalLine "Food" drivers.food (fun f => f.perPersonCost * f.count) ++
  optionalLine "Accommodation" drivers.accommodation (fun a => a.perNightCost * a.nights * a.count) ++
  optionalLine "Chaperones" drivers.chaperones (fun c => c.count * c.perChaperoneCost) ++
  ((drivers.equipmentHire.getD []).map fun item => (item.name,(item.cost : ℚ))) ++
  (drivers.customLines.map fun line => (line.name,line.amount))

def pushLine (participantCount : ℕ) (acc : ℚ × List EventEngineLineItem) (line : String × ℚ) :
    ℚ × List EventEngineLineItem :=
  (acc.1 + line.2,acc.2 ++ [{
    name := line.1
    amount := round2 line.2
    perStudent := if 0 < participantCount then round2 (line.2 / participantCount) else 0 }])

def runEventEngine (inputs : EventEngineInputs) : EventEngineOutputs :=
  let lines := (driverLines inputs.drivers).foldl (pushLine inputs.participantCount) (0,[])
  let subtotal := lines.1
  let contingencyAmount := subtotal * (inputs.drivers.contingencyPct / 100)
  let totalCost := subtotal + contingencyAmount
  let householdTotal := totalCost * (inputs.householdSharePct / 100)
  let schoolSubsidyAmount := totalCost - householdTotal
  let perStudentCost := if 0 < inputs.participantCount then householdTotal / inputs.participantCount else 0
  let perHouseholdCost := if 0 < inputs.householdCount then householdTotal / inputs.householdCount else 0
  { lineItems := lines.2
    totalCost := round2 totalCost
    contingencyAmount := round2 contingencyAmount
    perStudentCost := round2 perStudentCost
    perHouseholdCost := round2 perHouseholdCost
    householdTotal := round2 householdTotal
    schoolSubsidyAmount := round2 schoolSubsidyAmount
    breakevenParticipants := if 0 < perStudentCost then some ⌈totalCost / perStudentCost⌉ else none }

/-! ## What households pay, from the drivers -/

/-- The share of the costs and their contingency that falls to the households. -/
def householdPart (drivers : EventDrivers) (householdSharePct : ℚ) : ℚ :=
  ((driverLines drivers).map Prod.snd).sum * (1 + drivers.contingencyPct / 100) * (householdSharePct / 100)

theorem pushLine_foldl (participantCount : ℕ) (lines : List (String × ℚ)) (acc : ℚ × List EventEngineLineItem) :
    (lines.foldl (pushLine participantCount) acc).1 = acc.1 + (lines.map Prod.snd).sum := by
  induction lines generalizing acc with
  | nil => simp
  | cons line lines ih =>
    rw [List.foldl_cons,ih,pushLine,List.map_cons,List.sum_cons,add_assoc]

variable (inputs : EventEngineInputs)

theorem householdTotal_eq : (runEventEngine inputs).householdTotal =
    round2 (householdPart inputs.drivers inputs.householdSharePct) := by
  simp only [runEventEngine,pushLine_foldl,householdPart,zero_add]
  congr 1
  ring

theorem perStudentCost_eq : (runEventEngine inputs).perStudentCost =
    round2 (householdPart inputs.drivers inputs.householdSharePct / inputs.participantCount) := by
  simp only [runEventEngine,pushLine_foldl,householdPart,zero_add]
  congr 1
  split
  · ring
  · rename_i hnone
    rw [Nat.eq_zero_of_not_pos hnone,Nat.cast_zero,div_zero]

end

/-! ## What the outputs of the event calculator add up to

Every output is rounded on its own, from amounts that are not. The parts of the total cost add up to it, as they
are shown, precisely when what rounding takes off them adds up to less than half a cent.
-/

/-- The exact costs of the lines. -/
def lineCosts (drivers : EventDrivers) : List ℚ := (driverLines drivers).map Prod.snd

def contingencyOf (drivers : EventDrivers) : ℚ := (lineCosts drivers).sum * (drivers.contingencyPct / 100)

def costOf (drivers : EventDrivers) : ℚ := (lineCosts drivers).sum + contingencyOf drivers

def householdPartOf (inputs : EventEngineInputs) : ℚ := costOf inputs.drivers * (inputs.householdSharePct / 100)

/-- The two parties, and the lines with the contingency, each make up the total cost as shown. -/
structure Conserved (outputs : EventEngineOutputs) : Prop where
  parties : outputs.householdTotal + outputs.schoolSubsidyAmount = outputs.totalCost
  lines : (outputs.lineItems.map (·.amount)).sum + outputs.contingencyAmount = outputs.totalCost

/-- In cents, what rounding takes off these amounts adds up to what it may take off their total. -/
def RoundsAsWhole (amounts : List ℚ) : Prop :=
  -1/2 ≤ (amounts.map fun a => remainder (a * 100)).sum ∧ (amounts.map fun a => remainder (a * 100)).sum < 1/2

instance (amounts : List ℚ) : Decidable (RoundsAsWhole amounts) := inferInstanceAs (Decidable (_ ∧ _))

theorem sum_round2_eq_iff (amounts : List ℚ) : (amounts.map round2).sum = round2 amounts.sum ↔ RoundsAsWhole amounts := by
  have hcents : (amounts.map round2).sum = (((amounts.map (· * 100)).map nearest).sum : ℤ) / 100 := by
    induction amounts with
    | nil => simp
    | cons a amounts ih => simp only [List.map_cons,List.sum_cons,Int.cast_add,add_div,ih,round2]
  have hscaled : (amounts.map (· * 100)).sum = amounts.sum * 100 := by
    rw [List.sum_map_mul_right,List.map_id']
  have hround : round2 amounts.sum = (nearest (amounts.map (· * 100)).sum : ℤ) / 100 := by
    rw [hscaled]
    rfl
  have hremainders : (amounts.map (· * 100)).map remainder = amounts.map fun a => remainder (a * 100) := by
    rw [List.map_map]
    rfl
  rw [hcents,hround,div_left_inj' (by norm_num),Int.cast_inj,sum_nearest_eq_iff,hremainders]
  rfl

section
variable (inputs : EventEngineInputs)

theorem pushLine_foldl_snd (participantCount : ℕ) (lines : List (String × ℚ)) (acc : ℚ × List EventEngineLineItem) :
    (lines.foldl (pushLine participantCount) acc).2.map (·.amount) =
      acc.2.map (·.amount) ++ (lines.map Prod.snd).map round2 := by
  induction lines generalizing acc with
  | nil => simp
  | cons line lines ih => simp [ih,pushLine]

theorem amounts_lineItems : (runEventEngine inputs).lineItems.map (·.amount) = (lineCosts inputs.drivers).map round2 :=
  (pushLine_foldl_snd ..).trans (List.nil_append _)

theorem subtotal_eq : ((driverLines inputs.drivers).foldl (pushLine inputs.participantCount) (0,[])).1 =
    (lineCosts inputs.drivers).sum :=
  (pushLine_foldl ..).trans (zero_add _)

theorem contingencyAmount_eq : (runEventEngine inputs).contingencyAmount = round2 (contingencyOf inputs.drivers) := by
  simp only [runEventEngine,subtotal_eq,contingencyOf]

theorem totalCost_eq : (runEventEngine inputs).totalCost = round2 (costOf inputs.drivers) := by
  simp only [runEventEngine,subtotal_eq,costOf,contingencyOf]

theorem householdTotal_eq_round2 : (runEventEngine inputs).householdTotal = round2 (householdPartOf inputs) := by
  simp only [runEventEngine,subtotal_eq,householdPartOf,costOf,contingencyOf]

theorem schoolSubsidyAmount_eq :
    (runEventEngine inputs).schoolSubsidyAmount = round2 (costOf inputs.drivers - householdPartOf inputs) := by
  simp only [runEventEngine,subtotal_eq,householdPartOf,costOf,contingencyOf]

/-- The outputs are conserved precisely when both splits of the exact cost round as a whole. -/
theorem conserved_runEventEngine_iff : Conserved (runEventEngine inputs) ↔
    RoundsAsWhole [householdPartOf inputs,costOf inputs.drivers - householdPartOf inputs] ∧
      RoundsAsWhole (lineCosts inputs.drivers ++ [contingencyOf inputs.drivers]) := by
  have hparties := sum_round2_eq_iff [householdPartOf inputs,costOf inputs.drivers - householdPartOf inputs]
  have hlines := sum_round2_eq_iff (lineCosts inputs.drivers ++ [contingencyOf inputs.drivers])
  have hcost : (lineCosts inputs.drivers ++ [contingencyOf inputs.drivers]).sum = costOf inputs.drivers := by
    rw [List.sum_append,List.sum_singleton,costOf]
  simp only [List.map_cons,List.map_nil,List.sum_cons,List.sum_nil,add_zero,add_sub_cancel] at hparties
  rw [hcost,List.map_append,List.map_singleton,List.sum_append,List.sum_singleton] at hlines
  rw [← hparties,← hlines,← amounts_lineItems,← contingencyAmount_eq,← totalCost_eq,← householdTotal_eq_round2,
    ← schoolSubsidyAmount_eq]
  exact ⟨fun h => ⟨h.parties,h.lines⟩,fun h => ⟨h.1,h.2⟩⟩

end

/-- One cent, shared equally. -/
def oneCentTrip : EventEngineInputs where
  drivers := ⟨none,none,none,none,none,none,0,[⟨"Stamp",1/100⟩]⟩
  participantCount := 1
  householdCount := 1
  householdSharePct := 50

/-- Households and school pay a cent each. -/
theorem not_conserved_oneCentTrip : ¬Conserved (runEventEngine oneCentTrip) := by
  intro h
  have hhousehold : (runEventEngine oneCentTrip).householdTotal = 1/100 := by decide +kernel
  have hschool : (runEventEngine oneCentTrip).schoolSubsidyAmount = 1/100 := by decide +kernel
  have htotal : (runEventEngine oneCentTrip).totalCost = 1/100 := by decide +kernel
  have hparties := h.parties
  rw [hhousehold,hschool,htotal] at hparties
  norm_num at hparties

end EduPod.Budgeting
