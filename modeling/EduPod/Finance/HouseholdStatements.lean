import Mathlib
import EduPod.Finance.Invoices

/-! # Household statements

A statement gathers a household's invoices, write-offs, payments and refunds by four queries, sorts
the entries by date and runs a balance over them. Days are counted from the epoch, in UTC.
-/
namespace EduPod.Finance.HouseholdStatements
open Fallible

/-- A ledger with the `received_at` column of its payments, in milliseconds. -/
structure Books where
  ledger : Ledger
  receivedAt : ℕ → ℤ

structure StatementFilters where
  dateFrom : Option ℤ
  dateTo : Option ℤ

inductive EntryType
  | invoiceIssued | writeOff | paymentReceived | refund
  deriving DecidableEq, Repr

/-- `date` is the empty string of a write-off whose invoice was never issued when it is `none`. -/
structure StatementEntry where
  date : Option ℤ
  type : EntryType
  reference : ℕ
  debit : Option ℤ
  credit : Option ℤ
  runningBalance : ℤ
  deriving DecidableEq, Repr

structure HouseholdStatementData where
  household : ℕ
  entries : List StatementEntry
  openingBalance : ℤ
  closingBalance : ℤ
  dateFrom : Option ℤ
  dateTo : Option ℤ

/-! ## Dates -/

def dayOf (instant : ℤ) : ℤ := instant / msPerDay

def startOfDay (day : ℤ) : ℤ := day * msPerDay

/-- `23:59:59.999` of the day. -/
def endOfDay (day : ℤ) : ℤ := day * msPerDay + (msPerDay - 1)

def inRange (filters : StatementFilters) (instant : ℤ) : Bool :=
  filters.dateFrom.all (fun day => startOfDay day ≤ instant) && filters.dateTo.all (fun day => instant ≤ endOfDay day)

/-- The condition on a date column, which an empty column fails as soon as there is one. -/
def dateFilter (filters : StatementFilters) (column : Option ℤ) : Bool :=
  filters.dateFrom.isNone && filters.dateTo.isNone || column.any (inRange filters)

/-- Ascending with nulls last. -/
def Before : Option ℤ → Option ℤ → Prop
  | some x, some y => x ≤ y
  | some _, none => True
  | none, some _ => False
  | none, none => True

instance : DecidableRel Before
  | some x, some y => inferInstanceAs (Decidable (x ≤ y))
  | some _, none => isTrue trivial
  | none, some _ => isFalse id
  | none, none => isTrue trivial

def orderBy {α : Type} (column : α → Option ℤ) (rows : List α) : List α :=
  rows.insertionSort fun x y => Before (column x) (column y)

/-- `a.date.localeCompare(b.date)`, where the empty string comes first. -/
def DateLe : Option ℤ → Option ℤ → Prop
  | none, _ => True
  | some _, none => False
  | some x, some y => x ≤ y

instance : DecidableRel DateLe
  | none, _ => isTrue trivial
  | some _, none => isFalse id
  | some x, some y => inferInstanceAs (Decidable (x ≤ y))

/-! ## The queries -/

variable (books : Books) (householdId : ℕ) (filters : StatementFilters)

def invoiceRows : List (ℕ × Invoice) :=
  books.ledger.invoices.rows.filter fun row => row.2.householdId = householdId ∧
    row.2.status ∉ [InvoiceStatus.void,.cancelled] ∧ dateFilter filters row.2.issueDate

def paymentRows : List (ℕ × Payment) :=
  books.ledger.payments.rows.filter fun row => row.2.householdId = householdId ∧
    row.2.status ∈ [PaymentStatus.posted,.refundedPartial,.refundedFull] ∧
    dateFilter filters (some (books.receivedAt row.1))

/-- The executed refunds of the household's payments, whatever the dates. -/
def refundRows : List (ℕ × Refund) :=
  books.ledger.refunds.rows.filter fun row =>
    (books.ledger.payments.get? row.2.paymentId).any (fun payment => payment.householdId = householdId) ∧
      row.2.status = .executed

def invoices : List (ℕ × Invoice) := orderBy (fun row => row.2.issueDate) (invoiceRows books householdId filters)

def payments : List (ℕ × Payment) :=
  orderBy (fun row => some (books.receivedAt row.1)) (paymentRows books householdId filters)

def refunds : List (ℕ × Refund) := orderBy (fun row => row.2.executedAt) (refundRows books householdId)

def invoiceEntries (row : ℕ × Invoice) : List StatementEntry :=
  (row.2.issueDate.toList.map fun issueDate =>
      ⟨some (dayOf issueDate),.invoiceIssued,row.1,some row.2.totalAmount,none,0⟩) ++
    (row.2.writeOffAmount.toList.filter fun amount => 0 < amount).map fun amount =>
      ⟨row.2.issueDate.map dayOf,.writeOff,row.1,none,some amount,0⟩

def paymentEntry (row : ℕ × Payment) : StatementEntry :=
  ⟨some (dayOf (books.receivedAt row.1)),.paymentReceived,row.1,none,some row.2.amount,0⟩

def refundEntries (row : ℕ × Refund) : List StatementEntry :=
  row.2.executedAt.toList.map fun executedAt =>
    ⟨some (dayOf executedAt),.refund,row.1,some row.2.amount,none,0⟩

def gathered : List StatementEntry :=
  (invoices books householdId filters).flatMap invoiceEntries ++
    (payments books householdId filters).map (paymentEntry books) ++
    (refunds books householdId).flatMap refundEntries

/-- One round of the loop over the sorted entries; an amount of zero is passed over. -/
def post (balance : ℤ) (entry : StatementEntry) : ℤ :=
  let debit := entry.debit.getD 0
  let credit := entry.credit.getD 0
  let debited := if debit = 0 then balance else roundMoney (balance + debit : ℤ)
  if credit = 0 then debited else roundMoney (debited - credit : ℤ)

@[grind] def runBalance : ℤ → List StatementEntry → List StatementEntry × ℤ
  | balance, [] => ([],balance)
  | balance, entry :: rest =>
    let balance := post balance entry
    let run := runBalance balance rest
    ({ entry with runningBalance := balance } :: run.1,run.2)

def sortedEntries : List StatementEntry :=
  (gathered books householdId filters).insertionSort fun x y => DateLe x.date y.date

def statement : HouseholdStatementData where
  household := householdId
  entries := (runBalance 0 (sortedEntries books householdId filters)).1
  openingBalance := 0
  closingBalance := (runBalance 0 (sortedEntries books householdId filters)).2
  dateFrom := filters.dateFrom
  dateTo := filters.dateTo

def getStatement : Except FinanceError HouseholdStatementData := do
  ensure (householdId ∈ books.ledger.households) .householdNotFound
  return statement books householdId filters

/-! ## What a statement says -/

variable {books householdId filters} {balance : ℤ} {entries : List StatementEntry}

/-- What an entry adds to the balance. -/
def StatementEntry.amount (entry : StatementEntry) : ℤ := entry.debit.getD 0 - entry.credit.getD 0

/-- The entry without its running balance. -/
def StatementEntry.bare (entry : StatementEntry) : StatementEntry := { entry with runningBalance := 0 }

theorem post_eq (balance : ℤ) (entry : StatementEntry) : post balance entry = balance + entry.amount := by
  unfold post StatementEntry.amount
  simp only [roundMoney_intCast]
  split_ifs <;> omega

theorem runBalance_snd (balance : ℤ) (entries : List StatementEntry) :
    (runBalance balance entries).2 = balance + (entries.map (·.amount)).sum := by
  induction entries generalizing balance with
  | nil => simp [runBalance]
  | cons entry rest ih =>
    simp only [runBalance,ih,post_eq,List.map_cons,List.sum_cons]
    omega

theorem runBalance_bare (balance : ℤ) (entries : List StatementEntry) :
    (runBalance balance entries).1.map (·.bare) = entries.map (·.bare) := by
  induction entries generalizing balance with
  | nil => rfl
  | cons entry rest ih =>
    simp only [runBalance,List.map_cons,ih]
    rfl

theorem bare_of_mem_gathered {entry : StatementEntry} (h : entry ∈ gathered books householdId filters) :
    entry.bare = entry := by
  simp only [gathered,invoiceEntries,refundEntries,List.mem_append,List.mem_flatMap,List.mem_map] at h
  rcases h with (⟨row,-,⟨date,-,rfl⟩ | ⟨amount,-,rfl⟩⟩ | ⟨row,-,rfl⟩) | ⟨row,-,date,-,rfl⟩ <;> rfl

theorem sortedEntries_perm : (sortedEntries books householdId filters).Perm (gathered books householdId filters) :=
  List.perm_insertionSort _ _

theorem closingBalance_eq : (statement books householdId filters).closingBalance =
    ((gathered books householdId filters).map (·.amount)).sum := by
  have hrun := runBalance_snd 0 (sortedEntries books householdId filters)
  rw [zero_add] at hrun
  exact hrun.trans (sortedEntries_perm.map _).sum_eq

/-- The statement shows what was gathered, in another order. -/
theorem entries_perm : ((statement books householdId filters).entries.map (·.bare)).Perm
    (gathered books householdId filters) := by
  have hbare : (gathered books householdId filters).map (·.bare) = gathered books householdId filters :=
    (List.map_congr_left fun entry hentry => bare_of_mem_gathered hentry).trans (List.map_id' _)
  have hrun := runBalance_bare 0 (sortedEntries books householdId filters)
  have hperm : ((sortedEntries books householdId filters).map (·.bare)).Perm
      ((gathered books householdId filters).map (·.bare)) := sortedEntries_perm.map _
  rw [hbare] at hperm
  rw [← hrun] at hperm
  exact hperm

/-! ## Restricting to a range of days -/

variable {first last : ℤ}

def StatementFilters.between (first last : ℤ) : StatementFilters := ⟨some first,some last⟩

def StatementFilters.all : StatementFilters := ⟨none,none⟩

def StatementFilters.covers (filters : StatementFilters) (day : ℤ) : Bool :=
  filters.dateFrom.all (fun first => first ≤ day) && filters.dateTo.all (fun last => day ≤ last)

def StatementEntry.within (filters : StatementFilters) (entry : StatementEntry) : Bool :=
  entry.date.any filters.covers

/-- What is gathered apart from the refunds, in the order of the tables. -/
def charges (books : Books) (householdId : ℕ) (filters : StatementFilters) : List StatementEntry :=
  (invoiceRows books householdId filters).flatMap invoiceEntries ++
    (paymentRows books householdId filters).map (paymentEntry books)

def paidBack (books : Books) (householdId : ℕ) : List StatementEntry :=
  (refundRows books householdId).flatMap refundEntries

theorem gathered_perm : (gathered books householdId filters).Perm
    (charges books householdId filters ++ paidBack books householdId) :=
  (((List.perm_insertionSort _ _).flatMap_right _).append ((List.perm_insertionSort _ _).map _)).append
    ((List.perm_insertionSort _ _).flatMap_right _)

/-- The bounds of a day are those of its milliseconds. -/
theorem inRange_eq_covers (instant : ℤ) : inRange filters instant = filters.covers (dayOf instant) := by
  have hfrom : ∀ day, decide (startOfDay day ≤ instant) = decide (day ≤ dayOf instant) := by
    intro day
    rw [decide_eq_decide]
    unfold startOfDay dayOf msPerDay
    omega
  have hto : ∀ day, decide (instant ≤ endOfDay day) = decide (dayOf instant ≤ day) := by
    intro day
    rw [decide_eq_decide]
    unfold endOfDay dayOf msPerDay
    omega
  unfold inRange StatementFilters.covers
  simp only [hfrom,hto]

theorem filter_flatMap {α β : Type} {p : α → Bool} {q : β → Bool} {g : α → List β} {l : List α}
    (h : ∀ x ∈ l, (g x).filter q = if p x then g x else []) : (l.flatMap g).filter q = (l.filter p).flatMap g := by
  induction l with
  | nil => rfl
  | cons x l ih =>
    have hx := h x List.mem_cons_self
    have hl := ih fun y hy => h y (List.mem_cons_of_mem _ hy)
    rw [List.flatMap_cons,List.filter_append,hx,hl,List.filter_cons]
    split <;> simp

theorem dateFilter_between (column : Option ℤ) :
    dateFilter (.between first last) column = (column.map dayOf).any (StatementFilters.between first last).covers := by
  cases column with
  | none => rfl
  | some instant => exact inRange_eq_covers instant

theorem dateFilter_all (column : Option ℤ) : dateFilter .all column = true := rfl

theorem invoiceRows_between : invoiceRows books householdId (.between first last) =
    (invoiceRows books householdId .all).filter fun row => dateFilter (.between first last) row.2.issueDate := by
  unfold invoiceRows
  rw [List.filter_filter]
  refine List.filter_congr fun row _ => ?_
  rw [Bool.eq_iff_iff,dateFilter_all]
  simp only [Bool.and_eq_true,decide_eq_true_eq]
  tauto

theorem paymentRows_between : paymentRows books householdId (.between first last) =
    (paymentRows books householdId .all).filter fun row =>
      dateFilter (.between first last) (some (books.receivedAt row.1)) := by
  unfold paymentRows
  rw [List.filter_filter]
  refine List.filter_congr fun row _ => ?_
  rw [Bool.eq_iff_iff,dateFilter_all]
  simp only [Bool.and_eq_true,decide_eq_true_eq]
  tauto

theorem filter_invoiceEntries (row : ℕ × Invoice) :
    (invoiceEntries row).filter (StatementEntry.within (.between first last)) =
      if dateFilter (.between first last) row.2.issueDate then invoiceEntries row else [] := by
  have hdate : ∀ entry ∈ invoiceEntries row,
      entry.within (.between first last) = dateFilter (.between first last) row.2.issueDate := by
    intro entry hentry
    rw [dateFilter_between]
    unfold invoiceEntries at hentry
    rcases List.mem_append.mp hentry with h | h
    · obtain ⟨date,hd,rfl⟩ := List.mem_map.mp h
      rw [Option.mem_toList.mp hd]
      rfl
    · obtain ⟨amount,-,rfl⟩ := List.mem_map.mp h
      rfl
  cases hfilter : dateFilter (.between first last) row.2.issueDate with
  | true => exact List.filter_eq_self.mpr fun entry hentry => (hdate entry hentry).trans hfilter
  | false => exact List.filter_eq_nil_iff.mpr fun entry hentry => by simp [hdate entry hentry,hfilter]

/-- Invoices, write-offs and payments are restricted to exactly those of the range. -/
theorem charges_between : charges books householdId (.between first last) =
    (charges books householdId .all).filter (StatementEntry.within (.between first last)) := by
  unfold charges
  rw [List.filter_append,filter_flatMap fun row _ => filter_invoiceEntries row,List.filter_map,invoiceRows_between,
    paymentRows_between]
  congr 2
  refine List.filter_congr fun row _ => ?_
  rw [dateFilter_between]
  rfl

/-! ## Adjacent ranges -/

variable {middle : ℤ}

/-- Over the two parts of a range the balances add up, and each statement shows the entries of its days. -/
structure SplitsAt (books : Books) (householdId : ℕ) (first middle last : ℤ) : Prop where
  additive : ∀ whole earlier later, getStatement books householdId (.between first last) = .ok whole →
    getStatement books householdId (.between first middle) = .ok earlier →
    getStatement books householdId (.between (middle + 1) last) = .ok later →
    whole.closingBalance = earlier.closingBalance + later.closingBalance
  selects : ∀ lower upper, (lower,upper) ∈ [(first,last),(first,middle),(middle + 1,last)] →
    ∀ part complete, getStatement books householdId (.between lower upper) = .ok part →
    getStatement books householdId .all = .ok complete →
    (part.entries.map (·.bare)).Perm ((complete.entries.map (·.bare)).filter (·.within (.between lower upper)))

/-- No payment of the household was ever paid back. -/
def NothingPaidBack (books : Books) (householdId : ℕ) : Prop :=
  ∀ row ∈ refundRows books householdId, row.2.executedAt = none

theorem getStatement_eq (h : householdId ∈ books.ledger.households) :
    getStatement books householdId filters = .ok (statement books householdId filters) := by
  simp [getStatement,ensure,h]

theorem covers_between (day : ℤ) : (StatementFilters.between first last).covers day = true ↔ first ≤ day ∧ day ≤ last := by
  simp [StatementFilters.covers,StatementFilters.between]

/-- An entry of the range is in exactly one of its parts. -/
theorem within_cases (hfirst : first ≤ middle + 1) (hlast : middle ≤ last) (entry : StatementEntry) :
    (entry.within (.between first last) = true ∧
        (entry.within (.between first middle) = true ∧ entry.within (.between (middle + 1) last) = false ∨
          entry.within (.between first middle) = false ∧ entry.within (.between (middle + 1) last) = true)) ∨
      entry.within (.between first last) = false ∧ entry.within (.between first middle) = false ∧
        entry.within (.between (middle + 1) last) = false := by
  unfold StatementEntry.within
  cases entry.date with
  | none => simp
  | some day =>
    simp only [Option.any_some,← Bool.not_eq_true,covers_between]
    omega

theorem sum_charges_split (hfirst : first ≤ middle + 1) (hlast : middle ≤ last) :
    ((charges books householdId (.between first last)).map (·.amount)).sum =
      ((charges books householdId (.between first middle)).map (·.amount)).sum +
        ((charges books householdId (.between (middle + 1) last)).map (·.amount)).sum := by
  simp only [charges_between]
  induction charges books householdId .all with
  | nil => rfl
  | cons entry rest ih =>
    simp only [List.filter_cons]
    rcases within_cases hfirst hlast entry with ⟨hwhole,⟨hearlier,hlater⟩ | ⟨hearlier,hlater⟩⟩ | ⟨hwhole,hearlier,hlater⟩
    · simp only [hwhole,hearlier,hlater,if_true,Bool.false_eq_true,if_false,List.map_cons,List.sum_cons,ih]
      omega
    · simp only [hwhole,hearlier,hlater,if_true,Bool.false_eq_true,if_false,List.map_cons,List.sum_cons,ih]
      omega
    · simpa only [hwhole,hearlier,hlater,Bool.false_eq_true,if_false] using ih

theorem closingBalance_split : (statement books householdId filters).closingBalance =
    ((charges books householdId filters).map (·.amount)).sum + ((paidBack books householdId).map (·.amount)).sum := by
  rw [closingBalance_eq,(gathered_perm.map _).sum_eq,List.map_append,List.sum_append]

theorem amount_of_mem_paidBack (hpositive : books.ledger.refunds.All fun refund => 0 < refund.amount)
    {entry : StatementEntry} (h : entry ∈ paidBack books householdId) : 0 < entry.amount := by
  obtain ⟨row,hrow,hentry⟩ := List.mem_flatMap.mp h
  obtain ⟨executedAt,-,rfl⟩ := List.mem_map.mp hentry
  have hamount := hpositive row (List.mem_filter.mp hrow).1
  unfold StatementEntry.amount
  simpa using hamount

theorem paidBack_eq_nil_iff : paidBack books householdId = [] ↔ NothingPaidBack books householdId := by
  simp [paidBack,NothingPaidBack,refundEntries,List.flatMap_eq_nil_iff]

/-- A refund that counts in every range counts twice in two: the parts make up the whole precisely if there is none. -/
theorem sum_paidBack_eq_zero_iff (hpositive : books.ledger.refunds.All fun refund => 0 < refund.amount) :
    ((paidBack books householdId).map (·.amount)).sum = 0 ↔ NothingPaidBack books householdId := by
  rw [← paidBack_eq_nil_iff]
  constructor
  · intro hsum
    cases hentries : paidBack books householdId with
    | nil => rfl
    | cons entry rest =>
      have hfirst : 0 < entry.amount := amount_of_mem_paidBack hpositive (hentries ▸ List.mem_cons_self)
      have hrest : 0 ≤ (rest.map (·.amount)).sum := by
        refine List.sum_nonneg fun amount hamount => ?_
        obtain ⟨other,hother,rfl⟩ := List.mem_map.mp hamount
        exact (amount_of_mem_paidBack hpositive (hentries ▸ List.mem_cons_of_mem _ hother)).le
      rw [hentries,List.map_cons,List.sum_cons] at hsum
      omega
  · intro hnil
    rw [hnil]
    rfl

/-- Statements over adjacent ranges make up the statement over both precisely if no payment of the household
was ever paid back: the refunds alone are not restricted to the range. -/
theorem splitsAt_iff (hhousehold : householdId ∈ books.ledger.households)
    (hpositive : books.ledger.refunds.All fun refund => 0 < refund.amount) (hfirst : first ≤ middle)
    (hlast : middle < last) : SplitsAt books householdId first middle last ↔ NothingPaidBack books householdId := by
  have hsum : ((charges books householdId (.between first last)).map (·.amount)).sum =
      ((charges books householdId (.between first middle)).map (·.amount)).sum +
        ((charges books householdId (.between (middle + 1) last)).map (·.amount)).sum :=
    sum_charges_split (by omega) hlast.le
  constructor
  · intro h
    have hadditive := h.additive _ _ _ (getStatement_eq hhousehold) (getStatement_eq hhousehold)
      (getStatement_eq hhousehold)
    rw [closingBalance_split,closingBalance_split,closingBalance_split] at hadditive
    refine (sum_paidBack_eq_zero_iff hpositive).mp ?_
    omega
  · intro hnone
    have hzero := (sum_paidBack_eq_zero_iff hpositive).mpr hnone
    have hnil := paidBack_eq_nil_iff.mpr hnone
    constructor
    · intro whole earlier later hwhole hearlier hlater
      rw [getStatement_eq hhousehold,Except.ok.injEq] at hwhole hearlier hlater
      rw [← hwhole,← hearlier,← hlater,closingBalance_split,closingBalance_split,closingBalance_split]
      omega
    · intro lower upper _ part complete hpart hcomplete
      rw [getStatement_eq hhousehold,Except.ok.injEq] at hpart hcomplete
      have hgathered : ∀ filters, (gathered books householdId filters).Perm (charges books householdId filters) := by
        intro filters
        have hperm : (gathered books householdId filters).Perm
          (charges books householdId filters ++ paidBack books householdId) := gathered_perm
        rwa [hnil,List.append_nil] at hperm
      rw [← hpart,← hcomplete]
      refine (entries_perm.trans (hgathered _)).trans ?_
      rw [charges_between]
      exact ((entries_perm.trans (hgathered _)).symm.filter _)

/-- A payment of 100.00 on the first day, of which 40.00 are paid back on the second. -/
def paidBackNextDay : Books where
  ledger := { Ledger.initial [0] with
    payments := Table.empty.insert ⟨0,.cash,none,10000,.refundedPartial,none⟩
    refunds := Table.empty.insert ⟨0,4000,.executed,"Left early",1,some 2,none,some msPerDay⟩ }
  receivedAt := fun _ => 0

theorem positive_paidBackNextDay : paidBackNextDay.ledger.refunds.All fun refund => 0 < refund.amount :=
  (Table.all_empty _).insert (by decide)

theorem splitsAt_paidBackNextDay_iff : SplitsAt paidBackNextDay 0 0 0 1 ↔ NothingPaidBack paidBackNextDay 0 :=
  splitsAt_iff (by decide) positive_paidBackNextDay (by decide) (by decide)

/-- The refund of the second day is on the statement of the first as well. -/
theorem not_splitsAt_paidBackNextDay : ¬ ∀ (books : Books) (householdId : ℕ) (first middle last : ℤ),
    householdId ∈ books.ledger.households → (books.ledger.refunds.All fun refund => 0 < refund.amount) →
    first ≤ middle → middle < last → SplitsAt books householdId first middle last := by
  intro h
  have hhousehold : 0 ∈ paidBackNextDay.ledger.households := by decide
  have hsplit := h paidBackNextDay 0 0 0 1 hhousehold positive_paidBackNextDay (by decide) (by decide)
  have hadditive := hsplit.additive _ _ _ (getStatement_eq hhousehold) (getStatement_eq hhousehold)
    (getStatement_eq hhousehold)
  exact absurd hadditive (by decide +kernel)

end EduPod.Finance.HouseholdStatements
