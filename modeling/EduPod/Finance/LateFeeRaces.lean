import EduPod.Foundation.Processes
import EduPod.Finance.InvoiceBalance

/-! # Late fees beside payments

Applying a late fee reads the invoice, its applications and the configuration, one query after another, and
then writes new totals as they follow from what it has read. Recomputing a balance by itself reads the
invoice and its allocations before it writes. Confirmed allocations lock the invoice all along.
-/
namespace EduPod.Finance.LateFees
open Fallible Processes Runs

/-- The order in which a query returns the rows it finds. -/
structure ReturnOrder where
  order : List (ℕ × LateFeeApplication) → List (ℕ × LateFeeApplication)
  perm : ∀ rows, (order rows).Perm rows

structure Input where
  now : ℤ
  returned : ReturnOrder

inductive Request
  | applyLateFee (invoiceId : ℕ) (configId : Option ℕ)
  | confirmAllocations (paymentId : ℕ) (allocations : List AllocationItem)
  | recalculateBalance (invoiceId : ℕ)

inductive Process
  | opened (request : Request)
  | loading (invoiceId : ℕ) (configId : Option ℕ) (invoice : Invoice)
  | pricing (invoiceId : ℕ) (configId : Option ℕ) (invoice : Invoice) (applications : List (ℕ × LateFeeApplication))
  | charging (invoiceId : ℕ) (config : ℕ × LateFeeConfig) (invoice : Invoice) (now : ℤ)
  | recalculating (invoiceId : ℕ) (invoice : Invoice)
  | rebalancing (invoiceId : ℕ) (invoice : Invoice) (sumAllocated : ℤ)

def applicationsTo (l : Ledger) (invoiceId : ℕ) : List (ℕ × LateFeeApplication) :=
  l.lateFeeApplications.select fun a => a.invoiceId = invoiceId

/-- The checks of a late fee on what has been read. -/
def Chargeable (invoice : Invoice) (config : ℕ × LateFeeConfig) (applications : List (ℕ × LateFeeApplication)) (now : ℤ) :
    Prop :=
  let existing := applications.filter fun a => a.2.lateFeeConfigId = config.1
  ¬ (now - invoice.dueDate) / msPerDay < config.2.gracePeriodDays ∧ existing.length < config.2.maxApplications ∧
    ∀ days ∈ config.2.frequencyDays, days ≠ 0 → ∀ last ∈ existing.getLast?, ¬ (now - last.2.appliedAt) / msPerDay < days

instance (invoice : Invoice) (config : ℕ × LateFeeConfig) (applications : List (ℕ × LateFeeApplication)) (now : ℤ) :
    Decidable (Chargeable invoice config applications now) := by
  unfold Chargeable
  infer_instance

/-- The totals are those of the invoice as it was read, with the fee. -/
def Invoice.charge (invoice : Invoice) (config : LateFeeConfig) (i : Invoice) : Invoice :=
  let fee := lateFeeAmount config invoice.totalAmount
  { i with
    totalAmount := roundMoney (invoice.totalAmount + fee : ℤ)
    balanceAmount := roundMoney (invoice.balanceAmount + fee : ℤ)
    lines := i.lines ++ [{ description := "Late fee: " ++ config.name, quantity := 100, unitAmount := fee, lineTotal := fee }] }

def charge (l : Ledger) (invoiceId : ℕ) (config : ℕ × LateFeeConfig) (invoice : Invoice) (now : ℤ) : Ledger :=
  if (l.invoices.get? invoiceId).isSome then
    { l with
      lateFeeApplications := l.lateFeeApplications.insert
        { invoiceId, lateFeeConfigId := config.1, amount := lateFeeAmount config.2 invoice.totalAmount, appliedAt := now }
      invoices := l.invoices.modify invoiceId (Invoice.charge invoice config.2) }
  else l

def Invoice.rebalance (invoice : Invoice) (sumAllocated now : ℤ) (i : Invoice) : Invoice :=
  let writeOff := invoice.writeOffAmount.getD 0
  let newBalance := roundMoney (invoice.totalAmount - sumAllocated - writeOff : ℤ)
  { i with
    balanceAmount := newBalance
    status := deriveInvoiceStatus invoice.status newBalance invoice.totalAmount invoice.dueDate now (some writeOff) }

def act (l : Ledger) (process : Process) (input : Input) : Ledger × Option Process :=
  match process with
  | .opened (.applyLateFee invoiceId configId) => (l,(l.invoices.get? invoiceId).map (.loading invoiceId configId))
  | .opened (.confirmAllocations paymentId allocations) =>
    ((transact l (confirmAllocations input.now l paymentId allocations)).1,none)
  | .opened (.recalculateBalance invoiceId) => (l,(l.invoices.get? invoiceId).map (.recalculating invoiceId))
  | .loading invoiceId configId invoice =>
    (l,if isPayableStatus invoice.status then
      some (.pricing invoiceId configId invoice (input.returned.order (applicationsTo l invoiceId))) else none)
  | .pricing invoiceId configId invoice applications =>
    (l,((findLateFeeConfig l configId).filter fun config => Chargeable invoice config applications input.now).map fun config =>
      .charging invoiceId config invoice input.now)
  | .charging invoiceId config invoice now => (charge l invoiceId config invoice now,none)
  | .recalculating invoiceId invoice => (l,some (.rebalancing invoiceId invoice (l.allocatedTo invoiceId)))
  | .rebalancing invoiceId invoice sumAllocated =>
    ({ l with invoices := l.invoices.modify invoiceId (Invoice.rebalance invoice sumAllocated input.now) },none)

def protocol : Protocol Ledger Process Request Input := ⟨.opened,act⟩

/-- With nobody in between, the reads and the write are the late fee of the adjustment service. -/
theorem applyLateFee_ok_iff {l l' : Ledger} {now : ℤ} {invoiceId : ℕ} {configId : Option ℕ} :
    applyLateFee now l invoiceId configId = .ok l' ↔ ∃ invoice, l.invoices.get? invoiceId = some invoice ∧
      isPayableStatus invoice.status = true ∧ ∃ config, findLateFeeConfig l configId = some config ∧
        Chargeable invoice config (applicationsTo l invoiceId) now ∧ l' = charge l invoiceId config invoice now := by
  have hexisting : ∀ config : ℕ × LateFeeConfig, (applicationsTo l invoiceId).filter (fun a => a.2.lateFeeConfigId = config.1) =
      l.lateFeeApplications.select (fun a => a.invoiceId = invoiceId && a.lateFeeConfigId = config.1) := by
    intro config
    simp only [applicationsTo,Table.select,List.filter_filter]
    exact List.filter_congr fun q _ => Bool.and_comm _ _
  simp only [applyLateFee,require_bind_eq_ok,ensure_bind_eq_ok,pure_eq_ok,Chargeable,hexisting]
  constructor
  · rintro ⟨invoice,hi,hs,config,hc,hgrace,hmax,hfrequency,rfl⟩
    exact ⟨invoice,hi,hs,config,hc,⟨hgrace,hmax,hfrequency⟩,by rw [charge,hi]; rfl⟩
  · rintro ⟨invoice,hi,hs,config,hc,⟨hgrace,hmax,hfrequency⟩,rfl⟩
    exact ⟨invoice,hi,hs,config,hc,hgrace,hmax,hfrequency,by rw [charge,hi]; rfl⟩

/-! ## What an invoice is charged -/

def applicationsOf (l : Ledger) (invoiceId configId : ℕ) : List (ℕ × LateFeeApplication) :=
  l.lateFeeApplications.select fun a => a.invoiceId = invoiceId && a.lateFeeConfigId = configId

/-- Sum of the late fees applied to an invoice. -/
def feesOn (l : Ledger) (invoiceId : ℕ) : ℤ := l.lateFeeApplications.sumWhere (fun a => a.invoiceId = invoiceId) (·.amount)

/-- The invoice has no more applications of a configuration than it allows, at the distance it asks for; its
total is the original one with all the fees, and its balance what of that is left. -/
structure FeesExact (original : ℤ) (id : ℕ) (l : Ledger) : Prop where
  limited : ∀ configId config, l.lateFeeConfigs.get? configId = some config →
    (applicationsOf l id configId).length ≤ config.maxApplications
  spaced : ∀ configId config days, l.lateFeeConfigs.get? configId = some config → config.frequencyDays = some days →
    (applicationsOf l id configId).Pairwise fun a b => days * msPerDay ≤ |b.2.appliedAt - a.2.appliedAt|
  total : ∀ invoice, l.invoices.get? id = some invoice → invoice.totalAmount = original + feesOn l id
  balance : ∀ invoice, l.invoices.get? id = some invoice → BalanceExact l id invoice

/-- A fee is written onto the totals that it was computed from, below the limit and far enough from every
other application. -/
structure Fits (l : Ledger) (id : ℕ) (config : ℕ × LateFeeConfig) (invoice current : Invoice) (now : ℤ) : Prop where
  total : invoice.totalAmount = current.totalAmount
  balance : invoice.balanceAmount = current.balanceAmount
  limited : (applicationsOf l id config.1).length < config.2.maxApplications
  spaced : ∀ days, config.2.frequencyDays = some days → ∀ q ∈ applicationsOf l id config.1,
    days * msPerDay ≤ |now - q.2.appliedAt|

/-- What a process that is about to write has read of the invoice is what there is by now; a recomputed
balance and confirmed allocations have to find no credit notes applied. -/
def UpToDate (id : ℕ) (l : Ledger) (process : Process) (_ : Input) : Prop :=
  match process with
  | .charging invoiceId config invoice now => invoiceId = id → ∀ current, l.invoices.get? id = some current →
    Fits l id config invoice current now
  | .rebalancing invoiceId invoice sumAllocated => invoiceId = id → ∀ current, l.invoices.get? id = some current →
    invoice.totalAmount - sumAllocated - invoice.writeOffAmount.getD 0 =
      current.totalAmount - l.allocatedTo id - l.creditedTo id - current.writeOffAmount.getD 0
  | .opened (.confirmAllocations paymentId allocations) => Confirmable l paymentId allocations →
    id ∈ allocations.map (·.invoiceId) → l.creditedTo id = 0
  | _ => True

section
variable {l l' : Ledger} {original now : ℤ} {id invoiceId : ℕ} {config : ℕ × LateFeeConfig} {invoice : Invoice}
  {g : Invoice → Invoice}

/-! ## Configurations -/

theorem get?_of_findLateFeeConfig {configId : Option ℕ} (h : findLateFeeConfig l configId = some config) :
    l.lateFeeConfigs.get? config.1 = some config.2 := by
  cases configId with
  | some configId =>
    obtain ⟨c,hc,rfl⟩ := Option.map_eq_some_iff.mp h
    exact (Option.filter_eq_some_iff.mp hc).1
  | none => exact Table.get?_of_mem (List.mem_filter.mp (List.mem_of_getLast? h)).1

/-- The tables that no balance depends on. -/
structure SameFees (l l' : Ledger) : Prop where
  configs : l'.lateFeeConfigs = l.lateFeeConfigs
  applications : l'.lateFeeApplications = l.lateFeeApplications

theorem SameFees.trans {l'' : Ledger} (h : SameFees l l') (h' : SameFees l' l'') : SameFees l l'' :=
  ⟨h'.configs.trans h.configs,h'.applications.trans h.applications⟩

theorem sameFees_confirmAllocations {paymentId : ℕ} {allocations : List AllocationItem}
    (h : confirmAllocations now l paymentId allocations = .ok l') : SameFees l l' := by
  have hcreate : ∀ l, SameFees l (allocations.foldl (createAllocation paymentId) l) := by
    clear h
    induction allocations with
    | nil => exact fun l => ⟨rfl,rfl⟩
    | cons a rest ih =>
      intro l
      have hfirst : SameFees l (createAllocation paymentId l a) := ⟨rfl,rfl⟩
      exact hfirst.trans (ih _)
  have hloop : ∀ l, allocations.foldlM (fun l a => recalculateBalance now l a.invoiceId) l = .ok l' → SameFees l l' := by
    clear h hcreate
    induction allocations with
    | nil =>
      intro l h
      obtain rfl : l = l' := by simpa using h
      exact ⟨rfl,rfl⟩
    | cons a rest ih =>
      intro l h
      rw [List.foldlM_cons,bind_eq_ok] at h
      obtain ⟨mid,hm,h⟩ := h
      have hfirst : SameFees l mid := by
        obtain ⟨_,_,-,-,rfl⟩ := recalculateBalance_ok hm
        exact ⟨rfl,rfl⟩
      exact hfirst.trans (ih _ h)
  exact (hcreate l).trans (hloop _ (confirmAllocations_ok_iff.mp h).2)

theorem sameConfigs_act (l : Ledger) (process : Process) (input : Input) :
    (act l process input).1.lateFeeConfigs = l.lateFeeConfigs := by
  cases process with
  | opened request =>
    cases request with
    | confirmAllocations paymentId allocations =>
      exact transact_keeps (P := fun l' => l'.lateFeeConfigs = l.lateFeeConfigs) rfl
        fun l' h => (sameFees_confirmAllocations h).configs
    | _ => rfl
  | charging invoiceId config invoice now =>
    simp only [act,charge]
    split <;> rfl
  | _ => rfl

/-- A process that is about to charge has found its configuration in the ledger. -/
def Configured (l : Ledger) : Process → Prop
  | .charging _ config _ _ => l.lateFeeConfigs.get? config.1 = some config.2
  | _ => True

theorem configured_congr (h : l'.lateFeeConfigs = l.lateFeeConfigs) {process : Process} (hp : Configured l process) :
    Configured l' process := by
  cases process with
  | charging _ config _ _ => exact (congrArg (fun t => Table.get? t config.1) h).trans hp
  | _ => trivial

theorem configured_own {process next : Process} {input : Input} (h : (act l process input).2 = some next) :
    Configured (act l process input).1 next := by
  cases process with
  | opened request =>
    cases request with
    | applyLateFee invoiceId configId =>
      obtain ⟨_,-,rfl⟩ := Option.map_eq_some_iff.mp h
      trivial
    | confirmAllocations paymentId allocations => cases h
    | recalculateBalance invoiceId =>
      obtain ⟨_,-,rfl⟩ := Option.map_eq_some_iff.mp h
      trivial
  | loading invoiceId configId invoice =>
    simp only [act] at h
    split at h <;> cases h
    trivial
  | pricing invoiceId configId invoice applications =>
    obtain ⟨config,hconfig,rfl⟩ := Option.map_eq_some_iff.mp h
    exact get?_of_findLateFeeConfig (Option.filter_eq_some_iff.mp hconfig).1
  | charging invoiceId config invoice now => cases h
  | recalculating invoiceId invoice =>
    cases h
    trivial
  | rebalancing invoiceId invoice sumAllocated => cases h

theorem kept_configured : Kept protocol (fun _ => True) Configured where
  opened := fun _ _ _ => trivial
  store := fun _ _ _ _ _ => trivial
  own := fun _ _ _ _ _ _ hnext => configured_own hnext
  others := fun l process input _ _ _ hother => configured_congr (sameConfigs_act l process input) hother

/-! ## Charging -/

theorem applicationsOf_insert (a : LateFeeApplication) (configId : ℕ) {invoices : Table Invoice} :
    applicationsOf { l with lateFeeApplications := l.lateFeeApplications.insert a, invoices } id configId =
      applicationsOf l id configId ++
        if a.invoiceId = id ∧ a.lateFeeConfigId = configId then [(l.lateFeeApplications.next,a)] else [] := by
  simp only [applicationsOf,Table.select,Table.insert,List.filter_append]
  by_cases ha : a.invoiceId = id ∧ a.lateFeeConfigId = configId
  · simp [ha]
  · rw [if_neg ha]
    simp only [List.filter_cons,List.filter_nil]
    rw [if_neg]
    simpa using ha

theorem feesOn_insert (a : LateFeeApplication) {invoices : Table Invoice} :
    feesOn { l with lateFeeApplications := l.lateFeeApplications.insert a, invoices } id =
      feesOn l id + if a.invoiceId = id then a.amount else 0 := by
  simp [feesOn,Table.sumWhere_insert]

/-- A change to another invoice. -/
theorem FeesExact.other (h : FeesExact original id l) (hne : invoiceId ≠ id) (hconfigs : l'.lateFeeConfigs = l.lateFeeConfigs)
    (happlications : ∀ configId, applicationsOf l' id configId = applicationsOf l id configId)
    (hfees : feesOn l' id = feesOn l id) (hinvoices : l'.invoices = l.invoices.modify invoiceId g)
    (hallocations : l'.allocations = l.allocations) (hcredits : l'.creditNoteApplications = l.creditNoteApplications) :
    FeesExact original id l' := by
  have hget : l'.invoices.get? id = l.invoices.get? id := by rw [hinvoices,Table.get?_modify_ne _ hne.symm]
  refine ⟨?_,?_,?_,?_⟩
  · intro configId config hc
    rw [happlications]
    exact h.limited configId config (hconfigs ▸ hc)
  · intro configId config days hc
    rw [happlications]
    exact h.spaced configId config days (hconfigs ▸ hc)
  · intro invoice hi
    rw [hfees]
    exact h.total invoice (hget ▸ hi)
  · intro invoice hi
    have hb := h.balance invoice (hget ▸ hi)
    rwa [BalanceExact,Ledger.allocatedTo_congr hallocations,Ledger.creditedTo_congr hcredits]

/-- A late fee keeps the invoice exact precisely if it fits what there is. -/
theorem feesExact_charge_iff (h : FeesExact original id l) (hconfig : l.lateFeeConfigs.get? config.1 = some config.2) :
    FeesExact original id (charge l invoiceId config invoice now) ↔
      (invoiceId = id → ∀ current, l.invoices.get? id = some current → Fits l id config invoice current now) := by
  by_cases hid : invoiceId = id
  swap
  · refine iff_of_true ?_ fun he => absurd he hid
    unfold charge
    split
    · refine h.other hid rfl (fun configId => ?_) ?_ rfl rfl rfl
      · rw [applicationsOf_insert,if_neg (fun he => hid he.1),List.append_nil]
      · rw [feesOn_insert,if_neg hid,add_zero]
    · exact h
  subst hid
  cases hi : l.invoices.get? invoiceId with
  | none =>
    refine iff_of_true ?_ fun _ _ hc => (by cases hc)
    rwa [charge,hi]
  | some current =>
    have hcharge : charge l invoiceId config invoice now = { l with
        lateFeeApplications := l.lateFeeApplications.insert
          ⟨invoiceId,config.1,lateFeeAmount config.2 invoice.totalAmount,now⟩
        invoices := l.invoices.modify invoiceId (Invoice.charge invoice config.2) } := by
      rw [charge,hi]
      rfl
    have hget : (charge l invoiceId config invoice now).invoices.get? invoiceId = some (Invoice.charge invoice config.2 current) := by
      rw [hcharge]
      exact Table.get?_modify_self hi _
    have happlications : ∀ configId, applicationsOf (charge l invoiceId config invoice now) invoiceId configId =
        applicationsOf l invoiceId configId ++ if config.1 = configId then [(l.lateFeeApplications.next,
          ⟨invoiceId,config.1,lateFeeAmount config.2 invoice.totalAmount,now⟩)] else [] := by
      intro configId
      rw [hcharge,applicationsOf_insert]
      simp
    have hfees : feesOn (charge l invoiceId config invoice now) invoiceId =
        feesOn l invoiceId + lateFeeAmount config.2 invoice.totalAmount := by
      rw [hcharge,feesOn_insert,if_pos rfl]
    have hallocated : (charge l invoiceId config invoice now).allocatedTo invoiceId = l.allocatedTo invoiceId := by
      rw [hcharge]
      rfl
    have hcredited : (charge l invoiceId config invoice now).creditedTo invoiceId = l.creditedTo invoiceId := by
      rw [hcharge]
      rfl
    have hconfigs : (charge l invoiceId config invoice now).lateFeeConfigs = l.lateFeeConfigs := by rw [hcharge]
    have htotal := h.total current hi
    have hbalance := h.balance current hi
    rw [BalanceExact] at hbalance
    constructor
    · rintro h' - _ ⟨⟩
      have htotal' := h'.total _ hget
      have hbalance' := h'.balance _ hget
      have hlimited := h'.limited config.1 config.2 (hconfigs ▸ hconfig)
      rw [BalanceExact,hallocated,hcredited] at hbalance'
      simp only [Invoice.charge,roundMoney_intCast] at htotal' hbalance'
      rw [hfees] at htotal'
      rw [happlications,if_pos rfl,List.length_append,List.length_singleton] at hlimited
      refine ⟨by omega,by omega,by omega,fun days hdays q hq => ?_⟩
      have hspaced := h'.spaced config.1 config.2 days (hconfigs ▸ hconfig) hdays
      rw [happlications,if_pos rfl,List.pairwise_append] at hspaced
      exact hspaced.2.2 q hq _ (List.mem_singleton_self _)
    · intro hfits
      have hfits := hfits rfl current rfl
      have htotals := hfits.total
      have hbalances := hfits.balance
      refine ⟨fun configId c hc => ?_,fun configId c days hc hdays => ?_,fun i hi' => ?_,fun i hi' => ?_⟩
      · rw [hconfigs] at hc
        rw [happlications]
        split
        · rename_i he
          subst he
          obtain rfl : config.2 = c := Option.some.inj (hconfig.symm.trans hc)
          rw [List.length_append,List.length_singleton]
          exact hfits.limited
        · rw [List.append_nil]
          exact h.limited configId c hc
      · rw [hconfigs] at hc
        rw [happlications]
        split
        · rename_i he
          subst he
          obtain rfl : config.2 = c := Option.some.inj (hconfig.symm.trans hc)
          refine List.pairwise_append.mpr ⟨h.spaced _ _ days hc hdays,List.pairwise_singleton _ _,fun q hq a ha => ?_⟩
          rw [List.mem_singleton.mp ha]
          exact hfits.spaced days hdays q hq
        · rw [List.append_nil]
          exact h.spaced configId c days hc hdays
      · obtain rfl := Option.some.inj (hget.symm.trans hi')
        rw [hfees]
        simp only [Invoice.charge,roundMoney_intCast]
        omega
      · obtain rfl := Option.some.inj (hget.symm.trans hi')
        rw [BalanceExact,hallocated,hcredited]
        simp only [Invoice.charge,roundMoney_intCast]
        omega

/-! ## Rebalancing -/

/-- Where the balance alone may have changed, it decides. -/
theorem feesExact_balance_iff (h : FeesExact original id l) (hsame : SameFees l l') {current current' : Invoice}
    (hi : l.invoices.get? id = some current) (hi' : l'.invoices.get? id = some current')
    (htotal : current'.totalAmount = current.totalAmount) : FeesExact original id l' ↔ BalanceExact l' id current' := by
  have happlications : ∀ configId, applicationsOf l' id configId = applicationsOf l id configId := fun configId => by
    rw [applicationsOf,hsame.applications,applicationsOf]
  have hfees : feesOn l' id = feesOn l id := by rw [feesOn,hsame.applications,feesOn]
  constructor
  · exact fun h' => h'.balance current' hi'
  · intro hbalance
    refine ⟨fun configId config hc => ?_,fun configId config days hc => ?_,fun i hget => ?_,fun i hget => ?_⟩
    · rw [happlications]
      exact h.limited configId config (hsame.configs ▸ hc)
    · rw [happlications]
      exact h.spaced configId config days (hsame.configs ▸ hc)
    · obtain rfl := Option.some.inj (hi'.symm.trans hget)
      rw [hfees,htotal]
      exact h.total current hi
    · obtain rfl := Option.some.inj (hi'.symm.trans hget)
      exact hbalance

theorem feesExact_rebalance_iff (h : FeesExact original id l) {sumAllocated : ℤ} :
    FeesExact original id { l with invoices := l.invoices.modify invoiceId (Invoice.rebalance invoice sumAllocated now) } ↔
      (invoiceId = id → ∀ current, l.invoices.get? id = some current →
        invoice.totalAmount - sumAllocated - invoice.writeOffAmount.getD 0 =
          current.totalAmount - l.allocatedTo id - l.creditedTo id - current.writeOffAmount.getD 0) := by
  by_cases hid : invoiceId = id
  swap
  · exact iff_of_true (h.other hid rfl (fun _ => rfl) rfl rfl rfl rfl) fun he => absurd he hid
  subst hid
  cases hi : l.invoices.get? invoiceId with
  | none =>
    refine iff_of_true ⟨h.limited,h.spaced,fun i hget => ?_,fun i hget => ?_⟩ fun _ _ hc => (by cases hc)
    all_goals
      rw [Table.get?_modify,if_pos rfl,hi] at hget
      cases hget
  | some current =>
    have hget : (l.invoices.modify invoiceId (Invoice.rebalance invoice sumAllocated now)).get? invoiceId =
        some (Invoice.rebalance invoice sumAllocated now current) := Table.get?_modify_self hi _
    have hsame : SameFees l { l with
      invoices := l.invoices.modify invoiceId (Invoice.rebalance invoice sumAllocated now) } := ⟨rfl,rfl⟩
    rw [feesExact_balance_iff h hsame hi hget rfl]
    simp only [BalanceExact,Invoice.rebalance,roundMoney_intCast,Option.some.injEq,forall_eq',forall_const]
    exact Iff.rfl

theorem feesExact_confirm_iff (h : FeesExact original id l) {paymentId : ℕ} {allocations : List AllocationItem} :
    FeesExact original id (transact l (confirmAllocations now l paymentId allocations)).1 ↔
      (Confirmable l paymentId allocations → id ∈ allocations.map (·.invoiceId) → l.creditedTo id = 0) := by
  refine transact_iff h ?_ ?_
  · intro l' hok
    have hconfirmable := (confirmAllocations_ok_iff.mp hok).1
    have hrebalanced := confirmAllocations_rebalanced hok
    have hsame := sameFees_confirmAllocations hok
    have hcredited : l'.creditedTo id = l.creditedTo id := Ledger.creditedTo_congr hrebalanced.credits
    by_cases hmem : id ∈ allocations.map (·.invoiceId)
    · obtain ⟨current,current',hi,hi',htotal,hwriteOff,-,hbalance⟩ := hrebalanced.recomputed id hmem
      rw [feesExact_balance_iff h hsame hi hi' htotal,BalanceExact,hbalance,htotal,hwriteOff,hcredited]
      constructor
      · intro he _ _
        omega
      · intro hc
        have := hc hconfirmable hmem
        omega
    · refine iff_of_true ?_ fun _ hm => absurd hm hmem
      obtain ⟨hget,hallocated⟩ := hrebalanced.kept id hmem
      refine ⟨fun configId config hc => ?_,fun configId config days hc => ?_,fun i hi => ?_,fun i hi => ?_⟩
      · rw [applicationsOf,hsame.applications]
        exact h.limited configId config (hsame.configs ▸ hc)
      · rw [applicationsOf,hsame.applications]
        exact h.spaced configId config days (hsame.configs ▸ hc)
      · rw [feesOn,hsame.applications]
        exact h.total i (hget ▸ hi)
      · have hb := h.balance i (hget ▸ hi)
        rwa [BalanceExact,hallocated,hcredited]
  · intro herr hc
    obtain ⟨l',hok⟩ := hc.exists_ok now
    exact absurd hok (herr l')

theorem feesExact_act_iff (h : FeesExact original id l) {process : Process} (hp : Configured l process) (input : Input) :
    FeesExact original id (act l process input).1 ↔ UpToDate id l process input := by
  cases process with
  | opened request =>
    cases request with
    | applyLateFee invoiceId configId => exact iff_of_true h trivial
    | confirmAllocations paymentId allocations => exact feesExact_confirm_iff h
    | recalculateBalance invoiceId => exact iff_of_true h trivial
  | loading invoiceId configId invoice => exact iff_of_true h trivial
  | pricing invoiceId configId invoice applications => exact iff_of_true h trivial
  | charging invoiceId config invoice now => exact feesExact_charge_iff h hp
  | recalculating invoiceId invoice => exact iff_of_true h trivial
  | rebalancing invoiceId invoice sumAllocated => exact feesExact_rebalance_iff h

end

/-- One unpaid invoice over 100.00, and a fee of 5.00 that may be applied once. -/
def overdueLedger : Ledger :=
  { Ledger.initial [1] with
    invoices := Table.empty.insert ⟨1,.overdue,some 0,0,10000,0,10000,10000,none,none,none,none,[]⟩
    lateFeeConfigs := Table.empty.insert ⟨"Late",.fixed,500,0,1,some 7,true⟩ }

theorem feesExact_overdueLedger : FeesExact 10000 0 overdueLedger where
  limited := fun _ _ _ => Nat.zero_le _
  spaced := fun _ _ _ _ _ => List.Pairwise.nil
  total := by
    intro invoice h
    cases h
    rfl
  balance := by
    intro invoice h
    cases h
    rfl

def asFound : ReturnOrder := ⟨id,fun _ => List.Perm.refl _⟩

def oneFee : List (Event Request Input) :=
  [.start (.applyLateFee 0 none),.act 0 ⟨msPerDay,asFound⟩,.act 0 ⟨msPerDay,asFound⟩,.act 0 ⟨msPerDay,asFound⟩]

end EduPod.Finance.LateFees
