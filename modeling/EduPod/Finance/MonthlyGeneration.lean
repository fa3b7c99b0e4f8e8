import EduPod.Foundation.Runs
import EduPod.Finance.RecurringInvoices

/-! # The generation dates of monthly configs

A run of the job touches every config by itself, so what a run does to one config is a function of
what the tables hold about that config alone.
-/
namespace EduPod.Finance
open Runs

def Billing.initial (tenantExists : Bool) (ledger : Ledger) (configs : Table RecurringInvoiceConfig) :
    Billing :=
  ⟨tenantExists,ledger,configs,[],[]⟩

def attemptsOf (b : Billing) (configId : ℕ) : List Attempt :=
  b.attempts.filter fun a => a.configId = configId

/-- The dates a config was moved on from, and the one it is due on next. -/
def generationDates (b : Billing) (configId : ℕ) (config : RecurringInvoiceConfig) : List CivilDate :=
  (b.generations.filter fun g => g.1 = configId).map Prod.snd ++ [config.nextGenerationDate]

/-- The dates lie in the calendar months from the first one on, one in each. -/
def OneDatePerMonth (dates : List CivilDate) : Prop := ∀ first, dates.head? = some first →
  dates.map (·.monthNumber) = List.range' first.monthNumber dates.length

/-- A failed attempt was repeated for the same period, or its period is still the one due. -/
def FailuresRetried (attempts : List Attempt) (due : CivilDate) : Prop := ∀ before attempt after,
  attempts = before ++ attempt :: after → attempt.created = false → attempt.period = due ∨
    ∃ again ∈ after, again.assignmentId = attempt.assignmentId ∧ again.period = attempt.period

def MonthlyExact (b : Billing) : Prop := ∀ id config, b.configs.get? id = some config →
  config.frequency = .monthly → OneDatePerMonth (generationDates b id config) ∧
    FailuresRetried (attemptsOf b id) config.nextGenerationDate

/-- The job gets through the invoices of the config. -/
def Generates (run : JobRun) (id : ℕ) (config : RecurringInvoiceConfig) : Prop :=
  isDue run config = true ∧ (run.lookupFails id = true → openAssignments config = [])

/-- Where the job moves a monthly config on, the next month has its day and no transaction fails. -/
def MonthlyGuard (b : Billing) (run : JobRun) : Prop := ∀ id config, b.configs.get? id = some config →
  config.frequency = .monthly → Generates run id config → run.updateFails id = false →
  config.nextGenerationDate.day ≤ daysInMonth (config.nextGenerationDate.monthNumber + 1) ∧
    (b.tenantExists = true → ∀ a ∈ openAssignments config, run.transactionFails id a.1 = false)

/-! ## One config -/

/-- What the tables hold about one config. -/
structure ConfigView where
  tenantExists : Bool
  config : Option RecurringInvoiceConfig
  attempts : List Attempt
  dates : List CivilDate

def viewOf (id : ℕ) (b : Billing) : ConfigView where
  tenantExists := b.tenantExists
  config := b.configs.get? id
  attempts := attemptsOf b id
  dates := (b.generations.filter fun g => g.1 = id).map Prod.snd

/-- The attempts of one run for one config. -/
def batch (run : JobRun) (tenantExists : Bool) (id : ℕ) (config : RecurringInvoiceConfig) : List Attempt :=
  if tenantExists then (openAssignments config).map fun a => attemptOf run id config a.1 else []

def movedOn (run : JobRun) (config : RecurringInvoiceConfig) : RecurringInvoiceConfig :=
  { config with
    nextGenerationDate := computeNextDate config.nextGenerationDate config.frequency
    lastGeneratedAt := some run.now }

namespace ConfigView

def attempted (v : ConfigView) (run : JobRun) (id : ℕ) (config : RecurringInvoiceConfig) : ConfigView :=
  { v with attempts := v.attempts ++ batch run v.tenantExists id config }

def advanced (v : ConfigView) (run : JobRun) (id : ℕ) (config : RecurringInvoiceConfig) : ConfigView :=
  { v.attempted run id config with
    config := some (movedOn run config)
    dates := v.dates ++ [config.nextGenerationDate] }

/-- What one run may do to a config: nothing, bill it, or bill it and move it on. -/
inductive Served (run : JobRun) (id : ℕ) (v : ConfigView) : ConfigView → Prop
  | idle (h : ∀ config, v.config = some config → ¬Generates run id config) : Served run id v v
  | stuck {config : RecurringInvoiceConfig} (hc : v.config = some config) (hg : Generates run id config)
      (hu : run.updateFails id = true) : Served run id v (v.attempted run id config)
  | advanced {config : RecurringInvoiceConfig} (hc : v.config = some config) (hg : Generates run id config)
      (hu : run.updateFails id = false) : Served run id v (v.advanced run id config)

end ConfigView

section
variable {run : JobRun} {b : Billing} {id : ℕ} {config : RecurringInvoiceConfig}

/-- The loop over the assignments leaves a record of each of them. -/
theorem billAssignments_eq (run : JobRun) (id : ℕ) (config : RecurringInvoiceConfig)
    (rows : List (ℕ × HouseholdFeeAssignment)) (acc : Billing × ℕ) :
    let after := (rows.foldl (billAssignment run id config) acc).1
    after.tenantExists = acc.1.tenantExists ∧ after.configs = acc.1.configs ∧
      after.generations = acc.1.generations ∧
      after.attempts = acc.1.attempts ++ rows.map fun a => attemptOf run id config a.1 := by
  induction rows generalizing acc with
  | nil => simp
  | cons row rows ih =>
    have hone : (billAssignment run id config acc row).1.tenantExists = acc.1.tenantExists ∧
        (billAssignment run id config acc row).1.configs = acc.1.configs ∧
        (billAssignment run id config acc row).1.generations = acc.1.generations ∧
        (billAssignment run id config acc row).1.attempts =
          acc.1.attempts ++ [attemptOf run id config row.1] := by
      unfold billAssignment
      split <;> exact ⟨rfl,rfl,rfl,rfl⟩
    obtain ⟨ht,hc,hg,ha⟩ := ih (billAssignment run id config acc row)
    refine ⟨ht.trans hone.1,hc.trans hone.2.1,hg.trans hone.2.2.1,?_⟩
    refine ha.trans ?_
    rw [hone.2.2.2]
    simp

theorem generateForConfig_eq {after : Billing × ℕ} (h : generateForConfig run b id config = some after) :
    after.1.tenantExists = b.tenantExists ∧ after.1.configs = b.configs ∧
      after.1.generations = b.generations ∧
      after.1.attempts = b.attempts ++ batch run b.tenantExists id config ∧
      (run.lookupFails id = true → openAssignments config = []) := by
  unfold generateForConfig at h
  unfold batch
  cases ho : openAssignments config with
  | nil =>
    rw [ho] at h
    cases h
    simp
  | cons row rows =>
    simp only [ho,List.isEmpty_cons,Bool.false_eq_true,if_false] at h
    cases hl : run.lookupFails id with
    | true => simp [hl] at h
    | false =>
      rw [hl] at h
      cases ht : b.tenantExists with
      | true =>
        simp only [ht,Bool.false_eq_true,if_false,if_true,Option.some.injEq] at h
        subst h
        obtain ⟨hte,hc,hg,ha⟩ := billAssignments_eq run id config (row :: rows) (b,0)
        exact ⟨hte.trans ht,hc,hg,ha,fun h => absurd h Bool.false_ne_true⟩
      | false =>
        simp only [ht,Bool.false_eq_true,if_false,Option.some.injEq] at h
        subst h
        simp [ht]

theorem generateForConfig_none (h : generateForConfig run b id config = none) :
    ¬(run.lookupFails id = true → openAssignments config = []) := by
  unfold generateForConfig at h
  cases ho : openAssignments config with
  | nil => simp [ho] at h
  | cons row rows =>
    cases hl : run.lookupFails id with
    | true => simp
    | false =>
      cases ht : b.tenantExists <;> simp [ho,hl,ht] at h

theorem configId_of_mem_batch {tenantExists : Bool} {a : Attempt} (h : a ∈ batch run tenantExists id config) :
    a.configId = id := by
  unfold batch at h
  split at h
  · obtain ⟨row,-,rfl⟩ := List.mem_map.mp h
    rfl
  · cases h

theorem filter_batch (tenantExists : Bool) (j : ℕ) :
    (batch run tenantExists id config).filter (fun a => a.configId = j) =
      if id = j then batch run tenantExists id config else [] := by
  split
  · rename_i h
    apply List.filter_eq_self.mpr
    intro a ha
    simpa [configId_of_mem_batch ha] using h
  · rename_i h
    apply List.filter_eq_nil_iff.mpr
    intro a ha
    simpa [configId_of_mem_batch ha] using h

/-- One round leaves every other config as it is. -/
theorem viewOf_generateDue_ne {acc : Billing × ℕ} {row : ℕ × RecurringInvoiceConfig} (h : row.1 ≠ id) :
    viewOf id (generateDue run acc row).1 = viewOf id acc.1 := by
  unfold generateDue
  cases hg : generateForConfig run acc.1 row.1 row.2 with
  | none => rfl
  | some after =>
    obtain ⟨ht,hc,hgen,ha,-⟩ := generateForConfig_eq hg
    have hattempts : attemptsOf after.1 id = attemptsOf acc.1 id := by
      unfold attemptsOf
      rw [ha,List.filter_append,filter_batch,if_neg h,List.append_nil]
    cases hu : run.updateFails row.1 with
    | true => simp [viewOf,ht,hc,hgen,hattempts]
    | false =>
      have hget := Table.get?_modify_ne after.1.configs (Ne.symm h) fun c => { c with
        nextGenerationDate := computeNextDate row.2.nextGenerationDate row.2.frequency
        lastGeneratedAt := some run.now }
      rw [hc] at hget
      simp only [attemptsOf] at hattempts
      simp [viewOf,attemptsOf,moveOn,ht,hc,hgen,hattempts,hget,h]

theorem viewOf_foldl_ne {rows : List (ℕ × RecurringInvoiceConfig)} (h : id ∉ rows.map Prod.fst) (acc : Billing × ℕ) :
    viewOf id (rows.foldl (generateDue run) acc).1 = viewOf id acc.1 := by
  induction rows generalizing acc with
  | nil => rfl
  | cons row rows ih =>
    obtain ⟨hne,hrest⟩ := List.ne_and_not_mem_of_not_mem_cons h
    exact (ih hrest _).trans (viewOf_generateDue_ne (Ne.symm hne))

/-- One round does to its own config what a run may do to it. -/
theorem viewOf_generateDue_self {acc : Billing × ℕ} (hc : acc.1.configs.get? id = some config)
    (hdue : isDue run config = true) :
    ConfigView.Served run id (viewOf id acc.1) (viewOf id (generateDue run acc (id,config)).1) := by
  unfold generateDue
  cases hg : generateForConfig run acc.1 id config with
  | none =>
    apply ConfigView.Served.idle
    intro config' hc' hgen
    obtain rfl : config = config' := Option.some.inj (hc.symm.trans hc')
    exact generateForConfig_none hg hgen.2
  | some after =>
    obtain ⟨ht,hconfigs,hgen,ha,hopen⟩ := generateForConfig_eq hg
    have hattempts : attemptsOf after.1 id =
        attemptsOf acc.1 id ++ batch run acc.1.tenantExists id config := by
      unfold attemptsOf
      rw [ha,List.filter_append,filter_batch,if_pos rfl]
    cases hu : run.updateFails id with
    | true =>
      have hview : viewOf id after.1 = (viewOf id acc.1).attempted run id config := by
        simp [viewOf,ConfigView.attempted,ht,hconfigs,hgen,hattempts]
      simp only [if_true]
      rw [hview]
      exact .stuck hc ⟨hdue,hopen⟩ hu
    | false =>
      have hget := Table.get?_modify_self (hconfigs ▸ hc) fun c => { c with
        nextGenerationDate := computeNextDate config.nextGenerationDate config.frequency
        lastGeneratedAt := some run.now }
      have hview : viewOf id (moveOn run after.1 id config) = (viewOf id acc.1).advanced run id config := by
        simp only [attemptsOf] at hattempts
        simp [viewOf,attemptsOf,moveOn,ConfigView.advanced,ConfigView.attempted,movedOn,ht,hgen,hattempts,hget]
      simp only [Bool.false_eq_true,if_false]
      rw [hview]
      exact .advanced hc ⟨hdue,hopen⟩ hu

/-- A run of the job does to each config what a run may do to it, whatever it does to the others. -/
theorem viewOf_dailyJob (b : Billing) (run : JobRun) (id : ℕ) :
    ConfigView.Served run id (viewOf id b) (viewOf id (dailyJob b run)) := by
  unfold dailyJob generateDueInvoices
  by_cases hid : id ∈ (b.configs.select (isDue run)).map Prod.fst
  · obtain ⟨row,hrow,rfl⟩ := List.mem_map.mp hid
    obtain ⟨hmem,hdue⟩ := List.mem_filter.mp hrow
    obtain ⟨before,after,hsplit⟩ := List.append_of_mem hrow
    have hnodup : ((before ++ row :: after).map Prod.fst).Nodup := by
      rw [← hsplit]
      exact b.configs.nodup.sublist (List.filter_sublist.map _)
    simp only [List.map_append,List.map_cons,List.nodup_append,List.nodup_cons,List.mem_cons] at hnodup
    obtain ⟨-,⟨hafter,-⟩,hdisj⟩ := hnodup
    have hbefore : row.1 ∉ before.map Prod.fst := fun h => hdisj row.1 h row.1 (.inl rfl) rfl
    rw [hsplit,List.foldl_append,List.foldl_cons,viewOf_foldl_ne hafter]
    have hview : viewOf row.1 (before.foldl (generateDue run) (b,0)).1 = viewOf row.1 b := viewOf_foldl_ne hbefore (b,0)
    have hget : (before.foldl (generateDue run) (b,0)).1.configs.get? row.1 = some row.2 :=
      (congrArg ConfigView.config hview).trans (Table.get?_of_mem hmem)
    have hs := viewOf_generateDue_self hget hdue
    rwa [hview] at hs
  · rw [viewOf_foldl_ne hid]
    apply ConfigView.Served.idle
    intro config hc hg
    apply hid
    exact List.mem_map.mpr ⟨(id,config),List.mem_filter.mpr ⟨Table.mem_of_get? hc,hg.1⟩,rfl⟩

end

/-! ## Dates and attempts along a run -/

theorem oneDatePerMonth_concat {dates : List CivilDate} {last next : CivilDate}
    (h : OneDatePerMonth (dates ++ [last])) :
    OneDatePerMonth (dates ++ [last] ++ [next]) ↔ next.monthNumber = last.monthNumber + 1 := by
  obtain ⟨first,hfirst⟩ : ∃ first, (dates ++ [last]).head? = some first := by
    cases dates <;> simp
  have hmonths := h first hfirst
  have hlast : last.monthNumber = first.monthNumber + dates.length := by
    rw [List.length_append,List.length_singleton,List.range'_1_concat,List.map_append] at hmonths
    simpa using (List.append_inj hmonths (by simp)).2
  have hhead : (dates ++ [last] ++ [next]).head? = some first := by rw [List.head?_append,hfirst]; rfl
  have hiff : OneDatePerMonth (dates ++ [last] ++ [next]) ↔
      (dates ++ [last]).map (·.monthNumber) ++ [next.monthNumber] =
        List.range' first.monthNumber (dates ++ [last]).length ++
          [first.monthNumber + (dates ++ [last]).length] := by
    rw [← List.range'_1_concat]
    constructor
    · intro hn
      simpa using hn first hhead
    · intro hn other hother
      obtain rfl := Option.some.inj (hhead.symm.trans hother)
      simpa using hn
  rw [hiff,hmonths,List.append_cancel_left_eq,List.singleton_inj]
  simp only [List.length_append,List.length_singleton]
  omega

/-- An element of two joined lists comes before the joint or after it. -/
theorem split_append {α : Type*} {l l' before after : List α} {a : α} (h : l ++ l' = before ++ a :: after) :
    (∃ mid, l = before ++ a :: mid ∧ after = mid ++ l') ∨
      ∃ mid, before = l ++ mid ∧ l' = mid ++ a :: after := by
  rcases List.append_eq_append_iff.mp h with ⟨mid,hbefore,hl'⟩ | ⟨mid,hl,hafter⟩
  · exact .inr ⟨mid,hbefore,hl'⟩
  · rcases List.cons_eq_append_iff.mp hafter with ⟨rfl,rfl⟩ | ⟨mid',rfl,rfl⟩
    · exact .inr ⟨[],by simpa using hl.symm,rfl⟩
    · exact .inl ⟨mid',hl,rfl⟩

section
variable {attempts made : List Attempt} {due next : CivilDate}

/-- While the period stays due, more attempts leave nothing behind. -/
theorem failuresRetried_append (h : FailuresRetried attempts due) (hdue : ∀ a ∈ made, a.period = due) :
    FailuresRetried (attempts ++ made) due := by
  intro before attempt after hsplit hfailed
  rcases split_append hsplit with ⟨mid,hold,rfl⟩ | ⟨mid,-,hnew⟩
  · refine (h before attempt mid hold hfailed).imp_right ?_
    rintro ⟨again,hagain,heq⟩
    exact ⟨again,List.mem_append_left _ hagain,heq⟩
  · exact .inl (hdue attempt (hnew ▸ List.mem_append_cons_self))

/-- Moving on from a period leaves nothing behind precisely when its last attempts succeed. -/
theorem failuresRetried_moveOn_iff (h : FailuresRetried attempts due) (hdue : ∀ a ∈ made, a.period = due)
    (hnodup : (made.map (·.assignmentId)).Nodup)
    (hcover : ∀ a ∈ attempts, a.assignmentId ∈ made.map (·.assignmentId)) (hnext : next ≠ due) :
    FailuresRetried (attempts ++ made) next ↔ ∀ a ∈ made, a.created = true := by
  constructor
  · intro hr a ha
    by_contra hfailed
    obtain ⟨before,after,rfl⟩ := List.append_of_mem ha
    rcases hr (attempts ++ before) a after (by simp) (by simpa using hfailed) with hperiod | ⟨again,hagain,heq,-⟩
    · exact hnext (hperiod.symm.trans (hdue a ha))
    · -- an assignment is attempted once in a run
      simp only [List.map_append,List.map_cons,List.nodup_append,List.nodup_cons] at hnodup
      exact hnodup.2.1.1 (heq ▸ List.mem_map_of_mem hagain)
  · intro hcreated before attempt after hsplit hfailed
    right
    rcases split_append hsplit with ⟨mid,hold,rfl⟩ | ⟨mid,-,hnew⟩
    · rcases h before attempt mid hold hfailed with hperiod | ⟨again,hagain,heq⟩
      · obtain ⟨again,hagain,heq⟩ := List.mem_map.mp (hcover attempt (hold ▸ List.mem_append_cons_self))
        exact ⟨again,List.mem_append_right _ hagain,heq,(hdue again hagain).trans hperiod.symm⟩
      · exact ⟨again,List.mem_append_left _ hagain,heq⟩
    · have := hcreated attempt (hnew ▸ List.mem_append_cons_self)
      rw [hfailed] at this
      cases this

end

namespace ConfigView

/-- Every attempt was made for an assignment that is still open. -/
def Covered (v : ConfigView) : Prop := ∀ config, v.config = some config → ∀ a ∈ v.attempts,
  v.tenantExists = true ∧ a.assignmentId ∈ (openAssignments config).map Prod.fst

def Exact (v : ConfigView) : Prop := ∀ config, v.config = some config → config.frequency = .monthly →
  OneDatePerMonth (v.dates ++ [config.nextGenerationDate]) ∧
    FailuresRetried v.attempts config.nextGenerationDate

def Guard (v : ConfigView) (run : JobRun) (id : ℕ) : Prop := ∀ config, v.config = some config →
  config.frequency = .monthly → Generates run id config → run.updateFails id = false →
  config.nextGenerationDate.day ≤ daysInMonth (config.nextGenerationDate.monthNumber + 1) ∧
    (v.tenantExists = true → ∀ a ∈ openAssignments config, run.transactionFails id a.1 = false)

end ConfigView

section
variable {run : JobRun} {id : ℕ} {v v' : ConfigView} {config : RecurringInvoiceConfig} {tenantExists : Bool}

theorem of_mem_batch {a : Attempt} (h : a ∈ batch run tenantExists id config) :
    tenantExists = true ∧ a.assignmentId ∈ (openAssignments config).map Prod.fst ∧
      a.period = config.nextGenerationDate := by
  cases ht : tenantExists with
  | true =>
    rw [ht] at h
    obtain ⟨row,hrow,rfl⟩ := List.mem_map.mp h
    exact ⟨rfl,List.mem_map_of_mem hrow,rfl⟩
  | false =>
    rw [ht] at h
    cases h

theorem nodup_batch : ((batch run tenantExists id config).map (·.assignmentId)).Nodup := by
  unfold batch
  split
  · rw [List.map_map]
    exact config.feeStructure.householdFeeAssignments.nodup.sublist (List.filter_sublist.map Prod.fst)
  · exact List.nodup_nil

theorem batch_created_iff : (∀ a ∈ batch run tenantExists id config, a.created = true) ↔
    (tenantExists = true → ∀ a ∈ openAssignments config, run.transactionFails id a.1 = false) := by
  cases tenantExists with
  | true =>
    change (∀ a ∈ (openAssignments config).map fun a => attemptOf run id config a.1, a.created = true) ↔ _
    rw [List.forall_mem_map]
    simp [attemptOf]
  | false => simp [batch]

theorem ConfigView.Served.covered (h : v.Served run id v') (hv : v.Covered) : v'.Covered := by
  cases h with
  | idle h => exact hv
  | stuck hc hg hu =>
    intro config hconfig a ha
    obtain rfl := Option.some.inj (hc.symm.trans hconfig)
    rcases List.mem_append.mp ha with ha | ha
    · exact hv _ hc a ha
    · exact ⟨(of_mem_batch ha).1,(of_mem_batch ha).2.1⟩
  | advanced hc hg hu =>
    intro config hconfig a ha
    obtain rfl := Option.some.inj hconfig
    rcases List.mem_append.mp ha with ha | ha
    · exact hv _ hc a ha
    · exact ⟨(of_mem_batch ha).1,(of_mem_batch ha).2.1⟩

/-- What a run does to a monthly config keeps it exact precisely when the guard holds of it. -/
theorem ConfigView.Served.exact_iff (h : v.Served run id v') (hv : v.Covered) (he : v.Exact) :
    v'.Exact ↔ v.Guard run id := by
  cases h with
  | idle h => exact iff_of_true he fun config hc _ hg => absurd hg (h config hc)
  | stuck hc hg hu =>
    refine iff_of_true ?_ fun _ _ _ _ hu' => absurd (hu'.symm.trans hu) Bool.false_ne_true
    intro config hconfig hm
    obtain rfl := Option.some.inj (hc.symm.trans hconfig)
    obtain ⟨hdates,hretried⟩ := he _ hc hm
    exact ⟨hdates,failuresRetried_append hretried fun a ha => (of_mem_batch ha).2.2⟩
  | @advanced config hc hg hu =>
    by_cases hm : config.frequency = .monthly
    swap
    · refine iff_of_true ?_ ?_
      · intro config' hconfig hm'
        obtain rfl := Option.some.inj hconfig
        exact absurd hm' hm
      · intro config' hconfig hm'
        obtain rfl := Option.some.inj (hc.symm.trans hconfig)
        exact absurd hm' hm
    obtain ⟨hdates,hretried⟩ := he config hc hm
    have hnext : computeNextDate config.nextGenerationDate config.frequency =
        config.nextGenerationDate.addMonth := by
      rw [hm]
      rfl
    have hne : config.nextGenerationDate.addMonth ≠ config.nextGenerationDate := by
      intro h
      have := config.nextGenerationDate.lt_addMonth
      rw [h] at this
      exact lt_irrefl _ this
    have hmonth := (oneDatePerMonth_concat hdates).trans config.nextGenerationDate.addMonth_monthNumber_iff
    -- the attempts so far can only be made up for where there is a tenant to bill
    have hcover : ∀ a ∈ v.attempts,
        a.assignmentId ∈ (batch run v.tenantExists id config).map (·.assignmentId) := by
      intro a ha
      obtain ⟨ht,hopen⟩ := hv config hc a ha
      unfold batch
      rw [if_pos ht,List.map_map]
      exact hopen
    have hfailures := (failuresRetried_moveOn_iff hretried (fun a ha => (of_mem_batch ha).2.2) nodup_batch
      hcover hne).trans batch_created_iff
    have hview : (v.advanced run id config).Exact ↔
        OneDatePerMonth (v.dates ++ [config.nextGenerationDate] ++ [config.nextGenerationDate.addMonth]) ∧
          FailuresRetried (v.attempts ++ batch run v.tenantExists id config)
            config.nextGenerationDate.addMonth := by
      rw [← hnext]
      constructor
      · intro h
        exact h _ rfl hm
      · intro h config' hconfig _
        obtain rfl := Option.some.inj hconfig
        exact h
    rw [hview,hmonth,hfailures]
    constructor
    · intro h config' hconfig _ _ _
      obtain rfl := Option.some.inj (hc.symm.trans hconfig)
      exact h
    · intro h
      exact h config hc hm hg hu

end

/-! ## Whole runs -/

theorem dailyJob_monthlyExact_iff (b : Billing) (run : JobRun) (hv : ∀ id, (viewOf id b).Covered)
    (he : MonthlyExact b) : MonthlyExact (dailyJob b run) ↔ MonthlyGuard b run := by
  change (∀ id, (viewOf id (dailyJob b run)).Exact) ↔ ∀ id, (viewOf id b).Guard run id
  exact forall_congr' fun id => (viewOf_dailyJob b run id).exact_iff (hv id) (he id)

/-- Along every sequence of runs each monthly config is generated once a month and no failed invoice is
left behind, precisely when every run meets the guard. -/
theorem trace_monthlyExact_iff (tenantExists : Bool) (ledger : Ledger) (configs : Table RecurringInvoiceConfig)
    (runs : List JobRun) :
    (∀ b ∈ trace dailyJob (Billing.initial tenantExists ledger configs) runs, MonthlyExact b) ↔
      Guarded dailyJob MonthlyGuard (Billing.initial tenantExists ledger configs) runs := by
  apply trace_invariant_iff (J := fun b => ∀ id, (viewOf id b).Covered)
  · intro b run hv id
    exact (viewOf_dailyJob b run id).covered (hv id)
  · exact dailyJob_monthlyExact_iff
  · intro id config _ a ha
    cases ha
  · intro id config _ _
    constructor
    · intro first hfirst
      obtain rfl := Option.some.inj hfirst
      rfl
    · intro before attempt after hsplit
      exact absurd hsplit (by simp [attemptsOf,Billing.initial])

/-- A monthly config due on 31 January 2026. -/
def lastOfJanuary : RecurringInvoiceConfig where
  frequency := .monthly
  nextGenerationDate := .ofEpochDay 20484
  lastGeneratedAt := none
  active := true
  feeStructure := ⟨"Tuition",10000,.empty⟩

/-- The job on the morning of a day, with every call going through. -/
def morningRun (day : ℤ) : JobRun where
  now := day * msPerDay + 6 * 60 * 60 * 1000
  autoIssue := false
  lookupFails := fun _ => false
  transactionFails := fun _ _ => false
  updateFails := fun _ => false

/-- February is left out: the config moves on from 31 January to 3 March. -/
theorem not_trace_monthlyExact : ¬∀ (tenantExists : Bool) (ledger : Ledger)
    (configs : Table RecurringInvoiceConfig) (runs : List JobRun),
    ∀ b ∈ trace dailyJob (Billing.initial tenantExists ledger configs) runs, MonthlyExact b := by
  intro h
  have hb := h true (Ledger.initial []) (Table.empty.insert lastOfJanuary) [morningRun 20484] _
    (foldl_mem_trace _ _)
  have hmoved : (([morningRun 20484].foldl dailyJob (Billing.initial true (Ledger.initial [])
      (Table.empty.insert lastOfJanuary))).configs.get? 0).map (fun c => (c.frequency,c.nextGenerationDate)) =
      some (.monthly,.ofEpochDay 20515) := by decide +kernel
  obtain ⟨config,hc,hmoved⟩ := Option.map_eq_some_iff.mp hmoved
  have hdates := (hb 0 config hc (Prod.mk.inj hmoved).1).1 (.ofEpochDay 20484)
  rw [generationDates,(Prod.mk.inj hmoved).2] at hdates
  revert hdates
  decide +kernel

end EduPod.Finance
