import Mathlib
import EduPod.EarlyWarning.Scoring

/-! # The laws of the tier assignment

For an accepted configuration the assigned tier is the previous one, moved between two bounds: the
tier of the score itself and the highest tier whose shifted boundary the score has not cleared.
-/
namespace EduPod.EarlyWarning
open Rounding

section
def earlyWarningThresholdsSchema (thresholds : RiskTier → ℚ) : Bool :=
  ([.green,.yellow,.amber,.red] : List RiskTier).all (fun t => 0 ≤ thresholds t && thresholds t ≤ 100) &&
    (thresholds .green < thresholds .yellow && thresholds .yellow < thresholds .amber &&
      thresholds .amber < thresholds .red)

def hysteresisBufferSchema (hysteresisBuffer : ℚ) : Bool :=
  hysteresisBuffer.isInt && 1 ≤ hysteresisBuffer && hysteresisBuffer ≤ 30

/-- The evaluator of the API walks the same boundaries as the worker. -/
def assignTier : ℤ → Option RiskTier → (RiskTier → ℚ) → ℚ → RiskTier × Bool := assignTierWithHysteresis

/-- Without a previous tier nothing is held, as after green. -/
def tierOrder (tier : Option RiskTier) : ℕ := (tier.map RiskTier.order).getD 0

/-- The tier after a sequence of scores, each assigned with the tier the one before returned. -/
def tierAfter (thresholds : RiskTier → ℚ) (hysteresisBuffer : ℚ) (start : Option RiskTier) (scores : List ℤ) :
    Option RiskTier :=
  scores.foldl (fun tier score => some (assignTier score tier thresholds hysteresisBuffer).1) start

/-- What is asked of one assignment. -/
structure TierLaws (thresholds : RiskTier → ℚ) (hysteresisBuffer : ℚ) (previous : Option RiskTier) (score : ℤ) :
    Prop where
  raw_le : (rawTierFromScore score thresholds).order ≤ (assignTier score previous thresholds hysteresisBuffer).1.order
  drops : ∀ tier : RiskTier, tier.order ≤ tierOrder previous →
    (assignTier score previous thresholds hysteresisBuffer).1.order < tier.order →
    score ≤ thresholds tier - hysteresisBuffer
  mono_score : ∀ score' ≥ score, (assignTier score previous thresholds hysteresisBuffer).1.order ≤
    (assignTier score' previous thresholds hysteresisBuffer).1.order
  mono_previous : ∀ previous' : Option RiskTier, tierOrder previous ≤ tierOrder previous' →
    (assignTier score previous thresholds hysteresisBuffer).1.order ≤
      (assignTier score previous' thresholds hysteresisBuffer).1.order
  stable : assignTier score (some (assignTier score previous thresholds hysteresisBuffer).1) thresholds
    hysteresisBuffer = ((assignTier score previous thresholds hysteresisBuffer).1,false)

variable {thresholds : RiskTier → ℚ} {hysteresisBuffer : ℚ} {score score' : ℤ} {n : ℕ}
  {previous previous' start start' : Option RiskTier} {scores scores' : List ℤ}

@[simp] theorem tiersByOrder_order (tier : RiskTier) : tiersByOrder tier.order = tier := by cases tier <;> rfl

theorem order_tiersByOrder (h : n ≤ 3) : (tiersByOrder n).order = n := by interval_cases n <;> rfl

theorem order_le (tier : RiskTier) : tier.order ≤ 3 := by cases tier <;> decide

theorem order_injective : Function.Injective RiskTier.order :=
  Function.LeftInverse.injective tiersByOrder_order

theorem ascending_of_schema (h : earlyWarningThresholdsSchema thresholds) :
    thresholds .yellow < thresholds .amber ∧ thresholds .amber < thresholds .red := by
  simp only [earlyWarningThresholdsSchema,Bool.and_eq_true,decide_eq_true_eq] at h
  exact ⟨h.2.1.2,h.2.2⟩

theorem buffer_pos_of_schema (h : hysteresisBufferSchema hysteresisBuffer) : 0 < hysteresisBuffer := by
  simp only [hysteresisBufferSchema,Bool.and_eq_true,decide_eq_true_eq] at h
  linarith [h.1.2]

/-! ## The two bounds -/

/-- The highest tier whose boundary, shifted down by the buffer, the score still exceeds. -/
def heldOrder (score : ℤ) (thresholds : RiskTier → ℚ) (hysteresisBuffer : ℚ) : ℕ :=
  if thresholds .red - hysteresisBuffer < score then 3
  else if thresholds .amber - hysteresisBuffer < score then 2
  else if thresholds .yellow - hysteresisBuffer < score then 1
  else 0

theorem lt_rawOrder_iff (h : earlyWarningThresholdsSchema thresholds) (hn : n < 3) :
    n < (rawTierFromScore score thresholds).order ↔ thresholds (tiersByOrder (n + 1)) ≤ score := by
  obtain ⟨hamber,hred⟩ := ascending_of_schema h
  unfold rawTierFromScore
  interval_cases n <;> simp only [tiersByOrder] <;> split_ifs <;> simp only [RiskTier.order] <;>
    constructor <;> intro hlt <;> first | omega | linarith

theorem lt_heldOrder_iff (h : earlyWarningThresholdsSchema thresholds) (hn : n < 3) :
    n < heldOrder score thresholds hysteresisBuffer ↔
      thresholds (tiersByOrder (n + 1)) - hysteresisBuffer < score := by
  obtain ⟨hamber,hred⟩ := ascending_of_schema h
  unfold heldOrder
  interval_cases n <;> simp only [tiersByOrder] <;> split_ifs <;> constructor <;> intro hlt <;>
    first | omega | linarith

theorem rawOrder_le_heldOrder (h : earlyWarningThresholdsSchema thresholds) (hbuffer : 0 < hysteresisBuffer) :
    (rawTierFromScore score thresholds).order ≤ heldOrder score thresholds hysteresisBuffer := by
  refine le_of_forall_lt fun n hn => ?_
  have hlt : n < 3 := hn.trans_le (order_le _)
  rw [lt_rawOrder_iff h hlt] at hn
  rw [lt_heldOrder_iff h hlt]
  linarith

theorem rawOrder_mono (h : earlyWarningThresholdsSchema thresholds) (hle : score ≤ score') :
    (rawTierFromScore score thresholds).order ≤ (rawTierFromScore score' thresholds).order := by
  refine le_of_forall_lt fun n hn => ?_
  have hlt : n < 3 := hn.trans_le (order_le _)
  have hcast : (score : ℚ) ≤ score' := by exact_mod_cast hle
  rw [lt_rawOrder_iff h hlt] at hn ⊢
  exact hn.trans hcast

theorem heldOrder_le (score : ℤ) (thresholds : RiskTier → ℚ) (hysteresisBuffer : ℚ) :
    heldOrder score thresholds hysteresisBuffer ≤ 3 := by
  unfold heldOrder
  split_ifs <;> decide

theorem heldOrder_mono (h : earlyWarningThresholdsSchema thresholds) (hle : score ≤ score') :
    heldOrder score thresholds hysteresisBuffer ≤ heldOrder score' thresholds hysteresisBuffer := by
  refine le_of_forall_lt fun n hn => ?_
  have hlt : n < 3 := hn.trans_le (heldOrder_le _ _ _)
  have hcast : (score : ℚ) ≤ score' := by exact_mod_cast hle
  rw [lt_heldOrder_iff h hlt] at hn ⊢
  exact hn.trans_le hcast

/-! ## The assigned tier -/

/-- The walk stops at the first boundary not cleared, so at the held tier if it starts above. -/
theorem lowerTier_order (h : earlyWarningThresholdsSchema thresholds) (hn : n ≤ 3) :
    (lowerTier score thresholds hysteresisBuffer n (tiersByOrder n)).order =
      min n (heldOrder score thresholds hysteresisBuffer) := by
  induction n with
  | zero => simp [lowerTier,tiersByOrder,RiskTier.order]
  | succ n ih =>
    have hheld : n < heldOrder score thresholds hysteresisBuffer ↔
        thresholds (tiersByOrder (n + 1)) - hysteresisBuffer < score := lt_heldOrder_iff h (by omega)
    unfold lowerTier
    split
    · rename_i hcleared
      have hnot : ¬n < heldOrder score thresholds hysteresisBuffer := by
        rw [hheld]
        exact not_lt.mpr hcleared
      rw [ih (by omega)]
      omega
    · rename_i hkept
      rw [← not_lt,not_not,← hheld] at hkept
      rw [order_tiersByOrder hn]
      omega

theorem assignTier_order (h : earlyWarningThresholdsSchema thresholds) (hbuffer : 0 < hysteresisBuffer) :
    (assignTier score previous thresholds hysteresisBuffer).1.order =
      max (rawTierFromScore score thresholds).order
        (min (tierOrder previous) (heldOrder score thresholds hysteresisBuffer)) := by
  have hbounds : (rawTierFromScore score thresholds).order ≤ heldOrder score thresholds hysteresisBuffer :=
    rawOrder_le_heldOrder h hbuffer
  cases previous with
  | none => simp [assignTier,assignTierWithHysteresis,tierOrder]
  | some previous =>
    have hwalk : (lowerTier score thresholds hysteresisBuffer previous.order previous).order =
        min previous.order (heldOrder score thresholds hysteresisBuffer) := by
      simpa using lowerTier_order h (order_le previous)
    simp only [assignTier,assignTierWithHysteresis,tierOrder,Option.map_some,Option.getD_some]
    split_ifs with hraised hsame
    · dsimp only
      omega
    · dsimp only
      omega
    · dsimp only
      omega

theorem tierLaws (h : earlyWarningThresholdsSchema thresholds) (hbuffer : 0 < hysteresisBuffer)
    (previous : Option RiskTier) (score : ℤ) : TierLaws thresholds hysteresisBuffer previous score where
  raw_le := by
    rw [assignTier_order h hbuffer]
    exact le_max_left _ _
  drops tier hle hlt := by
    rw [assignTier_order h hbuffer] at hlt
    obtain ⟨n,hn⟩ := Nat.exists_eq_succ_of_ne_zero (show tier.order ≠ 0 by omega)
    have htier := order_le tier
    have hheld : ¬n < heldOrder score thresholds hysteresisBuffer := by omega
    rw [lt_heldOrder_iff h (by omega),← Nat.succ_eq_add_one,← hn,tiersByOrder_order] at hheld
    exact not_lt.mp hheld
  mono_score score' hle := by
    rw [assignTier_order h hbuffer,assignTier_order h hbuffer]
    exact max_le_max (rawOrder_mono h hle) (min_le_min le_rfl (heldOrder_mono h hle))
  mono_previous previous' hle := by
    rw [assignTier_order h hbuffer,assignTier_order h hbuffer]
    exact max_le_max le_rfl (min_le_min hle le_rfl)
  stable := by
    set tier := (assignTier score previous thresholds hysteresisBuffer).1
    have htier : tier.order = max (rawTierFromScore score thresholds).order
        (min (tierOrder previous) (heldOrder score thresholds hysteresisBuffer)) := assignTier_order h hbuffer
    have hsame : (assignTier score (some tier) thresholds hysteresisBuffer).1 = tier := by
      have hbounds : (rawTierFromScore score thresholds).order ≤ heldOrder score thresholds hysteresisBuffer :=
        rawOrder_le_heldOrder h hbuffer
      apply order_injective
      rw [assignTier_order h hbuffer,tierOrder,Option.map_some,Option.getD_some]
      omega
    have hchanged := assigned_changed_iff score (some tier) thresholds hysteresisBuffer
    refine Prod.ext hsame ?_
    rw [← Bool.not_eq_true]
    intro htrue
    exact hchanged.mp htrue (congrArg some hsame.symm)

/-! ## Sequences of scores -/

/-- Higher scores all along, and a higher tier before them, end in a tier at least as high. -/
theorem tierAfter_mono (h : earlyWarningThresholdsSchema thresholds) (hbuffer : 0 < hysteresisBuffer)
    (hscores : List.Forall₂ (· ≤ ·) scores scores') (hstart : tierOrder start ≤ tierOrder start') :
    tierOrder (tierAfter thresholds hysteresisBuffer start scores) ≤
      tierOrder (tierAfter thresholds hysteresisBuffer start' scores') := by
  induction hscores generalizing start start' with
  | nil => exact hstart
  | @cons score score' scores scores' hle _ ih =>
    refine ih ?_
    have hprevious := (tierLaws h hbuffer start score).mono_previous start' hstart
    exact hprevious.trans ((tierLaws h hbuffer start' score).mono_score score' hle)

/-- Along every sequence of scores each assignment obeys the laws. -/
theorem tierLaws_tierAfter (h : earlyWarningThresholdsSchema thresholds)
    (hbuffer : hysteresisBufferSchema hysteresisBuffer) (start : Option RiskTier) (scores : List ℤ) (score : ℤ) :
    TierLaws thresholds hysteresisBuffer (tierAfter thresholds hysteresisBuffer start scores) score ∧
      ∀ (start' : Option RiskTier) (scores' : List ℤ), tierOrder start ≤ tierOrder start' →
        List.Forall₂ (· ≤ ·) scores scores' →
        tierOrder (tierAfter thresholds hysteresisBuffer start scores) ≤
          tierOrder (tierAfter thresholds hysteresisBuffer start' scores') :=
  ⟨tierLaws h (buffer_pos_of_schema hbuffer) _ _,fun _ _ hstart hscores =>
    tierAfter_mono h (buffer_pos_of_schema hbuffer) hscores hstart⟩

def defaultThresholds : RiskTier → ℚ
  | .green => 0
  | .yellow => 30
  | .amber => 50
  | .red => 75

/-- A student who climbs to red, eases off into the buffer and then recovers. -/
theorem tierLaws_recovery :
    TierLaws defaultThresholds 10 (tierAfter defaultThresholds 10 none [20,80,68]) 35 ∧
      ∀ (start' : Option RiskTier) (scores' : List ℤ), tierOrder none ≤ tierOrder start' →
        List.Forall₂ (· ≤ ·) [20,80,68] scores' →
        tierOrder (tierAfter defaultThresholds 10 none [20,80,68]) ≤
          tierOrder (tierAfter defaultThresholds 10 start' scores') :=
  tierLaws_tierAfter (by decide +kernel) (by decide +kernel) none [20,80,68] 35

example : tierAfter defaultThresholds 10 none [20,80,68,35] = some .yellow := by decide +kernel

end

/-! ## Bounds and monotonicity of the composite score

The weighted sum of the domain scores, the boost for many domains, the rounding, the cap and the tier
assignment are each monotone, so a higher score in any domain never lowers the outcome.
-/

def earlyWarningWeightsSchema (weights : SignalDomain → ℚ) : Bool :=
  domainKeys.all (fun key => 0 ≤ weights key && weights key ≤ 100) &&
    weights .attendance + weights .grades + weights .behaviour + weights .wellbeing + weights .engagement = 100

def applyWeights (scores weights : SignalDomain → ℚ) : ℚ :=
  (domainKeys.map fun key => scores key * (weights key / 100)).sum

def calculateCrossDomainBoost (scores : SignalDomain → ℚ) (threshold : ℚ) : ℕ :=
  crossDomainBoostMap (domainKeys.countP fun key => threshold ≤ scores key)

/-- The engine of the API takes the threshold of the boost with the request. -/
def computeRisk (signals : List SignalResult) (config : TenantConfig) (previousTier : Option RiskTier)
    (trendHistory : List ℤ) (crossDomainThreshold : ℚ) : RiskAssessment :=
  let domainScores := domainScoresOf signals
  let weightedScore := applyWeights domainScores config.weights
  let crossDomainBoost := calculateCrossDomainBoost domainScores crossDomainThreshold
  let compositeScore := min maxCompositeScore (nearest (weightedScore + crossDomainBoost))
  let assigned := assignTier compositeScore previousTier config.thresholds config.hysteresisBuffer
  let combined := trendHistory ++ [compositeScore]
  { compositeScore
    riskTier := assigned.1
    domainScores
    crossDomainBoost
    trendData := combined.drop (combined.length - maxTrendLength)
    tierChanged := assigned.2
    previousTier }

variable {signals signals' : List SignalResult} {config : TenantConfig} {previousTier : Option RiskTier}
  {trendHistory : List ℤ} {scores scores' weights : SignalDomain → ℚ} {crossDomainThreshold : ℚ}

theorem computeRiskAssessment_eq (signals : List SignalResult) (config : TenantConfig)
    (previousTier : Option RiskTier) (trendHistory : List ℤ) :
    computeRiskAssessment signals config previousTier trendHistory =
      computeRisk signals config previousTier trendHistory domainThreshold := rfl

theorem weights_of_schema (h : earlyWarningWeightsSchema weights) :
    (∀ key, 0 ≤ weights key) ∧ (domainKeys.map weights).sum = 100 := by
  simp only [earlyWarningWeightsSchema,Bool.and_eq_true,decide_eq_true_eq,List.all_eq_true] at h
  obtain ⟨hbounds,hsum⟩ := h
  constructor
  · intro key
    exact (hbounds key (by cases key <;> decide)).1
  · simp only [domainKeys,List.map_cons,List.map_nil,List.sum_cons,List.sum_nil]
    linarith

/-! ## The stages -/

theorem applyWeights_mono (hweights : ∀ key, 0 ≤ weights key) (hle : scores ≤ scores') :
    applyWeights scores weights ≤ applyWeights scores' weights := by
  refine List.sum_le_sum fun key _ => ?_
  have hweight := hweights key
  have hscore := hle key
  gcongr

/-- The same score in every domain is the weighted score, since the weights add up to a hundred. -/
theorem applyWeights_const (hsum : (domainKeys.map weights).sum = 100) (score : ℚ) :
    applyWeights (fun _ => score) weights = score := by
  have hfactor : applyWeights (fun _ => score) weights = score * ((domainKeys.map weights).sum / 100) := by
    simp only [applyWeights,domainKeys,List.map_cons,List.map_nil,List.sum_cons,List.sum_nil]
    ring
  rw [hfactor,hsum]
  ring

theorem crossDomainBoostMap_mono {m n : ℕ} (h : m ≤ n) (hn : n ≤ 5) :
    crossDomainBoostMap m ≤ crossDomainBoostMap n := by
  have hm : m ≤ 5 := h.trans hn
  interval_cases n <;> interval_cases m <;> decide

theorem calculateCrossDomainBoost_mono (threshold : ℚ) (hle : scores ≤ scores') :
    calculateCrossDomainBoost scores threshold ≤ calculateCrossDomainBoost scores' threshold := by
  refine crossDomainBoostMap_mono (List.countP_mono_left fun key _ habove => ?_) List.countP_le_length
  simp only [decide_eq_true_eq] at habove ⊢
  exact habove.trans (hle key)

/-! ## The assessment -/

theorem domainScoresOf_mem {bounds : Set ℚ} (hzero : 0 ∈ bounds) (h : ∀ signal ∈ signals, signal.rawScore ∈ bounds)
    (key : SignalDomain) : domainScoresOf signals key ∈ bounds := by
  have hfold (scores : SignalDomain → ℚ) (hscores : scores key ∈ bounds) :
      signals.foldl (fun scores signal => Function.update scores signal.domain signal.rawScore) scores key ∈ bounds := by
    induction signals generalizing scores with
    | nil => exact hscores
    | cons signal signals ih =>
      refine ih (fun s hs => h s (List.mem_cons_of_mem _ hs)) _ ?_
      dsimp only
      by_cases hkey : key = signal.domain
      · subst hkey
        rw [Function.update_self]
        exact h signal List.mem_cons_self
      · rw [Function.update_of_ne hkey]
        exact hscores
  exact hfold _ hzero

/-- The composite score lies in 0..100, and it and the tier rise with the domain scores. -/
structure MonotoneAssessment (assess : List SignalResult → RiskAssessment) : Prop where
  bounded : ∀ signals, (∀ signal ∈ signals, 0 ≤ signal.rawScore ∧ signal.rawScore ≤ 100) →
    0 ≤ (assess signals).compositeScore ∧ (assess signals).compositeScore ≤ 100
  composite_mono : ∀ signals signals', domainScoresOf signals ≤ domainScoresOf signals' →
    (assess signals).compositeScore ≤ (assess signals').compositeScore
  tier_mono : ∀ signals signals', domainScoresOf signals ≤ domainScoresOf signals' →
    (assess signals).riskTier.order ≤ (assess signals').riskTier.order

theorem computeRisk_composite_mono (hweights : earlyWarningWeightsSchema config.weights)
    (previousTier : Option RiskTier) (trendHistory : List ℤ) (crossDomainThreshold : ℚ)
    (hle : domainScoresOf signals ≤ domainScoresOf signals') :
    (computeRisk signals config previousTier trendHistory crossDomainThreshold).compositeScore ≤
      (computeRisk signals' config previousTier trendHistory crossDomainThreshold).compositeScore := by
  have hweighted := applyWeights_mono (weights_of_schema hweights).1 hle
  have hboost : (calculateCrossDomainBoost (domainScoresOf signals) crossDomainThreshold : ℚ) ≤
      calculateCrossDomainBoost (domainScoresOf signals') crossDomainThreshold := by
    exact_mod_cast calculateCrossDomainBoost_mono crossDomainThreshold hle
  exact min_le_min le_rfl (nearest_mono (add_le_add hweighted hboost))

theorem computeRisk_bounded (hweights : earlyWarningWeightsSchema config.weights)
    (hscores : ∀ signal ∈ signals, 0 ≤ signal.rawScore ∧ signal.rawScore ≤ 100) :
    0 ≤ (computeRisk signals config previousTier trendHistory crossDomainThreshold).compositeScore ∧
      (computeRisk signals config previousTier trendHistory crossDomainThreshold).compositeScore ≤ 100 := by
  obtain ⟨hnonneg,hsum⟩ := weights_of_schema hweights
  have hdomain (key : SignalDomain) : domainScoresOf signals key ∈ Set.Icc 0 100 :=
    domainScoresOf_mem (Set.left_mem_Icc.mpr (by norm_num)) hscores key
  have hweighted : 0 ≤ applyWeights (domainScoresOf signals) config.weights := by
    rw [← applyWeights_const hsum 0]
    exact applyWeights_mono hnonneg fun key => (hdomain key).1
  refine ⟨le_min (by decide) ?_,min_le_left _ _⟩
  rw [← nearest_intCast 0]
  refine nearest_mono ?_
  push_cast
  exact add_nonneg hweighted (Nat.cast_nonneg _)

theorem computeRisk_monotone (hweights : earlyWarningWeightsSchema config.weights)
    (hthresholds : earlyWarningThresholdsSchema config.thresholds)
    (hbuffer : hysteresisBufferSchema config.hysteresisBuffer) (previousTier : Option RiskTier)
    (trendHistory : List ℤ) (crossDomainThreshold : ℚ) :
    MonotoneAssessment fun signals => computeRisk signals config previousTier trendHistory crossDomainThreshold where
  bounded _ hscores := computeRisk_bounded hweights hscores
  composite_mono _ _ hle := computeRisk_composite_mono hweights previousTier trendHistory crossDomainThreshold hle
  tier_mono _ _ hle := (tierLaws hthresholds (buffer_pos_of_schema hbuffer) previousTier _).mono_score _
    (computeRisk_composite_mono hweights previousTier trendHistory crossDomainThreshold hle)

/-- The worker's assessment, and the API's for every threshold of the boost. -/
theorem computeRiskAssessment_monotone (hweights : earlyWarningWeightsSchema config.weights)
    (hthresholds : earlyWarningThresholdsSchema config.thresholds)
    (hbuffer : hysteresisBufferSchema config.hysteresisBuffer) (previousTier : Option RiskTier)
    (trendHistory : List ℤ) :
    (MonotoneAssessment fun signals => computeRiskAssessment signals config previousTier trendHistory) ∧
      ∀ crossDomainThreshold : ℚ, MonotoneAssessment fun signals =>
        computeRisk signals config previousTier trendHistory crossDomainThreshold := by
  simp only [computeRiskAssessment_eq]
  exact ⟨computeRisk_monotone hweights hthresholds hbuffer previousTier trendHistory domainThreshold,
    computeRisk_monotone hweights hthresholds hbuffer previousTier trendHistory⟩

def defaultWeights : SignalDomain → ℚ
  | .attendance => 25
  | .grades => 25
  | .behaviour => 20
  | .wellbeing => 20
  | .engagement => 10

theorem computeRiskAssessment_monotone_default :
    (MonotoneAssessment fun signals =>
        computeRiskAssessment signals ⟨true,defaultWeights,defaultThresholds,10⟩ (some .amber) [40,55]) ∧
      ∀ crossDomainThreshold : ℚ, MonotoneAssessment fun signals =>
        computeRisk signals ⟨true,defaultWeights,defaultThresholds,10⟩ (some .amber) [40,55] crossDomainThreshold :=
  computeRiskAssessment_monotone (by decide +kernel) (by decide +kernel) (by decide +kernel) (some .amber) [40,55]

end EduPod.EarlyWarning
