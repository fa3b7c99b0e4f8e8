import EduPod.Foundation.Rounding

/-! # Risk scores and tiers

The worker's scoring: the weighted domain scores with a boost for many domains at once, and a tier
that rises at once but falls only past a buffer below each threshold.
-/
namespace EduPod.EarlyWarning

inductive RiskTier
  | green | yellow | amber | red
  deriving DecidableEq, Repr

inductive SignalDomain
  | attendance | grades | behaviour | wellbeing | engagement
  deriving DecidableEq, Repr

/-- What a collector returns for its domain. -/
structure SignalResult where
  domain : SignalDomain
  rawScore : ℚ

structure TenantConfig where
  isEnabled : Bool
  weights : SignalDomain → ℚ
  thresholds : RiskTier → ℚ
  hysteresisBuffer : ℚ

structure RiskAssessment where
  compositeScore : ℤ
  riskTier : RiskTier
  domainScores : SignalDomain → ℚ
  crossDomainBoost : ℕ
  trendData : List ℤ
  tierChanged : Bool
  previousTier : Option RiskTier

def domainKeys : List SignalDomain := [.attendance,.grades,.behaviour,.wellbeing,.engagement]

def maxTrendLength : ℕ := 30
def maxCompositeScore : ℤ := 100
def domainThreshold : ℚ := 40

def crossDomainBoostMap : ℕ → ℕ
  | 3 => 5
  | 4 => 10
  | 5 => 15
  | _ => 0

def RiskTier.order : RiskTier → ℕ
  | .green => 0
  | .yellow => 1
  | .amber => 2
  | .red => 3

def tiersByOrder : ℕ → RiskTier
  | 0 => .green
  | 1 => .yellow
  | 2 => .amber
  | _ => .red

def rawTierFromScore (score : ℤ) (thresholds : RiskTier → ℚ) : RiskTier :=
  if score ≥ thresholds .red then .red
  else if score ≥ thresholds .amber then .amber
  else if score ≥ thresholds .yellow then .yellow
  else .green

/-- The loop over the boundaries from `order` down, as long as the score lies under each by the buffer. -/
@[grind] def lowerTier (score : ℤ) (thresholds : RiskTier → ℚ) (hysteresisBuffer : ℚ) : ℕ → RiskTier → RiskTier
  | 0, effective => effective
  | order + 1, effective =>
    if score ≤ thresholds (tiersByOrder (order + 1)) - hysteresisBuffer then
      lowerTier score thresholds hysteresisBuffer order (tiersByOrder order)
    else effective

/-- The tier, and whether it has changed. -/
def assignTierWithHysteresis (compositeScore : ℤ) (previousTier : Option RiskTier) (thresholds : RiskTier → ℚ)
    (hysteresisBuffer : ℚ) : RiskTier × Bool :=
  let rawTier := rawTierFromScore compositeScore thresholds
  match previousTier with
  | none => (rawTier,true)
  | some previous =>
    if rawTier.order > previous.order then (rawTier,true)
    else if rawTier.order = previous.order then (previous,false)
    else
      let effective := lowerTier compositeScore thresholds hysteresisBuffer previous.order previous
      (effective,effective ≠ previous)

/-- Of several results for a domain the last one counts. -/
def domainScoresOf (signals : List SignalResult) : SignalDomain → ℚ :=
  signals.foldl (fun scores signal => Function.update scores signal.domain signal.rawScore) fun _ => 0

def computeRiskAssessment (signals : List SignalResult) (config : TenantConfig) (previousTier : Option RiskTier)
    (trendHistory : List ℤ) : RiskAssessment :=
  let domainScores := domainScoresOf signals
  let weightedScore := (domainKeys.map fun key => domainScores key * (config.weights key / 100)).sum
  let crossDomainBoost := crossDomainBoostMap (domainKeys.countP fun key => domainThreshold ≤ domainScores key)
  let compositeScore := min maxCompositeScore (Rounding.nearest (weightedScore + crossDomainBoost))
  let assigned := assignTierWithHysteresis compositeScore previousTier config.thresholds config.hysteresisBuffer
  let combined := trendHistory ++ [compositeScore]
  { compositeScore
    riskTier := assigned.1
    domainScores
    crossDomainBoost
    trendData := combined.drop (combined.length - maxTrendLength)
    tierChanged := assigned.2
    previousTier }

/-- The flag says whether the tier is another than before; the first tier is always another. -/
theorem assigned_changed_iff (compositeScore : ℤ) (previousTier : Option RiskTier) (thresholds : RiskTier → ℚ)
    (hysteresisBuffer : ℚ) :
    (assignTierWithHysteresis compositeScore previousTier thresholds hysteresisBuffer).2 = true ↔
      previousTier ≠ some (assignTierWithHysteresis compositeScore previousTier thresholds hysteresisBuffer).1 := by
  cases previousTier with
  | none => simp [assignTierWithHysteresis]
  | some previous =>
    simp only [assignTierWithHysteresis]
    split
    · rename_i hraised
      have hne : previous ≠ rawTierFromScore compositeScore thresholds := by
        rintro rfl
        exact lt_irrefl _ hraised
      simpa using hne
    · split
      · simp
      · exact decide_eq_true_iff.trans (ne_comm.trans (Option.some_injective _).ne_iff.symm)

theorem tierChanged_iff (signals : List SignalResult) (config : TenantConfig) (previousTier : Option RiskTier)
    (trendHistory : List ℤ) :
    (computeRiskAssessment signals config previousTier trendHistory).tierChanged = true ↔
      previousTier ≠ some (computeRiskAssessment signals config previousTier trendHistory).riskTier :=
  assigned_changed_iff _ _ _ _

end EduPod.EarlyWarning
