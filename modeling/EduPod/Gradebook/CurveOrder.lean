import Mathlib
import EduPod.Foundation.StableSort
import EduPod.Gradebook.GradeCurves

/-! # Curves that keep the order of the scores

The five transformations of a curve, on exact real numbers. All but the custom mapping are monotone functions
of a score. That one gives a mapped score its value unrounded, rounds what lies between two mapped scores,
and leaves a score outside of them as it is.
-/
namespace EduPod.Gradebook.CurveOrder
open StableSort

/-! ## Rounding to the hundredth -/

noncomputable section

def hundred : ℝ := ((100 : ℕ) : ℝ)

def half : ℝ := ((2 : ℕ) : ℝ)⁻¹

theorem hundred_pos : 0 < hundred := by
  unfold hundred
  positivity

/-- `Math.round(x * 100) / 100`. -/
def roundCent (x : ℝ) : ℝ := ⌊x * hundred + half⌋ / hundred

/-- What scores just below `x` are rounded to. -/
def roundBelow (x : ℝ) : ℝ := (⌈x * hundred + half⌉ - 1) / hundred

theorem roundCent_mono : Monotone roundCent := by
  intro x y h
  have hscaled := mul_le_mul_of_nonneg_right h hundred_pos.le
  have hfloor : ⌊x * hundred + half⌋ ≤ ⌊y * hundred + half⌋ := Int.floor_le_floor (by linarith)
  unfold roundCent
  have hcast : (⌊x * hundred + half⌋ : ℝ) ≤ ⌊y * hundred + half⌋ := by exact_mod_cast hfloor
  have hpos := hundred_pos
  gcongr

theorem roundCent_nonneg {x : ℝ} (h : 0 ≤ x) : 0 ≤ roundCent x := by
  have hpos := hundred_pos
  have hhalf : 0 ≤ half := by
    unfold half
    positivity
  have hfloor : 0 ≤ ⌊x * hundred + half⌋ := Int.floor_nonneg.mpr (by positivity)
  have hcast : (0 : ℝ) ≤ ⌊x * hundred + half⌋ := by exact_mod_cast hfloor
  exact div_nonneg hcast hpos.le

theorem roundCent_le_roundBelow {x y : ℝ} (h : x < y) : roundCent x ≤ roundBelow y := by
  have hscaled := mul_lt_mul_of_pos_right h hundred_pos
  have hlt : ⌊x * hundred + half⌋ < ⌈y * hundred + half⌉ := by
    rw [Int.floor_lt]
    have := Int.le_ceil (y * hundred + half)
    linarith
  have hcast : (⌊x * hundred + half⌋ : ℝ) ≤ ⌈y * hundred + half⌉ - 1 := by exact_mod_cast Int.le_sub_one_of_lt hlt
  have hpos := hundred_pos
  unfold roundCent roundBelow
  gcongr

/-- Rounding is constant for a while from every number on. -/
theorem exists_roundCent_eq (x : ℝ) : ∃ d, 0 < d ∧ ∀ y, x ≤ y → y < x + d → roundCent y = roundCent x := by
  have hpos := hundred_pos
  refine ⟨(⌊x * hundred + half⌋ + 1 - (x * hundred + half)) / hundred,?_,fun y hxy hy => ?_⟩
  · have := Int.lt_floor_add_one (x * hundred + half)
    apply div_pos _ hpos
    linarith
  · have hlow := mul_le_mul_of_nonneg_right hxy hpos.le
    have hhigh : y * hundred < x * hundred + (⌊x * hundred + half⌋ + 1 - (x * hundred + half)) := by
      have hscaled := mul_lt_mul_of_pos_right hy hpos
      rwa [add_mul,div_mul_cancel₀ _ hpos.ne'] at hscaled
    have hfloor : ⌊y * hundred + half⌋ = ⌊x * hundred + half⌋ := by
      rw [Int.floor_eq_iff]
      have := Int.floor_le (x * hundred + half)
      constructor <;> linarith
    rw [roundCent,roundCent,hfloor]

theorem exists_roundCent_eq_below (x : ℝ) : ∃ d, 0 < d ∧ ∀ y, y < x → x - d < y → roundCent y = roundBelow x := by
  have hpos := hundred_pos
  refine ⟨(x * hundred + half - (⌈x * hundred + half⌉ - 1)) / hundred,?_,fun y hyx hy => ?_⟩
  · have := Int.ceil_lt_add_one (x * hundred + half)
    apply div_pos _ hpos
    linarith
  · have hhigh := mul_lt_mul_of_pos_right hyx hpos
    have hlow : x * hundred - (x * hundred + half - (⌈x * hundred + half⌉ - 1)) < y * hundred := by
      have hscaled := mul_lt_mul_of_pos_right hy hpos
      rwa [sub_mul,div_mul_cancel₀ _ hpos.ne'] at hscaled
    have hfloor : ⌊y * hundred + half⌋ = ⌈x * hundred + half⌉ - 1 := by
      rw [Int.floor_eq_iff]
      have := Int.le_ceil (x * hundred + half)
      push_cast
      constructor <;> linarith
    rw [roundCent,roundBelow,hfloor]
    push_cast
    ring

/-! ## The transformations -/

structure ScoreRecord where
  studentId : ℕ
  rawScore : Option ℝ

structure CustomMapping where
  fromScore : ℝ
  toScore : ℝ

structure CurveParams where
  shift : Option ℝ
  targetMean : Option ℝ
  targetStddev : Option ℝ
  mappings : Option (List CustomMapping)

def CurveParams.customMappings (params : CurveParams) : List CustomMapping := params.mappings.getD []

def clamp (maxScore x : ℝ) : ℝ := min maxScore (max 0 x)

def lower (mappings : List CustomMapping) (score : ℝ) : Option CustomMapping :=
  ((mappings.filter fun m => m.fromScore ≤ score).mergeSort fun a b => b.fromScore ≤ a.fromScore).head?

def upper (mappings : List CustomMapping) (score : ℝ) : Option CustomMapping :=
  ((mappings.filter fun m => score ≤ m.fromScore).mergeSort fun a b => a.fromScore ≤ b.fromScore).head?

def interpolate (l u : CustomMapping) (score : ℝ) : ℝ :=
  l.toScore + (score - l.fromScore) / (u.fromScore - l.fromScore) * (u.toScore - l.toScore)

def customScore (mappings : List CustomMapping) (maxScore score : ℝ) : ℝ :=
  match mappings.find? fun m : CustomMapping => m.fromScore = score with
  | some m => clamp maxScore m.toScore
  | none => match lower mappings score,upper mappings score with
    | some l,some u => if l.fromScore ≠ u.fromScore then clamp maxScore (roundCent (interpolate l u score)) else score
    | _,_ => score

def overScores (f : ℝ → ℝ) (before : List ScoreRecord) : List ScoreRecord :=
  before.map fun s => { s with rawScore := s.rawScore.map f }

@[grind] def transformScores (beforeScores : List ScoreRecord) (maxScore : ℝ) (method : CurveMethod) (params : CurveParams) :
    List ScoreRecord :=
  let scores := beforeScores.filterMap ScoreRecord.rawScore
  match method with
  | .linearShift => overScores (fun x => clamp maxScore (x + params.shift.getD 0)) beforeScores
  | .linearScale => match scores.max? with
    | none => beforeScores
    | some highest =>
      if highest = 0 then beforeScores
      else overScores (fun x => min maxScore (roundCent (x / highest * maxScore))) beforeScores
  | .sqrt =>
    if 0 < maxScore then overScores (fun x => min maxScore (roundCent (√(x / maxScore) * maxScore))) beforeScores
    else beforeScores.map fun s => { s with rawScore := none }
  | .bell =>
    let mean := scores.sum / scores.length
    let variance : ℝ := (scores.map fun b => (b - mean) ^ 2).sum / scores.length
    let stddev := √variance
    if scores = [] ∨ stddev = 0 then beforeScores
    else overScores (fun x => clamp maxScore (roundCent
      ((params.targetMean.getD ((75 : ℕ) : ℝ) + (x - mean) / stddev * params.targetStddev.getD ((10 : ℕ) : ℝ)) / hundred *
        maxScore))) beforeScores
  | .custom => overScores (customScore params.customMappings maxScore) beforeScores

/-! ## What a curve has to keep -/

/-- Every score is again between zero and the maximum, and of two scores the higher one does not end up below. Who had
no score has none. -/
structure Kept (maxScore : ℝ) (before after : List ScoreRecord) : Prop where
  length : after.length = before.length
  student : ∀ p ∈ before.zip after, p.2.studentId = p.1.studentId
  absent : ∀ p ∈ before.zip after, p.2.rawScore = none ↔ p.1.rawScore = none
  range : ∀ p ∈ before.zip after, ∀ y, p.2.rawScore = some y → 0 ≤ y ∧ y ≤ maxScore
  order : ∀ p ∈ before.zip after, ∀ q ∈ before.zip after, ∀ x x' y y', p.1.rawScore = some x → q.1.rawScore = some x' →
    p.2.rawScore = some y → q.2.rawScore = some y' → x < x' → y ≤ y'

/-- An accepted curve of an assessment, with nondecreasing mapping points and a target deviation that is not negative. -/
structure Curve where
  method : CurveMethod
  params : CurveParams
  maxScore : ℝ
  maxScore_pos : 0 < maxScore
  mappings_mono : ∀ m ∈ params.customMappings, ∀ q ∈ params.customMappings, m.fromScore < q.fromScore → m.toScore ≤ q.toScore
  deviation_nonneg : ∀ d, params.targetStddev = some d → 0 ≤ d

def Curve.KeepsOrder (curve : Curve) : Prop :=
  ∀ before : List ScoreRecord, (∀ s ∈ before, ∀ x, s.rawScore = some x → 0 ≤ x ∧ x ≤ curve.maxScore) →
    Kept curve.maxScore before (transformScores before curve.maxScore curve.method curve.params)

/-! ## Transformations score by score -/

section
variable {f : ℝ → ℝ} {before : List ScoreRecord} {maxScore : ℝ}

theorem mem_zip_overScores {p : ScoreRecord × ScoreRecord} (h : p ∈ before.zip (overScores f before)) :
    p.1 ∈ before ∧ p.2 = { p.1 with rawScore := p.1.rawScore.map f } := by
  rw [overScores,List.zip_eq_zipWith,List.zipWith_map_right,List.zipWith_self] at h
  obtain ⟨s,hs,rfl⟩ := List.mem_map.mp h
  exact ⟨hs,rfl⟩

theorem kept_overScores (hrange : ∀ s ∈ before, ∀ x, s.rawScore = some x → 0 ≤ f x ∧ f x ≤ maxScore)
    (horder : ∀ s ∈ before, ∀ t ∈ before, ∀ x y, s.rawScore = some x → t.rawScore = some y → x < y → f x ≤ f y) :
    Kept maxScore before (overScores f before) where
  length := List.length_map _
  student := fun p hp => by rw [(mem_zip_overScores hp).2]
  absent := fun p hp => by
    rw [(mem_zip_overScores hp).2]
    exact Option.map_eq_none_iff
  range := fun p hp y hy => by
    obtain ⟨hmem,hp⟩ := mem_zip_overScores hp
    rw [hp] at hy
    obtain ⟨x,hx,rfl⟩ := Option.map_eq_some_iff.mp hy
    exact hrange _ hmem x hx
  order := fun p hp q hq x x' y y' hx hx' hy hy' hlt => by
    obtain ⟨hpmem,hp⟩ := mem_zip_overScores hp
    obtain ⟨hqmem,hq⟩ := mem_zip_overScores hq
    rw [hp] at hy
    rw [hq] at hy'
    change p.1.rawScore.map f = some y at hy
    change q.1.rawScore.map f = some y' at hy'
    rw [hx] at hy
    rw [hx'] at hy'
    obtain rfl := Option.some.inj hy
    obtain rfl := Option.some.inj hy'
    exact horder _ hpmem _ hqmem x x' hx hx' hlt

theorem overScores_id : overScores id before = before := by
  rw [overScores]
  conv_rhs => rw [← List.map_id before]
  apply List.map_congr_left
  intro s _
  rw [Option.map_id]
  rfl

theorem kept_self (h : ∀ s ∈ before, ∀ x, s.rawScore = some x → 0 ≤ x ∧ x ≤ maxScore) : Kept maxScore before before := by
  have hkept := kept_overScores (f := id) h fun _ _ _ _ _ _ _ _ hlt => hlt.le
  rwa [overScores_id] at hkept

end

theorem clamp_mono (maxScore : ℝ) : Monotone (clamp maxScore) := fun _ _ h => min_le_min le_rfl (max_le_max le_rfl h)

theorem clamp_bounds {maxScore : ℝ} (h : 0 < maxScore) (x : ℝ) : 0 ≤ clamp maxScore x ∧ clamp maxScore x ≤ maxScore :=
  ⟨le_min h.le (le_max_left _ _),min_le_left _ _⟩

/-! ## The custom mapping -/

/-- The first mapping of its score, which is the one that counts. -/
def Effective (mappings : List CustomMapping) (m : CustomMapping) : Prop :=
  mappings.find? (fun q => q.fromScore = m.fromScore) = some m

/-- The next mapped score below. -/
structure Precedes (mappings : List CustomMapping) (l m : CustomMapping) : Prop where
  left : Effective mappings l
  right : Effective mappings m
  lt : l.fromScore < m.fromScore
  next : ∀ q ∈ mappings, q.fromScore < m.fromScore → q.fromScore ≤ l.fromScore

section
variable {mappings : List CustomMapping} {m l u : CustomMapping} {x maxScore : ℝ}

theorem Effective.mem (h : Effective mappings m) : m ∈ mappings := List.mem_of_find?_eq_some h

theorem Effective.eq (hm : Effective mappings m) (hl : Effective mappings l) (h : m.fromScore = l.fromScore) : m = l := by
  unfold Effective at hm hl
  rw [h,hl] at hm
  exact (Option.some.inj hm).symm

theorem exists_effective {q : CustomMapping} (hq : q ∈ mappings) : ∃ m, Effective mappings m ∧ m.fromScore = q.fromScore := by
  cases hf : mappings.find? fun m => m.fromScore = q.fromScore with
  | none => exact absurd (List.find?_eq_none.mp hf q hq) (by simp)
  | some m =>
    have hm : m.fromScore = q.fromScore := by simpa using List.find?_some hf
    refine ⟨m,?_,hm⟩
    rw [Effective,hm]
    exact hf

theorem lower_eq_some (h : lower mappings x = some l) :
    Effective mappings l ∧ l.fromScore ≤ x ∧ ∀ q ∈ mappings, q.fromScore ≤ x → q.fromScore ≤ l.fromScore := by
  obtain ⟨hmem,hbest,hfirst⟩ := head?_mergeSort (r := fun a b : CustomMapping => b.fromScore ≤ a.fromScore)
    (fun _ _ _ hab hbc => hbc.trans hab) (fun _ _ => le_total _ _) h
  obtain ⟨hmem,hlx⟩ := List.mem_filter.mp hmem
  have hlx : l.fromScore ≤ x := of_decide_eq_true hlx
  have hbest : ∀ q ∈ mappings, q.fromScore ≤ x → q.fromScore ≤ l.fromScore :=
    fun q hq hqx => hbest q (List.mem_filter.mpr ⟨hq,decide_eq_true hqx⟩)
  refine ⟨?_,hlx,hbest⟩
  rw [List.find?_filter] at hfirst
  rw [Effective,← hfirst]
  apply List.find?_congr
  intro q hq
  by_cases heq : q.fromScore = l.fromScore
  · simp [heq,hlx]
  · have hnot : ¬(q.fromScore ≤ x ∧ l.fromScore ≤ q.fromScore) := fun h => heq (le_antisymm (hbest q hq h.1) h.2)
    simpa [heq] using fun hqx => not_le.mp fun hle => hnot ⟨hqx,hle⟩

theorem upper_eq_some (h : upper mappings x = some u) :
    Effective mappings u ∧ x ≤ u.fromScore ∧ ∀ q ∈ mappings, x ≤ q.fromScore → u.fromScore ≤ q.fromScore := by
  obtain ⟨hmem,hbest,hfirst⟩ := head?_mergeSort (r := fun a b : CustomMapping => a.fromScore ≤ b.fromScore)
    (fun _ _ _ hab hbc => hab.trans hbc) (fun _ _ => le_total _ _) h
  obtain ⟨hmem,hux⟩ := List.mem_filter.mp hmem
  have hux : x ≤ u.fromScore := of_decide_eq_true hux
  have hbest : ∀ q ∈ mappings, x ≤ q.fromScore → u.fromScore ≤ q.fromScore :=
    fun q hq hqx => hbest q (List.mem_filter.mpr ⟨hq,decide_eq_true hqx⟩)
  refine ⟨?_,hux,hbest⟩
  rw [List.find?_filter] at hfirst
  rw [Effective,← hfirst]
  apply List.find?_congr
  intro q hq
  by_cases heq : q.fromScore = u.fromScore
  · simp [heq,hux]
  · have hnot : ¬(x ≤ q.fromScore ∧ q.fromScore ≤ u.fromScore) := fun h => heq (le_antisymm h.2 (hbest q hq h.1))
    simpa [heq] using fun hqx => not_le.mp fun hle => hnot ⟨hqx,hle⟩

theorem head?_mergeSort_eq_none {α : Type} {le : α → α → Bool} {xs : List α}
    (h : (xs.mergeSort le).head? = none) : xs = [] :=
  ((List.head?_eq_none_iff.mp h) ▸ (List.mergeSort_perm xs le).symm).eq_nil

theorem lower_eq_none (h : lower mappings x = none) : ∀ q ∈ mappings, x < q.fromScore := by
  intro q hq
  have hnot := List.filter_eq_nil_iff.mp (head?_mergeSort_eq_none h) q hq
  simpa using hnot

theorem upper_eq_none (h : upper mappings x = none) : ∀ q ∈ mappings, q.fromScore < x := by
  intro q hq
  have hnot := List.filter_eq_nil_iff.mp (head?_mergeSort_eq_none h) q hq
  simpa using hnot

theorem customScore_mapped (h : Effective mappings m) : customScore mappings maxScore m.fromScore = clamp maxScore m.toScore := by
  unfold Effective at h
  simp only [customScore,h]

/-- Where a score lies among the mapped ones, and what becomes of it. -/
inductive Place (mappings : List CustomMapping) (maxScore x : ℝ) : Prop
  | mapped (m : CustomMapping) (effective : Effective mappings m) (fromScore : m.fromScore = x)
  | below (h : ∀ q ∈ mappings, x < q.fromScore) (unchanged : customScore mappings maxScore x = x)
  | above (h : ∀ q ∈ mappings, q.fromScore < x) (unchanged : customScore mappings maxScore x = x)
  | between (l u : CustomMapping) (precedes : Precedes mappings l u) (left : l.fromScore < x) (right : x < u.fromScore)
      (interpolated : customScore mappings maxScore x = clamp maxScore (roundCent (interpolate l u x)))

theorem place (mappings : List CustomMapping) (maxScore x : ℝ) : Place mappings maxScore x := by
  cases hfind : mappings.find? fun m : CustomMapping => m.fromScore = x with
  | some m =>
    have hm : m.fromScore = x := by simpa using List.find?_some hfind
    exact .mapped m (by rwa [Effective,hm]) hm
  | none =>
    have hne : ∀ q ∈ mappings, q.fromScore ≠ x := fun q hq => by simpa using List.find?_eq_none.mp hfind q hq
    cases hl : lower mappings x with
    | none => exact .below (lower_eq_none hl) (by simp only [customScore,hfind,hl])
    | some l =>
      cases hu : upper mappings x with
      | none => exact .above (upper_eq_none hu) (by simp only [customScore,hfind,hl,hu])
      | some u =>
        obtain ⟨hleff,hlx,hlbest⟩ := lower_eq_some hl
        obtain ⟨hueff,hxu,hubest⟩ := upper_eq_some hu
        have hlx' := lt_of_le_of_ne hlx (hne l hleff.mem)
        have hxu' := lt_of_le_of_ne hxu (hne u hueff.mem).symm
        refine .between l u ⟨hleff,hueff,hlx'.trans hxu',fun q hq hqu => ?_⟩ hlx' hxu' ?_
        · by_contra hlq
          have hqx : q.fromScore < x ∨ x < q.fromScore := lt_or_gt_of_ne (hne q hq)
          rcases hqx with hqx | hqx
          · exact hlq (hlbest q hq hqx.le)
          · exact absurd (hubest q hq hqx.le) (not_le.mpr hqu)
        · simp only [customScore,hfind,hl,hu,if_pos (hlx'.trans hxu').ne]

end

section
variable {mappings : List CustomMapping} {l u : CustomMapping} {x maxScore : ℝ}

theorem customScore_outside (h : (∀ q ∈ mappings, x < q.fromScore) ∨ ∀ q ∈ mappings, q.fromScore < x) :
    customScore mappings maxScore x = x := by
  have hnot : ∀ q r, q ∈ mappings → r ∈ mappings → ¬(q.fromScore ≤ x ∧ x ≤ r.fromScore) := by
    rintro q r hq hr ⟨hqx,hxr⟩
    rcases h with h | h
    · exact absurd (h q hq) (not_lt.mpr hqx)
    · exact absurd (h r hr) (not_lt.mpr hxr)
  rcases place mappings maxScore x with ⟨m,hm,rfl⟩ | ⟨-,hsame⟩ | ⟨-,hsame⟩ | ⟨l,u,hlu,hlx,hxu,-⟩
  · exact absurd ⟨le_rfl,le_rfl⟩ (hnot m m hm.mem hm.mem)
  · exact hsame
  · exact hsame
  · exact absurd ⟨hlx.le,hxu.le⟩ (hnot l u hlu.left.mem hlu.right.mem)

theorem customScore_between (h : Precedes mappings l u) (hlx : l.fromScore < x) (hxu : x < u.fromScore) :
    customScore mappings maxScore x = clamp maxScore (roundCent (interpolate l u x)) := by
  rcases place mappings maxScore x with ⟨m,hm,rfl⟩ | ⟨hbelow,-⟩ | ⟨habove,-⟩ | ⟨l',u',h',hlx',hxu',hbetween⟩
  · exact absurd (h.next m hm.mem hxu) (not_le.mpr hlx)
  · exact absurd (hbelow l h.left.mem) (not_lt.mpr hlx.le)
  · exact absurd (habove u h.right.mem) (not_lt.mpr hxu.le)
  · have hleft : l' = l := h'.left.eq h.left (le_antisymm (h.next l' h'.left.mem (hlx'.trans hxu))
      (h'.next l h.left.mem (hlx.trans hxu')))
    have hright : u' = u := by
      refine h'.right.eq h.right (le_antisymm ?_ ?_)
      · by_contra hlt
        exact absurd (h'.next u h.right.mem (not_le.mp hlt)) (not_le.mpr (hlx'.trans hxu))
      · by_contra hlt
        exact absurd (h.next u' h'.right.mem (not_le.mp hlt)) (not_le.mpr (hlx.trans hxu'))
    rw [hbetween,hleft,hright]

end

/-! ### Between two mapped scores -/

section
variable {l u : CustomMapping} {x y : ℝ}

theorem interpolate_mono (hfrom : l.fromScore < u.fromScore) (hto : l.toScore ≤ u.toScore) (h : x ≤ y) :
    interpolate l u x ≤ interpolate l u y := by
  have hpos := sub_pos.mpr hfrom
  have hnonneg := sub_nonneg.mpr hto
  unfold interpolate
  gcongr

theorem interpolate_left : interpolate l u l.fromScore = l.toScore := by
  simp [interpolate]

theorem interpolate_right (hfrom : l.fromScore < u.fromScore) : interpolate l u u.fromScore = u.toScore := by
  have hpos := sub_pos.mpr hfrom
  unfold interpolate
  rw [div_self hpos.ne']
  ring

theorem interpolate_level (hto : l.toScore = u.toScore) (x : ℝ) : interpolate l u x = u.toScore := by
  simp [interpolate,hto]

theorem interpolate_lt (hfrom : l.fromScore < u.fromScore) (hto : l.toScore < u.toScore) (h : x < y) :
    interpolate l u x < interpolate l u y := by
  have hpos := sub_pos.mpr hfrom
  have hdiff := sub_pos.mpr hto
  unfold interpolate
  gcongr

theorem continuous_interpolate (l u : CustomMapping) : Continuous (interpolate l u) := by
  unfold interpolate
  fun_prop

end

/-! ### Which mappings keep the order -/

/-- At every mapped score that can occur: what comes before it does not end up above it and what comes after it not
below. Beyond the outermost mapped scores that is the score itself, otherwise what interpolation rounds to next to it. -/
structure InOrder (mappings : List CustomMapping) (maxScore : ℝ) : Prop where
  first : ∀ m, Effective mappings m → (∀ q ∈ mappings, m.fromScore ≤ q.fromScore) → 0 < m.fromScore →
    m.fromScore ≤ maxScore → m.fromScore ≤ clamp maxScore m.toScore
  last : ∀ m, Effective mappings m → (∀ q ∈ mappings, q.fromScore ≤ m.fromScore) → 0 ≤ m.fromScore →
    m.fromScore < maxScore → clamp maxScore m.toScore ≤ m.fromScore
  steep : ∀ l m, Precedes mappings l m → 0 < m.fromScore → m.fromScore ≤ maxScore →
    l.toScore < m.toScore → clamp maxScore (roundBelow m.toScore) ≤ clamp maxScore m.toScore
  level : ∀ l m, Precedes mappings l m → 0 < m.fromScore → m.fromScore ≤ maxScore →
    l.toScore = m.toScore → clamp maxScore (roundCent m.toScore) ≤ clamp maxScore m.toScore
  onward : ∀ m u, Precedes mappings m u → 0 ≤ m.fromScore → m.fromScore < maxScore →
    clamp maxScore m.toScore ≤ clamp maxScore (roundCent m.toScore)

section
variable {mappings : List CustomMapping} {m l u : CustomMapping} {x y maxScore : ℝ}

theorem Effective.toScore_le (hmono : ∀ m ∈ mappings, ∀ q ∈ mappings, m.fromScore < q.fromScore → m.toScore ≤ q.toScore)
    (hm : Effective mappings m) (hu : Effective mappings u) (h : m.fromScore ≤ u.fromScore) : m.toScore ≤ u.toScore := by
  rcases h.lt_or_eq with hlt | heq
  · exact hmono m hm.mem u hu.mem hlt
  · rw [hm.eq hu heq]

/-- What comes before a mapped score. -/
theorem InOrder.le_mapped (h : InOrder mappings maxScore)
    (hmono : ∀ m ∈ mappings, ∀ q ∈ mappings, m.fromScore < q.fromScore → m.toScore ≤ q.toScore)
    (hm : Effective mappings m) (hx : 0 ≤ x) (hxm : x ≤ m.fromScore) (hmax : m.fromScore ≤ maxScore) :
    customScore mappings maxScore x ≤ clamp maxScore m.toScore := by
  rcases place mappings maxScore x with ⟨p,hp,rfl⟩ | ⟨hbelow,hsame⟩ | ⟨habove,-⟩ | ⟨l,u,hlu,hlx,hxu,hbetween⟩
  · rw [customScore_mapped hp]
    exact clamp_mono _ (hp.toScore_le hmono hm hxm)
  · cases hup : upper mappings x with
    | none => exact absurd (upper_eq_none hup m hm.mem) (not_lt.mpr hxm)
    | some p =>
      obtain ⟨hp,-,hbest⟩ := upper_eq_some hup
      have hxp := hbelow p hp.mem
      have hpm := hbest m hm.mem hxm
      rw [hsame]
      calc x ≤ p.fromScore := hxp.le
        _ ≤ clamp maxScore p.toScore :=
          h.first p hp (fun q hq => hbest q hq (hbelow q hq).le) (hx.trans_lt hxp) (hpm.trans hmax)
        _ ≤ clamp maxScore m.toScore := clamp_mono _ (hp.toScore_le hmono hm hpm)
  · exact absurd (habove m hm.mem) (not_lt.mpr hxm)
  · have hum : u.fromScore ≤ m.fromScore := by
      by_contra hmu
      exact absurd (hlu.next m hm.mem (not_le.mp hmu)) (not_le.mpr (hlx.trans_le hxm))
    have hpos := hx.trans_lt hxu
    have hto := hlu.left.toScore_le hmono hlu.right hlu.lt.le
    rw [hbetween]
    refine le_trans ?_ (clamp_mono _ (hlu.right.toScore_le hmono hm hum))
    rcases hto.lt_or_eq with hsteep | hlevel
    · refine le_trans (clamp_mono _ (roundCent_le_roundBelow ?_)) (h.steep l u hlu hpos (hum.trans hmax) hsteep)
      have hlt := interpolate_lt hlu.lt hsteep hxu
      rwa [interpolate_right hlu.lt] at hlt
    · rw [interpolate_level hlevel]
      exact h.level l u hlu hpos (hum.trans hmax) hlevel

/-- What comes after it. -/
theorem InOrder.mapped_le (h : InOrder mappings maxScore)
    (hmono : ∀ m ∈ mappings, ∀ q ∈ mappings, m.fromScore < q.fromScore → m.toScore ≤ q.toScore)
    (hm : Effective mappings m) (hpos : 0 ≤ m.fromScore) (hmx : m.fromScore ≤ x) (hmax : x ≤ maxScore) :
    clamp maxScore m.toScore ≤ customScore mappings maxScore x := by
  rcases place mappings maxScore x with ⟨p,hp,rfl⟩ | ⟨hbelow,-⟩ | ⟨habove,hsame⟩ | ⟨l,u,hlu,hlx,hxu,hbetween⟩
  · rw [customScore_mapped hp]
    exact clamp_mono _ (hm.toScore_le hmono hp hmx)
  · exact absurd (hbelow m hm.mem) (not_lt.mpr hmx)
  · cases hlow : lower mappings x with
    | none => exact absurd (lower_eq_none hlow m hm.mem) (not_lt.mpr hmx)
    | some p =>
      obtain ⟨hp,-,hbest⟩ := lower_eq_some hlow
      have hpx := habove p hp.mem
      have hmp := hbest m hm.mem hmx
      rw [hsame]
      calc clamp maxScore m.toScore ≤ clamp maxScore p.toScore := clamp_mono _ (hm.toScore_le hmono hp hmp)
        _ ≤ p.fromScore := h.last p hp (fun q hq => hbest q hq (habove q hq).le) (hpos.trans hmp) (hpx.trans_le hmax)
        _ ≤ x := hpx.le
  · have hml : m.fromScore ≤ l.fromScore := hlu.next m hm.mem (hmx.trans_lt hxu)
    have hto := hlu.left.toScore_le hmono hlu.right hlu.lt.le
    rw [hbetween]
    refine (clamp_mono _ (hm.toScore_le hmono hlu.left hml)).trans ?_
    refine (h.onward l u hlu (hpos.trans hml) (hlx.trans_le hmax)).trans (clamp_mono _ (roundCent_mono ?_))
    have hle := interpolate_mono hlu.lt hto hlx.le
    rwa [interpolate_left] at hle

theorem InOrder.mono (h : InOrder mappings maxScore)
    (hmono : ∀ m ∈ mappings, ∀ q ∈ mappings, m.fromScore < q.fromScore → m.toScore ≤ q.toScore)
    (hx : 0 ≤ x) (hxy : x < y) (hy : y ≤ maxScore) : customScore mappings maxScore x ≤ customScore mappings maxScore y := by
  by_cases hpoint : ∃ q ∈ mappings, x ≤ q.fromScore ∧ q.fromScore ≤ y
  · obtain ⟨q,hq,hxq,hqy⟩ := hpoint
    obtain ⟨m,hm,hmq⟩ := exists_effective hq
    rw [← hmq] at hxq hqy
    exact (h.le_mapped hmono hm hx hxq (hqy.trans hy)).trans (h.mapped_le hmono hm (hx.trans hxq) hqy hy)
  · -- no mapped score lies between the two, so both are left alone or interpolated between the same ones
    have hnone : ∀ q ∈ mappings, x ≤ q.fromScore → y < q.fromScore :=
      fun q hq hxq => not_le.mp fun hqy => hpoint ⟨q,hq,hxq,hqy⟩
    rcases place mappings maxScore x with ⟨m,hm,rfl⟩ | ⟨hbelow,hsame⟩ | ⟨habove,hsame⟩ | ⟨l,u,hlu,hlx,hxu,hbetween⟩
    · exact absurd (hnone m hm.mem le_rfl) (not_lt.mpr hxy.le)
    · rw [hsame,customScore_outside (.inl fun q hq => hnone q hq (hbelow q hq).le)]
      exact hxy.le
    · rw [hsame,customScore_outside (.inr fun q hq => (habove q hq).trans hxy)]
      exact hxy.le
    · rw [hbetween,customScore_between hlu (hlx.trans hxy) (hnone u hlu.right.mem hxu.le)]
      exact clamp_mono _ (roundCent_mono (interpolate_mono hlu.lt (hlu.left.toScore_le hmono hlu.right hlu.lt.le) hxy.le))

/-- And nothing less will do. -/
theorem inOrder_of_mono (hmax : 0 < maxScore)
    (hmono : ∀ m ∈ mappings, ∀ q ∈ mappings, m.fromScore < q.fromScore → m.toScore ≤ q.toScore)
    (h : ∀ x y, 0 ≤ x → x < y → y ≤ maxScore → customScore mappings maxScore x ≤ customScore mappings maxScore y) :
    InOrder mappings maxScore where
  first := by
    intro m hm hfirst hpos hle
    refine le_of_forall_lt_imp_le_of_dense fun x hx => ?_
    rcases lt_or_ge x 0 with hneg | hnonneg
    · exact hneg.le.trans (clamp_bounds hmax _).1
    · have hmono := h x m.fromScore hnonneg hx hle
      rwa [customScore_mapped hm,customScore_outside (.inl fun q hq => hx.trans_le (hfirst q hq))] at hmono
  last := by
    intro m hm hlast hpos hlt
    refine le_of_forall_gt_imp_ge_of_dense fun x hx => ?_
    rcases lt_or_ge maxScore x with hover | hle
    · exact (clamp_bounds hmax _).2.trans hover.le
    · have hmono := h m.fromScore x hpos hx hle
      rwa [customScore_mapped hm,customScore_outside (.inr fun q hq => (hlast q hq).trans_lt hx)] at hmono
  steep := by
    intro l m hlm hpos hle hsteep
    obtain ⟨d,hd,hround⟩ := exists_roundCent_eq_below m.toScore
    have hnear : ∀ᶠ x in nhdsWithin m.fromScore (Set.Iio m.fromScore), m.toScore - d < interpolate l m x := by
      have hcont := (continuous_interpolate l m).tendsto m.fromScore
      rw [interpolate_right hlm.lt] at hcont
      exact (hcont.mono_left nhdsWithin_le_nhds).eventually (lt_mem_nhds (sub_lt_self _ hd))
    have hroom : max l.fromScore 0 < m.fromScore := max_lt hlm.lt hpos
    obtain ⟨x,hclose,hlx,hxm⟩ := (hnear.and (Ioo_mem_nhdsLT hroom)).exists
    have hmono := h x m.fromScore ((le_max_right _ _).trans hlx.le) hxm hle
    have hbelow : interpolate l m x < m.toScore := by
      have hlt := interpolate_lt hlm.lt hsteep hxm
      rwa [interpolate_right hlm.lt] at hlt
    rwa [customScore_mapped hlm.right,customScore_between hlm ((le_max_left _ _).trans_lt hlx) hxm,
      hround _ hbelow hclose] at hmono
  level := by
    intro l m hlm hpos hle hlevel
    have hroom : max l.fromScore 0 < m.fromScore := max_lt hlm.lt hpos
    obtain ⟨x,hlx,hxm⟩ := exists_between hroom
    have hmono := h x m.fromScore ((le_max_right _ _).trans hlx.le) hxm hle
    rwa [customScore_mapped hlm.right,customScore_between hlm ((le_max_left _ _).trans_lt hlx) hxm,
      interpolate_level hlevel] at hmono
  onward := by
    intro m u hmu hpos hlt
    obtain ⟨d,hd,hround⟩ := exists_roundCent_eq m.toScore
    have hnear : ∀ᶠ x in nhdsWithin m.fromScore (Set.Ioi m.fromScore), interpolate m u x < m.toScore + d := by
      have hcont := (continuous_interpolate m u).tendsto m.fromScore
      rw [interpolate_left] at hcont
      exact (hcont.mono_left nhdsWithin_le_nhds).eventually (gt_mem_nhds (lt_add_of_pos_right _ hd))
    have hroom : m.fromScore < min u.fromScore maxScore := lt_min hmu.lt hlt
    obtain ⟨x,hclose,hmx,hxu⟩ := (hnear.and (Ioo_mem_nhdsGT hroom)).exists
    have hord := h m.fromScore x hpos hmx (hxu.le.trans (min_le_right _ _))
    have habove : m.toScore ≤ interpolate m u x := by
      have hle := interpolate_mono hmu.lt (hmu.left.toScore_le hmono hmu.right hmu.lt.le) hmx.le
      rwa [interpolate_left] at hle
    rwa [customScore_mapped hmu.left,customScore_between hmu hmx (hxu.trans_le (min_le_left _ _)),
      hround _ habove hclose] at hord

end

/-! ## When a curve keeps the order -/

section
variable {curve : Curve}

theorem customScore_bounds {mappings : List CustomMapping} {maxScore x : ℝ} (hmax : 0 < maxScore) (hx : 0 ≤ x ∧ x ≤ maxScore) :
    0 ≤ customScore mappings maxScore x ∧ customScore mappings maxScore x ≤ maxScore := by
  rcases place mappings maxScore x with ⟨m,hm,rfl⟩ | ⟨-,hsame⟩ | ⟨-,hsame⟩ | ⟨l,u,-,-,-,hbetween⟩
  · rw [customScore_mapped hm]
    exact clamp_bounds hmax _
  · rwa [hsame]
  · rwa [hsame]
  · rw [hbetween]
    exact clamp_bounds hmax _

theorem keepsOrder_linearShift (h : curve.method = .linearShift) : curve.KeepsOrder := by
  intro before _
  simp only [transformScores,h]
  refine kept_overScores (fun _ _ _ _ => clamp_bounds curve.maxScore_pos _) fun _ _ _ _ x y _ _ hlt => ?_
  exact clamp_mono _ (by linarith)

theorem keepsOrder_linearScale (h : curve.method = .linearScale) : curve.KeepsOrder := by
  intro before hbefore
  simp only [transformScores,h]
  split
  · exact kept_self hbefore
  · rename_i highest hhighest
    split
    · exact kept_self hbefore
    · obtain ⟨s,hs,hscore⟩ := List.mem_filterMap.mp (List.max?_mem hhighest)
      have hpos : 0 < highest := lt_of_le_of_ne (hbefore s hs highest hscore).1 (Ne.symm ‹_›)
      have hmax := curve.maxScore_pos
      refine kept_overScores (fun s hs x hx => ⟨?_,min_le_left _ _⟩) fun _ _ _ _ x y _ _ hlt => ?_
      · have hnonneg := (hbefore s hs x hx).1
        exact le_min hmax.le (roundCent_nonneg (by positivity))
      · refine min_le_min le_rfl (roundCent_mono ?_)
        gcongr

theorem keepsOrder_sqrt (h : curve.method = .sqrt) : curve.KeepsOrder := by
  intro before _
  have hmax := curve.maxScore_pos
  simp only [transformScores,h]
  rw [if_pos hmax]
  refine kept_overScores (fun s hs x hx => ⟨?_,min_le_left _ _⟩) fun _ _ _ _ x y _ _ hlt => ?_
  · exact le_min hmax.le (roundCent_nonneg (mul_nonneg (Real.sqrt_nonneg _) hmax.le))
  · refine min_le_min le_rfl (roundCent_mono ?_)
    gcongr

theorem keepsOrder_bell (h : curve.method = .bell) : curve.KeepsOrder := by
  intro before hbefore
  have hmax := curve.maxScore_pos
  have hhundred := hundred_pos
  have hdeviation : 0 ≤ curve.params.targetStddev.getD ((10 : ℕ) : ℝ) := by
    cases hd : curve.params.targetStddev with
    | none => exact Nat.cast_nonneg _
    | some d => exact curve.deviation_nonneg d hd
  simp only [transformScores,h]
  split
  · exact kept_self hbefore
  · rename_i hne
    have hpos := lt_of_le_of_ne (Real.sqrt_nonneg _) (Ne.symm fun hzero => hne (.inr hzero))
    refine kept_overScores (fun _ _ _ _ => clamp_bounds hmax _) fun _ _ _ _ x y _ _ hlt => ?_
    apply clamp_mono
    apply roundCent_mono
    gcongr

theorem keepsOrder_custom_iff (h : curve.method = .custom) :
    curve.KeepsOrder ↔ InOrder curve.params.customMappings curve.maxScore := by
  have htransform : ∀ before, transformScores before curve.maxScore curve.method curve.params =
      overScores (customScore curve.params.customMappings curve.maxScore) before := by
    intro before
    simp only [transformScores,h]
  constructor
  · intro hkeeps
    refine inOrder_of_mono curve.maxScore_pos curve.mappings_mono fun x y hx hxy hy => ?_
    have hkept := hkeeps [⟨0,some x⟩,⟨1,some y⟩] (by
      intro s hs z hz
      rcases List.mem_cons.mp hs with rfl | hs
      · obtain rfl := Option.some.inj hz
        exact ⟨hx,hxy.le.trans hy⟩
      · obtain rfl := List.mem_singleton.mp hs
        obtain rfl := Option.some.inj hz
        exact ⟨hx.trans hxy.le,hy⟩)
    rw [htransform] at hkept
    exact hkept.order (⟨0,some x⟩,_) (List.mem_cons_self) (⟨1,some y⟩,_) (List.mem_cons_of_mem _ List.mem_cons_self)
      x y _ _ rfl rfl rfl rfl hxy
  · intro hord before hbefore
    rw [htransform]
    refine kept_overScores (fun s hs x hx => customScore_bounds curve.maxScore_pos (hbefore s hs x hx)) ?_
    intro s hs t ht x y hx hy hlt
    exact hord.mono curve.mappings_mono (hbefore s hs x hx).1 hlt (hbefore t ht y hy).2

/-- Only a custom mapping can change the order, and it does where the points of a mapped score do not fit what
happens to the scores next to it. -/
theorem keepsOrder_iff (curve : Curve) :
    curve.KeepsOrder ↔ (curve.method = .custom → InOrder curve.params.customMappings curve.maxScore) := by
  cases hmethod : curve.method with
  | linearShift => exact iff_of_true (keepsOrder_linearShift hmethod) fun h => (by cases h)
  | linearScale => exact iff_of_true (keepsOrder_linearScale hmethod) fun h => (by cases h)
  | sqrt => exact iff_of_true (keepsOrder_sqrt hmethod) fun h => (by cases h)
  | bell => exact iff_of_true (keepsOrder_bell hmethod) fun h => (by cases h)
  | custom =>
    rw [keepsOrder_custom_iff hmethod]
    exact ⟨fun h _ => h,fun h => h rfl⟩

end

/-- Only the pass mark is mapped, and to more. -/
def liftPassMark : Curve where
  method := .custom
  params := ⟨none,none,none,some [⟨((50 : ℕ) : ℝ),((60 : ℕ) : ℝ)⟩]⟩
  maxScore := ((100 : ℕ) : ℝ)
  maxScore_pos := by norm_num
  mappings_mono := by
    intro m hm q hq hlt
    rw [List.mem_singleton.mp hm,List.mem_singleton.mp hq] at hlt
    exact absurd hlt (lt_irrefl _)
  deviation_nonneg := fun _ hd => (by cases hd)

/-- Who had 50 gets 60, and who had 55 keeps 55. -/
theorem not_keepsOrder : ¬ ∀ curve : Curve, curve.KeepsOrder := by
  intro h
  have hkept := h liftPassMark [⟨0,some ((50 : ℕ) : ℝ)⟩,⟨1,some ((55 : ℕ) : ℝ)⟩] (by
    intro s hs x hx
    rcases List.mem_cons.mp hs with rfl | hs
    · obtain rfl := Option.some.inj hx
      exact ⟨by norm_num,by norm_num [liftPassMark]⟩
    · obtain rfl := List.mem_singleton.mp hs
      obtain rfl := Option.some.inj hx
      exact ⟨by norm_num,by norm_num [liftPassMark]⟩)
  have hle := hkept.order (⟨0,some ((50 : ℕ) : ℝ)⟩,_) List.mem_cons_self (⟨1,some ((55 : ℕ) : ℝ)⟩,_)
    (List.mem_cons_of_mem _ List.mem_cons_self) _ _ _ _ rfl rfl rfl rfl (by norm_num)
  have hmapped : customScore liftPassMark.params.customMappings liftPassMark.maxScore ((50 : ℕ) : ℝ) = ((60 : ℕ) : ℝ) := by
    have heffective : Effective liftPassMark.params.customMappings ⟨((50 : ℕ) : ℝ),((60 : ℕ) : ℝ)⟩ := by
      simp [Effective,liftPassMark,CurveParams.customMappings]
    refine (customScore_mapped heffective).trans ?_
    norm_num [clamp,liftPassMark]
  have houtside : customScore liftPassMark.params.customMappings liftPassMark.maxScore ((55 : ℕ) : ℝ) = ((55 : ℕ) : ℝ) := by
    apply customScore_outside
    right
    intro q hq
    rw [List.mem_singleton.mp hq]
    norm_num
  rw [hmapped,houtside] at hle
  norm_num at hle

end

end EduPod.Gradebook.CurveOrder
