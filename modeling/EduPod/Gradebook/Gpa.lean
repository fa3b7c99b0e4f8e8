import Mathlib
import EduPod.Gradebook.PeriodGrades

/-! # Grade points

The GPA service reads a grading scale for itself. A label is displayed for the highest range whose lower end
is reached, but the points are those of a range with the percentage between its ends, and proportional where
there is none.
-/
namespace EduPod.Gradebook.PeriodGrades

structure GpaScaleRange extends GradingScaleRange where
  max : ℚ
  gpaValue : Option ℚ

structure GpaScaleGrade extends GradingScaleGrade where
  gpaValue : Option ℚ

/-- A stored scale with everything the GPA service reads in it. -/
structure GpaScaleConfig where
  type : ScaleType
  ranges : Option (List GpaScaleRange)
  grades : Option (List GpaScaleGrade)

def GpaScaleConfig.toGradingScaleConfig (config : GpaScaleConfig) : GradingScaleConfig where
  type := config.type
  ranges := config.ranges.map fun ranges => ranges.map GpaScaleRange.toGradingScaleRange
  grades := config.grades.map fun grades => grades.map GpaScaleGrade.toGradingScaleGrade

def proportional (percentage : ℚ) : ℚ := percentage / 100 * 4

def GpaScaleRange.Contains (r : GpaScaleRange) (percentage : ℚ) : Prop := r.min ≤ percentage ∧ percentage ≤ r.max

instance (r : GpaScaleRange) (percentage : ℚ) : Decidable (r.Contains percentage) := inferInstanceAs (Decidable (_ ∧ _))

def resolveGpaPoints (computedPercentage : ℚ) (config : GpaScaleConfig) : ℚ :=
  let matched := match config.type,config.ranges,config.grades with
    | .numeric,some ranges,_ => (ranges.find? fun r : GpaScaleRange => r.Contains computedPercentage).bind GpaScaleRange.gpaValue
    | .numeric,none,_ => none
    | _,_,none => none
    | _,_,some grades =>
      let gradesWithValues := grades.filter fun g : GpaScaleGrade => g.numericValue.isSome
      ((gradesWithValues.mergeSort fun a b => b.numericValue.getD 0 ≤ a.numericValue.getD 0).find? fun g : GpaScaleGrade =>
        g.numericValue.getD 0 ≤ computedPercentage).bind GpaScaleGrade.gpaValue
  matched.getD (proportional computedPercentage)

/-! ## The range that is displayed -/

/-- The range that `applyGradingScale` takes the label from. -/
def displayedRange (percentage : ℚ) (ranges : List GpaScaleRange) : Option GpaScaleRange :=
  (ranges.mergeSort fun a b => b.min ≤ a.min).find? fun r => r.min ≤ percentage

theorem highestReached_ranges (percentage : ℚ) (ranges : List GpaScaleRange) :
    highestReached percentage (ranges.map fun r => (r.min,r.label)) = (displayedRange percentage ranges).map fun r => r.label := by
  have hsort : (ranges.map fun r => (r.min,r.label)).mergeSort (fun a b => decide (b.1 ≤ a.1)) =
      (ranges.mergeSort fun a b => b.min ≤ a.min).map fun r => (r.min,r.label) :=
    (List.map_mergeSort (f := fun r : GpaScaleRange => (r.min,r.label)) fun _ _ _ _ => rfl).symm
  rw [highestReached,displayedRange,hsort,List.find?_map,Option.map_map]
  rfl

theorem applyGradingScale_numeric (percentage : ℚ) (ranges : List GpaScaleRange) (grades : Option (List GpaScaleGrade)) :
    applyGradingScale percentage (GpaScaleConfig.mk .numeric (some ranges) grades).toGradingScaleConfig =
      ((displayedRange percentage ranges).map fun r => .label r.label).getD (displayPercent percentage) := by
  change ((highestReached percentage ((ranges.map _).map _)).map DisplayValue.label).getD _ = _
  rw [List.map_map]
  change ((highestReached percentage (ranges.map fun r => (r.min,r.label))).map DisplayValue.label).getD _ = _
  rw [highestReached_ranges,Option.map_map]
  rfl

/-- It is reached, and no range with a higher lower end is. -/
theorem displayedRange_eq_some {percentage : ℚ} {ranges : List GpaScaleRange} {r : GpaScaleRange}
    (h : displayedRange percentage ranges = some r) :
    r ∈ ranges ∧ r.min ≤ percentage ∧ ∀ q ∈ ranges, q.min ≤ percentage → q.min ≤ r.min := by
  have hsorted : (ranges.mergeSort fun a b => decide (b.min ≤ a.min)).Pairwise fun a b => b.min ≤ a.min := by
    have htrans : ∀ a b c : GpaScaleRange, decide (b.min ≤ a.min) → decide (c.min ≤ b.min) → decide (c.min ≤ a.min) := by
      intro a b c hab hbc
      simp only [decide_eq_true_eq] at hab hbc ⊢
      exact hbc.trans hab
    have htotal : ∀ a b : GpaScaleRange, (decide (b.min ≤ a.min) || decide (a.min ≤ b.min)) = true := by
      intro a b
      simp only [Bool.or_eq_true,decide_eq_true_eq]
      exact le_total _ _
    exact (List.pairwise_mergeSort htrans htotal ranges).imp fun hab => of_decide_eq_true hab
  obtain ⟨hreached,as,bs,heq,hbefore⟩ := List.find?_eq_some_iff_append.mp h
  have hmem : ∀ q, q ∈ ranges ↔ q ∈ as ++ r :: bs := by
    intro q
    rw [← heq]
    exact List.mem_mergeSort.symm
  refine ⟨(hmem r).mpr (by simp),of_decide_eq_true hreached,fun q hq hqp => ?_⟩
  rcases List.mem_append.mp ((hmem q).mp hq) with hq | hq
  · have hnot := hbefore q hq
    simp [hqp] at hnot
  · rw [heq] at hsorted
    rcases List.mem_cons.mp hq with rfl | hq
    · exact le_rfl
    · exact (List.pairwise_cons.mp (List.pairwise_append.mp hsorted).2.1).1 q hq

theorem displayedRange_eq_none {percentage : ℚ} {ranges : List GpaScaleRange} :
    displayedRange percentage ranges = none ↔ ∀ q ∈ ranges, percentage < q.min := by
  rw [displayedRange,List.find?_eq_none]
  constructor
  · intro h q hq
    simpa using h q (List.mem_mergeSort.mpr hq)
  · intro h q hq
    simpa using h q (List.mem_mergeSort.mp hq)

/-! ## Scales without gaps between whole numbers -/

/-- Ranges from a whole number to a whole number, each starting one above the end of the one before, whichever way
they are stored. All carry points. -/
structure Contiguous (ranges : List GpaScaleRange) : Prop where
  nonempty : ranges ≠ []
  integer : ∀ r ∈ ranges, ∃ lo hi : ℤ, lo ≤ hi ∧ r.min = lo ∧ r.max = hi
  graded : ∀ r ∈ ranges, r.gpaValue.isSome
  chained : ∃ ordered : List GpaScaleRange, ordered.Perm ranges ∧ ordered.IsChain fun a b => b.min = a.max + 1

structure NumericScale where
  ranges : List GpaScaleRange
  contiguous : Contiguous ranges

def NumericScale.config (scale : NumericScale) : GpaScaleConfig := ⟨.numeric,some scale.ranges,none⟩

/-- The label of a range stands for its points, and more percent never give fewer points. -/
structure Consistent (scale : NumericScale) : Prop where
  displayed : ∀ p, 0 ≤ p → p ≤ 100 → ∀ r, displayedRange p scale.ranges = some r →
    applyGradingScale p scale.config.toGradingScaleConfig = .label r.label ∧ r.gpaValue = some (resolveGpaPoints p scale.config)
  monotone : ∀ p q, 0 ≤ p → p ≤ q → q ≤ 100 → resolveGpaPoints p scale.config ≤ resolveGpaPoints q scale.config

section
variable {ranges : List GpaScaleRange} {r q : GpaScaleRange} {p : ℚ}

theorem Contiguous.min_le_max (h : Contiguous ranges) (hr : r ∈ ranges) : r.min ≤ r.max := by
  obtain ⟨lo,hi,hle,hmin,hmax⟩ := h.integer r hr
  rw [hmin,hmax]
  exact_mod_cast hle

/-- Whole ends that are apart are one apart. -/
theorem Contiguous.add_one_le (h : Contiguous ranges) (hr : r ∈ ranges) (hq : q ∈ ranges) (hlt : r.max < q.min) :
    r.max + 1 ≤ q.min := by
  obtain ⟨-,hi,-,-,hmax⟩ := h.integer r hr
  obtain ⟨lo,-,-,hmin,-⟩ := h.integer q hq
  rw [hmax,hmin] at hlt ⊢
  have : hi < lo := by exact_mod_cast hlt
  exact_mod_cast this

theorem isChain_apart {a : GpaScaleRange} {rest : List GpaScaleRange} (hle : ∀ r ∈ a :: rest, r.min ≤ r.max)
    (h : (a :: rest).IsChain fun a b => b.min = a.max + 1) : ∀ r ∈ rest, a.max < r.min := by
  induction rest generalizing a with
  | nil => simp
  | cons b rest ih =>
    obtain ⟨hab,hrest⟩ := List.isChain_cons_cons.mp h
    intro r hr
    have hb : a.max < b.min := by
      rw [hab]
      exact lt_add_one _
    rcases List.mem_cons.mp hr with rfl | hr
    · exact hb
    · have hbr := ih (fun r hr => hle r (List.mem_cons_of_mem _ hr)) hrest r hr
      have hbb := hle b (by simp)
      linarith

theorem isChain_pairwise {ordered : List GpaScaleRange} (hle : ∀ r ∈ ordered, r.min ≤ r.max)
    (h : ordered.IsChain fun a b => b.min = a.max + 1) : ordered.Pairwise fun a b => a.max < b.min := by
  induction ordered with
  | nil => exact .nil
  | cons a rest ih =>
    refine List.pairwise_cons.mpr ⟨isChain_apart hle h,ih (fun r hr => hle r (List.mem_cons_of_mem _ hr)) ?_⟩
    exact h.tail

/-- Two ranges are the same or lie apart. -/
theorem Contiguous.apart (h : Contiguous ranges) (hr : r ∈ ranges) (hq : q ∈ ranges) :
    r = q ∨ r.max < q.min ∨ q.max < r.min := by
  obtain ⟨ordered,hperm,hchain⟩ := h.chained
  have hpair := isChain_pairwise (fun r hr => h.min_le_max (hperm.mem_iff.mp hr)) hchain
  by_contra hne
  simp only [not_or,not_lt] at hne
  have hsymm : Std.Symm fun a b : GpaScaleRange => a.max < b.min ∨ b.max < a.min := ⟨fun a b hab => hab.symm⟩
  have hor : ordered.Pairwise fun a b => a.max < b.min ∨ b.max < a.min := hpair.imp .inl
  rcases hor.forall (hperm.mem_iff.mpr hr) (hperm.mem_iff.mpr hq) hne.1 with hlt | hlt
  · exact absurd hlt (not_lt.mpr hne.2.1)
  · exact absurd hlt (not_lt.mpr hne.2.2)

/-- A range below another is followed at the next whole number. -/
theorem Contiguous.next (h : Contiguous ranges) (hr : r ∈ ranges) (hq : q ∈ ranges) (hlt : r.max < q.min) :
    ∃ s ∈ ranges, s.min = r.max + 1 := by
  obtain ⟨ordered,hperm,hchain⟩ := h.chained
  have hpair := isChain_pairwise (fun r hr => h.min_le_max (hperm.mem_iff.mp hr)) hchain
  obtain ⟨as,bs,rfl⟩ := List.append_of_mem (hperm.mem_iff.mpr hr)
  have hqmem := hperm.mem_iff.mpr hq
  cases bs with
  | nil =>
    -- nothing comes after the last range
    exfalso
    have hrr := h.min_le_max hr
    have hqq := h.min_le_max hq
    rcases List.mem_append.mp hqmem with hqa | hqr
    · have hbefore := (List.pairwise_append.mp hpair).2.2 q hqa r (by simp)
      linarith
    · rw [List.mem_singleton.mp hqr] at hlt
      linarith
  | cons s bs =>
    refine ⟨s,hperm.mem_iff.mp (by simp),?_⟩
    exact (List.isChain_cons_cons.mp (List.isChain_append.mp hchain).2.1).1

/-- Up to where the next range starts, the range below is displayed. -/
theorem Contiguous.displayedRange_eq (h : Contiguous ranges) (hr : r ∈ ranges) (hmin : r.min ≤ p) (hmax : p < r.max + 1) :
    displayedRange p ranges = some r := by
  cases hd : displayedRange p ranges with
  | none => exact absurd (displayedRange_eq_none.mp hd r hr) (not_lt.mpr hmin)
  | some s =>
    obtain ⟨hs,hsp,hbest⟩ := displayedRange_eq_some hd
    have hrs := hbest r hr hmin
    have hrr := h.min_le_max hr
    rcases h.apart hr hs with rfl | hlt | hlt
    · rfl
    · have := h.add_one_le hr hs hlt
      linarith
    · have := h.min_le_max hs
      linarith

end

/-! ## Where labels and points agree -/

section
variable {scale : NumericScale} {r : GpaScaleRange} {p : ℚ}

theorem resolveGpaPoints_of_contains (hr : r ∈ scale.ranges) (hp : r.Contains p) :
    r.gpaValue = some (resolveGpaPoints p scale.config) := by
  have hfind : scale.ranges.find? (fun r => r.Contains p) = some r := by
    cases hf : scale.ranges.find? fun r => r.Contains p with
    | none => exact absurd hp (by simpa using List.find?_eq_none.mp hf r hr)
    | some s =>
      have hs : s.Contains p := by simpa using List.find?_some hf
      rcases scale.contiguous.apart hr (List.mem_of_find?_eq_some hf) with rfl | hlt | hlt
      · rfl
      · exact absurd hlt (not_lt.mpr (hs.1.trans hp.2))
      · exact absurd hlt (not_lt.mpr (hp.1.trans hs.2))
  obtain ⟨g,hg⟩ := Option.isSome_iff_exists.mp (scale.contiguous.graded r hr)
  change r.gpaValue = some (((scale.ranges.find? fun r => r.Contains p).bind GpaScaleRange.gpaValue).getD (proportional p))
  rw [hfind,Option.bind_some,hg]
  rfl

theorem resolveGpaPoints_of_not_contains (h : ∀ r ∈ scale.ranges, ¬ r.Contains p) :
    resolveGpaPoints p scale.config = proportional p := by
  have hfind : scale.ranges.find? (fun r => r.Contains p) = none := by
    rw [List.find?_eq_none]
    exact fun r hr => by simpa using h r hr
  change ((scale.ranges.find? fun r => r.Contains p).bind GpaScaleRange.gpaValue).getD (proportional p) = proportional p
  rw [hfind]
  rfl

/-- Above the range that is displayed there is none. -/
theorem resolveGpaPoints_of_displayed (hd : displayedRange p scale.ranges = some r) (hp : r.max < p) :
    resolveGpaPoints p scale.config = proportional p := by
  obtain ⟨hr,hmin,hbest⟩ := displayedRange_eq_some hd
  apply resolveGpaPoints_of_not_contains
  rintro s hs ⟨hsmin,hsmax⟩
  have hsr := hbest s hs hsmin
  rcases scale.contiguous.apart hr hs with rfl | hlt | hlt
  · linarith
  · have := scale.contiguous.min_le_max hr
    linarith
  · linarith

theorem resolveGpaPoints_of_undisplayed (hd : displayedRange p scale.ranges = none) :
    resolveGpaPoints p scale.config = proportional p :=
  resolveGpaPoints_of_not_contains fun r hr hp => absurd hp.1 (not_le.mpr (displayedRange_eq_none.mp hd r hr))

/-- The points belong to the label up to the end of its range, and beyond it by chance only. -/
theorem gpaValue_eq_iff (hd : displayedRange p scale.ranges = some r) :
    r.gpaValue = some (resolveGpaPoints p scale.config) ↔ p ≤ r.max ∨ r.gpaValue = some (proportional p) := by
  obtain ⟨hr,hmin,-⟩ := displayedRange_eq_some hd
  by_cases hp : p ≤ r.max
  · exact iff_of_true (resolveGpaPoints_of_contains hr ⟨hmin,hp⟩) (.inl hp)
  · rw [resolveGpaPoints_of_displayed hd (not_le.mp hp)]
    exact ⟨.inr,fun h => h.resolve_left hp⟩

theorem label_of_displayed (hd : displayedRange p scale.ranges = some r) :
    applyGradingScale p scale.config.toGradingScaleConfig = .label r.label := by
  rw [NumericScale.config,applyGradingScale_numeric,hd]
  rfl

theorem proportional_injective : Function.Injective proportional := by
  intro p q h
  unfold proportional at h
  linarith

/-- One range takes in whatever is displayed: none ends within the percentages, one ends above them, and where a
range starts the points do not fall. -/
structure Undivided (scale : NumericScale) : Prop where
  ends : ∀ r ∈ scale.ranges, r.max < 0 ∨ 100 ≤ r.max
  covers : ∃ r ∈ scale.ranges, 100 ≤ r.max
  starts : ∀ r ∈ scale.ranges, 0 < r.min → r.min ≤ 100 → ∀ g, r.gpaValue = some g → proportional r.min ≤ g

theorem Undivided.le_max (h : Undivided scale) (hp : 0 ≤ p) (hp' : p ≤ 100) (hd : displayedRange p scale.ranges = some r) :
    p ≤ r.max := by
  obtain ⟨hr,hmin,hbest⟩ := displayedRange_eq_some hd
  rcases h.ends r hr with hneg | hover
  · exfalso
    obtain ⟨t,ht,hcover⟩ := h.covers
    have hbelow : r.max < t.min := by
      rcases scale.contiguous.apart hr ht with rfl | hlt | hlt
      · linarith
      · exact hlt
      · have := scale.contiguous.min_le_max hr
        linarith
    obtain ⟨s,hs,hnext⟩ := scale.contiguous.next hr ht hbelow
    have hsp : s.min ≤ p := by
      obtain ⟨-,hi,-,-,hmax⟩ := scale.contiguous.integer r hr
      rw [hmax] at hneg
      have hi' : hi < 0 := by exact_mod_cast hneg
      have hi'' : (hi : ℚ) + 1 ≤ 0 := by exact_mod_cast hi'
      rw [hnext,hmax]
      exact hi''.trans hp
    have := hbest s hs hsp
    have := scale.contiguous.min_le_max hr
    linarith
  · exact hp'.trans hover

theorem consistent_of_undivided (h : Undivided scale) : Consistent scale := by
  refine ⟨fun p hp hp' r hd => ⟨label_of_displayed hd,(gpaValue_eq_iff hd).mpr (.inl (h.le_max hp hp' hd))⟩,?_⟩
  intro p q hp hpq hq
  have hprop : proportional p ≤ proportional q := by
    unfold proportional
    linarith
  cases hdp : displayedRange p scale.ranges with
  | none =>
    rw [resolveGpaPoints_of_undisplayed hdp]
    cases hdq : displayedRange q scale.ranges with
    | none => rwa [resolveGpaPoints_of_undisplayed hdq]
    | some r =>
      obtain ⟨hr,hmin,-⟩ := displayedRange_eq_some hdq
      have hpr := displayedRange_eq_none.mp hdp r hr
      have hpoints := resolveGpaPoints_of_contains hr ⟨hmin,h.le_max (hp.trans hpq) hq hdq⟩
      have hstart := h.starts r hr (hp.trans_lt hpr) (hmin.trans hq) _ hpoints
      unfold proportional at hstart ⊢
      linarith
  | some r =>
    obtain ⟨hr,hmin,-⟩ := displayedRange_eq_some hdp
    have hmax := h.le_max hp (hpq.trans hq) hdp
    have hover : 100 ≤ r.max := (h.ends r hr).resolve_left (not_lt.mpr (hp.trans hmax))
    have hp' := resolveGpaPoints_of_contains hr ⟨hmin,hmax⟩
    have hq' := resolveGpaPoints_of_contains hr ⟨hmin.trans hpq,hq.trans hover⟩
    rw [Option.some.inj (hp'.symm.trans hq')]

/-- Two percentages above the displayed range would both have its points. -/
theorem not_consistent_above (h : Consistent scale) {q : ℚ} (hpq : p < q) (hp : 0 ≤ p) (hq : q ≤ 100) (hmax : r.max < p)
    (hdp : displayedRange p scale.ranges = some r) (hdq : displayedRange q scale.ranges = some r) : False := by
  have hp' := (h.displayed p hp (hpq.le.trans hq) r hdp).2
  have hq' := (h.displayed q (hp.trans hpq.le) hq r hdq).2
  rw [resolveGpaPoints_of_displayed hdp hmax] at hp'
  rw [resolveGpaPoints_of_displayed hdq (hmax.trans hpq)] at hq'
  exact hpq.ne (proportional_injective (Option.some.inj (hp'.symm.trans hq')))

theorem undivided_of_consistent (h : Consistent scale) : Undivided scale := by
  have hends : ∀ r ∈ scale.ranges, r.max < 0 ∨ 100 ≤ r.max := by
    intro r hr
    by_contra hin
    simp only [not_or,not_lt,not_le] at hin
    obtain ⟨-,hi,-,-,hmax⟩ := scale.contiguous.integer r hr
    have hmin := scale.contiguous.min_le_max hr
    have hhundred : r.max + 1 ≤ 100 := by
      rw [hmax] at hin ⊢
      have hlt : hi < 100 := by exact_mod_cast hin.2
      exact_mod_cast (show hi + 1 ≤ 100 by omega)
    refine not_consistent_above (r := r) (p := r.max + 1 / 4) (q := r.max + 1 / 2) h (by linarith) (by linarith) (by linarith)
      (by linarith) ?_ ?_
    · exact scale.contiguous.displayedRange_eq hr (by linarith) (by linarith)
    · exact scale.contiguous.displayedRange_eq hr (by linarith) (by linarith)
  refine ⟨hends,?_,?_⟩
  · by_contra hnone
    simp only [not_exists,not_and,not_le] at hnone
    have hneg : ∀ r ∈ scale.ranges, r.max < 0 := fun r hr => (hends r hr).resolve_right (not_le.mpr (hnone r hr))
    have hreached : ∀ p, 0 ≤ p → ∃ r, displayedRange p scale.ranges = some r := by
      intro p hp
      cases hd : displayedRange p scale.ranges with
      | some r => exact ⟨r,rfl⟩
      | none =>
        obtain ⟨r,hr⟩ := List.exists_mem_of_ne_nil _ scale.contiguous.nonempty
        have := displayedRange_eq_none.mp hd r hr
        have := scale.contiguous.min_le_max hr
        have := hneg r hr
        linarith
    obtain ⟨r,hdr⟩ := hreached 25 (by norm_num)
    obtain ⟨s,hds⟩ := hreached 50 (by norm_num)
    obtain ⟨hr,-,hbestr⟩ := displayedRange_eq_some hdr
    obtain ⟨hs,-,hbests⟩ := displayedRange_eq_some hds
    have hminr := scale.contiguous.min_le_max hr
    have hmins := scale.contiguous.min_le_max hs
    have hrneg := hneg r hr
    have hsneg := hneg s hs
    have hle := hbestr s hs (by linarith)
    have hge := hbests r hr (by linarith)
    rcases scale.contiguous.apart hr hs with rfl | hlt | hlt
    · exact not_consistent_above (p := 25) (q := 50) h (by norm_num) (by norm_num) (by norm_num) (by linarith) hdr hds
    · linarith
    · linarith
  · intro r hr hpos hhundred g hg
    by_contra hlt
    unfold proportional at hlt
    obtain ⟨lo,-,-,hlo,-⟩ := scale.contiguous.integer r hr
    have hone : 1 ≤ r.min := by
      rw [hlo] at hpos ⊢
      have : 0 < lo := by exact_mod_cast hpos
      exact_mod_cast this
    -- just below the range the points are proportional and already too many
    let p := (max (25 * g) (r.min - 1) + r.min) / 2
    have hbelow : max (25 * g) (r.min - 1) < r.min := max_lt (by linarith) (by linarith)
    have hg' : 25 * g ≤ max (25 * g) (r.min - 1) := le_max_left _ _
    have hm' : r.min - 1 ≤ max (25 * g) (r.min - 1) := le_max_right _ _
    have hpr : p < r.min := by
      dsimp only [p]
      linarith
    have hpg : 25 * g < p := by
      dsimp only [p]
      linarith
    have hpm : r.min - 1 < p := by
      dsimp only [p]
      linarith
    have hnot : ∀ s ∈ scale.ranges, ¬ s.Contains p := by
      rintro s hs ⟨hsmin,hsmax⟩
      have hss := scale.contiguous.min_le_max hs
      rcases scale.contiguous.apart hr hs with rfl | hlt | hlt
      · linarith
      · have := scale.contiguous.min_le_max hr
        linarith
      · have := scale.contiguous.add_one_le hs hr hlt
        linarith
    have hmono := h.monotone p r.min (by linarith) hpr.le hhundred
    have hpoints := resolveGpaPoints_of_contains hr ⟨le_rfl,scale.contiguous.min_le_max hr⟩
    rw [resolveGpaPoints_of_not_contains hnot,← Option.some.inj (hg.symm.trans hpoints)] at hmono
    unfold proportional at hmono
    linarith

/-- Up to the end of the range that is displayed its points are given, and beyond it others. A scale with more than one
range among the percentages is therefore never consistent. -/
theorem consistent_iff (scale : NumericScale) :
    (∀ p r, displayedRange p scale.ranges = some r →
      (r.gpaValue = some (resolveGpaPoints p scale.config) ↔ p ≤ r.max ∨ r.gpaValue = some (proportional p))) ∧
    (Consistent scale ↔ Undivided scale) :=
  ⟨fun _ _ hd => gpaValue_eq_iff hd,undivided_of_consistent,consistent_of_undivided⟩

end

def passOrFail : NumericScale where
  ranges := [⟨⟨0,"F"⟩,69,some 0⟩,⟨⟨70,"P"⟩,100,some 4⟩]
  contiguous :=
    { nonempty := by simp
      integer := by
        intro r hr
        rcases List.mem_cons.mp hr with rfl | hr
        · exact ⟨0,69,by norm_num,by norm_num,by norm_num⟩
        · rw [List.mem_singleton.mp hr]
          exact ⟨70,100,by norm_num,by norm_num,by norm_num⟩
      graded := by decide
      chained := ⟨_,.refl _,by norm_num⟩ }

/-- At 69.5 percent the label is an F and the points are those of 2.78. -/
theorem not_consistent : ¬ ∀ scale : NumericScale, Consistent scale := by
  intro h
  have hd : displayedRange (139 / 2) passOrFail.ranges = some ⟨⟨0,"F"⟩,69,some 0⟩ :=
    passOrFail.contiguous.displayedRange_eq (by simp [passOrFail]) (by norm_num) (by norm_num)
  have hpoints := ((h passOrFail).displayed (139 / 2) (by norm_num) (by norm_num) _ hd).2
  rw [resolveGpaPoints_of_displayed hd (by norm_num)] at hpoints
  have hzero : (0 : ℚ) = proportional (139 / 2) := Option.some.inj hpoints
  norm_num [proportional] at hzero

end EduPod.Gradebook.PeriodGrades
