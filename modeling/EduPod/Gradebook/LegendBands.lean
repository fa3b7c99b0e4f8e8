import Mathlib
import EduPod.Gradebook.PeriodGrades

/-! # Letters on a report card and in its legend

Three functions read one configuration: the gradebook's, which looks at the type; the report card's, which looks at
the arrays that are there; and the legend's, which makes bands of either. The legend's bands are closed, so that a
percentage between the end of one and the beginning of the next is in none of them.
-/
namespace EduPod.Gradebook.LegendBands
open PeriodGrades Rounding

structure ScaleRange where
  label : String
  min : ℚ
  max : ℚ

/-- A grade in any of the shapes that were ever stored. -/
structure LegacyGrade where
  label : String
  min : Option ℚ := none
  max : Option ℚ := none
  numericValue : Option ℚ := none

structure StoredScale where
  type : Option ScaleType
  ranges : Option (List ScaleRange) := none
  grades : Option (List LegacyGrade) := none

structure Band where
  label : String
  min : ℚ
  max : ℚ
  deriving DecidableEq

def hasRangeShape (grades : List LegacyGrade) : Bool := grades.any fun g => g.min.isSome && g.max.isSome

/-- The grades with a lower bound, from the highest down. -/
def withValues (grades : List LegacyGrade) : List (ℚ × String) :=
  (grades.filterMap fun g => g.numericValue.map (·,g.label)).mergeSort fun a b => b.1 ≤ a.1

/-- `sorted[sorted.length - 1]?.label ?? ''` -/
def lastLabel (labels : List String) : String := labels.getLast?.getD ""

def applyGradingScaleFlexible (percentage : ℚ) (config : StoredScale) : String :=
  let pct := max 0 (min 100 percentage)
  let ranges := config.ranges.getD []
  let grades := config.grades.getD []
  if ranges ≠ [] then
    let sorted := ranges.mergeSort fun a b => b.min ≤ a.min
    ((sorted.find? fun r => r.min ≤ pct).map ScaleRange.label).getD (lastLabel (sorted.map ScaleRange.label))
  else if grades ≠ [] then
    if hasRangeShape grades then
      let sorted := grades.mergeSort fun a b => b.min.getD 0 ≤ a.min.getD 0
      ((sorted.find? fun g => g.min.all (fun low => low ≤ pct) && g.max.all fun high => pct ≤ high).map
        LegacyGrade.label).getD (lastLabel (sorted.map LegacyGrade.label))
    else
      let values := withValues grades
      ((values.find? fun v => v.1 ≤ pct).map Prod.snd).getD (lastLabel (values.map Prod.snd))
  else ""

/-- A band ends one below the beginning of the band above it, the first one at 100. -/
@[grind] def bandsBelow : Option ℚ → List (ℚ × String) → List Band
  | _, [] => []
  | above, value :: rest => ⟨value.2,value.1,above.elim 100 (· - 1)⟩ :: bandsBelow (some value.1) rest

def bandsFromGradingScale (config : StoredScale) : List Band :=
  let ranges := config.ranges.getD []
  let grades := config.grades.getD []
  if ranges ≠ [] then (ranges.map fun r => ⟨r.label,r.min,r.max⟩).mergeSort fun a b => b.min ≤ a.min
  else if grades ≠ [] then
    if hasRangeShape grades then
      (grades.filterMap fun g => g.min.bind fun low => g.max.map fun high => ⟨g.label,low,high⟩).mergeSort
        fun a b => b.min ≤ a.min
    else bandsBelow none (withValues grades)
  else []

/-- The gradebook's display value: a configuration without a type matches none of its branches. -/
def displayValue (percentage : ℚ) (config : StoredScale) : DisplayValue :=
  config.type.elim (displayPercent percentage) fun type => applyGradingScale percentage
    ⟨type,config.ranges.map (·.map fun r => ⟨r.min,r.label⟩),
      config.grades.map (·.map fun g => ⟨g.label,g.numericValue⟩)⟩

/-- The text of a display value, when numbers are printed so. -/
def displayText (toText : ℚ → String) : DisplayValue → String
  | .label text => text
  | .percent value => toText value ++ "%"

/-- The three shapes a configuration may have. -/
inductive Accepted : StoredScale → Prop
  | ranges (rows : List ScaleRange) (h : rows ≠ []) : Accepted ⟨some .numeric,some rows,none⟩
  | values (type : ScaleType) (htype : type ≠ .numeric) (rows : List LegacyGrade) (h : rows ≠ [])
      (hvalues : ∀ g ∈ rows,g.min = none ∧ g.max = none) : Accepted ⟨some type,none,some rows⟩
  | legacy (rows : List LegacyGrade) (h : rows ≠ []) (hbands : ∀ g ∈ rows,g.min.isSome ∧ g.max.isSome) :
      Accepted ⟨none,none,some rows⟩

/-- The legend's bands, from the highest down, follow one another on the integers. -/
structure Contiguous (bands : List Band) : Prop where
  whole : ∀ b ∈ bands,b.min.isInt = true ∧ b.max.isInt = true ∧ b.min ≤ b.max
  follows : bands.IsChain fun a b => b.max = a.min - 1

def Band.Contains (b : Band) (percentage : ℚ) : Prop := b.min ≤ percentage ∧ percentage ≤ b.max

/-- The report card, the gradebook and the legend say the same. -/
structure Agree (toText : ℚ → String) (config : StoredScale) (percentage : ℚ) : Prop where
  shown : displayText toText (displayValue percentage config) = applyGradingScaleFlexible percentage config
  legend : ∃ b ∈ bandsFromGradingScale config,b.Contains percentage ∧
    b.label = applyGradingScaleFlexible percentage config
  unique : ∀ a ∈ bandsFromGradingScale config,∀ b ∈ bandsFromGradingScale config,
    a.Contains percentage → b.Contains percentage → a = b

/-! ## Bands in order -/

section
variable {bands : List Band} {b : Band} {x : ℚ}

theorem Contiguous.pairwise (h : Contiguous bands) : bands.Pairwise fun a b => b.max < a.min := by
  obtain ⟨hwhole,hfollows⟩ := h
  induction bands with
  | nil => exact List.Pairwise.nil
  | cons a bands ih =>
    have hrest := ih (fun b hb => hwhole b (List.mem_cons_of_mem _ hb)) hfollows.tail
    refine List.pairwise_cons.mpr ⟨?_,hrest⟩
    cases bands with
    | nil => simp
    | cons c bands =>
      have hc : c.max = a.min - 1 := (List.isChain_cons_cons.mp hfollows).1
      have hle := (hwhole c (by simp)).2.2
      intro b hb
      rcases List.mem_cons.mp hb with rfl | hb
      · linarith
      · have := (List.pairwise_cons.mp hrest).1 b hb
        linarith

/-- The band a percentage lies in is the first whose lower end it reaches. -/
theorem find?_of_contains (h : Contiguous bands) (hb : b ∈ bands) (hx : b.Contains x) (q : Band → Bool)
    (hq : q b = true) : bands.find? (fun a => a.min ≤ x && q a) = some b := by
  obtain ⟨as,bs,rfl⟩ := List.append_of_mem hb
  have hbefore : ∀ a ∈ as,b.max < a.min := fun a ha =>
    (List.pairwise_append.mp h.pairwise).2.2 a ha b List.mem_cons_self
  rw [List.find?_append,List.find?_eq_none.mpr,Option.none_or,List.find?_cons_of_pos]
  · simp [hx.1,hq]
  · intro a ha
    have := hbefore a ha
    have hnot : ¬a.min ≤ x := by
      have := hx.2
      intro hle
      linarith
    simp [hnot]

theorem Contiguous.unique (h : Contiguous bands) {a : Band} (ha : a ∈ bands) (hb : b ∈ bands) (hax : a.Contains x)
    (hbx : b.Contains x) : a = b := by
  have hfa := find?_of_contains h ha hax (fun _ => true) rfl
  have hfb := find?_of_contains h hb hbx (fun _ => true) rfl
  exact Option.some.inj (hfa.symm.trans hfb)

end

/-! ## What each function finds -/

section
variable {config : StoredScale} {percentage : ℚ} {b : Band}

theorem bandsBelow_values (above : Option ℚ) (values : List (ℚ × String)) :
    (bandsBelow above values).map (fun b => (b.min,b.label)) = values := by
  induction values generalizing above with
  | nil => rfl
  | cons value values ih => rw [bandsBelow,List.map_cons,ih]

theorem find?_bandsBelow (above : Option ℚ) (values : List (ℚ × String)) (x : ℚ) :
    (values.find? fun v => v.1 ≤ x).map Prod.snd =
      ((bandsBelow above values).find? fun b => b.min ≤ x).map Band.label := by
  conv_lhs => rw [← bandsBelow_values above values]
  rw [List.find?_map,Option.map_map]
  rfl

/-- The legend of ranges is the ranges, in the order in which the report card tries them. -/
theorem bands_ranges (rows : List ScaleRange) : (rows.map fun r => (⟨r.label,r.min,r.max⟩ : Band)).mergeSort
    (fun a b => decide (b.min ≤ a.min)) = (rows.mergeSort fun a b => decide (b.min ≤ a.min)).map fun r =>
      ⟨r.label,r.min,r.max⟩ :=
  (List.map_mergeSort (f := fun r : ScaleRange => (⟨r.label,r.min,r.max⟩ : Band)) fun _ _ _ _ => rfl).symm

/-- In the shapes with a type the report card prints the label of the highest lower bound that is reached. -/
theorem flexible_typed (h : Accepted config) (htype : config.type ≠ none) (h0 : 0 ≤ percentage)
    (h100 : percentage ≤ 100)
    (hfind : (bandsFromGradingScale config).find? (fun a => a.min ≤ percentage) = some b) :
    applyGradingScaleFlexible percentage config = b.label ∧ displayValue percentage config = .label b.label := by
  have hpct : max 0 (min 100 percentage) = percentage := by rw [min_eq_right h100,max_eq_right h0]
  cases h with
  | ranges rows hrows =>
    simp only [bandsFromGradingScale,Option.getD_some,if_pos hrows,bands_ranges,List.find?_map] at hfind
    obtain ⟨r,hr,rfl⟩ := Option.map_eq_some_iff.mp hfind
    have hr : (rows.mergeSort fun a b => decide (b.min ≤ a.min)).find? (fun r => r.min ≤ percentage) = some r := hr
    constructor
    · simp only [applyGradingScaleFlexible,Option.getD_some,if_pos hrows,hpct]
      rw [hr]
      rfl
    · have hsort : (rows.map fun r => (r.min,r.label)).mergeSort (fun a b => decide (b.1 ≤ a.1)) =
          (rows.mergeSort fun a b => decide (b.min ≤ a.min)).map fun r => (r.min,r.label) :=
        (List.map_mergeSort (f := fun r : ScaleRange => (r.min,r.label)) fun _ _ _ _ => rfl).symm
      simp only [displayValue,Option.elim_some,applyGradingScale,Option.map_some,List.map_map,Function.comp_def,
        highestReached,hsort,List.find?_map]
      rw [hr]
      rfl
  | values type hne rows hrows hvalues =>
    have hshape : hasRangeShape rows = false := by
      simp only [hasRangeShape,List.any_eq_false]
      intro g hg
      simp [hvalues g hg]
    simp only [bandsFromGradingScale,Option.getD_some,Option.getD_none,if_pos hrows,hshape] at hfind
    have hfound := find?_bandsBelow none (withValues rows) percentage
    simp only [ne_eq,not_true_eq_false,if_false,Bool.false_eq_true] at hfind
    rw [hfind] at hfound
    constructor
    · simp only [applyGradingScaleFlexible,Option.getD_some,Option.getD_none,if_pos hrows,hshape,hpct]
      simp only [ne_eq,not_true_eq_false,if_false,Bool.false_eq_true]
      rw [hfound]
      rfl
    · have hreached : highestReached percentage (rows.filterMap fun g => g.numericValue.map (·,g.label)) =
          some b.label := hfound
      have hthresholds : GradingScaleConfig.thresholds (rows.map fun g => ⟨g.label,g.numericValue⟩) =
          rows.filterMap fun g => g.numericValue.map (·,g.label) := by
        rw [GradingScaleConfig.thresholds,List.filterMap_map]
        rfl
      have hgrades : ∀ lowest : Option String,(((highestReached percentage (GradingScaleConfig.thresholds
          (rows.map fun g => ⟨g.label,g.numericValue⟩))).or lowest).map DisplayValue.label).getD
            (displayPercent percentage) = .label b.label := by
        intro lowest
        rw [hthresholds,hreached]
        rfl
      cases type with
      | numeric => exact absurd rfl hne
      | letter => exact hgrades _
      | custom => exact hgrades _
  | legacy rows hrows hbands => exact absurd rfl htype

/-- In the shape without a type the report card prints the label of the band, and the gradebook the percentage. -/
theorem flexible_legacy (h : Accepted config) (htype : config.type = none) (h0 : 0 ≤ percentage)
    (h100 : percentage ≤ 100)
    (hfind : (bandsFromGradingScale config).find? (fun a => a.min ≤ percentage && percentage ≤ a.max) = some b) :
    applyGradingScaleFlexible percentage config = b.label ∧
      displayValue percentage config = displayPercent percentage := by
  have hpct : max 0 (min 100 percentage) = percentage := by rw [min_eq_right h100,max_eq_right h0]
  cases h with
  | ranges rows hrows => cases htype
  | values type hne rows hrows hvalues => cases htype
  | legacy rows hrows hbands =>
    refine ⟨?_,rfl⟩
    have hshape : hasRangeShape rows = true := by
      obtain ⟨g,hg⟩ := List.exists_mem_of_ne_nil rows hrows
      exact List.any_eq_true.mpr ⟨g,hg,by simp [(hbands g hg).1,(hbands g hg).2]⟩
    have hfilter : (rows.filterMap fun g => g.min.bind fun low => g.max.map fun high => (⟨g.label,low,high⟩ : Band)) =
        rows.map fun g => ⟨g.label,g.min.getD 0,g.max.getD 0⟩ := by
      rw [← List.filterMap_eq_map]
      refine List.filterMap_congr fun g hg => ?_
      obtain ⟨low,hlow⟩ := Option.isSome_iff_exists.mp (hbands g hg).1
      obtain ⟨high,hhigh⟩ := Option.isSome_iff_exists.mp (hbands g hg).2
      simp [hlow,hhigh]
    have hsort : (rows.map fun g => (⟨g.label,g.min.getD 0,g.max.getD 0⟩ : Band)).mergeSort
        (fun a b => decide (b.min ≤ a.min)) =
          (rows.mergeSort fun a b => decide (b.min.getD 0 ≤ a.min.getD 0)).map fun g =>
            ⟨g.label,g.min.getD 0,g.max.getD 0⟩ :=
      (List.map_mergeSort (f := fun g : LegacyGrade => (⟨g.label,g.min.getD 0,g.max.getD 0⟩ : Band))
        fun _ _ _ _ => rfl).symm
    simp only [bandsFromGradingScale,Option.getD_none,Option.getD_some,if_pos hrows,hshape,hfilter,hsort] at hfind
    simp only [ne_eq,not_true_eq_false,if_false,if_true,List.find?_map] at hfind
    obtain ⟨g,hg,rfl⟩ := Option.map_eq_some_iff.mp hfind
    have hsame : (rows.mergeSort fun a b => decide (b.min.getD 0 ≤ a.min.getD 0)).find? (fun g =>
        g.min.all (fun low => low ≤ percentage) && g.max.all fun high => percentage ≤ high) = some g := by
      rw [← hg]
      refine List.find?_congr fun g hg => ?_
      have hmem := (List.mergeSort_perm rows _).mem_iff.mp hg
      obtain ⟨low,hlow⟩ := Option.isSome_iff_exists.mp (hbands g hmem).1
      obtain ⟨high,hhigh⟩ := Option.isSome_iff_exists.mp (hbands g hmem).2
      simp [hlow,hhigh]
    simp only [applyGradingScaleFlexible,Option.getD_none,Option.getD_some,if_pos hrows,hshape,hpct]
    simp only [ne_eq,not_true_eq_false,if_false,if_true]
    rw [hsame]
    rfl

/-- The three agree on a percentage just when it lies in a band of the legend and, in the shape without a type, the
label of that band reads as the gradebook's percentage. -/
theorem legend_agrees_iff (toText : ℚ → String) (h : Accepted config)
    (hbands : Contiguous (bandsFromGradingScale config)) (h0 : 0 ≤ percentage) (h100 : percentage ≤ 100) :
    Agree toText config percentage ↔ ∃ b ∈ bandsFromGradingScale config,b.Contains percentage ∧
      (config.type = none → b.label = displayText toText (displayPercent percentage)) := by
  have hfound : ∀ b ∈ bandsFromGradingScale config,b.Contains percentage →
      applyGradingScaleFlexible percentage config = b.label ∧
        displayValue percentage config = if config.type = none then displayPercent percentage else .label b.label := by
    intro b hb hx
    by_cases htype : config.type = none
    · rw [if_pos htype]
      have hlast : decide (percentage ≤ b.max) = true := decide_eq_true hx.2
      exact flexible_legacy h htype h0 h100 (find?_of_contains hbands hb hx (fun a => percentage ≤ a.max) hlast)
    · rw [if_neg htype]
      have hfind := find?_of_contains hbands hb hx (fun _ => true) rfl
      simp only [Bool.and_true] at hfind
      exact flexible_typed h htype h0 h100 hfind
  constructor
  · rintro ⟨hshown,⟨b,hb,hx,hlabel⟩,-⟩
    refine ⟨b,hb,hx,fun htype => ?_⟩
    rw [hlabel,← hshown,(hfound b hb hx).2,if_pos htype]
  · rintro ⟨b,hb,hx,htext⟩
    obtain ⟨hflexible,hdisplay⟩ := hfound b hb hx
    refine ⟨?_,⟨b,hb,hx,hflexible.symm⟩,fun a ha c hc hax hcx => hbands.unique ha hc hax hcx⟩
    rw [hdisplay,hflexible]
    by_cases htype : config.type = none
    · rw [if_pos htype,htext htype]
    · rw [if_neg htype]
      rfl

end

/-- Two letters: from 50 on, and below. -/
def passOrFail : StoredScale := ⟨some .numeric,some [⟨"P",50,100⟩,⟨"F",0,49⟩],none⟩

theorem accepted_passOrFail : Accepted passOrFail := .ranges _ (by simp)

theorem bands_passOrFail : bandsFromGradingScale passOrFail = [⟨"P",50,100⟩,⟨"F",0,49⟩] := by
  have hsorted : List.Pairwise (fun a b : Band => decide (b.min ≤ a.min) = true) [⟨"P",50,100⟩,⟨"F",0,49⟩] := by simp
  exact List.mergeSort_of_pairwise hsorted

theorem contiguous_passOrFail : Contiguous (bandsFromGradingScale passOrFail) := by
  rw [bands_passOrFail]
  exact ⟨by decide +kernel,by simp; norm_num⟩

theorem legend_agrees_iff_passOrFail : Agree (fun _ => "") passOrFail 50 := by
  refine (legend_agrees_iff _ accepted_passOrFail contiguous_passOrFail (by norm_num) (by norm_num)).mpr ?_
  rw [bands_passOrFail]
  exact ⟨_,List.mem_cons_self,⟨le_refl _,by norm_num⟩,by simp [passOrFail]⟩

/-- Half a point below the pass is in no band. -/
theorem not_legend_agrees : ¬∀ (toText : ℚ → String) (config : StoredScale) (percentage : ℚ),Accepted config →
    Contiguous (bandsFromGradingScale config) → 0 ≤ percentage → percentage ≤ 100 → Agree toText config percentage := by
  intro h
  obtain ⟨b,hb,hx,-⟩ := (h (fun _ => "") passOrFail (99 / 2) accepted_passOrFail contiguous_passOrFail (by norm_num)
    (by norm_num)).legend
  rw [bands_passOrFail] at hb
  simp only [List.mem_cons,List.not_mem_nil,or_false] at hb
  rcases hb with rfl | rfl
  · exact absurd hx.1 (by norm_num)
  · exact absurd hx.2 (by norm_num)

end EduPod.Gradebook.LegendBands
