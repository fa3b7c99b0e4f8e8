import EduPod.Foundation.SessionFacts
import EduPod.Gradebook.GradeCurves

/-! # What undoing a curve restores

An undo writes back the scores its curve stored. It is right if they were in force when the curve
was applied and nothing has been entered since; the requests check neither.
-/
namespace EduPod.Gradebook
open ReadCommitted Script Runs

/-! ## Histories of one score -/

def ScoreWrite.isCurved (auditId : ℕ) : ScoreWrite → Bool
  | curved id _ => id = auditId
  | _ => false

/-- The history up to a curve. -/
def upTo (auditId : ℕ) (writes : List ScoreWrite) : List ScoreWrite := writes.takeWhile fun w => !w.isCurved auditId

/-- The history from a curve on. -/
def since (auditId : ℕ) (writes : List ScoreWrite) : List ScoreWrite := writes.dropWhile fun w => !w.isCurved auditId

/-- Nothing entered since the curve. -/
def Untouched (auditId : ℕ) (writes : List ScoreWrite) : Prop := ∀ score, ScoreWrite.entered score ∉ since auditId writes

/-- What a curve's undoing may write after a history: the score from before the curve, if nothing was
entered since. -/
def Restores (auditId : ℕ) (score : ℚ) (writes : List ScoreWrite) : Prop :=
  (∃ w ∈ writes, w.isCurved auditId = true) ∧ scoreOf (upTo auditId writes) = some score ∧ Untouched auditId writes

/-- Every undoing in a history restored. -/
def WellUndone (writes : List ScoreWrite) : Prop :=
  ∀ before auditId score rest, writes = before ++ .reverted auditId score :: rest → Restores auditId score before

section
variable {h xs : List ScoreWrite} {w : ScoreWrite} {auditId : ℕ}

theorem wellUndone_nil : WellUndone [] := by
  intro before auditId score rest he
  simp at he

theorem wellUndone_snoc_iff :
    WellUndone (h ++ [w]) ↔ WellUndone h ∧ ∀ auditId score, w = .reverted auditId score → Restores auditId score h := by
  constructor
  · intro hw
    refine ⟨fun before auditId score rest he => hw before auditId score (rest ++ [w]) (by simp [he]),?_⟩
    rintro auditId score rfl
    exact hw h auditId score [] rfl
  · rintro ⟨hh,hw⟩ before auditId score rest he
    rcases List.eq_nil_or_concat' rest with rfl | ⟨rest,x,rfl⟩
    · obtain ⟨rfl,hx⟩ := List.append_inj' he rfl
      exact hw auditId score (List.singleton_inj.mp hx)
    · have he' : h ++ [w] = (before ++ .reverted auditId score :: rest) ++ [x] := by simp [he]
      obtain ⟨hh',-⟩ := List.append_inj' he' rfl
      exact hh before auditId score rest hh'

theorem wellUndone_append (hh : WellUndone h) (hxs : ∀ w ∈ xs, ∀ auditId score, w ≠ .reverted auditId score) :
    WellUndone (h ++ xs) := by
  induction xs using List.reverseRecOn with
  | nil => simpa using hh
  | append_singleton xs w ih =>
    rw [← List.append_assoc,wellUndone_snoc_iff]
    refine ⟨ih fun w' hw' => hxs w' (List.mem_append_left _ hw'),fun auditId score he => ?_⟩
    exact absurd he (hxs w (by simp) auditId score)

theorem upTo_append (hc : ∃ w ∈ h, w.isCurved auditId = true) : upTo auditId (h ++ xs) = upTo auditId h := by
  obtain ⟨w,hw,hc⟩ := hc
  induction h with
  | nil => cases hw
  | cons x h ih =>
    cases hx : x.isCurved auditId with
    | true => simp [upTo,hx]
    | false =>
      have hmem : w ∈ h := by
        rcases List.mem_cons.mp hw with rfl | hw
        · simp [hx] at hc
        · exact hw
      have := ih hmem
      simpa [upTo,hx] using this

theorem since_append (hc : ∃ w ∈ h, w.isCurved auditId = true) : since auditId (h ++ xs) = since auditId h ++ xs := by
  obtain ⟨w,hw,hc⟩ := hc
  induction h with
  | nil => cases hw
  | cons x h ih =>
    cases hx : x.isCurved auditId with
    | true => simp [since,hx]
    | false =>
      have hmem : w ∈ h := by
        rcases List.mem_cons.mp hw with rfl | hw
        · simp [hx] at hc
        · exact hw
      have := ih hmem
      simpa [since,hx] using this

theorem upTo_append_curved (hh : ∀ w ∈ h, w.isCurved auditId = false) (hx : xs ≠ [])
    (hxs : ∀ w ∈ xs, w.isCurved auditId = true) : upTo auditId (h ++ xs) = h := by
  unfold upTo
  rw [List.takeWhile_append_of_pos (by simpa using hh)]
  cases xs with
  | nil => exact absurd rfl hx
  | cons x xs => simp [hxs x List.mem_cons_self]

/-- Undoings of a curve on top of an untouched history. -/
theorem wellUndone_append_reverted {scores : List ℚ} (hh : WellUndone h) (hr : ∀ v ∈ scores, Restores auditId v h) :
    WellUndone (h ++ scores.map (.reverted auditId)) := by
  induction scores using List.reverseRecOn with
  | nil => simpa using hh
  | append_singleton scores v ih =>
    rw [List.map_append,← List.append_assoc,List.map_singleton,wellUndone_snoc_iff]
    refine ⟨ih fun v' hv' => hr v' (List.mem_append_left _ hv'),fun id score he => ?_⟩
    obtain ⟨rfl,rfl⟩ := ScoreWrite.reverted.inj he
    obtain ⟨hc,hs,hu⟩ := hr v (by simp)
    obtain ⟨w,hw,hwc⟩ := hc
    refine ⟨⟨w,List.mem_append_left _ hw,hwc⟩,?_,?_⟩
    · rw [upTo_append ⟨w,hw,hwc⟩]
      exact hs
    · intro score hm
      rw [since_append ⟨w,hw,hwc⟩] at hm
      rcases List.mem_append.mp hm with hm | hm
      · exact hu score hm
      · obtain ⟨_,_,he⟩ := List.mem_map.mp hm
        cases he

end

/-! ## The observed curves -/

structure CurveView where
  writes : GradeKey → Option (List ScoreWrite)
  audits : Table GradeCurveAudit

def curveView (d : GradeRecords) : CurveView where
  writes := fun key => (d.grades.get? key).map (·.writes)
  audits := d.curveAudits

/-- At most one curve in force, each with the scores that were in force when it was applied; every
undoing so far has restored, and none has left a grade out. -/
structure CurvesSound (o : CurveView) : Prop where
  single : ∀ i j a b, o.audits.get? i = some a → o.audits.get? j = some b → a.canUndo = true → b.canUndo = true →
    a.assessmentId = b.assessmentId → i = j
  stored : ∀ i a, o.audits.get? i = some a → ∀ s ∈ a.beforeScores, ∃ h, o.writes (a.assessmentId,s.1) = some h ∧
    (∃ w ∈ h, w.isCurved i = true) ∧ scoreOf (upTo i h) = some s.2
  undone : ∀ key h, o.writes key = some h → WellUndone h
  restored : ∀ i a, o.audits.get? i = some a → a.canUndo = false → ∀ s ∈ a.beforeScores,
    ∃ h, o.writes (a.assessmentId,s.1) = some h ∧ .reverted i s.2 ∈ h

inductive Change
  | enter (key : GradeKey) (score : Option ℚ)
  | curve (key : GradeKey) (score : ℚ)
  | openCurve (audit : GradeCurveAudit)
  | revert (key : GradeKey) (auditId : ℕ) (score : ℚ)
  | closeCurve (auditId : ℕ)

def CurveView.appendTo (o : CurveView) (key : GradeKey) (w : ScoreWrite) : CurveView :=
  { o with writes := Function.update o.writes key ((o.writes key).map (· ++ [w])) }

def CurveView.apply (o : CurveView) : Change → CurveView
  | .enter key score => { o with writes := Function.update o.writes key (some ((o.writes key).getD [] ++ [.entered score])) }
  | .curve key score => o.appendTo key (.curved o.audits.next score)
  | .openCurve audit => { o with audits := o.audits.insert audit }
  | .revert key auditId score => o.appendTo key (.reverted auditId score)
  | .closeCurve auditId => { o with audits := o.audits.modify auditId fun audit => { audit with canUndo := false } }

section
variable {o : CurveView} {key : GradeKey}

variable (key) in
theorem foldl_appendTo (ws : List (GradeKey × ScoreWrite)) :
    (ws.foldl (fun o w => o.appendTo w.1 w.2) o).audits = o.audits ∧
      (ws.foldl (fun o w => o.appendTo w.1 w.2) o).writes key =
        (o.writes key).map (· ++ (ws.filter fun w => w.1 = key).map Prod.snd) := by
  induction ws generalizing o with
  | nil => simp
  | cons w ws ih =>
    obtain ⟨haudits,hwrites⟩ := ih (o := o.appendTo w.1 w.2)
    rw [List.foldl_cons]
    refine ⟨haudits,hwrites.trans ?_⟩
    by_cases hk : w.1 = key
    · subst hk
      cases hw : o.writes w.1 <;> simp [CurveView.appendTo,hw]
    · have hne : key ≠ w.1 := fun h => hk h.symm
      simp [CurveView.appendTo,hk,hne]

theorem foldl_curve (assessmentId : ℕ) (scores : List (ℕ × ℚ)) :
    (scores.map fun s => Change.curve (assessmentId,s.1) s.2).foldl CurveView.apply o =
      (scores.map fun s => ((assessmentId,s.1),ScoreWrite.curved o.audits.next s.2)).foldl
        (fun o w => o.appendTo w.1 w.2) o := by
  induction scores generalizing o with
  | nil => rfl
  | cons s scores ih =>
    simp only [List.map_cons,List.foldl_cons]
    exact ih

theorem foldl_revert (assessmentId auditId : ℕ) (scores : List (ℕ × ℚ)) :
    (scores.map fun s => Change.revert (assessmentId,s.1) auditId s.2).foldl CurveView.apply o =
      (scores.map fun s => ((assessmentId,s.1),ScoreWrite.reverted auditId s.2)).foldl
        (fun o w => o.appendTo w.1 w.2) o := by
  rw [List.foldl_map,List.foldl_map]
  rfl

variable (key) in
/-- What entering grades adds to a history. -/
theorem foldl_enter (entries : List (GradeKey × Option ℚ)) :
    ((entries.map fun e => Change.enter e.1 e.2).foldl CurveView.apply o).audits = o.audits ∧
      ∃ added : List (Option ℚ), ((entries.map fun e => Change.enter e.1 e.2).foldl CurveView.apply o).writes key =
          (o.writes key).map (· ++ added.map .entered) ∨
        o.writes key = none ∧ ((entries.map fun e => Change.enter e.1 e.2).foldl CurveView.apply o).writes key =
          some (added.map .entered) := by
  induction entries generalizing o with
  | nil => exact ⟨rfl,[],.inl (by simp)⟩
  | cons e entries ih =>
    obtain ⟨haudits,added,hadded⟩ := ih (o := o.apply (.enter e.1 e.2))
    rw [List.map_cons,List.foldl_cons]
    refine ⟨haudits,?_⟩
    by_cases hk : key = e.1
    · subst hk
      refine ⟨e.2 :: added,?_⟩
      have hnow : (o.apply (.enter e.1 e.2)).writes e.1 = some ((o.writes e.1).getD [] ++ [.entered e.2]) := by
        simp [CurveView.apply]
      rw [hnow] at hadded
      rcases hadded with hadded | ⟨hnone,-⟩
      · cases hw : o.writes e.1 with
        | none => exact .inr ⟨rfl,by simpa [hw] using hadded⟩
        | some h => exact .inl (by simpa [hw] using hadded)
      · cases hnone
    · have hsame : (o.apply (.enter e.1 e.2)).writes key = o.writes key := by simp [CurveView.apply,hk]
      rw [hsame] at hadded
      exact ⟨added,hadded⟩

end

/-! ## One commit -/

/-- What every commit keeps: the grades a curve has listed stay, and its writes name it alone. -/
structure Recorded (o : CurveView) : Prop where
  present : ∀ i a, o.audits.get? i = some a → ∀ s ∈ a.beforeScores, (o.writes (a.assessmentId,s.1)).isSome = true
  tagged : ∀ key h, o.writes key = some h → ∀ w ∈ h, ∀ i, w.isCurved i = true → i < o.audits.next

section
variable {o : CurveView} {a auditId : ℕ} {after before : List (ℕ × ℚ)} {audit : GradeCurveAudit}

/-- Histories only grow, and the audits stay the same. -/
theorem CurvesSound.grow {o' : CurveView} (h : CurvesSound o) (haudits : o'.audits = o.audits)
    (hgrow : ∀ key g, o.writes key = some g → ∃ added, o'.writes key = some (g ++ added))
    (hundone : ∀ key g, o'.writes key = some g → WellUndone g) : CurvesSound o' := by
  constructor
  · rw [haudits]
    exact h.single
  · rw [haudits]
    intro i b hb s hs
    obtain ⟨g,hg,⟨w,hw,hc⟩,hscore⟩ := h.stored i b hb s hs
    obtain ⟨added,hadded⟩ := hgrow _ g hg
    exact ⟨_,hadded,⟨w,List.mem_append_left _ hw,hc⟩,by rw [upTo_append ⟨w,hw,hc⟩,hscore]⟩
  · exact hundone
  · rw [haudits]
    intro i b hb hclosed s hs
    obtain ⟨g,hg,hm⟩ := h.restored i b hb hclosed s hs
    obtain ⟨added,hadded⟩ := hgrow _ g hg
    exact ⟨_,hadded,List.mem_append_left _ hm⟩

theorem enter_sound (h : CurvesSound o) (entries : List (GradeKey × Option ℚ)) :
    CurvesSound ((entries.map fun e => Change.enter e.1 e.2).foldl CurveView.apply o) := by
  refine h.grow (foldl_enter (0,0) entries).1 ?_ ?_
  · intro key g hg
    obtain ⟨-,added,hadded | ⟨hnone,-⟩⟩ := foldl_enter (o := o) key entries
    · exact ⟨_,by rw [hadded,hg]; rfl⟩
    · rw [hg] at hnone
      cases hnone
  · intro key g hg
    obtain ⟨-,added,hadded | ⟨-,hadded⟩⟩ := foldl_enter (o := o) key entries
    · rw [hadded] at hg
      obtain ⟨g₀,hg₀,rfl⟩ := Option.map_eq_some_iff.mp hg
      refine wellUndone_append (h.undone key g₀ hg₀) fun w hw _ _ he => ?_
      obtain ⟨_,_,rfl⟩ := List.mem_map.mp hw
      cases he
    · rw [hadded] at hg
      obtain rfl := Option.some.inj hg
      rw [← List.nil_append (added.map ScoreWrite.entered)]
      refine wellUndone_append wellUndone_nil fun w hw _ _ he => ?_
      obtain ⟨_,_,rfl⟩ := List.mem_map.mp hw
      cases he

theorem enter_recorded (h : Recorded o) (entries : List (GradeKey × Option ℚ)) :
    Recorded ((entries.map fun e => Change.enter e.1 e.2).foldl CurveView.apply o) := by
  have haudits := (foldl_enter (o := o) (0,0) entries).1
  have hold : ∀ key g, ((entries.map fun e => Change.enter e.1 e.2).foldl CurveView.apply o).writes key = some g →
      ∀ w ∈ g, (∃ g₀, o.writes key = some g₀ ∧ w ∈ g₀) ∨ ∃ score, w = .entered score := by
    intro key g hg w hw
    obtain ⟨-,added,hadded | ⟨-,hadded⟩⟩ := foldl_enter (o := o) key entries
    · rw [hadded] at hg
      obtain ⟨g₀,hg₀,rfl⟩ := Option.map_eq_some_iff.mp hg
      rcases List.mem_append.mp hw with hw | hw
      · exact .inl ⟨g₀,hg₀,hw⟩
      · obtain ⟨score,-,rfl⟩ := List.mem_map.mp hw
        exact .inr ⟨score,rfl⟩
    · rw [hadded] at hg
      obtain rfl := Option.some.inj hg
      obtain ⟨score,-,rfl⟩ := List.mem_map.mp hw
      exact .inr ⟨score,rfl⟩
  constructor
  · rw [haudits]
    intro i b hb s hs
    obtain ⟨g,hg⟩ := Option.isSome_iff_exists.mp (h.present i b hb s hs)
    obtain ⟨-,added,hadded | ⟨hnone,-⟩⟩ := foldl_enter (o := o) (b.assessmentId,s.1) entries
    · rw [hadded,hg]
      rfl
    · rw [hg] at hnone
      cases hnone
  · rw [haudits]
    intro key g hg w hw i hi
    rcases hold key g hg w hw with ⟨g₀,hg₀,hw⟩ | ⟨score,rfl⟩
    · exact h.tagged key g₀ hg₀ w hw i hi
    · cases hi

/-- What a curve adds to the history of one grade. -/
def curvedWrites (next a : ℕ) (after : List (ℕ × ℚ)) (key : GradeKey) : List ScoreWrite :=
  ((after.map fun s => ((a,s.1),ScoreWrite.curved next s.2)).filter fun w => w.1 = key).map Prod.snd

def revertedScores (a : ℕ) (before : List (ℕ × ℚ)) (key : GradeKey) : List ℚ :=
  (before.filter fun s => (a,s.1) = key).map Prod.snd

def curveLog (a : ℕ) (after : List (ℕ × ℚ)) (audit : GradeCurveAudit) : List Change :=
  (after.map fun s => Change.curve (a,s.1) s.2) ++ [.openCurve audit]

def undoLog (a auditId : ℕ) (before : List (ℕ × ℚ)) : List Change :=
  (before.map fun s => Change.revert (a,s.1) auditId s.2) ++ [.closeCurve auditId]

variable (after audit) in
theorem foldl_curveLog : ((curveLog a after audit).foldl CurveView.apply o).audits = o.audits.insert audit ∧
    ∀ key, ((curveLog a after audit).foldl CurveView.apply o).writes key =
      (o.writes key).map (· ++ curvedWrites o.audits.next a after key) := by
  unfold curveLog
  rw [List.foldl_append,foldl_curve]
  refine ⟨congrArg (Table.insert · audit) (foldl_appendTo (0,0) _).1,fun key => ?_⟩
  exact (foldl_appendTo key _).2

variable (auditId before) in
theorem foldl_undoLog :
    ((undoLog a auditId before).foldl CurveView.apply o).audits =
        o.audits.modify auditId (fun audit => { audit with canUndo := false }) ∧
      ∀ key, ((undoLog a auditId before).foldl CurveView.apply o).writes key =
        (o.writes key).map (· ++ (revertedScores a before key).map (.reverted auditId)) := by
  unfold undoLog
  rw [List.foldl_append,foldl_revert]
  refine ⟨?_,fun key => ?_⟩
  · simp only [List.foldl_cons,List.foldl_nil,CurveView.apply]
    rw [(foldl_appendTo (0,0) _).1]
  refine (foldl_appendTo key _).2.trans ?_
  have hsame : ((before.map fun s => ((a,s.1),ScoreWrite.reverted auditId s.2)).filter fun w => w.1 = key).map Prod.snd =
      (revertedScores a before key).map (.reverted auditId) := by
    unfold revertedScores
    rw [List.filter_map,List.map_map,List.map_map]
    rfl
  rw [hsame]

theorem mem_curvedWrites {next : ℕ} {key : GradeKey} {w : ScoreWrite} (hw : w ∈ curvedWrites next a after key) :
    ∃ score, w = .curved next score := by
  obtain ⟨p,hp,rfl⟩ := List.mem_map.mp hw
  obtain ⟨s,-,rfl⟩ := List.mem_map.mp (List.mem_filter.mp hp).1
  exact ⟨s.2,rfl⟩

theorem curvedWrites_ne_nil (next : ℕ) {s : ℕ × ℚ} (hs : s.1 ∈ after.map Prod.fst) :
    curvedWrites next a after (a,s.1) ≠ [] := by
  obtain ⟨s',hs',he⟩ := List.mem_map.mp hs
  refine List.ne_nil_of_mem (List.mem_map.mpr ⟨((a,s'.1),.curved next s'.2),List.mem_filter.mpr ⟨?_,?_⟩,rfl⟩)
  · exact List.mem_map.mpr ⟨s',hs',rfl⟩
  · simp [he]

/-- Nothing of the assessment is in force, and the scores listed are the current ones. -/
def Current (o : CurveView) (audit : GradeCurveAudit) : Prop :=
  (∀ i b, o.audits.get? i = some b → b.assessmentId = audit.assessmentId → b.canUndo = false) ∧
    ∀ s ∈ audit.beforeScores, ∃ h, o.writes (audit.assessmentId,s.1) = some h ∧ scoreOf h = some s.2

theorem curve_sound_iff (hr : Recorded o) (h : CurvesSound o) (ha : audit.assessmentId = a) (hundo : audit.canUndo = true)
    (hafter : ∀ s ∈ audit.beforeScores, s.1 ∈ after.map Prod.fst) :
    CurvesSound ((curveLog a after audit).foldl CurveView.apply o) ↔ Current o audit := by
  obtain ⟨haudits,hwrites⟩ := foldl_curveLog (o := o) (a := a) after audit
  subst ha
  have hnew : ∀ key g, o.writes key = some g → curvedWrites o.audits.next audit.assessmentId after key ≠ [] →
      upTo o.audits.next (g ++ curvedWrites o.audits.next audit.assessmentId after key) = g := by
    intro key g hg hne
    refine upTo_append_curved (fun w hw => ?_) hne fun w hw => ?_
    · by_contra hc
      exact absurd (hr.tagged key g hg w hw _ (by simpa using hc)) (lt_irrefl _)
    · obtain ⟨score,rfl⟩ := mem_curvedWrites hw
      simp [ScoreWrite.isCurved]
  constructor
  · intro h'
    refine ⟨fun i b hb hsame => ?_,fun s hs => ?_⟩
    · by_contra hopen
      have hlt := Table.lt_next_of_get? hb
      have hi := h'.single i o.audits.next b audit
        (by rw [haudits,Table.get?_insert,if_neg hlt.ne,hb]) (by rw [haudits,Table.get?_insert,if_pos rfl])
        (by simpa using hopen) hundo hsame
      exact hlt.ne hi
    · obtain ⟨g,hg,-,hscore⟩ := h'.stored o.audits.next audit (by rw [haudits,Table.get?_insert,if_pos rfl]) s hs
      rw [hwrites] at hg
      obtain ⟨g₀,hg₀,rfl⟩ := Option.map_eq_some_iff.mp hg
      rw [hnew _ g₀ hg₀ (curvedWrites_ne_nil _ (hafter s hs))] at hscore
      exact ⟨g₀,hg₀,hscore⟩
  · rintro ⟨hclosed,hcurrent⟩
    have hget : ∀ i b, ((curveLog audit.assessmentId after audit).foldl CurveView.apply o).audits.get? i = some b →
        (i = o.audits.next ∧ b = audit) ∨ o.audits.get? i = some b := by
      intro i b hb
      rw [haudits,Table.get?_insert] at hb
      split at hb
      · exact .inl ⟨‹_›,(Option.some.inj hb).symm⟩
      · exact .inr hb
    have hgrow : ∀ key g, o.writes key = some g →
        ((curveLog audit.assessmentId after audit).foldl CurveView.apply o).writes key =
          some (g ++ curvedWrites o.audits.next audit.assessmentId after key) := by
      intro key g hg
      rw [hwrites,hg]
      rfl
    constructor
    · intro i j b c hb hc hbu hcu hsame
      rcases hget i b hb with ⟨rfl,rfl⟩ | hb₀ <;> rcases hget j c hc with ⟨rfl,rfl⟩ | hc₀
      · rfl
      · rw [hclosed j c hc₀ hsame.symm] at hcu
        cases hcu
      · rw [hclosed i b hb₀ hsame] at hbu
        cases hbu
      · exact h.single i j b c hb₀ hc₀ hbu hcu hsame
    · intro i b hb s hs
      rcases hget i b hb with ⟨rfl,rfl⟩ | hb
      · obtain ⟨g,hg,hscore⟩ := hcurrent s hs
        have hne := curvedWrites_ne_nil (a := b.assessmentId) o.audits.next (hafter s hs)
        refine ⟨_,hgrow _ g hg,?_,by rw [hnew _ g hg hne,hscore]⟩
        obtain ⟨w,hw⟩ := List.exists_mem_of_ne_nil _ hne
        obtain ⟨score,rfl⟩ := mem_curvedWrites hw
        exact ⟨_,List.mem_append_right _ hw,by simp [ScoreWrite.isCurved]⟩
      · obtain ⟨g,hg,⟨w,hw,hc⟩,hscore⟩ := h.stored i b hb s hs
        exact ⟨_,hgrow _ g hg,⟨w,List.mem_append_left _ hw,hc⟩,by rw [upTo_append ⟨w,hw,hc⟩,hscore]⟩
    · intro key g hg
      rw [hwrites] at hg
      obtain ⟨g₀,hg₀,rfl⟩ := Option.map_eq_some_iff.mp hg
      refine wellUndone_append (h.undone key g₀ hg₀) fun w hw _ _ he => ?_
      obtain ⟨score,rfl⟩ := mem_curvedWrites hw
      cases he
    · intro i b hb hbu s hs
      rcases hget i b hb with ⟨rfl,rfl⟩ | hb
      · rw [hundo] at hbu
        cases hbu
      · obtain ⟨g,hg,hm⟩ := h.restored i b hb hbu s hs
        exact ⟨_,hgrow _ g hg,List.mem_append_left _ hm⟩

/-- No grade the curve lists has been entered since. -/
def AllUntouched (o : CurveView) (auditId : ℕ) (audit : GradeCurveAudit) : Prop :=
  ∀ s ∈ audit.beforeScores, ∀ h, o.writes (audit.assessmentId,s.1) = some h → Untouched auditId h

theorem undo_sound_iff (h : CurvesSound o) (haudit : o.audits.get? auditId = some audit)
    (ha : audit.assessmentId = a) (hb : audit.beforeScores = before) :
    CurvesSound ((undoLog a auditId before).foldl CurveView.apply o) ↔ AllUntouched o auditId audit := by
  obtain ⟨haudits,hwrites⟩ := foldl_undoLog (o := o) (a := a) auditId before
  subst ha hb
  have hmem : ∀ s ∈ audit.beforeScores, s.2 ∈ revertedScores audit.assessmentId audit.beforeScores (audit.assessmentId,s.1) :=
    fun s hs => List.mem_map.mpr ⟨s,List.mem_filter.mpr ⟨hs,by simp⟩,rfl⟩
  have hget : ∀ i b, ((undoLog audit.assessmentId auditId audit.beforeScores).foldl CurveView.apply o).audits.get? i = some b →
      ∃ b₀, o.audits.get? i = some b₀ ∧ b.assessmentId = b₀.assessmentId ∧ b.beforeScores = b₀.beforeScores ∧
        (b.canUndo = true → b₀.canUndo = true) ∧ (b.canUndo = false → b₀.canUndo = false ∨ i = auditId) := by
    intro i b hb
    rw [haudits,Table.get?_modify] at hb
    split at hb
    · obtain ⟨b₀,hb₀,rfl⟩ := Option.map_eq_some_iff.mp hb
      refine ⟨b₀,hb₀,rfl,rfl,fun hc => ?_,fun _ => .inr ‹_›⟩
      cases hc
    · exact ⟨b,hb,rfl,rfl,id,.inl⟩
  have hgrow : ∀ key g, o.writes key = some g →
      ((undoLog audit.assessmentId auditId audit.beforeScores).foldl CurveView.apply o).writes key =
        some (g ++ (revertedScores audit.assessmentId audit.beforeScores key).map (.reverted auditId)) := by
    intro key g hg
    rw [hwrites,hg]
    rfl
  constructor
  · intro h' s hs g hg
    obtain ⟨v,vs,hv⟩ := List.exists_cons_of_ne_nil (List.ne_nil_of_mem (hmem s hs))
    have hnow := h'.undone _ _ (hgrow _ g hg)
    rw [hv] at hnow
    exact (hnow g auditId v _ rfl).2.2
  · intro hu
    constructor
    · intro i j b c hb hc hbu hcu hsame
      obtain ⟨b₀,hb₀,hba,-,hbu₀,-⟩ := hget i b hb
      obtain ⟨c₀,hc₀,hca,-,hcu₀,-⟩ := hget j c hc
      exact h.single i j b₀ c₀ hb₀ hc₀ (hbu₀ hbu) (hcu₀ hcu) (hba ▸ hca ▸ hsame)
    · intro i b hb s hs
      obtain ⟨b₀,hb₀,hba,hbb,-,-⟩ := hget i b hb
      rw [hba]
      rw [hbb] at hs
      obtain ⟨g,hg,⟨w,hw,hc⟩,hscore⟩ := h.stored i b₀ hb₀ s hs
      exact ⟨_,hgrow _ g hg,⟨w,List.mem_append_left _ hw,hc⟩,by rw [upTo_append ⟨w,hw,hc⟩,hscore]⟩
    · intro key g hg
      rw [hwrites] at hg
      obtain ⟨g₀,hg₀,rfl⟩ := Option.map_eq_some_iff.mp hg
      refine wellUndone_append_reverted (h.undone key g₀ hg₀) fun v hv => ?_
      obtain ⟨s,hmem',rfl⟩ := List.mem_map.mp hv
      obtain ⟨hs,hk⟩ := List.mem_filter.mp hmem'
      have hkey : (audit.assessmentId,s.1) = key := by simpa using hk
      rw [← hkey] at hg₀
      obtain ⟨g,hg,hc,hscore⟩ := h.stored auditId audit haudit s hs
      rw [hg₀] at hg
      obtain rfl := Option.some.inj hg
      exact ⟨hc,hscore,hu s hs _ hg₀⟩
    · intro i b hb hbu s hs
      obtain ⟨b₀,hb₀,hba,hbb,-,hclosed⟩ := hget i b hb
      rw [hba]
      rw [hbb] at hs
      rcases hclosed hbu with hclosed | rfl
      · obtain ⟨g,hg,hm⟩ := h.restored i b₀ hb₀ hclosed s hs
        exact ⟨_,hgrow _ g hg,List.mem_append_left _ hm⟩
      · rw [haudit] at hb₀
        obtain rfl := Option.some.inj hb₀
        obtain ⟨g,hg,-,-⟩ := h.stored i audit haudit s hs
        exact ⟨_,hgrow _ g hg,List.mem_append_right _ (List.mem_map_of_mem (hmem s hs))⟩

theorem curve_recorded (hr : Recorded o) (ha : audit.assessmentId = a)
    (hrows : ∀ s ∈ audit.beforeScores, (o.writes (a,s.1)).isSome = true) :
    Recorded ((curveLog a after audit).foldl CurveView.apply o) := by
  obtain ⟨haudits,hwrites⟩ := foldl_curveLog (o := o) (a := a) after audit
  subst ha
  constructor
  · intro i b hb s hs
    rw [hwrites,Option.isSome_map]
    rw [haudits,Table.get?_insert] at hb
    split at hb
    · obtain rfl := Option.some.inj hb
      exact hrows s hs
    · exact hr.present i b hb s hs
  · intro key g hg w hw i hi
    rw [hwrites] at hg
    obtain ⟨g₀,hg₀,rfl⟩ := Option.map_eq_some_iff.mp hg
    rw [haudits,Table.next_insert]
    rcases List.mem_append.mp hw with hw | hw
    · exact Nat.lt_succ_of_lt (hr.tagged key g₀ hg₀ w hw i hi)
    · obtain ⟨score,rfl⟩ := mem_curvedWrites hw
      obtain rfl : o.audits.next = i := by simpa [ScoreWrite.isCurved] using hi
      exact Nat.lt_succ_self _

theorem undo_recorded (hr : Recorded o) : Recorded ((undoLog a auditId before).foldl CurveView.apply o) := by
  obtain ⟨haudits,hwrites⟩ := foldl_undoLog (o := o) (a := a) auditId before
  constructor
  · intro i b hb s hs
    rw [hwrites,Option.isSome_map]
    rw [haudits,Table.get?_modify] at hb
    split at hb
    · obtain ⟨b₀,hb₀,rfl⟩ := Option.map_eq_some_iff.mp hb
      exact hr.present i b₀ hb₀ s hs
    · exact hr.present i b hb s hs
  · intro key g hg w hw i hi
    rw [hwrites] at hg
    obtain ⟨g₀,hg₀,rfl⟩ := Option.map_eq_some_iff.mp hg
    rw [haudits,Table.next_modify]
    rcases List.mem_append.mp hw with hw | hw
    · exact hr.tagged key g₀ hg₀ w hw i hi
    · obtain ⟨_,_,rfl⟩ := List.mem_map.mp hw
      cases hi

end

/-! ## What the requests write -/

/-- Grades known to be there, and the audit an undo has read. -/
structure Known where
  rows : List GradeKey
  audit : Option (ℕ × ℕ × List (ℕ × ℚ))

structure Known.Holds (k : Known) (o : CurveView) : Prop where
  rows : ∀ key ∈ k.rows, (o.writes key).isSome = true
  audit : ∀ i a before, k.audit = some (i,a,before) →
    ∃ audit, o.audits.get? i = some audit ∧ audit.assessmentId = a ∧ audit.beforeScores = before

def Ends : GradeRequest → Known → List Change → Prop
  | .applyCurve a _ _, k, log => ∃ after audit, log = curveLog a after audit ∧ audit.assessmentId = a ∧
      audit.canUndo = true ∧ ∀ s ∈ audit.beforeScores, s.1 ∈ after.map Prod.fst ∧ (a,s.1) ∈ k.rows
  | .undoCurve a auditId, k, log => ∃ before, k.audit = some (auditId,a,before) ∧ log = undoLog a auditId before
  | .bulkUpsert _ _ _ _ _, _, log => ∃ entries : List (GradeKey × Option ℚ), log = entries.map fun e => .enter e.1 e.2

theorem isSome_writes_apply (o : CurveView) (c : Change) {key : GradeKey} (h : (o.writes key).isSome = true) :
    ((o.apply c).writes key).isSome = true := by
  have hupdate : ∀ key' v, (v.isSome = true ∨ key ≠ key') → (Function.update o.writes key' v key).isSome = true := by
    intro key' v hv
    by_cases hk : key = key'
    · subst hk
      rw [Function.update_self]
      exact hv.resolve_right (not_not_intro rfl)
    · rw [Function.update_of_ne hk]
      exact h
  have hmap : ∀ key' (w : ScoreWrite), ((o.writes key').map (· ++ [w])).isSome = true ∨ key ≠ key' := by
    intro key' w
    by_cases hk : key = key'
    · subst hk
      exact .inl (by rw [Option.isSome_map,h])
    · exact .inr hk
  cases c with
  | enter key' score => exact hupdate key' _ (.inl rfl)
  | curve key' score => exact hupdate key' _ (hmap key' _)
  | openCurve audit => exact h
  | revert key' auditId score => exact hupdate key' _ (hmap key' _)
  | closeCurve auditId => exact h

theorem holds_apply (k : Known) (o : CurveView) (c : Change) (h : k.Holds o) : k.Holds (o.apply c) := by
  refine ⟨fun key hk => isSome_writes_apply o c (h.rows key hk),fun i a before hi => ?_⟩
  obtain ⟨audit,haudit,ha,hb⟩ := h.audit i a before hi
  cases c with
  | openCurve audit' =>
    refine ⟨audit,?_,ha,hb⟩
    change (o.audits.insert audit').get? i = some audit
    rw [Table.get?_insert,if_neg (Table.lt_next_of_get? haudit).ne,haudit]
  | closeCurve auditId =>
    change ∃ audit', (o.audits.modify auditId _).get? i = some audit' ∧ _
    rw [Table.get?_modify]
    split
    · exact ⟨{ audit with canUndo := false },by rw [haudit]; rfl,ha,hb⟩
    · exact ⟨audit,haudit,ha,hb⟩
  | enter key score => exact ⟨audit,haudit,ha,hb⟩
  | curve key score => exact ⟨audit,haudit,ha,hb⟩
  | revert key auditId score => exact ⟨audit,haudit,ha,hb⟩

abbrev InformsTx (ends : Known → List Change → Prop) (k : Known) (log : List Change) (script : Tx Unit) : Prop :=
  script.Informs curveView CurveView.apply Known.Holds Recorded ends k log

section
variable {ends : Known → List Change → Prop} {k : Known} {log : List Change} {f : Unit → Tx Unit}

theorem curveView_writeScore (key : GradeKey) (write : GradeRecords → ScoreWrite) (d : GradeRecords) :
    curveView (d.writeScore key write) = (curveView d).appendTo key (write d) := by
  unfold curveView GradeRecords.writeScore CurveView.appendTo
  congr 1
  funext j
  dsimp only
  rw [UniqueIndex.get?_modify,Function.update_apply]
  split
  · rename_i hj
    subst hj
    cases d.grades.get? j <;> rfl
  · rfl

theorem informs_applyScores {a : ℕ} {scores : List (ℕ × ℚ)}
    (h : InformsTx ends k (log ++ scores.map fun s => .curve (a,s.1) s.2) (f ())) :
    InformsTx ends k log (applyScores a scores >>= f) := by
  induction scores generalizing log with
  | nil =>
    rw [List.map_nil,List.append_nil] at h
    exact h
  | cons s rest ih =>
    rw [applyScores,Script.bind_assoc]
    refine informs_updateRow (.curve (a,s.1) s.2) (fun d => curveView_writeScore _ _ d) (ih ?_)
    simpa using h

theorem informs_revertScores {a auditId : ℕ} {scores : List (ℕ × ℚ)} (hrows : ∀ s ∈ scores, (a,s.1) ∈ k.rows)
    (h : InformsTx ends k (log ++ scores.map fun s => .revert (a,s.1) auditId s.2) (f ())) :
    InformsTx ends k log (revertScores a auditId scores >>= f) := by
  induction scores generalizing log with
  | nil =>
    rw [List.map_nil,List.append_nil] at h
    exact h
  | cons s rest ih =>
    obtain ⟨hs,hrest⟩ := List.forall_mem_cons.mp hrows
    rw [revertScores,Script.bind_assoc]
    refine informs_updateWhere (.revert (a,s.1) auditId s.2) (fun view hk => ?_) (fun d => curveView_writeScore _ _ d)
      (ih hrest ?_)
    · have hrow := hk.rows _ hs
      simpa [curveView] using hrow
    · simpa using h

theorem informs_applyCurve (curve : ApplyCurveDto → ℚ → List ℚ → ℚ → ℚ) (a userId : ℕ) (dto : ApplyCurveDto) (k : Known) :
    InformsTx (Ends (.applyCurve a userId dto)) k [] (applyCurve curve a userId dto) := by
  refine informs_read fun view => informs_require fun assessment _ => informs_ensure fun _ => informs_ensure fun _ => ?_
  refine informs_read_fact fun view _ => ⟨⟨(view.scored a).map fun s => (a,s.1),none⟩,⟨?_,fun _ _ _ h => by cases h⟩,?_⟩
  · intro key hkey
    obtain ⟨s,hs,rfl⟩ := List.mem_map.mp hkey
    obtain ⟨⟨⟨a',studentId⟩,g⟩,hg,hscore⟩ := List.mem_filterMap.mp hs
    by_cases ha : a' = a
    · subst ha
      rw [if_pos rfl] at hscore
      obtain ⟨score,-,rfl⟩ := Option.map_eq_some_iff.mp hscore
      simp [curveView,UniqueIndex.get?_eq_some_iff.mpr hg]
    · simp [ha] at hscore
  · refine informs_ensure fun _ => informs_applyScores (informs_updateRow_quiet (fun _ => rfl) ?_)
    rw [← Script.bind_done (Script.insert _)]
    refine informs_insert (.openCurve _) (fun _ => rfl) ⟨_,_,rfl,rfl,rfl,fun s hs => ⟨?_,?_⟩⟩
    · simpa [transformScores] using ⟨s.2,hs⟩
    · exact List.mem_map.mpr ⟨s,hs,rfl⟩

theorem informs_undoCurve (a auditId : ℕ) (k : Known) :
    InformsTx (Ends (.undoCurve a auditId)) k [] (undoCurve a auditId) := by
  refine informs_read_fact fun view hbase => ?_
  cases hfound : (view.curveAudits.get? auditId).filter fun audit => audit.assessmentId = a with
  | none => exact ⟨⟨[],none⟩,⟨fun _ h => (List.not_mem_nil h).elim,fun _ _ _ h => by cases h⟩,trivial⟩
  | some audit =>
    obtain ⟨haudit,ha⟩ := Option.filter_eq_some_iff.mp hfound
    have ha : audit.assessmentId = a := by simpa using ha
    refine ⟨⟨audit.beforeScores.map fun s => (a,s.1),some (auditId,a,audit.beforeScores)⟩,⟨?_,?_⟩,?_⟩
    · intro key hkey
      obtain ⟨s,hs,rfl⟩ := List.mem_map.mp hkey
      rw [← ha]
      exact hbase.present auditId audit haudit s hs
    · intro i a' before he
      obtain ⟨rfl,rfl,rfl⟩ : auditId = i ∧ a = a' ∧ audit.beforeScores = before := by simpa using he
      exact ⟨audit,haudit,ha,rfl⟩
    · refine informs_require fun b hb => ?_
      obtain rfl := Option.some.inj hb
      refine informs_ensure fun _ => informs_revertScores (fun s hs => List.mem_map.mpr ⟨s,hs,rfl⟩) ?_
      refine informs_updateRow_quiet (fun _ => rfl) ?_
      rw [← Script.bind_done (updateRow _ _ _ _)]
      exact informs_updateRow (.closeCurve auditId) (fun _ => rfl) ⟨audit.beforeScores,rfl,rfl⟩

theorem informs_upsertGrades {a userId : ℕ} {now : ℤ} {existing : ℕ → Option Grade} {entries : List GradeEntry}
    (h : InformsTx ends k (log ++ entries.map fun e => .enter (a,e.studentId) e.rawScore) (f ())) :
    InformsTx ends k log (upsertGrades a userId now existing entries >>= f) := by
  induction entries generalizing log with
  | nil =>
    rw [List.map_nil,List.append_nil] at h
    exact h
  | cons e rest ih =>
    rw [upsertGrades,Script.bind_assoc]
    refine fun _ _ _ => .inr ⟨.enter (a,e.studentId) e.rawScore,fun d => ?_,ih (by simpa using h)⟩
    unfold curveView CurveView.apply
    congr 1
    funext j
    dsimp only
    rw [UniqueIndex.get?_insert,UniqueIndex.get?_modify,UniqueIndex.get?_modify,Function.update_apply]
    by_cases hj : j = (a,e.studentId)
    · subst hj
      cases d.grades.get? (a,e.studentId) <;> simp
    · simp [hj]

theorem informs_auditEdits {a userId : ℕ} {existing : ℕ → Option Grade} (entries : List GradeEntry)
    (h : ends k log) : InformsTx ends k log (auditEdits a userId existing entries) := by
  induction entries with
  | nil => exact h
  | cons e rest ih =>
    rw [auditEdits]
    cases existing e.studentId with
    | none => exact ih
    | some old =>
      dsimp only
      split
      · exact ih
      · exact informs_insert_quiet (fun _ => rfl) ih

theorem informs_bulkUpsert (a userId : ℕ) (today now : ℤ) (entries : List GradeEntry) (k : Known) :
    InformsTx (Ends (.bulkUpsert a userId today now entries)) k [] (bulkUpsert a userId today now entries) := by
  refine informs_read fun view => informs_require fun assessment _ => informs_ensure fun _ => informs_ensure fun _ =>
    informs_ensure fun _ => informs_read fun view => informs_ensure fun _ => informs_read fun view =>
    informs_ensure fun _ => ?_
  cases scoreError assessment.maxScore entries with
  | some e => trivial
  | none =>
    refine informs_read fun view => informs_upsertGrades ?_
    have hends : Ends (.bulkUpsert a userId today now entries) k
        ([] ++ entries.map fun e => .enter (a,e.studentId) e.rawScore) :=
      ⟨entries.map fun e => ((a,e.studentId),e.rawScore),by simp⟩
    split
    · exact informs_auditEdits entries hends
    · exact hends

end

theorem informs_serve (curve : ApplyCurveDto → ℚ → List ℚ → ℚ → ℚ) (k : Known) (request : GradeRequest) :
    InformsTx (Ends request) k [] (serve curve request) := by
  cases request with
  | applyCurve a userId dto => exact informs_applyCurve curve a userId dto k
  | undoCurve a auditId => exact informs_undoCurve a auditId k
  | bulkUpsert a userId today now entries => exact informs_bulkUpsert a userId today now entries k

/-! ## Runs -/

abbrev GradeSession := Session GradeRecords Row GradeError GradeRequest

/-- A curve that commits finds none in force and has read the scores there are, and an undoing that
commits finds nothing entered since its curve in the grades the curve lists. -/
def CommitsCurrent (d : GradeRecords) (s : GradeSession) : Prop :=
  (∀ audit, (s.pending d).curveAudits.get? d.curveAudits.next = some audit → Current (curveView d) audit) ∧
    ∀ a auditId audit, s.request = .undoCurve a auditId → d.curveAudits.get? auditId = some audit →
      AllUntouched (curveView d) auditId audit

abbrev InformedTx : GradeRecords → GradeSession → Prop :=
  Informed curveView CurveView.apply Known.Holds Recorded Ends

theorem recorded_foldl (request : GradeRequest) (k : Known) (log : List Change) (o : CurveView) (hr : Recorded o)
    (hk : k.Holds o) (he : Ends request k log) : Recorded (log.foldl CurveView.apply o) := by
  cases request with
  | applyCurve a userId dto =>
    obtain ⟨after,audit,rfl,ha,-,hrows⟩ := he
    exact curve_recorded hr ha fun s hs => hk.rows _ (hrows s hs).2
  | undoCurve a auditId =>
    obtain ⟨before,-,rfl⟩ := he
    exact undo_recorded hr
  | bulkUpsert a userId today now entries =>
    obtain ⟨entries,rfl⟩ := he
    exact enter_recorded hr entries

theorem pending_sound_iff {d : GradeRecords} {s : GradeSession} (hr : Recorded (curveView d)) (hs : InformedTx d s)
    (hc : s.script.commits = true) (h : CurvesSound (curveView d)) :
    CurvesSound (curveView (s.pending d)) ↔ CommitsCurrent d s := by
  obtain ⟨k,log,hk,hlog,hends⟩ := hs.ends hc
  have haudits : (s.pending d).curveAudits = (log.foldl CurveView.apply (curveView d)).audits := congrArg CurveView.audits hlog
  unfold CommitsCurrent
  rw [hlog,haudits]
  cases hreq : s.request with
  | applyCurve a userId dto =>
    rw [hreq] at hends
    obtain ⟨after,audit,rfl,ha,hundo,hrows⟩ := hends
    have hself : ((curveView d).audits.insert audit).get? d.curveAudits.next = some audit :=
      (Table.get?_insert _ _ _).trans (if_pos rfl)
    rw [curve_sound_iff hr h ha hundo fun s hs => (hrows s hs).1,(foldl_curveLog _ _).1]
    constructor
    · refine fun hcur => ⟨fun audit' he => ?_,fun _ _ _ he => by cases he⟩
      rw [hself] at he
      obtain rfl := Option.some.inj he
      exact hcur
    · exact fun hcur => hcur.1 audit hself
  | undoCurve a auditId =>
    rw [hreq] at hends
    obtain ⟨before,hknown,rfl⟩ := hends
    obtain ⟨audit,haudit,ha,hb⟩ := hk.audit _ _ _ hknown
    rw [undo_sound_iff h haudit ha hb,(foldl_undoLog _ _).1]
    constructor
    · refine fun hu => ⟨fun audit' he => ?_,fun a' id' audit' he haudit' => ?_⟩
      · rw [Table.get?_modify,show (curveView d).audits.get? d.curveAudits.next = none from Table.get?_next _] at he
        split at he <;> cases he
      · obtain ⟨-,rfl⟩ := GradeRequest.undoCurve.inj he
        rw [show d.curveAudits.get? auditId = some audit from haudit] at haudit'
        obtain rfl := Option.some.inj haudit'
        exact hu
    · exact fun hu => hu.2 a auditId audit rfl haudit
  | bulkUpsert a userId today now entries =>
    rw [hreq] at hends
    obtain ⟨entries,rfl⟩ := hends
    refine iff_of_true (enter_sound h entries) ⟨fun audit he => ?_,fun _ _ _ he => by cases he⟩
    rw [(foldl_enter (0,0) entries).1,
      show (curveView d).audits.get? d.curveAudits.next = none from Table.get?_next _] at he
    cases he

/-- The records of a school that has not graded yet. -/
def GradeRecords.start (assessments : UniqueIndex ℕ Assessment) (enrolled : ℕ → List ℕ) (requireGradeComment : Bool) :
    GradeRecords := ⟨assessments,enrolled,requireGradeComment,UniqueIndex.empty,Table.empty,[]⟩

theorem recorded_start (assessments : UniqueIndex ℕ Assessment) (enrolled : ℕ → List ℕ) (requireGradeComment : Bool) :
    Recorded (curveView (GradeRecords.start assessments enrolled requireGradeComment)) :=
  ⟨fun _ _ h => (by cases h),fun _ _ h => (by cases h)⟩

theorem sound_start (assessments : UniqueIndex ℕ Assessment) (enrolled : ℕ → List ℕ) (requireGradeComment : Bool) :
    CurvesSound (curveView (GradeRecords.start assessments enrolled requireGradeComment)) :=
  ⟨fun _ _ _ _ h => (by cases h),fun _ _ h => (by cases h),fun _ _ h => (by cases h),fun _ _ h => (by cases h)⟩

/-- In every interleaving the curves are sound throughout precisely when every curve that commits is
current and every undoing that commits is of untouched grades. -/
theorem trace_curvesSound_iff (curve : ApplyCurveDto → ℚ → List ℚ → ℚ → ℚ) (assessments : UniqueIndex ℕ Assessment)
    (enrolled : ℕ → List ℕ) (requireGradeComment : Bool) (events : List (Event GradeRequest)) :
    (∀ st ∈ trace (ReadCommitted.step (serve curve)) (State.idle (GradeRecords.start assessments enrolled requireGradeComment))
        events, CurvesSound (curveView st.db)) ↔
      Guarded (ReadCommitted.step (serve curve)) (AtCommit CommitsCurrent)
        (State.idle (GradeRecords.start assessments enrolled requireGradeComment)) events := by
  have hm : MaintainedUnder (serve curve) (fun d => Recorded (curveView d)) InformedTx :=
    maintained_informed ⟨[],none⟩ (fun _ => ⟨fun _ h => (List.not_mem_nil h).elim,fun _ _ _ h => by cases h⟩)
      (informs_serve curve _) holds_apply recorded_foldl
  have hiff := trace_iff_atCommit (P := fun d => CurvesSound (curveView d)) (C := CommitsCurrent) (coherentUnder_step hm)
    (fun st hk hp id s hs hc => pending_sound_iff hk.base (hk.coherent.sessions id s hs) hc hp)
    (coherentUnder_idle (recorded_start assessments enrolled requireGradeComment)) events
  exact hiff.trans (and_iff_right (sound_start assessments enrolled requireGradeComment))

/-! One grade of 50, a curve of 10 points, the grade entered anew as 70, and the curve undone. -/

def oneAssessment : GradeRecords :=
  .start (UniqueIndex.empty.insert 1 ⟨.open,1,100,none,none,none⟩) (fun _ => [1]) false

def curvedThenEdited : List (Event GradeRequest) :=
  [.start (.bulkUpsert 1 1 0 0 [⟨1,some 50,false,none⟩])] ++ List.replicate 6 (.advance 0) ++
  [.start (.applyCurve 1 1 ⟨.linearShift,[]⟩)] ++ List.replicate 6 (.advance 1) ++
  [.start (.bulkUpsert 1 1 0 0 [⟨1,some 70,false,none⟩])] ++ List.replicate 6 (.advance 2) ++
  [.start (.undoCurve 1 0)] ++ List.replicate 5 (.advance 3)

/-- The undoing puts the 50 back over the 70. -/
theorem not_curvesSound :
    ¬ ∀ (curve : ApplyCurveDto → ℚ → List ℚ → ℚ → ℚ) (assessments : UniqueIndex ℕ Assessment)
      (enrolled : ℕ → List ℕ) (requireGradeComment : Bool) (events : List (Event GradeRequest)),
      ∀ st ∈ trace (ReadCommitted.step (serve curve))
        (State.idle (GradeRecords.start assessments enrolled requireGradeComment)) events, CurvesSound (curveView st.db) := by
  intro h
  have hsound := h (fun _ _ _ score => score + 10) (UniqueIndex.empty.insert 1 ⟨.open,1,100,none,none,none⟩) (fun _ => [1])
    false curvedThenEdited _ (foldl_mem_trace _ _)
  have hwrites : (curveView (curvedThenEdited.foldl (ReadCommitted.step (serve fun _ _ _ score => score + 10))
      (State.idle oneAssessment)).db).writes (1,1) =
        some [.entered (some 50),.curved 0 60,.entered (some 70),.reverted 0 50] := by
    decide +kernel
  have hrestores := hsound.undone (1,1) _ hwrites [.entered (some 50),.curved 0 60,.entered (some 70)] 0 50 [] rfl
  exact hrestores.2.2 (some 70) (by decide)

end EduPod.Gradebook
