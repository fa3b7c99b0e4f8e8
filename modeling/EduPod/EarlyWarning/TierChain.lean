import EduPod.EarlyWarning.Scoring
import EduPod.Foundation.TransactionLog
import EduPod.Foundation.UniqueIndex

/-! # The compute jobs, statement by statement

Each job is one transaction. What the collectors return comes with the request; a student whose
collection throws is skipped by the daily job.
-/
namespace EduPod.EarlyWarning
open ReadCommitted Script Runs

section
inductive StudentStatus
  | applicant | active | withdrawn | graduated | archived
  deriving DecidableEq, Repr

/-- A student in an academic year. -/
abbrev ProfileKey := ℕ × ℕ

structure StudentRiskProfile where
  compositeScore : ℤ
  riskTier : RiskTier
  domainScores : SignalDomain → ℚ
  trend : List ℤ

structure TierTransition where
  profile : ProfileKey
  fromTier : Option RiskTier
  toTier : RiskTier
  compositeScore : ℤ

/-- `assessed` is no table: it notes the tier each upsert was computed from. -/
structure WarningRecords where
  config : Option TenantConfig
  students : UniqueIndex ℕ StudentStatus
  activeAcademicYear : Option ℕ
  profiles : UniqueIndex ProfileKey StudentRiskProfile
  transitions : List TierTransition
  assessed : List (ProfileKey × Option RiskTier)

inductive Row
  | profile (key : ProfileKey)
  deriving DecidableEq, Repr

abbrev Tx := Script WarningRecords Row Unit

namespace WarningRecords
variable (d : WarningRecords)

def tierOf (key : ProfileKey) : Option RiskTier := (d.profiles.get? key).map (·.riskTier)

/-- The transitions of a profile in their order, as from-tier and to-tier. -/
def movesOf (key : ProfileKey) : List (Option RiskTier × RiskTier) :=
  (d.transitions.filter fun t => t.profile = key).map fun t => (t.fromTier,t.toTier)

def activeStudents : List ℕ := (d.students.rows.filter fun s => s.2 = .active).map Prod.fst

end WarningRecords

def profileOf (assessment : RiskAssessment) : StudentRiskProfile where
  compositeScore := assessment.compositeScore
  riskTier := assessment.riskTier
  domainScores := assessment.domainScores
  trend := assessment.trendData

/-- The upsert on `uq_risk_profile_tenant_student_year`. -/
def upsertRiskProfile (key : ProfileKey) (assessment : RiskAssessment) : Tx Unit :=
  statement (fun _ => [.profile key])
    (fun _ d => { d with
      profiles := (d.profiles.modify key fun _ => profileOf assessment).insert key (profileOf assessment)
      assessed := d.assessed ++ [(key,assessment.previousTier)] })
    fun _ => done ()

def logTierTransition (key : ProfileKey) (assessment : RiskAssessment) : Tx Unit :=
  insert fun d => { d with
    transitions := d.transitions ++ [⟨key,assessment.previousTier,assessment.riskTier,assessment.compositeScore⟩] }

/-- What both jobs do for a student. -/
def assessStudent (config : TenantConfig) (key : ProfileKey) (signals : List SignalResult) : Tx Unit := do
  let existingProfile ← read fun d => d.profiles.get? key
  let assessment := computeRiskAssessment signals config (existingProfile.map (·.riskTier))
    ((existingProfile.map (·.trend)).getD [])
  upsertRiskProfile key assessment
  if assessment.tierChanged = true then logTierTransition key assessment else pure ()

@[grind] def computeLoop (config : TenantConfig) (academicYearId : ℕ) (collected : ℕ → Option (List SignalResult)) :
    List ℕ → Tx Unit
  | [] => pure ()
  | studentId :: students =>
    match collected studentId with
    | none => computeLoop config academicYearId collected students
    | some signals => do
      assessStudent config (studentId,academicYearId) signals
      computeLoop config academicYearId collected students

def computeDaily (collected : ℕ → Option (List SignalResult)) : Tx Unit := do
  let found ← read (·.config)
  match found with
  | none => pure ()
  | some config =>
    if config.isEnabled = false then pure ()
    else do
      let year ← read (·.activeAcademicYear)
      match year with
      | none => pure ()
      | some academicYearId => do
        let students ← read WarningRecords.activeStudents
        computeLoop config academicYearId collected students

def computeStudent (studentId : ℕ) (signals : List SignalResult) : Tx Unit := do
  let found ← read (·.config)
  match found with
  | none => pure ()
  | some config =>
    if config.isEnabled = false then pure ()
    else do
      let student ← read fun d => d.students.get? studentId
      if student ≠ some .active then pure ()
      else do
        let year ← read (·.activeAcademicYear)
        match year with
        | none => pure ()
        | some academicYearId => assessStudent config (studentId,academicYearId) signals

inductive ComputeRequest
  | computeDaily (collected : ℕ → Option (List SignalResult))
  | computeStudent (studentId : ℕ) (signals : List SignalResult)

def serve : ComputeRequest → Tx Unit
  | .computeDaily collected => computeDaily collected
  | .computeStudent studentId signals => computeStudent studentId signals

end

/-! ## The chain of tier transitions

Both jobs read a profile's tier, assess, write the tier and append to the log. Between the reading
and the writing another job may commit, and the log then starts from a tier the profile has left.
-/

abbrev Move := Option RiskTier × RiskTier

/-- The log of a profile as a chain that ends in its tier. -/
structure Chained (tier : Option RiskTier) (moves : List Move) : Prop where
  linked : moves.IsChain fun a b => b.1 = some a.2
  moving : ∀ move ∈ moves, move.1 ≠ some move.2
  last : ∀ move, moves.getLast? = some move → tier = some move.2

/-- What an assessment adds to the log. -/
def entryOf (previous : Option RiskTier) (next : RiskTier) : List Move :=
  if previous = some next then [] else [(previous,next)]

/-- Writing `next`, computed from `previous`, leaves a chain precisely when there was no log yet or
`previous` is the tier there was. -/
theorem chained_entry_iff {tier : Option RiskTier} {moves : List Move} (h : Chained tier moves)
    (previous : Option RiskTier) (next : RiskTier) :
    Chained (some next) (moves ++ entryOf previous next) ↔ moves = [] ∨ tier = previous := by
  unfold entryOf
  rcases List.eq_nil_or_concat' moves with rfl | ⟨before,move,rfl⟩
  · refine iff_of_true ?_ (.inl rfl)
    by_cases he : previous = some next
    · rw [if_pos he]
      exact ⟨List.isChain_nil,fun _ hm => (List.not_mem_nil hm).elim,by simp⟩
    · rw [if_neg he]
      refine ⟨List.isChain_singleton _,?_,?_⟩
      · simpa using he
      · simp
  · have htier : tier = some move.2 := h.last move (by simp)
    have hne : before ++ [move] ≠ [] := by simp
    simp only [hne,false_or]
    by_cases he : previous = some next
    · rw [if_pos he,List.append_nil,htier,he]
      constructor
      · intro h'
        exact (h'.last move (by simp)).symm
      · intro hsame
        refine ⟨h.linked,h.moving,fun move' hm => ?_⟩
        obtain rfl : move = move' := by simpa using hm
        exact hsame.symm
    · rw [if_neg he,htier]
      constructor
      · intro h'
        have hlink := (List.isChain_append.mp h'.linked).2.2
        exact (hlink move (by simp) (previous,next) (by simp)).symm
      · intro hsame
        refine ⟨List.isChain_append.mpr ⟨h.linked,List.isChain_singleton _,?_⟩,?_,by simp⟩
        · intro a ha b hb
          obtain rfl : a = move := by simpa using ha.symm
          obtain rfl : b = (previous,next) := by simpa using hb.symm
          exact hsame.symm
        · intro m hm
          rcases List.mem_append.mp hm with hm | hm
          · exact h.moving m hm
          · obtain rfl := List.mem_singleton.mp hm
            exact he

/-! ## The observed profiles -/

structure Profiles where
  tier : ProfileKey → Option RiskTier
  moves : ProfileKey → List Move
  assessed : List (ProfileKey × Option RiskTier)

inductive Change
  | assess (key : ProfileKey) (previous : Option RiskTier) (next : RiskTier)
  | record (key : ProfileKey) (move : Move)

def Profiles.apply (o : Profiles) : Change → Profiles
  | .assess key previous next => { o with
    tier := Function.update o.tier key (some next)
    assessed := o.assessed ++ [(key,previous)] }
  | .record key move => { o with moves := Function.update o.moves key (o.moves key ++ [move]) }

def profiles (d : WarningRecords) : Profiles where
  tier := d.tierOf
  moves := d.movesOf
  assessed := d.assessed

/-- One assessment of a profile. -/
structure Assessment where
  key : ProfileKey
  previous : Option RiskTier
  next : RiskTier

def Assessment.changes (a : Assessment) : List Change :=
  .assess a.key a.previous a.next :: (entryOf a.previous a.next).map (.record a.key)

def Assessment.noted (a : Assessment) : ProfileKey × Option RiskTier := (a.key,a.previous)

/-- A log of whole assessments, each of another profile. -/
def Assesses (log : List Change) : Prop :=
  ∃ assessments : List Assessment, log = assessments.flatMap Assessment.changes ∧ (assessments.map (·.key)).Nodup

section
variable {o : Profiles} {a : Assessment} {assessments : List Assessment} {key : ProfileKey}

theorem foldl_changes : a.changes.foldl Profiles.apply o =
    { tier := Function.update o.tier a.key (some a.next)
      moves := Function.update o.moves a.key (o.moves a.key ++ entryOf a.previous a.next)
      assessed := o.assessed ++ [a.noted] } := by
  unfold Assessment.changes entryOf
  split <;> simp [Profiles.apply,Assessment.noted]

theorem assessed_foldl : ((assessments.flatMap Assessment.changes).foldl Profiles.apply o).assessed =
    o.assessed ++ assessments.map Assessment.noted := by
  induction assessments generalizing o with
  | nil => simp
  | cons a rest ih => rw [List.flatMap_cons,List.foldl_append,ih,foldl_changes,List.map_cons,List.append_assoc,List.singleton_append]

theorem foldl_of_not_mem (h : key ∉ assessments.map (·.key)) :
    ((assessments.flatMap Assessment.changes).foldl Profiles.apply o).tier key = o.tier key ∧
      ((assessments.flatMap Assessment.changes).foldl Profiles.apply o).moves key = o.moves key := by
  induction assessments generalizing o with
  | nil => exact ⟨rfl,rfl⟩
  | cons a rest ih =>
    rw [List.map_cons,List.mem_cons,not_or] at h
    obtain ⟨htier,hmoves⟩ := ih (o := a.changes.foldl Profiles.apply o) h.2
    rw [List.flatMap_cons,List.foldl_append,htier,hmoves,foldl_changes]
    exact ⟨Function.update_of_ne h.1 _ _,Function.update_of_ne h.1 _ _⟩

theorem foldl_of_mem (hn : (assessments.map (·.key)).Nodup) (ha : a ∈ assessments) :
    ((assessments.flatMap Assessment.changes).foldl Profiles.apply o).tier a.key = some a.next ∧
      ((assessments.flatMap Assessment.changes).foldl Profiles.apply o).moves a.key =
        o.moves a.key ++ entryOf a.previous a.next := by
  induction assessments generalizing o with
  | nil => exact (List.not_mem_nil ha).elim
  | cons b rest ih =>
    obtain ⟨hb,hn⟩ := List.nodup_cons.mp hn
    rw [List.flatMap_cons,List.foldl_append]
    rcases List.mem_cons.mp ha with rfl | ha
    · obtain ⟨htier,hmoves⟩ := foldl_of_not_mem (o := a.changes.foldl Profiles.apply o) hb
      rw [htier,hmoves,foldl_changes]
      exact ⟨Function.update_self _ _ _,Function.update_self _ _ _⟩
    · have hne : a.key ≠ b.key := fun he => hb (List.mem_map.mpr ⟨a,ha,he⟩)
      obtain ⟨htier,hmoves⟩ := ih (o := b.changes.foldl Profiles.apply o) hn ha
      refine ⟨htier,?_⟩
      rw [hmoves,foldl_changes]
      simp only [Function.update_of_ne hne]

/-- Assessments leave chains precisely when each starts from the tier its profile has, or its profile
has no log yet. -/
theorem chained_foldl_iff (h : ∀ key, Chained (o.tier key) (o.moves key)) (hn : (assessments.map (·.key)).Nodup) :
    (∀ key, Chained (((assessments.flatMap Assessment.changes).foldl Profiles.apply o).tier key)
        (((assessments.flatMap Assessment.changes).foldl Profiles.apply o).moves key)) ↔
      ∀ a ∈ assessments, o.moves a.key = [] ∨ o.tier a.key = a.previous := by
  constructor
  · intro hafter a ha
    obtain ⟨htier,hmoves⟩ := foldl_of_mem (o := o) hn ha
    have hchain := hafter a.key
    rw [htier,hmoves] at hchain
    exact (chained_entry_iff (h a.key) _ _).mp hchain
  · intro hcurrent key
    by_cases hkey : key ∈ assessments.map (·.key)
    · obtain ⟨a,ha,rfl⟩ := List.mem_map.mp hkey
      obtain ⟨htier,hmoves⟩ := foldl_of_mem (o := o) hn ha
      rw [htier,hmoves]
      exact (chained_entry_iff (h a.key) _ _).mpr (hcurrent a ha)
    · obtain ⟨htier,hmoves⟩ := foldl_of_not_mem (o := o) hkey
      rw [htier,hmoves]
      exact h key

end

/-! ## What the jobs log -/

abbrev LogsTx (log : List Change) (script : Tx Unit) : Prop :=
  script.Logs profiles Profiles.apply (fun _ _ _ _ => True) (fun _ log => Assesses log) log

section
variable {log : List Change} {f : Unit → Tx Unit} {config : TenantConfig}

theorem profiles_upsert (d : WarningRecords) (key : ProfileKey) (assessment : RiskAssessment) :
    profiles { d with
      profiles := (d.profiles.modify key fun _ => profileOf assessment).insert key (profileOf assessment)
      assessed := d.assessed ++ [(key,assessment.previousTier)] } =
      (profiles d).apply (.assess key assessment.previousTier assessment.riskTier) := by
  have htier : ∀ j, ((d.profiles.modify key fun _ => profileOf assessment).insert key (profileOf assessment)).get? j =
      if j = key then some (profileOf assessment) else d.profiles.get? j := by
    intro j
    rw [UniqueIndex.get?_insert,UniqueIndex.get?_modify,UniqueIndex.get?_modify]
    by_cases hj : j = key
    · subst hj
      cases d.profiles.get? j <;> simp
    · simp [hj]
  have hupdate : (fun j => (if j = key then some (profileOf assessment) else d.profiles.get? j).map (·.riskTier)) =
      Function.update d.tierOf key (some assessment.riskTier) := by
    funext j
    rw [Function.update_apply]
    split <;> rfl
  simp only [profiles,Profiles.apply,← hupdate]
  congr 1
  funext j
  exact congrArg (Option.map (·.riskTier)) (htier j)

theorem profiles_record (d : WarningRecords) (t : TierTransition) :
    profiles { d with transitions := d.transitions ++ [t] } =
      (profiles d).apply (.record t.profile (t.fromTier,t.toTier)) := by
  simp only [profiles,Profiles.apply]
  congr 1
  funext j
  rw [Function.update_apply]
  by_cases hj : j = t.profile
  · subst hj
    simp [WarningRecords.movesOf]
  · have hne : ¬ t.profile = j := fun h => hj h.symm
    simp [WarningRecords.movesOf,hj,hne]

theorem logs_assessStudent (key : ProfileKey) (signals : List SignalResult)
    (h : ∀ a : Assessment, a.key = key → LogsTx (log ++ a.changes) (f ())) :
    LogsTx log (assessStudent config key signals >>= f) := by
  rw [assessStudent,Script.bind_assoc]
  refine logs_read fun view => ?_
  rw [Script.bind_assoc]
  generalize hassessment : computeRiskAssessment signals config ((view.profiles.get? key).map (·.riskTier))
    (((view.profiles.get? key).map (·.trend)).getD []) = assessment
  have hprevious : assessment.previousTier = (view.profiles.get? key).map (·.riskTier) := by rw [← hassessment]; rfl
  have hchanged : assessment.tierChanged = true ↔ assessment.previousTier ≠ some assessment.riskTier := by
    rw [hprevious,← hassessment]
    exact tierChanged_iff _ _ _ _
  have hblock := h ⟨key,assessment.previousTier,assessment.riskTier⟩ rfl
  refine fun view' => .inr ⟨.assess key assessment.previousTier assessment.riskTier,trivial,
    fun d => profiles_upsert d key assessment,?_⟩
  unfold Assessment.changes entryOf at hblock
  change LogsTx _ ((if assessment.tierChanged = true then logTierTransition key assessment else pure ()) >>= f)
  by_cases hc : assessment.tierChanged = true
  · rw [if_pos hc]
    rw [if_neg (hchanged.mp hc)] at hblock
    refine fun view'' => .inr ⟨.record key (assessment.previousTier,assessment.riskTier),trivial,
      fun d => profiles_record d _,?_⟩
    rw [List.append_assoc]
    exact hblock
  · rw [if_neg hc]
    rw [if_pos (not_not.mp fun hne => hc (hchanged.mpr hne))] at hblock
    exact hblock

theorem logs_computeLoop {academicYearId : ℕ} {collected : ℕ → Option (List SignalResult)} (students : List ℕ)
    (assessments : List Assessment) (hn : (assessments.map (·.key) ++ students.map (·,academicYearId)).Nodup) :
    LogsTx (assessments.flatMap Assessment.changes) (computeLoop config academicYearId collected students) := by
  induction students generalizing assessments with
  | nil => exact ⟨assessments,rfl,by simpa using hn⟩
  | cons studentId students ih =>
    rw [computeLoop]
    cases collected studentId with
    | none =>
      refine ih assessments (hn.sublist ?_)
      rw [List.map_cons]
      exact (List.sublist_cons_self _ _).append_left _
    | some signals =>
      refine logs_assessStudent _ _ fun a ha => ?_
      have hsnoc : assessments.flatMap Assessment.changes ++ a.changes = (assessments ++ [a]).flatMap Assessment.changes := by
        simp
      rw [hsnoc]
      refine ih (assessments ++ [a]) ?_
      simpa [ha] using hn

end

theorem nodup_activeStudents (d : WarningRecords) : d.activeStudents.Nodup :=
  (List.filter_sublist.map Prod.fst).nodup d.students.nodup

theorem assesses_nil : Assesses [] := ⟨[],rfl,List.nodup_nil⟩

theorem logs_serve (request : ComputeRequest) : LogsTx [] (serve request) := by
  cases request with
  | computeDaily collected =>
    refine logs_read fun view => ?_
    cases view.config with
    | none => exact assesses_nil
    | some config =>
      dsimp only
      split
      · exact assesses_nil
      · refine logs_read fun view => ?_
        cases view.activeAcademicYear with
        | none => exact assesses_nil
        | some academicYearId =>
          refine logs_read fun view => logs_computeLoop _ [] ?_
          exact (nodup_activeStudents view).map fun a b h => (Prod.mk.inj h).1
  | computeStudent studentId signals =>
    refine logs_read fun view => ?_
    cases view.config with
    | none => exact assesses_nil
    | some config =>
      dsimp only
      split
      · exact assesses_nil
      · refine logs_read fun view => ?_
        split
        · exact assesses_nil
        · refine logs_read fun view => ?_
          cases view.activeAcademicYear with
          | none => exact assesses_nil
          | some academicYearId =>
            change LogsTx [] (assessStudent config (studentId,academicYearId) signals)
            rw [← Script.bind_done (assessStudent config (studentId,academicYearId) signals)]
            refine logs_assessStudent _ _ fun a _ => ⟨[a],?_,List.nodup_singleton _⟩
            simp

/-! ## Runs -/

abbrev ComputeState := State WarningRecords Row Unit ComputeRequest

/-- A job that commits has assessed each profile from the tier it has, as committed by then, unless
the profile has no log yet. -/
def AssessesCurrent (st : ComputeState) : Event ComputeRequest → Prop
  | .advance id => ∀ s, st.sessions.get? id = some s → s.script.commits = true →
    ∀ a ∈ (s.pending st.db).assessed.drop st.db.assessed.length,
      st.db.movesOf a.1 = [] ∨ st.db.tierOf a.1 = a.2
  | _ => True

/-- The sessions' logs are logs of assessments. -/
abbrev Logging (st : ComputeState) : Prop :=
  Coherent (Logged profiles Profiles.apply (fun _ _ _ _ _ => True) (fun _ _ log => Assesses log) fun _ _ _ _ => True) st

theorem step_logging (st : ComputeState) (e : Event ComputeRequest) (h : Logging st) :
    Logging (ReadCommitted.step serve st e) :=
  coherent_step (maintained_logged logs_serve (fun _ => ⟨fun _ => trivial,fun _ _ _ _ _ => trivial,fun _ _ _ _ _ _ _ => trivial⟩)
    fun _ _ _ _ _ _ _ _ _ _ => trivial) st e h

theorem step_chained_iff (st : ComputeState) (e : Event ComputeRequest) (h : Logging st)
    (hc : ∀ key, Chained (st.db.tierOf key) (st.db.movesOf key)) :
    (∀ key, Chained ((ReadCommitted.step serve st e).db.tierOf key) ((ReadCommitted.step serve st e).db.movesOf key)) ↔
      AssessesCurrent st e := by
  cases e with
  | start request => exact iff_of_true hc trivial
  | abort id => exact iff_of_true hc trivial
  | advance id =>
    cases hs : st.sessions.get? id with
    | none =>
      rw [step_advance_none hs]
      exact iff_of_true hc fun s hs' => by simp [hs] at hs'
    | some s =>
      rw [step_advance_db hs]
      by_cases hcommits : s.script.commits = true
      swap
      · rw [if_neg hcommits]
        refine iff_of_true hc fun s' hs' hc' => ?_
        obtain rfl : s = s' := Option.some.inj (hs.symm.trans hs')
        exact absurd hc' hcommits
      rw [if_pos hcommits]
      obtain ⟨log,hlog,-,hscript⟩ := h.sessions id s hs
      obtain ⟨assessments,rfl,hn⟩ : Assesses log := by
        cases hcase : s.script with
        | done u =>
          rw [hcase] at hscript
          exact hscript
        | fail e => simp [hcase,Script.commits] at hcommits
        | commit rest =>
          rw [hcase] at hscript
          exact hscript.1
        | statement locks write next => simp [hcase,Script.commits] at hcommits
      have hafter := hlog st.db
      have hassessed : (s.pending st.db).assessed = st.db.assessed ++ assessments.map Assessment.noted :=
        (congrArg Profiles.assessed hafter).trans assessed_foldl
      have hguard : AssessesCurrent st (.advance id) ↔
          ∀ a ∈ assessments, st.db.movesOf a.key = [] ∨ st.db.tierOf a.key = a.previous := by
        constructor
        · intro hg a ha
          refine hg s hs hcommits a.noted ?_
          rw [hassessed,List.drop_left]
          exact List.mem_map_of_mem ha
        · intro hg s' hs' _ a ha
          obtain rfl : s = s' := Option.some.inj (hs.symm.trans hs')
          rw [hassessed,List.drop_left] at ha
          obtain ⟨b,hb,rfl⟩ := List.mem_map.mp ha
          exact hg b hb
      have htier : ∀ key, (s.pending st.db).tierOf key =
          ((assessments.flatMap Assessment.changes).foldl Profiles.apply (profiles st.db)).tier key :=
        fun key => congrFun (congrArg Profiles.tier hafter) key
      have hmoves : ∀ key, (s.pending st.db).movesOf key =
          ((assessments.flatMap Assessment.changes).foldl Profiles.apply (profiles st.db)).moves key :=
        fun key => congrFun (congrArg Profiles.moves hafter) key
      rw [hguard]
      simp only [htier,hmoves]
      exact chained_foldl_iff hc hn

/-- In every interleaving, the transition log of every profile is a chain that ends in the profile's
tier precisely when it is one at the start and every job that commits has assessed current tiers. -/
theorem trace_chained_iff (d : WarningRecords) (events : List (Event ComputeRequest)) :
    (∀ st ∈ trace (ReadCommitted.step serve) (State.idle d) events,
        ∀ key, Chained (st.db.tierOf key) (st.db.movesOf key)) ↔
      (∀ key, Chained (d.tierOf key) (d.movesOf key)) ∧
        Guarded (ReadCommitted.step serve) AssessesCurrent (State.idle d) events := by
  have hiff : (∀ key, Chained (d.tierOf key) (d.movesOf key)) →
      ((∀ st ∈ trace (ReadCommitted.step serve) (State.idle d) events,
          ∀ key, Chained (st.db.tierOf key) (st.db.movesOf key)) ↔
        Guarded (ReadCommitted.step serve) AssessesCurrent (State.idle d) events) :=
    trace_invariant_iff (I := fun st => ∀ key, Chained (st.db.tierOf key) (st.db.movesOf key)) step_logging
      step_chained_iff (coherent_idle _ _)
  constructor
  · intro h
    have hc : ∀ key, Chained (d.tierOf key) (d.movesOf key) := h _ (head_mem_trace _ _)
    exact ⟨hc,(hiff hc).mp h⟩
  · rintro ⟨hc,hg⟩
    exact (hiff hc).mpr hg

/-- One active student with a green profile and no log, under the default configuration. -/
def oneStudent : WarningRecords where
  config := some ⟨true,fun | .attendance | .grades => 25 | .behaviour | .wellbeing => 20 | .engagement => 10,
    fun | .green => 0 | .yellow => 8 | .amber => 18 | .red => 32,10⟩
  students := UniqueIndex.empty.insert 0 .active
  activeAcademicYear := some 0
  profiles := UniqueIndex.empty.insert (0,0) ⟨0,.green,fun _ => 0,[0]⟩
  transitions := []
  assessed := []

/-- Two jobs read the green profile before either writes it. -/
def computedTwice : List (Event ComputeRequest) :=
  [.start (.computeStudent 0 [⟨.attendance,80⟩]),.start (.computeStudent 0 [⟨.attendance,80⟩])] ++
    List.replicate 4 (.advance 0) ++ List.replicate 4 (.advance 1) ++ List.replicate 3 (.advance 0) ++
    List.replicate 3 (.advance 1)

theorem not_chained : ¬ ∀ (d : WarningRecords) (events : List (Event ComputeRequest)),
    (∀ key, Chained (d.tierOf key) (d.movesOf key)) →
    ∀ st ∈ trace (ReadCommitted.step serve) (State.idle d) events, ∀ key, Chained (st.db.tierOf key) (st.db.movesOf key) := by
  intro h
  have hstart : ∀ key, Chained (oneStudent.tierOf key) (oneStudent.movesOf key) := fun key =>
    ⟨List.isChain_nil,fun _ hm => (List.not_mem_nil hm).elim,fun _ hm => nomatch hm⟩
  have hlast := h oneStudent computedTwice hstart _ (foldl_mem_trace _ _) (0,0)
  have hmoves : (computedTwice.foldl (ReadCommitted.step serve) (State.idle oneStudent)).db.movesOf (0,0) =
      [(some .green,.amber),(some .green,.amber)] := by decide +kernel
  have hlinked := hlast.linked
  rw [hmoves] at hlinked
  simp at hlinked

end EduPod.EarlyWarning
