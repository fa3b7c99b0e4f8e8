import EduPod.Scheduling.RunLifecycle

/-! # Writers of one run in any order

No year ever has two active runs. That a run moves forward only is up to the writes by id, each of which
must find a status that it may follow, and that a run is applied with what was accepted is up to
adjustments being written onto the list as it is.
-/
namespace EduPod.Scheduling.RunLifecycle
open Processes Runs ApplyRun

/-- The statuses that may follow. -/
def nextStatuses : RunStatus → List RunStatus
  | .queued => [.running,.failed]
  | .running => [.completed,.failed]
  | .completed => [.applied,.discarded]
  | .failed => []
  | .applied => []
  | .discarded => []

def Moves (current next : RunStatus) : Prop := next = current ∨ next ∈ nextStatuses current

/-- Every run has kept its status or moved forward. -/
def Permitted (db db' : Store) : Prop := ∀ id row row', db.runs.get? id = some row → db'.runs.get? id = some row' →
  Moves row.run.status row'.run.status

/-- No two runs of a year are queued or running. -/
def OneActive (db : Store) : Prop := ∀ i j a b, i ≠ j → db.runs.get? i = some a → db.runs.get? j = some b →
  a.isActive = true → b.isActive = true → a.academicYearId ≠ b.academicYearId

/-- A run was applied with the adjustments that were accepted. -/
def UsesAccepted (db : Store) : Prop := ∀ id row adjustments, db.runs.get? id = some row →
  row.appliedWith = some adjustments → adjustments = row.accepted

/-! ## Condition -/

def claimRefused (db : Store) (id : ℕ) : Bool :=
  (db.runs.get? id).any fun row => activeElsewhere db row.academicYearId (some id)

/-- The status that the next action of a process writes by id, whatever the status is by then. -/
def Process.writes (db : Store) (input : Input) : Process → Option (List ℕ × RunStatus)
  | .failing id _ => some ([id],.failed)
  | .claiming id _ => if input.databaseFails || claimRefused db id then none else some ([id],.running)
  | .catching id _ => if input.databaseFails then none else some ([id],.failed)
  | .reaping ids _ => some (ids,.failed)
  | .discarding id => some ([id],.discarded)
  | _ => none

/-- A write by id finds a status that it may follow, and an adjustment is written onto the list that it was
read from, before the run is applied. -/
structure Timely (db : Store) (process : Process) (input : Input) : Prop where
  status : ∀ ids next, process.writes db input = some (ids,next) → ∀ id ∈ ids, ∀ row, db.runs.get? id = some row →
    Moves row.run.status next
  adjustment : ∀ id existing adjustment, process = .adjusting id existing adjustment → ∀ row, db.runs.get? id = some row →
    row.run.proposedAdjustments = existing ∧ row.run.status ≠ .applied

instance (current next : RunStatus) : Decidable (Moves current next) :=
  inferInstanceAs (Decidable (next = current ∨ next ∈ nextStatuses current))

def checkAdjustment (db : Store) : Process → Bool
  | .adjusting id existing _ => (db.runs.get? id).all fun row => row.run.proposedAdjustments = existing && row.run.status ≠ .applied
  | _ => true

/-- What `Timely` asks for, in each run that is concerned. -/
def checkTimely (db : Store) (process : Process) (input : Input) : Bool :=
  (process.writes db input).all (fun w => w.1.all fun id => (db.runs.get? id).all fun row => Moves row.run.status w.2) &&
    checkAdjustment db process

theorem all_rows_iff {row : Option RunRow} {p : RunRow → Bool} : row.all p = true ↔ ∀ r, row = some r → p r = true := by
  cases row <;> simp

theorem checkTimely_iff {db : Store} {process : Process} {input : Input} :
    checkTimely db process input = true ↔ Timely db process input := by
  rw [checkTimely,Bool.and_eq_true]
  constructor
  · rintro ⟨hstatus,hadjustment⟩
    refine ⟨fun ids next hwrites id hid row hrow => ?_,?_⟩
    · rw [hwrites,Option.all_some,List.all_eq_true] at hstatus
      exact of_decide_eq_true (all_rows_iff.mp (hstatus id hid) row hrow)
    · rintro id existing adjustment rfl row hrow
      have hrow := all_rows_iff.mp hadjustment row hrow
      simpa using hrow
  · intro h
    constructor
    · cases hwrites : process.writes db input with
      | none => rfl
      | some w =>
        rw [Option.all_some,List.all_eq_true]
        exact fun id hid => all_rows_iff.mpr fun row hrow => decide_eq_true (h.status w.1 w.2 hwrites id hid row hrow)
    · cases process with
      | adjusting id existing adjustment =>
        refine all_rows_iff.mpr fun row hrow => ?_
        simpa using h.adjustment id existing adjustment rfl row hrow
      | _ => rfl

instance decidableTimely (db : Store) (process : Process) (input : Input) : Decidable (Timely db process input) :=
  decidable_of_iff _ checkTimely_iff

/-- The list of a run is what was accepted, and it is final once the run is applied. -/
structure RunRow.Sound (row : RunRow) : Prop where
  accepted : row.run.proposedAdjustments = row.accepted
  applied : ∀ adjustments, row.appliedWith = some adjustments → adjustments = row.accepted ∧ row.run.status = .applied

structure Store.Sound (db : Store) : Prop where
  rows : db.runs.All RunRow.Sound
  active : OneActive db

section
variable {db db' : Store} {id : ℕ} {ids : List ℕ} {next : RunStatus}

/-! ## Status writes -/

theorem Moves.refl (s : RunStatus) : Moves s s := .inl rfl

theorem Permitted.refl (db : Store) : Permitted db db := by
  intro i row row' hrow hrow'
  obtain rfl := Option.some.inj (hrow.symm.trans hrow')
  exact .refl _

/-- All but the status of a row, its time and its result is what it was. -/
structure RunRow.Keeps (row row' : RunRow) : Prop where
  year : row'.academicYearId = row.academicYearId
  adjustments : row'.run.proposedAdjustments = row.run.proposedAdjustments
  accepted : row'.accepted = row.accepted
  appliedWith : row'.appliedWith = row.appliedWith

/-- A status is written to some runs, and nothing else changes. -/
def Rewrites (ids : List ℕ) (next : RunStatus) (db db' : Store) : Prop := ∀ i row', db'.runs.get? i = some row' →
  ∃ row, db.runs.get? i = some row ∧ row.Keeps row' ∧ (row'.run.status = row.run.status ∨ i ∈ ids ∧ row'.run.status = next)

theorem RunRow.Keeps.refl (row : RunRow) : row.Keeps row := ⟨rfl,rfl,rfl,rfl⟩

theorem RunRow.Keeps.trans {row row' row'' : RunRow} (h : row.Keeps row') (h' : row'.Keeps row'') : row.Keeps row'' :=
  ⟨h'.year.trans h.year,h'.adjustments.trans h.adjustments,h'.accepted.trans h.accepted,h'.appliedWith.trans h.appliedWith⟩

theorem Rewrites.refl (ids : List ℕ) (next : RunStatus) (db : Store) : Rewrites ids next db db :=
  fun _ row hrow => ⟨row,hrow,.refl row,.inl rfl⟩

theorem rewrites_modify {g : RunRow → RunRow} (hg : ∀ row, row.Keeps (g row) ∧ (g row).run.status = next) :
    Rewrites [id] next db { db with runs := db.runs.modify id g } := by
  intro i row' hrow'
  rw [Table.get?_modify] at hrow'
  split at hrow'
  · rename_i hi
    subst hi
    obtain ⟨row,hrow,rfl⟩ := Option.map_eq_some_iff.mp hrow'
    exact ⟨row,hrow,(hg row).1,.inr ⟨List.mem_singleton_self i,(hg row).2⟩⟩
  · exact ⟨row',hrow',.refl row',.inl rfl⟩

theorem rewrites_updateStatus (db : Store) (id : ℕ) (next : RunStatus) (reason : Option String) (now : ℤ) :
    Rewrites [id] next db (updateStatus db id next reason now) := rewrites_modify fun _ => ⟨⟨rfl,rfl,rfl,rfl⟩,rfl⟩

theorem Rewrites.mono {ids' : List ℕ} (h : Rewrites ids next db db') (hsub : ∀ i ∈ ids, i ∈ ids') : Rewrites ids' next db db' := by
  intro i row' hrow'
  obtain ⟨row,hrow,hkeeps,hstatus⟩ := h i row' hrow'
  exact ⟨row,hrow,hkeeps,hstatus.imp_right fun hmem => ⟨hsub i hmem.1,hmem.2⟩⟩

theorem Rewrites.trans {db'' : Store} (h : Rewrites ids next db db') (h' : Rewrites ids next db' db'') : Rewrites ids next db db'' := by
  intro i row'' hrow''
  obtain ⟨row',hrow',hkeeps',hstatus'⟩ := h' i row'' hrow''
  obtain ⟨row,hrow,hkeeps,hstatus⟩ := h i row' hrow'
  refine ⟨row,hrow,hkeeps.trans hkeeps',?_⟩
  rcases hstatus' with hsame | hwritten
  · rw [hsame]
    exact hstatus
  · exact .inr hwritten

theorem rewrites_failAll (db : Store) (ids : List ℕ) (reason : String) (now : ℤ) :
    Rewrites ids .failed db (failAll db ids reason now) := by
  unfold failAll
  induction ids generalizing db with
  | nil => exact .refl _ _ _
  | cons id ids ih =>
    have hfirst := rewrites_updateStatus db id .failed (some reason) now
    refine (hfirst.mono fun i hi => ?_).trans ((ih _).mono fun i hi => List.mem_cons_of_mem id hi)
    rw [List.mem_singleton.mp hi]
    exact List.mem_cons_self

theorem Rewrites.permitted (h : Rewrites ids next db db')
    (hmoves : ∀ i ∈ ids, ∀ row, db.runs.get? i = some row → Moves row.run.status next) : Permitted db db' := by
  intro i row row' hrow hrow'
  obtain ⟨old,hold,-,hstatus⟩ := h i row' hrow'
  obtain rfl := Option.some.inj (hrow.symm.trans hold)
  rcases hstatus with hsame | ⟨hmem,hnext⟩
  · rw [hsame]
    exact .refl _
  · rw [hnext]
    exact hmoves i hmem row hrow

/-- An applied run stays applied when its status may only move forward. -/
theorem moves_applied (h : Moves .applied next) : next = .applied := by
  rcases h with h | h
  · exact h
  · cases h

theorem Rewrites.rows (h : Rewrites ids next db db') (hdb : db.runs.All RunRow.Sound)
    (hmoves : ∀ i ∈ ids, ∀ row, db.runs.get? i = some row → Moves row.run.status next) : db'.runs.All RunRow.Sound := by
  intro q hq
  obtain ⟨row,hrow,hkeeps,hstatus⟩ := h q.1 q.2 (Table.get?_of_mem hq)
  have hsound := hdb.get? hrow
  refine ⟨by rw [hkeeps.adjustments,hkeeps.accepted,hsound.accepted],fun adjustments hadjustments => ?_⟩
  rw [hkeeps.appliedWith] at hadjustments
  obtain ⟨huses,happlied⟩ := hsound.applied adjustments hadjustments
  refine ⟨huses.trans hkeeps.accepted.symm,?_⟩
  rcases hstatus with hsame | ⟨hmem,hnext⟩
  · exact hsame.trans happlied
  · have hmove := hmoves q.1 hmem row hrow
    rw [happlied] at hmove
    exact hnext.trans (moves_applied hmove)

theorem isActive_of_status {row row' : RunRow} (h : row'.run.status = row.run.status) : row'.isActive = row.isActive := by
  rw [RunRow.isActive,RunRow.isActive,h]

/-- A status that is not active takes nothing from another run. -/
theorem Rewrites.active (h : Rewrites ids next db db') (hdb : OneActive db) (hnext : next ≠ .queued ∧ next ≠ .running) :
    OneActive db' := by
  have hold : ∀ i row', db'.runs.get? i = some row' → row'.isActive = true →
      ∃ row, db.runs.get? i = some row ∧ row.isActive = true ∧ row'.academicYearId = row.academicYearId := by
    intro i row' hrow' hactive
    obtain ⟨row,hrow,hkeeps,hstatus⟩ := h i row' hrow'
    rcases hstatus with hsame | ⟨-,hwritten⟩
    · exact ⟨row,hrow,(isActive_of_status hsame).symm.trans hactive,hkeeps.year⟩
    · simp [RunRow.isActive,hwritten,hnext.1,hnext.2] at hactive
  intro i j a b hij ha hb hactive hactive'
  obtain ⟨a₀,ha₀,hactive₀,hyear⟩ := hold i a ha hactive
  obtain ⟨b₀,hb₀,hactive₀',hyear'⟩ := hold j b hb hactive'
  rw [hyear,hyear']
  exact hdb i j a₀ b₀ hij ha₀ hb₀ hactive₀ hactive₀'

/-! ## The index of active runs -/

theorem activeElsewhere_eq_false_iff {academicYearId : ℕ} {own : Option ℕ} : activeElsewhere db academicYearId own = false ↔
    ∀ j b, db.runs.get? j = some b → b.academicYearId = academicYearId → b.isActive = true → own = some j := by
  simp only [activeElsewhere,List.any_eq_false,Bool.and_eq_true,decide_eq_true_eq,not_and,not_not,Table.get?_eq_some_iff]
  constructor
  · exact fun h j b hrow hyear hactive => h (j,b) hrow ⟨hyear,hactive⟩
  · exact fun h q hrow hq => h q.1 q.2 hrow hq.1 hq.2

theorem active_insert (hdb : OneActive db) {row : RunRow} (hfree : activeElsewhere db row.academicYearId none = false) :
    OneActive { db with runs := db.runs.insert row } := by
  have hother : ∀ j b, db.runs.get? j = some b → b.isActive = true → b.academicYearId ≠ row.academicYearId :=
    fun j b hb hactive hyear => (by cases activeElsewhere_eq_false_iff.mp hfree j b hb hyear hactive)
  intro i j a b hij ha hb hactive hactive'
  rw [Table.get?_insert] at ha hb
  split at ha <;> split at hb
  · omega
  · obtain rfl := Option.some.inj ha
    exact (hother j b hb hactive').symm
  · obtain rfl := Option.some.inj hb
    exact hother i a ha hactive
  · exact hdb i j a b hij ha hb hactive hactive'

theorem active_markRunning (hdb : OneActive db) {row : RunRow} (hrow : db.runs.get? id = some row)
    (hfree : activeElsewhere db row.academicYearId (some id) = false) (reason : Option String) (now : ℤ) :
    OneActive (updateStatus db id .running reason now) := by
  have hother : ∀ j b, j ≠ id → db.runs.get? j = some b → b.isActive = true → b.academicYearId ≠ row.academicYearId :=
    fun j b hj hb hactive hyear => hj (Option.some.inj (activeElsewhere_eq_false_iff.mp hfree j b hb hyear hactive)).symm
  intro i j a b hij ha hb hactive hactive'
  rw [updateStatus,Table.get?_modify] at ha hb
  split at ha <;> split at hb
  · omega
  · rename_i hi hj
    subst hi
    obtain ⟨a₀,ha₀,rfl⟩ := Option.map_eq_some_iff.mp ha
    obtain rfl := Option.some.inj (hrow.symm.trans ha₀)
    exact (hother j b hj hb hactive').symm
  · rename_i hi hj
    subst hj
    obtain ⟨b₀,hb₀,rfl⟩ := Option.map_eq_some_iff.mp hb
    obtain rfl := Option.some.inj (hrow.symm.trans hb₀)
    exact hother i a hi ha hactive
  · exact hdb i j a b hij ha hb hactive hactive'

/-- Rows that stay in their year and do not become active take nothing from another run. -/
theorem active_modify (hdb : OneActive db) {g : RunRow → RunRow} (hyear : ∀ row, (g row).academicYearId = row.academicYearId)
    (hactive : ∀ row, db.runs.get? id = some row → (g row).isActive = true → row.isActive = true) :
    OneActive { db with runs := db.runs.modify id g } := by
  have hold : ∀ i row', (db.runs.modify id g).get? i = some row' → row'.isActive = true →
      ∃ row, db.runs.get? i = some row ∧ row.isActive = true ∧ row'.academicYearId = row.academicYearId := by
    intro i row' hrow' hactive'
    rw [Table.get?_modify] at hrow'
    split at hrow'
    · rename_i hi
      subst hi
      obtain ⟨row,hrow,rfl⟩ := Option.map_eq_some_iff.mp hrow'
      exact ⟨row,hrow,hactive row hrow hactive',hyear row⟩
    · exact ⟨row',hrow',hactive',rfl⟩
  intro i j a b hij ha hb hactive₁ hactive₂
  obtain ⟨a₀,ha₀,hactive₀,hyear₀⟩ := hold i a ha hactive₁
  obtain ⟨b₀,hb₀,hactive₀',hyear₀'⟩ := hold j b hb hactive₂
  rw [hyear₀,hyear₀']
  exact hdb i j a₀ b₀ hij ha₀ hb₀ hactive₀ hactive₀'

/-! ## Actions -/

/-- What an action keeps: runs only move forward, and the store stays sound. -/
def Advances (db db' : Store) : Prop := Permitted db db' ∧ db'.Sound

theorem Advances.refl (hdb : db.Sound) : Advances db db := ⟨.refl db,hdb⟩

theorem permitted_modify {g : RunRow → RunRow} (hg : ∀ row, db.runs.get? id = some row → Moves row.run.status (g row).run.status) :
    Permitted db { db with runs := db.runs.modify id g } := by
  intro i row row' hrow hrow'
  rw [Table.get?_modify] at hrow'
  split at hrow'
  · rename_i hi
    subst hi
    obtain ⟨old,hold,rfl⟩ := Option.map_eq_some_iff.mp hrow'
    obtain rfl := Option.some.inj (hrow.symm.trans hold)
    exact hg row hrow
  · obtain rfl := Option.some.inj (hrow.symm.trans hrow')
    exact .refl _

theorem Rewrites.advances (h : Rewrites ids next db db') (hdb : db.Sound) (hnext : next ≠ .queued ∧ next ≠ .running)
    (hmoves : ∀ i ∈ ids, ∀ row, db.runs.get? i = some row → Moves row.run.status next) : Advances db db' :=
  ⟨h.permitted hmoves,h.rows hdb.rows hmoves,h.active hdb.active hnext⟩

theorem insertRun_advances (hdb : db.Sound) (academicYearId : ℕ) (input : Input) :
    Advances db (insertRun db academicYearId input).1 := by
  unfold insertRun
  split
  · exact .refl hdb
  · rename_i hfree
    refine ⟨fun i row row' hrow hrow' => ?_,hdb.rows.insert ⟨rfl,fun _ h => (by cases h)⟩,?_⟩
    · rw [Table.get?_insert,if_neg (Table.lt_next_of_get? hrow).ne] at hrow'
      obtain rfl := Option.some.inj (hrow.symm.trans hrow')
      exact .refl _
    · exact active_insert hdb.active (Bool.not_eq_true _ ▸ hfree)

theorem markRunning_advances (hdb : db.Sound) (config : Option RunConfig) (now : ℤ)
    (h : claimRefused db id = false → ∀ row, db.runs.get? id = some row → Moves row.run.status .running) :
    Advances db (markRunning db id config now).1 := by
  unfold markRunning
  cases hrow : db.runs.get? id with
  | none => exact .refl hdb
  | some row =>
    dsimp only
    split
    · exact .refl hdb
    · rename_i hfree
      have hfree : activeElsewhere db row.academicYearId (some id) = false := Bool.not_eq_true _ ▸ hfree
      have hnot : claimRefused db id = false := by rw [claimRefused,hrow]; exact hfree
      have hmoves : ∀ i ∈ [id], ∀ row, db.runs.get? i = some row → Moves row.run.status .running := by
        intro i hi
        rw [List.mem_singleton.mp hi]
        exact h hnot
      have hrewrites := rewrites_updateStatus db id .running none now
      exact ⟨hrewrites.permitted hmoves,hrewrites.rows hdb.rows hmoves,active_markRunning hdb.active hrow hfree none now⟩

theorem writeResults_advances (hdb : db.Sound) (result : SolverResult) (now : ℤ) : Advances db (writeResults db id result now) := by
  unfold writeResults
  split
  · rename_i hrunning
    have hrewrites : Rewrites [id] .completed db { db with runs := db.runs.modify id (.complete result now) } :=
      rewrites_modify fun _ => ⟨⟨rfl,rfl,rfl,rfl⟩,rfl⟩
    refine hrewrites.advances hdb ⟨by decide,by decide⟩ fun i hi row hrow => ?_
    rw [List.mem_singleton.mp hi] at hrow
    rw [hrow] at hrunning
    rw [of_decide_eq_true hrunning]
    exact .inr (by decide)
  · exact .refl hdb

theorem adjust_advances (hdb : db.Sound) (existing : List Adjustment) (adjustment : Adjustment) (now : ℤ)
    (h : ∀ row, db.runs.get? id = some row → row.run.proposedAdjustments = existing ∧ row.run.status ≠ .applied) :
    Advances db { db with runs := db.runs.modify id (.adjust existing adjustment now) } := by
  refine ⟨permitted_modify fun _ _ => .refl _,hdb.rows.modify fun row hrow => ?_,active_modify hdb.active (fun _ => rfl) fun _ _ h => h⟩
  have hsound := hdb.rows.get? hrow
  obtain ⟨hlist,hnot⟩ := h row hrow
  refine ⟨?_,fun adjustments hadjustments => absurd (hsound.applied adjustments hadjustments).2 hnot⟩
  change existing ++ [adjustment] = row.accepted ++ [adjustment]
  rw [← hlist,hsound.accepted]

theorem status_of_apply {school : School} {run : Option SchedulingRun} {expectedUpdatedAt : ℤ} {hash : String} {schedules : List Schedule}
    (h : school.apply run expectedUpdatedAt hash = .ok schedules) : ∃ r, run = some r ∧ r.status = .completed := by
  obtain ⟨r,hr,h⟩ := Fallible.require_bind_eq_ok.mp h
  obtain ⟨hstatus,-⟩ := Fallible.ensure_bind_eq_ok.mp h
  exact ⟨r,hr,hstatus⟩

theorem applyRun_advances (hdb : db.Sound) (expectedUpdatedAt : ℤ) (input : Input) :
    Advances db (applyRun db id expectedUpdatedAt input) := by
  unfold applyRun
  split
  · exact .refl hdb
  · rename_i schedules happly
    obtain ⟨r,hr,hcompleted⟩ := status_of_apply happly
    obtain ⟨row,hrow,rfl⟩ := Option.map_eq_some_iff.mp hr
    refine ⟨permitted_modify fun row' hrow' => ?_,hdb.rows.modify fun row' hrow' => ?_,
      active_modify hdb.active (fun _ => rfl) fun _ _ h => ?_⟩
    · obtain rfl := Option.some.inj (hrow.symm.trans hrow')
      rw [hcompleted]
      exact .inr List.mem_cons_self
    · have hsound := hdb.rows.get? hrow'
      refine ⟨hsound.accepted,fun adjustments hadjustments => ⟨?_,rfl⟩⟩
      rw [← Option.some.inj hadjustments,hsound.accepted]
      rfl
    · cases h

/-- A write of one run by id, in time. -/
theorem updateStatus_advances (hdb : db.Sound) (hnext : next ≠ .queued ∧ next ≠ .running) (reason : Option String) (now : ℤ)
    (h : ∀ i ∈ [id], ∀ row, db.runs.get? i = some row → Moves row.run.status next) :
    Advances db (updateStatus db id next reason now) := (rewrites_updateStatus db id next reason now).advances hdb hnext h

/-- Every action that is timely moves runs forward only and keeps the store sound. -/
theorem act_advances (hdb : db.Sound) {process : Process} {input : Input} (h : Timely db process input) :
    Advances db (act db process input).1 := by
  cases process with
  | opened request => cases request with
    | apply id expectedUpdatedAt => exact applyRun_advances hdb expectedUpdatedAt input
    | _ => exact .refl hdb
  | inserting academicYearId => exact insertRun_advances hdb academicYearId input
  | enqueueing id =>
    simp only [act]
    split
    · exact ⟨.refl db,hdb.rows,hdb.active⟩
    · exact .refl hdb
  | failing id reason => exact updateStatus_advances hdb ⟨by decide,by decide⟩ _ _ (h.status [id] .failed rfl)
  | claiming id config =>
    simp only [act]
    split
    · exact .refl hdb
    · rename_i hup
      refine markRunning_advances hdb config input.now fun hnot => ?_
      have hwrites : (Process.claiming id config).writes db input = some ([id],.running) := by simp [Process.writes,hnot,hup]
      exact h.status [id] .running hwrites id (List.mem_singleton_self id)
  | solving id config =>
    simp only [act]
    split
    · exact .refl hdb
    · exact .refl hdb
    · split
      · exact .refl hdb
      · exact writeResults_advances hdb _ input.now
  | committing id => exact .refl hdb
  | catching id message =>
    simp only [act]
    split
    · exact .refl hdb
    · rename_i hup
      have hwrites : (Process.catching id message).writes db input = some ([id],.failed) := by simp [Process.writes,hup]
      exact updateStatus_advances hdb ⟨by decide,by decide⟩ _ _ (h.status [id] .failed hwrites)
  | reaping ids reason =>
    exact (rewrites_failAll db ids reason input.now).advances hdb ⟨by decide,by decide⟩ (h.status ids .failed rfl)
  | adjusting id existing adjustment => exact adjust_advances hdb existing adjustment input.now (h.adjustment id existing adjustment rfl)
  | discarding id => exact updateStatus_advances hdb ⟨by decide,by decide⟩ _ _ (h.status [id] .discarded rfl)

end

theorem sound_empty : Store.empty.Sound := ⟨Table.all_empty _,fun _ _ _ _ _ ha => (by cases ha)⟩

theorem usesAccepted_of_sound {db : Store} (h : db.Sound) : UsesAccepted db :=
  fun _ _ adjustments hrow hadjustments => ((h.rows.get? hrow).applied adjustments hadjustments).1

/-! ## Main theorem -/

theorem step_advances {st : State Store Process} (hdb : st.store.Sound) {e : Event Request Input} (h : AtAct Timely st e) :
    Advances st.store (step protocol st e).store := by
  cases e with
  | start request => exact .refl hdb
  | stop id => exact .refl hdb
  | act id input =>
    cases hq : st.processes.get? id with
    | none =>
      rw [step_act_none hq]
      exact .refl hdb
    | some process =>
      rw [step_act hq]
      exact act_advances hdb (h process hq)

/-- What holds of a run of the system: runs only move forward, no year has two active ones, and they are
applied with the adjustments that were accepted. -/
structure Orderly (events : List (Event Request Input)) : Prop where
  forward : Guarded (step protocol) (fun st e => Permitted st.store (step protocol st e).store) (State.idle Store.empty) events
  active : ∀ st ∈ trace (step protocol) (State.idle Store.empty) events, OneActive st.store
  accepted : ∀ st ∈ trace (step protocol) (State.idle Store.empty) events, UsesAccepted st.store

/-- Where every write finds a status that it may follow and every adjustment the list that it was read from,
runs are orderly. -/
theorem orderly_of_timely {events : List (Event Request Input)}
    (h : Guarded (step protocol) (AtAct Timely) (State.idle Store.empty) events) : Orderly events := by
  have hsound : (State.idle Store.empty : State Store Process).store.Sound := sound_empty
  have hstep : ∀ (st : State Store Process) (e : Event Request Input), st.store.Sound → AtAct Timely st e →
      Permitted st.store (step protocol st e).store ∧ (step protocol st e).store.Sound := fun _ _ hdb hg => step_advances hdb hg
  obtain ⟨hforward,htrace⟩ := guarded_and_trace hstep hsound h
  exact ⟨hforward,fun st hst => (htrace st hst).active,fun st hst => usesAccepted_of_sound (htrace st hst)⟩

def idleSchool : School := ⟨fun _ => none,[]⟩

def smoothInput : Input := ⟨0,true,some ⟨none,none⟩,true,true,.ok ⟨[],[]⟩,false,idleSchool,""⟩

/-- A run is created, solved, adjusted and applied. -/
theorem orderly_single : Orderly [.start (.create 1),.act 0 smoothInput,.act 0 smoothInput,.act 0 smoothInput,.start (.delivery 0),
    .act 1 smoothInput,.act 1 smoothInput,.act 1 smoothInput,.act 1 smoothInput,.start (.addAdjustment 0 (.remove 1 1 1) 0),
    .act 2 smoothInput,.act 2 smoothInput,.start (.apply 0 0),.act 3 smoothInput] :=
  orderly_of_timely (by decide +kernel)

theorem not_permitted {db db' : Store} (id : ℕ) (h : (db.runs.get? id).map (fun row => row.run.status) = some .applied)
    (h' : (db'.runs.get? id).map (fun row => row.run.status) = some .failed) : ¬ Permitted db db' := by
  intro hp
  obtain ⟨row,hrow,hstatus⟩ := Option.map_eq_some_iff.mp h
  obtain ⟨row',hrow',hstatus'⟩ := Option.map_eq_some_iff.mp h'
  have hmoves := hp id row row' hrow hrow'
  rw [hstatus,hstatus'] at hmoves
  exact absurd (moves_applied hmoves) (by decide)

/-- A run is being solved, a cancellation has read it, and then it is completed and applied. -/
def cancelledLate : List (Event Request Input) :=
  [.start (.create 1),.act 0 smoothInput,.act 0 smoothInput,.act 0 smoothInput,.start (.delivery 0),.act 1 smoothInput,
    .act 1 smoothInput,.start (.cancel 0),.act 2 smoothInput,.act 1 smoothInput,.start (.apply 0 0),.act 3 smoothInput]

/-- The cancellation still writes that the run has failed. -/
theorem not_orderly : ¬ ∀ events : List (Event Request Input), Orderly events := by
  intro h
  have hlast := (h (cancelledLate ++ [.act 2 smoothInput])).forward.last
  exact not_permitted 0 (by decide +kernel) (by decide +kernel) hlast

end EduPod.Scheduling.RunLifecycle
