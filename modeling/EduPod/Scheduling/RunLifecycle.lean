import EduPod.Foundation.Processes
import EduPod.Scheduling.ApplyRun

/-! # The lifecycle of a scheduling run

Requests, the worker that solves a run and the reapers all write the status of a run. Most of them read
it first and then write by id. One index of the database keeps a year from having two active runs.
-/
namespace EduPod.Scheduling.RunLifecycle
open Processes ApplyRun

structure RunConfig where
  maxSolverDurationSeconds : Option ℕ
  gridHash : Option String
  deriving DecidableEq

/-- A run. `accepted` are the adjustments that were accepted, `appliedWith` those that it was applied with. -/
structure RunRow where
  academicYearId : ℕ
  config : Option RunConfig
  run : SchedulingRun
  failureReason : Option String
  accepted : List Adjustment
  appliedWith : Option (List Adjustment)

structure Store where
  runs : Table RunRow
  jobs : List ℕ

def Store.empty : Store := ⟨Table.empty,[]⟩

structure SolverResult where
  entries : List ResultEntry
  unassigned : List String

/-- What comes from outside: the time, what the assembly and the solver come to, and what fails. -/
structure Input where
  now : ℤ
  prerequisitesReady : Bool
  config : Option RunConfig
  queueUp : Bool
  moduleEnabled : Bool
  solver : Except String SolverResult
  databaseFails : Bool
  school : School
  currentGridHash : String

inductive Request
  | create (academicYearId : ℕ)
  | delivery (id : ℕ)
  | cancel (id : ℕ)
  | reapOnStartup
  | reapStaleRuns
  | addAdjustment (id : ℕ) (adjustment : Adjustment) (expectedUpdatedAt : ℤ)
  | discard (id : ℕ) (expectedUpdatedAt : ℤ)
  | apply (id : ℕ) (expectedUpdatedAt : ℤ)

/-- Between two actions a process has read the run and not written it yet, or waits for the solver, or has
an error to record. -/
inductive Process
  | opened (request : Request)
  | inserting (academicYearId : ℕ)
  | enqueueing (id : ℕ)
  | failing (id : ℕ) (reason : String)
  | claiming (id : ℕ) (config : Option RunConfig)
  | solving (id : ℕ) (config : Option RunConfig)
  | committing (id : ℕ)
  | catching (id : ℕ) (message : String)
  | reaping (ids : List ℕ) (reason : String)
  | adjusting (id : ℕ) (existing : List Adjustment) (adjustment : Adjustment)
  | discarding (id : ℕ)

def RunRow.isActive (row : RunRow) : Bool := row.run.status = .queued || row.run.status = .running

/-- Another run of the year is queued or running. -/
def activeElsewhere (db : Store) (academicYearId : ℕ) (id : Option ℕ) : Bool :=
  db.runs.rows.any fun q => q.2.academicYearId = academicYearId && q.2.isActive && id ≠ some q.1

def RunRow.setStatus (status : RunStatus) (reason : Option String) (now : ℤ) (row : RunRow) : RunRow :=
  { row with
    run := { row.run with status, updatedAt := now }
    failureReason := reason.or row.failureReason }

def updateStatus (db : Store) (id : ℕ) (status : RunStatus) (reason : Option String) (now : ℤ) : Store :=
  { db with runs := db.runs.modify id (.setStatus status reason now) }

/-! ## Creating a run -/

def queuedRun (academicYearId : ℕ) (config : Option RunConfig) (now : ℤ) : RunRow where
  academicYearId
  config
  run :=
    { status := .queued
      updatedAt := now
      snapshotGridHash := config.bind RunConfig.gridHash
      entries := none
      proposedAdjustments := [] }
  failureReason := none
  accepted := []
  appliedWith := none

def create (db : Store) (academicYearId : ℕ) (input : Input) : Option Process :=
  if activeElsewhere db academicYearId none then none
  else if input.prerequisitesReady then some (.inserting academicYearId) else none

/-- The insert is refused where it would be a second active run of the year. -/
def insertRun (db : Store) (academicYearId : ℕ) (input : Input) : Store × Option Process :=
  if activeElsewhere db academicYearId none then (db,none)
  else ({ db with runs := db.runs.insert (queuedRun academicYearId input.config input.now) },some (.enqueueing db.runs.next))

/-! ## The solve job -/

/-- The status read decides: queued is claimed, running was left behind by a crash, all else is over. -/
def claim (db : Store) (id : ℕ) : Option Process :=
  (db.runs.get? id).bind fun row => match row.run.status with
    | .queued => some (.claiming id row.config)
    | .running => some (.failing id "Worker crashed mid-solve — BullMQ retry reaped the run (SCHED-029)")
    | _ => none

/-- The claim is refused where another run of the year is active. -/
def markRunning (db : Store) (id : ℕ) (config : Option RunConfig) (now : ℤ) : Store × Option Process :=
  match db.runs.get? id with
  | none => (db,some (.catching id "Record to update not found."))
  | some row =>
    if activeElsewhere db row.academicYearId (some id) then (db,some (.catching id "Unique constraint failed"))
    else (updateStatus db id .running none now,some (.solving id config))

def unplacedReason (unassigned : List String) : Option String :=
  if unassigned = [] then none
  else some ("Solver left " ++ toString unassigned.length ++ " curriculum slot" ++ (if unassigned.length = 1 then "" else "s") ++
    " unplaced. First: " ++ String.intercalate "; " (unassigned.take 20) ++ if 20 < unassigned.length then " …" else "")

def RunRow.complete (result : SolverResult) (now : ℤ) (row : RunRow) : RunRow :=
  { row with
    run := { row.run with status := .completed, updatedAt := now, entries := some result.entries }
    failureReason := unplacedReason result.unassigned }

/-- The results are written under the condition that the run is still running. -/
def writeResults (db : Store) (id : ℕ) (result : SolverResult) (now : ℤ) : Store :=
  if (db.runs.get? id).any fun row => row.run.status = .running then
    { db with runs := db.runs.modify id (.complete result now) }
  else db

/-! ## Reapers -/

def startupReaperGraceMs : ℤ := 30000

def cronReaperBufferMs : ℤ := 60000

def defaultMaxSolverDurationSeconds : ℕ := 120

def reapStartup (db : Store) (now : ℤ) : Process :=
  .reaping ((db.runs.select fun row => row.isActive && row.run.updatedAt < now - startupReaperGraceMs).map Prod.fst)
    "Worker crashed or restarted mid-run — reaped on worker startup (SCHED-029)"

def RunRow.isStale (now : ℤ) (row : RunRow) : Bool :=
  let maxDurationMs : ℤ := 1000 * ((row.config.bind RunConfig.maxSolverDurationSeconds).getD defaultMaxSolverDurationSeconds : ℕ)
  maxDurationMs + cronReaperBufferMs < now - row.run.updatedAt

def reapStale (db : Store) (now : ℤ) : Process :=
  .reaping ((db.runs.select fun row => row.run.status = .running && row.isStale now).map Prod.fst)
    "Stale run reaped — worker likely crashed"

def failAll (db : Store) (ids : List ℕ) (reason : String) (now : ℤ) : Store :=
  ids.foldl (fun db id => updateStatus db id .failed (some reason) now) db

/-! ## Requests about a run -/

def cancel (db : Store) (id : ℕ) : Option Process :=
  (db.runs.get? id).bind fun row => if row.isActive then some (.failing id "Cancelled by user") else none

def isCurrent (row : RunRow) (expectedUpdatedAt : ℤ) : Bool :=
  row.run.status = .completed && expectedUpdatedAt = row.run.updatedAt

def addAdjustment (db : Store) (id : ℕ) (adjustment : Adjustment) (expectedUpdatedAt : ℤ) : Option Process :=
  (db.runs.get? id).bind fun row =>
    if isCurrent row expectedUpdatedAt then some (.adjusting id row.run.proposedAdjustments adjustment) else none

/-- The list is written as it was read, with the adjustment at its end. -/
def RunRow.adjust (existing : List Adjustment) (adjustment : Adjustment) (now : ℤ) (row : RunRow) : RunRow :=
  { row with
    run := { row.run with updatedAt := now, proposedAdjustments := existing ++ [adjustment] }
    accepted := row.accepted ++ [adjustment] }

def discard (db : Store) (id : ℕ) (expectedUpdatedAt : ℤ) : Option Process :=
  (db.runs.get? id).bind fun row => if isCurrent row expectedUpdatedAt then some (.discarding id) else none

def RunRow.markApplied (now : ℤ) (row : RunRow) : RunRow :=
  { row with
    run := { row.run with status := .applied, updatedAt := now }
    appliedWith := some row.run.proposedAdjustments }

/-- The row is locked when it is read. -/
def applyRun (db : Store) (id : ℕ) (expectedUpdatedAt : ℤ) (input : Input) : Store :=
  match input.school.apply ((db.runs.get? id).map RunRow.run) expectedUpdatedAt input.currentGridHash with
  | .error _ => db
  | .ok _ => { db with runs := db.runs.modify id (.markApplied input.now) }

/-! ## Processes -/

def act (db : Store) (process : Process) (input : Input) : Store × Option Process :=
  match process with
  | .opened (.create academicYearId) => (db,create db academicYearId input)
  | .opened (.delivery id) =>
    (db,if id ∈ db.jobs ∧ input.moduleEnabled = true then
      if input.databaseFails then some (.catching id "Unknown solver v2 error") else claim db id
    else none)
  | .opened (.cancel id) => (db,cancel db id)
  | .opened .reapOnStartup => (db,some (reapStartup db input.now))
  | .opened .reapStaleRuns => (db,some (reapStale db input.now))
  | .opened (.addAdjustment id adjustment expectedUpdatedAt) => (db,addAdjustment db id adjustment expectedUpdatedAt)
  | .opened (.discard id expectedUpdatedAt) => (db,discard db id expectedUpdatedAt)
  | .opened (.apply id expectedUpdatedAt) => (applyRun db id expectedUpdatedAt input,none)
  | .inserting academicYearId => insertRun db academicYearId input
  | .enqueueing id =>
    if input.queueUp then ({ db with jobs := db.jobs ++ [id] },none)
    else (db,some (.failing id "Failed to enqueue solver job"))
  | .failing id reason => (updateStatus db id .failed (some reason) input.now,none)
  | .claiming id config =>
    if input.databaseFails then (db,some (.catching id "Unknown solver v2 error")) else markRunning db id config input.now
  | .solving id config =>
    match config,input.solver with
    | none,_ => (db,some (.catching id "No config_snapshot found on scheduling run"))
    | some _,.error message => (db,some (.catching id message))
    | some _,.ok result =>
      if input.databaseFails then (db,some (.catching id "Unknown solver v2 error"))
      else (writeResults db id result input.now,some (.committing id))
  | .committing id => (db,if input.databaseFails then some (.catching id "Transaction already closed") else none)
  | .catching id message => (if input.databaseFails then db else updateStatus db id .failed (some message) input.now,none)
  | .reaping ids reason => (failAll db ids reason input.now,none)
  | .adjusting id existing adjustment => ({ db with runs := db.runs.modify id (.adjust existing adjustment input.now) },none)
  | .discarding id => (updateStatus db id .discarded none input.now,none)

def protocol : Protocol Store Process Request Input := ⟨.opened,act⟩

end EduPod.Scheduling.RunLifecycle
