import Mathlib
import EduPod.Foundation.Runs
import EduPod.Foundation.Table

/-! # Scheduled reports

A tick compares the latest time the schedule has fired with the time of the last finished delivery, and a delivery looks
for runs that are under way. Neither looks at the deliveries that are still queued, nor at the creation of the report.
-/
namespace EduPod.Reports.ScheduledReports
open Runs

inductive Phase
  | prepared | sent | ended
  deriving DecidableEq

/-- One execution of a delivery job, for the fire time its tick found. -/
structure Attempt where
  fire : ℤ
  runId : ℕ
  generatedAt : ℤ
  phase : Phase
  deriving DecidableEq

structure ScheduledReportRun where
  running : Bool
  startedAt : ℤ
  deriving DecidableEq

/-- `jobs` holds the fire time of every job ever enqueued; `delivered` those for which an email was sent. -/
structure State where
  active : Bool
  createdAt : ℤ
  lastSentAt : Option ℤ
  jobs : List ℤ
  runs : Table ScheduledReportRun
  attempts : Table Attempt
  delivered : List ℤ
  clock : ℤ

/-- A job may be executed again, also while an earlier execution is under way; an execution may end at any point. -/
inductive Action
  | tick (now : ℤ)
  | prepare (job : ℕ) (now : ℤ)
  | send (attempt : ℕ) (accepted : Bool)
  | finalise (attempt : ℕ)
  | abandon (attempt : ℕ)
  | setActive (active : Bool)

def lookbackMs : ℤ := 24 * 60 * 60 * 1000

def runningRunGuardMs : ℤ := 10 * 60 * 1000

/-- The report as it is created. -/
def created (createdAt : ℤ) : State := ⟨true,createdAt,none,[],.empty,.empty,[],createdAt⟩

section
variable (prev : ℤ → Option ℤ)

/-- The fire time a tick finds the report due for; an invalid expression has none. -/
def isDue (lastSentAt : Option ℤ) (now : ℤ) : Option ℤ :=
  (prev now).filter fun fire => now - fire ≤ lookbackMs && lastSentAt.all fun sent => sent < fire

/-- A run that is under way and not older than the guard's window. -/
def guardHit (runs : Table ScheduledReportRun) (now : ℤ) : Bool :=
  runs.rows.any fun row => row.2.running && now - runningRunGuardMs ≤ row.2.startedAt

def preparePhase (s : State) (fire now : ℤ) : State :=
  if guardHit s.runs now then s
  else { s with runs := s.runs.insert ⟨true,now⟩,attempts := s.attempts.insert ⟨fire,s.runs.next,now,.prepared⟩ }

def finalisePhase (s : State) (attempt : ℕ) (a : Attempt) : State :=
  { s with
    runs := s.runs.modify a.runId fun run => { run with running := false }
    attempts := s.attempts.modify attempt fun a => { a with phase := .ended }
    lastSentAt := some a.generatedAt }

def sendPhase (s : State) (attempt : ℕ) (a : Attempt) (accepted : Bool) : State :=
  { s with
    attempts := s.attempts.modify attempt fun a => { a with phase := .sent }
    delivered := if accepted then s.delivered ++ [a.fire] else s.delivered }

@[grind] def step (s : State) : Action → State
  | .tick now =>
    { s with clock := now,jobs := if s.active then s.jobs ++ (isDue prev s.lastSentAt now).toList else s.jobs }
  | .prepare job now =>
    (s.jobs[job]?).elim { s with clock := now } fun fire => preparePhase { s with clock := now } fire now
  | .send attempt accepted =>
    (s.attempts.get? attempt).elim s fun a => if a.phase = .prepared then sendPhase s attempt a accepted else s
  | .finalise attempt =>
    (s.attempts.get? attempt).elim s fun a => if a.phase = .sent then finalisePhase s attempt a else s
  | .abandon attempt => { s with attempts := s.attempts.modify attempt fun a => { a with phase := .ended } }
  | .setActive active => { s with active := active }

/-- Ticks and executions read a clock that does not go back. -/
def OnTime (s : State) : Action → Prop
  | .tick now => s.clock ≤ now
  | .prepare _ now => s.clock ≤ now
  | _ => True

/-- A tick finds a report that was never sent due only for a time after its creation; and where an execution gets past
the guard, no execution for the same time has sent the report or may still do so. -/
def Harmless (s : State) : Action → Prop
  | .tick now => s.active = true → s.lastSentAt = none → ∀ fire ∈ isDue prev none now,s.createdAt < fire
  | .prepare job now => guardHit s.runs now = false → ∀ fire ∈ s.jobs[job]?,
      fire ∉ s.delivered ∧ ∀ attempt a,s.attempts.get? attempt = some a → a.fire = fire → a.phase ≠ .prepared
  | _ => True

/-- At most one delivery for a fire time, and none for a time before the report was created. -/
structure OncePerFireTime (s : State) : Prop where
  once : s.delivered.Nodup
  later : ∀ fire ∈ s.delivered,s.createdAt < fire

end

/-- What ticks and executions leave behind. -/
structure Kept (s : State) : Prop where
  toOncePerFireTime : OncePerFireTime s
  clock : s.createdAt ≤ s.clock
  lastSent : ∀ sent ∈ s.lastSentAt,s.createdAt ≤ sent
  jobs : ∀ fire ∈ s.jobs,s.createdAt < fire
  attempts : ∀ attempt a,s.attempts.get? attempt = some a → s.createdAt < a.fire ∧ s.createdAt ≤ a.generatedAt
  unsent : ∀ attempt a,s.attempts.get? attempt = some a → a.phase = .prepared → a.fire ∉ s.delivered
  apart : ∀ attempt a other b,s.attempts.get? attempt = some a → s.attempts.get? other = some b →
    a.phase = .prepared → b.phase = .prepared → a.fire = b.fire → attempt = other

section
variable {prev : ℤ → Option ℤ} {s : State}

theorem kept_created (createdAt : ℤ) : Kept (created createdAt) where
  toOncePerFireTime := ⟨List.nodup_nil,by simp [created]⟩
  clock := le_refl _
  lastSent := by simp [created]
  jobs := by simp [created]
  attempts := by simp [created]
  unsent := by simp [created]
  apart := by simp [created]

/-- A report is due for a time after its last delivery, which was not before its creation. -/
theorem Kept.createdAt_lt_due (h : Kept s) {now fire : ℤ} (hfire : fire ∈ isDue prev s.lastSentAt now)
    (hnever : s.lastSentAt = none → ∀ fire ∈ isDue prev none now,s.createdAt < fire) : s.createdAt < fire := by
  cases hlast : s.lastSentAt with
  | none =>
    rw [hlast] at hfire
    exact hnever hlast fire hfire
  | some sent =>
    rw [hlast] at hfire
    have hsent := h.lastSent sent hlast
    have hlater := (Option.filter_eq_some_iff.mp hfire).2
    simp only [Option.all_some,Bool.and_eq_true,decide_eq_true_eq] at hlater
    omega

theorem Kept.tick (h : Kept s) {now : ℤ} (htime : s.clock ≤ now) (hharmless : Harmless prev s (.tick now)) :
    Kept (step prev s (.tick now)) := by
  refine ⟨⟨h.toOncePerFireTime.once,h.toOncePerFireTime.later⟩,h.clock.trans htime,h.lastSent,?_,h.attempts,h.unsent,
    h.apart⟩
  intro fire hfire
  change fire ∈ (if s.active then s.jobs ++ (isDue prev s.lastSentAt now).toList else s.jobs) at hfire
  split at hfire
  · rename_i hactive
    rcases List.mem_append.mp hfire with hfire | hfire
    · exact h.jobs fire hfire
    · exact h.createdAt_lt_due (Option.mem_toList.mp hfire) (hharmless hactive)
  · exact h.jobs fire hfire

/-- An execution that has just begun is the only one for its time. -/
theorem Kept.prepare (h : Kept s) {job : ℕ} {now : ℤ} (htime : s.clock ≤ now)
    (hharmless : Harmless prev s (.prepare job now)) : Kept (step prev s (.prepare job now)) := by
  have hclock : Kept { s with clock := now } :=
    ⟨⟨h.toOncePerFireTime.once,h.toOncePerFireTime.later⟩,h.clock.trans htime,h.lastSent,h.jobs,h.attempts,h.unsent,
      h.apart⟩
  rw [step]
  cases hjob : s.jobs[job]? with
  | none => exact hclock
  | some fire =>
    rw [Option.elim_some,preparePhase]
    cases hguard : guardHit s.runs now with
    | true => exact hclock
    | false =>
      obtain ⟨hnew,hother⟩ := hharmless hguard fire hjob
      have hget : ∀ {attempt a},(s.attempts.insert ⟨fire,s.runs.next,now,.prepared⟩).get? attempt = some a →
          attempt = s.attempts.next ∧ a = ⟨fire,s.runs.next,now,.prepared⟩ ∨ s.attempts.get? attempt = some a := by
        intro attempt a ha
        rw [Table.get?_insert] at ha
        split at ha
        · exact .inl ⟨‹_›,(Option.some.inj ha).symm⟩
        · exact .inr ha
      refine ⟨⟨h.toOncePerFireTime.once,h.toOncePerFireTime.later⟩,h.clock.trans htime,h.lastSent,h.jobs,?_,?_,?_⟩
      · intro attempt a ha
        rcases hget ha with ⟨-,rfl⟩ | ha
        · exact ⟨h.jobs fire (List.mem_of_getElem? hjob),h.clock.trans htime⟩
        · exact h.attempts attempt a ha
      · intro attempt a ha hphase
        rcases hget ha with ⟨-,rfl⟩ | ha
        · exact hnew
        · exact h.unsent attempt a ha hphase
      · intro attempt a other b ha hb hap hbp heq
        rcases hget ha with ⟨rfl,rfl⟩ | ha
        · rcases hget hb with ⟨rfl,-⟩ | hb
          · rfl
          · exact absurd hbp (hother other b hb heq.symm)
        · rcases hget hb with ⟨rfl,rfl⟩ | hb
          · exact absurd hap (hother attempt a ha heq)
          · exact h.apart attempt a other b ha hb hap hbp heq

/-- The attempts after one of them has gone on to another phase. -/
theorem get?_phase {t : Table Attempt} {attempt other : ℕ} {phase : Phase} {b : Attempt}
    (hb : (t.modify attempt fun a => { a with phase := phase }).get? other = some b) :
    ∃ a,t.get? other = some a ∧ a.fire = b.fire ∧ a.generatedAt = b.generatedAt ∧
      (other = attempt ∧ b.phase = phase ∨ other ≠ attempt ∧ b = a) := by
  rw [Table.get?_modify] at hb
  split at hb
  · obtain ⟨a,ha,rfl⟩ := Option.map_eq_some_iff.mp hb
    exact ⟨a,ha,rfl,rfl,.inl ⟨‹_›,rfl⟩⟩
  · exact ⟨b,hb,rfl,rfl,.inr ⟨‹_›,rfl⟩⟩

theorem Kept.send (h : Kept s) (attempt : ℕ) (accepted : Bool) : Kept (step prev s (.send attempt accepted)) := by
  rw [step]
  cases ha : s.attempts.get? attempt with
  | none => exact h
  | some a =>
    rw [Option.elim_some]
    by_cases hphase : a.phase = .prepared
    · rw [if_pos hphase,sendPhase]
      have hlater := (h.attempts attempt a ha).1
      have hunsent := h.unsent attempt a ha hphase
      have hmem : ∀ fire,fire ∈ (if accepted then s.delivered ++ [a.fire] else s.delivered) →
          fire ∈ s.delivered ∨ fire = a.fire := by
        intro fire hfire
        cases accepted with
        | true => simpa using hfire
        | false => exact .inl hfire
      refine ⟨⟨?_,?_⟩,h.clock,h.lastSent,h.jobs,?_,?_,?_⟩
      · cases accepted with
        | true => exact List.nodup_append.mpr ⟨h.toOncePerFireTime.once,List.nodup_singleton _,by
            intro x hx y hy hxy
            rw [List.mem_singleton.mp hy] at hxy
            exact hunsent (hxy ▸ hx)⟩
        | false => exact h.toOncePerFireTime.once
      · intro fire hfire
        rcases hmem fire hfire with hfire | rfl
        · exact h.toOncePerFireTime.later fire hfire
        · exact hlater
      · intro other b hb
        obtain ⟨c,hc,hcf,hcg,-⟩ := get?_phase hb
        rw [← hcf,← hcg]
        exact h.attempts other c hc
      · intro other b hb hbp hdelivered
        obtain ⟨c,hc,-,-,⟨-,hsent⟩ | ⟨hne,rfl⟩⟩ := get?_phase hb
        · rw [hsent] at hbp
          cases hbp
        · rcases hmem b.fire hdelivered with hdelivered | heq
          · exact h.unsent other b hc hbp hdelivered
          · exact hne (h.apart other b attempt a hc ha hbp hphase heq)
      · intro other b third c hb hc hbp hcp heq
        obtain ⟨b',hb',-,-,⟨-,hsent⟩ | ⟨-,rfl⟩⟩ := get?_phase hb
        · rw [hsent] at hbp
          cases hbp
        · obtain ⟨c',hc',-,-,⟨-,hsent⟩ | ⟨-,rfl⟩⟩ := get?_phase hc
          · rw [hsent] at hcp
            cases hcp
          · exact h.apart other b third c hb' hc' hbp hcp heq
    · rw [if_neg hphase]
      exact h

/-- An execution that ends sends nothing any more. -/
theorem Kept.ended (h : Kept s) (attempt : ℕ) {lastSentAt : Option ℤ} (hlast : ∀ sent ∈ lastSentAt,s.createdAt ≤ sent)
    (runs : Table ScheduledReportRun) : Kept { s with
      runs := runs
      attempts := s.attempts.modify attempt fun a => { a with phase := .ended }
      lastSentAt := lastSentAt } := by
  have hopen : ∀ {other b},(s.attempts.modify attempt fun a => { a with phase := .ended }).get? other = some b →
      b.phase = .prepared → s.attempts.get? other = some b := by
    intro other b hb hbp
    obtain ⟨c,hc,-,-,⟨-,hended⟩ | ⟨-,rfl⟩⟩ := get?_phase hb
    · rw [hended] at hbp
      cases hbp
    · exact hc
  refine ⟨⟨h.toOncePerFireTime.once,h.toOncePerFireTime.later⟩,h.clock,hlast,h.jobs,?_,?_,?_⟩
  · intro other b hb
    obtain ⟨c,hc,hcf,hcg,-⟩ := get?_phase hb
    rw [← hcf,← hcg]
    exact h.attempts other c hc
  · exact fun other b hb hbp => h.unsent other b (hopen hb hbp) hbp
  · exact fun other b third c hb hc hbp hcp heq => h.apart other b third c (hopen hb hbp) (hopen hc hcp) hbp hcp heq

theorem Kept.finalise (h : Kept s) (attempt : ℕ) : Kept (step prev s (.finalise attempt)) := by
  rw [step]
  cases ha : s.attempts.get? attempt with
  | none => exact h
  | some a =>
    rw [Option.elim_some]
    split
    · refine h.ended attempt (fun sent hsent => ?_) _
      rw [← Option.some.inj hsent]
      exact (h.attempts attempt a ha).2
    · exact h

theorem Kept.step (h : Kept s) (action : Action) (htime : OnTime s action) (hharmless : Harmless prev s action) :
    Kept (step prev s action) := by
  cases action with
  | tick now => exact h.tick htime hharmless
  | prepare job now => exact h.prepare htime hharmless
  | send attempt accepted => exact h.send attempt accepted
  | finalise attempt => exact h.finalise attempt
  | abandon attempt => exact h.ended attempt h.lastSent s.runs
  | setActive active =>
    exact ⟨⟨h.toOncePerFireTime.once,h.toOncePerFireTime.later⟩,h.clock,h.lastSent,h.jobs,h.attempts,h.unsent,h.apart⟩

end

/-- The last time an hourly schedule has fired before a moment. -/
def hourly (now : ℤ) : Option ℤ := some ((now - 1) / 3600000 * 3600000)

/-- Created at a quarter past, found due for the full hour after it, and delivered. -/
def oneDelivery : List Action := [.tick 4500000,.prepare 0 4510000,.send 0 true,.finalise 0]

end EduPod.Reports.ScheduledReports
