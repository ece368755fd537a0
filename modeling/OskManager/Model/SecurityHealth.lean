import OskManager.Lib.Calls
import OskManager.Model.SecurityLogList

/-! The health of the security log: `security-events/health.ts`. A report of a failure is remembered
in the process until a write of it has been answered. The handlers of several reports may be under
way at the same time, and the transaction of each is committed, answered or given up on its own. -/

namespace OSK

open Relational

inductive Component where
  | writer | detector
  deriving DecidableEq, Repr

structure HealthRow where
  component : Component
  lastSuccessAt : Option Instant := none
  lastFailureAt : Option Instant := none

/-- A `Date` object, which is equal to itself only: the call that made it and its time. -/
structure Moment where
  call : ℕ
  time : Instant
  deriving DecidableEq, Repr

/-- The two maps of the module. -/
structure HealthProcess where
  pendingFailures : Component → Option Moment := fun _ => none
  lastReports : Component → Option Instant := fun _ => none

/-- A call that has reached its transaction. -/
structure HealthReport where
  component : Component
  success : Bool
  now : Moment
  failure : Option Moment
  deriving DecidableEq

/-! ### Reporting -/

/-- `if (!success) pendingFailures.set(component, now)`. -/
def HealthProcess.noted (component : Component) (success : Bool) (now : Moment)
    (p : HealthProcess) : HealthProcess :=
  { p with
    pendingFailures := if success then p.pendingFailures
      else Function.update p.pendingFailures component (some now) }

/-- A success shortly after a report that was answered, with nothing pending. -/
def HealthProcess.skips (component : Component) (success : Bool) (now : Moment)
    (p : HealthProcess) : Bool :=
  success && (p.pendingFailures component).isNone &&
    decide (now.time - (p.lastReports component).getD 0 < 5000)

/-- `reportSecurityHealth` up to its transaction, if it needs one. -/
def beginHealthReport (component : Component) (success : Bool) (now : Moment) (p : HealthProcess) :
    HealthProcess × Option HealthReport :=
  let p := p.noted component success now
  (p, if p.skips component success now then none
    else some { component, success, now, failure := p.pendingFailures component })

/-- `GREATEST`, which passes over NULL. -/
def greatest : Option Instant → Option Instant → Option Instant
  | some a, some b => some (max a b)
  | some a, none => some a
  | none, b => b

def HealthReport.row (r : HealthReport) : HealthRow where
  component := r.component
  lastSuccessAt := if r.success then some r.now.time else none
  lastFailureAt := r.failure.map Moment.time

def HealthRow.raised (excluded row : HealthRow) : HealthRow :=
  { row with
    lastSuccessAt := greatest row.lastSuccessAt excluded.lastSuccessAt
    lastFailureAt := greatest row.lastFailureAt excluded.lastFailureAt }

/-- `INSERT … ON CONFLICT (component) DO UPDATE`. -/
def storeHealthReport (r : HealthReport) (rows : Table HealthRow.component) :
    Table HealthRow.component :=
  if h : r.component ∈ rows.keys then rows.update r.component r.row.raised fun _ => rfl
  else rows.insert r.row h

/-- What follows the transaction. -/
def HealthReport.answered (r : HealthReport) (p : HealthProcess) : HealthProcess where
  lastReports := Function.update p.lastReports r.component (some r.now.time)
  pendingFailures :=
    if p.pendingFailures r.component = r.failure then
      Function.update p.pendingFailures r.component none
    else p.pendingFailures

/-- The `catch`: a write that fails is a failure of its own, unless one is remembered. -/
def HealthReport.failed (r : HealthReport) (p : HealthProcess) : HealthProcess :=
  { p with
    pendingFailures :=
      if (p.pendingFailures r.component).isNone then
        Function.update p.pendingFailures r.component (some r.now)
      else p.pendingFailures }

/-! ### Reports under way -/

/-- The process, the table and the reports between the two: handlers that wait, transactions that
may still be committed and those that have been. -/
structure Health where
  process : HealthProcess := {}
  rows : Table HealthRow.component := .empty
  waiting : List HealthReport := []
  writes : List HealthReport := []
  stored : List HealthReport := []
  clock : Instant := 0
  calls : ℕ := 0

inductive HealthStep where
  | report (component : Component) (success : Bool) (time : Instant)
  | commit (r : HealthReport)
  | answer (r : HealthReport)
  | fail (r : HealthReport)
  | foreign (r : HealthReport)
  | restart

namespace Health

/-- The clock of the process does not go back. An answer follows the commit; a handler may give up
before or after it. -/
def Allowed : HealthStep → Health → Prop
  | .report _ _ time, s => s.clock ≤ time
  | .commit r, s => r ∈ s.writes
  | .answer r, s => r ∈ s.waiting ∧ r ∈ s.stored
  | .fail r, s => r ∈ s.waiting
  | .foreign _, _ => True
  | .restart, _ => True

/-- One step: of a handler, of the database, of another process or the loss of this one, whose
transactions may still be committed. -/
def act : HealthStep → Health → Health
  | .report component success time, s =>
    let begun := beginHealthReport component success ⟨s.calls, time⟩ s.process
    { s with
      process := begun.1
      waiting := begun.2.toList ++ s.waiting
      writes := begun.2.toList ++ s.writes
      clock := time
      calls := s.calls + 1 }
  | .commit r, s =>
    { s with
      rows := storeHealthReport r s.rows
      writes := s.writes.erase r
      stored := r :: s.stored }
  | .answer r, s => { s with process := r.answered s.process, waiting := s.waiting.erase r }
  | .fail r, s => { s with process := r.failed s.process, waiting := s.waiting.erase r }
  | .foreign r, s => { s with rows := storeHealthReport r s.rows }
  | .restart, s => { s with process := {}, waiting := [] }

end Health

def healthSteps : Calls HealthStep Health := ⟨Health.Allowed, Health.act⟩

/-! ### The status -/

/-- What the status reads from the environment of the process: whether the detection is not switched
off and how long the three secrets are, where a missing one has length 0. -/
structure HealthConfig where
  detectionEnabled : Bool
  secretLengths : List ℕ

/-- `EXISTS` of a queued key that has waited for 30 s, by the clock of the database. -/
def queueDelayed (states : List SecurityDetectionState) (dbNow : Instant) : Bool :=
  states.any fun s =>
    decide (s.doneGeneration < s.queuedGeneration ∧ s.lastActiveAt < dbNow - 30000)

/-- The rows are read first, then the maps of the process, then the queue; `none` is a read that
has failed. -/
def getSecurityCollectionStatus (config : HealthConfig) (rows : Option (List HealthRow))
    (p : HealthProcess) (now : Instant) (queue : Option (List SecurityDetectionState × Instant)) :
    CollectionStatus :=
  if !config.detectionEnabled then .degraded
  else if config.secretLengths.any fun n => decide (n < 32) then .degraded
  else match rows with
  | none => .unknown
  | some rows =>
    if [Component.writer, .detector].any (fun c => (p.pendingFailures c).isSome) ||
        rows.any (fun r => r.lastFailureAt.any fun t => decide (now - t < 300000)) then .degraded
    else match (rows.find? fun r => decide (r.component = .detector)).bind (·.lastSuccessAt) with
    | none => .unknown
    | some t =>
      if 30000 < now - t then .degraded
      else match queue with
      | none => .unknown
      | some (states, dbNow) => if queueDelayed states dbNow then .degraded else .ok

end OSK
