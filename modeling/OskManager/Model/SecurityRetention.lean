import OskManager.Model.SecurityDetection

/-! The two workers of the security log: `security-events/retention.ts`, which deletes what is
older than some days, and the loop of `security-events/detection.ts` over the queued keys. -/

namespace OSK

open Relational

/-! ### Retention -/

/-- `WHERE occurred_at < cutoff ORDER BY occurred_at, id FOR UPDATE SKIP LOCKED`. -/
def SecurityLog.doomed (log : SecurityLog) (cutoff : Instant) (locked : Uuid → Bool) :
    List SecurityEvent :=
  (log.events.findMany fun e => decide (e.occurredAt < cutoff) && !locked e.id).insertionSort
    fun a b => a.position ≤ b.position

def SecurityLog.without (log : SecurityLog) (doomed : List SecurityEvent) : SecurityLog :=
  { log with events := log.events.deleteMany fun e => decide (e.id ∈ doomed.map SecurityEvent.id) }

/-- One statement of the loop. It returns how many events it has deleted. -/
def pruneBatch (cutoff : Instant) (batchSize : ℕ) (locked : Uuid → Bool) :
    Prog Failure SecurityLog ℕ := do
  let doomed ← Prog.query fun log => .ok ((log.doomed cutoff locked).take batchSize)
  Prog.write fun log => log.without doomed
  return doomed.length

/-- The loop, `batches` of which are left. -/
def pruneBatches (cutoff : Instant) (batchSize : ℕ) (locked : ℕ → Uuid → Bool) :
    (batches deleted : ℕ) → Prog Failure SecurityLog ℕ
  | 0, deleted => pure deleted
  | batches + 1, deleted => do
    let count ← pruneBatch cutoff batchSize (locked batches)
    if count < batchSize then return deleted + count
    else pruneBatches cutoff batchSize locked batches (deleted + count)

def SecurityDetectionState.isIdle (cutoff : Instant) (s : SecurityDetectionState) : Bool :=
  decide (s.lastActiveAt < cutoff ∧ s.queuedGeneration ≤ s.doneGeneration)

def pruneStates (cutoff : Instant) : Prog Failure SecurityLog Unit :=
  Prog.write fun log =>
    { log with detectionStates := log.detectionStates.deleteMany fun s => s.isIdle cutoff }

def msPerRetentionDay : ℤ := 24 * 60 * 60 * 1000

/-- The last instant that a `Date` can hold. -/
def maxDate : ℤ := 8640000000000000

structure RetentionSettings where
  retentionDays : ℤ := 90
  batchSize : ℤ := 500
  maxBatches : ℤ := 10
  deriving DecidableEq, Repr

def RetentionSettings.isInvalid (s : RetentionSettings) : Bool :=
  !isSafeInteger s.retentionDays || decide (s.retentionDays < 1) || !isSafeInteger s.batchSize ||
    decide (s.batchSize < 1) || decide (5000 < s.batchSize) || !isSafeInteger s.maxBatches ||
      decide (s.maxBatches < 1) || decide (100 < s.maxBatches)

def RetentionSettings.cutoff (s : RetentionSettings) (now : Instant) : Instant :=
  now - s.retentionDays * msPerRetentionDay

/-- `locked` are the events that other transactions hold at each turn of the loop. -/
def pruneExpiredSecurityEvents (env : Env) (settings : RetentionSettings)
    (locked : ℕ → Uuid → Bool) : Prog Failure SecurityLog ℕ := do
  let cutoff := settings.cutoff env.now
  Prog.query fun _ => do
    throwIf (settings.isInvalid = true) (.other "Invalid security event retention settings")
    throwIf (maxDate < cutoff.natAbs) (.other "Invalid time value")
  let deleted ← pruneBatches cutoff settings.batchSize.toNat locked settings.maxBatches.toNat 0
  pruneStates cutoff
  return deleted

/-! ### The detection queue -/

/-- The loop of the worker, which may still take `maxStates` turns after `processed` of them. -/
def processStates (node : NodeRuntime) (env : Env) (locked : DetectionKey → Bool) :
    (maxStates processed : ℕ) → Prog Failure SecurityLog ℕ
  | 0, processed => pure processed
  | maxStates + 1, processed => do
    if ← processOne node env locked then
      processStates node env locked maxStates (processed + 1)
    else return processed

def processSecurityDetectionQueue (node : NodeRuntime) (env : Env) (locked : DetectionKey → Bool)
    (maxStates : ℕ := 20) : Prog Failure SecurityLog ℕ :=
  processStates node env locked maxStates 0

end OSK
