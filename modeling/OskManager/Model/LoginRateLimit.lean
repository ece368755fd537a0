import Mathlib.Data.List.Sort
import OskManager.Lib.Prog
import OskManager.Lib.Table

/-! The budgets of login attempts: `loginRateLimit.ts` and its table `login_rate_limit_buckets`. -/

namespace OSK

open Relational

/-- A value of `key VARCHAR(64)`. The callers send the 64 digits of a digest. -/
abbrev BucketKey := { key : String // key.length ≤ 64 ∧ Char.ofNat 0 ∉ key.toList }

/-- A time of the database, in microseconds since the start of the year 2000. -/
abbrev Timestamp := ℤ

/-- What a column `TIMESTAMPTZ(3)` keeps: whole milliseconds, halves rounded away from zero. -/
def toMilliseconds (t : ℤ) : ℤ :=
  if 0 ≤ t then (t + 500) / 1000 * 1000 else -((-t + 500) / 1000 * 1000)

structure LoginRateLimitBucket where
  key : BucketKey
  attempts : ℕ
  expiresAt : Timestamp
  deriving DecidableEq

abbrev LoginRateLimitBuckets := Table LoginRateLimitBucket.key

structure LoginBucket where
  key : BucketKey
  limit : ℕ

structure LoginLimitExceeded where
  deriving DecidableEq

/-- `CURRENT_TIMESTAMP + windowMs * INTERVAL '1 millisecond'`, as the column keeps it. -/
def windowEnd (windowMs : ℕ) (now : ℤ) : ℤ := toMilliseconds (now + windowMs * 1000)

/-- `DO UPDATE SET`: an expired window begins again. -/
def LoginRateLimitBucket.reserved (windowMs : ℕ) (now : Timestamp) (row : LoginRateLimitBucket) :
    LoginRateLimitBucket :=
  { row with
    attempts := if row.expiresAt ≤ now then 1 else row.attempts + 1
    expiresAt := if row.expiresAt ≤ now then windowEnd windowMs now else row.expiresAt }

@[simp] theorem LoginRateLimitBucket.key_reserved (windowMs : ℕ) (now : Timestamp)
    (row : LoginRateLimitBucket) : (row.reserved windowMs now).key = row.key := rfl

/-- The upsert of one bucket, with the attempts that it returns: none when its `WHERE` refuses. -/
def upsertBucket (windowMs : ℕ) (now : Timestamp) (bucket : LoginBucket) :
    Prog LoginLimitExceeded LoginRateLimitBuckets (List ℕ) := fun rows =>
  match h : rows.findUnique bucket.key with
  | none =>
    (.ok [1], rows.insert ⟨bucket.key, 1, windowEnd windowMs now⟩
      ((rows.findUnique_eq_none bucket.key).mp h))
  | some row =>
    if row.expiresAt ≤ now ∨ row.attempts < bucket.limit then
      (.ok [(row.reserved windowMs now).attempts],
        rows.update bucket.key (LoginRateLimitBucket.reserved windowMs now)
          (LoginRateLimitBucket.key_reserved windowMs now))
    else (.ok [], rows)

def reserveBuckets (windowMs : ℕ) (now : Timestamp) :
    List LoginBucket → Prog LoginLimitExceeded LoginRateLimitBuckets Unit
  | [] => pure ()
  | bucket :: rest => do
    let rows ← upsertBucket windowMs now bucket
    throwIf (rows.length = 0) LoginLimitExceeded.mk
    reserveBuckets windowMs now rest

/-- One transaction at the time `now`. The order of `localeCompare` is a parameter; the locks order
the transactions. -/
def reserveLoginAttempt (localeLE : BucketKey → BucketKey → Bool) (windowMs : ℕ) (now : Timestamp)
    (buckets : List LoginBucket) : Prog LoginLimitExceeded LoginRateLimitBuckets Unit :=
  Prog.transaction
    (reserveBuckets windowMs now
      (buckets.insertionSort fun a b => localeLE a.key b.key = true))

end OSK
