import OskManager.Model.SecurityDetection
import OskManager.Sample.SmallSchool

/-! A security log on which its theorems are tried: five failed logins of one user of the small
school in five minutes, the earliest recorded last, and a turn of the detector. -/

namespace OSK

open Relational

namespace FiveFailures

/-- Nothing is hashed here, and no address is given. -/
def node : NodeRuntime where
  sha256 _ := "4e0740"
  hmacSha256 _ text := text
  isIP _ := 0

def env (minute : ℤ) : SecurityEnv where
  toEnv := SmallSchool.envAt (SmallSchool.clock 20000 10 minute)
  hmacKey := none
  hmacKeyVersion := none

/-- A failed login of the user 7, which the school 10 sees. -/
def attempt (attemptId : String) : SecurityEventInput where
  type := .loginFailed
  source := "BE_HTTP"
  attemptId
  targetUserId := some 7
  schoolScopes := [{ schoolId := 10 }]

def recorded : SecurityLog :=
  [(1, "b"), (2, "c"), (3, "d"), (4, "e"), (0, "a")].foldl
    (fun log p => (recordSecurityEvent node (env p.1) (attempt p.2) log).2) {}

def log : SecurityLog := (processOne node (env 5).toEnv (fun _ => false) recorded).2

/-- The state of the user once the batch is done: quiet until ten minutes after the alarm. -/
def state : SecurityDetectionState where
  key := ⟨.global, .user 7⟩
  queuedGeneration := 5
  doneGeneration := 5
  nextEligibleAt := some (SmallSchool.clock 20000 10 14)
  lastProcessed := some (SmallSchool.clock 20000 10 4, 8)
  lastActiveAt := SmallSchool.clock 20000 10 0

theorem state_mem : state ∈ log.detectionStates.rows :=
  Table.mem_of_findUnique (k := ⟨.global, .user 7⟩) (by decide +kernel)

/-- The fifth failure of the window. -/
def fifth : SecurityEvent := (log.failures state.key).get ⟨3, by decide +kernel⟩

end FiveFailures

end OSK
