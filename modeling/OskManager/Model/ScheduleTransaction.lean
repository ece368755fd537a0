import OskManager.Model.Vehicles

/-! The transactions that write the schedule: `schedule-validation/transaction.ts`. The database
may answer that a transaction conflicts with another one; it is then tried again, three times in
all. -/

namespace OSK

open Relational

def maxSerializationAttempts : ℕ := 3

def scheduleChanged : Failure :=
  .conflict "Schedule changed while saving. Check availability and try again."

/-- The loop from `attempt` on, with `left` turns before it. `conflicts` says at which attempts the
database answers P2034; such an attempt has written nothing. -/
def scheduleAttempts {α : Type} (conflicts : ℕ → Bool) (write : Service α) :
    (left attempt : ℕ) → Service α
  | 0, _ => liftM (Except.error scheduleChanged : Except Failure α)
  | left + 1, attempt =>
    if conflicts attempt then
      if attempt = maxSerializationAttempts then
        liftM (Except.error scheduleChanged : Except Failure α)
      else scheduleAttempts conflicts write left (attempt + 1)
    else Prog.transaction write

def runScheduleWriteTransaction {α : Type} (conflicts : ℕ → Bool) (write : Service α) :
    Service α :=
  scheduleAttempts conflicts write maxSerializationAttempts 1

end OSK
