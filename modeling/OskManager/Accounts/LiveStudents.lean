import OskManager.Courses.Enrolments
import OskManager.Schedule.ParticipantWrites

/-! Whoever adds a student to a lesson, to an event or to a course looks the account up first, and
takes none that is archived. Whoever changes the status of an enrolment does not. -/

namespace OSK

open Relational

variable {env : Env} {db db' : Db}

/-- The student is there, and the account is not archived. -/
def StudentLive (db : Db) (studentId : Uuid) : Prop :=
  ∃ p ∈ db.studentProfiles.rows, p.id = studentId ∧
    ∃ u, db.users.findUnique p.userId = some u ∧ u.deletedAt = none

/-- The participants of one event change, and the new ones are not archived. -/
def LiveParticipants (db : Db) (eventId : Uuid) (db' : Db) : Prop :=
  ∃ P, ParticipantsBecome db db' eventId P ∧
    ∀ s, P s → (eventId, s) ∈ db.eventParticipants.keys ∨ StudentLive db s

theorem LiveParticipants.refl (db : Db) (eventId : Uuid) : LiveParticipants db eventId db :=
  ⟨_, ParticipantsBecome.refl db eventId, fun _ hs => Or.inl hs⟩

theorem LiveParticipants.of_fails {α : Type} {p : Service α} {eventId : Uuid}
    (hp : Prog.FailsWithin (fun s t => t = s) p)
    (hok : ∀ a t, p db = (.ok a, t) → LiveParticipants db eventId t) :
    LiveParticipants db eventId (p db).2 := by
  rcases hp.cases db with ⟨a, ha⟩ | hs
  · exact hok a _ ha
  · rw [hs]
    exact LiveParticipants.refl db eventId

end OSK
