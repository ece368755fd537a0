import OskManager.Accounts.Obligations
import OskManager.Sample.SmallSchool
import OskManager.Schedule.EventSafety

/-! Archived accounts and the work that lies ahead. An account is archived only when it has none,
and whoever is given new work is looked up first. Three calls give back old work without a look at
the accounts, and one account can have work that its archiving does not look at. -/

namespace OSK

open Relational

section Work

variable {env : Env} {now : Instant} {schoolId : Uuid} {db db' : Db}

/-! ### Lessons -/

/-- A lesson that is moved lay ahead before, and a new instructor has been looked up. -/
theorem LessonMoved.mayWork {existing : Lesson} {course : Course} {slot : LessonSlot}
    {hlt : slot.start < slot.stop} (found : LessonMoved env db existing course slot)
    (ahead : (existing.moved slot hlt).LiesAhead env.now) :
    MayWork env.now db (.student existing.studentId) ∧
      MayWork env.now db (.instructor slot.instructorId.uuid) := by
  obtain ⟨hdeleted, hstatus, hstart⟩ := ahead
  have hbefore : existing.LiesAhead env.now := by
    refine ⟨hdeleted, hstatus, ?_⟩
    by_cases htime : existing.timeChanged slot = true
    · exact found.not_started (Or.inl htime)
    · simp only [Lesson.timeChanged, decide_eq_true_eq, not_or, ne_eq, not_not] at htime
      rw [← htime.1]
      exact hstart
  obtain ⟨hstudent, hinstructor⟩ := Lesson.mayWork found.mem hbefore
  refine ⟨hstudent, ?_⟩
  by_cases hchanged : existing.instructorChanged slot = true
  · exact Or.inr (found.instructor hchanged).2.not_archived
  · simp only [Lesson.instructorChanged, decide_eq_true_eq, ne_eq, not_not] at hchanged
    rw [hchanged]
    exact hinstructor

/-- Neither the instructor nor a participant of the event is of an archived account. -/
def NoneArchived (db : Db) (eventId instructorId : Uuid) : Prop :=
  ¬(Profile.instructor instructorId).Archived db ∧
    ∀ s, (eventId, s) ∈ db.eventParticipants.keys → ¬(Profile.student s).Archived db

theorem NoneArchived.mayWork {eventId instructorId : Uuid}
    (h : NoneArchived db eventId instructorId) : MayWork now db (.instructor instructorId) ∧
      ∀ s, (eventId, s) ∈ db.eventParticipants.keys → MayWork now db (.student s) :=
  ⟨Or.inr h.1, fun s hs => Or.inr (h.2 s hs)⟩

/-- The event lies ahead after the edit and did not before it. -/
def PreparedEventUpdate.MovesAhead (now : Instant) (u : PreparedEventUpdate) : Prop :=
  ¬u.current.LiesAhead now ∧ (u.current.rewritten u).LiesAhead now

/-- A new instructor has been looked up. -/
theorem PrepareEventRules.mayWork {actor : Actor} {eventId : Uuid} {body : PatchInstructorEventBody}
    {u : PreparedEventUpdate} (h : PrepareEventRules actor eventId body db u)
    (hbefore : MayWork now db (.instructor u.current.instructorId)) :
    MayWork now db (.instructor u.merged.instructorId.uuid) := by
  by_cases hsame : u.merged.instructorId.uuid = u.current.instructorId
  · rw [hsame]
    exact hbefore
  · rw [h.merged, mergeEvent] at hsame ⊢
    cases hbody : body.instructorId with
    | none =>
      rw [hbody] at hsame
      exact absurd (UuidText.uuid_ofUuid _) hsame
    | some i =>
      rw [hbody] at hsame
      have hnew := h.instructor_allowed i hbody (UuidText.ne_ofUuid_of_uuid_ne hsame)
      exact Or.inr (resolveActiveInstructorProfile_ok hnew.2).not_archived

/-- The event lies ahead after the change of status and did not before it. -/
def InstructorEvent.Reopened (now : Instant) (e : InstructorEvent) (status : EventStatus) : Prop :=
  e.isActive = true ∧ e.status = .cancelled ∧ status ≠ .cancelled ∧ now < e.startTime

theorem Obliged.congr {p : Profile} (hlessons : db'.lessons = db.lessons)
    (hevents : db'.instructorEvents = db.instructorEvents)
    (hparticipants : db'.eventParticipants = db.eventParticipants)
    (henrolments : db'.courseParticipants = db.courseParticipants)
    (hcourses : db'.courses = db.courses) (h : Obliged now db' p) : Obliged now db p := by
  cases h with
  | lessonStudent l hl ahead => exact .lessonStudent l (hlessons ▸ hl) ahead
  | lessonInstructor l hl ahead => exact .lessonInstructor l (hlessons ▸ hl) ahead
  | eventInstructor e he ahead => exact .eventInstructor e (hevents ▸ he) ahead
  | eventParticipant e he ahead s hs =>
    exact .eventParticipant e (hevents ▸ he) ahead s (hparticipants ▸ hs)
  | courseParticipant p hp active c found live =>
    exact .courseParticipant p (henrolments ▸ hp) active c (hcourses ▸ found) live
  | courseInstructor c hc live active i hi =>
    exact .courseInstructor c (hcourses ▸ hc) live active i hi

end Work

/-! ### Runs -/

/-- The operations that archive an account or give someone work, with their arguments. -/
inductive WorkCall where
  | archiveManagerAccount (actorId : Uuid) (requestedSchoolId : Option Uuid) (userId : Uuid)
  | bookLesson (actor : Actor) (body : BookLessonBody)
  | bookOwnLesson (actor : Actor) (body : BookOwnLessonBody)
  | updateLesson (actor : Actor) (lessonId : Uuid) (body : UpdateLessonBody)
  | createInstructorEvent (actor : Actor) (body : CreateInstructorEventBody)
  | updateInstructorEvent (actor : Actor) (eventId : Uuid) (body : PatchInstructorEventBody)
  | bulkUpdateEventStatus (actor : Actor) (body : BulkUpdateEventStatusBody)
  | assignStudentsToEvent (actor : Actor) (eventId : Uuid) (studentIds : List Uuid)
  | replaceEventStudents (actor : Actor) (eventId : Uuid) (studentIds : List Uuid)
  | assignStudentToCourseForStaff (actor : Actor) (studentUserId courseId : Uuid)
  | patchCourseParticipantStatusForStaff (actor : Actor) (studentUserId courseId : Uuid)
      (status : CourseParticipantStatus)
  | createCourseForUser (userId : Uuid) (body : CreateCourseBody)
  | patchCourseForOwner (userId courseId : Uuid) (body : PatchCourseBody)

namespace WorkCall

/-- The state a call leaves, whether it succeeds or fails. -/
def run (env : Env) (db : Db) : WorkCall → Db
  | .archiveManagerAccount actorId requestedSchoolId userId =>
    (OSK.archiveManagerAccount env actorId requestedSchoolId userId db).2
  | .bookLesson actor body => (OSK.bookLesson env actor body db).2
  | .bookOwnLesson actor body => (OSK.bookOwnLesson env actor body db).2
  | .updateLesson actor lessonId body => (OSK.updateLesson env actor lessonId body db).2
  | .createInstructorEvent actor body => (OSK.createInstructorEvent env actor body db).2
  | .updateInstructorEvent actor eventId body =>
    (OSK.updateInstructorEvent env actor eventId body db).2
  | .bulkUpdateEventStatus actor body => (OSK.bulkUpdateEventStatus actor body db).2
  | .assignStudentsToEvent actor eventId studentIds =>
    (OSK.assignStudentsToEvent env actor eventId studentIds db).2
  | .replaceEventStudents actor eventId studentIds =>
    (OSK.replaceEventStudents env actor eventId studentIds db).2
  | .assignStudentToCourseForStaff actor studentUserId courseId =>
    (OSK.assignStudentToCourseForStaff actor studentUserId courseId db).2
  | .patchCourseParticipantStatusForStaff actor studentUserId courseId status =>
    (OSK.patchCourseParticipantStatusForStaff actor studentUserId courseId status db).2
  | .createCourseForUser userId body => (OSK.createCourseForUser env userId body db).2
  | .patchCourseForOwner userId courseId body =>
    (OSK.patchCourseForOwner userId courseId body db).2

/-- A call whose checks pass gives no old work back to an archived account, and archives none that
has work of a profile which is not of its role. -/
def Careful (env : Env) (db : Db) : WorkCall → Prop
  | .archiveManagerAccount actorId requestedSchoolId userId => ∀ account,
    prepareArchive env db actorId requestedSchoolId userId = .ok account →
      account.user.deletedAt = none → ∀ p : Profile, p.BelongsTo db userId →
        ¬p.OfRole account.user.role → ¬Obliged env.now db p
  | .updateInstructorEvent actor eventId body => ∀ u, EventEditPasses env actor eventId body db u →
    u.MovesAhead env.now → NoneArchived db eventId u.merged.instructorId.uuid
  | .bulkUpdateEventStatus actor body => ∀ ids, StatusChangePasses actor body db ids →
    ∀ e ∈ db.instructorEvents.rows, e.id ∈ ids → e.Reopened env.now body.status →
      NoneArchived db e.id e.instructorId
  | .patchCourseParticipantStatusForStaff actor studentUserId courseId status => ∀ existing,
    prepareParticipantStatus db actor studentUserId courseId = .ok existing →
      existing.status = .finished → status = .active →
        ¬(Profile.student existing.studentId).Archived db
  | _ => True

/-- Calls with the clocks they run at, where `allowed` may refuse some. -/
def timeline (allowed : Env → Db → WorkCall → Prop) : Timeline (Env × WorkCall) Instant Db where
  time k := k.1.now
  allowed k db := allowed k.1 db k.2
  act k db := k.2.run k.1 db

end WorkCall

namespace ReopenedEnrolment

open SmallSchool

/-- The school, where both students have finished the course. -/
def start : Clocked Instant Db where
  now := clock 4 7 0
  store := { SmallSchool.db with
    courseParticipants := ⟨[⟨50, 30, .finished⟩, ⟨50, 31, .finished⟩], by decide⟩ }

def after (hour : ℤ) (call : WorkCall) (c : Clocked Instant Db) : Clocked Instant Db :=
  ⟨clock 4 hour 0, call.run (envAt (clock 4 hour 0)) c.store⟩

theorem after_step {allowed : Env → Db → WorkCall → Prop} {hour : ℤ} {call : WorkCall}
    {c : Clocked Instant Db} (hc : c.now ≤ clock 4 hour 0)
    (hallowed : allowed (envAt (clock 4 hour 0)) c.store call) :
    (WorkCall.timeline allowed).Step c (after hour call c) :=
  ⟨(envAt (clock 4 hour 0), call), hc, hallowed, rfl⟩

/-- The second student is archived. -/
def archiving : WorkCall := .archiveManagerAccount 1 (some 10) 4

def archived : Clocked Instant Db := after 8 archiving start

end ReopenedEnrolment

end OSK
