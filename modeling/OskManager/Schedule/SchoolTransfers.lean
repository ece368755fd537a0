import OskManager.Lib.TwoPhase
import OskManager.Model.InstructorCommands
import OskManager.Sample.SmallSchool
import OskManager.Schedule.EventWrites
import OskManager.Schedule.LessonWrites

/-! An instructor who changes the school. The check for obligations and the change are two steps,
and so are the checks of a booking and its write, so a booking can come in between. A lesson is
safe, as its vehicle is checked against the instructor's school once more; the change itself and
a new event rely on what they have read. -/

namespace OSK

open Relational Interleaving

/-! ### Work that lies ahead -/

/-- Every lesson that is not cancelled and every active event that starts later has an instructor
of its school. -/
structure FutureWorkLinked (now : Instant) (db : Db) : Prop where
  lessons : ∀ l ∈ db.lessons.rows, l.status ≠ .cancelled → now < l.startTime →
    ∃ c, db.courses.findUnique l.courseId = some c ∧
      (instructorLink db l.instructorId c.schoolId).isSome = true
  events : ∀ e ∈ db.instructorEvents.rows, e.isActive = true → now < e.startTime →
    (instructorLink db e.instructorId e.schoolId).isSome = true

theorem FutureWorkLinked.later {now t : Instant} {db : Db} (h : FutureWorkLinked now db)
    (hle : now ≤ t) : FutureWorkLinked t db where
  lessons l hl hstatus hstart := h.lessons l hl hstatus (hle.trans_lt hstart)
  events e he hactive hstart := h.events e he hactive (hle.trans_lt hstart)

theorem FutureWorkLinked.refreshed {now : Instant} {db : Db} (h : FutureWorkLinked now db)
    (p : Vehicle → Bool) : FutureWorkLinked now (db.refreshed p) := ⟨h.lessons, h.events⟩

theorem instructorLink_isSome {db : Db} {instructorId schoolId : Uuid} :
    (instructorLink db instructorId schoolId).isSome = true ↔
      ∃ l ∈ db.instructorSchools.rows, l.instructorId = instructorId ∧ l.schoolId = schoolId := by
  rw [instructorLink, Table.findFirst_isSome]
  simp only [decide_eq_true_eq]

/-! ### Bookings -/

section Bookings

variable {env : Env} {db db' : Db}

/-- The checks of a booking by the school before its transaction. -/
def prepareBookLesson (env : Env) (db : Db) (actor : Actor) (body : BookLessonBody) :
    Except Failure PracticeLessonInput := do
  let course ← loadCourseForBooking db body.courseId
  assertLessonTimeIsBookable env db body.startTime course.schoolId
  assertActorCanBookLessonForCourse db actor course.schoolId
  let studentProfileId ← loadStudentProfileIdForUser db body.studentId
  assertStudentParticipatesInCourse db course.id studentProfileId true
  assertInstructorCanBookCourse db body.instructorId course true
  return { course, studentProfileId, instructorId := body.instructorId
           start := body.startTime, stop := body.endTime }

theorem bookLesson_twoPhase (actor : Actor) (body : BookLessonBody) :
    bookLesson env actor body = (do
      let input ← Prog.query fun db => prepareBookLesson env db actor body
      createPracticeLessonForStudent env input (bookedVehicle env body)) := by
  simp only [bookLesson, prepareBookLesson, Prog.query_except_bind, Prog.bind_assoc]
  rfl

/-- The checks of a new event before its transaction; the school it will be stored with. -/
def prepareCreateInstructorEvent (env : Env) (actor : Actor) (body : CreateInstructorEventBody) :
    Service Uuid := do
  Prog.query fun db => assertActorCanManageAvailability db actor body.instructorId
  Prog.query fun db => resolveActiveInstructorProfile db body.instructorId
  let schoolId ← Prog.query fun db =>
    resolveInstructorEventSchoolId db body.instructorId body.courseId body.vehicleId
  Prog.query fun db => forSome body.courseId fun courseId =>
    assertCourseEligibleForInstructorEvent db body.instructorId courseId
  validateDriveVehicle env body.type body.instructorId body.vehicleId true
  return schoolId

def writeCreateInstructorEvent (env : Env) (body : CreateInstructorEventBody) (schoolId : Uuid) :
    Service InstructorEventDto := do
  let row ← Prog.transaction do
    let _ ← Prog.query fun db =>
      assertScheduleDurationAllowed db schoolId (.event body.type) body.startTime body.endTime
    Prog.query fun db => assertInstructorEventWindowAvailable env.zone db
      { instructorId := body.instructorId, start := body.startTime, stop := body.endTime }
    Prog.query fun db => onlyIf (body.type = .drive) (forSome body.storedVehicleId fun vehicleId =>
      assertVehicleAvailableForEventWindow db vehicleId body.startTime body.endTime)
    createEventRow env body schoolId body.storedVehicleId
  return mapInstructorEventWriteDto row

theorem createInstructorEvent_twoPhase (actor : Actor) (body : CreateInstructorEventBody) :
    createInstructorEvent env actor body = (do
      let schoolId ← prepareCreateInstructorEvent env actor body
      writeCreateInstructorEvent env body schoolId) := by
  simp only [createInstructorEvent, prepareCreateInstructorEvent, Prog.bind_assoc]
  rfl

/-- The vehicle rules of a booking look the instructor's school up again. -/
theorem bookedVehicle_linked {body : BookLessonBody} {course : CourseForBooking} {v : Uuid}
    (h : bookedVehicle env body course db = (.ok v, db')) :
    (instructorLink db body.instructorId course.schoolId).isSome = true := by
  simp only [bookedVehicle, assertVehicleAvailableForBooking, validateVehicleForInstructor,
    Prog.bind_eq_ok, Prog.query_eq_ok, Prog.pure_eq_ok, Prog.when_eq_ok, throwIf_eq_ok,
    orThrow_eq_ok, Bool.not_eq_true, Option.isNone_eq_false_iff] at h
  obtain ⟨_, _, ⟨_, s, hs, _, _, ⟨hinschool, rfl⟩, _, _, ⟨_, rfl⟩, _, _,
    ⟨vehicle, _, ⟨hvehicle, rfl⟩, _, t, ht, _, _, ⟨_, rfl⟩, hlink, rfl⟩, _⟩, _⟩ := h
  obtain ⟨p, rfl⟩ := (refreshExpired_keeps env _).run hs
  have hrest : t.instructorSchools = db.instructorSchools := by
    rcases ht with ⟨_, ht⟩ | ⟨_, ht⟩
    · rw [← Prog.write_eq_ok.mp ht]
      rfl
    · rw [← ht]
      rfl
  have hschool : vehicle.schoolId = course.schoolId := by
    obtain ⟨w, hw⟩ := Option.isSome_iff_exists.mp hinschool
    obtain ⟨hwm, hw⟩ := Table.mem_of_findFirst hw
    obtain ⟨hvm, hv⟩ := Table.mem_of_findFirst hvehicle
    rw [decide_eq_true_eq] at hw hv
    rw [← hw.2.1, Table.key_inj _ hvm hwm (hv.1.trans hw.1.symm)]
  rw [instructorLink, hrest, hschool] at hlink
  exact hlink

theorem writeCreateInstructorEvent_ok {body : CreateInstructorEventBody} {schoolId : Uuid}
    {dto : InstructorEventDto}
    (h : writeCreateInstructorEvent env body schoolId db = (.ok dto, db')) :
    db' = db.insertEvent env body schoolId body.storedVehicleId := by
  simp only [writeCreateInstructorEvent, Prog.bind_eq_ok, Prog.transaction_eq_ok,
    Prog.query_eq_ok, Prog.pure_eq_ok] at h
  obtain ⟨_, _, ⟨_, _, ⟨_, rfl⟩, _, _, ⟨_, rfl⟩, _, _, ⟨_, rfl⟩, hrow⟩, _, rfl⟩ := h
  cases hrow
  rfl

theorem writeCreateInstructorEvent_fails (body : CreateInstructorEventBody) (schoolId : Uuid) :
    Prog.FailsWithin Refreshed (writeCreateInstructorEvent env body schoolId) :=
  Prog.FailsWithin.map (Prog.FailsWithin.transaction Refreshed.refl _) _

theorem writeSchoolChange_ok {actor : Actor} {change : PreparedSchoolChange}
    (h : writeSchoolChange env actor change db = (.ok (), db')) :
    assertSchoolChangeAllowed env db actor change = .ok () ∧ db' = db.changeSchool change := by
  simp only [writeSchoolChange, Prog.bind_eq_ok, Prog.transaction_eq_ok, Prog.query_eq_ok,
    Prog.write_eq_ok] at h
  obtain ⟨_, _, ⟨hallowed, rfl⟩, _, _, ⟨_, rfl⟩, rfl⟩ := h
  exact ⟨hallowed, rfl⟩

/-- The instructor is still linked to the school that the checks have found. -/
theorem assertSchoolChangeAllowed_link {actor : Actor} {change : PreparedSchoolChange}
    (h : assertSchoolChangeAllowed env db actor change = .ok ()) :
    ∃ link ∈ db.instructorSchools.rows, link.instructorId = change.instructorId ∧
      change.currentSchoolId = some link.schoolId := by
  simp only [assertSchoolChangeAllowed, except_bind_eq_ok, orThrow_eq_ok, throwIf_eq_ok,
    not_or, not_not] at h
  obtain ⟨_, _, current, hcurrent, _, _, hnone, hlink⟩ := h
  rw [Table.key_of_findUnique hcurrent] at hlink
  obtain ⟨link, hl, hs⟩ := Option.map_eq_some_iff.mp
    (hlink.trans (Option.some_get (Option.isSome_iff_ne_none.mpr hnone)).symm)
  obtain ⟨hmem, hid⟩ := Table.mem_of_findFirst hl
  refine ⟨link, hmem, of_decide_eq_true hid, ?_⟩
  rw [hs, Option.some_get]

end Bookings

/-! ### What each write keeps -/

section Writes

variable {env : Env} {now : Instant} {db db' : Db}

theorem createPracticeLesson_linked {body : BookLessonBody} {input : PracticeLessonInput}
    {dto : LessonDto} (hinstructor : input.instructorId = body.instructorId)
    (h : FutureWorkLinked now db)
    (hok : createPracticeLessonForStudent env input (bookedVehicle env body) db = (.ok dto, db')) :
    FutureWorkLinked now db' := by
  obtain ⟨course, v, p, hcourse, hv, hlt, rfl⟩ :=
    createPracticeLesson_ok (bookedVehicle_keeps env body) hok
  have hlink := bookedVehicle_linked hv
  obtain ⟨c, hc, rfl⟩ := (loadCourseForBooking_eq_ok ..).mp hcourse
  refine ⟨fun l hl hstatus hstart => ?_, h.events⟩
  rcases (mem_insertLesson hlt).mp hl with hl | rfl
  · exact h.lessons l hl hstatus hstart
  · refine ⟨c, Table.findUnique_of_mem (Table.mem_of_findFirst hc).1, ?_⟩
    rw [← hinstructor] at hlink
    exact hlink

theorem insertEvent_linked {body : CreateInstructorEventBody} {schoolId : Uuid}
    {vehicleId : Option Uuid} (h : FutureWorkLinked now db)
    (hlink : (instructorLink db body.instructorId schoolId).isSome = true) :
    FutureWorkLinked now (db.insertEvent env body schoolId vehicleId) := by
  refine ⟨h.lessons, fun e he hactive hstart => ?_⟩
  rcases mem_insertEvent.mp he with he | rfl
  · exact h.events e he hactive hstart
  · exact hlink

/-- The obligations that the check looks for, and no lesson that it overlooks: one that is deleted
or belongs to a deleted course. -/
def NothingAhead (env : Env) (db : Db) (change : PreparedSchoolChange) : Prop :=
  assertInstructorCanChangeSchool env db change.instructorId change.currentSchoolId = .ok () ∧
  ∀ l ∈ db.lessons.rows, l.instructorId = change.instructorId → l.status ≠ .cancelled →
    env.now < l.startTime → l.deletedAt = none ∧
      ∀ c ∈ db.courses.findUnique l.courseId, c.deletedAt = none

instance decidableNothingAhead (env : Env) (db : Db) (change : PreparedSchoolChange) :
    Decidable (NothingAhead env db change) :=
  inferInstanceAs (Decidable (_ = _ ∧ ∀ l ∈ db.lessons.rows, _))

theorem assertInstructorCanChangeSchool_eq_ok {instructorId schoolId : Uuid}
    (h : assertInstructorCanChangeSchool env db instructorId (some schoolId) = .ok ()) :
    (∀ l ∈ db.lessons.rows, l.instructorId = instructorId → l.deletedAt = none →
      env.now ≤ l.startTime → l.inActiveCourseOf db schoolId = false) ∧
    ∀ e ∈ db.instructorEvents.rows, e.instructorId = instructorId → e.schoolId = schoolId →
      e.isActive = true → ¬env.now ≤ e.startTime := by
  simp only [assertInstructorCanChangeSchool, forSome, Option.elim_some, throwIf_eq_ok, not_or,
    gt_iff_lt, not_lt, Nat.le_zero, Table.count, List.length_eq_zero_iff, Table.findMany,
    List.filter_eq_nil_iff, Bool.and_eq_true, decide_eq_true_eq] at h
  obtain ⟨hlessons, hevents, -⟩ := h
  refine ⟨fun l hl hid hdeleted hstart => ?_, fun e he hid hschool hactive hstart => ?_⟩
  · rw [← Bool.not_eq_true]
    exact fun hcourse => hlessons l hl ⟨⟨hid, hdeleted, hstart⟩, hcourse⟩
  · exact hevents e he ⟨hid, hschool, hactive, hstart⟩

theorem instructorLink_changeSchool {change : PreparedSchoolChange} {instructorId schoolId : Uuid}
    (hother : instructorId ≠ change.instructorId)
    (h : (instructorLink db instructorId schoolId).isSome = true) :
    (instructorLink (db.changeSchool change) instructorId schoolId).isSome = true := by
  obtain ⟨l, hl, rfl, rfl⟩ := instructorLink_isSome.mp h
  refine instructorLink_isSome.mpr ⟨l, ?_, rfl, rfl⟩
  have hkept := (Table.mem_deleteMany db.instructorSchools
    (fun l => decide (l.instructorId = change.instructorId)) l).mpr ⟨hl, decide_eq_false hother⟩
  exact List.mem_append_left _ hkept

/-- A change of school with nothing ahead strands nothing. -/
theorem changeSchool_linked {actor : Actor} {change : PreparedSchoolChange}
    (h : FutureWorkLinked env.now db)
    (hallowed : assertSchoolChangeAllowed env db actor change = .ok ())
    (hahead : NothingAhead env db change) :
    FutureWorkLinked env.now (db.changeSchool change) := by
  obtain ⟨hcheck, hseen⟩ := hahead
  obtain ⟨link, hlink, hid, hcurrent⟩ := assertSchoolChangeAllowed_link hallowed
  rw [hcurrent] at hcheck
  obtain ⟨hlessons, hevents⟩ := assertInstructorCanChangeSchool_eq_ok hcheck
  have hschool {schoolId : Uuid}
      (hs : (instructorLink db change.instructorId schoolId).isSome = true) :
      schoolId = link.schoolId := by
    obtain ⟨l, hl, hli, rfl⟩ := instructorLink_isSome.mp hs
    rw [Table.key_inj _ hl hlink (hli.trans hid.symm)]
  refine ⟨fun l hl hstatus hstart => ?_, fun e he hactive hstart => ?_⟩
  · obtain ⟨c, hc, hs⟩ := h.lessons l hl hstatus hstart
    refine ⟨c, hc, instructorLink_changeSchool (fun hinstructor => ?_) hs⟩
    obtain ⟨hdeleted, hcourse⟩ := hseen l hl hinstructor hstatus hstart
    have hnot := hlessons l hl hinstructor hdeleted hstart.le
    rw [hinstructor] at hs
    simp [Lesson.inActiveCourseOf, hc, hschool hs, hcourse c hc] at hnot
  · have hs := h.events e he hactive hstart
    refine instructorLink_changeSchool (fun hinstructor => ?_) hs
    rw [hinstructor] at hs
    exact hevents e he hinstructor (hschool hs) hactive hstart.le

end Writes

/-! ### Requests -/

/-- A write phase and what its checks have handed over. -/
inductive PendingInstructorWrite where
  | assignInstructorToSchool (env : Env) (actor : Actor) (change : Option PreparedSchoolChange)
  | bookLesson (env : Env) (body : BookLessonBody) (input : PracticeLessonInput)
  | createInstructorEvent (env : Env) (body : CreateInstructorEventBody) (schoolId : Uuid)

namespace PendingInstructorWrite

def env : PendingInstructorWrite → Env
  | .assignInstructorToSchool env .. | .bookLesson env .. | .createInstructorEvent env .. => env

def run : PendingInstructorWrite → Service Unit
  | .assignInstructorToSchool env actor change => Prog.whenSome change (writeSchoolChange env actor)
  | .bookLesson env body input =>
    Prog.discard (createPracticeLessonForStudent env input (bookedVehicle env body))
  | .createInstructorEvent env body schoolId =>
    Prog.discard (writeCreateInstructorEvent env body schoolId)

/-- What the checks have found and the write does not look up again is still so. -/
def Fresh (db : Db) : PendingInstructorWrite → Prop
  | .assignInstructorToSchool env _ prepared => ∀ change ∈ prepared, NothingAhead env db change
  | .bookLesson .. => True
  | .createInstructorEvent _ body schoolId =>
    (instructorLink db body.instructorId schoolId).isSome = true

instance decidableFresh (db : Db) : (w : PendingInstructorWrite) → Decidable (w.Fresh db)
  | .assignInstructorToSchool env _ prepared =>
    inferInstanceAs (Decidable (∀ change ∈ prepared, NothingAhead env db change))
  | .bookLesson .. => .isTrue trivial
  | .createInstructorEvent _ body schoolId =>
    inferInstanceAs (Decidable ((instructorLink db body.instructorId schoolId).isSome = true))

end PendingInstructorWrite

/-- A request with its arguments and the clocks of its phases. -/
inductive InstructorRequest where
  | assignInstructorToSchool (readEnv writeEnv : Env) (actor : Actor) (instructorId : Uuid)
      (schoolId : UuidText)
  | bookLesson (readEnv writeEnv : Env) (actor : Actor) (body : BookLessonBody)
  | createInstructorEvent (readEnv writeEnv : Env) (actor : Actor) (body : CreateInstructorEventBody)

namespace InstructorRequest

def readEnv : InstructorRequest → Env
  | .assignInstructorToSchool readEnv .. | .bookLesson readEnv ..
  | .createInstructorEvent readEnv .. => readEnv

def read : InstructorRequest → Service PendingInstructorWrite
  | .assignInstructorToSchool readEnv writeEnv actor instructorId schoolId => do
    let change ← Prog.query fun db => prepareSchoolChange readEnv db actor instructorId schoolId
    return .assignInstructorToSchool writeEnv actor change
  | .bookLesson readEnv writeEnv actor body => do
    let input ← Prog.query fun db => prepareBookLesson readEnv db actor body
    return .bookLesson writeEnv body input
  | .createInstructorEvent readEnv writeEnv actor body => do
    let schoolId ← prepareCreateInstructorEvent readEnv actor body
    return .createInstructorEvent writeEnv body schoolId

def twoPhase (request : InstructorRequest) :
    TwoPhase Failure (Clocked Instant Db) PendingInstructorWrite Unit where
  read := request.read.runAt request.readEnv.now
  write w := w.run.runAt w.env.now

/-- Without interruption the two phases are the operation. -/
theorem whole_assignInstructorToSchool (env : Env) (actor : Actor) (instructorId : Uuid)
    (schoolId : UuidText) :
    (assignInstructorToSchool env env actor instructorId schoolId).twoPhase.whole =
      (Prog.discard (assignInstructorToSchoolForManagerOrAdmin env actor instructorId
        schoolId)).runAt env.now := by
  funext c
  simp only [TwoPhase.whole, twoPhase, read, assignInstructorToSchoolForManagerOrAdmin, Prog.runAt,
    Prog.bind_run, Prog.discard, Prog.query]
  cases prepareSchoolChange env c.store actor instructorId schoolId with
  | error e => rfl
  | ok change =>
    simp only [Prog.pure_run, PendingInstructorWrite.run, PendingInstructorWrite.env]
    rcases Prog.whenSome change (writeSchoolChange env actor) c.store with ⟨_ | _, _⟩ <;> rfl

theorem read_keeps (request : InstructorRequest) : Prog.Keeps Refreshed request.read := by
  cases request with
  | assignInstructorToSchool => exact keeps_bind (keeps_query _) fun _ => keeps_pure _
  | bookLesson => exact keeps_bind (keeps_query _) fun _ => keeps_pure _
  | createInstructorEvent readEnv writeEnv actor body =>
    refine keeps_bind ?_ fun _ => keeps_pure _
    refine keeps_bind (keeps_query _) fun _ => keeps_bind (keeps_query _) fun _ => ?_
    refine keeps_bind (keeps_query _) fun _ => keeps_bind (keeps_query _) fun _ => ?_
    exact keeps_bind (validateDriveVehicle_keeps _ _ _ _ _) fun _ => keeps_pure _

theorem read_bookLesson {request : InstructorRequest} {env : Env} {body : BookLessonBody}
    {input : PracticeLessonInput} {s t : Db}
    (h : request.read s = (.ok (.bookLesson env body input), t)) :
    input.instructorId = body.instructorId := by
  cases request <;> simp only [read, Prog.bind_eq_ok, Prog.query_eq_ok, Prog.pure_eq_ok,
    reduceCtorEq, false_and, and_false, exists_false, PendingInstructorWrite.bookLesson.injEq] at h
  obtain ⟨input', _, ⟨hp, rfl⟩, ⟨rfl, rfl, rfl⟩, rfl⟩ := h
  simp only [prepareBookLesson, except_bind_eq_ok, pure, Except.pure, Except.ok.injEq] at hp
  obtain ⟨_, _, _, _, _, _, _, _, _, _, _, _, rfl⟩ := hp
  rfl

end InstructorRequest

theorem linked_after {α : Type} {p : Service α} {now : Instant} {db : Db}
    (hfail : Prog.FailsWithin Refreshed p) (h : FutureWorkLinked now db)
    (hok : ∀ r db', p db = (.ok r, db') → FutureWorkLinked now db') :
    FutureWorkLinked now (p db).2 := by
  rcases hfail.cases db with ⟨r, hr⟩ | ⟨p, hr⟩
  · exact hok r _ hr
  · rw [hr]
    exact h.refreshed p

theorem PendingInstructorWrite.run_linked {w : PendingInstructorWrite} {db : Db}
    (hread : ∃ (request : InstructorRequest) (s t : Db), request.read s = (.ok w, t))
    (hfresh : w.Fresh db) (h : FutureWorkLinked w.env.now db) :
    FutureWorkLinked w.env.now (w.run db).2 := by
  cases w with
  | assignInstructorToSchool env actor change =>
    cases change with
    | none => exact h
    | some change =>
      apply linked_after (Prog.FailsWithin.transaction Refreshed.refl _) h
      intro r db' hok
      obtain ⟨hallowed, rfl⟩ := writeSchoolChange_ok hok
      exact changeSchool_linked h hallowed (hfresh change rfl)
  | bookLesson env body input =>
    obtain ⟨request, s, t, hread⟩ := hread
    apply linked_after (createPracticeLesson_fails env input _) h
    intro dto db' hok
    exact createPracticeLesson_linked (request.read_bookLesson hread) h hok
  | createInstructorEvent env body schoolId =>
    apply linked_after (writeCreateInstructorEvent_fails body schoolId) h
    intro dto db' hok
    rw [writeCreateInstructorEvent_ok hok]
    exact insertEvent_linked h hfresh

/-! ### Runs -/

section Runs

universe u

variable {ι : Type u} [DecidableEq ι]

/-- The clock of the turn is not before the one of the turn before. -/
def TimeMovesOn (requests : ι → InstructorRequest)
    (c : Interleaving ι Failure (Clocked Instant Db) PendingInstructorWrite Unit) (i : ι) : Prop :=
  c.store.now ≤ (step (fun i => (requests i).twoPhase) c i).store.now

/-- Changes of school, bookings and new events of any number in any order strand no future work
when every write finds what it relies on. -/
theorem schoolTransfers_linked (requests : ι → InstructorRequest) (schedule : List ι)
    (s : Clocked Instant Db) (h : FutureWorkLinked s.now s.store)
    (htime : Throughout (fun i => (requests i).twoPhase) (TimeMovesOn requests) schedule (start s))
    (hfresh : Throughout (fun i => (requests i).twoPhase) (AtWrite fun s w => w.Fresh s.store)
      schedule (start s)) :
    ∀ reached, reached <+: schedule →
      let c := run (fun i => (requests i).twoPhase) reached (start s)
      FutureWorkLinked c.store.now c.store.store := by
  intro reached hprefix
  obtain ⟨rest, rfl⟩ := hprefix
  apply run_store (I := fun s => FutureWorkLinked s.now s.store) _ _ (holdsReads_start s) h
    (htime.and hfresh).of_append
  · intro c i hwaiting hc hs
    obtain ⟨p, hp⟩ := (requests i).read_keeps c.store.store
    have htime := hc.1
    rw [TimeMovesOn, step_of_waiting hwaiting] at htime
    have hlater := (hs.later htime).refreshed p
    rwa [← hp] at hlater
  · intro c i w hw hread hc hs
    obtain ⟨htime, hfresh⟩ := hc
    rw [TimeMovesOn, step_of_prepared hw] at htime
    obtain ⟨s, t, hread⟩ := hread
    exact w.run_linked ⟨requests i, s.store, t.store, Prog.runAt_eq hread⟩ (hfresh w hw)
      (hs.later htime)

instance decidableTimeMovesOn (requests : ι → InstructorRequest)
    (c : Interleaving ι Failure (Clocked Instant Db) PendingInstructorWrite Unit) (i : ι) :
    Decidable (TimeMovesOn requests c i) :=
  inferInstanceAs (Decidable (c.store.now ≤ _))

end Runs

/-! ### Samples -/

namespace SmallSchool

/-- The manager has a second school. -/
def twoSchools : Clocked Instant Db where
  now := clock 4 8 0
  store := { db with
    drivingSchools := ⟨[{ id := 10, ownerId := 1 }, { id := 11, ownerId := 1 }], by decide⟩ }

theorem twoSchools_linked : FutureWorkLinked twoSchools.now twoSchools.store :=
  ⟨fun _ h => absurd h List.not_mem_nil, fun _ h => absurd h List.not_mem_nil⟩

/-- The first instructor moves to the second school. -/
def move : InstructorRequest :=
  .assignInstructorToSchool (envAt (clock 4 8 0)) (envAt (clock 4 8 0)) manager 20 11

/-- A drive with the given instructor on Tuesday at ten. -/
def driveWith (instructorId : Uuid) : InstructorRequest :=
  .bookLesson (envAt (clock 4 8 0)) (envAt (clock 4 8 0)) manager
    ⟨50, 3, instructorId, clock 5 10 0, clock 5 11 0, 40⟩

/-- A lecture by the first instructor on Tuesday at ten. -/
def tuesdayLecture : InstructorRequest :=
  .createInstructorEvent (envAt (clock 4 8 0)) (envAt (clock 4 8 0)) manager
    { instructorId := 20, type := .theory, startTime := clock 5 10 0, endTime := clock 5 11 0 }

/-- The move is the request `true`. -/
def moveAnd (other : InstructorRequest) (moves : Bool) : InstructorRequest :=
  if moves then move else other

end SmallSchool

open SmallSchool in
/-- While one instructor moves, a drive with the other one is booked; both succeed. -/
theorem schoolTransfers_linked_other :
    (∀ i, (run (fun i => (moveAnd (driveWith 21) i).twoPhase) [true, false, true, false]
      (start twoSchools)).Succeeded i) ∧
    FutureWorkLinked (clock 4 8 0) (run (fun i => (moveAnd (driveWith 21) i).twoPhase)
      [true, false, true, false] (start twoSchools)).store.store :=
  ⟨by decide, schoolTransfers_linked (moveAnd (driveWith 21)) [true, false, true, false] twoSchools
    twoSchools_linked (by decide) (by decide) _ List.prefix_rfl⟩

open SmallSchool in
/-- The obligations are counted, a drive is booked, and the instructor is gone; or a lecture is
checked, the instructor moves, and the lecture is stored for the school that was left. -/
theorem schoolTransfers_strand : FutureWorkLinked twoSchools.now twoSchools.store ∧
    ((∀ i, (run (fun i => (moveAnd (driveWith 20) i).twoPhase) [true, false, false, true]
        (start twoSchools)).Succeeded i) ∧
      Throughout (fun i => (moveAnd (driveWith 20) i).twoPhase) (TimeMovesOn (moveAnd (driveWith 20)))
        [true, false, false, true] (start twoSchools) ∧
      ¬FutureWorkLinked (clock 4 8 0) (run (fun i => (moveAnd (driveWith 20) i).twoPhase)
        [true, false, false, true] (start twoSchools)).store.store) ∧
    (∀ i, (run (fun i => (moveAnd tuesdayLecture i).twoPhase) [false, true, true, false]
        (start twoSchools)).Succeeded i) ∧
      Throughout (fun i => (moveAnd tuesdayLecture i).twoPhase) (TimeMovesOn (moveAnd tuesdayLecture))
        [false, true, true, false] (start twoSchools) ∧
      ¬FutureWorkLinked (clock 4 8 0) (run (fun i => (moveAnd tuesdayLecture i).twoPhase)
        [false, true, true, false] (start twoSchools)).store.store := by
  refine ⟨twoSchools_linked, ⟨by decide, by decide, fun h => ?_⟩, by decide, by decide, fun h => ?_⟩
  · obtain ⟨c, hc, hlink⟩ := h.lessons _ (List.mem_singleton_self _) (by decide) (by decide)
    cases hc
    revert hlink
    decide
  · have hlink := h.events _ (List.mem_singleton_self _) rfl (by decide)
    revert hlink
    decide

end OSK
