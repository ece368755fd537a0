import OskManager.Schedule.CourseWrites
import OskManager.Schedule.EventWrites
import OskManager.Schedule.LessonWrites
import OskManager.Schedule.VehicleChoice

/-! What a call on lessons or events leaves, whether it succeeds or fails: at most some refreshed
vehicles, or one write together with what its rules have found. An invariant over several of these
calls is proved from here, without the programs. -/

namespace OSK

open Relational

variable {env : Env} {db db' : Db}

/-! ### What the rules find -/

/-- The vehicle is there and supports the category. -/
def VehicleSupports (db : Db) (vehicleId courseTypeId : Uuid) : Prop :=
  ∃ v ∈ db.vehicles.rows, v.id = vehicleId ∧ courseTypeId ∈ v.supportedCourseTypes

theorem assertVehicleSupportsCourseType_eq_ok {vehicleId courseTypeId : Uuid} :
    assertVehicleSupportsCourseType db vehicleId courseTypeId = .ok () ↔
      VehicleSupports db vehicleId courseTypeId := by
  rw [assertVehicleSupportsCourseType, throwIf_eq_ok, Bool.not_eq_true,
    Option.isNone_eq_false_iff, Table.findFirst_isSome]
  simp only [decide_eq_true_eq, VehicleSupports]

theorem vehicleSupports_refreshed {p : Vehicle → Bool} {vehicleId courseTypeId : Uuid} :
    VehicleSupports (db.refreshed p) vehicleId courseTypeId ↔
      VehicleSupports db vehicleId courseTypeId := by
  rw [← assertVehicleSupportsCourseType_eq_ok, assertVehicleSupportsCourseType_refreshed,
    assertVehicleSupportsCourseType_eq_ok]

/-- The vehicle is there and has not been deleted. -/
def VehicleActive (db : Db) (vehicleId : Uuid) : Prop :=
  ∃ v ∈ db.vehicles.rows, v.id = vehicleId ∧ v.isActive = true

theorem vehicleActive_refreshed {p : Vehicle → Bool} {vehicleId : Uuid} :
    VehicleActive (db.refreshed p) vehicleId ↔ VehicleActive db vehicleId := by
  refine ⟨fun h => ?_, fun h => ?_⟩
  · obtain ⟨v, hv, hid, hactive⟩ := h
    rcases Table.mem_updateMany_cases Vehicle.id_madeAvailable hv with ⟨hold, _⟩ | ⟨w, hw, _, rfl⟩
    · exact ⟨v, hold, hid, hactive⟩
    · exact ⟨w, hw, hid, hactive⟩
  · obtain ⟨v, hv, hid, hactive⟩ := h
    refine ⟨_, (Table.mem_updateMany _ _ _ Vehicle.id_madeAvailable _).mpr ⟨v, hv, rfl⟩, ?_, ?_⟩
    · split <;> exact hid
    · split <;> exact hactive

theorem VehicleActive.of_find {q : Vehicle → Bool} {vehicleId : Uuid}
    (h : (db.vehicles.findFirst q).isSome = true)
    (hq : ∀ v, q v = true → v.id = vehicleId ∧ v.isActive = true) :
    VehicleActive db vehicleId := by
  rw [Table.findFirst_isSome] at h
  obtain ⟨v, hv, hwhere⟩ := h
  exact ⟨v, hv, hq v hwhere⟩

/-- The instructor is there and holds the category. -/
def QualifiedFor (db : Db) (instructorId courseTypeId : Uuid) : Prop :=
  ∃ p ∈ db.instructorProfiles.rows, p.id = instructorId ∧ courseTypeId ∈ p.qualifiedCourseTypes

/-- The instructor is there and the account is usable. -/
def InstructorActive (db : Db) (instructorId : Uuid) : Prop :=
  ∃ p ∈ db.instructorProfiles.rows, p.id = instructorId ∧ p.hasActiveUser db = true

theorem assertInstructorQualified_ok {instructorId courseTypeId : Uuid}
    (h : assertInstructorQualifiedForCourseType db instructorId courseTypeId = .ok ()) :
    QualifiedFor db instructorId courseTypeId ∧ InstructorActive db instructorId := by
  rw [assertInstructorQualifiedForCourseType, throwIf_eq_ok, Bool.not_eq_true,
    Option.isNone_eq_false_iff, Table.findFirst_isSome] at h
  obtain ⟨p, hp, h⟩ := h
  obtain ⟨hid, hactive, hqualified⟩ := of_decide_eq_true h
  exact ⟨⟨p, hp, hid, hqualified⟩, p, hp, hid, hactive⟩

theorem resolveActiveInstructorProfile_ok {instructorId : Uuid}
    (h : resolveActiveInstructorProfile db instructorId = .ok ()) :
    InstructorActive db instructorId := by
  rw [resolveActiveInstructorProfile, throwIf_eq_ok, Bool.not_eq_true,
    Option.isNone_eq_false_iff, Table.findFirst_isSome] at h
  obtain ⟨p, hp, h⟩ := h
  obtain ⟨hid, hactive⟩ := of_decide_eq_true h
  exact ⟨p, hp, hid, hactive⟩

theorem assertVehicleSupportsCourse_ok {vehicleId courseId : Uuid}
    (h : assertVehicleSupportsCourse db vehicleId courseId = .ok ()) :
    ∃ c, db.courses.findUnique courseId = some c ∧ VehicleSupports db vehicleId c.courseTypeId := by
  simp only [assertVehicleSupportsCourse, except_bind_eq_ok, orThrow_eq_ok] at h
  obtain ⟨c, hc, h⟩ := h
  exact ⟨c, hc, assertVehicleSupportsCourseType_eq_ok.mp h⟩

/-! ### The vehicle of a booking -/

theorem bookedVehicle_fits {body : BookLessonBody} {course : CourseForBooking} {v : Uuid}
    (h : bookedVehicle env body course db = (.ok v, db')) :
    VehicleSupports db v course.courseTypeId ∧ VehicleActive db v := by
  simp only [bookedVehicle, assertVehicleAvailableForBooking, Prog.bind_eq_ok, Prog.query_eq_ok,
    Prog.pure_eq_ok] at h
  obtain ⟨_, _, ⟨_, s, hs, _, _, ⟨hinSchool, rfl⟩, _, _, ⟨hsupports, rfl⟩, _⟩, rfl, _⟩ := h
  obtain ⟨p, rfl⟩ := (refreshExpired_keeps env _).run hs
  rw [assertVehicleSupportsCourseType_eq_ok, vehicleSupports_refreshed] at hsupports
  rw [throwIf_eq_ok, Bool.not_eq_true, Option.isNone_eq_false_iff] at hinSchool
  refine ⟨hsupports, vehicleActive_refreshed.mp (VehicleActive.of_find hinSchool fun w hw => ?_)⟩
  obtain ⟨hid, _, hactive, _⟩ := of_decide_eq_true hw
  exact ⟨hid, hactive⟩

theorem firstFreeVehicle_mem {instructorId v : Uuid} {start stop : Instant} {l : List Uuid}
    (h : firstFreeVehicle env instructorId start stop l db = (.ok v, db')) : v ∈ l := by
  induction l generalizing db with
  | nil => cases h
  | cons vehicleId rest ih =>
    simp only [firstFreeVehicle, Prog.bind_eq_ok] at h
    obtain ⟨valid, _, _, busy, _, _, h⟩ := h
    cases valid with
    | error e => exact List.mem_cons_of_mem _ (ih h)
    | ok u =>
      cases busy with
      | true => exact List.mem_cons_of_mem _ (ih h)
      | false =>
        obtain ⟨rfl, _⟩ := Prog.pure_eq_ok.mp h
        exact List.mem_cons_self

theorem findAvailableVehicle_fits {instructorId schoolId courseTypeId v : Uuid}
    {start stop : Instant}
    (h : findAvailableVehicleIdForStudentBooking env instructorId schoolId start stop courseTypeId
      db = (.ok v, db')) : VehicleSupports db v courseTypeId ∧ VehicleActive db v := by
  rw [findAvailableVehicleIdForStudentBooking, Prog.query_bind_eq_ok] at h
  obtain ⟨_, _, h⟩ := h
  rw [Prog.bind_eq_ok] at h
  obtain ⟨_, s, hs, h⟩ := h
  obtain ⟨p, rfl⟩ := (refreshExpired_keeps env schoolId).run hs
  rw [Prog.query_bind_eq_ok] at h
  obtain ⟨_, hcandidates, h⟩ := h
  cases hcandidates
  obtain ⟨w, hw, rfl⟩ := List.mem_map.mp (mem_defaultVehicleFirst (firstFreeVehicle_mem h))
  rw [(List.perm_insertionSort _ _).mem_iff, Table.mem_findMany, decide_eq_true_eq] at hw
  obtain ⟨hmem, hsupports, _, hactive, _⟩ := hw
  exact ⟨vehicleSupports_refreshed.mp ⟨w, hmem, rfl, hsupports⟩,
    vehicleActive_refreshed.mp ⟨w, hmem, rfl, hactive⟩⟩

/-! ### Lessons -/

/-- What the rules of a booking have found. -/
structure LessonBooked (db : Db) (data : NewLesson) (course : Course) : Prop where
  course_mem : course ∈ db.courses.rows
  course_id : course.id = data.courseId
  course_live : course.deletedAt = none
  vehicle : VehicleSupports db data.vehicleId course.courseTypeId
  vehicle_active : VehicleActive db data.vehicleId
  instructor : QualifiedFor db data.instructorId course.courseTypeId ∧
    InstructorActive db data.instructorId
  student : ∃ userId, loadStudentProfileIdForUser db userId = .ok data.studentId

theorem LessonBooked.course_found {data : NewLesson} {course : Course}
    (h : LessonBooked db data course) : db.courses.findUnique data.courseId = some course :=
  (Table.findUnique_eq_some _ _ _).mpr ⟨h.course_mem, h.course_id⟩

/-- What the rules of an edit have found. -/
structure LessonMoved (env : Env) (db : Db) (existing : Lesson) (course : Course)
    (slot : LessonSlot) : Prop where
  mem : existing ∈ db.lessons.rows
  pending : existing.isPending env.now = true
  course_found : db.courses.findUnique existing.courseId = some course
  vehicle : VehicleSupports db slot.vehicleId.uuid course.courseTypeId
  vehicle_active : VehicleActive db slot.vehicleId.uuid
  instructor : existing.instructorChanged slot = true →
    QualifiedFor db slot.instructorId.uuid course.courseTypeId ∧
      InstructorActive db slot.instructorId.uuid
  not_started : existing.timeChanged slot = true ∨ existing.instructorChanged slot = true →
    env.now < existing.startTime

theorem LessonMoved.mem_cases {existing l : Lesson} {course : Course} {slot : LessonSlot}
    {hlt : slot.start < slot.stop} (found : LessonMoved env db existing course slot)
    (hl : l ∈ (db.moveLesson existing.id slot hlt).lessons.rows) :
    (l ∈ db.lessons.rows ∧ l.id ≠ existing.id) ∨ l = existing.moved slot hlt :=
  Table.mem_update_cases (Lesson.id_moved slot hlt) (Table.findUnique_of_mem found.mem) hl

/-- What a booking or an edit leaves. -/
inductive LessonWritten (env : Env) (db : Db) : Db → Prop where
  | refreshed (p : Vehicle → Bool) : LessonWritten env db (db.refreshed p)
  | booked (p : Vehicle → Bool) (data : NewLesson) (hlt : data.startTime < data.endTime)
      (course : Course) (found : LessonBooked db data course) :
      LessonWritten env db ((db.refreshed p).insertLesson env data hlt)
  | moved (p : Vehicle → Bool) (existing : Lesson) (course : Course) (slot : LessonSlot)
      (hlt : slot.start < slot.stop) (found : LessonMoved env db existing course slot) :
      LessonWritten env db ((db.refreshed p).moveLesson existing.id slot hlt)

theorem createPracticeLesson_written {input : PracticeLessonInput}
    {resolve : CourseForBooking → Service Uuid} {dto : LessonDto} {userId : Uuid}
    {allowSubstitute : Bool} (hkeep : ∀ c, Prog.Keeps Refreshed (resolve c))
    (hfits : ∀ v t, resolve input.course db = (.ok v, t) →
      VehicleSupports db v input.course.courseTypeId ∧ VehicleActive db v)
    (hcourse : loadCourseForBooking db input.course.id = .ok input.course)
    (hinstructor : assertInstructorCanBookCourse db input.instructorId input.course
      allowSubstitute = .ok ())
    (hstudent : loadStudentProfileIdForUser db userId = .ok input.studentProfileId)
    (hok : createPracticeLessonForStudent env input resolve db = (.ok dto, db')) :
    LessonWritten env db db' := by
  obtain ⟨_, _, v, p, hv, hlt, rfl, _⟩ := (createPracticeLesson_eq_ok hkeep hcourse _ _).mp hok
  obtain ⟨c, hc, hbooking⟩ := (loadCourseForBooking_eq_ok db _ _).mp hcourse
  obtain ⟨hmem, hwhere⟩ := Table.mem_of_findFirst hc
  simp only [assertInstructorCanBookCourse, except_bind_eq_ok] at hinstructor
  obtain ⟨_, _, _, _, hqualified⟩ := hinstructor
  obtain ⟨hvehicle, hactive⟩ := hfits v _ hv
  rw [← hbooking] at hqualified hvehicle
  exact .booked p _ hlt c {
    course_mem := hmem
    course_id := congrArg CourseForBooking.id hbooking
    course_live := (of_decide_eq_true hwhere).2.1
    vehicle := hvehicle
    vehicle_active := hactive
    instructor := assertInstructorQualified_ok hqualified
    student := ⟨userId, hstudent⟩ }

theorem LessonWritten.of_fails {α : Type} {p : Service α} (hp : Prog.FailsWithin Refreshed p)
    (hok : ∀ a t, p db = (.ok a, t) → LessonWritten env db t) : LessonWritten env db (p db).2 := by
  rcases hp.cases db with ⟨a, ha⟩ | ⟨q, hq⟩
  · exact hok a _ ha
  · rw [hq]
    exact .refreshed q

theorem bookLesson_written (actor : Actor) (body : BookLessonBody) :
    LessonWritten env db (bookLesson env actor body db).2 := by
  apply LessonWritten.of_fails (bookLesson_fails env actor body)
  intro dto db' hok
  obtain ⟨course, student, hrules, hcreate⟩ := (bookLesson_eq_ok ..).mp hok
  exact createPracticeLesson_written (bookedVehicle_keeps env body)
    (fun v t hv => bookedVehicle_fits hv) (loadCourseForBooking_self hrules.course_loaded)
    hrules.instructor hrules.student_loaded hcreate

theorem bookOwnLesson_written (actor : Actor) (body : BookOwnLessonBody) :
    LessonWritten env db (bookOwnLesson env actor body db).2 := by
  apply LessonWritten.of_fails (bookOwnLesson_fails env actor body)
  intro dto db' hok
  obtain ⟨course, student, hrules, hcreate⟩ := (bookOwnLesson_eq_ok ..).mp hok
  exact createPracticeLesson_written (fun c => findAvailableVehicle_keeps env _ _ _ _ _)
    (fun v t hv => findAvailableVehicle_fits hv)
    (loadCourseForBooking_self hrules.course_loaded) hrules.instructor hrules.student_loaded hcreate

theorem updateLesson_written (actor : Actor) (lessonId : Uuid) (body : UpdateLessonBody) :
    LessonWritten env db (updateLesson env actor lessonId body db).2 := by
  apply LessonWritten.of_fails (Prog.FailsWithin.transaction Refreshed.refl _)
  intro dto db' hok
  obtain ⟨existing, course, v, hrules, hcase⟩ := (updateLesson_eq_ok ..).mp hok
  rcases hcase with ⟨_, _, hdb⟩ | ⟨_, p, hslot, hlt, _, rfl⟩
  · obtain ⟨p, hp⟩ := Refreshed.refl db
    rw [hdb.trans hp]
    exact .refreshed p
  · obtain ⟨hallowed, _⟩ := (lessonSlotAllowed_eq_ok ..).mp hslot
    obtain ⟨hmem, _, hdeleted⟩ := findLesson_eq_some hrules.found
    obtain ⟨c, hc, rfl⟩ := lessonCourse_eq_ok.mp hrules.course_found
    refine .moved p existing c _ hlt {
      mem := hmem
      pending := decide_eq_true ⟨hdeleted, lessonIsEditable_eq_ok.mp hrules.editable⟩
      course_found := hc
      vehicle := assertVehicleSupportsCourseType_eq_ok.mp hallowed.vehicle_supports
      vehicle_active := VehicleActive.of_find hallowed.vehicle_in_school fun w hw =>
        ⟨(of_decide_eq_true hw).1, (of_decide_eq_true hw).2.2⟩
      instructor := fun hch => assertInstructorQualified_ok (hallowed.qualified hch)
      not_started := fun hch => ?_ }
    have hstarted := hallowed.not_started (Bool.or_eq_true_iff.mpr hch)
    rw [assertLessonHasNotStarted, throwIf_eq_ok, not_or, not_le] at hstarted
    exact hstarted.2

/-! ### Events -/

theorem driveVehicle_isSome {type : EventType} {instructorId : Uuid} {vehicleId : Option Uuid}
    {b : Bool} (h : validateDriveVehicle env type instructorId vehicleId b db = (.ok (), db'))
    (htype : type = .drive) : vehicleId.isSome = true := by
  rcases validateDriveVehicle_eq_ok.mp h with ⟨_, v, hv, _⟩ | ⟨hnot, _⟩
  · rw [hv]
    rfl
  · exact absurd htype hnot

/-- What a call that adds an event leaves. -/
inductive EventCreated (env : Env) (actor : Actor) (body : CreateInstructorEventBody) (db : Db) :
    Db → Prop where
  | refreshed (p : Vehicle → Bool) : EventCreated env actor body db (db.refreshed p)
  | created (p : Vehicle → Bool) (schoolId : Uuid)
      (rules : CreateEventRules env actor body db schoolId)
      (drive : body.type = .drive → body.vehicleId.isSome = true) :
      EventCreated env actor body db
        ((db.refreshed p).insertEvent env body schoolId body.storedVehicleId)

theorem createInstructorEvent_written (actor : Actor) (body : CreateInstructorEventBody) :
    EventCreated env actor body db (createInstructorEvent env actor body db).2 := by
  rcases (createInstructorEvent_fails actor body).cases db with ⟨dto, hok⟩ | ⟨q, hq⟩
  · obtain ⟨schoolId, p, hrules, hdrive, hdb, _⟩ := (createInstructorEvent_eq_ok ..).mp hok
    rw [hdb]
    exact .created p schoolId hrules (driveVehicle_isSome hdrive)
  · rw [hq]
    exact .refreshed q

theorem PrepareEventRules.mem_cases {actor : Actor} {eventId : Uuid}
    {body : PatchInstructorEventBody} {u : PreparedEventUpdate} {e : InstructorEvent}
    (prepared : PrepareEventRules actor eventId body db u)
    (he : e ∈ (db.rewriteEvent eventId u).instructorEvents.rows) :
    (e ∈ db.instructorEvents.rows ∧ e.id ≠ eventId) ∨ e = u.current.rewritten u :=
  Table.mem_update_cases (InstructorEvent.id_rewritten u) prepared.found he

/-- The read phase of an edit prepares `u`, and the checks of its write phase pass. -/
def EventEditPasses (env : Env) (actor : Actor) (eventId : Uuid) (body : PatchInstructorEventBody)
    (db : Db) (u : PreparedEventUpdate) : Prop :=
  ∃ t, prepareEventUpdate env actor eventId body db = (.ok u, t) ∧
    assertEventUpdateAllowed env.zone t eventId body u = .ok ()

/-- What the checks of an edit have found. -/
structure EventRewriteRules (env : Env) (actor : Actor) (eventId : Uuid)
    (body : PatchInstructorEventBody) (db : Db) (u : PreparedEventUpdate) : Prop where
  prepared : PrepareEventRules actor eventId body db u
  school : resolveInstructorEventSchoolId db u.merged.instructorId.uuid u.merged.courseId
    u.merged.resolvedVehicleId = .ok u.schoolId
  drive : u.merged.type = .drive → u.merged.vehicleId.isSome = true
  update : EventUpdateRules env.zone db eventId body u

theorem EventEditPasses.rules {actor : Actor} {eventId : Uuid} {body : PatchInstructorEventBody}
    {u : PreparedEventUpdate} (h : EventEditPasses env actor eventId body db u) :
    EventRewriteRules env actor eventId body db u := by
  obtain ⟨t, hprepare, hallowed⟩ := h
  obtain ⟨hprepared, hschool, hval⟩ := (prepareEventUpdate_eq_ok ..).mp hprepare
  obtain ⟨p, rfl⟩ := (validateDriveVehicle_keeps env _ _ _ _).run hval
  rw [assertEventUpdateAllowed_eq_ok, eventUpdateRules_refreshed] at hallowed
  exact ⟨hprepared, hschool, fun hdrive => by simpa using driveVehicle_isSome hval hdrive, hallowed⟩

theorem EventRewriteRules.drive_resolved {actor : Actor} {eventId : Uuid}
    {body : PatchInstructorEventBody} {u : PreparedEventUpdate}
    (h : EventRewriteRules env actor eventId body db u) (hdrive : u.merged.type = .drive) :
    ∃ v, u.merged.resolvedVehicleId = some v := by
  obtain ⟨v, hv⟩ := Option.isSome_iff_exists.mp (h.drive hdrive)
  refine ⟨v.uuid, (if_pos hdrive).trans ?_⟩
  rw [hv, Option.map_some]

/-- What a call that edits an event leaves. -/
inductive EventEdited (env : Env) (actor : Actor) (eventId : Uuid)
    (body : PatchInstructorEventBody) (db : Db) : Db → Prop where
  | refreshed (p : Vehicle → Bool) : EventEdited env actor eventId body db (db.refreshed p)
  | edited (p : Vehicle → Bool) (u : PreparedEventUpdate)
      (passes : EventEditPasses env actor eventId body db u) :
      EventEdited env actor eventId body db ((db.refreshed p).rewriteEvent eventId u)

theorem updateInstructorEvent_written (actor : Actor) (eventId : Uuid)
    (body : PatchInstructorEventBody) :
    EventEdited env actor eventId body db (updateInstructorEvent env actor eventId body db).2 := by
  rcases (updateInstructorEvent_fails actor eventId body).cases db with ⟨dto, hok⟩ | ⟨q, hq⟩
  · obtain ⟨u, p, hprepared, hschool, hval, hrules, hdb, _⟩ :=
      (updateInstructorEvent_eq_ok ..).mp hok
    rw [hdb]
    refine .edited p u ⟨_, (prepareEventUpdate_eq_ok ..).mpr ⟨hprepared, hschool, hval⟩, ?_⟩
    rw [assertEventUpdateAllowed_eq_ok, eventUpdateRules_refreshed]
    exact hrules
  · rw [hq]
    exact .refreshed q

theorem mem_setEventStatuses {ids : List Uuid} {status : EventStatus} {e : InstructorEvent}
    (he : e ∈ (db.setEventStatuses ids status).instructorEvents.rows) :
    e ∈ db.instructorEvents.rows ∨
      ∃ q ∈ db.instructorEvents.rows, q.id ∈ ids ∧ e = q.withStatus status := by
  rcases Table.mem_updateMany_cases (InstructorEvent.id_withStatus status) he with
    ⟨hold, _⟩ | ⟨q, hq, hid, hsame⟩
  · exact Or.inl hold
  · exact Or.inr ⟨q, hq, of_decide_eq_true hid, hsame⟩

/-- The change of status makes the event pending. -/
structure InstructorEvent.Replanned (now : Instant) (e : InstructorEvent) (status : EventStatus) :
    Prop where
  active : e.isActive = true
  new : e.status ≠ .planned
  planned : status = .planned
  ahead : now < e.endTime

/-- A pending event with a new status was pending before, or is planned again. -/
theorem InstructorEvent.pending_cases {now : Instant} {e : InstructorEvent} {status : EventStatus}
    (h : (e.withStatus status).isPending now = true) :
    e.isPending now = true ∨ e.Replanned now status := by
  obtain ⟨hactive, hstatus, hend⟩ := of_decide_eq_true h
  by_cases hbefore : e.status = .planned
  · exact Or.inl (decide_eq_true ⟨hactive, hbefore, hend⟩)
  · exact Or.inr ⟨hactive, hbefore, hstatus, hend⟩

/-- The checks of a change of many statuses pass, and it changes the events with these ids. -/
structure StatusChangePasses (actor : Actor) (body : BulkUpdateEventStatusBody) (db : Db)
    (ids : List Uuid) : Prop where
  staff : actor.role ≠ .student
  allowed : bulkAllowedEventIds db actor body.eventIds.eraseDups = .ok ids
  planned : body.status = .planned → ∀ e ∈ db.instructorEvents.findMany
    (fun e => decide (e.id ∈ ids ∧ e.type = .drive ∧ e.courseId ≠ none)),
    assertDriveCanBePlanned db e = .ok ()

/-- What a change of many statuses leaves. -/
inductive StatusesChanged (actor : Actor) (body : BulkUpdateEventStatusBody) (db : Db) :
    Db → Prop where
  | refreshed (p : Vehicle → Bool) : StatusesChanged actor body db (db.refreshed p)
  | changed (ids : List Uuid) (passes : StatusChangePasses actor body db ids) :
      StatusesChanged actor body db (db.setEventStatuses ids body.status)

theorem bulkUpdateEventStatus_written (actor : Actor) (body : BulkUpdateEventStatusBody) :
    StatusesChanged actor body db (bulkUpdateEventStatus actor body db).2 := by
  rcases (bulkUpdateEventStatus_fails actor body).cases db with ⟨result, hok⟩ | ⟨q, hq⟩
  · obtain ⟨hstaff, ids, hids, hcase⟩ := (bulkUpdateEventStatus_eq_ok ..).mp hok
    rcases hcase with ⟨_, _, hdb⟩ | ⟨_, hplanned, _, hdb⟩
    · obtain ⟨p, hp⟩ := Refreshed.refl db
      rw [hdb.trans hp]
      exact .refreshed p
    · rw [hdb]
      exact .changed ids ⟨hstaff, hids, hplanned⟩
  · rw [hq]
    exact .refreshed q

end OSK
