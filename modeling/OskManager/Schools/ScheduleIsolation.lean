import OskManager.Schedule.ParticipantWrites
import OskManager.Schools.LapsedVehicles
import OskManager.Schools.Strangers

/-! The schedule of a school is out of the reach of strangers: a call of theirs on lessons, events
or participants is refused, or it writes rows of other schools. -/

namespace OSK

open Relational

variable {env : Env} {db db' : Db} {schoolId : Uuid} {actor : Actor}

/-! ### Lessons -/

theorem createPracticeLesson_intact {input : PracticeLessonInput}
    {resolve : CourseForBooking → Service Uuid} {dto : LessonDto}
    (hkeep : ∀ c, Prog.Keeps Refreshed (resolve c))
    (hcourse : loadCourseForBooking db input.course.id = .ok input.course)
    (hother : ¬db.HasCourse schoolId input.course.id)
    (hok : createPracticeLessonForStudent env input resolve db = (.ok dto, db')) :
    Intact (fun _ => True) schoolId db db' := by
  obtain ⟨_, _, _, p, _, hlt, rfl, _⟩ := (createPracticeLesson_eq_ok hkeep hcourse dto db').mp hok
  exact (Intact.refreshed schoolId ⟨p, rfl⟩).trans (.lessons (Table.sameOn_insert hother))

theorem bookLesson_intact (hout : Stranger db schoolId actor) (body : BookLessonBody) :
    Intact (fun _ => True) schoolId db (bookLesson env actor body db).2 := by
  rcases (bookLesson_fails env actor body).cases db with ⟨dto, hok⟩ | hs
  · obtain ⟨course, student, hrules, hcreate⟩ := (bookLesson_eq_ok ..).mp hok
    have hloaded := loadCourseForBooking_self hrules.course_loaded
    refine createPracticeLesson_intact (bookedVehicle_keeps env body) hloaded ?_ hcreate
    obtain ⟨c, hc, hbooking⟩ := (loadCourseForBooking_eq_ok ..).mp hloaded
    have hother := hout.not_booking hrules.actor_allowed
    change ¬db.HasCourse schoolId course.id
    rw [← hbooking] at hother ⊢
    exact not_hasCourse (Table.mem_of_findFirst hc).1 hother
  · exact .refreshed schoolId hs

theorem bookOwnLesson_intact (hout : Stranger db schoolId actor) (body : BookOwnLessonBody) :
    Intact (fun _ => True) schoolId db (bookOwnLesson env actor body db).2 := by
  rcases (bookOwnLesson_fails env actor body).cases db with ⟨dto, hok⟩ | hs
  · obtain ⟨course, student, hrules, hcreate⟩ := (bookOwnLesson_eq_ok ..).mp hok
    refine createPracticeLesson_intact (fun c => findAvailableVehicle_keeps env _ _ _ _ _)
      (loadCourseForBooking_self hrules.course_loaded) ?_ hcreate
    intro hcourse
    have hparticipates := hrules.participates
    rw [assertStudentParticipatesInCourse, throwIf_eq_ok, Bool.not_eq_true,
      Option.isNone_eq_false_iff, Table.findFirst_isSome] at hparticipates
    obtain ⟨p, hp, hwhere⟩ := hparticipates
    obtain ⟨hid, hstudent, _⟩ := of_decide_eq_true hwhere
    exact hout.not_student hrules.student_loaded (Or.inl ⟨p, hp, hid ▸ hcourse, hstudent⟩)
  · exact .refreshed schoolId hs

theorem updateLesson_intact (hout : Stranger db schoolId actor) (lessonId : Uuid)
    (body : UpdateLessonBody) :
    Intact (fun _ => True) schoolId db (updateLesson env actor lessonId body db).2 := by
  apply Prog.transaction_leaves (.refl schoolId db)
  intro dto db' hok
  rw [← Prog.transaction_eq_ok] at hok
  obtain ⟨existing, course, v, hrules, ⟨_, _, rfl⟩ | ⟨_, p, _, hlt, _, rfl⟩⟩ :=
    (updateLesson_eq_ok actor lessonId body dto db').mp hok
  · exact .refl schoolId db'
  · obtain ⟨hmem, _, _⟩ := findLesson_eq_some hrules.found
    obtain ⟨c, hc, rfl⟩ := lessonCourse_eq_ok.mp hrules.course_found
    have hother := not_hasCourse_of_found hc (hout.not_booking hrules.actor_allowed)
    refine (Intact.refreshed schoolId ⟨p, rfl⟩).trans (.lessons (Table.sameOn_update ?_))
    intro l hl hid
    obtain rfl := db.lessons.key_inj hl hmem hid
    exact ⟨hother, hother⟩

/-- The lessons that a cancellation takes are not of the school. -/
theorem cancelLessons_intact {p : Lesson → Bool}
    (h : ∀ l ∈ db.lessons.rows, p l = true → ¬db.HasCourse schoolId l.courseId) :
    Intact (fun _ => True) schoolId db (db.cancelLessons p) :=
  .lessons (Table.sameOn_updateMany fun l hl hp => ⟨h l hl hp, h l hl hp⟩)

theorem cancelLesson_intact (hout : Stranger db schoolId actor) (lessonId : Uuid) :
    Intact (fun _ => True) schoolId db (cancelLesson env actor lessonId db).2 := by
  apply Prog.query_bind_leaves (.refl schoolId db)
  intro _ hprepared
  simp only [prepareCancelLesson, except_bind_eq_ok, orThrow_eq_ok, lessonCourse_eq_ok]
    at hprepared
  obtain ⟨existing, hfound, course, ⟨c, hc, rfl⟩, _, hactor, _⟩ := hprepared
  obtain ⟨hmem, hid, _⟩ := findLesson_eq_some hfound
  apply cancelLessons_intact
  intro l hl hwhere
  have hl' : l.id = lessonId := (of_decide_eq_true (Bool.and_eq_true_iff.mp hwhere).1).1
  obtain rfl := db.lessons.key_inj hl hmem (hl'.trans hid.symm)
  exact not_hasCourse_of_found hc (hout.not_booking hactor)

theorem cancelOwnLesson_intact (hout : Stranger db schoolId actor) (lessonId : Uuid) :
    Intact (fun _ => True) schoolId db (cancelOwnLesson env actor lessonId db).2 := by
  apply Prog.query_bind_leaves (.refl schoolId db)
  intro studentId hprepared
  simp only [prepareCancelOwnLesson, except_bind_eq_ok] at hprepared
  obtain ⟨_, _, student, hstudent, _, _, _, _, _, _, _, _, h⟩ := hprepared
  cases h
  apply cancelLessons_intact
  intro l hl hwhere hcourse
  have howner := (Bool.and_eq_true_iff.mp hwhere).2
  rw [Option.all_some] at howner
  exact hout.not_student hstudent (Or.inr ⟨l, hl, hcourse, (of_decide_eq_true howner).1⟩)

/-! ### Events -/

/-- An event is filed under the school of its instructor. -/
theorem eventSchool_other {instructorId id : Uuid} {courseId vehicleId : Option Uuid}
    (hnot : ¬db.Instructs schoolId instructorId)
    (h : resolveInstructorEventSchoolId db instructorId courseId vehicleId = .ok id) :
    id ≠ schoolId := by
  simp only [resolveInstructorEventSchoolId, except_bind_eq_ok, orThrow_eq_ok] at h
  obtain ⟨l, hl, _, _, _, _, h⟩ := h
  cases h
  obtain ⟨hmem, hwhere⟩ := Table.mem_of_findFirst hl
  intro hschool
  exact hnot (Or.inl ⟨l, hmem, of_decide_eq_true (Bool.and_eq_true_iff.mp hwhere).1, hschool⟩)

theorem event_other {e : InstructorEvent} (he : e ∈ db.instructorEvents.rows)
    (hnot : ¬db.Instructs schoolId e.instructorId) : e.schoolId ≠ schoolId := by
  intro hschool
  exact hnot (Or.inr ⟨e, he, hschool, rfl⟩)

theorem createInstructorEvent_intact (hout : Stranger db schoolId actor)
    (body : CreateInstructorEventBody) :
    Intact (fun _ => True) schoolId db (createInstructorEvent env actor body db).2 := by
  rcases (createInstructorEvent_fails actor body).cases db with ⟨dto, hok⟩ | hs
  · obtain ⟨id, p, hrules, _, hdb, _⟩ := (createInstructorEvent_eq_ok ..).mp hok
    rw [hdb]
    have hother := eventSchool_other (hout.not_managing hrules.actor_allowed) hrules.school
    exact (Intact.refreshed schoolId ⟨p, rfl⟩).trans (.events (Table.sameOn_insert hother))
  · exact .refreshed schoolId hs

/-- Neither the instructor of the event nor the one who takes it over is of the school. -/
theorem updateInstructorEvent_intact (hout : Stranger db schoolId actor) (eventId : Uuid)
    (body : PatchInstructorEventBody) :
    Intact (fun _ => True) schoolId db (updateInstructorEvent env actor eventId body db).2 := by
  rcases (updateInstructorEvent_fails actor eventId body).cases db with ⟨dto, hok⟩ | hs
  · obtain ⟨u, p, hrules, hschool, _, _, hdb, _⟩ := (updateInstructorEvent_eq_ok ..).mp hok
    rw [hdb]
    have hcurrent := hout.not_managing hrules.actor_allowed
    have hmerged : ¬db.Instructs schoolId u.merged.instructorId.uuid := by
      have hnext := hrules.instructor_allowed
      rw [hrules.merged]
      unfold mergeEvent
      cases hbody : body.instructorId with
      | none => exact hcurrent
      | some instructorId =>
        by_cases hsame : instructorId = .ofUuid u.current.instructorId
        · rwa [Option.getD_some, hsame]
        · exact hout.not_managing (hnext instructorId hbody hsame).1
    have hmem := Table.mem_of_findUnique hrules.found
    refine (Intact.refreshed schoolId ⟨p, rfl⟩).trans (.events (Table.sameOn_update ?_))
    intro e he hid
    have hkey := hid.trans (Table.key_of_findUnique hrules.found).symm
    obtain rfl := db.instructorEvents.key_inj he hmem hkey
    exact ⟨event_other he hcurrent, eventSchool_other hmerged hschool⟩
  · exact .refreshed schoolId hs

/-- Events change, but not their schools. -/
theorem updateEvents_intact {p : InstructorEvent → Bool} {f : InstructorEvent → InstructorEvent}
    (hf : ∀ e, (f e).id = e.id) (hschool : ∀ e, (f e).schoolId = e.schoolId)
    (h : ∀ e ∈ db.instructorEvents.rows, p e = true → e.schoolId ≠ schoolId) :
    Intact (fun _ => True) schoolId db
      { db with instructorEvents := db.instructorEvents.updateMany p f hf } := by
  refine .events (Table.sameOn_updateMany fun e he hp => ?_)
  rw [hschool]
  exact ⟨h e he hp, h e he hp⟩

theorem deleteInstructorEvent_intact (hout : Stranger db schoolId actor) (eventId : Uuid) :
    Intact (fun _ => True) schoolId db (deleteInstructorEvent actor eventId db).2 := by
  apply Prog.query_bind_leaves (.refl schoolId db)
  intro event hfound
  apply Prog.lift_bind_leaves (.refl schoolId db)
  intro _ _
  apply Prog.query_bind_leaves (.refl schoolId db)
  intro _ hactor
  rw [orThrow_eq_ok] at hfound
  refine updateEvents_intact InstructorEvent.id_deactivated (fun _ => rfl) fun e he hid => ?_
  have hkey := (of_decide_eq_true hid).trans (Table.key_of_findUnique hfound).symm
  obtain rfl := db.instructorEvents.key_inj he (Table.mem_of_findUnique hfound) hkey
  exact event_other he (hout.not_managing hactor)

theorem bulkAllowedEventIds_other (hout : Stranger db schoolId actor) {uniqueIds ids : List Uuid}
    (h : bulkAllowedEventIds db actor uniqueIds = .ok ids) {e : InstructorEvent}
    (he : e ∈ db.instructorEvents.rows) (hid : e.id ∈ ids) : e.schoolId ≠ schoolId := by
  have hfound {p : InstructorEvent → Bool} (hmem : e.id ∈ ((db.instructorEvents.findMany fun e =>
      decide (e.id ∈ uniqueIds ∧ e.isActive = true)).filter p).map InstructorEvent.id) :
      p e = true := by
    obtain ⟨e', he', hkey⟩ := List.mem_map.mp hmem
    obtain ⟨hstored, hp⟩ := List.mem_filter.mp he'
    rwa [← db.instructorEvents.key_inj ((Table.mem_findMany ..).mp hstored).1 he hkey]
  have hrole := hout.role
  unfold bulkAllowedEventIds at h
  split at h
  · next hadmin => exact absurd hadmin hrole
  · simp only [except_bind_eq_ok, orThrow_eq_ok] at h
    obtain ⟨p, hp, h⟩ := h
    cases h
    obtain ⟨hmem, huser⟩ := Table.mem_of_findFirst hp
    apply event_other he
    rw [of_decide_eq_true (hfound hid)]
    exact hout.instructor p hmem (of_decide_eq_true huser)
  · cases h
    exact event_other he (hout.not_employed (hfound hid))
  · cases h

theorem bulkUpdateEventStatus_intact (hout : Stranger db schoolId actor)
    (body : BulkUpdateEventStatusBody) :
    Intact (fun _ => True) schoolId db (bulkUpdateEventStatus actor body db).2 := by
  rcases (bulkUpdateEventStatus_fails actor body).cases db with ⟨r, hok⟩ | hs
  · obtain ⟨_, ids, hids, ⟨_, _, hdb⟩ | ⟨_, _, _, hdb⟩⟩ := (bulkUpdateEventStatus_eq_ok ..).mp hok
    · rw [hdb]
      exact .refl schoolId db
    · rw [hdb]
      refine updateEvents_intact (InstructorEvent.id_withStatus body.status) (fun _ => rfl) ?_
      exact fun e he hlisted => bulkAllowedEventIds_other hout hids he (of_decide_eq_true hlisted)
  · exact .refreshed schoolId hs

/-! ### Participants -/

/-- At most the participants of the event differ. -/
def OnlyEvent (eventId : Uuid) (db db' : Db) : Prop :=
  ∃ t, db' = { db with eventParticipants := t } ∧
    Table.SameOn (fun p => p.eventId ≠ eventId) db.eventParticipants t

section Participants

variable {eventId : Uuid}

theorem OnlyEvent.refl (db : Db) : OnlyEvent eventId db db :=
  ⟨db.eventParticipants, rfl, .refl _ _⟩

theorem OnlyEvent.trans (a b c : Db) (hab : OnlyEvent eventId a b) (hbc : OnlyEvent eventId b c) :
    OnlyEvent eventId a c := by
  obtain ⟨t, rfl, ht⟩ := hab
  obtain ⟨u, rfl, hu⟩ := hbc
  exact ⟨u, rfl, ht.trans hu⟩

theorem OnlyEvent.apart (h : OnlyEvent eventId db db') (hother : ¬db.HasEvent schoolId eventId) :
    Intact (fun _ => True) schoolId db db' := by
  obtain ⟨t, rfl, ht⟩ := h
  refine .eventParticipants (ht.mono fun p hp hid => ?_)
  rw [hid] at hp
  exact hother hp

theorem createParticipants_only (env : Env) (l : List Uuid) :
    Prog.Keeps (OnlyEvent eventId) (createParticipants env eventId l) := by
  induction l with
  | nil => exact Prog.Keeps.pure OnlyEvent.refl ()
  | cons studentId rest ih =>
    refine Prog.Keeps.bind OnlyEvent.trans (fun db => ?_) fun _ => ih
    unfold createParticipant
    split
    · exact .refl db
    · exact ⟨_, rfl, Table.sameOn_insert fun h => h rfl⟩

theorem removeParticipants_only (ids : List Uuid) :
    OnlyEvent eventId db (db.removeParticipants eventId ids) :=
  ⟨_, rfl, Table.sameOn_deleteMany fun _ _ hp h => h (of_decide_eq_true hp).1⟩

theorem onlyEvent_query_bind {α β : Type} {f : Db → Except Failure α} {g : α → Service β}
    (hg : ∀ a, Prog.Keeps (OnlyEvent eventId) (g a)) :
    Prog.Keeps (OnlyEvent eventId) (Prog.query f >>= g) :=
  Prog.Keeps.bind OnlyEvent.trans (Prog.Keeps.query OnlyEvent.refl f) hg

theorem writeAssignStudents_only (env : Env) (prepared : PreparedAssignment) :
    Prog.Keeps (OnlyEvent eventId) (writeAssignStudents env eventId prepared) := by
  refine Prog.Keeps.transaction OnlyEvent.refl fun s r t h => Prog.Keeps.run ?_ h
  refine onlyEvent_query_bind fun added => onlyEvent_query_bind fun _ => ?_
  exact Prog.Keeps.bind OnlyEvent.trans (createParticipants_only env added) fun _ =>
    Prog.Keeps.pure OnlyEvent.refl _

theorem writeReplaceStudents_only (env : Env) (prepared : PreparedEventStudentReplacement) :
    Prog.Keeps (OnlyEvent eventId) (writeReplaceStudents env eventId prepared) := by
  refine Prog.Keeps.transaction OnlyEvent.refl fun s r t h => Prog.Keeps.run ?_ h
  refine onlyEvent_query_bind fun _ => onlyEvent_query_bind fun existing => ?_
  exact Prog.Keeps.bind OnlyEvent.trans (Prog.Keeps.write fun _ => removeParticipants_only _)
    fun _ => createParticipants_only env _

/-- An event whose participants a stranger may change is not of the school. -/
theorem participantEvent_other (hout : Stranger db schoolId actor) {event : InstructorEvent}
    (h : ParticipantEvent db actor eventId event) : ¬db.HasEvent schoolId eventId := by
  have hmem := Table.mem_of_findUnique h.found
  rw [← Table.key_of_findUnique h.found]
  exact not_hasEvent hmem (event_other hmem (hout.not_managing h.manageable))

theorem assignStudentsToEvent_intact (hout : Stranger db schoolId actor) (eventId : Uuid)
    (studentIds : List Uuid) :
    Intact (fun _ => True) schoolId db
      (assignStudentsToEvent env actor eventId studentIds db).2 := by
  apply Prog.query_bind_leaves (.refl schoolId db)
  intro prepared hprepared
  obtain ⟨_, hevent, _⟩ := prepareAssignStudents_eq_ok.mp hprepared
  exact OnlyEvent.apart (writeAssignStudents_only env prepared db)
    (participantEvent_other hout hevent)

theorem replaceEventStudents_intact (hout : Stranger db schoolId actor) (eventId : Uuid)
    (studentIds : List Uuid) :
    Intact (fun _ => True) schoolId db
      (replaceEventStudents env actor eventId studentIds db).2 := by
  apply Prog.query_bind_leaves (.refl schoolId db)
  intro prepared hprepared
  have hrules := prepareEventStudentReplacement_ok hprepared
  rw [Prog.bind_pure_store]
  exact OnlyEvent.apart (writeReplaceStudents_only env prepared db)
    (participantEvent_other hout hrules.event)

theorem removeStudentFromEvent_intact (hout : Stranger db schoolId actor)
    (eventId studentUserId : Uuid) :
    Intact (fun _ => True) schoolId db
      (removeStudentFromEvent actor eventId studentUserId db).2 := by
  apply Prog.query_bind_leaves (.refl schoolId db)
  intro profileIds hprepared
  simp only [except_bind_eq_ok] at hprepared
  obtain ⟨event, hload, _, hmanage, _⟩ := hprepared
  have hevent := participantEvent_iff.mpr ⟨hload, hmanage⟩
  refine OnlyEvent.apart ?_ (participantEvent_other hout hevent)
  apply Prog.query_bind_leaves (.refl db)
  intro deleted _
  have hrest : Prog.Keeps (OnlyEvent eventId) (show Service (List Uuid) from do
      throwIf (deleted = 0) (Failure.notFound "Student is not assigned to this event")
      let studentUserIds ← Prog.query fun db => getEventStudentUserIds db actor eventId
      return studentUserIds.insertionSort (· ≤ ·)) :=
    Prog.Keeps.bind OnlyEvent.trans (Prog.Keeps.lift OnlyEvent.refl _) fun _ =>
      onlyEvent_query_bind fun _ => Prog.Keeps.pure OnlyEvent.refl _
  exact OnlyEvent.trans _ _ _ (removeParticipants_only profileIds) (hrest _)

end Participants

/-! ### Calls -/

def ScheduleCall.caller : ScheduleCall → Actor
  | .bookLesson actor _ | .bookOwnLesson actor _ | .updateLesson actor _ _ | .cancelLesson actor _
  | .cancelOwnLesson actor _ | .createInstructorEvent actor _ | .updateInstructorEvent actor _ _
  | .deleteInstructorEvent actor _ | .bulkUpdateEventStatus actor _
  | .assignStudentsToEvent actor _ _ | .replaceEventStudents actor _ _
  | .removeStudentFromEvent actor _ _ => actor

/-- Whatever a stranger calls on the schedule. -/
theorem ScheduleCall.run_intact (env : Env) (call : ScheduleCall)
    (hout : Stranger db schoolId call.caller) :
    Intact (Vehicle.Lapsed env) schoolId db (call.run env db) := by
  have hrows : Intact (fun _ => True) schoolId db (call.run env db) := by
    cases call with
    | bookLesson actor body => exact bookLesson_intact hout body
    | bookOwnLesson actor body => exact bookOwnLesson_intact hout body
    | updateLesson actor lessonId body => exact updateLesson_intact hout lessonId body
    | cancelLesson actor lessonId => exact cancelLesson_intact hout lessonId
    | cancelOwnLesson actor lessonId => exact cancelOwnLesson_intact hout lessonId
    | createInstructorEvent actor body => exact createInstructorEvent_intact hout body
    | updateInstructorEvent actor eventId body =>
      exact updateInstructorEvent_intact hout eventId body
    | deleteInstructorEvent actor eventId => exact deleteInstructorEvent_intact hout eventId
    | bulkUpdateEventStatus actor body => exact bulkUpdateEventStatus_intact hout body
    | assignStudentsToEvent actor eventId ids => exact assignStudentsToEvent_intact hout eventId ids
    | replaceEventStudents actor eventId ids => exact replaceEventStudents_intact hout eventId ids
    | removeStudentFromEvent actor eventId id => exact removeStudentFromEvent_intact hout eventId id
  obtain ⟨p, hp, hvehicles⟩ := call.run_lapses env db
  refine ⟨hrows.rows, hrows.people, p, hp, ?_⟩
  rw [hvehicles]
  exact .refl _ _

end OSK
