import OskManager.Schedule.CalendarWrites
import OskManager.Schedule.LessonWrites

/-! Writes of lessons keep the calendar free of conflicts: a booking and an edit put one
lesson into a slot that their rules have found open, a cancellation takes one away. -/

namespace OSK

open Relational Booking

/-! ### Booking a lesson -/

section Booking

variable {env : Env} {db db' : Db}

theorem firstFreeVehicle_free {instructorId v : Uuid} {start stop : Instant} {l : List Uuid}
    (h : firstFreeVehicle env instructorId start stop l db = (.ok v, db')) :
    vehicleHasBookingConflict db v start stop = false := by
  induction l generalizing db with
  | nil => cases h
  | cons vehicleId rest ih =>
    simp only [firstFreeVehicle, Prog.bind_eq_ok, Prog.attempt_eq_ok, Prog.query_eq_ok,
      Except.ok.injEq] at h
    obtain ⟨valid, s, hs, busy, _, ⟨rfl, rfl⟩, h⟩ := h
    obtain ⟨p, rfl⟩ := (validateVehicleForInstructor_keeps env _ _ _).run hs
    rw [vehicleHasBookingConflict_refreshed] at h
    have hrest (h : firstFreeVehicle env instructorId start stop rest (db.refreshed p) =
        (.ok v, db')) : vehicleHasBookingConflict db v start stop = false := by
      simpa using ih h
    cases valid with
    | error e => exact hrest h
    | ok u =>
      cases hbusy : vehicleHasBookingConflict db vehicleId start stop with
      | true => exact hrest (by simpa [hbusy] using h)
      | false =>
        simp only [hbusy, Bool.false_eq_true, if_false, Prog.pure_eq_ok] at h
        exact h.1 ▸ hbusy

theorem findAvailableVehicle_free {instructorId schoolId courseTypeId v : Uuid}
    {start stop : Instant}
    (h : findAvailableVehicleIdForStudentBooking env instructorId schoolId start stop courseTypeId
      db = (.ok v, db')) : vehicleHasBookingConflict db v start stop = false := by
  simp only [findAvailableVehicleIdForStudentBooking, Prog.query_bind_eq_ok] at h
  obtain ⟨_, _, h⟩ := h
  rw [Prog.bind_eq_ok] at h
  obtain ⟨_, s, hs, h⟩ := h
  obtain ⟨p, rfl⟩ := (refreshExpired_keeps env schoolId).run hs
  rw [Prog.query_bind_eq_ok] at h
  obtain ⟨_, _, h⟩ := h
  simpa using firstFreeVehicle_free h

theorem bookedVehicle_free {body : BookLessonBody} {course : CourseForBooking} {v : Uuid}
    (h : bookedVehicle env body course db = (.ok v, db')) :
    vehicleHasBookingConflict db v body.startTime body.endTime = false := by
  simp only [bookedVehicle, assertVehicleAvailableForBooking, Prog.bind_eq_ok, Prog.query_eq_ok,
    Prog.pure_eq_ok, throwIf_eq_ok, Bool.not_eq_true] at h
  obtain ⟨_, _, ⟨_, s, hs, _, _, ⟨_, rfl⟩, _, _, ⟨_, rfl⟩, _, _, hval, hf, rfl⟩, rfl, rfl⟩ := h
  obtain ⟨p, rfl⟩ := (refreshExpired_keeps env _).run hs
  obtain ⟨q, rfl⟩ := (validateVehicleForInstructor_keeps env _ _ _).run hval
  simpa using hf

theorem createPracticeLesson_noDoubleBooking {input : PracticeLessonInput}
    {resolve : CourseForBooking → Service Uuid} {dto : LessonDto}
    (hkeep : ∀ c, Prog.Keeps Refreshed (resolve c))
    (hfree : ∀ c v t, resolve c db = (.ok v, t) →
      vehicleHasBookingConflict db v input.start input.stop = false)
    (hcourse : loadCourseForBooking db input.course.id = .ok input.course)
    (h : NoDoubleBooking db)
    (hok : createPracticeLessonForStudent env input resolve db = (.ok dto, db')) :
    NoDoubleBooking db' := by
  obtain ⟨_, hw, v, p, hv, hlt, rfl, _⟩ := (createPracticeLesson_eq_ok hkeep hcourse _ _).mp hok
  obtain ⟨hs, _, hi, _⟩ := lessonWindow_iff.mp hw
  have hvehicle := vehicle_open_iff.mp (hfree _ _ _ hv)
  refine h.set (.lesson (env.uuid db.lessons.keys)) (fun j hj => ?_) fun e he => ?_
  · rw [← calendar_refreshed db p]
    exact calendar_one_lesson (fun k hk => (Table.findUnique_insert ..).trans (if_neg hk)) j hj
  · simp only [calendar, Db.insertLesson, Table.findUnique_insert, refreshed_lessons,
      NewLesson.row, if_true, Option.map_eq_some_iff, Option.filter_eq_some_iff,
      Option.some.injEq] at he
    obtain ⟨l, ⟨rfl, _⟩, rfl⟩ := he
    apply lesson_freeFor (hs.freeFor (skipped_none _)) (hi.freeFor (skipped_none _))
    intro k hk
    cases hk
    exact hvehicle.freeFor (skipped_none _)

theorem bookLesson_noDoubleBooking (actor : Actor) (body : BookLessonBody)
    (h : NoDoubleBooking db) : NoDoubleBooking (bookLesson env actor body db).2 := by
  apply noDoubleBooking_after (bookLesson_fails env actor body) h
  intro dto db' hok
  obtain ⟨course, student, hrules, hcreate⟩ := (bookLesson_eq_ok ..).mp hok
  have hcourse := loadCourseForBooking_self hrules.course_loaded
  refine createPracticeLesson_noDoubleBooking (bookedVehicle_keeps env body) ?_ hcourse h hcreate
  intro c v t hv
  exact bookedVehicle_free hv

theorem bookOwnLesson_noDoubleBooking (actor : Actor) (body : BookOwnLessonBody)
    (h : NoDoubleBooking db) : NoDoubleBooking (bookOwnLesson env actor body db).2 := by
  apply noDoubleBooking_after (bookOwnLesson_fails env actor body) h
  intro dto db' hok
  obtain ⟨course, student, hrules, hcreate⟩ := (bookOwnLesson_eq_ok ..).mp hok
  have hcourse := loadCourseForBooking_self hrules.course_loaded
  exact createPracticeLesson_noDoubleBooking (fun c => findAvailableVehicle_keeps env _ _ _ _ _)
    (fun c v t hv => findAvailableVehicle_free hv) hcourse h hcreate

end Booking

/-! ### Editing and cancelling a lesson -/

section Lessons

variable {env : Env} {db : Db}

/-- An edit that leaves time and instructor alone keeps them free; the vehicle is always
looked up. -/
theorem moveLesson_noDoubleBooking {existing : Lesson} {course : CourseForBooking}
    {slot : LessonSlot} (h : NoDoubleBooking db) (hmem : existing ∈ db.lessons.rows)
    (ho : existing.occupies = true) (hrules : LessonSlotRules env db existing course slot)
    (p : Vehicle → Bool) (hlt : slot.start < slot.stop) :
    NoDoubleBooking ((db.refreshed p).moveLesson existing.id slot hlt) := by
  refine h.set (.lesson existing.id) (fun j hj => ?_) fun e he => ?_
  · rw [← calendar_refreshed db p]
    exact calendar_one_lesson (fun k hk => (Table.findUnique_update ..).trans (if_neg hk)) j hj
  · have hfound := Table.findUnique_of_mem hmem
    simp only [calendar, Db.moveLesson, Table.findUnique_update, refreshed_lessons, if_true, hfound,
      Option.map_some, Option.map_eq_some_iff, Option.filter_eq_some_iff, Option.some.injEq] at he
    obtain ⟨l, ⟨rfl, _⟩, rfl⟩ := he
    have hvehicle := vehicle_open_iff.mp hrules.vehicle_free
    have hsr : (calendar db).FreeFor (.lesson existing.id)
          ⟨slot.start, slot.stop, {.student existing.studentId}⟩ ∧
        (calendar db).FreeFor (.lesson existing.id)
          ⟨slot.start, slot.stop, {.instructor slot.instructorId.uuid}⟩ := by
      by_cases hch : (existing.timeChanged slot || existing.instructorChanged slot) = true
      · obtain ⟨hs, _, hi, _⟩ := lessonWindow_iff.mp (hrules.window hch)
        exact ⟨hs.freeFor (skipped_lesson _), hi.freeFor (skipped_lesson _)⟩
      · obtain ⟨h1, h2, h3⟩ := lesson_slot_kept hch
        rw [h1, h2, h3]
        exact ⟨freeFor_kept h (calendar_of_lesson hmem ho) (existing.student_mem_entry _ |>.mpr rfl),
          freeFor_kept h (calendar_of_lesson hmem ho) (existing.instructor_mem_entry _ |>.mpr rfl)⟩
    apply lesson_freeFor hsr.1 hsr.2
    intro v hv
    cases hv
    exact hvehicle.freeFor (skipped_lesson _)

theorem updateLesson_noDoubleBooking (actor : Actor) (lessonId : Uuid) (body : UpdateLessonBody)
    (h : NoDoubleBooking db) : NoDoubleBooking (updateLesson env actor lessonId body db).2 := by
  refine noDoubleBooking_after (Prog.FailsWithin.transaction Refreshed.refl _) h
    fun dto db' hok => ?_
  obtain ⟨existing, course, v, hrules, hcase⟩ := (updateLesson_eq_ok ..).mp hok
  rcases hcase with ⟨_, _, rfl⟩ | ⟨_, p, hslot, hlt, _, rfl⟩
  · exact h
  · obtain ⟨hallowed, _⟩ := (lessonSlotAllowed_eq_ok ..).mp hslot
    have ho : existing.occupies = true := by
      rw [Lesson.occupies_eq_true, (lessonIsEditable_eq_ok.mp hrules.editable).1]
      decide
    exact moveLesson_noDoubleBooking h (findLesson_eq_some hrules.found).1 ho hallowed p hlt

theorem cancelLesson_noDoubleBooking (actor : Actor) (lessonId : Uuid) (h : NoDoubleBooking db) :
    NoDoubleBooking (cancelLesson env actor lessonId db).2 := by
  rcases cancelLesson_store env actor lessonId db with hs | hs
  · rw [hs]
    exact h
  · rw [hs]
    exact h.shrink (shrinks_cancelLessons db _)

theorem cancelOwnLesson_noDoubleBooking (actor : Actor) (lessonId : Uuid)
    (h : NoDoubleBooking db) : NoDoubleBooking (cancelOwnLesson env actor lessonId db).2 := by
  rcases cancelOwnLesson_store env actor lessonId db with hs | ⟨owner, hs⟩
  · rw [hs]
    exact h
  · rw [hs]
    exact h.shrink (shrinks_cancelLessons db _)

end Lessons

end OSK
