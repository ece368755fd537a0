import OskManager.Model.LessonOptions
import OskManager.Schedule.EligibleStudents
import OskManager.Schedule.LessonPreflight
import OskManager.Schedule.VehicleExpiry

/-! What the forms of a lesson offer, against the writes they prepare. The instructors that are
offered for a lesson are those with whom its edit succeeds, and the pages of students and courses
are the parties with which a booking passes all rules but those of its time and its vehicle. -/

namespace OSK

open Relational Sql
open SchoolAvailability (Collation)

/-! ### What the checks write -/

/-- Nothing has happened but that the vehicle has become available, as its unavailability has
expired. -/
def VehicleTouched (env : Env) (vehicleId : Uuid) (db s : Db) : Prop :=
  s = db ∨ ∃ w, activeVehicle db vehicleId = some w ∧
    w.expiredTemporaryUnavailability env = true ∧ s = db.makeVehicleAvailable vehicleId

section Touched

variable {env : Env} {db s : Db} {vehicleId : Uuid}

theorem VehicleTouched.refl (env : Env) (vehicleId : Uuid) (db : Db) :
    VehicleTouched env vehicleId db db := Or.inl rfl

theorem activeVehicle_made (db : Db) (vehicleId : Uuid) :
    activeVehicle (db.makeVehicleAvailable vehicleId) vehicleId =
      (activeVehicle db vehicleId).map Vehicle.madeAvailable := by
  have hfind : activeVehicle (db.makeVehicleAvailable vehicleId) vehicleId = _ :=
    activeVehicle_refreshed db (fun v => decide (v.id = vehicleId)) vehicleId
  rw [hfind]
  cases hactive : activeVehicle db vehicleId with
  | none => rfl
  | some w =>
    have hid := (of_decide_eq_true (Table.mem_of_findFirst hactive).2).1
    simp only [Option.map_some, hid, decide_true, if_true]

/-- A vehicle that has become available does not expire again. -/
theorem VehicleTouched.trans (a b c : Db) (hab : VehicleTouched env vehicleId a b)
    (hbc : VehicleTouched env vehicleId b c) : VehicleTouched env vehicleId a c := by
  rcases hab with rfl | ⟨w, hw, hexpired, rfl⟩
  · exact hbc
  · rcases hbc with rfl | ⟨v, hv, hagain, -⟩
    · exact Or.inr ⟨w, hw, hexpired, rfl⟩
    · rw [activeVehicle_made, hw, Option.map_some, Option.some_inj] at hv
      subst hv
      cases hagain

theorem validateVehicle_touched (instructorId : Uuid) (b : Bool) :
    Prog.Keeps (VehicleTouched env vehicleId)
      (validateVehicleForInstructor env instructorId vehicleId b) := by
  intro s
  rw [validateVehicleForInstructor, Prog.query_bind_run]
  cases hactive : activeVehicle s vehicleId with
  | none => exact VehicleTouched.refl _ _ _
  | some w =>
    have hid := (of_decide_eq_true (Table.mem_of_findFirst hactive).2).1
    have hrest (x : Except Failure Unit) (f : Db → Except Failure Unit) (t : Db) :
        VehicleTouched env vehicleId t (((liftM x : Service Unit) >>= fun _ => Prog.query f) t).2 :=
      Prog.Keeps.bind VehicleTouched.trans (Prog.Keeps.lift (VehicleTouched.refl _ _) x)
        (fun _ => Prog.Keeps.query (VehicleTouched.refl _ _) f) t
    cases hexpired : w.expiredTemporaryUnavailability env with
    | false =>
      simp only [orThrow, Option.elim_some, hexpired]
      exact hrest _ _ s
    | true =>
      simp only [orThrow, Option.elim_some, hexpired]
      refine VehicleTouched.trans _ _ _ (Or.inr ⟨w, hactive, hexpired, rfl⟩) ?_
      rw [← hid]
      rw [← hid] at hrest
      exact hrest _ _ (s.makeVehicleAvailable w.id)

theorem issuesWhen_touched {c : Bool} {p : Service (List ScheduleAvailabilityIssue)}
    (h : Prog.Keeps (VehicleTouched env vehicleId) p) :
    Prog.Keeps (VehicleTouched env vehicleId) (issuesWhen c p) := by
  cases c with
  | false => exact Prog.Keeps.pure (VehicleTouched.refl _ _) []
  | true => exact h

theorem lessonEditIssues_touched (existing : Lesson) (course : CourseForBooking)
    (slot : LessonSlot) (policy : ScheduleDurationPolicy) :
    Prog.Keeps (VehicleTouched env slot.vehicleId.uuid)
      (lessonEditIssues env existing course slot policy) := by
  have hrefl := VehicleTouched.refl env slot.vehicleId.uuid
  have hquery {α : Type} (f : Db → Except Failure α) :
      Prog.Keeps (VehicleTouched env slot.vehicleId.uuid) (Prog.query f) := Prog.Keeps.query hrefl f
  have hpure {α : Type} (a : α) :
      Prog.Keeps (VehicleTouched env slot.vehicleId.uuid) (pure a : Service α) :=
    Prog.Keeps.pure hrefl a
  have hbind {α β : Type} {p : Service α} {f : α → Service β}
      (hp : Prog.Keeps (VehicleTouched env slot.vehicleId.uuid) p)
      (hf : ∀ a, Prog.Keeps (VehicleTouched env slot.vehicleId.uuid) (f a)) :
      Prog.Keeps (VehicleTouched env slot.vehicleId.uuid) (p >>= f) :=
    Prog.Keeps.bind VehicleTouched.trans hp hf
  have hfits : Prog.Keeps (VehicleTouched env slot.vehicleId.uuid)
      (assertLessonVehicleFits env slot.instructorId.uuid slot.vehicleId.uuid course) :=
    hbind (hquery _) fun _ => hbind (hquery _) fun _ => validateVehicle_touched _ _
  have hissues : Prog.Keeps (VehicleTouched env slot.vehicleId.uuid)
      (lessonEditBookingIssues env existing course slot) :=
    hbind (issuesWhen_touched (Prog.Keeps.handle (hquery _))) fun _ => hbind (hquery _)
      fun _ => hpure _
  have hbooking := Prog.Keeps.transaction hrefl fun _ _ _ hrun => hissues.run hrun
  refine hbind (issuesWhen_touched (hbind (Prog.Keeps.handle (hquery _)) fun _ => hpure _))
    fun _ => hbind (hquery _) fun _ => ?_
  dsimp only
  split
  · exact hbind (hpure _) fun _ => hbind (Prog.Keeps.handle hfits) fun _ => hbind hbooking
      fun _ => hpure _
  · exact hbind (issuesWhen_touched (Prog.Keeps.handle (hquery _))) fun _ =>
      hbind (Prog.Keeps.handle hfits) fun _ => hbind hbooking fun _ => hpure _

theorem checkLessonEdit_touched (actor : Actor) (body : LessonEditCheckBody) :
    Prog.Keeps (VehicleTouched env body.vehicleId.uuid)
      (checkLessonEditAvailability env actor body) := by
  have hrefl := VehicleTouched.refl env body.vehicleId.uuid
  have hbind {α β : Type} {p : Service α} {f : α → Service β}
      (hp : Prog.Keeps (VehicleTouched env body.vehicleId.uuid) p)
      (hf : ∀ a, Prog.Keeps (VehicleTouched env body.vehicleId.uuid) (f a)) :
      Prog.Keeps (VehicleTouched env body.vehicleId.uuid) (p >>= f) :=
    Prog.Keeps.bind VehicleTouched.trans hp hf
  refine hbind (Prog.Keeps.query hrefl _) fun existing => hbind (Prog.Keeps.query hrefl _)
    fun course => hbind (Prog.Keeps.query hrefl _) fun _ => hbind (Prog.Keeps.lift hrefl _) fun _ =>
    hbind (Prog.Keeps.lift hrefl _) fun _ => hbind (Prog.Keeps.lift hrefl _) fun window =>
    hbind (Prog.Keeps.query hrefl _) fun policy => ?_
  split
  · exact Prog.Keeps.pure hrefl _
  · exact hbind (lessonEditIssues_touched existing course (body.slot window) policy) fun _ =>
      Prog.Keeps.pure hrefl _

/-! ### What the rules see of it -/

theorem VehicleTouched.validate_iff (h : VehicleTouched env vehicleId db s) {instructorId : Uuid} :
    Prog.Succeeds (validateVehicleForInstructor env instructorId vehicleId true) s ↔
      Prog.Succeeds (validateVehicleForInstructor env instructorId vehicleId true) db := by
  rcases h with rfl | ⟨w, hw, hexpired, rfl⟩
  · exact Iff.rfl
  · rw [validateVehicle_succeeds_iff, validateVehicle_succeeds_iff, activeVehicle_made, hw]
    simp only [Option.map_some, Option.some_inj, exists_eq_left', true_imp_iff]
    exact and_congr_left fun _ => iff_of_true (Or.inl rfl) (Or.inr hexpired)

theorem VehicleTouched.refreshed (h : VehicleTouched env vehicleId db s) : Refreshed db s := by
  rcases h with rfl | ⟨w, -, -, rfl⟩
  · exact Refreshed.refl _
  · exact ⟨_, rfl⟩

/-- No rule of an edit tells whether the vehicle has been made available before. -/
theorem VehicleTouched.editRules_iff {existing : Lesson} {course : CourseForBooking}
    {slot : LessonSlot} (h : VehicleTouched env slot.vehicleId.uuid db s) :
    LessonEditRules env s existing course slot ↔ LessonEditRules env db existing course slot := by
  have hvalid : Prog.Succeeds _ s ↔ Prog.Succeeds (validateVehicleForInstructor env
    slot.instructorId.uuid slot.vehicleId.uuid true) db := h.validate_iff
  obtain ⟨p, rfl⟩ := h.refreshed
  have hschool : ((db.refreshed p).vehicles.findFirst fun v => decide (v.id = slot.vehicleId.uuid ∧
      v.schoolId = course.schoolId ∧ v.isActive = true)).isSome =
      (db.vehicles.findFirst fun v => decide (v.id = slot.vehicleId.uuid ∧
        v.schoolId = course.schoolId ∧ v.isActive = true)).isSome := by
    rw [Db.refreshed, Table.findFirst_updateMany _ _ _ _ Vehicle.id_madeAvailable fun _ => rfl,
      Option.isSome_map]
  constructor
  · rintro ⟨hslot, hvehicle⟩
    refine ⟨⟨hslot.linked, hslot.qualified, hslot.bookable, hslot.duration, hslot.window,
      hschool ▸ hslot.vehicle_in_school, ?_, hslot.vehicle_free, hslot.not_started⟩,
      hvalid.mp hvehicle⟩
    rw [← assertVehicleSupportsCourseType_refreshed db p]
    exact hslot.vehicle_supports
  · rintro ⟨hslot, hvehicle⟩
    refine ⟨⟨hslot.linked, hslot.qualified, hslot.bookable, hslot.duration, hslot.window,
      hschool ▸ hslot.vehicle_in_school, ?_, hslot.vehicle_free, hslot.not_started⟩,
      hvalid.mpr hvehicle⟩
    rw [assertVehicleSupportsCourseType_refreshed db p]
    exact hslot.vehicle_supports

end Touched

/-! ### Instructors for a lesson -/

/-- The foreign key of the course types of courses. -/
def Db.CourseTypesKnown (db : Db) : Prop :=
  ∀ c ∈ db.courses.rows, ∃ t ∈ db.courseTypes.rows, t.id = c.courseTypeId

section Instructors

variable {env : Env} {c : Collation} {db db' : Db} {actor : Actor} {lessonId : Uuid}
  {query : LessonInstructorOptionsQuery}

theorem mem_activeInstructors {schoolId : Uuid} {row : InstructorProfile × User} :
    row ∈ activeInstructorsOfSchool db schoolId ↔
      (instructorLink db row.1.id schoolId).isSome = true ∧ row.1 ∈ db.instructorProfiles.rows ∧
        row.1.hasActiveUser db = true ∧ db.users.findUnique row.1.userId = some row.2 := by
  rw [activeInstructorsOfSchool, List.mem_insertionSort, List.mem_filterMap]
  simp only [Table.mem_findMany, decide_eq_true_eq, Option.bind_eq_bind, Option.bind_eq_some_iff,
    Option.filter_eq_some_iff, Option.pure_def, Option.some_inj]
  constructor
  · rintro ⟨l, ⟨hl, rfl⟩, p, ⟨hp, hactive⟩, user, huser, rfl⟩
    have hid : p.id = l.instructorId := Table.key_of_findUnique hp
    refine ⟨?_, Table.mem_of_findUnique hp, hactive, huser⟩
    exact (Table.findFirst_isSome _ _).mpr ⟨l, hl, decide_eq_true ⟨hid.symm, rfl⟩⟩
  · rintro ⟨hlink, hp, hactive, huser⟩
    obtain ⟨l, hl, hwhere⟩ := (Table.findFirst_isSome _ _).mp hlink
    obtain ⟨hid, hschool⟩ := of_decide_eq_true hwhere
    exact ⟨l, ⟨hl, hschool⟩, row.1, ⟨hid ▸ Table.findUnique_of_mem hp, hactive⟩, row.2, huser, rfl⟩

theorem mem_mapQualifiedCourseTypes {profile : InstructorProfile} {t : CourseType} :
    t ∈ mapQualifiedCourseTypes c db profile ↔
      t ∈ db.courseTypes.rows ∧ t.id ∈ profile.qualifiedCourseTypes := by
  rw [mapQualifiedCourseTypes, List.mem_insertionSort, List.mem_insertionSort, Table.mem_findMany,
    decide_eq_true_eq]

theorem qualified_eq_ok {instructorId courseTypeId : Uuid} :
    assertInstructorQualifiedForCourseType db instructorId courseTypeId = .ok () ↔
      ∃ p ∈ db.instructorProfiles.rows, p.id = instructorId ∧ p.hasActiveUser db = true ∧
        courseTypeId ∈ p.qualifiedCourseTypes := by
  rw [assertInstructorQualifiedForCourseType, throwIf_eq_ok, Bool.not_eq_true,
    Option.isNone_eq_false_iff, Table.findFirst_isSome]
  simp only [decide_eq_true_eq]

/-- The instructor may teach the course in the school. -/
def MayTeach (db : Db) (instructorId : Uuid) (course : CourseForBooking) : Prop :=
  (instructorLink db instructorId course.schoolId).isSome = true ∧
    assertInstructorQualifiedForCourseType db instructorId course.courseTypeId = .ok ()

theorem mem_listInstructors {course : CourseForBooking} {all : List InstructorListItem}
    (hall : listInstructorsBySchoolForUser c db actor course.schoolId = .ok all)
    (htype : ∃ t ∈ db.courseTypes.rows, t.id = course.courseTypeId) {instructorId : Uuid} :
    (∃ item ∈ all, item.id = instructorId ∧
        item.qualifiedCourseTypes.any (fun t => decide (t.id = course.courseTypeId)) = true) ↔
      MayTeach db instructorId course := by
  obtain ⟨t, ht, htid⟩ := htype
  simp only [listInstructorsBySchoolForUser, except_bind_eq_ok] at hall
  obtain ⟨_, _, _, _, hall⟩ := hall
  cases hall
  rw [MayTeach, qualified_eq_ok]
  constructor
  · rintro ⟨item, hitem, rfl, hany⟩
    obtain ⟨row, hrow, rfl⟩ := List.mem_map.mp hitem
    obtain ⟨hlink, hp, hactive, -⟩ := mem_activeInstructors.mp hrow
    obtain ⟨t', ht', hsame⟩ := List.any_eq_true.mp hany
    have hqualified := (mem_mapQualifiedCourseTypes.mp ht').2
    rw [of_decide_eq_true hsame] at hqualified
    exact ⟨hlink, row.1, hp, rfl, hactive, hqualified⟩
  · rintro ⟨hlink, p, hp, rfl, hactive, hqualified⟩
    obtain ⟨user, huser⟩ : ∃ user, db.users.findUnique p.userId = some user := by
      cases huser : db.users.findUnique p.userId with
      | none =>
        rw [InstructorProfile.hasActiveUser, huser] at hactive
        cases hactive
      | some user => exact ⟨user, rfl⟩
    refine ⟨instructorListItem c db p user, List.mem_map.mpr ⟨(p, user), ?_, rfl⟩, rfl, ?_⟩
    · exact mem_activeInstructors.mpr ⟨hlink, hp, hactive, huser⟩
    · refine List.any_eq_true.mpr ⟨t, mem_mapQualifiedCourseTypes.mpr ⟨ht, ?_⟩, decide_eq_true htid⟩
      rwa [htid]

/-- The edit that gives the lesson to the instructor passes the rules of edits. -/
def EditAdmits (env : Env) (db : Db) (existing : Lesson) (course : CourseForBooking)
    (query : LessonInstructorOptionsQuery) (lessonId instructorId : Uuid) : Prop :=
  ∃ window, query.parse env.zone = .ok window ∧
    LessonEditRules env db existing course ((query.check lessonId instructorId).slot window)

theorem check_instructorChanged {existing : Lesson} {window : ScheduleWindow} {instructorId : Uuid}
    (hother : instructorId ≠ existing.instructorId) :
    existing.instructorChanged ((query.check lessonId instructorId).slot window) = true :=
  decide_eq_true (UuidText.ne_ofUuid_of_uuid_ne hother)

open Classical in
theorem availableOption_ok {existing : Lesson} {course : CourseForBooking}
    (hfound : findLesson db lessonId = some existing)
    (hcourse : lessonCourse db existing = .ok course) {instructor : InstructorListItem}
    (hother : instructor.id ≠ existing.instructorId) {s t : Db}
    {result : Option InstructorListItem} (hs : VehicleTouched env query.vehicleId.uuid db s)
    (h : availableOption env actor lessonId query instructor s = (.ok result, t)) :
    VehicleTouched env query.vehicleId.uuid db t ∧ result =
      if EditAdmits env db existing course query lessonId instructor.id then some instructor
      else none := by
  rw [availableOption, Prog.bind_eq_ok] at h
  obtain ⟨answer, t', hcheck, h⟩ := h
  obtain ⟨rfl, rfl⟩ := Prog.pure_eq_ok.mp h
  refine ⟨hs.trans _ _ _ ((checkLessonEdit_touched actor _).run hcheck), ?_⟩
  obtain ⟨existing', course', window, hfound', hcourse', -, -, -, hparse, hiff⟩ :=
    checkLessonEdit_ok hcheck
  obtain ⟨p, rfl⟩ := hs.refreshed
  cases hfound.symm.trans hfound'
  cases hcourse.symm.trans hcourse'
  have hchanged :
      existing.slotChanged ((query.check lessonId instructor.id).slot window) = true := by
    rw [Lesson.slotChanged, check_instructorChanged hother, Bool.or_true]
  rw [hchanged, or_iff_right (Ne.symm Bool.false_ne_true), hs.editRules_iff] at hiff
  have hadmits : EditAdmits env db existing course query lessonId instructor.id ↔
      answer.available = true := by
    rw [hiff]
    refine ⟨?_, fun hrules => ⟨window, hparse, hrules⟩⟩
    rintro ⟨window', hparse', hrules⟩
    cases hparse.symm.trans hparse'
    exact hrules
  simp only [hadmits]

open Classical in
/-- The batches are gone through one after another, each of them element by element. -/
theorem optionLoop_ok {existing : Lesson} {course : CourseForBooking}
    (hfound : findLesson db lessonId = some existing)
    (hcourse : lessonCourse db existing = .ok course) {qualified : List InstructorListItem}
    (hother : ∀ item ∈ qualified, item.id ≠ existing.instructorId)
    {results : List (List (Option InstructorListItem))}
    (h : (batches 4 qualified).mapM (fun batch =>
      batch.mapM (availableOption env actor lessonId query)) db = (.ok results, db')) :
    results.flatten.reduceOption = qualified.filter fun item =>
      decide (EditAdmits env db existing course query lessonId item.id) := by
  let Decided (item : InstructorListItem) (result : Option InstructorListItem) : Prop := result =
    if EditAdmits env db existing course query lessonId item.id then some item else none
  have hbatch : ∀ batch ∈ batches 4 qualified, ∀ s rs t,
      VehicleTouched env query.vehicleId.uuid db s →
      batch.mapM (availableOption env actor lessonId query) s = (.ok rs, t) →
      VehicleTouched env query.vehicleId.uuid db t ∧ List.Forall₂ Decided batch rs := by
    intro batch hbatch s rs t hs hrun
    refine mapM_run_keeps (fun item hitem _ _ _ hs hrun => ?_) hs hrun
    refine availableOption_ok hfound hcourse (hother item ?_) hs hrun
    rw [← flatten_batches (by decide : 0 < 4) qualified]
    exact List.mem_flatten.mpr ⟨batch, hbatch, hitem⟩
  obtain ⟨-, hresults⟩ := mapM_run_keeps hbatch (VehicleTouched.refl env query.vehicleId.uuid db) h
  rw [reduceOption_of_forall₂ (forall₂_flatten hresults), flatten_batches (by decide)]

open Classical in
theorem instructorOptions_ok {options : List InstructorListItem}
    (h : getLessonInstructorOptions env c actor lessonId query db = (.ok options, db')) :
    ∃ existing course all, findLesson db lessonId = some existing ∧
      lessonCourse db existing = .ok course ∧
      assertActorCanBookLessonForCourse db actor course.schoolId = .ok () ∧
      existing.lessonType = .practice ∧
      assertLessonHasNotStarted env existing.status existing.startTime = .ok () ∧
      listInstructorsBySchoolForUser c db actor course.schoolId = .ok all ∧
      options = (all.filter fun item => decide (item.id ≠ existing.instructorId) &&
        item.qualifiedCourseTypes.any fun t => decide (t.id = course.courseTypeId)).filter
          fun item => decide (EditAdmits env db existing course query lessonId item.id) := by
  rw [getLessonInstructorOptions, Prog.query_bind_eq_ok] at h
  obtain ⟨qualified, hqualified, h⟩ := h
  simp only [except_bind_eq_ok, orThrow_eq_ok, throwIf_eq_ok, not_not] at hqualified
  obtain ⟨existing, hfound, course, hcourse, _, hactor, _, htype, _, hstarted, all, hall,
    hqualified⟩ := hqualified
  cases hqualified
  rw [Prog.bind_eq_ok] at h
  obtain ⟨results, t, hloop, h⟩ := h
  obtain ⟨rfl, rfl⟩ := Prog.pure_eq_ok.mp h
  refine ⟨existing, course, all, hfound, hcourse, hactor, htype, hstarted, hall,
    optionLoop_ok hfound hcourse (fun item hitem => ?_) hloop⟩
  rw [List.mem_filter, Bool.and_eq_true, decide_eq_true_eq] at hitem
  exact hitem.2.1

/-- An instructor is listed and admitted when the rules of the edit hold: they say that he is linked
to the school and qualified for the course. -/
theorem listed_admits_iff (htypes : db.CourseTypesKnown) {existing : Lesson}
    {course : CourseForBooking} {window : ScheduleWindow} {all : List InstructorListItem}
    (hcourse : lessonCourse db existing = .ok course)
    (hall : listInstructorsBySchoolForUser c db actor course.schoolId = .ok all)
    (hparse : query.parse env.zone = .ok window) {instructorId : Uuid}
    (hother : instructorId ≠ existing.instructorId) :
    (∃ item ∈ all, (item.id ≠ existing.instructorId ∧
        item.qualifiedCourseTypes.any (fun t => decide (t.id = course.courseTypeId)) = true) ∧
      EditAdmits env db existing course query lessonId item.id ∧ item.id = instructorId) ↔
        LessonEditRules env db existing course
          ((query.check lessonId instructorId).slot window) := by
  have htype : ∃ t ∈ db.courseTypes.rows, t.id = course.courseTypeId := by
    obtain ⟨row, hrow, rfl⟩ := lessonCourse_eq_ok.mp hcourse
    exact htypes row (Table.mem_of_findUnique hrow)
  constructor
  · rintro ⟨item, -, -, ⟨window', hparse', hrules⟩, rfl⟩
    cases hparse.symm.trans hparse'
    exact hrules
  · intro hrules
    have hmay : MayTeach db instructorId course :=
      ⟨hrules.slot_rules.linked, hrules.slot_rules.qualified (check_instructorChanged hother)⟩
    obtain ⟨item, hitem, rfl, hqualified⟩ := (mem_listInstructors hall htype).mpr hmay
    exact ⟨item, hitem, ⟨hother, hqualified⟩, ⟨window, hparse, hrules⟩, rfl⟩

/-- With another instructor a practice lesson that has not started can be edited by the rules that
the check looks at, and not to the present instant. -/
theorem reassignment_succeeds_iff {existing : Lesson} {course : CourseForBooking}
    {window : ScheduleWindow} (hfound : findLesson db lessonId = some existing)
    (hcourse : lessonCourse db existing = .ok course)
    (hactor : assertActorCanBookLessonForCourse db actor course.schoolId = .ok ())
    (htype : existing.lessonType = .practice)
    (hstarted : assertLessonHasNotStarted env existing.status existing.startTime = .ok ())
    (hparse : query.parse env.zone = .ok window) {instructorId : Uuid}
    (hother : instructorId ≠ existing.instructorId) :
    Prog.Succeeds (updateLesson env actor lessonId
        ((query.check lessonId instructorId).update window existing)) db ↔
      LessonEditRules env db existing course ((query.check lessonId instructorId).slot window) ∧
        window.start ≠ env.now := by
  obtain ⟨hstatus, hnow⟩ := lessonHasNotStarted_eq_ok.mp hstarted
  have heditable : assertLessonIsEditable env existing.status existing.endTime = .ok () :=
    (lessonIsEditable_eq_ok ..).mpr ⟨hstatus, hnow.trans existing.start_before_end⟩
  have hchanged : existing.instructorChanged
      ((query.check lessonId instructorId).slot window) = true := check_instructorChanged hother
  have hfound' : findLesson db (query.check lessonId instructorId).lessonId = some existing :=
    hfound
  have hslot : existing.slotChanged ((query.check lessonId instructorId).slot window) = true := by
    simp only [Lesson.slotChanged, hchanged, Bool.or_true]
  refine (updateLesson_succeeds_iff hfound' hcourse hactor heditable hstarted
    (parse_start_before_end hparse)).trans ?_
  rw [hchanged, hslot, Bool.or_true]
  constructor
  · intro h
    obtain ⟨-, hstart, hrules⟩ := h
    exact ⟨hrules.resolve_left (Ne.symm Bool.false_ne_true), ne_of_gt (hstart rfl)⟩
  · intro h
    obtain ⟨hrules, hne⟩ := h
    refine ⟨fun _ => htype, fun _ => ?_, Or.inr hrules⟩
    by_cases htime : existing.timeChanged
        ((query.check lessonId instructorId).slot window) = true
    · have hbookable := hrules.slot_rules.bookable htime
      simp only [assertLessonTimeIsBookable, except_bind_eq_ok, throwIf_eq_ok, not_lt] at hbookable
      obtain ⟨_, hge, _⟩ := hbookable
      exact lt_of_le_of_ne hge hne.symm
    · have hsame : window.start = existing.startTime := by
        by_contra hmoved
        exact htime (decide_eq_true (Or.inl hmoved))
      rw [hsame]
      exact hnow

/-- The instructors offered for a lesson are those of the school's list, in its order, with whom the
announced edit succeeds, unless the new start is the present instant: then the edit is refused
whoever is chosen. -/
theorem instructorOptions_exact (htypes : db.CourseTypesKnown) {options : List InstructorListItem}
    (h : getLessonInstructorOptions env c actor lessonId query db = (.ok options, db')) :
    ∃ existing course all, findLesson db lessonId = some existing ∧
      lessonCourse db existing = .ok course ∧
      listInstructorsBySchoolForUser c db actor course.schoolId = .ok all ∧ options.Sublist all ∧
      (∀ item ∈ options, item.id ≠ existing.instructorId) ∧
      ∀ window, query.parse env.zone = .ok window →
        ∀ instructorId, instructorId ≠ existing.instructorId →
          ((∃ item ∈ options, item.id = instructorId) ∧ window.start ≠ env.now ↔
            Prog.Succeeds (updateLesson env actor lessonId
              ((query.check lessonId instructorId).update window existing)) db) := by
  classical
  obtain ⟨existing, course, all, hfound, hcourse, hactor, htype, hstarted, hall, rfl⟩ :=
    instructorOptions_ok h
  refine ⟨existing, course, all, hfound, hcourse, hall,
    List.filter_sublist.trans List.filter_sublist, fun item hitem => ?_, ?_⟩
  · rw [List.mem_filter, List.mem_filter, Bool.and_eq_true, decide_eq_true_eq] at hitem
    exact hitem.1.2.1
  · intro window hparse instructorId hother
    rw [reassignment_succeeds_iff hfound hcourse hactor htype hstarted hparse hother,
      ← listed_admits_iff htypes hcourse hall hparse hother]
    simp only [List.mem_filter, Bool.and_eq_true, decide_eq_true_eq, and_assoc]

end Instructors

namespace SmallSchool

/-- Somebody else for the lesson on Tuesday, at two. -/
def atTwo : LessonInstructorOptionsQuery where
  date := 5
  startTime := 840
  endTime := 900
  vehicleId := 40

end SmallSchool

open SmallSchool in
/-- The second instructor is offered for the lesson and can take it. -/
theorem instructorOptions_exact_second :
    Prog.Succeeds (updateLesson (envAt (clock 4 8 0)) manager 70 ((atTwo.check 70 21).update
      ⟨clock 5 14 0, clock 5 15 0⟩ (tuesdayLesson .practice))) (withTuesdayLesson .practice) := by
  obtain ⟨options, t, h⟩ : Prog.Succeeds (getLessonInstructorOptions (envAt (clock 4 8 0))
      ⟨compare, inferInstance⟩ manager 70 atTwo) (withTuesdayLesson .practice) := by decide
  have hoffered : (getLessonInstructorOptions (envAt (clock 4 8 0)) ⟨compare, inferInstance⟩ manager
      70 atTwo (withTuesdayLesson .practice)).1.toOption.any
        (fun l => l.any fun item => decide (item.id = 21)) = true := by decide
  have htypes : (withTuesdayLesson .practice).CourseTypesKnown := by
    unfold Db.CourseTypesKnown
    decide
  rw [h] at hoffered
  obtain ⟨item, hitem, hid⟩ := List.any_eq_true.mp hoffered
  obtain ⟨existing, course, all, hfound, -, -, -, -, hiff⟩ := instructorOptions_exact htypes h
  cases hfound
  exact (hiff _ rfl 21 (by decide)).mp ⟨⟨item, hitem, of_decide_eq_true hid⟩, by decide⟩

end OSK
