import OskManager.Lib.Timeline
import OskManager.Sample.SmallSchool
import OskManager.Schedule.VehicleWrites
import OskManager.Schedule.WriteEffects

/-! Vehicle categories. A drive that lies ahead or is going on has a vehicle that supports the
category of its course. Whoever chooses a vehicle looks its categories up, and neither a vehicle
nor a course loses a category that such a drive needs. -/

namespace OSK

open Relational

/-- The course is there, and the vehicle is one that supports its category. -/
def FittingVehicle (db : Db) (courseId : Uuid) (vehicleId : Option Uuid) : Prop :=
  ∃ c, db.courses.findUnique courseId = some c ∧
    ∃ v, vehicleId = some v ∧ VehicleSupports db v c.courseTypeId

/-- Every pending lesson, and every pending drive with a course, has a vehicle of its category. -/
structure CategoriesFit (now : Instant) (db : Db) : Prop where
  lessons : ∀ l ∈ db.lessons.rows, l.isPending now = true →
    FittingVehicle db l.courseId l.vehicleId
  events : ∀ e ∈ db.instructorEvents.rows, e.isPending now = true → e.type = .drive →
    ∀ courseId, e.courseId = some courseId → FittingVehicle db courseId e.vehicleId

/-! ### Time -/

theorem Lesson.isPending_mono {l : Lesson} {now t : Instant} (hle : now ≤ t)
    (h : l.isPending t = true) : l.isPending now = true := by
  obtain ⟨hdeleted, hstatus, hend⟩ := of_decide_eq_true h
  exact decide_eq_true ⟨hdeleted, hstatus, hle.trans_lt hend⟩

theorem InstructorEvent.isPending_mono {e : InstructorEvent} {now t : Instant} (hle : now ≤ t)
    (h : e.isPending t = true) : e.isPending now = true := by
  obtain ⟨hactive, hstatus, hend⟩ := of_decide_eq_true h
  exact decide_eq_true ⟨hactive, hstatus, hle.trans_lt hend⟩

theorem categoriesFit_lasting : Timeline.Lasting CategoriesFit := fun _ _ _ hle h =>
  ⟨fun l hl hpending => h.lessons l hl (Lesson.isPending_mono hle hpending),
    fun e he hpending => h.events e he (InstructorEvent.isPending_mono hle hpending)⟩

/-! ### Each write -/

section Writes

variable {env : Env} {now : Instant} {db db' : Db}

theorem FittingVehicle.keep {courseId : Uuid} {vehicleId : Option Uuid}
    (h : FittingVehicle db courseId vehicleId)
    (hcourse : ∀ c, db.courses.findUnique courseId = some c →
      ∃ c', db'.courses.findUnique courseId = some c' ∧ ∀ v, vehicleId = some v →
        VehicleSupports db v c.courseTypeId → VehicleSupports db' v c'.courseTypeId) :
    FittingVehicle db' courseId vehicleId := by
  obtain ⟨c, hc, v, hv, hsupports⟩ := h
  obtain ⟨c', hc', hkeep⟩ := hcourse c hc
  exact ⟨c', hc', v, hv, hkeep v hv hsupports⟩

/-- Courses as they were, and no vehicle without one of its categories. -/
theorem FittingVehicle.mono {courseId : Uuid} {vehicleId : Option Uuid}
    (h : FittingVehicle db courseId vehicleId) (hcourses : db'.courses = db.courses)
    (hsupports : ∀ v t, VehicleSupports db v t → VehicleSupports db' v t) :
    FittingVehicle db' courseId vehicleId :=
  h.keep fun c hc => ⟨c, by rw [hcourses, hc], fun v _ => hsupports v _⟩

theorem fittingVehicle_refreshed {p : Vehicle → Bool} {courseId : Uuid} {vehicleId : Option Uuid}
    (h : FittingVehicle db courseId vehicleId) : FittingVehicle (db.refreshed p) courseId vehicleId :=
  h.mono rfl fun _ _ => vehicleSupports_refreshed.mpr

theorem CategoriesFit.refreshed (h : CategoriesFit now db) (p : Vehicle → Bool) :
    CategoriesFit now (db.refreshed p) :=
  ⟨fun l hl hpending => fittingVehicle_refreshed (h.lessons l hl hpending),
    fun e he hpending hdrive k hk =>
      fittingVehicle_refreshed (h.events e he hpending hdrive k hk)⟩

theorem CategoriesFit.withLessons (h : CategoriesFit now db) {t : Table Lesson.id}
    (hlessons : ∀ l ∈ t.rows, l ∈ db.lessons.rows ∨ FittingVehicle db l.courseId l.vehicleId) :
    CategoriesFit now { db with lessons := t } := by
  refine ⟨fun l hl hpending => ?_, h.events⟩
  rcases hlessons l hl with hold | hnew
  · exact h.lessons l hold hpending
  · exact hnew

theorem LessonBooked.fitting {data : NewLesson} {course : Course}
    (h : LessonBooked db data course) : FittingVehicle db data.courseId (some data.vehicleId) :=
  ⟨course, h.course_found, _, rfl, h.vehicle⟩

theorem LessonWritten.categoriesFit (hwrite : LessonWritten env db db')
    (h : CategoriesFit now db) : CategoriesFit now db' := by
  cases hwrite with
  | refreshed p => exact h.refreshed p
  | booked p data hlt course found =>
    refine (h.refreshed p).withLessons fun l hl => ?_
    rcases (mem_insertLesson hlt).mp hl with hold | rfl
    · exact Or.inl hold
    · exact Or.inr (fittingVehicle_refreshed found.fitting)
  | moved p existing course slot hlt found =>
    refine (h.refreshed p).withLessons fun l hl => ?_
    rcases found.mem_cases hl with ⟨hold, _⟩ | rfl
    · exact Or.inl hold
    · refine Or.inr (fittingVehicle_refreshed ?_)
      exact ⟨course, found.course_found, _, rfl, found.vehicle⟩

theorem CategoriesFit.withEvents (h : CategoriesFit now db) {t : Table InstructorEvent.id}
    (hevents : ∀ e ∈ t.rows, e ∈ db.instructorEvents.rows ∨
      (e.status = .planned → e.type = .drive → ∀ courseId, e.courseId = some courseId →
        FittingVehicle db courseId e.vehicleId)) :
    CategoriesFit now { db with instructorEvents := t } := by
  refine ⟨h.lessons, fun e he hpending => ?_⟩
  rcases hevents e he with hold | hnew
  · exact h.events e hold hpending
  · exact hnew (of_decide_eq_true hpending).2.1

theorem EventCreated.categoriesFit {actor : Actor} {body : CreateInstructorEventBody}
    (hbody : body.courseId ≠ none → body.type = .theory)
    (hwrite : EventCreated env actor body db db') (h : CategoriesFit now db) :
    CategoriesFit now db' := by
  cases hwrite with
  | refreshed p => exact h.refreshed p
  | created p schoolId rules =>
    refine (h.refreshed p).withEvents fun e he => ?_
    rcases mem_insertEvent.mp he with hold | rfl
    · exact Or.inl hold
    · refine Or.inr fun _ hdrive courseId hcourse => ?_
      have htheory := hbody (Option.ne_none_iff_exists'.mpr ⟨courseId, hcourse⟩)
      exact absurd (htheory.symm.trans hdrive) (by decide)

theorem fitting_of_supports {vehicleId courseId : Uuid}
    (h : assertVehicleSupportsCourse db vehicleId courseId = .ok ()) :
    FittingVehicle db courseId (some vehicleId) := by
  obtain ⟨c, hc, hsupports⟩ := assertVehicleSupportsCourse_ok h
  exact ⟨c, hc, vehicleId, rfl, hsupports⟩

theorem EventEdited.categoriesFit {actor : Actor} {eventId : Uuid}
    {body : PatchInstructorEventBody} (hwrite : EventEdited env actor eventId body db db')
    (h : CategoriesFit now db) : CategoriesFit now db' := by
  cases hwrite with
  | refreshed p => exact h.refreshed p
  | edited p u passes =>
    have rules := passes.rules
    refine (h.refreshed p).withEvents fun e he => ?_
    rcases rules.prepared.mem_cases he with ⟨hold, _⟩ | rfl
    · exact Or.inl hold
    · refine Or.inr fun hplanned hdrive courseId hcourse => ?_
      have hmerged : u.merged.courseId = some courseId := by
        rw [rules.prepared.merged, mergeEvent]
        exact hcourse
      obtain ⟨v, hresolved⟩ := rules.drive_resolved hdrive
      have hstatus : u.merged.status ≠ .cancelled :=
        ne_of_eq_of_ne (show u.merged.status = .planned from hplanned) (by decide)
      have hsupports := rules.update.vehicle_supports hdrive hstatus courseId hmerged v hresolved
      have hvehicle : (u.current.rewritten u).vehicleId = some v := hresolved
      rw [hvehicle]
      exact fittingVehicle_refreshed (fitting_of_supports hsupports)

theorem StatusesChanged.categoriesFit {actor : Actor} {body : BulkUpdateEventStatusBody}
    (hwrite : StatusesChanged actor body db db') (h : CategoriesFit now db) :
    CategoriesFit now db' := by
  cases hwrite with
  | refreshed p => exact h.refreshed p
  | changed ids passes =>
    refine h.withEvents fun e he => ?_
    rcases mem_setEventStatuses he with hold | ⟨q, hq, hid, rfl⟩
    · exact Or.inl hold
    · refine Or.inr fun hstatus hdrive courseId hcourse => ?_
      have hlisted : q.id ∈ ids ∧ q.type = .drive ∧ q.courseId ≠ none :=
        ⟨hid, hdrive, Option.ne_none_iff_exists'.mpr ⟨_, hcourse⟩⟩
      have hcan := passes.planned hstatus q
        ((Table.mem_findMany _ _ _).mpr ⟨hq, decide_eq_true hlisted⟩)
      simp only [assertDriveCanBePlanned, except_bind_eq_ok, orThrow_eq_ok, forSome_eq_ok] at hcan
      obtain ⟨v, hv, hsupports⟩ := hcan
      have hvehicle : (q.withStatus body.status).vehicleId = some v := hv
      rw [hvehicle]
      exact fitting_of_supports (hsupports courseId hcourse)

theorem CategoriesFit.withVehicles (h : CategoriesFit now db) {t : Table Vehicle.id}
    (hlessons : ∀ l ∈ db.lessons.rows, l.isPending now = true → ∀ v, l.vehicleId = some v →
      ∀ c, db.courses.findUnique l.courseId = some c → VehicleSupports db v c.courseTypeId →
        VehicleSupports { db with vehicles := t } v c.courseTypeId)
    (hevents : ∀ e ∈ db.instructorEvents.rows, e.isPending now = true → e.type = .drive →
      ∀ v, e.vehicleId = some v → ∀ courseId, e.courseId = some courseId →
        ∀ c, db.courses.findUnique courseId = some c → VehicleSupports db v c.courseTypeId →
          VehicleSupports { db with vehicles := t } v c.courseTypeId) :
    CategoriesFit now { db with vehicles := t } := by
  refine ⟨fun l hl hpending => ?_, fun e he hpending hdrive courseId hcourse => ?_⟩
  · refine (h.lessons l hl hpending).keep fun c hc => ⟨c, hc, fun v hv => ?_⟩
    exact hlessons l hl hpending v hv c hc
  · refine (h.events e he hpending hdrive courseId hcourse).keep fun c hc => ⟨c, hc, fun v hv => ?_⟩
    exact hevents e he hpending hdrive v hv courseId hcourse c hc

/-- An edited vehicle still supports what it supported, unless the category was taken away. -/
theorem vehicleSupports_patchVehicle {vehicleId v courseTypeId : Uuid}
    {payload : VehicleWritePayload OptionalVehiclePatch} (h : VehicleSupports db v courseTypeId)
    (hkept : v = vehicleId → ∀ ids, payload.supportedCourseTypeIds = some ids →
      courseTypeId ∈ ids) :
    VehicleSupports (db.patchVehicle vehicleId payload) v courseTypeId := by
  obtain ⟨w, hw, rfl, htype⟩ := h
  refine ⟨_, (Table.mem_updateMany _ _ _ (Vehicle.id_patched payload) _).mpr ⟨w, hw, rfl⟩, ?_, ?_⟩
  · split
    · exact Vehicle.id_patched payload w
    · rfl
  · split
    · next hid =>
      show courseTypeId ∈ payload.supportedCourseTypeIds.getD w.supportedCourseTypes
      rcases hids : payload.supportedCourseTypeIds with _ | ids
      · exact htype
      · exact hkept (of_decide_eq_true hid) ids hids
    · exact htype

theorem vehicleSupports_insertVehicle {schoolId v courseTypeId : Uuid}
    {payload : VehicleWritePayload OptionalVehicleFields} (h : VehicleSupports db v courseTypeId) :
    VehicleSupports (db.insertVehicle env schoolId payload) v courseTypeId := by
  obtain ⟨w, hw, hid, htype⟩ := h
  exact ⟨w, mem_insertVehicle.mpr (Or.inl hw), hid, htype⟩

theorem VehicleWritten.categoriesFit (hwrite : VehicleWritten env db db')
    (h : CategoriesFit env.now db) : CategoriesFit env.now db' := by
  cases hwrite with
  | unchanged => exact h
  | added schoolId payload =>
    exact h.withVehicles (fun _ _ _ _ _ _ _ => vehicleSupports_insertVehicle)
      fun _ _ _ _ _ _ _ _ _ _ => vehicleSupports_insertVehicle
  | addedFirst schoolId payload vehicleId =>
    have hadded : CategoriesFit env.now (db.insertVehicle env schoolId payload) :=
      h.withVehicles (fun _ _ _ _ _ _ _ => vehicleSupports_insertVehicle)
        fun _ _ _ _ _ _ _ _ _ _ => vehicleSupports_insertVehicle
    exact ⟨hadded.lessons, hadded.events⟩
  | edited vehicleId payload guard =>
    have hkept {v : Uuid} {c : Course} (hsupports : VehicleSupports db v c.courseTypeId)
        (hneeded : VehicleNeeded env.now db v c) :
        VehicleSupports (db.patchVehicle vehicleId payload) v c.courseTypeId := by
      refine vehicleSupports_patchVehicle hsupports fun hsame ids hids => ?_
      subst hsame
      obtain ⟨w, hw, rfl, htype⟩ := hsupports
      rw [hids] at guard
      exact neededCategory_kept guard (Table.findUnique_of_mem hw) htype hneeded
    refine h.withVehicles (fun l hl hpending v hv c hc hsupports => ?_)
      fun e he hpending hdrive v hv courseId hcourse c hc hsupports => ?_
    · exact hkept hsupports (.lesson l hl hv hpending hc)
    · exact hkept hsupports (.event e he hv hdrive hpending courseId hcourse hc)

/-- A course that keeps its category, or had nothing that needed it. -/
theorem patchCourse_categoriesFit {courseId courseTypeId : Uuid} {body : PatchCourseBody}
    {row : Course} (hrules : PatchCourseRules userId body courseId db row courseTypeId)
    (h : CategoriesFit now db) :
    CategoriesFit now (db.patchCourse courseId body courseTypeId) := by
  have hfitting {k : Uuid} {vehicleId : Option Uuid} (hfit : FittingVehicle db k vehicleId)
      (hkept : k = courseId → courseTypeId = row.courseTypeId) :
      FittingVehicle (db.patchCourse courseId body courseTypeId) k vehicleId := by
    refine hfit.keep fun c hc => ?_
    rw [findUnique_patchCourse, hc]
    by_cases hk : k = courseId
    · rw [hk, hrules.found] at hc
      cases hc
      refine ⟨row.patched body courseTypeId, if_pos hk, fun v _ hsupports => ?_⟩
      rw [hrules.courseTypeId_patched, hkept hk]
      exact hsupports
    · exact ⟨c, if_neg hk, fun v _ hsupports => hsupports⟩
  refine ⟨fun l hl hpending => ?_, fun e he hpending hdrive k hk => ?_⟩
  · refine hfitting (h.lessons l hl hpending) fun hk => ?_
    rcases hrules.courseType_kept with hkept | hnone
    · exact hkept
    · exact absurd hk (no_lesson_of_no_activity hnone hl (of_decide_eq_true hpending).1)
  · refine hfitting (h.events e he hpending hdrive k hk) fun hcourse => ?_
    rcases hrules.courseType_kept with hkept | hnone
    · exact hkept
    · exact absurd (hcourse ▸ hk) (no_event_of_no_activity hnone he)

end Writes

/-! ### Runs -/

/-- The operations that choose a vehicle, edit one or edit a course, with their arguments. -/
inductive CategoryCall where
  | bookLesson (actor : Actor) (body : BookLessonBody)
  | bookOwnLesson (actor : Actor) (body : BookOwnLessonBody)
  | updateLesson (actor : Actor) (lessonId : Uuid) (body : UpdateLessonBody)
  | createInstructorEvent (actor : Actor) (body : CreateInstructorEventBody)
  | updateInstructorEvent (actor : Actor) (eventId : Uuid) (body : PatchInstructorEventBody)
  | bulkUpdateEventStatus (actor : Actor) (body : BulkUpdateEventStatusBody)
  | upsertVehicleForUser (userId : Uuid) (body : UpsertVehicleBody)
  | updateVehicleForUser (userId vehicleId : Uuid) (body : ParsedVehicleBody OptionalVehiclePatch)
  | patchCourseForOwner (userId courseId : Uuid) (body : PatchCourseBody)

namespace CategoryCall

/-- The state a call leaves, whether it succeeds or fails. -/
def run (env : Env) (db : Db) : CategoryCall → Db
  | .bookLesson actor body => (OSK.bookLesson env actor body db).2
  | .bookOwnLesson actor body => (OSK.bookOwnLesson env actor body db).2
  | .updateLesson actor lessonId body => (OSK.updateLesson env actor lessonId body db).2
  | .createInstructorEvent actor body => (OSK.createInstructorEvent env actor body db).2
  | .updateInstructorEvent actor eventId body =>
    (OSK.updateInstructorEvent env actor eventId body db).2
  | .bulkUpdateEventStatus actor body => (OSK.bulkUpdateEventStatus actor body db).2
  | .upsertVehicleForUser userId body => (OSK.upsertVehicleForUser env userId body db).2
  | .updateVehicleForUser userId vehicleId body =>
    (OSK.updateVehicleForUser env userId vehicleId body db).2
  | .patchCourseForOwner userId courseId body =>
    (OSK.patchCourseForOwner userId courseId body db).2

/-- What the request schemas admit: `courseId is only allowed for THEORY events`. -/
def WellFormed : CategoryCall → Prop
  | .createInstructorEvent _ body => body.courseId ≠ none → body.type = .theory
  | _ => True

/-- Calls of the schema, each with the clock it runs at. -/
def timeline : Timeline (Env × CategoryCall) Instant Db where
  time k := k.1.now
  allowed k _ := k.2.WellFormed
  act k db := k.2.run k.1 db

theorem run_categoriesFit {env : Env} {db : Db} {call : CategoryCall} (hcall : call.WellFormed)
    (h : CategoriesFit env.now db) : CategoriesFit env.now (call.run env db) := by
  cases call with
  | bookLesson actor body => exact (bookLesson_written actor body).categoriesFit h
  | bookOwnLesson actor body => exact (bookOwnLesson_written actor body).categoriesFit h
  | updateLesson actor lessonId body =>
    exact (updateLesson_written actor lessonId body).categoriesFit h
  | createInstructorEvent actor body =>
    exact (createInstructorEvent_written actor body).categoriesFit hcall h
  | updateInstructorEvent actor eventId body =>
    exact (updateInstructorEvent_written actor eventId body).categoriesFit h
  | bulkUpdateEventStatus actor body =>
    exact (bulkUpdateEventStatus_written actor body).categoriesFit h
  | upsertVehicleForUser userId body =>
    exact (upsertVehicleForUser_written userId body).categoriesFit h
  | updateVehicleForUser userId vehicleId body =>
    exact (updateVehicleForUser_written userId vehicleId body).categoriesFit h
  | patchCourseForOwner userId courseId body =>
    show CategoriesFit env.now (OSK.patchCourseForOwner userId courseId body db).2
    rcases patchCourseForOwner_store userId courseId body db with hs | ⟨row, t, hrules, hs⟩
    · rw [hs]
      exact h
    · rw [hs]
      exact patchCourse_categoriesFit hrules h

end CategoryCall

/-- After any run, and while nothing happens, every pending drive has a vehicle of its category. -/
theorem run_vehicleCategories {c c' : Clocked Instant Db} (h : CategoriesFit c.now c.store)
    (hrun : CategoryCall.timeline.Run c c') {t : Instant} (ht : c'.now ≤ t) :
    CategoriesFit t c'.store :=
  hrun.invariant_at categoriesFit_lasting
    (fun _ _ hcall hfit => CategoryCall.run_categoriesFit hcall hfit) h ht

namespace TwoCategories

open SmallSchool

/-- The school, and another category that no course has. -/
def start : Clocked Instant Db where
  now := clock 4 7 0
  store := { SmallSchool.db with
    courseTypes := ⟨[{ id := 7, code := "B" }, { id := 8, code := "C" }], by decide⟩ }

/-- An edit that leaves a vehicle with the other category only. -/
def onlyC (vehicleId : Uuid) (registrationNumber : String) : CategoryCall :=
  .updateVehicleForUser 1 vehicleId (.ok {
    name := "Truck", registrationNumber, optional := {}, supportedCourseTypeIds := some [8] })

def booking : CategoryCall := .bookLesson manager ⟨50, 3, 20, clock 5 10 0, clock 5 11 0, 40⟩

def after (call : CategoryCall) (c : Clocked Instant Db) : Clocked Instant Db :=
  ⟨clock 4 8 0, call.run (envAt (clock 4 8 0)) c.store⟩

theorem after_step (call : CategoryCall) (hcall : call.WellFormed) {c : Clocked Instant Db}
    (hc : c.now ≤ clock 4 8 0) : CategoryCall.timeline.Step c (after call c) :=
  ⟨(envAt (clock 4 8 0), call), hc, hcall, rfl⟩

def stop : Clocked Instant Db := after (onlyC 41 "B") (after (onlyC 40 "A") (after booking start))

end TwoCategories

open TwoCategories in
/-- The vehicle of the lesson keeps its category, the other one loses it. -/
theorem run_vehicleCategories_two : CategoriesFit (SmallSchool.clock 5 9 0) stop.store ∧
    stop.store.lessons.rows.map Lesson.vehicleId = [some 40] ∧
    stop.store.vehicles.rows.map Vehicle.supportedCourseTypes = [[7], [8]] := by
  have hstart : CategoriesFit start.now start.store :=
    ⟨fun _ hl => absurd hl List.not_mem_nil, fun _ he => absurd he List.not_mem_nil⟩
  have hbooked := after_step booking trivial (c := start) (by decide)
  have hrun := Relation.ReflTransGen.single hbooked
  refine ⟨run_vehicleCategories hstart ?_ (by decide), by decide +kernel, by decide +kernel⟩
  exact (hrun.tail (after_step (onlyC 40 "A") trivial le_rfl)).tail
    (after_step (onlyC 41 "B") trivial le_rfl)

end OSK
