import OskManager.Model.DrivingSchools
import OskManager.Sample.SmallSchool
import OskManager.Schedule.VehicleWrites
import OskManager.Schools.ScheduleIsolation
import OskManager.Students.PaymentRuns

/-! Schools are kept apart. Whatever people who have nothing to do with a school ask for, in
whatever order, on the schedule, the courses, the enrolments, the vehicles or the payments, its
rows stay as they are. -/

namespace OSK

open Relational
open SchoolAvailability (Collation)

variable {env : Env} {db db' : Db} {schoolId : Uuid} {actor : Actor}

/-! ### Courses and enrolments -/

theorem createCourseForUser_intact (hout : Stranger db schoolId actor) (body : CreateCourseBody) :
    Intact (fun _ => False) schoolId db (createCourseForUser env actor.id body db).2 := by
  rcases (createCourseForUser_fails env actor.id body).cases db with ⟨dto, hok⟩ | hs
  · obtain ⟨courseType, hrules, hdb⟩ := createCourseForUser_ok hok
    rw [hdb]
    exact .courses (Table.sameOn_insert (hout.not_owner hrules.school))
  · rw [hs]
    exact .refl schoolId db

theorem findOwnedCourse_other (hout : Stranger db schoolId actor) {courseId : Uuid} {row : Course}
    (h : findOwnedCourse db actor.id courseId = .ok row) : row.schoolId ≠ schoolId := by
  simp only [findOwnedCourse, except_bind_eq_ok, orThrow_eq_ok, throwIf_eq_ok, ne_eq,
    not_not] at h
  obtain ⟨_, _, _, _, s, hs, _, howner, h⟩ := h
  cases h
  have hid : s.id = row.schoolId := Table.key_of_findUnique hs
  rw [← hid]
  exact hout.owner s (Table.mem_of_findUnique hs) howner

/-- A course of another school changes, but not its school. -/
theorem updateCourse_intact {courseId : Uuid} {row : Course} {f : Course → Course}
    (hf : ∀ c, (f c).id = c.id) (hschool : ∀ c, (f c).schoolId = c.schoolId)
    (hfound : db.courses.findUnique courseId = some row) (hother : row.schoolId ≠ schoolId) :
    Intact (fun _ => False) schoolId db { db with courses := db.courses.update courseId f hf } := by
  refine .courses (Table.sameOn_update fun c hc hid => ?_)
  have hkey := hid.trans (Table.key_of_findUnique hfound).symm
  obtain rfl := db.courses.key_inj hc (Table.mem_of_findUnique hfound) hkey
  rw [hschool]
  exact ⟨hother, hother⟩

theorem patchCourseForOwner_intact (hout : Stranger db schoolId actor) (courseId : Uuid)
    (body : PatchCourseBody) :
    Intact (fun _ => False) schoolId db (patchCourseForOwner actor.id courseId body db).2 := by
  apply Prog.bind_query_leaves
  cases !body.isEmpty with
  | false => exact .refl schoolId db
  | true =>
    apply Prog.transaction_leaves (.refl schoolId db)
    intro _ db' hok
    simp only [Prog.query_bind_eq_ok, Prog.write_eq_ok] at hok
    obtain ⟨row, hrow, _, _, courseTypeId, _, _, _, _, _, rfl⟩ := hok
    exact updateCourse_intact (Course.id_patched body courseTypeId) (fun _ => rfl)
      (findOwnedCourse_ok hrow).1 (findOwnedCourse_other hout hrow)

theorem deleteEmptyCourseForOwner_intact (hout : Stranger db schoolId actor) (courseId : Uuid) :
    Intact (fun _ => False) schoolId db (deleteEmptyCourseForOwner env actor.id courseId db).2 := by
  apply Prog.transaction_leaves (.refl schoolId db)
  intro _ db' hok
  simp only [Prog.query_bind_eq_ok, Prog.write_eq_ok, except_bind_eq_ok, orThrow_eq_ok,
    throwIf_eq_ok, Bool.not_eq_true, Option.isNone_eq_false_iff] at hok
  obtain ⟨_, ⟨row, hfound, _, _, howned⟩, _, _, rfl⟩ := hok
  exact updateCourse_intact (Course.id_deleted env.now) (fun _ => rfl) hfound
    (hout.not_owner howned)

/-- Enrolments are a matter of the staff of the school. -/
theorem enrolmentCourse_other (hout : Stranger db schoolId actor) {courseId id : Uuid}
    (hcourse : loadCourseSchoolId db courseId = .ok id)
    (hactor : assertActorCanManageCourseParticipants db actor id = .ok ()) :
    ¬db.HasCourse schoolId courseId := by
  simp only [loadCourseSchoolId, except_bind_eq_ok, orThrow_eq_ok] at hcourse
  obtain ⟨c, hc, h⟩ := hcourse
  cases h
  obtain ⟨hmem, hwhere⟩ := Table.mem_of_findFirst hc
  unfold assertActorCanManageCourseParticipants at hactor
  split at hactor
  · rw [← (of_decide_eq_true hwhere).1]
    exact not_hasCourse hmem (hout.not_staff hactor)
  · cases hactor

theorem assignStudentToCourseForStaff_intact (hout : Stranger db schoolId actor)
    (studentUserId courseId : Uuid) :
    Intact (fun _ => False) schoolId db
      (assignStudentToCourseForStaff actor studentUserId courseId db).2 := by
  apply Prog.query_bind_leaves (.refl schoolId db)
  intro p hprepared
  simp only [prepareEnrolment, except_bind_eq_ok] at hprepared
  obtain ⟨_, _, studentId, _, id, hcourse, _, _, _, hactor, h⟩ := hprepared
  cases h
  have hother := enrolmentCourse_other hout hcourse hactor
  unfold createCourseParticipant
  split
  · exact .refl schoolId db
  · exact .enrolments (Table.sameOn_insert hother)

theorem patchCourseParticipantStatus_intact (hout : Stranger db schoolId actor)
    (studentUserId courseId : Uuid) (status : CourseParticipantStatus) :
    Intact (fun _ => False) schoolId db
      (patchCourseParticipantStatusForStaff actor studentUserId courseId status db).2 := by
  apply Prog.query_bind_leaves (.refl schoolId db)
  intro existing hprepared
  simp only [prepareParticipantStatus, except_bind_eq_ok, orThrow_eq_ok] at hprepared
  obtain ⟨_, _, _, _, _, _, profile, _, id, hcourse, _, hactor, _⟩ := hprepared
  have hother := enrolmentCourse_other hout hcourse hactor
  refine .enrolments (Table.sameOn_update fun p _ hkey => ?_)
  have hid : p.courseId = courseId := congrArg Prod.fst hkey
  rw [← hid] at hother
  exact ⟨hother, hother⟩

/-! ### Vehicles -/

/-- A vehicle of another school changes, but not its school. -/
theorem updateVehicle_intact {v : Vehicle} {f : Vehicle → Vehicle} (hf : ∀ v, (f v).id = v.id)
    (hschool : ∀ v, (f v).schoolId = v.schoolId) (hv : v ∈ db.vehicles.rows)
    (hother : v.schoolId ≠ schoolId) :
    Intact (fun _ => False) schoolId db
      { db with vehicles := db.vehicles.update v.id f hf } := by
  refine .ofVehicles (Table.sameOn_update fun w hw hid => ?_)
  obtain rfl := db.vehicles.key_inj hw hv hid
  rw [hschool]
  exact ⟨hother, hother⟩

theorem writeNewVehicle_intact {newSchoolId : Uuid} (hother : newSchoolId ≠ schoolId)
    (payload : VehicleWritePayload OptionalVehicleFields) :
    Intact (fun _ => False) schoolId db (writeNewVehicle env newSchoolId payload db).2 := by
  have hinsert : Intact (fun _ => False) schoolId db (db.insertVehicle env newSchoolId payload) :=
    .ofVehicles (Table.sameOn_insert hother)
  rcases Prog.transaction_cases (writeNewVehicle env newSchoolId payload) rfl db with ⟨r, hok⟩ | hs
  · rcases writeNewVehicle_ok hok with ⟨_, hdb⟩ | ⟨_, hdb⟩
    · rw [hdb]
      exact hinsert.trans (.schools (DrivingSchool.id_withDefaultVehicle _) (fun _ => rfl) hother)
    · rw [hdb]
      exact hinsert
  · rw [hs]
    exact .refl schoolId db

theorem loadActiveVehicle_other (hout : Stranger db schoolId actor) {vehicleId : Uuid} {v : Vehicle}
    (h : loadActiveVehicleForOwnerOrThrow db actor.id vehicleId = .ok v) :
    v ∈ db.vehicles.rows ∧ v.id = vehicleId ∧ v.schoolId ≠ schoolId := by
  simp only [loadActiveVehicleForOwnerOrThrow, except_bind_eq_ok, orThrow_eq_ok, throwIf_eq_ok,
    Bool.not_eq_true, Option.isNone_eq_false_iff] at h
  obtain ⟨_, hfound, _, howned, _, _, h⟩ := h
  cases h
  exact ⟨Table.mem_of_findUnique hfound, Table.key_of_findUnique hfound, hout.not_owner howned⟩

theorem writeVehiclePatch_intact {v : Vehicle} (hv : v ∈ db.vehicles.rows)
    (hother : v.schoolId ≠ schoolId) (payload : VehicleWritePayload OptionalVehiclePatch) :
    Intact (fun _ => False) schoolId db (writeVehiclePatch env v.id payload db).2 := by
  apply Prog.transaction_leaves (.refl schoolId db)
  intro r db' hok
  simp only [Prog.query_bind_eq_ok] at hok
  obtain ⟨_, _, row, _, hok⟩ := hok
  simp only [Prog.bind_eq_ok, Prog.write_eq_ok, Prog.query_eq_ok] at hok
  obtain ⟨_, _, rfl, _, rfl⟩ := hok
  exact updateVehicle_intact (Vehicle.id_patched payload) (fun _ => rfl) hv hother

theorem upsertVehicleForUser_intact (hout : Stranger db schoolId actor) (body : UpsertVehicleBody) :
    Intact (fun _ => False) schoolId db (upsertVehicleForUser env actor.id body db).2 := by
  unfold upsertVehicleForUser
  rcases body.id with _ | _ | vehicleId
  · rw [Prog.bind_pure_store]
    refine Prog.lift_bind_leaves (.refl schoolId db) fun payload _ => ?_
    refine Prog.lift_bind_leaves (.refl schoolId db) fun newSchoolId _ => ?_
    refine Prog.query_bind_leaves (.refl schoolId db) fun _ howned => ?_
    refine Prog.query_bind_leaves (.refl schoolId db) fun _ _ => ?_
    rw [throwIf_eq_ok, Bool.not_eq_true, Option.isNone_eq_false_iff] at howned
    exact writeNewVehicle_intact (hout.not_owner howned) payload
  · exact .refl schoolId db
  · rw [Prog.bind_pure_store]
    refine Prog.lift_bind_leaves (.refl schoolId db) fun payload _ => ?_
    refine Prog.query_bind_leaves (.refl schoolId db) fun v hloaded => ?_
    refine Prog.query_bind_leaves (.refl schoolId db) fun _ _ => ?_
    obtain ⟨hv, rfl, hother⟩ := loadActiveVehicle_other hout hloaded
    exact writeVehiclePatch_intact hv hother payload

theorem updateVehicleForUser_intact (hout : Stranger db schoolId actor) (vehicleId : Uuid)
    (body : ParsedVehicleBody OptionalVehiclePatch) :
    Intact (fun _ => False) schoolId db
      (updateVehicleForUser env actor.id vehicleId body db).2 := by
  refine Prog.query_bind_leaves (.refl schoolId db) fun v hloaded => ?_
  refine Prog.lift_bind_leaves (.refl schoolId db) fun payload _ => ?_
  refine Prog.query_bind_leaves (.refl schoolId db) fun _ _ => ?_
  obtain ⟨hv, rfl, hother⟩ := loadActiveVehicle_other hout hloaded
  exact writeVehiclePatch_intact hv hother payload

theorem updateVehicleStatusForUser_intact (hout : Stranger db schoolId actor) (vehicleId : Uuid)
    (payload : VehicleAvailabilityStatusPayload) :
    Intact (fun _ => False) schoolId db
      (updateVehicleStatusForUser actor.id vehicleId payload db).2 := by
  refine Prog.query_bind_leaves (.refl schoolId db) fun v hloaded => ?_
  apply Prog.bind_query_leaves
  obtain ⟨hv, rfl, hother⟩ := loadActiveVehicle_other hout hloaded
  exact updateVehicle_intact (Vehicle.id_withAvailability payload) (fun _ => rfl) hv hother

theorem uploadVehiclePhotoForUser_intact (hout : Stranger db schoolId actor)
    (file : Except Failure Unit) (upload : Except Failure String) (vehicleId : Uuid) :
    Intact (fun _ => False) schoolId db
      (uploadVehiclePhotoForUser file upload actor.id vehicleId db).2 := by
  refine Prog.lift_bind_leaves (.refl schoolId db) fun _ _ => ?_
  refine Prog.query_bind_leaves (.refl schoolId db) fun _ howned => ?_
  refine Prog.lift_bind_leaves (.refl schoolId db) fun publicUrl _ => ?_
  simp only [except_bind_eq_ok, orThrow_eq_ok, throwIf_eq_ok, Bool.not_eq_true,
    Option.isNone_eq_false_iff] at howned
  obtain ⟨v, hfound, howned⟩ := howned
  obtain rfl : v.id = vehicleId := Table.key_of_findUnique hfound
  exact updateVehicle_intact (Vehicle.id_withPhoto publicUrl) (fun _ => rfl)
    (Table.mem_of_findUnique hfound) (hout.not_owner howned)

theorem deleteVehicleForUser_intact (hout : Stranger db schoolId actor) (vehicleId : UuidText) :
    Intact (fun _ => False) schoolId db (deleteVehicleForUser env actor.id vehicleId db).2 := by
  rcases deleteVehicleForUser_store env actor.id vehicleId db with hs | ⟨v, s, hrules, hs⟩
  · rw [hs]
    exact .refl schoolId db
  · have hmem := Table.mem_of_findUnique hrules.found
    rw [hs, Db.withoutVehicle, ← Table.key_of_findUnique hrules.found]
    have hother := hout.not_owner (Option.isSome_iff_exists.mpr ⟨s, hrules.owned⟩)
    split
    · refine (Intact.schools DrivingSchool.id_withoutDefaultVehicle (fun _ => rfl) hother).trans ?_
      exact updateVehicle_intact Vehicle.id_deleted (fun _ => rfl) hmem hother
    · exact updateVehicle_intact Vehicle.id_deleted (fun _ => rfl) hmem hother

theorem setDefaultVehicle_intact (hout : Stranger db schoolId actor) (id : UuidText)
    (vehicleId : Uuid) :
    Intact (fun _ => False) schoolId db
      (setDefaultVehicleForDrivingSchoolOwner actor.id id vehicleId db).2 := by
  refine Prog.query_bind_leaves (.refl schoolId db) fun s hloaded => ?_
  simp only [loadOwnedActiveDrivingSchoolOrThrow, except_bind_eq_ok, orThrow_eq_ok, throwIf_eq_ok,
    ne_eq, not_not] at hloaded
  obtain ⟨s', hfound, _, _, _, howner, _⟩ := hloaded
  have hother : id.uuid ≠ schoolId := by
    rw [← Table.key_of_findUnique hfound]
    exact hout.owner s' (Table.mem_of_findUnique hfound) howner
  apply Prog.transaction_leaves (.refl schoolId db)
  intro r db' hok
  rw [Prog.query_bind_eq_ok] at hok
  obtain ⟨_, _, hok⟩ := hok
  simp only [Prog.bind_eq_ok, Prog.write_eq_ok, Prog.pure_eq_ok] at hok
  obtain ⟨_, _, rfl, _, rfl⟩ := hok
  exact .schools (DrivingSchool.id_withDefaultVehicle vehicleId) (fun _ => rfl) hother

/-! ### Payments -/

/-- The plan of another school's course. -/
theorem CourseOfPlan.not_hasPlan {studentId : Uuid} {plan : PaymentPlan} {course : Course}
    (h : CourseOfPlan db studentId plan course) (hother : course.schoolId ≠ schoolId) :
    ¬db.HasPlan schoolId plan.id := by
  intro hplan
  obtain ⟨plan', hmem, hid, hcourse⟩ := hplan
  obtain rfl := db.paymentPlans.key_inj hmem h.plan_mem hid
  exact not_hasCourse_of_found h.found hother hcourse

theorem updatePayment_intact {p : Payment} {f : Payment → Payment} (hf : ∀ q, (f q).id = q.id)
    (hplan : ∀ q, (f q).paymentPlanId = q.paymentPlanId) (hp : p ∈ db.payments.rows)
    (hother : ¬db.HasPlan schoolId p.paymentPlanId) :
    Intact (fun _ => False) schoolId db (db.updatePayment p.id f hf) := by
  refine .payments (Table.sameOn_update fun q hq hid => ?_)
  obtain rfl := db.payments.key_inj hq hp hid
  rw [hplan]
  exact ⟨hother, hother⟩

theorem PaymentWritten.apart {call : PaymentCall} (h : PaymentWritten env db call db')
    {studentId : Uuid} {course : Course} (hother : course.schoolId ≠ schoolId)
    (hcourse : courseOfResource db studentId call.resource = .ok course) :
    Intact (fun _ => False) schoolId db db' := by
  obtain ⟨plan, hplan, hresource⟩ := courseOfResource_eq_ok hcourse
  have hnot := hplan.not_hasPlan hother
  cases h with
  | created userId input dueDate fits =>
    have hid : plan.id = input.paymentPlanId := hresource
    rw [hid] at hnot
    exact .payments (Table.sameOn_insert hnot)
  | amended userId paymentId input dueDate =>
    obtain ⟨p, hp, rfl, hid⟩ := hresource
    exact updatePayment_intact _ (fun _ => rfl) hp (hid ▸ hnot)
  | settled userId paymentId input paidAt =>
    obtain ⟨p, hp, rfl, hid⟩ := hresource
    exact updatePayment_intact _ (fun _ => rfl) hp (hid ▸ hnot)
  | reopened userId paymentId input =>
    obtain ⟨p, hp, rfl, hid⟩ := hresource
    exact updatePayment_intact _ (fun _ => rfl) hp (hid ▸ hnot)

theorem PaymentCall.run_intact {Num : Type} (rt : PaymentRuntime Num) (c : Collation)
    (hout : Stranger db schoolId actor) (call : PaymentCall) :
    Intact (fun _ => False) schoolId db (call.run rt c env actor db).2 := by
  rcases (call.run_fails rt c).cases db with ⟨dto, hok⟩ | hs
  · obtain ⟨_, haccepted⟩ := PaymentCall.run_ok hok
    obtain ⟨course, student, hmay, _⟩ := resolveStudentPaymentSchool_ok haccepted.resolved
    obtain ⟨s, hs, hid, howner, _⟩ := hmay.owned
    refine haccepted.written.apart ?_ hmay.course_found
    rw [← hid]
    exact hout.owner s hs howner
  · rw [hs]
    exact .refl schoolId db

/-! ### Runs -/

/-- A request on what belongs to schools, with its arguments. -/
inductive TenantCall where
  | schedule (call : ScheduleCall)
  | createCourse (body : CreateCourseBody)
  | patchCourse (courseId : Uuid) (body : PatchCourseBody)
  | deleteEmptyCourse (courseId : Uuid)
  | assignStudentToCourse (studentUserId courseId : Uuid)
  | patchCourseParticipantStatus (studentUserId courseId : Uuid) (status : CourseParticipantStatus)
  | upsertVehicle (body : UpsertVehicleBody)
  | updateVehicle (vehicleId : Uuid) (body : ParsedVehicleBody OptionalVehiclePatch)
  | updateVehicleStatus (vehicleId : Uuid) (payload : VehicleAvailabilityStatusPayload)
  | uploadVehiclePhoto (file : Except Failure Unit) (upload : Except Failure String)
      (vehicleId : Uuid)
  | deleteVehicle (vehicleId : UuidText)
  | setDefaultVehicle (drivingSchoolId : UuidText) (vehicleId : Uuid)
  | payment (call : PaymentCall)

/-- A request of an actor at a time of its own. -/
structure TenantTurn where
  env : Env
  actor : Actor
  call : TenantCall

/-- A call on the schedule names its actor itself. -/
def TenantTurn.requester (turn : TenantTurn) : Actor :=
  match turn.call with
  | .schedule call => call.caller
  | _ => turn.actor

section Runs

variable {Num : Type} (rt : PaymentRuntime Num) (c : Collation)

def TenantCall.run (env : Env) (actor : Actor) (db : Db) : TenantCall → Db
  | .schedule call => call.run env db
  | .createCourse body => (createCourseForUser env actor.id body db).2
  | .patchCourse courseId body => (patchCourseForOwner actor.id courseId body db).2
  | .deleteEmptyCourse courseId => (deleteEmptyCourseForOwner env actor.id courseId db).2
  | .assignStudentToCourse studentUserId courseId =>
    (assignStudentToCourseForStaff actor studentUserId courseId db).2
  | .patchCourseParticipantStatus studentUserId courseId status =>
    (patchCourseParticipantStatusForStaff actor studentUserId courseId status db).2
  | .upsertVehicle body => (upsertVehicleForUser env actor.id body db).2
  | .updateVehicle vehicleId body => (updateVehicleForUser env actor.id vehicleId body db).2
  | .updateVehicleStatus vehicleId payload =>
    (updateVehicleStatusForUser actor.id vehicleId payload db).2
  | .uploadVehiclePhoto file upload vehicleId =>
    (uploadVehiclePhotoForUser file upload actor.id vehicleId db).2
  | .deleteVehicle vehicleId => (deleteVehicleForUser env actor.id vehicleId db).2
  | .setDefaultVehicle drivingSchoolId vehicleId =>
    (setDefaultVehicleForDrivingSchoolOwner actor.id drivingSchoolId vehicleId db).2
  | .payment call => (call.run rt c env actor db).2

/-- Requests on the same store, one after the other. -/
def tenantCalls : Calls TenantTurn Db :=
  .unrestricted fun turn db => turn.call.run rt c turn.env turn.actor db

theorem Intact.mono {lapsed lapsed' : Vehicle → Prop} (h : Intact lapsed schoolId db db')
    (hsub : ∀ v, lapsed v → lapsed' v) : Intact lapsed' schoolId db db' :=
  ⟨h.rows, h.people, h.vehicles.mono hsub⟩

/-- Without any vehicle that may lapse. -/
theorem Intact.weaken {lapsed : Vehicle → Prop} (h : Intact (fun _ => False) schoolId db db') :
    Intact lapsed schoolId db db' := h.mono fun _ hfalse => hfalse.elim

theorem TenantTurn.run_intact (turn : TenantTurn) (hout : Stranger db schoolId turn.requester) :
    Intact (Vehicle.Lapsed turn.env) schoolId db (turn.call.run rt c turn.env turn.actor db) := by
  obtain ⟨env, actor, call⟩ := turn
  cases call with
  | schedule call => exact call.run_intact env hout
  | createCourse body => exact (createCourseForUser_intact hout body).weaken
  | patchCourse courseId body => exact (patchCourseForOwner_intact hout courseId body).weaken
  | deleteEmptyCourse courseId => exact (deleteEmptyCourseForOwner_intact hout courseId).weaken
  | assignStudentToCourse studentUserId courseId =>
    exact (assignStudentToCourseForStaff_intact hout studentUserId courseId).weaken
  | patchCourseParticipantStatus studentUserId courseId status =>
    exact (patchCourseParticipantStatus_intact hout studentUserId courseId status).weaken
  | upsertVehicle body => exact (upsertVehicleForUser_intact hout body).weaken
  | updateVehicle vehicleId body => exact (updateVehicleForUser_intact hout vehicleId body).weaken
  | updateVehicleStatus vehicleId payload =>
    exact (updateVehicleStatusForUser_intact hout vehicleId payload).weaken
  | uploadVehiclePhoto file upload vehicleId =>
    exact (uploadVehiclePhotoForUser_intact hout file upload vehicleId).weaken
  | deleteVehicle vehicleId => exact (deleteVehicleForUser_intact hout vehicleId).weaken
  | setDefaultVehicle id vehicleId => exact (setDefaultVehicle_intact hout id vehicleId).weaken
  | payment call => exact (call.run_intact rt c hout).weaken

/-- Whatever strangers to a school ask for, in whatever order and at whatever times, its rows stay
as they are, but for vehicles whose unavailability has run out, and they stay strangers. -/
theorem tenants_isolated (turns : List TenantTurn)
    (hout : ∀ turn ∈ turns, Stranger db schoolId turn.requester) :
    SameSchool schoolId db ((tenantCalls rt c).after turns db) ∧
      SameVehicles (fun v => ∃ turn ∈ turns, v.Lapsed turn.env) schoolId db
        ((tenantCalls rt c).after turns db) ∧
      ∀ actor, Stranger db schoolId actor →
        Stranger ((tenantCalls rt c).after turns db) schoolId actor := by
  have hall : ∀ turns : List TenantTurn, (∀ turn ∈ turns, Stranger db schoolId turn.requester) →
      Intact (fun v => ∃ turn ∈ turns, v.Lapsed turn.env) schoolId db
        ((tenantCalls rt c).after turns db) := by
    intro turns
    induction turns using List.reverseRecOn with
    | nil => exact fun _ => .refl schoolId db
    | append_singleton rest turn ih =>
      intro hout
      have hrest := ih fun t ht => hout t (List.mem_append_left _ ht)
      have hlast := (hout turn (List.mem_append_right _ List.mem_cons_self)).kept hrest.rows
        hrest.people
      rw [Calls.after, List.foldl_append]
      refine (hrest.mono fun v hv => ?_).trans ((turn.run_intact rt c hlast).mono fun v hv => ?_)
      · obtain ⟨t, ht, hlapsed⟩ := hv
        exact ⟨t, List.mem_append_left _ ht, hlapsed⟩
      · exact ⟨turn, List.mem_append_right _ List.mem_cons_self, hv⟩
  have happart := hall turns hout
  exact ⟨happart.rows, happart.vehicles, fun actor h => h.kept happart.rows happart.people⟩

end Runs

open SmallSchool in
/-- The small school beside one that belongs to someone else. -/
def besideAnother : Db :=
  { SmallSchool.db with
    drivingSchools := ⟨[{ id := 10, ownerId := 1 }, { id := 11, ownerId := 9 }], by decide⟩ }

open SmallSchool in
theorem stranger_besideAnother : Stranger besideAnother 11 manager where
  role := by decide
  owner := by decide
  employer := by decide
  instructor := by decide
  student := by decide

open SmallSchool in
def tuesdayBooking : TenantTurn where
  env := envAt (clock 4 10 0)
  actor := manager
  call := .schedule (.bookLesson manager
    { courseId := 50, studentId := 3, instructorId := 20, startTime := clock 5 10 0
      endTime := clock 5 11 0, vehicleId := 40 })

open SmallSchool in
/-- The manager of the small school books a lesson; the other school does not notice. -/
theorem tenants_isolated_booking :
    ((tenantCalls wholeNumbers ordinal).after [tuesdayBooking] besideAnother).lessons.keys ≠ [] ∧
      SameSchool 11 besideAnother
        ((tenantCalls wholeNumbers ordinal).after [tuesdayBooking] besideAnother) :=
  ⟨by decide +kernel, (tenants_isolated wholeNumbers ordinal [tuesdayBooking]
    (List.forall_mem_singleton.mpr stranger_besideAnother)).1⟩

end OSK
