import OskManager.Lib.Regions
import OskManager.Model.CourseParticipants
import OskManager.Schedule.CourseWrites
import OskManager.Schedule.VehicleRefresh

/-! What belongs to a school, who is a stranger to it and what a stranger is refused. A write on the
rows of another school leaves the rows of this one as they are (`SameSchool`), and none of the
writes here changes who has to do with which school (`SamePeople`). -/

namespace OSK

open Relational

variable {db db' db'' : Db} {schoolId : Uuid}

/-! ### What belongs to a school -/

def Db.HasCourse (db : Db) (schoolId courseId : Uuid) : Prop :=
  ∃ c ∈ db.courses.rows, c.schoolId = schoolId ∧ c.id = courseId

def Db.HasEvent (db : Db) (schoolId eventId : Uuid) : Prop :=
  ∃ e ∈ db.instructorEvents.rows, e.schoolId = schoolId ∧ e.id = eventId

def Db.HasPlan (db : Db) (schoolId planId : Uuid) : Prop :=
  ∃ p ∈ db.paymentPlans.rows, p.id = planId ∧ db.HasCourse schoolId p.courseId

instance (id : Uuid) : Decidable (db.HasCourse schoolId id) :=
  inferInstanceAs (Decidable (∃ c ∈ _, _))

/-- The course of another school is not one of this one. -/
theorem not_hasCourse {c : Course} (hc : c ∈ db.courses.rows) (hother : c.schoolId ≠ schoolId) :
    ¬db.HasCourse schoolId c.id := by
  intro h
  obtain ⟨c', hc', hschool, hid⟩ := h
  rw [db.courses.key_inj hc' hc hid] at hschool
  exact hother hschool

theorem not_hasCourse_of_found {courseId : Uuid} {c : Course}
    (hc : db.courses.findUnique courseId = some c) (hother : c.schoolId ≠ schoolId) :
    ¬db.HasCourse schoolId courseId := by
  rw [← Table.key_of_findUnique hc]
  exact not_hasCourse (Table.mem_of_findUnique hc) hother

theorem not_hasEvent {e : InstructorEvent} (he : e ∈ db.instructorEvents.rows)
    (hother : e.schoolId ≠ schoolId) : ¬db.HasEvent schoolId e.id := by
  intro h
  obtain ⟨e', he', hschool, hid⟩ := h
  rw [db.instructorEvents.key_inj he' he hid] at hschool
  exact hother hschool

/-- The rows of the school are the same: its own row, its courses with their enrolments, lessons
and payments, and its events with their participants. -/
structure SameSchool (schoolId : Uuid) (db db' : Db) : Prop where
  school : Table.SameOn (fun s => s.id = schoolId) db.drivingSchools db'.drivingSchools
  courses : Table.SameOn (fun c => c.schoolId = schoolId) db.courses db'.courses
  enrolments : Table.SameOn (fun p => db.HasCourse schoolId p.courseId) db.courseParticipants
    db'.courseParticipants
  lessons : Table.SameOn (fun l => db.HasCourse schoolId l.courseId) db.lessons db'.lessons
  events : Table.SameOn (fun e => e.schoolId = schoolId) db.instructorEvents db'.instructorEvents
  eventParticipants : Table.SameOn (fun p => db.HasEvent schoolId p.eventId) db.eventParticipants
    db'.eventParticipants
  plans : db'.paymentPlans = db.paymentPlans
  payments : Table.SameOn (fun p => db.HasPlan schoolId p.paymentPlanId) db.payments db'.payments

theorem SameSchool.refl (schoolId : Uuid) (db : Db) : SameSchool schoolId db db where
  school := .refl _ _
  courses := .refl _ _
  enrolments := .refl _ _
  lessons := .refl _ _
  events := .refl _ _
  eventParticipants := .refl _ _
  plans := rfl
  payments := .refl _ _

theorem SameSchool.hasCourse (h : SameSchool schoolId db db') {courseId : Uuid} :
    db'.HasCourse schoolId courseId ↔ db.HasCourse schoolId courseId :=
  h.courses.exists_iff _

theorem SameSchool.hasEvent (h : SameSchool schoolId db db') {eventId : Uuid} :
    db'.HasEvent schoolId eventId ↔ db.HasEvent schoolId eventId :=
  h.events.exists_iff _

theorem SameSchool.hasPlan (h : SameSchool schoolId db db') {planId : Uuid} :
    db'.HasPlan schoolId planId ↔ db.HasPlan schoolId planId := by
  unfold Db.HasPlan
  simp only [h.plans, h.hasCourse]

theorem SameSchool.trans (h : SameSchool schoolId db db') (h' : SameSchool schoolId db' db'') :
    SameSchool schoolId db db'' where
  school := h.school.trans h'.school
  courses := h.courses.trans h'.courses
  enrolments := h.enrolments.trans (h'.enrolments.mono fun _ => h.hasCourse.mpr)
  lessons := h.lessons.trans (h'.lessons.mono fun _ => h.hasCourse.mpr)
  events := h.events.trans h'.events
  eventParticipants := h.eventParticipants.trans (h'.eventParticipants.mono fun _ => h.hasEvent.mpr)
  plans := h'.plans.trans h.plans
  payments := h.payments.trans (h'.payments.mono fun _ => h.hasPlan.mpr)

/-- The vehicles of the school are the same, except that some of the lapsed ones have been made
available. -/
def SameVehicles (lapsed : Vehicle → Prop) (schoolId : Uuid) (db db' : Db) : Prop :=
  ∃ p, (∀ v, p v = true → lapsed v) ∧
    Table.SameOn (fun v => v.schoolId = schoolId) (db.refreshed p).vehicles db'.vehicles

section SameVehicles

variable {lapsed lapsed' : Vehicle → Prop}

theorem SameVehicles.of_sameOn
    (h : Table.SameOn (fun v => v.schoolId = schoolId) db.vehicles db'.vehicles) :
    SameVehicles lapsed schoolId db db' := by
  refine ⟨fun _ => false, fun _ => nofun, ?_⟩
  rwa [Db.refreshed, Table.updateMany_none]

theorem SameVehicles.refl (schoolId : Uuid) (db : Db) : SameVehicles lapsed schoolId db db :=
  .of_sameOn (.refl _ _)

theorem SameVehicles.mono (h : SameVehicles lapsed schoolId db db')
    (hsub : ∀ v, lapsed v → lapsed' v) : SameVehicles lapsed' schoolId db db' := by
  obtain ⟨p, hp, hsame⟩ := h
  exact ⟨p, fun v hv => hsub v (hp v hv), hsame⟩

theorem SameVehicles.trans (h : SameVehicles lapsed schoolId db db')
    (h' : SameVehicles lapsed schoolId db' db'') : SameVehicles lapsed schoolId db db'' := by
  obtain ⟨p, hp, hsame⟩ := h
  obtain ⟨q, hq, hsame'⟩ := h'
  refine ⟨fun v => p v || q v, fun v hv => ?_, ?_⟩
  · rcases Bool.or_eq_true_iff.mp hv with h | h
    · exact hp v h
    · exact hq v h
  · have hboth := (hsame.updateMany q Vehicle.id_madeAvailable fun _ => Iff.rfl).trans hsame'
    rw [Db.refreshed, Table.updateMany_twice _ _ _ _ _ Vehicle.madeAvailable_twice] at hboth
    exact hboth

end SameVehicles

/-! ### Who has to do with a school -/

/-- The instructor works for the school or leads an event of it. -/
def Db.Instructs (db : Db) (schoolId instructorId : Uuid) : Prop :=
  (∃ l ∈ db.instructorSchools.rows, l.instructorId = instructorId ∧ l.schoolId = schoolId) ∨
    ∃ e ∈ db.instructorEvents.rows, e.schoolId = schoolId ∧ e.instructorId = instructorId

/-- The student takes a course of the school or has a lesson in one. -/
def Db.Studies (db : Db) (schoolId studentId : Uuid) : Prop :=
  (∃ p ∈ db.courseParticipants.rows, db.HasCourse schoolId p.courseId ∧ p.studentId = studentId) ∨
    ∃ l ∈ db.lessons.rows, db.HasCourse schoolId l.courseId ∧ l.studentId = studentId

instance (id : Uuid) : Decidable (db.Instructs schoolId id) := inferInstanceAs (Decidable (_ ∨ _))

instance (id : Uuid) : Decidable (db.Studies schoolId id) := inferInstanceAs (Decidable (_ ∨ _))

/-- Someone who has nothing to do with the school, nor with those who work for it. An instructor
who has changed schools and still leads events of the former one ties the two together. -/
structure Stranger (db : Db) (schoolId : Uuid) (actor : Actor) : Prop where
  role : actor.role ≠ .admin
  owner : ∀ s ∈ db.drivingSchools.rows, s.ownerId = actor.id → s.id ≠ schoolId
  employer : ∀ s ∈ db.drivingSchools.rows, s.ownerId = actor.id →
    ∀ l ∈ db.instructorSchools.rows, l.schoolId = s.id → ¬db.Instructs schoolId l.instructorId
  instructor : ∀ p ∈ db.instructorProfiles.rows, p.userId = actor.id → ¬db.Instructs schoolId p.id
  student : ∀ p ∈ db.studentProfiles.rows, p.userId = actor.id → ¬db.Studies schoolId p.id

/-- The same people own the schools, work for them and study there. -/
structure SamePeople (db db' : Db) : Prop where
  links : db'.instructorSchools = db.instructorSchools
  instructors : db'.instructorProfiles = db.instructorProfiles
  students : db'.studentProfiles = db.studentProfiles
  owners : ∀ s ∈ db'.drivingSchools.rows,
    ∃ s' ∈ db.drivingSchools.rows, s'.id = s.id ∧ s'.ownerId = s.ownerId

theorem SamePeople.of_schools (hschools : db'.drivingSchools = db.drivingSchools)
    (hlinks : db'.instructorSchools = db.instructorSchools)
    (hinstructors : db'.instructorProfiles = db.instructorProfiles)
    (hstudents : db'.studentProfiles = db.studentProfiles) : SamePeople db db' :=
  ⟨hlinks, hinstructors, hstudents, fun s hs => ⟨s, hschools ▸ hs, rfl, rfl⟩⟩

theorem SameSchool.instructs (h : SameSchool schoolId db db') (hp : SamePeople db db') {id : Uuid} :
    db'.Instructs schoolId id ↔ db.Instructs schoolId id :=
  or_congr (by rw [hp.links]) (h.events.exists_iff _)

theorem SameSchool.studies (h : SameSchool schoolId db db') {studentId : Uuid} :
    db'.Studies schoolId studentId ↔ db.Studies schoolId studentId := by
  unfold Db.Studies
  simp only [h.hasCourse]
  exact or_congr (h.enrolments.exists_iff _) (h.lessons.exists_iff _)

/-- A stranger stays one. -/
theorem Stranger.kept {actor : Actor} (hout : Stranger db schoolId actor)
    (h : SameSchool schoolId db db') (hp : SamePeople db db') : Stranger db' schoolId actor where
  role := hout.role
  owner s hs howner := by
    obtain ⟨s', hs', hid, hsame⟩ := hp.owners s hs
    rw [← hid]
    exact hout.owner s' hs' (hsame.trans howner)
  employer s hs howner l hl hlink := by
    obtain ⟨s', hs', hid, hsame⟩ := hp.owners s hs
    rw [h.instructs hp]
    rw [hp.links] at hl
    exact hout.employer s' hs' (hsame.trans howner) l hl (hlink.trans hid.symm)
  instructor p hprofile huser := by
    rw [h.instructs hp]
    rw [hp.instructors] at hprofile
    exact hout.instructor p hprofile huser
  student p hprofile huser := by
    rw [h.studies]
    rw [hp.students] at hprofile
    exact hout.student p hprofile huser

/-! ### What a stranger is refused -/

section Refusals

variable {actor : Actor}

namespace Stranger

theorem not_owner (hout : Stranger db schoolId actor) {id : Uuid}
    (h : (getSchoolOwnedByUser db actor.id id).isSome = true) : id ≠ schoolId := by
  obtain ⟨s, hs, rfl, _, howner⟩ := getSchoolOwnedByUser_isSome h
  exact hout.owner s hs howner

theorem not_booking (hout : Stranger db schoolId actor) {id : Uuid}
    (h : assertActorCanBookLessonForCourse db actor id = .ok ()) : id ≠ schoolId := by
  have hrole := hout.role
  unfold assertActorCanBookLessonForCourse at h
  split at h
  · next hadmin => exact absurd hadmin hrole
  · rw [throwIf_eq_ok, Bool.not_eq_true, Option.isNone_eq_false_iff, Table.findFirst_isSome] at h
    obtain ⟨s, hs, hwhere⟩ := h
    obtain ⟨rfl, howner, _⟩ := of_decide_eq_true hwhere
    exact hout.owner s hs howner
  · cases h

/-- The link of the instructor to a school of the manager. -/
theorem not_employed (hout : Stranger db schoolId actor) {instructorId : Uuid}
    (h : (activeSchoolLink db instructorId fun s => decide (s.ownerId = actor.id)).isSome = true) :
    ¬db.Instructs schoolId instructorId := by
  rw [activeSchoolLink, Table.findFirst_isSome] at h
  obtain ⟨l, hl, hwhere⟩ := h
  simp only [Bool.and_eq_true, decide_eq_true_eq, Option.any_eq_true] at hwhere
  obtain ⟨rfl, s, hs, _, howner⟩ := hwhere
  exact hout.employer s (Table.mem_of_findUnique hs) howner l hl (Table.key_of_findUnique hs).symm

theorem not_managing (hout : Stranger db schoolId actor) {instructorId : Uuid}
    (h : assertActorCanManageAvailability db actor instructorId = .ok ()) :
    ¬db.Instructs schoolId instructorId := by
  have hrole := hout.role
  unfold assertActorCanManageAvailability at h
  split at h
  · next hadmin => exact absurd hadmin hrole
  · rw [throwIf_eq_ok, Bool.not_eq_true, Option.isNone_eq_false_iff] at h
    exact hout.not_employed h
  · cases h

theorem not_staff (hout : Stranger db schoolId actor) {id : Uuid}
    (h : assertActorCanListStudentsForSchool db actor id = .ok ()) : id ≠ schoolId := by
  have hrole := hout.role
  unfold assertActorCanListStudentsForSchool at h
  split at h
  · next hadmin => exact absurd hadmin hrole
  · rw [throwIf_eq_ok, Bool.not_eq_true, Option.isNone_eq_false_iff, Table.findFirst_isSome] at h
    obtain ⟨s, hs, hwhere⟩ := h
    obtain ⟨rfl, howner, _⟩ := of_decide_eq_true hwhere
    exact hout.owner s hs howner
  · rw [throwIf_eq_ok, Bool.not_eq_true, Option.isNone_eq_false_iff, Table.findFirst_isSome] at h
    obtain ⟨l, hl, hwhere⟩ := h
    simp only [Bool.and_eq_true, decide_eq_true_eq, Option.any_eq_true] at hwhere
    obtain ⟨⟨rfl, p, hp, huser⟩, _⟩ := hwhere
    intro hschool
    refine hout.instructor p (Table.mem_of_findUnique hp) huser (Or.inl ⟨l, hl, ?_, hschool⟩)
    exact (Table.key_of_findUnique hp).symm
  · cases h

theorem not_student (hout : Stranger db schoolId actor) {studentId : Uuid}
    (h : loadStudentProfileIdForUser db actor.id = .ok studentId) :
    ¬db.Studies schoolId studentId := by
  simp only [loadStudentProfileIdForUser, except_bind_eq_ok, orThrow_eq_ok] at h
  obtain ⟨_, _, _, _, _, _, _, _, p, hp, h⟩ := h
  cases h
  obtain ⟨hmem, hwhere⟩ := Table.mem_of_findFirst hp
  exact hout.student p hmem (of_decide_eq_true hwhere)

end Stranger

end Refusals

/-! ### Single writes -/

/-- The rows of the school stay, apart from lapsed vehicles, and so do the people around it. -/
structure Intact (lapsed : Vehicle → Prop) (schoolId : Uuid) (db db' : Db) : Prop where
  rows : SameSchool schoolId db db'
  people : SamePeople db db'
  vehicles : SameVehicles lapsed schoolId db db'

namespace Intact

variable {lapsed : Vehicle → Prop}

theorem refl (schoolId : Uuid) (db : Db) : Intact lapsed schoolId db db :=
  ⟨.refl schoolId db, .of_schools rfl rfl rfl rfl, .refl schoolId db⟩

theorem trans (h : Intact lapsed schoolId db db') (h' : Intact lapsed schoolId db' db'') :
    Intact lapsed schoolId db db'' where
  rows := h.rows.trans h'.rows
  people := {
    links := h'.people.links.trans h.people.links
    instructors := h'.people.instructors.trans h.people.instructors
    students := h'.people.students.trans h.people.students
    owners := by
      intro s hs
      obtain ⟨s', hs', hid', howner'⟩ := h'.people.owners s hs
      obtain ⟨s'', hs'', hid, howner⟩ := h.people.owners s' hs'
      exact ⟨s'', hs'', hid.trans hid', howner.trans howner'⟩ }
  vehicles := h.vehicles.trans h'.vehicles

/-- A write that spares the people, the schools and the vehicles. -/
theorem of_rows (h : SameSchool schoolId db db')
    (hschools : db'.drivingSchools = db.drivingSchools := by rfl)
    (hlinks : db'.instructorSchools = db.instructorSchools := by rfl)
    (hinstructors : db'.instructorProfiles = db.instructorProfiles := by rfl)
    (hstudents : db'.studentProfiles = db.studentProfiles := by rfl)
    (hvehicles : db'.vehicles = db.vehicles := by rfl) : Intact lapsed schoolId db db' := by
  refine ⟨h, .of_schools hschools hlinks hinstructors hstudents, .of_sameOn ?_⟩
  rw [hvehicles]
  exact .refl _ _

theorem lessons {t : Table Lesson.id}
    (h : Table.SameOn (fun l => db.HasCourse schoolId l.courseId) db.lessons t) :
    Intact lapsed schoolId db { db with lessons := t } :=
  .of_rows { SameSchool.refl schoolId db with lessons := h }

theorem events {t : Table InstructorEvent.id}
    (h : Table.SameOn (fun e => e.schoolId = schoolId) db.instructorEvents t) :
    Intact lapsed schoolId db { db with instructorEvents := t } :=
  .of_rows { SameSchool.refl schoolId db with events := h }

theorem eventParticipants {t : Table (fun p : EventParticipant => (p.eventId, p.studentId))}
    (h : Table.SameOn (fun p => db.HasEvent schoolId p.eventId) db.eventParticipants t) :
    Intact lapsed schoolId db { db with eventParticipants := t } :=
  .of_rows { SameSchool.refl schoolId db with eventParticipants := h }

theorem courses {t : Table Course.id}
    (h : Table.SameOn (fun c => c.schoolId = schoolId) db.courses t) :
    Intact lapsed schoolId db { db with courses := t } :=
  .of_rows { SameSchool.refl schoolId db with courses := h }

theorem enrolments {t : Table (fun p : CourseParticipant => (p.courseId, p.studentId))}
    (h : Table.SameOn (fun p => db.HasCourse schoolId p.courseId) db.courseParticipants t) :
    Intact lapsed schoolId db { db with courseParticipants := t } :=
  .of_rows { SameSchool.refl schoolId db with enrolments := h }

theorem payments {t : Table Payment.id}
    (h : Table.SameOn (fun p => db.HasPlan schoolId p.paymentPlanId) db.payments t) :
    Intact lapsed schoolId db { db with payments := t } :=
  .of_rows { SameSchool.refl schoolId db with payments := h }

theorem ofVehicles {t : Table Vehicle.id}
    (h : Table.SameOn (fun v => v.schoolId = schoolId) db.vehicles t) :
    Intact lapsed schoolId db { db with vehicles := t } :=
  ⟨{ SameSchool.refl schoolId db with }, .of_schools rfl rfl rfl rfl, .of_sameOn h⟩

/-- Which vehicles are made available is left open here. -/
theorem refreshed (schoolId : Uuid) (h : Refreshed db db') :
    Intact (fun _ => True) schoolId db db' := by
  obtain ⟨p, rfl⟩ := h
  exact ⟨{ SameSchool.refl schoolId db with }, .of_schools rfl rfl rfl rfl,
    p, fun _ _ => trivial, .refl _ _⟩

/-- Another school changes, but not its owner. -/
theorem schools {id : Uuid} {f : DrivingSchool → DrivingSchool} (hf : ∀ s, (f s).id = s.id)
    (howner : ∀ s, (f s).ownerId = s.ownerId) (hid : id ≠ schoolId) :
    Intact lapsed schoolId db { db with drivingSchools := db.drivingSchools.update id f hf } := by
  have hsame : Table.SameOn (fun s => s.id = schoolId) db.drivingSchools
      (db.drivingSchools.update id f hf) := by
    apply Table.sameOn_update
    intro s _ hs
    rw [hf, hs]
    exact ⟨hid, hid⟩
  refine ⟨{ SameSchool.refl schoolId db with school := hsame }, ⟨rfl, rfl, rfl, fun s hs => ?_⟩,
    .refl schoolId db⟩
  rcases Table.mem_updateMany_cases hf hs with ⟨hold, _⟩ | ⟨s', hs', _, rfl⟩
  · exact ⟨s, hold, rfl, rfl⟩
  · exact ⟨s', hs', (hf s').symm, (howner s').symm⟩

end Intact

end OSK
