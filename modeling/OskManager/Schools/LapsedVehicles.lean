import OskManager.Lib.Regions
import OskManager.Schedule.DoubleBooking

/-! What the calls on the schedule do to vehicles: they make some available again, and only those
whose unavailability has run out. -/

namespace OSK

open Relational

variable {env : Env} {db db' db'' : Db}

/-- The unavailability of the vehicle has run out, by the rule of a booking or by the refresh of
its school. -/
def Vehicle.Lapsed (env : Env) (v : Vehicle) : Prop :=
  v.expiredTemporaryUnavailability env = true ∨ v.refreshDue env v.schoolId = true

/-- Lapsed vehicles have been made available, and the others are as they were. -/
def Lapses (env : Env) (db db' : Db) : Prop :=
  ∃ p, (∀ v, p v = true → v.Lapsed env) ∧ db'.vehicles = (db.refreshed p).vehicles

theorem Lapses.of_vehicles (h : db'.vehicles = db.vehicles) : Lapses env db db' := by
  refine ⟨fun _ => false, fun _ => nofun, ?_⟩
  rw [h, Db.refreshed, Table.updateMany_none]

theorem Lapses.refl (db : Db) : Lapses env db db := .of_vehicles rfl

theorem Lapses.trans (a b c : Db) (hab : Lapses env a b) (hbc : Lapses env b c) :
    Lapses env a c := by
  obtain ⟨p, hp, hb⟩ := hab
  obtain ⟨q, hq, hc⟩ := hbc
  refine ⟨fun v => p v || q v, fun v hv => ?_, ?_⟩
  · rcases Bool.or_eq_true_iff.mp hv with h | h
    · exact hp v h
    · exact hq v h
  · simp only [hc, Db.refreshed, hb]
    rw [Table.updateMany_twice _ _ _ _ _ Vehicle.madeAvailable_twice]

theorem lapses_refreshVehicles (db : Db) (schoolId : Uuid) :
    Lapses env db (db.refreshVehicles env schoolId) := by
  refine ⟨Vehicle.refreshDue env schoolId, fun v hv => Or.inr ?_, rfl⟩
  have hv' := hv
  rw [Vehicle.refreshDue, Bool.and_eq_true] at hv'
  obtain ⟨hschool, _, _⟩ := of_decide_eq_true hv'.1
  rwa [hschool]

/-- The vehicle that has been read is the only one with its key. -/
theorem lapses_makeVehicleAvailable {v : Vehicle} (hv : v ∈ db.vehicles.rows)
    (hexpired : v.expiredTemporaryUnavailability env = true) :
    Lapses env db (db.makeVehicleAvailable v.id) := by
  refine ⟨fun w => decide (w.id = v.id) && w.expiredTemporaryUnavailability env, ?_, ?_⟩
  · intro w hw
    exact Or.inl (Bool.and_eq_true_iff.mp hw).2
  · refine Table.updateMany_congr _ _ Vehicle.id_madeAvailable fun w hw => ?_
    rw [Bool.eq_iff_iff, Bool.and_eq_true]
    refine ⟨fun hid => ⟨hid, ?_⟩, And.left⟩
    rwa [db.vehicles.key_inj hw hv (of_decide_eq_true hid)]

/-! ### Programs -/

section Programs

theorem lapses_bind {α β : Type} {p : Service α} {f : α → Service β}
    (hp : Prog.Keeps (Lapses env) p) (hf : ∀ a, Prog.Keeps (Lapses env) (f a)) :
    Prog.Keeps (Lapses env) (p >>= f) := Prog.Keeps.bind Lapses.trans hp hf

theorem lapses_query {α : Type} (f : Db → Except Failure α) :
    Prog.Keeps (Lapses env) (Prog.query f) := Prog.Keeps.query Lapses.refl f

theorem lapses_query_bind {α β : Type} {f : Db → Except Failure α} {g : α → Service β}
    (hg : ∀ a, Prog.Keeps (Lapses env) (g a)) : Prog.Keeps (Lapses env) (Prog.query f >>= g) :=
  lapses_bind (lapses_query f) hg

theorem lapses_lift_bind {α β : Type} {x : Except Failure α} {g : α → Service β}
    (hg : ∀ a, Prog.Keeps (Lapses env) (g a)) :
    Prog.Keeps (Lapses env) ((liftM x : Service α) >>= g) :=
  lapses_bind (Prog.Keeps.lift Lapses.refl x) hg

theorem lapses_transaction {α : Type} {p : Service α} (hp : Prog.Keeps (Lapses env) p) :
    Prog.Keeps (Lapses env) (Prog.transaction p) :=
  Prog.Keeps.transaction Lapses.refl fun _ _ _ h => hp.run h

theorem lapses_pure {α : Type} (a : α) : Prog.Keeps (Lapses env) (pure a : Service α) :=
  Prog.Keeps.pure Lapses.refl a

theorem validateVehicleForInstructor_lapses (instructorId vehicleId : Uuid) (b : Bool) :
    Prog.Keeps (Lapses env) (validateVehicleForInstructor env instructorId vehicleId b) := by
  intro db
  apply Prog.query_bind_leaves (.refl db)
  intro v hv
  have hmem := (Table.mem_of_findFirst ((orThrow_eq_ok _ _ _).mp hv)).1
  have hrest : Prog.Keeps (Lapses env) (show Service Unit from do
      throwIf (b = true ∧ v.availabilityStatus ≠ .active ∧
          v.expiredTemporaryUnavailability env = false)
        (Failure.badRequestFor .vehicleUnavailable "Vehicle is unavailable")
      Prog.query fun db => throwIf ((instructorLink db instructorId v.schoolId).isNone = true)
        (.badRequestFor .vehicleUnavailable
          "Vehicle is not in a school assigned to this instructor")) :=
    lapses_lift_bind fun _ => lapses_query _
  cases hexpired : v.expiredTemporaryUnavailability env with
  | false =>
    rw [hexpired] at hrest
    exact hrest db
  | true =>
    rw [hexpired] at hrest
    exact Lapses.trans _ _ _ (lapses_makeVehicleAvailable hmem hexpired) (hrest _)

theorem refreshExpired_lapses (schoolId : Uuid) :
    Prog.Keeps (Lapses env) (refreshExpiredVehicleUnavailabilitiesForSchool env schoolId) :=
  Prog.Keeps.write fun db => lapses_refreshVehicles db schoolId

theorem bookedVehicle_lapses (body : BookLessonBody) (course : CourseForBooking) :
    Prog.Keeps (Lapses env) (bookedVehicle env body course) := by
  refine lapses_bind (lapses_bind (refreshExpired_lapses _) fun _ => ?_) fun _ => lapses_pure _
  refine lapses_query_bind fun _ => lapses_query_bind fun _ => ?_
  exact lapses_bind (validateVehicleForInstructor_lapses _ _ _) fun _ => lapses_query _

theorem firstFreeVehicle_lapses (instructorId : Uuid) (start stop : Instant) (l : List Uuid) :
    Prog.Keeps (Lapses env) (firstFreeVehicle env instructorId start stop l) := by
  induction l with
  | nil => exact lapses_query _
  | cons vehicleId rest ih =>
    refine lapses_bind ?_ fun valid => lapses_query_bind fun busy => ?_
    · exact Prog.Keeps.attempt (validateVehicleForInstructor_lapses _ _ _)
    cases valid with
    | error _ => exact ih
    | ok _ =>
      cases busy
      · exact lapses_pure _
      · exact ih

theorem findAvailableVehicle_lapses (instructorId schoolId : Uuid) (start stop : Instant)
    (courseTypeId : Uuid) :
    Prog.Keeps (Lapses env) (findAvailableVehicleIdForStudentBooking env instructorId schoolId
      start stop courseTypeId) := by
  refine lapses_query_bind fun _ => lapses_bind (refreshExpired_lapses schoolId) fun _ => ?_
  exact lapses_query_bind fun _ => firstFreeVehicle_lapses _ _ _ _

/-! ### Lessons -/

theorem createPracticeLesson_lapses (input : PracticeLessonInput)
    {resolve : CourseForBooking → Service Uuid}
    (hresolve : ∀ c, Prog.Keeps (Lapses env) (resolve c)) :
    Prog.Keeps (Lapses env) (createPracticeLessonForStudent env input resolve) := by
  refine lapses_bind (lapses_transaction ?_) fun _ => lapses_pure _
  refine lapses_query_bind fun course => lapses_lift_bind fun _ => ?_
  refine lapses_query_bind fun _ => lapses_query_bind fun _ => ?_
  refine lapses_bind (hresolve course) fun vehicleId => fun db => .of_vehicles ?_
  unfold createLesson
  split <;> rfl

theorem bookLesson_lapses (actor : Actor) (body : BookLessonBody) :
    Prog.Keeps (Lapses env) (bookLesson env actor body) := by
  refine lapses_query_bind fun course => lapses_query_bind fun _ => ?_
  refine lapses_query_bind fun _ => lapses_query_bind fun student => ?_
  refine lapses_query_bind fun _ => lapses_query_bind fun _ => ?_
  exact createPracticeLesson_lapses (body.input course student) (bookedVehicle_lapses body)

theorem bookOwnLesson_lapses (actor : Actor) (body : BookOwnLessonBody) :
    Prog.Keeps (Lapses env) (bookOwnLesson env actor body) := by
  refine lapses_lift_bind fun _ => lapses_query_bind fun course => ?_
  refine lapses_lift_bind fun _ => lapses_query_bind fun _ => ?_
  refine lapses_query_bind fun student => lapses_query_bind fun _ => ?_
  refine lapses_query_bind fun _ => createPracticeLesson_lapses (body.input course student) ?_
  exact fun c => findAvailableVehicle_lapses _ _ _ _ _

theorem updateLesson_lapses (actor : Actor) (lessonId : Uuid) (body : UpdateLessonBody) :
    Prog.Keeps (Lapses env) (updateLesson env actor lessonId body) := by
  refine Prog.Keeps.transaction Lapses.refl fun db dto db' hok => ?_
  rw [← Prog.transaction_eq_ok] at hok
  obtain ⟨existing, course, v, _, ⟨_, _, rfl⟩ | ⟨_, p, hslot, _, _, rfl⟩⟩ :=
    (updateLesson_eq_ok actor lessonId body dto db').mp hok
  · exact .refl db'
  · obtain ⟨_, hval⟩ := (lessonSlotAllowed_eq_ok ..).mp hslot
    obtain ⟨q, hq, hvehicles⟩ := (validateVehicleForInstructor_lapses _ _ _).run hval
    exact ⟨q, hq, hvehicles⟩

/-! ### Events -/

theorem validateDriveVehicle_lapses (type : EventType) (instructorId : Uuid)
    (vehicleId : Option Uuid) (b : Bool) :
    Prog.Keeps (Lapses env) (validateDriveVehicle env type instructorId vehicleId b) :=
  Prog.Keeps.when Lapses.refl
    (lapses_lift_bind fun _ => validateVehicleForInstructor_lapses _ _ _)

theorem createInstructorEvent_lapses (actor : Actor) (body : CreateInstructorEventBody) :
    Prog.Keeps (Lapses env) (createInstructorEvent env actor body) := by
  refine lapses_query_bind fun _ => lapses_query_bind fun _ => ?_
  refine lapses_query_bind fun schoolId => lapses_query_bind fun _ => ?_
  refine lapses_bind (validateDriveVehicle_lapses _ _ _ _) fun _ => ?_
  refine lapses_bind (lapses_transaction ?_) fun _ => lapses_pure _
  refine lapses_query_bind fun _ => lapses_query_bind fun _ => lapses_query_bind fun _ => ?_
  exact fun db => .of_vehicles rfl

theorem updateInstructorEvent_lapses (actor : Actor) (eventId : Uuid)
    (body : PatchInstructorEventBody) :
    Prog.Keeps (Lapses env) (updateInstructorEvent env actor eventId body) := by
  refine lapses_bind ?_ fun u => ?_
  · refine lapses_query_bind fun _ => lapses_lift_bind fun _ => lapses_query_bind fun _ => ?_
    refine lapses_query_bind fun _ => lapses_lift_bind fun _ => lapses_query_bind fun _ => ?_
    refine lapses_bind (validateDriveVehicle_lapses _ _ _ _) fun _ => ?_
    exact lapses_query_bind fun _ => lapses_pure _
  · refine lapses_bind (lapses_transaction ?_) fun _ => lapses_pure _
    refine lapses_query_bind fun _ => lapses_query_bind fun _ => ?_
    exact lapses_bind (Prog.Keeps.write fun db => .of_vehicles rfl) fun _ => lapses_pure _

theorem deleteInstructorEvent_lapses (actor : Actor) (eventId : Uuid) :
    Prog.Keeps (Lapses env) (deleteInstructorEvent actor eventId) := by
  refine lapses_query_bind fun _ => lapses_lift_bind fun _ => lapses_query_bind fun _ => ?_
  exact Prog.Keeps.write fun db => .of_vehicles rfl

theorem bulkUpdateEventStatus_lapses (actor : Actor) (body : BulkUpdateEventStatusBody) :
    Prog.Keeps (Lapses env) (bulkUpdateEventStatus actor body) := by
  refine lapses_lift_bind fun _ => lapses_query_bind fun ids => ?_
  split
  · exact lapses_pure _
  · refine lapses_bind (lapses_transaction ?_) fun _ => lapses_pure _
    refine lapses_query_bind fun _ => lapses_query_bind fun _ => ?_
    exact lapses_bind (Prog.Keeps.write fun db => .of_vehicles rfl) fun _ => lapses_pure _

/-! ### Participants -/

theorem createParticipants_lapses (eventId : Uuid) (l : List Uuid) :
    Prog.Keeps (Lapses env) (createParticipants env eventId l) := by
  induction l with
  | nil => exact lapses_pure ()
  | cons studentId rest ih =>
    refine lapses_bind (fun db => .of_vehicles ?_) fun _ => ih
    unfold createParticipant
    split <;> rfl

theorem assignStudentsToEvent_lapses (actor : Actor) (eventId : Uuid) (studentIds : List Uuid) :
    Prog.Keeps (Lapses env) (assignStudentsToEvent env actor eventId studentIds) := by
  refine lapses_query_bind fun prepared => lapses_transaction ?_
  refine lapses_query_bind fun added => lapses_query_bind fun _ => ?_
  exact lapses_bind (createParticipants_lapses eventId added) fun _ => lapses_pure _

theorem replaceEventStudents_lapses (actor : Actor) (eventId : Uuid) (studentIds : List Uuid) :
    Prog.Keeps (Lapses env) (replaceEventStudents env actor eventId studentIds) := by
  refine lapses_query_bind fun prepared => lapses_bind (lapses_transaction ?_) fun _ =>
    lapses_pure _
  refine lapses_query_bind fun _ => lapses_query_bind fun _ => ?_
  exact lapses_bind (Prog.Keeps.write fun db => .of_vehicles rfl) fun _ =>
    createParticipants_lapses eventId _

end Programs

/-- Whatever is called on the schedule, only lapsed vehicles change. -/
theorem ScheduleCall.run_lapses (env : Env) (db : Db) (call : ScheduleCall) :
    Lapses env db (call.run env db) := by
  cases call with
  | bookLesson actor body => exact bookLesson_lapses actor body db
  | bookOwnLesson actor body => exact bookOwnLesson_lapses actor body db
  | updateLesson actor lessonId body => exact updateLesson_lapses actor lessonId body db
  | cancelLesson actor lessonId =>
    rcases cancelLesson_store env actor lessonId db with h | h
    · exact .of_vehicles (congrArg Db.vehicles h :)
    · exact .of_vehicles (congrArg Db.vehicles h :)
  | cancelOwnLesson actor lessonId =>
    rcases cancelOwnLesson_store env actor lessonId db with h | ⟨_, h⟩
    · exact .of_vehicles (congrArg Db.vehicles h :)
    · exact .of_vehicles (congrArg Db.vehicles h :)
  | createInstructorEvent actor body => exact createInstructorEvent_lapses actor body db
  | updateInstructorEvent actor eventId body =>
    exact updateInstructorEvent_lapses actor eventId body db
  | deleteInstructorEvent actor eventId =>
    exact deleteInstructorEvent_lapses actor eventId db
  | bulkUpdateEventStatus actor body => exact bulkUpdateEventStatus_lapses actor body db
  | assignStudentsToEvent actor eventId ids =>
    exact assignStudentsToEvent_lapses actor eventId ids db
  | replaceEventStudents actor eventId ids => exact replaceEventStudents_lapses actor eventId ids db
  | removeStudentFromEvent actor eventId id =>
    rcases removeStudentFromEvent_store actor eventId id db with h | ⟨_, h⟩
    · exact .of_vehicles (congrArg Db.vehicles h :)
    · exact .of_vehicles (congrArg Db.vehicles h :)

end OSK
