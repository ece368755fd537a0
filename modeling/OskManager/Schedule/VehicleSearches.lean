import OskManager.Schedule.VehicleChoice
import OskManager.Schedule.VehicleListing

/-! The three searches for a vehicle: the list of a course and window, the check of a named vehicle
and the choice made for a student. Each is compared with one condition on the stored row. -/

namespace OSK

open Relational

variable {env : Env} {db : Db} {userId schoolId instructorId courseTypeId : Uuid}
  {start stop : Instant}

/-- The row is of an active vehicle of the school and the category that is available, now or by
the refresh. -/
structure Usable (now : Instant) (schoolId courseTypeId : Uuid) (v : Vehicle) : Prop where
  school : v.schoolId = schoolId
  active : v.isActive = true
  category : courseTypeId ∈ v.supportedCourseTypes
  available : (v.rowRefreshed now).availabilityStatus = .active

/-! ### After the refresh of the school -/

theorem mem_refreshVehicles {u : Vehicle} :
    (u ∈ (db.refreshVehicles env schoolId).vehicles.rows ∧ u.schoolId = schoolId ∧
        u.isActive = true) ↔
      ∃ v ∈ db.vehicles.rows, v.schoolId = schoolId ∧ v.isActive = true ∧
        u = v.rowRefreshed env.now := by
  have hrow (v : Vehicle) (hs : v.schoolId = schoolId) (ha : v.isActive = true) :
      (if v.refreshDue env schoolId then v.madeAvailable else v) = v.rowRefreshed env.now := by
    subst hs
    rw [refreshDue_eq ha, Vehicle.rowRefreshed]
  have hkeep (v : Vehicle) (c : Bool) : (if c then v.madeAvailable else v).schoolId = v.schoolId ∧
      (if c then v.madeAvailable else v).isActive = v.isActive := by
    cases c <;> exact ⟨rfl, rfl⟩
  simp only [Db.refreshVehicles, Table.mem_updateMany]
  refine ⟨?_, ?_⟩
  · rintro ⟨⟨v, hv, rfl⟩, hs, ha⟩
    rw [(hkeep v _).1] at hs
    rw [(hkeep v _).2] at ha
    exact ⟨v, hv, hs, ha, hrow v hs ha⟩
  · rintro ⟨v, hv, hs, ha, rfl⟩
    rw [← hrow v hs ha]
    exact ⟨⟨v, hv, rfl⟩, (hkeep v _).1.trans hs, (hkeep v _).2.trans ha⟩

theorem Vehicle.rowRefreshed_fields (now : Instant) (v : Vehicle) :
    (v.rowRefreshed now).schoolId = v.schoolId ∧ (v.rowRefreshed now).isActive = v.isActive ∧
      (v.rowRefreshed now).supportedCourseTypes = v.supportedCourseTypes ∧
      (v.rowRefreshed now).createdAt = v.createdAt := by
  unfold Vehicle.rowRefreshed
  split <;> exact ⟨rfl, rfl, rfl, rfl⟩

/-- The usable rows are the available ones of the refreshed school. -/
theorem usable_iff {u : Vehicle} :
    (u ∈ (db.refreshVehicles env schoolId).vehicles.rows ∧ u.schoolId = schoolId ∧
        u.isActive = true ∧ courseTypeId ∈ u.supportedCourseTypes ∧
          u.availabilityStatus = .active) ↔
      ∃ v ∈ db.vehicles.rows, Usable env.now schoolId courseTypeId v ∧
        u = v.rowRefreshed env.now := by
  refine ⟨?_, ?_⟩
  · rintro ⟨hu, hus, hua, hc, hav⟩
    obtain ⟨v, hv, hs, ha, rfl⟩ := mem_refreshVehicles.mp ⟨hu, hus, hua⟩
    rw [(v.rowRefreshed_fields env.now).2.2.1] at hc
    exact ⟨v, hv, ⟨hs, ha, hc, hav⟩, rfl⟩
  · rintro ⟨v, hv, huse, rfl⟩
    obtain ⟨hu, hs, ha⟩ := mem_refreshVehicles.mpr ⟨v, hv, huse.school, huse.active, rfl⟩
    exact ⟨hu, hs, ha, (v.rowRefreshed_fields env.now).2.2.1 ▸ huse.category, huse.available⟩

/-! ### The check of a named vehicle -/

/-- A vehicle that is found available for the course is accepted for the linked instructor. -/
theorem validateVehicle_usable {db' : Db} {u : Vehicle} (hu : u ∈ db'.vehicles.rows)
    (ha : u.isActive = true) (hlink : (instructorLink db' instructorId u.schoolId).isSome = true) :
    Prog.Succeeds (validateVehicleForInstructor env instructorId u.id) db' :=
  validateVehicle_succeeds_iff.mpr ⟨u, activeVehicle_of_mem hu ha, nofun, hlink⟩

theorem lookups_iff {db' : Db} {vehicleId : Uuid} :
    ((availableVehicleInSchool db' vehicleId schoolId).isSome = true ∧
        assertVehicleSupportsCourseType db' vehicleId courseTypeId = .ok ()) ↔
      ∃ u, u.id = vehicleId ∧ u ∈ db'.vehicles.rows ∧ u.schoolId = schoolId ∧ u.isActive = true ∧
        courseTypeId ∈ u.supportedCourseTypes ∧ u.availabilityStatus = .active := by
  simp only [availableVehicleInSchool, assertVehicleSupportsCourseType, throwIf_eq_ok,
    Table.findFirst_isSome, decide_eq_true_eq, Bool.not_eq_true, Option.isNone_eq_false_iff]
  refine ⟨?_, ?_⟩
  · rintro ⟨⟨u, hu, rfl, hs, ha, hav⟩, w, hw, hid, hc⟩
    obtain rfl := db'.vehicles.key_inj hw hu hid
    exact ⟨w, rfl, hw, hs, ha, hc, hav⟩
  · rintro ⟨u, rfl, hu, hs, ha, hc, hav⟩
    exact ⟨⟨u, hu, rfl, hs, ha, hav⟩, u, hu, rfl, hc⟩

theorem assertVehicleAvailable_succeeds_iff {vehicleId : Uuid}
    (hlink : (instructorLink db instructorId schoolId).isSome = true) :
    Prog.Succeeds (assertVehicleAvailableForBooking env instructorId vehicleId schoolId start stop
        courseTypeId) db ↔
      ∃ v ∈ db.vehicles.rows, v.id = vehicleId ∧ Usable env.now schoolId courseTypeId v ∧
        vehicleHasBookingConflict db vehicleId start stop = false := by
  have hopen : Prog.Succeeds (assertVehicleAvailableForBooking env instructorId vehicleId schoolId
      start stop courseTypeId) db ↔
      ((availableVehicleInSchool (db.refreshVehicles env schoolId) vehicleId schoolId).isSome =
          true ∧ assertVehicleSupportsCourseType (db.refreshVehicles env schoolId) vehicleId
            courseTypeId = .ok ()) ∧
        Prog.Succeeds (validateVehicleForInstructor env instructorId vehicleId)
          (db.refreshVehicles env schoolId) ∧
        vehicleHasBookingConflict db vehicleId start stop = false := by
    rw [assertVehicleAvailableForBooking, refreshExpiredVehicleUnavailabilitiesForSchool,
      Prog.succeeds_write_bind, Prog.succeeds_rule_bind, Prog.succeeds_rule_bind,
      Prog.succeeds_bind]
    simp only [throwIf_eq_ok, Bool.not_eq_true, Option.isNone_eq_false_iff, and_assoc]
    refine and_congr_right fun _ => and_congr_right fun _ => ?_
    refine ⟨?_, ?_⟩
    · rintro ⟨u, t, hvalid, hfree⟩
      obtain ⟨p, rfl⟩ := (validateVehicleForInstructor_keeps env instructorId vehicleId
        false).run hvalid
      obtain ⟨_, hfree⟩ := Prog.succeeds_query.mp hfree
      rw [throwIf_eq_ok, Bool.not_eq_true] at hfree
      exact ⟨⟨u, _, hvalid⟩, hfree⟩
    · rintro ⟨⟨u, t, hvalid⟩, hfree⟩
      refine ⟨u, t, hvalid, Prog.succeeds_query.mpr ⟨(), ?_⟩⟩
      obtain ⟨p, rfl⟩ := (validateVehicleForInstructor_keeps env instructorId vehicleId
        false).run hvalid
      rw [throwIf_eq_ok, Bool.not_eq_true]
      exact hfree
  rw [hopen, lookups_iff]
  refine ⟨?_, ?_⟩
  · rintro ⟨⟨u, rfl, hu⟩, -, hfree⟩
    obtain ⟨v, hv, huse, rfl⟩ := usable_iff.mp hu
    exact ⟨v, hv, (v.id_rowRefreshed env.now).symm, huse, hfree⟩
  · rintro ⟨v, hv, rfl, huse, hfree⟩
    obtain ⟨hu, hs, ha, hrest⟩ := usable_iff.mpr ⟨v, hv, huse, rfl⟩
    have hid := v.id_rowRefreshed env.now
    refine ⟨⟨_, hid, hu, hs, ha, hrest⟩, ?_, hfree⟩
    rw [← hid]
    exact validateVehicle_usable hu ha (hs.symm ▸ hlink)

/-! ### The choice for a student -/

/-- The vehicles the choice goes through, before the default vehicle is put first. -/
def bookingCandidates (env : Env) (db : Db) (schoolId courseTypeId : Uuid) : List Vehicle :=
  ((db.refreshVehicles env schoolId).vehicles.findMany fun v =>
    decide (courseTypeId ∈ v.supportedCourseTypes ∧ v.schoolId = schoolId ∧ v.isActive = true ∧
      v.availabilityStatus = .active)).insertionSort fun a b => a.createdAt ≤ b.createdAt

theorem mem_bookingCandidates {u : Vehicle} :
    u ∈ bookingCandidates env db schoolId courseTypeId ↔
      ∃ v ∈ db.vehicles.rows, Usable env.now schoolId courseTypeId v ∧
        u = v.rowRefreshed env.now := by
  rw [bookingCandidates, (List.perm_insertionSort _ _).mem_iff, Table.mem_findMany,
    decide_eq_true_eq, ← usable_iff]
  tauto

def noVehicleConflict : Failure :=
  .conflictFor .noVehicleAvailable "Brak dostępnego pojazdu odpowiedniej kategorii w tym terminie."

/-- The loop answers with the first vehicle that is free, when it may use all of them. -/
theorem firstFreeVehicle_answer {db' : Db} {l : List Uuid}
    (hvalid : ∀ id ∈ l, Prog.Succeeds (validateVehicleForInstructor env instructorId id) db')
    (havailable : ∀ id ∈ l, NotUnavailable db' id) :
    (firstFreeVehicle env instructorId start stop l db').1 =
      ((l.find? fun id => !vehicleHasBookingConflict db' id start stop).elim
        (.error noVehicleConflict) .ok : Except Failure Uuid) := by
  induction l with
  | nil => rfl
  | cons id rest ih =>
    rw [List.forall_mem_cons] at hvalid havailable
    have hstore := validateVehicle_store env havailable.1 instructorId false
    obtain ⟨u, t, hrun⟩ := hvalid.1
    rw [hrun] at hstore
    obtain rfl : t = db' := hstore
    have hrest := ih hvalid.2 havailable.2
    simp only [firstFreeVehicle, Prog.bind_run, Prog.attempt, Prog.query, hrun, List.find?_cons]
    cases vehicleHasBookingConflict t id start stop with
    | false => rfl
    | true => exact hrest

theorem find_defaultVehicleFirst_default {d : Uuid} {l : List Uuid} {p : Uuid → Bool} (hd : d ∈ l)
    (hp : p d = true) : (defaultVehicleFirst (some d) l).find? p = some d := by
  simp [defaultVehicleFirst, hd, hp]

/-- Otherwise the order is the one of the candidates. -/
theorem find_defaultVehicleFirst_rest {default : Option Uuid} {l : List Uuid} {p : Uuid → Bool}
    (h : ∀ d, default = some d → d ∈ l → p d = false) :
    (defaultVehicleFirst default l).find? p = l.find? p := by
  cases default with
  | none => rfl
  | some d =>
    simp only [defaultVehicleFirst]
    split
    · next hd =>
      have hmiss := h d rfl hd
      have hskip : (fun id => decide (decide (id ≠ d) = true ∧ p id = true)) = p := by
        funext id
        by_cases hid : id = d
        · simp [hid, hmiss]
        · simp [hid]
      rw [List.find?_cons_of_neg (by simp [hmiss]), List.find?_filter, hskip]
    · rfl

theorem find_least {α : Type} {r : α → α → Prop} {l : List α} (hl : l.Pairwise r) {p : α → Bool}
    {a b : α} (ha : l.find? p = some a) (hb : b ∈ l) (hp : p b = true) : a = b ∨ r a b := by
  obtain ⟨-, before, after, rfl, hbefore⟩ := List.find?_eq_some_iff_append.mp ha
  rcases List.mem_append.mp hb with hb | hb
  · have hmiss := hbefore b hb
    rw [hp] at hmiss
    cases hmiss
  · rcases List.mem_cons.mp hb with rfl | hb
    · exact Or.inl rfl
    · exact Or.inr ((List.pairwise_cons.mp (List.pairwise_append.mp hl).2.1).1 b hb)

/-- The vehicle the loop stops at. -/
def chosenVehicleId (env : Env) (db : Db) (schoolId courseTypeId : Uuid)
    (defaultVehicleId : Option Uuid) (start stop : Instant) : Option Uuid :=
  (defaultVehicleFirst defaultVehicleId
    ((bookingCandidates env db schoolId courseTypeId).map Vehicle.id)).find? fun id =>
      !vehicleHasBookingConflict db id start stop

theorem findAvailableVehicle_answer {school : DrivingSchool}
    (hschool : getSchoolOwnedByUser db userId schoolId = some school)
    (hlink : (instructorLink db instructorId schoolId).isSome = true) :
    (findAvailableVehicleIdForStudentBooking env instructorId schoolId start stop courseTypeId
      db).1 = (chosenVehicleId env db schoolId courseTypeId school.defaultVehicleId start stop).elim
        (.error noVehicleConflict) .ok := by
  have hfound : db.drivingSchools.findUnique schoolId = some school :=
    (Option.filter_eq_some_iff.mp hschool).1
  have hcandidate (id : Uuid) (hid : id ∈ defaultVehicleFirst school.defaultVehicleId
      ((bookingCandidates env db schoolId courseTypeId).map Vehicle.id)) :
      ∃ u ∈ (db.refreshVehicles env schoolId).vehicles.rows, u.id = id ∧ u.schoolId = schoolId ∧
        u.isActive = true ∧ u.availabilityStatus = .active := by
    obtain ⟨u, hu, rfl⟩ := List.mem_map.mp (mem_defaultVehicleFirst hid)
    obtain ⟨hu, hs, ha, -, hav⟩ := usable_iff.mpr (mem_bookingCandidates.mp hu)
    exact ⟨u, hu, rfl, hs, ha, hav⟩
  rw [findAvailableVehicleIdForStudentBooking, Prog.query_bind_run]
  simp only [hfound]
  refine firstFreeVehicle_answer (fun id hid => ?_) fun id hid v hv => ?_
  · obtain ⟨u, hu, rfl, hs, ha, -⟩ := hcandidate id hid
    exact validateVehicle_usable hu ha (hs.symm ▸ hlink)
  · obtain ⟨u, hu, rfl, hs, ha, hav⟩ := hcandidate id hid
    rw [activeVehicle_of_mem hu ha] at hv
    cases hv
    exact hav

/-! ### The three searches -/

def VehicleList.ids (list : VehicleList) : List Uuid :=
  list.vehicles.map fun listed => listed.vehicle.rest.id

/-- The answer is the default vehicle when it is listed, else the oldest of the list. -/
structure ChosenFrom (list : VehicleList) (answer : Except Failure Uuid) : Prop where
  default : ∀ d ∈ list.ids, list.defaultVehicleId = some d → answer = .ok d
  oldest : (∀ d ∈ list.ids, list.defaultVehicleId ≠ some d) → list.vehicles ≠ [] →
    ∃ v ∈ list.vehicles, answer = .ok v.vehicle.rest.id ∧
      ∀ w ∈ list.vehicles, v.vehicle.rest.createdAt ≤ w.vehicle.rest.createdAt
  missing : answer = .error noVehicleConflict ↔ list.vehicles = []

theorem mem_shownVehicles {window : ScheduleWindow} {course : Course} {u : Vehicle} :
    u ∈ shownVehicles env db schoolId (some window) (some course) ↔
      u ∈ bookingCandidates env db schoolId course.courseTypeId ∧
        vehicleHasBookingConflict db u.id window.start window.stop = false := by
  simp only [shownVehicles, mem_vehiclesFreeDuring, Option.some.injEq, forall_eq', List.mem_filter,
    Option.isNone_some, Bool.false_or, decide_eq_true_eq, mem_bookingCandidates, refreshedVehicles,
    List.mem_map, mem_activeVehiclesOfSchool]
  refine and_congr_left fun _ => ?_
  refine ⟨?_, ?_⟩
  · rintro ⟨⟨v, ⟨hv, hs, ha, hc⟩, rfl⟩, hav⟩
    exact ⟨v, hv, ⟨hs, ha, hc, hav⟩, rfl⟩
  · rintro ⟨v, hv, huse, rfl⟩
    exact ⟨⟨v, ⟨hv, huse.school, huse.active, huse.category⟩, rfl⟩, huse.available⟩

theorem ids_vehicleListOf {school : DrivingSchool} {timeRange : Option ScheduleWindow}
    {course : Option Course} : (vehicleListOf env db school schoolId timeRange course).ids =
      (shownVehicles env db schoolId timeRange course).map Vehicle.id := by
  simp [VehicleList.ids, vehicleListOf, listedVehicle, vehicleToResponse]

theorem pairwise_bookingCandidates :
    (bookingCandidates env db schoolId courseTypeId).Pairwise
      fun a b => a.createdAt ≤ b.createdAt :=
  List.pairwise_insertionSort _ _

section Choice

variable {window : ScheduleWindow} {course : Course} {default : Option Uuid}

theorem chosenVehicleId_default {u : Vehicle}
    (hu : u ∈ shownVehicles env db schoolId (some window) (some course)) :
    chosenVehicleId env db schoolId course.courseTypeId (some u.id) window.start window.stop =
      some u.id := by
  obtain ⟨hu, hfree⟩ := mem_shownVehicles.mp hu
  exact find_defaultVehicleFirst_default (List.mem_map_of_mem hu) (by simp [hfree])

/-- Without a default vehicle on the list the choice is the first free candidate. -/
theorem chosenVehicleId_rest
    (h : ∀ u ∈ shownVehicles env db schoolId (some window) (some course), default ≠ some u.id) :
    chosenVehicleId env db schoolId course.courseTypeId default window.start window.stop =
      ((bookingCandidates env db schoolId course.courseTypeId).find? fun u =>
        !vehicleHasBookingConflict db u.id window.start window.stop).map Vehicle.id := by
  have hrest : ∀ d, default = some d →
      d ∈ (bookingCandidates env db schoolId course.courseTypeId).map Vehicle.id →
        (!vehicleHasBookingConflict db d window.start window.stop) = false := by
    intro d hd hmem
    obtain ⟨u, hu, rfl⟩ := List.mem_map.mp hmem
    rw [Bool.not_eq_false', ← Bool.not_eq_false]
    exact fun hfree => h u (mem_shownVehicles.mpr ⟨hu, hfree⟩) hd
  rw [chosenVehicleId, find_defaultVehicleFirst_rest hrest, List.find?_map]
  rfl

/-- A vehicle that is shown makes the choice end with one that is not younger. -/
theorem chosenVehicleId_oldest {w : Vehicle}
    (hw : w ∈ shownVehicles env db schoolId (some window) (some course))
    (h : ∀ u ∈ shownVehicles env db schoolId (some window) (some course), default ≠ some u.id) :
    ∃ v ∈ shownVehicles env db schoolId (some window) (some course),
      chosenVehicleId env db schoolId course.courseTypeId default window.start window.stop =
        some v.id ∧
      ∀ u ∈ shownVehicles env db schoolId (some window) (some course),
        v.createdAt ≤ u.createdAt := by
  rw [chosenVehicleId_rest h]
  obtain ⟨hcandidate, hfree⟩ := mem_shownVehicles.mp hw
  rcases hfind : (bookingCandidates env db schoolId course.courseTypeId).find? fun u =>
      !vehicleHasBookingConflict db u.id window.start window.stop with _ | v
  · have hmiss := List.find?_eq_none.mp hfind w hcandidate
    simp [hfree] at hmiss
  · have hv := List.mem_of_find?_eq_some hfind
    have hvfree := List.find?_some hfind
    rw [Bool.not_eq_true'] at hvfree
    refine ⟨v, mem_shownVehicles.mpr ⟨hv, hvfree⟩, by rw [hfind]; rfl, fun u hu => ?_⟩
    obtain ⟨hu, hufree⟩ := mem_shownVehicles.mp hu
    rcases find_least pairwise_bookingCandidates hfind hu (by simp [hufree]) with rfl | hle
    · exact le_rfl
    · exact hle

/-- The loop ends without a vehicle exactly when none is shown. -/
theorem chosenVehicleId_eq_none :
    chosenVehicleId env db schoolId course.courseTypeId default window.start window.stop = none ↔
      shownVehicles env db schoolId (some window) (some course) = [] := by
  refine ⟨?_, ?_⟩
  · intro hnone
    rw [List.eq_nil_iff_forall_not_mem]
    intro w hw
    by_cases hdefault : ∃ u ∈ shownVehicles env db schoolId (some window) (some course),
        default = some u.id
    · obtain ⟨u, hu, rfl⟩ := hdefault
      rw [chosenVehicleId_default hu] at hnone
      cases hnone
    · obtain ⟨v, -, hchosen, -⟩ := chosenVehicleId_oldest hw fun u hu hd => hdefault ⟨u, hu, hd⟩
      rw [hchosen] at hnone
      cases hnone
  · intro h
    rw [chosenVehicleId_rest (by simp [h]), Option.map_eq_none_iff, List.find?_eq_none]
    intro u hu hfree
    rw [Bool.not_eq_true'] at hfree
    have hmem := mem_shownVehicles.mpr ⟨hu, hfree⟩
    rw [h] at hmem
    cases hmem

theorem chosenFrom_list {school : DrivingSchool} :
    ChosenFrom (vehicleListOf env db school schoolId (some window) (some course))
      ((chosenVehicleId env db schoolId course.courseTypeId school.defaultVehicleId window.start
        window.stop).elim (.error noVehicleConflict) .ok) := by
  have hids : (vehicleListOf env db school schoolId (some window) (some course)).ids =
      (shownVehicles env db schoolId (some window) (some course)).map Vehicle.id :=
    ids_vehicleListOf
  have holdest : (∀ d ∈ (vehicleListOf env db school schoolId (some window) (some course)).ids,
      school.defaultVehicleId ≠ some d) → ∀ u ∈ shownVehicles env db schoolId (some window)
        (some course), school.defaultVehicleId ≠ some u.id :=
    fun h u hu => h u.id (hids ▸ List.mem_map_of_mem hu)
  refine ⟨?_, ?_, ?_⟩
  · intro d hd hdefault
    rw [hids] at hd
    obtain ⟨u, hu, rfl⟩ := List.mem_map.mp hd
    rw [show school.defaultVehicleId = some u.id from hdefault, chosenVehicleId_default hu]
    rfl
  · intro hdefault hne
    obtain ⟨listed, hlisted⟩ := List.exists_mem_of_ne_nil _ hne
    obtain ⟨w, hw, -⟩ := List.mem_map.mp hlisted
    obtain ⟨v, hv, hchosen, hleast⟩ := chosenVehicleId_oldest hw (holdest hdefault)
    refine ⟨_, List.mem_map_of_mem hv, ?_, ?_⟩
    · rw [hchosen]
      rfl
    · intro listed hlisted
      obtain ⟨u, hu, rfl⟩ := List.mem_map.mp hlisted
      exact hleast u hu
  · have hshown : (vehicleListOf env db school schoolId (some window) (some course)).vehicles = [] ↔
        shownVehicles env db schoolId (some window) (some course) = [] := List.map_eq_nil_iff
    rw [hshown, ← chosenVehicleId_eq_none ]
    cases chosenVehicleId env db schoolId course.courseTypeId school.defaultVehicleId window.start
      window.stop <;> simp

end Choice

/-- The list of a course and window shows what can be booked, and the choice for a student is made
from it. -/
theorem vehicleSearches_agree {school : DrivingSchool} {course : Course} (window : ScheduleWindow)
    (hschool : getSchoolOwnedByUser db userId schoolId = some school)
    (hcourse : course ∈ db.courses.rows) (hof : course.schoolId = schoolId)
    (hlive : course.deletedAt = none)
    (hlink : (instructorLink db instructorId schoolId).isSome = true) :
    ∃ list db', listVehiclesBySchoolForUser env userId schoolId (some window) (some course.id) db =
        (.ok list, db') ∧
      (∀ id, id ∈ list.ids ↔ Prog.Succeeds (assertVehicleAvailableForBooking env instructorId id
        schoolId window.start window.stop course.courseTypeId) db) ∧
      ChosenFrom list (findAvailableVehicleIdForStudentBooking env instructorId schoolId
        window.start window.stop course.courseTypeId db).1 := by
  have hread : courseOfVehicleList db schoolId (some course.id) = .ok (some course) := by
    have hfind := Table.findFirst_of_mem (p := fun c : Course =>
      decide (c.id = course.id ∧ c.schoolId = schoolId ∧ c.deletedAt = none)) hcourse
      (by simp [hof, hlive]) fun _ hq => (of_decide_eq_true hq).1
    rw [courseOfVehicleList, hfind]
    rfl
  obtain ⟨p, hrun⟩ := listVehiclesBySchoolForUser_run env (some window) hschool hread
  refine ⟨_, _, hrun, fun id => ?_, ?_⟩
  · rw [assertVehicleAvailable_succeeds_iff hlink, ids_vehicleListOf]
    simp only [List.mem_map, mem_shownVehicles, mem_bookingCandidates]
    refine ⟨?_, ?_⟩
    · rintro ⟨u, ⟨⟨v, hv, huse, rfl⟩, hfree⟩, rfl⟩
      exact ⟨v, hv, (v.id_rowRefreshed env.now).symm, huse, hfree⟩
    · rintro ⟨v, hv, rfl, huse, hfree⟩
      have hid := v.id_rowRefreshed env.now
      exact ⟨_, ⟨⟨v, hv, huse, rfl⟩, hid.symm ▸ hfree⟩, hid⟩
  · rw [findAvailableVehicle_answer hschool hlink]
    exact chosenFrom_list

open SmallSchool in
/-- While the first vehicle is booked the second one is listed and chosen. -/
theorem vehicleSearches_agree_secondVehicle :
    ∃ list db', listVehiclesBySchoolForUser (envAt (clock 4 8 0)) 1 10
        (some ⟨clock 5 10 0, clock 5 11 0⟩) (some 50) withTuesdayEvent = (.ok list, db') ∧
      (∀ id, id ∈ list.ids ↔ Prog.Succeeds (assertVehicleAvailableForBooking (envAt (clock 4 8 0))
        20 id 10 (clock 5 10 0) (clock 5 11 0) 7) withTuesdayEvent) ∧
      ChosenFrom list (findAvailableVehicleIdForStudentBooking (envAt (clock 4 8 0)) 20 10
        (clock 5 10 0) (clock 5 11 0) 7 withTuesdayEvent).1 :=
  vehicleSearches_agree ⟨clock 5 10 0, clock 5 11 0⟩
    (rfl : getSchoolOwnedByUser withTuesdayEvent 1 10 = some { id := 10, ownerId := 1 })
    (List.mem_singleton_self SmallSchool.course) rfl rfl (by decide)

end OSK
