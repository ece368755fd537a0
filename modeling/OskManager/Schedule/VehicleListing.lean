import OskManager.Model.VehicleList
import OskManager.Schedule.VehicleExpiry
import OskManager.Schedule.VehicleWrites

/-! What the list of vehicles shows, and whether the reason it announces against a deletion is the
one the deletion gives. With a course the list counts the vehicles of one category only, the
deletion counts all that are active. -/

namespace OSK

open Relational

variable {env : Env} {db db' : Db} {userId schoolId : Uuid}

/-! ### The list in closed form -/

def Vehicle.rowRefreshed (now : Instant) (v : Vehicle) : Vehicle :=
  if shouldRefreshExpiredVehicleUnavailability now v then v.madeAvailable else v

@[simp] theorem Vehicle.id_rowRefreshed (now : Instant) (v : Vehicle) :
    (v.rowRefreshed now).id = v.id := by
  unfold Vehicle.rowRefreshed
  split <;> rfl

/-- Refreshing row by row writes refreshes only. -/
theorem refreshExpiredVehicleUnavailabilities_run (now : Instant) (l : List Vehicle) (db : Db) :
    ∃ p, refreshExpiredVehicleUnavailabilities now l db =
      (.ok (l.map (Vehicle.rowRefreshed now)), db.refreshed p) := by
  induction l generalizing db with
  | nil =>
    obtain ⟨p, hp⟩ := Refreshed.refl db
    exact ⟨p, Prod.ext rfl hp⟩
  | cons v rest ih =>
    obtain ⟨db1, hrow, hdb1⟩ : ∃ db1, refreshExpiredVehicleUnavailability now v db =
        (.ok (v.rowRefreshed now), db1) ∧ Refreshed db db1 := by
      simp only [refreshExpiredVehicleUnavailability, Vehicle.rowRefreshed]
      cases shouldRefreshExpiredVehicleUnavailability now v
      · exact ⟨db, rfl, Refreshed.refl db⟩
      · exact ⟨_, rfl, refreshed_makeVehicleAvailable db v.id⟩
    obtain ⟨q, hrest⟩ := ih db1
    obtain ⟨p, hp⟩ := hdb1.trans ⟨q, rfl⟩
    refine ⟨p, ?_⟩
    rw [← hp]
    simp only [refreshExpiredVehicleUnavailabilities, Prog.bind_run, hrow, hrest, List.map_cons]
    rfl

/-- The vehicles the list looks at. -/
def refreshedVehicles (env : Env) (db : Db) (schoolId : Uuid) (course : Option Course) :
    List Vehicle :=
  (activeVehiclesOfSchool db schoolId course).map (Vehicle.rowRefreshed env.now)

/-- The vehicles the list shows. -/
def shownVehicles (env : Env) (db : Db) (schoolId : Uuid) (timeRange : Option ScheduleWindow)
    (course : Option Course) : List Vehicle :=
  vehiclesFreeDuring db timeRange ((refreshedVehicles env db schoolId course).filter fun v =>
    course.isNone || decide (v.availabilityStatus = .active))

def vehicleListOf (env : Env) (db : Db) (school : DrivingSchool) (schoolId : Uuid)
    (timeRange : Option ScheduleWindow) (course : Option Course) : VehicleList :=
  let refreshed := refreshedVehicles env db schoolId course
  let upcoming := getVehiclesWithUpcomingLessons db (refreshed.map Vehicle.id) env.now
  { vehicles := (shownVehicles env db schoolId timeRange course).map
      (listedVehicle db school.defaultVehicleId refreshed upcoming)
    defaultVehicleId := school.defaultVehicleId }

theorem listVehiclesBySchoolForUser_run (env : Env) (timeRange : Option ScheduleWindow)
    {courseId : Option Uuid} {school : DrivingSchool} {course : Option Course}
    (hschool : getSchoolOwnedByUser db userId schoolId = some school)
    (hcourse : courseOfVehicleList db schoolId courseId = .ok course) :
    ∃ p, listVehiclesBySchoolForUser env userId schoolId timeRange courseId db =
      (.ok (vehicleListOf env db school schoolId timeRange course), db.refreshed p) := by
  obtain ⟨p, hp⟩ := refreshExpiredVehicleUnavailabilities_run env.now
    (activeVehiclesOfSchool db schoolId course) db
  refine ⟨p, ?_⟩
  simp only [listVehiclesBySchoolForUser, Prog.query_bind_run, hschool, orThrow, Option.elim_some,
    hcourse]
  rw [Prog.bind_run, hp]
  rfl

theorem listVehiclesBySchoolForUser_ok {timeRange : Option ScheduleWindow}
    {courseId : Option Uuid} {result : VehicleList}
    (h : listVehiclesBySchoolForUser env userId schoolId timeRange courseId db =
      (.ok result, db')) :
    ∃ school course, getSchoolOwnedByUser db userId schoolId = some school ∧
      courseOfVehicleList db schoolId courseId = .ok course ∧
      result = vehicleListOf env db school schoolId timeRange course := by
  have hread := h
  simp only [listVehiclesBySchoolForUser, Prog.query_bind_eq_ok, orThrow_eq_ok] at hread
  obtain ⟨school, hschool, course, hcourse, -⟩ := hread
  obtain ⟨p, hp⟩ := listVehiclesBySchoolForUser_run env timeRange hschool hcourse
  rw [h, Prod.mk.injEq, Except.ok.injEq] at hp
  exact ⟨school, course, hschool, hcourse, hp.1⟩

/-! ### Which vehicles are shown -/

theorem mem_activeVehiclesOfSchool {course : Option Course} {v : Vehicle} :
    v ∈ activeVehiclesOfSchool db schoolId course ↔ v ∈ db.vehicles.rows ∧
      v.schoolId = schoolId ∧ v.isActive = true ∧
        ∀ c, course = some c → c.courseTypeId ∈ v.supportedCourseTypes := by
  rw [activeVehiclesOfSchool, (List.perm_insertionSort _ _).mem_iff, Table.mem_findMany]
  cases course <;> simp [and_assoc]

theorem mem_busyVehicleIds {ids : List Uuid} {window : ScheduleWindow} {id : Uuid} :
    id ∈ busyVehicleIds db ids window ↔
      id ∈ ids ∧ vehicleHasBookingConflict db id window.start window.stop = true := by
  simp only [busyVehicleIds, vehicleHasBookingConflict, List.mem_append, List.mem_filterMap,
    Table.mem_findMany, Bool.and_eq_true, Bool.or_eq_true, decide_eq_true_eq, Option.any_eq_true,
    Table.findFirst_isSome]
  refine ⟨?_, ?_⟩
  · rintro (⟨l, ⟨hl, ⟨w, hw, hlisted⟩, hbusy⟩, hid⟩ |
      ⟨e, ⟨he, ⟨⟨w, hw, hlisted⟩, hdrive⟩, hbusy⟩, hid⟩)
    · cases hw.symm.trans hid
      exact ⟨hlisted, Or.inl ⟨l, hl, hid, hbusy⟩⟩
    · cases hw.symm.trans hid
      exact ⟨hlisted, Or.inr ⟨e, he, ⟨hid, hdrive⟩, hbusy⟩⟩
  · rintro ⟨hlisted, ⟨l, hl, hid, hbusy⟩ | ⟨e, he, ⟨hid, hdrive⟩, hbusy⟩⟩
    · exact Or.inl ⟨l, ⟨hl, ⟨id, hid, hlisted⟩, hbusy⟩, hid⟩
    · exact Or.inr ⟨e, ⟨he, ⟨⟨id, hid, hlisted⟩, hdrive⟩, hbusy⟩, hid⟩

theorem mem_vehiclesFreeDuring {timeRange : Option ScheduleWindow} {l : List Vehicle}
    {v : Vehicle} : v ∈ vehiclesFreeDuring db timeRange l ↔ v ∈ l ∧ ∀ window,
      timeRange = some window →
        vehicleHasBookingConflict db v.id window.start window.stop = false := by
  cases timeRange with
  | none => simp [vehiclesFreeDuring]
  | some window =>
    simp only [vehiclesFreeDuring, List.mem_filter, decide_eq_true_eq, mem_busyVehicleIds,
      Option.some.injEq, forall_eq', not_and, Bool.not_eq_true]
    refine and_congr_right fun hv => ?_
    exact ⟨fun h => h (List.mem_map_of_mem hv), fun h _ => h⟩

theorem shown_active {timeRange : Option ScheduleWindow} {course : Option Course} {v : Vehicle}
    (hv : v ∈ shownVehicles env db schoolId timeRange course) :
    ∃ w ∈ activeVehiclesOfSchool db schoolId course, v = w.rowRefreshed env.now := by
  obtain ⟨hv, -⟩ := mem_vehiclesFreeDuring.mp hv
  obtain ⟨w, hw, rfl⟩ := List.mem_map.mp (List.mem_filter.mp hv).1
  exact ⟨w, hw, rfl⟩

/-! ### What a deletion answers -/

/-- Another active vehicle of the school. -/
def OtherActive (db : Db) (v : Vehicle) : Prop :=
  ∃ w ∈ db.vehicles.rows, w.schoolId = v.schoolId ∧ w.isActive = true ∧ w.id ≠ v.id

instance (v : Vehicle) : Decidable (OtherActive db v) :=
  inferInstanceAs (Decidable (∃ w ∈ _, _))

def defaultVehicleConflict : Failure :=
  .conflict "Nie można usunąć domyślnego pojazdu. Najpierw wybierz inny pojazd domyślny."

def upcomingLessonsConflict : Failure :=
  .conflict "Nie można usunąć pojazdu z trwającymi lub zaplanowanymi lekcjami."

theorem otherActive_iff {v : Vehicle} : (db.vehicles.count fun w =>
    decide (w.schoolId = v.schoolId ∧ w.isActive = true ∧ w.id ≠ (UuidText.ofUuid v.id).uuid)) > 0 ↔
      OtherActive db v := by
  simp only [Table.count, gt_iff_lt, List.length_pos_iff_exists_mem, Table.mem_findMany,
    decide_eq_true_eq]
  rfl

theorem assertVehicleCanBeDeleted_eq {school : DrivingSchool} {v : Vehicle} :
    assertVehicleCanBeDeleted env db (.ofUuid v.id) v.schoolId school =
      if school.defaultVehicleId = some v.id ∧ OtherActive db v then .error defaultVehicleConflict
      else if v.id ∈ getVehiclesWithUpcomingLessons db [v.id] env.now then
        .error upcomingLessonsConflict
      else .ok () := by
  simp only [assertVehicleCanBeDeleted, onlyIf, throwIf, UuidText.map_ofUuid_eq_some,
    UuidText.ofUuid_mem_map, otherActive_iff]
  by_cases hdefault : school.defaultVehicleId = some v.id
  · by_cases hother : OtherActive db v
    · simp only [hdefault, hother, if_true, and_self]
      rfl
    · simp only [hdefault, hother, if_true, if_false, and_false]
      rfl
  · simp only [hdefault, if_false, false_and]
    rfl

theorem deleteVehicleForUser_answer (env : Env) {school : DrivingSchool} {v : Vehicle}
    (hv : v ∈ db.vehicles.rows) (hactive : v.isActive = true)
    (hschool : getSchoolOwnedByUser db userId v.schoolId = some school) :
    (deleteVehicleForUser env userId (.ofUuid v.id) db).1 =
      if school.defaultVehicleId = some v.id ∧ OtherActive db v then .error defaultVehicleConflict
      else if v.id ∈ getVehiclesWithUpcomingLessons db [v.id] env.now then
        .error upcomingLessonsConflict
      else .ok (.ofUuid v.id) := by
  have hanswer : (deleteVehicleForUser env userId (.ofUuid v.id) db).1 =
      (assertVehicleCanBeDeleted env db (.ofUuid v.id) v.schoolId school).map
        fun _ => .ofUuid v.id := by
    simp only [deleteVehicleForUser, Prog.transaction, Prog.query_bind_run, orThrow,
      UuidText.uuid_ofUuid, Table.findUnique_of_mem hv, Option.elim_some, hschool, hactive,
      Prog.when, if_true, deleteActiveVehicle, UuidText.map_ofUuid_eq_some]
    cases hassert : assertVehicleCanBeDeleted env db (.ofUuid v.id) v.schoolId school with
    | error e => simp [Prog.bind_run, Prog.query, hassert, Except.map]
    | ok u =>
      by_cases hdefault : school.defaultVehicleId = some v.id <;>
        simp [Prog.bind_run, Prog.query, Prog.write, Prog.pure_run, hassert, hdefault, Except.map]
  rw [hanswer, assertVehicleCanBeDeleted_eq]
  split
  · rfl
  · split <;> rfl

/-! ### The announced reason -/

/-- The reason shown with the vehicle is the answer of a deletion of it. -/
structure ReasonAgrees (env : Env) (db : Db) (userId : Uuid) (listed : ListedVehicle) : Prop where
  allowed : listed.deletionBlockReason = none ↔
    Prog.Succeeds (deleteVehicleForUser env userId (.ofUuid listed.vehicle.rest.id)) db
  default : listed.deletionBlockReason = some .default ↔
    (deleteVehicleForUser env userId (.ofUuid listed.vehicle.rest.id) db).1 =
      .error defaultVehicleConflict
  lessons : listed.deletionBlockReason = some .scheduledLessons ↔
    (deleteVehicleForUser env userId (.ofUuid listed.vehicle.rest.id) db).1 =
      .error upcomingLessonsConflict

theorem ReasonAgrees.iff_of_id {listed : ListedVehicle} {id : Uuid}
    (hid : listed.vehicle.rest.id = id) : ReasonAgrees env db userId listed ↔
      (listed.deletionBlockReason = none ↔
        Prog.Succeeds (deleteVehicleForUser env userId (.ofUuid id)) db) ∧
      (listed.deletionBlockReason = some .default ↔
        (deleteVehicleForUser env userId (.ofUuid id) db).1 = .error defaultVehicleConflict) ∧
      (listed.deletionBlockReason = some .scheduledLessons ↔
        (deleteVehicleForUser env userId (.ofUuid id) db).1 = .error upcomingLessonsConflict) := by
  subst hid
  exact ⟨fun h => ⟨h.allowed, h.default, h.lessons⟩, fun ⟨ha, hd, hl⟩ => ⟨ha, hd, hl⟩⟩

/-- When the vehicle is the default of its school and other vehicles are active, one of them has
the category of the course that the list is restricted to. -/
def CountedByCategory (db : Db) (schoolId : Uuid) (courseId : Option Uuid) (vehicleId : Uuid) :
    Prop :=
  ∀ school c course, db.drivingSchools.findUnique schoolId = some school →
    school.defaultVehicleId = some vehicleId → courseId = some c →
      db.courses.findUnique c = some course →
        (∃ w ∈ db.vehicles.rows, w.schoolId = schoolId ∧ w.isActive = true ∧ w.id ≠ vehicleId) →
          ∃ w ∈ db.vehicles.rows, w.schoolId = schoolId ∧ w.isActive = true ∧ w.id ≠ vehicleId ∧
            course.courseTypeId ∈ w.supportedCourseTypes

/-- Another member makes the list longer than one. -/
theorem length_gt_one_iff {l : List Vehicle} (hnodup : (l.map Vehicle.id).Nodup) {v : Vehicle}
    (hv : v ∈ l) : l.length > 1 ↔ ∃ w ∈ l, w.id ≠ v.id := by
  match l with
  | [] => cases hv
  | [a] =>
    obtain rfl := List.mem_singleton.mp hv
    simp
  | a :: b :: rest =>
    refine iff_of_true (by simp) ?_
    have hab : a.id ≠ b.id := fun h => (List.nodup_cons.mp hnodup).1 (h ▸ List.mem_cons_self)
    by_cases ha : a.id = v.id
    · exact ⟨b, by simp, fun hb => hab (ha.trans hb.symm)⟩
    · exact ⟨a, List.mem_cons_self, ha⟩

theorem nodup_refreshedVehicles (course : Option Course) :
    ((refreshedVehicles env db schoolId course).map Vehicle.id).Nodup := by
  have hids : (refreshedVehicles env db schoolId course).map Vehicle.id =
      (activeVehiclesOfSchool db schoolId course).map Vehicle.id := by
    simp [refreshedVehicles]
  rw [hids, activeVehiclesOfSchool, ((List.perm_insertionSort _ _).map _).nodup_iff]
  exact db.vehicles.nodup.sublist (List.filter_sublist.map _)

/-- The list counts another vehicle when one is active and has the category. -/
theorem refreshed_gt_one_iff {course : Option Course} {w : Vehicle}
    (hw : w ∈ activeVehiclesOfSchool db schoolId course) :
    (refreshedVehicles env db schoolId course).length > 1 ↔
      ∃ u ∈ db.vehicles.rows, u.schoolId = schoolId ∧ u.isActive = true ∧ u.id ≠ w.id ∧
        ∀ c, course = some c → c.courseTypeId ∈ u.supportedCourseTypes := by
  rw [length_gt_one_iff (nodup_refreshedVehicles course) (List.mem_map_of_mem hw)]
  simp only [refreshedVehicles, List.mem_map, exists_exists_and_eq_and, Vehicle.id_rowRefreshed,
    mem_activeVehiclesOfSchool]
  refine exists_congr fun u => ?_
  tauto

theorem countedByCategory_iff {courseId : Option Uuid} {school : DrivingSchool}
    {course : Option Course} {w : Vehicle}
    (hschool : getSchoolOwnedByUser db userId schoolId = some school)
    (hcourse : courseOfVehicleList db schoolId courseId = .ok course)
    (hw : w ∈ activeVehiclesOfSchool db schoolId course) :
    CountedByCategory db schoolId courseId w.id ↔
      (school.defaultVehicleId = some w.id → OtherActive db w →
        (refreshedVehicles env db schoolId course).length > 1) := by
  obtain ⟨-, hws, -, -⟩ := mem_activeVehiclesOfSchool.mp hw
  have hfound : db.drivingSchools.findUnique schoolId = some school :=
    (Option.filter_eq_some_iff.mp hschool).1
  rw [refreshed_gt_one_iff hw]
  cases courseId with
  | none =>
    cases hcourse
    refine iff_of_true (fun _ _ _ _ _ hc => by cases hc) fun _ hother => ?_
    obtain ⟨u, hu, hus, huactive, hne⟩ := hother
    exact ⟨u, hu, hus.trans hws, huactive, hne, fun _ hc => by cases hc⟩
  | some c =>
    simp only [courseOfVehicleList, except_bind_eq_ok, orThrow_eq_ok] at hcourse
    obtain ⟨course', hfind, hsome⟩ := hcourse
    cases hsome
    obtain ⟨hmem, hwhere⟩ := Table.mem_of_findFirst hfind
    obtain ⟨rfl, -⟩ := of_decide_eq_true hwhere
    simp only [Option.some.injEq, forall_eq']
    refine ⟨?_, ?_⟩
    · intro h hdefault hother
      simp only [OtherActive, hws] at hother
      exact h school _ course' hfound hdefault rfl (Table.findUnique_of_mem hmem) hother
    · intro h school' c course'' hschool' hdefault hc hcourse' hother
      obtain rfl := Option.some_inj.mp (hfound.symm.trans hschool')
      obtain rfl := Option.some_inj.mp hc
      obtain rfl := Option.some_inj.mp ((Table.findUnique_of_mem hmem).symm.trans hcourse')
      refine h hdefault ?_
      simpa only [OtherActive, hws] using hother

/-- Two chains of the same conditions agree unless the first one misses. -/
theorem reasons_agree_iff {d more other upcoming : Prop} [Decidable (d ∧ more)]
    [Decidable (d ∧ other)] [Decidable upcoming] (hmore : more → other) {id : UuidText}
    {reason : Option VehicleDeletionBlockReason} {answer : Except Failure UuidText}
    (hreason : reason = if d ∧ more then some .default
      else if upcoming then some .scheduledLessons else none)
    (hanswer : answer = if d ∧ other then .error defaultVehicleConflict
      else if upcoming then .error upcomingLessonsConflict else .ok id) :
    ((reason = none ↔ answer.isOk = true) ∧
      (reason = some .default ↔ answer = .error defaultVehicleConflict) ∧
      (reason = some .scheduledLessons ↔ answer = .error upcomingLessonsConflict)) ↔
        (d → other → more) := by
  have hne : defaultVehicleConflict ≠ upcomingLessonsConflict := by decide
  subst hreason hanswer
  by_cases hd : d
  · by_cases hm : more
    · simp [hd, hm, hmore hm, hne, Except.isOk, Except.toBool]
    · by_cases ho : other
      · by_cases hu : upcoming <;> simp [hd, hm, ho, hu, Except.isOk, Except.toBool]
      · by_cases hu : upcoming <;> simp [hd, hm, ho, hu, hne.symm, Except.isOk, Except.toBool]
  · by_cases hu : upcoming <;> simp [hd, hu, hne.symm, Except.isOk, Except.toBool]

/-- The announced reason is the real one unless the category hides the other vehicles. -/
theorem reasonAgrees_iff {timeRange : Option ScheduleWindow} {courseId : Option Uuid}
    {result : VehicleList} {listed : ListedVehicle}
    (h : listVehiclesBySchoolForUser env userId schoolId timeRange courseId db = (.ok result, db'))
    (hl : listed ∈ result.vehicles) :
    ReasonAgrees env db userId listed ↔
      CountedByCategory db schoolId courseId listed.vehicle.rest.id := by
  obtain ⟨school, course, hschool, hcourse, rfl⟩ := listVehiclesBySchoolForUser_ok h
  obtain ⟨v, hv, rfl⟩ := List.mem_map.mp hl
  obtain ⟨w, hw, rfl⟩ := shown_active hv
  obtain ⟨hrow, rfl, hactive, -⟩ := mem_activeVehiclesOfSchool.mp hw
  have hanswer := deleteVehicleForUser_answer env hrow hactive hschool
  have hupcoming : w.id ∈ getVehiclesWithUpcomingLessons db
      ((refreshedVehicles env db w.schoolId course).map Vehicle.id) env.now ↔
        w.id ∈ getVehiclesWithUpcomingLessons db [w.id] env.now := by
    have hmem : w.id ∈ (refreshedVehicles env db w.schoolId course).map Vehicle.id :=
      List.mem_map.mpr ⟨_, List.mem_map_of_mem hw, Vehicle.id_rowRefreshed _ _⟩
    simp only [mem_getVehiclesWithUpcomingLessons, hmem, List.mem_singleton]
  have hother : (refreshedVehicles env db w.schoolId course).length > 1 → OtherActive db w := by
    rw [refreshed_gt_one_iff hw]
    rintro ⟨u, hu, hus, huactive, hne, -⟩
    exact ⟨u, hu, hus, huactive, hne⟩
  have hreason : (listedVehicle db school.defaultVehicleId
      (refreshedVehicles env db w.schoolId course) (getVehiclesWithUpcomingLessons db
        ((refreshedVehicles env db w.schoolId course).map Vehicle.id) env.now)
      (w.rowRefreshed env.now)).deletionBlockReason =
        if school.defaultVehicleId = some w.id ∧
            (refreshedVehicles env db w.schoolId course).length > 1 then some .default
        else if w.id ∈ getVehiclesWithUpcomingLessons db [w.id] env.now then
          some .scheduledLessons else none := by
    simp only [listedVehicle, Vehicle.id_rowRefreshed, decide_eq_true_eq, hupcoming]
  have hid : (listedVehicle db school.defaultVehicleId
      (refreshedVehicles env db w.schoolId course) (getVehiclesWithUpcomingLessons db
        ((refreshedVehicles env db w.schoolId course).map Vehicle.id) env.now)
      (w.rowRefreshed env.now)).vehicle.rest.id = w.id := Vehicle.id_rowRefreshed _ _
  rw [ReasonAgrees.iff_of_id hid, hid, countedByCategory_iff hschool hcourse hw,
    ← reasons_agree_iff hother hreason hanswer, ← Prog.succeeds_iff_isOk]

namespace OtherCategory

open SmallSchool

/-- The default vehicle and another one of a different category. -/
def start : Db :=
  { SmallSchool.db with
    drivingSchools := .singleton { id := 10, ownerId := 1, defaultVehicleId := some 40 }
    vehicles := ⟨[{ id := 40, schoolId := 10, supportedCourseTypes := [7] },
      { id := 41, schoolId := 10, supportedCourseTypes := [8] }], by decide⟩ }

def listing (courseId : Option Uuid) : VehicleList :=
  vehicleListOf (envAt (clock 4 8 0)) start { id := 10, ownerId := 1, defaultVehicleId := some 40 } 10
    none (courseId.bind start.courses.findUnique)

theorem listing_run (courseId : Option Uuid)
    (h : courseOfVehicleList start 10 courseId = .ok (courseId.bind start.courses.findUnique)) :
    ∃ p, listVehiclesBySchoolForUser (envAt (clock 4 8 0)) 1 10 none courseId start =
      (.ok (listing courseId), start.refreshed p) :=
  listVehiclesBySchoolForUser_run _ _ rfl h

/-- What is shown of the default vehicle. -/
def defaultListed (reason : Option VehicleDeletionBlockReason) : ListedVehicle :=
  { vehicle := vehicleToResponse start { id := 40, schoolId := 10, supportedCourseTypes := [7] }
    isDefault := true
    deletionBlockReason := reason }

end OtherCategory

open OtherCategory SmallSchool in
/-- With a course the default vehicle looks like the only one; its deletion is refused. -/
theorem not_reasonAgrees : ¬∀ (env : Env) (db db' : Db) (userId schoolId : Uuid)
    (timeRange : Option ScheduleWindow) (courseId : Option Uuid) (result : VehicleList)
    (listed : ListedVehicle),
    listVehiclesBySchoolForUser env userId schoolId timeRange courseId db = (.ok result, db') →
      listed ∈ result.vehicles → ReasonAgrees env db userId listed := by
  intro h
  obtain ⟨p, hrun⟩ := listing_run (some 50) rfl
  have hmem : defaultListed none ∈ (listing (some 50)).vehicles := by
    exact List.mem_singleton_self _
  have hallowed := (h _ _ _ _ _ _ _ _ _ hrun hmem).allowed.mp rfl
  revert hallowed
  decide +kernel

open OtherCategory SmallSchool in
theorem reasonAgrees_allVehicles :
    ReasonAgrees (envAt (clock 4 8 0)) start 1 (defaultListed (some .default)) := by
  obtain ⟨p, hrun⟩ := listing_run none rfl
  have hmem : defaultListed (some .default) ∈ (listing none).vehicles := List.mem_cons_self
  exact (reasonAgrees_iff hrun hmem).mpr fun _ _ _ _ _ hc => by cases hc

end OSK
