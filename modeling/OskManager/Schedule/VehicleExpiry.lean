import OskManager.Model.VehicleList
import OskManager.Sample.SmallSchool
import OskManager.Schedule.VehicleRefresh

/-! The end of a temporary unavailability. The rule of a booking compares it with the Polish date,
the refreshes of a school and of a row with the UTC date, so between the two midnights they
disagree about a vehicle whose last day is the UTC date. -/

namespace OSK

open Relational

variable {env : Env} {db : Db} {v : Vehicle} {instructorId : Uuid}

/-- The Polish date is the UTC date or the day after. -/
theorem polishToday_cases (env : Env) :
    polishTodayYyyymmdd env = dateToYYYYMMDD env.now ∨
      polishTodayYyyymmdd env = dateToYYYYMMDD env.now + 1 := by
  have hnext (n o : ℤ) (h0 : 0 ≤ o) (h1 : o < 86400000) :
      (n + o) / 86400000 = n / 86400000 ∨ (n + o) / 86400000 = n / 86400000 + 1 := by
    omega
  exact hnext _ _ (env.zone.offset_nonneg env.now) (env.zone.offset_lt_day env.now)

/-! ### What each rule decides -/

theorem activeVehicle_of_mem (hv : v ∈ db.vehicles.rows) (hactive : v.isActive = true) :
    activeVehicle db v.id = some v :=
  Table.findFirst_of_mem hv (by simp [hactive]) fun _ hq => (of_decide_eq_true hq).1

/-- What the rule of a booking asks of a vehicle; the repair of its row changes no answer. -/
theorem validateVehicle_succeeds_iff {vehicleId : Uuid} {b : Bool} :
    Prog.Succeeds (validateVehicleForInstructor env instructorId vehicleId b) db ↔
      ∃ v, activeVehicle db vehicleId = some v ∧
        (b = true → v.availabilityStatus = .active ∨ v.expiredTemporaryUnavailability env = true) ∧
        (instructorLink db instructorId v.schoolId).isSome = true := by
  have hlinks (c : Bool) (vehicleId schoolId : Uuid) :
      instructorLink (if c then db.makeVehicleAvailable vehicleId else db) instructorId schoolId =
        instructorLink db instructorId schoolId := by
    cases c <;> rfl
  simp only [validateVehicleForInstructor]
  rw [Prog.succeeds_query_bind]
  simp only [orThrow_eq_ok]
  refine exists_congr fun v => and_congr_right fun _ => ?_
  rw [Prog.succeeds_when_write_bind, Prog.succeeds_lift_bind]
  simp only [throwIf_eq_ok, Prog.succeeds_query, exists_const, hlinks, Bool.not_eq_true,
    Option.isNone_eq_false_iff, not_and, Bool.not_eq_false, or_iff_not_imp_left, ne_eq]

theorem shouldRefresh_eq_true {now : Instant} :
    shouldRefreshExpiredVehicleUnavailability now v = true ↔
      v.availabilityStatus = .unavailable ∧
        ∃ d, v.unavailableUntil = some d ∧ d < dateToYYYYMMDD now := by
  have hday (d : Day) : yyyymmddToDate d < getUtcDayStart now ↔ d < dateToYYYYMMDD now := by
    have hscale (a b : ℤ) : a * 86400000 < b * 86400000 ↔ a < b := by omega
    exact hscale _ _
  simp only [shouldRefreshExpiredVehicleUnavailability, Bool.and_eq_true, decide_eq_true_eq,
    Option.any_eq_true, hday]

theorem refreshDue_eq (hactive : v.isActive = true) :
    v.refreshDue env v.schoolId = shouldRefreshExpiredVehicleUnavailability env.now v := by
  rw [Bool.eq_iff_iff, shouldRefresh_eq_true]
  simp only [Vehicle.refreshDue, hactive, true_and, Bool.and_eq_true, decide_eq_true_eq,
    Option.any_eq_true]

theorem expired_eq_true : v.expiredTemporaryUnavailability env = true ↔
    v.availabilityStatus = .unavailable ∧
      ∃ d, v.unavailableUntil = some d ∧ d < polishTodayYyyymmdd env := by
  simp only [Vehicle.expiredTemporaryUnavailability, Bool.and_eq_true, decide_eq_true_eq,
    Option.any_eq_true]

/-- The refreshes leave a vehicle available exactly when it was or when they were due. -/
theorem ite_madeAvailable_active (c : Bool) :
    (if c then v.madeAvailable else v).availabilityStatus = .active ↔
      v.availabilityStatus = .active ∨ c = true := by
  cases c <;> simp [Vehicle.madeAvailable]

/-- The three rules agree on a vehicle: the one of a booking, the refresh of the school and the
refresh of the row. -/
structure ExpiresByOneRule (env : Env) (db : Db) (instructorId : Uuid) (v : Vehicle) : Prop where
  booking : Prog.Succeeds (validateVehicleForInstructor env instructorId v.id true) db ↔
    ∃ w, (refreshExpiredVehicleUnavailabilitiesForSchool env v.schoolId db).2.vehicles.findUnique
      v.id = some w ∧ w.availabilityStatus = .active
  row : (∃ w db', refreshExpiredVehicleUnavailability env.now v db = (.ok w, db') ∧
      w.availabilityStatus = .active) ↔
    ∃ w, (refreshExpiredVehicleUnavailabilitiesForSchool env v.schoolId db).2.vehicles.findUnique
      v.id = some w ∧ w.availabilityStatus = .active

theorem refreshed_school_active (hv : v ∈ db.vehicles.rows) (hactive : v.isActive = true) :
    (∃ w, (refreshExpiredVehicleUnavailabilitiesForSchool env v.schoolId db).2.vehicles.findUnique
        v.id = some w ∧ w.availabilityStatus = .active) ↔
      v.availabilityStatus = .active ∨
        shouldRefreshExpiredVehicleUnavailability env.now v = true := by
  simp only [refreshExpiredVehicleUnavailabilitiesForSchool, Prog.write, Db.refreshVehicles,
    Table.findUnique_updateMany, Table.findUnique_of_mem hv, Option.map_some, Option.some.injEq,
    exists_eq_left', refreshDue_eq hactive, ite_madeAvailable_active]

theorem refreshed_row_active :
    (∃ w db', refreshExpiredVehicleUnavailability env.now v db = (.ok w, db') ∧
        w.availabilityStatus = .active) ↔
      v.availabilityStatus = .active ∨
        shouldRefreshExpiredVehicleUnavailability env.now v = true := by
  rw [← ite_madeAvailable_active]
  simp only [refreshExpiredVehicleUnavailability]
  cases shouldRefreshExpiredVehicleUnavailability env.now v <;>
    simp [Prog.when, Prog.bind_run, Prog.pure_run, Prog.write]

/-- The rules agree except between the two midnights, on a vehicle unavailable until the UTC date
of the moment. -/
theorem expiresByOneRule_iff (hv : v ∈ db.vehicles.rows) (hactive : v.isActive = true)
    (hlink : (instructorLink db instructorId v.schoolId).isSome = true) :
    ExpiresByOneRule env db instructorId v ↔
      ¬(v.availabilityStatus = .unavailable ∧
        v.unavailableUntil = some (dateToYYYYMMDD env.now) ∧
          dateToYYYYMMDD env.now < polishTodayYyyymmdd env) := by
  have hbooking : Prog.Succeeds (validateVehicleForInstructor env instructorId v.id true) db ↔
      v.availabilityStatus = .active ∨ v.expiredTemporaryUnavailability env = true := by
    simp [validateVehicle_succeeds_iff, activeVehicle_of_mem hv hactive, hlink]
  have hsplit : ExpiresByOneRule env db instructorId v ↔
      ((v.availabilityStatus = .active ∨ v.expiredTemporaryUnavailability env = true) ↔
        (v.availabilityStatus = .active ∨
          shouldRefreshExpiredVehicleUnavailability env.now v = true)) := by
    rw [← hbooking, ← refreshed_school_active hv hactive]
    refine ⟨fun h => h.booking, fun h => ⟨h, ?_⟩⟩
    rw [refreshed_row_active, refreshed_school_active hv hactive]
  rw [hsplit, expired_eq_true, shouldRefresh_eq_true]
  rcases hstatus : v.availabilityStatus with _ | _
  · simp
  · simp only [reduceCtorEq, false_or, true_and]
    rcases huntil : v.unavailableUntil with _ | d
    · simp
    · simp only [Option.some.injEq, exists_eq_left']
      have hdates (d today utc : ℤ) (h : today = utc ∨ today = utc + 1) :
          (d < today ↔ d < utc) ↔ ¬(d = utc ∧ utc < today) := by omega
      exact hdates _ _ _ (polishToday_cases env)

namespace UnavailableVehicle

open SmallSchool

def vehicle (day : Day) : Vehicle :=
  { id := 40, schoolId := 10, supportedCourseTypes := [7], availabilityStatus := .unavailable,
    unavailableUntil := some day }

def start (day : Day) : Db := { SmallSchool.db with vehicles := .singleton (vehicle day) }

end UnavailableVehicle

open UnavailableVehicle SmallSchool in
/-- Half an hour after the Polish midnight the last day has ended for a booking only. -/
theorem not_expiresByOneRule : ¬∀ (env : Env) (db : Db) (instructorId : Uuid) (v : Vehicle),
    v ∈ db.vehicles.rows → v.isActive = true →
      (instructorLink db instructorId v.schoolId).isSome = true →
        ExpiresByOneRule env db instructorId v := by
  intro h
  have hone := h (envAt (clock 5 0 30)) (start 4) 20 (vehicle 4) (List.mem_singleton_self _) rfl
    (by decide)
  have hbooked : Prog.Succeeds (validateVehicleForInstructor (envAt (clock 5 0 30)) 20 40 true)
      (start 4) := by decide +kernel
  obtain ⟨w, hw, hactive⟩ := hone.booking.mp hbooked
  have hrow : (refreshExpiredVehicleUnavailabilitiesForSchool (envAt (clock 5 0 30)) 10
      (start 4)).2.vehicles.findUnique 40 = some (vehicle 4) := rfl
  cases hw.symm.trans hrow
  cases hactive

open UnavailableVehicle SmallSchool in
/-- An hour and a half after the Polish midnight it has ended for all of them. -/
theorem expiresByOneRule_later :
    ExpiresByOneRule (envAt (clock 5 1 30)) (start 4) 20 (vehicle 4) :=
  (expiresByOneRule_iff (List.mem_singleton_self _) rfl (by decide)).mpr (by decide +kernel)

end OSK
