import OskManager.Schedule.BookedMinutes
import OskManager.Schedule.VehicleSearches

/-! The map from vehicles to their free windows of a day. A vehicle is in the map when it can be
offered and a slot of the matrix is left to it, and its windows are the minutes it is not booked
in. -/

namespace OSK

open Relational

/-- The row is of an active vehicle of the school and of the category, if one is asked for, that is
available, now or by the refresh. -/
structure Offerable (now : Instant) (input : VehicleWindowsInput) (v : Vehicle) : Prop where
  school : v.schoolId = input.schoolId
  active : v.isActive = true
  category : ∀ c, input.courseTypeId = some c → c ∈ v.supportedCourseTypes
  available : (v.rowRefreshed now).availabilityStatus = .active

inductive BooksVehicle (db : Db) (excludeLessonId excludeEventId : Option Uuid) (v : Uuid) :
    Instant → Instant → Prop where
  | lesson {l : Lesson} (mem : l ∈ db.lessons.rows) (vehicle : l.vehicleId = some v)
      (status : l.status ≠ .cancelled) (kept : excludeLessonId ≠ some l.id) :
      BooksVehicle db excludeLessonId excludeEventId v l.startTime l.endTime
  | drive {e : InstructorEvent} (mem : e ∈ db.instructorEvents.rows)
      (vehicle : e.vehicleId = some v) (type : e.type = .drive) (active : e.isActive = true)
      (status : e.status ≠ .cancelled) (kept : excludeEventId ≠ some e.id) :
      BooksVehicle db excludeLessonId excludeEventId v e.startTime e.endTime

def MinuteBooked (zone : PolishZone) (db : Db) (excludeLessonId excludeEventId : Option Uuid)
    (day : ScheduleWindow) (v : Uuid) (m : ℤ) : Prop :=
  ∃ start stop, BooksVehicle db excludeLessonId excludeEventId v start stop ∧
    CoversMinute zone day start stop m

/-- A start of the grid and a length of the policy that fit one instructor window and meet no
booking of the vehicle. -/
def HasFreeSlot (zone : PolishZone) (db : Db) (input : VehicleWindowsInput) (day : ScheduleWindow)
    (v : Uuid) : Prop :=
  ∃ a length, input.startStepMinutes ∣ a ∧
    (∃ k : ℕ, length = input.policy.minDurationMinutes + k * availabilityOptionStepMinutes) ∧
    length ≤ input.policy.maxDurationMinutes ∧ Fits a (a + length) input.instructorWindows ∧
    ∀ m, a ≤ m → m < a + length →
      ¬MinuteBooked zone db input.excludeLessonId input.excludeEventId day v m

/-- The map has the vehicles that can be offered a slot, with the minutes they are free in. -/
structure ExactWindows (env : Env) (db : Db) (input : VehicleWindowsInput) (day : ScheduleWindow)
    (map : List (Uuid × List TimeWindow)) : Prop where
  nodup : (map.map Prod.fst).Nodup
  mapped : ∀ v, v ∈ map.map Prod.fst ↔
    (∃ row ∈ db.vehicles.rows, row.id = v ∧ Offerable env.now input row) ∧
      HasFreeSlot env.zone db input day v
  windows : ∀ entry ∈ map, ∀ m, Fits m (m + 1) entry.2 ↔
    Fits m (m + 1) input.instructorWindows ∧
      ¬MinuteBooked env.zone db input.excludeLessonId input.excludeEventId day entry.1 m

section

variable {env : Env} {db : Db} {input : VehicleWindowsInput} {day : ScheduleWindow} {v : Uuid}

/-! ### The vehicles -/

theorem mem_offeredVehicleIds :
    v ∈ offeredVehicleIds (db.refreshVehicles env input.schoolId) input ↔
      ∃ row ∈ db.vehicles.rows, row.id = v ∧ Offerable env.now input row := by
  simp only [offeredVehicleIds, List.mem_map, Table.mem_findMany, Bool.and_eq_true,
    decide_eq_true_eq, Option.all_eq_true]
  refine ⟨?_, ?_⟩
  · rintro ⟨u, ⟨hu, ⟨hs, ha, hav⟩, hc⟩, rfl⟩
    obtain ⟨row, hrow, hschool, hactive, rfl⟩ := mem_refreshVehicles.mp ⟨hu, hs, ha⟩
    rw [(row.rowRefreshed_fields env.now).2.2.1] at hc
    exact ⟨row, hrow, (row.id_rowRefreshed env.now).symm, hschool, hactive, hc, hav⟩
  · rintro ⟨row, hrow, rfl, ho⟩
    obtain ⟨hu, hs, ha⟩ := mem_refreshVehicles.mpr ⟨row, hrow, ho.school, ho.active, rfl⟩
    refine ⟨_, ⟨hu, ⟨hs, ha, ho.available⟩, ?_⟩, row.id_rowRefreshed env.now⟩
    rw [(row.rowRefreshed_fields env.now).2.2.1]
    exact ho.category

theorem nodup_offeredVehicleIds (db : Db) (input : VehicleWindowsInput) :
    (offeredVehicleIds db input).Nodup :=
  db.vehicles.nodup.sublist (List.filter_sublist.map Vehicle.id)

/-! ### Their bookings -/

theorem mem_vehicleUsedWindows {zone : PolishZone} {block : TimeWindow} :
    block ∈ vehicleUsedWindows zone db input day v ↔
      ∃ start stop, BooksVehicle db input.excludeLessonId input.excludeEventId v start stop ∧
        (start < day.stop ∧ day.start < stop) ∧ timeWindowFromDates zone start stop day = block := by
  simp only [vehicleUsedWindows, List.mem_append, List.mem_map, Table.mem_findMany,
    Bool.and_eq_true, decide_eq_true_eq, Lesson.busyDuring_eq_true,
    InstructorEvent.busyDuring_eq_true]
  refine ⟨?_, ?_⟩
  · rintro (⟨l, ⟨hl, hv, hs, hcross, hx⟩, rfl⟩ | ⟨e, ⟨he, ⟨hv, ht⟩, ⟨ha, hs⟩, hcross, hx⟩, rfl⟩)
    · exact ⟨_, _, .lesson hl hv hs hx, hcross, rfl⟩
    · exact ⟨_, _, .drive he hv ht ha hs hx, hcross, rfl⟩
  · rintro ⟨start, stop, hbooks, hcross, rfl⟩
    cases hbooks with
    | lesson hl hv hs hx => exact Or.inl ⟨_, ⟨hl, hv, hs, hcross, hx⟩, rfl⟩
    | drive he hv ht ha hs hx => exact Or.inr ⟨_, ⟨he, ⟨hv, ht⟩, ⟨ha, hs⟩, hcross, hx⟩, rfl⟩

theorem BooksVehicle.wholeMinutes {zone : PolishZone} {start stop : Instant}
    {exclLesson exclEvent : Option Uuid} (hwhole : WholeMinuteBookings zone db)
    (h : BooksVehicle db exclLesson exclEvent v start stop) : WholeMinutes zone start stop := by
  cases h with
  | lesson hl => exact hwhole.lessons _ hl
  | drive he => exact hwhole.events _ he

/-- A slot avoids the blocks of a vehicle when the vehicle is booked in none of its minutes. -/
theorem avoids_used_iff {zone : PolishZone} {date : Day} {a b : ℤ} (hsteady : zone.SteadyOn date)
    (hday : polishDayBounds zone date = .ok day) (hwhole : WholeMinuteBookings zone db)
    (hab : a < b) : (∀ block ∈ vehicleUsedWindows zone db input day v, block.Avoids a b) ↔
      ∀ m, a ≤ m → m < b →
        ¬MinuteBooked zone db input.excludeLessonId input.excludeEventId day v m := by
  simp only [mem_vehicleUsedWindows]
  refine ⟨?_, ?_⟩
  · rintro h m ham hmb ⟨start, stop, hbooks, hcover⟩
    obtain ⟨t, ⟨hfrom, hto⟩, ⟨hs, he⟩, -⟩ := id hcover
    have hcross : start < day.stop ∧ day.start < stop :=
      ⟨lt_of_le_of_lt hs hto, lt_of_le_of_lt hfrom he⟩
    have havoid := h _ ⟨start, stop, hbooks, hcross, rfl⟩
    exact (SteadyOn.avoids_iff hsteady hday (hbooks.wholeMinutes hwhole) hcross hab).mp havoid m
      ham hmb hcover
  · rintro h block ⟨start, stop, hbooks, hcross, rfl⟩
    refine (SteadyOn.avoids_iff hsteady hday (hbooks.wholeMinutes hwhole) hcross hab).mpr ?_
    exact fun m ham hmb hcover => h m ham hmb ⟨start, stop, hbooks, hcover⟩

/-! ### The map -/

/-- The instructor windows without the bookings of the vehicle. -/
def freeWindows (zone : PolishZone) (db : Db) (input : VehicleWindowsInput) (day : ScheduleWindow)
    (v : Uuid) : List TimeWindow :=
  input.instructorWindows.flatMap fun window =>
    subtractWindows window (vehicleUsedWindows zone db input day v)

theorem freeWindows_fits_iff {zone : PolishZone} {date : Day} {a b : ℤ}
    (hsteady : zone.SteadyOn date) (hday : polishDayBounds zone date = .ok day)
    (hwhole : WholeMinuteBookings zone db) (hab : a < b) :
    Fits a b (freeWindows zone db input day v) ↔ Fits a b input.instructorWindows ∧
      ∀ m, a ≤ m → m < b →
        ¬MinuteBooked zone db input.excludeLessonId input.excludeEventId day v m := by
  rw [freeWindows, fits_flatMap_subtractWindows_iff hab, avoids_used_iff hsteady hday hwhole hab]

/-- The vehicles with an option, in storage order. -/
def mappedVehicles (env : Env) (db : Db) (input : VehicleWindowsInput) (day : ScheduleWindow) :
    List (Uuid × List TimeWindow) :=
  ((offeredVehicleIds (db.refreshVehicles env input.schoolId) input).map fun v =>
    (v, freeWindows env.zone db input day v)).filter fun entry =>
      buildScheduleAvailabilityOptions entry.2 input.policy input.startStepMinutes ≠ []

/-- Without vehicles or windows the early answer is the same map. -/
theorem resolveAvailableVehicleWindows_run
    (hday : polishDayBounds env.zone (dateToYYYYMMDD input.date) = .ok day) :
    resolveAvailableVehicleWindows env input db =
      (.ok (mappedVehicles env db input day), db.refreshVehicles env input.schoolId) := by
  simp only [resolveAvailableVehicleWindows, refreshExpiredVehicleUnavailabilitiesForSchool,
    Prog.bind_run, Prog.write, Prog.query, polishDayRange, hday]
  split
  · next hnone =>
    have hempty : mappedVehicles env db input day = [] := by
      rcases hnone with hids | hwindows
      · simp [mappedVehicles, hids]
      · simp [mappedVehicles, freeWindows, hwindows, buildScheduleAvailabilityOptions]
    rw [hempty]
    rfl
  · rfl

theorem mem_mappedVehicles {entry : Uuid × List TimeWindow} :
    entry ∈ mappedVehicles env db input day ↔
      entry.1 ∈ offeredVehicleIds (db.refreshVehicles env input.schoolId) input ∧
        entry.2 = freeWindows env.zone db input day entry.1 ∧
        buildScheduleAvailabilityOptions entry.2 input.policy input.startStepMinutes ≠ [] := by
  simp only [mappedVehicles, List.mem_filter, List.mem_map, decide_eq_true_eq]
  refine ⟨?_, ?_⟩
  · rintro ⟨⟨v, hv, rfl⟩, hoptions⟩
    exact ⟨hv, rfl, hoptions⟩
  · rintro ⟨hv, hwindows, hoptions⟩
    exact ⟨⟨entry.1, hv, Prod.ext rfl hwindows.symm⟩, hoptions⟩

theorem options_freeWindows_iff {date : Day} (hsteady : env.zone.SteadyOn date)
    (hday : polishDayBounds env.zone date = .ok day) (hwhole : WholeMinuteBookings env.zone db)
    (hmin : 0 < input.policy.minDurationMinutes)
    (hmax : input.policy.minDurationMinutes ≤ input.policy.maxDurationMinutes)
    (hstep : 0 < input.startStepMinutes) :
    buildScheduleAvailabilityOptions (freeWindows env.zone db input day v) input.policy
        input.startStepMinutes ≠ [] ↔ HasFreeSlot env.zone db input day v := by
  rw [options_ne_nil_iff hstep hmax]
  refine ⟨?_, ?_⟩
  · rintro ⟨a, hdvd, hfits⟩
    rw [freeWindows_fits_iff hsteady hday hwhole (by omega)] at hfits
    exact ⟨a, _, hdvd, ⟨0, by simp⟩, hmax, hfits.1, hfits.2⟩
  · rintro ⟨a, _, hdvd, ⟨k, rfl⟩, -, ⟨w, hw, hstart, hstop⟩, hfree⟩
    have hlonger : 0 ≤ (k : ℤ) * availabilityOptionStepMinutes :=
      Int.mul_nonneg (Int.natCast_nonneg k) (by decide)
    refine ⟨a, hdvd, (freeWindows_fits_iff hsteady hday hwhole (by omega)).mpr ⟨?_, ?_⟩⟩
    · exact ⟨w, hw, hstart, by omega⟩
    · exact fun m ham hmb => hfree m ham (by omega)

theorem vehicleWindows_exact (env : Env) (db : Db) (input : VehicleWindowsInput)
    (hday : polishDayBounds env.zone (dateToYYYYMMDD input.date) = .ok day)
    (hsteady : env.zone.SteadyOn (dateToYYYYMMDD input.date))
    (hwhole : WholeMinuteBookings env.zone db)
    (hmin : 0 < input.policy.minDurationMinutes)
    (hmax : input.policy.minDurationMinutes ≤ input.policy.maxDurationMinutes)
    (hstep : 0 < input.startStepMinutes) :
    ∃ map db', resolveAvailableVehicleWindows env input db = (.ok map, db') ∧
      ExactWindows env db input day map := by
  refine ⟨_, _, resolveAvailableVehicleWindows_run hday, ?_, fun v => ?_, ?_⟩
  · refine List.Nodup.sublist (List.filter_sublist.map Prod.fst) ?_
    rw [List.map_map]
    exact (List.map_id _).symm ▸ nodup_offeredVehicleIds _ _
  · rw [← mem_offeredVehicleIds, List.mem_map,
      ← options_freeWindows_iff hsteady hday hwhole hmin hmax hstep]
    refine ⟨?_, ?_⟩
    · rintro ⟨entry, hentry, rfl⟩
      obtain ⟨hv, hwindows, hoptions⟩ := mem_mappedVehicles.mp hentry
      exact ⟨hv, hwindows ▸ hoptions⟩
    · rintro ⟨hv, hoptions⟩
      exact ⟨(v, freeWindows env.zone db input day v),
        mem_mappedVehicles.mpr ⟨hv, rfl, hoptions⟩, rfl⟩
  · intro entry hentry m
    obtain ⟨-, hwindows, -⟩ := mem_mappedVehicles.mp hentry
    rw [hwindows, freeWindows_fits_iff hsteady hday hwhole (lt_add_one m)]
    refine and_congr_right fun _ => ⟨fun h => h m le_rfl (lt_add_one m), fun h m' hle hlt => ?_⟩
    obtain rfl : m = m' := le_antisymm hle (Int.lt_add_one_iff.mp hlt)
    exact h

end

open SmallSchool in
/-- While the first vehicle drives from ten to eleven, both have a free hour on Tuesday. -/
theorem vehicleWindows_exact_tuesday :
    ∃ map db', resolveAvailableVehicleWindows (envAt (clock 4 8 0))
        { schoolId := 10, date := yyyymmddToDate 5, instructorWindows := [⟨480, 1080⟩]
          policy := ⟨60, 120⟩, startStepMinutes := 15, courseTypeId := some 7 }
        withTuesdayEvent = (.ok map, db') ∧
      ExactWindows (envAt (clock 4 8 0)) withTuesdayEvent
        { schoolId := 10, date := yyyymmddToDate 5, instructorWindows := [⟨480, 1080⟩]
          policy := ⟨60, 120⟩, startStepMinutes := 15, courseTypeId := some 7 }
        ⟨clock 5 0 0, clock 6 0 0⟩ map :=
  vehicleWindows_exact (envAt (clock 4 8 0)) withTuesdayEvent _ rfl (fun _ _ _ _ _ => rfl)
    ⟨fun _ h => absurd h List.not_mem_nil, by
      intro e he
      rcases List.mem_singleton.mp he with rfl
      exact ⟨by decide, by decide, by decide⟩⟩
    (by decide) (by decide) (by decide)

end OSK
