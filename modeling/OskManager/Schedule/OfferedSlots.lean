import OskManager.Schedule.DayWindows
import OskManager.Schedule.EventPreflight
import OskManager.Schedule.LessonPreflight
import OskManager.Schedule.PackageHours

/-! The slots a day is offered with, and the exact check of the same slot. The matrix and the
check look at the same rows; what the matrix can miss is what its whole minutes hide, and what it
does not ask for at all. -/

namespace OSK

open Relational Booking

section

variable {env : Env} {db db' : Db} {date : Day} {a b : ℤ} {window : ScheduleWindow}

/-- No booking of the resource is hidden from the slot by the minutes of the day. -/
def NoneOverlooked (zone : PolishZone) (db : Db) (date : Day) (window : ScheduleWindow)
    (skip : Option RecordId) (r : Resource) : Prop :=
  (calendar db).Each skip r fun e => ¬Overlooked zone date window e

def DurationWithin (policy : ScheduleDurationPolicy) (window : ScheduleWindow) : Prop :=
  policy.minDurationMinutes * msPerMinute ≤ window.durationMs ∧
    window.durationMs ≤ policy.maxDurationMinutes * msPerMinute

theorem durationWithin_iff {schoolId : Uuid} {kind : DurationKind}
    (hlt : window.start < window.stop) :
    (∃ policy,
      assertScheduleDurationAllowed db schoolId kind window.start window.stop = .ok policy) ↔
      DurationWithin (resolveScheduleDurationPolicy db schoolId kind) window :=
  (scheduleDurationAllowed_iff hlt).trans durationIssues_eq_nil

theorem SteadyOn.durationWithin {zone : PolishZone} {day : ScheduleWindow}
    {policy : ScheduleDurationPolicy} (hsteady : zone.SteadyOn date)
    (hday : polishDayBounds zone date = .ok day) (hslot : IsSlot zone date a b window)
    (hmin : a + policy.minDurationMinutes ≤ b) (hmax : b ≤ a + policy.maxDurationMinutes) :
    DurationWithin policy window := by
  rw [DurationWithin, SteadyOn.durationMs hsteady hday hslot]
  have hpos : 0 ≤ msPerMinute := by decide
  exact ⟨Int.mul_le_mul_of_nonneg_right (by omega) hpos,
    Int.mul_le_mul_of_nonneg_right (by omega) hpos⟩

theorem optionsPolicy_eq (db : Db) (schoolId : Uuid) (kind : DurationKind) :
    (resolveScheduleOptionsPolicy db schoolId kind
      availabilityOptionStepMinutes).toScheduleDurationPolicy =
      resolveScheduleDurationPolicy db schoolId kind := rfl

/-- What the rows of an offered vehicle say, whatever has been refreshed. -/
theorem offered_vehicle {p : Vehicle → Bool} {input : VehicleWindowsInput} {v : Uuid}
    (h : v ∈ offeredVehicleIds (db.refreshed p) input) :
    ∃ row ∈ db.vehicles.rows, row.id = v ∧ row.schoolId = input.schoolId ∧ row.isActive = true ∧
      ∀ c, input.courseTypeId = some c → c ∈ row.supportedCourseTypes := by
  obtain ⟨row', hrow', rfl⟩ := List.mem_map.mp h
  simp only [Table.mem_findMany, Bool.and_eq_true, decide_eq_true_eq, Option.all_eq_true] at hrow'
  obtain ⟨hmem, ⟨hschool, hactive, _⟩, htypes⟩ := hrow'
  obtain ⟨row, hrow, rfl⟩ := (Table.mem_updateMany _ _ _ Vehicle.id_madeAvailable _).mp hmem
  refine ⟨row, hrow, ?_⟩
  cases hp : p row <;> simp only [hp] at hschool hactive htypes ⊢
  · exact ⟨rfl, hschool, hactive, htypes⟩
  · exact ⟨rfl, hschool, hactive, htypes⟩

/-! ### New events -/

def EventCreateOptionsBody.check (body : EventCreateOptionsBody) (a b : ℤ) :
    EventCreateCheckBody where
  date := body.date
  startTime := a
  endTime := b
  instructorId := body.instructorId
  eventType := body.eventType
  vehicleId := body.vehicleId.map UuidText.uuid
  courseId := body.courseId
  drive_has_no_course := body.drive_has_no_course
  theory_has_no_vehicle := fun h => by rw [body.theory_has_no_vehicle h, Option.map_none]

/-- What is known of a slot that is offered for a new event. -/
structure EventCreateOffered (env : Env) (actor : Actor) (body : EventCreateOptionsBody) (db : Db)
    (a b : ℤ) (schoolId : Uuid) (windows : List TimeWindow) : Prop where
  actor_allowed : assertActorCanManageAvailability db actor body.instructorId = .ok ()
  instructor_active : resolveActiveInstructorProfile db body.instructorId = .ok ()
  school : resolveInstructorEventSchoolId db body.instructorId body.courseId
    (body.vehicleId.map UuidText.uuid) = .ok schoolId
  day_windows : computeDayWindows env.zone db body.instructorId (yyyymmddToDate body.date) =
    .ok (some windows)
  fits : Fits a b windows
  min_minutes : a + (resolveScheduleDurationPolicy db schoolId
    (.event body.eventType)).minDurationMinutes ≤ b
  max_minutes : b ≤ a + (resolveScheduleDurationPolicy db schoolId
    (.event body.eventType)).maxDurationMinutes
  course : ∀ courseId, body.courseId = some courseId →
    assertCourseEligibleForInstructorEvent db body.instructorId courseId = .ok ()
  drive_has_vehicle : body.eventType = .drive → (body.vehicleId.map UuidText.uuid).isSome = true
  vehicle : Prog.Succeeds
    (validateDriveVehicle env body.eventType body.instructorId
      (body.vehicleId.map UuidText.uuid) true) db
  vehicle_shown : ∀ v, body.vehicleId.map UuidText.uuid = some v → ∀ day,
    polishDayBounds env.zone body.date = .ok day →
      (calendar db).Each (skipped none none) (.vehicle v) (Shown env.zone day a b)

theorem eventCreate_offered {actor : Actor} {body : EventCreateOptionsBody}
    {response : ScheduleAvailabilityOptions}
    (h : getEventCreateAvailabilityOptions env actor body db = (.ok response, db'))
    (hoffer : response.Offers a b) :
    ∃ schoolId windows, EventCreateOffered env actor body db a b schoolId windows := by
  simp only [getEventCreateAvailabilityOptions, Prog.query_bind_eq_ok, onlyIf_eq_ok,
    forSome_eq_ok, Except.ok.injEq] at h
  obtain ⟨_, hactor, _, hactive, schoolId, hschool, policy, rfl, dayWindows, hwindows, _, hcourse,
    h⟩ := h
  rw [Prog.bind_eq_ok] at h
  obtain ⟨_, s1, hvalidate, h⟩ := h
  by_cases htype : body.eventType = .drive
  · simp only [if_pos htype] at hvalidate h
    simp only [Prog.bind_eq_ok, Prog.pure_eq_ok] at h
    obtain ⟨vehicleWindows, _, hvehicle, rfl, _⟩ := h
    obtain ⟨hfits, hmin, hmax⟩ := offers_fits (startStep_pos _ _ _) hoffer
    rw [optionsPolicy_eq] at hmin hmax
    obtain ⟨v, hv, hfits, _, hshown⟩ := vehicleWindows_show (Or.inl rfl) rfl hvehicle hfits
    rw [hv, Prog.whenSome_some] at hvalidate
    obtain ⟨p, rfl⟩ := (validateVehicleForInstructor_keeps env _ _ _).run hvalidate
    obtain ⟨windows, rfl, hfits⟩ := fits_getD hfits
    replace hv : body.vehicleId.map UuidText.uuid = some v := congrArg (Option.map _) hv
    refine ⟨schoolId, windows, hactor, hactive, hschool, hwindows, hfits, hmin, hmax,
      fun courseId hid => ?_, fun _ => hv ▸ rfl, ⟨(), _, validateDriveVehicle_eq_ok.mpr
        (Or.inl ⟨htype, v, hv, hvalidate⟩)⟩, fun v' hv' day hday => ?_⟩
    · rw [body.drive_has_no_course htype] at hid
      cases hid
    · cases hv.symm.trans hv'
      exact calendar_refreshed db p ▸ hshown day hday
  · have htheory : body.eventType = .theory := by
      cases hcase : body.eventType with
      | drive => exact absurd hcase htype
      | theory => rfl
    simp only [if_neg htype, Prog.pure_eq_ok] at hvalidate h
    obtain ⟨rfl, _⟩ := h
    obtain ⟨hfits, hmin, hmax⟩ := offers_fits (startStep_pos _ _ _) hoffer
    rw [optionsPolicy_eq] at hmin hmax
    obtain ⟨windows, rfl, hfits⟩ := fits_getD hfits
    refine ⟨schoolId, windows, hactor, hactive, hschool, hwindows, hfits, hmin, hmax,
      hcourse htheory, fun hdrive => absurd hdrive htype, ⟨(), db, validateDriveVehicle_eq_ok.mpr
        (Or.inr ⟨htype, rfl⟩)⟩, fun v hv => ?_⟩
    rw [body.theory_has_no_vehicle htheory] at hv
    cases hv

/-- What an offered slot still needs to be accepted: its length on a day on which the clock is
changed, and no booking that the minutes of the day hide. -/
structure EventCreateSlotKept (env : Env) (body : EventCreateCheckBody) (db : Db)
    (window : ScheduleWindow) : Prop where
  in_order : window.start < window.stop
  duration : ¬env.zone.SteadyOn body.date → ∀ schoolId,
    resolveInstructorEventSchoolId db body.instructorId body.courseId body.vehicleId =
      .ok schoolId →
    DurationWithin (resolveScheduleDurationPolicy db schoolId (.event body.eventType)) window
  instructor : NoneOverlooked env.zone db body.date window (skipped none none)
    (.instructor body.instructorId)
  vehicle : ∀ v, body.vehicleId = some v →
    NoneOverlooked env.zone db body.date window (skipped none none) (.vehicle v)

theorem eventCreate_kept_iff {actor : Actor} {body : EventCreateOptionsBody}
    {response : ScheduleAvailabilityOptions}
    (h : getEventCreateAvailabilityOptions env actor body db = (.ok response, db'))
    (hoffer : response.Offers a b) (hslot : IsSlot env.zone body.date a b window) :
    AnswersAvailable (checkEventCreateAvailability env actor (body.check a b)) db ↔
      EventCreateSlotKept env (body.check a b) db window := by
  obtain ⟨schoolId, windows, ho⟩ := eventCreate_offered h hoffer
  obtain ⟨day, hday, hshown⟩ := dayWindows_show (Or.inl rfl) ho.day_windows ho.fits
  have hdrive : ∀ v, body.vehicleId.map UuidText.uuid = some v → body.eventType = .drive := by
    intro v hv
    cases hcase : body.eventType with
    | drive => rfl
    | theory =>
      rw [body.theory_has_no_vehicle hcase] at hv
      cases hv
  rw [checkEventCreate_available_iff ho.drive_has_vehicle]
  refine ⟨?_, ?_⟩
  · intro h
    obtain ⟨window', hparse, ⟨schoolId', hrules⟩, _⟩ := h
    obtain ⟨hslot', hlt⟩ := parse_iff_slot.mp hparse
    cases hslot.unique hslot'
    refine ⟨hlt, fun _ schoolId hschool => ?_, ?_, fun v hv => ?_⟩
    · cases hschool.symm.trans hrules.school
      exact (durationWithin_iff hlt).mp hrules.duration
    · exact (open_iff_none_overlooked hday hslot hlt hshown).mp (eventWindow_iff.mp hrules.window).1
    · exact (open_iff_none_overlooked hday hslot hlt (ho.vehicle_shown v hv day hday)).mp
        (eventVehicle_open_iff.mp (hrules.vehicle_free (hdrive v hv) v hv))
  · intro hkept
    have hlt := hkept.in_order
    refine ⟨window, parse_iff_slot.mpr ⟨hslot, hlt⟩, ⟨schoolId, ho.actor_allowed,
      ho.instructor_active, ho.school, ho.course, (durationWithin_iff hlt).mpr ?_, ?_,
      fun _ v hv => ?_⟩, ho.vehicle⟩
    · by_cases hsteady : env.zone.SteadyOn body.date
      · exact SteadyOn.durationWithin hsteady hday hslot ho.min_minutes ho.max_minutes
      · exact hkept.duration hsteady schoolId ho.school
    · exact eventWindow_iff.mpr ⟨(open_iff_none_overlooked hday hslot hlt hshown).mpr
        hkept.instructor, timeWindow_available hslot hlt ho.day_windows ho.fits, nofun⟩
    · exact eventVehicle_open_iff.mpr ((open_iff_none_overlooked hday hslot hlt
        (ho.vehicle_shown v hv day hday)).mpr (hkept.vehicle v hv))

/-! ### Edits of events -/

def EventEditOptionsBody.check (body : EventEditOptionsBody) (a b : ℤ) : EventEditCheckBody where
  date := body.date
  startTime := a
  endTime := b
  eventId := body.eventId
  instructorId := body.instructorId
  vehicleId := body.vehicleId

/-- What is known of a slot that is offered to an event. -/
structure EventEditOffered (env : Env) (actor : Actor) (body : EventEditOptionsBody) (db : Db)
    (a b : ℤ) (current : InstructorEvent) (windows : List TimeWindow) : Prop where
  found : db.instructorEvents.findUnique body.eventId = some current
  active : current.isActive = true
  actor_allowed : assertActorCanManageAvailability db actor current.instructorId = .ok ()
  actor_allowed_instructor : assertActorCanManageAvailability db actor body.instructorId.uuid = .ok ()
  instructor_active : resolveActiveInstructorProfile db body.instructorId.uuid = .ok ()
  theory_has_no_vehicle : ¬(current.type = .theory ∧ body.vehicleId ≠ none)
  day_windows : computeDayWindows env.zone db body.instructorId.uuid (yyyymmddToDate body.date)
    (some current.id) = .ok (some windows)
  fits : Fits a b windows
  min_minutes : a + (resolveScheduleDurationPolicy db current.schoolId
    (.event current.type)).minDurationMinutes ≤ b
  max_minutes : b ≤ a + (resolveScheduleDurationPolicy db current.schoolId
    (.event current.type)).maxDurationMinutes
  course : current.type = .theory → ∀ courseId, current.courseId = some courseId →
    assertCourseEligibleForInstructorEvent db body.instructorId.uuid courseId = .ok ()
  vehicle : current.type = .drive → ∃ v, body.vehicleId = some (.ofUuid v) ∧
    Prog.Succeeds (validateVehicleForInstructor env body.instructorId.uuid v true) db ∧
    (∃ row ∈ db.vehicles.rows, row.id = v ∧ ∀ c,
      (current.courseId.bind db.courses.findUnique).map Course.courseTypeId = some c →
        c ∈ row.supportedCourseTypes) ∧
    ∀ day, polishDayBounds env.zone body.date = .ok day →
      (calendar db).Each (skipped none (some current.id)) (.vehicle v) (Shown env.zone day a b)
  participants_shown : current.type = .theory → ∀ day, polishDayBounds env.zone body.date = .ok day →
    ∀ s, (current.id, s) ∈ db.eventParticipants.keys →
      (calendar db).Each (skipped none (some current.id)) (.student s) (Shown env.zone day a b)

theorem eventEdit_offered {actor : Actor} {body : EventEditOptionsBody}
    {response : ScheduleAvailabilityOptions}
    (h : getEventEditAvailabilityOptions env actor body db = (.ok response, db'))
    (hoffer : response.Offers a b) :
    ∃ current windows, EventEditOffered env actor body db a b current windows := by
  simp only [getEventEditAvailabilityOptions, Prog.query_bind_eq_ok, Prog.lift_bind_eq_ok,
    onlyIf_eq_ok, forSome_eq_ok, orThrow_eq_ok, throwIf_eq_ok, Option.filter_eq_some_iff,
    Except.ok.injEq] at h
  obtain ⟨current, ⟨hfound, hactive⟩, _, hactor, _, hactor', _, hprofile, _, hvehicle, policy, rfl,
    dayWindows, hwindows, _, hcourse, h⟩ := h
  rw [Prog.bind_eq_ok] at h
  obtain ⟨_, s1, hvalidate, h⟩ := h
  cases htype : current.type with
  | drive =>
    simp only [htype, if_true] at hvalidate h
    simp only [Prog.query_bind_eq_ok, Except.ok.injEq] at h
    obtain ⟨courseTypeId, rfl, h⟩ := h
    simp only [Prog.bind_eq_ok, Prog.pure_eq_ok] at h
    obtain ⟨vehicleWindows, _, hvehicleWindows, rfl, _⟩ := h
    obtain ⟨hfits, hmin, hmax⟩ := offers_fits (startStep_pos _ _ _) hoffer
    rw [optionsPolicy_eq, ← htype] at hmin hmax
    obtain ⟨v, hv, hfits, hoffered, hshown⟩ :=
      vehicleWindows_show (Or.inl rfl) rfl hvehicleWindows hfits
    rw [hv, Prog.whenSome_some] at hvalidate
    obtain ⟨p, rfl⟩ := (validateVehicleForInstructor_keeps env _ _ _).run hvalidate
    obtain ⟨q, hq⟩ := Refreshed.trans ⟨p, rfl⟩ (refreshed_refreshVehicles (db.refreshed p) env
      current.schoolId)
    rw [hq] at hoffered
    obtain ⟨row, hrow, hid, _, _, htypes⟩ := offered_vehicle hoffered
    obtain ⟨windows, rfl, hfits⟩ := fits_getD hfits
    refine ⟨current, windows, hfound, hactive, hactor, hactor', hprofile, hvehicle, hwindows,
      hfits, hmin, hmax, fun htheory => ?_, fun _ => ⟨v, hv, ⟨(), _, hvalidate⟩,
        ⟨row, hrow, hid, htypes⟩, fun day hday => ?_⟩, fun htheory => ?_⟩
    · cases htype.symm.trans htheory
    · exact calendar_refreshed db p ▸ hshown day hday
    · cases htype.symm.trans htheory
  | theory =>
    simp only [htype, reduceCtorEq, if_false] at hvalidate h
    rcases Prog.whenSome_eq_ok.mp hvalidate with ⟨_, rfl⟩ | ⟨v, hnone, _⟩
    · simp only [Prog.query_bind_eq_ok, Prog.pure_eq_ok] at h
      obtain ⟨narrowed, hnarrowed, rfl, _⟩ := h
      obtain ⟨hfits, hmin, hmax⟩ := offers_fits (startStep_pos _ _ _) hoffer
      rw [optionsPolicy_eq, ← htype] at hmin hmax
      obtain ⟨hfits, hshown⟩ := studentConflicts_show (Or.inl rfl) hnarrowed hfits
      obtain ⟨windows, rfl, hfits⟩ := fits_getD hfits
      refine ⟨current, windows, hfound, hactive, hactor, hactor', hprofile, hvehicle, hwindows,
        hfits, hmin, hmax, hcourse, fun hdrive => ?_, fun _ day hday s hs => ?_⟩
      · cases htype.symm.trans hdrive
      · exact hshown day hday s ((mem_eventStudentIds db current.id s).mpr hs)
    · cases hnone

def EventEditCheckBody.Moves (body : EventEditCheckBody) (window : ScheduleWindow)
    (current : InstructorEvent) : Prop :=
  (body.merged window current).timeChanged current = true ∨
    (body.merged window current).instructorChanged current = true

theorem EventEditCheckBody.Moves.changes {body : EventEditCheckBody} {current : InstructorEvent}
    (h : body.Moves window current) : body.Changes window current :=
  h.imp_right Or.inr

/-- What an offered slot still needs to be accepted: a school that the check can resolve, whose
policy the options did not use when the event has moved there; and, where the rules run, no
booking that the minutes of the day hide and no booking of a participant of a drive. -/
structure EventEditSlotKept (env : Env) (body : EventEditCheckBody) (db : Db)
    (window : ScheduleWindow) (current : InstructorEvent) : Prop where
  in_order : window.start < window.stop
  school : ∃ schoolId, resolveInstructorEventSchoolId db body.instructorId.uuid current.courseId
      (body.checkedVehicle current) = .ok schoolId ∧
    ((body.merged window current).timeChanged current = true →
      ¬(env.zone.SteadyOn body.date ∧ schoolId = current.schoolId) →
        DurationWithin (resolveScheduleDurationPolicy db schoolId (.event current.type)) window)
  instructor : body.Moves window current → NoneOverlooked env.zone db body.date window
    (skipped none (some current.id)) (.instructor body.instructorId.uuid)
  theory_participants : current.type = .theory → body.Moves window current →
    ∀ s, (current.id, s) ∈ db.eventParticipants.keys → NoneOverlooked env.zone db body.date window
      (skipped none (some current.id)) (.student s)
  drive_participants : current.type = .drive → body.Moves window current →
    ∀ s, (current.id, s) ∈ db.eventParticipants.keys →
      (calendar db).Open (skipped none (some current.id)) window.start window.stop (.student s)
  vehicle : current.type = .drive → body.Changes window current → ∀ v, body.vehicleId = some v →
    NoneOverlooked env.zone db body.date window (skipped none (some current.id)) (.vehicle v.uuid)

theorem resolvedSchool_course {instructorId courseId schoolId : Uuid} {vehicleId : Option Uuid}
    (h : resolveInstructorEventSchoolId db instructorId (some courseId) vehicleId = .ok schoolId) :
    ∃ course, db.courses.findUnique courseId = some course := by
  simp only [resolveInstructorEventSchoolId, except_bind_eq_ok, orThrow_eq_ok, forSome_eq_ok] at h
  obtain ⟨_, _, _, hcourse, _⟩ := h
  obtain ⟨course, hfound, _⟩ := hcourse courseId rfl
  obtain ⟨hmem, hid⟩ := Table.mem_of_findFirst hfound
  exact ⟨course, (of_decide_eq_true hid).1 ▸ Table.findUnique_of_mem hmem⟩

theorem EventEditOffered.vehicle_supports {actor : Actor} {body : EventEditOptionsBody}
    {current : InstructorEvent} {windows : List TimeWindow} {schoolId courseId v : Uuid}
    {vehicleId : Option Uuid} (ho : EventEditOffered env actor body db a b current windows)
    (hschool : resolveInstructorEventSchoolId db body.instructorId.uuid current.courseId vehicleId =
      .ok schoolId) (htype : current.type = .drive) (hv : body.vehicleId = some (.ofUuid v))
    (hcourse : current.courseId = some courseId) :
    assertVehicleSupportsCourse db v courseId = .ok () := by
  obtain ⟨v', hv', _, ⟨row, hrow, hid, htypes⟩, _⟩ := ho.vehicle htype
  cases hv.symm.trans hv'
  rw [hcourse] at hschool htypes
  obtain ⟨course, hfound⟩ := resolvedSchool_course hschool
  rw [Option.bind_some, hfound] at htypes
  simp only [assertVehicleSupportsCourse, except_bind_eq_ok, orThrow_eq_ok,
    assertVehicleSupportsCourseType, throwIf_eq_ok, Bool.not_eq_true, Option.isNone_eq_false_iff,
    Table.findFirst_isSome]
  exact ⟨course, hfound, row, hrow, decide_eq_true ⟨hid, htypes _ rfl⟩⟩

theorem EventEditOffered.vehicle_valid {actor : Actor} {body : EventEditOptionsBody}
    {current : InstructorEvent} {windows : List TimeWindow}
    (ho : EventEditOffered env actor body db a b current windows) :
    Prog.Succeeds (validateDriveVehicle env current.type body.instructorId.uuid
      ((body.check a b).checkedVehicle current) true) db := by
  cases htype : current.type with
  | theory => exact validateDriveVehicle_theory
  | drive =>
    obtain ⟨v, hv, hvalid, _⟩ := ho.vehicle htype
    rw [EventEditCheckBody.checkedVehicle, EventEditCheckBody.checkedVehicleId, if_pos htype,
      EventEditOptionsBody.check, hv]
    exact hvalid

theorem EventEditOffered.checkedVehicle {actor : Actor} {body : EventEditOptionsBody}
    {current : InstructorEvent} {windows : List TimeWindow}
    (ho : EventEditOffered env actor body db a b current windows) (htype : current.type = .drive) :
    ∃ v, body.vehicleId = some (.ofUuid v) ∧ (body.check a b).checkedVehicle current = some v ∧
      ∀ day, polishDayBounds env.zone body.date = .ok day →
        (calendar db).Each (skipped none (some current.id)) (.vehicle v)
          (Shown env.zone day a b) := by
  obtain ⟨v, hv, _, _, hshown⟩ := ho.vehicle htype
  refine ⟨v, hv, ?_, hshown⟩
  rw [EventEditCheckBody.checkedVehicle, EventEditCheckBody.checkedVehicleId, if_pos htype,
    EventEditOptionsBody.check, hv]
  rfl

/-- A slot that the check accepts keeps all that the offer left open. -/
theorem EventEditOffered.kept {actor : Actor} {body : EventEditOptionsBody}
    {current : InstructorEvent} {windows : List TimeWindow} {schoolId : Uuid}
    (ho : EventEditOffered env actor body db a b current windows)
    (hslot : IsSlot env.zone body.date a b window) (hlt : window.start < window.stop)
    (hchecked : EventEditChecked env actor (body.check a b) db current window schoolId)
    (hrules : (body.check a b).Changes window current →
      EventEditRules env db current ((body.check a b).merged window current) schoolId) :
    EventEditSlotKept env (body.check a b) db window current := by
  obtain ⟨day, hday, hshown⟩ := dayWindows_show (Or.inl rfl) ho.day_windows ho.fits
  have hwindow (hmoves : (body.check a b).Moves window current) :=
    eventWindow_iff.mp ((hrules hmoves.changes).window hmoves)
  refine ⟨hlt, ⟨schoolId, hchecked.school, fun hch _ => ?_⟩, fun hmoves => ?_,
    fun htheory hmoves s hs => ?_, fun _ hmoves => ?_, fun htype hchanges v hv => ?_⟩
  · exact (durationWithin_iff hlt).mp ((hrules (Or.inl hch)).duration hch)
  · exact (open_iff_none_overlooked hday hslot hlt hshown).mp (hwindow hmoves).1
  · have hstudent := ho.participants_shown htheory day hday s hs
    exact (open_iff_none_overlooked hday hslot hlt hstudent).mp ((hwindow hmoves).2.2 _ rfl s hs)
  · exact (hwindow hmoves).2.2 _ rfl
  · obtain ⟨v', hv', hvehicle, hshown⟩ := ho.checkedVehicle htype
    cases hv.symm.trans hv'
    exact (open_iff_none_overlooked hday hslot hlt (hshown day hday)).mp
      (eventVehicle_open_iff.mp ((hrules hchanges).vehicle_free htype v' hvehicle))

theorem EventEditOffered.rules {actor : Actor} {body : EventEditOptionsBody}
    {current : InstructorEvent} {windows : List TimeWindow} {schoolId : Uuid}
    (ho : EventEditOffered env actor body db a b current windows)
    (hslot : IsSlot env.zone body.date a b window)
    (hkept : EventEditSlotKept env (body.check a b) db window current)
    (hschool : resolveInstructorEventSchoolId db body.instructorId.uuid current.courseId
      ((body.check a b).checkedVehicle current) = .ok schoolId)
    (hchanges : (body.check a b).Changes window current) :
    EventEditRules env db current ((body.check a b).merged window current) schoolId := by
  obtain ⟨day, hday, hshown⟩ := dayWindows_show (Or.inl rfl) ho.day_windows ho.fits
  have hlt := hkept.in_order
  obtain ⟨schoolId', hschool', hduration⟩ := hkept.school
  cases hschool.symm.trans hschool'
  refine ⟨fun hch => ?_, fun htheory _ => ho.course htheory, ?_, ho.vehicle_valid, ?_, ?_⟩
  · apply (durationWithin_iff hlt).mpr
    by_cases hsteady : env.zone.SteadyOn body.date ∧ schoolId = current.schoolId
    · rw [hsteady.2]
      exact SteadyOn.durationWithin hsteady.1 hday hslot ho.min_minutes ho.max_minutes
    · exact hduration hch hsteady
  · intro htype v hv courseId hcourse
    obtain ⟨v', hv', hvehicle, _⟩ := ho.checkedVehicle htype
    cases hv.symm.trans hvehicle
    exact ho.vehicle_supports hschool htype hv' hcourse
  · intro hmoves
    refine eventWindow_iff.mpr ⟨?_, timeWindow_available hslot hlt ho.day_windows ho.fits, ?_⟩
    · exact (open_iff_none_overlooked hday hslot hlt hshown).mpr (hkept.instructor hmoves)
    · rintro _ ⟨⟩ s hs
      cases htype : current.type with
      | drive => exact hkept.drive_participants htype hmoves s hs
      | theory =>
        have hstudent := ho.participants_shown htype day hday s hs
        exact (open_iff_none_overlooked hday hslot hlt hstudent).mpr
          (hkept.theory_participants htype hmoves s hs)
  · intro htype v hv
    obtain ⟨v', hv', hvehicle, hshown⟩ := ho.checkedVehicle htype
    cases hv.symm.trans hvehicle
    exact eventVehicle_open_iff.mpr ((open_iff_none_overlooked hday hslot hlt
      (hshown day hday)).mpr (hkept.vehicle htype hchanges _ hv'))

theorem eventEdit_kept_iff {actor : Actor} {body : EventEditOptionsBody}
    {response : ScheduleAvailabilityOptions}
    (h : getEventEditAvailabilityOptions env actor body db = (.ok response, db'))
    (hoffer : response.Offers a b) (hslot : IsSlot env.zone body.date a b window) :
    ∃ current, db.instructorEvents.findUnique body.eventId = some current ∧
      (AnswersAvailable (checkEventEditAvailability env actor (body.check a b)) db ↔
        EventEditSlotKept env (body.check a b) db window current) := by
  obtain ⟨current, windows, ho⟩ := eventEdit_offered h hoffer
  refine ⟨current, ho.found, ?_⟩
  rw [checkEventEdit_available_iff]
  refine ⟨?_, ?_⟩
  · intro h
    obtain ⟨current', window', schoolId, hchecked, hrules⟩ := h
    cases ho.found.symm.trans hchecked.found
    obtain ⟨hslot', hlt⟩ := parse_iff_slot.mp hchecked.parsed
    cases hslot.unique hslot'
    exact ho.kept hslot hlt hchecked hrules
  · intro hkept
    obtain ⟨schoolId, hschool, _⟩ := hkept.school
    refine ⟨current, window, schoolId, ⟨ho.found, ho.active, ho.actor_allowed, fun _ =>
      ⟨ho.actor_allowed_instructor, ho.instructor_active⟩, ho.theory_has_no_vehicle,
      fun htype => ?_, parse_iff_slot.mpr ⟨hslot, hkept.in_order⟩, hschool⟩,
      ho.rules hslot hkept hschool⟩
    obtain ⟨v, _, hvehicle, _⟩ := ho.checkedVehicle htype
    rw [hvehicle]
    rfl

/-! ### Edits of lessons -/

def LessonEditOptionsBody.check (body : LessonEditOptionsBody) (vehicleId : UuidText) (a b : ℤ) :
    LessonEditCheckBody where
  date := body.date
  startTime := a
  endTime := b
  lessonId := body.lessonId
  instructorId := body.instructorId
  vehicleId

/-- What is known of a slot that is offered to a lesson. -/
structure LessonEditOffered (env : Env) (actor : Actor) (body : LessonEditOptionsBody) (db : Db)
    (a b : ℤ) (existing : Lesson) (course : CourseForBooking) (v : Uuid)
    (windows : List TimeWindow) : Prop where
  found : findLesson db body.lessonId = some existing
  course_found : lessonCourse db existing = .ok course
  editable : assertLessonIsEditable env existing.status existing.endTime = .ok ()
  not_started : assertLessonHasNotStarted env existing.status existing.startTime = .ok ()
  actor_allowed : assertActorCanBookLessonForCourse db actor course.schoolId = .ok ()
  linked : (instructorLink db body.instructorId.uuid course.schoolId).isSome = true
  qualified : assertInstructorQualifiedForCourseType db body.instructorId.uuid course.courseTypeId =
    .ok ()
  date : assertLessonDateInsideBookingWindow env db (yyyymmddToDate body.date) course.schoolId =
    .ok ()
  day_windows : computeDayWindows env.zone db body.instructorId.uuid (yyyymmddToDate body.date) none
    (some existing.id) = .ok (some windows)
  fits : Fits a b windows
  min_minutes : a + (resolveScheduleDurationPolicy db course.schoolId
    .practice).minDurationMinutes ≤ b
  max_minutes : b ≤ a + (resolveScheduleDurationPolicy db course.schoolId
    .practice).maxDurationMinutes
  package : ∀ minutes, resolveRemainingCourseMinutes db course.id existing.studentId course.kind
    course.totalHours existing.id = some minutes → b ≤ a + minutes
  vehicle_named : body.vehicleId = some (.ofUuid v)
  vehicle_valid : Prog.Succeeds (validateVehicleForInstructor env body.instructorId.uuid v true) db
  vehicle_row : ∃ row ∈ db.vehicles.rows, row.id = v ∧ row.schoolId = course.schoolId ∧
    row.isActive = true ∧ course.courseTypeId ∈ row.supportedCourseTypes
  vehicle_shown : ∀ day, polishDayBounds env.zone body.date = .ok day →
    (calendar db).Each (skipped (some existing.id) none) (.vehicle v) (Shown env.zone day a b)
  student_shown : ∀ day, polishDayBounds env.zone body.date = .ok day →
    (calendar db).Each (skipped (some existing.id) none) (.student existing.studentId)
      (Shown env.zone day a b)

theorem lessonDateIssue_ok {start : Instant} {schoolId : Uuid} {issue : Option OptionsEmptyReason}
    (h : getLessonDateIssue env start schoolId db = (.ok issue, db')) :
    db' = db ∧
      (issue = none → assertLessonDateInsideBookingWindow env db start schoolId = .ok ()) := by
  rcases Prog.handle_eq_ok.mp h with ⟨_, hrule, _⟩ | ⟨e, he, hissue⟩
  · obtain ⟨hok, rfl⟩ := Prog.query_eq_ok.mp hrule
    exact ⟨rfl, fun _ => hok⟩
  · obtain ⟨_, rfl⟩ := Prod.mk.inj he
    refine ⟨rfl, fun hnone => ?_⟩
    obtain ⟨reason, _, hsome⟩ := except_bind_eq_ok.mp hissue
    cases hsome
    cases hnone

theorem cappedBy_max (policy : ScheduleDurationPolicy) (minutes : Option ℤ) :
    (policy.cappedBy minutes).maxDurationMinutes ≤ policy.maxDurationMinutes ∧
      ∀ k, minutes = some k → (policy.cappedBy minutes).maxDurationMinutes ≤ k := by
  cases minutes with
  | none => exact ⟨le_rfl, nofun⟩
  | some k =>
    refine ⟨min_le_left _ _, ?_⟩
    rintro _ ⟨⟩
    exact min_le_right _ _

theorem lessonEditOptions_offer {lesson : Lesson} {course : CourseForBooking}
    {body : LessonEditOptionsBody} {policy : ScheduleDurationPolicy} {step : ℤ}
    {windows : List TimeWindow} {response : ScheduleAvailabilityOptions} {p : Vehicle → Bool}
    (hstep : 0 < step)
    (h : lessonEditOptions env lesson course body policy step windows (db.refreshed p) =
      (.ok response, db')) (hoffer : response.Offers a b) :
    Fits a b windows ∧ (a + policy.minDurationMinutes ≤ b ∧ b ≤ a + policy.maxDurationMinutes) ∧
      (∀ day, polishDayBounds env.zone body.date = .ok day →
        (calendar db).Each (skipped (some lesson.id) none) (.student lesson.studentId)
          (Shown env.zone day a b)) ∧
      ∃ v, body.vehicleId = some (.ofUuid v) ∧
        (∃ row ∈ db.vehicles.rows, row.id = v ∧ row.schoolId = course.schoolId ∧
          row.isActive = true ∧ course.courseTypeId ∈ row.supportedCourseTypes) ∧
        ∀ day, polishDayBounds env.zone body.date = .ok day →
          (calendar db).Each (skipped (some lesson.id) none) (.vehicle v)
            (Shown env.zone day a b) := by
  unfold lessonEditOptions at h
  simp only [Prog.query_bind_eq_ok] at h
  obtain ⟨studentWindows, hstudent, h⟩ := h
  rw [Prog.bind_eq_ok] at h
  obtain ⟨vehicleWindows, s1, hvehicle, h⟩ := h
  have hoffer' : (buildOptionsResponse (windowsOfVehicle vehicleWindows body.vehicleId) policy step
      (some (vehicleWindows.map Prod.fst))).Offers a b := by
    split at h
    · rw [Prog.pure_eq_ok] at h
      exact h.1 ▸ hoffer
    · rw [Prog.pure_eq_ok] at h
      rw [← h.1] at hoffer
      exact hoffer
  obtain ⟨hfits, hminutes⟩ := offers_fits hstep hoffer'
  obtain ⟨v, hv, hfits, hoffered, hshown⟩ := vehicleWindows_show (Or.inr rfl) rfl hvehicle hfits
  obtain ⟨q, hq⟩ := Refreshed.trans ⟨p, rfl⟩ (refreshed_refreshVehicles (db.refreshed p) env
    course.schoolId)
  rw [calendar_refreshed] at hshown
  have hfits : Fits a b studentWindows := by
    dsimp only at hfits
    split at hfits
    · exact fits_windowsFromNow hfits
    · exact hfits
  obtain ⟨hfits, hstudentShown⟩ := studentConflicts_show (Or.inr rfl) hstudent hfits
  rw [calendar_refreshed] at hstudentShown
  rw [hq] at hoffered
  obtain ⟨row, hrow, hid, hschool, hactive, htypes⟩ := offered_vehicle hoffered
  exact ⟨hfits, hminutes, fun day hday => hstudentShown day hday _ (List.mem_singleton_self _), v, hv,
    ⟨row, hrow, hid, hschool, hactive, htypes _ rfl⟩, hshown⟩

theorem lessonEdit_offered {actor : Actor} {body : LessonEditOptionsBody}
    {response : ScheduleAvailabilityOptions}
    (h : getLessonEditAvailabilityOptions env actor body db = (.ok response, db'))
    (hoffer : response.Offers a b) :
    ∃ existing course v windows,
      LessonEditOffered env actor body db a b existing course v windows := by
  simp only [getLessonEditAvailabilityOptions, Prog.query_bind_eq_ok, Prog.lift_bind_eq_ok,
    orThrow_eq_ok, throwIf_eq_ok, Bool.not_eq_true, Option.isNone_eq_false_iff,
    Except.ok.injEq] at h
  obtain ⟨existing, hfound, course, hcourse, _, heditable, _, hstarted, _, hactor, _, _, _, hlinked,
    _, hqualified, policy, rfl, packageMinutes, rfl, h⟩ := h
  rw [Prog.bind_eq_ok] at h
  obtain ⟨dateIssue, s1, hdate, h⟩ := h
  obtain ⟨rfl, hdate⟩ := lessonDateIssue_ok hdate
  simp only [Prog.query_bind_eq_ok] at h
  obtain ⟨dayWindows, hwindows, h⟩ := h
  rw [Prog.bind_eq_ok] at h
  obtain ⟨_, s2, hvalidate, h⟩ := h
  obtain ⟨p, rfl⟩ := (Prog.Keeps.whenSome Refreshed.refl
    fun v : UuidText =>
      validateVehicleForInstructor_keeps env body.instructorId.uuid v.uuid true).run hvalidate
  have hempty (reason : OptionsEmptyReason) (policy : ScheduleDurationPolicy) (step : ℤ) :
      ¬({ buildOptionsResponse [] policy step (some []) with
        emptyReason := some reason } : ScheduleAvailabilityOptions).Offers a b := by
    intro h
    obtain ⟨o, ho, _⟩ := h
    exact List.not_mem_nil ho
  cases dateIssue with
  | some reason =>
    rw [Prog.pure_eq_ok] at h
    exact absurd (h.1 ▸ hoffer) (hempty _ _ _)
  | none =>
    cases dayWindows with
    | none =>
      rw [Prog.pure_eq_ok] at h
      exact absurd (h.1 ▸ hoffer) (hempty _ _ _)
    | some windows =>
      dsimp only at h
      split at h
      · rw [Prog.pure_eq_ok] at h
        exact absurd (h.1 ▸ hoffer) (hempty _ _ _)
      · obtain ⟨hfits, ⟨hmin, hmax⟩, hstudent, v, hv, hrow, hshown⟩ :=
          lessonEditOptions_offer (startStep_pos _ _ _) h hoffer
        rw [hv, Prog.whenSome_some] at hvalidate
        exact ⟨existing, course, v, windows, hfound, hcourse, heditable, hstarted, hactor, hlinked,
          hqualified, hdate rfl, hwindows, hfits, hmin, hmax.trans (Int.add_le_add_left
            (cappedBy_max _ _).1 a), fun k hk => hmax.trans (Int.add_le_add_left
              ((cappedBy_max _ _).2 k hk) a), hv, ⟨(), _, hvalidate⟩, hrow, hshown, hstudent⟩

def Lesson.Moves (existing : Lesson) (slot : LessonSlot) : Prop :=
  (existing.timeChanged slot || existing.instructorChanged slot) = true

theorem Lesson.moves_of_timeChanged {existing : Lesson} {slot : LessonSlot}
    (h : existing.timeChanged slot = true) : existing.Moves slot := by
  rw [Lesson.Moves, h, Bool.true_or]

theorem Lesson.Moves.slotChanged {existing : Lesson} {slot : LessonSlot} (h : existing.Moves slot) :
    existing.slotChanged slot = true := by
  rw [Lesson.slotChanged, Bool.or_right_comm, h, Bool.true_or]

/-- What an offered slot still needs to be accepted: that it has not begun; its length and its
package on a day on which the clock is changed; and, where the rules run, no booking that the
minutes of the day hide. -/
structure LessonEditSlotKept (env : Env) (body : LessonEditCheckBody) (db : Db)
    (window : ScheduleWindow) (existing : Lesson) (course : CourseForBooking) : Prop where
  in_order : window.start < window.stop
  not_begun : existing.timeChanged (body.slot window) = true → env.now ≤ window.start
  duration : existing.timeChanged (body.slot window) = true → ¬env.zone.SteadyOn body.date →
    DurationWithin (resolveScheduleDurationPolicy db course.schoolId .practice) window
  package : existing.Moves (body.slot window) → ¬env.zone.SteadyOn body.date →
    assertCourseDrivingPackageHoursAllowNewLesson db course.id existing.studentId course.kind
      course.totalHours window.start window.stop (some existing.id) = .ok ()
  student : existing.Moves (body.slot window) → NoneOverlooked env.zone db body.date window
    (skipped (some existing.id) none) (.student existing.studentId)
  instructor : existing.Moves (body.slot window) → NoneOverlooked env.zone db body.date window
    (skipped (some existing.id) none) (.instructor body.instructorId.uuid)
  vehicle : existing.slotChanged (body.slot window) = true → NoneOverlooked env.zone db body.date
    window (skipped (some existing.id) none) (.vehicle body.vehicleId.uuid)

/-- The date rules see only the Polish date, so a slot passes them with the date it is offered on. -/
theorem lessonTimeIsBookable_iff {schoolId : Uuid} (hslot : IsSlot env.zone date a b window) :
    assertLessonTimeIsBookable env db window.start schoolId = .ok () ↔
      env.now ≤ window.start ∧
      assertLessonDateInsideBookingWindow env db (yyyymmddToDate date) schoolId = .ok () := by
  obtain ⟨hdate, hweekday⟩ := utcMidnight_clock env.zone date
  simp only [assertLessonTimeIsBookable, assertLessonDateInsideBookingWindow, formatYYYYMMDD,
    localTime_clock hslot.start, hdate, hweekday, except_bind_eq_ok, throwIf_eq_ok, not_lt,
    Unique.exists_iff]

/-- The options count at least the lessons that the package rule counts. -/
theorem remaining_le_balance (db : Db) (courseId studentId : Uuid) (kind : CourseKind)
    (totalHours : ℤ) (exclude : Uuid) {k : ℤ}
    (h : resolveRemainingCourseMinutes db courseId studentId kind totalHours exclude = some k) :
    k ≤ (getCoursePracticePackageBalance db courseId studentId totalHours
      (some exclude)).remainingMinutes := by
  unfold resolveRemainingCourseMinutes at h
  split at h
  · cases h
  cases h
  refine max_le_max le_rfl (Int.sub_le_sub_left ?_ _)
  apply (bookedMinutes_eq_total db courseId studentId totalHours (some exclude)).trans_le
  rw [Table.total_filter]
  apply Table.total_mono _
  intro l _
  have hminutes := roundedMinutes_nonneg l.start_before_end.le
  by_cases hex : exclude = l.id
  · simp [hex]
  · simp only [ne_eq, Option.some.injEq, hex, not_false_eq_true, if_true, Lesson.packageWeight]
    split
    · next hcounts =>
      simp only [Lesson.countsFor, decide_eq_true_eq] at hcounts
      obtain ⟨hcourse, hstudent, _, _, hstatus⟩ := hcounts
      rw [if_pos (by simpa using ⟨hcourse, hstudent, hstatus, fun heq => hex heq.symm⟩)]
    · split
      · exact hminutes
      · exact le_rfl

/-- On a steady day a slot that keeps the capped policy keeps the package. -/
theorem package_allows {zone : PolishZone} {day : ScheduleWindow} {course : CourseForBooking}
    {existing : Lesson} (hsteady : zone.SteadyOn date) (hday : polishDayBounds zone date = .ok day)
    (hslot : IsSlot zone date a b window) (hlt : window.start < window.stop)
    (hpackage : ∀ k, resolveRemainingCourseMinutes db course.id existing.studentId course.kind
      course.totalHours existing.id = some k → b ≤ a + k) :
    assertCourseDrivingPackageHoursAllowNewLesson db course.id existing.studentId course.kind
      course.totalHours window.start window.stop (some existing.id) = .ok () := by
  have hlength : window.stop - window.start = (b - a) * msPerMinute :=
    SteadyOn.durationMs hsteady hday hslot
  have hminutes : roundedMinutes window.start window.stop = b - a := by
    rw [roundedMinutes, hlength]
    dsimp only [msPerMinute]
    omega
  have hpos : 0 < b - a := by
    dsimp only [Instant, msPerMinute] at hlength hlt
    omega
  unfold assertCourseDrivingPackageHoursAllowNewLesson
  split
  · rfl
  · next hkind =>
    simp only [except_bind_eq_ok, throwIf_eq_ok, hminutes, Unique.exists_iff, gt_iff_lt, not_lt,
      not_le]
    have hsome : resolveRemainingCourseMinutes db course.id existing.studentId course.kind
        course.totalHours existing.id ≠ none := by
      simp [resolveRemainingCourseMinutes, hkind]
    obtain ⟨k, hk⟩ := Option.ne_none_iff_exists'.mp hsome
    have hbalance := remaining_le_balance db _ _ _ _ _ hk
    have hslotMinutes := hpackage k hk
    exact ⟨hpos, le_trans (by omega) hbalance⟩

theorem LessonEditOffered.kept {actor : Actor} {body : LessonEditOptionsBody} {existing : Lesson}
    {course : CourseForBooking} {v : Uuid} {windows : List TimeWindow}
    (ho : LessonEditOffered env actor body db a b existing course v windows)
    (hslot : IsSlot env.zone body.date a b window) (hlt : window.start < window.stop)
    (hrules : existing.slotChanged ((body.check (.ofUuid v) a b).slot window) = true →
      LessonEditRules env db existing course ((body.check (.ofUuid v) a b).slot window)) :
    LessonEditSlotKept env (body.check (.ofUuid v) a b) db window existing course := by
  obtain ⟨day, hday, hshown⟩ := dayWindows_show (Or.inr rfl) ho.day_windows ho.fits
  have htime (hch : existing.timeChanged ((body.check (.ofUuid v) a b).slot window) = true) :=
    (hrules (Lesson.moves_of_timeChanged hch).slotChanged).slot_rules
  have hwindow (hmoves : existing.Moves ((body.check (.ofUuid v) a b).slot window)) :=
    lessonWindow_iff.mp ((hrules hmoves.slotChanged).slot_rules.window hmoves)
  refine ⟨hlt, fun hch => ?_, fun hch _ => ?_, fun hmoves _ => ?_, fun hmoves => ?_,
    fun hmoves => ?_, fun hch => ?_⟩
  · exact ((lessonTimeIsBookable_iff hslot).mp ((htime hch).bookable hch)).1
  · exact (durationWithin_iff hlt).mp ((htime hch).duration hch)
  · exact (hwindow hmoves).2.1
  · exact (open_iff_none_overlooked hday hslot hlt (ho.student_shown day hday)).mp
      (hwindow hmoves).1
  · exact (open_iff_none_overlooked hday hslot hlt hshown).mp (hwindow hmoves).2.2.1
  · exact (open_iff_none_overlooked hday hslot hlt (ho.vehicle_shown day hday)).mp
      (vehicle_open_iff.mp (hrules hch).slot_rules.vehicle_free)

theorem LessonEditOffered.rules {actor : Actor} {body : LessonEditOptionsBody} {existing : Lesson}
    {course : CourseForBooking} {v : Uuid} {windows : List TimeWindow}
    (ho : LessonEditOffered env actor body db a b existing course v windows)
    (hslot : IsSlot env.zone body.date a b window)
    (hkept : LessonEditSlotKept env (body.check (.ofUuid v) a b) db window existing course)
    (hch : existing.slotChanged ((body.check (.ofUuid v) a b).slot window) = true) :
    LessonEditRules env db existing course ((body.check (.ofUuid v) a b).slot window) := by
  obtain ⟨day, hday, hshown⟩ := dayWindows_show (Or.inr rfl) ho.day_windows ho.fits
  have hlt := hkept.in_order
  obtain ⟨row, hrow, hid, hschool, hactive, htype⟩ := ho.vehicle_row
  refine ⟨⟨ho.linked, fun _ => ho.qualified, fun htime => ?_, fun htime => ?_, fun hmoves => ?_,
    ?_, ?_, ?_, fun _ => ho.not_started⟩, ho.vehicle_valid⟩
  · exact (lessonTimeIsBookable_iff hslot).mpr ⟨hkept.not_begun htime, ho.date⟩
  · apply (durationWithin_iff hlt).mpr
    by_cases hsteady : env.zone.SteadyOn body.date
    · exact SteadyOn.durationWithin hsteady hday hslot ho.min_minutes ho.max_minutes
    · exact hkept.duration htime hsteady
  · refine lessonWindow_iff.mpr ⟨?_, ?_, ?_, timeWindow_available hslot hlt ho.day_windows ho.fits⟩
    · exact (open_iff_none_overlooked hday hslot hlt (ho.student_shown day hday)).mpr
        (hkept.student hmoves)
    · by_cases hsteady : env.zone.SteadyOn body.date
      · exact package_allows hsteady hday hslot hlt ho.package
      · exact hkept.package hmoves hsteady
    · exact (open_iff_none_overlooked hday hslot hlt hshown).mpr (hkept.instructor hmoves)
  · rw [Table.findFirst_isSome]
    exact ⟨row, hrow, decide_eq_true ⟨hid, hschool, hactive⟩⟩
  · rw [assertVehicleSupportsCourseType, throwIf_eq_ok, Bool.not_eq_true,
      Option.isNone_eq_false_iff, Table.findFirst_isSome]
    exact ⟨row, hrow, decide_eq_true ⟨hid, htype⟩⟩
  · exact vehicle_open_iff.mpr ((open_iff_none_overlooked hday hslot hlt
      (ho.vehicle_shown day hday)).mpr (hkept.vehicle hch))

theorem lessonEdit_kept_iff {actor : Actor} {body : LessonEditOptionsBody}
    {response : ScheduleAvailabilityOptions}
    (h : getLessonEditAvailabilityOptions env actor body db = (.ok response, db'))
    (hoffer : response.Offers a b) (hslot : IsSlot env.zone body.date a b window) :
    ∃ existing course v, findLesson db body.lessonId = some existing ∧
      lessonCourse db existing = .ok course ∧ body.vehicleId = some v ∧
      (AnswersAvailable (checkLessonEditAvailability env actor (body.check v a b)) db ↔
        LessonEditSlotKept env (body.check v a b) db window existing course) := by
  obtain ⟨existing, course, v, windows, ho⟩ := lessonEdit_offered h hoffer
  refine ⟨existing, course, .ofUuid v, ho.found, ho.course_found, ho.vehicle_named, ?_⟩
  rw [checkLessonEdit_available_iff]
  refine ⟨?_, ?_⟩
  · intro h
    obtain ⟨existing', course', window', hfound, hcourse, _, _, _, hparse, hcase⟩ := h
    cases ho.found.symm.trans hfound
    cases ho.course_found.symm.trans hcourse
    obtain ⟨hslot', hlt⟩ := parse_iff_slot.mp hparse
    cases hslot.unique hslot'
    exact ho.kept hslot hlt fun hch => hcase.resolve_left (by simp [hch])
  · intro hkept
    refine ⟨existing, course, window, ho.found, ho.course_found, ho.actor_allowed, ho.editable,
      ho.not_started, parse_iff_slot.mpr ⟨hslot, hkept.in_order⟩, ?_⟩
    cases hch : existing.slotChanged ((body.check (.ofUuid v) a b).slot window) with
    | false => exact Or.inl rfl
    | true => exact Or.inr (ho.rules hslot hkept hch)

end

/-! ### All requests -/

def ScheduleAvailabilityOptionsBody.date : ScheduleAvailabilityOptionsBody → Day
  | .eventCreate body => body.date
  | .eventEdit body => body.date
  | .lessonEdit body => body.date

/-- The exact check of a slot for the same intent, ids and date; a lesson needs its vehicle. -/
def ScheduleAvailabilityOptionsBody.check (a b : ℤ) :
    ScheduleAvailabilityOptionsBody → Option ScheduleAvailabilityCheckBody
  | .eventCreate body => some (.eventCreate (body.check a b))
  | .eventEdit body => some (.eventEdit (body.check a b))
  | .lessonEdit body => body.vehicleId.map fun v => .lessonEdit (body.check v a b)

/-- What an offered slot needs beyond the offer; the other intents have no options. -/
def SlotKept (env : Env) (db : Db) (window : ScheduleWindow) : ScheduleAvailabilityCheckBody → Prop
  | .eventCreate body => EventCreateSlotKept env body db window
  | .eventEdit body => ∀ current, db.instructorEvents.findUnique body.eventId = some current →
      EventEditSlotKept env body db window current
  | .lessonEdit body => ∀ existing course, findLesson db body.lessonId = some existing →
      lessonCourse db existing = .ok course → LessonEditSlotKept env body db window existing course
  | _ => True

/-- A slot that is offered for a day is accepted by the exact check exactly when the minutes of
the day and the rules the options leave out do not stand in its way. -/
theorem dayOptions_accepted_iff (env : Env) (actor : Actor) (db : Db)
    (body : ScheduleAvailabilityOptionsBody) (a b : ℤ) (window : ScheduleWindow)
    (hoffer : OffersSlot (getScheduleAvailabilityOptions env actor body) db a b)
    (hslot : IsSlot env.zone body.date a b window) :
    ∃ check, body.check a b = some check ∧
      (AnswersAvailable (checkScheduleAvailability env actor check) db ↔
        SlotKept env db window check) := by
  obtain ⟨response, t, h, hoffer⟩ := hoffer
  cases body with
  | eventCreate body => exact ⟨_, rfl, eventCreate_kept_iff h hoffer hslot⟩
  | eventEdit body =>
    obtain ⟨current, hfound, hiff⟩ := eventEdit_kept_iff h hoffer hslot
    refine ⟨_, rfl, hiff.trans ⟨fun hkept current' hfound' => ?_, fun hkept => hkept _ hfound⟩⟩
    cases hfound.symm.trans hfound'
    exact hkept
  | lessonEdit body =>
    obtain ⟨existing, course, v, hfound, hcourse, hv, hiff⟩ := lessonEdit_kept_iff h hoffer hslot
    refine ⟨.lessonEdit (body.check v a b), congrArg (Option.map _) hv,
      hiff.trans ⟨fun hkept existing' course' hfound' hcourse' => ?_,
        fun hkept => hkept _ _ hfound hcourse⟩⟩
    cases hfound.symm.trans hfound'
    cases hcourse.symm.trans hcourse'
    exact hkept

namespace SmallSchool

/-- Another drive of the instructor, with the vehicle that is not booked. -/
def driveOptions : ScheduleAvailabilityOptionsBody := .eventCreate
  { instructorId := 20, eventType := .drive, date := 5, vehicleId := some 41
    drive_has_no_course := drive_noCourse }

/-- A lesson on Tuesday at ten that is thirty seconds longer than an hour. -/
def withLongLesson : Db :=
  SmallSchool.db ⟨[{ tuesdayLesson .practice with
    endTime := clock 5 11 0 + 30000, start_before_end := by decide }], List.nodup_singleton _⟩

def lessonOptions : ScheduleAvailabilityOptionsBody := .lessonEdit
  { lessonId := 70, instructorId := 20, date := 5, vehicleId := some 40 }

def eventOptions : ScheduleAvailabilityOptionsBody := .eventEdit
  { eventId := 60, instructorId := 20, date := 5, vehicleId := some 40 }

/-- The student of the drive has a lesson with the other instructor in the afternoon. -/
def withBusyParticipant : Db :=
  SmallSchool.db
    ⟨[{ tuesdayLesson .practice with
        instructorId := 21, vehicleId := some 41, startTime := clock 5 14 0
        endTime := clock 5 15 0, start_before_end := by decide
        practice_requires_vehicle := fun _ => rfl }], List.nodup_singleton _⟩
    (.singleton tuesdayEvent)
    (.singleton { eventId := 60, studentId := 30 })

end SmallSchool

open SmallSchool in
/-- On a day with a lesson of whole minutes the slot after it is kept. -/
theorem dayOptions_accepted_iff_after_lesson :
    SlotKept (envAt (clock 4 8 0)) (withTuesdayLesson .practice) ⟨clock 5 11 0, clock 5 12 0⟩
      (.eventCreate { date := 5, startTime := 660, endTime := 720, instructorId := 20
                      eventType := .drive, vehicleId := some 41 }) := by
  obtain ⟨check, hcheck, hiff⟩ := dayOptions_accepted_iff (envAt (clock 4 8 0)) manager
    (withTuesdayLesson .practice) driveOptions 660 720 ⟨clock 5 11 0, clock 5 12 0⟩ (by decide)
    ⟨rfl, rfl⟩
  cases hcheck
  exact hiff.mp (by decide)

open SmallSchool in
/-- Three slots that are offered and refused: one that starts in the minute in which a lesson
ends, one that starts in the present minute, and one in which a student of the drive is busy. -/
theorem dayOptions_offer_refused :
    (OffersSlot (getScheduleAvailabilityOptions (envAt (clock 4 8 0)) manager driveOptions)
        withLongLesson 660 720 ∧
      IsSlot zone 5 660 720 ⟨clock 5 11 0, clock 5 12 0⟩ ∧
      ¬AnswersAvailable (checkScheduleAvailability (envAt (clock 4 8 0)) manager (.eventCreate
        { date := 5, startTime := 660, endTime := 720, instructorId := 20, eventType := .drive
          vehicleId := some 41 })) withLongLesson) ∧
    (OffersSlot (getScheduleAvailabilityOptions (envAt (clock 5 9 0 + 30000)) manager lessonOptions)
        (withTuesdayLesson .practice) 540 600 ∧
      IsSlot zone 5 540 600 ⟨clock 5 9 0, clock 5 10 0⟩ ∧
      ¬AnswersAvailable (checkScheduleAvailability (envAt (clock 5 9 0 + 30000)) manager
        (.lessonEdit (editCheck 9 20))) (withTuesdayLesson .practice)) ∧
    (OffersSlot (getScheduleAvailabilityOptions (envAt (clock 4 8 0)) manager eventOptions)
        withBusyParticipant 840 900 ∧
      IsSlot zone 5 840 900 ⟨clock 5 14 0, clock 5 15 0⟩ ∧
      ¬AnswersAvailable (checkScheduleAvailability (envAt (clock 4 8 0)) manager
        (.eventEdit (eventEditCheck 14))) withBusyParticipant) :=
  ⟨⟨by decide, ⟨rfl, rfl⟩, by decide⟩, ⟨by decide, ⟨rfl, rfl⟩, by decide⟩,
    ⟨by decide, ⟨rfl, rfl⟩, by decide⟩⟩

end OSK
