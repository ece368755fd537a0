import OskManager.Model.EventChecks
import OskManager.Sample.SmallSchool
import OskManager.Schedule.CheckRules
import OskManager.Schedule.EventWrites

/-! The manager's checks of instructor events. The check of a new event and the check of an edit
answer what the write would say: they run the rules of the write in another order. -/

namespace OSK

open Relational

section

variable {env : Env} {db db' : Db}

/-! ### Creating -/

theorem createInstructorEvent_succeeds {actor : Actor} {body : CreateInstructorEventBody} :
    Prog.Succeeds (createInstructorEvent env actor body) db ↔
      (∃ schoolId, CreateEventRules env actor body db schoolId) ∧
      Prog.Succeeds (validateDriveVehicle env body.type body.instructorId body.vehicleId true) db := by
  refine ⟨?_, ?_⟩
  · intro h
    obtain ⟨dto, t, hok⟩ := h
    obtain ⟨schoolId, p, hrules, hval, _⟩ := (createInstructorEvent_eq_ok ..).mp hok
    exact ⟨⟨schoolId, hrules⟩, (), _, hval⟩
  · intro h
    obtain ⟨⟨schoolId, hrules⟩, _, t, hval⟩ := h
    obtain ⟨p, rfl⟩ := (validateDriveVehicle_keeps env _ _ _ _).run hval
    exact ⟨_, _, (createInstructorEvent_eq_ok ..).mpr ⟨schoolId, p, hrules, hval, rfl, rfl⟩⟩

theorem validateDriveVehicle_drive (instructorId v : Uuid) (b : Bool) :
    validateDriveVehicle env .drive instructorId (some v) b =
      validateVehicleForInstructor env instructorId v b := rfl

theorem validateDriveVehicle_theory {instructorId : Uuid} {v : Option Uuid} {b : Bool} :
    Prog.Succeeds (validateDriveVehicle env .theory instructorId v b) db :=
  ⟨(), db, validateDriveVehicle_eq_ok.mpr (Or.inr ⟨by decide, rfl⟩)⟩

/-- The event that a check of the window announces; it has no capacity. -/
def EventCreateCheckBody.create (body : EventCreateCheckBody) (window : ScheduleWindow) :
    CreateInstructorEventBody where
  instructorId := body.instructorId
  type := body.eventType
  startTime := window.start
  endTime := window.stop
  vehicleId := body.vehicleId
  courseId := body.courseId

/-- The issues of the vehicle's availability, with the database they leave. -/
theorem driveVehicle_issues {type : EventType} {instructorId : Uuid} {vehicleId : Option Uuid}
    {l : List ScheduleAvailabilityIssue} {h : Failure → Except Failure ScheduleAvailabilityIssue}
    (hvehicle : type = .drive → vehicleId.isSome = true)
    (hl : issuesFor (if type = .drive then vehicleId else none) (fun v => Prog.issues
      (validateVehicleForInstructor env instructorId v true) h) db = (.ok l, db')) :
    (∃ p, db' = db.refreshed p) ∧
    (l = [] ↔ Prog.Succeeds (validateDriveVehicle env type instructorId vehicleId true) db) := by
  cases type with
  | theory =>
    rcases issuesFor_ok hl with ⟨v, hv, _⟩ | ⟨_, rfl, rfl⟩
    · cases hv
    · exact ⟨Refreshed.refl db', iff_of_true rfl validateDriveVehicle_theory⟩
  | drive =>
    obtain ⟨v, rfl⟩ := Option.isSome_iff_exists.mp (hvehicle rfl)
    rcases issuesFor_ok hl with ⟨v', hv, hl⟩ | ⟨hv, _⟩
    · cases hv
      rw [validateDriveVehicle_drive]
      refine ⟨?_, Prog.issues_nil_iff_succeeds hl⟩
      exact Prog.issues_store hl ▸ validateVehicleForInstructor_keeps env _ _ _ db
    · cases hv

theorem checkEventCreate_ok {actor : Actor} {body : EventCreateCheckBody}
    {answer : ScheduleAvailabilityAnswer}
    (hvehicle : body.eventType = .drive → body.vehicleId.isSome = true)
    (h : checkEventCreateAvailability env actor body db = (.ok answer, db')) :
    ∃ window, body.parse env.zone = .ok window ∧
      (answer.available = true ↔
        (∃ schoolId, CreateEventRules env actor (body.create window) db schoolId) ∧
        Prog.Succeeds (validateDriveVehicle env body.eventType body.instructorId body.vehicleId true)
          db) := by
  simp only [checkEventCreateAvailability, Prog.query_bind_eq_ok, Prog.lift_bind_eq_ok,
    Except.ok.injEq] at h
  obtain ⟨_, hactor, _, hactive, window, hparse, schoolId, hschool, policy, rfl, h⟩ := h
  refine ⟨window, hparse, ?_⟩
  have hlt := parse_start_before_end hparse
  rw [Prog.bind_eq_ok] at h
  obtain ⟨courseIssues, s1, hcourse, h⟩ := h
  obtain ⟨rfl, hcourseNil⟩ := query_issues hcourse
  rw [Prog.bind_eq_ok] at h
  obtain ⟨vehicleIssues, s2, hvehicleIssues, h⟩ := h
  obtain ⟨⟨p, rfl⟩, hvehicleNil⟩ := driveVehicle_issues hvehicle hvehicleIssues
  simp only [Prog.bind_eq_ok, Prog.transaction_eq_ok, Prog.pure_eq_ok] at h
  obtain ⟨_, _, ⟨windowIssues, s3, hwindow, busyIssues, s4, hbusy, rfl, rfl⟩, rfl, rfl⟩ := h
  obtain ⟨rfl, hwindowNil⟩ := query_issues hwindow
  obtain ⟨rfl, hbusyNil⟩ := query_issues hbusy
  have hwindowNil' : windowIssues = [] ↔ assertInstructorEventWindowAvailable env.zone s1
      { instructorId := body.instructorId, start := window.start, stop := window.stop } = .ok () :=
    hwindowNil
  have hbusyNil' : busyIssues = [] ↔ (body.eventType = .drive → ∀ v, body.vehicleId = some v →
      assertVehicleAvailableForEventWindow s1 v window.start window.stop = .ok ()) := by
    rw [hbusyNil, onlyIf_eq_ok]
    simp only [forSome_eq_ok]
    rfl
  have hcourseNil' : courseIssues = [] ↔ ∀ courseId, body.courseId = some courseId →
      assertCourseEligibleForInstructorEvent s1 body.instructorId courseId = .ok () := by
    rw [hcourseNil, onlyIf_eq_ok]
    simp only [forSome_eq_ok]
    refine ⟨fun hok courseId hid => hok ?_ courseId hid, fun hok _ => hok⟩
    cases htype : body.eventType with
    | theory => rfl
    | drive =>
      rw [body.drive_has_no_course htype] at hid
      cases hid
  have hduration : durationIssues window.durationMs (resolveScheduleDurationPolicy s1 schoolId
      (.event body.eventType)) = [] ↔ ∃ policy, assertScheduleDurationAllowed s1 schoolId
        (.event body.eventType) window.start window.stop = .ok policy :=
    (scheduleDurationAllowed_iff hlt).symm
  simp only [List.isEmpty_iff, List.append_eq_nil_iff, hduration, hcourseNil', hvehicleNil,
    hwindowNil', hbusyNil']
  refine ⟨?_, ?_⟩
  · intro h
    obtain ⟨⟨⟨hd, hc⟩, hval⟩, hw, hb⟩ := h
    exact ⟨⟨schoolId, hactor, hactive, hschool, hc, hd, hw, hb⟩, hval⟩
  · intro h
    obtain ⟨⟨schoolId', hrules⟩, hval⟩ := h
    cases hschool.symm.trans hrules.school
    exact ⟨⟨⟨hrules.duration, hrules.course⟩, hval⟩, hrules.window, hrules.vehicle_free⟩

theorem driveVehicle_issues_run {type : EventType} {instructorId : Uuid} {vehicleId : Option Uuid}
    {h : Failure → Except Failure ScheduleAvailabilityIssue}
    (hval : Prog.Succeeds (validateDriveVehicle env type instructorId vehicleId true) db) :
    ∃ p, issuesFor (if type = .drive then vehicleId else none) (fun v => Prog.issues
      (validateVehicleForInstructor env instructorId v true) h) db = (.ok [], db.refreshed p) := by
  obtain ⟨_, t, hval⟩ := hval
  obtain ⟨p, rfl⟩ := (validateDriveVehicle_keeps env _ _ _ _).run hval
  refine ⟨p, ?_⟩
  rcases validateDriveVehicle_eq_ok.mp hval with ⟨rfl, v, rfl, hv⟩ | ⟨htype, heq⟩
  · exact Prog.issues_run hv
  · rw [if_neg htype, ← heq]
    rfl

theorem checkEventCreate_available_iff {actor : Actor} {body : EventCreateCheckBody}
    (hvehicle : body.eventType = .drive → body.vehicleId.isSome = true) :
    AnswersAvailable (checkEventCreateAvailability env actor body) db ↔
      ∃ window, body.parse env.zone = .ok window ∧
        (∃ schoolId, CreateEventRules env actor (body.create window) db schoolId) ∧
        Prog.Succeeds (validateDriveVehicle env body.eventType body.instructorId body.vehicleId true)
          db := by
  refine ⟨?_, ?_⟩
  · intro h
    obtain ⟨answer, t, h, havailable⟩ := h
    obtain ⟨window, hparse, hiff⟩ := checkEventCreate_ok hvehicle h
    exact ⟨window, hparse, hiff.mp havailable⟩
  · intro h
    obtain ⟨window, hparse, ⟨schoolId, hrules⟩, hval⟩ := h
    obtain ⟨p, hvehicleIssues⟩ := driveVehicle_issues_run hval
    have hsucceeds : Prog.Succeeds (checkEventCreateAvailability env actor body) db := by
      simp only [checkEventCreateAvailability, Prog.succeeds_query_bind, Prog.succeeds_lift_bind]
      refine ⟨(), hrules.actor_allowed, (), hrules.instructor_active, window, hparse, schoolId,
        hrules.school, _, rfl, ?_⟩
      simp only [Prog.succeeds_bind]
      refine ⟨[], db, query_issues_run ?_, [], _, hvehicleIssues, ?_⟩
      · simp only [onlyIf_eq_ok, forSome_eq_ok]
        exact fun _ => hrules.course
      · refine ⟨_, _, Prog.transaction_eq_ok.mpr (Prog.bind_eq_ok.mpr ⟨[], _, query_issues_run
          hrules.window, Prog.bind_eq_ok.mpr ⟨[], _, query_issues_run ?_, rfl⟩⟩), _, _, rfl⟩
        simp only [onlyIf_eq_ok, forSome_eq_ok]
        exact hrules.vehicle_free
    obtain ⟨answer, t, h⟩ := hsucceeds
    obtain ⟨window', hparse', hiff⟩ := checkEventCreate_ok hvehicle h
    cases hparse.symm.trans hparse'
    exact ⟨answer, t, h, hiff.mpr ⟨⟨schoolId, hrules⟩, hval⟩⟩

/-! ### Editing -/

/-- A field of an edit that is set only when it differs. -/
theorem changed_getD {α : Type} [DecidableEq α] (a b : α) :
    (if a ≠ b then some a else none).getD b = a := by
  split
  · rfl
  · next h => exact (not_not.mp h).symm

theorem changed_map_getD {α β : Type} [DecidableEq β] (f : α → β) (a : α) (b : β) :
    ((if f a ≠ b then some a else none).map f).getD b = f a := by
  split
  · rfl
  · next h => exact (not_not.mp h).symm

/-- The vehicle the edit is checked with, however the request spells it. -/
def EventEditCheckBody.checkedVehicle (body : EventEditCheckBody) (current : InstructorEvent) :
    Option Uuid :=
  (body.checkedVehicleId current).map UuidText.uuid

/-- The edit that a check announces: exactly the fields that change. An id in another spelling is
no change. -/
def EventEditCheckBody.update (body : EventEditCheckBody) (window : ScheduleWindow)
    (current : InstructorEvent) : PatchInstructorEventBody where
  instructorId :=
    if body.instructorId.uuid ≠ current.instructorId then some body.instructorId else none
  startTime := if window.start ≠ current.startTime then some window.start else none
  endTime := if window.stop ≠ current.endTime then some window.stop else none
  vehicleId := if body.checkedVehicle current ≠ current.vehicleId then
    some (body.checkedVehicleId current) else none

def EventEditCheckBody.merged (body : EventEditCheckBody) (window : ScheduleWindow)
    (current : InstructorEvent) : MergedEvent where
  instructorId := body.instructorId
  courseId := current.courseId
  type := current.type
  status := current.status
  start := window.start
  stop := window.stop
  vehicleId := body.checkedVehicleId current
  capacity := current.capacity

/-- The event as the edit of exactly the changed fields sees it. -/
def EventEditCheckBody.edited (body : EventEditCheckBody) (window : ScheduleWindow)
    (current : InstructorEvent) : MergedEvent :=
  mergeEvent current (body.update window current)

section

variable (body : EventEditCheckBody) (window : ScheduleWindow) (current : InstructorEvent)

@[simp] theorem edited_instructorId :
    (body.edited window current).instructorId.uuid = body.instructorId.uuid :=
  (uuid_instructorId_mergeEvent _ _).trans (changed_map_getD UuidText.uuid _ _)

@[simp] theorem edited_vehicleId : (body.edited window current).vehicleId.map UuidText.uuid =
    body.checkedVehicle current :=
  (uuid_vehicleId_mergeEvent _ _).trans (changed_map_getD (Option.map UuidText.uuid) _ _)

@[simp] theorem edited_start : (body.edited window current).start = window.start :=
  changed_getD _ _

@[simp] theorem edited_stop : (body.edited window current).stop = window.stop :=
  changed_getD _ _

@[simp] theorem edited_timeChanged : (body.edited window current).timeChanged current =
    (body.merged window current).timeChanged current := by
  simp only [MergedEvent.timeChanged, edited_start, edited_stop]
  rfl

@[simp] theorem edited_instructorChanged :
    (body.edited window current).instructorChanged current = true ↔
      body.instructorId.uuid ≠ current.instructorId := by
  rw [MergedEvent.instructorChanged, decide_eq_true_iff, EventEditCheckBody.edited]
  unfold mergeEvent EventEditCheckBody.update
  by_cases h : body.instructorId.uuid = current.instructorId
  · simp only [h, ne_eq, not_true_eq_false, if_false, Option.getD_none]
  · simp only [h, ne_eq, not_false_eq_true, if_true, Option.getD_some, iff_true]
    exact UuidText.ne_ofUuid_of_uuid_ne h

@[simp] theorem edited_vehicleChanged :
    (body.edited window current).vehicleChanged current = true ↔
      body.checkedVehicle current ≠ current.vehicleId := by
  rw [MergedEvent.vehicleChanged, decide_eq_true_iff, EventEditCheckBody.edited]
  unfold mergeEvent EventEditCheckBody.update
  by_cases h : body.checkedVehicle current = current.vehicleId
  · simp only [h, ne_eq, not_true_eq_false, if_false, Option.getD_none]
  · simp only [h, ne_eq, not_false_eq_true, if_true, Option.getD_some, iff_true]
    intro heq
    apply h
    rw [EventEditCheckBody.checkedVehicle, heq, UuidText.map_uuid_ofUuid]

theorem resolvedVehicleId_edited :
    (body.edited window current).resolvedVehicleId = body.checkedVehicle current := by
  rw [MergedEvent.resolvedVehicleId, edited_vehicleId, EventEditCheckBody.checkedVehicle,
    EventEditCheckBody.checkedVehicleId,
    show (body.edited window current).type = current.type from rfl]
  cases current.type <;> rfl

end

/-- The rules on what an edit of the schedule of an event changes. -/
structure EventEditRules (env : Env) (db : Db) (current : InstructorEvent) (merged : MergedEvent)
    (schoolId : Uuid) : Prop where
  duration : merged.timeChanged current = true →
    ∃ policy, assertScheduleDurationAllowed db schoolId (.event current.type) merged.start
      merged.stop = .ok policy
  course : current.type = .theory → merged.instructorChanged current = true →
    ∀ courseId, current.courseId = some courseId →
      assertCourseEligibleForInstructorEvent db merged.instructorId.uuid courseId = .ok ()
  vehicle_supports : current.type = .drive → ∀ v, merged.vehicleId.map UuidText.uuid = some v →
    ∀ courseId, current.courseId = some courseId → assertVehicleSupportsCourse db v courseId = .ok ()
  vehicle : Prog.Succeeds
    (validateDriveVehicle env current.type merged.instructorId.uuid
      (merged.vehicleId.map UuidText.uuid) true) db
  window : merged.timeChanged current = true ∨ merged.instructorChanged current = true →
    assertInstructorEventWindowAvailable env.zone db
      { instructorId := merged.instructorId.uuid, start := merged.start, stop := merged.stop
        eventId := some current.id, checkExistingParticipantsForEventId := some current.id } = .ok ()
  vehicle_free : current.type = .drive → ∀ v, merged.vehicleId.map UuidText.uuid = some v →
    assertVehicleAvailableForEventWindow db v merged.start merged.stop (some current.id) = .ok ()

/-- The request spells the event's own instructor otherwise than the database does. The check takes
that for another instructor. -/
def EventEditCheckBody.RespellsInstructor (body : EventEditCheckBody) (current : InstructorEvent) :
    Prop :=
  body.instructorId.uuid = current.instructorId ∧ ¬body.instructorId.Stored

/-- The rules of another instructor, asked of the event's own one. -/
structure OwnInstructorRules (zone : PolishZone) (db : Db) (current : InstructorEvent)
    (window : ScheduleWindow) : Prop where
  course : current.type = .theory → ∀ courseId, current.courseId = some courseId →
    assertCourseEligibleForInstructorEvent db current.instructorId courseId = .ok ()
  window : assertInstructorEventWindowAvailable zone db
    { instructorId := current.instructorId, start := window.start, stop := window.stop
      eventId := some current.id, checkExistingParticipantsForEventId := some current.id } = .ok ()

theorem merged_instructorChanged {body : EventEditCheckBody} {window : ScheduleWindow}
    {current : InstructorEvent} : (body.merged window current).instructorChanged current = true ↔
      body.instructorId.uuid ≠ current.instructorId ∨ body.RespellsInstructor current := by
  rw [MergedEvent.instructorChanged, decide_eq_true_iff, EventEditCheckBody.RespellsInstructor,
    EventEditCheckBody.merged, ne_eq, UuidText.eq_ofUuid_iff]
  tauto

/-- The rules of the check are those of the edit, and for a respelled instructor the ones of
another instructor as well. -/
theorem eventEditRules_merged {body : EventEditCheckBody} {window : ScheduleWindow}
    {current : InstructorEvent} {schoolId : Uuid} :
    EventEditRules env db current (body.merged window current) schoolId ↔
      EventEditRules env db current (body.edited window current) schoolId ∧
      (body.RespellsInstructor current → OwnInstructorRules env.zone db current window) := by
  refine ⟨?_, ?_⟩
  · intro h
    obtain ⟨hd, hc, hs, hv, hw, hf⟩ := h
    refine ⟨⟨?_, fun htheory hch => ?_, ?_, ?_, fun hch => ?_, ?_⟩, fun hown => ⟨?_, ?_⟩⟩
    · rw [edited_timeChanged, edited_start, edited_stop]
      exact hd
    · rw [edited_instructorId]
      exact hc htheory (merged_instructorChanged.mpr (.inl (edited_instructorChanged .. |>.mp hch)))
    · rw [edited_vehicleId]
      exact hs
    · rw [edited_vehicleId, edited_instructorId]
      exact hv
    · rw [edited_timeChanged, edited_instructorChanged] at hch
      rw [edited_instructorId, edited_start, edited_stop]
      exact hw (hch.imp_right fun hne => merged_instructorChanged.mpr (.inl hne))
    · rw [edited_vehicleId, edited_start, edited_stop]
      exact hf
    · rw [← hown.1]
      exact fun htheory => hc htheory (merged_instructorChanged.mpr (.inr hown))
    · rw [← hown.1]
      exact hw (.inr (merged_instructorChanged.mpr (.inr hown)))
  · intro h
    obtain ⟨⟨hd, hc, hs, hv, hw, hf⟩, hrespelled⟩ := h
    simp only [edited_timeChanged, edited_instructorChanged, edited_instructorId, edited_vehicleId,
      edited_start, edited_stop] at hd hc hs hv hw hf
    refine ⟨hd, fun htheory hch => ?_, hs, hv, fun hch => ?_, hf⟩
    · rcases merged_instructorChanged.mp hch with hne | hown
      · exact hc htheory hne
      · exact hown.1 ▸ (hrespelled hown).course htheory
    · rcases hch with htime | hch
      · exact hw (.inl htime)
      · rcases merged_instructorChanged.mp hch with hne | hown
        · exact hw (.inr hne)
        · exact hown.1 ▸ (hrespelled hown).window

/-- The issues of a drive's vehicle: its category and its availability. -/
theorem eventVehicle_issues {current : InstructorEvent} {instructorId : Uuid}
    {vehicleId : Option Uuid} {l : List ScheduleAvailabilityIssue}
    {h : Failure → Except Failure ScheduleAvailabilityIssue}
    (hvehicle : current.type = .drive → vehicleId.isSome = true)
    (hl : issuesFor (if current.type = .drive then vehicleId else none) (fun v => Prog.issues
      (assertEventVehicleFits env current instructorId v) h) db = (.ok l, db')) :
    (∃ p, db' = db.refreshed p) ∧
    (l = [] ↔
      (current.type = .drive → ∀ v, vehicleId = some v → ∀ courseId,
        current.courseId = some courseId → assertVehicleSupportsCourse db v courseId = .ok ()) ∧
      Prog.Succeeds (validateDriveVehicle env current.type instructorId vehicleId true) db) := by
  cases htype : current.type with
  | theory =>
    rw [htype] at hl
    rcases issuesFor_ok hl with ⟨v, hv, _⟩ | ⟨_, rfl, rfl⟩
    · cases hv
    · exact ⟨Refreshed.refl db', iff_of_true rfl ⟨(nomatch ·), validateDriveVehicle_theory⟩⟩
  | drive =>
    obtain ⟨v, rfl⟩ := Option.isSome_iff_exists.mp (hvehicle htype)
    rw [htype] at hl
    rcases issuesFor_ok hl with ⟨v', hv, hl⟩ | ⟨hv, _⟩
    · cases hv
      have hkeep : Prog.Keeps Refreshed (assertEventVehicleFits env current instructorId v) :=
        keeps_bind (keeps_query _) fun _ => validateVehicleForInstructor_keeps env _ _ _
      refine ⟨Prog.issues_store hl ▸ hkeep db, ?_⟩
      rw [Prog.issues_nil_iff_succeeds hl, validateDriveVehicle_drive, assertEventVehicleFits,
        Prog.succeeds_rule_bind, forSome_eq_ok]
      refine and_congr_left fun _ => ⟨fun hs _ v' hv' => ?_, fun hs => hs rfl v rfl⟩
      cases hv'
      exact hs
    · cases hv

theorem eventEditIssues_ok {body : EventEditCheckBody} {window : ScheduleWindow}
    {current : InstructorEvent} {schoolId : Uuid} {issues : List ScheduleAvailabilityIssue}
    (hlt : window.start < window.stop)
    (hvehicle : current.type = .drive → (body.checkedVehicle current).isSome = true)
    (h : eventEditIssues env current body.instructorId.uuid (body.checkedVehicle current) window
      (resolveScheduleDurationPolicy db schoolId (.event current.type))
      ((body.merged window current).timeChanged current)
      ((body.merged window current).instructorChanged current) db = (.ok issues, db')) :
    issues = [] ↔ EventEditRules env db current (body.merged window current) schoolId := by
  unfold eventEditIssues at h
  rw [Prog.bind_eq_ok] at h
  obtain ⟨courseIssues, s1, hcourse, h⟩ := h
  obtain ⟨rfl, hcourseNil⟩ := query_issues hcourse
  rw [Prog.bind_eq_ok] at h
  obtain ⟨vehicleIssues, s2, hvehicleIssues, h⟩ := h
  obtain ⟨⟨p, rfl⟩, hvehicleNil⟩ := eventVehicle_issues hvehicle hvehicleIssues
  simp only [Prog.bind_eq_ok, Prog.transaction_eq_ok, Prog.pure_eq_ok] at h
  obtain ⟨_, _, ⟨windowIssues, s3, hwindow, busyIssues, s4, hbusy, rfl, rfl⟩, rfl, rfl⟩ := h
  have hwindowNil : s3 = s1.refreshed p ∧ (windowIssues = [] ↔
      ((body.merged window current).timeChanged current = true ∨
        (body.merged window current).instructorChanged current = true →
      assertInstructorEventWindowAvailable env.zone s1
        { instructorId := body.instructorId.uuid, start := window.start, stop := window.stop
          eventId := some current.id, checkExistingParticipantsForEventId := some current.id } =
            .ok ())) := by
    rw [← Bool.or_eq_true]
    rcases issuesWhen_ok hwindow with ⟨hch, hl⟩ | ⟨hch, rfl, rfl⟩
    · obtain ⟨hs, hnil⟩ := query_issues hl
      exact ⟨hs, hnil.trans ⟨fun hok _ => hok, fun hok => hok hch⟩⟩
    · exact ⟨rfl, by simp [hch]⟩
  obtain ⟨rfl, hwindowNil⟩ := hwindowNil
  obtain ⟨rfl, hbusyNil⟩ := query_issues hbusy
  have hbusyNil' : busyIssues = [] ↔ (current.type = .drive → ∀ v,
      body.checkedVehicle current = some v → assertVehicleAvailableForEventWindow s1 v window.start
        window.stop (some current.id) = .ok ()) := by
    rw [hbusyNil, onlyIf_eq_ok]
    simp only [forSome_eq_ok]
    rfl
  have hdurationNil : (if (body.merged window current).timeChanged current = true then
      durationIssues window.durationMs
        (resolveScheduleDurationPolicy s1 schoolId (.event current.type)) else []) = [] ↔
      ((body.merged window current).timeChanged current = true → ∃ policy,
        assertScheduleDurationAllowed s1 schoolId (.event current.type) window.start window.stop =
          .ok policy) := by
    rw [scheduleDurationAllowed_iff hlt]
    split
    · next hch => exact ⟨fun hok _ => hok, fun hok => hok hch⟩
    · next hch => simp [hch]
  rw [onlyIf_eq_ok] at hcourseNil
  simp only [forSome_eq_ok, and_imp] at hcourseNil
  simp only [List.append_eq_nil_iff, hdurationNil, hcourseNil, hvehicleNil, hwindowNil, hbusyNil']
  refine ⟨?_, ?_⟩
  · intro h
    obtain ⟨⟨⟨hd, hc⟩, hs, hv⟩, hw, hb⟩ := h
    exact ⟨hd, hc, hs, hv, hw, hb⟩
  · intro h
    obtain ⟨hd, hc, hs, hv, hw, hb⟩ := h
    exact ⟨⟨⟨hd, hc⟩, hs, hv⟩, hw, hb⟩

/-- The request differs from the event in time, or in the text of its instructor or vehicle. -/
def EventEditCheckBody.Changes (body : EventEditCheckBody) (window : ScheduleWindow)
    (current : InstructorEvent) : Prop :=
  (body.merged window current).timeChanged current = true ∨
    (body.merged window current).vehicleChanged current = true ∨
    (body.merged window current).instructorChanged current = true

theorem EventEditCheckBody.unchanged_iff (body : EventEditCheckBody) (window : ScheduleWindow)
    (current : InstructorEvent) :
    (!decide (window.start ≠ current.startTime ∨ window.stop ≠ current.endTime) &&
      !decide (body.instructorId ≠ .ofUuid current.instructorId) &&
      !decide (body.checkedVehicleId current ≠ current.vehicleId.map .ofUuid)) = true ↔
      ¬body.Changes window current := by
  simp only [Changes, MergedEvent.timeChanged, MergedEvent.vehicleChanged,
    MergedEvent.instructorChanged, merged, Bool.and_eq_true, Bool.not_eq_true', not_or,
    Bool.not_eq_true]
  exact ⟨fun ⟨⟨ht, hi⟩, hv⟩ => ⟨ht, hv, hi⟩, fun ⟨ht, hv, hi⟩ => ⟨⟨ht, hi⟩, hv⟩⟩

/-- What the check of an edit has established when it answers. -/
structure EventEditChecked (env : Env) (actor : Actor) (body : EventEditCheckBody) (db : Db)
    (current : InstructorEvent) (window : ScheduleWindow) (schoolId : Uuid) : Prop where
  found : db.instructorEvents.findUnique body.eventId = some current
  active : current.isActive = true
  actor_allowed : assertActorCanManageAvailability db actor current.instructorId = .ok ()
  instructor_allowed : body.instructorId ≠ .ofUuid current.instructorId →
    assertActorCanManageAvailability db actor body.instructorId.uuid = .ok () ∧
    resolveActiveInstructorProfile db body.instructorId.uuid = .ok ()
  theory_has_no_vehicle : ¬(current.type = .theory ∧ body.vehicleId ≠ none)
  drive_has_vehicle : current.type = .drive → (body.checkedVehicle current).isSome = true
  parsed : body.parse env.zone = .ok window
  school : resolveInstructorEventSchoolId db body.instructorId.uuid current.courseId
    (body.checkedVehicle current) = .ok schoolId

theorem checkEventEdit_ok {actor : Actor} {body : EventEditCheckBody}
    {answer : ScheduleAvailabilityAnswer}
    (h : checkEventEditAvailability env actor body db = (.ok answer, db')) :
    ∃ current window schoolId, EventEditChecked env actor body db current window schoolId ∧
      (answer.available = true ↔ body.Changes window current →
        EventEditRules env db current (body.merged window current) schoolId) := by
  simp only [checkEventEditAvailability, Prog.query_bind_eq_ok, Prog.lift_bind_eq_ok,
    orThrow_eq_ok, onlyIf_eq_ok, throwIf_eq_ok, except_bind_eq_ok, Option.filter_eq_some_iff,
    decide_eq_true_eq, Except.ok.injEq] at h
  obtain ⟨current, ⟨hfound, hactive⟩, _, hactor, _, hinstructor, _, htheory, window, hparse, _,
    hdrive, schoolId, hschool, policy, rfl, h⟩ := h
  have hvehicle : current.type = .drive → (body.checkedVehicle current).isSome = true := by
    intro htype
    rw [EventEditCheckBody.checkedVehicle, Option.isSome_map, Option.isSome_iff_ne_none]
    exact fun hnone => hdrive ⟨htype, hnone⟩
  refine ⟨current, window, schoolId, ⟨hfound, hactive, hactor, fun hne => ?_, htheory, hvehicle,
    hparse, hschool⟩, ?_⟩
  · obtain ⟨_, h1, h2⟩ := hinstructor hne
    exact ⟨h1, h2⟩
  have hlt := parse_start_before_end hparse
  split at h
  · next hsame =>
    rw [Prog.pure_eq_ok] at h
    rw [← h.1]
    exact iff_of_true rfl fun hchanges => absurd hchanges ((body.unchanged_iff _ _).mp hsame)
  · next hdiff =>
    simp only [Prog.bind_eq_ok, Prog.pure_eq_ok] at h
    obtain ⟨issues, _, hissues, rfl, _⟩ := h
    rw [List.isEmpty_iff, eventEditIssues_ok hlt hvehicle hissues]
    have hchanges : body.Changes window current :=
      not_not.mp fun hsame => hdiff ((body.unchanged_iff _ _).mpr hsame)
    exact ⟨fun hrules _ => hrules, fun hrules => hrules hchanges⟩

theorem eventVehicle_issues_run {current : InstructorEvent} {instructorId : Uuid}
    {vehicleId : Option Uuid} {h : Failure → Except Failure ScheduleAvailabilityIssue}
    (hsupports : current.type = .drive → ∀ v, vehicleId = some v → ∀ courseId,
      current.courseId = some courseId → assertVehicleSupportsCourse db v courseId = .ok ())
    (hval : Prog.Succeeds (validateDriveVehicle env current.type instructorId vehicleId true) db) :
    ∃ p, issuesFor (if current.type = .drive then vehicleId else none) (fun v => Prog.issues
      (assertEventVehicleFits env current instructorId v) h) db = (.ok [], db.refreshed p) := by
  obtain ⟨_, t, hval⟩ := hval
  obtain ⟨p, rfl⟩ := (validateDriveVehicle_keeps env _ _ _ _).run hval
  refine ⟨p, ?_⟩
  rcases validateDriveVehicle_eq_ok.mp hval with ⟨htype, v, rfl, hv⟩ | ⟨htype, heq⟩
  · rw [if_pos htype]
    refine Prog.issues_run (Prog.query_bind_eq_ok.mpr ⟨(), ?_, hv⟩)
    exact (forSome_eq_ok _ _ _).mpr (hsupports htype v rfl)
  · rw [if_neg htype, ← heq]
    rfl

theorem eventEditIssues_run {current : InstructorEvent} {merged : MergedEvent} {schoolId : Uuid}
    {window : ScheduleWindow} (hstart : merged.start = window.start)
    (hstop : merged.stop = window.stop) (hlt : window.start < window.stop)
    (hrules : EventEditRules env db current merged schoolId) :
    ∃ t, eventEditIssues env current merged.instructorId.uuid
      (merged.vehicleId.map UuidText.uuid) window
      (resolveScheduleDurationPolicy db schoolId (.event current.type))
      (merged.timeChanged current) (merged.instructorChanged current) db = (.ok [], t) := by
  obtain ⟨p, hvehicleIssues⟩ := eventVehicle_issues_run hrules.vehicle_supports hrules.vehicle
  have hduration : (if merged.timeChanged current = true then durationIssues window.durationMs
      (resolveScheduleDurationPolicy db schoolId (.event current.type)) else []) = [] := by
    split
    · next hch =>
      apply (scheduleDurationAllowed_iff hlt).mp
      rw [← hstart, ← hstop]
      exact hrules.duration hch
    · rfl
  have hlate : Prog.transaction (do
      let windowIssues ← issuesWhen (merged.timeChanged current || merged.instructorChanged current)
        (Prog.issues (Prog.query fun db => assertInstructorEventWindowAvailable env.zone db
          { instructorId := merged.instructorId.uuid, start := window.start, stop := window.stop
            eventId := some current.id, checkExistingParticipantsForEventId := some current.id })
        (scheduleIssueCode [.participantBusy, .instructorBusy, .outsideInstructorHours]
          .instructorId))
      let busyIssues ← Prog.issues (Prog.query fun db =>
          onlyIf (current.type = .drive) (forSome (merged.vehicleId.map UuidText.uuid)
            fun vehicleId => assertVehicleAvailableForEventWindow db vehicleId window.start
              window.stop (some current.id)))
        (scheduleIssueCode [.vehicleBusy] .vehicleId)
      return windowIssues ++ busyIssues) (db.refreshed p) = (.ok [], db.refreshed p) := by
    rw [← hstart, ← hstop]
    refine Prog.transaction_eq_ok.mpr (Prog.bind_eq_ok.mpr ⟨[], _, issuesWhen_run fun hch => ?_,
      Prog.bind_eq_ok.mpr ⟨[], _, query_issues_run ?_, rfl⟩⟩)
    · rw [Bool.or_eq_true] at hch
      exact query_issues_run (hrules.window hch)
    · simp only [onlyIf_eq_ok, forSome_eq_ok]
      exact hrules.vehicle_free
  refine ⟨db.refreshed p, Prog.bind_eq_ok.mpr ⟨[], db, query_issues_run ?_,
    Prog.bind_eq_ok.mpr ⟨[], _, hvehicleIssues, Prog.bind_eq_ok.mpr ⟨[], _, hlate, ?_⟩⟩⟩⟩
  · simp only [onlyIf_eq_ok, forSome_eq_ok, and_imp]
    exact hrules.course
  · rw [hduration]
    rfl

/-- A check of an edit announces exactly what the rules on the changes admit. -/
theorem checkEventEdit_available_iff {actor : Actor} {body : EventEditCheckBody} :
    AnswersAvailable (checkEventEditAvailability env actor body) db ↔
      ∃ current window schoolId, EventEditChecked env actor body db current window schoolId ∧
        (body.Changes window current →
          EventEditRules env db current (body.merged window current) schoolId) := by
  refine ⟨?_, ?_⟩
  · intro h
    obtain ⟨answer, t, h, havailable⟩ := h
    obtain ⟨current, window, schoolId, hchecked, hiff⟩ := checkEventEdit_ok h
    exact ⟨current, window, schoolId, hchecked, hiff.mp havailable⟩
  · intro h
    obtain ⟨current, window, schoolId, hchecked, hrules⟩ := h
    have hsucceeds : Prog.Succeeds (checkEventEditAvailability env actor body) db := by
      simp only [checkEventEditAvailability, Prog.succeeds_query_bind, Prog.succeeds_lift_bind,
        orThrow_eq_ok, onlyIf_eq_ok, throwIf_eq_ok, except_bind_eq_ok, Option.filter_eq_some_iff,
        decide_eq_true_eq]
      refine ⟨current, ⟨hchecked.found, hchecked.active⟩, (), hchecked.actor_allowed, (),
        fun hne => ⟨(), hchecked.instructor_allowed hne⟩, (), hchecked.theory_has_no_vehicle,
        window, hchecked.parsed, (), ?_, schoolId, hchecked.school, _, rfl, ?_⟩
      · intro h
        obtain ⟨htype, hnone⟩ := h
        have hsome := hchecked.drive_has_vehicle htype
        rw [EventEditCheckBody.checkedVehicle, hnone] at hsome
        cases hsome
      · split
        · exact ⟨_, _, rfl⟩
        · next hdiff =>
          have hchanges : body.Changes window current :=
            not_not.mp fun hsame => hdiff ((body.unchanged_iff _ _).mpr hsame)
          obtain ⟨t, hissues⟩ := eventEditIssues_run rfl rfl
            (parse_start_before_end hchecked.parsed) (hrules hchanges)
          exact ⟨_, t, Prog.bind_eq_ok.mpr ⟨[], t, hissues, rfl⟩⟩
    obtain ⟨answer, t, h⟩ := hsucceeds
    obtain ⟨current', window', schoolId', hchecked', hiff⟩ := checkEventEdit_ok h
    cases hchecked.found.symm.trans hchecked'.found
    cases hchecked.parsed.symm.trans hchecked'.parsed
    cases hchecked.school.symm.trans hchecked'.school
    exact ⟨answer, t, h, hiff.mpr hrules⟩

/-- The request names another time, another vehicle or another instructor. -/
def EventEditCheckBody.Alters (body : EventEditCheckBody) (window : ScheduleWindow)
    (current : InstructorEvent) : Prop :=
  (body.merged window current).timeChanged current = true ∨
    body.checkedVehicle current ≠ current.vehicleId ∨
    body.instructorId.uuid ≠ current.instructorId

theorem EventEditCheckBody.Alters.changes {body : EventEditCheckBody} {window : ScheduleWindow}
    {current : InstructorEvent} (h : body.Alters window current) : body.Changes window current := by
  rcases h with htime | hvehicle | hinstructor
  · exact .inl htime
  · refine .inr (.inl (decide_eq_true fun heq => hvehicle ?_))
    rw [EventEditCheckBody.checkedVehicle, ← UuidText.map_uuid_ofUuid current.vehicleId]
    exact congrArg _ heq
  · exact .inr (.inr (merged_instructorChanged.mpr (.inl hinstructor)))

theorem vehicleMatters_of_alters {body : EventEditCheckBody} {window : ScheduleWindow}
    {u : PreparedEventUpdate} (hmerged : u.merged = body.edited window u.current)
    (halters : body.Alters window u.current) : u.vehicleMatters = true := by
  rw [PreparedEventUpdate.vehicleMatters_eq_true, hmerged, edited_timeChanged,
    edited_vehicleChanged, edited_instructorChanged]
  rcases halters with h | h | h
  · exact .inl h
  · exact .inr (.inl h)
  · exact .inr (.inr (.inr h))

theorem EventEditChecked.prepares {actor : Actor} {body : EventEditCheckBody}
    {current : InstructorEvent} {window : ScheduleWindow} {schoolId : Uuid}
    (hchecked : EventEditChecked env actor body db current window schoolId)
    (hrules : EventEditRules env db current (body.edited window current) schoolId) :
    PrepareEventRules actor body.eventId (body.update window current) db
      ⟨current, body.edited window current, schoolId⟩ := by
  have hset {instructorId : UuidText}
      (hbody : (body.update window current).instructorId = some instructorId) :
      body.instructorId.uuid ≠ current.instructorId ∧ body.instructorId = instructorId := by
    simpa [EventEditCheckBody.update] using hbody
  refine ⟨hchecked.found, hchecked.active, hchecked.actor_allowed, ?_, rfl, ?_, ?_⟩
  · intro instructorId hbody _
    obtain ⟨hne, rfl⟩ := hset hbody
    exact hchecked.instructor_allowed (UuidText.ne_ofUuid_of_uuid_ne hne)
  · rw [edited_start, edited_stop]
    exact parse_start_before_end hchecked.parsed
  · rintro courseId hc ⟨htheory, hsome⟩
    refine hrules.course htheory ?_ courseId hc
    rw [edited_instructorChanged]
    obtain ⟨instructorId, hbody⟩ := Option.ne_none_iff_exists'.mp (hsome.resolve_right (by
      simp [EventEditCheckBody.update]))
    exact (hset hbody).1

/-- An edit of exactly the changed fields runs the rules of what it changes. -/
theorem updateInstructorEvent_succeeds_iff {actor : Actor} {body : EventEditCheckBody}
    {current : InstructorEvent} {window : ScheduleWindow} {schoolId : Uuid}
    (hchecked : EventEditChecked env actor body db current window schoolId)
    (hstatus : current.status ≠ .cancelled)
    (hcapacity : assertEventCapacityFitsParticipants db body.eventId current.capacity = .ok ())
    (halters : body.Alters window current) :
    Prog.Succeeds (updateInstructorEvent env actor body.eventId (body.update window current)) db ↔
      EventEditRules env db current (body.edited window current) schoolId := by
  have hid : current.id = body.eventId := Table.key_of_findUnique hchecked.found
  have hresolved := resolvedVehicleId_edited body window current
  refine ⟨?_, ?_⟩
  · intro h
    obtain ⟨dto, t, hok⟩ := h
    obtain ⟨u, p, hprep, hschool, hval, hrules, _⟩ := (updateInstructorEvent_eq_ok ..).mp hok
    obtain ⟨ucurrent, umerged, uschool⟩ := u
    have hcurrent : ucurrent = current := by
      have hfound := hprep.found.symm.trans hchecked.found
      simpa using hfound
    subst hcurrent
    obtain rfl : umerged = body.edited window ucurrent := hprep.merged
    have hmatters := vehicleMatters_of_alters
      (show (⟨ucurrent, body.edited window ucurrent, uschool⟩ : PreparedEventUpdate).merged =
        body.edited window ucurrent from rfl) halters
    rw [hmatters] at hval
    rw [hresolved, edited_instructorId] at hschool
    cases hchecked.school.symm.trans hschool
    refine ⟨fun hch => hrules.duration (Or.inl hch), fun htheory hch courseId hc => ?_,
      fun hd v hv courseId hc => ?_, ⟨(), _, hval⟩, fun hch => ?_, fun hd v hv => ?_⟩
    · refine hprep.course courseId hc ⟨htheory, Or.inl ?_⟩
      have hne := (edited_instructorChanged ..).mp hch
      simp [EventEditCheckBody.update, hne]
    · rw [edited_vehicleId, ← hresolved] at hv
      exact hrules.vehicle_supports hd hstatus courseId hc v hv
    · exact hid ▸ hrules.window hch
    · rw [edited_vehicleId, ← hresolved] at hv
      exact hid ▸ hrules.vehicle_free hd hmatters v hv
  · intro hrules
    let u : PreparedEventUpdate := ⟨current, body.edited window current, schoolId⟩
    have hmatters : u.vehicleMatters = true := vehicleMatters_of_alters rfl halters
    obtain ⟨_, t, hval⟩ := hrules.vehicle
    obtain ⟨p, rfl⟩ := (validateDriveVehicle_keeps env _ _ _ _).run hval
    have hvehicle (v : Uuid) (hv : u.merged.resolvedVehicleId = some v) :
        (body.edited window current).vehicleId.map UuidText.uuid = some v := by
      rw [edited_vehicleId, ← hresolved]
      exact hv
    have hwrite : EventUpdateRules env.zone db body.eventId (body.update window current) u := by
      refine ⟨fun hd _ courseId hc v hv => ?_, fun hch => ?_, fun hch => ?_, fun hd _ v hv => ?_,
        hcapacity⟩
      · exact hrules.vehicle_supports hd v (hvehicle v hv) courseId hc
      · exact hrules.duration (hch.resolve_right (by simp [EventEditCheckBody.update]))
      · exact hid ▸ hrules.window hch
      · exact hid ▸ hrules.vehicle_free hd v (hvehicle v hv)
    have hschool : resolveInstructorEventSchoolId db u.merged.instructorId.uuid u.merged.courseId
        u.merged.resolvedVehicleId = .ok u.schoolId := by
      rw [hresolved, edited_instructorId]
      exact hchecked.school
    exact ⟨_, _, (updateInstructorEvent_eq_ok ..).mpr ⟨u, p, hchecked.prepares hrules, hschool,
      hmatters.symm ▸ hval, hwrite, rfl, rfl⟩⟩

/-! ### The checks and the writes -/

/-- Whenever a check of a new event answers, its answer is what the write would say. The check of
an edit does the same, unless the request respells the event's own instructor, only the rules of
another instructor refuse him, and the edit runs none of them. -/
theorem eventChecks_agree_iff (env : Env) (actor : Actor) (db db' : Db)
    (answer : ScheduleAvailabilityAnswer) :
    (∀ body : EventCreateCheckBody, (body.eventType = .drive → body.vehicleId.isSome = true) →
      checkEventCreateAvailability env actor body db = (.ok answer, db') →
      ∃ window, body.parse env.zone = .ok window ∧
        (answer.available = true ↔
          Prog.Succeeds (createInstructorEvent env actor (body.create window)) db)) ∧
    (∀ body : EventEditCheckBody,
      checkEventEditAvailability env actor body db = (.ok answer, db') →
      ∃ current window schoolId, db.instructorEvents.findUnique body.eventId = some current ∧
        body.parse env.zone = .ok window ∧
        resolveInstructorEventSchoolId db body.instructorId.uuid current.courseId
          (body.checkedVehicle current) = .ok schoolId ∧
        (current.status ≠ .cancelled →
          (∀ capacity, current.capacity = some capacity →
            ((eventStudentIds db body.eventId).length : ℤ) ≤ capacity) →
          body.Alters window current →
          ((answer.available = true ↔ Prog.Succeeds
              (updateInstructorEvent env actor body.eventId (body.update window current)) db) ↔
            (body.RespellsInstructor current →
              EventEditRules env db current (body.edited window current) schoolId →
                OwnInstructorRules env.zone db current window)))) := by
  refine ⟨fun body hvehicle h => ?_, fun body h => ?_⟩
  · obtain ⟨window, hparse, havailable⟩ := checkEventCreate_ok hvehicle h
    refine ⟨window, hparse, ?_⟩
    rw [havailable, createInstructorEvent_succeeds]
    rfl
  · obtain ⟨current, window, schoolId, hchecked, havailable⟩ := checkEventEdit_ok h
    refine ⟨current, window, schoolId, hchecked.found, hchecked.parsed, hchecked.school,
      fun hstatus hfits halters => ?_⟩
    have hcapacity :
        assertEventCapacityFitsParticipants db body.eventId current.capacity = .ok () := by
      rw [assertEventCapacityFitsParticipants, forSome_eq_ok]
      intro capacity hc
      rw [throwIf_eq_ok, not_lt]
      exact hfits capacity hc
    have hrules : answer.available = true ↔
        EventEditRules env db current (body.edited window current) schoolId ∧
        (body.RespellsInstructor current → OwnInstructorRules env.zone db current window) := by
      rw [havailable, ← eventEditRules_merged]
      exact ⟨fun hrules => hrules halters.changes, fun hrules _ => hrules⟩
    rw [hrules, updateInstructorEvent_succeeds_iff hchecked hstatus hcapacity halters]
    exact ⟨fun hagree hown hedit => (hagree.mpr hedit).2 hown,
      fun hcond => ⟨And.left, fun hedit => ⟨hedit, fun hown => hcond hown hedit⟩⟩⟩

end

namespace SmallSchool

def eventCreateCheck (hour : ℤ) : EventCreateCheckBody where
  date := 5
  startTime := hour * 60
  endTime := hour * 60 + 60
  instructorId := 20
  eventType := .drive
  vehicleId := some 40

def eventEditCheck (hour : ℤ) : EventEditCheckBody where
  date := 5
  startTime := hour * 60
  endTime := hour * 60 + 60
  eventId := 60
  instructorId := 20
  vehicleId := some 40

end SmallSchool

open SmallSchool in
/-- A second drive on the day can be created and the first one can be moved to the afternoon, as
the checks say. -/
theorem eventChecks_agree_afternoon :
    Prog.Succeeds (createInstructorEvent (envAt (clock 4 8 0)) manager
      ((eventCreateCheck 14).create ⟨clock 5 14 0, clock 5 15 0⟩)) withTuesdayEvent ∧
    Prog.Succeeds (updateInstructorEvent (envAt (clock 4 8 0)) manager 60
      ((eventEditCheck 14).update ⟨clock 5 14 0, clock 5 15 0⟩ tuesdayEvent)) withTuesdayEvent := by
  refine ⟨?_, ?_⟩
  · obtain ⟨answer, t, h⟩ : Prog.Succeeds (checkEventCreateAvailability (envAt (clock 4 8 0))
      manager (eventCreateCheck 14)) withTuesdayEvent := by decide
    have havailable : ((checkEventCreateAvailability (envAt (clock 4 8 0)) manager
        (eventCreateCheck 14) withTuesdayEvent).1.toOption.any (·.available)) = true := by decide
    rw [h] at havailable
    obtain ⟨window, hparse, hiff⟩ :=
      (eventChecks_agree_iff _ _ _ _ _).1 (eventCreateCheck 14) (fun _ => rfl) h
    cases hparse
    exact hiff.mp havailable
  · obtain ⟨answer, t, h⟩ : Prog.Succeeds (checkEventEditAvailability (envAt (clock 4 8 0))
      manager (eventEditCheck 14)) withTuesdayEvent := by decide
    have havailable : ((checkEventEditAvailability (envAt (clock 4 8 0)) manager
        (eventEditCheck 14) withTuesdayEvent).1.toOption.any (·.available)) = true := by decide
    rw [h] at havailable
    obtain ⟨current, window, schoolId, hfound, hparse, -, hiff⟩ :=
      (eventChecks_agree_iff _ _ _ _ _).2 (eventEditCheck 14) h
    cases hfound
    cases hparse
    refine ((hiff (by decide) ?_ (Or.inl (by decide))).mpr fun hown => ?_).mp havailable
    · intro capacity hcapacity
      cases hcapacity
    · exact absurd (UuidText.stored_ofUuid 20) hown.2

namespace SmallSchool

def unqualifiedLecture : InstructorEvent where
  id := 60
  instructorId := 26
  schoolId := 10
  courseId := some 50
  type := .theory
  startTime := clock 5 10 0
  endTime := clock 5 11 0

/-- The lecturer has lost the category of the course since. -/
def withUnqualifiedLecturer : Db :=
  { SmallSchool.db .empty ⟨[unqualifiedLecture], List.nodup_singleton _⟩ with
    instructorProfiles :=
      ⟨[{ id := 26, userId := 2, qualifiedCourseTypes := [] }], List.nodup_singleton _⟩
    instructorSchools := ⟨[⟨26, 10⟩], List.nodup_singleton _⟩
    workingHoursDefault := ⟨weekdays 26, by decide⟩ }

/-- The lecture in the afternoon, with the last digit of the lecturer's id as a capital A. -/
def capitalCheck : EventEditCheckBody where
  date := 5
  startTime := 14 * 60
  endTime := 15 * 60
  eventId := 60
  instructorId := { uuid := 26, capitals := {0} }

end SmallSchool

open SmallSchool in
/-- Only the time changes and the edit succeeds; the check asks the course of another instructor
and refuses. -/
theorem eventEditCheck_refuses_respelled :
    capitalCheck.Alters ⟨clock 5 14 0, clock 5 15 0⟩ unqualifiedLecture ∧
    capitalCheck.instructorId.uuid = unqualifiedLecture.instructorId ∧
    capitalCheck.checkedVehicle unqualifiedLecture = unqualifiedLecture.vehicleId ∧
    (checkEventEditAvailability (envAt (clock 4 8 0)) manager capitalCheck
        withUnqualifiedLecturer).1.toOption.map (fun answer => (answer.available, answer.issues)) =
      some (false, [{ code := .courseNotEligible, field := .courseId }]) ∧
    Prog.Succeeds (updateInstructorEvent (envAt (clock 4 8 0)) manager 60
      (capitalCheck.update ⟨clock 5 14 0, clock 5 15 0⟩ unqualifiedLecture)) withUnqualifiedLecturer :=
  ⟨Or.inl (by decide), rfl, rfl, by decide, by decide⟩

end OSK
