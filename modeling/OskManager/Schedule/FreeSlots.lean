import OskManager.Model.EventConflicts
import OskManager.Schedule.VehicleRefresh

/-! What the conflict rules establish: each passes exactly when the resource it looks up is open
in the calendar, and a record whose resources are all open fits into it. -/

namespace OSK

open Relational Booking

theorem mem_eventStudentIds (db : Db) (eventId s : Uuid) :
    s ∈ eventStudentIds db eventId ↔ (eventId, s) ∈ db.eventParticipants.keys := by
  simp only [eventStudentIds, List.mem_map, Table.mem_findMany, Table.mem_keys, Prod.mk.injEq,
    decide_eq_true_eq, and_assoc]

section Rules

variable {zone : PolishZone} {db : Db} {start stop : Instant}

/-- What holds of every participation of a student holds of every event of the student. -/
theorem forall_participation_iff {s : Uuid} {P : InstructorEvent → Prop} :
    (∀ p ∈ db.eventParticipants.rows, p.studentId = s →
      ∀ e, db.instructorEvents.findUnique p.eventId = some e → P e) ↔
      ∀ e ∈ db.instructorEvents.rows, (e.id, s) ∈ db.eventParticipants.keys → P e := by
  refine ⟨?_, ?_⟩
  · intro h e he hs
    obtain ⟨p, hp, hk⟩ := (Table.mem_keys _ _).mp hs
    rw [Prod.mk.injEq] at hk
    exact h p hp hk.2 e (hk.1 ▸ Table.findUnique_of_mem he)
  · intro h p hp hs e he
    refine h e (Table.mem_of_findUnique he) ((Table.mem_keys _ _).mpr ⟨p, hp, ?_⟩)
    rw [Table.key_of_findUnique he, hs]

theorem participation_busy_eq_false {p : EventParticipant} {excl : Option Uuid} :
    p.busyDuring db start stop excl = false ↔
      ∀ e, db.instructorEvents.findUnique p.eventId = some e →
        e.busyDuring start stop excl = false := by
  rw [EventParticipant.busyDuring, ← Bool.not_eq_true, Option.any_eq_true]
  simp only [not_exists, not_and, Bool.not_eq_true]

theorem student_open_iff {s : Uuid} {excl : Option Uuid} :
    assertStudentNoScheduleOverlap db s start stop excl = .ok () ↔
      (calendar db).Open (skipped excl none) start stop (.student s) := by
  rw [open_iff_not_busy (Or.inr rfl)]
  simp only [assertStudentNoScheduleOverlap, except_bind_eq_ok, throwIf_eq_ok,
    Table.findFirst_missed, exists_const, participation_busy_eq_false]
  exact and_congr_right fun _ => forall_participation_iff

theorem lessonWindow_iff {params : LessonWindowParams} :
    assertLessonSchedulingWindowAvailable zone db params = .ok () ↔
      (calendar db).Open (skipped params.excludeLessonId none) params.start params.stop
        (.student params.studentProfileId) ∧
      assertCourseDrivingPackageHoursAllowNewLesson db params.courseId params.studentProfileId
        params.courseKind params.totalHours params.start params.stop params.excludeLessonId =
          .ok () ∧
      (calendar db).Open (skipped params.excludeLessonId none) params.start params.stop
        (.instructor params.instructorId) ∧
      assertInstructorTimeWindowAvailable zone db params.instructorId params.start params.stop none
        params.excludeLessonId = .ok () := by
  rw [← student_open_iff, open_iff_not_busy (Or.inr rfl)]
  simp only [assertLessonSchedulingWindowAvailable, except_bind_eq_ok, throwIf_eq_ok,
    Table.findFirst_missed, Unique.exists_iff, and_assoc]
  rfl

theorem vehicle_open_iff {vehicleId : Uuid} {excl : Option Uuid} :
    vehicleHasBookingConflict db vehicleId start stop excl = false ↔
      (calendar db).Open (skipped excl none) start stop (.vehicle vehicleId) := by
  rw [open_iff_not_busy (Or.inr rfl), vehicleHasBookingConflict, Bool.or_eq_false_iff,
    ← Bool.not_eq_true, ← Bool.not_eq_true, Table.findFirst_missed, Table.findFirst_missed]
  rfl

theorem eventVehicle_open_iff {vehicleId : Uuid} {excl : Option Uuid} :
    assertVehicleAvailableForEventWindow db vehicleId start stop excl = .ok () ↔
      (calendar db).Open (skipped none excl) start stop (.vehicle vehicleId) := by
  rw [open_iff_not_busy (Or.inl rfl)]
  simp only [assertVehicleAvailableForEventWindow, except_bind_eq_ok, throwIf_eq_ok,
    Table.findFirst_missed, exists_const]
  rfl

/-- The lookup of conflicting students, one student at a time. -/
theorem mem_conflictingStudents {eventId s : Uuid} {ids : List Uuid} :
    s ∈ findStudentProfileIdsWithScheduleConflictsForEventWindow db eventId start stop ids ↔
      s ∈ ids ∧
      ((∃ l ∈ db.lessons.rows, l.studentId = s ∧ l.busyDuring start stop none = true) ∨
        ∃ p ∈ db.eventParticipants.rows, p.studentId = s ∧ p.eventId ≠ eventId ∧
          p.busyDuring db start stop none = true) := by
  simp only [findStudentProfileIdsWithScheduleConflictsForEventWindow, List.mem_append,
    List.mem_map, Table.mem_findMany, Bool.and_eq_true, decide_eq_true_eq]
  refine ⟨?_, ?_⟩
  · intro h
    rcases h with ⟨l, ⟨hm, hs, hb⟩, rfl⟩ | ⟨p, ⟨hm, ⟨hs, hne⟩, hb⟩, rfl⟩
    · exact ⟨hs, Or.inl ⟨l, hm, rfl, hb⟩⟩
    · exact ⟨hs, Or.inr ⟨p, hm, rfl, hne, hb⟩⟩
  · intro h
    rcases h with ⟨hs, ⟨l, hm, rfl, hb⟩ | ⟨p, hm, rfl, hne, hb⟩⟩
    · exact Or.inl ⟨l, ⟨hm, hs, hb⟩, rfl⟩
    · exact Or.inr ⟨p, ⟨hm, ⟨hs, hne⟩, hb⟩, rfl⟩

/-- Leaving an event out of the lookup is the same as not counting it as busy. -/
theorem busyDuring_exclude {e : InstructorEvent} {eventId : Uuid} :
    e.busyDuring start stop (some eventId) = false ↔
      e.id ≠ eventId → e.busyDuring start stop none = false := by
  rw [← Bool.not_eq_true, ← Bool.not_eq_true, InstructorEvent.busyDuring_eq_true,
    InstructorEvent.busyDuring_eq_true]
  refine ⟨?_, ?_⟩
  · exact fun h hne hbusy => h ⟨hbusy.1, hbusy.2.1, fun heq => hne (Option.some.inj heq).symm⟩
  · exact fun h hbusy => h (fun heq => hbusy.2.2 (congrArg some heq.symm)) ⟨hbusy.1, hbusy.2.1, nofun⟩

theorem participant_open_iff {eventId s : Uuid} {ids : List Uuid} (hs : s ∈ ids) :
    s ∉ findStudentProfileIdsWithScheduleConflictsForEventWindow db eventId start stop ids ↔
      (calendar db).Open (skipped none (some eventId)) start stop (.student s) := by
  rw [mem_conflictingStudents, open_iff_not_busy (Or.inl rfl)]
  simp only [hs, true_and, not_or, not_exists, not_and, Bool.not_eq_true,
    participation_busy_eq_false, busyDuring_exclude]
  refine and_congr_right fun _ => Iff.trans ?_ forall_participation_iff
  refine forall₂_congr fun p _ => forall_congr' fun _ => ?_
  refine ⟨?_, ?_⟩
  · exact fun h e he hne => h (Table.key_of_findUnique he ▸ hne) e he
  · exact fun h hne e he => h e he ((Table.key_of_findUnique he).symm ▸ hne)

theorem existingParticipants_iff {eventId : Uuid} :
    assertExistingParticipantsHaveFreeWindow db eventId start stop = .ok () ↔
      ∀ s, (eventId, s) ∈ db.eventParticipants.keys →
        (calendar db).Open (skipped none (some eventId)) start stop (.student s) := by
  rw [assertExistingParticipantsHaveFreeWindow, throwIf_eq_ok, not_not,
    List.eq_nil_iff_forall_not_mem]
  apply forall_congr'
  intro s
  rw [← mem_eventStudentIds]
  refine ⟨?_, ?_⟩
  · exact fun h hs => (participant_open_iff hs).mp h
  · exact fun h hs => (participant_open_iff (mem_conflictingStudents.mp hs).1).mpr
      (h (mem_conflictingStudents.mp hs).1) hs

theorem eventWindow_iff {params : EventWindowParams} :
    assertInstructorEventWindowAvailable zone db params = .ok () ↔
      (calendar db).Open (skipped none params.eventId) params.start params.stop
        (.instructor params.instructorId) ∧
      assertInstructorTimeWindowAvailable zone db params.instructorId params.start params.stop
        params.eventId = .ok () ∧
      ∀ eventId, params.checkExistingParticipantsForEventId = some eventId →
        ∀ s, (eventId, s) ∈ db.eventParticipants.keys →
          (calendar db).Open (skipped none (some eventId)) params.start params.stop
            (.student s) := by
  rw [open_iff_not_busy (Or.inl rfl)]
  simp only [assertInstructorEventWindowAvailable, except_bind_eq_ok, throwIf_eq_ok,
    Table.findFirst_missed, Unique.exists_iff, forSome_eq_ok, existingParticipants_iff, and_assoc]
  rfl

end Rules

/-! ### Records that fit -/

theorem skipped_lesson (id : Uuid) (j : RecordId) (h : skipped (some id) none = some j) :
    j = .lesson id := by
  simpa [skipped, eq_comm] using h

theorem skipped_event (id : Uuid) (j : RecordId) (h : skipped none (some id) = some j) :
    j = .event id := by
  simpa [skipped, eq_comm] using h

theorem skipped_none (i j : RecordId) (h : skipped none none = some j) : j = i := by
  simp [skipped] at h

end OSK
