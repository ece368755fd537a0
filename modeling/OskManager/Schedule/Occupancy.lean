import OskManager.Lib.Calendar
import OskManager.Model.InstructorAvailability

/-! What the schedule is about: every lesson that is not cancelled and every active event
that is not cancelled holds its instructor, its vehicle and its students for an interval. -/

namespace OSK

open Relational Booking

inductive RecordId where
  | lesson (id : Uuid)
  | event (id : Uuid)
  deriving DecidableEq

inductive Resource where
  | instructor (id : Uuid)
  | vehicle (id : Uuid)
  | student (id : Uuid)
  deriving DecidableEq

def Lesson.entry (l : Lesson) : Entry Instant Resource where
  start := l.startTime
  stop := l.endTime
  uses := fun
    | .instructor i => l.instructorId = i
    | .vehicle v => l.vehicleId = some v
    | .student s => l.studentId = s

/-- The students of an event are its participants; only a drive holds its vehicle. -/
def InstructorEvent.entry (db : Db) (e : InstructorEvent) : Entry Instant Resource where
  start := e.startTime
  stop := e.endTime
  uses := fun
    | .instructor i => e.instructorId = i
    | .vehicle v => e.vehicleId = some v ∧ e.type = .drive
    | .student s => (e.id, s) ∈ db.eventParticipants.keys

/-- The occupying records. -/
def calendar (db : Db) : Calendar RecordId Instant Resource
  | .lesson id => ((db.lessons.findUnique id).filter Lesson.occupies).map Lesson.entry
  | .event id =>
    ((db.instructorEvents.findUnique id).filter InstructorEvent.occupies).map
      (InstructorEvent.entry db)

/-- No two occupying records overlap on an instructor, a vehicle or a student. -/
def NoDoubleBooking (db : Db) : Prop := (calendar db).ConflictFree

@[simp] theorem Lesson.instructor_mem_entry (l : Lesson) (i : Uuid) :
    Resource.instructor i ∈ l.entry.uses ↔ l.instructorId = i := Iff.rfl

@[simp] theorem Lesson.vehicle_mem_entry (l : Lesson) (v : Uuid) :
    Resource.vehicle v ∈ l.entry.uses ↔ l.vehicleId = some v := Iff.rfl

@[simp] theorem Lesson.student_mem_entry (l : Lesson) (s : Uuid) :
    Resource.student s ∈ l.entry.uses ↔ l.studentId = s := Iff.rfl

@[simp] theorem InstructorEvent.instructor_mem_entry (db : Db) (e : InstructorEvent) (i : Uuid) :
    Resource.instructor i ∈ (e.entry db).uses ↔ e.instructorId = i := Iff.rfl

@[simp] theorem InstructorEvent.vehicle_mem_entry (db : Db) (e : InstructorEvent) (v : Uuid) :
    Resource.vehicle v ∈ (e.entry db).uses ↔ e.vehicleId = some v ∧ e.type = .drive := Iff.rfl

@[simp] theorem InstructorEvent.student_mem_entry (db : Db) (e : InstructorEvent) (s : Uuid) :
    Resource.student s ∈ (e.entry db).uses ↔ (e.id, s) ∈ db.eventParticipants.keys := Iff.rfl

theorem calendar_lesson_eq_some (db : Db) (id : Uuid) (b : Entry Instant Resource) :
    calendar db (.lesson id) = some b ↔
      ∃ l ∈ db.lessons.rows, l.id = id ∧ l.occupies = true ∧ l.entry = b := by
  simp only [calendar, Option.map_eq_some_iff, Option.filter_eq_some_iff,
    Table.findUnique_eq_some, and_assoc]

theorem calendar_event_eq_some (db : Db) (id : Uuid) (b : Entry Instant Resource) :
    calendar db (.event id) = some b ↔
      ∃ e ∈ db.instructorEvents.rows, e.id = id ∧ e.occupies = true ∧ e.entry db = b := by
  simp only [calendar, Option.map_eq_some_iff, Option.filter_eq_some_iff,
    Table.findUnique_eq_some, and_assoc]

theorem calendar_of_lesson {db : Db} {l : Lesson} (hl : l ∈ db.lessons.rows)
    (ho : l.occupies = true) : calendar db (.lesson l.id) = some l.entry :=
  (calendar_lesson_eq_some db _ _).mpr ⟨l, hl, rfl, ho, rfl⟩

theorem calendar_of_event {db : Db} {e : InstructorEvent} (he : e ∈ db.instructorEvents.rows)
    (ho : e.occupies = true) : calendar db (.event e.id) = some (e.entry db) :=
  (calendar_event_eq_some db _ _).mpr ⟨e, he, rfl, ho, rfl⟩

/-- The id of the record that a lookup leaves out. -/
def skipped (excludeLessonId excludeEventId : Option Uuid) : Option RecordId :=
  (excludeLessonId.map RecordId.lesson).or (excludeEventId.map RecordId.event)

/-- What holds of every record of a resource, told by the rows. -/
theorem each_iff {db : Db} {exclLesson exclEvent : Option Uuid} {r : Resource}
    {P : Entry Instant Resource → Prop} (hone : exclLesson = none ∨ exclEvent = none) :
    (calendar db).Each (skipped exclLesson exclEvent) r P ↔
      (∀ l ∈ db.lessons.rows, l.occupies = true → exclLesson ≠ some l.id → r ∈ l.entry.uses →
        P l.entry) ∧
      ∀ e ∈ db.instructorEvents.rows, e.occupies = true → exclEvent ≠ some e.id →
        r ∈ (e.entry db).uses → P (e.entry db) := by
  have hlesson (id : Uuid) : skipped exclLesson exclEvent ≠ some (.lesson id) ↔
      exclLesson ≠ some id := by
    cases exclLesson <;> cases exclEvent <;> simp [skipped]
  have hevent (id : Uuid) : skipped exclLesson exclEvent ≠ some (.event id) ↔
      exclEvent ≠ some id := by
    rcases hone with rfl | rfl
    · simp [skipped]
    · cases exclLesson <;> simp [skipped]
  refine ⟨?_, ?_⟩
  · intro h
    refine ⟨fun l hl ho hex hr => ?_, fun e he ho hex hr => ?_⟩
    · exact h _ _ (calendar_of_lesson hl ho) ((hlesson _).mpr hex) hr
    · exact h _ _ (calendar_of_event he ho) ((hevent _).mpr hex) hr
  · rintro ⟨hl, he⟩ j b hb hskip hr
    cases j with
    | lesson id =>
      obtain ⟨l, hmem, rfl, ho, rfl⟩ := (calendar_lesson_eq_some db _ _).mp hb
      exact hl l hmem ho ((hlesson _).mp hskip) hr
    | event id =>
      obtain ⟨e, hmem, rfl, ho, rfl⟩ := (calendar_event_eq_some db _ _).mp hb
      exact he e hmem ho ((hevent _).mp hskip) hr

/-- A resource is open exactly when no busy lesson and no busy event holds it. -/
theorem open_iff_not_busy {db : Db} {exclLesson exclEvent : Option Uuid} {start stop : Instant}
    {r : Resource} (hone : exclLesson = none ∨ exclEvent = none) :
    (calendar db).Open (skipped exclLesson exclEvent) start stop r ↔
      (∀ l ∈ db.lessons.rows, r ∈ l.entry.uses → l.busyDuring start stop exclLesson = false) ∧
      ∀ e ∈ db.instructorEvents.rows, r ∈ (e.entry db).uses →
        e.busyDuring start stop exclEvent = false := by
  rw [Calendar.open_iff_each, each_iff hone]
  refine and_congr (forall₂_congr fun l _ => ?_) (forall₂_congr fun e _ => ?_)
  · rw [← Bool.not_eq_true, Lesson.busyDuring_eq_true, Lesson.occupies_eq_true]
    exact ⟨fun h hr hbusy => h hbusy.1 hbusy.2.2 hr hbusy.2.1,
      fun h ho hex hr hcross => h hr ⟨ho, hcross, hex⟩⟩
  · rw [← Bool.not_eq_true, InstructorEvent.busyDuring_eq_true, InstructorEvent.occupies_eq_true]
    exact ⟨fun h hr hbusy => h hbusy.1 hbusy.2.2 hr hbusy.2.1,
      fun h ho hex hr hcross => h hr ⟨ho, hcross, hex⟩⟩

end OSK
