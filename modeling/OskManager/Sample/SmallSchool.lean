import Mathlib.Algebra.Order.Group.Nat
import OskManager.Model.PolishTime

/-! A small school on which the theorems are tried: one manager, two instructors, two students
of one course and two vehicles, in a zone one hour ahead of UTC. Only the lessons, the events
and the participants vary. -/

namespace OSK

open Relational

/-- A zone whose offset never changes. -/
def PolishZone.fixed (offset : ℤ) (h : 0 ≤ offset ∧ offset < msPerDay) : PolishZone where
  offset := fun _ => offset
  toAbsolute := fun w => some (w - offset)
  toAbsolute_wall := by
    rintro w t ⟨⟩
    exact sub_add_cancel w offset
  toAbsolute_unique := by
    rintro w t t' ⟨⟩ hw
    exact eq_sub_of_add_eq hw
  toAbsolute_complete := by
    rintro w t rfl _
    simp
  offset_nonneg := fun _ => h.1
  offset_lt_day := fun _ => h.2

/-- A zone whose offset is changed once, at `c`. -/
def PolishZone.changed (c before after : ℤ) (h : 0 ≤ before ∧ before < msPerDay)
    (h' : 0 ≤ after ∧ after < msPerDay) : PolishZone where
  offset := fun t => if t < c then before else after
  toAbsolute := fun w =>
    if w - before < c ∧ c ≤ w - after then none
    else if w - before < c then some (w - before)
    else if c ≤ w - after then some (w - after)
    else none
  toAbsolute_wall := by
    intro w t ht
    dsimp only [Instant] at *
    split_ifs at ht ⊢ <;> cases ht <;> omega
  toAbsolute_unique := by
    intro w t t' ht hw
    dsimp only [Instant] at *
    split_ifs at ht hw <;> cases ht <;> omega
  toAbsolute_complete := by
    intro w t hw honly
    dsimp only [Instant] at *
    have hbefore := honly (w - before)
    have hafter := honly (w - after)
    split_ifs at hw hbefore hafter ⊢ <;> first | omega | exact congrArg some (by omega)
  offset_nonneg := by
    intro t
    split_ifs
    exacts [h.1, h'.1]
  offset_lt_day := by
    intro t
    split_ifs
    exacts [h.2, h'.2]

/-- A number above all that are used. -/
def nextId (used : List Uuid) : Uuid := used.sum + 1

theorem nextId_fresh (used : List Uuid) : nextId used ∉ used := fun h =>
  Nat.not_succ_le_self _ (List.le_sum_of_mem h)

namespace SmallSchool

theorem oneHour_inDay : (0 : ℤ) ≤ 3600000 ∧ (3600000 : ℤ) < msPerDay := by decide

theorem twoHours_inDay : (0 : ℤ) ≤ 7200000 ∧ (7200000 : ℤ) < msPerDay := by decide

def zone : PolishZone := .fixed 3600000 oneHour_inDay

/-- The instant at which the clocks of the school show the given time. -/
def clock (day : Day) (hour minute : ℤ) : Instant :=
  day * msPerDay + (hour * 60 + minute) * msPerMinute - 3600000

def envAt (now : Instant) : Env where
  now
  zone
  uuid := nextId
  uuid_fresh := nextId_fresh

def manager : Actor := ⟨1, .manager⟩
def student : Actor := ⟨3, .student⟩

/-- Monday to Friday from eight to six. -/
def weekdays (instructorId : Uuid) : List InstructorWorkingHoursDefault :=
  [1, 2, 3, 4, 5].map fun dayOfWeek =>
    { instructorId, dayOfWeek, startTime := 28800000, endTime := 64800000 }

def settings : SchoolSettings := { schoolId := 10, slotMustStartFullHour := false }

def db (lessons : Table Lesson.id := .empty) (instructorEvents : Table InstructorEvent.id := .empty)
    (eventParticipants : Table (fun p : EventParticipant => (p.eventId, p.studentId)) := .empty) :
    Db where
  users := ⟨[{ id := 1, role := .manager }, { id := 2, role := .instructor },
    { id := 3, role := .student }, { id := 4, role := .student }, { id := 5, role := .instructor }],
    by decide⟩
  instructorProfiles := ⟨[{ id := 20, userId := 2, qualifiedCourseTypes := [7] },
    { id := 21, userId := 5, qualifiedCourseTypes := [7] }], by decide⟩
  studentProfiles := ⟨[{ id := 30, userId := 3 }, { id := 31, userId := 4 }], by decide⟩
  drivingSchools := ⟨[{ id := 10, ownerId := 1 }], by decide⟩
  schoolSettings := ⟨[settings], by decide⟩
  instructorSchools := ⟨[⟨20, 10⟩, ⟨21, 10⟩], by decide⟩
  studentSchools := ⟨[⟨30, 10⟩, ⟨31, 10⟩], by decide⟩
  vehicles := ⟨[{ id := 40, schoolId := 10, supportedCourseTypes := [7] },
    { id := 41, schoolId := 10, supportedCourseTypes := [7] }], by decide⟩
  courseTypes := ⟨[{ id := 7, code := "B" }], by decide⟩
  courses :=
    ⟨[{ id := 50, schoolId := 10, courseTypeId := 7, kind := .practical, totalHours := 30 }],
      by decide⟩
  courseParticipants := ⟨[⟨50, 30, .active⟩, ⟨50, 31, .active⟩], by decide⟩
  workingHoursDefault := ⟨weekdays 20 ++ weekdays 21, by decide⟩
  lessons
  instructorEvents
  eventParticipants

/-- The course of the school. -/
def course : Course :=
  { id := 50, schoolId := 10, courseTypeId := 7, kind := .practical, totalHours := 30 }

/-- A lesson on Tuesday at ten. -/
def tuesdayLesson (lessonType : LessonType) : Lesson where
  id := 70
  courseId := 50
  studentId := 30
  instructorId := 20
  vehicleId := some 40
  lessonType
  startTime := clock 5 10 0
  endTime := clock 5 11 0
  practice_requires_vehicle := fun _ => rfl

/-- A drive on Tuesday at ten. -/
def tuesdayEvent : InstructorEvent where
  id := 60
  instructorId := 20
  schoolId := 10
  type := .drive
  startTime := clock 5 10 0
  endTime := clock 5 11 0
  vehicleId := some 40

theorem drive_noCourse : EventType.drive = .drive → (none : Option Uuid) = none := fun _ => rfl

def withTuesdayEvent : Db :=
  SmallSchool.db .empty ⟨[tuesdayEvent], List.nodup_singleton _⟩

end SmallSchool

end OSK
