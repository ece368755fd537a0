import OskManager.Model.Events
import OskManager.Model.Lessons
import OskManager.Schedule.FreeSlots
import OskManager.Schedule.ParticipantWrites

/-! How writes of the tables change the calendar: a row that is inserted or rewritten touches
one record, a status that ends or a row that goes only takes bookings away. -/

namespace OSK

open Relational Booking

/-! ### One record at a time -/

section Entries

variable {c : Calendar RecordId Instant Resource} {i : RecordId}

theorem lesson_freeFor {l : Lesson}
    (hs : c.FreeFor i ⟨l.startTime, l.endTime, {.student l.studentId}⟩)
    (hi : c.FreeFor i ⟨l.startTime, l.endTime, {.instructor l.instructorId}⟩)
    (hv : ∀ v, l.vehicleId = some v → c.FreeFor i ⟨l.startTime, l.endTime, {.vehicle v}⟩) :
    c.FreeFor i l.entry := by
  rw [Calendar.freeFor_iff_forall_mem]
  rintro (k | k | k) hr
  · rw [Lesson.instructor_mem_entry] at hr
    exact hr ▸ hi
  · exact hv k hr
  · rw [Lesson.student_mem_entry] at hr
    exact hr ▸ hs

theorem event_freeFor {db : Db} {e : InstructorEvent}
    (hs : ∀ s, (e.id, s) ∈ db.eventParticipants.keys →
      c.FreeFor i ⟨e.startTime, e.endTime, {.student s}⟩)
    (hi : c.FreeFor i ⟨e.startTime, e.endTime, {.instructor e.instructorId}⟩)
    (hv : ∀ v, e.vehicleId = some v → e.type = .drive →
      c.FreeFor i ⟨e.startTime, e.endTime, {.vehicle v}⟩) :
    c.FreeFor i (e.entry db) := by
  rw [Calendar.freeFor_iff_forall_mem]
  rintro (k | k | k) hr
  · rw [InstructorEvent.instructor_mem_entry] at hr
    exact hr ▸ hi
  · exact hv k hr.1 hr.2
  · exact hs k hr

/-- A record that keeps its interval stays free on the resources it had. -/
theorem freeFor_kept {a : Entry Instant Resource} (hc : c.ConflictFree) (ha : c i = some a)
    {r : Resource} (hr : r ∈ a.uses) : c.FreeFor i ⟨a.start, a.stop, {r}⟩ :=
  (hc.freeFor ha).mono rfl rfl (Set.singleton_subset_iff.mpr hr)

end Entries

section Calendars

variable (db : Db)

theorem calendar_one_lesson {db : Db} {t : Table Lesson.id} {id : Uuid}
    (h : ∀ k, k ≠ id → t.findUnique k = db.lessons.findUnique k) (j : RecordId)
    (hj : j ≠ .lesson id) : calendar { db with lessons := t } j = calendar db j := by
  cases j with
  | lesson k =>
    have hk : k ≠ id := fun he => hj (congrArg RecordId.lesson he)
    simp only [calendar, h k hk]
  | event k => rfl

theorem calendar_one_event {db : Db} {t : Table InstructorEvent.id} {id : Uuid}
    (h : ∀ k, k ≠ id → t.findUnique k = db.instructorEvents.findUnique k) (j : RecordId)
    (hj : j ≠ .event id) : calendar { db with instructorEvents := t } j = calendar db j := by
  cases j with
  | lesson k => rfl
  | event k =>
    have hk : k ≠ id := fun he => hj (congrArg RecordId.event he)
    simp only [calendar, h k hk]
    rfl

theorem shrinks_cancelLessons (p : Lesson → Bool) :
    Calendar.Shrinks (calendar db) (calendar (db.cancelLessons p)) := by
  intro j b hb
  cases j with
  | lesson k =>
    obtain ⟨l', hl', rfl, ho, rfl⟩ := (calendar_lesson_eq_some _ _ _).mp hb
    obtain ⟨l, hl, rfl⟩ := (Table.mem_updateMany _ _ _ Lesson.id_cancelled _).mp hl'
    split at ho
    · simp [Lesson.occupies, Lesson.cancelled] at ho
    · next hp =>
      rw [if_neg hp]
      exact ⟨l.entry, calendar_of_lesson hl ho, rfl, rfl, le_rfl⟩
  | event k => exact ⟨b, hb, rfl, rfl, le_rfl⟩

/-- Rewriting events so that none starts to occupy and none changes its slot. -/
theorem shrinks_updateEvents (p : InstructorEvent → Bool) (f : InstructorEvent → InstructorEvent)
    (hf : ∀ e, (f e).id = e.id)
    (ho : ∀ e ∈ db.instructorEvents.rows, p e = true → (f e).occupies = true → e.occupies = true)
    (he : ∀ e, (f e).entry db = e.entry db) :
    Calendar.Shrinks (calendar db)
      (calendar { db with instructorEvents := db.instructorEvents.updateMany p f hf }) := by
  intro j b hb
  cases j with
  | lesson k => exact ⟨b, hb, rfl, rfl, le_rfl⟩
  | event k =>
    obtain ⟨e', he', rfl, ho', rfl⟩ := (calendar_event_eq_some _ _ _).mp hb
    obtain ⟨e, hmem, rfl⟩ := (Table.mem_updateMany _ _ _ hf _).mp he'
    split at ho'
    · next hp =>
      have hent := he e
      rw [if_pos hp, hf]
      exact ⟨e.entry db, calendar_of_event hmem (ho e hmem hp ho'), by rw [← hent]; rfl,
        by rw [← hent]; rfl, by rw [← hent]; exact le_rfl⟩
    · next hp =>
      rw [if_neg hp]
      exact ⟨e.entry db, calendar_of_event hmem ho', rfl, rfl, le_rfl⟩

/-- Other participants of one event, and nothing else. -/
theorem calendar_participants {db db' : Db} {eventId : Uuid} {p : Uuid → Prop}
    (h : ParticipantsBecome db db' eventId p) (j : RecordId) (hj : j ≠ .event eventId) :
    calendar db' j = calendar db j := by
  obtain ⟨t, rfl⟩ := h.only
  cases j with
  | lesson k => rfl
  | event k =>
    have hk : k ≠ eventId := fun he => hj (congrArg RecordId.event he)
    simp only [calendar]
    apply Option.map_congr
    intro e he
    rw [Option.filter_eq_some_iff, Table.findUnique_eq_some] at he
    have hid : e.id ≠ eventId := he.1.2 ▸ hk
    refine congrArg (Entry.mk e.startTime e.endTime) (funext fun r => ?_)
    cases r with
    | student s => exact propext (h.others e.id s hid)
    | instructor k => rfl
    | vehicle k => rfl

end Calendars

theorem noDoubleBooking_refreshed (db : Db) (p : Vehicle → Bool) :
    NoDoubleBooking (db.refreshed p) ↔ NoDoubleBooking db := by
  rw [NoDoubleBooking, calendar_refreshed, NoDoubleBooking]

/-! ### Runs that may fail -/

/-- After a failed run only expired unavailabilities may be gone. -/
theorem noDoubleBooking_after {α : Type} {p : Service α} (hp : Prog.FailsWithin Refreshed p)
    {db : Db} (h : NoDoubleBooking db)
    (hok : ∀ a db', p db = (.ok a, db') → NoDoubleBooking db') : NoDoubleBooking (p db).2 := by
  rcases hp.cases db with ⟨a, ha⟩ | ⟨q, hq⟩
  · exact hok a _ ha
  · rw [hq, noDoubleBooking_refreshed]
    exact h

end OSK
