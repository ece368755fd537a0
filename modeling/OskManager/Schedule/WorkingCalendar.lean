import OskManager.Lib.Calls
import OskManager.Model.WorkingHours
import OskManager.Sample.SmallSchool

/-! The hours of all instructors as a calendar: one window or none for each day of the week, and
exceptions of single days. The requests write it entry by entry, and what the schedule reads as the
hours of a day is what the calendar says. -/

namespace OSK

open Relational

/-! ### The calendar -/

structure WorkCalendar where
  weekly : Uuid × ℤ → Option TimeWindow
  /-- `some none` is a day off. -/
  exceptions : Uuid × Day → Option (Option TimeWindow)

/-- The hours of a day. -/
def WorkCalendar.window (cal : WorkCalendar) (instructorId : Uuid) (day : Day) (dayOfWeek : ℤ) :
    Option TimeWindow :=
  (cal.exceptions (instructorId, day)).getD (cal.weekly (instructorId, dayOfWeek))

/-- Hours that are not empty and lie within a day. -/
def TimeWindow.IsWorking (w : TimeWindow) : Prop :=
  0 ≤ w.start ∧ w.start < w.stop ∧ w.stop < minutesPerDay

instance TimeWindow.decidableIsWorking (w : TimeWindow) : Decidable w.IsWorking :=
  inferInstanceAs (Decidable (_ ∧ _ ∧ _))

def weeklyWindow (row : InstructorWorkingHoursDefault) : TimeWindow :=
  ⟨dbTimeToMinutes row.startTime, dbTimeToMinutes row.endTime⟩

def exceptionWindow (row : InstructorWorkingHours) : Option TimeWindow :=
  if row.isDayOff then none
  else do
    let start ← row.startTime
    let stop ← row.endTime
    return ⟨dbTimeToMinutes start, dbTimeToMinutes stop⟩

/-- What the tables hold. -/
def workCalendar (db : Db) : WorkCalendar where
  weekly := Option.map weeklyWindow ∘ db.workingHoursDefault.findUnique
  exceptions := Option.map exceptionWindow ∘ db.workingHours.findUnique

/-- The hours of each row are hours; only a day off has none. -/
structure HoursSound (db : Db) : Prop where
  weekly : ∀ row ∈ db.workingHoursDefault.rows, (weeklyWindow row).IsWorking
  exceptions : ∀ row ∈ db.workingHours.rows, row.isDayOff = false →
    ∃ w, exceptionWindow row = some w ∧ w.IsWorking

/-- The schedule reads the calendar and meets no missing time. -/
theorem HoursSound.baseWindow {db : Db} (h : HoursSound db) (zone : PolishZone)
    (instructorId : Uuid) (date : Instant) :
    baseWindow zone db instructorId date = .ok ((workCalendar db).window instructorId
      (dateToYYYYMMDD date) (instantToPolishDateTime zone date).dayOfWeek) := by
  unfold OSK.baseWindow WorkCalendar.window workCalendar
  simp only [Function.comp_apply]
  cases hfound : db.workingHours.findUnique (instructorId, dateToYYYYMMDD date) with
  | none => rfl
  | some hours =>
    cases hoff : hours.isDayOff with
    | true =>
      simp only [exceptionWindow, hoff, if_true, Option.map_some, Option.getD_some]
      rfl
    | false =>
      obtain ⟨w, hw, _⟩ := h.exceptions hours (Table.mem_of_findUnique hfound) hoff
      rw [Option.map_some, Option.getD_some, hw]
      simp only [exceptionWindow, hoff, Bool.false_eq_true, if_false, Option.bind_eq_bind,
        Option.bind_eq_some_iff, pure, Option.some.injEq] at hw
      obtain ⟨a, ha, b, hb, rfl⟩ := hw
      dsimp only
      rw [hoff, if_neg Bool.false_ne_true, ha, hb]
      rfl

theorem HoursSound.working {db : Db} (h : HoursSound db) {instructorId : Uuid} {day : Day}
    {dayOfWeek : ℤ} {w : TimeWindow}
    (hw : (workCalendar db).window instructorId day dayOfWeek = some w) : w.IsWorking := by
  unfold WorkCalendar.window workCalendar at hw
  simp only [Function.comp_apply] at hw
  cases hfound : db.workingHours.findUnique (instructorId, day) with
  | none =>
    rw [hfound] at hw
    obtain ⟨row, hrow, rfl⟩ := Option.map_eq_some_iff.mp hw
    exact h.weekly row (Table.mem_of_findUnique hrow)
  | some hours =>
    rw [hfound, Option.map_some, Option.getD_some] at hw
    cases hoff : hours.isDayOff with
    | true =>
      rw [exceptionWindow, hoff] at hw
      cases hw
    | false =>
      obtain ⟨w', hw', hworking⟩ := h.exceptions hours (Table.mem_of_findUnique hfound) hoff
      rw [hw'] at hw
      cases hw
      exact hworking

/-! ### Requests -/

inductive HoursCall where
  | upsertWeekly (actor : Actor) (instructorId : Uuid) (dayOfWeek : ℤ) (body : PutWeeklyBody)
  | deleteWeekly (actor : Actor) (instructorId : Uuid) (dayOfWeek : ℤ)
  | upsertException (actor : Actor) (instructorId : Uuid) (date : Day) (body : PutExceptionBody)
  | deleteException (actor : Actor) (instructorId : Uuid) (date : Day)

namespace HoursCall

def run : HoursCall → Service Unit
  | .upsertWeekly actor instructorId dayOfWeek body => do
    let _ ← upsertWeeklyDay actor instructorId dayOfWeek body
    return ()
  | .deleteWeekly actor instructorId dayOfWeek => deleteWeeklyDay actor instructorId dayOfWeek
  | .upsertException actor instructorId date body => do
    let _ ← OSK.upsertException actor instructorId date body
    return ()
  | .deleteException actor instructorId date => OSK.deleteException actor instructorId date

def actor : HoursCall → Actor
  | .upsertWeekly actor _ _ _ | .deleteWeekly actor _ _ | .upsertException actor _ _ _
  | .deleteException actor _ _ => actor

def instructorId : HoursCall → Uuid
  | .upsertWeekly _ instructorId _ _ | .deleteWeekly _ instructorId _
  | .upsertException _ instructorId _ _ | .deleteException _ instructorId _ => instructorId

def isAllowed (db : Db) (c : HoursCall) : Bool :=
  (assertActorManagesActive db c.actor c.instructorId).isOk

end HoursCall

def PutWeeklyBody.window (body : PutWeeklyBody) : TimeWindow := ⟨body.startTime, body.endTime⟩

def PutExceptionBody.window (body : PutExceptionBody) : Option TimeWindow :=
  if body.isDayOff then none
  else do
    let start ← body.startTime
    let stop ← body.endTime
    return ⟨start, stop⟩

namespace HoursCall

/-- The one entry that a request is about. -/
def write : HoursCall → WorkCalendar → WorkCalendar
  | .upsertWeekly _ instructorId dayOfWeek body, cal =>
    { cal with weekly := Function.update cal.weekly (instructorId, dayOfWeek) (some body.window) }
  | .deleteWeekly _ instructorId dayOfWeek, cal =>
    { cal with weekly := Function.update cal.weekly (instructorId, dayOfWeek) none }
  | .upsertException _ instructorId date body, cal =>
    { cal with
      exceptions := Function.update cal.exceptions (instructorId, date) (some body.window) }
  | .deleteException _ instructorId date, cal =>
    { cal with exceptions := Function.update cal.exceptions (instructorId, date) none }

/-- What a request does to the calendar in a database with these people. -/
def amend (db : Db) (cal : WorkCalendar) (c : HoursCall) : WorkCalendar :=
  if c.isAllowed db then c.write cal else cal

end HoursCall

theorem dbTimeToMinutes_hhmm {minutes : ℤ} (h : 0 ≤ minutes ∧ minutes < minutesPerDay) :
    dbTimeToMinutes (hhmmToDbTime minutes) = minutes := by
  unfold dbTimeToMinutes hhmmToDbTime
  unfold minutesPerDay at h
  simp only [msPerDay, msPerMinute]
  omega

theorem PutWeeklyBody.window_row (body : PutWeeklyBody) (instructorId : Uuid) (dayOfWeek : ℤ) :
    weeklyWindow (body.row instructorId dayOfWeek) = body.window := by
  have hstart := body.inDay.1
  have hstop := body.inDay.2
  have hlt := body.start_before_end
  unfold weeklyWindow PutWeeklyBody.row PutWeeklyBody.window
  rw [dbTimeToMinutes_hhmm ⟨hstart, hlt.trans hstop⟩,
    dbTimeToMinutes_hhmm ⟨hstart.trans hlt.le, hstop⟩]

theorem PutWeeklyBody.isWorking (body : PutWeeklyBody) : body.window.IsWorking :=
  ⟨body.inDay.1, body.start_before_end, body.inDay.2⟩

theorem PutExceptionBody.window_row (body : PutExceptionBody) (instructorId : Uuid) (date : Day) :
    exceptionWindow (body.row instructorId date) = body.window := by
  unfold exceptionWindow PutExceptionBody.row PutExceptionBody.window
  cases hoff : body.isDayOff with
  | true => rfl
  | false =>
    obtain ⟨a, b, ha, hb, _⟩ := body.hours hoff
    dsimp only
    rw [ha, hb, Option.map_some, Option.map_some]
    simp only [Bool.false_eq_true, if_false, Option.bind_eq_bind, Option.bind_some,
      dbTimeToMinutes_hhmm (body.inDay a (Or.inl ha)),
      dbTimeToMinutes_hhmm (body.inDay b (Or.inr hb))]

theorem PutExceptionBody.isWorking (body : PutExceptionBody) (hoff : body.isDayOff = false) :
    ∃ w, body.window = some w ∧ w.IsWorking := by
  obtain ⟨a, b, ha, hb, hlt⟩ := body.hours hoff
  refine ⟨⟨a, b⟩, ?_, (body.inDay a (Or.inl ha)).1, hlt, (body.inDay b (Or.inr hb)).2⟩
  rw [PutExceptionBody.window, hoff, ha, hb]
  rfl

/-! ### Runs -/

namespace HoursCall

/-- The tables after a request that is allowed. -/
def stored : HoursCall → Db → Db
  | .upsertWeekly _ instructorId dayOfWeek body, db =>
    { db with
      workingHoursDefault := db.workingHoursDefault.upsert (body.row instructorId dayOfWeek) }
  | .deleteWeekly _ instructorId dayOfWeek, db =>
    { db with workingHoursDefault := db.workingHoursDefault.deleteKey (instructorId, dayOfWeek) }
  | .upsertException _ instructorId date body, db =>
    { db with workingHours := db.workingHours.upsert (body.row instructorId date) }
  | .deleteException _ instructorId date, db =>
    { db with workingHours := db.workingHours.deleteKey (instructorId, date) }

variable {db : Db} (c : HoursCall)

theorem query_guard_store {α : Type} (check : Db → Except Failure Unit) (p : Unit → Service α)
    (db : Db) :
    ((Prog.query check >>= p) db).2 = if (check db).isOk then (p () db).2 else db := by
  rw [Prog.query_bind_run]
  cases check db <;> rfl

theorem run_store (db : Db) : (c.run db).2 = if c.isAllowed db then c.stored db else db := by
  cases c with
  | upsertWeekly actor instructorId dayOfWeek body =>
    exact (Prog.bind_pure_store _ _ _).trans (query_guard_store _ _ db)
  | deleteWeekly actor instructorId dayOfWeek => exact query_guard_store _ _ db
  | upsertException actor instructorId date body =>
    exact (Prog.bind_pure_store _ _ _).trans (query_guard_store _ _ db)
  | deleteException actor instructorId date => exact query_guard_store _ _ db

theorem workCalendar_stored (db : Db) : workCalendar (c.stored db) = c.write (workCalendar db) := by
  cases c with
  | upsertWeekly actor instructorId dayOfWeek body =>
    unfold workCalendar stored write
    dsimp only
    rw [Table.findUnique_upsert, Function.comp_update, Option.map_some, body.window_row]
    rfl
  | deleteWeekly actor instructorId dayOfWeek =>
    unfold workCalendar stored write
    dsimp only
    rw [Table.findUnique_deleteKey, Function.comp_update]
    rfl
  | upsertException actor instructorId date body =>
    unfold workCalendar stored write
    dsimp only
    rw [Table.findUnique_upsert, Function.comp_update, Option.map_some, body.window_row]
    rfl
  | deleteException actor instructorId date =>
    unfold workCalendar stored write
    dsimp only
    rw [Table.findUnique_deleteKey, Function.comp_update]
    rfl

/-- Nobody's rights depend on the hours. -/
theorem isAllowed_stored (c' : HoursCall) : c'.isAllowed (c.stored db) = c'.isAllowed db := by
  cases c <;> rfl

end HoursCall

theorem HoursSound.stored {db : Db} (h : HoursSound db) (c : HoursCall) :
    HoursSound (c.stored db) := by
  cases c with
  | upsertWeekly actor instructorId dayOfWeek body =>
    refine ⟨fun row hrow => ?_, h.exceptions⟩
    rcases (Table.mem_upsert _ _ _).mp hrow with ⟨hold, _⟩ | rfl
    · exact h.weekly row hold
    · rw [body.window_row]
      exact body.isWorking
  | deleteWeekly actor instructorId dayOfWeek =>
    exact ⟨fun row hrow => h.weekly row ((Table.mem_deleteKey _ _ _).mp hrow).1, h.exceptions⟩
  | upsertException actor instructorId date body =>
    refine ⟨h.weekly, fun row hrow hoff => ?_⟩
    rcases (Table.mem_upsert _ _ _).mp hrow with ⟨hold, _⟩ | rfl
    · exact h.exceptions row hold hoff
    · rw [body.window_row]
      exact body.isWorking hoff
  | deleteException actor instructorId date =>
    exact ⟨h.weekly, fun row hrow => h.exceptions row ((Table.mem_deleteKey _ _ _).mp hrow).1⟩

/-- All requests about hours. -/
def hoursCalls : Calls HoursCall Db := .unrestricted fun c db => (c.run db).2

theorem workCalendar_run (c : HoursCall) (db : Db) :
    workCalendar (c.run db).2 = HoursCall.amend db (workCalendar db) c := by
  rw [c.run_store, HoursCall.amend]
  split
  · exact c.workCalendar_stored db
  · rfl

theorem amend_run (c : HoursCall) (db : Db) :
    HoursCall.amend (c.run db).2 = HoursCall.amend db := by
  funext cal c'
  rw [c.run_store]
  split
  · rw [HoursCall.amend, c.isAllowed_stored, ← HoursCall.amend]
  · rfl

theorem HoursSound.run {db : Db} (h : HoursSound db) (c : HoursCall) : HoursSound (c.run db).2 := by
  rw [c.run_store]
  split
  · exact h.stored c
  · exact h

theorem workCalendar_after (calls : List HoursCall) (db : Db) :
    workCalendar (hoursCalls.after calls db) =
      calls.foldl (HoursCall.amend db) (workCalendar db) := by
  induction calls generalizing db with
  | nil => rfl
  | cons c rest ih =>
    have hrest := ih (c.run db).2
    rw [workCalendar_run, amend_run] at hrest
    exact hrest

/-- After any requests, by anyone, the hours that the schedule reads for a day are those of the
calendar, into which each request has written its one entry, if its actor may. They are hours within
the day, and no missing time is met. -/
theorem workingHours_calendar {db : Db} (h : HoursSound db) (calls : List HoursCall) :
    let cal := calls.foldl (HoursCall.amend db) (workCalendar db)
    ∀ zone instructorId date,
      baseWindow zone (hoursCalls.after calls db) instructorId date =
          .ok (cal.window instructorId (dateToYYYYMMDD date)
            (instantToPolishDateTime zone date).dayOfWeek) ∧
        ∀ day dayOfWeek w, cal.window instructorId day dayOfWeek = some w → w.IsWorking := by
  have hsound : HoursSound (hoursCalls.after calls db) := by
    have hrun := Calls.unrestricted_run_after (fun (c : HoursCall) db => (c.run db).2) calls db
    exact Calls.Run.invariant (fun c _ _ hdb => hdb.run c) h hrun
  intro cal zone instructorId date
  have hcal : workCalendar (hoursCalls.after calls db) = cal := workCalendar_after calls db
  rw [← hcal]
  exact ⟨hsound.baseWindow zone instructorId date, fun _ _ _ hw => hsound.working hw⟩

namespace LateStart

def body : PutExceptionBody where
  isDayOff := false
  startTime := some 600
  endTime := some 720
  inDay := by
    intro t ht
    rcases ht with h | h <;> cases h <;> decide
  hours := fun _ => ⟨600, 720, rfl, rfl, by decide⟩

/-- The manager's exception, and a student who would like it gone. -/
def calls : List HoursCall :=
  [.upsertException SmallSchool.manager 20 5 body, .deleteException SmallSchool.student 20 5]

theorem db_sound : HoursSound SmallSchool.db :=
  ⟨by decide +kernel, fun _ hrow => absurd hrow List.not_mem_nil⟩

end LateStart

open LateStart in
theorem workingHours_calendar_lateStart :
    baseWindow SmallSchool.zone (hoursCalls.after calls SmallSchool.db) 20 (yyyymmddToDate 5) =
        .ok (some ⟨600, 720⟩) ∧
      baseWindow SmallSchool.zone (hoursCalls.after calls SmallSchool.db) 20 (yyyymmddToDate 6) =
        .ok (some ⟨480, 1080⟩) := by
  have hcalendar := workingHours_calendar db_sound calls SmallSchool.zone 20
  exact ⟨(hcalendar (yyyymmddToDate 5)).1.trans (by decide +kernel),
    (hcalendar (yyyymmddToDate 6)).1.trans (by decide +kernel)⟩

end OSK
