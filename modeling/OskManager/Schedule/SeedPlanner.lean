import OskManager.Model.SeedSchedule
import OskManager.Schedule.DayWindows

/-! The slots of the seed planner. Every slot that it returns is written under each resource of its
call and is compared with all slots of these resources, so no two calls clash; it is cut out of the
hours that the instructor works on the date. -/

namespace OSK

open Relational Booking

/-! ### Resources -/

inductive SeedResource where
  | instructor (id : String)
  | student (id : String)
  | vehicle (id : String)
  deriving DecidableEq

/-- The text under which the planner and the check keep a resource. -/
def SeedResource.key : SeedResource → String
  | .instructor id => "instructor:" ++ id
  | .student id => "student:" ++ id
  | .vehicle id => "vehicle:" ++ id

theorem SeedResource.key_injective : Function.Injective SeedResource.key := by
  -- the three words differ in their first letters
  intro r r' h
  have hlist := congrArg String.toList h
  cases r <;> cases r' <;> simp only [SeedResource.key, String.toList_append] at hlist <;>
    simp_all [SeedResource.key, String.append_right_inj]

/-- What a call is for. An empty vehicle id names no vehicle. -/
def SeedSlotRequest.resources (request : SeedSlotRequest) : List SeedResource :=
  .instructor request.instructorId ::
    ((request.studentIds.getD []).map .student ++
      ((givenId request.vehicleId).map .vehicle).toList)

theorem mem_resourceKeys {request : SeedSlotRequest} {r : SeedResource}
    (h : r ∈ request.resources) : r.key ∈ request.resourceKeys := by
  have hkeys : request.resourceKeys = (request.resources.map SeedResource.key).eraseDups := by
    rw [SeedSlotRequest.resourceKeys, SeedSlotRequest.resources, List.map_cons, List.map_append,
      List.map_map]
    cases givenId request.vehicleId <;> rfl
  rw [hkeys, List.mem_eraseDups]
  exact List.mem_map_of_mem h

/-! ### One call -/

section

variable {zone : PolishZone} {server : ServerZone}
  {calendars : String → Option SeedInstructorCalendar} {request : SeedSlotRequest}
  {reservations : Reservations} {slot : ScheduleWindow}

/-- The hours that the instructor works on the date: no leave covers it, and they are those of the
first exception of the date, which is no day off, or else of the first weekly row of the weekday. -/
structure WorksDuring (zone : PolishZone) (calendar : SeedInstructorCalendar) (date : Day)
    (hours : TimeWindow) : Prop where
  no_leave : ∀ leave ∈ calendar.leaves,
    ¬(dateKey zone leave.startDate ≤ date ∧ date ≤ dateKey zone leave.endDate)
  hours_eq :
    (∃ item, calendar.exceptions.find? (fun e => decide (dateKey zone e.date = date)) = some item ∧
      item.isDayOff = false ∧ item.startTime.map timeOnlyMinutes = some hours.start ∧
      item.endTime.map timeOnlyMinutes = some hours.stop) ∨
    (∀ e ∈ calendar.exceptions, dateKey zone e.date ≠ date) ∧
      ∃ weekly, calendar.windows.find? (fun w => decide (w.dayOfWeek = dayOfWeekOf date)) =
          some weekly ∧
        hours = ⟨timeOnlyMinutes weekly.startTime, timeOnlyMinutes weekly.endTime⟩

theorem resolveWindow_eq_some {calendar : SeedInstructorCalendar} {date startTime endTime : Instant}
    (h : resolveWindow zone calendar date = some (startTime, endTime)) :
    WorksDuring zone calendar (dateKey zone date)
      ⟨timeOnlyMinutes startTime, timeOnlyMinutes endTime⟩ := by
  simp only [resolveWindow] at h
  split at h
  · cases h
  rename_i hleave
  refine ⟨fun leave hmem hcovers => hleave ?_, ?_⟩
  · rw [List.any_eq_true]
    exact ⟨leave, hmem, by simp [hcovers.1, hcovers.2]⟩
  split at h
  · rename_i item hfound
    refine Or.inl ⟨item, hfound, ?_⟩
    split at h
    · cases h
    rename_i hworks
    split at h
    · rename_i start stop hstart hstop
      obtain ⟨rfl, rfl⟩ := Prod.mk.inj (Option.some.inj h)
      rw [hstart, hstop]
      exact ⟨Bool.eq_false_iff.mpr hworks, rfl, rfl⟩
    · cases h
  · rename_i hnone
    rw [List.find?_eq_none] at hnone
    obtain ⟨weekly, hweekly, heq⟩ := Option.map_eq_some_iff.mp h
    obtain ⟨rfl, rfl⟩ := Prod.mk.inj heq
    exact Or.inr ⟨fun e he hdate => hnone e he (decide_eq_true hdate), weekly, hweekly, rfl⟩

/-- No slot of these resources crosses the slot. -/
def FreeIn (reservations : Reservations) (keys : List String) (slot : ScheduleWindow) : Prop :=
  ∀ key ∈ keys, ∀ existing ∈ reservations.get key,
    ¬(existing.start < slot.stop ∧ slot.start < existing.stop)

theorem not_any_overlaps {keys : List String}
    (h : ¬(keys.any fun key => (reservations.get key).any fun existing =>
      overlaps existing slot) = true) : FreeIn reservations keys slot := by
  intro key hkey existing hmem hcross
  refine h (List.any_eq_true.mpr ⟨key, hkey, List.any_eq_true.mpr ⟨existing, hmem, ?_⟩⟩)
  simp [overlaps, hcross.1, hcross.2]

theorem atTime_eq (date : Instant) (m : ℤ) :
    atTime zone date (m / 60) (m % 60) =
      polishLocalDateTimeToDate zone (dateKey zone date) m := by
  rw [atTime, Int.mul_comm, Int.mul_ediv_add_emod]
  rfl

theorem firstFreeStart_ok {keys : List String} {date : Instant} {duration : ℤ} {starts : List ℤ}
    (h : firstFreeStart zone reservations keys date duration starts = .ok (some slot)) :
    FreeIn reservations keys slot ∧
      ∃ m ∈ starts, IsSlot zone (dateKey zone date) m (m + duration) slot := by
  induction starts with
  | nil => cases h
  | cons m rest ih =>
    simp only [firstFreeStart, except_bind_eq_ok, atTime_eq] at h
    obtain ⟨start, hstart, stop, hstop, h⟩ := h
    split at h
    · obtain ⟨hfree, m', hm', hslot⟩ := ih h
      exact ⟨hfree, m', List.mem_cons_of_mem m hm', hslot⟩
    · rename_i hfree
      cases h
      exact ⟨not_any_overlaps hfree, m, List.mem_cons_self, hstart, hstop⟩

theorem mem_orderedStarts {starts : List ℤ} {slotIndex : Option ℤ} {m : ℤ}
    (h : m ∈ orderedStarts starts slotIndex) : m ∈ starts := by
  rcases List.mem_append.mp h with hdrop | htake
  · exact List.mem_of_mem_drop hdrop
  · exact List.mem_of_mem_take htake

/-- The slot lies in hours that the instructor of the calendar works on its date, and in local time
it takes as long as asked. -/
def FitsHours (zone : PolishZone) (calendar : SeedInstructorCalendar) (durationMinutes : ℤ)
    (slot : ScheduleWindow) : Prop :=
  ∃ date hours m, WorksDuring zone calendar date hours ∧
    hours.start ≤ m ∧ m + durationMinutes ≤ hours.stop ∧
    IsSlot zone date m (m + durationMinutes) slot

theorem firstFreeOnDay_ok {calendar : SeedInstructorCalendar} {step : ℤ} {date : Instant}
    (hstep : 0 < step)
    (h : firstFreeOnDay zone reservations calendar request step date = .ok (some slot)) :
    FreeIn reservations request.resourceKeys slot ∧
      FitsHours zone calendar request.durationMinutes slot := by
  rw [firstFreeOnDay] at h
  split at h
  · cases h
  rename_i startTime endTime hwindow
  simp only at h
  split at h
  · cases h
  obtain ⟨hfree, m, hm, hslot⟩ := firstFreeStart_ok h
  obtain ⟨hopen, hclose⟩ := mem_stepsUpTo hstep (mem_orderedStarts hm)
  exact ⟨hfree, _, _, m, resolveWindow_eq_some hwindow, hopen, by dsimp only; omega, hslot⟩

theorem firstFreeSlot_ok {calendar : SeedInstructorCalendar} {step : ℤ} {days : List Instant}
    (hstep : 0 < step)
    (h : firstFreeSlot zone reservations calendar request step days = .ok (some slot)) :
    FreeIn reservations request.resourceKeys slot ∧
      FitsHours zone calendar request.durationMinutes slot := by
  induction days with
  | nil => cases h
  | cons date rest ih =>
    rw [firstFreeSlot, except_bind_eq_ok] at h
    obtain ⟨found, hday, h⟩ := h
    cases found with
    | some found =>
      cases h
      exact firstFreeOnDay_ok hstep hday
    | none => exact ih h

theorem findSlot_ok (h : findSlot zone server calendars request reservations = .ok slot) :
    FreeIn reservations request.resourceKeys slot ∧ 0 < request.durationMinutes ∧
      ∃ calendar, calendars request.instructorId = some calendar ∧
        FitsHours zone calendar request.durationMinutes slot := by
  simp only [findSlot, except_bind_eq_ok, throwIf_eq_ok, orThrow_eq_ok, not_le] at h
  obtain ⟨_, hduration, calendar, hcalendar, _, hstep, found, hfound, rfl⟩ := h
  obtain ⟨hfree, hfits⟩ := firstFreeSlot_ok hstep hfound
  exact ⟨hfree, hduration, calendar, hcalendar, hfits⟩

/-- What the clock shows of a slot of the hours, on a day without a change also what elapses. -/
structure SlotInHours (zone : PolishZone) (calendar : SeedInstructorCalendar) (durationMinutes : ℤ)
    (slot : ScheduleWindow) (hours : TimeWindow) : Prop where
  works : WorksDuring zone calendar (dateKey zone slot.start) hours
  same_day : dateKey zone slot.stop = dateKey zone slot.start
  opened : hours.start ≤ (instantToPolishDateTime zone slot.start).minutes
  closed : (instantToPolishDateTime zone slot.stop).minutes ≤ hours.stop
  shown : (instantToPolishDateTime zone slot.stop).minutes =
    (instantToPolishDateTime zone slot.start).minutes + durationMinutes
  elapsed : zone.SteadyOn (dateKey zone slot.start) →
    ∀ day, polishDayBounds zone (dateKey zone slot.start) = .ok day →
      slot.durationMs = durationMinutes * msPerMinute ∧
        day.start + hours.start * msPerMinute ≤ slot.start ∧
        slot.stop ≤ day.start + hours.stop * msPerMinute

theorem FitsHours.inHours {calendar : SeedInstructorCalendar} {duration : ℤ}
    (h : FitsHours zone calendar duration slot) :
    ∃ hours, SlotInHours zone calendar duration slot hours := by
  obtain ⟨date, hours, m, hworks, hopen, hclose, hslot⟩ := h
  have hstart := localTime_clock hslot.start
  have hstop := localTime_clock hslot.stop
  have hdate : dateKey zone slot.start = date := congrArg PolishDateTime.date hstart
  refine ⟨hours, hdate ▸ hworks, ?_, ?_, ?_, ?_, ?_⟩
  · rw [hdate]
    exact congrArg PolishDateTime.date hstop
  · rw [hstart]
    exact hopen
  · rw [hstop]
    exact hclose
  · rw [hstart, hstop]
  · intro hsteady day hday
    rw [hdate] at hsteady hday
    refine ⟨?_, ?_, ?_⟩
    · rw [SteadyOn.durationMs hsteady hday hslot, add_sub_cancel_left]
    · rw [SteadyOn.instant hsteady hday hslot.start]
      dsimp only [Instant, msPerMinute]
      omega
    · rw [SteadyOn.instant hsteady hday hslot.stop]
      dsimp only [Instant, msPerMinute]
      omega

/-! ### The reservations -/

theorem reserve_ok {after : Reservations}
    (h : reserve zone server calendars request reservations = (.ok slot, after)) :
    findSlot zone server calendars request reservations = .ok slot ∧
      after = request.resourceKeys.foldl (fun m key => m.push key slot) reservations := by
  rw [reserve, Prog.query_bind_run] at h
  split at h
  · rename_i found hfound
    obtain ⟨hslot, hafter⟩ := Prod.mk.inj h
    cases hslot
    exact ⟨hfound, hafter.symm⟩
  · cases h

/-- A call that throws reserves nothing. -/
theorem reserve_fails {after : Reservations} {e : Failure}
    (h : reserve zone server calendars request reservations = (.error e, after)) :
    after = reservations := by
  rw [reserve, Prog.query_bind_run] at h
  split at h
  · cases h
  · exact (Prod.mk.inj h).2.symm

theorem get_reserved (keys : List String) (key : String) :
    (keys.foldl (fun m key => m.push key slot) reservations).get key =
      reservations.get key ++ ((keys.filter fun k => k = key).map fun _ => slot) := by
  have h := Groups.get_foldl_push (keys.map fun k => (k, slot)) reservations key
  rw [List.foldl_map, List.filter_map, List.map_map] at h
  exact h

/-- What is free after a call is apart from its slot and was free before. -/
theorem FreeIn.reserved {keys keys' : List String} {slot' : ScheduleWindow}
    (h : FreeIn (keys.foldl (fun m key => m.push key slot) reservations) keys' slot') :
    FreeIn reservations keys' slot' ∧
      ∀ key ∈ keys', key ∈ keys → ¬(slot.start < slot'.stop ∧ slot'.start < slot.stop) := by
  refine ⟨fun key hkey existing hmem => h key hkey existing ?_, fun key hkey hmem => ?_⟩
  · rw [get_reserved]
    exact List.mem_append_left _ hmem
  · refine h key hkey slot ?_
    rw [get_reserved]
    refine List.mem_append_right _ (List.mem_map.mpr ⟨key, ?_, rfl⟩)
    exact List.mem_filter.mpr ⟨hmem, decide_eq_true rfl⟩

end

/-! ### Runs of calls -/

section

variable (zone : PolishZone) (server : ServerZone)
  (calendars : String → Option SeedInstructorCalendar)

/-- The calls that return, in order, each with its slot. -/
def returnedSlots : List SeedSlotRequest → Reservations → List (SeedSlotRequest × ScheduleWindow)
  | [], _ => []
  | request :: rest, reservations =>
    match reserve zone server calendars request reservations with
    | (.ok slot, after) => (request, slot) :: returnedSlots rest after
    | (.error _, after) => returnedSlots rest after

/-- What a call that returned its slot books. -/
def SeedSlotRequest.booking (request : SeedSlotRequest) (slot : ScheduleWindow) :
    Entry Instant SeedResource :=
  ⟨slot.start, slot.stop, {r | r ∈ request.resources}⟩

/-- The slots of two calls that share a resource are disjoint. -/
def SlotsApart (a b : SeedSlotRequest × ScheduleWindow) : Prop :=
  ¬(a.1.booking a.2).Clash (b.1.booking b.2)

variable {zone server calendars}

theorem slotsApart_of_not_crossing {a b : SeedSlotRequest × ScheduleWindow}
    (h : ∀ key ∈ b.1.resourceKeys, key ∈ a.1.resourceKeys →
      ¬(a.2.start < b.2.stop ∧ b.2.start < a.2.stop)) : SlotsApart a b := by
  rintro ⟨hmeets, r, hra, hrb⟩
  exact h r.key (mem_resourceKeys hrb) (mem_resourceKeys hra) hmeets.crossing

theorem returnedSlots_spec (requests : List SeedSlotRequest) (reservations : Reservations) :
    (returnedSlots zone server calendars requests reservations).Pairwise SlotsApart ∧
      ∀ call ∈ returnedSlots zone server calendars requests reservations,
        FreeIn reservations call.1.resourceKeys call.2 ∧ 0 < call.1.durationMinutes ∧
          ∃ calendar, calendars call.1.instructorId = some calendar ∧
            FitsHours zone calendar call.1.durationMinutes call.2 := by
  induction requests generalizing reservations with
  | nil => exact ⟨List.Pairwise.nil, fun call h => absurd h List.not_mem_nil⟩
  | cons request rest ih =>
    rw [returnedSlots]
    split
    · rename_i slot after hcall
      obtain ⟨hfound, rfl⟩ := reserve_ok hcall
      obtain ⟨hpairs, hcalls⟩ := ih
        (request.resourceKeys.foldl (fun m key => m.push key slot) reservations)
      refine ⟨List.pairwise_cons.mpr ⟨fun call hmem => ?_, hpairs⟩, fun call hmem => ?_⟩
      · exact slotsApart_of_not_crossing (hcalls call hmem).1.reserved.2
      · rcases List.mem_cons.mp hmem with rfl | hrest
        · exact findSlot_ok hfound
        · exact ⟨(hcalls call hrest).1.reserved.1, (hcalls call hrest).2⟩
    · rename_i hcall
      rw [reserve_fails hcall]
      exact ih reservations

end

end OSK
