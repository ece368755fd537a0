import OskManager.Lib.Keyset
import OskManager.Sample.SmallSchool
import OskManager.Schedule.BusyLessons
import OskManager.Schedule.InstructorSlots
import OskManager.Schedule.VehicleChoice
import OskManager.Schedule.VehicleWindows

/-! The free slots of a school. The loops over instructors, dates and windows meet every piece of a
free window once, each filter says what it is for, and the pages cut one list. -/

namespace OSK

open Relational SchoolAvailability

/-- An instructor of the school whose user is active. -/
structure SchoolInstructor (db : Db) (schoolId : Uuid) (profile : InstructorProfile) (user : User) :
    Prop where
  linked : ∃ link ∈ db.instructorSchools.rows,
    link.schoolId = schoolId ∧ link.instructorId = profile.id
  profile_mem : profile ∈ db.instructorProfiles.rows
  user_found : db.users.findUnique profile.userId = some user
  user_active : user.deletedAt = none ∧ user.isActive = true ∧ user.role = .instructor

/-- The student who asks is busy in none of the minutes. -/
def StudentFree (zone : PolishZone) (db : Db) (actor : Actor) (excludeMyLessons : Bool)
    (date : Day) (a b : ℤ) : Prop :=
  excludeMyLessons = true → actor.role = .student → ∀ profile,
    db.studentProfiles.findFirst (fun p => decide (p.userId = actor.id)) = some profile →
    ∀ l ∈ db.lessons.rows, l.studentId = profile.id → l.status ≠ .cancelled →
      ∀ day, polishDayBounds zone date = .ok day →
        ∀ m, a ≤ m → m < b → ¬CoversMinute zone day l.startTime l.endTime m

/-- One vehicle of the school and the category is usable, and booked in none of the minutes. -/
def VehicleFree (env : Env) (db : Db) (schoolId courseTypeId : Uuid) (date : Day) (a b : ℤ) : Prop :=
  ∃ v ∈ db.vehicles.rows, Usable env.now schoolId courseTypeId v ∧
    ∀ day, polishDayBounds env.zone date = .ok day →
      ∀ m, a ≤ m → m < b → ¬MinuteBooked env.zone db none none day v.id m

/-- What the listing promises of a slot. -/
structure ListedSlot (env : Env) (db : Db) (actor : Actor) (school : SchoolSlotAccess)
    (query : SchoolAvailabilitySlotsQuery) (course : Course) (item : SchoolSlotItemDto) : Prop where
  in_range : effectiveDateFrom env actor query ≤ item.date ∧
    item.date ≤ effectiveDateTo env school query
  instructor : ∃ profile user, SchoolInstructor db school.id profile user ∧
    item.instructorId = profile.id ∧ course.courseTypeId ∈ profile.qualifiedCourseTypes ∧
    item.instructorFirstName = user.firstName ∧ item.instructorLastName = user.lastName
  requested : query.instructorIds ≠ [] → item.instructorId ∈ query.instructorIds
  assigned : ∀ id, course.instructorId = some id → actor.role ≠ .manager → actor.role ≠ .admin →
    item.instructorId = id
  piece : IsPiece env.zone db item.instructorId
    (query.slotDurationMinutes.getD school.slotDurationMinutes)
    ⟨item.date, item.startTime, item.endTime⟩
  weekday : query.weekdays ≠ [] → dayOfWeekOf item.date ∈ query.weekdays
  from_time : ∀ t, query.timeFrom = some t → t ≤ item.startTime
  to_time : ∀ t, query.timeTo = some t → item.endTime ≤ t
  student_free : StudentFree env.zone db actor
    (query.excludeMyLessons.getD (decide (actor.role = .student))) item.date item.startTime
    item.endTime
  vehicle_free : VehicleFree env db school.id course.courseTypeId item.date item.startTime
    item.endTime

section

variable {env : Env} {zone : PolishZone} {db db' : Db} {actor : Actor} {schoolId : Uuid}
  {query : SchoolAvailabilitySlotsQuery} {dateFrom dateTo date : Day} {day : ScheduleWindow}
  {a b : ℤ}

/-! ### Instructors -/

theorem mem_schoolInstructorRows {profile : InstructorProfile} {user : User} :
    (profile, user) ∈ schoolInstructorRows db schoolId ↔
      SchoolInstructor db schoolId profile user := by
  simp only [schoolInstructorRows, List.mem_insertionSort, List.mem_filterMap, Table.mem_findMany,
    decide_eq_true_eq, Option.bind_eq_some_iff, Option.map_eq_some_iff, Option.filter_eq_some_iff,
    Prod.mk.injEq]
  refine ⟨?_, ?_⟩
  · rintro ⟨link, ⟨hlink, hschool⟩, _, hprofile, _, ⟨huser, hactive⟩, rfl, rfl⟩
    exact ⟨⟨link, hlink, hschool, (Table.key_of_findUnique hprofile).symm⟩,
      Table.mem_of_findUnique hprofile, huser, hactive⟩
  · rintro ⟨⟨link, hlink, hschool, hid⟩, hprofile, huser, hactive⟩
    exact ⟨link, ⟨hlink, hschool⟩, profile, hid ▸ Table.findUnique_of_mem hprofile, user,
      ⟨huser, hactive⟩, rfl, rfl⟩

/-- An instructor is linked to one school, so the rows name each one once. -/
theorem nodup_schoolInstructorRows (db : Db) (schoolId : Uuid) :
    ((schoolInstructorRows db schoolId).map fun row => row.1.id).Nodup := by
  have hlinks : (db.instructorSchools.findMany fun link =>
      decide (link.schoolId = schoolId)).Pairwise fun l l' => l.instructorId ≠ l'.instructorId :=
    List.Pairwise.sublist List.filter_sublist (List.pairwise_map.mp db.instructorSchools.nodup)
  refine ((List.perm_insertionSort _ _).map _).nodup_iff.mpr ?_
  rw [List.Nodup, List.pairwise_map, List.pairwise_filterMap]
  refine hlinks.imp fun hne row hrow row' hrow' heq => hne ?_
  simp only [Option.bind_eq_some_iff, Option.map_eq_some_iff] at hrow hrow'
  obtain ⟨profile, hprofile, _, -, rfl⟩ := hrow
  obtain ⟨profile', hprofile', _, -, rfl⟩ := hrow'
  rw [← Table.key_of_findUnique hprofile, ← Table.key_of_findUnique hprofile']
  exact heq

theorem lookup_map_of_mem {ρ κ ν : Type} [DecidableEq κ] (key : ρ → κ) (value : ρ → ν) {l : List ρ}
    (hnodup : (l.map key).Nodup) {r : ρ} (hr : r ∈ l) :
    (l.map fun r => (key r, value r)).lookup (key r) = some (value r) := by
  induction l with
  | nil => exact absurd hr List.not_mem_nil
  | cons r' rest ih =>
    rw [List.map_cons, List.nodup_cons] at hnodup
    rw [List.map_cons, List.lookup_cons]
    rcases List.mem_cons.mp hr with rfl | hr
    · simp
    · have hne : key r ≠ key r' := fun heq => hnodup.1 (heq ▸ List.mem_map_of_mem hr)
      simp only [beq_eq_false_iff_ne.mpr hne, ih hnodup.2 hr]

theorem instructorSelection_spec {requested : List Uuid} (hdistinct : requested.Nodup)
    {selection : InstructorSelection}
    (h : loadSchoolInstructorSelection db schoolId requested = .ok selection) :
    selection.instructorIds.Nodup ∧
      (∀ id, id ∈ selection.instructorIds ↔
        (∃ profile user, SchoolInstructor db schoolId profile user ∧ id = profile.id) ∧
          (requested ≠ [] → id ∈ requested)) ∧
      ∀ profile user, SchoolInstructor db schoolId profile user →
        selection.metaById.lookup profile.id = some ⟨user.firstName, user.lastName⟩ := by
  simp only [loadSchoolInstructorSelection, except_bind_eq_ok, throwIf_eq_ok, pure, Except.pure,
    Except.ok.injEq, not_exists, not_and, not_not] at h
  obtain ⟨-, hallowed, rfl⟩ := h
  have hids (id : Uuid) : id ∈ (schoolInstructorRows db schoolId).map (fun row => row.1.id) ↔
      ∃ profile user, SchoolInstructor db schoolId profile user ∧ id = profile.id := by
    simp only [List.mem_map, Prod.exists, mem_schoolInstructorRows, eq_comm]
  refine ⟨?_, fun id => ?_, fun profile user hrow => ?_⟩
  · dsimp only
    split
    · exact nodup_schoolInstructorRows db schoolId
    · exact hdistinct
  · dsimp only
    rw [← hids]
    split
    · next hnone => simp [hnone]
    · next hsome =>
      exact ⟨fun hid => ⟨hallowed id hid, fun _ => hid⟩, fun hid => hid.2 hsome⟩
  · exact lookup_map_of_mem (fun row => row.1.id)
      (fun row => (⟨row.2.firstName, row.2.lastName⟩ : InstructorMeta))
      (nodup_schoolInstructorRows db schoolId) (mem_schoolInstructorRows.mpr hrow)

theorem mem_courseInstructorIds {course : Course} {ids : List Uuid} {id : Uuid} :
    id ∈ courseInstructorIds db actor course ids ↔ id ∈ ids ∧
      (∀ own, course.instructorId = some own → actor.role ≠ .manager → actor.role ≠ .admin →
        id = own) ∧
      ∃ p ∈ db.instructorProfiles.rows, p.id = id ∧ p.hasActiveUser db = true ∧
        course.courseTypeId ∈ p.qualifiedCourseTypes := by
  have hfilter (l : List Uuid) :
      id ∈ filterInstructorIdsQualifiedForCourseType db l course.courseTypeId ↔ id ∈ l ∧
        ∃ p ∈ db.instructorProfiles.rows, p.id = id ∧ p.hasActiveUser db = true ∧
          course.courseTypeId ∈ p.qualifiedCourseTypes := by
    simp only [filterInstructorIdsQualifiedForCourseType, List.mem_filter, List.mem_map,
      Table.mem_findMany, decide_eq_true_eq]
    refine and_congr_right fun hid => ⟨?_, ?_⟩
    · rintro ⟨p, ⟨hp, -, hactive, htype⟩, rfl⟩
      exact ⟨p, hp, rfl, hactive, htype⟩
    · rintro ⟨p, hp, rfl, hactive, htype⟩
      exact ⟨p, ⟨hp, hid, hactive, htype⟩, rfl⟩
  rw [courseInstructorIds, hfilter, ← and_assoc]
  refine and_congr_left fun _ => ?_
  cases course.instructorId with
  | none => simp
  | some own =>
    dsimp only
    split
    · next hrole => simp [hrole.1, hrole.2]
    · next hrole =>
      simp only [Option.some.injEq, forall_eq', iff_self_and]
      exact fun _ hmanager hadmin => absurd ⟨hmanager, hadmin⟩ hrole

theorem nodup_courseInstructorIds {course : Course} {ids : List Uuid} (h : ids.Nodup) :
    (courseInstructorIds db actor course ids).Nodup := by
  refine List.Nodup.filter _ ?_
  split
  · split
    · exact h.filter _
    · exact h
  · exact h

/-! ### Filters -/

theorem listedSlots_spec {busy : List BusyInterval} {fits : SlotDto → Except Failure Bool}
    {raw listed : List SlotDto} (hnodup : raw.Nodup)
    (h : listedSlots query busy fits raw = .ok listed) :
    listed.Nodup ∧ (∀ slot ∈ raw, ∃ c, slotIsListed query busy fits slot = .ok c) ∧
      ∀ slot, slot ∈ listed ↔ slot ∈ raw ∧ slotIsListed query busy fits slot = .ok true := by
  induction raw generalizing listed with
  | nil =>
    cases h
    simp
  | cons slot rest ih =>
    obtain ⟨hnew, hrest⟩ := List.nodup_cons.mp hnodup
    simp only [listedSlots, except_bind_eq_ok, pure, Except.pure, Except.ok.injEq] at h
    obtain ⟨c, hc, others, hothers, rfl⟩ := h
    obtain ⟨hnodup', hok, hmem⟩ := ih hrest hothers
    refine ⟨?_, List.forall_mem_cons.mpr ⟨⟨c, hc⟩, hok⟩, fun slot' => ?_⟩
    · split
      · exact List.nodup_cons.mpr ⟨fun hin => hnew ((hmem slot).mp hin).1, hnodup'⟩
      · exact hnodup'
    · rw [List.mem_cons]
      cases c with
      | true =>
        rw [if_pos rfl, List.mem_cons, hmem]
        refine ⟨?_, ?_⟩
        · rintro (rfl | hin)
          · exact ⟨Or.inl rfl, hc⟩
          · exact ⟨Or.inr hin.1, hin.2⟩
        · rintro ⟨rfl | hin, hlisted⟩
          · exact Or.inl rfl
          · exact Or.inr ⟨hin, hlisted⟩
      | false =>
        rw [if_neg (by decide), hmem]
        refine ⟨fun hin => ⟨Or.inr hin.1, hin.2⟩, ?_⟩
        rintro ⟨rfl | hin, hlisted⟩
        · cases hc.symm.trans hlisted
        · exact ⟨hin, hlisted⟩

/-- The filters before the last one. -/
structure PassesFilters (query : SchoolAvailabilitySlotsQuery) (busy : List BusyInterval)
    (slot : SlotDto) : Prop where
  weekday : query.weekdays ≠ [] → dayOfWeekOf slot.date ∈ query.weekdays
  from_time : ∀ t, query.timeFrom = some t → t ≤ slot.startTime
  to_time : ∀ t, query.timeTo = some t → slot.endTime ≤ t
  not_busy : ¬Blocks busy slot.date slot.startTime slot.endTime

theorem slotIsListed_cases (query : SchoolAvailabilitySlotsQuery) (busy : List BusyInterval)
    (fits : SlotDto → Except Failure Bool) (slot : SlotDto) :
    (PassesFilters query busy slot ∧ slotIsListed query busy fits slot = fits slot) ∨
      (¬PassesFilters query busy slot ∧ slotIsListed query busy fits slot = .ok false) := by
  unfold slotIsListed
  dsimp only
  split
  · next hmiss => exact Or.inr ⟨fun h => hmiss.2 (h.weekday hmiss.1), rfl⟩
  next hweek =>
  split
  · next hmiss =>
    obtain ⟨t, ht, hlt⟩ := (Option.any_eq_true _ _).mp hmiss
    exact Or.inr ⟨fun h => absurd (h.from_time t ht) (not_le.mpr (of_decide_eq_true hlt)), rfl⟩
  next hfrom =>
  split
  · next hmiss =>
    obtain ⟨t, ht, hlt⟩ := (Option.any_eq_true _ _).mp hmiss
    exact Or.inr ⟨fun h => absurd (h.to_time t ht) (not_le.mpr (of_decide_eq_true hlt)), rfl⟩
  next hto =>
  split
  · next hbusy => exact Or.inr ⟨fun h => h.not_busy (List.any_eq_true.mp hbusy), rfl⟩
  next hfree =>
  refine Or.inl ⟨⟨fun hsome => ?_, fun t ht => ?_, fun t ht => ?_, fun hblocks => ?_⟩, rfl⟩
  · by_contra hmiss
    exact hweek ⟨hsome, hmiss⟩
  · by_contra hlt
    exact hfrom ((Option.any_eq_true _ _).mpr ⟨t, ht, decide_eq_true (not_le.mp hlt)⟩)
  · by_contra hlt
    exact hto ((Option.any_eq_true _ _).mpr ⟨t, ht, decide_eq_true (not_le.mp hlt)⟩)
  · exact hfree (List.any_eq_true.mpr hblocks)

/-! ### The lessons of the student -/

theorem SteadyOn.wholeDay (hsteady : zone.SteadyOn date)
    (hday : polishDayBounds zone date = .ok day) : zone.WholeDay date day day.stop where
  toOneChange := SteadyOn.oneChange hsteady hday
  change_whole := by
    rw [SteadyOn.day_length hsteady hday, add_sub_cancel_left]
    rfl
  jump_whole := by
    rw [hsteady day hday day.stop (dayBounds_wall hday).2.2.le le_rfl, sub_self]
    rfl

/-- The part of a booking in a range of days, seen from one of the days. -/
theorem showsSlot_range_iff {first last : ScheduleWindow} {start stop : Instant}
    (hdays : ∀ date, dateFrom ≤ date → date ≤ dateTo → ∃ day c, zone.WholeDay date day c)
    (hfrom : dateFrom ≤ date) (hto : date ≤ dateTo) (hday : polishDayBounds zone date = .ok day)
    (hfirst : polishDayBounds zone dateFrom = .ok first)
    (hlast : polishDayBounds zone dateTo = .ok last) :
    ShowsSlot zone date a b (max start first.start) (min stop last.stop) ↔
      ∃ m, a ≤ m ∧ m < b ∧ CoversMinute zone day start stop m := by
  refine ⟨?_, ?_⟩
  · rintro ⟨t, ⟨hs, he⟩, hdate, ham, hmb⟩
    obtain ⟨hs, hfirst'⟩ := max_le_iff.mp hs
    obtain ⟨he, hlast'⟩ := lt_min_iff.mp he
    obtain ⟨date', day', hge, hle, hday', hin⟩ := exists_day_of_range
      (fun date hge hle => (hdays date hge hle).imp fun _ ⟨_, h⟩ => h.bounds) (hfrom.trans hto)
      hfirst hlast hfirst' hlast'
    obtain ⟨_, c, hone⟩ := hdays date' hge hle
    cases hone.bounds.symm.trans hday'
    rw [hone.date_eq hin.1 hin.2] at hdate
    subst hdate
    cases hday.symm.trans hday'
    exact ⟨_, ham, hmb, t, hin, ⟨hs, he⟩, rfl⟩
  · rintro ⟨_, ham, hmb, t, hin, ⟨hs, he⟩, rfl⟩
    obtain ⟨_, c, hone⟩ := hdays date hfrom hto
    cases hone.bounds.symm.trans hday
    have hfirst' := midnight_le (dayBounds_iff.mp hfirst).1 (dayBounds_iff.mp hday).1 hfrom
    have hlast' := midnight_le (dayBounds_iff.mp hday).2 (dayBounds_iff.mp hlast).2
      (Int.add_le_add_right hto 1)
    exact ⟨t, ⟨max_le hs (hfirst'.trans hin.1), lt_min he (hin.2.trans_le hlast')⟩,
      hone.date_eq hin.1 hin.2, ham, hmb⟩

theorem not_blocks_iff {busy : List BusyInterval} {exclude : Bool}
    (hdays : ∀ date, dateFrom ≤ date → date ≤ dateTo → ∃ day c, zone.WholeDay date day c)
    (hwhole : WholeMinuteBookings zone db) (hfrom : dateFrom ≤ date) (hto : date ≤ dateTo)
    (hab : a < b) (h : loadStudentBusyIntervals zone db actor dateFrom dateTo exclude = .ok busy) :
    ¬Blocks busy date a b ↔ StudentFree zone db actor exclude date a b := by
  have hnone (hbusy : busy = []) : ¬Blocks busy date a b := by
    rintro ⟨i, hi, -⟩
    rw [hbusy] at hi
    exact absurd hi List.not_mem_nil
  by_cases hexclude : exclude = false ∨ actor.role ≠ .student
  · rw [loadStudentBusyIntervals, if_pos hexclude] at h
    cases h
    refine ⟨fun _ htrue hrole => ?_, fun _ => hnone rfl⟩
    rcases hexclude with rfl | hother
    · cases htrue
    · exact absurd hrole hother
  · obtain ⟨htrue, hrole⟩ := not_or.mp hexclude
    rw [Bool.not_eq_false] at htrue
    rw [not_not] at hrole
    cases hprofile : db.studentProfiles.findFirst fun p => decide (p.userId = actor.id) with
    | none =>
      rw [loadStudentBusyIntervals, if_neg hexclude, hprofile] at h
      cases h
      refine ⟨fun _ _ _ profile hfound => ?_, fun _ => hnone rfl⟩
      cases hprofile.symm.trans hfound
    | some profile =>
      obtain ⟨first, _, hfirst⟩ := hdays dateFrom le_rfl (hfrom.trans hto)
      obtain ⟨last, _, hlast⟩ := hdays dateTo (hfrom.trans hto) le_rfl
      obtain ⟨day, _, hday⟩ := hdays date hfrom hto
      obtain ⟨busy', hrun, hblocks⟩ := loadStudentBusyIntervals_blocks hdays (hfrom.trans hto)
        hfirst.bounds hlast.bounds hrole hprofile fun l hl _ => hwhole.lessons l hl
      rw [htrue] at h
      cases hrun.symm.trans h
      rw [hblocks date a b hab]
      simp only [showsSlot_range_iff hdays hfrom hto hday.bounds hfirst.bounds hlast.bounds]
      refine ⟨fun hfree _ _ profile' hfound l hl hs hlive day' hday' m ham hmb hcover => ?_, ?_⟩
      · cases hprofile.symm.trans hfound
        cases hday.bounds.symm.trans hday'
        exact hfree ⟨l, hl, ⟨hs, hlive⟩, m, ham, hmb, hcover⟩
      · rintro hfree ⟨l, hl, ⟨hs, hlive⟩, m, ham, hmb, hcover⟩
        exact hfree htrue hrole profile hprofile l hl hs hlive day hday.bounds m ham hmb hcover

/-! ### Vehicles -/

/-- A booking meets a slot of a steady day when it covers a minute of it. -/
theorem SteadyOn.meets_iff (hsteady : zone.SteadyOn date)
    (hday : polishDayBounds zone date = .ok day) {start stop s e : Instant} (hlt : start < stop)
    (hs : polishLocalDateTimeToDate zone date a = .ok s)
    (he : polishLocalDateTimeToDate zone date b = .ok e) (hab : a < b) :
    (start < e ∧ s < stop) ↔ ∃ m, a ≤ m ∧ m < b ∧ CoversMinute zone day start stop m := by
  have hstart := SteadyOn.instant hsteady hday hs
  have hstop := SteadyOn.instant hsteady hday he
  have hlength := SteadyOn.day_length hsteady hday
  obtain ⟨⟨ha, -⟩, -⟩ := localTime_wall hs
  obtain ⟨⟨-, hb⟩, -⟩ := localTime_wall he
  refine ⟨fun ⟨hbefore, hafter⟩ => ?_, ?_⟩
  · have hin : day.start ≤ max start s ∧ max start s < day.stop := by
      dsimp only [Instant, msPerMinute, msPerDay, minutesPerDay] at *
      omega
    refine ⟨(max start s - day.start) / msPerMinute, ?_, ?_, max start s, hin,
      ⟨le_max_left _ _, max_lt hlt hafter⟩, SteadyOn.minutes hsteady hday hin.1 hin.2⟩
    · dsimp only [Instant, msPerMinute] at *
      omega
    · dsimp only [Instant, msPerMinute] at *
      omega
  · rintro ⟨_, ham, hmb, t, ⟨hfrom, hto⟩, ⟨hs', he'⟩, rfl⟩
    rw [SteadyOn.minutes hsteady hday hfrom hto] at ham hmb
    dsimp only [Instant, msPerMinute] at *
    omega

theorem mem_busyOfVehicle {rangeStart rangeEnd : Instant} {v : Uuid} {booking : ScheduleWindow} :
    booking ∈ busyOfVehicle db rangeStart rangeEnd v ↔
      BooksVehicle db none none v booking.start booking.stop ∧
        booking.start < rangeEnd ∧ rangeStart < booking.stop := by
  have hkept (id : Uuid) : (none : Option Uuid) ≠ some id := (Option.some_ne_none id).symm
  simp only [busyOfVehicle, List.mem_append, List.mem_map, Table.mem_findMany, Bool.and_eq_true,
    decide_eq_true_eq, Lesson.busyDuring_eq_true, InstructorEvent.busyDuring_eq_true]
  refine ⟨?_, ?_⟩
  · rintro (⟨l, ⟨hl, hv, hs, hcross, -⟩, rfl⟩ | ⟨e, ⟨he, ⟨hv, ht⟩, ⟨ha, hs⟩, hcross, -⟩, rfl⟩)
    · exact ⟨.lesson hl hv hs (hkept _), hcross⟩
    · exact ⟨.drive he hv ht ha hs (hkept _), hcross⟩
  · rintro ⟨hbooks, hcross⟩
    obtain ⟨start, stop⟩ := booking
    cases hbooks with
    | lesson hl hv hs => exact Or.inl ⟨_, ⟨hl, hv, hs, hcross, hkept _⟩, rfl⟩
    | drive he hv ht ha hs => exact Or.inr ⟨_, ⟨he, ⟨hv, ht⟩, ⟨ha, hs⟩, hcross, hkept _⟩, rfl⟩

theorem localMidnight_iff {t : Instant} : polishLocalDateTimeToDate zone date 0 = .ok t ↔
    zone.toAbsolute (date * msPerDay) = some t := by
  simp [polishLocalDateTimeToDate, except_bind_eq_ok, minutesPerDay]

/-- A vehicle without a booking that meets the slot is free in all its minutes. -/
theorem busyOfVehicle_free_iff {rangeStart rangeEnd s e : Instant} (v : Uuid)
    (hsteady : zone.SteadyOn date) (hday : polishDayBounds zone date = .ok day)
    (hwhole : WholeMinuteBookings zone db) (hfrom : rangeStart ≤ day.start)
    (hto : day.stop ≤ rangeEnd) (hs : polishLocalDateTimeToDate zone date a = .ok s)
    (he : polishLocalDateTimeToDate zone date b = .ok e) (hab : a < b) :
    (∀ booking ∈ busyOfVehicle db rangeStart rangeEnd v,
        ¬(booking.start < e ∧ s < booking.stop)) ↔
      ∀ m, a ≤ m → m < b → ¬MinuteBooked zone db none none day v m := by
  refine ⟨?_, fun h booking hbooking hmeets => ?_⟩
  · rintro h m ham hmb ⟨start, stop, hbooks, hcover⟩
    obtain ⟨t, ⟨hin, hin'⟩, ⟨hs', he'⟩, -⟩ := id hcover
    have hmem : ⟨start, stop⟩ ∈ busyOfVehicle db rangeStart rangeEnd v :=
      mem_busyOfVehicle.mpr ⟨hbooks, hs'.trans_lt (hin'.trans_le hto), (hfrom.trans hin).trans_lt he'⟩
    refine h _ hmem ((SteadyOn.meets_iff hsteady hday ?_ hs he hab).mpr ⟨m, ham, hmb, hcover⟩)
    exact (hbooks.wholeMinutes hwhole).in_order
  · obtain ⟨hbooks, -⟩ := mem_busyOfVehicle.mp hbooking
    obtain ⟨m, ham, hmb, hcover⟩ := (SteadyOn.meets_iff hsteady hday
      (hbooks.wholeMinutes hwhole).in_order hs he hab).mp hmeets
    exact h m ham hmb ⟨_, _, hbooks, hcover⟩

/-- The answer for a slot is about one vehicle and the whole slot. -/
theorem vehicleFilter_spec {courseTypeId : Uuid} {fits : SlotDto → Except Failure Bool}
    (hdays : SteadyDays env.zone dateFrom dateTo)
    (hwhole : WholeMinuteBookings env.zone db)
    (h : loadCourseVehicleSlotFilter env schoolId courseTypeId dateFrom dateTo db =
      (.ok fits, db')) :
    db' = db.refreshVehicles env schoolId ∧
      ∀ slot, dateFrom ≤ slot.date → slot.date ≤ dateTo → slot.startTime < slot.endTime →
        (∃ c, fits slot = .ok c) → (fits slot = .ok true ↔
          VehicleFree env db schoolId courseTypeId slot.date slot.startTime slot.endTime) := by
  simp only [loadCourseVehicleSlotFilter, refreshExpiredVehicleUnavailabilitiesForSchool,
    Prog.bind_eq_ok, Prog.write_eq_ok, Prog.query_eq_ok] at h
  obtain ⟨_, _, rfl, h, rfl⟩ := h
  have husable (v : Vehicle) : v ∈ (db.refreshVehicles env schoolId).vehicles.findMany (fun v =>
      decide (v.schoolId = schoolId ∧ v.isActive = true ∧ v.availabilityStatus = .active ∧
        courseTypeId ∈ v.supportedCourseTypes)) ↔
      ∃ row ∈ db.vehicles.rows, Usable env.now schoolId courseTypeId row ∧
        v = row.rowRefreshed env.now := by
    rw [Table.mem_findMany, decide_eq_true_eq, ← usable_iff]
    tauto
  refine ⟨rfl, fun slot hfrom hto hlt hok => ?_⟩
  split at h
  · next hnone =>
    cases h
    refine iff_of_false (fun hfits => by cases hfits) ?_
    rintro ⟨row, hrow, huse, -⟩
    have hmem := (husable _).mpr ⟨row, hrow, huse, rfl⟩
    rw [hnone] at hmem
    exact absurd hmem List.not_mem_nil
  · simp only [except_bind_eq_ok, localMidnight_iff, pure, Except.pure, Except.ok.injEq] at h
    obtain ⟨rangeStart, hstart, rangeEnd, hend, rfl⟩ := h
    obtain ⟨hsteady, day, hday⟩ := hdays slot.date hfrom hto
    obtain ⟨hdayStart, hdayStop⟩ := dayBounds_iff.mp hday
    have hfirst := midnight_le hstart hdayStart hfrom
    have hlast := midnight_le hdayStop hend (Int.add_le_add_right hto 1)
    obtain ⟨c, hc⟩ := hok
    simp only [vehicleFitsSlot, except_bind_eq_ok] at hc
    obtain ⟨s, hs, e, he, -⟩ := hc
    simp only [vehicleFitsSlot, hs, he, bind, Except.bind, pure, Except.pure, Except.ok.injEq,
      List.any_map, List.any_eq_true, Function.comp, Bool.not_eq_true', List.any_eq_false,
      Bool.and_eq_true, decide_eq_true_eq, husable]
    refine ⟨?_, ?_⟩
    · rintro ⟨_, ⟨row, hrow, huse, rfl⟩, hbusy⟩
      refine ⟨row, hrow, huse, fun day' hday' => ?_⟩
      cases hday.symm.trans hday'
      rw [row.id_rowRefreshed] at hbusy
      exact (busyOfVehicle_free_iff row.id hsteady hday hwhole hfirst hlast hs he hlt).mp hbusy
    · rintro ⟨row, hrow, huse, hbooked⟩
      refine ⟨_, ⟨row, hrow, huse, rfl⟩, ?_⟩
      rw [row.id_rowRefreshed]
      exact (busyOfVehicle_free_iff row.id hsteady hday hwhole hfirst hlast hs he hlt).mpr
        (hbooked day hday)

/-! ### The list -/

theorem loadSlotCourse_some {courseId : Uuid} {course : Option Course}
    (h : loadSlotCourse db actor schoolId (some courseId) = .ok course) :
    ∃ row, course = some row ∧ row ∈ db.courses.rows ∧
      row.id = courseId ∧ row.schoolId = schoolId ∧ row.deletedAt = none := by
  simp only [loadSlotCourse, except_bind_eq_ok, orThrow_eq_ok, pure, Except.pure,
    Except.ok.injEq] at h
  obtain ⟨row, hrow, _, -, rfl⟩ := h
  obtain ⟨hmem, hp⟩ := Table.mem_of_findFirst hrow
  exact ⟨row, rfl, hmem, of_decide_eq_true hp⟩

theorem instructorItems_spec {duration : ℤ} {metaById : List (Uuid × InstructorMeta)}
    {busy : List BusyInterval} {fits : SlotDto → Except Failure Bool} {id : Uuid}
    {names : InstructorMeta} {items : List SchoolSlotItemDto}
    (hdays : SteadyDays zone dateFrom dateTo)
    (hwhole : WholeMinuteCalendar zone db) (hnames : metaById.lookup id = some names)
    (h : instructorItems zone db query dateFrom dateTo duration metaById busy fits id =
      .ok items) :
    items.Nodup ∧
      (∀ slot, (dateFrom ≤ slot.date ∧ slot.date ≤ dateTo) → IsPiece zone db id duration slot →
        slot.startTime < slot.endTime ∧ ∃ c, slotIsListed query busy fits slot = .ok c) ∧
      ∀ item, item ∈ items ↔ ∃ slot, ((dateFrom ≤ slot.date ∧ slot.date ≤ dateTo) ∧
        IsPiece zone db id duration slot) ∧ slotIsListed query busy fits slot = .ok true ∧
          slotItem id names slot = item := by
  simp only [instructorItems, except_bind_eq_ok, hnames, pure, Except.pure, Except.ok.injEq] at h
  obtain ⟨raw, hraw, listed, hlisted, rfl⟩ := h
  obtain ⟨hnodup, hlt, hpieces⟩ := generateSlots_spec hdays hwhole hraw
  obtain ⟨hnodup', hok, hmem⟩ := listedSlots_spec hnodup hlisted
  refine ⟨hnodup'.map fun x y hxy => ?_, fun slot hrange hpiece => ?_, fun item => ?_⟩
  · rw [slotItem, slotItem, SchoolSlotItemDto.mk.injEq] at hxy
    cases x
    cases y
    rw [SlotDto.mk.injEq]
    exact hxy.2.2.2
  · have hslot := (hpieces slot).mpr ⟨hrange, hpiece⟩
    exact ⟨hlt slot hslot, hok slot hslot⟩
  · simp only [List.mem_map, hmem, hpieces, and_assoc]

/-- The slot of an item. -/
def itemSlot (item : SchoolSlotItemDto) : SlotDto := ⟨item.date, item.startTime, item.endTime⟩

instance (c : Collation) (sort : SlotSort) : Std.TransCmp (sort.compare c) := by
  have hnames (f : SchoolSlotItemDto → String) :
      Std.TransCmp fun a b => c.localeCompare (f a) (f b) :=
    have := c.localeCompare_trans
    { eq_swap := Std.OrientedCmp.eq_swap, isLE_trans := Std.TransCmp.isLE_trans }
  have hlast := hnames (·.instructorLastName)
  have hfirst := hnames (·.instructorFirstName)
  cases sort
  · exact inferInstanceAs (Std.TransCmp (compareLex _ (compareLex _ _)))
  · exact inferInstanceAs (Std.TransCmp (compareLex _ (compareLex _ (compareLex _ _))))

/-- The list is in the order of the request. -/
def Ordered (c : Collation) (sort : SlotSort) (l : List SchoolSlotItemDto) : Prop :=
  l.Pairwise fun a b => (sort.compare c a b).isLE = true

theorem ordered_insertionSort (c : Collation) (sort : SlotSort) (l : List SchoolSlotItemDto) :
    Ordered c sort (l.insertionSort fun a b => (sort.compare c a b).isLE = true) := by
  have htotal : Std.Total fun a b => (sort.compare c a b).isLE = true := ⟨fun a b => by
    have hswap : sort.compare c b a = (sort.compare c a b).swap := Std.OrientedCmp.eq_swap
    rw [hswap]
    cases sort.compare c a b <;> simp⟩
  have htrans : IsTrans _ fun a b => (sort.compare c a b).isLE = true :=
    ⟨fun _ _ _ => Std.TransCmp.isLE_trans⟩
  exact List.pairwise_insertionSort _ l

theorem SchoolInstructor.unique {profile profile' : InstructorProfile} {user user' : User}
    (h : SchoolInstructor db schoolId profile user)
    (h' : SchoolInstructor db schoolId profile' user') (hid : profile.id = profile'.id) :
    profile = profile' ∧ user = user' := by
  obtain rfl := db.instructorProfiles.key_inj h.profile_mem h'.profile_mem hid
  exact ⟨rfl, Option.some.inj (h.user_found.symm.trans h'.user_found)⟩

theorem mem_instructorItems {school : SchoolSlotAccess} {course : Course}
    {profile : InstructorProfile} {user : User} {metaById : List (Uuid × InstructorMeta)}
    {busy : List BusyInterval} {fits : SlotDto → Except Failure Bool}
    {items : List SchoolSlotItemDto}
    (hdays : SteadyDays env.zone (effectiveDateFrom env actor query)
      (effectiveDateTo env school query)) (hwhole : WholeMinuteCalendar env.zone db)
    (hinstructor : SchoolInstructor db school.id profile user)
    (hqualified : course.courseTypeId ∈ profile.qualifiedCourseTypes)
    (hrequested : query.instructorIds ≠ [] → profile.id ∈ query.instructorIds)
    (hassigned : ∀ own, course.instructorId = some own → actor.role ≠ .manager →
      actor.role ≠ .admin → profile.id = own)
    (hnames : metaById.lookup profile.id = some ⟨user.firstName, user.lastName⟩)
    (hbusy : loadStudentBusyIntervals env.zone db actor (effectiveDateFrom env actor query)
      (effectiveDateTo env school query)
      (query.excludeMyLessons.getD (decide (actor.role = .student))) = .ok busy)
    (hvehicle : ∀ slot : SlotDto, effectiveDateFrom env actor query ≤ slot.date →
      slot.date ≤ effectiveDateTo env school query → slot.startTime < slot.endTime →
      (∃ c, fits slot = .ok c) → (fits slot = .ok true ↔ VehicleFree env db school.id
        course.courseTypeId slot.date slot.startTime slot.endTime))
    (h : instructorItems env.zone db query (effectiveDateFrom env actor query)
      (effectiveDateTo env school query)
      (query.slotDurationMinutes.getD school.slotDurationMinutes) metaById busy fits profile.id =
        .ok items) (item : SchoolSlotItemDto) :
    item ∈ items ↔
      item.instructorId = profile.id ∧ ListedSlot env db actor school query course item := by
  obtain ⟨-, hok, hmem⟩ := instructorItems_spec hdays hwhole hnames h
  have hwholeDays (date : Day) (hge : effectiveDateFrom env actor query ≤ date)
      (hle : date ≤ effectiveDateTo env school query) : ∃ day c, env.zone.WholeDay date day c := by
    obtain ⟨hsteady, day, hday⟩ := hdays date hge hle
    exact ⟨day, _, SteadyOn.wholeDay hsteady hday⟩
  rw [hmem]
  refine ⟨?_, ?_⟩
  · rintro ⟨slot, ⟨hrange, hpiece⟩, hlisted, rfl⟩
    obtain ⟨hlt, -⟩ := hok slot hrange hpiece
    rcases slotIsListed_cases query busy fits slot with ⟨hpass, heq⟩ | ⟨-, heq⟩
    · rw [heq] at hlisted
      exact ⟨rfl, hrange, ⟨profile, user, hinstructor, rfl, hqualified, rfl, rfl⟩, hrequested,
        hassigned, hpiece, hpass.weekday, hpass.from_time, hpass.to_time,
        (not_blocks_iff hwholeDays hwhole.toWholeMinuteBookings hrange.1 hrange.2 hlt hbusy).mp
          hpass.not_busy,
        (hvehicle slot hrange.1 hrange.2 hlt ⟨_, hlisted⟩).mp hlisted⟩
    · cases heq.symm.trans hlisted
  · rintro ⟨hid, hl⟩
    obtain ⟨profile', user', hinstructor', hid', -, hfirst, hlast⟩ := hl.instructor
    obtain ⟨rfl, rfl⟩ := hinstructor.unique hinstructor' (hid.symm.trans hid')
    have hpiece := hl.piece
    rw [hid] at hpiece
    obtain ⟨hlt, c, hc⟩ := hok (itemSlot item) hl.in_range hpiece
    have hpass : PassesFilters query busy (itemSlot item) :=
      ⟨hl.weekday, hl.from_time, hl.to_time,
        (not_blocks_iff hwholeDays hwhole.toWholeMinuteBookings hl.in_range.1 hl.in_range.2 hlt
          hbusy).mpr hl.student_free⟩
    refine ⟨itemSlot item, ⟨hl.in_range, hpiece⟩, ?_, ?_⟩
    · rcases slotIsListed_cases query busy fits (itemSlot item) with ⟨-, heq⟩ | ⟨hmiss, -⟩
      · rw [heq] at hc ⊢
        exact (hvehicle _ hl.in_range.1 hl.in_range.2 hlt ⟨c, hc⟩).mpr hl.vehicle_free
      · exact absurd hpass hmiss
    · rw [slotItem, ← hid, ← hfirst, ← hlast]
      rfl

/-! ### The run -/

/-- The vehicle filter of the course, if there is one. -/
def courseFilter (env : Env) (schoolId : Uuid) (dateFrom dateTo : Day) :
    Option Course → Service (SlotDto → Except Failure Bool)
  | some course => loadCourseVehicleSlotFilter env schoolId course.courseTypeId dateFrom dateTo
  | none => pure fun _ => return true

/-- What a run that returns has loaded; the vehicles are the last rows it writes. -/
theorem allSchoolSlots_eq_ok {c : Collation} {all : List SchoolSlotItemDto} :
    allSchoolSlots env c actor schoolId query db = (.ok all, db') ↔
      ∃ school, loadSchoolAndAssertSlotAccess db actor schoolId = .ok school ∧
        (effectiveDateFrom env actor query > effectiveDateTo env school query ∧ all = [] ∧ db = db' ∨
          ¬effectiveDateFrom env actor query > effectiveDateTo env school query ∧
          ∃ selection course busy fits lists,
            loadSchoolInstructorSelection db school.id query.instructorIds = .ok selection ∧
            loadSlotCourse db actor school.id query.courseId = .ok course ∧
            loadStudentBusyIntervals env.zone db actor (effectiveDateFrom env actor query)
              (effectiveDateTo env school query)
              (query.excludeMyLessons.getD (decide (actor.role = .student))) = .ok busy ∧
            courseFilter env school.id (effectiveDateFrom env actor query)
              (effectiveDateTo env school query) course db = (.ok fits, db') ∧
            (course.elim selection.instructorIds fun course =>
                courseInstructorIds db actor course selection.instructorIds).mapM
              (instructorItems env.zone db' query (effectiveDateFrom env actor query)
                (effectiveDateTo env school query)
                (query.slotDurationMinutes.getD school.slotDurationMinutes) selection.metaById busy
                fits) = .ok lists ∧
            all = lists.flatten.insertionSort fun a b => (query.sort.compare c a b).isLE = true) := by
  unfold allSchoolSlots
  rw [Prog.query_bind_eq_ok]
  refine exists_congr fun school => and_congr_right fun _ => ?_
  dsimp only
  split
  · next hempty =>
    rw [Prog.pure_eq_ok, eq_comm (a := [])]
    simp only [hempty, not_true_eq_false, false_and, or_false, true_and]
  · next hrange =>
    simp only [Prog.query_bind_eq_ok, Except.ok.injEq, exists_eq_left', hrange, false_and, false_or,
      not_false_eq_true, true_and]
    refine ⟨?_, ?_⟩
    · rintro ⟨selection, hselection, course, hcourse, busy, hbusy, h⟩
      cases course <;>
        obtain ⟨fits, _, hfits, h⟩ := Prog.bind_eq_ok.mp h <;>
        obtain ⟨lists, hlists, h⟩ := Prog.query_bind_eq_ok.mp h <;>
        obtain ⟨rfl, rfl⟩ := Prog.pure_eq_ok.mp h <;>
        exact ⟨selection, _, busy, fits, lists, hselection, hcourse, hbusy, hfits, hlists, rfl⟩
    · rintro ⟨selection, course, busy, fits, lists, hselection, hcourse, hbusy, hfits, hlists, rfl⟩
      refine ⟨selection, hselection, course, hcourse, busy, hbusy, ?_⟩
      cases course <;>
        exact Prog.bind_eq_ok.mpr ⟨fits, _, hfits, Prog.query_bind_eq_ok.mpr ⟨lists, hlists, rfl⟩⟩

/-- The filter refreshes the vehicles of the school, if it writes at all, and then is the same. -/
theorem courseFilter_again {course : Option Course} {fits : SlotDto → Except Failure Bool}
    (h : courseFilter env schoolId dateFrom dateTo course db = (.ok fits, db')) :
    (db' = db ∨ db' = db.refreshVehicles env schoolId) ∧
      courseFilter env schoolId dateFrom dateTo course db' = (.ok fits, db') := by
  cases course with
  | none =>
    obtain ⟨rfl, rfl⟩ := Prog.pure_eq_ok.mp h
    exact ⟨Or.inl rfl, rfl⟩
  | some course =>
    simp only [courseFilter, loadCourseVehicleSlotFilter,
      refreshExpiredVehicleUnavailabilitiesForSchool, Prog.bind_eq_ok, Prog.write_eq_ok,
      Prog.query_eq_ok] at h ⊢
    obtain ⟨_, _, rfl, hfits, rfl⟩ := h
    exact ⟨Or.inr rfl, (), _, refreshVehicles_twice env db schoolId, hfits, rfl⟩

theorem effectiveRange (env : Env) (actor : Actor) (school : SchoolSlotAccess)
    (query : SchoolAvailabilitySlotsQuery) : query.dateFrom ≤ effectiveDateFrom env actor query ∧
      effectiveDateTo env school query ≤ query.dateTo := by
  unfold effectiveDateFrom effectiveDateTo
  dsimp only
  refine ⟨?_, ?_⟩
  · split
    · next hpast => exact hpast.2.le
    · exact le_rfl
  · split
    · next hlate => exact hlate.le
    · exact le_rfl

/-- Every slot that is promised is listed, once and in order, and no other. -/
theorem allSchoolSlots_spec {c : Collation} {courseId : Uuid} {all : List SchoolSlotItemDto}
    (hcourse : query.courseId = some courseId) (hdistinct : query.instructorIds.Nodup)
    (hdays : SteadyDays env.zone query.dateFrom query.dateTo)
    (hwhole : WholeMinuteCalendar env.zone db)
    (h : allSchoolSlots env c actor schoolId query db = (.ok all, db')) :
    ∃ school, loadSchoolAndAssertSlotAccess db actor schoolId = .ok school ∧ all.Nodup ∧
      Ordered c query.sort all ∧ ∀ item, item ∈ all ↔ ∃ course ∈ db.courses.rows,
        (course.id = courseId ∧ course.schoolId = school.id ∧ course.deletedAt = none) ∧
          ListedSlot env db actor school query course item := by
  obtain ⟨school, hschool, ⟨hempty, rfl, -⟩ | ⟨-, selection, found, busy, fits, lists, hselection,
    hfound, hbusy, hfits, hlists, rfl⟩⟩ := allSchoolSlots_eq_ok.mp h
  · refine ⟨school, hschool, List.nodup_nil, List.Pairwise.nil, fun item =>
      ⟨fun hitem => absurd hitem List.not_mem_nil, ?_⟩⟩
    rintro ⟨course, -, -, hlisted⟩
    exact absurd (hlisted.in_range.1.trans hlisted.in_range.2) (not_le.mpr hempty)
  rw [hcourse] at hfound
  obtain ⟨course, rfl, hmem, hid, hof, hlive⟩ := loadSlotCourse_some hfound
  obtain ⟨hfrom, hto⟩ := effectiveRange env actor school query
  have hdays' : SteadyDays env.zone (effectiveDateFrom env actor query)
      (effectiveDateTo env school query) :=
    fun date hge hle => hdays date (hfrom.trans hge) (hle.trans hto)
  obtain ⟨rfl, hvehicle⟩ := vehicleFilter_spec hdays' hwhole.toWholeMinuteBookings hfits
  obtain ⟨hids, hselected, hnames⟩ := instructorSelection_spec hdistinct hselection
  obtain ⟨hnodup, hin⟩ := flatten_of_mapM_ok SchoolSlotItemDto.instructorId
    (P := ListedSlot env db actor school query course) hlists (nodup_courseInstructorIds hids)
    fun id hid items hrun => by
      obtain ⟨hsel, hassigned, p, hp, hpid, -, htype⟩ := mem_courseInstructorIds.mp hid
      obtain ⟨⟨profile, user, hinstructor, rfl⟩, hrequested⟩ := (hselected id).mp hsel
      obtain rfl := db.instructorProfiles.key_inj hp hinstructor.profile_mem hpid
      have hlookup := hnames p user hinstructor
      exact ⟨(instructorItems_spec hdays' hwhole hlookup hrun).1,
        mem_instructorItems hdays' hwhole hinstructor htype hrequested hassigned hlookup hbusy
          hvehicle hrun⟩
  have hperm := List.perm_insertionSort (fun a b => (query.sort.compare c a b).isLE = true)
    lists.flatten
  refine ⟨school, hschool, hperm.nodup_iff.mpr hnodup, ordered_insertionSort c query.sort _,
    fun item => ?_⟩
  rw [hperm.mem_iff, hin]
  refine ⟨fun ⟨_, hlisted⟩ => ⟨course, hmem, ⟨hid, hof, hlive⟩, hlisted⟩, ?_⟩
  rintro ⟨course', hmem', ⟨hid', -⟩, hlisted⟩
  obtain rfl := db.courses.key_inj hmem hmem' (hid.trans hid'.symm)
  obtain ⟨profile, user, hinstructor, hprofile, htype, -⟩ := hlisted.instructor
  obtain ⟨hdeleted, hactive, hrole⟩ := hinstructor.user_active
  refine ⟨mem_courseInstructorIds.mpr ⟨(hselected _).mpr ⟨⟨profile, user, hinstructor, hprofile⟩,
    hlisted.requested⟩, hlisted.assigned, profile, hinstructor.profile_mem, hprofile.symm, ?_,
    htype⟩, hlisted⟩
  rw [InstructorProfile.hasActiveUser, hinstructor.user_found, Option.any_some, decide_eq_true_eq]
  exact ⟨hrole, hdeleted, hactive⟩

/-! ### Pages -/

theorem allSchoolSlots_again {c : Collation} {all : List SchoolSlotItemDto}
    (h : allSchoolSlots env c actor schoolId query db = (.ok all, db')) :
    allSchoolSlots env c actor schoolId query db' = (.ok all, db') := by
  obtain ⟨school, hschool, ⟨hempty, rfl, rfl⟩ | ⟨hrange, selection, course, busy, fits, lists,
    hselection, hcourse, hbusy, hfits, hlists, rfl⟩⟩ := allSchoolSlots_eq_ok.mp h
  · exact h
  · -- the other reads do not see the refresh
    obtain ⟨rfl | rfl, hagain⟩ := courseFilter_again hfits
    · exact h
    · exact allSchoolSlots_eq_ok.mpr ⟨school, hschool, Or.inr ⟨hrange, selection, course, busy,
        fits, lists, hselection, hcourse, hbusy, hagain, hlists, rfl⟩⟩

theorem listedSlots_cut (limit offset : Option ℕ) (busy : List BusyInterval)
    (fits : SlotDto → Except Failure Bool) (raw : List SlotDto) :
    listedSlots { query with limit, offset } busy fits raw = listedSlots query busy fits raw := by
  induction raw with
  | nil => rfl
  | cons slot rest ih =>
    rw [listedSlots, listedSlots, ih]
    rfl

/-- What is cut off is not looked at before the end. -/
theorem allSchoolSlots_cut (c : Collation) (limit offset : Option ℕ) :
    allSchoolSlots env c actor schoolId { query with limit, offset } =
      allSchoolSlots env c actor schoolId query := by
  have hitems (db : Db) : instructorItems env.zone db { query with limit, offset } =
      instructorItems env.zone db query := by
    funext dateFrom dateTo duration metaById busy fits id
    simp only [instructorItems, listedSlots_cut]
  unfold allSchoolSlots
  simp only [hitems]
  rfl

theorem listSlots_eq_ok {c : Collation} {result : ListSchoolSlotsResult} :
    listSchoolAvailabilitySlots env c actor schoolId query db = (.ok result, db') ↔
      ∃ all, allSchoolSlots env c actor schoolId query db = (.ok all, db') ∧
        result = ⟨(all.drop (query.offset.getD 0)).take (query.limit.getD 200), all.length⟩ := by
  simp only [listSchoolAvailabilitySlots, Prog.bind_eq_ok, Prog.pure_eq_ok]
  refine ⟨?_, ?_⟩
  · rintro ⟨all, _, hall, rfl, rfl⟩
    exact ⟨all, hall, rfl⟩
  · rintro ⟨all, hall, rfl⟩
    exact ⟨all, _, hall, rfl, rfl⟩

/-- The listing of a course is exact: its list holds the promised slots and no others, once each and
in the order of the request; `total` counts them, and the pages put together are the list. -/
theorem slotListing_exact (c : Collation) {courseId : Uuid} {result : ListSchoolSlotsResult}
    (hcourse : query.courseId = some courseId) (hdistinct : query.instructorIds.Nodup)
    (hdays : SteadyDays env.zone query.dateFrom query.dateTo)
    (hwhole : WholeMinuteCalendar env.zone db)
    (h : listSchoolAvailabilitySlots env c actor schoolId query db = (.ok result, db')) :
    ∃ school all, loadSchoolAndAssertSlotAccess db actor schoolId = .ok school ∧ all.Nodup ∧
      Ordered c query.sort all ∧
      (∀ item, item ∈ all ↔ ∃ course ∈ db.courses.rows,
        (course.id = courseId ∧ course.schoolId = school.id ∧ course.deletedAt = none) ∧
          ListedSlot env db actor school query course item) ∧
      result.total = all.length ∧
      result.slots = (all.drop (query.offset.getD 0)).take (query.limit.getD 200) ∧
      ∀ limit n, all.length ≤ n * limit → ∃ pages db'',
        (List.range n).mapM (fun k => listSchoolAvailabilitySlots env c actor schoolId
          { query with limit := some limit, offset := some (k * limit) }) db = (.ok pages, db'') ∧
        (∀ page ∈ pages, page.total = all.length) ∧ pages.flatMap (·.slots) = all := by
  obtain ⟨all, hall, rfl⟩ := listSlots_eq_ok.mp h
  obtain ⟨school, hschool, hnodup, hordered, hmem⟩ :=
    allSchoolSlots_spec hcourse hdistinct hdays hwhole hall
  refine ⟨school, all, hschool, hnodup, hordered, hmem, rfl, rfl, fun limit n hlength => ?_⟩
  have hpage {store : Db} (k : ℕ)
      (hall : allSchoolSlots env c actor schoolId query store = (.ok all, db')) :
      listSchoolAvailabilitySlots env c actor schoolId
          { query with limit := some limit, offset := some (k * limit) } store =
        (.ok ⟨Keyset.page limit all k, all.length⟩, db') := by
    rw [listSlots_eq_ok, allSchoolSlots_cut]
    exact ⟨all, hall, rfl⟩
  obtain ⟨db'', hpages⟩ := Prog.mapM_settled (fun k => hpage k hall)
    (fun k => hpage k (allSchoolSlots_again hall)) (List.range n)
  refine ⟨_, db'', hpages, fun page hin => ?_, ?_⟩
  · obtain ⟨_, -, rfl⟩ := List.mem_map.mp hin
    rfl
  · rw [List.flatMap_map]
    exact (Keyset.flatMap_page limit all n).trans (List.take_of_length_le hlength)

end

/-- The slots of a course on two days. -/
def SmallSchool.twoDays : SchoolAvailabilitySlotsQuery where
  dateFrom := 5
  dateTo := 6
  courseId := some 50

open SmallSchool in
/-- The first vehicle drives on Tuesday from ten to eleven; six pages of seven hold all slots. -/
theorem slotListing_exact_twoDays :
    ∃ pages db', (List.range 6).mapM (fun k => listSchoolAvailabilitySlots (envAt (clock 4 8 0))
        ⟨compare, inferInstance⟩ manager 10
        { twoDays with limit := some 7, offset := some (k * 7) }) withTuesdayEvent =
          (.ok pages, db') ∧
      (∀ page ∈ pages, page.total = 39) ∧ (pages.flatMap (·.slots)).Nodup := by
  obtain ⟨result, db', h, htotal⟩ : ∃ result db', listSchoolAvailabilitySlots
      (envAt (clock 4 8 0)) ⟨compare, inferInstance⟩ manager 10 twoDays withTuesdayEvent =
        (.ok result, db') ∧ result.total = 39 := by
    have hrun : (listSchoolAvailabilitySlots (envAt (clock 4 8 0)) ⟨compare, inferInstance⟩ manager
        10 twoDays withTuesdayEvent).1.toOption.map (·.total) = some 39 := by decide +kernel
    rcases hout : listSchoolAvailabilitySlots (envAt (clock 4 8 0)) ⟨compare, inferInstance⟩
      manager 10 twoDays withTuesdayEvent with ⟨_ | result, db'⟩
    · rw [hout] at hrun
      cases hrun
    · rw [hout] at hrun
      exact ⟨result, db', rfl, Option.some.inj hrun⟩
  obtain ⟨_, all, -, hnodup, -, -, hlength, -, hpages⟩ := slotListing_exact ⟨compare, inferInstance⟩
    rfl (by decide) (fun date _ _ => ⟨fun _ _ _ _ _ => rfl, _, rfl⟩)
    ⟨⟨fun _ h => absurd h List.not_mem_nil, by
      intro e he
      rcases List.mem_singleton.mp he with rfl
      exact ⟨by decide, by decide, by decide⟩⟩, fun _ h => absurd h List.not_mem_nil⟩ h
  rw [htotal] at hlength
  obtain ⟨pages, db'', hrun, htotals, hall⟩ := hpages 7 6 (by omega)
  exact ⟨pages, db'', hrun, fun page hpage => (htotals page hpage).trans hlength.symm,
    hall.symm ▸ hnodup⟩

end OSK
