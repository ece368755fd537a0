import OskManager.Sample.SmallSchool
import OskManager.Schedule.SeedPlanner

/-! The check of the seeded schedule compares neighbours in the sorted list of each resource. It
finds every pair of counted entries that clash, because the entries it compares are not empty; and
what the planner has returned passes it. -/

namespace OSK

open Relational Booking

/-! ### What is counted -/

/-- An entry of the schedule: the text that names it, its dates and what it is for. -/
structure SeedEntry where
  entry : String
  startTime : Option Instant
  endTime : Option Instant
  holds : List SeedResource

/-- Its two dates are dates, the second one after the first. -/
def SeedEntry.NotEmpty (e : SeedEntry) : Prop :=
  ∃ start stop, e.startTime = some start ∧ e.endTime = some stop ∧ start < stop

/-- The booking of an entry with two dates. -/
def SeedEntry.booking (e : SeedEntry) : Option (Entry Instant SeedResource) :=
  e.startTime.bind fun start => e.endTime.map fun stop => ⟨start, stop, {r | r ∈ e.holds}⟩

def SeedLesson.counted (l : SeedLesson) : Option SeedEntry :=
  if l.status = some .cancelled then none
  else some
    { entry := "lesson:" ++ l.id.getD "missing-id"
      startTime := l.startTime
      endTime := l.endTime
      holds := .instructor l.instructorId :: .student l.studentId ::
        ((givenId l.vehicleId).map .vehicle).toList }

def SeedEvent.counted (rows : List SeedEventParticipant) (e : SeedEvent) : Option SeedEntry :=
  if e.isActive = some false ∨ e.status = some .cancelled then none
  else some
    { entry := "event:" ++ e.id.getD ""
      startTime := e.startTime
      endTime := e.endTime
      holds := .instructor e.instructorId :: (((givenId e.vehicleId).map .vehicle).toList ++
        (rows.filter fun p => e.id = some p.eventId).map fun p => .student p.studentId) }

def SeedTimeBlock.counted (b : SeedTimeBlock) : SeedEntry where
  entry := "block:" ++ b.id.getD "missing-id"
  startTime := b.startTime
  endTime := b.endTime
  holds := [.instructor b.instructorId]

def IntegrityInput.counted (input : IntegrityInput) : List SeedEntry :=
  input.lessons.filterMap SeedLesson.counted ++
    (input.events.filterMap (SeedEvent.counted input.eventParticipants) ++
      input.blocks.map SeedTimeBlock.counted)

/-- Every counted event has an id. -/
def IntegrityInput.EventsNamed (input : IntegrityInput) : Prop :=
  ∀ e ∈ input.events, (e.counted input.eventParticipants).isSome = true → givenId e.id ≠ none

/-- No two counted entries clash. -/
def IntegrityInput.ConflictFree (input : IntegrityInput) : Prop :=
  (input.counted.filterMap SeedEntry.booking).Pairwise fun x y => ¬x.Clash y

/-! ### Loading -/

/-- What the three kinds of rows have in common: the window is kept under each resource. -/
def addEntry (resources : Resources) (e : SeedEntry) : Except Failure Resources := do
  let window ← createWindow e.entry e.startTime e.endTime
  return e.holds.foldl (fun m r => addWindow m r.key window) resources

theorem addLesson_eq (resources : Resources) (l : SeedLesson) :
    addLesson resources l = match l.counted with
      | some e => addEntry resources e
      | none => pure resources := by
  rw [addLesson, SeedLesson.counted]
  split
  · rfl
  · cases givenId l.vehicleId <;> rfl

theorem loadLessons_eq (lessons : List SeedLesson) (resources : Resources) :
    lessons.foldlM addLesson resources =
      (lessons.filterMap SeedLesson.counted).foldlM addEntry resources := by
  rw [List.foldlM_filterMap]
  congr 1
  funext resources l
  rw [addLesson_eq]
  cases l.counted <;> rfl

theorem loadBlocks_eq (blocks : List SeedTimeBlock) (resources : Resources) :
    blocks.foldlM addBlock resources =
      (blocks.map SeedTimeBlock.counted).foldlM addEntry resources := by
  rw [List.foldlM_map]
  rfl

theorem get_participantsByEvent (input : IntegrityInput) (id : String) :
    (participantsByEvent input).get id =
      (input.eventParticipants.filter fun p => p.eventId = id).map (·.studentId) := by
  have h := Groups.get_foldl_push
    (input.eventParticipants.map fun p => (p.eventId, p.studentId)) Groups.empty id
  rw [List.foldl_map, List.filter_map, List.map_map, Groups.get_empty, List.nil_append] at h
  exact h

theorem givenId_eq_some {id : Option String} {s : String} :
    givenId id = some s ↔ id = some s ∧ s ≠ "" := by
  rw [givenId, Option.filter_eq_some_iff, decide_eq_true_eq]

theorem addEvent_ok {input : IntegrityInput} {resources after : Resources} {e : SeedEvent}
    {entry : SeedEntry} (he : e.counted input.eventParticipants = some entry) :
    addEvent (participantsByEvent input) resources e = .ok after ↔
      givenId e.id ≠ none ∧ addEntry resources entry = .ok after := by
  rw [SeedEvent.counted] at he
  split at he
  · cases he
  rename_i hcounted
  cases he
  rw [addEvent, if_neg hcounted, except_bind_eq_ok]
  cases hid : givenId e.id with
  | none => simp [orThrow]
  | some id =>
    have heid := (givenId_eq_some.mp hid).1
    simp only [heid, orThrow_eq_ok, Option.some.injEq, exists_eq_left', ne_eq, reduceCtorEq,
      not_false_eq_true, true_and, Option.getD_some]
    rw [addEntry, get_participantsByEvent]
    simp only [List.foldl_cons, List.foldl_append, List.foldl_map, eq_comm (a := id)]
    cases givenId e.vehicleId <;> exact Iff.rfl

theorem loadEvents_ok {input : IntegrityInput} {events : List SeedEvent}
    {resources after : Resources} :
    events.foldlM (addEvent (participantsByEvent input)) resources = .ok after ↔
      (∀ e ∈ events, (e.counted input.eventParticipants).isSome = true → givenId e.id ≠ none) ∧
        (events.filterMap (SeedEvent.counted input.eventParticipants)).foldlM addEntry resources =
          .ok after := by
  induction events generalizing resources with
  | nil => simp
  | cons e rest ih =>
    rw [List.foldlM_cons, List.forall_mem_cons, List.filterMap_cons]
    cases he : e.counted input.eventParticipants with
    | none =>
      have hskip : addEvent (participantsByEvent input) resources e = .ok resources := by
        rw [SeedEvent.counted] at he
        split at he
        · rename_i hcounted
          rw [addEvent, if_pos hcounted]
          rfl
        · cases he
      rw [hskip]
      simpa [bind, Except.bind] using ih
    | some entry =>
      simp only [except_bind_eq_ok, addEvent_ok he, List.foldlM_cons, ih]
      constructor
      · rintro ⟨next, ⟨hid, hadd⟩, hids, hrest⟩
        exact ⟨⟨fun _ => hid, hids⟩, next, hadd, hrest⟩
      · rintro ⟨⟨hid, hids⟩, next, hadd, hrest⟩
        exact ⟨next, ⟨hid rfl, hadd⟩, hids, hrest⟩

/-- The three loops are one loop over what is counted. -/
theorem assert_eq_ok {input : IntegrityInput} : assertSeedScheduleIntegrity input = .ok () ↔
    input.EventsNamed ∧ ∃ resources,
      input.counted.foldlM addEntry Groups.empty = .ok resources ∧
        ∀ group ∈ resources.entries, checkResource group = .ok () := by
  simp only [assertSeedScheduleIntegrity, except_bind_eq_ok, forEach_eq_ok, loadLessons_eq,
    loadEvents_ok, loadBlocks_eq, IntegrityInput.counted, List.foldlM_append,
    IntegrityInput.EventsNamed]
  constructor
  · rintro ⟨lessons, hlessons, events, ⟨hids, hevents⟩, resources, hblocks, hcheck⟩
    exact ⟨hids, resources, ⟨lessons, hlessons, events, hevents, hblocks⟩, hcheck⟩
  · rintro ⟨hids, resources, ⟨lessons, hlessons, events, hevents, hblocks⟩, hcheck⟩
    exact ⟨lessons, hlessons, events, ⟨hids, hevents⟩, resources, hblocks, hcheck⟩

/-! ### The windows of a resource -/

/-- The window of an entry; only an entry with two dates has one. -/
def SeedEntry.window (e : SeedEntry) : ResourceWindow where
  entry := e.entry
  start := e.startTime.getD 0
  stop := e.endTime.getD 0

theorem SeedEntry.NotEmpty.window_proper {e : SeedEntry} (h : e.NotEmpty) :
    e.window.start < e.window.stop := by
  obtain ⟨start, stop, hstart, hstop, hlt⟩ := h
  rw [SeedEntry.window, hstart, hstop]
  exact hlt

theorem createWindow_ok {e : SeedEntry} {window : ResourceWindow} :
    createWindow e.entry e.startTime e.endTime = .ok window ↔
      e.NotEmpty ∧ window = e.window := by
  obtain ⟨entry, _ | start, _ | stop, holds⟩ := e
  · simp [createWindow, SeedEntry.NotEmpty]
  · simp [createWindow, SeedEntry.NotEmpty]
  · simp [createWindow, SeedEntry.NotEmpty]
  · by_cases hlt : start < stop
    · simp [createWindow, SeedEntry.NotEmpty, SeedEntry.window, hlt, not_le.mpr hlt, pure,
        Except.pure, eq_comm]
    · simp [createWindow, SeedEntry.NotEmpty, not_lt.mp hlt, not_lt.mpr (not_lt.mp hlt)]

theorem addEntry_ok {resources after : Resources} {e : SeedEntry} :
    addEntry resources e = .ok after ↔
      e.NotEmpty ∧ after = e.holds.foldl (fun m r => addWindow m r.key e.window) resources := by
  rw [addEntry, except_bind_eq_ok]
  simp only [createWindow_ok, pure, Except.pure, Except.ok.injEq]
  constructor
  · rintro ⟨_, ⟨hproper, rfl⟩, rfl⟩
    exact ⟨hproper, rfl⟩
  · rintro ⟨hproper, rfl⟩
    exact ⟨_, ⟨hproper, rfl⟩, rfl⟩

/-- The resources of an entry, as the check keeps them. -/
def SeedEntry.keys (e : SeedEntry) : List String := e.holds.map SeedResource.key

theorem get_addEntry {e : SeedEntry} (hholds : e.holds.Nodup) (resources : Resources) (k : String) :
    (e.holds.foldl (fun m r => addWindow m r.key e.window) resources).get k =
      resources.get k ++ if k ∈ e.keys then [e.window] else [] := by
  have h := Groups.get_foldl_push (e.keys.map fun key => (key, e.window)) resources k
  rw [SeedEntry.keys, List.foldl_map, List.foldl_map, List.filter_map, List.map_map] at h
  have hkeys : e.keys.Nodup := hholds.map SeedResource.key_injective
  refine h.trans (congrArg (resources.get k ++ ·) ?_)
  show ((e.keys.filter fun key => key = k).map fun _ => e.window) = _
  rw [List.filter_eq]
  split
  · rename_i hmem
    rw [List.count_eq_one_of_mem hkeys hmem]
    rfl
  · rename_i hmem
    rw [List.count_eq_zero_of_not_mem hmem]
    rfl

theorem loadEntries_ok {entries : List SeedEntry} {resources after : Resources}
    (hholds : ∀ e ∈ entries, e.holds.Nodup) (h : entries.foldlM addEntry resources = .ok after) :
    (∀ e ∈ entries, e.NotEmpty) ∧ ∀ k, after.get k =
      resources.get k ++ (entries.filter fun e => k ∈ e.keys).map SeedEntry.window := by
  induction entries generalizing resources with
  | nil =>
    cases h
    exact ⟨fun e he => absurd he List.not_mem_nil, fun k => (List.append_nil _).symm⟩
  | cons e rest ih =>
    rw [List.foldlM_cons, except_bind_eq_ok] at h
    obtain ⟨next, hadd, hrest⟩ := h
    obtain ⟨hproper, rfl⟩ := addEntry_ok.mp hadd
    rw [List.forall_mem_cons] at hholds
    obtain ⟨hall, hget⟩ := ih hholds.2 hrest
    refine ⟨List.forall_mem_cons.mpr ⟨hproper, hall⟩, fun k => ?_⟩
    rw [hget, get_addEntry hholds.1, List.append_assoc, List.filter_cons]
    by_cases hk : k ∈ e.keys
    · rw [if_pos hk, if_pos (decide_eq_true hk)]
      rfl
    · rw [if_neg hk, if_neg (by simpa using hk)]
      rfl

theorem loadEntries_succeeds {entries : List SeedEntry} (h : ∀ e ∈ entries, e.NotEmpty)
    (resources : Resources) : ∃ after, entries.foldlM addEntry resources = .ok after := by
  induction entries generalizing resources with
  | nil => exact ⟨resources, rfl⟩
  | cons e rest ih =>
    rw [List.forall_mem_cons] at h
    obtain ⟨after, hafter⟩ := ih h.2
      (e.holds.foldl (fun m r => addWindow m r.key e.window) resources)
    refine ⟨after, ?_⟩
    rw [List.foldlM_cons, addEntry_ok.mpr ⟨h.1, rfl⟩]
    exact hafter

/-! ### The comparison -/

/-- Two windows of one resource are not to cross. -/
def ResourceWindow.Apart (a b : ResourceWindow) : Prop := ¬(a.start < b.stop ∧ b.start < a.stop)

theorem ResourceWindow.Apart.symm {a b : ResourceWindow} (h : ResourceWindow.Apart a b) :
    ResourceWindow.Apart b a :=
  fun hcross => h hcross.symm

theorem windowOrder_start {a b : ResourceWindow} (h : windowOrder a b) : a.start ≤ b.start := by
  rcases h with hlt | ⟨heq, -⟩
  · exact hlt.le
  · exact heq.le

theorem pairwise_sorted (windows : List ResourceWindow) :
    (windows.insertionSort windowOrder).Pairwise fun a b => a.start ≤ b.start := by
  have htotal : Std.Total windowOrder := ⟨fun a b => by
    dsimp only [windowOrder, Instant]
    omega⟩
  have htrans : IsTrans ResourceWindow windowOrder := ⟨fun a b c => by
    dsimp only [windowOrder, Instant]
    omega⟩
  exact (List.pairwise_insertionSort windowOrder windows).imp windowOrder_start

/-- Comparing neighbours after the sort compares all pairs. -/
theorem checkResource_ok {group : String × List ResourceWindow}
    (hproper : ∀ w ∈ group.2, w.start < w.stop) :
    checkResource group = .ok () ↔ group.2.Pairwise ResourceWindow.Apart := by
  have hmem {w : ResourceWindow} : w ∈ group.2.insertionSort windowOrder ↔ w ∈ group.2 :=
    List.mem_insertionSort _
  have hsorted := isChain_iff_pairwise_not_crossing
    (fun w hw => hproper w (hmem.mp hw)) (pairwise_sorted group.2)
  rw [← (List.perm_insertionSort windowOrder group.2).pairwise_iff ResourceWindow.Apart.symm,
    checkResource]
  refine Iff.trans ?_ hsorted
  rw [← firstOverlap_eq_none]
  cases firstOverlap ResourceWindow.start ResourceWindow.stop
    (group.2.insertionSort windowOrder) <;> simp

theorem checkResources_ok {resources : Resources}
    (hproper : ∀ k, ∀ w ∈ resources.get k, w.start < w.stop) :
    (∀ group ∈ resources.entries, checkResource group = .ok ()) ↔
      ∀ k, (resources.get k).Pairwise ResourceWindow.Apart := by
  have hgroups : ∀ group ∈ resources.entries, ∀ w ∈ group.2, w.start < w.stop :=
    (resources.forall_mem_iff (P := fun windows => ∀ w ∈ windows, w.start < w.stop)
      fun w hw => absurd hw List.not_mem_nil).mpr hproper
  rw [← resources.forall_mem_iff (P := List.Pairwise ResourceWindow.Apart) List.Pairwise.nil]
  exact forall₂_congr fun group hmem => checkResource_ok (hgroups group hmem)

theorem mem_keys_iff {e : SeedEntry} {r : SeedResource} : r.key ∈ e.keys ↔ r ∈ e.holds :=
  List.mem_map_of_injective SeedResource.key_injective

theorem booking_eq_some {e : SeedEntry} {x : Entry Instant SeedResource}
    (h : e.booking = some x) : x.start = e.window.start ∧ x.stop = e.window.stop ∧
      x.uses = {r | r ∈ e.holds} := by
  obtain ⟨start, hstart, hbooking⟩ := Option.bind_eq_some_iff.mp h
  obtain ⟨stop, hstop, rfl⟩ := Option.map_eq_some_iff.mp hbooking
  rw [SeedEntry.window, hstart, hstop]
  exact ⟨rfl, rfl, rfl⟩

theorem SeedEntry.NotEmpty.booked {e : SeedEntry} (h : e.NotEmpty) :
    ∃ x, e.booking = some x := by
  obtain ⟨start, stop, hstart, hstop, -⟩ := h
  exact ⟨_, by rw [SeedEntry.booking, hstart, hstop]; rfl⟩

/-- Two entries clash when their windows under some common key cross. -/
theorem bookings_apart_iff {a b : SeedEntry} (ha : a.NotEmpty) (hb : b.NotEmpty) :
    (∀ x, a.booking = some x → ∀ y, b.booking = some y → ¬x.Clash y) ↔
      ∀ k, k ∈ a.keys → k ∈ b.keys → ResourceWindow.Apart a.window b.window := by
  obtain ⟨x, hx⟩ := ha.booked
  obtain ⟨y, hy⟩ := hb.booked
  obtain ⟨hstart, hstop, huses⟩ := booking_eq_some hx
  obtain ⟨hstart', hstop', huses'⟩ := booking_eq_some hy
  have hmeets : x.Meets y ↔ ¬ResourceWindow.Apart a.window b.window := by
    have hproper := ha.window_proper
    have hproper' := hb.window_proper
    rw [← hstart, ← hstop] at hproper
    rw [← hstart', ← hstop'] at hproper'
    rw [Entry.meets_iff_crossing hproper hproper', hstart, hstop, hstart', hstop',
      ResourceWindow.Apart, not_not]
  simp only [hx, hy, Option.some.injEq, forall_eq']
  constructor
  · rintro h k hka hkb
    obtain ⟨r, hra, rfl⟩ := List.mem_map.mp hka
    refine not_not.mp fun hcross => h ⟨hmeets.mpr hcross, r, ?_, ?_⟩
    · rw [huses]
      exact hra
    · rw [huses']
      exact mem_keys_iff.mp hkb
  · rintro h ⟨hmeet, r, hra, hrb⟩
    rw [huses] at hra
    rw [huses'] at hrb
    exact hmeets.mp hmeet (h r.key (mem_keys_iff.mpr hra) (mem_keys_iff.mpr hrb))

theorem pairwise_forall_iff {α κ : Type} {R : κ → α → α → Prop} {l : List α} :
    (∀ k, l.Pairwise (R k)) ↔ l.Pairwise fun a b => ∀ k, R k a b := by
  induction l with
  | nil => simp
  | cons a rest ih =>
    simp only [List.pairwise_cons, forall_and, ih]
    exact and_congr_left' ⟨fun h b hb k => h k b hb, fun h k b hb => h b hb k⟩

/-- No resource has two windows that cross exactly when no two entries clash. -/
theorem resources_apart_iff {entries : List SeedEntry} (hproper : ∀ e ∈ entries, e.NotEmpty) :
    (∀ k, ((entries.filter fun e => k ∈ e.keys).map SeedEntry.window).Pairwise ResourceWindow.Apart) ↔
      (entries.filterMap SeedEntry.booking).Pairwise fun x y => ¬x.Clash y := by
  simp only [List.pairwise_map, List.pairwise_filter, decide_eq_true_eq]
  rw [pairwise_forall_iff, List.pairwise_filterMap]
  exact List.Pairwise.iff_of_mem fun {a b} ha hb =>
    (bookings_apart_iff (hproper a ha) (hproper b hb)).symm

/-! ### The whole check -/

theorem vehicle_nodup (vehicleId : Option String) :
    ((vehicleId.map SeedResource.vehicle).toList).Nodup := by
  cases vehicleId with
  | none => exact List.nodup_nil
  | some id => exact List.nodup_singleton _

/-- With distinct participant rows no entry names a resource twice. -/
theorem counted_nodup {input : IntegrityInput} (hrows : input.eventParticipants.Nodup)
    {e : SeedEntry} (he : e ∈ input.counted) : e.holds.Nodup := by
  simp only [IntegrityInput.counted, List.mem_append, List.mem_filterMap, List.mem_map] at he
  rcases he with ⟨l, -, hl⟩ | ⟨event, -, hevent⟩ | ⟨b, -, rfl⟩
  · rw [SeedLesson.counted] at hl
    split at hl
    · cases hl
    cases hl
    cases givenId l.vehicleId <;> simp
  · rw [SeedEvent.counted] at hevent
    split at hevent
    · cases hevent
    cases hevent
    have hstudents : ((input.eventParticipants.filter fun p => event.id = some p.eventId).map
        fun p => SeedResource.student p.studentId).Nodup := by
      refine (hrows.filter _).map_on fun p hp q hq heq => ?_
      have hpid := of_decide_eq_true (List.mem_filter.mp hp).2
      have hqid := of_decide_eq_true (List.mem_filter.mp hq).2
      obtain ⟨eventId, studentId⟩ := p
      obtain ⟨eventId', studentId'⟩ := q
      cases heq
      cases Option.some.inj (hpid.symm.trans hqid)
      rfl
    rw [List.nodup_cons]
    refine ⟨by cases givenId event.vehicleId <;> simp, (vehicle_nodup _).append hstudents ?_⟩
    cases givenId event.vehicleId <;> simp
  · exact List.nodup_singleton _

theorem assertSeedScheduleIntegrity_ok {input : IntegrityInput}
    (hrows : input.eventParticipants.Nodup) :
    assertSeedScheduleIntegrity input = .ok () ↔
      input.EventsNamed ∧ (∀ e ∈ input.counted, e.NotEmpty) ∧ input.ConflictFree := by
  have hholds : ∀ e ∈ input.counted, e.holds.Nodup := fun e he => counted_nodup hrows he
  rw [assert_eq_ok]
  refine and_congr_right fun _ => ?_
  have hcheck {resources : Resources} (hproper : ∀ e ∈ input.counted, e.NotEmpty)
      (hload : input.counted.foldlM addEntry Groups.empty = .ok resources) :
      (∀ group ∈ resources.entries, checkResource group = .ok ()) ↔ input.ConflictFree := by
    obtain ⟨-, hget⟩ := loadEntries_ok hholds hload
    simp only [Groups.get_empty, List.nil_append] at hget
    rw [IntegrityInput.ConflictFree, ← resources_apart_iff hproper, checkResources_ok]
    · simp only [hget]
    · intro k w hw
      rw [hget] at hw
      obtain ⟨e, he, rfl⟩ := List.mem_map.mp hw
      exact (hproper e (List.mem_of_mem_filter he)).window_proper
  constructor
  · rintro ⟨resources, hload, hok⟩
    have hproper := (loadEntries_ok hholds hload).1
    exact ⟨hproper, (hcheck hproper hload).mp hok⟩
  · rintro ⟨hproper, hfree⟩
    obtain ⟨resources, hload⟩ := loadEntries_succeeds hproper Groups.empty
    exact ⟨resources, hload, (hcheck hproper hload).mpr hfree⟩

theorem planned_accepted {zone : PolishZone} {server : ServerZone}
    {calendars : String → Option SeedInstructorCalendar} {requests : List SeedSlotRequest}
    {input : IntegrityInput} (hrows : input.eventParticipants.Nodup) (hnamed : input.EventsNamed)
    (hproper : ∀ e ∈ input.counted, e.NotEmpty)
    (hplanned : (input.counted.filterMap SeedEntry.booking).Perm
      ((returnedSlots zone server calendars requests Groups.empty).map fun call =>
        call.1.booking call.2)) :
    assertSeedScheduleIntegrity input = .ok () := by
  refine (assertSeedScheduleIntegrity_ok hrows).mpr ⟨hnamed, hproper, ?_⟩
  have hpairs := (@returnedSlots_spec zone server calendars requests Groups.empty).1
  refine (hplanned.pairwise_iff fun h hclash => h hclash.symm).mpr ?_
  exact List.pairwise_map.mpr hpairs

/-- Calls that return share no instant of a resource, and each slot lies in the hours of its day.
The check accepts exactly the schedules with this property whose counted events have ids. -/
theorem seedSchedule_conflictFree (zone : PolishZone) (server : ServerZone)
    (calendars : String → Option SeedInstructorCalendar) (requests : List SeedSlotRequest)
    (input : IntegrityInput) (hrows : input.eventParticipants.Nodup) :
    ((returnedSlots zone server calendars requests Groups.empty).Pairwise SlotsApart ∧
      ∀ call ∈ returnedSlots zone server calendars requests Groups.empty,
        ∃ calendar hours, calendars call.1.instructorId = some calendar ∧
          SlotInHours zone calendar call.1.durationMinutes call.2 hours) ∧
    (assertSeedScheduleIntegrity input = .ok () ↔
      input.EventsNamed ∧ (∀ e ∈ input.counted, e.NotEmpty) ∧ input.ConflictFree) := by
  obtain ⟨hpairs, hcalls⟩ := @returnedSlots_spec zone server calendars requests Groups.empty
  refine ⟨⟨hpairs, fun call hmem => ?_⟩, assertSeedScheduleIntegrity_ok hrows⟩
  obtain ⟨-, -, calendar, hcalendar, hfits⟩ := hcalls call hmem
  obtain ⟨hours, hslot⟩ := hfits.inHours
  exact ⟨calendar, hours, hcalendar, hslot⟩

namespace TwoDrives

/-- Mondays from eight to noon. -/
def calendar : SeedInstructorCalendar where
  windows := [⟨1, 8 * 60 * msPerMinute, 12 * 60 * msPerMinute⟩]
  exceptions := []
  leaves := []

/-- Two instructors with one car ask on a Saturday. -/
def requests : List SeedSlotRequest :=
  ["anna", "jan"].map fun instructorId =>
    { anchor := SmallSchool.clock 20001 12 0, durationMinutes := 60, instructorId
      vehicleId := some "car" }

def drive (hour : ℤ) (instructorId : String) : SeedLesson where
  studentId := instructorId ++ "-1"
  instructorId
  vehicleId := some "car"
  startTime := some (SmallSchool.clock 20003 hour 0)
  endTime := some (SmallSchool.clock 20003 (hour + 1) 0)

/-- The second drive is written first. -/
def input : IntegrityInput where
  lessons := [drive 9 "jan", drive 8 "anna"]

def server : ServerZone := ⟨fun _ => 0, id⟩

end TwoDrives

theorem seedSchedule_conflictFree_twoDrives :
    ((returnedSlots SmallSchool.zone TwoDrives.server (fun _ => some TwoDrives.calendar)
      TwoDrives.requests Groups.empty).map fun call => call.2.start) =
        [SmallSchool.clock 20003 8 0, SmallSchool.clock 20003 9 0] ∧
    (returnedSlots SmallSchool.zone TwoDrives.server (fun _ => some TwoDrives.calendar)
      TwoDrives.requests Groups.empty).Pairwise SlotsApart ∧
    TwoDrives.input.ConflictFree := by
  have h := seedSchedule_conflictFree SmallSchool.zone TwoDrives.server
    (fun _ => some TwoDrives.calendar) TwoDrives.requests TwoDrives.input List.nodup_nil
  refine ⟨by decide +kernel, h.1.1, (h.2.mp ?_).2.2⟩
  rfl

/-- An event without an id is refused, though its window is not empty and nothing clashes. -/
theorem namelessEvent_refused :
    ¬∀ input : IntegrityInput, input.eventParticipants.Nodup →
      (assertSeedScheduleIntegrity input = .ok () ↔
        (∀ e ∈ input.counted, e.NotEmpty) ∧ input.ConflictFree) := by
  intro h
  let event : SeedEvent := { instructorId := "anna", startTime := some 0, endTime := some 1 }
  have haccepted : assertSeedScheduleIntegrity { events := [event] } = .ok () := by
    refine (h { events := [event] } List.nodup_nil).mpr ⟨fun e he => ?_, List.pairwise_singleton _ _⟩
    rw [List.mem_singleton.mp he]
    exact ⟨0, 1, rfl, rfl, one_pos⟩
  have hrefused : assertSeedScheduleIntegrity { events := [event] } =
      .error (.other "Seed schedule event is missing an id") := rfl
  rw [hrefused] at haccepted
  cases haccepted

end OSK
