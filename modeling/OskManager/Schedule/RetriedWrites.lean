import OskManager.Lib.Retry
import OskManager.Model.ScheduleTransaction
import OskManager.Schedule.InterleavedWrites
import OskManager.Schedule.SchoolTransfers

/-! Requests whose transactions conflict. Bookings, new events and edits read first and write in a
transaction that is tried up to three times, and all of them interleave. -/

namespace OSK

open Relational

/-! ### A booking after its checks -/

section Bookings

variable {env : Env} {db db' : Db}

/-- The transaction reads the course again, and goes on with what it has read. -/
theorem createPracticeLesson_reloads {input : PracticeLessonInput}
    {resolve : CourseForBooking → Service Uuid} {dto : LessonDto}
    (h : createPracticeLessonForStudent env input resolve db = (.ok dto, db')) :
    ∃ course, loadCourseForBooking db course.id = .ok course ∧
      createPracticeLessonForStudent env { input with course } resolve db = (.ok dto, db') := by
  simp only [createPracticeLessonForStudent, Prog.bind_eq_ok, Prog.transaction_eq_ok,
    Prog.query_eq_ok, Prog.lift_eq_ok] at h
  obtain ⟨row, s, ⟨course, _, ⟨hcourse, rfl⟩, _, _, ⟨_, rfl⟩, hrest⟩, hdto⟩ := h
  have hself := loadCourseForBooking_self hcourse
  refine ⟨course, hself, ?_⟩
  simp only [createPracticeLessonForStudent, Prog.bind_eq_ok, Prog.transaction_eq_ok,
    Prog.query_eq_ok, Prog.lift_eq_ok]
  exact ⟨row, s, ⟨course, _, ⟨hself, rfl⟩, (), _, ⟨by simp, rfl⟩, hrest⟩, hdto⟩

theorem createPracticeLesson_safe {input : PracticeLessonInput}
    {resolve : CourseForBooking → Service Uuid}
    (hkeep : ∀ c, Prog.Keeps Refreshed (resolve c))
    (hfree : ∀ c v t, resolve c db = (.ok v, t) →
      vehicleHasBookingConflict db v input.start input.stop = false)
    (h : ScheduleSafe db) :
    ScheduleSafe (createPracticeLessonForStudent env input resolve db).2 := by
  obtain ⟨hbooking, hcapacity⟩ := h
  have hfails := createPracticeLesson_fails env input resolve
  refine ⟨noDoubleBooking_after hfails hbooking fun dto db' hok => ?_,
    hcapacity.of_same (sameEvents_after hfails fun dto db' hok => ?_)⟩
  · obtain ⟨course, hcourse, hok⟩ := createPracticeLesson_reloads hok
    refine createPracticeLesson_noDoubleBooking hkeep ?_ ?_ hbooking hok
    · exact hfree
    · exact hcourse
  · obtain ⟨_, _, _, _, _, _, rfl⟩ := createPracticeLesson_ok hkeep hok
    exact ⟨rfl, rfl⟩

/-- The checks of a booking by the student before its transaction. -/
def prepareBookOwnLesson (env : Env) (db : Db) (actor : Actor) (body : BookOwnLessonBody) :
    Except Failure PracticeLessonInput := do
  throwIf (actor.role ≠ .student) (Failure.forbidden "Forbidden")
  let course ← loadCourseForBooking db body.courseId
  assertCourseCanBeSelfBooked course
  assertLessonTimeIsBookable env db body.startTime course.schoolId
  let studentProfileId ← loadStudentProfileIdForUser db actor.id
  assertStudentParticipatesInCourse db course.id studentProfileId true
  assertInstructorCanBookCourse db body.instructorId course
  return { course, studentProfileId, instructorId := body.instructorId
           start := body.startTime, stop := body.endTime, bookingMode := body.bookingMode }

def ownVehicle (env : Env) (body : BookOwnLessonBody) (course : CourseForBooking) : Service Uuid :=
  findAvailableVehicleIdForStudentBooking env body.instructorId course.schoolId body.startTime
    body.endTime course.courseTypeId

theorem bookOwnLesson_twoPhase (actor : Actor) (body : BookOwnLessonBody) :
    bookOwnLesson env actor body = (do
      let input ← Prog.query fun db => prepareBookOwnLesson env db actor body
      createPracticeLessonForStudent env input (ownVehicle env body)) := by
  simp only [bookOwnLesson, prepareBookOwnLesson, Prog.query_except_bind, Prog.bind_assoc]
  rfl

end Bookings

theorem writeCreateInstructorEvent_safe {env : Env} {db : Db} {body : CreateInstructorEventBody}
    (schoolId : Uuid) (hcapacity : ∀ c ∈ body.capacity, 0 ≤ c) (h : ScheduleSafe db) :
    ScheduleSafe (writeCreateInstructorEvent env body schoolId db).2 := by
  obtain ⟨hbooking, hcapacities⟩ := h
  have hfails : Prog.FailsWithin Refreshed (writeCreateInstructorEvent env body schoolId) :=
    writeCreateInstructorEvent_fails body schoolId
  refine ⟨noDoubleBooking_after hfails hbooking fun dto db' hok => ?_,
    capacitiesHold_after hfails hcapacities fun dto db' hok => ?_⟩
  · simp only [writeCreateInstructorEvent, Prog.bind_eq_ok, Prog.transaction_eq_ok,
      Prog.query_eq_ok, Prog.pure_eq_ok, forSome_eq_ok, onlyIf_eq_ok] at hok
    obtain ⟨_, _, ⟨_, _, ⟨_, rfl⟩, _, _, ⟨hwindow, rfl⟩, _, _, ⟨hvehicle, rfl⟩, hrow⟩, _, rfl⟩ := hok
    cases hrow
    obtain ⟨p, hp⟩ := Refreshed.refl db
    rw [hp]
    refine insertEvent_noDoubleBooking hbooking hwindow (fun hdrive v hv => ?_) p
    exact hvehicle hdrive v (by rw [CreateInstructorEventBody.storedVehicleId, if_pos hdrive, hv])
  · rw [writeCreateInstructorEvent_ok hok]
    intro e he hactive c hc
    rcases mem_insertEvent.mp he with he | rfl
    · exact hcapacities e he hactive c hc
    · have hnone : eventStudentIds db (env.uuid db.takenEventIds) = [] := by
        rw [List.eq_nil_iff_forall_not_mem]
        exact fun s hs => no_participant_of_fresh s ((mem_eventStudentIds ..).mp hs)
      have hlength : (eventStudentIds db (env.uuid db.takenEventIds)).length = 0 := by
        rw [hnone, List.length_nil]
      exact hlength ▸ hcapacity c hc

/-! ### Requests -/

/-- A transaction with what its request has read before it. -/
inductive RetriedWrite where
  | bookLesson (env : Env) (body : BookLessonBody) (input : PracticeLessonInput)
  | bookOwnLesson (env : Env) (body : BookOwnLessonBody) (input : PracticeLessonInput)
  | createInstructorEvent (env : Env) (body : CreateInstructorEventBody) (schoolId : Uuid)
  | edit (write : PendingWrite)

def RetriedWrite.run : RetriedWrite → Service Unit
  | .bookLesson env body input =>
    Prog.discard (createPracticeLessonForStudent env input (bookedVehicle env body))
  | .bookOwnLesson env body input =>
    Prog.discard (createPracticeLessonForStudent env input (ownVehicle env body))
  | .createInstructorEvent env body schoolId =>
    Prog.discard (writeCreateInstructorEvent env body schoolId)
  | .edit write => write.run

/-- A request with its arguments, the clock of its checks and that of its transaction. -/
inductive RetriedRequest where
  | bookLesson (readEnv writeEnv : Env) (actor : Actor) (body : BookLessonBody)
  | bookOwnLesson (readEnv writeEnv : Env) (actor : Actor) (body : BookOwnLessonBody)
  | createInstructorEvent (readEnv writeEnv : Env) (actor : Actor)
      (body : CreateInstructorEventBody)
  | updateLesson (writeEnv : Env) (actor : Actor) (lessonId : Uuid) (body : UpdateLessonBody)
  | updateInstructorEvent (readEnv writeEnv : Env) (actor : Actor) (eventId : Uuid)
      (body : PatchInstructorEventBody)
  | assignStudentsToEvent (writeEnv : Env) (actor : Actor) (eventId : Uuid) (studentIds : List Uuid)
  | replaceEventStudents (writeEnv : Env) (actor : Actor) (eventId : Uuid) (studentIds : List Uuid)

/-- An edit as a request of two phases. -/
def RetriedRequest.readEdit (request : ScheduleRequest) : Service RetriedWrite := do
  return .edit (← request.read)

def RetriedRequest.read : RetriedRequest → Service RetriedWrite
  | .bookLesson readEnv writeEnv actor body => do
    let input ← Prog.query fun db => prepareBookLesson readEnv db actor body
    return .bookLesson writeEnv body input
  | .bookOwnLesson readEnv writeEnv actor body => do
    let input ← Prog.query fun db => prepareBookOwnLesson readEnv db actor body
    return .bookOwnLesson writeEnv body input
  | .createInstructorEvent readEnv writeEnv actor body => do
    let schoolId ← prepareCreateInstructorEvent readEnv actor body
    return .createInstructorEvent writeEnv body schoolId
  | .updateLesson writeEnv actor lessonId body =>
    readEdit (.updateLesson writeEnv actor lessonId body)
  | .updateInstructorEvent readEnv writeEnv actor eventId body =>
    readEdit (.updateInstructorEvent readEnv writeEnv actor eventId body)
  | .assignStudentsToEvent writeEnv actor eventId studentIds =>
    readEdit (.assignStudentsToEvent writeEnv actor eventId studentIds)
  | .replaceEventStudents writeEnv actor eventId studentIds =>
    readEdit (.replaceEventStudents writeEnv actor eventId studentIds)

def RetriedRequest.twoPhase (request : RetriedRequest) :
    TwoPhase Failure Db RetriedWrite Unit where
  read := request.read
  write := RetriedWrite.run

/-- What a transaction relies on without looking it up: a booking on nothing, a new event on the
least capacity of the request's schema, and an edit on what it has read. An edit reactivates no
event. -/
def RetriedWrite.Relies (db : Db) : RetriedWrite → Prop
  | .bookLesson .. | .bookOwnLesson .. => True
  | .createInstructorEvent _ body _ => ∀ c ∈ body.capacity, 0 ≤ c
  | .edit write => write.Fresh db ∧ ¬Reactivates db (write.run db).2

instance decidableReactivates (db db' : Db) : Decidable (Reactivates db db') :=
  inferInstanceAs (Decidable (∃ e ∈ db.instructorEvents.rows, e.status = .cancelled ∧
    ∃ e' ∈ db'.instructorEvents.rows, e'.id = e.id ∧ e'.status ≠ .cancelled))

instance decidableRelies (db : Db) : (w : RetriedWrite) → Decidable (w.Relies db)
  | .bookLesson .. | .bookOwnLesson .. => .isTrue trivial
  | .createInstructorEvent .. => inferInstanceAs (Decidable (∀ c ∈ _, 0 ≤ c))
  | .edit write => inferInstanceAs (Decidable (write.Fresh db ∧ ¬Reactivates _ _))

theorem readEdit_eq_ok {request : ScheduleRequest} {w : RetriedWrite} {s t : Db} :
    RetriedRequest.readEdit request s = (.ok w, t) ↔
      ∃ write, request.read s = (.ok write, t) ∧ w = .edit write := by
  simp only [RetriedRequest.readEdit, Prog.bind_eq_ok, Prog.pure_eq_ok]
  exact ⟨fun ⟨write, _, hread, hw, ht⟩ => ⟨write, ht ▸ hread, hw.symm⟩,
    fun ⟨write, hread, hw⟩ => ⟨write, t, hread, hw.symm, rfl⟩⟩

theorem RetriedRequest.read_edit {request : RetriedRequest} {write : PendingWrite} {s t : Db}
    (h : request.read s = (.ok (.edit write), t)) :
    ∃ request : ScheduleRequest, request.read s = (.ok write, t) := by
  have hedit : ∀ {r : ScheduleRequest}, readEdit r s = (.ok (.edit write), t) →
      ∃ request : ScheduleRequest, request.read s = (.ok write, t) := by
    intro r hr
    obtain ⟨_, hread, hw⟩ := readEdit_eq_ok.mp hr
    cases hw
    exact ⟨r, hread⟩
  cases request with
  | bookLesson | bookOwnLesson | createInstructorEvent =>
    obtain ⟨_, _, _, hw⟩ := Prog.bind_eq_ok.mp h
    cases hw
  | updateLesson | updateInstructorEvent | assignStudentsToEvent | replaceEventStudents =>
    exact hedit h

theorem readEdit_edit {request : ScheduleRequest} {w : RetriedWrite} {s t : Db}
    (h : RetriedRequest.readEdit request s = (.ok w, t)) : ∃ write, w = .edit write := by
  obtain ⟨write, _, hw⟩ := readEdit_eq_ok.mp h
  exact ⟨write, hw⟩

theorem RetriedRequest.read_bookLesson {request : RetriedRequest} {env : Env}
    {body : BookLessonBody} {input : PracticeLessonInput} {s t : Db}
    (h : request.read s = (.ok (.bookLesson env body input), t)) :
    input.start = body.startTime ∧ input.stop = body.endTime := by
  cases request with
  | bookLesson readEnv writeEnv actor body' =>
    obtain ⟨input', _, hread, hw⟩ := Prog.bind_eq_ok.mp h
    cases hw
    have hprepared := (Prog.query_eq_ok.mp hread).1
    simp only [prepareBookLesson, except_bind_eq_ok] at hprepared
    obtain ⟨_, _, _, _, _, _, _, _, _, _, _, _, hinput⟩ := hprepared
    cases hinput
    exact ⟨rfl, rfl⟩
  | bookOwnLesson | createInstructorEvent =>
    obtain ⟨_, _, _, hw⟩ := Prog.bind_eq_ok.mp h
    cases hw
  | updateLesson | updateInstructorEvent | assignStudentsToEvent | replaceEventStudents =>
    obtain ⟨_, hw⟩ := readEdit_edit h
    cases hw

theorem RetriedRequest.read_bookOwnLesson {request : RetriedRequest} {env : Env}
    {body : BookOwnLessonBody} {input : PracticeLessonInput} {s t : Db}
    (h : request.read s = (.ok (.bookOwnLesson env body input), t)) :
    input.start = body.startTime ∧ input.stop = body.endTime := by
  cases request with
  | bookOwnLesson readEnv writeEnv actor body' =>
    obtain ⟨input', _, hread, hw⟩ := Prog.bind_eq_ok.mp h
    cases hw
    have hprepared := (Prog.query_eq_ok.mp hread).1
    simp only [prepareBookOwnLesson, except_bind_eq_ok] at hprepared
    obtain ⟨_, _, _, _, _, _, _, _, _, _, _, _, _, _, hinput⟩ := hprepared
    cases hinput
    exact ⟨rfl, rfl⟩
  | bookLesson | createInstructorEvent =>
    obtain ⟨_, _, _, hw⟩ := Prog.bind_eq_ok.mp h
    cases hw
  | updateLesson | updateInstructorEvent | assignStudentsToEvent | replaceEventStudents =>
    obtain ⟨_, hw⟩ := readEdit_edit h
    cases hw

theorem RetriedRequest.read_keeps (request : RetriedRequest) :
    Prog.Keeps Refreshed request.read := by
  have hedit : ∀ r : ScheduleRequest, Prog.Keeps Refreshed (readEdit r) :=
    fun r => keeps_bind r.read_keeps fun _ => keeps_pure _
  cases request with
  | bookLesson | bookOwnLesson => exact keeps_bind (keeps_query _) fun _ => keeps_pure _
  | createInstructorEvent readEnv _ actor body =>
    refine keeps_bind ?_ fun _ => keeps_pure _
    refine keeps_bind (keeps_query _) fun _ => keeps_bind (keeps_query _) fun _ => ?_
    refine keeps_bind (keeps_query _) fun _ => keeps_bind (keeps_query _) fun _ => ?_
    exact keeps_bind (validateDriveVehicle_keeps readEnv _ _ _ _) fun _ => keeps_pure _
  | updateLesson | updateInstructorEvent | assignStudentsToEvent | replaceEventStudents =>
    exact hedit _

theorem RetriedWrite.run_safe {w : RetriedWrite} {db : Db}
    (hread : ∃ (request : RetriedRequest) (s t : Db), request.read s = (.ok w, t))
    (hrelies : w.Relies db) (h : ScheduleSafe db) : ScheduleSafe (w.run db).2 := by
  cases w with
  | bookLesson env body input =>
    obtain ⟨request, s, t, hread⟩ := hread
    obtain ⟨hstart, hstop⟩ := request.read_bookLesson hread
    refine createPracticeLesson_safe (bookedVehicle_keeps env body) (fun c v t hv => ?_) h
    rw [hstart, hstop]
    exact bookedVehicle_free hv
  | bookOwnLesson env body input =>
    obtain ⟨request, s, t, hread⟩ := hread
    obtain ⟨hstart, hstop⟩ := request.read_bookOwnLesson hread
    refine createPracticeLesson_safe (fun c => findAvailableVehicle_keeps env _ _ _ _ _)
      (fun c v t hv => ?_) h
    rw [hstart, hstop]
    exact findAvailableVehicle_free hv
  | createInstructorEvent env body schoolId =>
    exact writeCreateInstructorEvent_safe schoolId hrelies h
  | edit write =>
    obtain ⟨request, s, t, hread⟩ := hread
    obtain ⟨request, hread⟩ := request.read_edit hread
    exact PendingWrite.run_safe ⟨request, s, t, hread⟩ hrelies.1 hrelies.2 h

/-! ### The loop -/

section Loop

universe u

variable {ι : Type u} [DecidableEq ι] {κ ρ : Type}

theorem scheduleAttempts_passed {α : Type} {conflicts : ℕ → Bool} {write : Service α}
    {left attempt : ℕ} (h : conflicts attempt = false) :
    scheduleAttempts conflicts write (left + 1) attempt = Prog.transaction write := by
  rw [scheduleAttempts, h]
  rfl

/-- The turns of a request by itself are the attempts of the loop. -/
theorem scheduleAttempts_run {requests : ι → TwoPhase Failure Db κ ρ} {write : κ → Service ρ}
    {i : ι} (hwrite : (requests i).write = fun k => Prog.transaction (write k))
    (conflicts : ℕ → Bool) {k : κ} {left attempt : ℕ}
    (hattempt : attempt + left = maxSerializationAttempts) (hpos : 0 < attempt)
    {c : Retries ι Failure Db κ ρ} (hc : c.progress i = .prepared k (attempt - 1)) :
    Retries.run requests maxSerializationAttempts scheduleChanged
        ((List.range' attempt (left + 1)).map fun a => (i, conflicts a)) c =
      ⟨(scheduleAttempts conflicts (write k) (left + 1) attempt c.store).2,
        Function.update c.progress i
          (.finished (scheduleAttempts conflicts (write k) (left + 1) attempt c.store).1)⟩ := by
  induction left generalizing attempt c with
  | zero =>
    obtain rfl : attempt = maxSerializationAttempts := hattempt
    rw [List.range'_one, List.map_singleton, Retries.run_cons]
    cases hconflict : conflicts maxSerializationAttempts with
    | false =>
      rw [Retries.step_passed hc, hwrite, scheduleAttempts_passed hconflict]
      rfl
    | true =>
      rw [Retries.step_turnedAway hc, scheduleAttempts, if_pos hconflict, if_pos rfl]
      rfl
  | succ left ih =>
    rw [List.range'_succ, List.map_cons, Retries.run_cons]
    cases hconflict : conflicts attempt with
    | false =>
      rw [Retries.step_passed hc, hwrite, scheduleAttempts_passed hconflict]
      apply Retries.run_of_finished
      intro turn hturn
      obtain ⟨a, _, rfl⟩ := List.mem_map.mp hturn
      exact ⟨_, Function.update_self ..⟩
    | true =>
      have hmore : attempt < maxSerializationAttempts := by omega
      have hnext : attempt - 1 + 1 = attempt := Nat.sub_add_cancel hpos
      have hagain : scheduleAttempts conflicts (write k) (left + 1 + 1) attempt =
          scheduleAttempts conflicts (write k) (left + 1) (attempt + 1) := by
        rw [scheduleAttempts, if_pos hconflict, if_neg hmore.ne]
      rw [Retries.step_turnedAway hc, hnext, Retries.turnedAway, if_pos hmore, hagain,
        ih (by omega) (Nat.succ_pos _) (Function.update_self ..), Function.update_idem]

/-- A request whose writes are the transactions of `runScheduleWriteTransaction`. -/
theorem runScheduleWriteTransaction_run {requests : ι → TwoPhase Failure Db κ ρ}
    {write : κ → Service ρ} {i : ι}
    (hwrite : (requests i).write = fun k => Prog.transaction (write k)) (conflicts : ℕ → Bool)
    {k : κ} {c : Retries ι Failure Db κ ρ} (hc : c.progress i = .prepared k 0) :
    Retries.run requests maxSerializationAttempts scheduleChanged
        [(i, conflicts 1), (i, conflicts 2), (i, conflicts 3)] c =
      ⟨(runScheduleWriteTransaction conflicts (write k) c.store).2, Function.update c.progress i
        (.finished (runScheduleWriteTransaction conflicts (write k) c.store).1)⟩ :=
  scheduleAttempts_run hwrite conflicts (show 1 + 2 = maxSerializationAttempts from rfl) Nat.one_pos
    hc

end Loop

/-! ### Runs -/

section Runs

universe u

variable {ι : Type u} [DecidableEq ι]

/-- The requests, each with the tries that its transaction has. -/
abbrev retriedRun (requests : ι → RetriedRequest) (turns : List (ι × Bool))
    (c : Retries ι Failure Db RetriedWrite Unit) : Retries ι Failure Db RetriedWrite Unit :=
  Retries.run (fun i => (requests i).twoPhase) maxSerializationAttempts scheduleChanged turns c

/-- Every transaction that is not turned away finds what it relies on. -/
abbrev RelyThroughout (requests : ι → RetriedRequest) (turns : List (ι × Bool))
    (c : Retries ι Failure Db RetriedWrite Unit) : Prop :=
  Retries.AtWrites (fun i => (requests i).twoPhase) maxSerializationAttempts scheduleChanged
    (fun db w => w.Relies db) turns c

/-- Requests of any number in any order, any of whose transactions may be turned away at any of
their attempts: what is stored is what a run without conflicts stores, in which the requests that
gave up have written nothing, and after four turns each has ended. The schedule stays safe if every
transaction that is not turned away finds what it relies on. -/
theorem retriedWrites_safe (requests : ι → RetriedRequest) (turns : List (ι × Bool)) (db : Db) :
    (ScheduleSafe db → RelyThroughout requests turns (Retries.start db) →
      ∀ reached, reached <+: turns →
        ScheduleSafe (retriedRun requests reached (Retries.start db)).store) ∧
    (∃ schedule : List ι, schedule.Sublist (turns.map Prod.fst) ∧
      Retries.Agrees scheduleChanged (retriedRun requests turns (Retries.start db))
        (Interleaving.run (fun i => (requests i).twoPhase) schedule (Interleaving.start db))) ∧
    ∀ i, 4 ≤ turns.countP (fun turn => decide (turn.1 = i)) →
      ∃ r, (retriedRun requests turns (Retries.start db)).progress i = .finished r := by
  refine ⟨?_, ?_, fun i hturns => ?_⟩
  · intro h hrelies reached hprefix
    obtain ⟨rest, rfl⟩ := hprefix
    obtain ⟨schedule, -, hwrites, hagrees⟩ := (Retries.agrees_start db).run hrelies.of_append
    rw [← hagrees.store]
    refine Interleaving.run_store ?_ ?_ (Interleaving.holdsReads_start db) h hwrites
    · intro c i _ _ hs
      obtain ⟨p, hp⟩ := (requests i).read_keeps c.store
      rw [show ((requests i).twoPhase.read c.store).2 = c.store.refreshed p from hp]
      exact ⟨(noDoubleBooking_refreshed _ p).mpr hs.1,
        hs.2.of_same (sameEvents_refreshed ⟨p, rfl⟩)⟩
    · intro c i w hw hread hc hs
      obtain ⟨s, t, hread⟩ := hread
      exact w.run_safe ⟨requests i, s, t, hread⟩ (hc w hw) hs
  · have hany : Retries.AtWrites (fun i => (requests i).twoPhase) maxSerializationAttempts
        scheduleChanged (fun _ _ => True) turns (Retries.start db) :=
      Retries.atWrites_of_forall fun _ _ => trivial
    obtain ⟨schedule, hsub, -, hagrees⟩ := (Retries.agrees_start db).run hany
    exact ⟨schedule, hsub, hagrees⟩
  · exact Retries.run_finished (by decide) db i hturns

end Runs

/-! ### A sample -/

namespace SmallSchool

/-- The entry for the lecture, and a drive before it. -/
def entryAndDrive (books : Bool) : RetriedRequest :=
  if books then .bookLesson (envAt (clock 4 8 0)) (envAt (clock 4 8 0)) manager
    ⟨50, 3, 20, clock 5 10 0, clock 5 11 0, 40⟩
  else .assignStudentsToEvent (envAt (clock 4 8 0)) manager 61 [3, 4]

/-- Both have read; the drive is turned away twice and the entry three times. -/
def crowdedTurns : List (Bool × Bool) :=
  [(true, false), (false, false), (true, true), (false, true), (true, true), (false, true),
    (true, false), (false, true)]

end SmallSchool

open SmallSchool in
/-- The drive is booked at its last try, the entry is given up, and the schedule is safe. -/
theorem retriedWrites_safe_crowded :
    (retriedRun entryAndDrive crowdedTurns (Retries.start withLecture)).store.lessons.rows.length =
        1 ∧
      (retriedRun entryAndDrive crowdedTurns
        (Retries.start withLecture)).store.eventParticipants.rows = [] ∧
      ScheduleSafe (retriedRun entryAndDrive crowdedTurns (Retries.start withLecture)).store :=
  ⟨by decide, by decide, (retriedWrites_safe entryAndDrive crowdedTurns withLecture).1
    withLecture_safe (by decide) _ List.prefix_rfl⟩

end OSK
