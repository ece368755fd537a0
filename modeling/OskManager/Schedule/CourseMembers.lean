import OskManager.Sample.SmallSchool
import OskManager.Schedule.ParticipantWrites

/-! Who becomes a participant of an event with a course. Replacing the participants asks whether the
new ones take the course; assigning further ones does not, so it adds only members exactly when the
request lists no one else. -/

namespace OSK

open Relational

variable {env : Env} {db db' : Db}

def IsCourseMember (db : Db) (courseId studentId : Uuid) : Prop :=
  ∃ p ∈ db.courseParticipants.rows,
    p.courseId = courseId ∧ p.studentId = studentId ∧ p.status = .active

/-- Every participant that is new takes the course. -/
def AddsMembers (db db' : Db) (courseId : Uuid) : Prop :=
  ∀ p ∈ db'.eventParticipants.rows, (p.eventId, p.studentId) ∉ db.eventParticipants.keys →
    IsCourseMember db courseId p.studentId

theorem assertStudentProfilesInEventCourse_eq_ok {studentIds : List Uuid} {courseId : Uuid} :
    assertStudentProfilesInEventCourse db studentIds (some courseId) = .ok () ↔
      ∀ s ∈ studentIds, IsCourseMember db courseId s := by
  simp only [assertStudentProfilesInEventCourse, forSome_eq_ok, forEach_eq_ok, throwIf_eq_ok,
    Option.isNone_iff_eq_none, ← ne_eq, Option.ne_none_iff_isSome, Table.findFirst_isSome,
    decide_eq_true_eq, Option.some.injEq, forall_eq']
  rfl

theorem ParticipantsBecome.adds_iff {eventId courseId : Uuid} {P : Uuid → Prop}
    (hb : ParticipantsBecome db db' eventId P) :
    AddsMembers db db' courseId ↔
      ∀ s, P s → (eventId, s) ∉ db.eventParticipants.keys → IsCourseMember db courseId s := by
  refine ⟨fun h s hs hnew => ?_, fun h p hp hnew => ?_⟩
  · obtain ⟨p, hp, hkey⟩ := (Table.mem_keys _ _).mp ((hb.event s).mpr hs)
    rw [Prod.mk.injEq] at hkey
    obtain ⟨rfl, rfl⟩ := hkey
    exact h p hp hnew
  · have hkey : (p.eventId, p.studentId) ∈ db'.eventParticipants.keys :=
      (Table.mem_keys _ _).mpr ⟨p, hp, rfl⟩
    by_cases hevent : p.eventId = eventId
    · rw [hevent] at hkey hnew
      exact h p.studentId ((hb.event _).mp hkey) hnew
    · exact absurd ((hb.others _ _ hevent).mp hkey) hnew

/-! ### The two requests -/

/-- The operations that add participants, with their arguments. -/
inductive AddingCall where
  | assignStudentsToEvent (actor : Actor) (eventId : Uuid) (studentIds : List Uuid)
  | replaceEventStudents (actor : Actor) (eventId : Uuid) (studentIds : List Uuid)

namespace AddingCall

def eventId : AddingCall → Uuid
  | .assignStudentsToEvent _ eventId _ => eventId
  | .replaceEventStudents _ eventId _ => eventId

/-- The call succeeds, with the state it leaves. -/
def Completes (env : Env) (db db' : Db) : AddingCall → Prop
  | .assignStudentsToEvent actor eventId studentIds =>
    ∃ r, OSK.assignStudentsToEvent env actor eventId studentIds db = (.ok r, db')
  | .replaceEventStudents actor eventId studentIds =>
    ∃ r, OSK.replaceEventStudents env actor eventId studentIds db = (.ok r, db')

/-- An assignment lists only students that a replacement would accept, apart from those that attend
already. -/
def ListsMembers (db : Db) (courseId : Uuid) : AddingCall → Prop
  | .assignStudentsToEvent _ eventId studentIds =>
    ∀ profileIds, resolveStudentProfileIdsOrThrow db studentIds.eraseDups = .ok profileIds →
      assertStudentProfilesInEventCourse db (newProfileIds db eventId profileIds) (some courseId) =
        .ok ()
  | .replaceEventStudents _ _ _ => True

end AddingCall

theorem assignStudentsToEvent_addsMembers_iff {actor : Actor} {eventId courseId : Uuid}
    {studentIds : List Uuid} {r : AssignStudentsToEventResult}
    (hok : assignStudentsToEvent env actor eventId studentIds db = (.ok r, db')) :
    AddsMembers db db' courseId ↔
      (AddingCall.assignStudentsToEvent actor eventId studentIds).ListsMembers db courseId := by
  obtain ⟨prepared, hprepared, hwrite⟩ := assignStudentsToEvent_eq_ok.mp hok
  obtain ⟨_, _, hresolved, _⟩ := prepareAssignStudents_eq_ok.mp hprepared
  obtain ⟨_, rfl, -, -, hb⟩ := writeAssignStudents_ok hwrite
  have hlists : (AddingCall.assignStudentsToEvent actor eventId studentIds).ListsMembers db courseId ↔
      ∀ s ∈ newProfileIds db eventId prepared.profileIdsOrdered, IsCourseMember db courseId s := by
    simp only [AddingCall.ListsMembers, hresolved, Except.ok.injEq, forall_eq',
      assertStudentProfilesInEventCourse_eq_ok]
  rw [hlists, hb.adds_iff]
  refine ⟨fun h s hs => ?_, fun h s hs hnew => h s (hs.resolve_left hnew)⟩
  have hnew := of_decide_eq_true (List.mem_filter.mp hs).2
  rw [mem_eventStudentIds] at hnew
  exact h s (Or.inr hs) hnew

theorem replaceEventStudents_addsMembers {actor : Actor} {eventId courseId : Uuid}
    {studentIds r : List Uuid} {event : InstructorEvent}
    (hfound : db.instructorEvents.findUnique eventId = some event)
    (hcourse : event.courseId = some courseId)
    (hok : replaceEventStudents env actor eventId studentIds db = (.ok r, db')) :
    AddsMembers db db' courseId := by
  obtain ⟨prepared, hprepared, hwrite, _⟩ := replaceEventStudents_eq_ok.mp hok
  obtain ⟨-, -, hb⟩ := writeReplaceStudents_ok hwrite
  have hrules := prepareEventStudentReplacement_ok hprepared
  have hmembers := hrules.members
  cases hrules.event.found.symm.trans hfound
  rw [hcourse, assertStudentProfilesInEventCourse_eq_ok] at hmembers
  exact hb.adds_iff.mpr fun s hs _ => hmembers s hs

namespace UnenrolledStudent

open SmallSchool

/-- A theory event of the course, on Tuesday at noon. -/
def lecture : InstructorEvent where
  id := 61
  instructorId := 20
  schoolId := 10
  courseId := some 50
  type := .theory
  startTime := clock 5 12 0
  endTime := clock 5 13 0

/-- The school with the event, where only the first student takes the course. -/
def start : Db :=
  { SmallSchool.db .empty ⟨[lecture], List.nodup_singleton _⟩ with
    courseParticipants := .singleton ⟨50, 30, .active⟩ }

def assigning (studentIds : List Uuid) : AddingCall := .assignStudentsToEvent manager 61 studentIds

def after (studentIds : List Uuid) : Db :=
  (assignStudentsToEvent (envAt (clock 4 8 0)) manager 61 studentIds start).2

theorem completes {studentIds : List Uuid} (r : AssignStudentsToEventResult)
    (h : (assignStudentsToEvent (envAt (clock 4 8 0)) manager 61 studentIds start).1 = .ok r) :
    (assigning studentIds).Completes (envAt (clock 4 8 0)) start (after studentIds) :=
  ⟨r, Prod.ext h rfl⟩

end UnenrolledStudent

open UnenrolledStudent in
/-- A student who does not take the course is assigned to its event. -/
theorem not_addsMembers : ¬∀ (env : Env) (db db' : Db) (call : AddingCall) (event : InstructorEvent)
    (courseId : Uuid), db.instructorEvents.findUnique call.eventId = some event →
      event.courseId = some courseId → call.Completes env db db' → AddsMembers db db' courseId := by
  intro h
  have hcompletes : (assigning [4]).Completes (SmallSchool.envAt (SmallSchool.clock 4 8 0)) start
      (after [4]) := completes ⟨1, 0⟩ (by decide +kernel)
  have hadds := h _ _ _ _ lecture 50 rfl rfl hcompletes
  have hnew : (61, 31) ∈ (after [4]).eventParticipants.keys := by decide +kernel
  obtain ⟨p, hp, hkey⟩ := (Table.mem_keys _ _).mp hnew
  obtain ⟨q, hq, _, hstudent, _⟩ := hadds p hp List.not_mem_nil
  rw [Prod.mk.injEq] at hkey
  rw [hkey.2] at hstudent
  cases List.mem_singleton.mp hq
  cases hstudent

/-- A successful call adds only members of the course, exactly when it lists no one else or is a
replacement. -/
theorem addsMembers_iff {call : AddingCall} {event : InstructorEvent} {courseId : Uuid}
    (hfound : db.instructorEvents.findUnique call.eventId = some event)
    (hcourse : event.courseId = some courseId) (hok : call.Completes env db db') :
    AddsMembers db db' courseId ↔ call.ListsMembers db courseId := by
  cases call with
  | assignStudentsToEvent actor eventId studentIds =>
    obtain ⟨r, hok⟩ := hok
    exact assignStudentsToEvent_addsMembers_iff hok
  | replaceEventStudents actor eventId studentIds =>
    obtain ⟨r, hok⟩ := hok
    exact iff_of_true (replaceEventStudents_addsMembers hfound hcourse hok) trivial

open UnenrolledStudent in
theorem addsMembers_iff_member : AddsMembers start (after [3]) 50 ↔
    (assigning [3]).ListsMembers start 50 :=
  addsMembers_iff (show _ = some lecture from rfl) rfl (completes ⟨1, 0⟩ (by decide +kernel))

end OSK
