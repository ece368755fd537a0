import Mathlib.Data.Fin.VecNotation
import OskManager.Lib.TwoPhase
import OskManager.Sample.SmallSchool
import OskManager.Schedule.LessonPreflight

/-! Cancelling a lesson while others cancel or edit it. A cancel reads the row first and writes it
by a conditional update later; an edit runs in one piece. The condition of the update, not the
read, decides: whatever ran in between, a lesson ends once and is cancelled ahead of its start. -/

namespace OSK

open Relational Interleaving

/-! ### Calls -/

/-- A call on the lesson, with the clock it reads as now. -/
inductive LessonCall where
  | cancelLesson (env : Env) (actor : Actor)
  | cancelOwnLesson (env : Env) (actor : Actor)
  | updateLesson (env : Env) (actor : Actor) (body : UpdateLessonBody)

/-- A write phase and what its read phase has handed over; an edit only hands over its arguments. -/
inductive PendingLessonWrite where
  | cancel (env : Env) (lessonId : Uuid) (owner : Option Uuid) (gone : Failure)
  | updateLesson (env : Env) (actor : Actor) (lessonId : Uuid) (body : UpdateLessonBody)

namespace PendingLessonWrite

def run : PendingLessonWrite → Service LessonDto
  | .cancel env lessonId owner gone => cancelStillCancellable env lessonId owner gone
  | .updateLesson env actor lessonId body => OSK.updateLesson env actor lessonId body

end PendingLessonWrite

namespace LessonCall

def env : LessonCall → Env
  | .cancelLesson env _ | .cancelOwnLesson env _ | .updateLesson env _ _ => env

def isCancel : LessonCall → Bool
  | .cancelLesson _ _ | .cancelOwnLesson _ _ => true
  | .updateLesson _ _ _ => false

def read (lessonId : Uuid) : LessonCall → Service PendingLessonWrite
  | .cancelLesson env actor => do
    Prog.query (prepareCancelLesson env actor lessonId)
    return .cancel env lessonId none (.conflict "Lesson is no longer cancellable")
  | .cancelOwnLesson env actor => do
    let studentProfileId ← Prog.query (prepareCancelOwnLesson env actor lessonId)
    return .cancel env lessonId (some studentProfileId)
      (.badRequest "Lesson is no longer cancellable")
  | .updateLesson env actor body => pure (.updateLesson env actor lessonId body)

def twoPhase (lessonId : Uuid) (call : LessonCall) :
    TwoPhase Failure Db PendingLessonWrite LessonDto where
  read := call.read lessonId
  write := PendingLessonWrite.run

section Whole

variable (env : Env) (actor : Actor) (lessonId : Uuid)

theorem whole_cancelLesson :
    ((LessonCall.cancelLesson env actor).twoPhase lessonId).whole =
      OSK.cancelLesson env actor lessonId := by
  simp only [TwoPhase.whole, twoPhase, read, OSK.cancelLesson, Prog.bind_assoc]
  rfl

theorem whole_cancelOwnLesson :
    ((LessonCall.cancelOwnLesson env actor).twoPhase lessonId).whole =
      OSK.cancelOwnLesson env actor lessonId := by
  simp only [TwoPhase.whole, twoPhase, read, OSK.cancelOwnLesson, Prog.bind_assoc]
  rfl

theorem whole_updateLesson (body : UpdateLessonBody) :
    ((LessonCall.updateLesson env actor body).twoPhase lessonId).whole =
      OSK.updateLesson env actor lessonId body := rfl

end Whole

theorem read_ok {call : LessonCall} {lessonId : Uuid} {w : PendingLessonWrite} {s t : Db}
    (h : call.read lessonId s = (.ok w, t)) : s = t ∧
      ((call.isCancel = true ∧ ∃ owner gone, w = .cancel call.env lessonId owner gone) ∨
        ∃ actor body, call = .updateLesson call.env actor body ∧
          w = .updateLesson call.env actor lessonId body) := by
  cases call with
  | cancelLesson env actor =>
    obtain ⟨_, _, hq, hw⟩ := Prog.bind_eq_ok.mp h
    obtain ⟨rfl, rfl⟩ := Prog.pure_eq_ok.mp hw
    exact ⟨(Prog.query_eq_ok.mp hq).2, Or.inl ⟨rfl, _, _, rfl⟩⟩
  | cancelOwnLesson env actor =>
    obtain ⟨_, _, hq, hw⟩ := Prog.bind_eq_ok.mp h
    obtain ⟨rfl, rfl⟩ := Prog.pure_eq_ok.mp hw
    exact ⟨(Prog.query_eq_ok.mp hq).2, Or.inl ⟨rfl, _, _, rfl⟩⟩
  | updateLesson env actor body =>
    obtain ⟨rfl, rfl⟩ := Prog.pure_eq_ok.mp h
    exact ⟨rfl, Or.inr ⟨actor, body, rfl, rfl⟩⟩

theorem read_keeps (call : LessonCall) (lessonId : Uuid) (db : Db) :
    (call.read lessonId db).2 = db := by
  cases call with
  | cancelLesson env actor => exact Prog.bind_pure_store _ _ _
  | cancelOwnLesson env actor => exact Prog.bind_pure_store _ _ _
  | updateLesson env actor body => rfl

end LessonCall

/-! ### What the writes do to the row -/

section Writes

variable {env : Env} {lessonId : Uuid} {db db' : Db}

/-- A cancel that succeeds has found the lesson scheduled and ahead of now. -/
theorem cancelStillCancellable_ok {owner : Option Uuid} {gone : Failure} {dto : LessonDto}
    (h : cancelStillCancellable env lessonId owner gone db = (.ok dto, db')) :
    ∃ l, db.lessons.findUnique lessonId = some l ∧ l.status = .scheduled ∧
      env.now < l.startTime ∧ db'.lessons.findUnique lessonId = some l.cancelled := by
  obtain ⟨hresult, rfl⟩ := Prod.mk.inj h
  cases hfound : (db.lessons.findMany (Lesson.stillCancellable env lessonId owner)).head? with
  | none =>
    rw [hfound] at hresult
    cases hresult
  | some l =>
    obtain ⟨hmem, hp⟩ := (Table.mem_findMany _ _ _).mp (List.mem_of_mem_head? hfound)
    have hwhere := hp
    rw [Lesson.stillCancellable, Bool.and_eq_true, decide_eq_true_eq] at hwhere
    obtain ⟨⟨rfl, hstatus, hahead, _⟩, _⟩ := hwhere
    refine ⟨l, Table.findUnique_of_mem hmem, hstatus, hahead, ?_⟩
    rw [Db.cancelLessons, Table.findUnique_updateMany, Table.findUnique_of_mem hmem,
      Option.map_some, if_pos hp]

theorem updateLesson_inTime {actor : Actor} {body : UpdateLessonBody} {dto : LessonDto}
    (h : updateLesson env actor lessonId body db = (.ok dto, db')) :
    ∃ l, db.lessons.findUnique lessonId = some l ∧ l.status = .scheduled ∧
      ∃ l', db'.lessons.findUnique lessonId = some l' ∧
        (l'.startTime ≠ l.startTime ∨ l'.endTime ≠ l.endTime ∨ l'.instructorId ≠ l.instructorId →
          env.now < l.startTime) := by
  obtain ⟨l, course, v, hrules, hcase⟩ := (updateLesson_eq_ok ..).mp h
  obtain ⟨hmem, rfl, _⟩ := findLesson_eq_some hrules.found
  have hl := Table.findUnique_of_mem hmem
  refine ⟨l, hl, (lessonIsEditable_eq_ok.mp hrules.editable).1, ?_⟩
  rcases hcase with ⟨_, _, rfl⟩ | ⟨_, p, _, hlt, _, rfl⟩
  · exact ⟨l, hl, fun hne => absurd hne (by simp)⟩
  · refine ⟨l.moved (body.slot l v) hlt, ?_, fun hne => ?_⟩
    · rw [Db.moveLesson, Table.findUnique_update, if_pos rfl, refreshed_lessons, hl]
      rfl
    · have hchanged : (l.timeChanged (body.slot l v) ||
          l.instructorChanged (body.slot l v)) = true := by
        rcases hne with hstart | hstop | hinstructor
        · exact Bool.or_eq_true_iff.mpr (Or.inl (decide_eq_true (Or.inl hstart)))
        · exact Bool.or_eq_true_iff.mpr (Or.inl (decide_eq_true (Or.inr hstop)))
        · exact Bool.or_eq_true_iff.mpr
            (Or.inr (decide_eq_true (UuidText.ne_ofUuid_of_uuid_ne hinstructor)))
      exact (lessonHasNotStarted_eq_ok.mp (hrules.not_started hchanged).1).2

/-- No write touches a lesson that is over. -/
theorem PendingLessonWrite.run_final {w : PendingLessonWrite} {l : Lesson}
    (hw : (∃ env owner gone, w = .cancel env lessonId owner gone) ∨
      ∃ env actor body, w = .updateLesson env actor lessonId body)
    (hfinal : l.status ≠ .scheduled) (h : db.lessons.findUnique lessonId = some l) :
    (w.run db).2.lessons.findUnique lessonId = some l := by
  rcases hw with ⟨env, owner, gone, rfl⟩ | ⟨env, actor, body, rfl⟩
  · have hno : Lesson.stillCancellable env lessonId owner l = false := by
      simp [Lesson.stillCancellable, hfinal]
    show (db.cancelLessons _).lessons.findUnique lessonId = some l
    rw [Db.cancelLessons, Table.findUnique_updateMany, h, Option.map_some, hno]
    rfl
  · rcases Prog.transaction_cases (OSK.updateLesson env actor lessonId body) rfl db with hok | hfailed
    · obtain ⟨dto, hok⟩ := hok
      obtain ⟨l', hl', hscheduled, _⟩ := updateLesson_inTime hok
      obtain rfl : l = l' := Option.some_inj.mp (h.symm.trans hl')
      exact absurd hscheduled hfinal
    · show (OSK.updateLesson env actor lessonId body db).2.lessons.findUnique lessonId = some l
      rw [hfailed]
      exact h

end Writes

/-! ### Runs -/

/-- How far calls on one lesson have come. -/
abbrev LessonRace (ι : Type) := Interleaving ι Failure Db PendingLessonWrite LessonDto

/-- The calls as requests on the lesson. -/
abbrev onLesson {ι : Type} (calls : ι → LessonCall) (lessonId : Uuid) (i : ι) :
    TwoPhase Failure Db PendingLessonWrite LessonDto := (calls i).twoPhase lessonId

def lessonRow {ι : Type} (c : LessonRace ι) (lessonId : Uuid) : Option Lesson :=
  c.store.lessons.findUnique lessonId

def Lesson.IsOver (l : Lesson) : Prop := l.status = .cancelled ∨ l.status = .completed

/-- A call has succeeded on a scheduled row; a cancel has cancelled it, and neither a cancel nor a
change of time or instructor came after the row's start. -/
structure LessonCall.AppliedInTime (call : LessonCall) (l l' : Lesson) : Prop where
  scheduled : l.status = .scheduled
  cancelled : call.isCancel = true → l' = l.cancelled
  inTime : (call.isCancel = true ∨ l'.startTime ≠ l.startTime ∨ l'.endTime ≠ l.endTime ∨
    l'.instructorId ≠ l.instructorId) → call.env.now < l.startTime

section Run

variable {ι : Type} [DecidableEq ι] {calls : ι → LessonCall} {lessonId : Uuid} {c : LessonRace ι}
  {i : ι}

omit [DecidableEq ι] in
theorem held_write (hreads : HoldsReads (onLesson calls lessonId) c)
    {k : PendingLessonWrite} (hprepared : c.progress i = .prepared k) :
    ((calls i).isCancel = true ∧ ∃ owner gone, k = .cancel (calls i).env lessonId owner gone) ∨
      ∃ actor body, calls i = .updateLesson (calls i).env actor body ∧
        k = .updateLesson (calls i).env actor lessonId body := by
  obtain ⟨s, t, hread⟩ := hreads i k hprepared
  exact (LessonCall.read_ok hread).2

theorem succeeds_inTime (hreads : HoldsReads (onLesson calls lessonId) c)
    (hnot : ¬c.Succeeded i)
    (h : (step (onLesson calls lessonId) c i).Succeeded i) :
    ∃ l l', lessonRow c lessonId = some l ∧
      lessonRow (step (onLesson calls lessonId) c i) lessonId = some l' ∧
      (calls i).AppliedInTime l l' := by
  obtain hdone | ⟨_, k, dto, hprepared, hwrite⟩ := succeeded_step h
  · exact absurd hdone hnot
  rcases held_write hreads hprepared with ⟨hcancel, owner, gone, rfl⟩ | ⟨actor, body, hcall, rfl⟩
  · obtain ⟨l, hl, hscheduled, hahead, hl'⟩ := cancelStillCancellable_ok hwrite
    exact ⟨l, l.cancelled, hl, hl', hscheduled, fun _ => rfl, fun _ => hahead⟩
  · obtain ⟨l, hl, hscheduled, l', hl', htime⟩ := updateLesson_inTime hwrite
    have hno : ¬(calls i).isCancel = true := by
      rw [hcall]
      exact Bool.false_ne_true
    refine ⟨l, l', hl, hl', hscheduled, fun hc => absurd hc hno, fun hchange => ?_⟩
    exact htime (hchange.resolve_left hno)

theorem over_step (hreads : HoldsReads (onLesson calls lessonId) c) {l : Lesson}
    (hover : l.IsOver) (h : lessonRow c lessonId = some l) (i : ι) :
    lessonRow (step (onLesson calls lessonId) c i) lessonId = some l := by
  have hfinal : l.status ≠ .scheduled := by
    rcases hover with hs | hs <;> rw [hs] <;> decide
  unfold lessonRow
  cases hprogress : c.progress i with
  | waiting =>
    rw [step_of_waiting hprogress]
    exact (congrArg (fun db => db.lessons.findUnique lessonId)
      ((calls i).read_keeps lessonId c.store)).trans h
  | prepared k =>
    rw [step_of_prepared hprogress]
    refine PendingLessonWrite.run_final ?_ hfinal h
    rcases held_write hreads hprogress with ⟨_, owner, gone, hk⟩ | ⟨actor, body, _, hk⟩
    · exact Or.inl ⟨_, owner, gone, hk⟩
    · exact Or.inr ⟨_, actor, body, hk⟩
  | finished r =>
    rw [step_of_finished hprogress]
    exact h

/-- A cancel that has succeeded is the only one, and the lesson is cancelled. -/
structure CancelledOnce (calls : ι → LessonCall) (lessonId : Uuid) (c : LessonRace ι) : Prop where
  reads : HoldsReads (onLesson calls lessonId) c
  cancelled : ∀ i, (calls i).isCancel = true → c.Succeeded i →
    ∃ l, lessonRow c lessonId = some l ∧ l.status = .cancelled
  once : ∀ i j, (calls i).isCancel = true → (calls j).isCancel = true → c.Succeeded i →
    c.Succeeded j → i = j

omit [DecidableEq ι] in
theorem CancelledOnce.start (calls : ι → LessonCall) (lessonId : Uuid) (db : Db) :
    CancelledOnce calls lessonId (start db) where
  reads := holdsReads_start db
  cancelled := by
    rintro i _ ⟨r, hr⟩
    cases hr
  once := by
    rintro i j _ _ ⟨r, hr⟩
    cases hr

theorem CancelledOnce.turn (h : CancelledOnce calls lessonId c) (i : ι) :
    CancelledOnce calls lessonId (step (onLesson calls lessonId) c i) := by
  have hnew : ∀ j, (step (onLesson calls lessonId) c i).Succeeded j →
      c.Succeeded j ∨ j = i ∧ ¬c.Succeeded i := by
    intro j hj
    by_cases hi : c.Succeeded i
    · obtain hdone | ⟨rfl, _⟩ := succeeded_step hj
      · exact Or.inl hdone
      · exact Or.inl hi
    · exact (succeeded_step hj).imp_right fun hj => ⟨hj.1, hi⟩
  -- A cancel that succeeds finds the lesson scheduled, so none has succeeded before.
  have hfirst : ∀ j, (calls i).isCancel = true → ¬c.Succeeded i →
      (step (onLesson calls lessonId) c i).Succeeded i →
      (calls j).isCancel = true → ¬c.Succeeded j := by
    intro j _ hnot hi hj hdone
    obtain ⟨l, l', hl, _, happlied⟩ := succeeds_inTime h.reads hnot hi
    obtain ⟨m, hm, hcancelled⟩ := h.cancelled j hj hdone
    obtain rfl : l = m := Option.some_inj.mp (hl.symm.trans hm)
    rw [happlied.scheduled] at hcancelled
    cases hcancelled
  refine ⟨holdsReads_step i h.reads, fun j hj hdone => ?_, fun j k hj hk hdone hdone' => ?_⟩
  · rcases hnew j hdone with hold | ⟨rfl, hnot⟩
    · obtain ⟨l, hl, hcancelled⟩ := h.cancelled j hj hold
      exact ⟨l, over_step h.reads (Or.inl hcancelled) hl i, hcancelled⟩
    · obtain ⟨l, l', _, hl', happlied⟩ := succeeds_inTime h.reads hnot hdone
      rw [happlied.cancelled hj] at hl'
      exact ⟨l.cancelled, hl', rfl⟩
  · rcases hnew j hdone with hold | ⟨rfl, hnot⟩
    · rcases hnew k hdone' with hold' | ⟨rfl, hnot⟩
      · exact h.once j k hj hk hold hold'
      · exact absurd hold (hfirst j hk hnot hdone' hj)
    · rcases hnew k hdone' with hold' | ⟨rfl, _⟩
      · exact absurd hold' (hfirst k hj hnot hdone hk)
      · rfl

theorem CancelledOnce.run (h : CancelledOnce calls lessonId c) (schedule : List ι) :
    CancelledOnce calls lessonId (Interleaving.run (onLesson calls lessonId) schedule c) :=
  run_of_step (fun _ i hc => hc.turn i) h

theorem over_run (hreads : HoldsReads (onLesson calls lessonId) c) {l : Lesson}
    (hover : l.IsOver) (h : lessonRow c lessonId = some l) (schedule : List ι) :
    lessonRow (run (onLesson calls lessonId) schedule c) lessonId = some l := by
  refine (run_of_step (I := fun c => HoldsReads (onLesson calls lessonId) c ∧
    lessonRow c lessonId = some l) (fun c i hc => ?_) ⟨hreads, h⟩).2
  exact ⟨holdsReads_step i hc.1, over_step hc.1 hover hc.2 i⟩

/-- Wherever a run of calls on a lesson stands: a lesson that is over stays as it is, at most one
cancel has succeeded, and whatever succeeds next is applied to a scheduled row, a cancel or a
change of time or instructor ahead of its start. -/
theorem lessonCancellation_final (calls : ι → LessonCall) (lessonId : Uuid) (db : Db)
    (before after : List ι) :
    let requests := onLesson calls lessonId
    let c : LessonRace ι := run requests before (start db)
    (∀ l, lessonRow c lessonId = some l → l.IsOver →
        lessonRow (run requests after c) lessonId = some l) ∧
      (∀ i j, (calls i).isCancel = true → (calls j).isCancel = true → c.Succeeded i →
        c.Succeeded j → i = j) ∧
      ∀ i, ¬c.Succeeded i → (step requests c i).Succeeded i →
        ∃ l l', lessonRow c lessonId = some l ∧ lessonRow (step requests c i) lessonId = some l' ∧
          (calls i).AppliedInTime l l' := by
  have hc := (CancelledOnce.start calls lessonId db).run before
  refine ⟨fun l hl hover => over_run hc.reads hover hl after, hc.once, fun i hnot hi => ?_⟩
  exact succeeds_inTime hc.reads hnot hi

end Run

/-- The student's cancel, the manager's cancel and an edit by the manager. -/
def twoCancels : Fin 3 → LessonCall :=
  ![.cancelOwnLesson (SmallSchool.envAt (SmallSchool.clock 4 8 0)) SmallSchool.student,
    .cancelLesson (SmallSchool.envAt (SmallSchool.clock 4 8 0)) SmallSchool.manager,
    .updateLesson (SmallSchool.envAt (SmallSchool.clock 4 9 0)) SmallSchool.manager
      { startTime := some (SmallSchool.clock 5 12 0), endTime := some (SmallSchool.clock 5 13 0) }]

/-- Both cancels read the lesson before it is moved, and the manager's writes first. -/
theorem lessonCancellation_final_twoCancels :
    (let c : LessonRace (Fin 3) := run (onLesson twoCancels 70) [0, 1, 2, 2, 1, 0]
      (start (SmallSchool.withTuesdayLesson .practice))
    c.Succeeded 1 ∧ c.Succeeded 2 ∧ ¬c.Succeeded 0) ∧
      let c : LessonRace (Fin 3) := run (onLesson twoCancels 70) [0, 1, 2, 2, 1]
        (start (SmallSchool.withTuesdayLesson .practice))
      ∀ l, lessonRow c 70 = some l → l.IsOver →
        lessonRow (run (onLesson twoCancels 70) [0] c) 70 = some l :=
  ⟨by decide +kernel, (lessonCancellation_final twoCancels 70
    (SmallSchool.withTuesdayLesson .practice) [0, 1, 2, 2, 1] [0]).1⟩

end OSK
