import OskManager.Model.StudentRatings
import OskManager.Schedule.LessonCancellation

/-! Ratings while lessons are booked, edited and cancelled. A rating reads its lesson first and is
inserted later; no other request touches a lesson that is over, and the unique index decides
between two ratings of one lesson. -/

namespace OSK

open Relational Interleaving

variable {env : Env} {actor : Actor} {db db' db'' : Db} {lessonId : Uuid}

/-! ### Ratings and their lessons -/

/-- A rating within its range, by the student of the lesson and about its instructor. -/
structure LessonRating.IsOf (r : LessonRating) (l : Lesson) : Prop where
  lesson : r.lessonId = l.id
  student : r.studentId = l.studentId
  instructor : r.instructorId = l.instructorId
  inRange : 1 ≤ r.rating ∧ r.rating ≤ 5

structure RatingsSound (db : Db) : Prop where
  each : ∀ r ∈ db.lessonRatings.rows, ∃ l ∈ db.lessons.rows,
    l.isCompletedPractice = true ∧ r.IsOf l
  once : ∀ r ∈ db.lessonRatings.rows, ∀ r' ∈ db.lessonRatings.rows,
    r.lessonId = r'.lessonId → r = r'

/-- No lesson that is over and no rating is lost. -/
structure KeepsOver (db db' : Db) : Prop where
  lessons : ∀ l ∈ db.lessons.rows, l.status ≠ .scheduled → l ∈ db'.lessons.rows
  students : db'.studentProfiles = db.studentProfiles
  ratings : db.lessonRatings.rows ⊆ db'.lessonRatings.rows

theorem KeepsOver.refl (db : Db) : KeepsOver db db := ⟨fun _ h _ => h, rfl, fun _ h => h⟩

/-- The lesson is one of the student's that can be rated. -/
structure OwnLesson (db : Db) (actor : Actor) (l : Lesson) : Prop where
  role : actor.role = .student
  found : l ∈ db.lessons.rows
  live : l.deletedAt = none
  owner : (db.studentProfiles.findUnique l.studentId).map StudentProfile.userId = some actor.id
  practice : l.lessonType = .practice

theorem ownPracticeLesson_eq_ok {l : Lesson} :
    ownPracticeLesson db actor lessonId = .ok l ↔ OwnLesson db actor l ∧ l.id = lessonId := by
  simp only [ownPracticeLesson, except_bind_eq_ok, throwIf_eq_ok, orThrow_eq_ok, not_not, ne_eq]
  constructor
  · intro h
    obtain ⟨_, hrole, lesson, hfound, _, howner, _, hpractice, h⟩ := h
    cases h
    obtain ⟨hmem, hid, hlive⟩ := findLesson_eq_some hfound
    exact ⟨⟨hrole, hmem, hlive, howner, hpractice⟩, hid⟩
  · intro h
    obtain ⟨hown, rfl⟩ := h
    refine ⟨(), hown.role, l, ?_, (), hown.owner, (), hown.practice, rfl⟩
    exact Table.findFirst_of_mem hown.found (decide_eq_true ⟨rfl, hown.live⟩)
      fun q hq => (of_decide_eq_true hq).1

theorem OwnLesson.mono {l : Lesson} (h : OwnLesson db actor l) (hover : l.status ≠ .scheduled)
    (hkeeps : KeepsOver db db') : OwnLesson db' actor l where
  role := h.role
  found := hkeeps.lessons l h.found hover
  live := h.live
  owner := by
    rw [hkeeps.students]
    exact h.owner
  practice := h.practice

theorem ratingOfLesson_eq_some (hsound : RatingsSound db) {r : LessonRating} :
    ratingOfLesson db lessonId = some r ↔ r ∈ db.lessonRatings.rows ∧ r.lessonId = lessonId := by
  constructor
  · intro h
    obtain ⟨hmem, hid⟩ := Table.mem_of_findFirst h
    exact ⟨hmem, of_decide_eq_true hid⟩
  · intro h
    obtain ⟨hmem, hid⟩ := h
    have hsome : (ratingOfLesson db lessonId).isSome = true :=
      (Table.findFirst_isSome _ _).mpr ⟨r, hmem, decide_eq_true hid⟩
    obtain ⟨r', hr'⟩ := Option.isSome_iff_exists.mp hsome
    obtain ⟨hmem', hid'⟩ := Table.mem_of_findFirst hr'
    rw [hsound.once r hmem r' hmem' (hid.trans (of_decide_eq_true hid').symm)]
    exact hr'

theorem getLessonRating_eq_some (hsound : RatingsSound db) {dto : LessonRatingDto} :
    getLessonRatingForStudent db actor lessonId = .ok (some dto) ↔
      ∃ l, OwnLesson db actor l ∧ l.id = lessonId ∧
        ∃ r ∈ db.lessonRatings.rows, r.lessonId = lessonId ∧ mapLessonRatingToDto r = dto := by
  simp only [getLessonRatingForStudent, except_bind_eq_ok, ownPracticeLesson_eq_ok]
  constructor
  · intro h
    obtain ⟨l, ⟨hown, rfl⟩, h⟩ := h
    obtain ⟨r, hr, hdto⟩ := Option.map_eq_some_iff.mp (Except.ok.inj h)
    obtain ⟨hmem, hid⟩ := (ratingOfLesson_eq_some hsound).mp hr
    exact ⟨l, hown, rfl, r, hmem, hid, hdto⟩
  · intro h
    obtain ⟨l, hown, rfl, r, hmem, hid, hdto⟩ := h
    refine ⟨l, ⟨hown, rfl⟩, ?_⟩
    rw [(ratingOfLesson_eq_some hsound).mpr ⟨hmem, hid⟩, Option.map_some, hdto]
    rfl

theorem RatingsSound.completed (h : RatingsSound db) {r : LessonRating} {l : Lesson}
    (hr : r ∈ db.lessonRatings.rows) (hl : l ∈ db.lessons.rows) (hid : r.lessonId = l.id) :
    l.status = .completed := by
  obtain ⟨l', hl', hcompleted, hof⟩ := h.each r hr
  obtain rfl := db.lessons.key_inj hl hl' (hid.symm.trans hof.lesson)
  exact (of_decide_eq_true hcompleted).2.2

/-- A rating that a student sees stays the one to be seen. -/
theorem getLessonRating_mono {dto : LessonRatingDto} (hsound : RatingsSound db)
    (hsound' : RatingsSound db') (hkeeps : KeepsOver db db')
    (h : getLessonRatingForStudent db actor lessonId = .ok (some dto)) :
    getLessonRatingForStudent db' actor lessonId = .ok (some dto) := by
  obtain ⟨l, hown, rfl, r, hr, hid, hdto⟩ := (getLessonRating_eq_some hsound).mp h
  have hover : l.status ≠ .scheduled := by
    rw [hsound.completed hr hown.found hid]
    exact nofun
  exact (getLessonRating_eq_some hsound').mpr
    ⟨l, hown.mono hover hkeeps, rfl, r, hkeeps.ratings hr, hid, hdto⟩

/-! ### Writes -/

theorem RatingsSound.of_same (h : RatingsSound db) (hkeeps : KeepsOver db db')
    (hratings : db'.lessonRatings = db.lessonRatings) : RatingsSound db' where
  each := by
    intro r hr
    rw [hratings] at hr
    obtain ⟨l, hl, hcompleted, hof⟩ := h.each r hr
    refine ⟨l, hkeeps.lessons l hl ?_, hcompleted, hof⟩
    rw [(of_decide_eq_true hcompleted).2.2]
    exact nofun
  once := by
    rw [hratings]
    exact h.once

/-- What the other requests do: lessons that are over stay, and the ratings are not touched. -/
structure LeavesRatings (db db' : Db) : Prop where
  keeps : KeepsOver db db'
  ratings : db'.lessonRatings = db.lessonRatings

theorem LeavesRatings.refl (db : Db) : LeavesRatings db db := ⟨.refl db, rfl⟩

theorem LeavesRatings.of_lessons {t : Table Lesson.id}
    (h : ∀ l ∈ db.lessons.rows, l.status ≠ .scheduled → l ∈ t.rows) :
    LeavesRatings db { db with lessons := t } := ⟨⟨h, rfl, fun _ h => h⟩, rfl⟩

theorem LeavesRatings.refreshed (h : Refreshed db db') : LeavesRatings db db' := by
  obtain ⟨p, rfl⟩ := h
  exact ⟨⟨fun _ h _ => h, rfl, fun _ h => h⟩, rfl⟩

theorem LeavesRatings.trans (h : LeavesRatings db db') (h' : LeavesRatings db' db'') :
    LeavesRatings db db'' where
  keeps := {
    lessons := fun l hl hover => h'.keeps.lessons l (h.keeps.lessons l hl hover) hover
    students := h'.keeps.students.trans h.keeps.students
    ratings := fun _ hr => h'.keeps.ratings (h.keeps.ratings hr) }
  ratings := h'.ratings.trans h.ratings

theorem cancelStillCancellable_leaves (owner : Option Uuid) (gone : Failure) :
    LeavesRatings db (cancelStillCancellable env lessonId owner gone db).2 := by
  refine .of_lessons fun l hl hover => ?_
  refine (Table.mem_updateMany _ _ _ Lesson.id_cancelled _).mpr ⟨l, hl, if_neg fun hwhere => ?_⟩
  exact hover (of_decide_eq_true (Bool.and_eq_true_iff.mp hwhere).1).2.1

theorem updateLesson_leaves (body : UpdateLessonBody) :
    LeavesRatings db (updateLesson env actor lessonId body db).2 := by
  apply Prog.transaction_leaves (.refl db)
  intro dto db' hok
  rw [← Prog.transaction_eq_ok] at hok
  obtain ⟨existing, course, v, hrules, ⟨_, _, rfl⟩ | ⟨_, p, _, hlt, _, rfl⟩⟩ :=
    (updateLesson_eq_ok actor lessonId body dto db').mp hok
  · exact .refl db'
  · obtain ⟨hmem, _, _⟩ := findLesson_eq_some hrules.found
    refine (LeavesRatings.refreshed ⟨p, rfl⟩).trans (.of_lessons fun l hl hover => ?_)
    refine (Table.mem_updateMany _ _ _ (Lesson.id_moved _ hlt) _).mpr ⟨l, hl, if_neg ?_⟩
    intro hid
    obtain rfl := db.lessons.key_inj hl hmem (of_decide_eq_true hid)
    exact hover (lessonIsEditable_eq_ok.mp hrules.editable).1

theorem createPracticeLesson_leaves {input : PracticeLessonInput}
    {resolve : CourseForBooking → Service Uuid} {dto : LessonDto}
    (hkeep : ∀ c, Prog.Keeps Refreshed (resolve c))
    (h : createPracticeLessonForStudent env input resolve db = (.ok dto, db')) :
    LeavesRatings db db' := by
  obtain ⟨_, _, p, _, _, hlt, rfl⟩ := createPracticeLesson_ok hkeep h
  refine (LeavesRatings.refreshed ⟨p, rfl⟩).trans (.of_lessons fun l hl _ => ?_)
  exact (mem_insertLesson hlt).mpr (Or.inl hl)

theorem bookLesson_leaves (body : BookLessonBody) :
    LeavesRatings db (bookLesson env actor body db).2 := by
  rcases (bookLesson_fails env actor body).cases db with ⟨dto, hok⟩ | hs
  · obtain ⟨course, student, _, hcreate⟩ := (bookLesson_eq_ok ..).mp hok
    exact createPracticeLesson_leaves (bookedVehicle_keeps env body) hcreate
  · exact .refreshed hs

theorem bookOwnLesson_leaves (body : BookOwnLessonBody) :
    LeavesRatings db (bookOwnLesson env actor body db).2 := by
  rcases (bookOwnLesson_fails env actor body).cases db with ⟨dto, hok⟩ | hs
  · obtain ⟨course, student, _, hcreate⟩ := (bookOwnLesson_eq_ok ..).mp hok
    exact createPracticeLesson_leaves (fun c => findAvailableVehicle_keeps env _ _ _ _ _) hcreate
  · exact .refreshed hs

theorem PendingLessonWrite.run_leaves (w : PendingLessonWrite) : LeavesRatings db (w.run db).2 := by
  cases w with
  | cancel env lessonId owner gone => exact cancelStillCancellable_leaves owner gone
  | updateLesson env actor lessonId body => exact updateLesson_leaves body

theorem writeLessonRating_ok {lesson : Lesson} {body : CreateLessonRatingBody}
    {dto : LessonRatingDto} (h : writeLessonRating env lesson body db = (.ok dto, db')) :
    ∃ id, (∀ r ∈ db.lessonRatings.rows, r.lessonId ≠ lesson.id) ∧
      dto = mapLessonRatingToDto (body.row env lesson id) ∧ db'.lessons = db.lessons ∧
      db'.studentProfiles = db.studentProfiles ∧ ∀ r, r ∈ db'.lessonRatings.rows ↔
        r ∈ db.lessonRatings.rows ∨ r = body.row env lesson id := by
  unfold writeLessonRating at h
  split at h
  · cases h
  · next hfree =>
    cases h
    refine ⟨env.uuid db.lessonRatings.keys, fun r hr hid => hfree ?_, rfl, rfl, rfl, fun r => ?_⟩
    · exact (Table.findFirst_isSome _ _).mpr ⟨r, hr, decide_eq_true hid⟩
    · exact Table.mem_insert db.lessonRatings _ (env.uuid_fresh db.lessonRatings.keys) r

theorem writeLessonRating_fails (lesson : Lesson) (body : CreateLessonRatingBody) :
    Prog.FailsWithin Eq (writeLessonRating env lesson body) := by
  intro s e t h
  unfold writeLessonRating at h
  split at h
  · exact (Prod.mk.inj h).2
  · cases h

/-- The rating that is written is the only one of the lesson, and the one that its student reads. -/
structure RatingWritten (db db' : Db) (actor : Actor) (lesson : Lesson)
    (body : CreateLessonRatingBody) (dto : LessonRatingDto) : Prop where
  keeps : KeepsOver db db'
  sound : RatingsSound db'
  answer : dto.lessonId = lesson.id ∧ dto.rating = body.rating ∧ dto.comment = body.comment
  first : ∀ r ∈ db.lessonRatings.rows, r.lessonId ≠ lesson.id
  shown : getLessonRatingForStudent db' actor lesson.id = .ok (some dto)

theorem writeLessonRating_written {lesson : Lesson} {body : CreateLessonRatingBody}
    {dto : LessonRatingDto} (hsound : RatingsSound db) (hown : OwnLesson db actor lesson)
    (hcompleted : lesson.status = .completed)
    (h : writeLessonRating env lesson body db = (.ok dto, db')) :
    RatingWritten db db' actor lesson body dto := by
  obtain ⟨id, hfirst, rfl, hlessons, hstudents, hrows⟩ := writeLessonRating_ok h
  have hover : KeepsOver db db' := by
    refine ⟨fun l hl _ => ?_, hstudents, fun r hr => (hrows r).mpr (Or.inl hr)⟩
    rw [hlessons]
    exact hl
  have hsound' : RatingsSound db' := by
    refine ⟨fun r hr => ?_, fun r hr r' hr' hid => ?_⟩
    · rw [hlessons]
      rcases (hrows r).mp hr with hold | rfl
      · exact hsound.each r hold
      · exact ⟨lesson, hown.found, decide_eq_true ⟨hown.live, hown.practice, hcompleted⟩,
          ⟨rfl, rfl, rfl, body.rating_inRange⟩⟩
    · rcases (hrows r).mp hr with hold | rfl
      · rcases (hrows r').mp hr' with hold' | rfl
        · exact hsound.once r hold r' hold' hid
        · exact absurd hid (hfirst r hold)
      · rcases (hrows r').mp hr' with hold' | rfl
        · exact absurd hid.symm (hfirst r' hold')
        · rfl
  have hover' : lesson.status ≠ .scheduled := by
    rw [hcompleted]
    exact nofun
  exact {
    keeps := hover
    sound := hsound'
    answer := ⟨rfl, rfl, rfl⟩
    first := hfirst
    shown := (getLessonRating_eq_some hsound').mpr ⟨lesson, hown.mono hover' hover, rfl, _,
      (hrows _).mpr (Or.inr rfl), rfl, rfl⟩ }

/-! ### Requests -/

inductive LessonRequest where
  | rate (env : Env) (actor : Actor) (lessonId : Uuid) (body : CreateLessonRatingBody)
  | change (lessonId : Uuid) (call : LessonCall)
  | bookLesson (env : Env) (actor : Actor) (body : BookLessonBody)
  | bookOwnLesson (env : Env) (actor : Actor) (body : BookOwnLessonBody)

/-- A write phase and what its read phase has handed over; a booking only hands over its
arguments. -/
inductive PendingRequest where
  | rate (env : Env) (lesson : Lesson) (body : CreateLessonRatingBody)
  | change (w : PendingLessonWrite)
  | bookLesson (env : Env) (actor : Actor) (body : BookLessonBody)
  | bookOwnLesson (env : Env) (actor : Actor) (body : BookOwnLessonBody)

inductive LessonAnswer where
  | rating (dto : LessonRatingDto)
  | lesson (dto : LessonDto)

def PendingRequest.run : PendingRequest → Service LessonAnswer
  | .rate env lesson body => do
    let dto ← writeLessonRating env lesson body
    return .rating dto
  | .change w => do
    let dto ← w.run
    return .lesson dto
  | .bookLesson env actor body => do
    let dto ← OSK.bookLesson env actor body
    return .lesson dto
  | .bookOwnLesson env actor body => do
    let dto ← OSK.bookOwnLesson env actor body
    return .lesson dto

def LessonRequest.read : LessonRequest → Service PendingRequest
  | .rate env actor lessonId body => do
    let lesson ← Prog.query fun db => prepareLessonRating db actor lessonId
    return .rate env lesson body
  | .change lessonId call => do
    let w ← call.read lessonId
    return .change w
  | .bookLesson env actor body => pure (.bookLesson env actor body)
  | .bookOwnLesson env actor body => pure (.bookOwnLesson env actor body)

def LessonRequest.twoPhase (request : LessonRequest) :
    TwoPhase Failure Db PendingRequest LessonAnswer where
  read := request.read
  write := PendingRequest.run

/-- Without interruption the two phases of a rating are the operation. -/
theorem whole_createLessonRating (env : Env) (actor : Actor) (lessonId : Uuid)
    (body : CreateLessonRatingBody) :
    (LessonRequest.rate env actor lessonId body).twoPhase.whole = do
      let dto ← createLessonRating env actor lessonId body
      return .rating dto := by
  simp only [TwoPhase.whole, LessonRequest.twoPhase, LessonRequest.read, createLessonRating,
    Prog.bind_assoc]
  rfl

theorem LessonRequest.read_keeps (request : LessonRequest) (db : Db) :
    (request.read db).2 = db := by
  cases request with
  | rate env actor lessonId body => exact Prog.bind_pure_store _ _ _
  | change lessonId call => exact (Prog.bind_pure_store _ _ _).trans (call.read_keeps lessonId db)
  | bookLesson env actor body => rfl
  | bookOwnLesson env actor body => rfl

/-- What a rating hands over, it has read. -/
theorem LessonRequest.read_rate {request : LessonRequest} {lesson : Lesson}
    {body : CreateLessonRatingBody}
    (h : request.read db = (.ok (.rate env lesson body), db')) :
    ∃ actor, request = .rate env actor lesson.id body ∧ OwnLesson db actor lesson ∧
      lesson.status = .completed := by
  cases request with
  | rate env actor lessonId body =>
    obtain ⟨l, hprepared, h⟩ := Prog.query_bind_eq_ok.mp h
    obtain ⟨hsame, rfl⟩ := Prog.pure_eq_ok.mp h
    cases hsame
    simp only [prepareLessonRating, except_bind_eq_ok, ownPracticeLesson_eq_ok, throwIf_eq_ok,
      not_not, ne_eq] at hprepared
    obtain ⟨l', ⟨hown, rfl⟩, _, hcompleted, _, _, h⟩ := hprepared
    cases h
    exact ⟨actor, rfl, hown, hcompleted⟩
  | change lessonId call =>
    obtain ⟨_, _, _, h⟩ := Prog.bind_eq_ok.mp h
    cases (Prog.pure_eq_ok.mp h).1
  | bookLesson env actor body => cases h
  | bookOwnLesson env actor body => cases h

/-- Only a rating is answered with one. -/
theorem PendingRequest.run_rating {k : PendingRequest} {dto : LessonRatingDto}
    (h : k.run db = (.ok (.rating dto), db')) : ∃ env lesson body,
      k = .rate env lesson body ∧ writeLessonRating env lesson body db = (.ok dto, db') := by
  cases k with
  | rate env lesson body =>
    obtain ⟨dto', t, hwrite, h⟩ := Prog.bind_eq_ok.mp h
    obtain ⟨hdto, rfl⟩ := Prog.pure_eq_ok.mp h
    cases hdto
    exact ⟨env, lesson, body, rfl, hwrite⟩
  | change w | bookLesson env actor body | bookOwnLesson env actor body =>
    obtain ⟨_, _, _, h⟩ := Prog.bind_eq_ok.mp h
    cases (Prog.pure_eq_ok.mp h).1

/-- Every other write leaves the ratings alone. -/
theorem PendingRequest.run_leaves {k : PendingRequest} {r : Except Failure LessonAnswer}
    (h : k.run db = (r, db')) (hr : ∀ dto, r ≠ .ok (.rating dto)) : LeavesRatings db db' := by
  cases k with
  | rate env lesson body =>
    rw [PendingRequest.run, Prog.bind_run] at h
    rcases hwrite : writeLessonRating env lesson body db with ⟨e | dto, t⟩
    · rw [hwrite] at h
      cases h
      obtain rfl : db = db' := writeLessonRating_fails lesson body db e db' hwrite
      exact .refl db
    · rw [hwrite] at h
      cases h
      exact absurd rfl (hr dto)
  | change w =>
    obtain rfl := (Prog.bind_pure_store w.run _ db).symm.trans (congrArg Prod.snd h)
    exact w.run_leaves
  | bookLesson env actor body =>
    obtain rfl := (Prog.bind_pure_store (OSK.bookLesson env actor body) _ db).symm.trans
      (congrArg Prod.snd h)
    exact bookLesson_leaves body
  | bookOwnLesson env actor body =>
    obtain rfl := (Prog.bind_pure_store (OSK.bookOwnLesson env actor body) _ db).symm.trans
      (congrArg Prod.snd h)
    exact bookOwnLesson_leaves body

/-! ### Runs -/

abbrev RatingRace (ι : Type) := Interleaving ι Failure Db PendingRequest LessonAnswer

/-- The request is a rating that has been answered with `dto`. -/
def RatingRace.Answered {ι : Type} (c : RatingRace ι) (i : ι) (dto : LessonRatingDto) : Prop :=
  c.progress i = .finished (.ok (.rating dto))

section Run

variable {ι : Type} {requests : ι → LessonRequest} {c : RatingRace ι} {i : ι}

/-- The answer is what the student has asked for and will read. -/
structure AnswersRequest (request : LessonRequest) (db : Db) (dto : LessonRatingDto) : Prop where
  shown : ∃ env actor body, request = .rate env actor dto.lessonId body ∧
    dto.rating = body.rating ∧ dto.comment = body.comment ∧
    getLessonRatingForStudent db actor dto.lessonId = .ok (some dto)

/-- What holds between the phases of requests that have found the ratings of `db`. -/
structure RatedRun (requests : ι → LessonRequest) (db : Db) (c : RatingRace ι) : Prop where
  sound : RatingsSound c.store
  kept : db.lessonRatings.rows ⊆ c.store.lessonRatings.rows
  prepared : ∀ i env lesson body, c.progress i = .prepared (.rate env lesson body) →
    ∃ actor, requests i = .rate env actor lesson.id body ∧ OwnLesson c.store actor lesson ∧
      lesson.status = .completed
  answered : ∀ i dto, c.Answered i dto → AnswersRequest (requests i) c.store dto
  once : ∀ i j dto dto', c.Answered i dto → c.Answered j dto' → dto.lessonId = dto'.lessonId → i = j

theorem AnswersRequest.rated (hsound : RatingsSound db) {dto : LessonRatingDto}
    {request : LessonRequest} (h : AnswersRequest request db dto) :
    ∃ r ∈ db.lessonRatings.rows, r.lessonId = dto.lessonId := by
  obtain ⟨_, _, _, _, _, _, hget⟩ := h.shown
  obtain ⟨_, _, _, r, hr, hid, _⟩ := (getLessonRating_eq_some hsound).mp hget
  exact ⟨r, hr, hid⟩

theorem RatedRun.start (hsound : RatingsSound db) :
    RatedRun requests db (Interleaving.start db) where
  sound := hsound
  kept := fun _ h => h
  prepared := fun _ _ _ _ h => by cases h
  answered := fun _ _ h => by cases h
  once := fun _ _ _ _ h => by cases h

variable [DecidableEq ι]

/-- The next phase of a request, when what it reaches is right. -/
theorem RatedRun.update (h : RatedRun requests db c) {t : Db}
    {p : Progress Failure PendingRequest LessonAnswer} (hkeeps : KeepsOver c.store t)
    (hsound : RatingsSound t)
    (hprepared : ∀ env lesson body, p = .prepared (.rate env lesson body) →
      ∃ actor, requests i = .rate env actor lesson.id body ∧ OwnLesson t actor lesson ∧
        lesson.status = .completed)
    (hanswered : ∀ dto, p = .finished (.ok (.rating dto)) → AnswersRequest (requests i) t dto ∧
      ∀ r ∈ c.store.lessonRatings.rows, r.lessonId ≠ dto.lessonId) :
    RatedRun requests db ⟨t, Function.update c.progress i p⟩ := by
  have hcases : ∀ j q, Function.update c.progress i p j = q →
      (j = i ∧ p = q) ∨ (j ≠ i ∧ c.progress j = q) := by
    intro j q hq
    by_cases hj : j = i
    · subst hj
      exact Or.inl ⟨rfl, (Function.update_self j p c.progress).symm.trans hq⟩
    · exact Or.inr ⟨hj, (Function.update_of_ne hj p c.progress).symm.trans hq⟩
  refine ⟨hsound, fun _ hr => hkeeps.ratings (h.kept hr), fun j env lesson body hj => ?_,
    fun j dto hj => ?_, fun j k dto dto' hj hk hid => ?_⟩
  · rcases hcases j _ hj with ⟨rfl, hp⟩ | ⟨_, hold⟩
    · exact hprepared env lesson body hp
    · obtain ⟨actor, hrequest, hown, hcompleted⟩ := h.prepared j env lesson body hold
      have hover : lesson.status ≠ .scheduled := by
        rw [hcompleted]
        exact nofun
      exact ⟨actor, hrequest, hown.mono hover hkeeps, hcompleted⟩
  · rcases hcases j _ hj with ⟨rfl, hp⟩ | ⟨_, hold⟩
    · exact (hanswered dto hp).1
    · obtain ⟨env, actor, body, hrequest, hrating, hcomment, hget⟩ := (h.answered j dto hold).shown
      exact ⟨env, actor, body, hrequest, hrating, hcomment,
        getLessonRating_mono h.sound hsound hkeeps hget⟩
  · rcases hcases j _ hj with ⟨rfl, hp⟩ | ⟨_, hold⟩
    · rcases hcases k _ hk with ⟨rfl, _⟩ | ⟨_, hold'⟩
      · rfl
      · obtain ⟨r, hr, hrated⟩ := (h.answered k dto' hold').rated h.sound
        exact absurd (hrated.trans hid.symm) ((hanswered dto hp).2 r hr)
    · rcases hcases k _ hk with ⟨rfl, hp⟩ | ⟨_, hold'⟩
      · obtain ⟨r, hr, hrated⟩ := (h.answered j dto hold).rated h.sound
        exact absurd (hrated.trans hid) ((hanswered dto' hp).2 r hr)
      · exact h.once j k dto dto' hold hold' hid

/-- A phase after which nothing new is prepared to be rated or has been rated. -/
theorem RatedRun.leaves (h : RatedRun requests db c) {t : Db} {r : Except Failure LessonAnswer}
    (hleaves : LeavesRatings c.store t) (hr : ∀ dto, r ≠ .ok (.rating dto)) :
    RatedRun requests db ⟨t, Function.update c.progress i (.finished r)⟩ := by
  refine h.update hleaves.keeps (h.sound.of_same hleaves.keeps hleaves.ratings) ?_ ?_
  · intro env lesson body hp
    cases hp
  · intro dto hp
    exact absurd (Progress.finished.inj hp) (hr dto)

theorem RatedRun.rates (h : RatedRun requests db c) {lesson : Lesson}
    {body : CreateLessonRatingBody} {t : Db} {dto : LessonRatingDto}
    (hprogress : c.progress i = .prepared (.rate env lesson body))
    (hwrite : writeLessonRating env lesson body c.store = (.ok dto, t)) :
    RatedRun requests db ⟨t, Function.update c.progress i (.finished (.ok (.rating dto)))⟩ := by
  obtain ⟨actor, hrequest, hown, hcompleted⟩ := h.prepared i env lesson body hprogress
  have hwritten := writeLessonRating_written h.sound hown hcompleted hwrite
  obtain ⟨hlesson, hrating, hcomment⟩ := hwritten.answer
  have hshown := hwritten.shown
  have hfirst := hwritten.first
  rw [← hlesson] at hrequest hshown hfirst
  refine h.update hwritten.keeps hwritten.sound ?_ ?_
  · intro env lesson body hp
    cases hp
  · intro dto' hp
    cases hp
    exact ⟨⟨env, actor, body, hrequest, hrating, hcomment, hshown⟩, hfirst⟩

theorem RatedRun.write (h : RatedRun requests db c) {k : PendingRequest} {t : Db}
    {r : Except Failure LessonAnswer} (hprogress : c.progress i = .prepared k)
    (hrun : k.run c.store = (r, t)) :
    RatedRun requests db ⟨t, Function.update c.progress i (.finished r)⟩ := by
  by_cases hrating : ∃ dto, r = .ok (.rating dto)
  · obtain ⟨dto, rfl⟩ := hrating
    obtain ⟨env, lesson, body, rfl, hwrite⟩ := PendingRequest.run_rating hrun
    exact h.rates hprogress hwrite
  · rw [not_exists] at hrating
    exact h.leaves (PendingRequest.run_leaves hrun hrating) hrating

theorem RatedRun.read (h : RatedRun requests db c) {t : Db} {k : PendingRequest}
    (hread : (requests i).read c.store = (.ok k, t)) :
    RatedRun requests db ⟨t, Function.update c.progress i (.prepared k)⟩ := by
  obtain rfl : t = c.store :=
    (congrArg Prod.snd hread).symm.trans ((requests i).read_keeps c.store)
  refine h.update (.refl _) h.sound ?_ ?_
  · intro env lesson body hp
    cases hp
    exact LessonRequest.read_rate hread
  · intro dto hp
    cases hp

theorem RatedRun.step (h : RatedRun requests db c) (i : ι) :
    RatedRun requests db (Interleaving.step (fun i => (requests i).twoPhase) c i) := by
  unfold Interleaving.step
  split
  · split
    · next k t hread => exact h.read hread
    · next e t hread =>
      obtain rfl : t = c.store :=
        (congrArg Prod.snd hread).symm.trans ((requests i).read_keeps c.store)
      exact h.leaves (.refl _) fun dto h => by cases h
  · next k hprogress => exact h.write hprogress rfl
  · exact h

/-- Requests to rate, book, edit and cancel lessons, their phases in any order. Each rating that was
there stays; each is of a completed lesson, by its student and about its instructor, and the only
one of the lesson. An answered request is the only one for its lesson, and what it has been answered
is what the student reads from then on. -/
theorem lessonRatings_once (requests : ι → LessonRequest) {db : Db} (hsound : RatingsSound db)
    (schedule : List ι) :
    let c : RatingRace ι := run (fun i => (requests i).twoPhase) schedule (start db)
    RatingsSound c.store ∧ db.lessonRatings.rows ⊆ c.store.lessonRatings.rows ∧
      (∀ i dto, c.Answered i dto → AnswersRequest (requests i) c.store dto) ∧
      ∀ i j dto dto', c.Answered i dto → c.Answered j dto' → dto.lessonId = dto'.lessonId →
        i = j := by
  have hrun : RatedRun requests db (run (fun i => (requests i).twoPhase) schedule (start db)) :=
    run_of_step (fun _ i hc => hc.step i) (.start hsound)
  exact ⟨hrun.sound, hrun.kept, hrun.answered, hrun.once⟩

end Run

namespace TwoClicks

inductive Click where
  | first | second
  deriving DecidableEq

def drivenLesson : Lesson := { SmallSchool.tuesdayLesson .practice with status := .completed }

def driven : Db := { SmallSchool.db with lessons := ⟨[drivenLesson], by decide⟩ }

def body (rating : ℤ) (h : 1 ≤ rating ∧ rating ≤ 5) : CreateLessonRatingBody where
  rating
  rating_inRange := h

/-- The student rates the lesson and, before the answer, once more. -/
def requests : Click → LessonRequest
  | .first => .rate (SmallSchool.envAt 0) SmallSchool.student drivenLesson.id (body 5 (by decide))
  | .second => .rate (SmallSchool.envAt 0) SmallSchool.student drivenLesson.id (body 1 (by decide))

def reached : RatingRace Click :=
  run (fun i => (requests i).twoPhase) [.first, .second, .second, .first] (start driven)

theorem driven_sound : RatingsSound driven :=
  ⟨fun _ hr => absurd hr List.not_mem_nil, fun _ hr => absurd hr List.not_mem_nil⟩

end TwoClicks

open TwoClicks in
/-- The second click is the first to be written. -/
theorem lessonRatings_once_twoClicks :
    reached.store.lessonRatings.rows.map LessonRating.rating = [1] ∧
      reached.Succeeded .second ∧ ¬reached.Succeeded .first ∧ RatingsSound reached.store :=
  ⟨by decide +kernel, by decide +kernel, by decide +kernel,
    (lessonRatings_once requests driven_sound [.first, .second, .second, .first]).1⟩

end OSK
