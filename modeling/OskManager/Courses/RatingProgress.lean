import OskManager.Courses.RemainingMinutes
import OskManager.Lib.Keyset
import OskManager.Lib.Numerals
import OskManager.Lib.RunningTotals
import OskManager.Model.LessonRatings
import OskManager.Sample.SmallSchool

/-! The progress in a list of ratings does not depend on the page. The loop counts for every course
and student apart, over all their completed lessons, so a lesson has the same number and the same
minutes wherever it is listed. -/

namespace OSK

open Relational Numerals

/-! ### Keys -/

theorem filter_dash {l : List Char} (h : '-' ∉ l) : l.filter (· != '-') = l :=
  List.filter_eq_self.mpr fun _ hc => bne_iff_ne.mpr fun heq => h (heq ▸ hc)

/-- The digits of an id, with the zeros in front of them. -/
def uuidDigits (id : Uuid) : List Char :=
  List.replicate (32 - (Nat.toDigits 16 id).length) '0' ++ Nat.toDigits 16 id

theorem uuidDigits_ne (id : Uuid) : ∀ c ∈ uuidDigits id, c ≠ '-' ∧ c ≠ ':' := by
  intro c hc
  rcases List.mem_append.mp hc with hc | hc
  · rw [List.eq_of_mem_replicate hc]
    decide
  · refine toDigits_forall (p := fun c => c ≠ '-' ∧ c ≠ ':') (by decide) (fun d hd => ?_) id c hc
    interval_cases d <;> decide

theorem uuidDigits_injective : Function.Injective uuidDigits := fun id id' h => by
  have hread (id : Uuid) : read 16 (uuidDigits id) = id := by
    rw [uuidDigits, read_zeros, read_toDigits (by decide) (by decide)]
  rw [← hread id, h, hread]

theorem toList_uuidText (id : Uuid) : (uuidText id).toList =
    (uuidDigits id).take 8 ++ '-' :: ((uuidDigits id).drop 8).take 4 ++
      '-' :: ((uuidDigits id).drop 12).take 4 ++ '-' :: ((uuidDigits id).drop 16).take 4 ++
        '-' :: (uuidDigits id).drop 20 :=
  String.toList_ofList

/-- The five groups are the digits cut apart. -/
theorem groups_append (l : List Char) : l.take 8 ++ ((l.drop 8).take 4 ++ ((l.drop 12).take 4 ++
    ((l.drop 16).take 4 ++ l.drop 20))) = l := by
  have hcut (m : ℕ) : (l.drop m).take 4 ++ l.drop (m + 4) = l.drop m := by
    rw [← List.drop_drop, List.take_append_drop]
  rw [hcut 16, hcut 12, hcut 8, List.take_append_drop]

/-- Without its dashes a text is the digits of the id. -/
theorem filter_uuidText (id : Uuid) : (uuidText id).toList.filter (· != '-') = uuidDigits id := by
  have hdash {l : List Char} (hl : l.Sublist (uuidDigits id)) : l.filter (· != '-') = l :=
    filter_dash fun hc => (uuidDigits_ne id _ (hl.subset hc)).1 rfl
  have hgroup (m : ℕ) : (((uuidDigits id).drop m).take 4).Sublist (uuidDigits id) :=
    (List.take_sublist _ _).trans (List.drop_sublist _ _)
  have hskip (l : List Char) : ('-' :: l).filter (· != '-') = l.filter (· != '-') :=
    List.filter_cons_of_neg (by decide)
  rw [toList_uuidText]
  simp only [List.filter_append, hskip, List.append_assoc]
  rw [hdash (List.take_sublist _ _), hdash (hgroup 8), hdash (hgroup 12), hdash (hgroup 16),
    hdash (List.drop_sublist _ _), groups_append]

theorem uuidText_injective : Function.Injective uuidText := fun id id' h => by
  apply uuidDigits_injective
  rw [← filter_uuidText, h, filter_uuidText]

theorem colon_notMem_uuidText (id : Uuid) : ':' ∉ (uuidText id).toList := by
  intro hc
  have hmem : ':' ∈ (uuidText id).toList.filter (· != '-') :=
    List.mem_filter.mpr ⟨hc, by decide⟩
  rw [filter_uuidText] at hmem
  exact (uuidDigits_ne id _ hmem).2 rfl

/-- Different pairs of a course and a student have different keys. -/
theorem lessonCourseStudentKey_inj {c s c' s' : Uuid} :
    lessonCourseStudentKey c s = lessonCourseStudentKey c' s' ↔ c = c' ∧ s = s' := by
  refine ⟨fun h => ?_, fun ⟨hc, hs⟩ => by rw [hc, hs]⟩
  have hlist := congrArg String.toList h
  simp only [lessonCourseStudentKey, String.toList_append, List.append_assoc] at hlist
  obtain ⟨hc, -, hs⟩ := (List.append_cons_inj_of_notMem (colon_notMem_uuidText _)
    (colon_notMem_uuidText _)).mp hlist
  exact ⟨uuidText_injective (String.toList_inj.mp hc), uuidText_injective (String.toList_inj.mp hs)⟩

/-! ### Progress -/

/-- The completed lessons of the lesson's course and student that are not after it. -/
def Lesson.upTo (db : Db) (l : Lesson) : List Lesson :=
  db.lessons.rows.filter fun l' => l'.isCompletedPractice &&
    decide (l'.courseId = l.courseId ∧ l'.studentId = l.studentId ∧ l'.position ≤ l.position)

/-- The rank of the lesson and the minutes up to it. -/
def Lesson.progress (db : Db) (l : Lesson) : LessonProgress where
  sequenceNumber := (l.upTo db).length
  completedMinutesAfterLesson := ((l.upTo db).map Lesson.minutes).sum

def Lesson.pairKey (l : Lesson) : String := lessonCourseStudentKey l.courseId l.studentId

theorem counters_countLesson (maps : ProgressMaps) (l : Lesson) :
    (countLesson maps l).counters =
      RunningTotals.add Lesson.pairKey (fun _ => 1) maps.counters l := by
  rw [countLesson, RunningTotals.add, RunningTotals.next, Lesson.pairKey]

theorem completedMinutes_countLesson (maps : ProgressMaps) (l : Lesson) :
    (countLesson maps l).completedMinutesByCourseStudent = RunningTotals.add Lesson.pairKey
      (fun l => max 0 l.minutes) maps.completedMinutesByCourseStudent l := by
  rw [countLesson, RunningTotals.add, RunningTotals.next, Lesson.pairKey]

theorem counters_foldl (lessons : List Lesson) (maps : ProgressMaps) :
    (lessons.foldl countLesson maps).counters =
      lessons.foldl (RunningTotals.add Lesson.pairKey fun _ => 1) maps.counters := by
  induction lessons generalizing maps with
  | nil => rfl
  | cons l rest ih => rw [List.foldl_cons, List.foldl_cons, ih, counters_countLesson]

theorem completedMinutes_foldl (lessons : List Lesson) (maps : ProgressMaps) :
    (lessons.foldl countLesson maps).completedMinutesByCourseStudent =
      lessons.foldl (RunningTotals.add Lesson.pairKey fun l => max 0 l.minutes)
        maps.completedMinutesByCourseStudent := by
  induction lessons generalizing maps with
  | nil => rfl
  | cons l rest ih => rw [List.foldl_cons, List.foldl_cons, ih, completedMinutes_countLesson]

/-- A round writes the progress of its own lesson only. -/
theorem progress_foldl_of_notMem {lessons : List Lesson} (maps : ProgressMaps) {id : Uuid}
    (h : ∀ l ∈ lessons, l.id ≠ id) :
    (lessons.foldl countLesson maps).progressByLessonId id = maps.progressByLessonId id := by
  induction lessons generalizing maps with
  | nil => rfl
  | cons l rest ih =>
    rw [List.foldl_cons, ih _ fun l' hl' => h l' (List.mem_cons_of_mem _ hl')]
    exact Function.update_of_ne (h l List.mem_cons_self).symm _ _

/-- The progress of a lesson is read off the totals right after it. -/
theorem progress_foldl {before after : List Lesson} {l : Lesson} (h : ∀ a ∈ after, a.id ≠ l.id) :
    ((before ++ l :: after).foldl countLesson {}).progressByLessonId l.id = some {
      sequenceNumber := RunningTotals.next Lesson.pairKey (fun _ => 1)
        (before.foldl (RunningTotals.add Lesson.pairKey fun _ => 1) fun _ => none) l
      completedMinutesAfterLesson := RunningTotals.next Lesson.pairKey (fun l => max 0 l.minutes)
        (before.foldl (RunningTotals.add Lesson.pairKey fun l => max 0 l.minutes) fun _ => none)
        l } := by
  rw [List.foldl_append, List.foldl_cons, progress_foldl_of_notMem _ h, countLesson,
    counters_foldl, completedMinutes_foldl]
  exact Function.update_self ..

/-- A pair that is set under its key stays there, as only itself is set under that key. -/
theorem lookup_uniquePairs (rows : List RatingRow) {pairs : AList fun _ : String => Uuid × Uuid}
    {c st : Uuid} (h : (∃ row ∈ rows, row.lesson.courseId = c ∧ row.lesson.studentId = st) ∨
      pairs.lookup (lessonCourseStudentKey c st) = some (c, st)) :
    (rows.foldl (fun pairs row =>
      pairs.insert (lessonCourseStudentKey row.lesson.courseId row.lesson.studentId)
        (row.lesson.courseId, row.lesson.studentId)) pairs).lookup (lessonCourseStudentKey c st) =
      some (c, st) := by
  induction rows generalizing pairs with
  | nil =>
    rcases h with ⟨row, hrow, -⟩ | h
    · cases hrow
    · exact h
  | cons row rest ih =>
    rw [List.foldl_cons]
    refine ih ?_
    by_cases hpair : row.lesson.courseId = c ∧ row.lesson.studentId = st
    · obtain ⟨rfl, rfl⟩ := hpair
      exact Or.inr (AList.lookup_insert _)
    · rcases h with ⟨row', hrow', hpair'⟩ | h
      · rcases List.mem_cons.mp hrow' with rfl | hrest
        · exact absurd hpair' hpair
        · exact Or.inl ⟨row', hrest, hpair'⟩
      · refine Or.inr ((AList.lookup_insert_ne fun hkey => hpair ?_).trans h)
        obtain ⟨hc, hs⟩ := lessonCourseStudentKey_inj.mp hkey
        exact ⟨hc.symm, hs.symm⟩

theorem mem_uniquePairs {rows : List RatingRow} {row : RatingRow} (hrow : row ∈ rows) :
    (row.lesson.courseId, row.lesson.studentId) ∈ (uniquePairs rows).entries.map Sigma.snd :=
  List.mem_map.mpr ⟨_, AList.mem_lookup_iff.mp
    (lookup_uniquePairs rows (Or.inl ⟨row, hrow, rfl, rfl⟩)), rfl⟩

theorem id_of_position {l l' : Lesson} (h : l.position = l'.position) : l.id = l'.id :=
  congrArg (fun p : Instant ×ₗ Instant ×ₗ Uuid => (ofLex (ofLex p).2).2) h

theorem lessons_distinct (db : Db) : Keyset.Distinct Lesson.position db.lessons.rows :=
  (List.pairwise_map.mp db.lessons.nodup).imp fun hid hposition => hid (id_of_position hposition)

/-- The lessons that the query finds, before they are sorted. -/
def foundLessons (db : Db) (rows : List RatingRow) : List Lesson :=
  db.lessons.findMany fun l =>
    decide ((l.courseId, l.studentId) ∈ (uniquePairs rows).entries.map Sigma.snd) &&
      l.isCompletedPractice

theorem completedLessons_ascending (db : Db) (rows : List RatingRow) :
    (completedLessons db rows).Pairwise fun a b => a.position < b.position :=
  Keyset.sortUp_ascending ((lessons_distinct db).filter _)

theorem completedLessons_perm (db : Db) (rows : List RatingRow) :
    (completedLessons db rows).Perm (foundLessons db rows) := Keyset.sortUp_perm _

/-- Of a lesson on the page, the query finds all lessons it is counted with. -/
theorem total_foundLessons {M : Type} [AddCommMonoid M] {db : Db} {rows : List RatingRow}
    {row : RatingRow} (hrow : row ∈ rows) (weight : Lesson → M) :
    RunningTotals.total Lesson.pairKey weight
        ((foundLessons db rows).filter fun a => a.position ≤ row.lesson.position)
        row.lesson.pairKey = ((row.lesson.upTo db).map weight).sum := by
  rw [RunningTotals.total, foundLessons, Table.findMany, List.filter_filter, List.filter_filter,
    Lesson.upTo]
  refine congrArg (fun lessons => (lessons.map weight).sum) (List.filter_congr fun l _ => ?_)
  have hkey : l.pairKey = row.lesson.pairKey ↔
      l.courseId = row.lesson.courseId ∧ l.studentId = row.lesson.studentId :=
    lessonCourseStudentKey_inj
  have hpair := mem_uniquePairs hrow
  by_cases hsame : l.courseId = row.lesson.courseId ∧ l.studentId = row.lesson.studentId
  · simp only [hkey, hsame, hpair, and_self, true_and, decide_true, Bool.true_and]
    exact Bool.and_comm _ _
  · have hcount : ¬(l.courseId = row.lesson.courseId ∧ l.studentId = row.lesson.studentId ∧
        l.position ≤ row.lesson.position) := fun h => hsame ⟨h.1, h.2.1⟩
    simp only [hkey, hsame, hcount, decide_false, Bool.false_and, Bool.and_false]

/-- The progress of a lesson on the page. -/
theorem resolveLessonProgress_eq {db : Db} {rows : List RatingRow} {row : RatingRow}
    (hrow : row ∈ rows) (hlesson : row.lesson ∈ db.lessons.rows)
    (hcompleted : row.lesson.isCompletedPractice = true) :
    resolveLessonProgress db rows row.lesson.id = some (row.lesson.progress db) := by
  have hmem : row.lesson ∈ completedLessons db rows := by
    rw [(completedLessons_perm db rows).mem_iff, foundLessons, Table.mem_findMany,
      Bool.and_eq_true, decide_eq_true_eq]
    exact ⟨hlesson, mem_uniquePairs hrow, hcompleted⟩
  have hperm := completedLessons_perm db rows
  have hascending := completedLessons_ascending db rows
  obtain ⟨before, after, hsplit⟩ := List.append_of_mem hmem
  rw [hsplit] at hperm hascending
  have hafter : ∀ a ∈ after, a.id ≠ row.lesson.id := by
    intro a ha hid
    have hlt := (List.pairwise_cons.mp (List.pairwise_append.mp hascending).2.1).1 a ha
    have ha' : a ∈ db.lessons.rows := by
      have hfound := hperm.subset (List.mem_append_right _ (List.mem_cons_of_mem _ ha))
      exact ((Table.mem_findMany _ _ _).mp hfound).1
    rw [db.lessons.key_inj ha' hlesson hid] at hlt
    exact lt_irrefl _ hlt
  rw [resolveLessonProgress, if_neg (List.length_pos_of_mem hrow).ne', hsplit,
    progress_foldl hafter, RunningTotals.next_eq_total hascending hperm,
    RunningTotals.next_eq_total hascending hperm, total_foundLessons hrow,
    total_foundLessons hrow, Lesson.progress]
  have hminutes : (fun l : Lesson => max 0 l.minutes) = Lesson.minutes :=
    funext fun l => max_eq_right l.minutes_nonneg
  rw [hminutes, List.map_const', List.sum_replicate]
  simp

/-! ### Pages -/

def LessonRatingLesson.progress (l : LessonRatingLesson) : LessonProgress :=
  ⟨l.sequenceNumber, l.completedMinutesAfterLesson⟩

/-- The items of the pages of ratings of completed lessons, whatever else is asked for. -/
def Listed (db : Db) (item : LessonRatingListItem) : Prop :=
  ∃ (runtime : AverageRuntime) (where_ : RatingWhere) (limit : ℕ) (options : RatingsOptions),
    (∀ row, where_ row = true → row.lesson.isCompletedPractice = true) ∧
      item ∈ (fetchRatingsWithSummary runtime db where_ limit options).ratings

theorem mem_ratingRows {db : Db} {where_ : RatingWhere} {row : RatingRow}
    (h : row ∈ ratingRows db where_) : row.lesson ∈ db.lessons.rows ∧ where_ row = true := by
  obtain ⟨hrow, hwhere⟩ := List.mem_filter.mp h
  obtain ⟨r, -, hfound⟩ := List.mem_filterMap.mp hrow
  obtain ⟨lesson, hlesson, rfl⟩ := Option.map_eq_some_iff.mp hfound
  exact ⟨Table.mem_of_findUnique hlesson, hwhere⟩

/-- An item shows the progress of its lesson among all lessons. -/
theorem Listed.progress_eq {db : Db} {item : LessonRatingListItem} (h : Listed db item) :
    ∃ l ∈ db.lessons.rows, l.isCompletedPractice = true ∧ l.id = item.lesson.id ∧
      item.lesson.progress = l.progress db := by
  obtain ⟨_, where_, limit, options, hwhere, hitem⟩ := h
  obtain ⟨row, hrow, rfl⟩ := List.mem_map.mp hitem
  have hfound := (List.mem_insertionSort _).mp
    (List.mem_of_mem_drop (List.mem_of_mem_take hrow))
  obtain ⟨hlesson, hadmitted⟩ := mem_ratingRows hfound
  have hcompleted := hwhere row hadmitted
  refine ⟨row.lesson, hlesson, hcompleted, rfl, ?_⟩
  rw [resolveLessonProgress_eq hrow hlesson hcompleted]
  rfl

theorem ratingsPage_listed {runtime : AverageRuntime} {db : Db} {where_ : RatingWhere}
    {query : RatingsQuery} {includeStudent : Bool} {item : LessonRatingListItem}
    (hwhere : ∀ row, where_ row = true → row.lesson.isCompletedPractice = true)
    (hitem : item ∈ (ratingsPage runtime db where_ query includeStudent).ratings) : Listed db item :=
  ⟨runtime, where_, query.limit, _, hwhere, hitem⟩

theorem managerWhere_completed {db : Db} {schoolId : Uuid} {instructorId : Option Uuid}
    {createdAt : Option CreatedAtRange} (row : RatingRow)
    (h : buildManagerRatingsWhere db schoolId instructorId createdAt row = true) :
    row.lesson.isCompletedPractice = true := by
  simp only [buildManagerRatingsWhere, Bool.and_eq_true] at h
  exact h.2.1

theorem listForManager_listed {runtime : AverageRuntime} {env : Env} {db : Db} {actor : Actor}
    {schoolId : Uuid} {instructorId : Option Uuid} {query : RatingsQuery} {page : RatingsPage}
    (h : listLessonRatingsForManager runtime env db actor schoolId instructorId query = .ok page) :
    ∀ item ∈ page.ratings, Listed db item := by
  obtain ⟨-, -, h⟩ := except_bind_eq_ok.mp h
  obtain ⟨createdAt, -, h⟩ := except_bind_eq_ok.mp h
  cases h
  exact fun item => ratingsPage_listed managerWhere_completed

theorem listInstructorForManager_listed {runtime : AverageRuntime} {env : Env} {db : Db}
    {actor : Actor} {instructorId : Uuid} {schoolId : Option Uuid} {query : RatingsQuery}
    {page : RatingsPage}
    (h : listInstructorLessonRatingsForManager runtime env db actor instructorId schoolId query =
      .ok page) : ∀ item ∈ page.ratings, Listed db item := by
  obtain ⟨resolved, -, h⟩ := except_bind_eq_ok.mp h
  obtain ⟨-, -, h⟩ := except_bind_eq_ok.mp h
  obtain ⟨createdAt, -, h⟩ := except_bind_eq_ok.mp h
  cases h
  exact fun item => ratingsPage_listed managerWhere_completed

theorem listOwn_listed {runtime : AverageRuntime} {env : Env} {db : Db} {actor : Actor}
    {query : RatingsQuery} {page : RatingsPage}
    (h : listOwnLessonRatingsForInstructor runtime env db actor query = .ok page) :
    ∀ item ∈ page.ratings, Listed db item := by
  obtain ⟨instructorId, -, h⟩ := except_bind_eq_ok.mp h
  obtain ⟨createdAt, -, h⟩ := except_bind_eq_ok.mp h
  cases h
  refine fun item => ratingsPage_listed fun row hrow => ?_
  simp only [Bool.and_eq_true] at hrow
  exact hrow.2

/-- On every page the number of a lesson is its rank among the completed lessons of its course and
student, and its minutes are those of the lessons up to it. A lesson that is listed twice has the
same progress, and the three lists of the service are made of such pages. -/
theorem ratingProgress_independent (db : Db) :
    (∀ item, Listed db item → ∃ l ∈ db.lessons.rows, l.isCompletedPractice = true ∧
      l.id = item.lesson.id ∧ item.lesson.progress = l.progress db) ∧
    (∀ item item', Listed db item → Listed db item' → item.lesson.id = item'.lesson.id →
      item.lesson.progress = item'.lesson.progress) ∧
    ∀ runtime env actor query page,
      ((∃ schoolId instructorId,
          listLessonRatingsForManager runtime env db actor schoolId instructorId query = .ok page) ∨
        (∃ instructorId schoolId,
          listInstructorLessonRatingsForManager runtime env db actor instructorId schoolId query =
            .ok page) ∨
        listOwnLessonRatingsForInstructor runtime env db actor query = .ok page) →
      ∀ item ∈ page.ratings, Listed db item := by
  refine ⟨fun item => Listed.progress_eq, fun item item' h h' hid => ?_,
    fun runtime env actor query page h => ?_⟩
  · obtain ⟨l, hl, -, hlid, hprogress⟩ := h.progress_eq
    obtain ⟨l', hl', -, hlid', hprogress'⟩ := h'.progress_eq
    obtain rfl := db.lessons.key_inj hl hl' (hlid.trans (hid.trans hlid'.symm))
    rw [hprogress, hprogress']
  · rcases h with ⟨schoolId, instructorId, h⟩ | ⟨instructorId, schoolId, h⟩ | h
    · exact listForManager_listed h
    · exact listInstructorForManager_listed h
    · exact listOwn_listed h

/-- A lesson of 90 minutes and one of an hour that follows it, which is the only one on its page. -/
def ratedSchool : Db :=
  { SmallSchool.db ⟨[
      { id := 70, courseId := 50, studentId := 30, instructorId := 20, vehicleId := some 40
        startTime := 0, endTime := 5400000, status := .completed },
      { id := 71, courseId := 50, studentId := 30, instructorId := 20, vehicleId := some 40
        startTime := 7200000, endTime := 10800000, status := .completed }], by decide⟩ with
    lessonRatings := ⟨[
      { id := 80, lessonId := 70, studentId := 30, instructorId := 20, rating := 4 },
      { id := 81, lessonId := 71, studentId := 30, instructorId := 20, rating := 5
        createdAt := 1 }], by decide⟩ }

/-- No double is rounded here. -/
def exactAverage : AverageRuntime where
  avg ratings := ratings.sum / ratings.length
  mul a b := a * b
  div a b := a / b

def secondRating : RatingsPage :=
  ratingsPage exactAverage ratedSchool (buildManagerRatingsWhere ratedSchool 10 none none)
    { period := .latest, limit := 1 } true

theorem ratingProgress_independent_second : ∃ item,
    listLessonRatingsForManager exactAverage (SmallSchool.envAt 0) ratedSchool SmallSchool.manager 10
      none { period := .latest, limit := 1 } = .ok secondRating ∧ secondRating.ratings = [item] ∧
    item.lesson.progress = ⟨2, 150⟩ := by
  have hok : listLessonRatingsForManager exactAverage (SmallSchool.envAt 0) ratedSchool
      SmallSchool.manager 10 none { period := .latest, limit := 1 } = .ok secondRating := rfl
  have hids : secondRating.ratings.map (fun i => i.lesson.id) = [71] := by decide +kernel
  have hrows : ∀ l ∈ ratedSchool.lessons.rows, l.id = 71 → l.progress ratedSchool = ⟨2, 150⟩ := by
    decide +kernel
  obtain ⟨item, hitem, hid⟩ := List.map_eq_singleton_iff.mp hids
  obtain ⟨hprogress, -, hpages⟩ := ratingProgress_independent ratedSchool
  have hlisted := hpages _ _ _ _ _ (Or.inl ⟨10, none, hok⟩) item (hitem ▸ List.mem_singleton_self _)
  obtain ⟨l, hl, -, hlid, hitemProgress⟩ := hprogress item hlisted
  exact ⟨item, hok, hitem, hitemProgress.trans (hrows l hl (hlid.trans hid))⟩

end OSK
