import OskManager.Lib.Loops
import OskManager.Model.StudentList
import OskManager.Security.CalendarDates

/-! The filters of the student list. A filter and its opposite list every student of the unfiltered
list once in total, whatever is null in the rows; the three filters of a range of dates do so exactly
when the range does not start after the day that follows its end. -/

namespace OSK

open Relational Sql

section

variable {text : TextRules} {db : Db} {query : ListStudentsQuery} {schoolId : Uuid} {now : Instant}

/-! ### Filters of a query -/

/-- What the list asks of a student apart from its filters. -/
def baseWhere (text : TextRules) (db : Db) (query : ListStudentsQuery) (schoolId : Uuid)
    (now : Instant) : Cond StudentProfile :=
  all [userOf db (isNull User.deletedAt), inSchool db schoolId,
    all (query.courseId.toList.map (fun courseId => present (enrolmentsOf db) (inCourse courseId)) ++
      (searchTerms query.search).map (searchCondition text db) ++
      viewConditions db schoolId now query.view)]

/-- The students matched with no filter. -/
def unfilteredStudents (text : TextRules) (db : Db) (query : ListStudentsQuery) (schoolId : Uuid)
    (now : Instant) : List StudentProfile :=
  select db.studentProfiles.rows (baseWhere text db query schoolId now)

theorem unfiltered_nodup : (unfilteredStudents text db query schoolId now).Nodup :=
  (List.Nodup.of_map _ db.studentProfiles.nodup).filter _

/-- Every unfiltered student has a user. -/
theorem unfiltered_user {s : StudentProfile}
    (hs : s ∈ unfilteredStudents text db query schoolId now) :
    ∃ user, db.users.findUnique s.userId = some user ∧ user.deletedAt = none := by
  have hbase := (mem_select.mp hs).2
  rw [baseWhere, selects_all, List.forall_mem_cons] at hbase
  obtain ⟨user, huser, hlive⟩ := selects_toOne.mp hbase.1
  exact ⟨user, huser, selects_isNull.mp hlive⟩

/-- Filters are conditions that are added to those of the unfiltered list. -/
theorem matchedStudents_ok {filters : List StudentAdvancedFilter} {found : List StudentProfile} :
    matchedStudents text db { query with filters } schoolId now = .ok found ↔
      ∃ cs, filters.mapM (fun f => buildAdvancedFilterWhere text db schoolId f now) = .ok cs ∧
        found = select (unfilteredStudents text db query schoolId now) (all cs) := by
  rw [matchedStudents, except_bind_eq_ok]
  simp only [buildStudentListWhere, except_bind_eq_ok, pure, Except.pure, Except.ok.injEq]
  constructor
  · rintro ⟨_, ⟨cs, hcs, rfl⟩, rfl⟩
    exact ⟨cs, hcs, select_select fun s => selects_all_append⟩
  · rintro ⟨cs, hcs, rfl⟩
    exact ⟨_, ⟨cs, hcs, rfl⟩, select_select fun s => selects_all_append⟩

/-- The student is in the list with these filters. -/
def ListedWith (text : TextRules) (db : Db) (query : ListStudentsQuery) (schoolId : Uuid)
    (now : Instant) (filters : List StudentAdvancedFilter) (s : StudentProfile) : Prop :=
  ∃ found, matchedStudents text db { query with filters } schoolId now = .ok found ∧ s ∈ found

theorem listedWith_iff {filters : List StudentAdvancedFilter} {s : StudentProfile} :
    ListedWith text db query schoolId now filters s ↔
      s ∈ unfilteredStudents text db query schoolId now ∧
        ∀ f ∈ filters, ∃ c, buildAdvancedFilterWhere text db schoolId f now = .ok c ∧
          Selects c s := by
  simp only [ListedWith, matchedStudents_ok]
  constructor
  · rintro ⟨_, ⟨cs, hcs, rfl⟩, hs⟩
    rw [mem_select, selects_all] at hs
    refine ⟨hs.1, fun f hf => ?_⟩
    obtain ⟨c, hc, hbuild⟩ := exists_of_mapM_ok hcs hf
    exact ⟨c, hbuild, hs.2 c hc⟩
  · rintro ⟨hs, hfilters⟩
    obtain ⟨cs, hcs⟩ := mapM_succeeds fun f hf => (hfilters f hf).imp fun c hc => hc.1
    refine ⟨_, ⟨cs, hcs, rfl⟩, mem_select.mpr ⟨hs, selects_all.mpr fun c hc => ?_⟩⟩
    obtain ⟨f, hf, hbuild⟩ := mem_of_mapM_ok hcs hc
    obtain ⟨c', hc', hselects⟩ := hfilters f hf
    cases hbuild.symm.trans hc'
    exact hselects

/-! ### The list -/

theorem matched_user {found : List StudentProfile}
    (h : matchedStudents text db query schoolId now = .ok found) {s : StudentProfile}
    (hs : s ∈ found) : ∃ user, db.users.findUnique s.userId = some user := by
  obtain ⟨cs, -, rfl⟩ := matchedStudents_ok.mp h
  obtain ⟨user, huser, -⟩ := unfiltered_user (mem_select.mp hs).1
  exact ⟨user, huser⟩

/-- The view that is shown when none is asked for is that of all students. -/
theorem matched_view : matchedStudents text db
    { query with view := some (query.view.getD .all) } schoolId now =
      matchedStudents text db query schoolId now := by
  cases hview : query.view with
  | none => simp only [matchedStudents, buildStudentListWhere, hview, Option.getD_none, viewConditions]
  | some view => simp only [matchedStudents, buildStudentListWhere, hview, Option.getD_some]

/-- The response counts the students that the query selects and shows a page of them in order. -/
theorem listStudentsForSchool_ok {env : Env} {actor : Actor} {result : ListStudentsResult}
    (h : listStudentsForSchool text env db actor query = .ok result) :
    ∃ schoolId found, ∃ rows : List (StudentProfile × User),
      resolveListSchoolId db query = .ok schoolId ∧
      matchedStudents text db query schoolId env.now = .ok found ∧
      (rows.map Prod.fst).Perm found ∧ result.total = found.length ∧
      result.data = ((rows.drop ((query.page - 1) * query.limit)).take query.limit).map
        (studentListItem db) := by
  simp only [listStudentsForSchool, except_bind_eq_ok, pure, Except.pure, Except.ok.injEq] at h
  obtain ⟨schoolId, hschool, _, -, _, -, _, -, found, hfound, all, ⟨_, hall, rfl⟩, noPkk,
    ⟨_, hnoPkk, rfl⟩, noCourse, ⟨_, hnoCourse, rfl⟩, overdue, ⟨_, hoverdue, rfl⟩, noLesson,
    ⟨_, hnoLesson, rfl⟩, rfl⟩ := h
  have hrows : (found.filterMap fun s =>
      (db.users.findUnique s.userId).map fun user => (s, user)).map Prod.fst = found := by
    rw [List.map_filterMap]
    refine (List.filterMap_congr fun s hs => ?_).trans (List.filterMap_some)
    obtain ⟨user, huser⟩ := matched_user hfound hs
    rw [huser]
    rfl
  refine ⟨schoolId, found, _, hschool, hfound, ?_, ?_, rfl⟩
  · exact ((List.perm_insertionSort _ _).map Prod.fst).trans (List.Perm.of_eq hrows)
  · rw [← matched_view] at hfound
    cases hview : query.view.getD .all <;> rw [hview] at hfound
    · exact congrArg List.length (Except.ok.inj (hall.symm.trans hfound))
    · exact congrArg List.length (Except.ok.inj (hnoPkk.symm.trans hfound))
    · exact congrArg List.length (Except.ok.inj (hnoCourse.symm.trans hfound))
    · exact congrArg List.length (Except.ok.inj (hoverdue.symm.trans hfound))
    · exact congrArg List.length (Except.ok.inj (hnoLesson.symm.trans hfound))

/-! ### Every student once -/

/-- The parts of the list that the filters give, each of them alone, have every student of the
unfiltered list once in total. -/
def ListedOnce (text : TextRules) (db : Db) (query : ListStudentsQuery) (schoolId : Uuid)
    (now : Instant) (parts : List StudentAdvancedFilter) : Prop :=
  ∃ lists unfiltered,
    parts.mapM (fun f => matchedStudents text db { query with filters := [f] } schoolId now) =
        .ok lists ∧
      matchedStudents text db { query with filters := [] } schoolId now = .ok unfiltered ∧
      lists.flatten.Perm unfiltered

theorem matched_one {f : StudentAdvancedFilter} {found : List StudentProfile} :
    matchedStudents text db { query with filters := [f] } schoolId now = .ok found ↔
      ∃ c, buildAdvancedFilterWhere text db schoolId f now = .ok c ∧
        found = select (unfilteredStudents text db query schoolId now) c := by
  have hone (c : Cond StudentProfile) :
      select (unfilteredStudents text db query schoolId now) (all [c]) =
        select (unfilteredStudents text db query schoolId now) c :=
    List.filter_congr fun s _ => decide_eq_decide.mpr (by simp)
  simp only [matchedStudents_ok, mapM_eq_ok_iff, List.forall₂_cons_left_iff,
    List.forall₂_nil_left_iff]
  constructor
  · rintro ⟨_, ⟨c, _, hc, rfl, rfl⟩, rfl⟩
    exact ⟨c, hc, hone c⟩
  · rintro ⟨c, hc, rfl⟩
    exact ⟨[c], ⟨c, [], hc, rfl, rfl⟩, (hone c).symm⟩

theorem matched_none {found : List StudentProfile} :
    matchedStudents text db { query with filters := [] } schoolId now = .ok found ↔
      found = unfilteredStudents text db query schoolId now := by
  have hnone : select (unfilteredStudents text db query schoolId now) (all []) =
      unfilteredStudents text db query schoolId now :=
    List.filter_eq_self.mpr fun s _ => decide_eq_true (by simp)
  simp only [matchedStudents_ok, mapM_eq_ok_iff, List.forall₂_nil_left_iff, exists_eq_left, hnone]

theorem matched_each {parts : List StudentAdvancedFilter} {lists : List (List StudentProfile)} :
    parts.mapM (fun f => matchedStudents text db { query with filters := [f] } schoolId now) =
        .ok lists ↔
      ∃ cs, parts.mapM (fun f => buildAdvancedFilterWhere text db schoolId f now) = .ok cs ∧
        lists = cs.map (select (unfilteredStudents text db query schoolId now)) := by
  simp only [mapM_eq_ok_iff, matched_one]
  induction parts generalizing lists with
  | nil =>
    simp only [List.forall₂_nil_left_iff]
    exact ⟨fun h => ⟨[], rfl, h⟩, by rintro ⟨_, rfl, h⟩; exact h⟩
  | cons f rest ih =>
    simp only [List.forall₂_cons_left_iff, ih]
    constructor
    · rintro ⟨_, _, ⟨c, hc, rfl⟩, ⟨cs, hcs, rfl⟩, rfl⟩
      exact ⟨c :: cs, ⟨c, cs, hc, hcs, rfl⟩, rfl⟩
    · rintro ⟨_, ⟨c, cs, hc, hcs, rfl⟩, rfl⟩
      exact ⟨_, _, ⟨c, hc, rfl⟩, ⟨cs, hcs, rfl⟩, rfl⟩

/-- Exactly one of the conditions selects each unfiltered student. -/
theorem listedOnce_iff {parts : List StudentAdvancedFilter} :
    ListedOnce text db query schoolId now parts ↔
      ∃ cs, parts.mapM (fun f => buildAdvancedFilterWhere text db schoolId f now) = .ok cs ∧
        ∀ s ∈ unfilteredStudents text db query schoolId now,
          cs.countP (fun c => decide (Selects c s)) = 1 := by
  simp only [ListedOnce, matched_each, matched_none]
  constructor
  · rintro ⟨_, _, ⟨cs, hcs, rfl⟩, rfl, hperm⟩
    exact ⟨cs, hcs, (select_perm_iff unfiltered_nodup).mp hperm⟩
  · rintro ⟨cs, hcs, honce⟩
    exact ⟨_, _, ⟨cs, hcs, rfl⟩, rfl, (select_perm_iff unfiltered_nodup).mpr honce⟩

/-! ### Opposed filters -/

/-- A filter and its opposite. -/
inductive OppositeFilters : StudentAdvancedFilter → StudentAdvancedFilter → Prop
  | textContains (field : UserTextField) (value : String) :
    OppositeFilters (.userText field .contains value) (.userText field .notContains value)
  | textEquals (field : UserTextField) (value : String) :
    OppositeFilters (.userText field .eq value) (.userText field .neq value)
  | phoneContains (value : Option String) :
    OppositeFilters (.phone .contains value) (.phone .notContains value)
  | phoneEmpty : OppositeFilters (.phone .isEmpty none) (.phone .isNotEmpty none)
  | pkkContains (value : Option String) :
    OppositeFilters (.pkkNumber .contains value) (.pkkNumber .notContains value)
  | pkkEquals (value : Option String) :
    OppositeFilters (.pkkNumber .eq value) (.pkkNumber .neq value)
  | pkkEmpty : OppositeFilters (.pkkNumber .isEmpty none) (.pkkNumber .isNotEmpty none)
  | activeOperator (value : Bool) : OppositeFilters (.isActive .eq value) (.isActive .neq value)
  | activeValue (operator : EqualityOperator) :
    OppositeFilters (.isActive operator true) (.isActive operator false)
  | courseEquals (value : Uuid) : OppositeFilters (.courseId (.eq value)) (.courseId (.neq value))
  | courseEmpty : OppositeFilters (.courseId .isNotEmpty) (.courseId .isEmpty)
  | overduePayments : OppositeFilters (.hasOverduePayments true) (.hasOverduePayments false)
  | upcomingLesson : OppositeFilters (.hasUpcomingLesson true) (.hasUpcomingLesson false)

theorem userOf_not_opposite {c : Cond User} (hc : ∀ u, c u ≠ none) {s : StudentProfile}
    (hs : s ∈ unfilteredStudents text db query schoolId now) :
    Opposed (userOf db c) (not (userOf db c)) s := by
  obtain ⟨user, huser, -⟩ := unfiltered_user hs
  exact opposite_not (toOne_known huser (hc user))

theorem active_opposite {p q : Bool → Bool} (hpq : ∀ v, q v = !p v) {s : StudentProfile}
    (hs : s ∈ unfilteredStudents text db query schoolId now) :
    Opposed (userOf db (column User.isActive p)) (userOf db (column User.isActive q)) s := by
  obtain ⟨user, huser, -⟩ := unfiltered_user hs
  refine Opposed.toOne ?_ huser
  rw [Opposed, selects_column, selects_column, hpq, Bool.not_eq_true']
  exact Bool.eq_false_iff

theorem phone_opposite {p : String → Bool} {s : StudentProfile}
    (hs : s ∈ unfilteredStudents text db query schoolId now) :
    Opposed (userOf db (nullable User.phone p))
      (any [userOf db (isNull User.phone), not (userOf db (nullable User.phone p))]) s := by
  obtain ⟨user, huser, -⟩ := unfiltered_user hs
  refine opposite_or_unknown ?_
  simp [userOf, toOne, huser, Selects, isNull, nullable]

theorem pkk_opposite {p : String → Bool} {s : StudentProfile} :
    Opposed (nullable StudentProfile.pkkNumber p)
      (any [isNull StudentProfile.pkkNumber, not (nullable StudentProfile.pkkNumber p)]) s :=
  opposite_or_unknown (by simp [nullable])

/-- Exactly one of two opposite filters selects a student of the unfiltered list. -/
theorem oppositeFilters_spec {f g : StudentAdvancedFilter} (h : OppositeFilters f g) :
    ∃ c d, buildAdvancedFilterWhere text db schoolId f now = .ok c ∧
      buildAdvancedFilterWhere text db schoolId g now = .ok d ∧
      ∀ s ∈ unfilteredStudents text db query schoolId now, Opposed c d s := by
  cases h with
  | textContains field value =>
    exact ⟨_, _, rfl, rfl, fun s hs => userOf_not_opposite (fun u => Option.some_ne_none _) hs⟩
  | textEquals field value =>
    exact ⟨_, _, rfl, rfl, fun s hs => userOf_not_opposite (fun u => Option.some_ne_none _) hs⟩
  | phoneContains value => exact ⟨_, _, rfl, rfl, fun s hs => phone_opposite hs⟩
  | phoneEmpty =>
    refine ⟨_, _, rfl, rfl, fun s hs => ?_⟩
    obtain ⟨user, huser, -⟩ := unfiltered_user hs
    exact Opposed.toOne (opposite_empty User.phone user) huser
  | pkkContains value => exact ⟨_, _, rfl, rfl, fun s _ => pkk_opposite⟩
  | pkkEquals value => exact ⟨_, _, rfl, rfl, fun s _ => pkk_opposite⟩
  | pkkEmpty => exact ⟨_, _, rfl, rfl, fun s _ => opposite_empty StudentProfile.pkkNumber s⟩
  | activeOperator value =>
    refine ⟨_, _, rfl, rfl, fun s hs => active_opposite (fun v => ?_) hs⟩
    cases v <;> cases value <;> rfl
  | activeValue operator =>
    refine ⟨_, _, rfl, rfl, fun s hs => active_opposite (fun v => ?_) hs⟩
    cases v <;> cases operator <;> rfl
  | courseEquals value => exact ⟨_, _, rfl, rfl, fun s _ => opposite_absent _ _ s⟩
  | courseEmpty => exact ⟨_, _, rfl, rfl, fun s _ => opposite_absent _ _ s⟩
  | overduePayments => exact ⟨_, _, rfl, rfl, fun s _ => opposite_absent _ _ s⟩
  | upcomingLesson => exact ⟨_, _, rfl, rfl, fun s _ => opposite_absent _ _ s⟩

theorem listedOnce_opposite {f g : StudentAdvancedFilter} (h : OppositeFilters f g) :
    ListedOnce text db query schoolId now [f, g] := by
  obtain ⟨c, d, hc, hd, hopposite⟩ := @oppositeFilters_spec text db query schoolId now
    f g h
  refine listedOnce_iff.mpr ⟨[c, d], ?_, fun s hs => countP_pair_eq_one_iff.mpr (hopposite s hs)⟩
  rw [List.mapM_cons, hc, List.mapM_cons, hd]
  rfl

/-! ### Ranges of dates -/

/-- The three filters of a range. -/
def rangeFilters (start stop : String) : List StudentAdvancedFilter :=
  [.createdAt (.before start), .createdAt (.between start stop), .createdAt (.after stop)]

def createdBefore (t : Instant) : Cond StudentProfile :=
  column StudentProfile.createdAt fun v => decide (v < t)

def createdFrom (t : Instant) : Cond StudentProfile :=
  column StudentProfile.createdAt fun v => decide (v ≥ t)

def createdBetween (t t' : Instant) : Cond StudentProfile :=
  column StudentProfile.createdAt fun v => decide (v ≥ t) && decide (v < t')

theorem rangeFilters_ok {start stop : String} {cs : List (Cond StudentProfile)} :
    (rangeFilters start stop).mapM
        (fun f => buildAdvancedFilterWhere text db schoolId f now) = .ok cs ↔
      ∃ a b, parseIsoDate start = some a ∧ parseIsoDate stop = some b ∧
        cs = [createdBefore (yyyymmddToDate a),
          createdBetween (yyyymmddToDate a) (yyyymmddToDate b + msPerDay),
          createdFrom (yyyymmddToDate b + msPerDay)] := by
  simp only [rangeFilters, mapM_eq_ok_iff, List.forall₂_cons_left_iff, List.forall₂_nil_left_iff,
    buildAdvancedFilterWhere, buildCreatedAtFilter, queryDate, startOfNextUtcDate, startOfUtcDate,
    except_bind_eq_ok, orThrow_eq_ok, Option.map_eq_some_iff, pure, Except.pure, Except.ok.injEq]
  constructor
  · rintro ⟨_, _, ⟨_, ⟨a, ha, rfl⟩, rfl⟩, ⟨_, _, ⟨_, ⟨a', ha', rfl⟩, _, ⟨_, ⟨b, hb, rfl⟩, rfl⟩, rfl⟩,
      ⟨_, _, ⟨_, ⟨_, ⟨b', hb', rfl⟩, rfl⟩, rfl⟩, rfl, rfl⟩, rfl⟩, rfl⟩
    cases ha.symm.trans ha'
    cases hb.symm.trans hb'
    exact ⟨a, b, ha, hb, rfl⟩
  · rintro ⟨a, b, ha, hb, rfl⟩
    exact ⟨_, _, ⟨_, ⟨a, ha, rfl⟩, rfl⟩, ⟨_, _, ⟨_, ⟨a, ha, rfl⟩, _, ⟨_, ⟨b, hb, rfl⟩, rfl⟩, rfl⟩,
      ⟨_, _, ⟨_, ⟨_, ⟨b, hb, rfl⟩, rfl⟩, rfl⟩, rfl, rfl⟩, rfl⟩, rfl⟩

/-- A student is in exactly one of the three parts unless created after the end of the range and
before its start. -/
theorem countP_range_eq_one_iff {t t' : Instant} {s : StudentProfile} :
    [createdBefore t, createdBetween t t', createdFrom t'].countP
        (fun c => decide (Selects c s)) = 1 ↔ ¬(t' ≤ s.createdAt ∧ s.createdAt < t) := by
  simp only [createdBefore, createdBetween, createdFrom, List.countP_cons, List.countP_nil,
    selects_column, Bool.and_eq_true, decide_eq_true_eq]
  rcases lt_or_ge s.createdAt t with h | h <;> rcases lt_or_ge s.createdAt t' with h' | h'
  · simp [h, h', not_le.mpr h, not_le.mpr h']
  · simp [h, h', not_le.mpr h, not_lt.mpr h']
  · simp [h, h', not_lt.mpr h, not_le.mpr h']
  · simp [h, h', not_lt.mpr h, not_lt.mpr h']

/-- Both texts are read as days, and the first day is not after the one that follows the second. -/
def RangeMeets (start stop : String) : Prop :=
  ∃ a b, parseIsoDate start = some a ∧ parseIsoDate stop = some b ∧ a ≤ b + 1

theorem listedOnce_range_iff {start stop : String} :
    ListedOnce text db query schoolId now (rangeFilters start stop) ↔
      ∃ a b, parseIsoDate start = some a ∧ parseIsoDate stop = some b ∧
        ∀ s ∈ unfilteredStudents text db query schoolId now,
          ¬(yyyymmddToDate b + msPerDay ≤ s.createdAt ∧ s.createdAt < yyyymmddToDate a) := by
  simp only [listedOnce_iff, rangeFilters_ok]
  constructor
  · rintro ⟨_, ⟨a, b, ha, hb, rfl⟩, honce⟩
    exact ⟨a, b, ha, hb, fun s hs => countP_range_eq_one_iff.mp (honce s hs)⟩
  · rintro ⟨a, b, ha, hb, hnone⟩
    exact ⟨_, ⟨a, b, ha, hb, rfl⟩, fun s hs => countP_range_eq_one_iff.mpr (hnone s hs)⟩

theorem listedOnce_range {start stop : String} (h : RangeMeets start stop) :
    ListedOnce text db query schoolId now (rangeFilters start stop) := by
  obtain ⟨a, b, ha, hb, hmeets⟩ := h
  refine listedOnce_range_iff.mpr ⟨a, b, ha, hb, fun s _ ⟨hfrom, hto⟩ => ?_⟩
  dsimp only [yyyymmddToDate, Instant, Day, msPerDay] at *
  omega

end

/-- Dates of the calendar in their order, as texts, are such a range. -/
theorem rangeMeets_of_dates {start stop : String} {a b : Day} (ha : IsDate start a)
    (hb : IsDate stop b) (hle : start ≤ stop) : RangeMeets start stop :=
  ⟨a, b, ha.1, hb.1, ((ha.le_iff hb).mp hle).trans (Int.le_add_one le_rfl)⟩

/-! ### The filters of a list -/

/-- In every list, opposite filters and the filters of the range list each student of the
unfiltered list once in total, and filters that are added narrow the list to what both give. -/
def FiltersPartition (start stop : String) : Prop :=
  ∀ (text : TextRules) (db : Db) (query : ListStudentsQuery) (schoolId : Uuid) (now : Instant),
    (∀ f g, OppositeFilters f g → ListedOnce text db query schoolId now [f, g]) ∧
      ListedOnce text db query schoolId now (rangeFilters start stop) ∧
      ∀ fs gs s, ListedWith text db query schoolId now (fs ++ gs) s ↔
        ListedWith text db query schoolId now fs s ∧ ListedWith text db query schoolId now gs s

theorem filtersPartition_of_meets {start stop : String} (h : RangeMeets start stop) :
    FiltersPartition start stop := by
  refine fun text db query schoolId now => ⟨fun f g => listedOnce_opposite, listedOnce_range h,
    fun fs gs s => ?_⟩
  simp only [listedWith_iff, List.forall_mem_append]
  tauto

/-- Texts compared as they are. -/
def plainText : TextRules where
  contains v value := v.toList.tails.any fun rest => value.toList.isPrefixOf rest
  equals v value := decide (v = value)
  le a b := decide (a ≤ b)

def studentSince (t : Instant) : StudentProfile := { id := 2, userId := 1, createdAt := t }

/-- A school with one student, whose profile was created at the instant. -/
def oneStudent (t : Instant) : Db where
  users := .singleton { id := 1, role := .student }
  studentProfiles := .singleton (studentSince t)
  drivingSchools := .singleton { id := 3, ownerId := 4 }
  studentSchools := .singleton { studentId := 2, schoolId := 3 }

theorem oneStudent_unfiltered (text : TextRules) (t now : Instant) :
    studentSince t ∈ unfilteredStudents text (oneStudent t) {} 3 now := by
  refine mem_select.mpr ⟨List.mem_singleton_self _, ?_⟩
  rfl

theorem rangeMeets_of_partition {start stop : String} (h : FiltersPartition start stop) :
    RangeMeets start stop := by
  obtain ⟨a, b, ha, hb, -⟩ := listedOnce_range_iff.mp (h plainText {} {} 3 0).2.1
  refine ⟨a, b, ha, hb, ?_⟩
  -- a student created right after the range has ended
  let t := yyyymmddToDate b + msPerDay
  obtain ⟨a', b', ha', hb', hnone⟩ := listedOnce_range_iff.mp (h plainText (oneStudent t) {} 3 0).2.1
  cases ha.symm.trans ha'
  cases hb.symm.trans hb'
  have hbefore := hnone _ (oneStudent_unfiltered plainText t 0)
  rw [show (studentSince t).createdAt = t from rfl] at hbefore
  dsimp only [t, yyyymmddToDate, Instant, Day, msPerDay] at *
  omega

/-- The filters partition every list exactly for the ranges whose dates are read as days in order. -/
theorem filtersPartition_iff (start stop : String) :
    FiltersPartition start stop ↔ RangeMeets start stop :=
  ⟨rangeMeets_of_partition, filtersPartition_of_meets⟩

/-- Noon of the second of March 2026. -/
def marchNoon : Instant := 20514 * msPerDay + 12 * 60 * msPerMinute

/-- The request schema accepts a range from a day that February does not have to the first of March:
a student created on the second of March is listed before the range and after it. -/
theorem filters_overlap_inMarch :
    dateRangeAccepted "2026-02-31" "2026-03-01" = true ∧
      ListedWith plainText (oneStudent marchNoon) {} 3 marchNoon
        [.createdAt (.before "2026-02-31")] (studentSince marchNoon) ∧
      ListedWith plainText (oneStudent marchNoon) {} 3 marchNoon
        [.createdAt (.after "2026-03-01")] (studentSince marchNoon) ∧
      ¬ListedOnce plainText (oneStudent marchNoon) {} 3 marchNoon
        (rangeFilters "2026-02-31" "2026-03-01") := by
  have hlisted := oneStudent_unfiltered plainText marchNoon marchNoon
  refine ⟨by decide, listedWith_iff.mpr ⟨hlisted, ?_⟩, listedWith_iff.mpr ⟨hlisted, ?_⟩, ?_⟩
  · rw [List.forall_mem_singleton]
    exact ⟨_, rfl, by decide⟩
  · rw [List.forall_mem_singleton]
    exact ⟨_, rfl, by decide⟩
  · intro honce
    obtain ⟨a, b, ha, hb, hnone⟩ := listedOnce_range_iff.mp honce
    have hstart : parseIsoDate "2026-02-31" = some 20515 := by decide
    have hstop : parseIsoDate "2026-03-01" = some 20513 := by decide
    cases hstart.symm.trans ha
    cases hstop.symm.trans hb
    exact hnone _ hlisted (by decide)

end OSK
