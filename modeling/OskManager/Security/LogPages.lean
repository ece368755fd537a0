import Mathlib.Data.List.Chain
import OskManager.Lib.Keyset
import OskManager.Model.SecurityLogList
import OskManager.Sample.FiveFailures

/-! The pages of the security log. A manager who follows the cursors forward sees every row that
stays just once, whatever is recorded meanwhile; where nothing is recorded, the cursors back lead
through the same pages. -/

namespace OSK

open Relational Keyset

/-! ### One page -/

section Page

variable {node : NodeRuntime} {rules : TextRules} {crypto : CursorCrypto} {actorId : Uuid}
  {input : ListInput} {env env' : ListEnv} {db : Db} {log : SecurityLog}
  {filters : List RowCondition}

theorem schoolRows_distinct (schoolId : Uuid) :
    Distinct SecurityLogRow.position (log.schoolRows schoolId) := by
  have hids : log.events.rows.Pairwise fun a b => a.id ≠ b.id :=
    List.pairwise_map.mp log.events.nodup
  refine List.Pairwise.filterMap _ ?_ hids
  intro a b hab r hr q hq heq
  obtain ⟨_, _, rfl⟩ := Option.map_eq_some_iff.mp hr
  obtain ⟨_, _, rfl⟩ := Option.map_eq_some_iff.mp hq
  exact hab (congrArg (fun p : Position => (ofLex p).2) heq)

theorem matched_distinct :
    Distinct SecurityLogRow.position (log.matched rules actorId input filters) :=
  (schoolRows_distinct _).filter _

def cutAt (crypto : CursorCrypto) (env : ListEnv) (actorId : Uuid) (input : ListInput)
    (direction : CursorDirection) (row : SecurityLogRow) : CursorText :=
  encodeCursor crypto
    { actorId, schoolId := input.schoolId, fingerprint := fingerprint crypto input, direction
      occurredAt := row.school.occurredAt, eventId := row.event.id
      expiresAt := env.now + 15 * 60000 }

def pageBelow (crypto : CursorCrypto) (env : ListEnv) (actorId : Uuid) (input : ListInput)
    (c : Option Position) (rows : List SecurityLogRow) : SecurityLogPage :=
  let page := (rowsBelow SecurityLogRow.position c rows).take input.limit
  let hasMore := decide (input.limit < (rowsBelow SecurityLogRow.position c rows).length)
  { items := page.map rowDto
    pageInfo :=
      { nextCursor :=
          if hasMore then page.getLast?.map (cutAt crypto env actorId input .older) else none
        previousCursor :=
          if c.isSome then page.head?.map (cutAt crypto env actorId input .newer) else none
        hasNextPage := hasMore
        hasPreviousPage := c.isSome }
    collectionStatus := env.collectionStatus }

def pageAbove (crypto : CursorCrypto) (env : ListEnv) (actorId : Uuid) (input : ListInput)
    (k : Position) (rows : List SecurityLogRow) : SecurityLogPage :=
  let page := ((rowsAbove SecurityLogRow.position k rows).take input.limit).reverse
  let hasMore := decide (input.limit < (rowsAbove SecurityLogRow.position k rows).length)
  { items := page.map rowDto
    pageInfo :=
      { nextCursor := page.getLast?.map (cutAt crypto env actorId input .older)
        previousCursor :=
          if hasMore then page.head?.map (cutAt crypto env actorId input .newer) else none
        hasNextPage := true
        hasPreviousPage := hasMore }
    collectionStatus := env.collectionStatus }

theorem decode_cutAt {direction : CursorDirection} {row : SecurityLogRow}
    (hnow : env'.now ≤ env.now + 15 * 60000) (cursor : Option CursorText) :
    decodeCursor crypto env'.now (cutAt crypto env actorId input direction row) actorId
      { input with cursor } = .ok
        { actorId, schoolId := input.schoolId, fingerprint := fingerprint crypto input, direction
          occurredAt := row.school.occurredAt, eventId := row.event.id
          expiresAt := env.now + 15 * 60000 } := by
  unfold decodeCursor cutAt encodeCursor
  simp only [ne_eq, not_true_eq_false, throwIf, if_false, false_or, fingerprint,
    if_neg (not_lt.mpr hnow)]
  rfl

theorem isBeyond_older (c : CursorPayload) (hdir : c.direction = .older) (r : SecurityLogRow) :
    r.isBeyond (some c) =
      (some (toLex (c.occurredAt, c.eventId) : Position)).all fun k => decide (r.position < k) := by
  have hlt : r.position < (toLex (c.occurredAt, c.eventId) : Position) ↔
      r.school.occurredAt < c.occurredAt ∨
        r.school.occurredAt = c.occurredAt ∧ r.event.id < c.eventId :=
    Prod.Lex.toLex_lt_toLex
  simp only [SecurityLogRow.isBeyond, Option.all_some, hdir, hlt]

theorem isBeyond_newer (c : CursorPayload) (hdir : c.direction = .newer) (r : SecurityLogRow) :
    r.isBeyond (some c) = decide ((toLex (c.occurredAt, c.eventId) : Position) < r.position) := by
  have hlt : (toLex (c.occurredAt, c.eventId) : Position) < r.position ↔
      c.occurredAt < r.school.occurredAt ∨
        c.occurredAt = r.school.occurredAt ∧ c.eventId < r.event.id :=
    Prod.Lex.toLex_lt_toLex
  simp only [SecurityLogRow.isBeyond, Option.all_some, hdir, hlt, eq_comm]

theorem overflow_iff (limit : ℕ) (l : List SecurityLogRow) :
    limit < (l.take (limit + 1)).length ↔ limit < l.length := by
  rw [List.length_take]
  omega

theorem take_overflow (limit : ℕ) (l : List SecurityLogRow) :
    (l.take (limit + 1)).take limit = l.take limit := by
  rw [List.take_take, Nat.min_eq_left (Nat.le_succ limit)]

/-- Without a cursor, or with one to older rows, a page is cut off from the rows below. -/
theorem securityLogPage_below {cursor : Option CursorPayload} (rows : List SecurityLogRow)
    (hdir : ∀ c ∈ cursor, c.direction = .older) :
    securityLogPage crypto env actorId input cursor rows =
      pageBelow crypto env actorId input (cursor.map fun c => toLex (c.occurredAt, c.eventId))
        rows := by
  have hnewer : ¬cursor.map CursorPayload.direction = some .newer := by
    rcases cursor with _ | c
    · simp
    · simp [hdir c rfl]
  have hfound : rows.filter (SecurityLogRow.isBeyond cursor) = rows.filter fun r =>
      (cursor.map fun c => (toLex (c.occurredAt, c.eventId) : Position)).all fun k =>
        decide (r.position < k) := by
    apply List.filter_congr
    intro r _
    rcases cursor with _ | c
    · rfl
    · exact isBeyond_older c (hdir c rfl) r
  simp only [securityLogPage, hnewer, decide_false, Bool.false_eq_true, if_false, hfound,
    overflow_iff, take_overflow, Option.isSome_map, pageBelow, rowsBelow, sortDown]
  rfl

/-- With a cursor to newer rows, it is cut off from the rows above. -/
theorem securityLogPage_above {c : CursorPayload} (rows : List SecurityLogRow)
    (hdir : c.direction = .newer) :
    securityLogPage crypto env actorId input (some c) rows =
      pageAbove crypto env actorId input (toLex (c.occurredAt, c.eventId)) rows := by
  have hfound : rows.filter (SecurityLogRow.isBeyond (some c)) = rows.filter fun r =>
      decide ((toLex (c.occurredAt, c.eventId) : Position) < r.position) := by
    apply List.filter_congr
    intro r _
    exact isBeyond_newer c hdir r
  simp only [securityLogPage, Option.map_some, hdir, decide_true, if_true, hfound, overflow_iff,
    take_overflow, Option.isSome_some, pageAbove, rowsAbove, sortUp]
  rfl

end Page

/-! ### Requests -/

/-- What a request meets. -/
structure LogView where
  env : ListEnv
  db : Db
  log : SecurityLog

/-- The school is the manager's, and the dates of the filters are read in the zone. -/
structure LogView.Serves (v : LogView) (zone : PolishZone) (actorId schoolId : Uuid) : Prop where
  school : assertSchool v.db actorId schoolId = .ok ()
  zone : v.env.zone = zone

def InTime (first second : ListEnv) : Prop := second.now ≤ first.now + 15 * 60000

section Requests

variable (node : NodeRuntime) (rules : TextRules) (crypto : CursorCrypto) (actorId : Uuid)
  (input : ListInput)

/-- Follows `nextCursor` from a page to the next until it is null, one request a view. -/
def followNext : Option CursorText → List LogView → Except Failure (List SecurityLogPage)
  | _, [] => return []
  | cursor, v :: rest => do
    let page ← listManagerSecurityLogs node rules crypto v.env v.db v.log actorId
      { input with cursor }
    match page.pageInfo.nextCursor with
    | none => return [page]
    | some next => return page :: (← followNext (some next) rest)

/-- Follows `previousCursor` from a page to the one before until it is null. -/
def followPrevious : Option CursorText → List LogView → Except Failure (List SecurityLogPage)
  | some cursor, v :: rest => do
    let page ← listManagerSecurityLogs node rules crypto v.env v.db v.log actorId
      { input with cursor := some cursor }
    return page :: (← followPrevious page.pageInfo.previousCursor rest)
  | _, _ => return []

variable {node rules crypto actorId input} {zone : PolishZone} {filters : List RowCondition}
  {v : LogView} {env : ListEnv} {row : SecurityLogRow}

/-- A page without a cursor is the last one. -/
theorem followNext_last {text : Option CursorText} {rest : List LogView} {p : SecurityLogPage}
    (hlist : listManagerSecurityLogs node rules crypto v.env v.db v.log actorId
      { input with cursor := text } = .ok p) (hend : p.pageInfo.nextCursor = none) :
    followNext node rules crypto actorId input text (v :: rest) = .ok [p] := by
  rw [followNext, hlist]
  simp only [bind, Except.bind, hend]
  rfl

/-- A cursor leads on to the pages that are read from it. -/
theorem followNext_more {text : Option CursorText} {next : CursorText} {rest : List LogView}
    {p : SecurityLogPage} {pages : List SecurityLogPage}
    (hlist : listManagerSecurityLogs node rules crypto v.env v.db v.log actorId
      { input with cursor := text } = .ok p) (hnext : p.pageInfo.nextCursor = some next)
    (hrest : followNext node rules crypto actorId input (some next) rest = .ok pages) :
    followNext node rules crypto actorId input text (v :: rest) = .ok (p :: pages) := by
  rw [followNext, hlist]
  simp only [bind, Except.bind, hnext, hrest]
  rfl

theorem list_first (hserves : v.Serves zone actorId input.schoolId)
    (hfilters : filterConditions node zone input.filters = .ok filters) :
    listManagerSecurityLogs node rules crypto v.env v.db v.log actorId
        { input with cursor := none } =
      .ok (pageBelow crypto v.env actorId input none
        (v.log.matched rules actorId input filters)) := by
  unfold listManagerSecurityLogs
  rw [hserves.school, hserves.zone, hfilters]
  exact congrArg Except.ok (securityLogPage_below _ fun _ hc => nomatch hc)

theorem listCursor_cutAt (direction : CursorDirection) (hnow : InTime env v.env) :
    listCursor crypto v.env.now actorId
        { input with cursor := some (cutAt crypto env actorId input direction row) } =
      .ok (some
        { actorId, schoolId := input.schoolId, fingerprint := fingerprint crypto input, direction
          occurredAt := row.school.occurredAt, eventId := row.event.id
          expiresAt := env.now + 15 * 60000 }) := by
  exact congrArg (Except.map some) (decode_cutAt hnow _)

theorem list_older (hserves : v.Serves zone actorId input.schoolId)
    (hfilters : filterConditions node zone input.filters = .ok filters) (hnow : InTime env v.env) :
    listManagerSecurityLogs node rules crypto v.env v.db v.log actorId
        { input with cursor := some (cutAt crypto env actorId input .older row) } =
      .ok (pageBelow crypto v.env actorId input (some row.position)
        (v.log.matched rules actorId input filters)) := by
  unfold listManagerSecurityLogs
  rw [hserves.school, listCursor_cutAt .older hnow, hserves.zone, hfilters]
  exact congrArg Except.ok (securityLogPage_below _ fun _ hc => by cases hc; rfl)

theorem list_newer (hserves : v.Serves zone actorId input.schoolId)
    (hfilters : filterConditions node zone input.filters = .ok filters) (hnow : InTime env v.env) :
    listManagerSecurityLogs node rules crypto v.env v.db v.log actorId
        { input with cursor := some (cutAt crypto env actorId input .newer row) } =
      .ok (pageAbove crypto v.env actorId input row.position
        (v.log.matched rules actorId input filters)) := by
  unfold listManagerSecurityLogs
  rw [hserves.school, listCursor_cutAt .newer hnow, hserves.zone, hfilters]
  exact congrArg Except.ok (securityLogPage_above _ rfl)

end Requests

/-! ### Forward -/

section Forward

variable {node : NodeRuntime} {rules : TextRules} {crypto : CursorCrypto} {actorId : Uuid}
  {input : ListInput} {zone : PolishZone} {filters : List RowCondition} {views : List LogView}
  {v : LogView}

def SecurityLogItem.position (i : SecurityLogItem) : Position := toLex (i.occurredAt, i.id)

/-- The last page has no cursor to another one. -/
def Finished (pages : List SecurityLogPage) : Prop :=
  ∃ p, pages.getLast? = some p ∧ p.pageInfo.nextCursor = none

/-- The text of a request forward: none at first, then the cursor at the last row of a page. -/
def LeadsBelow (crypto : CursorCrypto) (actorId : Uuid) (input : ListInput) (views : List LogView) :
    Option CursorText → Option Position → Prop
  | none, c => c = none
  | some text, c => ∃ env row, text = cutAt crypto env actorId input .older row ∧
      c = some row.position ∧ ∀ v ∈ views.head?, InTime env v.env

theorem list_leadsBelow {text : Option CursorText} {c : Option Position} {rest : List LogView}
    (hfilters : filterConditions node zone input.filters = .ok filters)
    (hserves : v.Serves zone actorId input.schoolId)
    (hleads : LeadsBelow crypto actorId input (v :: rest) text c) :
    listManagerSecurityLogs node rules crypto v.env v.db v.log actorId
        { input with cursor := text } =
      .ok (pageBelow crypto v.env actorId input c (v.log.matched rules actorId input filters)) := by
  cases text with
  | none =>
    have hleads : c = none := hleads
    rw [hleads]
    exact list_first hserves hfilters
  | some text =>
    obtain ⟨env, row, rfl, rfl, hnow⟩ := hleads
    exact list_older hserves hfilters (hnow v rfl)

/-- The requests answer, and their pages are those of the rows as they were. -/
theorem followNext_follows (hlimit : 1 ≤ input.limit)
    (hfilters : filterConditions node zone input.filters = .ok filters)
    (hserves : ∀ v ∈ views, v.Serves zone actorId input.schoolId)
    (hunexpired : views.IsChain fun a b => InTime a.env b.env) {text : Option CursorText}
    {c : Option Position} (hleads : LeadsBelow crypto actorId input views text c) :
    ∃ pages, followNext node rules crypto actorId input text views = .ok pages ∧
      (Finished pages → ∃ rows : List (List SecurityLogRow),
        Follows SecurityLogRow.position input.limit c
          ((views.take pages.length).map fun v => v.log.matched rules actorId input filters) rows ∧
        pages.map SecurityLogPage.items = rows.map fun l => l.map rowDto) := by
  induction views generalizing text c with
  | nil =>
    refine ⟨[], by rw [followNext]; rfl, fun hfinished => ?_⟩
    obtain ⟨p, hp, _⟩ := hfinished
    cases hp
  | cons v rest ih =>
    obtain ⟨hnow, hunexpired⟩ := List.isChain_cons.mp hunexpired
    have hlist := @list_leadsBelow node rules crypto _ _ _ _ _ _ _ _ hfilters
      (hserves v List.mem_cons_self) hleads
    set matched := v.log.matched rules actorId input filters with hmatched
    by_cases hmore : input.limit < (rowsBelow SecurityLogRow.position c matched).length
    · -- A full page: the next request starts at its last row.
      have hne : (rowsBelow SecurityLogRow.position c matched).take input.limit ≠ [] := by
        rw [← List.length_pos_iff_ne_nil, List.length_take]
        omega
      set page := (rowsBelow SecurityLogRow.position c matched).take input.limit with hpage
      have hlast : page.getLast? = some (page.getLast hne) := List.getLast?_eq_some_getLast hne
      have hnext : (pageBelow crypto v.env actorId input c matched).pageInfo.nextCursor =
          some (cutAt crypto v.env actorId input .older (page.getLast hne)) := by
        simp only [pageBelow, hmore, decide_true, if_true, ← hpage, hlast, Option.map_some]
      have hrest : LeadsBelow crypto actorId input rest
          (some (cutAt crypto v.env actorId input .older (page.getLast hne)))
          (some (page.getLast hne).position) := ⟨v.env, page.getLast hne, rfl, rfl, hnow⟩
      obtain ⟨pages, hpages, hfollows⟩ := ih
        (fun w hw => hserves w (List.mem_cons_of_mem _ hw)) hunexpired hrest
      refine ⟨pageBelow crypto v.env actorId input c matched :: pages,
        followNext_more hlist hnext hpages, fun hfinished => ?_⟩
      obtain ⟨p, hp, hend⟩ := hfinished
      cases pages with
      | nil =>
        rw [List.getLast?_singleton, Option.some_inj] at hp
        rw [← hp, hnext] at hend
        cases hend
      | cons q pages =>
        obtain ⟨rows, hrows, hitems⟩ := hfollows ⟨p, by simpa using hp, hend⟩
        refine ⟨page :: rows, ?_, ?_⟩
        · simp only [List.length_cons, List.take_succ_cons, List.map_cons]
          exact .more hmore hlast (by simpa using hrows)
        · rw [List.map_cons, hitems]
          rfl
    · have hend : (pageBelow crypto v.env actorId input c matched).pageInfo.nextCursor = none := by
        simp only [pageBelow, hmore, decide_false, Bool.false_eq_true, if_false]
      refine ⟨[pageBelow crypto v.env actorId input c matched], followNext_last hlist hend,
        fun _ => ⟨[rowsBelow SecurityLogRow.position c matched], .last (not_lt.mp hmore), ?_⟩⟩
      simp only [List.map_cons, List.map_nil, pageBelow, List.take_of_length_le (not_lt.mp hmore)]

/-- The rows of one school are of different events. -/
theorem matched_event_inj {log : SecurityLog} {r q : SecurityLogRow}
    (hr : r ∈ log.matched rules actorId input filters)
    (hq : q ∈ log.matched rules actorId input filters)
    (h : r.event.id = q.event.id) : r = q := by
  obtain ⟨e, he, hr⟩ := List.mem_filterMap.mp (List.mem_of_mem_filter hr)
  obtain ⟨e', he', hq⟩ := List.mem_filterMap.mp (List.mem_of_mem_filter hq)
  obtain ⟨s, hs, rfl⟩ := Option.map_eq_some_iff.mp hr
  obtain ⟨s', hs', rfl⟩ := Option.map_eq_some_iff.mp hq
  obtain rfl := log.events.key_inj he he' h
  rw [hs, Option.some_inj] at hs'
  rw [hs']

/-- What was shown is strictly descending, and what stays was shown just once. -/
theorem follows_exact {snapshots : List SecurityLog} {rows : List (List SecurityLogRow)}
    (h : Follows SecurityLogRow.position input.limit none
      (snapshots.map fun log => log.matched rules actorId input filters) rows) :
    (rows.flatten.map rowDto).Pairwise (fun a b => b.position < a.position) ∧
      ∀ r, (∀ log ∈ snapshots, r ∈ log.matched rules actorId input filters) →
        (rows.flatten.map rowDto).filter (fun i => decide (i.id = r.event.id)) = [rowDto r] := by
  have hdistinct : ∀ rows ∈ snapshots.map fun log => log.matched rules actorId input filters,
      Distinct SecurityLogRow.position rows := by
    intro rows hrows
    obtain ⟨log, _, rfl⟩ := List.mem_map.mp hrows
    exact matched_distinct
  have hdesc := h.descending hdistinct
  refine ⟨List.pairwise_map.mpr hdesc, fun r hr => ?_⟩
  have hmem : r ∈ rows.flatten := by
    refine h.complete hdistinct ?_ fun k hk => nomatch hk
    intro rows hrows
    obtain ⟨log, hlog, rfl⟩ := List.mem_map.mp hrows
    exact hr log hlog
  -- A row shown of the same event is the row: it was shown of a snapshot that has both.
  have hsame : ∀ q ∈ rows.flatten, q.event.id = r.event.id → q = r := by
    intro q hq hid
    obtain ⟨⟨l, hl, hql⟩, _⟩ := h.shown hq
    obtain ⟨log, hlog, rfl⟩ := List.mem_map.mp hl
    exact matched_event_inj hql (hr log hlog) hid
  obtain ⟨A, B, hsplit⟩ := List.append_of_mem hmem
  rw [hsplit] at hdesc hsame
  obtain ⟨_, hrB, hAr⟩ := List.pairwise_append.mp hdesc
  have hA : (A.filter fun q => decide (q.event.id = r.event.id)) = [] := by
    rw [List.filter_eq_nil_iff]
    intro q hq hid
    have hlt := hAr q hq r List.mem_cons_self
    rw [hsame q (List.mem_append_left _ hq) (of_decide_eq_true hid)] at hlt
    exact lt_irrefl _ hlt
  have hB : (B.filter fun q => decide (q.event.id = r.event.id)) = [] := by
    rw [List.filter_eq_nil_iff]
    intro q hq hid
    have hlt := (List.pairwise_cons.mp hrB).1 q hq
    rw [hsame q (List.mem_append_right _ (List.mem_cons_of_mem _ hq)) (of_decide_eq_true hid)] at hlt
    exact lt_irrefl _ hlt
  have hfilter : (rows.flatten.filter fun q => decide (q.event.id = r.event.id)) = [r] := by
    rw [hsplit, List.filter_append, List.filter_cons_of_pos (by simp), hA, hB, List.nil_append]
  rw [List.filter_map]
  exact congrArg (List.map rowDto) hfilter

end Forward

/-! ### Back -/

section Back

variable {node : NodeRuntime} {rules : TextRules} {crypto : CursorCrypto} {actorId : Uuid}
  {input : ListInput} {zone : PolishZone} {filters : List RowCondition} {views : List LogView}
  {log : SecurityLog} {L : List SecurityLogRow} {env : ListEnv} {k : ℕ}

/-- The `k`-th page of the list, with the cursors to the pages around it. -/
structure Shows (crypto : CursorCrypto) (actorId : Uuid) (input : ListInput)
    (L : List SecurityLogRow) (k : ℕ) (env : ListEnv) (p : SecurityLogPage) : Prop where
  items : p.items = (page input.limit L k).map rowDto
  next : p.pageInfo.nextCursor = if (k + 1) * input.limit < L.length then
    (page input.limit L k).getLast?.map (cutAt crypto env actorId input .older) else none
  previous : p.pageInfo.previousCursor = if k = 0 then none else
    (page input.limit L k).head?.map (cutAt crypto env actorId input .newer)
  inside : 0 < k → k * input.limit < L.length

/-- The page at which a text leads forward. -/
def LeadsTo (crypto : CursorCrypto) (actorId : Uuid) (input : ListInput)
    (L : List SecurityLogRow) (views : List LogView) : Option CursorText → ℕ → Prop
  | none, k => k = 0
  | some text, k => ∃ j env row, k = j + 1 ∧ text = cutAt crypto env actorId input .older row ∧
      (page input.limit L j).getLast? = some row ∧ k * input.limit < L.length ∧
      ∀ v ∈ views.head?, InTime env v.env

theorem rowsBelow_shows {c : Option Position} {rows : List SecurityLogRow}
    (hbelow : rowsBelow SecurityLogRow.position c rows = L.drop (k * input.limit))
    (hc : c = none ↔ k = 0) (hinside : 0 < k → k * input.limit < L.length) :
    Shows crypto actorId input L k env (pageBelow crypto env actorId input c rows) where
  items := by
    simp only [pageBelow, hbelow, page]
  next := by
    have hmore : input.limit < (L.drop (k * input.limit)).length ↔
        (k + 1) * input.limit < L.length := by
      rw [List.length_drop, Nat.add_mul]
      omega
    simp only [pageBelow, hbelow, page, hmore, decide_eq_true_eq]
  previous := by
    have hsome : c.isSome = true ↔ ¬k = 0 := by rw [← hc, ← ne_eq, Option.ne_none_iff_isSome]
    simp only [pageBelow, hbelow, page, hsome, ite_not]
  inside := hinside

/-- The first page, or the one after a page that is shown. -/
theorem list_leadsTo (hL : Descending SecurityLogRow.position L)
    (hperm : L.Perm (log.matched rules actorId input filters))
    (hfilters : filterConditions node zone input.filters = .ok filters) {v : LogView}
    (hserves : v.Serves zone actorId input.schoolId) (hlog : v.log = log) {text : Option CursorText}
    {rest : List LogView} (hleads : LeadsTo crypto actorId input L (v :: rest) text k) :
    ∃ p, listManagerSecurityLogs node rules crypto v.env v.db v.log actorId
        { input with cursor := text } =
      .ok p ∧ Shows crypto actorId input L k v.env p := by
  cases text with
  | none =>
    have hleads : k = 0 := hleads
    subst hleads
    refine ⟨_, list_first hserves hfilters, rowsBelow_shows ?_ (by simp) (by simp)⟩
    rw [hlog, rowsBelow_none hL hperm, Nat.zero_mul, List.drop_zero]
  | some text =>
    obtain ⟨j, env, row, rfl, rfl, hrow, hinside, hnow⟩ := hleads
    refine ⟨_, list_older hserves hfilters (hnow v rfl),
      rowsBelow_shows ?_ (by simp) fun _ => hinside⟩
    rw [hlog, rowsBelow_page hL hperm hrow]

/-- The page before one that is shown. -/
theorem list_previous (hlimit : 1 ≤ input.limit) (hL : Descending SecurityLogRow.position L)
    (hperm : L.Perm (log.matched rules actorId input filters))
    (hfilters : filterConditions node zone input.filters = .ok filters) {v : LogView}
    (hserves : v.Serves zone actorId input.schoolId) (hlog : v.log = log)
    (hinside : (k + 1) * input.limit < L.length) {row : SecurityLogRow}
    (hrow : (page input.limit L (k + 1)).head? = some row) (hnow : InTime env v.env) :
    ∃ p, listManagerSecurityLogs node rules crypto v.env v.db v.log actorId
        { input with cursor := some (cutAt crypto env actorId input .newer row) } = .ok p ∧
      Shows crypto actorId input L k v.env p := by
  refine ⟨_, list_newer hserves hfilters hnow, ?_⟩
  have habove := rowsAbove_page hL hperm hrow
  have hpage := take_rowsAbove hinside.le
  have hmore : input.limit < (L.take ((k + 1) * input.limit)).reverse.length ↔ ¬k = 0 := by
    rw [List.length_reverse, List.length_take, Nat.min_eq_left hinside.le, Nat.add_mul, Nat.one_mul]
    rcases k with _ | k
    · simp
    · rw [Nat.add_mul]
      omega
  rw [hlog]
  refine ⟨?_, ?_, ?_, fun _ => ?_⟩
  · simp only [pageAbove, habove, hpage]
  · simp only [pageAbove, habove, hpage, hinside, if_true]
  · simp only [pageAbove, habove, hpage, hmore, decide_eq_true_eq, ite_not]
  · exact lt_of_le_of_lt (Nat.mul_le_mul_right _ (Nat.le_succ k)) hinside

/-- The requests answer, and show the pages of a list that stays from the one they lead to on;
enough of them show them all. -/
theorem followNext_shows (hlimit : 1 ≤ input.limit) (hL : Descending SecurityLogRow.position L)
    (hperm : L.Perm (log.matched rules actorId input filters))
    (hfilters : filterConditions node zone input.filters = .ok filters)
    (hserves : ∀ v ∈ views, v.Serves zone actorId input.schoolId) (hlog : ∀ v ∈ views, v.log = log)
    (hunexpired : views.IsChain fun a b => InTime a.env b.env) {text : Option CursorText}
    (hleads : LeadsTo crypto actorId input L views text k) :
    ∃ pages, followNext node rules crypto actorId input text views = .ok pages ∧
      (L.length < (k + views.length) * input.limit → Finished pages) ∧
      ∀ (j : ℕ) p v, pages[j]? = some p → views[j]? = some v →
        Shows crypto actorId input L (k + j) v.env p := by
  induction views generalizing text k with
  | nil =>
    refine ⟨[], by rw [followNext]; rfl, fun hend => ?_, fun j p v hp => nomatch hp⟩
    exfalso
    rw [List.length_nil, Nat.add_zero] at hend
    cases text with
    | none =>
      have hleads : k = 0 := hleads
      rw [hleads, Nat.zero_mul] at hend
      exact absurd hend (Nat.not_lt_zero _)
    | some text =>
      obtain ⟨_, _, _, _, _, _, hinside, _⟩ := hleads
      exact absurd hend (lt_asymm hinside)
  | cons v rest ih =>
    obtain ⟨hnow, hunexpired⟩ := List.isChain_cons.mp hunexpired
    obtain ⟨p, hlist, hshows⟩ := list_leadsTo hL hperm hfilters (hserves v List.mem_cons_self)
      (hlog v List.mem_cons_self) hleads
    have hnext := hshows.next
    by_cases hmore : (k + 1) * input.limit < L.length
    · have hne : page input.limit L k ≠ [] :=
        page_ne_nil hlimit (lt_of_le_of_lt (Nat.mul_le_mul_right _ (Nat.le_succ k)) hmore)
      have hlast := List.getLast?_eq_some_getLast hne
      set row := (page input.limit L k).getLast hne with hrow
      rw [if_pos hmore, hlast, Option.map_some] at hnext
      have hcut : LeadsTo crypto actorId input L rest
          (some (cutAt crypto v.env actorId input .older row)) (k + 1) :=
        ⟨k, v.env, row, rfl, rfl, hlast, hmore, hnow⟩
      obtain ⟨pages, hpages, hend, hrest⟩ := ih
        (fun w hw => hserves w (List.mem_cons_of_mem _ hw))
        (fun w hw => hlog w (List.mem_cons_of_mem _ hw)) hunexpired hcut
      refine ⟨p :: pages, followNext_more hlist hnext hpages, fun hlen => ?_,
        fun j q w hq hw => ?_⟩
      · rw [List.length_cons, Nat.add_comm rest.length, ← Nat.add_assoc] at hlen
        obtain ⟨q, hq, hnone⟩ := hend hlen
        exact ⟨q, by rw [List.getLast?_cons, hq]; rfl, hnone⟩
      · cases j with
        | zero =>
          cases hq
          cases hw
          exact hshows
        | succ j =>
          have := hrest j q w hq hw
          rwa [Nat.add_assoc, Nat.add_comm 1 j] at this
    · rw [if_neg hmore] at hnext
      refine ⟨[p], followNext_last hlist hnext, fun _ => ⟨p, rfl, hnext⟩, fun j q w hq hw => ?_⟩
      cases j with
      | zero =>
        cases hq
        cases hw
        exact hshows
      | succ j => cases hq

/-- From a page on, the cursors back lead through the pages before it to the first one. -/
theorem followPrevious_shows (hlimit : 1 ≤ input.limit)
    (hL : Descending SecurityLogRow.position L)
    (hperm : L.Perm (log.matched rules actorId input filters))
    (hfilters : filterConditions node zone input.filters = .ok filters)
    (hserves : ∀ v ∈ views, v.Serves zone actorId input.schoolId) (hlog : ∀ v ∈ views, v.log = log)
    (hunexpired : views.IsChain fun a b => InTime a.env b.env)
    (hnow : ∀ v ∈ views.head?, InTime env v.env) {p : SecurityLogPage}
    (hshows : Shows crypto actorId input L k env p) :
    ∃ earlier, followPrevious node rules crypto actorId input p.pageInfo.previousCursor views =
        .ok earlier ∧
      earlier.map SecurityLogPage.items = ((List.range k).reverse.take views.length).map
        (fun j => (page input.limit L j).map rowDto) ∧
      (k ≤ views.length → ∀ q ∈ (p :: earlier).getLast?, q.pageInfo.previousCursor = none) := by
  induction views generalizing k env p with
  | nil =>
    refine ⟨[], ?_, by simp, fun hk q hq => ?_⟩
    · cases p.pageInfo.previousCursor <;> rfl
    · rw [List.getLast?_singleton, Option.mem_some_iff] at hq
      rw [← hq, hshows.previous, if_pos (Nat.le_zero.mp hk)]
  | cons v rest ih =>
    cases k with
    | zero =>
      have hnone : p.pageInfo.previousCursor = none := by rw [hshows.previous, if_pos rfl]
      rw [hnone]
      exact ⟨[], rfl, by simp, fun _ q hq => by cases hq; exact hnone⟩
    | succ k =>
      obtain ⟨hnext, hunexpired⟩ := List.isChain_cons.mp hunexpired
      have hinside := hshows.inside (Nat.succ_pos k)
      have hne : page input.limit L (k + 1) ≠ [] := page_ne_nil hlimit hinside
      have hhead := List.head?_eq_some_head hne
      have hprevious := hshows.previous
      rw [if_neg (Nat.succ_ne_zero k), hhead, Option.map_some] at hprevious
      obtain ⟨q, hlist, hq⟩ := list_previous hlimit hL hperm hfilters
        (hserves v List.mem_cons_self) (hlog v List.mem_cons_self) hinside hhead (hnow v rfl)
      obtain ⟨earlier, hearlier, hitems, hfirst⟩ := ih
        (fun w hw => hserves w (List.mem_cons_of_mem _ hw))
        (fun w hw => hlog w (List.mem_cons_of_mem _ hw)) hunexpired hnext hq
      refine ⟨q :: earlier, ?_, ?_, fun hk => ?_⟩
      · rw [hprevious, followPrevious, hlist]
        simp only [bind, Except.bind, hearlier]
        rfl
      · rw [List.map_cons, hitems, hq.items, List.range_succ, List.reverse_append,
          List.reverse_singleton, List.singleton_append, List.length_cons, List.take_succ_cons,
          List.map_cons]
      · rw [List.getLast?_cons_cons]
        exact hfirst (Nat.succ_le_succ_iff.mp hk)

end Back

/-! ### All pages -/

section Exact

variable {node : NodeRuntime} {rules : TextRules} {crypto : CursorCrypto} {actorId : Uuid}
  {input : ListInput} {zone : PolishZone} {filters : List RowCondition}

/-- The items of the pages before the `m`-th. -/
theorem items_before {L : List SecurityLogRow} {views : List LogView}
    {pages : List SecurityLogPage} {m : ℕ} (hm : m < pages.length) (hviews : m < views.length)
    (hshows : ∀ (j : ℕ) p v, pages[j]? = some p → views[j]? = some v →
      Shows crypto actorId input L j v.env p) :
    (pages.take m).map SecurityLogPage.items =
      (List.range m).map fun j => (page input.limit L j).map rowDto := by
  apply List.ext_getElem?
  intro j
  rw [List.getElem?_map, List.getElem?_map]
  by_cases hj : j < m
  · have hpage := List.getElem?_eq_getElem (Nat.lt_trans hj hm)
    have hview := List.getElem?_eq_getElem (Nat.lt_trans hj hviews)
    rw [List.getElem?_take_of_lt hj, hpage, List.getElem?_range hj, Option.map_some,
      Option.map_some, (hshows j _ _ hpage hview).items]
  · rw [List.getElem?_eq_none (by rw [List.length_take]; omega),
      List.getElem?_eq_none (by rw [List.length_range]; omega)]
    rfl

/-- Followed forward, the pages of the log answer; once there is no next one they have shown, in
descending order, every row that matched throughout, once. Where the log stays, they come to an end,
and from each of them the cursors back give the pages before it, the last one without a cursor. -/
theorem securityLog_pagesExact (hlimit : 1 ≤ input.limit)
    (hfilters : filterConditions node zone input.filters = .ok filters) :
    (∀ views : List LogView, (∀ v ∈ views, v.Serves zone actorId input.schoolId) →
      views.IsChain (fun a b => InTime a.env b.env) →
      ∃ pages, followNext node rules crypto actorId input none views = .ok pages ∧
        (Finished pages →
          (pages.flatMap SecurityLogPage.items).Pairwise (fun a b => b.position < a.position) ∧
          ∀ r, (∀ v ∈ views.take pages.length, r ∈ v.log.matched rules actorId input filters) →
            (pages.flatMap SecurityLogPage.items).filter
              (fun i => decide (i.id = r.event.id)) = [rowDto r])) ∧
    (∀ (log : SecurityLog) (views : List LogView),
      (∀ v ∈ views, v.Serves zone actorId input.schoolId ∧ v.log = log) →
      views.IsChain (fun a b => InTime a.env b.env) →
      ∀ pages, followNext node rules crypto actorId input none views = .ok pages →
        ((log.matched rules actorId input filters).length < views.length → Finished pages) ∧
        ∀ (m : ℕ) p v back, pages[m]? = some p → views[m]? = some v →
          (∀ w ∈ back, w.Serves zone actorId input.schoolId ∧ w.log = log) →
          (v :: back).IsChain (fun a b => InTime a.env b.env) →
          ∃ earlier, followPrevious node rules crypto actorId input p.pageInfo.previousCursor back =
              .ok earlier ∧
            earlier.map SecurityLogPage.items =
              ((pages.take m).map SecurityLogPage.items).reverse.take back.length ∧
            (m ≤ back.length →
              ∀ q ∈ (p :: earlier).getLast?, q.pageInfo.previousCursor = none)) := by
  refine ⟨fun views hserves hunexpired => ?_, fun log views hviews hunexpired pages hpages => ?_⟩
  · have hleads : LeadsBelow crypto actorId input views none none := rfl
    obtain ⟨pages, hpages, hfollows⟩ :=
      followNext_follows hlimit hfilters hserves hunexpired hleads
    refine ⟨pages, hpages, fun hfinished => ?_⟩
    obtain ⟨rows, hrows, hitems⟩ := hfollows hfinished
    have hflat : pages.flatMap SecurityLogPage.items = rows.flatten.map rowDto := by
      rw [List.flatMap_def, hitems, List.map_flatten]
    have hmap : ((views.take pages.length).map fun v => v.log.matched rules actorId input filters) =
        ((views.take pages.length).map LogView.log).map
          fun log => log.matched rules actorId input filters := by
      rw [List.map_map]
      rfl
    rw [hmap] at hrows
    obtain ⟨hdesc, honce⟩ := follows_exact hrows
    rw [hflat]
    refine ⟨hdesc, fun r hr => honce r fun log hlog => ?_⟩
    obtain ⟨v, hv, rfl⟩ := List.mem_map.mp hlog
    exact hr v hv
  · set L := sortDown SecurityLogRow.position (log.matched rules actorId input filters) with hLdef
    have hL : Descending SecurityLogRow.position L := sortDown_descending matched_distinct
    have hperm : L.Perm (log.matched rules actorId input filters) := sortDown_perm _
    have hleads : LeadsTo crypto actorId input L views none 0 := rfl
    obtain ⟨pages', hpages', hend, hshows⟩ := followNext_shows hlimit hL hperm hfilters
      (fun v hv => (hviews v hv).1) (fun v hv => (hviews v hv).2) hunexpired hleads
    obtain rfl : pages' = pages := Except.ok.inj (hpages'.symm.trans hpages)
    simp only [Nat.zero_add] at hshows
    refine ⟨fun hlen => hend ?_, fun m p v back hp hv hback hchain => ?_⟩
    · rw [← hperm.length_eq] at hlen
      rw [Nat.zero_add]
      exact lt_of_lt_of_le hlen (Nat.le_mul_of_pos_right _ hlimit)
    · obtain ⟨hnow, hchain⟩ := List.isChain_cons.mp hchain
      obtain ⟨earlier, hearlier, hitems, hfirst⟩ := followPrevious_shows hlimit hL hperm hfilters
        (fun w hw => (hback w hw).1) (fun w hw => (hback w hw).2) hchain hnow (hshows m p v hp hv)
      refine ⟨earlier, hearlier, ?_, hfirst⟩
      obtain ⟨hm, _⟩ := List.getElem?_eq_some_iff.mp hp
      obtain ⟨hvm, _⟩ := List.getElem?_eq_some_iff.mp hv
      rw [hitems, items_before hm hvm hshows, List.map_take, List.map_reverse]

end Exact

namespace FiveFailures

/-- Nothing is signed here but with the key itself. -/
def crypto : CursorCrypto where
  sha256 _ := "9f86d0"
  hmacSha256 key _ := key
  configuredSecret := none
  processCursorKey := "2c26b4"

/-- Texts as they are stored. -/
def rules : TextRules where
  contains v value := includes v value
  equals v value := decide (v = value)
  le a b := decide (a ≤ b)

/-- A request in the given minute after ten. -/
def view (minute : ℤ) : LogView where
  env :=
    { now := SmallSchool.clock 20000 10 minute, zone := SmallSchool.zone, collectionStatus := .ok }
  db := SmallSchool.db
  log := log

def twoAPage : ListInput := { schoolId := 10, limit := 2 }

theorem view_serves (minute : ℤ) :
    (view minute).Serves SmallSchool.zone 1 10 ∧ (view minute).log = log :=
  ⟨⟨rfl, rfl⟩, rfl⟩

end FiveFailures

open FiveFailures in
/-- The failures and the alarm on three pages, and from the last one back to the first. -/
theorem securityLog_pagesExact_fiveFailures :
    ∃ pages,
      followNext node rules crypto 1 twoAPage none ([6, 7, 8, 9, 10, 11].map view) = .ok pages ∧
      Finished pages ∧
      (∀ r ∈ log.matched rules 1 twoAPage [], (pages.flatMap SecurityLogPage.items).filter
        (fun i => decide (i.id = r.event.id)) = [rowDto r]) ∧
      ∃ p, pages[2]? = some p ∧ ∃ earlier,
        followPrevious node rules crypto 1 twoAPage p.pageInfo.previousCursor ([20, 21].map view) =
          .ok earlier ∧
        earlier.map SecurityLogPage.items =
          ((pages.take 2).map SecurityLogPage.items).reverse.take 2 := by
  have hserves : ∀ minutes : List ℤ, ∀ v ∈ minutes.map view,
      v.Serves SmallSchool.zone 1 twoAPage.schoolId ∧ v.log = log := by
    intro minutes v hv
    obtain ⟨minute, _, rfl⟩ := List.mem_map.mp hv
    exact view_serves minute
  have hchain : ([6, 7, 8, 9, 10, 11].map view).IsChain fun a b => InTime a.env b.env := by
    simp only [List.map_cons, List.map_nil, List.isChain_cons_cons, List.isChain_singleton]
    unfold InTime view
    decide
  have hchain' : (view 8 :: [20, 21].map view).IsChain fun a b => InTime a.env b.env := by
    simp only [List.map_cons, List.map_nil, List.isChain_cons_cons, List.isChain_singleton]
    unfold InTime view
    decide
  obtain ⟨hforward, hback⟩ :=
    @securityLog_pagesExact node rules crypto 1 twoAPage SmallSchool.zone [] (by decide) rfl
  obtain ⟨pages, hpages, honce⟩ := hforward _ (fun v hv => (hserves _ v hv).1) hchain
  obtain ⟨hend, hearlier⟩ := hback log _ (hserves _) hchain pages hpages
  have hfinished := hend (by decide +kernel)
  have hthree : pages.length = 3 := by
    have hlen : (followNext node rules crypto 1 twoAPage none
        ([6, 7, 8, 9, 10, 11].map view)).toOption.map List.length = some 3 := by decide +kernel
    rw [hpages] at hlen
    exact Option.some_inj.mp hlen
  refine ⟨pages, hpages, hfinished, fun r hr => (honce hfinished).2 r fun v hv => ?_, ?_⟩
  · obtain ⟨minute, _, rfl⟩ := List.mem_map.mp (List.mem_of_mem_take hv)
    exact hr
  · have hp := List.getElem?_eq_getElem (l := pages) (i := 2) (by omega)
    obtain ⟨earlier, hprevious, hitems, _⟩ :=
      hearlier 2 _ (view 8) ([20, 21].map view) hp rfl (hserves _) hchain'
    exact ⟨_, hp, earlier, hprevious, hitems⟩

end OSK
