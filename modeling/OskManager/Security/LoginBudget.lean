import Mathlib.Data.List.Induction
import OskManager.Lib.FixedWindow
import OskManager.Model.LoginRateLimit

/-! The budget of each key. A call reserves an attempt for all of its keys or for none, so each key
sees the reservations of a fixed window: at most its limit within a window, and at most twice
the limit within the time of one. -/

namespace OSK

open Relational FixedWindow

variable {localeLE : BucketKey → BucketKey → Bool} {windowMs : ℕ} {now : Timestamp}
  {rows rows' : LoginRateLimitBuckets} {key : BucketKey}

/-! ### Times -/

theorem sub_le_toMilliseconds (t : ℤ) : t - 500 ≤ toMilliseconds t := by
  unfold toMilliseconds
  split <;> omega

theorem lt_windowEnd (hwindow : 0 < windowMs) (t : ℤ) : t < windowEnd windowMs t := by
  have hround := sub_le_toMilliseconds (t + windowMs * 1000)
  unfold windowEnd
  omega

/-- What expires after `start` is followed by a window that lasts beyond the time of a window. -/
theorem lt_windowEnd_of_le {start opened next : ℤ} (h : start < windowEnd windowMs opened)
    (hnext : windowEnd windowMs opened ≤ next) :
    start + windowMs * 1000 < windowEnd windowMs next := by
  unfold windowEnd toMilliseconds at *
  split at h <;> split <;> omega

/-! ### One bucket -/

def LoginRateLimitBucket.window (row : LoginRateLimitBucket) : Window Timestamp :=
  ⟨row.attempts, row.expiresAt⟩

def windowOf (rows : LoginRateLimitBuckets) (key : BucketKey) : Option (Window Timestamp) :=
  (rows.findUnique key).map LoginRateLimitBucket.window

def loginBudget (windowMs limit : ℕ) : Budget Timestamp := ⟨limit, windowEnd windowMs⟩

/-- The `CASE` and the `WHERE` of the upsert are the rule of the budget. -/
theorem reserve_window (limit : ℕ) (row : LoginRateLimitBucket) :
    (loginBudget windowMs limit).reserve now (some row.window) =
      if row.expiresAt ≤ now ∨ row.attempts < limit then some (row.reserved windowMs now).window
      else none := by
  simp only [Budget.reserve, loginBudget, LoginRateLimitBucket.window,
    LoginRateLimitBucket.reserved]
  by_cases hexpired : row.expiresAt ≤ now
  · simp only [hexpired, if_true, true_or]
  · simp only [hexpired, if_false, false_or]
    rfl

/-- One upsert reserves in the window of its key, or is refused. -/
theorem upsertBucket_cases (windowMs : ℕ) (now : Timestamp) (bucket : LoginBucket)
    (rows : LoginRateLimitBuckets) :
    ((loginBudget windowMs bucket.limit).reserve now (windowOf rows bucket.key) = none ∧
        upsertBucket windowMs now bucket rows = (.ok [], rows)) ∨
      ∃ v rows', (loginBudget windowMs bucket.limit).reserve now (windowOf rows bucket.key) =
          some v ∧ upsertBucket windowMs now bucket rows = (.ok [v.count], rows') ∧
        ∀ key, windowOf rows' key = if key = bucket.key then some v else windowOf rows key := by
  unfold upsertBucket
  split
  · next hnone =>
    refine Or.inr ⟨⟨1, windowEnd windowMs now⟩, _, ?_, rfl, fun key => ?_⟩
    · rw [windowOf, hnone]
      rfl
    · rw [windowOf, Table.findUnique_insert]
      split <;> rfl
  · next row hrow =>
    rw [windowOf, hrow, Option.map_some, reserve_window]
    by_cases hallowed : row.expiresAt ≤ now ∨ row.attempts < bucket.limit
    · rw [if_pos hallowed, if_pos hallowed]
      refine Or.inr ⟨_, _, rfl, rfl, fun key => ?_⟩
      rw [windowOf, Table.findUnique_update]
      split
      · next hkey =>
        rw [hkey, hrow]
        rfl
      · rfl
    · rw [if_neg hallowed, if_neg hallowed]
      exact Or.inl ⟨rfl, rfl⟩

/-! ### One call -/

/-- All buckets are reserved, each in its own window, or one of them is full. -/
theorem reserveBuckets_cases (windowMs : ℕ) (now : Timestamp) {buckets : List LoginBucket}
    (hkeys : (buckets.map LoginBucket.key).Nodup) (rows : LoginRateLimitBuckets) :
    (∃ rows', reserveBuckets windowMs now buckets rows = (.ok (), rows') ∧
        (∀ bucket ∈ buckets, ∃ v, windowOf rows' bucket.key = some v ∧
          (loginBudget windowMs bucket.limit).reserve now (windowOf rows bucket.key) = some v) ∧
        ∀ key ∉ buckets.map LoginBucket.key, windowOf rows' key = windowOf rows key) ∨
      ∃ rows', reserveBuckets windowMs now buckets rows = (.error ⟨⟩, rows') ∧
        ∃ bucket ∈ buckets,
          (loginBudget windowMs bucket.limit).reserve now (windowOf rows bucket.key) = none := by
  induction buckets generalizing rows with
  | nil => exact Or.inl ⟨rows, rfl, nofun, fun _ _ => rfl⟩
  | cons bucket rest ih =>
    obtain ⟨hfresh, hrest⟩ := List.nodup_cons.mp hkeys
    rw [reserveBuckets, Prog.bind_run]
    rcases upsertBucket_cases windowMs now bucket rows with
      ⟨hfull, hupsert⟩ | ⟨v, rows₁, hreserve, hupsert, hwindows⟩
    · rw [hupsert]
      exact Or.inr ⟨rows, rfl, bucket, List.mem_cons_self, hfull⟩
    · rw [hupsert]
      have hothers : ∀ other ∈ rest, windowOf rows₁ other.key = windowOf rows other.key := by
        intro other hother
        rw [hwindows, if_neg]
        rintro hkey
        exact hfresh (hkey ▸ List.mem_map_of_mem hother)
      rcases ih hrest rows₁ with ⟨rows', hrun, hreserved, hsame⟩ | ⟨rows', hrun, other, hother, hfull⟩
      · refine Or.inl ⟨rows', hrun, List.forall_mem_cons.mpr ⟨⟨v, ?_, hreserve⟩, ?_⟩, ?_⟩
        · rw [hsame _ hfresh, hwindows, if_pos rfl]
        · intro other hother
          rw [← hothers other hother]
          exact hreserved other hother
        · intro key hkey
          rw [List.map_cons, List.mem_cons, not_or] at hkey
          rw [hsame key hkey.2, hwindows, if_neg hkey.1]
      · rw [hothers other hother] at hfull
        exact Or.inr ⟨rows', hrun, other, List.mem_cons_of_mem _ hother, hfull⟩

structure LoginCall where
  now : Timestamp
  buckets : List LoginBucket

namespace LoginCall

def keys (c : LoginCall) : List BucketKey := c.buckets.map LoginBucket.key

def run (localeLE : BucketKey → BucketKey → Bool) (windowMs : ℕ) (c : LoginCall) :
    Prog LoginLimitExceeded LoginRateLimitBuckets Unit :=
  reserveLoginAttempt localeLE windowMs c.now c.buckets

/-- A call reserves in all windows of its keys, or fails without a trace. -/
theorem run_cases (localeLE : BucketKey → BucketKey → Bool) (windowMs : ℕ) {c : LoginCall}
    (hkeys : c.keys.Nodup) (rows : LoginRateLimitBuckets) :
    (∃ rows', c.run localeLE windowMs rows = (.ok (), rows') ∧
        (∀ bucket ∈ c.buckets, ∃ v, windowOf rows' bucket.key = some v ∧
          (loginBudget windowMs bucket.limit).reserve c.now (windowOf rows bucket.key) = some v) ∧
        ∀ key ∉ c.keys, windowOf rows' key = windowOf rows key) ∨
      c.run localeLE windowMs rows = (.error ⟨⟩, rows) ∧ ∃ bucket ∈ c.buckets,
        (loginBudget windowMs bucket.limit).reserve c.now (windowOf rows bucket.key) = none := by
  have hperm := List.perm_insertionSort (fun a b : LoginBucket => localeLE a.key b.key = true)
    c.buckets
  rw [run, reserveLoginAttempt, Prog.transaction]
  rcases reserveBuckets_cases windowMs c.now ((hperm.map LoginBucket.key).nodup_iff.mpr hkeys) rows
    with ⟨rows', hrun, hreserved, hsame⟩ | ⟨rows', hrun, bucket, hbucket, hfull⟩
  · rw [hrun]
    refine Or.inl ⟨rows', rfl, fun bucket hbucket => ?_, fun key hkey => ?_⟩
    · exact hreserved bucket (hperm.mem_iff.mpr hbucket)
    · exact hsame key fun hmem => hkey ((hperm.map LoginBucket.key).mem_iff.mp hmem)
  · rw [hrun]
    exact Or.inr ⟨rfl, bucket, hperm.mem_iff.mp hbucket, hfull⟩

end LoginCall

/-! ### Runs -/

section Runs

variable (localeLE : BucketKey → BucketKey → Bool) (windowMs : ℕ)

def loginsAfter (calls : List LoginCall) (rows : LoginRateLimitBuckets) : LoginRateLimitBuckets :=
  calls.foldl (fun rows c => (c.run localeLE windowMs rows).2) rows

/-- The calls of a list that succeed and contain the key. -/
def reservations (key : BucketKey) : List LoginCall → LoginRateLimitBuckets → List LoginCall
  | [], _ => []
  | c :: calls, rows =>
    if Prog.Succeeds (c.run localeLE windowMs) rows ∧ key ∈ c.keys then
      c :: reservations key calls (c.run localeLE windowMs rows).2
    else reservations key calls (c.run localeLE windowMs rows).2

theorem loginsAfter_append (calls later : List LoginCall) (rows : LoginRateLimitBuckets) :
    loginsAfter localeLE windowMs (calls ++ later) rows =
      loginsAfter localeLE windowMs later (loginsAfter localeLE windowMs calls rows) :=
  List.foldl_append

theorem reservations_append (key : BucketKey) (calls later : List LoginCall)
    (rows : LoginRateLimitBuckets) :
    reservations localeLE windowMs key (calls ++ later) rows =
      reservations localeLE windowMs key calls rows ++
        reservations localeLE windowMs key later (loginsAfter localeLE windowMs calls rows) := by
  induction calls generalizing rows with
  | nil => rfl
  | cons c calls ih =>
    rw [List.cons_append, reservations, reservations, ih]
    split <;> rfl

theorem reservations_sublist (key : BucketKey) (calls : List LoginCall)
    (rows : LoginRateLimitBuckets) :
    (reservations localeLE windowMs key calls rows).Sublist calls := by
  induction calls generalizing rows with
  | nil => exact List.Sublist.slnil
  | cons c calls ih =>
    rw [reservations]
    split
    · exact (ih _).cons_cons c
    · exact (ih _).cons c

/-- Distinct keys, each with the limit that it has everywhere. -/
structure LoginCall.Proper (limit : BucketKey → ℕ) (c : LoginCall) : Prop where
  nodup : c.keys.Nodup
  limits : ∀ bucket ∈ c.buckets, bucket.limit = limit bucket.key

variable {limit : BucketKey → ℕ} {calls : List LoginCall}

/-- A successful call that contains the key reserves in its window; the others leave it alone. -/
theorem LoginCall.Proper.run_key {c : LoginCall} (h : c.Proper limit) (key : BucketKey)
    (rows : LoginRateLimitBuckets) :
    ((Prog.Succeeds (c.run localeLE windowMs) rows ∧ key ∈ c.keys) ∧
        ∃ v, windowOf (c.run localeLE windowMs rows).2 key = some v ∧
          (loginBudget windowMs (limit key)).reserve c.now (windowOf rows key) = some v) ∨
      ¬(Prog.Succeeds (c.run localeLE windowMs) rows ∧ key ∈ c.keys) ∧
        windowOf (c.run localeLE windowMs rows).2 key = windowOf rows key := by
  rcases c.run_cases localeLE windowMs h.nodup rows with
    ⟨rows', hrun, hreserved, hsame⟩ | ⟨hrun, _⟩
  · rw [hrun]
    by_cases hkey : key ∈ c.keys
    · obtain ⟨bucket, hbucket, rfl⟩ := List.mem_map.mp hkey
      obtain ⟨v, hv, hreserve⟩ := hreserved bucket hbucket
      rw [h.limits bucket hbucket] at hreserve
      exact Or.inl ⟨⟨⟨(), rows', hrun⟩, hkey⟩, v, hv, hreserve⟩
    · exact Or.inr ⟨fun hboth => hkey hboth.2, hsame key hkey⟩
  · refine Or.inr ⟨fun hboth => ?_, by rw [hrun]⟩
    obtain ⟨⟨_, _, hok⟩, _⟩ := hboth
    cases hrun.symm.trans hok

/-- What a key sees of a run is granted reservations. -/
theorem granted_reservations (hcalls : ∀ c ∈ calls, c.Proper limit) (key : BucketKey)
    (rows : LoginRateLimitBuckets) :
    (loginBudget windowMs (limit key)).Granted
      ((reservations localeLE windowMs key calls rows).map LoginCall.now) (windowOf rows key)
      (windowOf (loginsAfter localeLE windowMs calls rows) key) := by
  induction calls generalizing rows with
  | nil => exact .nil _
  | cons c calls ih =>
    obtain ⟨hc, hcalls⟩ := List.forall_mem_cons.mp hcalls
    have hrest := ih hcalls (c.run localeLE windowMs rows).2
    rw [reservations]
    rcases hc.run_key localeLE windowMs key rows with ⟨hboth, v, hv, hreserve⟩ | ⟨hnot, hsame⟩
    · rw [if_pos hboth]
      rw [hv] at hrest
      exact .cons hreserve hrest
    · rw [if_neg hnot]
      rw [hsame] at hrest
      exact hrest

theorem reservations_pairwise (htimes : calls.Pairwise fun c d => c.now ≤ d.now) (key : BucketKey)
    (rows : LoginRateLimitBuckets) :
    ((reservations localeLE windowMs key calls rows).map LoginCall.now).Pairwise (· ≤ ·) :=
  List.pairwise_map.mpr (htimes.sublist (reservations_sublist localeLE windowMs key calls rows))

theorem windowOf_eq_some {rows : LoginRateLimitBuckets} {v : Window Timestamp} :
    windowOf rows key = some v ↔ ∃ row, rows.findUnique key = some row ∧ row.window = v :=
  Option.map_eq_some_iff

theorem windowOf_empty_sound (b : Budget Timestamp) (key : BucketKey) :
    b.Sound (windowOf Table.empty key) := nofun

/-! ### Windows -/

/-- After the calls `before`, the call `opening` begins a window of the key that lasts until
`expiresAt`. -/
structure OpensWindow (before : List LoginCall) (opening : LoginCall) (key : BucketKey)
    (expiresAt : Timestamp) : Prop where
  succeeds : Prog.Succeeds (opening.run localeLE windowMs)
    (loginsAfter localeLE windowMs before .empty)
  mem : key ∈ opening.keys
  expired : ∀ row, (loginsAfter localeLE windowMs before .empty).findUnique key = some row →
    row.expiresAt ≤ opening.now
  opened : ∃ row, (loginsAfter localeLE windowMs (before ++ [opening]) .empty).findUnique key =
    some row ∧ row.expiresAt = expiresAt

variable {localeLE windowMs} {before inside : List LoginCall} {opening : LoginCall}
  {expiresAt : Timestamp}

theorem OpensWindow.closed (h : OpensWindow localeLE windowMs before opening key expiresAt) :
    Budget.Closed opening.now (windowOf (loginsAfter localeLE windowMs before .empty) key) := by
  intro v hv
  obtain ⟨row, hrow, rfl⟩ := windowOf_eq_some.mp hv
  exact h.expired row hrow

theorem OpensWindow.expiresAt_eq (h : OpensWindow localeLE windowMs before opening key expiresAt)
    (hopening : opening.Proper limit) : expiresAt = windowEnd windowMs opening.now := by
  obtain ⟨row, hrow, rfl⟩ := h.opened
  rw [loginsAfter_append] at hrow
  rcases hopening.run_key localeLE windowMs key (loginsAfter localeLE windowMs before .empty) with
    ⟨_, v, hv, hreserve⟩ | ⟨hnot, _⟩
  · rw [Budget.reserve_of_closed _ h.closed] at hreserve
    obtain rfl := Option.some_inj.mp hreserve
    obtain ⟨row', hrow', hwindow⟩ := windowOf_eq_some.mp hv
    obtain rfl := Option.some_inj.mp (hrow.symm.trans hrow')
    exact congrArg Window.expiry hwindow
  · exact absurd ⟨h.succeeds, h.mem⟩ hnot

theorem reservations_snoc {c : LoginCall} (hsplit : calls = before ++ opening :: inside) :
    reservations localeLE windowMs key (opening :: (inside ++ [c]))
        (loginsAfter localeLE windowMs before .empty) =
      reservations localeLE windowMs key (opening :: inside)
          (loginsAfter localeLE windowMs before .empty) ++
        reservations localeLE windowMs key [c] (loginsAfter localeLE windowMs calls .empty) := by
  rw [← List.cons_append, reservations_append, ← loginsAfter_append, ← hsplit]

/-- Every window has been opened by a call, and its attempts are the reservations since then. -/
theorem window_opened (hcalls : ∀ c ∈ calls, c.Proper limit) {v : Window Timestamp}
    (hv : windowOf (loginsAfter localeLE windowMs calls .empty) key = some v) :
    ∃ before opening inside, calls = before ++ opening :: inside ∧
      OpensWindow localeLE windowMs before opening key v.expiry ∧
      v.count = (reservations localeLE windowMs key (opening :: inside)
        (loginsAfter localeLE windowMs before .empty)).length := by
  induction calls using List.reverseRecOn generalizing v with
  | nil => cases hv
  | append_singleton calls c ih =>
    have hc := hcalls c (List.mem_append_right _ List.mem_cons_self)
    have hcalls : ∀ d ∈ calls, d.Proper limit := fun d hd => hcalls d (List.mem_append_left _ hd)
    rw [loginsAfter_append] at hv
    have hv : windowOf (c.run localeLE windowMs
      (loginsAfter localeLE windowMs calls .empty)).2 key = some v := hv
    rcases hc.run_key localeLE windowMs key (loginsAfter localeLE windowMs calls .empty) with
      ⟨hboth, v', hv', hreserve⟩ | ⟨hnot, hsame⟩
    · obtain rfl := Option.some_inj.mp (hv'.symm.trans hv)
      have hlast : reservations localeLE windowMs key [c]
          (loginsAfter localeLE windowMs calls .empty) = [c] := by
        rw [reservations, if_pos hboth]
        rfl
      rcases Budget.reserve_eq_some hreserve with ⟨hclosed, rfl⟩ | ⟨u, hu, _, _, rfl⟩
      · refine ⟨calls, c, [], rfl, ⟨hboth.1, hboth.2, fun row hrow => ?_, ?_⟩, ?_⟩
        · exact hclosed _ (windowOf_eq_some.mpr ⟨row, hrow, rfl⟩)
        · obtain ⟨row, hrow, hwindow⟩ := windowOf_eq_some.mp hv
          rw [loginsAfter_append]
          exact ⟨row, hrow, congrArg Window.expiry hwindow⟩
        · rw [hlast]
          rfl
      · obtain ⟨before, opening, inside, hsplit, hopens, hcount⟩ := ih hcalls hu
        refine ⟨before, opening, inside ++ [c], ?_, hopens, ?_⟩
        · rw [hsplit, List.append_assoc, List.cons_append]
        · rw [reservations_snoc hsplit, hlast, List.length_append, ← hcount]
          rfl
    · rw [hsame] at hv
      have hlast : reservations localeLE windowMs key [c]
          (loginsAfter localeLE windowMs calls .empty) = [] := by
        rw [reservations, if_neg hnot]
        rfl
      obtain ⟨before, opening, inside, hsplit, hopens, hcount⟩ := ih hcalls hv
      refine ⟨before, opening, inside ++ [c], ?_, hopens, ?_⟩
      · rw [hsplit, List.append_assoc, List.cons_append]
      · rw [reservations_snoc hsplit, hlast, List.append_nil]
        exact hcount

/-! ### The budget -/

/-- From the call that opens a window until the window ends, at most `limit` calls that contain the
key succeed. -/
theorem OpensWindow.reservations_le (hlimit : 1 ≤ limit key)
    (hcalls : ∀ c ∈ opening :: inside, c.Proper limit)
    (htimes : (opening :: inside).Pairwise fun c d => c.now ≤ d.now)
    (h : OpensWindow localeLE windowMs before opening key expiresAt) :
    (reservations localeLE windowMs key (opening :: inside)
      (loginsAfter localeLE windowMs before .empty)).countP
        (fun c => decide (c.now < expiresAt)) ≤ limit key := by
  have hgranted := granted_reservations localeLE windowMs hcalls key
    (loginsAfter localeLE windowMs before .empty)
  have hsorted := reservations_pairwise localeLE windowMs htimes key
    (loginsAfter localeLE windowMs before .empty)
  have hfirst : Prog.Succeeds (opening.run localeLE windowMs)
      (loginsAfter localeLE windowMs before .empty) ∧ key ∈ opening.keys := ⟨h.succeeds, h.mem⟩
  rw [h.expiresAt_eq (hcalls opening List.mem_cons_self)]
  rw [reservations, if_pos hfirst] at hgranted hsorted ⊢
  have hwindow := hgranted.countP_window hlimit hsorted h.closed
  rw [← List.map_cons, List.countP_map] at hwindow
  exact hwindow

/-- In a time interval of the length of a window, at most `2 * limit` of them succeed. -/
theorem reservations_interval_le (hwindow : 0 < windowMs) (hlimit : 1 ≤ limit key)
    (hcalls : ∀ c ∈ calls, c.Proper limit) (htimes : calls.Pairwise fun c d => c.now ≤ d.now)
    (start : Timestamp) :
    (reservations localeLE windowMs key calls .empty).countP
      (fun c => decide (start ≤ c.now ∧ c.now ≤ start + windowMs * 1000)) ≤ 2 * limit key := by
  have hgranted := granted_reservations localeLE windowMs hcalls key .empty
  have hsorted := reservations_pairwise localeLE windowMs htimes key .empty
  have hinterval := hgranted.countP_interval start (start + windowMs * 1000) hlimit
    (lt_windowEnd hwindow) (fun _ _ => lt_windowEnd_of_le) hsorted (windowOf_empty_sound _ key)
  rw [List.countP_map] at hinterval
  exact hinterval

/-- A call that is refused changes nothing, and one of its keys has a window that is not over and
has `limit` reservations. -/
theorem refused_call (hlimit : ∀ key, 1 ≤ limit key) (hcalls : ∀ c ∈ calls, c.Proper limit)
    {c : LoginCall} (hc : c.Proper limit)
    (hrefused : ¬Prog.Succeeds (c.run localeLE windowMs)
      (loginsAfter localeLE windowMs calls .empty)) :
    loginsAfter localeLE windowMs (calls ++ [c]) .empty =
        loginsAfter localeLE windowMs calls .empty ∧
      ∃ bucket ∈ c.buckets, ∃ row,
        (loginsAfter localeLE windowMs calls .empty).findUnique bucket.key = some row ∧
          c.now < row.expiresAt ∧ row.attempts = bucket.limit ∧
            ∃ before opening inside, calls = before ++ opening :: inside ∧
              OpensWindow localeLE windowMs before opening bucket.key row.expiresAt ∧
              (reservations localeLE windowMs bucket.key (opening :: inside)
                (loginsAfter localeLE windowMs before .empty)).length = bucket.limit := by
  rcases c.run_cases localeLE windowMs hc.nodup (loginsAfter localeLE windowMs calls .empty) with
    ⟨rows', hrun, _⟩ | ⟨hrun, bucket, hbucket, hfull⟩
  · exact absurd ⟨(), rows', hrun⟩ hrefused
  · refine ⟨?_, bucket, hbucket, ?_⟩
    · rw [loginsAfter_append]
      exact congrArg Prod.snd hrun
    · obtain ⟨v, hv, hopen, hle⟩ := Budget.reserve_eq_none.mp hfull
      obtain ⟨row, hrow, rfl⟩ := windowOf_eq_some.mp hv
      obtain ⟨before, opening, inside, hsplit, hopens, hcount⟩ := window_opened hcalls hv
      have hgranted := granted_reservations localeLE windowMs hcalls bucket.key .empty
      have hsound := hgranted.sound (hlimit bucket.key) (windowOf_empty_sound _ bucket.key)
      have hattempts : row.attempts = bucket.limit := by
        refine le_antisymm ?_ hle
        rw [hc.limits bucket hbucket]
        exact (hsound _ hv).1
      exact ⟨row, hrow, hopen, hattempts, before, opening, inside, hsplit, hopens,
        hcount.symm.trans hattempts⟩

/-- Calls at times that never go back, each with distinct keys whose limits never differ. Each window
of a key keeps to its limit and each interval as long as a window to twice the limit. A call is
refused only by a full window, and then changes nothing. -/
theorem run_loginBudget (localeLE : BucketKey → BucketKey → Bool) (hwindow : 0 < windowMs)
    (hlimit : ∀ key, 1 ≤ limit key) (hcalls : ∀ c ∈ calls, c.Proper limit)
    (htimes : calls.Pairwise fun c d => c.now ≤ d.now) :
    (∀ before opening inside key expiresAt, calls = before ++ opening :: inside →
      OpensWindow localeLE windowMs before opening key expiresAt →
        (reservations localeLE windowMs key (opening :: inside)
          (loginsAfter localeLE windowMs before .empty)).countP
            (fun c => decide (c.now < expiresAt)) ≤ limit key) ∧
    (∀ key (start : Timestamp), (reservations localeLE windowMs key calls .empty).countP
      (fun c => decide (start ≤ c.now ∧ c.now ≤ start + windowMs * 1000)) ≤ 2 * limit key) ∧
    ∀ before c later, calls = before ++ c :: later →
      ¬Prog.Succeeds (c.run localeLE windowMs) (loginsAfter localeLE windowMs before .empty) →
        loginsAfter localeLE windowMs (before ++ [c]) .empty =
            loginsAfter localeLE windowMs before .empty ∧
          ∃ bucket ∈ c.buckets, ∃ row,
            (loginsAfter localeLE windowMs before .empty).findUnique bucket.key = some row ∧
              c.now < row.expiresAt ∧ row.attempts = bucket.limit ∧
                ∃ earlier opening inside, before = earlier ++ opening :: inside ∧
                  OpensWindow localeLE windowMs earlier opening bucket.key row.expiresAt ∧
                  (reservations localeLE windowMs bucket.key (opening :: inside)
                    (loginsAfter localeLE windowMs earlier .empty)).length = bucket.limit := by
  refine ⟨?_, ?_, ?_⟩
  · rintro before opening inside key expiresAt rfl h
    refine h.reservations_le (hlimit key) (fun c hc => ?_) (List.pairwise_append.mp htimes).2.1
    exact hcalls c (List.mem_append_right _ hc)
  · intro key start
    exact reservations_interval_le hwindow (hlimit key) hcalls htimes start
  · rintro before c later rfl hrefused
    refine refused_call hlimit (fun d hd => ?_) ?_ hrefused
    · exact hcalls d (List.mem_append_left _ hd)
    · exact hcalls c (List.mem_append_right _ List.mem_cons_self)

end Runs

/-! ### Samples -/

namespace ThreeLogins

def account : BucketKey := ⟨"account", by decide +kernel⟩

def login (now : Timestamp) : LoginCall := ⟨now, [⟨account, 1⟩]⟩

/-- The second call comes just before the window ends, the third one at its end. -/
def calls : List LoginCall := [login 0, login 59999999, login 60000000]

theorem calls_proper : ∀ c ∈ calls, c.Proper fun _ => 1 := by
  simp only [calls, List.forall_mem_cons, List.not_mem_nil, false_implies, implies_true, and_true]
  refine ⟨⟨?_, ?_⟩, ⟨?_, ?_⟩, ⟨?_, ?_⟩⟩
  all_goals simp [login, LoginCall.keys]

end ThreeLogins

open ThreeLogins in
/-- Both windows of the key lie in one closed interval, which has twice the limit. -/
theorem run_loginBudget_threeLogins :
    (reservations (fun _ _ => true) 60000 account calls .empty).countP
        (fun c => decide (0 ≤ c.now ∧ c.now ≤ 60000000)) = 2 * 1 ∧
      loginsAfter (fun _ _ => true) 60000 [login 0, login 59999999] .empty =
        loginsAfter (fun _ _ => true) 60000 [login 0] .empty := by
  obtain ⟨_, hinterval, hrefused⟩ := run_loginBudget (fun _ _ => true)
    (show 0 < 60000 by decide) (fun _ => le_rfl) calls_proper (by decide)
  refine ⟨le_antisymm (hinterval account 0) (by decide +kernel), ?_⟩
  exact (hrefused [login 0] (login 59999999) [login 60000000] rfl (by decide +kernel)).1

end OSK
