import Mathlib.Data.Bool.Basic
import Mathlib.Logic.Function.Basic
import OskManager.Lib.Prog

/-! Requests of two phases over one store. Each request first reads and later writes, and between
its two phases the phases of other requests may run. A schedule says whose phase runs next; a
request that has finished ignores its later turns. -/

namespace Relational

universe u v w x

/-! ### Clocks -/

/-- A store and the time of its last step. -/
structure Clocked (τ : Type u) (σ : Type v) where
  now : τ
  store : σ

/-- Runs `p` at the time `t`. -/
def Prog.runAt {ε : Type u} {τ σ : Type v} {α : Type w} (t : τ) (p : Prog ε σ α) :
    Prog ε (Clocked τ σ) α :=
  fun c => ((p c.store).1, ⟨t, (p c.store).2⟩)

theorem Prog.runAt_eq {ε : Type u} {τ σ : Type v} {α : Type w} {t : τ} {p : Prog ε σ α}
    {c c' : Clocked τ σ} {r : Except ε α} (h : p.runAt t c = (r, c')) :
    p c.store = (r, c'.store) := by
  cases h
  rfl

/-! ### Requests -/

/-- A request that hands what it read to its write. -/
structure TwoPhase (ε : Type u) (σ : Type v) (κ ρ : Type w) where
  read : Prog ε σ κ
  write : κ → Prog ε σ ρ

/-- The same request without interruption. -/
def TwoPhase.whole {ε : Type u} {σ : Type v} {κ ρ : Type w} (request : TwoPhase ε σ κ ρ) :
    Prog ε σ ρ := do
  let k ← request.read
  request.write k

inductive Progress (ε : Type u) (κ ρ : Type w) where
  | waiting
  | prepared (k : κ)
  | finished (r : Except ε ρ)

/-- The store and how far each request has come. -/
structure Interleaving (ι : Type x) (ε : Type u) (σ : Type v) (κ ρ : Type w) where
  store : σ
  progress : ι → Progress ε κ ρ

namespace Interleaving

variable {ι : Type x} {ε : Type u} {σ : Type v} {κ ρ : Type w}

/-- No request has begun. -/
def start (s : σ) : Interleaving ι ε σ κ ρ := ⟨s, fun _ => .waiting⟩

def Succeeded (c : Interleaving ι ε σ κ ρ) (i : ι) : Prop := ∃ r, c.progress i = .finished (.ok r)

instance decidableSucceeded (c : Interleaving ι ε σ κ ρ) (i : ι) : Decidable (c.Succeeded i) :=
  match h : c.progress i with
  | .finished (.ok r) => .isTrue ⟨r, h⟩
  | .finished (.error _) => .isFalse fun ⟨_, hr⟩ => nomatch h.symm.trans hr
  | .waiting => .isFalse fun ⟨_, hr⟩ => nomatch h.symm.trans hr
  | .prepared _ => .isFalse fun ⟨_, hr⟩ => nomatch h.symm.trans hr

section Run

variable [DecidableEq ι] (requests : ι → TwoPhase ε σ κ ρ)

/-- The next phase of the request `i`. -/
def step (c : Interleaving ι ε σ κ ρ) (i : ι) : Interleaving ι ε σ κ ρ :=
  match c.progress i with
  | .waiting =>
    match (requests i).read c.store with
    | (.ok k, t) => ⟨t, Function.update c.progress i (.prepared k)⟩
    | (.error e, t) => ⟨t, Function.update c.progress i (.finished (.error e))⟩
  | .prepared k =>
    let outcome := (requests i).write k c.store
    ⟨outcome.2, Function.update c.progress i (.finished outcome.1)⟩
  | .finished _ => c

def run (schedule : List ι) (c : Interleaving ι ε σ κ ρ) : Interleaving ι ε σ κ ρ :=
  schedule.foldl (step requests) c

variable {requests} {c : Interleaving ι ε σ κ ρ} {i : ι} {schedule : List ι}

theorem run_cons : run requests (i :: schedule) c = run requests schedule (step requests c i) := rfl

theorem step_of_finished {r : Except ε ρ} (h : c.progress i = .finished r) :
    step requests c i = c := by
  unfold step
  rw [h]

theorem step_of_waiting (h : c.progress i = .waiting) :
    (step requests c i).store = ((requests i).read c.store).2 := by
  unfold step
  rw [h]
  rcases (requests i).read c.store with ⟨_ | _, _⟩ <;> rfl

theorem step_of_prepared {k : κ} (h : c.progress i = .prepared k) :
    (step requests c i).store = ((requests i).write k c.store).2 := by
  unfold step
  rw [h]

theorem finished_step {j : ι} {r : Except ε ρ} (h : c.progress i = .finished r) :
    (step requests c j).progress i = .finished r := by
  by_cases hj : i = j
  · rw [← hj, step_of_finished h]
    exact h
  · unfold step
    split
    · split <;> exact (Function.update_of_ne hj _ _).trans h
    · exact (Function.update_of_ne hj _ _).trans h
    · exact h

/-- A request succeeds by the write of its own turn. -/
theorem succeeded_step {j : ι} (h : (step requests c i).Succeeded j) :
    c.Succeeded j ∨ j = i ∧ ∃ k r, c.progress i = .prepared k ∧
      (requests i).write k c.store = (.ok r, (step requests c i).store) := by
  obtain ⟨r, hr⟩ := h
  by_cases hj : j = i
  · subst hj
    cases hprogress : c.progress j with
    | waiting =>
      unfold step at hr
      rw [hprogress] at hr
      dsimp only at hr
      split at hr <;> cases (Function.update_self ..).symm.trans hr
    | prepared k =>
      unfold step at hr
      rw [hprogress] at hr
      dsimp only at hr
      rw [Function.update_self] at hr
      have hwrite : ((requests j).write k c.store).1 = .ok r := Progress.finished.inj hr
      exact Or.inr ⟨rfl, k, r, rfl, Prod.ext hwrite (step_of_prepared hprogress).symm⟩
    | finished r' =>
      rw [step_of_finished hprogress, hprogress] at hr
      exact Or.inl ⟨r, hprogress.trans hr⟩
  · refine Or.inl ⟨r, ?_⟩
    unfold step at hr
    split at hr
    · split at hr <;> exact (Function.update_of_ne hj _ _).symm.trans hr
    · exact (Function.update_of_ne hj _ _).symm.trans hr
    · exact hr

theorem finished_run {r : Except ε ρ} (h : c.progress i = .finished r) :
    (run requests schedule c).progress i = .finished r := by
  induction schedule generalizing c with
  | nil => exact h
  | cons j rest ih => exact ih (finished_step h)

/-- The read of a request that succeeds in the end. -/
theorem run_read (hwaiting : c.progress i = .waiting)
    (h : (run requests (i :: schedule) c).Succeeded i) :
    ∃ k t, (requests i).read c.store = (.ok k, t) ∧ run requests (i :: schedule) c =
      run requests schedule ⟨t, Function.update c.progress i (.prepared k)⟩ := by
  rw [run_cons] at h ⊢
  have hstep : step requests c i = match (requests i).read c.store with
      | (.ok k, t) => ⟨t, Function.update c.progress i (.prepared k)⟩
      | (.error e, t) => ⟨t, Function.update c.progress i (.finished (.error e))⟩ := by
    rw [step, hwaiting]
  rcases hread : (requests i).read c.store with ⟨r, t⟩
  rw [hread] at hstep
  cases r with
  | ok k => exact ⟨k, t, rfl, by rw [hstep]⟩
  | error e =>
    obtain ⟨r, hr⟩ := h
    rw [hstep, finished_run (Function.update_self i _ _)] at hr
    cases hr

/-- The write of a request that succeeds in the end. -/
theorem run_write {k : κ} (hprepared : c.progress i = .prepared k)
    (h : (run requests (i :: schedule) c).Succeeded i) :
    ∃ r t, (requests i).write k c.store = (.ok r, t) ∧ run requests (i :: schedule) c =
      run requests schedule ⟨t, Function.update c.progress i (.finished (.ok r))⟩ := by
  rw [run_cons] at h ⊢
  have hstep : step requests c i = ⟨((requests i).write k c.store).2,
      Function.update c.progress i (.finished ((requests i).write k c.store).1)⟩ := by
    rw [step, hprepared]
  rcases hwrite : (requests i).write k c.store with ⟨r, t⟩
  rw [hwrite] at hstep
  cases r with
  | ok r => exact ⟨r, t, rfl, by rw [hstep]⟩
  | error e =>
    obtain ⟨r, hr⟩ := h
    rw [hstep, finished_run (Function.update_self i _ _)] at hr
    cases hr

theorem run_of_all_finished (h : ∀ i, ∃ r, c.progress i = .finished r) :
    run requests schedule c = c := by
  induction schedule with
  | nil => rfl
  | cons i rest ih =>
    obtain ⟨r, hr⟩ := h i
    rw [run_cons, step_of_finished hr]
    exact ih

end Run

/-! ### What every run keeps -/

section Invariants

variable [DecidableEq ι] (requests : ι → TwoPhase ε σ κ ρ)

/-- The condition holds at every turn of the schedule. -/
def Throughout (P : Interleaving ι ε σ κ ρ → ι → Prop) : List ι → Interleaving ι ε σ κ ρ → Prop
  | [], _ => True
  | i :: rest, c => P c i ∧ Throughout P rest (step requests c i)

instance decidableThroughout (P : Interleaving ι ε σ κ ρ → ι → Prop)
    [decidableP : ∀ c i, Decidable (P c i)] :
    (schedule : List ι) → (c : Interleaving ι ε σ κ ρ) →
      Decidable (Throughout requests P schedule c)
  | [], _ => .isTrue trivial
  | i :: rest, c =>
    haveI := decidableP c i
    haveI := decidableThroughout P rest (step requests c i)
    inferInstanceAs (Decidable (P c i ∧ Throughout requests P rest (step requests c i)))

/-- The turn, if it is a write, meets a condition on the store and on what the write was handed. -/
def AtWrite (C : σ → κ → Prop) (c : Interleaving ι ε σ κ ρ) (i : ι) : Prop :=
  ∀ k, c.progress i = .prepared k → C c.store k

instance decidableAtWrite (C : σ → κ → Prop) [decidableC : ∀ s k, Decidable (C s k)]
    (c : Interleaving ι ε σ κ ρ) (i : ι) : Decidable (AtWrite C c i) :=
  match h : c.progress i with
  | .prepared k =>
    haveI := decidableC c.store k
    decidable_of_iff (C c.store k) ⟨fun hk k' h' => by cases h.symm.trans h'; exact hk,
      fun hk => hk k h⟩
  | .waiting => .isTrue fun k hk => nomatch h.symm.trans hk
  | .finished _ => .isTrue fun k hk => nomatch h.symm.trans hk

variable {requests} {P Q : Interleaving ι ε σ κ ρ → ι → Prop} {c : Interleaving ι ε σ κ ρ}
  {schedule : List ι}

theorem Throughout.and (hP : Throughout requests P schedule c)
    (hQ : Throughout requests Q schedule c) :
    Throughout requests (fun c i => P c i ∧ Q c i) schedule c := by
  induction schedule generalizing c with
  | nil => trivial
  | cons i rest ih => exact ⟨⟨hP.1, hQ.1⟩, ih hP.2 hQ.2⟩

theorem Throughout.of_append {rest : List ι} (h : Throughout requests P (schedule ++ rest) c) :
    Throughout requests P schedule c := by
  induction schedule generalizing c with
  | nil => trivial
  | cons i _ ih => exact ⟨h.1, ih h.2⟩

theorem run_concat {i : ι} :
    run requests (schedule ++ [i]) c = step requests (run requests schedule c) i :=
  List.foldl_append

/-- A condition that holds wherever the schedule leads holds throughout. -/
theorem throughout_of_prefixes
    (h : ∀ reached i, reached ++ [i] <+: schedule → P (run requests reached c) i) :
    Throughout requests P schedule c := by
  induction schedule generalizing c with
  | nil => trivial
  | cons i rest ih =>
    refine ⟨h [] i (List.prefix_append [i] rest), ih fun reached j hprefix => ?_⟩
    exact h (i :: reached) j (List.cons_prefix_cons.mpr ⟨rfl, hprefix⟩)

/-- What one turn preserves, a run preserves. -/
theorem run_invariant {I : Interleaving ι ε σ κ ρ → Prop}
    (hstep : ∀ c i, I c → P c i → I (step requests c i)) (h : I c)
    (hP : Throughout requests P schedule c) : I (run requests schedule c) := by
  induction schedule generalizing c with
  | nil => exact h
  | cons i rest ih => exact ih (hstep c i h hP.1) hP.2

variable (requests) in
/-- Whatever a request hands to its write was read from some store. -/
def HoldsReads (c : Interleaving ι ε σ κ ρ) : Prop :=
  ∀ i k, c.progress i = .prepared k → ∃ s t, (requests i).read s = (.ok k, t)

omit [DecidableEq ι] in
theorem holdsReads_start (s : σ) : HoldsReads requests (start s) := by
  intro i k h
  cases h

theorem holdsReads_update {s : σ} {i : ι} {p : Progress ε κ ρ} (h : HoldsReads requests c)
    (hp : ∀ k, p = .prepared k → ∃ s t, (requests i).read s = (.ok k, t)) :
    HoldsReads requests ⟨s, Function.update c.progress i p⟩ := by
  intro j k hk
  by_cases hj : j = i
  · subst hj
    exact hp k ((Function.update_self j _ _).symm.trans hk)
  · exact h j k ((Function.update_of_ne hj _ _).symm.trans hk)

theorem holdsReads_step (i : ι) (h : HoldsReads requests c) :
    HoldsReads requests (step requests c i) := by
  unfold step
  split
  · split
    · next k t hread =>
      apply holdsReads_update h
      intro k' hk
      cases hk
      exact ⟨_, _, hread⟩
    · exact holdsReads_update h nofun
  · exact holdsReads_update h nofun
  · exact h

/-- What every turn preserves, a run preserves. -/
theorem run_of_step {I : Interleaving ι ε σ κ ρ → Prop} (hstep : ∀ c i, I c → I (step requests c i))
    (h : I c) : I (run requests schedule c) := by
  induction schedule generalizing c with
  | nil => exact h
  | cons i rest ih => exact ih (hstep c i h)

/-- An invariant of the store: every phase that meets the condition keeps it. What a write has
been handed comes from a read. -/
theorem run_store {I : σ → Prop}
    (hread : ∀ c i, c.progress i = .waiting → P c i → I c.store →
      I ((requests i).read c.store).2)
    (hwrite : ∀ c i k, c.progress i = .prepared k → (∃ s t, (requests i).read s = (.ok k, t)) →
      P c i → I c.store → I ((requests i).write k c.store).2)
    (hreads : HoldsReads requests c) (h : I c.store) (hP : Throughout requests P schedule c) :
    I (run requests schedule c).store := by
  refine (run_invariant (I := fun c => HoldsReads requests c ∧ I c.store) ?_ ⟨hreads, h⟩ hP).2
  intro c i hc hPc
  obtain ⟨hreads, h⟩ := hc
  refine ⟨holdsReads_step i hreads, ?_⟩
  cases hprogress : c.progress i with
  | waiting =>
    rw [step_of_waiting hprogress]
    exact hread c i hprogress hPc h
  | prepared k =>
    rw [step_of_prepared hprogress]
    exact hwrite c i k hprogress (hreads i k hprogress) hPc h
  | finished r =>
    rw [step_of_finished hprogress]
    exact h

end Invariants

/-! ### Two requests -/

section Two

variable {requests : Bool → TwoPhase ε σ κ ρ} {c : Interleaving Bool ε σ κ ρ} {i : Bool}
  {schedule : List Bool}

/-- How two requests follow each other: one after the other, or both reads before the first
write. The request that writes first is named. -/
inductive Order where
  | serial (first : Bool)
  | overlapped (first : Bool)
  deriving DecidableEq

def order : List Bool → Option Order
  | i :: j :: rest => if i = j then some (.serial i) else rest.head?.map .overlapped
  | _ => none

/-- The phases of two successful requests in their order, from the store `s` to the store `t`. -/
def Executes (requests : Bool → TwoPhase ε σ κ ρ) (s t : σ) : Order → Prop
  | .serial i => ∃ r r' s',
      (requests i).whole s = (.ok r, s') ∧ (requests !i).whole s' = (.ok r', t)
  | .overlapped i => ∃ (k : Bool → κ) (b : Bool) (r r' : ρ) (s₁ s₂ s₃ : σ),
      (requests b).read s = (.ok (k b), s₁) ∧ (requests !b).read s₁ = (.ok (k !b), s₂) ∧
      (requests i).write (k i) s₂ = (.ok r, s₃) ∧ (requests !i).write (k !i) s₃ = (.ok r', t)

theorem all_finished {r r' : Except ε ρ} (h : c.progress i = .finished r)
    (h' : c.progress (!i) = .finished r') : ∀ j, ∃ r, c.progress j = .finished r := by
  intro j
  rcases Bool.eq_or_eq_not j i with rfl | rfl
  · exact ⟨r, h⟩
  · exact ⟨r', h'⟩

/-- The last write, when the other request has finished. -/
theorem run_last_write {k : κ} {r : Except ε ρ} (hprepared : c.progress i = .prepared k)
    (hother : c.progress (!i) = .finished r) (h : (run requests schedule c).Succeeded i) :
    ∃ r', (requests i).write k c.store = (.ok r', (run requests schedule c).store) := by
  induction schedule with
  | nil =>
    obtain ⟨r', hr'⟩ := h
    cases hprepared.symm.trans hr'
  | cons j rest ih =>
    rcases Bool.eq_or_eq_not j i with rfl | rfl
    · obtain ⟨r', t, hwrite, hrun⟩ := run_write hprepared h
      refine ⟨r', ?_⟩
      rw [hrun, run_of_all_finished (all_finished (i := j) (Function.update_self ..)
        ((Function.update_of_ne (Bool.not_ne_self j) ..).trans hother))]
      exact hwrite
    · rw [run_cons, step_of_finished hother] at h ⊢
      exact ih h

/-- The last request, when the other one has finished. -/
theorem run_last {r : Except ε ρ} (hwaiting : c.progress i = .waiting)
    (hother : c.progress (!i) = .finished r) (h : (run requests schedule c).Succeeded i) :
    ∃ r', (requests i).whole c.store = (.ok r', (run requests schedule c).store) := by
  induction schedule with
  | nil =>
    obtain ⟨r', hr'⟩ := h
    cases hwaiting.symm.trans hr'
  | cons j rest ih =>
    rcases Bool.eq_or_eq_not j i with rfl | rfl
    · obtain ⟨k, t, hread, hrun⟩ := run_read hwaiting h
      rw [hrun] at h ⊢
      obtain ⟨r', hwrite⟩ := run_last_write (Function.update_self ..)
        ((Function.update_of_ne (Bool.not_ne_self j) ..).trans hother) h
      exact ⟨r', Prog.bind_eq_ok.mpr ⟨k, t, hread, hwrite⟩⟩
    · rw [run_cons, step_of_finished hother] at h ⊢
      exact ih h

/-- Both writes, when both requests have read. -/
theorem run_both_prepared {k : Bool → κ} (hprepared : ∀ j, c.progress j = .prepared (k j))
    (h : ∀ j, (run requests (i :: schedule) c).Succeeded j) :
    ∃ r r' t, (requests i).write (k i) c.store = (.ok r, t) ∧
      (requests !i).write (k !i) t = (.ok r', (run requests (i :: schedule) c).store) := by
  obtain ⟨r, t, hwrite, hrun⟩ := run_write (hprepared i) (h i)
  have hlast := h !i
  rw [hrun] at hlast ⊢
  obtain ⟨r', hwrite'⟩ := run_last_write ((Function.update_of_ne (Bool.not_ne_self i) ..).trans
    (hprepared !i)) ((congrArg _ (Bool.not_not i)).trans (Function.update_self ..)) hlast
  exact ⟨r, r', t, hwrite, hwrite'⟩

/-- The rest of a run, when one request has read and the other one reads next. -/
theorem run_second_read {k : κ} (hprepared : c.progress i = .prepared k)
    (hother : c.progress (!i) = .waiting)
    (h : ∀ j, (run requests ((!i) :: schedule) c).Succeeded j) :
    ∃ (f : Bool) (ks : Bool → κ) (r r' : ρ) (s t : σ), schedule.head? = some f ∧ ks i = k ∧
      (requests !i).read c.store = (.ok (ks !i), s) ∧ (requests f).write (ks f) s = (.ok r, t) ∧
      (requests !f).write (ks !f) t = (.ok r', (run requests ((!i) :: schedule) c).store) := by
  obtain ⟨k', s, hread, hrun⟩ := run_read hother (h !i)
  rw [hrun] at h ⊢
  cases schedule with
  | nil =>
    obtain ⟨r, hr⟩ := h !i
    cases (Function.update_self ..).symm.trans hr
  | cons f rest =>
    let ks : Bool → κ := Function.update (fun _ => k) (!i) k'
    have hself : ks i = k := Function.update_of_ne (Bool.self_ne_not i) ..
    have hnot : ks (!i) = k' := Function.update_self ..
    have hboth (j : Bool) :
        Function.update c.progress (!i) (.prepared k') j = .prepared (ks j) := by
      rcases Bool.eq_or_eq_not j i with rfl | rfl
      · rw [Function.update_of_ne (Bool.self_ne_not j), hprepared, hself]
      · rw [Function.update_self, hnot]
    obtain ⟨r, r', t, hwrite, hwrite'⟩ := run_both_prepared hboth h
    exact ⟨f, ks, r, r', s, t, rfl, hself, hnot ▸ hread, hwrite, hwrite'⟩

/-- Two requests that both succeed have run in one of the two orders. -/
theorem run_order {s : σ} (h : ∀ i, (run requests schedule (start s)).Succeeded i) :
    ∃ o, order schedule = some o ∧
      Executes requests s (run requests schedule (start s)).store o := by
  match schedule with
  | [] =>
    obtain ⟨r, hr⟩ := h true
    cases hr
  | i :: rest =>
    obtain ⟨k, s₁, hread, hrun⟩ :=
      run_read (show (start s : Interleaving Bool ε σ κ ρ).progress i = .waiting from rfl) (h i)
    rw [hrun] at h ⊢
    have hother : Function.update (start s : Interleaving Bool ε σ κ ρ).progress i (.prepared k)
        (!i) = .waiting := Function.update_of_ne (Bool.not_ne_self i) ..
    match rest with
    | [] =>
      obtain ⟨r, hr⟩ := h !i
      cases hother.symm.trans hr
    | j :: rest =>
      rcases Bool.eq_or_eq_not j i with rfl | rfl
      · obtain ⟨r, s₂, hwrite, hrun⟩ := run_write (Function.update_self ..) (h j)
        rw [hrun] at h ⊢
        refine ⟨.serial j, if_pos rfl, ?_⟩
        obtain ⟨r', hwhole⟩ := run_last
          ((Function.update_of_ne (Bool.not_ne_self j) ..).trans hother)
          ((congrArg _ (Bool.not_not j)).trans (Function.update_self ..)) (h !j)
        exact ⟨r, r', s₂, Prog.bind_eq_ok.mpr ⟨k, s₁, hread, hwrite⟩, hwhole⟩
      · obtain ⟨f, ks, r, r', s₂, s₃, hfirst, hk, hread', hwrite, hwrite'⟩ :=
          run_second_read (Function.update_self ..) hother h
        refine ⟨.overlapped f, ?_, ks, i, r, r', s₁, s₂, s₃, hk ▸ hread, hread', hwrite, hwrite'⟩
        rw [order, if_neg (Bool.self_ne_not i), hfirst]
        rfl

end Two

end Interleaving

end Relational
