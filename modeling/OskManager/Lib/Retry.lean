import Mathlib.Data.List.Infix
import OskManager.Lib.TwoPhase

/-! Requests whose writes are tried again. A write is one transaction, which the store may turn away
because of a conflict with another one; a write that is turned away has written nothing, and is
tried again as long as its tries last. A run with conflicts comes to the same store as a run of the
same requests without them, in which the writes that were given up are never reached. -/

namespace Relational

universe u v w x

/-- How far a request has come, and how often its write was turned away. -/
inductive Tries (ε : Type u) (κ ρ : Type w) where
  | waiting
  | prepared (k : κ) (failed : ℕ)
  | finished (r : Except ε ρ)

/-- The store and how far each request has come. -/
structure Retries (ι : Type x) (ε : Type u) (σ : Type v) (κ ρ : Type w) where
  store : σ
  progress : ι → Tries ε κ ρ

namespace Retries

open Interleaving

variable {ι : Type x} {ε : Type u} {σ : Type v} {κ ρ : Type w}

def start (s : σ) : Retries ι ε σ κ ρ := ⟨s, fun _ => .waiting⟩

/-- What a write is after it was turned away `failed` times. -/
def turnedAway (limit : ℕ) (exhausted : ε) (k : κ) (failed : ℕ) : Tries ε κ ρ :=
  if failed < limit then .prepared k failed else .finished (.error exhausted)

section Run

variable [DecidableEq ι] (requests : ι → TwoPhase ε σ κ ρ) (limit : ℕ) (exhausted : ε)

/-- The next turn of the request `i`, and whether its write is turned away in it. -/
def step (c : Retries ι ε σ κ ρ) (turn : ι × Bool) : Retries ι ε σ κ ρ :=
  match c.progress turn.1 with
  | .waiting =>
    match (requests turn.1).read c.store with
    | (.ok k, t) => ⟨t, Function.update c.progress turn.1 (.prepared k 0)⟩
    | (.error e, t) => ⟨t, Function.update c.progress turn.1 (.finished (.error e))⟩
  | .prepared k failed =>
    if turn.2 then
      ⟨c.store, Function.update c.progress turn.1 (turnedAway limit exhausted k (failed + 1))⟩
    else
      let outcome := (requests turn.1).write k c.store
      ⟨outcome.2, Function.update c.progress turn.1 (.finished outcome.1)⟩
  | .finished _ => c

def run (turns : List (ι × Bool)) (c : Retries ι ε σ κ ρ) : Retries ι ε σ κ ρ :=
  turns.foldl (step requests limit exhausted) c

/-- The condition holds of the store and of what the write was handed, whenever a write is not
turned away. -/
def AtWrites (C : σ → κ → Prop) : List (ι × Bool) → Retries ι ε σ κ ρ → Prop
  | [], _ => True
  | turn :: rest, c =>
    (turn.2 = false → ∀ k failed, c.progress turn.1 = .prepared k failed → C c.store k) ∧
      AtWrites C rest (step requests limit exhausted c turn)

instance decidableAtWrites (C : σ → κ → Prop) [decidableC : ∀ s k, Decidable (C s k)] :
    (turns : List (ι × Bool)) → (c : Retries ι ε σ κ ρ) →
      Decidable (AtWrites requests limit exhausted C turns c)
  | [], _ => .isTrue trivial
  | turn :: rest, c =>
    haveI : Decidable (∀ k failed, c.progress turn.1 = .prepared k failed → C c.store k) :=
      match h : c.progress turn.1 with
      | .prepared k failed =>
        haveI := decidableC c.store k
        decidable_of_iff (C c.store k) ⟨fun hk k' failed' h' => by cases h'; exact hk,
          fun hk => hk k failed rfl⟩
      | .waiting => .isTrue nofun
      | .finished _ => .isTrue nofun
    haveI := decidableAtWrites C rest (step requests limit exhausted c turn)
    inferInstanceAs (Decidable ((turn.2 = false → _) ∧ _))

/-- The same request without conflicts; one whose write was given up does not get to it. -/
inductive Matches : Tries ε κ ρ → Progress ε κ ρ → Prop
  | waiting : Matches .waiting .waiting
  | prepared (k : κ) (failed : ℕ) : Matches (.prepared k failed) (.prepared k)
  | finished (r : Except ε ρ) : Matches (.finished r) (.finished r)
  | givenUp (k : κ) : Matches (.finished (.error exhausted)) (.prepared k)

structure Agrees (c : Retries ι ε σ κ ρ) (p : Interleaving ι ε σ κ ρ) : Prop where
  store : p.store = c.store
  progress : ∀ i, Matches exhausted (c.progress i) (p.progress i)

variable {requests limit exhausted} {c : Retries ι ε σ κ ρ} {p : Interleaving ι ε σ κ ρ}
  {turns : List (ι × Bool)}

omit [DecidableEq ι] in
theorem agrees_start (s : σ) :
    Agrees exhausted (start s : Retries ι ε σ κ ρ) (Interleaving.start s) :=
  ⟨rfl, fun _ => .waiting⟩

theorem turnedAway_matches (k : κ) (failed : ℕ) :
    Matches exhausted (turnedAway limit exhausted k failed : Tries ε κ ρ) (.prepared k) := by
  unfold turnedAway
  split
  · exact .prepared k failed
  · exact .givenUp k

/-- The same change of one request on both sides. -/
theorem Agrees.update (h : Agrees exhausted c p) (s : σ) (i : ι) {q : Tries ε κ ρ}
    {q' : Progress ε κ ρ} (hq : Matches exhausted q q') :
    Agrees exhausted ⟨s, Function.update c.progress i q⟩
      ⟨s, Function.update p.progress i q'⟩ where
  store := rfl
  progress j := by
    dsimp only
    by_cases hij : j = i
    · subst hij
      rwa [Function.update_self, Function.update_self]
    · rw [Function.update_of_ne hij, Function.update_of_ne hij]
      exact h.progress j

/-- A turn in which a write is turned away, or a request has finished, is none of the run without
conflicts; every other turn is one of it. -/
theorem Agrees.step (h : Agrees exhausted c p) (turn : ι × Bool) :
    Agrees exhausted (Retries.step requests limit exhausted c turn) p ∨
      (∀ k, p.progress turn.1 = .prepared k →
        turn.2 = false ∧ ∃ failed, c.progress turn.1 = .prepared k failed) ∧
      Agrees exhausted (Retries.step requests limit exhausted c turn)
        (Interleaving.step requests p turn.1) := by
  have hmatch := h.progress turn.1
  unfold Retries.step Interleaving.step
  rw [h.store]
  generalize hc : c.progress turn.1 = q at hmatch
  generalize hp : p.progress turn.1 = q' at hmatch
  cases hmatch with
  | waiting =>
    refine Or.inr ⟨nofun, ?_⟩
    dsimp only
    rcases (requests turn.1).read c.store with ⟨_ | _, t⟩
    · exact h.update _ _ (.finished _)
    · exact h.update _ _ (.prepared _ _)
  | prepared k failed =>
    dsimp only
    split
    · have hturned : Matches exhausted (turnedAway limit exhausted k (failed + 1) : Tries ε κ ρ)
          (.prepared k) := turnedAway_matches k (failed + 1)
      have hkept := h.update c.store turn.1 hturned
      rw [← hp, Function.update_eq_self, ← h.store] at hkept
      exact Or.inl (h.store ▸ hkept)
    · next hpassed =>
      refine Or.inr ⟨fun k' hk => ?_, h.update _ _ (.finished _)⟩
      cases hk
      exact ⟨Bool.eq_false_iff.mpr hpassed, failed, rfl⟩
  | finished r => exact Or.inl h
  | givenUp k => exact Or.inl h

/-- A run with conflicts is a run without them. -/
theorem Agrees.run {C : σ → κ → Prop} (h : Agrees exhausted c p)
    (hC : AtWrites requests limit exhausted C turns c) : ∃ schedule : List ι,
      schedule.Sublist (turns.map Prod.fst) ∧
      Throughout requests (AtWrite C) schedule p ∧
      Agrees exhausted (Retries.run requests limit exhausted turns c)
        (Interleaving.run requests schedule p) := by
  induction turns generalizing c p with
  | nil => exact ⟨[], List.Sublist.refl _, trivial, h⟩
  | cons turn rest ih =>
    obtain ⟨hfirst, hrest⟩ := hC
    rcases h.step turn with hskip | ⟨hwrite, hstep⟩
    · obtain ⟨schedule, hsub, hwrites, hagrees⟩ := ih hskip hrest
      exact ⟨schedule, hsub.cons _, hwrites, hagrees⟩
    · obtain ⟨schedule, hsub, hwrites, hagrees⟩ := ih hstep hrest
      refine ⟨turn.1 :: schedule, hsub.cons_cons _, ⟨fun k hk => ?_, hwrites⟩, hagrees⟩
      obtain ⟨hpassed, failed, hprepared⟩ := hwrite k hk
      rw [h.store]
      exact hfirst hpassed k failed hprepared

theorem run_cons (turn : ι × Bool) : run requests limit exhausted (turn :: turns) c =
    run requests limit exhausted turns (step requests limit exhausted c turn) := rfl

theorem step_turnedAway {i : ι} {k : κ} {failed : ℕ} (h : c.progress i = .prepared k failed) :
    step requests limit exhausted c (i, true) =
      ⟨c.store, Function.update c.progress i (turnedAway limit exhausted k (failed + 1))⟩ := by
  rw [step, h]
  rfl

theorem step_passed {i : ι} {k : κ} {failed : ℕ} (h : c.progress i = .prepared k failed) :
    step requests limit exhausted c (i, false) =
      ⟨((requests i).write k c.store).2,
        Function.update c.progress i (.finished ((requests i).write k c.store).1)⟩ := by
  rw [step, h]
  rfl

theorem step_of_finished {turn : ι × Bool} {r : Except ε ρ}
    (h : c.progress turn.1 = .finished r) : step requests limit exhausted c turn = c := by
  rw [step, h]

/-- Further turns of requests that have finished. -/
theorem run_of_finished (h : ∀ turn ∈ turns, ∃ r, c.progress turn.1 = .finished r) :
    run requests limit exhausted turns c = c := by
  induction turns with
  | nil => rfl
  | cons turn rest ih =>
    obtain ⟨r, hr⟩ := h turn List.mem_cons_self
    rw [run_cons, step_of_finished hr]
    exact ih fun t ht => h t (List.mem_cons_of_mem _ ht)

theorem atWrites_of_forall {C : σ → κ → Prop} (hC : ∀ s k, C s k) :
    AtWrites requests limit exhausted C turns c := by
  induction turns generalizing c with
  | nil => trivial
  | cons turn _ ih => exact ⟨fun _ k _ _ => hC c.store k, ih⟩

theorem AtWrites.of_append {C : σ → κ → Prop} {rest : List (ι × Bool)}
    (h : AtWrites requests limit exhausted C (turns ++ rest) c) :
    AtWrites requests limit exhausted C turns c := by
  induction turns generalizing c with
  | nil => trivial
  | cons turn _ ih => exact ⟨h.1, ih h.2⟩

/-! ### Every request ends -/

/-- How many turns a request may still need. -/
def turnsLeft (limit : ℕ) : Tries ε κ ρ → ℕ
  | .waiting => limit - 1 + 2
  | .prepared _ failed => limit - (failed + 1) + 1
  | .finished _ => 0

omit [DecidableEq ι] in
theorem finished_of_turnsLeft {q : Tries ε κ ρ} (h : turnsLeft limit q = 0) :
    ∃ r, q = .finished r := by
  cases q with
  | waiting => exact absurd h (Nat.succ_ne_zero _)
  | prepared k failed => exact absurd h (Nat.succ_ne_zero _)
  | finished r => exact ⟨r, rfl⟩

theorem turnsLeft_turnedAway (k : κ) (failed : ℕ) :
    turnsLeft limit (turnedAway limit exhausted k (failed + 1) : Tries ε κ ρ) ≤
      limit - (failed + 1) := by
  unfold turnedAway
  split
  · simp only [turnsLeft]
    omega
  · exact Nat.zero_le _

theorem progress_self (s : σ) (i : ι) (q : Tries ε κ ρ) :
    (⟨s, Function.update c.progress i q⟩ : Retries ι ε σ κ ρ).progress i = q :=
  Function.update_self ..

theorem progress_other (s : σ) {i j : ι} (h : i ≠ j) (q : Tries ε κ ρ) :
    (⟨s, Function.update c.progress j q⟩ : Retries ι ε σ κ ρ).progress i = c.progress i :=
  Function.update_of_ne h ..

theorem turnsLeft_step (turn : ι × Bool) (i : ι) :
    turnsLeft limit ((step requests limit exhausted c turn).progress i) ≤
      turnsLeft limit (c.progress i) - if turn.1 = i then 1 else 0 := by
  by_cases hi : turn.1 = i
  · subst hi
    rw [if_pos rfl, step]
    cases hc : c.progress turn.1 with
    | waiting =>
      dsimp only
      rcases (requests turn.1).read c.store with ⟨_ | _, t⟩
      · rw [progress_self]
        exact Nat.zero_le _
      · rw [progress_self]
        simp only [turnsLeft]
        omega
    | prepared k failed =>
      dsimp only
      split
      · rw [progress_self]
        exact turnsLeft_turnedAway k failed
      · rw [progress_self]
        exact Nat.zero_le _
    | finished r =>
      dsimp only
      rw [hc]
      exact Nat.zero_le _
  · rw [if_neg hi, step]
    split
    · split <;> rw [progress_other _ (Ne.symm hi)] <;> exact le_rfl
    · split <;> rw [progress_other _ (Ne.symm hi)] <;> exact le_rfl
    · exact le_rfl

theorem turnsLeft_run (i : ι) :
    turnsLeft limit ((run requests limit exhausted turns c).progress i) ≤
      turnsLeft limit (c.progress i) - turns.countP fun turn => decide (turn.1 = i) := by
  induction turns generalizing c with
  | nil => exact le_rfl
  | cons turn rest ih =>
    rw [List.countP_cons, run_cons]
    have hstep : turnsLeft limit ((step requests limit exhausted c turn).progress i) ≤ _ :=
      turnsLeft_step turn i
    refine ih.trans ?_
    simp only [decide_eq_true_eq]
    omega

/-- A request that has had a turn for its read and one for each try of its write has ended. -/
theorem run_finished (hlimit : 0 < limit) (s : σ) (i : ι)
    (h : limit < turns.countP fun turn => decide (turn.1 = i)) :
    ∃ r, (run requests limit exhausted turns (start s)).progress i = .finished r := by
  have hleft : turnsLeft limit ((run requests limit exhausted turns (start s)).progress i) ≤ _ :=
    turnsLeft_run i
  have hstart : turnsLeft limit ((start s : Retries ι ε σ κ ρ).progress i) = limit - 1 + 2 := rfl
  have hzero : turnsLeft limit ((run requests limit exhausted turns (start s)).progress i) = 0 := by
    omega
  exact finished_of_turnsLeft hzero

end Run

end Retries

end Relational
