/-
# Step functions, runs and invariants

A concurrent component is given by a step function `step : σ → α → Option σ`: a state, a
label that says which task moves (and what the environment answered), and the next state, or
`none` where that task cannot make that move.  An interleaving is a list of labels.

Three views of the same thing are kept, because they are used for different purposes:

* `run` EVALUATES a list of labels.  It is a function, so a concrete schedule can be computed;
* `Path step P s t` is the relation "some run from `s` reaches `t`, and every step of it was
  taken in a state and with a label that `P` allows".  A theorem about every run whose steps
  meet a condition is a theorem about `Path`;
* `Reachable` is the unconditional `Path` from one initial state.

`Path.invariant` is the only induction over runs: everything else is a step lemma.

§4 is about the logs that such a component keeps: that nothing of one kind comes after something of
another (`NothingAfter`), and that every entry stands behind what it needs (`Preceded`).
-/
import Mathlib.Logic.Relation

namespace Lts

variable {σ α : Type}

/-! ## 1. Runs -/

/-- Run a list of labels; the run stops with `none` at the first disabled one. -/
def run (step : σ → α → Option σ) : σ → List α → Option σ
  | s, [] => some s
  | s, a :: as => (step s a).bind fun s' => run step s' as

@[simp] theorem run_nil (step : σ → α → Option σ) (s : σ) : run step s [] = some s := rfl

@[simp] theorem run_cons (step : σ → α → Option σ) (s : σ) (a : α) (as : List α) :
    run step s (a :: as) = (step s a).bind fun s' => run step s' as := rfl

/-- Runs compose. -/
theorem run_append (step : σ → α → Option σ) (as bs : List α) (s : σ) :
    run step s (as ++ bs) = (run step s as).bind fun s' => run step s' bs := by
  induction as generalizing s with
  | nil => rfl
  | cons a as ih =>
    simp only [List.cons_append, run_cons]
    cases step s a with
    | none => rfl
    | some s' => exact ih s'

theorem run_append_of_eq {step : σ → α → Option σ} {as bs : List α} {s t : σ}
    (h : run step s as = some t) : run step s (as ++ bs) = run step t bs := by
  rw [run_append, h]; rfl

/-- **The invariant rule with the past.**  What holds of the start and no labels, and is kept by
every step together with its label, holds of the labels of a run and its end. -/
theorem run_history {step : σ → α → Option σ} {I : List α → σ → Prop} {as : List α} {s t : σ}
    (h0 : I [] s) (hstep : ∀ past s a s', I past s → step s a = some s' → I (past ++ [a]) s')
    (h : run step s as = some t) : I as t := by
  suffices hfrom : ∀ past s, I past s → run step s as = some t →
      I (past ++ as) t from hfrom [] s h0 h
  clear h h0
  induction as with
  | nil =>
    intro past s hI h
    cases h
    rwa [List.append_nil]
  | cons a as ih =>
    intro past s hI h
    obtain ⟨s', hs, hrun⟩ := Option.bind_eq_some_iff.mp h
    have hrest := ih (past ++ [a]) s' (hstep past s a s' hI hs) hrun
    rwa [List.append_assoc] at hrest

/-- A block of labels that takes the `k`-th state of a family to the next one takes the
first state to the `n`-th when it is repeated `n` times. -/
theorem run_iterate {step : σ → α → Option σ} (f : Nat → σ) (block : Nat → List α) (n : Nat)
    (h : ∀ k, k < n → run step (f k) (block k) = some (f (k + 1))) :
    run step (f 0) ((List.range n).flatMap block) = some (f n) := by
  induction n with
  | zero => rfl
  | succ n ih =>
    rw [List.range_succ, List.flatMap_append,
      run_append_of_eq (ih fun k hk => h k (Nat.lt_succ_of_lt hk))]
    simpa using h n (Nat.lt_succ_self n)

/-! ## 2. Paths whose steps meet a condition -/

/-- `Path step P s t`: a run from `s` to `t`, each step of which was taken from a state and
with a label that `P` allows. -/
inductive Path (step : σ → α → Option σ) (P : σ → α → Prop) : σ → σ → Prop
  | refl (s : σ) : Path step P s s
  | tail {s t u : σ} {a : α} : Path step P s t → P t a → step t a = some u → Path step P s u

variable {step : σ → α → Option σ} {P Q : σ → α → Prop} {s t u : σ}

theorem Path.trans (h : Path step P s t) (h' : Path step P t u) : Path step P s u := by
  induction h' with
  | refl => exact h
  | tail _ hp hs ih => exact ih.tail hp hs

/-- Weakening the condition keeps the path. -/
theorem Path.mono (hPQ : ∀ s a, P s a → Q s a) (h : Path step P s t) : Path step Q s t := by
  induction h with
  | refl => exact .refl _
  | tail _ hp hs ih => exact ih.tail (hPQ _ _ hp) hs

/-- **The invariant rule.**  What holds at the start and is kept by every allowed step holds
at the end of every path. -/
theorem Path.invariant {I : σ → Prop} (h : Path step P s t) (h0 : I s)
    (hstep : ∀ s a s', I s → P s a → step s a = some s' → I s') : I t := by
  induction h with
  | refl => exact h0
  | tail _ hp hs ih => exact hstep _ _ _ ih hp hs

/-- Every step that the labels `as` take from `s` is one that `P` allows. -/
def Allowed (step : σ → α → Option σ) (P : σ → α → Prop) : σ → List α → Prop
  | _, [] => True
  | s, a :: as => P s a ∧ ∀ s', step s a = some s' → Allowed step P s' as

/-- Whether a schedule is allowed is computed along its run. -/
instance Allowed.decidable [∀ s a, Decidable (P s a)] :
    ∀ (as : List α) (s : σ), Decidable (Allowed step P s as)
  | [], _ => isTrue trivial
  | a :: as, s =>
    have : Decidable (∀ s', step s a = some s' → Allowed step P s' as) :=
      match step s a with
      | none => isTrue nofun
      | some s' =>
        match Allowed.decidable as s' with
        | isTrue h => isTrue fun _ he => Option.some.inj he ▸ h
        | isFalse h => isFalse fun hall => h (hall s' rfl)
    inferInstanceAs (Decidable (_ ∧ _))

/-- Labels that are allowed in every state. -/
theorem allowed_of_mem : ∀ (as : List α), (∀ a ∈ as, ∀ s, P s a) → ∀ s, Allowed step P s as
  | [], _, _ => trivial
  | a :: as, hP, s => ⟨hP a List.mem_cons_self s,
      fun s' _ => allowed_of_mem as (fun b hb => hP b (List.mem_cons_of_mem a hb)) s'⟩

theorem allowed_of_forall (hP : ∀ s a, P s a) (as : List α) (s : σ) : Allowed step P s as :=
  allowed_of_mem as (fun a _ s => hP s a) s

/-- An evaluated run is a path, as soon as every step it takes is allowed. -/
theorem Path.of_run {as : List α} (hP : Allowed step P s as) (h : run step s as = some t) :
    Path step P s t := by
  induction as generalizing s with
  | nil => cases h; exact .refl _
  | cons a as ih =>
    simp only [run_cons, Option.bind_eq_some_iff] at h
    obtain ⟨s', hs, hr⟩ := h
    exact (Path.tail (.refl s) hP.1 hs).trans (ih (hP.2 s' hs) hr)

/-! ## 3. Reachability -/

/-- Reached from `s` by some run, with no condition on its steps. -/
def Reachable (step : σ → α → Option σ) (s t : σ) : Prop := Path step (fun _ _ => True) s t

theorem Reachable.of_run {as : List α} (h : run step s as = some t) : Reachable step s t :=
  Path.of_run (allowed_of_forall (fun _ _ => trivial) as s) h

theorem Path.reachable (h : Path step P s t) : Reachable step s t := h.mono fun _ _ _ => trivial

theorem Reachable.refl (s : σ) : Reachable step s s := Path.refl s

theorem Reachable.trans (h : Reachable step s t) (h' : Reachable step t u) :
    Reachable step s u := Path.trans h h'

/-- One step. -/
theorem Reachable.one {a : α} (h : step s a = some t) : Reachable step s t :=
  (Path.refl s).tail trivial h

theorem Reachable.invariant {I : σ → Prop} (h : Reachable step s t) (h0 : I s)
    (hstep : ∀ s a s', I s → step s a = some s' → I s') : I t :=
  Path.invariant h h0 fun s a s' hI _ hs => hstep s a s' hI hs

/-! ## 4. The order of a log -/

section Log

variable {ε : Type} {p q : ε → Prop} {l : List ε} {e : ε}

/-- In a log, nothing that `q` holds of comes after something that `p` holds of. -/
def NothingAfter (p q : ε → Prop) (l : List ε) : Prop := l.Pairwise fun x later => p x → ¬ q later

instance [DecidablePred p] [DecidablePred q] : Decidable (NothingAfter p q l) :=
  inferInstanceAs (Decidable (l.Pairwise _))

theorem nothingAfter_snoc :
    NothingAfter p q (l ++ [e]) ↔ NothingAfter p q l ∧ (q e → ∀ x ∈ l, ¬ p x) := by
  rw [NothingAfter, List.pairwise_append]
  constructor
  · rintro ⟨hl, -, hcross⟩
    exact ⟨hl, fun he x hx hp => hcross x hx e (List.mem_singleton_self e) hp he⟩
  · rintro ⟨hl, hlast⟩
    refine ⟨hl, List.pairwise_singleton _ _, ?_⟩
    intro x hx y hy hp hq
    rw [List.mem_singleton.mp hy] at hq
    exact hlast hq x hx hp

/-- What comes after a marked entry. -/
theorem NothingAfter.of_split {before after : List ε}
    (h : NothingAfter p q (before ++ e :: after)) (he : p e) : ∀ x ∈ after, ¬ q x := by
  intro x hx
  exact (List.pairwise_cons.mp (List.pairwise_append.mp h).2.1).1 x hx he

/-- In a log, every entry stands behind what `r` asks for it. -/
def Preceded (r : ε → List ε → Prop) (l : List ε) : Prop :=
  ∀ before e after, l = before ++ e :: after → r e before

variable {r : ε → List ε → Prop}

theorem Preceded.nil : Preceded r [] := by
  intro before e after h
  exact absurd h.symm (by simp)

theorem Preceded.snoc (h : Preceded r l) (he : r e l) : Preceded r (l ++ [e]) := by
  intro before x after hsplit
  rcases List.eq_nil_or_concat after with rfl | ⟨after, y, rfl⟩
  · obtain ⟨rfl, hx⟩ := List.append_inj' hsplit rfl
    cases hx
    exact he
  · have hsplit : l ++ [e] = (before ++ x :: after) ++ [y] := by simpa using hsplit
    exact h before x after (List.append_inj' hsplit rfl).1

end Log

end Lts
