import Mathlib.Logic.Function.Basic
import Mathlib.Logic.Relation
import ApprovalDesk.Proofs.Concurrent.Log

/-!
# Calls that run at the same time

A pool holds what is left of each call, the world that the calls share, and the log of the turns they
have taken. It moves when one of the calls takes a turn, and also when something happens around the
store: the clock moves, forwards or backwards, the store goes down or comes back, random bytes run out,
events are read. In every pool that can be reached the log explains both the store and what is left of
each call (`consistent`).
-/

namespace ApprovalDesk

set_option autoImplicit false

open ApprovalDesk.Dialogue

/-- Calls that run at the same time, one for each task. -/
structure Pool (ι : Type) where
  world : World
  /-- What is left of each call. -/
  left : ι → Flow Answer
  log : List (ι × Turn)

variable {ι : Type} [DecidableEq ι]

/-- The turns of a log that a task took. -/
def ownTurns (i : ι) (log : List (ι × Turn)) : List Turn :=
  log.filterMap fun (j, t) => if j = i then some t else none

theorem mem_ownTurns {i : ι} {t : Turn} {log : List (ι × Turn)} : t ∈ ownTurns i log ↔ (i, t) ∈ log := by
  unfold ownTurns
  rw [List.mem_filterMap]
  constructor
  · rintro ⟨⟨j, u⟩, member, own⟩
    obtain ⟨rfl, rfl⟩ : j = i ∧ u = t := by simpa using own
    exact member
  · intro member
    exact ⟨(i, t), member, by simp⟩

theorem ownTurns_concat_self (i : ι) (t : Turn) (log : List (ι × Turn)) :
    ownTurns i (log ++ [(i, t)]) = ownTurns i log ++ [t] := by
  simp [ownTurns]

theorem ownTurns_concat_of_ne {i j : ι} (t : Turn) (log : List (ι × Turn)) (other : j ≠ i) :
    ownTurns i (log ++ [(j, t)]) = ownTurns i log := by
  simp [ownTurns, other]

/-- The place of one of its turns in the log, with the turns that the task took before. -/
theorem log_of_ownTurns {i : ι} {t : Turn} {first second : List Turn} {log : List (ι × Turn)}
    (h : ownTurns i log = first ++ t :: second) :
    ∃ past future, log = past ++ (i, t) :: future ∧ ownTurns i past = first := by
  obtain ⟨front, back, rfl, early, late⟩ := List.filterMap_eq_append_iff.1 h
  obtain ⟨others, ⟨j, u⟩, future, rfl, foreign, own, -⟩ := List.filterMap_eq_cons_iff.1 late
  obtain ⟨rfl, rfl⟩ : j = i ∧ u = t := by simpa using own
  refine ⟨front ++ others, future, by simp, ?_⟩
  have none : others.filterMap _ = [] := List.filterMap_eq_nil_iff.2 foreign
  rw [ownTurns, List.filterMap_append, early, none, List.append_nil]

namespace Pool

/-- The calls before any of them has taken a turn. -/
def start (s : Settings) (calls : ι → Call) (w : World) : Pool ι := ⟨w, fun i => (calls i).flow s, []⟩

/-- A task takes its next turn, if there is one. -/
def turn (p : Pool ι) (i : ι) : Pool ι :=
  match p.left i with
  | .ask q next =>
    { world := (p.world.answer q).2
      left := Function.update p.left i (resume next (p.world.answer q).1)
      log := p.log ++ [(i, ⟨q, (p.world.answer q).1⟩)] }
  | .done _ | .crash _ => p

/-- What can happen next. -/
inductive Move : Pool ι → Pool ι → Prop where
  | turn (p : Pool ι) (i : ι) : Move p (p.turn i)
  | outside (p : Pool ι) (w : World) (kept : w.store = p.world.store) : Move p { p with world := w }

/-- A pool that the calls can come to. -/
def Reachable : Pool ι → Pool ι → Prop := Relation.ReflTransGen Move

/-- Turns taken in some order. -/
theorem reachable_turns (p : Pool ι) (tasks : List ι) : Reachable p (tasks.foldl turn p) := by
  induction tasks generalizing p with
  | nil => exact .refl
  | cons i tasks ih => exact .head (.turn p i) (ih (p.turn i))

/-- The log explains the store and what is left of each call. -/
structure Consistent (s : Settings) (calls : ι → Call) (w : World) (p : Pool ι) : Prop where
  history : Log w.store p.log p.world.store
  leads : ∀ i, Leads ((calls i).flow s) (ownTurns i p.log) (p.left i)

variable {s : Settings} {calls : ι → Call} {w : World} {p q : Pool ι}

theorem consistent_start (s : Settings) (calls : ι → Call) (w : World) :
    Consistent s calls w (start s calls w) where
  history := .nothing
  leads _ := .here _

theorem Consistent.turn (h : Consistent s calls w p) (i : ι) : Consistent s calls w (p.turn i) := by
  unfold Pool.turn
  split
  · next q next ahead =>
    refine ⟨h.history.next (p.world.answer_happens q), fun j => ?_⟩
    dsimp only
    by_cases own : j = i
    · subst own
      have before := h.leads j
      rw [ahead] at before
      rw [ownTurns_concat_self, Function.update_self]
      exact before.append _
    · rw [ownTurns_concat_of_ne _ _ (Ne.symm own), Function.update_of_ne own]
      exact h.leads j
  · exact h
  · exact h

/-- Every pool that the calls can come to is explained by its log. -/
theorem consistent (run : Reachable (start s calls w) p) : Consistent s calls w p := by
  induction run with
  | refl => exact consistent_start s calls w
  | tail _ move ih =>
    cases move with
    | turn i => exact ih.turn i
    | outside w' kept =>
      exact ⟨by rw [kept]; exact ih.history, ih.leads⟩

/-- The turns that a task took are regular. -/
theorem Consistent.regular (h : Consistent s calls w p) (i : ι) :
    ∀ t ∈ ownTurns i p.log, Turn.Regular t :=
  fun t member => h.history.regular i t (mem_ownTurns.1 member)

end Pool

end ApprovalDesk
