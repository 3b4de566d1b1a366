import Mathlib.Data.List.Induction
import Mathlib.Logic.Relation
import Mathlib.Order.Nat
import ProtocolGateway.Deadline.Timers
import ProtocolGateway.Total

/-!
# The history of deadline scopes

What becomes of tokens can be read off the steps that were taken, without any state: which tokens
there are, which is the parent of which, when each of them is due, and which of them ought to be
cancelled.

## Main definitions

* `Scopes.Made`: the token that a step has made.
* `Scopes.Above`: a token and those above it.
* `Scopes.Ends`: a token is cancelled for a reason of its own.
* `Scopes.Ended`: a token or one above it is cancelled for a reason of its own.
* `Scopes.WellFormed`: steps are only taken with tokens that are there.

## Main results

* `Scopes.made_concat`: what one more step makes.
* `Scopes.Made.unique`: a token is made once.
* `Scopes.ends_concat`: what one more step ends.
-/

namespace ProtocolGateway

namespace ScopeStep

/-- The token that a step is taken with. -/
def named? : ScopeStep → Option Nat
  | .scope _ parent => some parent
  | .advance _ => none
  | .cancel token => some token

/-- How many tokens a step makes. -/
def makes : ScopeStep → Nat
  | .scope .. => 1
  | .advance _ | .cancel _ => 0

end ScopeStep

namespace Scopes

/-- How many tokens there are: the root, and one for each scope. -/
def tokens (past : List ScopeStep) : Nat := 1 + total (past.map (·.makes))

/-- How much time has passed. -/
def elapsed (past : List ScopeStep) : Nat := total (past.map (·.time))

/-- A scope was made, with its parent and its deadline. It has the next number after those that
were made before. -/
def Made (past : List ScopeStep) (i parent deadline : Nat) : Prop :=
  ∃ before timeout after, past = before ++ .scope timeout parent :: after ∧
    i = tokens before ∧ deadline = elapsed before + timeout

/-- A token was made below another one. -/
def ChildOf (past : List ScopeStep) (i parent : Nat) : Prop :=
  ∃ deadline, Made past i parent deadline

/-- The token `a` is `i` itself, its parent, the parent of that, or further above. -/
def Above (past : List ScopeStep) : Nat → Nat → Prop := Relation.ReflTransGen (ChildOf past)

/-- A token was cancelled by itself, or its deadline is at or before the current time. -/
def Ends (past : List ScopeStep) (a : Nat) : Prop :=
  .cancel a ∈ past ∨ ∃ parent deadline, Made past a parent deadline ∧ deadline ≤ elapsed past

/-- A token ends for a reason of its own, or one above it does. -/
def Ended (past : List ScopeStep) (i : Nat) : Prop := ∃ a, Above past i a ∧ Ends past a

/-- Steps are only taken with tokens that are there. -/
def WellFormed (steps : List ScopeStep) : Prop :=
  ∀ before step after, steps = before ++ step :: after → ∀ i ∈ step.named?, i < tokens before

variable {past rest : List ScopeStep} {s : ScopeStep} {i j a p p' d d' : Nat}

theorem tokens_concat : tokens (past ++ [s]) = tokens past + s.makes := by
  simp [tokens, total_append, total, Nat.add_assoc]

theorem elapsed_concat : elapsed (past ++ [s]) = elapsed past + s.time := by
  simp [elapsed, total_append, total]

theorem tokens_le_append : tokens past ≤ tokens (past ++ rest) := by
  simp only [tokens, List.map_append, total_append]
  omega

theorem elapsed_le_append : elapsed past ≤ elapsed (past ++ rest) := by
  simp only [elapsed, List.map_append, total_append]
  omega

theorem WellFormed.of_append (h : WellFormed (past ++ rest)) : WellFormed past := by
  intro before step after hpast
  exact h before step (after ++ rest) (by rw [hpast, List.append_assoc, List.cons_append])

theorem WellFormed.named_lt (h : WellFormed (past ++ [s])) : ∀ i ∈ s.named?, i < tokens past :=
  h past s [] rfl

/-- Well-formed steps can be told by looking at them one by one. -/
theorem wellFormed_iff : WellFormed past ↔
    ∀ k < past.length, ∀ i ∈ (past[k]?).bind (·.named?), i < tokens (past.take k) := by
  constructor
  · intro h k hk i hi
    rw [List.getElem?_eq_getElem hk] at hi
    exact h (past.take k) past[k] (past.drop (k + 1)) (by simp) i hi
  · rintro h before e after rfl i hi
    have hlast := h before.length (by simp)
    rw [List.getElem?_append_right le_rfl, Nat.sub_self, List.take_left] at hlast
    exact hlast i hi

instance : DecidablePred WellFormed := fun _ => decidable_of_iff _ wellFormed_iff.symm

theorem WellFormed.take (h : WellFormed past) (k : Nat) : WellFormed (past.take k) := by
  rw [← List.take_append_drop k past] at h
  exact h.of_append

/-! ### What is made -/

theorem Made.append (h : Made past i p d) : Made (past ++ rest) i p d := by
  obtain ⟨before, timeout, after, rfl, hi, hd⟩ := h
  exact ⟨before, timeout, after ++ rest, by simp, hi, hd⟩

/-- What one more step makes. -/
theorem made_concat :
    Made (past ++ [s]) i p d ↔ Made past i p d ∨
      ∃ timeout, s = .scope timeout p ∧ i = tokens past ∧ d = elapsed past + timeout := by
  constructor
  · rintro ⟨before, timeout, after, hpast, hi, hd⟩
    rcases after.eq_nil_or_concat with rfl | ⟨after, last, rfl⟩
    · obtain ⟨rfl, hstep⟩ := List.append_inj' hpast rfl
      exact .inr ⟨timeout, (List.cons.inj hstep).1, hi, hd⟩
    · rw [List.concat_eq_append, ← List.cons_append, ← List.append_assoc] at hpast
      obtain ⟨rfl, -⟩ := List.append_inj' hpast rfl
      exact .inl ⟨before, timeout, after, rfl, hi, hd⟩
  · rintro (h | ⟨timeout, rfl, rfl, rfl⟩)
    · exact h.append
    · exact ⟨past, timeout, [], rfl, rfl, rfl⟩

theorem Made.lt_tokens (h : Made past i p d) : i < tokens past := by
  obtain ⟨before, timeout, after, rfl, rfl, -⟩ := h
  have hmade : tokens (before ++ [.scope timeout p]) = tokens before + 1 := tokens_concat
  calc tokens before < tokens (before ++ [.scope timeout p]) := by omega
    _ ≤ tokens (before ++ [.scope timeout p] ++ after) := tokens_le_append
    _ = tokens (before ++ .scope timeout p :: after) := by rw [List.append_assoc]; rfl

/-- The root is not made by any step. -/
theorem Made.pos (h : Made past i p d) : 0 < i := by
  obtain ⟨before, timeout, after, -, rfl, -⟩ := h
  rw [tokens]
  omega

/-- A parent is there before its children. -/
theorem Made.parent_lt (h : Made past i p d) (hwell : WellFormed past) : p < i := by
  obtain ⟨before, timeout, after, hpast, rfl, -⟩ := h
  exact hwell before _ after hpast p rfl

/-- A token is made once. -/
theorem Made.unique (h : Made past i p d) (h' : Made past i p' d') : p = p' ∧ d = d' := by
  induction past using List.reverseRecOn with
  | nil =>
    obtain ⟨before, timeout, after, hpast, -⟩ := h
    simp at hpast
  | append_singleton past s ih =>
    rw [made_concat] at h h'
    rcases h with h | ⟨timeout, rfl, rfl, rfl⟩ <;> rcases h' with h' | ⟨timeout', hs, hi, rfl⟩
    · exact ih h h'
    · exact absurd h.lt_tokens (by omega)
    · exact absurd h'.lt_tokens (Nat.lt_irrefl _)
    · cases hs
      exact ⟨rfl, rfl⟩

/-! ### What is above -/

theorem ChildOf.append (h : ChildOf past i p) : ChildOf (past ++ rest) i p :=
  h.imp fun _ => Made.append

theorem ChildOf.parent_lt (h : ChildOf past i p) (hwell : WellFormed past) : p < i := by
  obtain ⟨d, h⟩ := h
  exact h.parent_lt hwell

theorem Above.append (h : Above past i a) : Above (past ++ rest) i a :=
  Relation.ReflTransGen.mono (fun _ _ => ChildOf.append) i a h

theorem Above.le (h : Above past i a) (hwell : WellFormed past) : a ≤ i := by
  induction h with
  | refl => exact le_rfl
  | tail _ hchild ih => exact (hchild.parent_lt hwell).le.trans ih

/-- What is above a token that was there before stays what it was. -/
theorem Above.of_concat (h : Above (past ++ [s]) i a) (hwell : WellFormed (past ++ [s]))
    (hi : i < tokens past) : Above past i a := by
  induction h using Relation.ReflTransGen.head_induction_on with
  | refl => exact .refl
  | head hchild _ ih =>
    obtain ⟨d, hmade⟩ := hchild
    have hlt := hmade.parent_lt hwell
    rcases made_concat.1 hmade with hmade | ⟨timeout, -, rfl, -⟩
    · exact .head ⟨d, hmade⟩ (ih (hlt.trans hi))
    · exact absurd hi (Nat.lt_irrefl _)

/-- Nothing is above the root. -/
theorem eq_zero_of_above_root (h : Above past 0 a) (hwell : WellFormed past) : a = 0 :=
  Nat.le_zero.1 (h.le hwell)

/-- A token is not below its child. -/
theorem not_above_parent (h : ChildOf past i p) (hwell : WellFormed past) : ¬Above past p i :=
  fun habove => Nat.not_lt.2 (habove.le hwell) (h.parent_lt hwell)

/-- A token is not below another child of its parent. -/
theorem not_above_sibling (h : ChildOf past i p) (h' : ChildOf past j p) (hne : j ≠ i)
    (hwell : WellFormed past) : ¬Above past j i := by
  intro habove
  rcases habove.cases_head with rfl | ⟨q, ⟨e, hq⟩, habove⟩
  · exact hne rfl
  · obtain ⟨d, hp⟩ := h'
    obtain ⟨rfl, -⟩ := hp.unique hq
    exact not_above_parent h hwell habove

/-! ### What ends -/

theorem Ends.append (h : Ends past a) : Ends (past ++ rest) a := by
  rcases h with h | ⟨p, d, hmade, hdue⟩
  · exact .inl (List.mem_append_left _ h)
  · exact .inr ⟨p, d, hmade.append, hdue.trans elapsed_le_append⟩

theorem Ended.append (h : Ended past i) : Ended (past ++ rest) i := by
  obtain ⟨a, habove, hends⟩ := h
  exact ⟨a, habove.append, hends.append⟩

/-- What ends is the end of everything below. -/
theorem Ended.of_above (h : Ended past a) (habove : Above past i a) : Ended past i := by
  obtain ⟨b, hab, hends⟩ := h
  exact ⟨b, habove.trans hab, hends⟩

theorem Ends.ended (h : Ends past a) : Ended past a := ⟨a, .refl, h⟩

/-- What one more step ends: the token that it cancels, the tokens whose deadlines it reaches, and
a token that it makes. -/
theorem ends_concat (h : Ends (past ++ [s]) a) (hnot : ¬Ends past a) :
    s = .cancel a ∨ (∃ p d, Made past a p d ∧ elapsed past < d ∧ d ≤ elapsed (past ++ [s])) ∨
      tokens past ≤ a := by
  rcases h with h | ⟨p, d, hmade, hdue⟩
  · rcases List.mem_append.1 h with h | h
    · exact absurd (.inl h) hnot
    · exact .inl (List.mem_singleton.1 h).symm
  · rcases made_concat.1 hmade with hmade | ⟨timeout, -, rfl, -⟩
    · have hlater : elapsed past < d := by
        by_contra hearly
        exact hnot (.inr ⟨p, d, hmade, Nat.le_of_not_lt hearly⟩)
      exact .inr (.inl ⟨p, d, hmade, hlater, hdue⟩)
    · exact .inr (.inr le_rfl)

/-- The root ends only if it is cancelled itself. -/
theorem ended_root_iff (hwell : WellFormed past) : Ended past 0 ↔ .cancel 0 ∈ past := by
  constructor
  · rintro ⟨a, habove, hends⟩
    obtain rfl := eq_zero_of_above_root habove hwell
    rcases hends with hcancel | ⟨p, d, hmade, -⟩
    · exact hcancel
    · exact absurd hmade.pos (Nat.lt_irrefl 0)
  · exact fun h => Ends.ended (.inl h)

end Scopes

end ProtocolGateway
