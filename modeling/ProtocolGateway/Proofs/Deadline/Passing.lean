import Mathlib.Data.List.Induction
import Mathlib.Order.Nat
import ProtocolGateway.Deadline.Timers

/-!
# Passing cancellation on

Cancellation is passed on to the tokens below in one pass over all tokens, from the first to the
last. That is enough because a parent stands before its children: whatever is cancelled after the
pass was chosen or has a parent that is cancelled after the pass.

## Main definitions

* `Scope.place`: what passing cancellation on leaves alone.
* `Scopes.ParentsFirst`: parents stand before their children.

## Main results

* `Scopes.isCancelled_mark`: what cancelling a single token does.
* `Scopes.isCancelled_passOn`: what passing cancellation on does.
-/

namespace ProtocolGateway

/-- The parent and the timer of a token. -/
def Scope.place (s : Scope) : Option Nat × Option ScopeTimer := (s.parent, s.timer)

namespace Scopes

variable {t : Scopes} {l l' before : List Scope} {s : Scope} {chosen : Scope → Bool} {i token : Nat}

theorem isCancelled_iff : isCancelled l i = true ↔ ∃ s, l[i]? = some s ∧ s.cancelled = true := by
  rw [isCancelled]
  cases l[i]? <;> simp

theorem lt_length_of_isCancelled (h : isCancelled l i = true) : i < l.length := by
  obtain ⟨s, hs, -⟩ := isCancelled_iff.1 h
  exact (List.getElem?_eq_some_iff.1 hs).1

theorem cancelled_getElem?_iff : t.cancelled[i]? = some true ↔ isCancelled t.scopes i = true := by
  rw [cancelled, isCancelled_iff, List.getElem?_map, Option.map_eq_some_iff]

theorem isDue_of_place {c : Scope} (h : c.place = s.place) {now : Nat} :
    c.isDue now = s.isDue now := by
  rw [Scope.isDue, Scope.isDue, show c.timer = s.timer from congrArg Prod.snd h]

/-! ### Cancelling a single token -/

theorem map_place_mark : (mark token l).map Scope.place = l.map Scope.place := by
  refine List.ext_getElem? fun i => ?_
  simp only [mark, List.getElem?_map, List.getElem?_modify]
  cases l[i]? with
  | none => rfl
  | some s => by_cases h : token = i <;> simp [h, Scope.place]

theorem isCancelled_mark :
    isCancelled (mark token l) i = true ↔
      isCancelled l i = true ∨ i = token ∧ token < l.length := by
  rw [isCancelled_iff, isCancelled_iff, mark, List.getElem?_modify]
  by_cases h : token = i
  · subst h
    by_cases hlt : token < l.length <;> simp [hlt]
  · have hne : i ≠ token := fun hsame => h hsame.symm
    cases l[i]? <;> simp [h, hne]

/-! ### Passing cancellation on -/

theorem settle_eq_passOn {now : Nat} :
    settle now before l =
      passOn (fun s => s.cancelled || s.isDue now) before (l.map (·.start now)) := by
  induction l generalizing before with
  | nil => rfl
  | cons s rest ih => exact ih

theorem prefix_passOn : before <+: passOn chosen before l := by
  induction l generalizing before with
  | nil => exact List.prefix_rfl
  | cons s rest ih => exact (List.prefix_append _ _).trans ih

theorem map_place_passOn :
    (passOn chosen before l).map Scope.place = before.map Scope.place ++ l.map Scope.place := by
  induction l generalizing before with
  | nil => simp [passOn]
  | cons s rest ih =>
    rw [passOn, ih]
    simp [Scope.place]

/-- What is chosen is cancelled. -/
theorem mem_passOn (h : s ∈ passOn chosen before l) :
    s ∈ before ∨ ∃ c ∈ l, c.place = s.place ∧ (chosen c = true → s.cancelled = true) := by
  induction l generalizing before with
  | nil => exact .inl h
  | cons c rest ih =>
    rcases ih h with h | ⟨c', hc', hsame, hcancelled⟩
    · rcases List.mem_append.1 h with h | h
      · exact .inl h
      · obtain rfl := List.mem_singleton.1 h
        exact .inr ⟨c, List.mem_cons_self, rfl, fun hchosen => by simp [hchosen]⟩
    · exact .inr ⟨c', List.mem_cons_of_mem _ hc', hsame, hcancelled⟩

theorem isCancelled_extend (h : l <+: l') (hi : i < l.length) :
    isCancelled l' i = isCancelled l i := by
  obtain ⟨rest, rfl⟩ := h
  rw [isCancelled, isCancelled, List.getElem?_append_left hi]

/-- Parents stand before their children, in a list that comes after `n` other tokens. -/
def ParentsFirst (n : Nat) (l : List Scope) : Prop :=
  ∀ i s, l[i]? = some s → ∀ p ∈ s.parent, p < n + i

theorem ParentsFirst.of_cons {n : Nat} (h : ParentsFirst n (s :: l)) :
    (∀ p ∈ s.parent, p < n) ∧ ParentsFirst (n + 1) l := by
  refine ⟨h 0 s rfl, fun i c hc p hp => ?_⟩
  have hlt := h (i + 1) c hc p hp
  omega

/-- One pass is enough, if parents stand before their children. -/
theorem isCancelled_passOn_from (chosen : Scope → Bool)
    (hparents : ParentsFirst before.length l) (i : Nat) :
    isCancelled (passOn chosen before l) (before.length + i) =
      l[i]?.any fun s => chosen s || s.parent.any (isCancelled (passOn chosen before l)) := by
  induction l generalizing before i with
  | nil => simp [passOn, isCancelled]
  | cons s rest ih =>
    obtain ⟨hparent, hrest⟩ := hparents.of_cons
    let made : Scope := { s with cancelled := chosen s || s.parent.any (isCancelled before) }
    have hpass : passOn chosen before (s :: rest) = passOn chosen (before ++ [made]) rest := rfl
    have hlength : (before ++ [made]).length = before.length + 1 := by simp
    rw [hpass]
    cases i with
    | zero =>
      have hhere : isCancelled (before ++ [made]) before.length = made.cancelled := by
        simp [isCancelled]
      -- the parent stands before, and what stands before does not change any more
      have hsame : s.parent.any (isCancelled before) =
          s.parent.any (isCancelled (passOn chosen (before ++ [made]) rest)) := by
        cases hp : s.parent with
        | none => rfl
        | some p =>
          exact (isCancelled_extend ((List.prefix_append _ _).trans prefix_passOn)
            (hparent p hp)).symm
      rw [Nat.add_zero, isCancelled_extend prefix_passOn (by omega), hhere]
      change (chosen s || s.parent.any (isCancelled before)) = _
      rw [hsame]
      rfl
    | succ i =>
      rw [← hlength] at hrest
      have hnext := ih hrest i
      rw [hlength, Nat.add_right_comm] at hnext
      exact hnext

/-- **What passing cancellation on does**: what is cancelled then is what was chosen and what has a
cancelled parent. -/
theorem isCancelled_passOn (chosen : Scope → Bool) (hparents : ParentsFirst 0 l) (i : Nat) :
    isCancelled (passOn chosen [] l) i =
      l[i]?.any fun s => chosen s || s.parent.any (isCancelled (passOn chosen [] l)) := by
  have hfrom := @isCancelled_passOn_from l [] chosen hparents i
  rwa [List.length_nil, Nat.zero_add] at hfrom

theorem isCancelled_passOn_of_chosen (hparents : ParentsFirst 0 l) (hs : l[i]? = some s)
    (hchosen : chosen s = true) : isCancelled (passOn chosen [] l) i = true := by
  rw [isCancelled_passOn _ hparents, hs]
  simp [hchosen]

end Scopes

end ProtocolGateway
