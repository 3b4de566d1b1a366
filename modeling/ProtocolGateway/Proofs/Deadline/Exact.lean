import ProtocolGateway.Proofs.Deadline.Tracking

/-!
# Deadline scopes cancel exactly what ends

Which tokens are cancelled after each step can be read off the steps alone: those that were
cancelled by themselves or whose deadlines have been reached, and those below them. Everything else
follows from this. Time does not go back, so nothing is ever taken back; what is below a token stays
below it, so nothing escapes; and a token is not below its child nor below another child of its
parent, and the root is below nothing, so nothing gets any further.

## Main results

* `Scopes.exists_ends_of_newly`: why a token is cancelled in a step that was not before.
* `Scopes.cancelled_exactly`: what is cancelled after each step, and in between.
-/

namespace ProtocolGateway

namespace Scopes

variable {past steps : List ScopeStep} {e : ScopeStep} {t : Scopes} {i : Nat}

/-- The states of a run are those after the steps taken so far. -/
theorem run_eq : run t steps =
    (List.range steps.length).map fun k => (steps.take (k + 1)).foldl step t := by
  induction steps generalizing t with
  | nil => rfl
  | cons e rest ih =>
    rw [run, ih, List.length_cons, List.range_succ_eq_map, List.map_cons, List.map_map]
    rfl

/-- **Why a token is cancelled** in a step that was there before and was not: it or a token above it
was cancelled by the step, or has a deadline that the step reaches. -/
theorem exists_ends_of_newly (hwell : WellFormed (past ++ [e])) (hi : i < tokens past)
    (hnot : ¬Ended past i) (hended : Ended (past ++ [e]) i) :
    ∃ a, Above past i a ∧ (e = .cancel a ∨
      ∃ p d, Made past a p d ∧ elapsed past < d ∧ d ≤ elapsed (past ++ [e])) := by
  obtain ⟨a, habove, hends⟩ := hended
  have habove := habove.of_concat hwell hi
  refine ⟨a, habove, ?_⟩
  rcases ends_concat hends fun h => hnot ⟨a, habove, h⟩ with hcancel | hdue | hnew
  · exact .inl hcancel
  · exact .inr hdue
  · exact absurd (habove.le hwell.of_append) (by omega)

/-- **Deadline scopes cancel exactly what ends.** After `k` of the steps, there are the root and the
scopes that were made, and a token is cancelled if and only if it or a token above it was cancelled
by itself or has a deadline at or before the current time. So what is cancelled stays cancelled; it
takes along everything below it, made before or after; and in each step a token that was there
before is only cancelled because a token at or above it was cancelled by the step, or had its
deadline reached by it. That token is not a child of the one that is cancelled, nor another child of
its parent; and the root is cancelled only by itself.

A step includes that the timers are run which it leaves to run. Timers may as well be run later and
in any order. A token is never cancelled earlier for it; what is cancelled stays so and has
everything below it cancelled; and what is cancelled by itself is so at once. When no timer is left
to run, a token is cancelled if and only if it or a token above it was cancelled by itself or has a
timer that has counted to its end; if no time passed before the timer of a scope was first run, that
is what is cancelled after the steps. To leave no timer, it is enough to run all of them, in any
order. -/
theorem cancelled_exactly (steps : List ScopeStep) (hwell : WellFormed steps) :
    let past (k : Nat) : List ScopeStep := steps.take k
    let state (k : Nat) : Scopes := (past k).foldl step {}
    let on (k i : Nat) : Prop := (state k).cancelled[i]? = some true
    run {} steps = (List.range steps.length).map (fun k => state (k + 1)) ∧
    (∀ k, (state k).cancelled.length = tokens (past k) ∧
      ∀ i, on k i ↔ ∃ a, Above (past k) i a ∧ Ends (past k) a) ∧
    (∀ k l i, k ≤ l → on k i → on l i) ∧
    (∀ k i a, Above (past k) i a → on k a → on k i) ∧
    (∀ k i, i < tokens (past k) → ¬on k i → on (k + 1) i → ∃ a, Above (past k) i a ∧
      (steps[k]? = some (.cancel a) ∨
        ∃ p d, Made (past k) a p d ∧ elapsed (past k) < d ∧ d ≤ elapsed (past (k + 1)))) ∧
    (∀ k, (on k 0 ↔ .cancel 0 ∈ past k) ∧
      ∀ i p, ChildOf (past k) i p → ¬Above (past k) p i ∧
        ∀ j, ChildOf (past k) j p → j ≠ i → ¬Above (past k) j i) ∧
    ∀ moves : List ScopeMove, moves.filterMap (·.step?) = steps →
      let t := moves.foldl move {}
      let now (i : Nat) : Prop := t.cancelled[i]? = some true
      (∀ i, now i → on steps.length i) ∧
      (∀ i k, ((moves.take k).foldl move {}).cancelled[i]? = some true → now i) ∧
      (∀ i a, Above steps i a → now a → now i) ∧
      (∀ a, .cancel a ∈ steps → now a) ∧
      (t.Quiet → ∀ i, now i ↔ ∃ a, Above steps i a ∧ (.cancel a ∈ steps ∨ t.Expired a)) ∧
      (Prompt {} moves → t.Quiet → t.cancelled = (state steps.length).cancelled) ∧
      ∀ order : List Nat, (∀ i < tokens steps, i ∈ order) → (order.foldl turn t).Quiet := by
  intro past state on
  have hpast (k : Nat) : WellFormed (past k) := hwell.take k
  have hon (k i : Nat) : on k i ↔ Ended (past k) i := by
    obtain ⟨htracks, honTime, hquiet⟩ := tracks_steps (hpast k)
    exact cancelled_getElem?_iff.trans (htracks.isCancelled_iff honTime hquiet)
  refine ⟨run_eq, fun k => ⟨?_, hon k⟩, fun k l i hkl => ?_, fun k i a habove => ?_,
    fun k i hi hnot hended => ?_, fun k => ⟨(hon k 0).trans (ended_root_iff (hpast k)), ?_⟩, ?_⟩
  · rw [cancelled, List.length_map, (tracks_steps (hpast k)).1.length]
  · obtain ⟨j, rfl⟩ := Nat.exists_eq_add_of_le hkl
    have hlater : past (k + j) = past k ++ (steps.drop k).take j := List.take_add
    rw [hon, hon, hlater]
    exact Ended.append
  · rw [hon, hon]
    exact fun ha => ha.of_above habove
  · rw [hon] at hnot hended
    have hnext : past (k + 1) = past k ++ steps[k]?.toList := List.take_add_one
    cases he : steps[k]? with
    | none =>
      rw [hnext, he, Option.toList_none, List.append_nil] at hended
      exact absurd hended hnot
    | some e =>
      rw [he, Option.toList_some] at hnext
      have hwell' := hpast (k + 1)
      rw [hnext] at hwell' hended ⊢
      obtain ⟨a, habove, hends⟩ := exists_ends_of_newly hwell' hi hnot hended
      exact ⟨a, habove, hends.imp_left (congrArg some)⟩
  · intro i p hchild
    exact ⟨not_above_parent hchild (hpast k), fun j hj hne =>
      not_above_sibling hchild hj hne (hpast k)⟩
  · rintro moves rfl
    intro t now
    have ht : Tracks _ t := tracks_nil.moves hwell
    have hfinal : past (moves.filterMap (·.step?)).length = moves.filterMap (·.step?) :=
      List.take_length
    have hnow (i : Nat) : now i ↔ isCancelled t.scopes i = true := cancelled_getElem?_iff
    refine ⟨fun i hi => ?_, fun i k hi => ?_, fun i a habove ha => ?_, fun a ha => ?_,
      fun hquiet i => (hnow i).trans (ht.isCancelled_iff_stopped hquiet),
      fun hprompt hquiet => ?_, fun order horder => ht.quiet_turns hwell horder⟩
    · rw [hon, hfinal]
      exact ht.ended ((hnow i).1 hi)
    · rw [hnow, show t = (moves.drop k).foldl move ((moves.take k).foldl move {}) by
        rw [← List.foldl_append, List.take_append_drop]]
      rw [← List.take_append_drop k moves, List.filterMap_append] at hwell
      exact (tracks_nil.moves hwell.of_append).isCancelled_moves hwell
        (cancelled_getElem?_iff.1 hi)
    · exact (hnow i).2 (ht.isCancelled_of_above habove ((hnow a).1 ha))
    · exact (hnow a).2 (ht.cancels a ha)
    · obtain ⟨hsteps, honTime, hstepsQuiet⟩ := tracks_steps hwell
      have hlate : OnTime _ t.scopes := onTime_nil.moves tracks_nil hprompt hwell
      have hstate : state (moves.filterMap (·.step?)).length =
          (moves.filterMap (·.step?)).foldl step {} := congrArg (·.foldl step {}) hfinal
      rw [hstate]
      exact ht.cancelled_eq hlate hquiet hsteps honTime hstepsQuiet

/-- A timer that is not run before its timeout has passed counts from then. -/
example : ([.act (.scope 5 0), .act (.advance 5), .start 1, .fire 1].foldl move {}).cancelled =
    [false, false] := by
  decide

/-- A scope below the root with a child that would outlive it, a scope that is due at once, a scope
that is made below a cancelled one, and a scope that is cancelled by itself. -/
def familySteps : List ScopeStep :=
  [.scope 3 0, .scope 9 1, .scope 0 0, .scope 9 0, .advance 3, .scope 1 2, .cancel 4]

/-- What is cancelled after each of these steps. The root and the scope that is not cancelled by
itself are left alone by the others until then. -/
theorem cancelled_exactly_family :
    WellFormed familySteps ∧
      (run {} familySteps).map (·.cancelled) =
        [[false, false], [false, false, false], [false, false, false, true],
          [false, false, false, true, false], [false, true, true, true, false],
          [false, true, true, true, false, true], [false, true, true, true, true, true]] ∧
      (∃ a, Above familySteps 5 a ∧ Ends familySteps a) ∧
      ¬∃ a, Above familySteps 0 a ∧ Ends familySteps a := by
  have hwell : WellFormed familySteps := by decide
  obtain ⟨-, hexact, -⟩ := cancelled_exactly familySteps hwell
  obtain ⟨-, hon⟩ := hexact 7
  exact ⟨hwell, by decide, (hon 5).1 (by decide), fun h => absurd ((hon 0).2 h) (by decide)⟩

end Scopes

end ProtocolGateway
