import Mathlib.Data.List.Permutation
import ProtocolGateway.Proofs.Readiness.Board
import ProtocolGateway.Readiness.Race

/-!
# Calls that overlap

When calls on one flag overlap, the flag still comes to what all of them come to. It changes twice
at most, and each change is written to the gauge by the call that has made it. But the changes need
not be written in the order in which they were made. So the gauge agrees with the flag if they were,
and if not it goes on to show that the process is ready while it drains.

## Main definitions

* `ReadinessRace.changesIn`, `ReadinessRace.writesIn`: the changes of the flag and the values
  written to the gauge, each in their order.
* `ReadinessRace.Moves`: what a step can do.
* `ReadinessRace.Pending`: what holds of a race at any time.

## Main results

* `ReadinessRace.Pending.run`: what holds at any time holds after any run.
* `ReadinessRace.gauge_tells_last_write`: what flag and gauge show when all calls have returned.
* `ReadinessRace.gauge_disagrees`: a gauge that shows another state than the flag.
-/

namespace ProtocolGateway

/-- The value of a call that has not touched the flag. -/
def SetCall.waiting? : SetCall → Option Bool
  | .before value => some value
  | _ => none

/-- What a call has still to write to the gauge. -/
def SetCall.owed? : SetCall → Option Nat
  | .writing n => some n
  | _ => none

namespace ReadinessRace

variable {race race' : ReadinessRace} {place : Nat} {call : SetCall}

/-- Gathers something along a run. -/
def gather {α : Type} (f : ReadinessRace → Nat → List α) (race : ReadinessRace) : List Nat → List α
  | [] => []
  | place :: places => f race place ++ (race.step place).gather f places

/-- The value of a call that touches the flag in a step. -/
def begunBy (race : ReadinessRace) (place : Nat) : List Bool :=
  (race.calls[place]?.bind (·.waiting?)).toList

/-- The state to which the flag changes in a step. -/
def changedBy (race : ReadinessRace) (place : Nat) : List Readiness :=
  if (race.step place).flag = race.flag then [] else [(race.step place).flag]

/-- What is written to the gauge in a step. -/
def wroteBy (race : ReadinessRace) (place : Nat) : List Nat :=
  (race.calls[place]?.bind (·.owed?)).toList

/-- The changes of the flag in a run, in their order. -/
def changesIn (race : ReadinessRace) (places : List Nat) : List Readiness :=
  race.gather changedBy places

/-- What is written to the gauge in a run, in the order in which that is done. -/
def writesIn (race : ReadinessRace) (places : List Nat) : List Nat := race.gather wroteBy places

/-! ### What a step can do -/

/-- What a step can do: a call touches the flag, and changes it or returns; a call that has changed
it writes the gauge and returns. -/
inductive Moves (race : ReadinessRace) (place : Nat) : ReadinessRace → Prop where
  | stay (hcall : ∀ call, race.calls[place]? = some call → call = .returned) : Moves race place race
  | change (value : Bool) (hcall : race.calls[place]? = some (.before value))
    (hchange : (race.flag.set value).1 ≠ race.flag) :
    Moves race place
      { race with
        flag := (race.flag.set value).1
        calls := race.calls.set place (.writing (race.flag.set value).1.gaugeValue) }
  | pass (value : Bool) (hcall : race.calls[place]? = some (.before value))
    (hsame : (race.flag.set value).1 = race.flag) :
    Moves race place { race with calls := race.calls.set place .returned }
  | write (n : Nat) (hcall : race.calls[place]? = some (.writing n)) :
    Moves race place { race with gauge := some n, calls := race.calls.set place .returned }

/-- **A step does nothing else.** -/
theorem moves_step (race : ReadinessRace) (place : Nat) : race.Moves place (race.step place) := by
  cases hcall : race.calls[place]? with
  | none =>
    rw [step, hcall]
    exact .stay fun call h => by rw [hcall] at h; cases h
  | some call =>
    cases call with
    | returned =>
      rw [step, hcall]
      refine .stay fun call h => ?_
      rw [hcall] at h
      exact (Option.some.inj h).symm
    | writing n =>
      rw [step, hcall]
      exact .write n hcall
    | before value =>
      have hgauge := Readiness.gauge?_set value race.flag
      by_cases hsame : (race.flag.set value).1 = race.flag
      · rw [if_pos hsame] at hgauge
        have hstep : race.step place =
            { race with calls := race.calls.set place .returned } := by
          simp only [step, hcall, hgauge, hsame]
        rw [hstep]
        exact .pass value hcall hsame
      · rw [if_neg hsame] at hgauge
        have hstep : race.step place =
            { race with
              flag := (race.flag.set value).1
              calls := race.calls.set place (.writing (race.flag.set value).1.gaugeValue) } := by
          simp only [step, hcall, hgauge]
        rw [hstep]
        exact .change value hcall hsame

/-! ### What holds at any time -/

/-- What becomes of the values of calls if one of the calls goes on. -/
theorem count_filterMap_set {α β : Type} [DecidableEq β] {l : List α} {i : Nat} {a : α}
    (h : l[i]? = some a) (a' : α) (f : α → Option β) (b : β) :
    ((l.set i a').filterMap f).count b + (f a).toList.count b =
      (l.filterMap f).count b + (f a').toList.count b := by
  have hcons (c : α) (rest : List α) :
      ((c :: rest).filterMap f).count b = (f c).toList.count b + (rest.filterMap f).count b := by
    rw [List.filterMap_cons]
    cases f c with
    | none => simp
    | some d => simp [List.count_cons]; omega
  induction l generalizing i with
  | nil => cases h
  | cons c rest ih =>
    cases i with
    | zero =>
      obtain rfl := Option.some.inj h
      rw [List.set_cons_zero, hcons, hcons]
      omega
    | succ i =>
      have hrest := ih h
      rw [List.set_cons_succ, hcons, hcons]
      omega

/-- What holds of a race of calls with these values at any time. The flag is where the calls that
have touched it have brought it; every change was written to the gauge or is owed to it. -/
structure Pending (values begun : List Bool) (changes : List Readiness) (writes : List Nat)
    (race : ReadinessRace) : Prop where
  calls : ∀ value,
    begun.count value + (race.calls.filterMap (·.waiting?)).count value = values.count value
  flag : race.flag = .ofCalls begun
  course : Readiness.Course changes race.flag
  gauge : race.gauge = writes.getLast?
  owed : ∀ n, writes.count n + (race.calls.filterMap (·.owed?)).count n =
    (changes.map (·.gaugeValue)).count n

variable {values begun : List Bool} {changes : List Readiness} {writes : List Nat}

theorem pending_ofValues (values : List Bool) : (ofValues values).Pending values [] [] [] where
  calls value := by
    have hwaiting : (ofValues values).calls.filterMap (·.waiting?) = values := by
      simp [ofValues, List.filterMap_map, SetCall.waiting?]
    rw [hwaiting, List.count_nil, Nat.zero_add]
  flag := rfl
  course := .starting
  gauge := rfl
  owed n := by
    have howed : (ofValues values).calls.filterMap (·.owed?) = [] := by
      simp [ofValues, List.filterMap_map, SetCall.owed?]
    rw [howed]
    rfl

/-- A call that touches the flag takes it on its course. -/
theorem Pending.touch (h : race.Pending values begun changes writes) {value : Bool} {next : SetCall}
    (hcall : race.calls[place]? = some (.before value)) (hwaiting : next.waiting? = none)
    (howed : next.owed? = if (race.flag.set value).1 = race.flag then none
      else some (race.flag.set value).1.gaugeValue) :
    Pending values (begun ++ [value])
      (changes ++ if (race.flag.set value).1 = race.flag then [] else [(race.flag.set value).1])
      writes
      { race with flag := (race.flag.set value).1, calls := race.calls.set place next } where
  calls b := by
    have hmoved : ((race.calls.set place next).filterMap (·.waiting?)).count b + [value].count b =
        (race.calls.filterMap (·.waiting?)).count b + next.waiting?.toList.count b :=
      count_filterMap_set hcall next (·.waiting?) b
    have hcalls := h.calls b
    rw [hwaiting, Option.toList_none, List.count_nil] at hmoved
    show (begun ++ [value]).count b +
      ((race.calls.set place next).filterMap (·.waiting?)).count b = _
    rw [List.count_append]
    omega
  flag := by
    rw [Readiness.ofCalls_concat, ← h.flag]
  course := h.course.set value
  gauge := h.gauge
  owed n := by
    have hmoved : ((race.calls.set place next).filterMap (·.owed?)).count n + [].count n =
        (race.calls.filterMap (·.owed?)).count n + next.owed?.toList.count n :=
      count_filterMap_set hcall next (·.owed?) n
    have hsum := h.owed n
    show writes.count n + ((race.calls.set place next).filterMap (·.owed?)).count n = _
    rw [howed, List.count_nil] at hmoved
    rw [List.map_append, List.count_append]
    by_cases hsame : (race.flag.set value).1 = race.flag
    · rw [if_pos hsame, Option.toList_none, List.count_nil] at hmoved
      rw [if_pos hsame, List.map_nil, List.count_nil]
      omega
    · rw [if_neg hsame, Option.toList_some] at hmoved
      rw [if_neg hsame, List.map_singleton]
      omega

/-- A call that writes the gauge owes it nothing any more. -/
theorem Pending.write (h : race.Pending values begun changes writes) {n : Nat}
    (hcall : race.calls[place]? = some (.writing n)) :
    Pending values begun changes (writes ++ [n])
      { race with gauge := some n, calls := race.calls.set place .returned } where
  calls b := by
    have hmoved : ((race.calls.set place .returned).filterMap (·.waiting?)).count b + [].count b =
        (race.calls.filterMap (·.waiting?)).count b + [].count b :=
      count_filterMap_set hcall .returned (·.waiting?) b
    have hcalls := h.calls b
    show begun.count b + ((race.calls.set place .returned).filterMap (·.waiting?)).count b = _
    omega
  flag := h.flag
  course := h.course
  gauge := List.getLast?_concat.symm
  owed m := by
    have hmoved : ((race.calls.set place .returned).filterMap (·.owed?)).count m + [n].count m =
        (race.calls.filterMap (·.owed?)).count m + [].count m :=
      count_filterMap_set hcall .returned (·.owed?) m
    have hsum := h.owed m
    rw [List.count_nil, Nat.add_zero] at hmoved
    show (writes ++ [n]).count m +
      ((race.calls.set place .returned).filterMap (·.owed?)).count m = _
    rw [List.count_append]
    omega

theorem Pending.step (h : race.Pending values begun changes writes) (place : Nat) :
    (race.step place).Pending values (begun ++ race.begunBy place)
      (changes ++ race.changedBy place) (writes ++ race.wroteBy place) := by
  have hmoves := moves_step race place
  rw [changedBy]
  generalize hnext : race.step place = next at hmoves
  cases hmoves with
  | stay hcall =>
    have hbegun : race.begunBy place = [] := by
      rw [begunBy]
      cases hget : race.calls[place]? with
      | none => rfl
      | some call => rw [hcall call hget]; rfl
    have hwrote : race.wroteBy place = [] := by
      rw [wroteBy]
      cases hget : race.calls[place]? with
      | none => rfl
      | some call => rw [hcall call hget]; rfl
    rw [if_pos rfl, hbegun, hwrote, List.append_nil, List.append_nil, List.append_nil]
    exact h
  | change value hcall hchange =>
    have hwrote : race.wroteBy place = [] := by rw [wroteBy, hcall]; rfl
    have hbegun : race.begunBy place = [value] := by rw [begunBy, hcall]; rfl
    rw [hwrote, hbegun, List.append_nil]
    exact h.touch hcall rfl (if_neg hchange).symm
  | pass value hcall hsame =>
    have hwrote : race.wroteBy place = [] := by rw [wroteBy, hcall]; rfl
    have hbegun : race.begunBy place = [value] := by rw [begunBy, hcall]; rfl
    have hreturned : SetCall.returned.waiting? = none := rfl
    have htouched := h.touch hcall hreturned (if_pos hsame).symm
    rw [hwrote, hbegun, List.append_nil, if_pos rfl]
    rw [if_pos hsame, hsame] at htouched
    exact htouched
  | write n hcall =>
    have hwrote : race.wroteBy place = [n] := by rw [wroteBy, hcall]; rfl
    have hbegun : race.begunBy place = [] := by rw [begunBy, hcall]; rfl
    rw [hwrote, hbegun, List.append_nil, if_pos rfl, List.append_nil]
    exact h.write hcall

/-- **What holds of a race at any time holds after any run.** -/
theorem Pending.run (h : race.Pending values begun changes writes) (places : List Nat) :
    (race.run places).Pending values (begun ++ race.gather begunBy places)
      (changes ++ race.changesIn places) (writes ++ race.writesIn places) := by
  induction places generalizing race begun changes writes with
  | nil => simpa [ReadinessRace.run, gather, changesIn, writesIn] using h
  | cons place places ih =>
    have hrest := ih (h.step place)
    simp only [List.append_assoc] at hrest
    exact hrest

/-! ### When all calls have returned -/

/-- What calls come to does not depend on their order. -/
theorem ofCalls_of_perm (h : begun.Perm values) :
    Readiness.ofCalls begun = Readiness.ofCalls values := by
  simp only [Readiness.ofCalls, h.mem_iff]

theorem ofCalls_eq_starting (values : List Bool) :
    Readiness.ofCalls values = .starting ↔ values = [] := by
  cases values with
  | nil => exact iff_of_true rfl rfl
  | cons value rest =>
    refine iff_of_false ?_ (List.cons_ne_nil _ _)
    cases value with
    | true | false => by_cases hmem : false ∈ rest <;> simp [Readiness.ofCalls, hmem]

theorem filterMap_eq_nil_of_isOver {α : Type} (hover : race.isOver = true) {f : SetCall → Option α}
    (hf : f .returned = none) : race.calls.filterMap f = [] := by
  refine List.filterMap_eq_nil_iff.2 fun call hcall => ?_
  have hreturned : call = .returned := by simpa using List.all_eq_true.1 hover call hcall
  rw [hreturned, hf]

/-- A flag is starting exactly if it has not changed. -/
theorem starting_iff {r : Readiness} (hcourse : Readiness.Course changes r) :
    r = .starting ↔ changes = [] := by
  cases hcourse with
  | starting => exact iff_of_true rfl rfl
  | ready | drained | served => exact iff_of_false (by decide) (List.cons_ne_nil _ _)

/-- What was written last is what the flag shows exactly if its changes were written in their
order. -/
theorem agrees_iff {r : Readiness} (hcourse : Readiness.Course changes r) (hchanges : changes ≠ [])
    (hperm : writes.Perm (changes.map (·.gaugeValue))) :
    writes.getLast? = some r.gaugeValue ↔ writes = changes.map (·.gaugeValue) := by
  cases hcourse with
  | starting => exact absurd rfl hchanges
  | ready | drained =>
    obtain rfl := List.perm_singleton.1 hperm
    exact iff_of_true rfl rfl
  | served =>
    rcases List.perm_pair.1 hperm with rfl | rfl
    · exact iff_of_true rfl rfl
    · exact iff_of_false (by decide) (by decide)

/-- Of a flag that is ready the gauge was written once. -/
theorem writes_of_ready (hcourse : Readiness.Course changes .ready)
    (hperm : writes.Perm (changes.map (·.gaugeValue))) : writes = [1] := by
  cases hcourse with
  | ready => exact List.perm_singleton.1 hperm

/-- **What flag and gauge show when all calls have returned**, for any number of calls and any order
of their steps. The flag is where all calls bring it, and it went there on its course. Each of its
changes was written to the gauge once, and the gauge shows what was written last. So if there was a
call, the gauge shows the state of the flag exactly if the changes were written in the order in
which they were made. Of a flag that is ready it always does. -/
theorem gauge_tells_last_write (values : List Bool) (places : List Nat)
    (hover : ((ofValues values).run places).isOver = true) :
    let race := (ofValues values).run places
    let changes := (ofValues values).changesIn places
    let writes := (ofValues values).writesIn places
    race.flag = .ofCalls values ∧
    Readiness.Course changes race.flag ∧
    writes.Perm (changes.map (·.gaugeValue)) ∧
    race.gauge = writes.getLast? ∧
    (race.gauge = none ↔ values = []) ∧
    (values ≠ [] → (race.gauge = some race.flag.gaugeValue ↔
      writes = changes.map (·.gaugeValue))) ∧
    (race.flag = .ready → race.gauge = some 1) := by
  intro race changes writes
  obtain ⟨hcalls, hflag, hcourse, hgauge, howed⟩ := (pending_ofValues values).run places
  rw [List.nil_append] at hflag hcourse hgauge
  simp only [List.nil_append] at hcalls howed
  rw [filterMap_eq_nil_of_isOver hover rfl] at hcalls howed
  have hbegun : ((ofValues values).gather begunBy places).Perm values :=
    List.perm_iff_count.2 hcalls
  have hperm : writes.Perm (changes.map (·.gaugeValue)) := List.perm_iff_count.2 howed
  rw [ofCalls_of_perm hbegun] at hflag
  have hstarting : race.flag = .starting ↔ values = [] := hflag ▸ ofCalls_eq_starting values
  have hnone : changes = [] ↔ values = [] := (starting_iff hcourse).symm.trans hstarting
  refine ⟨hflag, hcourse, hperm, hgauge, ?_, ?_, ?_⟩
  · have hlength : writes.length = changes.length := by
      simpa using hperm.length_eq
    rw [← hnone, ← List.length_eq_zero_iff, ← hlength, List.length_eq_zero_iff, hgauge]
    exact List.getLast?_eq_none_iff
  · intro hvalues
    rw [hgauge]
    exact agrees_iff hcourse (mt hnone.1 hvalues) hperm
  · intro hready
    rw [hready] at hcourse
    have hwrites : writes = [1] := writes_of_ready hcourse hperm
    rw [hgauge]
    show writes.getLast? = some 1
    rw [hwrites]
    rfl

/-- Calls that make a flag ready and let it drain, each of which writes the gauge at once. -/
theorem gauge_tells_last_write_in_order :
    ((ofValues [true, false]).run [0, 0, 1, 1]).isOver = true ∧
      ((ofValues [true, false]).run [0, 0, 1, 1]).gauge = some 0 := by
  have hover : ((ofValues [true, false]).run [0, 0, 1, 1]).isOver = true := by decide
  refine ⟨hover, ?_⟩
  have hagrees := (gauge_tells_last_write [true, false] [0, 0, 1, 1] hover).2.2.2.2.2.1 (by decide)
  exact hagrees.2 (by decide)

/-- **A gauge that shows another state than the flag.** The call that makes the flag ready is
overtaken by one that lets it drain, and writes the gauge last: the gauge shows that the process is
ready while it drains. And a call on another flag writes the same gauge, so that it does not show
that the first flag is ready. -/
theorem gauge_disagrees :
    (let race := (ofValues [true, false]).run [0, 1, 1, 0]
     race.isOver = true ∧ race.flag = .draining ∧ race.gauge = some 1) ∧
    let board := ({} : ReadinessBoard).after [.create, .set 0 true, .set 1 false]
    board.states = [.ready, .draining] ∧ board.gauge = some 0 := by
  decide

end ReadinessRace

end ProtocolGateway
