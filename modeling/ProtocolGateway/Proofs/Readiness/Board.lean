import ProtocolGateway.Startup.Context

/-!
# Flags that are shared by copies

Flags are set one call after another, each through one of the handles that share it. What a flag
shows is decided by the calls on it alone, through whichever handles they were made: it drains if
one of them was for that, else it is ready if there was one at all, and else it is starting. A flag
goes through its states in one direction, so that it changes twice at most. All flags write one
gauge, which shows the change that was made last, of whichever flag.

## Main definitions

* `Readiness.ofCalls`: what calls on a flag come to.
* `Readiness.Course`: the states that a flag can go through.
* `ReadinessBoard.callsOn`: the calls on a flag.
* `ReadinessBoard.changed`, `ReadinessBoard.changesIn`: the flags that change, with their new
  states.

## Main results

* `ReadinessBoard.changed_set`: what changes in a call.
* `ReadinessBoard.Follows.run`: what holds of a board at any time holds after any run.
* `ReadinessBoard.flags_follow_calls`: the flags follow the calls, and gauge and log tell the
  changes.
-/

namespace ProtocolGateway

namespace Readiness

/-- What calls on a flag come to. -/
def ofCalls (values : List Bool) : Readiness :=
  if false ∈ values then .draining else if true ∈ values then .ready else .starting

/-- What the gauge shows of a state. -/
def gaugeValue (r : Readiness) : Nat := if r.isReady then 1 else 0

/-- The states that a flag has changed to one after another, with the one in which it is. -/
inductive Course : List Readiness → Readiness → Prop where
  | starting : Course [] .starting
  | ready : Course [.ready] .ready
  | drained : Course [.draining] .draining
  | served : Course [.ready, .draining] .draining

variable {r : Readiness} {changes : List Readiness}

theorem ofCalls_concat (values : List Bool) (value : Bool) :
    ofCalls (values ++ [value]) = ((ofCalls values).set value).1 := by
  cases value with
  | true =>
    by_cases hfalse : false ∈ values
    · simp [ofCalls, hfalse, set]
    · by_cases htrue : true ∈ values
      · simp [ofCalls, hfalse, htrue, set]
      · simp [ofCalls, hfalse, htrue, set]
  | false =>
    have hdraining : ofCalls (values ++ [false]) = .draining := by simp [ofCalls]
    rw [hdraining]
    cases ofCalls values with
    | starting | ready | draining => rfl

/-- A call takes a flag one change further, or leaves it where it is. -/
theorem Course.set (h : Course changes r) (value : Bool) :
    Course (changes ++ if (r.set value).1 = r then [] else [(r.set value).1]) (r.set value).1 := by
  cases h with
  | starting =>
    cases value with
    | true => exact .ready
    | false => exact .drained
  | ready =>
    cases value with
    | true => exact .ready
    | false => exact .served
  | drained =>
    cases value with
    | true | false => exact .drained
  | served =>
    cases value with
    | true | false => exact .served

/-! ### What a call shows -/

/-- The gauge is written exactly if the state changes. -/
theorem gauge?_set (value : Bool) (r : Readiness) :
    (r.set value).2.bind (·.gauge?) =
      if (r.set value).1 = r then none else some (r.set value).1.gaugeValue := by
  cases value with
  | true | false =>
    cases r with
    | starting | ready | draining => rfl

/-- A change is logged exactly if the state changes, with the name of the new one. -/
theorem informs_set (value : Bool) (r : Readiness) (text : String) :
    (∃ n ∈ (r.set value).2, Context.noticeLevel n = .info ∧ n.message = text) ↔
      (r.set value).1 ≠ r ∧ text = "Readiness set: " ++ (r.set value).1.name := by
  have hready : Notice.becameReady.message = "Readiness set: " ++ name .ready := rfl
  have hdraining : Notice.becameDraining.message = "Readiness set: " ++ name .draining := rfl
  cases value with
  | true =>
    cases r with
    | starting => simp [set, Context.noticeLevel, hready, eq_comm]
    | ready | draining => simp [set, Context.noticeLevel]
  | false =>
    cases r with
    | starting | ready => simp [set, Context.noticeLevel, hdraining, eq_comm]
    | draining => simp [set]

/-- A warning is logged exactly of a call that comes too late. -/
theorem warns_set (value : Bool) (r : Readiness) :
    (∃ n ∈ (r.set value).2, Context.noticeLevel n = .warn) ↔ value = true ∧ r = .draining := by
  cases value with
  | true =>
    cases r with
    | starting | ready | draining => simp [set, Context.noticeLevel]
  | false =>
    cases r with
    | starting | ready | draining => simp [set, Context.noticeLevel]

end Readiness

namespace ReadinessBoard

variable {board : ReadinessBoard} {e : ReadinessStep} {flag handle : Nat}

/-- The board after some steps. -/
def after (board : ReadinessBoard) (steps : List ReadinessStep) : ReadinessBoard :=
  steps.foldl (fun board e => (board.step e).1) board

/-- The state of the flag at a place. -/
def stateOf (board : ReadinessBoard) (flag : Nat) : Readiness :=
  (board.flags[flag]?).getD .starting

/-- The value to which a flag is set in a step. -/
def valueFor? (board : ReadinessBoard) (flag : Nat) : ReadinessStep → Option Bool
  | .set handle value => if board.flagOf handle = flag then some value else none
  | _ => none

/-- The calls on a flag in some steps, through whichever handles. -/
def callsOn (flag : Nat) (board : ReadinessBoard) : List ReadinessStep → List Bool
  | [] => []
  | e :: steps => (board.valueFor? flag e).toList ++ callsOn flag (board.step e).1 steps

/-- The flags that are in another state than before, with their new states. -/
def changed (before after : ReadinessBoard) : List (Nat × Readiness) :=
  (List.range before.flags.length).filterMap fun flag =>
    if before.stateOf flag = after.stateOf flag then none else some (flag, after.stateOf flag)

/-- The changes of flags in some steps, in their order. -/
def changesIn (board : ReadinessBoard) : List ReadinessStep → List (Nat × Readiness)
  | [] => []
  | e :: steps => changed board (board.step e).1 ++ changesIn (board.step e).1 steps

theorem run_concat (steps : List ReadinessStep) (e : ReadinessStep) :
    board.run (steps ++ [e]) = board.run steps ++ [(board.after steps).step e] := by
  induction steps generalizing board with
  | nil => rfl
  | cons e' steps ih => exact congrArg _ ih

/-! ### What changes in a step -/

theorem filterMap_range_eq_nil {α : Type} {n : Nat} {g : Nat → Option α}
    (h : ∀ j < n, g j = none) : (List.range n).filterMap g = [] :=
  List.filterMap_eq_nil_iff.2 fun j hj => h j (List.mem_range.1 hj)

/-- A function that has a value at one place only is read off a range that contains the place. -/
theorem filterMap_range_of_lt {α : Type} {n i : Nat} {g : Nat → Option α} (hi : i < n)
    (h : ∀ j, j ≠ i → g j = none) : (List.range n).filterMap g = (g i).toList := by
  induction n with
  | zero => omega
  | succ n ih =>
    rw [List.range_succ, List.filterMap_append]
    by_cases hn : i = n
    · subst hn
      rw [filterMap_range_eq_nil fun j hj => h j (Nat.ne_of_lt hj)]
      cases hg : g i <;> simp [hg]
    · rw [ih (by omega)]
      simp [h n (Ne.symm hn)]

/-- Only the flag of its handle is set in a call. -/
theorem stateOf_set (hflag : board.flagOf handle < board.flags.length) (value : Bool) (flag : Nat) :
    (board.step (.set handle value)).1.stateOf flag =
      if flag = board.flagOf handle then ((board.stateOf flag).set value).1
      else board.stateOf flag := by
  show ((board.flags.set (board.flagOf handle)
    ((board.stateOf (board.flagOf handle)).set value).1)[flag]?).getD .starting = _
  by_cases hsame : flag = board.flagOf handle
  · subst hsame
    rw [List.getElem?_set_self hflag, if_pos rfl]
    rfl
  · rw [List.getElem?_set_ne (Ne.symm hsame), if_neg hsame]
    rfl

/-- A step that is no call leaves all flags as they are. -/
theorem stateOf_step_of_ne (he : ∀ handle value, e ≠ .set handle value) (flag : Nat) :
    (board.step e).1.stateOf flag = board.stateOf flag := by
  cases e with
  | set handle value => exact absurd rfl (he handle value)
  | clone handle => rfl
  | idle => rfl
  | create =>
    show ((board.flags ++ [Readiness.starting])[flag]?).getD .starting =
      (board.flags[flag]?).getD .starting
    rcases Nat.lt_or_ge flag board.flags.length with hlt | hge
    · rw [List.getElem?_append_left hlt]
    · rw [List.getElem?_append_right hge, List.getElem?_eq_none hge]
      cases flag - board.flags.length with
      | zero => rfl
      | succ n => rfl

/-- **What changes in a call**: the flag of its handle, if it comes to another state. -/
theorem changed_set (hflag : board.flagOf handle < board.flags.length) (value : Bool) :
    changed board (board.step (.set handle value)).1 =
      if ((board.stateOf (board.flagOf handle)).set value).1 = board.stateOf (board.flagOf handle)
      then [] else
        [(board.flagOf handle, ((board.stateOf (board.flagOf handle)).set value).1)] := by
  rw [changed, filterMap_range_of_lt hflag]
  · rw [stateOf_set hflag, if_pos rfl]
    by_cases hsame : ((board.stateOf (board.flagOf handle)).set value).1 =
        board.stateOf (board.flagOf handle)
    · rw [if_pos hsame.symm, if_pos hsame]
      rfl
    · rw [if_neg (Ne.symm hsame), if_neg hsame]
      rfl
  · intro flag hne
    rw [stateOf_set hflag, if_neg hne, if_pos rfl]

/-- The changes of the flag of a handle in a call through it. -/
theorem filter_changed_set_self (hflag : board.flagOf handle < board.flags.length) (value : Bool) :
    ((changed board (board.step (.set handle value)).1).filter
        (·.1 = board.flagOf handle)).map (·.2) =
      if ((board.stateOf (board.flagOf handle)).set value).1 = board.stateOf (board.flagOf handle)
      then [] else [((board.stateOf (board.flagOf handle)).set value).1] := by
  rw [changed_set hflag]
  split
  · rfl
  · simp

/-- The other flags do not change in a call. -/
theorem filter_changed_set_of_ne (hflag : board.flagOf handle < board.flags.length) (value : Bool)
    (hne : flag ≠ board.flagOf handle) :
    (changed board (board.step (.set handle value)).1).filter (·.1 = flag) = [] := by
  rw [changed_set hflag]
  split
  · rfl
  · simp [Ne.symm hne]

theorem changed_of_ne (he : ∀ handle value, e ≠ .set handle value) :
    changed board (board.step e).1 = [] :=
  filterMap_range_eq_nil fun flag _ => if_pos (stateOf_step_of_ne he flag).symm

/-! ### What holds at any time -/

/-- What holds of a board at any time, if these were the calls on its flags and these their
changes. -/
structure Follows (calls : Nat → List Bool) (changes : List (Nat × Readiness))
    (board : ReadinessBoard) : Prop where
  handles : board.handles ≠ []
  flags : ∀ flag ∈ board.handles, flag < board.flags.length
  states : ∀ flag, board.stateOf flag = .ofCalls (calls flag)
  courses : ∀ flag,
    Readiness.Course ((changes.filter (·.1 = flag)).map (·.2)) (board.stateOf flag)
  gauge : board.gauge = changes.getLast?.map (·.2.gaugeValue)

variable {calls : Nat → List Bool} {changes : List (Nat × Readiness)}

theorem follows_start : Follows (fun _ => []) [] {} where
  handles := List.cons_ne_nil _ _
  flags flag hflag := by
    obtain rfl := List.mem_singleton.1 hflag
    exact Nat.zero_lt_one
  states flag := by
    match flag with
    | 0 | _ + 1 => rfl
  courses flag := by
    match flag with
    | 0 | _ + 1 => exact .starting
  gauge := rfl

/-- Every handle has a flag. -/
theorem Follows.flagOf_mem (h : board.Follows calls changes) (handle : Nat) :
    board.flagOf handle ∈ board.handles := by
  have hlt : handle % board.handles.length < board.handles.length :=
    Nat.mod_lt _ (List.length_pos_iff.2 h.handles)
  rw [flagOf, List.getElem?_eq_getElem hlt]
  exact List.getElem_mem hlt

theorem Follows.set (h : board.Follows calls changes) (handle : Nat) (value : Bool) :
    (board.step (.set handle value)).1.Follows
      (fun flag => calls flag ++ (board.valueFor? flag (.set handle value)).toList)
      (changes ++ changed board (board.step (.set handle value)).1) := by
  have hflag := h.flags _ (h.flagOf_mem handle)
  refine ⟨h.handles, ?_, ?_, ?_, ?_⟩
  · intro flag hmem
    show flag < (board.flags.set _ _).length
    rw [List.length_set]
    exact h.flags flag hmem
  · intro flag
    rw [stateOf_set hflag, valueFor?]
    by_cases hsame : flag = board.flagOf handle
    · rw [if_pos hsame, if_pos hsame.symm, h.states]
      exact (Readiness.ofCalls_concat _ _).symm
    · rw [if_neg hsame, if_neg (Ne.symm hsame), h.states]
      simp
  · intro flag
    rw [List.filter_append, List.map_append, stateOf_set hflag]
    by_cases hsame : flag = board.flagOf handle
    · subst hsame
      rw [if_pos rfl, filter_changed_set_self hflag]
      exact (h.courses _).set value
    · rw [if_neg hsame, filter_changed_set_of_ne hflag value hsame, List.map_nil, List.append_nil]
      exact h.courses flag
  · show (((board.stateOf (board.flagOf handle)).set value).2.bind (·.gauge?)).or board.gauge = _
    rw [Readiness.gauge?_set, changed_set hflag, h.gauge]
    split
    · rw [List.append_nil]
      rfl
    · rw [List.getLast?_concat]
      rfl

/-- A step that is no call leaves flags and gauge as they are. -/
theorem Follows.keep (h : board.Follows calls changes)
    (he : ∀ handle value, e ≠ .set handle value) :
    (board.step e).1.Follows calls changes where
  handles := by
    cases e with
    | set handle value => exact absurd rfl (he handle value)
    | clone | create => exact List.append_ne_nil_of_right_ne_nil _ (List.cons_ne_nil _ _)
    | idle => exact h.handles
  flags flag hmem := by
    cases e with
    | set handle value => exact absurd rfl (he handle value)
    | idle => exact h.flags flag hmem
    | clone handle =>
      rcases List.mem_append.1 hmem with hmem | hmem
      · exact h.flags flag hmem
      · obtain rfl := List.mem_singleton.1 hmem
        exact h.flags _ (h.flagOf_mem handle)
    | create =>
      show flag < (board.flags ++ [Readiness.starting]).length
      rw [List.length_append, List.length_singleton]
      rcases List.mem_append.1 hmem with hmem | hmem
      · exact Nat.lt_succ_of_lt (h.flags flag hmem)
      · obtain rfl := List.mem_singleton.1 hmem
        exact Nat.lt_succ_self _
  states flag := (stateOf_step_of_ne he flag).trans (h.states flag)
  courses flag := by
    rw [stateOf_step_of_ne he]
    exact h.courses flag
  gauge := by
    cases e with
    | set handle value => exact absurd rfl (he handle value)
    | clone | create | idle => exact h.gauge

theorem Follows.step (h : board.Follows calls changes) (e : ReadinessStep) :
    (board.step e).1.Follows (fun flag => calls flag ++ (board.valueFor? flag e).toList)
      (changes ++ changed board (board.step e).1) := by
  by_cases he : ∃ handle value, e = .set handle value
  · obtain ⟨handle, value, rfl⟩ := he
    exact h.set handle value
  · have hne : ∀ handle value, e ≠ .set handle value := fun handle value heq =>
      he ⟨handle, value, heq⟩
    have hvalue (flag : Nat) : board.valueFor? flag e = none := by
      cases e with
      | set handle value => exact absurd rfl (hne handle value)
      | clone | create | idle => rfl
    rw [changed_of_ne hne]
    simpa [hvalue] using h.keep hne

/-- **What holds of a board at any time holds after any run.** -/
theorem Follows.run (h : board.Follows calls changes) (steps : List ReadinessStep) :
    (board.after steps).Follows (fun flag => calls flag ++ callsOn flag board steps)
      (changes ++ changesIn board steps) := by
  induction steps generalizing board calls changes with
  | nil => simpa [after, callsOn, changesIn] using h
  | cons e steps ih =>
    have hrest := ih (h.step e)
    simp only [List.append_assoc] at hrest
    exact hrest

/-! ### Flags, gauge and log -/

/-- A call changes no flag but its own, and shows what comes of that. -/
theorem call_shows (hflag : board.flagOf handle < board.flags.length) (value : Bool) :
    let flag := board.flagOf handle
    let next := (board.step (.set handle value)).1
    let notice := (board.step (.set handle value)).2
    let change := changed board next
    (change = if next.stateOf flag = board.stateOf flag then [] else
      [(flag, next.stateOf flag)]) ∧
    notice.bind (·.gauge?) = change.head?.map (·.2.gaugeValue) ∧
    (∀ text, (∃ n ∈ notice, Context.noticeLevel n = .info ∧ n.message = text) ↔
      change ≠ [] ∧ text = "Readiness set: " ++ (next.stateOf flag).name) ∧
    ((∃ n ∈ notice, Context.noticeLevel n = .warn) ↔
      value = true ∧ board.stateOf flag = .draining) := by
  intro flag next notice change
  have hnotice : notice = ((board.stateOf flag).set value).2 := rfl
  have hnext : next.stateOf flag = ((board.stateOf flag).set value).1 :=
    (stateOf_set hflag value flag).trans (if_pos rfl)
  have hchange : change = if ((board.stateOf flag).set value).1 = board.stateOf flag then [] else
      [(flag, ((board.stateOf flag).set value).1)] := changed_set hflag value
  rw [hnext, hchange, hnotice]
  refine ⟨rfl, ?_, ?_, Readiness.warns_set value _⟩
  · rw [Readiness.gauge?_set]
    split
    · rfl
    · rfl
  · intro text
    rw [Readiness.informs_set]
    split
    · next heq => simp [heq]
    · next hne => simp [hne]

/-- **The flags follow the calls, and gauge and log tell the changes**, for any number of flags and
handles and any calls one after another. Each handle shows what the calls on its flag come to. Each
flag goes through its states on its course. The gauge shows the last change of any flag. A call
changes no flag but its own; it writes the gauge and logs the new state exactly if it changes it,
and logs a warning exactly if it would make a flag ready that drains. Nothing else changes or shows
anything. -/
theorem flags_follow_calls (steps : List ReadinessStep) :
    let start : ReadinessBoard := {}
    let board := start.after steps
    let changes := start.changesIn steps
    board.states = board.handles.map (fun flag => .ofCalls (start.callsOn flag steps)) ∧
    (∀ flag, Readiness.Course ((changes.filter (·.1 = flag)).map (·.2)) (board.stateOf flag)) ∧
    board.gauge = changes.getLast?.map (·.2.gaugeValue) ∧
    (∀ e, start.run (steps ++ [e]) = start.run steps ++ [board.step e]) ∧
    (∀ handle value,
      let flag := board.flagOf handle
      let next := (board.step (.set handle value)).1
      let notice := (board.step (.set handle value)).2
      let change := changed board next
      (change = if next.stateOf flag = board.stateOf flag then [] else
        [(flag, next.stateOf flag)]) ∧
      notice.bind (·.gauge?) = change.head?.map (·.2.gaugeValue) ∧
      (∀ text, (∃ n ∈ notice, Context.noticeLevel n = .info ∧ n.message = text) ↔
        change ≠ [] ∧ text = "Readiness set: " ++ (next.stateOf flag).name) ∧
      ((∃ n ∈ notice, Context.noticeLevel n = .warn) ↔
        value = true ∧ board.stateOf flag = .draining)) ∧
    ∀ e, (∀ handle value, e ≠ .set handle value) →
      changed board (board.step e).1 = [] ∧ (board.step e).2 = none ∧
        (board.step e).1.gauge = board.gauge := by
  intro start board changes
  have hfollows : board.Follows (fun flag => start.callsOn flag steps) changes :=
    follows_start.run steps
  refine ⟨?_, hfollows.courses, hfollows.gauge, run_concat steps, ?_, ?_⟩
  · exact List.map_congr_left fun flag _ => hfollows.states flag
  · intro handle value
    exact call_shows (hfollows.flags _ (hfollows.flagOf_mem handle)) value
  · intro e he
    refine ⟨changed_of_ne he, ?_, ?_⟩
    · cases e with
      | set handle value => exact absurd rfl (he handle value)
      | clone | create | idle => rfl
    · cases e with
      | set handle value => exact absurd rfl (he handle value)
      | clone | create | idle => rfl

end ReadinessBoard

end ProtocolGateway
