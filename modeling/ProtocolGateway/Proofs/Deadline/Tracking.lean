import ProtocolGateway.Proofs.Deadline.History
import ProtocolGateway.Proofs.Deadline.Passing

/-!
# Deadline scopes keep to their history

At any moment, whichever timers have been run, the tokens show what was made of them. A token is
cancelled only for a reason, of its own or of one above it: somebody has cancelled it, or its timer
has counted to its end. A token that somebody has cancelled is cancelled, and so is what is below a
cancelled token. Only what a timer has still to do may be missing, and when none is left to run
nothing is.

A timer counts from its first run, so it is never early by the deadline of its scope, and it is late
by the time that has passed before that run. If none has, it is on time; then the history alone
decides what is cancelled when no timer is left to run, in whichever order they were run.

## Main definitions

* `Scopes.Shows`: tokens have the parents and the timers that their history gives them.
* `Scopes.Stopped`: a token has a reason of its own to be cancelled.
* `Scopes.Tracks`: what tokens have to do with their history at any moment.
* `Scopes.OnTime`: no timer is late.

## Main results

* `Scopes.tracks_passOn`: cancelling what has a reason, and passing it on, keeps to the history.
* `Scopes.Tracks.moves`, `Scopes.tracks_steps`: any moves do, and so do steps that leave no timer.
* `Scopes.OnTime.moves`: no timer is late after prompt moves.
* `Scopes.Tracks.isCancelled_iff_stopped`: what is cancelled when no timer is left to run.
* `Scopes.Tracks.isCancelled_iff`: what is cancelled then if no timer is late.
* `Scopes.Tracks.quiet_turns`: running all timers once is enough, in any order.
-/

namespace ProtocolGateway

namespace Scopes

variable {past : List ScopeStep} {e : ScopeStep} {t t' : Scopes} {l l' : List Scope} {s : Scope}
variable {chosen : Scope → Bool} {places : List (Option Nat × Option ScopeTimer)}
variable {i a p d token now now' : Nat} {timer : ScopeTimer}

/-! ### Running timers -/

/-- The tokens of a list when the timers of some of them have been run. -/
def ran (now : Nat) (run : Nat → Bool) (l : List Scope) : List Scope :=
  l.mapIdx fun i s => if run i then s.start now else s

theorem getElem?_ran {run : Nat → Bool} :
    (ran now run l)[i]? = l[i]?.map fun s => if run i then s.start now else s :=
  List.getElem?_mapIdx

theorem start_scopes : (t.start token).scopes = ran t.now (· == token) t.scopes := by
  refine List.ext_getElem? fun i => ?_
  rw [getElem?_ran, start, List.getElem?_modify]
  by_cases h : token = i
  · simp [h]
  · simp [h, Ne.symm h]

theorem map_start : l.map (·.start now) = ran now (fun _ => true) l := by
  refine List.ext_getElem? fun i => ?_
  rw [getElem?_ran, List.getElem?_map]
  rfl

theorem isCancelled_ran {run : Nat → Bool} : isCancelled (ran now run l) i = isCancelled l i := by
  rw [isCancelled, isCancelled, getElem?_ran]
  cases l[i]? with
  | none => rfl
  | some s => cases run i <;> simp [Scope.start]

/-! ### What tokens show -/

/-- Where a token comes from: it is the root, or it was made, and its timer counts from that moment
at the earliest. -/
inductive Origin (past : List ScopeStep) : Nat → Option Nat × Option ScopeTimer → Prop where
  | root : Origin past 0 (none, none)
  | made {i p moment : Nat} {timer : ScopeTimer} (h : Made past i p (moment + timer.timeout))
    (hmoment : moment ≤ elapsed past) (hsince : ∀ m ∈ timer.since, moment ≤ m) :
    Origin past i (some p, some timer)

/-- Tokens have the parents and the timers that their history gives them. -/
structure Shows (past : List ScopeStep) (places : List (Option Nat × Option ScopeTimer)) :
    Prop where
  length : places.length = tokens past
  origin : ∀ i place, places[i]? = some place → Origin past i place

theorem Origin.concat {place : Option Nat × Option ScopeTimer} (h : Origin past i place) :
    Origin (past ++ [e]) i place := by
  cases h with
  | root => exact .root
  | made h hmoment hsince => exact .made h.append (hmoment.trans elapsed_le_append) hsince

/-- A timer that is run counts from now on at the latest, and so not from before its scope. -/
theorem Origin.start (h : Origin past i s.place) :
    Origin past i (s.start (elapsed past)).place := by
  obtain ⟨parent, timer, cancelled⟩ := s
  cases h with
  | root => exact .root
  | made hmade hmoment hsince =>
    refine .made hmade hmoment fun m hm => ?_
    obtain rfl := Option.some.inj hm
    cases hfirst : ScopeTimer.since _ with
    | none => exact hmoment
    | some m => exact hsince m hfirst

namespace Shows

theorem exists_timer (h : Shows past places) (hmade : Made past i p d) :
    ∃ timer, places[i]? = some (some p, some timer) := by
  have hi : i < places.length := hmade.lt_tokens.trans_eq h.length.symm
  have hplace := List.getElem?_eq_getElem hi
  generalize places[i] = place at hplace
  cases h.origin i place hplace with
  | root => exact absurd hmade.pos (Nat.lt_irrefl 0)
  | made h' _ _ =>
    obtain ⟨rfl, -⟩ := hmade.unique h'
    exact ⟨_, hplace⟩

/-- A step that makes nothing leaves the places as they are. -/
theorem concat (h : Shows past places) (hmakes : e.makes = 0) :
    Shows (past ++ [e]) places := by
  refine ⟨by rw [h.length, tokens_concat, hmakes]; rfl, fun i place hplace => ?_⟩
  exact (h.origin i place hplace).concat

theorem concat_scope (h : Shows past places) (timeout p : Nat) :
    Shows (past ++ [.scope timeout p]) (places ++ [(some p, some ⟨timeout, none⟩)]) := by
  have hmade : Made (past ++ [.scope timeout p]) (tokens past) p (elapsed past + timeout) :=
    made_concat.2 (.inr ⟨timeout, rfl, rfl, rfl⟩)
  refine ⟨by rw [List.length_append, h.length, tokens_concat]; rfl, fun i place hplace => ?_⟩
  rcases Nat.lt_or_ge i places.length with hi | hi
  · rw [List.getElem?_append_left hi] at hplace
    exact (h.origin i place hplace).concat
  · have hlt := (List.getElem?_eq_some_iff.1 hplace).1
    obtain rfl : i = places.length := by
      rw [List.length_append, List.length_singleton] at hlt
      omega
    rw [List.getElem?_concat_length] at hplace
    obtain rfl := Option.some.inj hplace
    rw [h.length]
    exact .made hmade elapsed_le_append fun m hm => nomatch hm

/-- Running timers leaves the parents as they are, and no timer counts from before. -/
theorem ran {run : Nat → Bool} (h : Shows past (l.map Scope.place)) :
    Shows past ((Scopes.ran (elapsed past) run l).map Scope.place) := by
  have hlength := h.length
  rw [List.length_map] at hlength
  refine ⟨by rw [List.length_map, Scopes.ran, List.length_mapIdx, hlength], ?_⟩
  intro i place hplace
  rw [List.getElem?_map, getElem?_ran, Option.map_map, Option.map_eq_some_iff] at hplace
  obtain ⟨s, hs, rfl⟩ := hplace
  have horigin := h.origin i s.place (by rw [List.getElem?_map, hs]; rfl)
  rw [Function.comp_apply]
  split
  · exact horigin.start
  · exact horigin

section tokens

variable (h : Shows past (l.map Scope.place)) (hs : l[i]? = some s)

include h hs

theorem origin_of_getElem? : Origin past i (s.parent, s.timer) :=
  h.origin i _ (by rw [List.getElem?_map, hs]; rfl)

theorem childOf_of_parent (hp : s.parent = some p) : ChildOf past i p := by
  have horigin := h.origin_of_getElem? hs
  rw [hp] at horigin
  generalize s.timer = timer at horigin
  cases horigin with
  | made hmade => exact ⟨_, hmade⟩

/-- **A timer is never early**: a token whose timer has counted to its end ends. -/
theorem ends_of_isDue (hdue : s.isDue (elapsed past) = true) : Ends past i := by
  have horigin := h.origin_of_getElem? hs
  obtain ⟨timer, htimer, hdue⟩ := Option.any_eq_true _ _ |>.1 hdue
  obtain ⟨m, hm, hdue⟩ := Option.any_eq_true _ _ |>.1 hdue
  rw [htimer] at horigin
  generalize s.parent = parent at horigin
  cases horigin with
  | made hmade hmoment hsince =>
    refine .inr ⟨_, _, hmade, ?_⟩
    have hlater := hsince m hm
    have hreached := of_decide_eq_true hdue
    omega

end tokens

theorem mark (h : Shows past (l.map Scope.place)) :
    Shows past ((Scopes.mark token l).map Scope.place) := by
  rw [map_place_mark]
  exact h

theorem parentsFirst (h : Shows past (l.map Scope.place)) (hwell : WellFormed past) :
    ParentsFirst 0 l := by
  intro i s hs p hp
  rw [Nat.zero_add]
  exact (h.childOf_of_parent hs hp).parent_lt hwell

theorem exists_of_made (h : Shows past (l.map Scope.place)) (hmade : Made past i p d) :
    ∃ s timer, l[i]? = some s ∧ s.parent = some p ∧ s.timer = some timer := by
  obtain ⟨timer, hplace⟩ := h.exists_timer hmade
  rw [List.getElem?_map] at hplace
  obtain ⟨s, hs, hsame⟩ := Option.map_eq_some_iff.1 hplace
  exact ⟨s, timer, hs, congrArg Prod.fst hsame, congrArg Prod.snd hsame⟩

end Shows

/-! ### Timers that have counted to their end -/

/-- The timer of a token has counted to its end. -/
def Expired (t : Scopes) (a : Nat) : Prop := t.scopes[a]?.any (·.isDue t.now) = true

theorem fire_of_expired (h : t.Expired token) : t.fire token =
    { t with scopes := passOn (·.cancelled) [] (mark token t.scopes) } := if_pos h

theorem fire_of_not_expired (h : ¬t.Expired token) : t.fire token = t := if_neg h

/-- A token has a reason of its own to be cancelled: somebody has cancelled it, or its timer has
counted to its end. -/
def Stopped (past : List ScopeStep) (t : Scopes) (a : Nat) : Prop := .cancel a ∈ past ∨ t.Expired a

theorem isDue_mono (h : now ≤ now') (hdue : s.isDue now = true) : s.isDue now' = true := by
  obtain ⟨timer, htimer, hdue⟩ := Option.any_eq_true _ _ |>.1 hdue
  obtain ⟨m, hm, hdue⟩ := Option.any_eq_true _ _ |>.1 hdue
  have hreached := of_decide_eq_true hdue
  rw [Scope.isDue, htimer, Option.any_some, ScopeTimer.isDue, hm, Option.any_some]
  exact decide_eq_true (by omega)

/-- A timer that counts goes on to count from the same moment when it is run again. -/
theorem isDue_start (hdue : s.isDue now = true) : (s.start now').isDue now = true := by
  obtain ⟨timer, htimer, hdue⟩ := Option.any_eq_true _ _ |>.1 hdue
  obtain ⟨m, hm, hdue⟩ := Option.any_eq_true _ _ |>.1 hdue
  rw [Scope.isDue, Scope.start, htimer, Option.map_some, Option.any_some, ScopeTimer.isDue,
    ScopeTimer.start, hm, Option.getD_some, Option.any_some]
  exact hdue

theorem isStarted_start : (s.start now).isStarted = true := by
  rw [Scope.isStarted, Scope.start]
  cases s.timer <;> rfl

/-- Whether timers have counted to their end does not depend on what is cancelled. -/
theorem any_isDue_congr (h : l.map Scope.place = l'.map Scope.place) :
    l[a]?.any (·.isDue now) = l'[a]?.any (·.isDue now) := by
  have hplace := congrArg (·[a]?) h
  simp only [List.getElem?_map] at hplace
  cases hl : l[a]? with
  | none =>
    rw [hl] at hplace
    rw [Option.map_eq_none_iff.1 hplace.symm]
  | some s =>
    rw [hl] at hplace
    obtain ⟨s', hs', hsame⟩ := Option.map_eq_some_iff.1 hplace.symm
    rw [hs', Option.any_some, Option.any_some, isDue_of_place hsame]

theorem any_isDue_mono (h : now ≤ now') (hdue : l[a]?.any (·.isDue now) = true) :
    l[a]?.any (·.isDue now') = true := by
  obtain ⟨s, hs, hdue⟩ := Option.any_eq_true _ _ |>.1 hdue
  rw [hs]
  exact isDue_mono h hdue

theorem any_isDue_ran {run : Nat → Bool} (hdue : l[a]?.any (·.isDue now) = true) :
    (ran now' run l)[a]?.any (·.isDue now) = true := by
  obtain ⟨s, hs, hdue⟩ := Option.any_eq_true _ _ |>.1 hdue
  rw [getElem?_ran, hs, Option.map_some, Option.any_some]
  split
  · exact isDue_start hdue
  · exact hdue

/-- The steps among moves, the first of which comes first. -/
theorem steps_cons {m : ScopeMove} {moves : List ScopeMove} :
    (m :: moves).filterMap (·.step?) = m.step?.toList ++ moves.filterMap (·.step?) := by
  cases m <;> rfl

/-! ### The invariant -/

/-- What tokens have to do with their history at any moment. -/
structure Tracks (past : List ScopeStep) (t : Scopes) : Prop where
  shows : Shows past (t.scopes.map Scope.place)
  now : t.now = elapsed past
  sound : ∀ i, isCancelled t.scopes i = true → ∃ a, Above past i a ∧ Stopped past t a
  cancels : ∀ a, .cancel a ∈ past → isCancelled t.scopes a = true
  inherits : ∀ i p, ChildOf past i p → isCancelled t.scopes p = true →
    isCancelled t.scopes i = true

theorem tracks_nil : Tracks [] {} := by
  have hnone (i : Nat) : ¬isCancelled ({} : Scopes).scopes i = true := by
    rintro h
    obtain ⟨s, hs, hcancelled⟩ := isCancelled_iff.1 h
    obtain rfl := List.mem_singleton.1 (List.mem_of_getElem? hs)
    cases hcancelled
  refine ⟨⟨rfl, fun i place hplace => ?_⟩, rfl, fun i h => absurd h (hnone i),
    fun a h => absurd h List.not_mem_nil, fun i p _ h => absurd h (hnone p)⟩
  cases i with
  | zero =>
    obtain rfl := Option.some.inj hplace
    exact .root
  | succ => cases hplace

/-- **Cancelling what has a reason and passing it on** keeps to the history, if nothing is forgotten
that somebody has cancelled. -/
theorem tracks_passOn (hwell : WellFormed past) (hshows : Shows past (l.map Scope.place))
    (hsound : ∀ i s, l[i]? = some s → chosen s = true →
      ∃ a, Above past i a ∧ Stopped past ⟨elapsed past, l⟩ a)
    (hcancels : ∀ a, .cancel a ∈ past → ∃ s, l[a]? = some s ∧ chosen s = true) :
    Tracks past ⟨elapsed past, passOn chosen [] l⟩ := by
  have hparents := hshows.parentsFirst hwell
  have hpass := isCancelled_passOn chosen hparents
  have hplaces : (passOn chosen [] l).map Scope.place = l.map Scope.place := map_place_passOn
  refine ⟨by rwa [hplaces], rfl, fun i => ?_, fun a ha => ?_, fun i p hchild hp => ?_⟩
  · -- by the number of the token: that of its parent is smaller
    induction i using Nat.strong_induction_on with
    | _ i ih =>
      intro hcancelled
      rw [hpass, Option.any_eq_true] at hcancelled
      obtain ⟨s, hs, hcancelled⟩ := hcancelled
      rcases Bool.or_eq_true_iff.1 hcancelled with hchosen | hparent
      · obtain ⟨a, habove, hstopped⟩ := hsound i s hs hchosen
        refine ⟨a, habove, hstopped.imp_right fun hexpired => ?_⟩
        rwa [Expired, any_isDue_congr hplaces]
      · obtain ⟨p, hp, hparent⟩ := Option.any_eq_true _ _ |>.1 hparent
        have hchild := hshows.childOf_of_parent hs hp
        obtain ⟨a, habove, hstopped⟩ := ih p (hchild.parent_lt hwell) hparent
        exact ⟨a, .head hchild habove, hstopped⟩
  · obtain ⟨s, hs, hchosen⟩ := hcancels a ha
    exact isCancelled_passOn_of_chosen hparents hs hchosen
  · obtain ⟨d, hmade⟩ := hchild
    obtain ⟨s, timer, hs, hparent, -⟩ := hshows.exists_of_made hmade
    change isCancelled (passOn chosen [] l) i = true
    rw [hpass, hs]
    simp [hparent, hp]

namespace Tracks

theorem length (h : Tracks past t) : t.scopes.length = tokens past := by
  have hlength := h.shows.length
  rwa [List.length_map] at hlength

/-! ### A step -/

theorem shows_changed (h : Tracks past t) :
    Shows (past ++ [e]) ((t.changed e).map Scope.place) := by
  cases e with
  | scope timeout parent =>
    rw [changed, List.map_append]
    exact h.shows.concat_scope timeout parent
  | advance time => exact h.shows.concat rfl
  | cancel token => exact h.shows.mark.concat rfl

/-- A reason stays one when a step is taken. -/
theorem stopped_changed (h : Tracks past t) (ha : Stopped past t a) :
    Stopped (past ++ [e]) ⟨elapsed (past ++ [e]), t.changed e⟩ a := by
  refine ha.imp (List.mem_append_left _) fun hexpired => ?_
  rw [Expired, h.now] at hexpired
  have hlater : t.scopes[a]?.any (·.isDue (elapsed (past ++ [e]))) = true :=
    any_isDue_mono elapsed_le_append hexpired
  change (t.changed e)[a]?.any (·.isDue (elapsed (past ++ [e]))) = true
  cases e with
  | scope timeout parent =>
    obtain ⟨s, hs, hdue⟩ := Option.any_eq_true _ _ |>.1 hlater
    rw [changed, List.getElem?_append_left (List.getElem?_eq_some_iff.1 hs).1, hs]
    exact hdue
  | advance time => exact hlater
  | cancel token => rwa [changed, any_isDue_congr map_place_mark]

theorem sound_changed (h : Tracks past t) (hi : isCancelled (t.changed e) i = true) :
    ∃ a, Above (past ++ [e]) i a ∧
      Stopped (past ++ [e]) ⟨elapsed (past ++ [e]), t.changed e⟩ a := by
  have hold (hi : isCancelled t.scopes i = true) : ∃ a, Above (past ++ [e]) i a ∧
      Stopped (past ++ [e]) ⟨elapsed (past ++ [e]), t.changed e⟩ a := by
    obtain ⟨a, habove, hstopped⟩ := h.sound i hi
    exact ⟨a, habove.append, h.stopped_changed hstopped⟩
  cases e with
  | scope timeout parent =>
    refine hold ?_
    obtain ⟨s, hs, hcancelled⟩ := isCancelled_iff.1 hi
    rcases Nat.lt_or_ge i t.scopes.length with hlt | hge
    · rw [changed, List.getElem?_append_left hlt] at hs
      exact isCancelled_iff.2 ⟨s, hs, hcancelled⟩
    · rw [changed, List.getElem?_append_right hge] at hs
      obtain rfl := List.mem_singleton.1 (List.mem_of_getElem? hs)
      cases hcancelled
  | advance time => exact hold hi
  | cancel token =>
    rcases isCancelled_mark.1 hi with hi | ⟨rfl, -⟩
    · exact hold hi
    · exact ⟨i, .refl, .inl (by simp)⟩

/-- A step takes no cancellation back. -/
theorem isCancelled_changed (hi : isCancelled t.scopes i = true) :
    isCancelled (t.changed e) i = true := by
  cases e with
  | scope =>
    rwa [changed, isCancelled_extend (List.prefix_append _ _) (lt_length_of_isCancelled hi)]
  | advance => exact hi
  | cancel token => exact isCancelled_mark.2 (.inl hi)

theorem cancels_changed (h : Tracks past t) (hwell : WellFormed (past ++ [e]))
    (ha : .cancel a ∈ past ++ [e]) : isCancelled (t.changed e) a = true := by
  rcases List.mem_append.1 ha with ha | ha
  · exact isCancelled_changed (h.cancels a ha)
  · obtain rfl := List.mem_singleton.1 ha
    have hlt : a < t.scopes.length := (hwell.named_lt a rfl).trans_eq h.length.symm
    exact isCancelled_mark.2 (.inr ⟨rfl, hlt⟩)

theorem act_eq (h : Tracks past t) :
    t.act e = ⟨elapsed (past ++ [e]), passOn (·.cancelled) [] (t.changed e)⟩ := by
  rw [Scopes.act, h.now, elapsed_concat]

theorem act (h : Tracks past t) (hwell : WellFormed (past ++ [e])) :
    Tracks (past ++ [e]) (t.act e) := by
  rw [h.act_eq]
  exact tracks_passOn hwell h.shows_changed
    (fun i s hs hcancelled => h.sound_changed (isCancelled_iff.2 ⟨s, hs, hcancelled⟩))
    fun a ha => isCancelled_iff.1 (h.cancels_changed hwell ha)

theorem isCancelled_act (h : Tracks past t) (hwell : WellFormed (past ++ [e]))
    (hi : isCancelled t.scopes i = true) : isCancelled (t.act e).scopes i = true := by
  obtain ⟨s, hs, hcancelled⟩ := isCancelled_iff.1 (isCancelled_changed hi)
  exact isCancelled_passOn_of_chosen (h.shows_changed.parentsFirst hwell) hs hcancelled

/-! ### Timers -/

theorem start (h : Tracks past t) (token : Nat) : Tracks past (t.start token) := by
  refine ⟨?_, h.now, fun i hi => ?_, fun a ha => ?_, fun i p hchild hp => ?_⟩
  · rw [start_scopes, h.now]
    exact h.shows.ran
  · rw [start_scopes, isCancelled_ran] at hi
    obtain ⟨a, habove, hstopped⟩ := h.sound i hi
    refine ⟨a, habove, hstopped.imp_right fun hexpired => ?_⟩
    rw [Expired, start_scopes]
    exact any_isDue_ran hexpired
  · rw [start_scopes, isCancelled_ran]
    exact h.cancels a ha
  · rw [start_scopes, isCancelled_ran] at hp ⊢
    exact h.inherits i p hchild hp

theorem fire (h : Tracks past t) (hwell : WellFormed past) (token : Nat) :
    Tracks past (t.fire token) := by
  rw [Scopes.fire]
  split
  · next hdue =>
    rw [h.now] at hdue ⊢
    refine tracks_passOn hwell h.shows.mark (fun i s hs hs' => ?_) fun a ha => ?_
    · have hexpired {a : Nat} (ha : t.scopes[a]?.any (·.isDue (elapsed past)) = true) :
          Expired ⟨elapsed past, mark token t.scopes⟩ a := by
        rwa [Expired, any_isDue_congr map_place_mark]
      rcases isCancelled_mark.1 (isCancelled_iff.2 ⟨s, hs, hs'⟩) with hold | ⟨rfl, -⟩
      · obtain ⟨a, habove, hstopped⟩ := h.sound i hold
        refine ⟨a, habove, hstopped.imp_right fun ha => ?_⟩
        rw [Expired, h.now] at ha
        exact hexpired ha
      · exact ⟨i, .refl, .inr (hexpired hdue)⟩
    · exact isCancelled_iff.1 (isCancelled_mark.2 (.inl (h.cancels a ha)))
  · exact h

theorem turn (h : Tracks past t) (hwell : WellFormed past) (token : Nat) :
    Tracks past (t.turn token) := (h.start token).fire hwell token

theorem isCancelled_passOn_mark (h : Tracks past t) (hwell : WellFormed past)
    (hi : isCancelled (mark token t.scopes) i = true) :
    isCancelled (passOn (·.cancelled) [] (mark token t.scopes)) i = true := by
  obtain ⟨s, hs, hcancelled⟩ := isCancelled_iff.1 hi
  exact isCancelled_passOn_of_chosen (h.shows.mark.parentsFirst hwell) hs hcancelled

/-- A timer takes no cancellation back. -/
theorem isCancelled_fire (h : Tracks past t) (hwell : WellFormed past)
    (hi : isCancelled t.scopes i = true) : isCancelled (t.fire token).scopes i = true := by
  rw [Scopes.fire]
  split
  · exact h.isCancelled_passOn_mark hwell (isCancelled_mark.2 (.inl hi))
  · exact hi

/-- A timer that has counted to its end cancels its token. -/
theorem isCancelled_fire_self (h : Tracks past t) (hwell : WellFormed past) (hi : t.Expired i) :
    isCancelled (t.fire i).scopes i = true := by
  obtain ⟨s, hs, -⟩ := Option.any_eq_true _ _ |>.1 hi
  rw [fire_of_expired hi]
  exact h.isCancelled_passOn_mark hwell
    (isCancelled_mark.2 (.inr ⟨rfl, (List.getElem?_eq_some_iff.1 hs).1⟩))

/-! ### A run -/

theorem move {m : ScopeMove} (h : Tracks past t) (hwell : WellFormed (past ++ m.step?.toList)) :
    Tracks (past ++ m.step?.toList) (t.move m) := by
  cases m with
  | act e => exact h.act hwell
  | start token =>
    rw [ScopeMove.step?, Option.toList_none, List.append_nil]
    exact h.start token
  | fire token =>
    rw [ScopeMove.step?, Option.toList_none, List.append_nil] at hwell ⊢
    exact h.fire hwell token

theorem isCancelled_move {m : ScopeMove} (h : Tracks past t)
    (hwell : WellFormed (past ++ m.step?.toList)) (hi : isCancelled t.scopes i = true) :
    isCancelled (t.move m).scopes i = true := by
  cases m with
  | act e => exact h.isCancelled_act hwell hi
  | start token => rwa [Scopes.move, start_scopes, isCancelled_ran]
  | fire token => exact h.isCancelled_fire hwell.of_append hi

/-- Whatever moves are made, in whichever order, the tokens keep to the steps among them. -/
theorem moves {moves : List ScopeMove} (h : Tracks past t)
    (hwell : WellFormed (past ++ moves.filterMap (·.step?))) :
    Tracks (past ++ moves.filterMap (·.step?)) (moves.foldl Scopes.move t) := by
  induction moves generalizing past t with
  | nil => rwa [List.filterMap_nil, List.append_nil]
  | cons m moves ih =>
    rw [steps_cons, ← List.append_assoc] at hwell ⊢
    exact ih (h.move hwell.of_append) hwell

/-- No move takes a cancellation back. -/
theorem isCancelled_moves {moves : List ScopeMove} (h : Tracks past t)
    (hwell : WellFormed (past ++ moves.filterMap (·.step?)))
    (hi : isCancelled t.scopes i = true) :
    isCancelled (moves.foldl Scopes.move t).scopes i = true := by
  induction moves generalizing past t with
  | nil => exact hi
  | cons m moves ih =>
    rw [steps_cons, ← List.append_assoc] at hwell
    exact ih (h.move hwell.of_append) hwell (h.isCancelled_move hwell.of_append hi)

/-- What is below a cancelled token is cancelled. -/
theorem isCancelled_of_above (h : Tracks past t) (habove : Above past i a)
    (ha : isCancelled t.scopes a = true) : isCancelled t.scopes i = true := by
  induction habove using Relation.ReflTransGen.head_induction_on with
  | refl => exact ha
  | head hchild _ ih => exact h.inherits _ _ hchild ih

/-- **What is cancelled when no timer is left to run**: a token that has a reason to be, and what is
below it. -/
theorem isCancelled_iff_stopped (h : Tracks past t) (hquiet : t.Quiet) :
    isCancelled t.scopes i = true ↔ ∃ a, Above past i a ∧ Stopped past t a := by
  refine ⟨h.sound i, ?_⟩
  rintro ⟨a, habove, hcancel | hexpired⟩
  · exact h.isCancelled_of_above habove (h.cancels a hcancel)
  · obtain ⟨s, hs, hdue⟩ := Option.any_eq_true _ _ |>.1 hexpired
    have hcancelled := hquiet s (List.mem_of_getElem? hs)
      (by rw [Scope.hasTurn, hdue, Bool.or_true])
    exact h.isCancelled_of_above habove (Scopes.isCancelled_iff.2 ⟨s, hs, hcancelled⟩)

/-- A token that has a reason to be cancelled ends. -/
theorem ends_of_stopped (h : Tracks past t) (ha : Stopped past t a) : Ends past a := by
  rcases ha with hcancel | hexpired
  · exact .inl hcancel
  · obtain ⟨s, hs, hdue⟩ := Option.any_eq_true _ _ |>.1 hexpired
    rw [h.now] at hdue
    exact h.shows.ends_of_isDue hs hdue

/-- **No token is cancelled before it ends**, whenever timers are run. -/
theorem ended (h : Tracks past t) (hi : isCancelled t.scopes i = true) : Ended past i := by
  obtain ⟨a, habove, hstopped⟩ := h.sound i hi
  exact ⟨a, habove, h.ends_of_stopped hstopped⟩

/-! ### Running all timers -/

/-- The timer of a token has been run as far as that goes. -/
def Done (t : Scopes) (i : Nat) : Prop :=
  ∀ s, t.scopes[i]? = some s → s.hasTurn t.now = true → s.cancelled = true

theorem quiet_of_done (h : ∀ i, Done t i) : t.Quiet := by
  intro s hs
  obtain ⟨i, hi⟩ := List.mem_iff_getElem?.1 hs
  exact h i s hi

/-- What a timer does at its end leaves the other timers alone. -/
theorem Done.fire (h : Tracks past t) (hwell : WellFormed past) (hdone : Done t i) (token : Nat) :
    Done (t.fire token) i := by
  have hcancelled := @h.isCancelled_fire past t i token hwell
  rw [Scopes.fire] at hcancelled ⊢
  split
  · next hdue =>
    rw [if_pos hdue] at hcancelled
    intro s hs hturn
    have hplaces : (passOn (·.cancelled) [] (Scopes.mark token t.scopes)).map Scope.place =
        t.scopes.map Scope.place := map_place_passOn.trans map_place_mark
    have hplace := congrArg (·[i]?) hplaces
    simp only [List.getElem?_map, hs, Option.map_some] at hplace
    obtain ⟨old, hold, hsame⟩ := Option.map_eq_some_iff.1 hplace.symm
    have htimer : old.timer = s.timer := congrArg Prod.snd hsame
    have holdturn : old.hasTurn t.now = true := by
      rwa [Scope.hasTurn, Scope.isStarted, Scope.isDue, htimer]
    obtain ⟨s', hs', hc⟩ := Scopes.isCancelled_iff.1
      (hcancelled (Scopes.isCancelled_iff.2 ⟨old, hold, hdone old hold holdturn⟩))
    obtain rfl := Option.some.inj (hs.symm.trans hs')
    exact hc
  · exact hdone

/-- A timer that is run has been run as far as that goes, and so have those that had been. -/
theorem Done.turn (h : Tracks past t) (hwell : WellFormed past) (hi : i = token ∨ Done t i) :
    Done (t.turn token) i := by
  by_cases hsame : i = token
  · subst hsame
    by_cases hexpired : (t.start i).Expired i
    · intro s hs _
      obtain ⟨s', hs', hc⟩ := Scopes.isCancelled_iff.1
        ((h.start i).isCancelled_fire_self hwell hexpired)
      obtain rfl := Option.some.inj (hs.symm.trans hs')
      exact hc
    · have hturn : t.turn i = t.start i := fire_of_not_expired hexpired
      rw [hturn]
      intro s hs hleft
      have hstarted : s.isStarted = true := by
        rw [start_scopes, getElem?_ran, Option.map_eq_some_iff] at hs
        obtain ⟨old, -, rfl⟩ := hs
        rw [if_pos (beq_self_eq_true i)]
        exact isStarted_start
      rw [Scope.hasTurn, hstarted] at hleft
      exact absurd (by rw [Expired, hs]; exact hleft) hexpired
  · refine Done.fire (h.start token) hwell ?_ token
    intro s hs
    rw [start_scopes, getElem?_ran, Option.map_eq_some_iff] at hs
    obtain ⟨old, hold, rfl⟩ := hs
    rw [if_neg fun hs => hsame (beq_iff_eq.1 hs)]
    exact hi.resolve_left hsame old hold

/-- **Running all timers once is enough**, in any order. -/
theorem quiet_turns (h : Tracks past t) (hwell : WellFormed past) {order : List Nat}
    (horder : ∀ i < tokens past, i ∈ order) : (order.foldl Scopes.turn t).Quiet := by
  have hdone (i : Nat) (hi : i ∈ order ∨ Done t i) : Done (order.foldl Scopes.turn t) i := by
    clear horder
    induction order generalizing t with
    | nil => exact hi.resolve_left List.not_mem_nil
    | cons token rest ih =>
      refine ih (h.turn hwell token) ?_
      rcases hi with hi | hi
      · rcases List.mem_cons.1 hi with rfl | hi
        · exact .inr (Done.turn h hwell (.inl rfl))
        · exact .inl hi
      · exact .inr (Done.turn h hwell (.inr hi))
  refine quiet_of_done fun i => ?_
  rcases Nat.lt_or_ge i (tokens past) with hi | hi
  · exact hdone i (.inl (horder i hi))
  · refine hdone i (.inr fun s hs => ?_)
    exact absurd (List.getElem?_eq_some_iff.1 hs).1 (by rw [h.length]; omega)

end Tracks

/-! ### Timers that are on time -/

/-- No timer is late: each counts from the moment at which its scope was made, or begins to count at
that moment if it is run now. Those of cancelled tokens do not matter. -/
def OnTime (past : List ScopeStep) (l : List Scope) : Prop :=
  ∀ i s timer, l[i]? = some s → s.timer = some timer →
    s.cancelled = true ∨ ∃ p, Made past i p (timer.since.getD (elapsed past) + timer.timeout)

theorem onTime_nil : OnTime [] ({} : Scopes).scopes := by
  intro i s timer hs htimer
  obtain rfl := List.mem_singleton.1 (List.mem_of_getElem? hs)
  cases htimer

namespace OnTime

/-- Cancelling more tokens does not make timers late. -/
theorem of_place (h : OnTime past l) (hplaces : l'.map Scope.place = l.map Scope.place)
    (hmore : ∀ i, isCancelled l i = true → isCancelled l' i = true) : OnTime past l' := by
  intro i s timer hs htimer
  have hplace := congrArg (·[i]?) hplaces
  simp only [List.getElem?_map, hs, Option.map_some] at hplace
  obtain ⟨old, hold, hsame⟩ := Option.map_eq_some_iff.1 hplace.symm
  refine (h i old timer hold ((congrArg Prod.snd hsame).trans htimer)).imp_left fun hc => ?_
  obtain ⟨s', hs', hc'⟩ := isCancelled_iff.1 (hmore i (isCancelled_iff.2 ⟨old, hold, hc⟩))
  obtain rfl := Option.some.inj (hs.symm.trans hs')
  exact hc'

theorem passOn (h : OnTime past l) (hparents : ParentsFirst 0 l)
    (hchosen : ∀ s : Scope, s.cancelled = true → chosen s = true) :
    OnTime past (passOn chosen [] l) := by
  refine h.of_place map_place_passOn fun i hi => ?_
  obtain ⟨s, hs, hc⟩ := isCancelled_iff.1 hi
  exact isCancelled_passOn_of_chosen hparents hs (hchosen s hc)

theorem mark (h : OnTime past l) (token : Nat) : OnTime past (mark token l) :=
  h.of_place map_place_mark fun _ hi => isCancelled_mark.2 (.inl hi)

/-- A timer that is run now does not begin to count late. -/
theorem start_getElem (h : OnTime past l) (hs : l[i]? = some s)
    (htimer : (s.start (elapsed past)).timer = some timer) : s.cancelled = true ∨
      ∃ p, Made past i p (timer.since.getD (elapsed past) + timer.timeout) := by
  obtain ⟨old, hold, rfl⟩ := Option.map_eq_some_iff.1 htimer
  exact h i s old hs hold

theorem ran {run : Nat → Bool} (h : OnTime past l) : OnTime past (ran (elapsed past) run l) := by
  intro i s timer hs htimer
  rw [getElem?_ran, Option.map_eq_some_iff] at hs
  obtain ⟨old, hold, rfl⟩ := hs
  split at htimer
  · next hrun =>
    have honTime := h.start_getElem hold htimer
    rwa [if_pos hrun]
  · next hrun =>
    rw [if_neg hrun]
    exact h i old timer hold htimer

theorem start (h : OnTime past t.scopes) (hnow : t.now = elapsed past) (token : Nat) :
    OnTime past (t.start token).scopes := by
  rw [start_scopes, hnow]
  exact h.ran

/-- A step does not make timers late if none is left to run for the first time when time passes. -/
theorem changed (h : OnTime past t.scopes) (htracks : Tracks past t)
    (hprompt : 0 < e.time → ∀ s ∈ t.scopes, s.cancelled = true ∨ s.isStarted = true) :
    OnTime (past ++ [e]) (t.changed e) := by
  have hstay (hmakes : e.time = 0 ∨ ∀ s ∈ t.scopes, s.cancelled = true ∨ s.isStarted = true) :
      OnTime (past ++ [e]) t.scopes := by
    intro i s timer hs htimer
    rcases h i s timer hs htimer with hc | ⟨p, hmade⟩
    · exact .inl hc
    · rcases hmakes with hnone | hstarted
      · rw [elapsed_concat, hnone, Nat.add_zero]
        exact .inr ⟨p, hmade.append⟩
      · refine (hstarted s (List.mem_of_getElem? hs)).imp_right fun hstarted => ⟨p, ?_⟩
        rw [Scope.isStarted, htimer, Option.all_some, Option.isSome_iff_exists] at hstarted
        obtain ⟨m, hm⟩ := hstarted
        rw [hm, Option.getD_some] at hmade ⊢
        exact hmade.append
  cases e with
  | scope timeout parent =>
    intro i s timer hs htimer
    rcases Nat.lt_or_ge i t.scopes.length with hi | hi
    · rw [Scopes.changed, List.getElem?_append_left hi] at hs
      exact hstay (.inl rfl) i s timer hs htimer
    · rw [Scopes.changed, List.getElem?_append_right hi] at hs
      obtain ⟨hlast, hs⟩ := List.getElem?_eq_some_iff.1 hs
      rw [List.length_singleton] at hlast
      rw [List.getElem_singleton] at hs
      subst hs
      obtain rfl := Option.some.inj htimer
      refine .inr ⟨parent, made_concat.2 (.inr ⟨timeout, rfl, ?_, ?_⟩)⟩
      · rw [← htracks.length]
        omega
      · rw [elapsed_concat]
        rfl
  | advance time =>
    refine hstay ?_
    rcases Nat.eq_zero_or_pos time with hzero | hpos
    · exact .inl hzero
    · exact .inr (hprompt hpos)
  | cancel token => exact (hstay (.inl rfl)).mark token

theorem move {m : ScopeMove} (h : OnTime past t.scopes) (htracks : Tracks past t)
    (hprompt : 0 < m.time → ∀ s ∈ t.scopes, s.cancelled = true ∨ s.isStarted = true)
    (hwell : WellFormed (past ++ m.step?.toList)) :
    OnTime (past ++ m.step?.toList) (t.move m).scopes := by
  cases m with
  | act e =>
    have hparents := (htracks.shows_changed (e := e)).parentsFirst hwell
    exact (h.changed htracks hprompt).passOn hparents fun _ hc => hc
  | start token =>
    rw [ScopeMove.step?, Option.toList_none, List.append_nil]
    exact h.start htracks.now token
  | fire token =>
    rw [ScopeMove.step?, Option.toList_none, List.append_nil] at hwell ⊢
    rw [Scopes.move, fire]
    split
    · exact (h.mark token).passOn (htracks.shows.mark.parentsFirst hwell) fun _ hc => hc
    · exact h

/-- **No timer is late after prompt moves.** -/
theorem moves {moves : List ScopeMove} (h : OnTime past t.scopes) (htracks : Tracks past t)
    (hprompt : Prompt t moves) (hwell : WellFormed (past ++ moves.filterMap (·.step?))) :
    OnTime (past ++ moves.filterMap (·.step?)) (moves.foldl Scopes.move t).scopes := by
  induction moves generalizing past t with
  | nil => rwa [List.filterMap_nil, List.append_nil]
  | cons m moves ih =>
    rw [steps_cons, ← List.append_assoc] at hwell ⊢
    exact ih (h.move htracks hprompt.1 hwell.of_append) (htracks.move hwell.of_append) hprompt.2
      hwell

end OnTime

namespace Tracks

/-- What ends for a reason of its own is cancelled, if no timer is late or left to run. -/
theorem isCancelled_of_ends (h : Tracks past t) (honTime : OnTime past t.scopes)
    (hquiet : t.Quiet) (ha : Ends past a) : isCancelled t.scopes a = true := by
  rcases ha with hcancel | ⟨p, d, hmade, hdue⟩
  · exact h.cancels a hcancel
  · obtain ⟨s, timer, hs, -, htimer⟩ := h.shows.exists_of_made hmade
    refine Scopes.isCancelled_iff.2 ⟨s, hs, ?_⟩
    rcases honTime a s timer hs htimer with hc | ⟨p', hmade'⟩
    · exact hc
    · obtain ⟨-, rfl⟩ := hmade.unique hmade'
      refine hquiet s (List.mem_of_getElem? hs) ?_
      rw [Scope.hasTurn, Scope.isStarted, Scope.isDue, htimer, h.now, Option.all_some,
        Option.any_some, ScopeTimer.isDue]
      cases hsince : timer.since with
      | none => rfl
      | some m =>
        rw [hsince] at hdue
        exact decide_eq_true hdue

/-- **What is cancelled when no timer is late or left to run.** -/
theorem isCancelled_iff (h : Tracks past t) (honTime : OnTime past t.scopes) (hquiet : t.Quiet) :
    isCancelled t.scopes i = true ↔ Ended past i := by
  refine ⟨h.ended, ?_⟩
  rintro ⟨a, habove, hends⟩
  exact h.isCancelled_of_above habove (h.isCancelled_of_ends honTime hquiet hends)

/-- The history decides which tokens are cancelled then. -/
theorem cancelled_eq (h : Tracks past t) (honTime : OnTime past t.scopes) (hquiet : t.Quiet)
    (h' : Tracks past t') (honTime' : OnTime past t'.scopes) (hquiet' : t'.Quiet) :
    t.cancelled = t'.cancelled := by
  refine List.ext_getElem? fun i => ?_
  have hsame : isCancelled t.scopes i = isCancelled t'.scopes i := by
    rw [Bool.eq_iff_iff, h.isCancelled_iff honTime hquiet, h'.isCancelled_iff honTime' hquiet']
  have hlength : t.scopes.length = t'.scopes.length := h.length.trans h'.length.symm
  rw [cancelled, cancelled, List.getElem?_map, List.getElem?_map]
  rcases Nat.lt_or_ge i t.scopes.length with hi | hi
  · have hi' : i < t'.scopes.length := hlength ▸ hi
    rw [Scopes.isCancelled, Scopes.isCancelled, List.getElem?_eq_getElem hi,
      List.getElem?_eq_getElem hi'] at hsame
    rw [List.getElem?_eq_getElem hi, List.getElem?_eq_getElem hi']
    exact congrArg some hsame
  · rw [List.getElem?_eq_none hi, List.getElem?_eq_none (hlength ▸ hi)]

end Tracks

/-! ### Steps that leave no timer -/

/-- A step after which all timers have been run keeps to the history, no timer is late then, and
none is left to run. -/
theorem tracks_step (h : Tracks past t) (hwell : WellFormed (past ++ [e]))
    (honTime : OnTime past t.scopes) (hquiet : t.Quiet) :
    Tracks (past ++ [e]) (t.step e) ∧ OnTime (past ++ [e]) (t.step e).scopes ∧
      (t.step e).Quiet := by
  obtain ⟨now, hnow⟩ : ∃ now, now = elapsed (past ++ [e]) := ⟨_, rfl⟩
  obtain ⟨started, hstarted⟩ : ∃ l, l = ran now (fun _ => true) (t.changed e) := ⟨_, rfl⟩
  have hall (s : Scope) (hs : s ∈ started) : s.isStarted = true := by
    rw [hstarted, ← map_start] at hs
    obtain ⟨old, -, rfl⟩ := List.mem_map.1 hs
    exact isStarted_start
  have hstep : t.step e = ⟨now, passOn (fun s => s.cancelled || s.isDue now) [] started⟩ := by
    rw [hstarted, ← map_start, ← settle_eq_passOn, hnow, elapsed_concat, ← h.now]
    cases e <;> rfl
  have hshows : Shows (past ++ [e]) (started.map Scope.place) := by
    rw [hstarted, hnow]
    exact h.shows_changed.ran
  have honTime' : OnTime (past ++ [e]) started := by
    rw [hstarted, hnow]
    refine (honTime.changed h fun _ s hs => ?_).ran
    cases hold : s.isStarted with
    | true => exact .inr rfl
    | false => exact .inl (hquiet s hs (by rw [Scope.hasTurn, hold]; rfl))
  have hparents := hshows.parentsFirst hwell
  rw [hstep]
  refine ⟨?_, honTime'.passOn hparents fun s hs => by rw [hs]; rfl, fun s hs hturn => ?_⟩
  · rw [hnow] at hstarted ⊢
    refine tracks_passOn hwell hshows (fun i s hs hchosen => ?_) fun a ha => ?_
    · rcases Bool.or_eq_true_iff.1 hchosen with hcancelled | hdue
      · have hi : isCancelled (t.changed e) i = true := by
          rw [← isCancelled_ran, ← hstarted]
          exact isCancelled_iff.2 ⟨s, hs, hcancelled⟩
        obtain ⟨a, habove, hstopped⟩ := h.sound_changed hi
        refine ⟨a, habove, hstopped.imp_right fun hexpired => ?_⟩
        rw [Expired, hstarted]
        exact any_isDue_ran hexpired
      · exact ⟨i, .refl, .inr (by rw [Expired, hs]; exact hdue)⟩
    · have hcancelled := h.cancels_changed hwell ha
      rw [← isCancelled_ran, ← hstarted] at hcancelled
      obtain ⟨s, hs, hc⟩ := isCancelled_iff.1 hcancelled
      exact ⟨s, hs, by rw [hc]; rfl⟩
  · obtain hnone | ⟨c, hc, hsame, hcancelled⟩ := mem_passOn hs
    · exact absurd hnone List.not_mem_nil
    · have htimer : c.timer = s.timer := congrArg Prod.snd hsame
      have hrun : s.isStarted = true := by rw [Scope.isStarted, ← htimer]; exact hall c hc
      rw [Scope.hasTurn, hrun, Bool.not_true, Bool.false_or] at hturn
      refine hcancelled ?_
      rw [isDue_of_place hsame, hturn, Bool.or_true]

/-- **The steps of a run** keep to the history if no timer is left to run after each of them, and no
timer is late. -/
theorem tracks_steps (hwell : WellFormed past) : Tracks past (past.foldl step {}) ∧
    OnTime past (past.foldl step {}).scopes ∧ (past.foldl step {}).Quiet := by
  induction past using List.reverseRecOn with
  | nil =>
    refine ⟨tracks_nil, onTime_nil, fun s hs hturn => ?_⟩
    obtain rfl := List.mem_singleton.1 hs
    cases hturn
  | append_singleton past e ih =>
    obtain ⟨htracks, honTime, hquiet⟩ := ih hwell.of_append
    rw [List.foldl_append]
    exact tracks_step htracks hwell honTime hquiet

end Scopes

end ProtocolGateway
