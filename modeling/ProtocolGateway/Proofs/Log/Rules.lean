import ProtocolGateway.Log.Filter

/-!
# What a filter shows

The rules of a filter are kept in the order in which they are tried, and one that concerns the same
events as an earlier one takes its place. Neither matters for an event as long as all directives
that concern it have the same verbosity: then that decides.

## Main results

* `Filter.any_concerns_insertRule`: a rule that is added concerns what it concerns, and no other
  rule is lost.
* `Filter.shows_ofDirectives`: events with one verbosity.
-/

namespace ProtocolGateway.Log

variable {event : Metadata}

namespace Rule

variable {r s : Rule}

theorem concerns_of_sameScope (h : r.sameScope s = true) (event : Metadata) :
    r.concerns event = s.concerns event := by
  rw [sameScope, Bool.and_eq_true, beq_iff_eq, beq_iff_eq] at h
  rw [concerns, concerns, h.1, h.2]

end Rule

namespace Filter

variable {r s : Rule} {rules : List Rule} {directives : List Directive}

theorem mem_insertRule (h : r ∈ insertRule s rules) : r = s ∨ r ∈ rules := by
  induction rules with
  | nil => exact .inl (List.mem_singleton.1 h)
  | cons first rest ih =>
    rw [insertRule] at h
    split at h
    · exact (List.mem_cons.1 h).imp_right (List.mem_cons_of_mem first)
    · split at h
      · exact List.mem_cons.1 h
      · rcases List.mem_cons.1 h with rfl | h
        · exact .inr List.mem_cons_self
        · exact (ih h).imp_right (List.mem_cons_of_mem first)

/-- **A rule that is added** concerns what it concerns. It replaces only rules that concern the
same. -/
theorem any_concerns_insertRule (s : Rule) (rules : List Rule) (event : Metadata) :
    (insertRule s rules).any (·.concerns event) =
      (s.concerns event || rules.any (·.concerns event)) := by
  induction rules with
  | nil => rfl
  | cons first rest ih =>
    rw [insertRule]
    split
    · next hsame =>
      rw [List.any_cons, List.any_cons, Rule.concerns_of_sameScope hsame event, ← Bool.or_assoc,
        Bool.or_self]
    · split
      · rfl
      · rw [List.any_cons, ih, List.any_cons, Bool.or_left_comm]

theorem mem_foldl_insertRule
    (h : r ∈ directives.foldl (fun rules d => insertRule (.ofDirective d) rules) rules) :
    r ∈ rules ∨ ∃ d ∈ directives, r = .ofDirective d := by
  induction directives generalizing rules with
  | nil => exact .inl h
  | cons first rest ih =>
    rcases ih h with hmem | ⟨d, hd, rfl⟩
    · rcases mem_insertRule hmem with rfl | hmem
      · exact .inr ⟨first, List.mem_cons_self, rfl⟩
      · exact .inl hmem
    · exact .inr ⟨d, List.mem_cons_of_mem first hd, rfl⟩

theorem any_concerns_foldl (directives : List Directive) (rules : List Rule) (event : Metadata) :
    (directives.foldl (fun rules d => insertRule (.ofDirective d) rules) rules).any
        (·.concerns event) =
      (rules.any (·.concerns event) ||
        directives.any fun d => (Rule.ofDirective d).concerns event) := by
  induction directives generalizing rules with
  | nil => exact (Bool.or_false _).symm
  | cons first rest ih =>
    rw [List.foldl_cons, ih, any_concerns_insertRule, List.any_cons,
      Bool.or_comm (Rule.concerns ..), Bool.or_assoc]

end Filter

/-- Whether a directive concerns an event that happens outside of any span. -/
def Directive.concerns (d : Directive) (event : Metadata) : Bool :=
  d.isStatic && (Rule.ofDirective d).concerns event

namespace Filter

variable {directives : List Directive} {v : Verbosity}

/-- **Events with one verbosity**: if all directives that concern an event have the same verbosity,
it is shown exactly if there is one and the verbosity lets its level through. -/
theorem shows_ofDirectives (h : ∀ d ∈ directives, d.concerns event = true → d.level = v) :
    (ofDirectives directives).shows event =
      (directives.any (·.concerns event) && v.shows event.level) := by
  cases directives with
  | nil => rfl
  | cons first rest =>
    let all := first :: rest
    let rules := (all.filter (·.isStatic)).foldl
      (fun rules d => insertRule (.ofDirective d) rules) []
    have hrules : ofDirectives all = ⟨rules⟩ := rfl
    have hany : rules.any (·.concerns event) = all.any (·.concerns event) := by
      rw [any_concerns_foldl, List.any_nil, Bool.false_or, List.any_filter]
      rfl
    rw [hrules, shows]
    split
    · next hfind =>
      have hnone : rules.any (·.concerns event) = false := by
        rw [List.any_eq_false]
        exact fun r hr => List.find?_eq_none.1 hfind r hr
      rw [← hany, hnone, Bool.false_and]
    · next rule hfind =>
      have hmem := List.mem_of_find?_eq_some hfind
      have hconcerns : rule.concerns event = true :=
        List.find?_some (p := fun r : Rule => r.concerns event) hfind
      obtain ⟨d, hd, rfl⟩ : ∃ d ∈ all.filter (·.isStatic), rule = .ofDirective d :=
        (mem_foldl_insertRule hmem).resolve_left List.not_mem_nil
      obtain ⟨hd, hstatic⟩ := List.mem_filter.1 hd
      have hlevel : d.level = v := h d hd (Bool.and_eq_true_iff.2 ⟨hstatic, hconcerns⟩)
      have hsome : rules.any (·.concerns event) = true := List.any_eq_true.2 ⟨_, hmem, hconcerns⟩
      rw [← hany, hsome, Bool.true_and, ← hlevel]
      rfl

end Filter

end ProtocolGateway.Log
