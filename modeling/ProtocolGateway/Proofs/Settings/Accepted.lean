import Mathlib.Data.List.TakeWhile
import ProtocolGateway.Proofs.Uri.Below
import ProtocolGateway.Settings.Problem

/-!
# Settings that are accepted

Of settings without a problem no field is at fault. Here is what that says about the paths and the
addresses: the reserved path starts with a slash and ends with another character, and the path of
the health checks is neither reserved nor that of the system module.

## Main results

* `isUnder_trimEndOf`: slashes at the end of a path do not matter for what it is below.
* `Settings.fault?_of_valid`: no field of accepted settings is at fault.
* `Settings.normalizedPrefix_of_valid`: the prefix of accepted settings.
* `Settings.isSome_healthFault?`: which paths of the health checks are refused for the prefix.
* `Settings.pathBelow?_healthPath`: the health checks are not reserved.
-/

namespace ProtocolGateway

/-! ### Texts without what they end with -/

namespace Text

variable {c : Char} {text tail : List Char}

/-- A text that was trimmed ends with something else. -/
theorem getLast?_trimEndOf (c : Char) (text : List Char) :
    (trimEndOf c text).getLast? ≠ some c := by
  rw [trimEndOf, List.getLast?_reverse]
  intro h
  have hnot := List.head?_dropWhile_not (· == c) text.reverse
  rw [h] at hnot
  simp at hnot

/-- Only the tail of a text is trimmed if the rest ends with something else. -/
theorem trimEndOf_append (h : text.getLast? ≠ some c) (tail : List Char) :
    trimEndOf c (text ++ tail) = text ++ trimEndOf c tail := by
  have hkept : text.reverse.dropWhile (· == c) = text.reverse := by
    rw [List.dropWhile_eq_self_iff]
    intro hlt heq
    refine h ?_
    rw [← List.head?_reverse, List.head?_eq_getElem?, List.getElem?_eq_getElem hlt]
    simpa using heq
  rw [trimEndOf, trimEndOf, List.reverse_append, List.dropWhile_append]
  split
  · next hempty =>
    rw [List.isEmpty_iff.1 hempty, hkept, List.reverse_reverse]
    simp
  · rw [List.reverse_append, List.reverse_reverse]

/-- What is trimmed of a text begins as the text does. -/
theorem exists_trimEndOf_append (c : Char) (text : List Char) :
    ∃ tail, text = trimEndOf c text ++ tail :=
  ⟨(text.reverse.takeWhile (· == c)).reverse, by
    rw [trimEndOf, ← List.reverse_append, List.takeWhile_append_dropWhile, List.reverse_reverse]⟩

/-- A text begins with a character exactly if it is trimmed away or what is left begins with it. -/
theorem all_head?_trimEndOf (c : Char) (text : List Char) :
    (trimEndOf c text).head?.all (· == c) = text.head?.all (· == c) := by
  cases htrimmed : trimEndOf c text with
  | nil =>
    have hall : text.reverse.all (· == c) = true := by
      rw [List.all_eq_true]
      exact List.dropWhile_eq_nil_iff.1 (List.reverse_eq_nil_iff.1 htrimmed)
    cases text with
    | nil => rfl
    | cons d text =>
      rw [List.all_reverse, List.all_cons, Bool.and_eq_true] at hall
      exact hall.1.symm
  | cons d more =>
    obtain ⟨tail, htail⟩ := exists_trimEndOf_append c text
    rw [htail, htrimmed]
    rfl

end Text

/-! ### What lies below a path -/

section below

variable {above : List Char}

/-- That a path lies below another one means that something is left of it. -/
theorem isUnder_eq (above path : List Char) :
    isUnder above path = (pathBelow? above path).isSome := by
  rw [isUnder, pathBelow?]
  cases Text.dropStart? above path with
  | none => rfl
  | some rest =>
    cases rest with
    | nil => rfl
    | cons c rest =>
      by_cases hc : c = '/'
      · simp [hc]
      · simp [hc]

theorem isUnder_append (above rest : List Char) :
    isUnder above (above ++ rest) = rest.head?.all (· == '/') := by
  rw [isUnder, Text.dropStart?_eq_some_iff.2 rfl]
  cases rest <;> rfl

/-- **The slashes at the end of a path** do not matter for what lies below another path that does
not end with one. -/
theorem isUnder_trimEndOf (habove : above.getLast? ≠ some '/') (path : List Char) :
    isUnder above (Text.trimEndOf '/' path) = (pathBelow? above path).isSome := by
  rw [← isUnder_eq]
  by_cases hstart : above <+: path
  · obtain ⟨rest, rfl⟩ := hstart
    rw [Text.trimEndOf_append habove, isUnder_append, isUnder_append, Text.all_head?_trimEndOf]
  · have hno {text : List Char} (htext : text <+: path) : isUnder above text = false := by
      rw [isUnder]
      cases hdrop : Text.dropStart? above text with
      | none => rfl
      | some rest =>
        refine absurd (List.IsPrefix.trans ?_ htext) hstart
        exact ⟨rest, (Text.dropStart?_eq_some_iff.1 hdrop).symm⟩
    obtain ⟨tail, htail⟩ := Text.exists_trimEndOf_append '/' path
    rw [hno (List.prefix_refl path), hno ⟨tail, htail.symm⟩]

end below

/-! ### What is accepted -/

theorem SettingsField.mem_all (field : SettingsField) : field ∈ all := by
  cases field <;> decide

namespace Settings

variable {s : Settings}

/-- **No field of accepted settings is at fault.** -/
theorem fault?_of_valid [Log.Patterns] (h : s.Valid) (field : SettingsField) :
    s.fault? field = none :=
  Option.map_eq_none_iff.1 (List.filterMap_eq_nil_iff.1 h field field.mem_all)

theorem exists_address_of_addressFault? {text : String} (h : addressFault? text = none) :
    ∃ address, SocketAddress.parse? text = some address := by
  cases hparse : SocketAddress.parse? text with
  | none =>
    rw [addressFault?, hparse] at h
    cases h
  | some address => exact ⟨address, rfl⟩

theorem exists_address_of_valid [Log.Patterns] (h : s.Valid) :
    ∃ address, SocketAddress.parse? s.listener.bindAddress = some address :=
  exists_address_of_addressFault? (fault?_of_valid h .bindAddress)

theorem requestMs_pos_of_valid [Log.Patterns] (h : s.Valid) : 0 < s.timeouts.requestMs := by
  have hfault := fault?_of_valid h .requestTimeout
  have hsecs : s.timeouts.requestSecs ≠ 0 := by
    intro hzero
    rw [fault?, zeroFault?, if_pos hzero] at hfault
    cases hfault
  exact Nat.mul_pos (Nat.pos_of_ne_zero hsecs) (by decide)

theorem exists_metricsAddress_of_valid [Log.Patterns] (h : s.Valid)
    (henabled : s.observability.metricsEnabled) :
    ∃ address, SocketAddress.parse? s.observability.metricsAddress = some address := by
  have hfault : s.fault? .metricsAddress = none := fault?_of_valid h .metricsAddress
  rw [fault?, if_pos henabled] at hfault
  exact exists_address_of_addressFault? hfault

/-- What a prefix that is not at fault is like. -/
theorem pathPrefix_of_prefixFault? {g : GatewaySettings} (h : prefixFault? g = none) :
    g.pathPrefix.toList.head? = some '/' ∧ g.normalizedPrefix ≠ ['/'] := by
  rw [prefixFault?] at h
  split at h
  · cases h
  · next hslash =>
    split at h
    · cases h
    · next hroot => exact ⟨not_not.1 hslash, hroot⟩

theorem trimmedPrefix_ne_nil_of_prefixFault? {g : GatewaySettings} (h : prefixFault? g = none) :
    g.trimmedPrefix ≠ [] := by
  intro hnil
  refine (pathPrefix_of_prefixFault? h).2 ?_
  rw [GatewaySettings.normalizedPrefix, hnil]
  rfl

theorem normalizedPrefix_of_prefixFault? {g : GatewaySettings} (h : prefixFault? g = none) :
    g.normalizedPrefix = g.trimmedPrefix := by
  rw [GatewaySettings.normalizedPrefix,
    if_neg (by simpa using trimmedPrefix_ne_nil_of_prefixFault? h)]

theorem prefixFault?_of_valid [Log.Patterns] (h : s.Valid) : prefixFault? s.gateway = none :=
  fault?_of_valid h .gatewayPrefix

theorem pathPrefix_of_valid [Log.Patterns] (h : s.Valid) :
    s.gateway.pathPrefix.toList.head? = some '/' ∧ s.gateway.normalizedPrefix ≠ ['/'] :=
  pathPrefix_of_prefixFault? (prefixFault?_of_valid h)

theorem trimmedPrefix_ne_nil [Log.Patterns] (h : s.Valid) : s.gateway.trimmedPrefix ≠ [] :=
  trimmedPrefix_ne_nil_of_prefixFault? (prefixFault?_of_valid h)

/-- The prefix of accepted settings is shown as it is, without the slashes at its end. -/
theorem normalizedPrefix_of_valid [Log.Patterns] (h : s.Valid) :
    s.gateway.normalizedPrefix = s.gateway.trimmedPrefix :=
  normalizedPrefix_of_prefixFault? (prefixFault?_of_valid h)

theorem getLast?_trimmedPrefix (s : Settings) : s.gateway.trimmedPrefix.getLast? ≠ some '/' :=
  Text.getLast?_trimEndOf '/' _

/-- What accepted settings say about the path of the health checks. -/
theorem healthPath_of_valid [Log.Patterns] (h : s.Valid) :
    Text.trimEndOf '/' s.health.path.toList ≠ infoPath ∧
      isUnder s.gateway.trimmedPrefix (Text.trimEndOf '/' s.health.path.toList) = false := by
  have hfault : healthFault? s.gateway s.health.path = none := fault?_of_valid h .healthPath
  rw [healthFault?] at hfault
  split at hfault
  · cases hfault
  · split at hfault
    · cases hfault
    · next htaken =>
      split at hfault
      · cases hfault
      · next hunder =>
        refine ⟨htaken, ?_⟩
        rw [normalizedPrefix_of_valid h, (pathPrefix_of_valid h).1] at hunder
        simpa using hunder

theorem healthPath_ne_infoPath [Log.Patterns] (h : s.Valid) : s.health.path.toList ≠ infoPath := by
  intro hpath
  refine (healthPath_of_valid h).1 ?_
  rw [hpath]
  rfl

/-- **A path of the health checks is at fault for the prefix** exactly if it is reserved, whatever
slashes either of them ends with. -/
theorem isSome_healthFault? {g : GatewaySettings} {path : String}
    (hreserved : prefixFault? g = none) (hslash : path.toList.head? = some '/')
    (hinfo : Text.trimEndOf '/' path.toList ≠ infoPath) :
    (healthFault? g path).isSome = (pathBelow? g.trimmedPrefix path.toList).isSome := by
  have hends : g.trimmedPrefix.getLast? ≠ some '/' := Text.getLast?_trimEndOf '/' _
  rw [healthFault?, if_neg (not_not.2 hslash), if_neg hinfo,
    (pathPrefix_of_prefixFault? hreserved).1, normalizedPrefix_of_prefixFault? hreserved,
    isUnder_trimEndOf hends]
  cases pathBelow? g.trimmedPrefix path.toList <;> rfl

/-- **The health checks are not reserved**: their path is neither the prefix nor below it. -/
theorem pathBelow?_healthPath [Log.Patterns] (h : s.Valid) :
    pathBelow? s.gateway.trimmedPrefix s.health.path.toList = none := by
  rw [← Option.not_isSome_iff_eq_none, ← isUnder_trimEndOf (getLast?_trimmedPrefix s),
    (healthPath_of_valid h).2]
  exact Bool.false_ne_true

end Settings

end ProtocolGateway
