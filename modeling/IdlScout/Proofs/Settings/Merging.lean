import IdlScout.Settings.Validity

/-! Merging settings is associative and has the usual settings as its neutral element; settings that
can be used stay so when they are merged. -/

namespace IdlScout
namespace Settings

/-- Three sets of settings are merged alike from the left and from the right. -/
theorem merge_assoc (first second third : Settings) :
    (first.merge second).merge third = first.merge (second.merge third) := by
  -- Every setting is combined by a rule of its own, and each of these rules is associative.
  simp only [merge, Option.orElse_eq_orElse, Option.orElse_eq_or, List.append_assoc,
    Option.or_assoc, Bool.or_assoc, Bool.and_assoc, Nat.max_assoc]

/-- The usual settings change nothing that was set before. -/
theorem merge_usual (settings : Settings) : settings.merge {} = settings := by
  -- The usual value of each setting is neutral for its rule.
  simp only [merge, Option.orElse_eq_orElse, Option.orElse_eq_or, List.append_nil, Option.none_or,
    Bool.or_false, Bool.and_true, Nat.max_zero]

/-- What is merged into the usual settings replaces them. -/
theorem usual_merge (settings : Settings) : Settings.merge {} settings = settings := by
  simp only [merge, Option.orElse_eq_orElse, Option.orElse_eq_or, List.nil_append, Option.or_none,
    Bool.false_or, Bool.true_and, Nat.zero_max]

variable {patternFault? : Text → Option Text} {settings others : Settings}

/-- Domains have no fault exactly if each of them is one. -/
theorem domainFault?_eq_none_iff : settings.domainFault? = none ↔
    ∀ domain ∈ settings.domains, isDomain domain = true := by
  simp [domainFault?]

/-- A filter has no fault exactly if it is not set or its pattern has none. -/
theorem filterFault?_eq_none_iff (kind : FilterKind) {filter : Option Text} :
    filterFault? patternFault? kind filter = none ↔
      ∀ pattern ∈ filter, patternFault? pattern = none := by
  cases filter with
  | none => simp [filterFault?]
  | some pattern => cases fault : patternFault? pattern <;> simp [filterFault?, fault]

/-- A wait has no fault exactly if it has a length. -/
theorem timeoutFault?_eq_none_iff :
    settings.timeoutFault? = none ↔ settings.waitTimeout ≠ some 0 := by
  simp [timeoutFault?]

/-- Settings have no fault exactly if no part of them has one. -/
theorem faultBy?_eq_none_iff : settings.faultBy? patternFault? = none ↔
    (∀ domain ∈ settings.domains, isDomain domain = true) ∧
      (∀ pattern ∈ settings.filter, patternFault? pattern = none) ∧
      (∀ pattern ∈ settings.rawFilter, patternFault? pattern = none) ∧
      settings.waitTimeout ≠ some 0 := by
  rw [← domainFault?_eq_none_iff, ← filterFault?_eq_none_iff .canonical,
    ← filterFault?_eq_none_iff .raw, ← timeoutFault?_eq_none_iff, faultBy?]
  -- The first fault is missing only if all are.
  simp only [Option.orElse_eq_orElse, Option.orElse_eq_or, Option.or_eq_none_iff]

/-- What holds of what either side sets holds of what is set after merging. -/
theorem of_mem_orElse {α : Type} {holds : α → Prop} {later earlier : Option α}
    (inLater : ∀ value ∈ later, holds value) (inEarlier : ∀ value ∈ earlier, holds value) :
    ∀ value ∈ later <|> earlier, holds value := by
  cases later with
  | none => exact inEarlier
  | some => exact inLater

/-- Settings without a fault are merged to settings without a fault. -/
theorem faultBy?_merge (usable : settings.faultBy? patternFault? = none)
    (othersUsable : others.faultBy? patternFault? = none) :
    (settings.merge others).faultBy? patternFault? = none := by
  obtain ⟨domains, filter, rawFilter, timeout⟩ := faultBy?_eq_none_iff.mp usable
  obtain ⟨domains', filter', rawFilter', timeout'⟩ := faultBy?_eq_none_iff.mp othersUsable
  apply faultBy?_eq_none_iff.mpr
  refine ⟨?_, of_mem_orElse filter' filter, of_mem_orElse rawFilter' rawFilter, ?_⟩
  · -- Every domain comes from one of the two.
    intro domain listed
    exact (List.mem_append.mp listed).elim (domains domain) (domains' domain)
  · intro none
    have positive : ∀ wait ∈ others.waitTimeout <|> settings.waitTimeout, wait ≠ 0 :=
      of_mem_orElse (fun wait set zero => timeout' (by rw [← zero]; exact set))
        (fun wait set zero => timeout (by rw [← zero]; exact set))
    exact positive 0 none rfl

/-- Settings form a monoid under merging, with the usual settings as its neutral element, and those
without a fault are a part of it that merging does not leave, whatever is wrong with which
patterns. -/
theorem merge_monoid (patternFault? : Text → Option Text) (first second third : Settings) :
    (first.merge second).merge third = first.merge (second.merge third) ∧
      first.merge {} = first ∧ Settings.merge {} first = first ∧
      faultBy? patternFault? {} = none ∧
      (first.faultBy? patternFault? = none → second.faultBy? patternFault? = none →
        (first.merge second).faultBy? patternFault? = none) :=
  ⟨merge_assoc first second third, merge_usual first, usual_merge first, rfl, faultBy?_merge⟩

/-- Settings of a file and those of a command line: the later filter, the one wait that is set and
the flag of either side are kept, and all domains. -/
theorem merge_monoid_of_file_and_flags :
    let patternFault? : Text → Option Text := fun pattern =>
      if pattern.contains '(' then some "no end".toList else none
    let file : Settings := {
      domains := ["1".toList], filter := some "a::.*".toList, swapOutputs := false,
      waitTimeout := some 500 }
    let flags : Settings := {
      domains := ["+2/profile".toList], filter := some "b".toList, rawFilter := some "dds_".toList,
      verbosity := 2 }
    file.faultBy? patternFault? = none ∧ flags.faultBy? patternFault? = none ∧
      (file.merge flags).faultBy? patternFault? = none ∧
      file.merge flags = {
        domains := ["1".toList, "+2/profile".toList], filter := some "b".toList,
        rawFilter := some "dds_".toList, verbosity := 2, swapOutputs := false,
        waitTimeout := some 500 } := by
  intro patternFault? file flags
  have fileUsable : file.faultBy? patternFault? = none := by decide
  have flagsUsable : flags.faultBy? patternFault? = none := by decide
  have merged := (merge_monoid patternFault? file flags {}).2.2.2.2 fileUsable flagsUsable
  exact ⟨fileUsable, flagsUsable, merged, by decide⟩

end Settings
end IdlScout
