import IdlScout.Proofs.Settings.Merging
import IdlScout.Proofs.Text.Numeral

/-! Which settings are accepted, and what is reported of those that are not: the first thing wrong,
with domains looked at in their order, then the filters, then the wait. -/

namespace IdlScout
namespace Settings

/-- A domain as it is given: the digits of a number of 32 bits, with a plus sign before them or
without, and behind them nothing, or a slash and a profile. -/
inductive IsDomainText : Text → Prop where
  | intro {sign digits profile : Text} {n : Nat} (signed : sign = [] ∨ sign = ['+'])
      (denotes : Numeral.Denotes digits n) (small : n ≤ 4294967295)
      (ended : profile = [] ∨ ∃ name, profile = '/' :: name) :
    IsDomainText (sign ++ digits ++ profile)

/-- What stands before a profile is the domain's number. -/
theorem domainNumber_append {number profile : Text} (single : '/' ∉ number)
    (ended : profile = [] ∨ ∃ name, profile = '/' :: name) :
    domainNumber (number ++ profile) = number := by
  -- No digit and no sign is a slash, so the number is taken whole.
  have all : ∀ c ∈ number, (c != '/') = true := fun c member => by
    have other : c ≠ '/' := fun same => single (same ▸ member)
    simpa using other
  rw [domainNumber, List.takeWhile_append_of_pos all]
  rcases ended with rfl | ⟨name, rfl⟩ <;> simp

/-- Behind a domain's number there is nothing, or a slash and a profile. -/
theorem exists_profile (domain : Text) : ∃ profile, domain = domainNumber domain ++ profile ∧
    (profile = [] ∨ ∃ name, profile = '/' :: name) := by
  refine ⟨domain.dropWhile (· != '/'), (List.takeWhile_append_dropWhile).symm, ?_⟩
  cases left : domain.dropWhile (· != '/') with
  | nil => exact .inl rfl
  | cons c name =>
    -- Only a slash ends the number.
    have ends := List.head?_dropWhile_not (· != '/') domain
    rw [left] at ends
    obtain rfl : c = '/' := by simpa using ends
    exact .inr ⟨name, rfl⟩

/-- A domain is one exactly if it is given as such. -/
theorem isDomain_iff {domain : Text} : isDomain domain = true ↔ IsDomainText domain := by
  rw [isDomain, Option.isSome_iff_exists]
  constructor
  · rintro ⟨n, read⟩
    -- The number before the profile is read as one of 32 bits, with or without a sign.
    obtain ⟨digits, signed, denotes, small⟩ := Numeral.read?_eq_some_iff.mp read
    obtain ⟨profile, whole, ended⟩ := exists_profile domain
    rw [whole]
    rcases signed with same | same <;> rw [same]
    · exact @IsDomainText.intro [] _ _ _ (.inl rfl) denotes small ended
    · exact @IsDomainText.intro ['+'] _ _ _ (.inr rfl) denotes small ended
  · rintro ⟨signed, denotes, small, ended⟩
    rename_i sign digits profile n
    -- Neither the sign nor a digit is a slash.
    have single : '/' ∉ sign ++ digits := by
      have none := denotes.not_mem (c := '/') (by decide)
      rcases signed with rfl | rfl <;> simpa using none
    refine ⟨n, ?_⟩
    rw [domainNumber_append single ended]
    exact Numeral.read?_eq_some_iff.mpr
      ⟨digits, signed.imp (by rintro rfl; rfl) (by rintro rfl; rfl), denotes, small⟩

/-- Settings of which nothing is wrong, given what is wrong with patterns. -/
structure IsUsable (patternFault? : Text → Option Text) (settings : Settings) : Prop where
  domains : ∀ domain ∈ settings.domains, IsDomainText domain
  filter : ∀ pattern ∈ settings.filter, patternFault? pattern = none
  rawFilter : ∀ pattern ∈ settings.rawFilter, patternFault? pattern = none
  waits : settings.waitTimeout ≠ some 0

/-- The first thing that is wrong with settings: nothing is wrong with what is looked at before
it. -/
inductive FirstFault (patternFault? : Text → Option Text) (settings : Settings) :
    SettingsFault → Prop where
  | domain {before after : List Text} {domain : Text}
      (listed : settings.domains = before ++ domain :: after)
      (earlier : ∀ other ∈ before, IsDomainText other) (wrong : ¬ IsDomainText domain) :
    FirstFault patternFault? settings (.badDomain domain)
  | filter {pattern reason : Text} (domains : ∀ domain ∈ settings.domains, IsDomainText domain)
      (chosen : settings.filter = some pattern) (wrong : patternFault? pattern = some reason) :
    FirstFault patternFault? settings (.badFilter .canonical pattern reason)
  | rawFilter {pattern reason : Text} (domains : ∀ domain ∈ settings.domains, IsDomainText domain)
      (filter : ∀ pattern ∈ settings.filter, patternFault? pattern = none)
      (chosen : settings.rawFilter = some pattern) (wrong : patternFault? pattern = some reason) :
    FirstFault patternFault? settings (.badFilter .raw pattern reason)
  | wait (domains : ∀ domain ∈ settings.domains, IsDomainText domain)
      (filter : ∀ pattern ∈ settings.filter, patternFault? pattern = none)
      (rawFilter : ∀ pattern ∈ settings.rawFilter, patternFault? pattern = none)
      (none : settings.waitTimeout = some 0) :
    FirstFault patternFault? settings .noTimeout

variable {patternFault? : Text → Option Text} {settings : Settings} {fault : SettingsFault}

/-- The first domain that is none is reported. -/
theorem domainFault?_eq_some_iff : settings.domainFault? = some fault ↔
    ∃ before domain after, settings.domains = before ++ domain :: after ∧
      (∀ other ∈ before, IsDomainText other) ∧ ¬ IsDomainText domain ∧
      fault = .badDomain domain := by
  rw [domainFault?, Option.map_eq_some_iff]
  constructor
  · -- A search gives the first, so what stands before it was passed.
    rintro ⟨domain, found, rfl⟩
    obtain ⟨wrong, before, after, listed, earlier⟩ := List.find?_eq_some_iff_append.mp found
    refine ⟨before, domain, after, listed, fun other member => ?_, ?_, rfl⟩
    · simpa [isDomain_iff] using earlier other member
    · simpa [← isDomain_iff] using wrong
  · -- What comes before the first wrong one is right, so the search passes it.
    rintro ⟨before, domain, after, listed, earlier, wrong, rfl⟩
    refine ⟨domain, List.find?_eq_some_iff_append.mpr ⟨?_, before, after, listed, ?_⟩, rfl⟩
    · simpa [← isDomain_iff] using wrong
    · intro other member
      simpa [isDomain_iff] using earlier other member

/-- A filter that is set and cannot be used is reported. -/
theorem filterFault?_eq_some_iff {kind : FilterKind} {filter : Option Text} :
    filterFault? patternFault? kind filter = some fault ↔
      ∃ pattern reason, filter = some pattern ∧ patternFault? pattern = some reason ∧
        fault = .badFilter kind pattern reason := by
  cases filter with
  | none => simp [filterFault?]
  | some pattern => cases wrong : patternFault? pattern <;> simp [filterFault?, wrong, eq_comm]

/-- No fault is found exactly in settings of which nothing is wrong. -/
theorem faultBy?_eq_none_iff_isUsable :
    settings.faultBy? patternFault? = none ↔ settings.IsUsable patternFault? := by
  rw [faultBy?_eq_none_iff]
  simp only [isDomain_iff]
  exact ⟨fun ⟨domains, filter, rawFilter, waits⟩ => ⟨domains, filter, rawFilter, waits⟩,
    fun ⟨domains, filter, rawFilter, waits⟩ => ⟨domains, filter, rawFilter, waits⟩⟩

/-- What is reported is the first thing wrong. -/
theorem faultBy?_eq_some_iff_firstFault :
    settings.faultBy? patternFault? = some fault ↔ FirstFault patternFault? settings fault := by
  have domains : settings.domainFault? = none ↔
      ∀ domain ∈ settings.domains, IsDomainText domain := by
    simp only [domainFault?_eq_none_iff, isDomain_iff]
  -- A part is reported if it has a fault and those before it have none.
  simp only [faultBy?, Option.orElse_eq_orElse, Option.orElse_eq_or, Option.or_eq_some_iff,
    domainFault?_eq_some_iff, filterFault?_eq_some_iff, domains, filterFault?_eq_none_iff]
  constructor
  · -- The parts are looked at in their order: domains, both filters, the wait.
    rintro (⟨before, domain, after, listed, earlier, wrong, rfl⟩ | ⟨domains, rest⟩)
    · exact .domain listed earlier wrong
    rcases rest with ⟨pattern, reason, chosen, wrong, rfl⟩ | ⟨filter, rest⟩
    · exact .filter domains chosen wrong
    rcases rest with ⟨pattern, reason, chosen, wrong, rfl⟩ | ⟨rawFilter, rest⟩
    · exact .rawFilter domains filter chosen wrong
    · by_cases none : settings.waitTimeout = some 0
      · obtain rfl : SettingsFault.noTimeout = fault := by simpa [timeoutFault?, none] using rest
        exact .wait domains filter rawFilter none
      · simp [timeoutFault?, none] at rest
  · rintro (⟨listed, earlier, wrong⟩ | ⟨domains, chosen, wrong⟩ | ⟨domains, filter, chosen, wrong⟩ |
      ⟨domains, filter, rawFilter, none⟩)
    · exact .inl ⟨_, _, _, listed, earlier, wrong, rfl⟩
    · exact .inr ⟨domains, .inl ⟨_, _, chosen, wrong, rfl⟩⟩
    · exact .inr ⟨domains, .inr ⟨filter, .inl ⟨_, _, chosen, wrong, rfl⟩⟩⟩
    · exact .inr ⟨domains, .inr ⟨filter, .inr ⟨rawFilter, by simp [timeoutFault?, none]⟩⟩⟩

/-- Settings are accepted exactly if every domain is given as one, every filter that is set can be
used, and the wait is not of no length; otherwise the first that is wrong of these is reported. This
holds whatever is wrong with which patterns, and so of the patterns that are used. -/
theorem accepts_exactly_usable (patternFault? : Text → Option Text) (settings : Settings) :
    (settings.faultBy? patternFault? = none ↔ settings.IsUsable patternFault?) ∧
      (∀ fault, settings.faultBy? patternFault? = some fault ↔
        FirstFault patternFault? settings fault) ∧
      (settings.check = .ok () ↔ settings.IsUsable Settings.patternFault?) ∧
      ∀ fault, settings.check = .error fault ↔
        FirstFault Settings.patternFault? settings fault := by
  -- The program checks with its own test of patterns, which is one of all tests.
  refine ⟨faultBy?_eq_none_iff_isUsable, fun fault => faultBy?_eq_some_iff_firstFault, ?_, ?_⟩
  · rw [← faultBy?_eq_none_iff_isUsable, check, fault?]
    cases settings.faultBy? Settings.patternFault? <;> simp
  · intro fault
    rw [← faultBy?_eq_some_iff_firstFault, check, fault?]
    cases settings.faultBy? Settings.patternFault? <;> simp

/-- The largest number may have a sign, zeros and a profile of any text; the next one is reported,
before a domain that has no number and before a wait of no length. -/
example : faultBy? (fun _ => none) {
      domains := ["+0004294967295/a/b".toList, "4294967296".toList, "x".toList]
      waitTimeout := some 0 } = some (.badDomain "4294967296".toList) := by
  decide

end Settings
end IdlScout
