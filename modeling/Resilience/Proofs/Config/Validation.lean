import Mathlib
import Resilience.Config.Yaml

/-!
# Validation accepts exactly the workable configurations

Validation checks a configuration in three rounds and stops at the first problem: the
default settings, then each named policy (its name first, then its settings), then each
collection (that it lists a policy, then that every policy it lists is configured). Named
policies and collections are checked in the order the configuration lists them, which for a
configuration read from a file is an order nobody chose.

What validation accepts does not depend on that order: a configuration passes exactly when
every part of it is workable (`validate_eq_ok_iff`). What it reports does depend on the
order, but only in which problem comes first, and every report is the complaint about a
part that really breaks a rule (`PolicyComplaint`, `CollectionComplaint`). The rounds are
what fixes the kind of report: as long as some policy cannot work, the report is about a
policy, whatever order the collections and policies come in; a collection is complained
about only when every policy works.

Settings can work when they allow an attempt, never shrink a delay and start delays within
their cap. The order on doubles is opaque to proofs, so a multiplier "at least one" is said
as it is checked, a number that is not below one, which is the same thing for a number.

## Main definitions

* `RetrySettings.Workable`: Retry settings that can work.
* `PoliciesConfig.PoliciesWork`, `PoliciesConfig.CollectionsResolve`: The two halves of a
  workable configuration.
* `PoliciesConfig.PolicyComplaint`, `PoliciesConfig.CollectionComplaint`: The true
  complaints about a configuration, with their messages.

## Theorems

* `PolicySettings.problem?_eq_none_iff`: The checks of one policy pass exactly on workable
  settings.
* `PoliciesConfig.validate_eq_ok_iff`: Validation accepts exactly the workable
  configurations.
* `PoliciesConfig.validate_eq_error`: A rejection is a true complaint, about a policy
  whenever some policy cannot work.
* `PoliciesConfig.validate_accepts_workable`: All of it, also for configurations read from
  YAML text.
-/

namespace Resilience

/-- Retry settings that can work: at least one attempt, a multiplier that is a number and
not below one, so that delays never shrink, and a first delay within the cap. -/
structure RetrySettings.Workable (r : RetrySettings) : Prop where
  attempts : 0 < r.maxAttempts
  multiplier_isNaN : r.backoffMultiplier.isNaN = false
  multiplier_not_lt : ¬r.backoffMultiplier < 1.0
  initial_le_max : r.initialDelayMs ≤ r.maxDelayMs

namespace PolicySettings

variable (name : String) (s : PolicySettings)

/-- The checks of one policy's settings pass exactly when the settings can work. -/
theorem problem?_eq_none_iff : s.problem? name = none ↔ s.retry.Workable := by
  dsimp only [problem?]
  split
  · -- settings that allow no attempt
    rename_i hattempts
    simp only [reduceCtorEq, false_iff]
    exact fun h => UInt32.pos_iff_ne_zero.1 h.attempts (by simpa using hattempts)
  · rename_i hattempts
    split
    · -- a multiplier that is not a number, or is below one
      rename_i hmultiplier
      simp only [reduceCtorEq, false_iff]
      intro h
      rw [h.multiplier_isNaN, decide_eq_false h.multiplier_not_lt] at hmultiplier
      exact Bool.false_ne_true hmultiplier
    · rename_i hmultiplier
      simp only [Bool.or_eq_true, decide_eq_true_eq, not_or, Bool.not_eq_true] at hmultiplier
      split
      · -- delays that start above their cap
        rename_i hdelays
        simp only [reduceCtorEq, false_iff]
        exact fun h => UInt64.not_le.2 hdelays h.initial_le_max
      · rename_i hdelays
        simp only [true_iff]
        exact ⟨UInt32.pos_iff_ne_zero.2 (by simpa using hattempts), hmultiplier.1,
          hmultiplier.2, UInt64.not_lt.1 hdelays⟩

end PolicySettings

namespace PoliciesConfig

variable (c : PoliciesConfig)

/-- The settings validation checks under a name: the default settings under `default`, and
each named policy's settings under its name. -/
def Checks (name : String) (s : PolicySettings) : Prop :=
  name = "default" ∧ s = c.defaults ∨ (name, s) ∈ c.policies

/-- The default settings and every named policy can work, and no policy name is blank, that
is made only of white space. -/
structure PoliciesWork : Prop where
  defaults : c.defaults.retry.Workable
  named : ∀ p ∈ c.policies, p.1.all isUnicodeSpace = false ∧ p.2.retry.Workable

/-- Every collection lists at least one policy, and only policies that are configured. -/
def CollectionsResolve : Prop :=
  ∀ entry ∈ c.collections,
    entry.2.policies ≠ [] ∧ ∀ policy ∈ entry.2.policies, policy ∈ c.policies.map Prod.fst

/-- The true complaints about the policies of a configuration: settings, the default ones or
a named policy's, that allow no attempt, can shrink delays or start delays above their cap,
each named with the policy; and a blank policy name, which the complaint cannot name. -/
inductive PolicyComplaint : String → Prop
  | attempts {name : String} {s : PolicySettings} :
      c.Checks name s → s.retry.maxAttempts = 0 →
      PolicyComplaint ("policy '" ++ name ++ "': max-attempts must be at least 1")
  | multiplier {name : String} {s : PolicySettings} :
      c.Checks name s →
      s.retry.backoffMultiplier.isNaN = true ∨ s.retry.backoffMultiplier < 1.0 →
      PolicyComplaint ("policy '" ++ name ++ "': backoff-multiplier must be at least 1.0")
  | delays {name : String} {s : PolicySettings} :
      c.Checks name s → s.retry.maxDelayMs < s.retry.initialDelayMs →
      PolicyComplaint ("policy '" ++ name ++ "': initial-delay-ms exceeds max-delay-ms")
  | blank {name : String} {s : PolicySettings} :
      (name, s) ∈ c.policies → name.all isUnicodeSpace = true →
      PolicyComplaint "policy names must not be empty"

/-- The true complaints about the collections of a configuration: a collection that lists
no policy, and one that lists a policy that is not configured, each named with the
collection. -/
inductive CollectionComplaint : String → Prop
  | empty {name : String} {coll : CollectionSettings} :
      (name, coll) ∈ c.collections → coll.policies = [] →
      CollectionComplaint ("collection '" ++ name ++ "' has no policies")
  | unknown {name : String} {coll : CollectionSettings} {policy : String} :
      (name, coll) ∈ c.collections → policy ∈ coll.policies →
      policy ∉ c.policies.map Prod.fst →
      CollectionComplaint
        ("collection '" ++ name ++ "' refers to unknown policy '" ++ policy ++ "'")

variable {c}

/-- A failed check of settings validation makes is a true complaint. -/
theorem problem?_complaint {name : String} {s : PolicySettings} {msg : String}
    (hchecks : c.Checks name s) (h : s.problem? name = some msg) : c.PolicyComplaint msg := by
  dsimp only [PolicySettings.problem?] at h
  split at h
  · rename_i hattempts
    cases h
    exact .attempts hchecks (by simpa using hattempts)
  · split at h
    · rename_i hmultiplier
      cases h
      exact .multiplier hchecks
        (by simpa only [Bool.or_eq_true, decide_eq_true_eq] using hmultiplier)
    · split at h
      · rename_i hdelays
        cases h
        exact .delays hchecks hdelays
      · cases h

/-! ### Named policies -/

theorem policyProblem?_eq_none_iff (ps : List (String × PolicySettings)) :
    policyProblem? ps = none ↔
      ∀ p ∈ ps, p.1.all isUnicodeSpace = false ∧ p.2.retry.Workable := by
  induction ps with
  | nil => simp [policyProblem?]
  | cons p rest ih =>
    obtain ⟨name, s⟩ := p
    rw [policyProblem?, List.forall_mem_cons]
    by_cases hblank : name.all isUnicodeSpace = true
    · -- a blank name stops the checks
      simp [hblank]
    · rw [if_neg hblank]
      cases hp : s.problem? name with
      | some p =>
        have hnot : ¬s.retry.Workable := by
          rw [← PolicySettings.problem?_eq_none_iff name s, hp]
          simp
        simp [hnot]
      | none =>
        have hworks := (PolicySettings.problem?_eq_none_iff name s).1 hp
        dsimp only
        rw [ih]
        exact ⟨fun h => ⟨⟨by simpa using hblank, hworks⟩, h⟩, fun h => h.2⟩

theorem policyProblem?_complaint {ps : List (String × PolicySettings)} {msg : String}
    (hps : ∀ p ∈ ps, p ∈ c.policies) (h : policyProblem? ps = some msg) :
    c.PolicyComplaint msg := by
  induction ps with
  | nil => cases h
  | cons p rest ih =>
    obtain ⟨name, s⟩ := p
    have hmem : (name, s) ∈ c.policies := hps _ (List.mem_cons_self ..)
    simp only [policyProblem?] at h
    split at h
    · rename_i hblank
      cases h
      exact .blank hmem hblank
    · cases hp : s.problem? name with
      | some p =>
        rw [hp] at h
        cases h
        exact problem?_complaint (.inr hmem) hp
      | none =>
        rw [hp] at h
        exact ih (fun q hq => hps q (List.mem_cons_of_mem _ hq)) h

/-! ### Collections -/

theorem collectionProblem?_eq_none_iff (names : List String)
    (cs : List (String × CollectionSettings)) :
    collectionProblem? names cs = none ↔
      ∀ entry ∈ cs,
        entry.2.policies ≠ [] ∧ ∀ policy ∈ entry.2.policies, policy ∈ names := by
  induction cs with
  | nil => simp [collectionProblem?]
  | cons entry rest ih =>
    obtain ⟨name, coll⟩ := entry
    rw [collectionProblem?, List.forall_mem_cons]
    by_cases hempty : coll.policies.isEmpty = true
    · simp [List.isEmpty_iff.1 hempty]
    · rw [if_neg hempty]
      cases hfind : coll.policies.find? (fun p => !names.contains p) with
      | some missing =>
        -- the first policy that is not configured is reported
        have hmissing := List.mem_of_find?_eq_some hfind
        have hunknown : missing ∉ names := by simpa using List.find?_some hfind
        simp only [reduceCtorEq, false_iff]
        exact fun h => hunknown (h.1.2 missing hmissing)
      | none =>
        have hknown : ∀ policy ∈ coll.policies, policy ∈ names := by
          simpa using List.find?_eq_none.1 hfind
        dsimp only
        rw [ih]
        exact ⟨fun h => ⟨⟨by simpa using hempty, hknown⟩, h⟩, fun h => h.2⟩

theorem collectionProblem?_complaint {cs : List (String × CollectionSettings)} {msg : String}
    (hcs : ∀ entry ∈ cs, entry ∈ c.collections)
    (h : collectionProblem? (c.policies.map Prod.fst) cs = some msg) :
    c.CollectionComplaint msg := by
  induction cs with
  | nil => cases h
  | cons entry rest ih =>
    obtain ⟨name, coll⟩ := entry
    have hmem : (name, coll) ∈ c.collections := hcs _ (List.mem_cons_self ..)
    simp only [collectionProblem?] at h
    split at h
    · rename_i hempty
      cases h
      exact .empty hmem (by simpa using hempty)
    · cases hfind : coll.policies.find? (fun p => !(c.policies.map Prod.fst).contains p) with
      | some missing =>
        rw [hfind] at h
        cases h
        exact .unknown hmem (List.mem_of_find?_eq_some hfind) (by simpa using List.find?_some hfind)
      | none =>
        rw [hfind] at h
        exact ih (fun e he => hcs e (List.mem_cons_of_mem _ he)) h

/-! ### Validation -/

theorem policiesWork_iff :
    c.PoliciesWork ↔
      c.defaults.problem? "default" = none ∧ policyProblem? c.policies = none := by
  rw [PolicySettings.problem?_eq_none_iff, policyProblem?_eq_none_iff]
  exact ⟨fun h => ⟨h.defaults, h.named⟩, fun h => ⟨h.1, h.2⟩⟩

theorem collectionsResolve_iff :
    c.CollectionsResolve ↔ collectionProblem? (c.policies.map Prod.fst) c.collections = none := by
  rw [collectionProblem?_eq_none_iff]
  rfl

/-- Validation accepts exactly the configurations whose policies can all work and whose
collections all resolve. -/
theorem validate_eq_ok_iff : c.validate = .ok () ↔ c.PoliciesWork ∧ c.CollectionsResolve := by
  rw [policiesWork_iff, collectionsResolve_iff]
  unfold validate
  cases hd : c.defaults.problem? "default" <;> cases hp : policyProblem? c.policies <;>
    cases hc : collectionProblem? (c.policies.map Prod.fst) c.collections <;>
    simp [Option.orElse]

/-- A rejection is a true complaint about the configuration: about a policy, or about a
collection when every policy can work. -/
theorem validate_eq_error {e : StructuralError} (h : c.validate = .error e) :
    ∃ msg, e = .invalidConfig msg ∧
      (c.PolicyComplaint msg ∨ c.PoliciesWork ∧ c.CollectionComplaint msg) := by
  unfold validate at h
  cases hd : c.defaults.problem? "default" with
  | some msg =>
    -- the default settings are checked first
    simp only [hd, Option.orElse] at h
    cases h
    exact ⟨msg, rfl, .inl (problem?_complaint (.inl ⟨rfl, rfl⟩) hd)⟩
  | none =>
    cases hp : policyProblem? c.policies with
    | some msg =>
      simp only [hd, hp, Option.orElse] at h
      cases h
      exact ⟨msg, rfl, .inl (policyProblem?_complaint (fun _ h => h) hp)⟩
    | none =>
      -- every policy can work, so only a collection can be complained about
      have hworks : c.PoliciesWork := policiesWork_iff.2 ⟨hd, hp⟩
      cases hc : collectionProblem? (c.policies.map Prod.fst) c.collections with
      | some msg =>
        simp only [hd, hp, hc, Option.orElse] at h
        cases h
        exact ⟨msg, rfl, .inr ⟨hworks, collectionProblem?_complaint (fun _ h => h) hc⟩⟩
      | none =>
        simp only [hd, hp, hc, Option.orElse] at h
        cases h

/-- Reading a configuration from text that parses is validating what it parses to. -/
theorem ofYaml_of_parse {text : String} (h : parse text = .ok c) :
    ofYaml text = (fun _ => c) <$> c.validate := by
  simp only [ofYaml, h]
  cases hv : c.validate <;> simp [bind, Except.bind, pure, Except.pure, hv]

/-- Validation accepts exactly the workable configurations: the default settings and every
named policy allow an attempt, keep delays from shrinking and start them within their cap,
no policy name is blank, and every collection lists at least one policy and only configured
ones. Otherwise it reports an invalid configuration with a true complaint, about a policy
whenever some policy cannot work, whatever the order of the policies and collections. Text
that parses is read as its validation. -/
theorem validate_accepts_workable (c : PoliciesConfig) :
    (c.validate = .ok () ↔ c.PoliciesWork ∧ c.CollectionsResolve) ∧
      (∀ e, c.validate = .error e → ∃ msg, e = .invalidConfig msg ∧
        (c.PolicyComplaint msg ∨ c.PoliciesWork ∧ c.CollectionComplaint msg)) ∧
      ∀ text, parse text = .ok c → ofYaml text = (fun _ => c) <$> c.validate :=
  ⟨validate_eq_ok_iff, fun _ h => validate_eq_error h, fun _ h => ofYaml_of_parse h⟩

end PoliciesConfig

end Resilience
