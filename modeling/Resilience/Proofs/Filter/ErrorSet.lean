import Mathlib
import Resilience.Filter.Basic

/-!
# Error sets: registration order and matching

An error set is built by registering keys, a runtime type with a flag that says whether the
type is looked for in the outermost layer of a fault or among its causes, and by merging
another set into it. Registration looks for the whole key, not for the type alone, so the
same type may stand in a set twice, once with each flag; registering a key that is already
there changes nothing, and a new one goes last. A union registers the other set's entries
one by one in that set's order.

So a set holds, once each, the keys registered to build it, in the order in which each was
first registered: its entries are the registered keys with their repeats erased
(`Built.entries_eq`). Everything else about the shape of a set follows from that one
equation: the entries never repeat, the size counts the distinct keys, and a union of sets
built this way is associative, and commutative up to the order of its entries, because both
sides erase the repeats of the same keys.

Matching reads each entry on its own and asks whether one of them matches. A fault has one
typed layer, the error raised first, and the context wrapped around it has no type; so a
plain entry matches only a fault with no context around an error of its type, and an inner
entry only a fault with context around one (`Entry.test_iff`). A plain and an inner entry
of the same type therefore never match the same fault. Since matching only asks whether some
entry matches, a union matches what either set matches.

## Main definitions

* `ErrorSet.Built`: The sets that registration and union build from the empty set, with
  the keys registered along the way.

## Theorems

* `ErrorSet.Built.entries_eq`: A built set holds the registered keys in order of first
  registration, each once.
* `ErrorSet.entries_union`: A union appends the other set's new entries in its order.
* `ErrorSet.test_iff`, `ErrorSet.test_eq_any_predicates`: What a set matches, and that it
  is the disjunction of the type and inner predicates of its entries.
* `ErrorSet.test_union`, `ErrorSet.union_self`, `ErrorSet.union_perm`,
  `ErrorSet.union_assoc`: The laws of union.
* `ErrorSet.registration_laws`: All of it for every set that registration and union build.
-/

namespace Resilience

section EraseDups

variable {α : Type} [DecidableEq α]

/-- Erasing repeats keeps the first occurrence, so a last element survives exactly when it
is new. -/
theorem eraseDups_concat (l : List α) (x : α) :
    (l ++ [x]).eraseDups = if x ∈ l then l.eraseDups else l.eraseDups ++ [x] := by
  rw [List.eraseDups_append]
  by_cases hx : x ∈ l <;> simp [List.removeAll, List.eraseDups_cons, hx]

theorem nodup_eraseDups (l : List α) : l.eraseDups.Nodup := by
  induction l using List.reverseRecOn with
  | nil => simp
  | append_singleton l x ih =>
    rw [eraseDups_concat]
    split
    · exact ih
    · rename_i hx
      exact ih.append (List.nodup_singleton x) (by simpa [List.mem_eraseDups] using hx)

/-- Filtering commutes with erasing repeats. -/
theorem eraseDups_filter (p : α → Bool) (l : List α) :
    (l.filter p).eraseDups = l.eraseDups.filter p := by
  induction l using List.reverseRecOn with
  | nil => simp
  | append_singleton l x ih =>
    rw [List.filter_append, List.filter_singleton, eraseDups_concat]
    by_cases hp : p x = true
    · -- the last element passes the filter, so it is new after filtering exactly when it
      -- was new before
      rw [hp, cond_true]
      by_cases hx : x ∈ l
      · have hmem : x ∈ l.filter p := List.mem_filter.2 ⟨hx, hp⟩
        rw [eraseDups_concat, if_pos hmem, if_pos hx, ih]
      · have hmem : x ∉ l.filter p := fun h => hx (List.mem_filter.1 h).1
        rw [eraseDups_concat, if_neg hmem, if_neg hx, ih, List.filter_append,
          List.filter_singleton, hp, cond_true]
    · have hp' : p x = false := by simpa using hp
      rw [hp', cond_false, List.append_nil, ih]
      split
      · rfl
      · rw [List.filter_append, List.filter_singleton, hp', cond_false, List.append_nil]

end EraseDups

namespace ErrorSet

attribute [ext] ErrorSet

/-! ### Registering and merging -/

@[simp]
theorem entries_insert (s : ErrorSet) (e : Entry) :
    (s.insert e).entries = if e ∈ s.entries then s.entries else s.entries ++ [e] := by
  by_cases he : e ∈ s.entries <;> simp [insert, he]

/-- Registering a key that is already there changes nothing. -/
theorem insert_of_mem {s : ErrorSet} {e : Entry} (he : e ∈ s.entries) : s.insert e = s := by
  simp [insert, he]

theorem mem_insert (s : ErrorSet) (e x : Entry) :
    x ∈ (s.insert e).entries ↔ x ∈ s.entries ∨ x = e := by
  rw [entries_insert]
  split
  · rename_i he
    constructor
    · exact .inl
    · rintro (hx | rfl)
      · exact hx
      · exact he
  · simp

theorem mem_foldl_insert (xs : List Entry) (s : ErrorSet) (x : Entry) :
    x ∈ (xs.foldl insert s).entries ↔ x ∈ s.entries ∨ x ∈ xs := by
  induction xs generalizing s with
  | nil => simp
  | cons e rest ih =>
    rw [List.foldl_cons, ih, mem_insert, List.mem_cons]
    tauto

/-- A union holds the entries of both sets. -/
theorem mem_union (a b : ErrorSet) (x : Entry) :
    x ∈ (a.union b).entries ↔ x ∈ a.entries ∨ x ∈ b.entries :=
  mem_foldl_insert b.entries a x

/-- Registering keys that are all there changes nothing. -/
theorem foldl_insert_of_subset (xs : List Entry) (s : ErrorSet)
    (h : ∀ x ∈ xs, x ∈ s.entries) :
    xs.foldl insert s = s := by
  induction xs with
  | nil => rfl
  | cons e rest ih =>
    rw [List.foldl_cons, insert_of_mem (h e (List.mem_cons_self ..))]
    exact ih fun x hx => h x (List.mem_cons_of_mem e hx)

/-- Merging a set into itself changes nothing. -/
theorem union_self (a : ErrorSet) : a.union a = a :=
  foldl_insert_of_subset a.entries a fun _ hx => hx

theorem entries_foldl_insert (xs : List Entry) (s : ErrorSet) (hxs : xs.Nodup) :
    (xs.foldl insert s).entries = s.entries ++ xs.filter (· ∉ s.entries) := by
  induction xs generalizing s with
  | nil => simp
  | cons e rest ih =>
    obtain ⟨he, hrest⟩ := List.nodup_cons.1 hxs
    rw [List.foldl_cons, ih _ hrest]
    by_cases hs : e ∈ s.entries
    · simp [insert_of_mem hs, hs]
    · -- the new key goes last, and no later key is the same one
      have hfilter : rest.filter (· ∉ s.entries ++ [e]) = rest.filter (· ∉ s.entries) := by
        apply List.filter_congr
        intro x hx
        have hne : x ≠ e := fun h => he (h ▸ hx)
        simp [hne]
      rw [entries_insert, if_neg hs, hfilter, List.filter_cons_of_pos (by simpa using hs),
        List.append_assoc, List.singleton_append]

/-- A union appends the other set's new entries, in the other set's order. -/
theorem entries_union (a b : ErrorSet) (hb : b.entries.Nodup) :
    (a.union b).entries = a.entries ++ b.entries.filter (· ∉ a.entries) :=
  entries_foldl_insert b.entries a hb

/-! ### Sets built by registration and union -/

/-- `s.Built keys`: registering and merging build `s` from the empty set, registering the
keys `keys` in this order, repeats included; a union registers the other set's keys after
the first set's. -/
inductive Built : ErrorSet → List Entry → Prop
  | empty : Built {} []
  | withType {s : ErrorSet} {keys : List Entry} (type : FaultType) :
      Built s keys → Built (s.withType type) (keys ++ [⟨type, false⟩])
  | withInner {s : ErrorSet} {keys : List Entry} (type : FaultType) :
      Built s keys → Built (s.withInner type) (keys ++ [⟨type, true⟩])
  | union {a b : ErrorSet} {ka kb : List Entry} :
      Built a ka → Built b kb → Built (a.union b) (ka ++ kb)

theorem entries_insert_of_eraseDups {s : ErrorSet} {keys : List Entry} (e : Entry)
    (hs : s.entries = keys.eraseDups) : (s.insert e).entries = (keys ++ [e]).eraseDups := by
  rw [entries_insert, hs, eraseDups_concat]
  simp [List.mem_eraseDups]

variable {s : ErrorSet} {keys : List Entry}

/-- A built set holds the registered keys in the order of their first registration, each
once. -/
theorem Built.entries_eq (h : s.Built keys) : s.entries = keys.eraseDups := by
  induction h with
  | empty => rfl
  | withType type _ ih => exact entries_insert_of_eraseDups _ ih
  | withInner type _ ih => exact entries_insert_of_eraseDups _ ih
  | @union a b ka kb _ _ iha ihb =>
    have hb : b.entries.Nodup := ihb ▸ nodup_eraseDups kb
    -- the other set's new keys, filtered before or after erasing repeats
    rw [entries_union a b hb, iha, ihb, List.eraseDups_append, List.removeAll,
      eraseDups_filter]
    simp [List.mem_eraseDups]

theorem Built.nodup (h : s.Built keys) : s.entries.Nodup :=
  h.entries_eq ▸ nodup_eraseDups keys

theorem Built.mem_iff (h : s.Built keys) (e : Entry) : e ∈ s.entries ↔ e ∈ keys := by
  rw [h.entries_eq, List.mem_eraseDups]

/-- The size of a built set is the number of distinct keys registered. -/
theorem Built.size_eq (h : s.Built keys) : s.size = keys.toFinset.card := by
  rw [size, ← List.toFinset_card_of_nodup h.nodup]
  congr 1
  ext e
  simp [h.mem_iff]

/-- A type is registered as a plain entry exactly when a plain key of it was registered. -/
theorem Built.contains_iff (h : s.Built keys) (type : FaultType) :
    s.contains type = true ↔ ⟨type, false⟩ ∈ keys := by
  simp [contains, h.mem_iff]

variable {a b c : ErrorSet} {ka kb kc : List Entry}

/-- Union is commutative up to the order of the entries. -/
theorem union_perm (ha : a.Built ka) (hb : b.Built kb) :
    (a.union b).entries.Perm (b.union a).entries := by
  have hab := Built.union ha hb
  have hba := Built.union hb ha
  rw [List.perm_ext_iff_of_nodup hab.nodup hba.nodup]
  intro e
  rw [hab.mem_iff, hba.mem_iff, List.mem_append, List.mem_append, or_comm]

/-- Union is associative: both sides hold the keys of the three sets in order of first
registration. -/
theorem union_assoc (ha : a.Built ka) (hb : b.Built kb) (hc : c.Built kc) :
    (a.union b).union c = a.union (b.union c) := by
  ext1
  rw [((ha.union hb).union hc).entries_eq, (ha.union (hb.union hc)).entries_eq,
    List.append_assoc]

/-! ### Matching -/

/-- An entry matches a fault whose raised error has the entry's type, a plain entry when no
context wraps the error and an inner entry when some does. -/
theorem Entry.test_iff (e : Entry) (f : Fault) :
    e.test f = true ↔ f.base.type? = some e.type ∧ (e.inner = true ↔ f.context ≠ []) := by
  obtain ⟨type, inner⟩ := e
  cases inner with
  | false =>
    by_cases hctx : f.context = [] <;>
      simp [Entry.test, Fault.is, Fault.type?, Fault.outermost?, hctx]
  | true =>
    by_cases hctx : f.context = [] <;>
      simp [Entry.test, Fault.findCause, hctx]

/-- A set matches a fault exactly when a plain entry has the type of its outermost layer or
an inner entry the type of one of its causes. -/
theorem test_iff (s : ErrorSet) (f : Fault) :
    s.test f = true ↔ (∃ type, ⟨type, false⟩ ∈ s.entries ∧ f.type? = some type) ∨
      ∃ type, ⟨type, true⟩ ∈ s.entries ∧ (f.findCause type).isSome := by
  simp only [test, List.any_eq_true]
  constructor
  · rintro ⟨⟨type, inner⟩, he, htest⟩
    cases inner with
    | false => exact .inl ⟨type, he, by simpa [Entry.test, Fault.is] using htest⟩
    | true => exact .inr ⟨type, he, by simpa [Entry.test] using htest⟩
  · rintro (⟨type, he, htype⟩ | ⟨type, he, hcause⟩)
    · exact ⟨_, he, by simp [Entry.test, Fault.is, htype]⟩
    · exact ⟨_, he, by simpa [Entry.test] using hcause⟩

/-- Each entry asks what a type predicate asks of a plain type, or an inner predicate of an
inner one. -/
theorem Entry.test_eq_predicate (e : Entry) (f : Fault) :
    e.test f = (if e.inner then Predicate.ofInner e.type else Predicate.ofType e.type).test f := by
  obtain ⟨type, inner⟩ := e
  cases inner with
  | false =>
    cases h : f.outermost? <;> simp [Entry.test, Predicate.ofType, Predicate.test, Fault.is,
      Fault.type?, h]
  | true =>
    cases h : f.findCause type <;> simp [Entry.test, Predicate.ofInner, Predicate.test, h]

theorem test_eq_any_predicates (s : ErrorSet) (f : Fault) :
    s.test f = s.entries.any fun e =>
      (if e.inner then Predicate.ofInner e.type else Predicate.ofType e.type).test f := by
  simp only [test, Entry.test_eq_predicate]

/-- A union matches what either set matches. -/
theorem test_union (a b : ErrorSet) (f : Fault) : (a.union b).test f = (a.test f || b.test f) := by
  apply Bool.eq_iff_iff.2
  simp only [test, Bool.or_eq_true, List.any_eq_true, mem_union]
  constructor
  · rintro ⟨e, he | he, htest⟩
    · exact .inl ⟨e, he, htest⟩
    · exact .inr ⟨e, he, htest⟩
  · rintro (⟨e, he, htest⟩ | ⟨e, he, htest⟩)
    · exact ⟨e, .inl he, htest⟩
    · exact ⟨e, .inr he, htest⟩

/-- The registration laws of error sets. Every set that registration and union build holds
the registered keys in order of first registration, each once, so its size counts them and
it contains a type exactly when a plain key of it was registered; registering a key again
changes nothing and a union appends the other set's new entries in its order. A set matches
a fault exactly when a plain entry has the type of the outermost layer or an inner entry the
type of a cause, which is the disjunction of the entries' type and inner predicates, and
plain and inner entries are kept apart by the context around the raised error. A union
matches what either set matches, and union is idempotent, associative and commutative up
to the order of the entries. -/
theorem registration_laws :
    (∀ (s : ErrorSet) keys, s.Built keys →
      s.entries = keys.eraseDups ∧ s.entries.Nodup ∧ s.size = keys.toFinset.card ∧
        ∀ type, s.contains type = true ↔ ⟨type, false⟩ ∈ keys) ∧
    (∀ (s : ErrorSet) type, ⟨type, false⟩ ∈ s.entries → s.withType type = s) ∧
    (∀ (s : ErrorSet) type, ⟨type, true⟩ ∈ s.entries → s.withInner type = s) ∧
    (∀ (a b : ErrorSet) kb, b.Built kb →
      (a.union b).entries = a.entries ++ b.entries.filter (· ∉ a.entries)) ∧
    (∀ (s : ErrorSet) (f : Fault), s.test f = true ↔
      (∃ type, ⟨type, false⟩ ∈ s.entries ∧ f.type? = some type) ∨
        ∃ type, ⟨type, true⟩ ∈ s.entries ∧ (f.findCause type).isSome) ∧
    (∀ (s : ErrorSet) (f : Fault), s.test f = s.entries.any fun e =>
      (if e.inner then Predicate.ofInner e.type else Predicate.ofType e.type).test f) ∧
    (∀ (e : Entry) (f : Fault),
      e.test f = true ↔ f.base.type? = some e.type ∧ (e.inner = true ↔ f.context ≠ [])) ∧
    (∀ (a b : ErrorSet) (f : Fault), (a.union b).test f = (a.test f || b.test f)) ∧
    (∀ a : ErrorSet, a.union a = a) ∧
    (∀ (a b : ErrorSet) ka kb, a.Built ka → b.Built kb →
      (a.union b).entries.Perm (b.union a).entries) ∧
    (∀ (a b c : ErrorSet) ka kb kc, a.Built ka → b.Built kb → c.Built kc →
      (a.union b).union c = a.union (b.union c)) := by
  refine ⟨fun s keys h => ⟨h.entries_eq, h.nodup, h.size_eq, h.contains_iff⟩,
    fun s type he => insert_of_mem he, fun s type he => insert_of_mem he,
    fun a b kb hb => entries_union a b hb.nodup, test_iff, test_eq_any_predicates,
    Entry.test_iff, test_union, union_self, ?_, ?_⟩
  · intro a b ka kb ha hb
    exact union_perm ha hb
  · intro a b c ka kb kc ha hb hc
    exact union_assoc ha hb hc

end ErrorSet

end Resilience
