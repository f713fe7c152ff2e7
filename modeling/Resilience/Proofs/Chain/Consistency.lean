import Mathlib
import Resilience.Proofs.Chain.Order
import Resilience.Chain.Build

/-!
# Chains stay consistent

A chain is consistent when every element but the last has an operation. Nothing checks this
when a chain runs; instead every way of building a chain keeps it. Appending looks at the
element that is last so far, not at the new one, and refuses to go on after an open slot;
binding fills the last slot only while it is open; a chain built from a list appends the
elements one by one, so it is refused at the first open slot that is not last; and the copy
a wrapping policy runs has its open last slot, if any, bound. A refused operation returns an
error and no chain, so the chain it was asked of is left as it was.

Consistency is what makes a run safe. A run checks the last element only, before anything
runs, and refuses the chain when it is open; on a consistent chain whose last element is
bound every element is, so the check each element makes before it runs never fails. The
same holds of the copy a wrapping policy runs: a chain run with an operation for its open
slot is the run of the copy that has it bound (`runSteps_fill`).

## Main definitions

* `Chain.Consistent`: Every element but the last has an operation.
* `Chain.Edit`, `Chain.edit`, `Chain.editAll`: The building operations, and sequences of them.
* `Chain.Contract`: What the building operations and the runs promise of a chain.

## Theorems

* `Chain.push_eq_error_iff`, `Chain.bindLast_eq_error_iff`, `Chain.ofElements_eq_error_iff`:
  When each building operation is refused, and with which error.
* `Chain.runSteps_fill`: A chain run with an operation for its open slot runs the bound copy.
* `Chain.consistent_editAll`: Every sequence of building operations keeps a chain consistent.
* `Chain.handleAll_of_open`, `Chain.handleAll_ne_operationNotBound`: A run is refused exactly
  when the last element is open, and then before anything runs.
* `Chain.edits_keep_contract`: Every chain built by any sequence of operations keeps the
  contract.
-/

namespace Resilience

namespace Chain

variable {σ : Type} {t : ValueType}

/-- Every element but the last has an operation. -/
def Consistent (c : Chain σ t) : Prop := ∀ e ∈ c.elements.dropLast, e.operation.isSome

/-- A consistent chain whose last element is bound, or that is empty, has every element
bound. -/
theorem Consistent.all_bound {c : Chain σ t} (h : c.Consistent)
    (hlast : ∀ last ∈ c.elements.getLast?, last.operation.isSome) :
    ∀ e ∈ c.elements, e.operation.isSome := by
  intro e he
  have hne : c.elements ≠ [] := List.ne_nil_of_mem he
  -- an element is among all but the last, or it is the last
  rw [← List.dropLast_append_getLast hne, List.mem_append, List.mem_singleton] at he
  rcases he with hdrop | rfl
  · exact h e hdrop
  · exact hlast _ (List.getLast?_eq_some_getLast hne)

theorem consistent_empty : ({} : Chain σ t).Consistent := by
  simp [Consistent]

/-! ### Appending and binding -/

/-- Appending is refused, with the position and policy of the last element, exactly when the
last element is open. -/
theorem push_eq_error_iff (c : Chain σ t) (e : Element σ t) (err : StructuralError) :
    c.push e = .error err ↔ ∃ last, c.elements.getLast? = some last ∧ last.operation = none ∧
      err = .inconsistentChain (c.elements.length - 1) last.policy.name := by
  unfold push
  cases hlast : c.elements.getLast? with
  | none => simp
  | some last =>
    cases hop : last.operation with
    | none =>
      simp only [hop, Option.isNone_none, if_true, Except.error.injEq, Option.some.injEq]
      constructor
      · rintro rfl
        exact ⟨last, rfl, hop, rfl⟩
      · rintro ⟨_, rfl, -, rfl⟩
        rfl
    | some op => simp [hop]

/-- Appending after a bound last element, or to an empty chain, appends and changes nothing
else. -/
theorem push_eq_ok_iff (c : Chain σ t) (e : Element σ t) (c' : Chain σ t) :
    c.push e = .ok c' ↔ (∀ last ∈ c.elements.getLast?, last.operation.isSome) ∧
      c' = { c with elements := c.elements ++ [e] } := by
  unfold push
  cases hlast : c.elements.getLast? with
  | none =>
    simp only [Except.ok.injEq, Option.mem_def, reduceCtorEq, false_implies, implies_true,
      true_and]
    exact ⟨Eq.symm, Eq.symm⟩
  | some last =>
    cases hop : last.operation with
    | none => simp [hop]
    | some op =>
      simp only [hop, Option.isNone_some, Bool.false_eq_true, if_false, Except.ok.injEq,
        Option.mem_def, Option.some.injEq, forall_eq', Option.isSome_some, true_and]
      exact ⟨Eq.symm, Eq.symm⟩

/-- Binding is refused on an empty chain, and when the last element already has an
operation, with that element's policy. -/
theorem bindLast_eq_error_iff (c : Chain σ t) (op : Operation σ t.Carrier) (err : StructuralError) :
    c.bindLast op = .error err ↔ (c.elements = [] ∧ err = .emptyCollection) ∨
      ∃ last, c.elements.getLast? = some last ∧ last.operation.isSome ∧
        err = .alreadyBound last.policy.name := by
  unfold bindLast
  cases hlast : c.elements.getLast? with
  | none =>
    have hnil : c.elements = [] := List.getLast?_eq_none_iff.1 hlast
    simp only [Except.error.injEq, hnil, true_and, reduceCtorEq, false_and, exists_false,
      or_false]
    exact ⟨Eq.symm, Eq.symm⟩
  | some last =>
    have hne : c.elements ≠ [] := by
      rintro hnil
      simp [hnil] at hlast
    cases hop : last.operation with
    | none => simp [hop, hne]
    | some op' =>
      simp only [hop, Option.isSome_some, if_true, Except.error.injEq, hne, false_and,
        Option.some.injEq, true_and, exists_eq_left', false_or]
      exact ⟨Eq.symm, Eq.symm⟩

/-- Binding into an open last slot replaces that element by its bound form and changes
nothing else. -/
theorem bindLast_eq_ok_iff (c : Chain σ t) (op : Operation σ t.Carrier) (c' : Chain σ t) :
    c.bindLast op = .ok c' ↔ ∃ last, c.elements.getLast? = some last ∧ last.operation = none ∧
      c' = { c with elements := c.elements.dropLast ++ [{ last with operation := some op }] } := by
  unfold bindLast
  cases hlast : c.elements.getLast? with
  | none => simp
  | some last =>
    cases hop : last.operation with
    | none =>
      simp only [hop, Option.isSome_none, Bool.false_eq_true, if_false, Except.ok.injEq,
        Option.some.injEq, true_and, exists_eq_left']
      constructor
      · intro h
        rw [← h]
      · intro h
        rw [h]
    | some op' => simp [hop]

theorem Consistent.push {c c' : Chain σ t} {e : Element σ t} (h : c.Consistent)
    (hpush : c.push e = .ok c') : c'.Consistent := by
  obtain ⟨hlast, rfl⟩ := (push_eq_ok_iff c e c').1 hpush
  -- what was the whole chain is now all but the last element, and all of it is bound
  intro x hx
  rw [List.dropLast_concat] at hx
  exact h.all_bound hlast x hx

theorem Consistent.bindLast {c c' : Chain σ t} {op : Operation σ t.Carrier} (h : c.Consistent)
    (hbind : c.bindLast op = .ok c') : c'.Consistent := by
  obtain ⟨last, -, -, rfl⟩ := (bindLast_eq_ok_iff c op c').1 hbind
  intro x hx
  rw [List.dropLast_concat] at hx
  exact h x hx

/-! ### Chains built from lists -/

/-- Building from a list appends its elements one by one. -/
theorem ofElements_append (es es' : List (Element σ t)) :
    ofElements (es ++ es') = ofElements es >>= fun c => es'.foldlM Chain.push c := by
  unfold ofElements
  rw [List.foldlM_append]

theorem ofElements_append_singleton (es : List (Element σ t)) (e : Element σ t) :
    ofElements (es ++ [e]) = ofElements es >>= (·.push e) := by
  rw [ofElements_append]
  simp

/-- A list whose elements are all bound but the last makes a chain of exactly those
elements. -/
theorem ofElements_of_bound (es : List (Element σ t)) (h : ∀ e ∈ es.dropLast, e.operation.isSome) :
    ofElements es = .ok { elements := es } := by
  induction es using List.reverseRecOn with
  | nil => rfl
  | append_singleton es e ih =>
    rw [List.dropLast_concat] at h
    have hprefix : ∀ x ∈ es.dropLast, x.operation.isSome :=
      fun x hx => h x (List.mem_of_mem_dropLast hx)
    rw [ofElements_append_singleton, ih hprefix]
    -- the element appended last so far is bound, so the next one is appended
    exact (push_eq_ok_iff _ e _).2 ⟨fun last hlast => h last (List.mem_of_getLast? hlast), rfl⟩

/-- A list with an open element before its last one is refused at that element, when every
element before it is bound. -/
theorem ofElements_of_open (pre post : List (Element σ t)) (e next : Element σ t)
    (hpre : ∀ x ∈ pre, x.operation.isSome) (hopen : e.operation = none) :
    ofElements (pre ++ e :: next :: post) = .error (.inconsistentChain pre.length e.policy.name) := by
  have hsplit : pre ++ e :: next :: post = (pre ++ [e]) ++ next :: post := by simp
  have hbuilt : ofElements (pre ++ [e]) = .ok { elements := pre ++ [e] } :=
    ofElements_of_bound _ (by simpa using hpre)
  have hrefused : ({ elements := pre ++ [e] } : Chain σ t).push next =
      .error (.inconsistentChain pre.length e.policy.name) :=
    (push_eq_error_iff _ _ _).2 ⟨e, by simp, hopen, by simp⟩
  rw [hsplit, ofElements_append, hbuilt]
  simp only [bind, Except.bind, List.foldlM_cons, hrefused]

/-- A list splits around each of its positions but the last. -/
private theorem eq_take_append_cons_cons {α : Type} {es : List α} {i : Nat} {e : α}
    (hlen : i + 1 < es.length) (hes : es[i]? = some e) :
    ∃ next post, es = es.take i ++ e :: next :: post := by
  obtain ⟨hi, rfl⟩ := List.getElem?_eq_some_iff.1 hes
  obtain ⟨next, post, hrest⟩ : ∃ next post, es.drop (i + 1) = next :: post := by
    cases hdrop : es.drop (i + 1) with
    | nil =>
      rw [List.drop_eq_nil_iff] at hdrop
      omega
    | cons next post => exact ⟨next, post, rfl⟩
  refine ⟨next, post, ?_⟩
  rw [← hrest, ← List.drop_eq_getElem_cons hi, List.take_append_drop]

/-- A list is refused at its first open element that is not the last. -/
theorem ofElements_of_first_open {es : List (Element σ t)} {i : Nat} {e : Element σ t}
    (hlen : i + 1 < es.length) (hes : es[i]? = some e) (hopen : e.operation = none)
    (hbefore : ∀ x ∈ es.take i, x.operation.isSome) :
    ofElements es = .error (.inconsistentChain i e.policy.name) := by
  obtain ⟨next, post, hsplit⟩ := eq_take_append_cons_cons hlen hes
  rw [hsplit, ofElements_of_open _ _ _ _ hbefore hopen, List.length_take,
    min_eq_left (by omega)]

/-- An open element before the last one has a first one. -/
theorem exists_first_open {es : List (Element σ t)}
    (h : ∃ e ∈ es.dropLast, e.operation = none) :
    ∃ i e, i + 1 < es.length ∧ es[i]? = some e ∧ e.operation = none ∧
      ∀ x ∈ es.take i, x.operation.isSome := by
  classical
  have hsome : ∃ i, i + 1 < es.length ∧ ∃ e : Element σ t, es[i]? = some e ∧ e.operation = none := by
    obtain ⟨e, he, hopen⟩ := h
    obtain ⟨i, hi⟩ := List.getElem?_of_mem he
    rw [List.getElem?_dropLast] at hi
    split at hi
    · exact ⟨i, by omega, e, hi, hopen⟩
    · cases hi
  obtain ⟨hlen, e, hes, hopen⟩ := Nat.find_spec hsome
  refine ⟨Nat.find hsome, e, hlen, hes, hopen, ?_⟩
  -- every element before the first open one is bound
  intro x hx
  obtain ⟨j, hj⟩ := List.getElem?_of_mem hx
  rw [List.getElem?_take] at hj
  split at hj
  · rename_i hji
    cases hop : x.operation with
    | none => exact absurd ⟨by omega, x, hj, hop⟩ (Nat.find_min hsome hji)
    | some op => rfl
  · cases hj

/-- Building from a list is refused exactly when an element other than the last is open, and
the error names the first such element: its position and its policy. -/
theorem ofElements_eq_error_iff (es : List (Element σ t)) (err : StructuralError) :
    ofElements es = .error err ↔ ∃ i e, i + 1 < es.length ∧ es[i]? = some e ∧
      e.operation = none ∧ (∀ x ∈ es.take i, x.operation.isSome) ∧
      err = .inconsistentChain i e.policy.name := by
  constructor
  · intro herr
    by_cases hbound : ∀ e ∈ es.dropLast, e.operation.isSome
    · rw [ofElements_of_bound es hbound] at herr
      cases herr
    · have hopen : ∃ e ∈ es.dropLast, e.operation = none := by simpa using hbound
      obtain ⟨i, e, hlen, hes, hnone, hbefore⟩ := exists_first_open hopen
      rw [ofElements_of_first_open hlen hes hnone hbefore] at herr
      exact ⟨i, e, hlen, hes, hnone, hbefore, (Except.error.inj herr).symm⟩
  · rintro ⟨i, e, hlen, hes, hopen, hbefore, rfl⟩
    exact ofElements_of_first_open hlen hes hopen hbefore

/-- A list makes a chain only when every element but the last is bound, and then the chain
holds exactly those elements. -/
theorem ofElements_eq_ok_iff (es : List (Element σ t)) (c : Chain σ t) :
    ofElements es = .ok c ↔ (∀ e ∈ es.dropLast, e.operation.isSome) ∧ c = { elements := es } := by
  constructor
  · intro h
    induction es using List.reverseRecOn generalizing c with
    | nil => exact ⟨by simp, (Except.ok.inj h).symm⟩
    | append_singleton es e ih =>
      rw [ofElements_append_singleton] at h
      -- the chain of the first elements was built, and the last one appended to it
      cases hbuilt : ofElements es with
      | error err =>
        rw [hbuilt] at h
        cases h
      | ok c₀ =>
        rw [hbuilt] at h
        obtain ⟨hbound, rfl⟩ := ih c₀ hbuilt
        obtain ⟨hlast, rfl⟩ := (push_eq_ok_iff _ e c).1 h
        refine ⟨?_, rfl⟩
        rw [List.dropLast_concat]
        exact Consistent.all_bound (c := { elements := es }) hbound hlast
  · rintro ⟨hbound, rfl⟩
    exact ofElements_of_bound es hbound

theorem consistent_of_ofElements {es : List (Element σ t)} {c : Chain σ t}
    (h : ofElements es = .ok c) : c.Consistent := by
  obtain ⟨hbound, rfl⟩ := (ofElements_eq_ok_iff es c).1 h
  exact hbound

/-! ### The copy a wrapping policy runs -/

theorem Element.bindIfOpen_bound (e : Element σ t) (op : Operation σ t.Carrier) :
    (e.bindIfOpen op).operation.isSome := by
  unfold Element.bindIfOpen
  split <;> simp_all

/-- Binding into the last slot if it is open changes the last element only. -/
theorem Element.bindLastIfOpen_eq (op : Operation σ t.Carrier) (es : List (Element σ t)) :
    Element.bindLastIfOpen op es = es.dropLast ++ (es.getLast?.map (·.bindIfOpen op)).toList := by
  induction es with
  | nil => rfl
  | cons e rest ih =>
    cases rest with
    | nil => rfl
    | cons e' rest' =>
      rw [Element.bindLastIfOpen, ih, List.dropLast_cons_cons, List.getLast?_cons_cons]
      · rfl
      · exact List.cons_ne_nil e' rest'

theorem boundWith_elements (c : Chain σ t) (op : Operation σ t.Carrier) :
    (c.boundWith op).elements = c.elements.dropLast ++
      (c.elements.getLast?.map fun last =>
        if last.operation.isSome then last else { last with operation := some op }).toList := by
  simp only [boundWith, Element.bindLastIfOpen_eq]
  congr 3
  funext last
  unfold Element.bindIfOpen
  split <;> simp_all

/-- The copy of a consistent chain is bound throughout. -/
theorem Consistent.boundWith_bound {c : Chain σ t} (h : c.Consistent) (op : Operation σ t.Carrier) :
    ∀ e ∈ (c.boundWith op).elements, e.operation.isSome := by
  intro e he
  simp only [boundWith, Element.bindLastIfOpen_eq, List.mem_append] at he
  rcases he with hdrop | hlast
  · exact h e hdrop
  · -- the last element is the only one touched, and binding leaves it bound
    obtain ⟨last, -, rfl⟩ : ∃ last, c.elements.getLast? = some last ∧ last.bindIfOpen op = e := by
      simpa using hlast
    exact Element.bindIfOpen_bound last op

theorem Consistent.boundWith {c : Chain σ t} (h : c.Consistent) (op : Operation σ t.Carrier) :
    (c.boundWith op).Consistent :=
  fun e he => h.boundWith_bound op e (List.mem_of_mem_dropLast he)

/-- A chain run with an operation for its open slot is the run of its copy with that
operation bound. Elements before the last never take the operation; the last one takes it
exactly when it has none of its own. -/
theorem runSteps_fill (executor : Executor) (drive : Execution) (fill : Operation σ t.Carrier) :
    ∀ (elements : List (Element σ t)) (taken : List (ChainStep t.Carrier)),
      runSteps executor drive elements (some fill) taken =
        runSteps executor drive (Element.bindLastIfOpen fill elements) none taken
  | [], taken => by simp [runSteps, Element.bindLastIfOpen]
  | [⟨policy, operation⟩], taken => by
    cases operation with
    | some op => simp [runSteps, Element.bindLastIfOpen, Element.bindIfOpen]
    | none => simp [runSteps, Element.bindLastIfOpen, Element.bindIfOpen]
  | ⟨policy, operation⟩ :: e' :: rest, taken => by
    have hne : (Element.bindLastIfOpen fill (e' :: rest)).isEmpty = false := by
      simp [Element.bindLastIfOpen_eq]
    rw [Element.bindLastIfOpen]
    · cases operation with
      | some op =>
        -- the element runs its own operation; the rest of the run is the induction
        simp only [runSteps]
        simp only [runSteps_fill executor drive fill (e' :: rest)]
      | none => simp [runSteps, hne]
    · exact List.cons_ne_nil e' rest

/-! ### Sequences of building operations -/

/-- The operations that build a chain: starting afresh, appending, binding, building from a
list, and the bound copy a wrapping policy makes. -/
inductive Edit (σ : Type) (t : ValueType) where
  | new
  | push (element : Element σ t)
  | withPolicy (policy : Policy σ t)
  | withBound (policy : Policy σ t) (op : Operation σ t.Carrier)
  | bindLast (op : Operation σ t.Carrier)
  | andOperation (op : Operation σ t.Carrier)
  | ofElements (elements : List (Element σ t))
  | boundWith (op : Operation σ t.Carrier)

/-- Carry out one building operation. -/
def edit (c : Chain σ t) : Edit σ t → Except StructuralError (Chain σ t)
  | .new => .ok {}
  | .push e => c.push e
  | .withPolicy p => c.withPolicy p
  | .withBound p op => c.withBound p op
  | .bindLast op => c.bindLast op
  | .andOperation op => c.bindLast op
  | .ofElements es => Chain.ofElements es
  | .boundWith op => .ok (c.boundWith op)

/-- The chain after the operations in order; a refused one leaves the chain as it was. -/
def editAll (c : Chain σ t) : List (Edit σ t) → Chain σ t
  | [] => c
  | e :: rest =>
    match c.edit e with
    | .ok c' => c'.editAll rest
    | .error _ => c.editAll rest

/-- Every building operation that succeeds keeps a chain consistent. -/
theorem Consistent.edit {c c' : Chain σ t} {e : Edit σ t} (h : c.Consistent)
    (hedit : c.edit e = .ok c') : c'.Consistent := by
  cases e with
  | new =>
    cases hedit
    exact consistent_empty
  | push e => exact h.push hedit
  | withPolicy p => exact h.push hedit
  | withBound p op => exact h.push hedit
  | bindLast op => exact h.bindLast hedit
  | andOperation op => exact h.bindLast hedit
  | ofElements es => exact consistent_of_ofElements hedit
  | boundWith op =>
    cases hedit
    exact h.boundWith op

theorem consistent_editAll {c : Chain σ t} (h : c.Consistent) (edits : List (Edit σ t)) :
    (c.editAll edits).Consistent := by
  induction edits generalizing c with
  | nil => exact h
  | cons e rest ih =>
    simp only [editAll]
    cases hedit : c.edit e with
    | ok c' => exact ih (h.edit hedit)
    | error err => exact ih h

/-! ### Runs -/

/-- A run of a chain whose last element is open is refused before anything runs. -/
theorem handleAll_of_open (c : Chain σ t) (drive : Execution) {last : Element σ t}
    (hlast : c.elements.getLast? = some last) (hopen : last.operation = none) :
    c.handleAll drive = pure (.error (.operationNotBound last.policy.name)) := by
  simp [handleAll, runAll, hlast, hopen]

/-- A chain whose elements are all bound runs to its steps from every scene. -/
theorem runAll_of_bound (c : Chain σ t) (drive : Execution)
    (hbound : ∀ e ∈ c.elements, e.operation.isSome) (s : Scene σ) :
    ∃ run s', (c.runAll drive).run s = (.ok run, s') := by
  obtain ⟨steps, s', hsteps, -⟩ :=
    runSteps_runs c.executor (driveFor (Element.kinds none c.elements) drive) c.elements hbound [] s
  simp only [List.nil_append] at hsteps
  exact ⟨_, s', runAll_of_runSteps c drive hbound hsteps⟩

/-- A run of a chain whose elements are all bound is never refused for an open element. -/
theorem handleAll_ne_operationNotBound (c : Chain σ t) (drive : Execution)
    (hbound : ∀ e ∈ c.elements, e.operation.isSome) (s : Scene σ) (p : String) :
    ((c.handleAll drive).run s).1 ≠ .error (.operationNotBound p) := by
  obtain ⟨run, s', hrun⟩ := runAll_of_bound c drive hbound s
  have hrun' : (c.runAll drive).run s = pure (.ok run, s') := hrun
  simp only [handleAll, StateT.run_bind, hrun', pure_bind]
  -- the run either stands or is turned into an aggregate; neither names an open element
  split
  · intro h
    cases h
  · intro h
    cases h

/-! ### The contract of a built chain -/

/-- What the building operations and the runs promise of a chain `c`. -/
structure Contract (c : Chain σ t) : Prop where
  /-- Every element but the last has an operation. -/
  consistent : c.Consistent
  /-- Appending is refused exactly after an open last element, naming its position and its
  policy. -/
  push_refused : ∀ e err, c.push e = .error err ↔ ∃ last, c.elements.getLast? = some last ∧
    last.operation = none ∧ err = .inconsistentChain (c.elements.length - 1) last.policy.name
  /-- Otherwise appending adds the element at the end and changes nothing else. -/
  push_accepted : ∀ e c', c.push e = .ok c' ↔
    (∀ last ∈ c.elements.getLast?, last.operation.isSome) ∧
      c' = { c with elements := c.elements ++ [e] }
  /-- Binding is refused on an empty chain, and after a bound last element, naming its
  policy. -/
  bindLast_refused : ∀ op err, c.bindLast op = .error err ↔
    (c.elements = [] ∧ err = .emptyCollection) ∨ ∃ last, c.elements.getLast? = some last ∧
      last.operation.isSome ∧ err = .alreadyBound last.policy.name
  /-- Otherwise binding fills the open last slot and changes nothing else. -/
  bindLast_accepted : ∀ op c', c.bindLast op = .ok c' ↔ ∃ last,
    c.elements.getLast? = some last ∧ last.operation = none ∧
      c' = { c with elements := c.elements.dropLast ++ [{ last with operation := some op }] }
  /-- The copy a wrapping policy runs has every element bound. -/
  boundWith_bound : ∀ op, ∀ e ∈ (c.boundWith op).elements, e.operation.isSome
  /-- It differs from the chain in its last slot alone, which takes the operation exactly
  when it is open. -/
  boundWith_elements : ∀ op, (c.boundWith op).elements = c.elements.dropLast ++
    (c.elements.getLast?.map fun last =>
      if last.operation.isSome then last else { last with operation := some op }).toList
  /-- A run is refused when the last element is open, before anything runs. -/
  run_refused : ∀ drive last, c.elements.getLast? = some last → last.operation = none →
    c.handleAll drive = pure (.error (.operationNotBound last.policy.name))
  /-- A run refused for an open element, from any scene, had an open last element. -/
  run_refused_only_if_open : ∀ drive s p,
    ((c.handleAll drive).run s).1 = .error (.operationNotBound p) →
      ∃ last, c.elements.getLast? = some last ∧ last.operation = none
  /-- A wrapping policy's run, which has an operation for the open slot, never meets an open
  element. -/
  wrapped_runs : ∀ drive op s, ∃ steps s',
    (runSteps c.executor drive c.elements (some op) []).run s = (.ok steps, s')

theorem Consistent.contract {c : Chain σ t} (h : c.Consistent) : c.Contract where
  consistent := h
  push_refused := push_eq_error_iff c
  push_accepted := push_eq_ok_iff c
  bindLast_refused := bindLast_eq_error_iff c
  bindLast_accepted := bindLast_eq_ok_iff c
  boundWith_bound := h.boundWith_bound
  boundWith_elements := boundWith_elements c
  run_refused _ _ hlast hopen := handleAll_of_open c _ hlast hopen
  run_refused_only_if_open drive s p hrefused := by
    -- a chain whose last element is bound has all of them bound, and is never refused
    by_contra hbound
    have hlast : ∀ last ∈ c.elements.getLast?, last.operation.isSome := by
      intro last hl
      cases hop : last.operation with
      | none => exact absurd ⟨last, hl, hop⟩ hbound
      | some op => rfl
    exact handleAll_ne_operationNotBound c drive (h.all_bound hlast) s p hrefused
  wrapped_runs drive op s := by
    have hbound := h.boundWith_bound op
    obtain ⟨steps, s', hsteps, -⟩ := runSteps_runs c.executor drive _ hbound [] s
    refine ⟨steps, s', ?_⟩
    -- the run with the operation for the open slot is the run of the bound copy
    rw [runSteps_fill]
    simp only [List.nil_append] at hsteps
    exact hsteps

/-- Chain consistency. Whatever sequence of building operations makes a chain, starting
afresh (appending with or without an operation, binding the last slot, building from a list,
making the bound copy a wrapping policy runs, refused operations leaving the chain as it
was), the chain keeps the contract: every element but the last is bound, appending and
binding are refused exactly in the open-slot cases with the errors that name them, the
wrapping copy is bound throughout and takes its operation only in an open last slot, and a
run is refused, before anything runs, exactly when the last element is open, while a
wrapping run never meets an open element. Building from a list is refused exactly when an
element before the last is open, naming the first such one. -/
theorem edits_keep_contract (edits : List (Edit σ t)) :
    (({} : Chain σ t).editAll edits).Contract ∧
      ∀ (es : List (Element σ t)) (err : StructuralError), ofElements es = .error err ↔
        ∃ i e, i + 1 < es.length ∧ es[i]? = some e ∧ e.operation = none ∧
          (∀ x ∈ es.take i, x.operation.isSome) ∧ err = .inconsistentChain i e.policy.name :=
  ⟨(consistent_editAll consistent_empty edits).contract, ofElements_eq_error_iff⟩

end Chain

end Resilience
