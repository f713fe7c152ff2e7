import Mathlib
import Resilience.Policy.Handler

/-!
# What post-hoc handlers do to an outcome

A policy runs its handlers over the state it decided, one after another. Each handler is
called once, with a snapshot of the state as the handlers before it left it, and its reply
changes the state in three ways only: the error it returned is appended with its position,
a request to mark the outcome failed marks it failed with the handlers' reason unless a
reason is already there, and a request to cancel marks it canceled.

Read together, the replies of all the handlers leave a state that can be written down at
once: `OutcomeState.afterReplies` raises the failed and canceled flags when some reply asked
for them, keeps an earlier reason, appends the returned errors with their positions, and
copies every other field. `OutcomeState.afterReplies_cons` says that recording one reply and
then reading the rest is reading them all, which is the whole induction. A handler's error
alone therefore never fails the outcome, and the operation errors, the catch-block errors,
the error left unprocessed and the recovery flag pass through untouched.

There is one runner for handlers of both kinds, and it is the one a policy uses whether it
ran its operation to completion or awaited it: a handler is read through the computation it
runs on its context alone.

## Main definitions

* `HandlerReply.error?`: The error a reply carries.
* `Handler.errorsOf`: The errors of a run of replies, with their positions.
* `OutcomeState.afterReplies`: The state a run of replies leaves.

## Theorems

* `OutcomeState.afterReplies_cons`: One reply, then the rest.
* `Handler.runFrom_replies`, `Handler.runAll_folds_replies`: The handlers run one after
  another, each on the state the earlier ones left, and leave the state their replies say.
-/

namespace Resilience

namespace HandlerReply

/-- The error a handler returned, if it returned one. -/
def error? (reply : HandlerReply) : Option Fault :=
  match reply.result with
  | .ok () => none
  | .error error => some error

end HandlerReply

namespace Handler

/-- The errors that the handlers from position `index` on returned in the replies `replies`,
each with its handler's position. -/
def errorsOf (index : Nat) (replies : List HandlerReply) : List HandlerError :=
  (replies.zipIdx index).filterMap fun (reply, i) => reply.error?.map (⟨·, i⟩)

@[simp]
theorem errorsOf_nil (index : Nat) : errorsOf index [] = [] := rfl

theorem errorsOf_cons (index : Nat) (reply : HandlerReply) (replies : List HandlerReply) :
    errorsOf index (reply :: replies) =
      (reply.error?.map (⟨·, index⟩)).toList ++ errorsOf (index + 1) replies := by
  cases h : reply.error? <;> simp [errorsOf, h]

end Handler

namespace OutcomeState

/-- The state `st` once the handlers from position `index` on gave the replies `replies`:
failed when one of them asked for it, with the handlers' reason unless `st` already had one;
canceled when one asked for it; their errors appended with their positions; and nothing
else changed. -/
def afterReplies (st : OutcomeState) (index : Nat) (replies : List HandlerReply) :
    OutcomeState :=
  { st with
    failed := st.failed || replies.any (·.setFailed)
    canceled := st.canceled || replies.any (·.setCanceled)
    reason := if st.reason = .none ∧ replies.any (·.setFailed) = true then
        .policyResultHandlerFailed
      else st.reason
    handlingErrors := st.handlingErrors ++ Handler.errorsOf index replies }

@[simp]
theorem afterReplies_nil (st : OutcomeState) (index : Nat) : st.afterReplies index [] = st := by
  simp [afterReplies]

variable (st : OutcomeState) (index : Nat) (replies : List HandlerReply)

@[simp]
theorem afterReplies_errors : (st.afterReplies index replies).errors = st.errors := rfl

@[simp]
theorem afterReplies_catchBlockErrors :
    (st.afterReplies index replies).catchBlockErrors = st.catchBlockErrors := rfl

@[simp]
theorem afterReplies_unprocessed :
    (st.afterReplies index replies).unprocessed = st.unprocessed := rfl

@[simp]
theorem afterReplies_ok : (st.afterReplies index replies).ok = st.ok := rfl

@[simp]
theorem afterReplies_filterUnsatisfied :
    (st.afterReplies index replies).filterUnsatisfied = st.filterUnsatisfied := rfl

/-- Recording one reply and then reading the replies after it is reading them all. -/
theorem afterReplies_cons (reply : HandlerReply) :
    st.afterReplies index (reply :: replies) =
      (Handler.record index reply st).afterReplies (index + 1) replies := by
  obtain ⟨result, setFailed, setCanceled⟩ := reply
  -- the three parts of a reply act on separate fields; the reason is kept once written
  cases result <;> cases setFailed <;> cases setCanceled <;> by_cases hr : st.reason = .none <;>
    simp [afterReplies, Handler.record, Handler.errorsOf_cons, HandlerReply.error?, setFailed,
      setCanceled, addHandlingError, hr]

end OutcomeState

namespace Handler

variable {σ : Type}

/-- The handlers of `policy` from position `index` on, run over the state `st` from the scene
`s`: each is called once, in order, on the snapshot of the state the replies before it left,
from the scene the handler before it left; and the run hands back the state all the replies
leave, in the scene the last one left. -/
theorem runFrom_replies (policy : String) :
    ∀ (handlers : List (Handler σ)) (index : Nat) (st : OutcomeState) (s : Scene σ),
      ∃ (replies : List HandlerReply) (scene : Nat → Scene σ),
        replies.length = handlers.length ∧ scene 0 = s ∧
        (∀ i (hi : i < handlers.length), ∃ reply, replies[i]? = some reply ∧
          (handlers[i].run (capture policy (index + i) (st.afterReplies index (replies.take i)))).run
            (scene i) = (reply, scene (i + 1))) ∧
        (runFrom policy handlers index st).run s = (st.afterReplies index replies, scene handlers.length)
  | [], index, st, s => ⟨[], fun _ => s, rfl, rfl, by simp, by simp [runFrom]; rfl⟩
  | handler :: rest, index, st, s => by
    rcases hcall : (handler.run (capture policy index st)).run s with ⟨reply, s₁⟩
    -- the rest runs over the state the first reply left, from the scene it left
    obtain ⟨replies, scene, hlen, hstart, hcalls, hrun⟩ :=
      runFrom_replies policy rest (index + 1) (record index reply st) s₁
    refine ⟨reply :: replies, fun | 0 => s | i + 1 => scene i, by simp [hlen], rfl, ?_, ?_⟩
    · intro i hi
      cases i with
      | zero => exact ⟨reply, rfl, by simpa [hstart] using hcall⟩
      | succ i =>
        obtain ⟨r, hr, hcall'⟩ := hcalls i (by simpa using hi)
        refine ⟨r, by simpa using hr, ?_⟩
        have hindex : index + (i + 1) = index + 1 + i := by omega
        simpa [List.take_succ_cons, OutcomeState.afterReplies_cons, hindex] using hcall'
    · have hcall' : (handler.run (capture policy index st)).run s = pure (reply, s₁) := hcall
      simp only [runFrom, StateT.run_bind, hcall', pure_bind, hrun, List.length_cons,
        OutcomeState.afterReplies_cons]

/-- Post-hoc handlers fold over the outcome. Run over a state `st`, every handler of a policy
is called once, in registration order, on a context that carries its position, the policy's
name, and the flags, errors and unprocessed error of the state the replies before it left;
once all have replied, the state is `st` with the failed and canceled flags raised when some
reply asked for them, the handlers' reason given only if `st` had none, the returned errors
appended with their positions, and everything else as it was. -/
theorem runAll_folds_replies (handlers : List (Handler σ)) (policy : String) (st : OutcomeState)
    (s : Scene σ) :
    ∃ (replies : List HandlerReply) (scene : Nat → Scene σ),
      replies.length = handlers.length ∧ scene 0 = s ∧
      (∀ i (hi : i < handlers.length), ∃ reply, replies[i]? = some reply ∧
        (handlers[i].run (capture policy i (st.afterReplies 0 (replies.take i)))).run (scene i) =
          (reply, scene (i + 1))) ∧
      (runAll handlers policy st).run s = (st.afterReplies 0 replies, scene handlers.length) := by
  obtain ⟨replies, scene, hlen, hstart, hcalls, hrun⟩ := runFrom_replies policy handlers 0 st s
  refine ⟨replies, scene, hlen, hstart, fun i hi => ?_, hrun⟩
  simpa using hcalls i hi

end Handler

end Resilience
