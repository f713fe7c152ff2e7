import Mathlib
import Resilience.Proofs.Trace.Leaf

/-!
# What a retry policy tells its observer

A retry policy reports its attempt loop to an observer. The reports are interleaved with the
attempts, so the statement is about the order of the two: a run is a sequence of moves, each a
report the observer hears on the world's scene, an attempt that runs as `Leaf.Tried` says, or
a delay drawn from the world's random numbers and then reported, and `Leaf.Moves` follows the
world through them, as a step relation with its trace of observations. A delay is what
`RetrySettings.calculateDelay` computes for its attempt, with the world's next random number as
the spread when the delay is jittered.

The moves of the attempt loop have a fixed shape, `Leaf.protocol`, given the delays drawn. Each
attempt is announced with its number and the limit, then made; an attempt that another follows
raised an error that was handled, and the delay before the next one is reported with that
error. After the
last attempt come the reports that close the loop (`Leaf.closing`), decided by that attempt
alone: a value is a success; an error handled on the last attempt allowed exhausts the
attempts; one handled earlier means the delay after it was cut short by the token, so the
delay is reported and then the cancellation; and an error the filter rejected, or whose
processing ended on a cancelled token, is reported as a cancellation at that attempt. The
loop never runs out of attempts before one of these: it starts with as many as the limit
allows and the exhaustion check fires at the last one, which is the hypothesis
`settings.attemptLimit < attempt + remaining` of `Leaf.Retries.moves`.

A run on a token cancelled before the first attempt makes no attempt and tells the observer
just that. Either way the handlers run last and report nothing.

A counting observer keeps one tally per kind of report; what it ends with follows from the
shape: as many starts as attempts, exactly one success, exhaustion or cancellation, and one
failure for every attempt followed by a delay.

## Main definitions

* `Leaf.Move`, `Leaf.reports`: Steps of a retry run, and the reports they make.
* `Leaf.Moves`: The world through a sequence of moves.
* `Leaf.closing`, `Leaf.protocol`: The moves of the attempt loop.
* `RetryStats.recordAll`: The tallies of a counting observer after a list of reports.

## Theorems

* `Leaf.Retries.moves`: The attempt loop moves as `protocol` says.
* `Leaf.Moves.delay_drawn`, `Leaf.Moves.attemptFailed_drawn`: Every delay, and every failure
  reported with one, is `calculateDelay` of a random source.
* `Leaf.tallies_protocol`: What a counting observer ends with.
* `Leaf.retry_observer_protocol`: A whole invocation of a retry policy.
-/

namespace Resilience

/-- The tallies of a counting observer once it has heard the reports `events`, in order. -/
def RetryStats.recordAll (stats : RetryStats) (events : List RetryEvent) : RetryStats :=
  events.foldl RetryStats.record stats

@[simp]
theorem RetryStats.recordAll_nil (stats : RetryStats) : stats.recordAll [] = stats := rfl

@[simp]
theorem RetryStats.recordAll_cons (stats : RetryStats) (event : RetryEvent)
    (events : List RetryEvent) :
    stats.recordAll (event :: events) = (stats.record event).recordAll events := rfl

theorem RetryStats.recordAll_append (stats : RetryStats) (events events' : List RetryEvent) :
    stats.recordAll (events ++ events') = (stats.recordAll events).recordAll events' :=
  List.foldl_append

namespace Leaf

open Processor (Handling)

variable {σ : Type} {m : Type → Type} [Monad m] [MonadLiftT (Act σ) m] {W : Type} {α : Type}

/-- A step of a retry policy's run as its observer follows it: a report, one attempt of the
operation with the processing of its error, or the delay of `delayMs` milliseconds drawn after
the failed attempt `attempt` and reported with its error. -/
inductive Move (α : Type) where
  | report (event : RetryEvent)
  | attempt (a : Attempt α)
  | delay (attempt : Nat) (fault : Fault) (delayMs : Nat)

/-- The report a move makes, if it makes one. -/
def Move.report? : Move α → Option RetryEvent
  | .report event => some event
  | .attempt _ => none
  | .delay n fault delayMs => some (.attemptFailed n fault delayMs)

/-- The reports among the moves, in order: what the observer hears. -/
def reports (moves : List (Move α)) : List RetryEvent := moves.filterMap Move.report?

@[simp]
theorem reports_nil : reports ([] : List (Move α)) = [] := rfl

@[simp]
theorem reports_report (event : RetryEvent) (moves : List (Move α)) :
    reports (.report event :: moves) = event :: reports moves := rfl

@[simp]
theorem reports_attempt (a : Attempt α) (moves : List (Move α)) :
    reports (.attempt a :: moves) = reports moves := rfl

@[simp]
theorem reports_delay (attempt : Nat) (fault : Fault) (delayMs : Nat) (moves : List (Move α)) :
    reports (.delay attempt fault delayMs :: moves) =
      .attemptFailed attempt fault delayMs :: reports moves := rfl

@[simp]
theorem reports_append (moves moves' : List (Move α)) :
    reports (moves ++ moves') = reports moves ++ reports moves' :=
  List.filterMap_append

/-- The world goes from `w` to `w'` by the moves `moves`: the observer hears each report on the
world's scene, each attempt runs as `Tried` says, and each delay is the one `calculateDelay`
computes from the world's random numbers, drawn before the observer hears of it. -/
inductive Moves (R : SceneRun σ m W) (core : PolicyCore σ) (settings : RetrySettings)
    (jitter : Bool) (observer : RetryEvent → Act σ Unit) (op : m (Except Fault α)) :
    W → List (Move α) → W → Prop
  | nil {w : W} : Moves R core settings jitter observer op w [] w
  | report {w w' : W} {event : RetryEvent} {rest : List (Move α)}
      (hrest : Moves R core settings jitter observer op (R.hear observer event w) rest w') :
      Moves R core settings jitter observer op w (.report event :: rest) w'
  | attempt {w w₁ w' : W} {a : Attempt α} {rest : List (Move α)}
      (htry : Tried R core op w a w₁)
      (hrest : Moves R core settings jitter observer op w₁ rest w') :
      Moves R core settings jitter observer op w (.attempt a :: rest) w'
  | delay {w w' : W} {attempt : Nat} {fault : Fault} {delayMs : Nat} {rest : List (Move α)}
      (hdelay : delayMs = settings.calculateDelay attempt jitter (R.scene w).pick)
      (hrest : Moves R core settings jitter observer op
        (delayed R settings jitter observer attempt fault w) rest w') :
      Moves R core settings jitter observer op w (.delay attempt fault delayMs :: rest) w'

/-- Whether an attempt raised an error that was handled: the filter let it through, every bulk
step ran and the token stayed live. -/
def Attempt.handled : Attempt α → Bool
  | .error _ (.processed _ false) => true
  | _ => false

/-- The move after an attempt that raised an error and is followed by a delay of `delayMs`. -/
def delayMoves (attempt delayMs : Nat) : Attempt α → List (Move α)
  | .value _ => []
  | .error fault _ => [.delay attempt fault delayMs]

/-- The moves that close the attempt loop after its last attempt `a`, number `attempt`: a
success; an exhaustion, when the error was handled on the last attempt allowed; the delay of
`delayMs` and then the cancellation that cut it short, when the error was handled before; and
otherwise, the filter having rejected the error or the token being cancelled when processing
ended, a cancellation at that attempt with its error. -/
def closing (settings : RetrySettings) (attempt delayMs : Nat) : Attempt α → List (Move α)
  | .value _ => [.report (.succeeded attempt)]
  | .error fault (.processed _ false) =>
    if settings.attemptLimit ≤ attempt then [.report (.exhausted attempt fault)]
    else [.delay attempt fault delayMs, .report (.cancelled attempt (some fault))]
  | .error fault _ => [.report (.cancelled attempt (some fault))]

/-- An error whose processing ended on a cancelled token closes the loop as a cancellation. -/
theorem closing_of_tokenAtEnd (settings : RetrySettings) (attempt delayMs : Nat) (fault : Fault)
    {handling : Handling} (htoken : handling.tokenAtEnd = true) :
    closing (α := α) settings attempt delayMs (.error fault handling) =
      [.report (.cancelled attempt (some fault))] := by
  cases handling with
  | processed failures cancelled =>
    cases cancelled with
    | false => simp [Handling.tokenAtEnd] at htoken
    | true => rfl
  | screened | rejected | stopped => rfl

/-- The moves of the attempt loop from attempt number `attempt` on, for the attempts `attempts`,
with the delay `delays j` after attempt number `j`: each attempt is announced and made; one
that another follows is followed by its delay, and the last by the moves that close the
loop. -/
def protocol (settings : RetrySettings) (delays : Nat → Nat) :
    Nat → List (Attempt α) → List (Move α)
  | _, [] => []
  | attempt, [a] =>
    .report (.attemptStarted attempt settings.attemptLimit) :: .attempt a ::
      closing settings attempt (delays attempt) a
  | attempt, a :: b :: rest =>
    .report (.attemptStarted attempt settings.attemptLimit) :: .attempt a ::
      (delayMoves attempt (delays attempt) a ++ protocol settings delays (attempt + 1) (b :: rest))

theorem protocol_cons_of_ne_nil (settings : RetrySettings) (delays : Nat → Nat) (attempt : Nat)
    (a : Attempt α) {rest : List (Attempt α)} (hrest : rest ≠ []) :
    protocol settings delays attempt (a :: rest) =
      .report (.attemptStarted attempt settings.attemptLimit) :: .attempt a ::
        (delayMoves attempt (delays attempt) a ++ protocol settings delays (attempt + 1) rest) := by
  obtain ⟨b, rest, rfl⟩ := List.exists_cons_of_ne_nil hrest
  rfl

/-- The moves from attempt number `attempt` on read only the delays of those attempts. -/
theorem protocol_congr (settings : RetrySettings) {delays delays' : Nat → Nat} :
    ∀ (attempt : Nat) (attempts : List (Attempt α)),
      (∀ j, attempt ≤ j → delays j = delays' j) →
      protocol settings delays attempt attempts = protocol settings delays' attempt attempts
  | _, [], _ => rfl
  | attempt, [a], hdelays => by rw [protocol, protocol, hdelays attempt le_rfl]
  | attempt, a :: b :: rest, hdelays => by
    rw [protocol, protocol, hdelays attempt le_rfl,
      protocol_congr settings (attempt + 1) (b :: rest) fun j hj => hdelays j (by omega)]

theorem report_attemptFailed_not_mem_closing (settings : RetrySettings) (attempt delayMs : Nat)
    (a : Attempt α) (j : Nat) (fault : Fault) (d : Nat) :
    Move.report (.attemptFailed j fault d) ∉ closing settings attempt delayMs a := by
  unfold closing
  split
  · simp
  · split <;> simp
  · simp

/-- No move of the attempt loop reports a failure by itself: a failure is reported with the
delay drawn after it. -/
theorem report_attemptFailed_not_mem_protocol (settings : RetrySettings) (delays : Nat → Nat)
    (j : Nat) (fault : Fault) (delayMs : Nat) :
    ∀ (attempt : Nat) (attempts : List (Attempt α)),
      Move.report (.attemptFailed j fault delayMs) ∉ protocol settings delays attempt attempts
  | _, [] => by simp [protocol]
  | attempt, [a] => by simp [protocol, report_attemptFailed_not_mem_closing]
  | attempt, a :: b :: rest => by
    have ih := report_attemptFailed_not_mem_protocol settings delays j fault delayMs
      (attempt + 1) (b :: rest)
    rcases a with _ | _ <;> simp [protocol, delayMoves, ih]

variable {R : SceneRun σ m W} {core : PolicyCore σ} {settings : RetrySettings} {jitter : Bool}
  {observer : RetryEvent → Act σ Unit} {op : m (Except Fault α)}

/-- Every delay a run moves through is `calculateDelay` of its attempt with a random source
that picks within its range: the world's, when the delay was drawn. -/
theorem Moves.delay_drawn {w w' : W} {moves : List (Move α)}
    (h : Moves R core settings jitter observer op w moves w') :
    ∀ attempt fault delayMs, Move.delay attempt fault delayMs ∈ moves →
      ∃ draw : Nat → Nat, (∀ hi, draw hi ≤ hi) ∧
        delayMs = settings.calculateDelay attempt jitter draw := by
  induction h with
  | nil => simp
  | report _ ih | attempt _ _ ih =>
    intro attempt fault delayMs hmem
    exact ih attempt fault delayMs (List.mem_of_ne_of_mem (by simp) hmem)
  | @delay w _ attempt fault delayMs _ hdelay _ ih =>
    intro attempt' fault' delayMs' hmem
    rcases List.mem_cons.1 hmem with heq | hmem
    · obtain ⟨rfl, rfl, rfl⟩ := Move.delay.inj heq
      exact ⟨(R.scene w).pick, (R.scene w).pick_le, hdelay⟩
    · exact ih attempt' fault' delayMs' hmem

/-- Every failure the attempt loop reports carries the delay `calculateDelay` drew for it. -/
theorem Moves.attemptFailed_drawn {w w' : W} {delays : Nat → Nat} {attempt : Nat}
    {attempts : List (Attempt α)}
    (h : Moves R core settings jitter observer op w (protocol settings delays attempt attempts) w')
    (j : Nat) (fault : Fault) (delayMs : Nat)
    (hmem : RetryEvent.attemptFailed j fault delayMs ∈
      reports (protocol settings delays attempt attempts)) :
    ∃ draw : Nat → Nat, (∀ hi, draw hi ≤ hi) ∧
      delayMs = settings.calculateDelay j jitter draw := by
  obtain ⟨move, hmove, hreport⟩ := List.mem_filterMap.1 hmem
  -- the loop reports a failure only with the delay drawn after it
  cases move with
  | report event =>
    obtain rfl : event = .attemptFailed j fault delayMs := Option.some.inj hreport
    exact absurd hmove (report_attemptFailed_not_mem_protocol _ _ _ _ _ _ _)
  | attempt a => exact absurd hreport (by simp [Move.report?])
  | delay j' fault' delayMs' =>
    obtain ⟨rfl, rfl, rfl⟩ := RetryEvent.attemptFailed.inj (Option.some.inj hreport)
    exact h.delay_drawn _ _ _ hmove

/-- The attempt loop moves as `protocol` says, with the delays it drew, when it starts with
attempts enough to reach the last one allowed. The induction follows the loop: each exit is
one announced attempt followed by its closing moves, and a retried attempt is followed by its
delay and the rest, whose delays are those of later attempts. -/
theorem Retries.moves {remaining attempt : Nat} {o o' : Outcome α} {w w' : W}
    {attempts : List (Attempt α)}
    (h : Retries R core settings jitter observer op remaining attempt o w attempts o' w') :
    settings.attemptLimit < attempt + remaining → ∃ delays,
      Moves R core settings jitter observer op w
        (protocol settings delays attempt attempts) w' := by
  induction h with
  | spent => exact fun _ => ⟨fun _ => 0, .nil⟩
  | succeeded htry => exact fun _ => ⟨fun _ => 0, .report (.attempt htry (.report .nil))⟩
  | canceled htry htoken =>
    intro _
    refine ⟨fun _ => 0, .report (.attempt htry ?_)⟩
    rw [closing_of_tokenAtEnd settings _ _ _ htoken]
    exact .report .nil
  | rejected htry => exact fun _ => ⟨fun _ => 0, .report (.attempt htry (.report .nil))⟩
  | exhausted htry hlimit =>
    intro _
    refine ⟨fun _ => 0, .report (.attempt htry ?_)⟩
    rw [closing, if_pos hlimit]
    exact .report .nil
  | @interrupted _ attempt _ _ w' _ _ htry hlimit =>
    intro _
    -- the delay cut short is the one drawn after this attempt
    refine ⟨fun _ => settings.calculateDelay attempt jitter (R.scene w').pick,
      .report (.attempt htry ?_)⟩
    rw [closing, if_neg (Nat.not_le.2 hlimit)]
    exact .delay rfl (.report .nil)
  | @retried remaining attempt o o' w w' w'' fault failures rest htry hlimit _ hrest ih =>
    intro hfit
    obtain ⟨delays, hmoves⟩ := ih (by omega)
    -- attempts are left after a retried one, so another attempt follows its delay
    refine ⟨Function.update delays attempt
      (settings.calculateDelay attempt jitter (R.scene w').pick), ?_⟩
    rw [protocol_cons_of_ne_nil settings _ attempt _ (hrest.ne_nil (by omega)),
      protocol_congr settings (attempt + 1) rest fun j hj => Function.update_of_ne (by omega) _ _]
    exact .report (.attempt htry (.delay (by simp) hmoves))

/-- A counting observer that hears the moves of the attempt loop, every attempt but the last
having raised an error, counts one start per attempt, one failure per attempt before the last,
and then what the closing reports say. -/
theorem tallies_protocol (settings : RetrySettings) (delays : Nat → Nat) (last : Attempt α) :
    ∀ (earlier : List (Attempt α)) (attempt : Nat) (stats : RetryStats),
      (∀ a ∈ earlier, ∃ fault handling, a = .error fault handling) →
      stats.recordAll (reports (protocol settings delays attempt (earlier ++ [last]))) =
        ({ stats with attemptStarts := stats.attemptStarts + earlier.length + 1
                      failures := stats.failures + earlier.length }).recordAll
          (reports (closing settings (attempt + earlier.length) (delays (attempt + earlier.length))
            last))
  | [], attempt, stats, _ => by
    simp [protocol, RetryStats.record]
  | a :: earlier, attempt, stats, herrors => by
    obtain ⟨fault, handling, rfl⟩ := herrors a (List.mem_cons_self ..)
    have hrest := tallies_protocol settings delays last earlier (attempt + 1)
      { stats with attemptStarts := stats.attemptStarts + 1, failures := stats.failures + 1 }
      (fun a ha => herrors a (List.mem_cons_of_mem _ ha))
    rw [List.cons_append, protocol_cons_of_ne_nil settings delays attempt _ (by simp)]
    simp only [reports_report, reports_attempt, reports_append, reports_delay, reports_nil,
      RetryStats.recordAll_cons, RetryStats.recordAll_append, delayMoves, RetryStats.record,
      RetryStats.recordAll_nil, hrest, List.length_cons]
    rw [show attempt + 1 + earlier.length = attempt + (earlier.length + 1) by omega]
    congr 2 <;> omega

/-- What a counting observer ends with after the closing reports: exactly one of a success, an
exhaustion or a cancellation, and one more failure when the delay after a handled error was cut
short. -/
theorem closing_tallies (settings : RetrySettings) (attempt delayMs : Nat) (a : Attempt α)
    (stats : RetryStats) :
    (stats.recordAll (reports (closing settings attempt delayMs a))).attemptStarts =
        stats.attemptStarts ∧
      (stats.recordAll (reports (closing settings attempt delayMs a))).successes +
        (stats.recordAll (reports (closing settings attempt delayMs a))).exhaustions +
          (stats.recordAll (reports (closing settings attempt delayMs a))).cancellations =
        stats.successes + stats.exhaustions + stats.cancellations + 1 ∧
      (stats.recordAll (reports (closing settings attempt delayMs a))).failures =
        stats.failures + if a.handled ∧ attempt < settings.attemptLimit then 1 else 0 := by
  cases a with
  | value v =>
    simp [closing, RetryStats.record, Attempt.handled]
    omega
  | error fault handling =>
    cases handling with
    | processed failures cancelled =>
      cases cancelled with
      | true =>
        simp [closing, RetryStats.record, Attempt.handled]
        omega
      | false =>
        -- a handled error: exhausted at the limit, the delay cut short before it
        by_cases hlimit : settings.attemptLimit ≤ attempt <;>
          simp [closing, hlimit, RetryStats.record, Attempt.handled] <;> omega
    | screened | rejected | stopped _ =>
      simp [closing, RetryStats.record, Attempt.handled]
      omega

/-- What a counting observer ends with after the moves of a whole attempt loop: one start per
attempt, exactly one success, exhaustion or cancellation, and one failure for every attempt
followed by a delay, which is every attempt but the last, and the last as well when the delay
after its handled error was cut short before the last attempt allowed. -/
theorem Retries.tallies {o o' : Outcome α} {w w' : W} {attempts : List (Attempt α)}
    (h : Retries R core settings jitter observer op settings.attemptLimit 1 o w attempts o' w')
    (delays : Nat → Nat) :
    (({} : RetryStats).recordAll (reports (protocol settings delays 1 attempts))).attemptStarts =
        attempts.length ∧
      (({} : RetryStats).recordAll (reports (protocol settings delays 1 attempts))).successes +
        (({} : RetryStats).recordAll (reports (protocol settings delays 1 attempts))).exhaustions +
          (({} : RetryStats).recordAll
            (reports (protocol settings delays 1 attempts))).cancellations = 1 ∧
      (({} : RetryStats).recordAll (reports (protocol settings delays 1 attempts))).failures =
        if attempts.getLast?.any Attempt.handled ∧ attempts.length < settings.attemptLimit then
          attempts.length
        else attempts.length - 1 := by
  have hne : attempts ≠ [] := h.ne_nil (by simp [RetrySettings.attemptLimit])
  -- split the attempts into those followed by a delay and the last one
  have hsplit := List.dropLast_append_getLast hne
  have herrors : ∀ a ∈ attempts.dropLast, ∃ fault handling, a = .error fault handling := by
    intro a ha
    obtain ⟨fault, failures, rfl⟩ := h.handled_of_mem_dropLast a ha
    exact ⟨fault, _, rfl⟩
  have hlength : attempts.length = attempts.dropLast.length + 1 := by
    rw [List.length_dropLast]
    have := List.length_pos_of_ne_nil hne
    omega
  have htp := tallies_protocol settings delays (attempts.getLast hne) attempts.dropLast 1 {}
    herrors
  rw [hsplit, show 1 + attempts.dropLast.length = attempts.length by omega] at htp
  -- before the closing reports a fresh counter holds one start per attempt and one failure per
  -- attempt but the last
  have hfresh : ({ ({} : RetryStats) with
      attemptStarts := ({} : RetryStats).attemptStarts + attempts.dropLast.length + 1
      failures := ({} : RetryStats).failures + attempts.dropLast.length } : RetryStats) =
        { attemptStarts := attempts.dropLast.length + 1, failures := attempts.dropLast.length } := by
    simp
  obtain ⟨hstarts, hclosing, hfailures⟩ := closing_tallies settings attempts.length
    (delays attempts.length) (attempts.getLast hne)
    { attemptStarts := attempts.dropLast.length + 1, failures := attempts.dropLast.length }
  dsimp only at hstarts hclosing hfailures
  rw [htp, hfresh, List.getLast?_eq_some_getLast hne, Option.any_some]
  refine ⟨by rw [hstarts]; omega, by rw [hclosing], ?_⟩
  -- the last attempt adds a failure exactly when the delay after it was cut short
  rw [hfailures]
  split <;> omega

variable [LawfulMonad m]

/-- A leaf's run is its strategy's run, then its handlers over the settled outcome, on the
scene the strategy left. -/
theorem run_handle_of_settleRun (R : SceneRun σ m W) (leaf : Leaf σ) (t : ValueType)
    (ex : Execution) (op : m (Except Fault t.Carrier)) (w : W) {o : Outcome t.Carrier} {w₁ : W}
    (h : R.run (leaf.settleRun t ex op (Outcome.new ex.detached)) w = (o, w₁)) :
    (R.run (leaf.handle t ex op) w).2 = R.withScene w₁
      ((Handler.runAll leaf.core.handlers leaf.core.name o.state.settle).run (R.scene w₁)).2 := by
  rw [handle_eq, R.run_bind, h]
  simp only [finish, R.run_bind, R.run_lift, R.run_pure]

/-- Retry observer protocol. An invocation of a retry policy, in any world and under any
execution, moves from its start through a sequence of reports to the observer, attempts and
delays, and then only its handlers run. On a token cancelled before the first attempt the
sequence is the one report that the loop stopped at attempt 1 without an error, and no attempt
is made. Otherwise it is `protocol`, with the delays the loop drew: between one and the
allowed number of attempts, each announced with its number and the limit just before it is
made, each one that another follows reported with its error and the delay drawn after it, and
the last followed by exactly one closing report (a success, an exhaustion at the limit, or a
cancellation at the attempt that met the filter's rejection or the cancelled token), the delay
before it reported too when it cut the delay short. Every delay reported is `calculateDelay`
of its attempt, with the jitter setting and a random source that picks within its range. A
counting observer therefore ends with one start per attempt, one closing report, and as many
failures as attempts followed by a delay. -/
theorem retry_observer_protocol (R : SceneRun σ m W) (core : PolicyCore σ)
    (settings : RetrySettings) (jitter : Bool) (observer : RetryEvent → Act σ Unit)
    (t : ValueType) (ex : Execution) (op : m (Except Fault t.Carrier)) (w : W) :
    ∃ (attempts : List (Attempt t.Carrier)) (moves : List (Move t.Carrier)) (w₁ : W)
      (st : OutcomeState),
      Moves R core settings jitter observer op w moves w₁ ∧
      (R.run ((Leaf.mk core (.retry settings jitter observer)).handle t ex op) w).2 =
        R.withScene w₁ ((Handler.runAll core.handlers core.name st).run (R.scene w₁)).2 ∧
      ((R.scene w).cancelled = true → attempts = [] ∧ moves = [.report (.cancelled 1 none)]) ∧
      ((R.scene w).cancelled = false → (∃ delays, moves = protocol settings delays 1 attempts) ∧
        0 < attempts.length ∧ attempts.length ≤ settings.attemptLimit) ∧
      (∀ attempt fault delayMs, RetryEvent.attemptFailed attempt fault delayMs ∈ reports moves →
        ∃ draw : Nat → Nat, (∀ hi, draw hi ≤ hi) ∧
          delayMs = settings.calculateDelay attempt jitter draw) ∧
      (({} : RetryStats).recordAll (reports moves)).attemptStarts = attempts.length ∧
      (({} : RetryStats).recordAll (reports moves)).successes +
        (({} : RetryStats).recordAll (reports moves)).exhaustions +
          (({} : RetryStats).recordAll (reports moves)).cancellations = 1 ∧
      (({} : RetryStats).recordAll (reports moves)).failures =
        if attempts = [] then 0
        else if attempts.getLast?.any Attempt.handled ∧ attempts.length < settings.attemptLimit then
          attempts.length
        else attempts.length - 1 := by
  cases hcancelled : (R.scene w).cancelled with
  | true =>
    -- the loop does not start: the observer hears that it stopped, and the handlers run
    have hrun := settleRun_of_cancelled R (Leaf.mk core (.retry settings jitter observer)) t ex op w
      hcancelled
    refine ⟨[], [.report (.cancelled 1 none)], R.hear observer (.cancelled 1 none) w, _, .report .nil,
      run_handle_of_settleRun R _ t ex op w hrun, fun _ => ⟨rfl, rfl⟩, fun h => absurd h (by simp),
      ?_, ?_, ?_, ?_⟩ <;> simp [RetryStats.recordAll, RetryStats.record]
  | false =>
    obtain ⟨attempts, o, w₁, hruns, hloop⟩ := retryLoop_trace R core settings jitter observer ex op
      settings.attemptLimit 1 (Outcome.new ex.detached) w
    have hrun : R.run ((Leaf.mk core (.retry settings jitter observer)).settleRun t ex op
        (Outcome.new ex.detached)) w = (o, w₁) := by
      simp [settleRun, hcancelled, hloop]
    have hlimit : 0 < settings.attemptLimit := by simp [RetrySettings.attemptLimit]
    obtain ⟨delays, hmoves⟩ := hruns.moves (by omega)
    obtain ⟨hstarts, hclosing, hfailures⟩ := hruns.tallies delays
    have hne : attempts ≠ [] := hruns.ne_nil hlimit
    refine ⟨attempts, protocol settings delays 1 attempts, w₁, _, hmoves,
      run_handle_of_settleRun R _ t ex op w hrun, fun h => absurd h (by simp),
      fun _ => ⟨⟨delays, rfl⟩, List.length_pos_of_ne_nil hne, hruns.length_le⟩,
      hmoves.attemptFailed_drawn, hstarts, hclosing, ?_⟩
    rw [if_neg hne, hfailures]

/-- A retry policy around an operation that keeps failing, with jittered delays, invoked
directly on a live token, meets the conditions. -/
theorem retry_observer_protocol_failing :
    LawfulMonad (Act Unit) ∧
      ∃ (attempts : List (Attempt Unit)) (moves : List (Move Unit)) (w₁ : Scene Unit)
        (st : OutcomeState),
        Moves SceneRun.act ({ name := "retry" } : PolicyCore Unit) (RetrySettings.attempts 3) true
          (fun _ => pure ()) (pure (.error (.msg "busy")) : Act Unit (Except Fault Unit))
          ⟨false, (), fun n => 7 * n + 5⟩ moves w₁ ∧
        (((Leaf.mk (σ := Unit) { name := "retry" }
            (.retry (RetrySettings.attempts 3) true fun _ => pure ())).handle .unit .blocking
              (pure (.error (.msg "busy")) : Act Unit (Except Fault Unit))).run
                ⟨false, (), fun n => 7 * n + 5⟩).2 =
          ((Handler.runAll ([] : List (Handler Unit)) "retry" st).run w₁).2 ∧
        ((⟨false, (), fun n => 7 * n + 5⟩ : Scene Unit).cancelled = true → attempts = [] ∧
          moves = [.report (.cancelled 1 none)]) ∧
        ((⟨false, (), fun n => 7 * n + 5⟩ : Scene Unit).cancelled = false →
          (∃ delays, moves = protocol (RetrySettings.attempts 3) delays 1 attempts) ∧
            0 < attempts.length ∧ attempts.length ≤ (RetrySettings.attempts 3).attemptLimit) ∧
        (∀ attempt fault delayMs, RetryEvent.attemptFailed attempt fault delayMs ∈ reports moves →
          ∃ draw : Nat → Nat, (∀ hi, draw hi ≤ hi) ∧
            delayMs = (RetrySettings.attempts 3).calculateDelay attempt true draw) ∧
        (({} : RetryStats).recordAll (reports moves)).attemptStarts = attempts.length ∧
        (({} : RetryStats).recordAll (reports moves)).successes +
          (({} : RetryStats).recordAll (reports moves)).exhaustions +
            (({} : RetryStats).recordAll (reports moves)).cancellations = 1 ∧
        (({} : RetryStats).recordAll (reports moves)).failures =
          if attempts = [] then 0
          else if attempts.getLast?.any Attempt.handled ∧
              attempts.length < (RetrySettings.attempts 3).attemptLimit then attempts.length
          else attempts.length - 1 :=
  ⟨inferInstance, retry_observer_protocol SceneRun.act ({ name := "retry" } : PolicyCore Unit)
    (RetrySettings.attempts 3) true (fun _ => pure ()) .unit .blocking
    (pure (.error (.msg "busy")) : Act Unit (Except Fault Unit)) ⟨false, (), fun n => 7 * n + 5⟩⟩

end Leaf

end Resilience
