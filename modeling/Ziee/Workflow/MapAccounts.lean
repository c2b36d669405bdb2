/-
**A map step accounts for its items** (`dispatch.rs`, `LlmMapDispatcher`).

Over every interleaving of the step, its tasks and a cancel: what the step reports when it
completes, and what its progress says before.

* `Settles`, `itemTask_settles` — what a task returns, from the calls it has made.
* `Collected`, `drain_collected` — what the step has collected and published, wherever it is cut.
-/

import Ziee.Library.Histories
import Ziee.Workflow.MapItems

namespace Ziee.Workflow.LlmMap

open PortProgram Threads
open Ziee.Providers
open Ziee.Workflow.Tallies (perStepTokenCap)

def outcome? : MapEvent → Option LlmCallOutcome
  | ⟨.chatStream _, answer⟩ => some (readStream answer)
  | _ => none

def published? : MapEvent → Option ItemProgress
  | ⟨.publish progress, _⟩ => some progress
  | _ => none

def collected? : MapEvent → Option (Nat × ItemResult)
  | ⟨.join handle, .ok result⟩ => some (handle, result)
  | _ => none

def recorded? : MapEvent → Option Nat
  | ⟨.record tokens, _⟩ => some tokens
  | _ => none

def itemCalls (log : List MapLabel) (idx : Nat) : List LlmCallOutcome :=
  (own (idx + 2) log).filterMap outcome?

/-- How many tasks the step has collected so far. -/
def collectedCount (log : List MapLabel) : Nat :=
  (log.filterMap fun label => collected? label.2).length

def LlmCallOutcome.tokens : LlmCallOutcome → Nat
  | .ok _ tokens => tokens
  | _ => 0

def returnedTokens (calls : List LlmCallOutcome) : Nat := (calls.map LlmCallOutcome.tokens).sum

def MapStep.reply? (step : MapStep) (calls : List LlmCallOutcome) : Option Json :=
  match calls.getLast? with
  | some (.ok text _) => (step.parseReply text).toOption
  | _ => none

def ItemProgress.counted (progress : ItemProgress) : Nat :=
  progress.completed + progress.failed + progress.skipped

/-! ### The task of an item -/

/-- **The result is what the calls come to.** -/
structure Settles (step : MapStep) (idx : Nat) (calls : List LlmCallOutcome) (result : ItemResult) :
    Prop where
  idx : result.idx = idx
  tokens : result.tokens = returnedTokens calls
  outcome : result.outcome.toOption = step.reply? calls

section Task

variable {step : MapStep} {idx : Nat} {prompt : String} {earlier : List LlmCallOutcome}
  {outcome : LlmCallOutcome} {result : ItemResult} {trace events : List MapEvent}

@[simp] theorem returnedTokens_append {more : List LlmCallOutcome} :
    returnedTokens (earlier ++ more) = returnedTokens earlier + returnedTokens more := by
  unfold returnedTokens
  rw [List.map_append, List.sum_append]

@[simp] theorem returnedTokens_singleton : returnedTokens [outcome] = outcome.tokens := by
  simp [returnedTokens]

theorem reply?_concat : step.reply? (earlier ++ [outcome]) =
    match outcome with
    | .ok text _ => (step.parseReply text).toOption
    | _ => none := by
  unfold MapStep.reply?
  rw [List.getLast?_concat]
  cases outcome <;> rfl

theorem afterCall_ok (ends : step.afterCall idx (returnedTokens earlier) outcome = .ok result) :
    Settles step idx (earlier ++ [outcome]) result := by
  cases outcome with
  | ok text tokens =>
    simp only [MapStep.afterCall] at ends
    cases parsed : step.parseReply text with
    | ok value =>
      simp only [parsed] at ends
      cases ends
      exact ⟨rfl, by simp [LlmCallOutcome.tokens], by simp [reply?_concat, parsed, Except.toOption]⟩
    | error lastErr =>
      simp only [parsed] at ends
      cases ends
  | failed lastErr => cases ends
  | cancelled =>
    cases ends
    exact ⟨rfl, by simp [LlmCallOutcome.tokens], by simp [reply?_concat, Except.toOption]⟩

theorem afterCall_error {lastErr : String} {tokens : Nat}
    (fails : step.afterCall idx (returnedTokens earlier) outcome = .error (lastErr, tokens)) :
    tokens = returnedTokens (earlier ++ [outcome]) ∧ step.reply? (earlier ++ [outcome]) = none := by
  cases outcome with
  | ok text tokens =>
    simp only [MapStep.afterCall] at fails
    cases parsed : step.parseReply text with
    | ok value =>
      simp only [parsed] at fails
      cases fails
    | error lastErr =>
      simp only [parsed] at fails
      cases fails
      exact ⟨by simp [LlmCallOutcome.tokens], by simp [reply?_concat, parsed, Except.toOption]⟩
  | failed lastErr =>
    cases fails
    exact ⟨by simp [LlmCallOutcome.tokens], by simp [reply?_concat]⟩
  | cancelled => cases fails

theorem runs_runLlmCall_bind_iff {request : ChatRequest} {β : Type}
    {rest : LlmCallOutcome → MapM β} {outcome : Except Empty β} :
    Runs (runLlmCall request >>= rest) trace outcome ↔
      ∃ answer tail, trace = ⟨.chatStream request, answer⟩ :: tail ∧
        Runs (rest (readStream answer)) tail outcome :=
  runs_perform_bind_iff (I := mapPorts)

/-- **The attempts come to a result**, whatever was called before; the induction is on how many
attempts are left. -/
theorem attempts_settles (left : Nat) : ∀ {attempt : Nat} {earlier : List LlmCallOutcome}
    {trace : List MapEvent} {result : ItemResult},
    Runs (attempts step idx prompt left attempt (returnedTokens earlier)) trace (.ok result) →
      Settles step idx (earlier ++ trace.filterMap outcome?) result := by
  induction left with
  | zero =>
    intro attempt earlier trace result run
    unfold attempts at run
    obtain ⟨answer, tail, rfl, goesOn⟩ := runs_runLlmCall_bind_iff.mp run
    cases verdict : step.afterCall idx (returnedTokens earlier) (readStream answer) with
    | ok ended =>
      rw [verdict] at goesOn
      obtain ⟨rfl, same⟩ := runs_pure_iff.mp goesOn
      cases same
      exact afterCall_ok verdict
    | error failed =>
      obtain ⟨lastErr, tokens⟩ := failed
      rw [verdict] at goesOn
      obtain ⟨rfl, same⟩ := runs_pure_iff.mp goesOn
      cases same
      obtain ⟨sum, none⟩ := afterCall_error verdict
      exact ⟨rfl, sum, none.symm⟩
  | succ left ih =>
    intro attempt earlier trace result run
    unfold attempts at run
    obtain ⟨answer, tail, rfl, goesOn⟩ := runs_runLlmCall_bind_iff.mp run
    cases verdict : step.afterCall idx (returnedTokens earlier) (readStream answer) with
    | ok ended =>
      rw [verdict] at goesOn
      obtain ⟨rfl, same⟩ := runs_pure_iff.mp goesOn
      cases same
      exact afterCall_ok verdict
    | error failed =>
      obtain ⟨lastErr, tokens⟩ := failed
      rw [verdict] at goesOn
      obtain ⟨_, later, rfl, again⟩ := (runs_perform_bind_iff (I := mapPorts)).mp goesOn
      obtain ⟨rfl, -⟩ := afterCall_error verdict
      have rest := ih again
      rwa [List.append_assoc] at rest

/-- What a task asks while it has its permit. -/
def MapQuery.isCall : MapQuery → Bool
  | .isCancelled | .chatStream _ | .sleep _ => true
  | _ => false

def MapQuery.isTask : MapQuery → Bool
  | .acquire | .release | .settle _ => true
  | query => query.isCall

theorem attempts_asks (left : Nat) : ∀ {attempt totalTokens : Nat},
    AsksOnly (fun query : MapQuery => query.isCall = true)
      (attempts step idx prompt left attempt totalTokens) := by
  have calls : ∀ request, AsksOnly (fun query : MapQuery => query.isCall = true)
      (runLlmCall request) := fun _ => ⟨rfl, fun _ => trivial⟩
  induction left with
  | zero =>
    intro attempt totalTokens
    refine AsksOnly.bind (calls _) fun outcome => ?_
    split
    · trivial
    · trivial
  | succ left ih =>
    intro attempt totalTokens
    refine AsksOnly.bind (calls _) fun outcome => ?_
    split
    · trivial
    · exact ⟨rfl, fun _ => ih⟩

theorem runItem_asks :
    AsksOnly (fun query : MapQuery => query.isCall = true) (runItem step idx prompt) := by
  refine ⟨rfl, fun cancelled => ?_⟩
  cases cancelled with
  | true => trivial
  | false => exact attempts_asks _

theorem itemTask_asks :
    AsksOnly (fun query : MapQuery => query.isTask = true) (itemTask step idx prompt) := by
  refine ⟨rfl, fun acquired => ?_⟩
  cases acquired with
  | error _ => exact ⟨rfl, fun _ => trivial⟩
  | ok _ =>
    show AsksOnly _ (runItem step idx prompt >>= fun result => _)
    refine AsksOnly.bind (runItem_asks.mono fun query call => ?_) fun result =>
      ⟨rfl, fun _ => ⟨rfl, fun _ => trivial⟩⟩
    cases query <;> first | rfl | cases call

theorem runItem_settles (run : Runs (runItem step idx prompt) trace (.ok result)) :
    Settles step idx (trace.filterMap outcome?) result := by
  obtain ⟨cancelled, tail, rfl, goesOn⟩ := (runs_perform_bind_iff (I := mapPorts)).mp run
  cases cancelled with
  | true =>
    obtain ⟨rfl, same⟩ := runs_pure_iff.mp goesOn
    cases same
    exact ⟨rfl, rfl, rfl⟩
  | false =>
    have called : Runs (attempts step idx prompt _ _ (returnedTokens [])) tail (.ok result) :=
      goesOn
    exact attempts_settles _ called

theorem itemTask_runs {ended : Except Empty (Option StepResult)}
    (run : Runs (itemTask step idx prompt) trace ended) :
    ∃ body result, trace = body ++ [⟨.settle result, ()⟩] ∧
      (∀ event ∈ body, ∀ other, event ≠ ⟨.settle other, ()⟩) ∧
      Settles step idx (trace.filterMap outcome?) result := by
  obtain ⟨acquired, tail, rfl, goesOn⟩ := (runs_perform_bind_iff (I := mapPorts)).mp run
  cases acquired with
  | error _ =>
    obtain ⟨_, rest, rfl, last⟩ := (runs_perform_bind_iff (I := mapPorts)).mp goesOn
    obtain ⟨rfl, -⟩ := runs_pure_iff.mp last
    refine ⟨[⟨.acquire, .error _⟩], _, rfl, fun event member other => ?_, rfl, rfl, rfl⟩
    cases List.mem_singleton.mp member
    exact nofun
  | ok permit =>
    rcases runs_bind_iff.mp goesOn with ⟨error, -, -⟩ | ⟨result, calls, after, rfl, calling, rest⟩
    · exact error.elim
    · obtain ⟨_, _, rfl, settling⟩ := (runs_perform_bind_iff (I := mapPorts)).mp rest
      obtain ⟨_, _, rfl, last⟩ := (runs_perform_bind_iff (I := mapPorts)).mp settling
      obtain ⟨rfl, -⟩ := runs_pure_iff.mp last
      refine ⟨⟨.acquire, .ok permit⟩ :: calls ++ [⟨.release, ()⟩], result, by simp,
        fun event member other same => ?_, ?_⟩
      · subst same
        rcases List.mem_append.mp member with member | member
        · rcases List.mem_cons.mp member with impossible | member
          · cases impossible
          · cases runItem_asks.of_mem calling member
        · cases List.mem_singleton.mp member
      · have settles := runItem_settles calling
        have same : (calls ++ [(⟨.release, ()⟩ : MapEvent), ⟨.settle result, ()⟩]).filterMap
            outcome? = calls.filterMap outcome? := by
          rw [List.filterMap_append]
          exact List.append_nil _
        exact same.symm ▸ settles

/-- **A task that has settled** has made all its calls, and its result is what they come to. -/
theorem itemTask_settles (run : RunsPartly (itemTask step idx prompt) events)
    (settled : (⟨.settle result, ()⟩ : MapEvent) ∈ events) :
    Settles step idx (events.filterMap outcome?) result := by
  obtain ⟨rest, ended, whole⟩ := run
  obtain ⟨body, last, split, quiet, settles⟩ := itemTask_runs whole
  rcases List.eq_nil_or_concat rest with rfl | ⟨more, final, rfl⟩
  · rw [List.append_nil] at split settles
    rw [split] at settled
    rcases List.mem_append.mp settled with inside | here
    · exact absurd rfl (quiet _ inside result)
    · cases List.mem_singleton.mp here
      exact settles
  · rw [List.concat_eq_append, ← List.append_assoc] at split
    obtain ⟨inner, -⟩ := List.append_inj' split rfl
    exact absurd rfl (quiet _ (inner ▸ List.mem_append_left more settled) result)

end Task

/-! ### The tally -/

/-- One collected task: its tokens are charged, its result counted. -/
def Tally.took (step : MapStep) (tally : Tally) (result : ItemResult) : Tally :=
  (tally.charge result.tokens).settle step.onError result

def Tally.tookAll (step : MapStep) (tally : Tally) (results : List ItemResult) : Tally :=
  results.foldl (Tally.took step) tally

def Clean (step : MapStep) (results : List ItemResult) : Prop :=
  ∀ result ∈ results, result.outcome.toOption = none → step.onError = .skip

section Counting

variable {step : MapStep} {tally : Tally} {result : ItemResult} {results : List ItemResult}
  {total : Nat}

theorem took_counted : ((tally.took step result).itemProgress total).counted =
    (tally.itemProgress total).counted + 1 := by
  unfold Tally.took Tally.settle
  split
  · simp [Tally.itemProgress, ItemProgress.counted, Tally.charge]
    omega
  · split
    · simp [Tally.itemProgress, ItemProgress.counted, Tally.charge]
      omega
    · simp [Tally.itemProgress, ItemProgress.counted, Tally.charge]
      omega

theorem took_tokens : (tally.took step result).totalTokens = tally.totalTokens + result.tokens := by
  unfold Tally.took Tally.settle
  split
  · rfl
  · split
    · rfl
    · rfl

theorem took_fatal_iff : (tally.took step result).anyFailedFatal = none ↔
    tally.anyFailedFatal = none ∧ (result.outcome.toOption = none → step.onError = .skip) := by
  unfold Tally.took Tally.settle
  cases result.outcome with
  | ok value => simp [Tally.charge, Except.toOption]
  | error error =>
    cases step.onError <;> simp [Tally.charge, classifyItemError, Except.toOption]

theorem took_results (clean : result.outcome.toOption = none → step.onError = .skip) :
    (tally.took step result).results =
      tally.results.set result.idx (some (result.outcome.toOption.getD .null)) := by
  unfold Tally.took Tally.settle
  cases outcome : result.outcome with
  | ok value => rfl
  | error error =>
    have skips : step.onError = .skip := clean (by rw [outcome]; rfl)
    simp [Tally.charge, classifyItemError, Except.toOption, skips]

theorem tookAll_counted : ((tally.tookAll step results).itemProgress total).counted =
    (tally.itemProgress total).counted + results.length := by
  unfold Tally.tookAll
  induction results generalizing tally with
  | nil => rfl
  | cons result results ih =>
    rw [List.foldl_cons, ih, took_counted, List.length_cons]
    omega

theorem tookAll_tokens : (tally.tookAll step results).totalTokens =
    tally.totalTokens + (results.map (·.tokens)).sum := by
  unfold Tally.tookAll
  induction results generalizing tally with
  | nil => rfl
  | cons result results ih =>
    rw [List.foldl_cons, ih, took_tokens, List.map_cons, List.sum_cons, Nat.add_assoc]

theorem tookAll_fatal_iff : (tally.tookAll step results).anyFailedFatal = none ↔
    tally.anyFailedFatal = none ∧ Clean step results := by
  unfold Tally.tookAll Clean
  induction results generalizing tally with
  | nil => simp
  | cons result results ih =>
    rw [List.foldl_cons, ih, took_fatal_iff, List.forall_mem_cons, and_assoc]

/-- **The results fill their places in order.** -/
theorem tookAll_results (clean : Clean step results) : ∀ {tally : Tally}
    {before : List (Option Json)}, tally.results = before ++ List.replicate results.length none →
    (∀ place result, results[place]? = some result → result.idx = before.length + place) →
    (tally.tookAll step results).results =
      before ++ results.map fun result => some (result.outcome.toOption.getD .null) := by
  induction results with
  | nil =>
    intro tally before filled _
    simpa [Tally.tookAll] using filled
  | cons result results ih =>
    intro tally before filled placed
    have here : result.idx = before.length := placed 0 result rfl
    have put : (tally.took step result).results =
        (before ++ [some (result.outcome.toOption.getD .null)]) ++
          List.replicate results.length none := by
      rw [took_results (clean result List.mem_cons_self), filled, here, List.length_cons,
        List.replicate_succ, List.set_append_right _ _ (Nat.le_refl _), Nat.sub_self,
        List.set_cons_zero, List.append_assoc]
      rfl
    have rest := ih (fun other member => clean other (List.mem_cons_of_mem _ member)) put
      fun place other found => by
        rw [placed (place + 1) other found, List.length_append]
        simp only [List.length_cons, List.length_nil]
        omega
    rw [List.append_assoc] at rest
    exact rest

end Counting

/-! ### The loop that collects -/

/-- What the step asks once its tasks are spawned. -/
def MapQuery.isDrain : MapQuery → Bool
  | .join _ | .isCancelled | .publish _ | .writeStepOutput _ | .record _ => true
  | _ => false

/-- What the step asks after the last task. -/
def MapQuery.isConclude : MapQuery → Bool
  | .writeStepOutput _ | .record _ => true
  | _ => false

section Drain

variable {step : MapStep} {total : Nat} {tally : Tally} {trace events : List MapEvent}
  {output : Json} {tokens : Nat}

theorem conclude_asks :
    AsksOnly (fun query : MapQuery => query.isConclude = true) (conclude tally) := by
  unfold conclude
  split
  · trivial
  · refine ⟨rfl, fun answer => ?_⟩
    cases answer with
    | error error => trivial
    | ok _ => exact ⟨rfl, fun _ => trivial⟩

theorem drain_asks (handles : List Nat) : ∀ {tally : Tally},
    AsksOnly (fun query : MapQuery => query.isDrain = true) (drain step total handles tally) := by
  induction handles with
  | nil =>
    intro tally
    refine conclude_asks.mono fun query concludes => ?_
    cases query <;> first | rfl | cases concludes
  | cons handle handles ih =>
    intro tally
    refine ⟨rfl, fun joined => ?_⟩
    cases joined with
    | error error => trivial
    | ok result =>
      refine ⟨rfl, fun cancelled => ?_⟩
      cases cancelled with
      | true => exact ⟨rfl, fun _ => trivial⟩
      | false =>
        refine AsksOnly.ite trivial ?_
        exact ⟨rfl, fun _ => ih⟩

theorem partly_asks {allowed : MapQuery → Prop} {α : Type} {program : MapM α}
    (asks : AsksOnly (I := mapPorts) allowed program) (run : RunsPartly program events) :
    ∀ event ∈ events, allowed event.1 := by
  obtain ⟨rest, outcome, whole⟩ := run
  exact fun event member => asks.of_mem whole (List.mem_append_left rest member)

theorem conclude_silent (run : RunsPartly (conclude tally) events) :
    events.filterMap collected? = [] ∧ events.filterMap published? = [] := by
  have asks := partly_asks conclude_asks run
  constructor
  · refine List.filterMap_eq_nil_iff.mpr fun event member => ?_
    obtain ⟨query, answer⟩ := event
    cases query <;> first | rfl | cases asks _ member
  · refine List.filterMap_eq_nil_iff.mpr fun event member => ?_
    obtain ⟨query, answer⟩ := event
    cases query <;> first | rfl | cases asks _ member

/-- **What the loop has collected and published**, wherever it is cut: the tasks in the order of the
handles, and the progress of all of them but perhaps the last. -/
structure Collected (step : MapStep) (total : Nat) (handles : List Nat) (tally : Tally)
    (events : List MapEvent) (results : List ItemResult) (counted : Nat) : Prop where
  order : events.filterMap collected? = handles.zip results
  within : results.length ≤ handles.length
  published : (events.filterMap published?).getLastD (tally.itemProgress total) =
    (tally.tookAll step (results.take counted)).itemProgress total
  behind : counted ≤ results.length
  lag : results.length ≤ counted + 1

theorem Collected.none {handles : List Nat} (collects : events.filterMap collected? = [])
    (publishes : events.filterMap published? = []) :
    Collected step total handles tally events [] 0 :=
  ⟨by simp [collects], Nat.zero_le _, by simp [publishes, Tally.tookAll], Nat.le_refl _,
    Nat.zero_le _⟩

theorem Collected.one {handle : Nat} {handles : List Nat} {result : ItemResult}
    (collects : events.filterMap collected? = [(handle, result)])
    (publishes : (events.filterMap published?).getLastD (tally.itemProgress total) =
      tally.itemProgress total) :
    Collected step total (handle :: handles) tally events [result] 0 :=
  ⟨by simp [collects], by simp, publishes, Nat.zero_le _, Nat.le_refl _⟩

theorem drain_collected (handles : List Nat) : ∀ {tally : Tally} {events : List MapEvent},
    RunsPartly (drain step total handles tally) events →
      ∃ results counted, Collected step total handles tally events results counted := by
  induction handles with
  | nil =>
    intro tally events run
    obtain ⟨collects, publishes⟩ := conclude_silent run
    exact ⟨[], 0, .none collects publishes⟩
  | cons handle handles ih =>
    intro tally events run
    rcases run.of_perform_bind (I := mapPorts) with rfl | ⟨joined, tail, rfl, goesOn⟩
    · exact ⟨[], 0, .none rfl rfl⟩
    cases joined with
    | error error =>
      obtain rfl := RunsPartly.of_pure goesOn
      exact ⟨[], 0, .none rfl rfl⟩
    | ok result =>
      rcases goesOn.of_perform_bind (I := mapPorts) with rfl | ⟨cancelled, later, rfl, settling⟩
      · exact ⟨[result], 0, .one rfl rfl⟩
      cases cancelled with
      | true =>
        -- the progress published once more is the one before this task
        rcases settling.of_perform_bind (I := mapPorts) with rfl | ⟨_, last, rfl, ended⟩
        · exact ⟨[result], 0, .one rfl rfl⟩
        · obtain rfl := RunsPartly.of_pure ended
          exact ⟨[result], 0, .one rfl rfl⟩
      | false =>
        have settling : RunsPartly (if perStepTokenCap < (tally.charge result.tokens).totalTokens
            then _ else _) later := settling
        split at settling
        · obtain rfl := RunsPartly.of_pure settling
          exact ⟨[result], 0, .one rfl rfl⟩
        · rcases settling.of_perform_bind (I := mapPorts) with rfl | ⟨_, rest, rfl, looping⟩
          · exact ⟨[result], 0, .one rfl rfl⟩
          · obtain ⟨results, counted, collected⟩ := ih looping
            refine ⟨result :: results, counted + 1, ?_, Nat.succ_le_succ collected.within, ?_,
              Nat.succ_le_succ collected.behind, Nat.succ_le_succ collected.lag⟩
            · exact congrArg ((handle, result) :: ·) collected.order
            · exact List.getLastD_cons.trans collected.published

/-- **A loop that completes** has collected every task, none of which fails the step. -/
theorem drain_completed (handles : List Nat) : ∀ {tally : Tally} {trace : List MapEvent},
    Runs (drain step total handles tally) trace (.ok (.completed output tokens)) →
      ∃ results, trace.filterMap collected? = handles.zip results ∧
        results.length = handles.length ∧ (tally.tookAll step results).anyFailedFatal = none ∧
        output = .array ((tally.tookAll step results).results.map fun result =>
          result.getD .null) ∧
        tokens = (tally.tookAll step results).totalTokens ∧
        trace.filterMap recorded? = [tokens] := by
  induction handles with
  | nil =>
    intro tally trace run
    have run : Runs (conclude tally) trace _ := run
    refine ⟨[], ?_, rfl, ?_⟩
    · exact (conclude_silent run.partly).1.trans rfl
    · unfold conclude at run
      split at run
      · cases (runs_pure_iff.mp run).2
      · rename_i sound
        obtain ⟨answer, tail, rfl, goesOn⟩ := (runs_perform_bind_iff (I := mapPorts)).mp run
        cases answer with
        | error error => cases (runs_pure_iff.mp goesOn).2
        | ok _ =>
          obtain ⟨_, last, rfl, ended⟩ := (runs_perform_bind_iff (I := mapPorts)).mp goesOn
          obtain ⟨rfl, same⟩ := runs_pure_iff.mp ended
          cases same
          exact ⟨sound, rfl, rfl, rfl⟩
  | cons handle handles ih =>
    intro tally trace run
    obtain ⟨joined, tail, rfl, goesOn⟩ := (runs_perform_bind_iff (I := mapPorts)).mp run
    cases joined with
    | error error => cases (runs_pure_iff.mp goesOn).2
    | ok result =>
      obtain ⟨cancelled, later, rfl, settling⟩ := (runs_perform_bind_iff (I := mapPorts)).mp goesOn
      cases cancelled with
      | true =>
        obtain ⟨_, last, rfl, ended⟩ := (runs_perform_bind_iff (I := mapPorts)).mp settling
        cases (runs_pure_iff.mp ended).2
      | false =>
        have settling : Runs (if perStepTokenCap < (tally.charge result.tokens).totalTokens
            then _ else _) later _ := settling
        split at settling
        · cases (runs_pure_iff.mp settling).2
        · obtain ⟨_, rest, rfl, looping⟩ := (runs_perform_bind_iff (I := mapPorts)).mp settling
          obtain ⟨results, order, length, sound, shape, sum, records⟩ := ih looping
          exact ⟨result :: results, congrArg ((handle, result) :: ·) order,
            congrArg (· + 1) length, sound, shape, sum, records⟩

end Drain

/-! ### The step -/

def spawnEvent (item : String × Nat) : MapEvent := ⟨.spawn item.2 item.1, ()⟩

section Dispatch

variable {step : MapStep} {trace events : List MapEvent} {items : List (String × Nat)}

theorem renderPrompts_length {raw : String} {items : List Json} : ∀ {idx : Nat}
    {prompts : List String}, step.renderPrompts raw idx items = .ok prompts →
      prompts.length = items.length := by
  induction items with
  | nil =>
    intro idx prompts rendered
    cases rendered
    rfl
  | cons item items ih =>
    intro idx prompts rendered
    unfold MapStep.renderPrompts at rendered
    split at rendered
    · cases rendered
    · obtain ⟨rest, later, rfl⟩ := map_eq_ok_iff.mp rendered
      exact congrArg (· + 1) (ih later)

theorem perItemPrompts_length {prompts : List String}
    (rendered : step.perItemPrompts = .ok prompts) : prompts.length = step.items.length := by
  unfold MapStep.perItemPrompts at rendered
  unfold MapStep.items
  split at rendered
  · cases rendered
  · rename_i items resolved
    split at rendered
    · cases rendered
    · rw [resolved]
      exact renderPrompts_length rendered

theorem spawnItems_runs {α : Type} {next : MapM α} {ended : Except Empty α} : ∀ {trace},
    Runs (spawnItems items >>= fun _ => next) trace ended →
      ∃ tail, trace = items.map spawnEvent ++ tail ∧ Runs next tail ended := by
  induction items with
  | nil => exact fun run => ⟨_, rfl, run⟩
  | cons item items ih =>
    intro trace run
    have run : Runs (ask (.spawn item.2 item.1) >>= fun _ => spawnItems items >>= fun _ => next)
      trace ended := run
    obtain ⟨_, rest, rfl, later⟩ := (runs_perform_bind_iff (I := mapPorts)).mp run
    obtain ⟨tail, rfl, last⟩ := ih later
    exact ⟨tail, rfl, last⟩

theorem spawnItems_partly {α : Type} {next : MapM α}
    (run : RunsPartly (spawnItems items >>= fun _ => next) events) :
    (∃ count, events = (items.take count).map spawnEvent) ∨
      ∃ tail, events = items.map spawnEvent ++ tail ∧ RunsPartly next tail := by
  obtain ⟨rest, ended, whole⟩ := run
  obtain ⟨tail, split, last⟩ := spawnItems_runs whole
  rcases List.append_eq_append_iff.mp split with ⟨more, spawned, -⟩ | ⟨more, rfl, rfl⟩
  · refine Or.inl ⟨events.length, ?_⟩
    rw [List.map_take, spawned, List.take_left]
  · exact Or.inr ⟨more, rfl, rest, ended, last⟩

theorem spawned_silent (items : List (String × Nat)) :
    (items.map spawnEvent).filterMap collected? = [] ∧
    (items.map spawnEvent).filterMap published? = [] ∧
    (items.map spawnEvent).filterMap recorded? = [] := by
  refine ⟨?_, ?_, ?_⟩
  all_goals
    refine List.filterMap_eq_nil_iff.mpr fun event member => ?_
    obtain ⟨item, -, rfl⟩ := List.mem_map.mp member
    rfl

theorem started_spawned (prompts : List String) (count : Nat) {place : Nat}
    {task : MapM (Option StepResult)}
    (found : ((((prompts.zipIdx.take count).map spawnEvent)).flatMap (started step))[place]? =
      some task) : ∃ prompt, task = itemTask step place prompt := by
  have tasks : ∀ items : List (String × Nat), (items.map spawnEvent).flatMap (started step) =
      items.map fun item => itemTask step item.2 item.1 := by
    intro items
    induction items with
    | nil => rfl
    | cons item items ih => exact congrArg (itemTask step item.2 item.1 :: ·) ih
  rw [tasks, List.getElem?_map] at found
  obtain ⟨item, here, rfl⟩ := Option.map_eq_some_iff.mp found
  rw [List.getElem?_take, Option.ite_none_right_eq_some, List.getElem?_zipIdx] at here
  obtain ⟨prompt, -, rfl⟩ := Option.map_eq_some_iff.mp here.2
  exact ⟨prompt, by rw [Nat.zero_add]⟩

/-- **What the step has done**, wherever it is cut. -/
structure Done (step : MapStep) (events : List MapEvent) (results : List ItemResult)
    (counted : Nat) : Prop where
  order : events.filterMap collected? = (List.range step.items.length).zip results
  within : results.length ≤ step.items.length
  progress : ∀ progress, (events.filterMap published?).getLast? = some progress →
    progress.counted = counted
  behind : counted ≤ results.length
  lag : results.length ≤ counted + 1
  tasks : ∀ place task, (events.flatMap (started step))[place]? = some task →
    ∃ prompt, task = itemTask step place prompt

theorem Done.nil : Done step [] [] 0 where
  order := by simp
  within := Nat.zero_le _
  progress := nofun
  behind := Nat.le_refl _
  lag := Nat.zero_le _
  tasks := fun _ _ impossible => by simp at impossible

theorem dispatch_partly (run : RunsPartly (dispatch step) events) :
    ∃ results counted, Done step events results counted := by
  unfold dispatch at run
  split at run
  · obtain rfl := RunsPartly.of_pure run
    exact ⟨[], 0, .nil⟩
  · rename_i prompts rendered
    have length := perItemPrompts_length rendered
    rcases run.of_perform_bind (I := mapPorts) with rfl | ⟨_, tail, rfl, spawning⟩
    · exact ⟨[], 0, .nil⟩
    rcases spawnItems_partly spawning with ⟨count, rfl⟩ | ⟨later, rfl, draining⟩
    · -- cut while it spawns: nothing is collected, and the first progress stands
      obtain ⟨collects, publishes, -⟩ := spawned_silent (prompts.zipIdx.take count)
      refine ⟨[], 0, ?_, Nat.zero_le _, fun progress last => ?_, Nat.le_refl _, Nat.zero_le _,
        fun place task found => started_spawned prompts count found⟩
      · exact collects.trans (by simp)
      · have shown : some ((Tally.start prompts.length).itemProgress prompts.length) =
            some progress := by
          have whole : (((Tally.start prompts.length).itemProgress prompts.length) ::
            ((prompts.zipIdx.take count).map spawnEvent).filterMap published?).getLast? =
              some progress := last
          rwa [publishes] at whole
        cases shown
        rfl
    · obtain ⟨results, counted, collected⟩ := drain_collected _ draining
      obtain ⟨collects, publishes, -⟩ := spawned_silent prompts.zipIdx
      have drains := partly_asks (drain_asks _) draining
      refine ⟨results, counted, ?_, ?_, fun progress last => ?_, collected.behind, collected.lag,
        fun place task found => ?_⟩
      · have order : (prompts.zipIdx.map spawnEvent ++ later).filterMap collected? =
            (List.range step.items.length).zip results := by
          rw [List.filterMap_append, collects, ← length]
          exact collected.order
        exact order
      · have within := collected.within
        rwa [List.length_range, length] at within
      · have shown : (((Tally.start prompts.length).itemProgress prompts.length) ::
            (prompts.zipIdx.map spawnEvent ++ later).filterMap published?).getLast? =
              some progress := last
        rw [List.filterMap_append, publishes, List.nil_append, List.getLast?_cons,
          ← List.getLastD_eq_getLast?, collected.published] at shown
        cases shown
        rw [tookAll_counted, List.length_take, Nat.min_eq_left collected.behind]
        exact Nat.zero_add _
      · have quiet : later.flatMap (started step) = [] := by
          refine List.flatMap_eq_nil_iff.mpr fun event member => ?_
          obtain ⟨query, answer⟩ := event
          cases query <;> first | rfl | cases drains _ member
        have whole : ((prompts.zipIdx.map spawnEvent ++ later).flatMap (started step))[place]? =
          some task := found
        rw [List.flatMap_append, quiet, List.append_nil] at whole
        refine started_spawned prompts prompts.zipIdx.length ?_
        rwa [List.take_length]

/-- **A step that completes** has collected a result for each item, none of which fails it. -/
theorem dispatch_completed {output : Json} {tokens : Nat}
    (run : Runs (dispatch step) trace (.ok (.completed output tokens))) :
    ∃ results : List ItemResult,
      trace.filterMap collected? = (List.range step.items.length).zip results ∧
      results.length = step.items.length ∧ Clean step results ∧
      ((∀ place (result : ItemResult), results[place]? = some result → result.idx = place) →
        output = .array (results.map fun result => result.outcome.toOption.getD .null)) ∧
      tokens = (results.map (·.tokens)).sum ∧ trace.filterMap recorded? = [tokens] := by
  unfold dispatch at run
  split at run
  · cases (runs_pure_iff.mp run).2
  · rename_i prompts rendered
    have length := perItemPrompts_length rendered
    obtain ⟨_, tail, rfl, spawning⟩ := (runs_perform_bind_iff (I := mapPorts)).mp run
    obtain ⟨later, rfl, draining⟩ := spawnItems_runs spawning
    obtain ⟨collects, -, records⟩ := spawned_silent prompts.zipIdx
    obtain ⟨results, order, each, sound, shape, sum, recorded⟩ := drain_completed _ draining
    rw [List.length_range, length] at each
    have clean := (tookAll_fatal_iff.mp sound).2
    refine ⟨results, ?_, each, clean, fun placed => ?_, ?_, ?_⟩
    · have whole : (prompts.zipIdx.map spawnEvent ++ later).filterMap collected? =
          (List.range step.items.length).zip results := by
        rw [List.filterMap_append, collects, ← length]
        exact order
      exact whole
    · have empty : (Tally.start prompts.length).results =
          [] ++ List.replicate results.length none := by
        rw [Tally.start, each, length]
        rfl
      have filled := tookAll_results clean empty fun place result found => by
        rw [placed place result found, List.length_nil, Nat.zero_add]
      rw [shape, filled, List.nil_append, List.map_map]
      rfl
    · rw [sum, tookAll_tokens]
      exact Nat.zero_add _
    · have whole : (prompts.zipIdx.map spawnEvent ++ later).filterMap recorded? = [tokens] := by
        rw [List.filterMap_append, records]
        exact recorded
      exact whole

theorem spawnItems_asks {α : Type} {next : MapM α} {allowed : MapQuery → Prop}
    (spawns : ∀ idx prompt, allowed (.spawn idx prompt))
    (rest : AsksOnly (I := mapPorts) allowed next) :
    AsksOnly (I := mapPorts) allowed (spawnItems items >>= fun _ => next) := by
  induction items with
  | nil => exact rest
  | cons item items ih => exact ⟨spawns _ _, fun _ => ih⟩

theorem stepThread_asks :
    AsksOnly (fun query : MapQuery => ∀ result, query ≠ .settle result) (stepThread step) := by
  refine AsksOnly.bind ?_ fun _ => trivial
  unfold dispatch
  split
  · trivial
  · refine ⟨nofun, fun _ => spawnItems_asks (fun _ _ => nofun) ?_⟩
    refine (drain_asks _).mono fun query drains result same => ?_
    subst same
    cases drains

end Dispatch

/-! ### The threads -/

/-- What a thread other than the step asks. -/
def MapQuery.isOther : MapQuery → Bool
  | .cancel => true
  | query => query.isTask

section Threads

variable {step : MapStep} {charged thread : Nat} {log : List MapLabel} {last : MapConfig}
  {result : ItemResult}
  (follows : Follows (mapMachine step).Step (MapConfig.start step charged) log last)

include follows

theorem others_ask :
    ∀ label ∈ log, label.1 ≠ 0 → label.2.1.isOther = true := by
  rintro ⟨thread, event⟩ member other
  have task : ∀ {idx prompt}, AsksOnly (fun query : MapQuery => query.isOther = true)
      (itemTask step idx prompt) := fun {idx prompt} => itemTask_asks.mono fun query asks => by
    cases query <;> first | rfl | exact asks
  refine Machine.asked (fun query : MapQuery => query.isOther = true)
    (fun program found => ?_) (fun event program member => ?_) follows event (mem_own.mpr member)
  · match thread, other, found with
    | 0, other, _ => exact absurd rfl other
    | 1, _, found =>
      cases found
      exact ⟨rfl, fun _ => trivial⟩
    | _ + 2, _, found => cases found
  · obtain ⟨query, answer⟩ := event
    cases query with
    | spawn idx prompt =>
      cases List.mem_singleton.mp member
      exact task
    | _ => cases member

theorem runs_own {program : MapM (Option StepResult)}
    (origin : ((mapMachine step).origins (MapConfig.start step charged).threads log)[thread]? =
      some program) : RunsPartly program (own thread log) :=
  Machine.own_partly (fun query => ((MapConfig.start step charged).shared.answer query).1) follows
    origin

theorem step_done : ∃ results counted, Done step (own 0 log) results counted := by
  have run : RunsPartly (stepThread step) (own 0 log) := runs_own follows rfl
  obtain ⟨rest, ended, whole⟩ := run
  rcases runs_bind_iff.mp whole with ⟨error, -, -⟩ | ⟨result, before, after, split, first, final⟩
  · exact error.elim
  · obtain ⟨rfl, -⟩ := runs_pure_iff.mp final
    rw [List.append_nil] at split
    exact dispatch_partly ⟨rest, .ok result, split ▸ first⟩

theorem origin_task {place : Nat} {program : MapM (Option StepResult)}
    (origin : ((mapMachine step).origins (MapConfig.start step charged).threads log)[place + 2]? =
      some program) :
    ∃ prompt, program = itemTask step place prompt := by
  obtain ⟨results, counted, done⟩ := step_done follows
  have quiet : ∀ label ∈ log, label.1 ≠ 0 → started step label.2 = [] := by
    intro label member other
    have asks := others_ask follows label member other
    obtain ⟨thread, query, answer⟩ := label
    cases query <;> first | rfl | cases asks
  refine done.tasks place program ?_
  rw [own_flatMap _ quiet]
  exact origin

/-- **An item that has settled** has made its calls, and its result is what they come to. -/
theorem settled_item (member : (thread, ⟨.settle result, ()⟩) ∈ log) :
    Settles step result.idx (itemCalls log result.idx) result := by
  have mine : (⟨.settle result, ()⟩ : MapEvent) ∈ own thread log := mem_own.mpr member
  match thread, mine with
  | 0, mine =>
    have run : RunsPartly (stepThread step) (own 0 log) := runs_own follows rfl
    exact absurd rfl (partly_asks stepThread_asks run _ mine result)
  | 1, mine =>
    have run : RunsPartly canceller (own 1 log) := runs_own follows rfl
    have asks : AsksOnly (fun query : MapQuery => query = .cancel) canceller :=
      ⟨rfl, fun _ => trivial⟩
    cases partly_asks asks run _ mine
  | place + 2, mine =>
    have there : place + 2 < last.threads.length := by
      by_contra beyond
      rw [Machine.silent follows (Nat.not_lt.mp beyond)] at mine
      cases mine
    rw [← Machine.origins_length follows] at there
    have origin := List.getElem?_eq_getElem there
    obtain ⟨prompt, task⟩ := origin_task follows origin
    have run : RunsPartly (itemTask step place prompt) (own (place + 2) log) :=
      runs_own follows (task ▸ origin)
    have settles := itemTask_settles run mine
    obtain rfl := settles.idx
    exact settles

end Threads

/-! ### The shared state -/

/-- An item has settled: its join handle has a result. -/
def Shared.hasSettled (shared : Shared) (idx : Nat) : Bool := (shared.settled idx).isSome

section Answered

variable {shared shared' : Shared} {event : MapEvent} {result : ItemResult} {idx : Nat}

theorem answers_progress (answers : Answers shared event shared') :
    shared'.itemProgress = (published? event).or shared.itemProgress := by
  cases answers <;> rfl

theorem answers_tokens (answers : Answers shared event shared') :
    shared'.totalTokens = shared.totalTokens + (recorded? event).getD 0 := by
  cases answers <;> rfl

theorem answers_settled (answers : Answers shared event shared')
    (found : shared'.settled idx = some result) :
    shared.settled idx = some result ∨ (event = ⟨.settle result, ()⟩ ∧ result.idx = idx) := by
  cases answers with
  | settles ended =>
    by_cases same : idx = ended.idx
    · subst same
      have here : Function.update shared.settled ended.idx (some ended) ended.idx = some result :=
        found
      rw [Function.update_self] at here
      cases here
      exact Or.inr ⟨rfl, rfl⟩
    · have here : Function.update shared.settled ended.idx (some ended) idx = some result := found
      rw [Function.update_of_ne same] at here
      exact Or.inl here
  | _ => exact Or.inl found

theorem answers_kept (answers : Answers shared event shared')
    (settled : shared.hasSettled idx = true ∨ ∃ result, event = ⟨.settle result, ()⟩ ∧
      result.idx = idx) : shared'.hasSettled idx = true := by
  cases answers with
  | settles ended =>
    show (Function.update shared.settled ended.idx (some ended) idx).isSome = true
    by_cases same : idx = ended.idx
    · subst same
      rw [Function.update_self]
      rfl
    · rw [Function.update_of_ne same]
      rcases settled with before | ⟨result, impossible, here⟩
      · exact before
      · cases impossible
        exact absurd here.symm same
  | _ =>
    rcases settled with before | ⟨result, impossible, -⟩
    · exact before
    · cases impossible

theorem answers_joined (answers : Answers shared event shared') {handle : Nat}
    (joins : collected? event = some (handle, result)) : shared.settled handle = some result := by
  cases answers with
  | joins target brought found =>
    cases joins
    exact found
  | _ => cases joins

end Answered

/-- **The shared state is what the log says.** -/
structure Reflects (charged : Nat) (log : List MapLabel) (config : MapConfig) : Prop where
  progress : config.shared.itemProgress = (log.filterMap fun label => published? label.2).getLast?
  tokens : config.shared.totalTokens = charged + (log.filterMap fun label => recorded? label.2).sum
  settled : ∀ idx result, config.shared.settled idx = some result →
    result.idx = idx ∧ ∃ thread, (thread, ⟨.settle result, ()⟩) ∈ log
  joined : ∀ handle result, (handle, result) ∈ log.filterMap (fun label => collected? label.2) →
    config.shared.hasSettled handle = true ∧ result.idx = handle ∧
      ∃ thread, (thread, ⟨.settle result, ()⟩) ∈ log

section Reflected

variable {step : MapStep} {charged : Nat} {log : List MapLabel} {config config' last : MapConfig}
  {label : MapLabel}

theorem Reflects.goes_on (reflects : Reflects charged log config)
    (steps : (mapMachine step).Step config label config') :
    Reflects charged (log ++ [label]) config' := by
  cases steps with
  | @act shared shared' threads thread query next answer _ answers =>
    have answers : Answers shared ⟨query, answer⟩ shared' := answers
    refine ⟨?_, ?_, fun idx result found => ?_, fun handle result member => ?_⟩
    · show shared'.itemProgress = _
      rw [answers_progress answers, List.filterMap_append]
      cases read : published? ⟨query, answer⟩ with
      | none => simpa [read] using reflects.progress
      | some progress => simp [read]
    · show shared'.totalTokens = _
      have before : shared.totalTokens = _ := reflects.tokens
      rw [answers_tokens answers, before, List.filterMap_append, List.sum_append]
      cases read : recorded? ⟨query, answer⟩ with
      | none => simp [read]
      | some tokens => simp [read, Nat.add_assoc]
    · rcases answers_settled answers found with before | ⟨same, here⟩
      · obtain ⟨own, thread', member⟩ := reflects.settled idx result before
        exact ⟨own, thread', List.mem_append_left _ member⟩
      · exact ⟨here, thread, by simp [same]⟩
    · rw [List.filterMap_append] at member
      rcases List.mem_append.mp member with member | member
      · obtain ⟨settled, own, thread', member⟩ := reflects.joined handle result member
        exact ⟨answers_kept answers (Or.inl settled), own, thread', List.mem_append_left _ member⟩
      · have joins : collected? ⟨query, answer⟩ = some (handle, result) := by
          simpa using member
        have found : shared.settled handle = some result := answers_joined answers joins
        obtain ⟨own, thread', member⟩ := reflects.settled handle result found
        refine ⟨answers_kept answers (Or.inl ?_), own, thread', List.mem_append_left _ member⟩
        show (shared.settled handle).isSome = true
        rw [found]
        rfl

variable (follows : Follows (mapMachine step).Step (MapConfig.start step charged) log last)

include follows

theorem reflects : Reflects charged log last := by
  have start : Reflects charged [] (MapConfig.start step charged) :=
    ⟨rfl, rfl, fun _ _ impossible => (by cases impossible), fun _ _ member => (by cases member)⟩
  exact follows.preserves_log (Reflects charged) (fun holds steps => holds.goes_on steps) start

/-! ### The accounts -/

theorem read_own {γ : Type} (read : MapEvent → Option γ)
    (silent : ∀ event : MapEvent, event.1.isOther = true → read event = none) :
    (own 0 log).filterMap read = log.filterMap fun label => read label.2 :=
  own_filterMap read fun label member other => silent _ (others_ask follows label member other)

theorem published_own :
    (own 0 log).filterMap published? = log.filterMap fun label => published? label.2 :=
  read_own follows published? fun event asks => by
    obtain ⟨query, answer⟩ := event
    cases query <;> first | rfl | cases asks

theorem collected_own :
    (own 0 log).filterMap collected? = log.filterMap fun label => collected? label.2 :=
  read_own follows collected? fun event asks => by
    obtain ⟨query, answer⟩ := event
    cases query <;> first | rfl | cases asks

theorem recorded_own :
    (own 0 log).filterMap recorded? = log.filterMap fun label => recorded? label.2 :=
  read_own follows recorded? fun event asks => by
    obtain ⟨query, answer⟩ := event
    cases query <;> first | rfl | cases asks

omit follows

theorem mem_collected {results : List ItemResult} {count place : Nat} {result : ItemResult}
    (within : results.length ≤ count) (found : results[place]? = some result) :
    (place, result) ∈ (List.range count).zip results := by
  have bound : place < results.length := (List.getElem?_eq_some_iff.mp found).1
  refine List.mem_of_getElem? (i := place) ?_
  rw [List.getElem?_zip_eq_some]
  exact ⟨List.getElem?_range (Nat.lt_of_lt_of_le bound within), found⟩

theorem map_eq_range {β : Type} {results : List ItemResult} {value : ItemResult → β} {at' : Nat → β}
    (agree : ∀ place result, results[place]? = some result → value result = at' place) :
    results.map value = (List.range results.length).map at' := by
  refine List.ext_getElem (by simp) fun place here _ => ?_
  rw [List.length_map] at here
  simp only [List.getElem_map, List.getElem_range]
  exact agree place _ (List.getElem?_eq_getElem here)

include follows in
theorem completed_run {result : StepResult} (completed : last.threads[0]? = some (.pure (some result))) :
    Runs (dispatch step) (own 0 log) (.ok result) := by
  have origin : ((mapMachine step).origins (MapConfig.start step charged).threads log)[0]? =
      some (stepThread step) := rfl
  obtain ⟨residual, there, runs⟩ := Machine.own_run follows origin
  rw [completed] at there
  cases there
  have whole := runs (.pure _)
  rw [List.append_nil] at whole
  obtain ⟨value, before, after, split, first, final⟩ := runs_bind_ok_iff.mp whole
  obtain ⟨rfl, same⟩ := runs_pure_iff.mp final
  cases same
  rw [List.append_nil] at split
  exact split ▸ first

/-- **A map step accounts for its items.** When it completes, its output has, in the order of the
items, each item's parsed reply, or null where the item failed, and no item failed unless items are
skipped; the tokens are those of every call that returned. At any time its progress counts the tasks
it has collected, but perhaps the last, and these are the tasks of the first items, all settled. -/
theorem map_accounts (step : MapStep) (charged : Nat) {log : List MapLabel} {last : MapConfig}
    (follows : Follows (mapMachine step).Step (MapConfig.start step charged) log last) :
    (∀ output tokens, last.threads[0]? = some (.pure (some (.completed output tokens))) →
      output = .array ((List.range step.items.length).map fun idx =>
        (step.reply? (itemCalls log idx)).getD .null) ∧
      (∀ idx < step.items.length, step.reply? (itemCalls log idx) = none → step.onError = .skip) ∧
      tokens = ((List.range step.items.length).map fun idx =>
        returnedTokens (itemCalls log idx)).sum ∧
      last.shared.totalTokens = charged + tokens) ∧
    ∀ progress, last.shared.itemProgress = some progress →
      progress.counted ≤ collectedCount log ∧ collectedCount log ≤ progress.counted + 1 ∧
        collectedCount log ≤ step.items.length ∧
        ∀ idx < collectedCount log, last.shared.hasSettled idx = true := by
  have state := reflects follows
  constructor
  · intro output tokens completed
    obtain ⟨results, order, length, clean, shape, sum, records⟩ :=
      dispatch_completed (completed_run follows completed)
    have settled : ∀ place result, results[place]? = some result →
        result.idx = place ∧ Settles step place (itemCalls log place) result := by
      intro place result found
      have member := mem_collected (Nat.le_of_eq length) found
      rw [← order, collected_own follows] at member
      obtain ⟨-, same, thread, settles⟩ := state.joined place result member
      have item := settled_item follows settles
      exact ⟨same, same ▸ item⟩
    rw [← length]
    refine ⟨?_, fun idx bound failed => ?_, ?_, ?_⟩
    · rw [shape fun place result found => (settled place result found).1]
      refine congrArg Json.array (map_eq_range fun place result found => ?_)
      rw [(settled place result found).2.outcome]
    · have found := List.getElem?_eq_getElem bound
      refine clean _ (List.mem_of_getElem? found) ?_
      rw [(settled idx _ found).2.outcome, failed]
    · rw [sum]
      refine congrArg List.sum (map_eq_range fun place result found => ?_)
      exact (settled place result found).2.tokens
    · rw [state.tokens, ← recorded_own follows, records, List.sum_singleton]
  · intro progress published
    obtain ⟨results, counted, done⟩ := step_done follows
    have order := done.order
    rw [collected_own follows] at order
    have count : collectedCount log = results.length := by
      rw [collectedCount, order, List.length_zip, List.length_range, Nat.min_eq_right done.within]
    have same : progress.counted = counted := by
      refine done.progress progress ?_
      rw [published_own follows, ← state.progress, published]
    rw [count, same]
    refine ⟨done.behind, done.lag, done.within, fun idx bound => ?_⟩
    refine (state.joined idx results[idx] ?_).1
    rw [order]
    exact mem_collected done.within (List.getElem?_eq_getElem bound)

end Reflected

/-! ### Two items -/

def twoItemStep : MapStep where
  stepId := "map"
  forEach := .ok "[\"a\",\"b\"]"
  rawPrompt := .ok "{{ item }}"
  itemPrompt := fun _ item => .ok (match item with | .string text => text | _ => "")
  fromStr := fun _ => .ok (.array [.string "a", .string "b"])
  outputFormat := .text
  maxParallel := 2
  onError := .skip
  maxRetries := 0
  modelName := "model"
  modelMaxTokens := 100

/-- A thread that asks for a permit finds one. -/
def permitFree (config : MapConfig) (label : MapLabel) : Prop :=
  (match label.2.1 with | .acquire => true | _ => false) = true → 0 < config.shared.permits

instance (config : MapConfig) (label : MapLabel) : Decidable (permitFree config label) :=
  inferInstanceAs (Decidable (_ → _))

/-- The interleaving a schedule makes when every call is answered. -/
def ranTwoItems (schedule : List Nat) : List MapLabel × MapConfig :=
  (mapMachine twoItemStep).execute Shared.answer (MapConfig.start twoItemStep 0) schedule

theorem follows_twoItems (schedule : List Nat)
    (free : (mapMachine twoItemStep).checks Shared.answer permitFree
      (MapConfig.start twoItemStep 0) schedule = true) :
    Follows (mapMachine twoItemStep).Step (MapConfig.start twoItemStep 0) (ranTwoItems schedule).1
      (ranTwoItems schedule).2 := by
  have sound : ∀ (config : MapConfig) (thread : Nat) (query : MapQuery),
      permitFree config (thread, ⟨query, (config.shared.answer query).1⟩) →
      Answers config.shared ⟨query, (config.shared.answer query).1⟩
        (config.shared.answer query).2 := by
    intro config thread query met
    refine config.shared.answers_answer query fun same => ?_
    subst same
    exact met rfl
  exact (Machine.guarded_execute_of sound schedule _ free).mono fun step => step.2

/-- The step spawns both tasks, they run one after the other, and it collects them. -/
def bothCollected : List Nat :=
  List.replicate 3 0 ++ List.replicate 5 2 ++ List.replicate 5 3 ++ List.replicate 8 0

theorem twoItems_accounted : 14 = ((List.range 2).map fun idx =>
      returnedTokens (itemCalls (ranTwoItems bothCollected).1 idx)).sum ∧
    (ranTwoItems bothCollected).2.shared.totalTokens = 0 + 14 := by
  have accounts := (map_accounts twoItemStep 0 (follows_twoItems bothCollected rfl)).1 _ _ rfl
  exact ⟨accounts.2.2.1, accounts.2.2.2⟩

def settledCount (step : MapStep) (shared : Shared) : Nat :=
  (List.range step.items.length).countP shared.hasSettled

/-- The second item's task has run, the first has not begun. -/
def secondSettled : List Nat := List.replicate 3 0 ++ List.replicate 5 3

/-- **An item that settles before an earlier one is not counted.** -/
theorem later_item_uncounted :
    ¬ ∀ (step : MapStep) (charged : Nat) (log : List MapLabel) (last : MapConfig),
      Follows (mapMachine step).Step (MapConfig.start step charged) log last →
      ∀ progress, last.shared.itemProgress = some progress →
        progress.counted = settledCount step last.shared := by
  intro equal
  have one := equal twoItemStep 0 _ _ (follows_twoItems secondSettled rfl) ⟨0, 2, 0, 0, 0⟩ rfl
  exact absurd one (by decide)

end Ziee.Workflow.LlmMap
