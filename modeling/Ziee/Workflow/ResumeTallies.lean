/-
**The tallies across a resume** (`runner.rs`).

What a segment of a run adds to the tallies in memory, and what of it the row keeps.

* `Booked` — the account of a stretch of the step loop: what was spent is saved or lost.
* `parked_tokens_forgotten` — an agent step that calls its model and parks.
-/

import Ziee.Workflow.StepTallies

namespace Ziee.Workflow.Tallies

open PortProgram Ziee.Providers Ziee.Agent

variable {ctx' : RunContext} {before after : List TallyEvent} {event : TallyEvent} {tokens : Nat}
  {id : String}

def tokensSpent : TallyEvent → Nat
  | ⟨.callModel _, .done (tokens, _)⟩ => tokens
  | ⟨.runAgent _, .done events⟩ => foldUsage events
  | _ => 0

def keptSize : WalkEntry → Option Nat
  | .file _ sizeBytes _ => if perFileArtifactCapBytes < sizeBytes then none else some sizeBytes
  | .failed _ => none

def artifactBytes (entries : List WalkEntry) : Nat := (entries.filterMap keptSize).sum

def bytesWritten : TallyEvent → Nat
  | ⟨.writeMock _, .ok sizeBytes⟩ => sizeBytes
  | ⟨.callModel _, .done (_, sizeBytes)⟩ => sizeBytes
  | ⟨.execute _, .done sizeBytes⟩ => sizeBytes
  | ⟨.elicit _, .done (some sizeBytes)⟩ => sizeBytes
  | ⟨.writeStepOutput _, .ok sizeBytes⟩ => sizeBytes
  | ⟨.walkArtifacts _, entries⟩ => artifactBytes entries
  | _ => 0

def tokensSaved : TallyEvent → Nat
  | ⟨.persistStepMeta _ _ tokensDelta, .ok ()⟩ => min tokensDelta i64Max
  | _ => 0

def bytesSaved : TallyEvent → Nat
  | ⟨.persistStepMeta _ info _, .ok ()⟩ => info.sizeBytes
  | _ => 0

def tokensLost : TallyEvent → Nat
  | ⟨.persistStepMeta _ _ tokensDelta, .error _⟩ => tokensDelta
  | ⟨.runAgent _, .done events⟩ => if events.any isGateOpened then foldUsage events else 0
  | _ => 0

def bytesLost : TallyEvent → Nat
  | ⟨.persistStepMeta _ info _, .error _⟩ => info.sizeBytes
  | ⟨.walkArtifacts _, entries⟩ => artifactBytes entries
  | _ => 0

def total (count : TallyEvent → Nat) (trace : List TallyEvent) : Nat := (trace.map count).sum

@[simp] theorem total_nil (count : TallyEvent → Nat) : total count [] = 0 := rfl

@[simp] theorem total_cons (count : TallyEvent → Nat) (event : TallyEvent)
    (trace : List TallyEvent) : total count (event :: trace) = count event + total count trace :=
  List.sum_cons

@[simp] theorem total_append (count : TallyEvent → Nat) (before after : List TallyEvent) :
    total count (before ++ after) = total count before + total count after := by
  rw [total, List.map_append, List.sum_append, total, total]

theorem total_eq_zero_iff {count : TallyEvent → Nat} {trace : List TallyEvent} :
    total count trace = 0 ↔ ∀ event ∈ trace, count event = 0 := by
  induction trace with
  | nil => simp
  | cons event trace ih => rw [total_cons, Nat.add_eq_zero_iff, ih, List.forall_mem_cons]

/-- **An event has its counterpart in the row**: an open gate has spent no tokens, a walk has
collected no bytes, a meta that failed to persist held none of either. -/
def HasCounterpart : TallyEvent → Prop
  | ⟨.persistStepMeta _ info tokensDelta, .error _⟩ => tokensDelta = 0 ∧ info.sizeBytes = 0
  | ⟨.runAgent _, .done events⟩ => events.any isGateOpened = true → foldUsage events = 0
  | ⟨.walkArtifacts _, entries⟩ => artifactBytes entries = 0
  | _ => True

theorem hasCounterpart_iff (event : TallyEvent) :
    HasCounterpart event ↔ tokensLost event = 0 ∧ bytesLost event = 0 := by
  obtain ⟨query, answer⟩ := event
  cases query with
  | persistStepMeta stepId info tokensDelta =>
    cases answer with
    | ok => exact iff_of_true trivial ⟨rfl, rfl⟩
    | error => exact Iff.rfl
  | runAgent step =>
    cases answer with
    | done events =>
      show (events.any isGateOpened = true → foldUsage events = 0) ↔
        (if events.any isGateOpened then foldUsage events else 0) = 0 ∧ 0 = 0
      by_cases opened : events.any isGateOpened = true <;> simp [opened]
    | _ => exact iff_of_true trivial ⟨rfl, rfl⟩
  | walkArtifacts step => exact (and_iff_right rfl).symm
  | _ => exact iff_of_true trivial ⟨rfl, rfl⟩

theorem counterparts_iff {trace : List TallyEvent} : (∀ event ∈ trace, HasCounterpart event) ↔
      total tokensLost trace = 0 ∧ total bytesLost trace = 0 := by
  simp only [total_eq_zero_iff, hasCounterpart_iff]
  exact forall₂_and

/-! ### The account of a stretch of the loop -/

theorem saturatingAdd_zero {first : Nat} (fits : first ≤ u64Max) : saturatingAdd first 0 = first :=
  Nat.min_eq_left fits

theorem saturatingAdd_assoc (first second third : Nat) :
    saturatingAdd (saturatingAdd first second) third = saturatingAdd first (second + third) := by
  unfold saturatingAdd
  omega

theorem saturatingAdd_le (first second : Nat) : saturatingAdd first second ≤ u64Max :=
  Nat.min_le_right _ _

/-- **The account of a trace**: what it adds to the tallies in memory, and that all of it is saved
or lost. -/
structure Booked (ctx ctx' : RunContext) (trace : List TallyEvent) : Prop where
  tokens : ctx'.totalTokens = ctx.totalTokens + total tokensSpent trace
  bytes : ctx'.totalOutputBytes = saturatingAdd ctx.totalOutputBytes (total bytesWritten trace)
  tokensKept : total tokensSpent trace = total tokensSaved trace + total tokensLost trace
  bytesKept : total bytesWritten trace = total bytesSaved trace + total bytesLost trace

theorem Booked.append {ctx ctx'' : RunContext}
    (first : Booked ctx ctx' before) (second : Booked ctx' ctx'' after) :
    Booked ctx ctx'' (before ++ after) := by
  constructor
  · rw [second.tokens, first.tokens, total_append, Nat.add_assoc]
  · rw [second.bytes, first.bytes, saturatingAdd_assoc, total_append]
  · simp only [total_append, first.tokensKept, second.tokensKept]
    omega
  · simp only [total_append, first.bytesKept, second.bytesKept]
    omega

/-- An event that is no part of the account. -/
structure Idle (event : TallyEvent) : Prop where
  spent : tokensSpent event = 0
  written : bytesWritten event = 0
  saved : tokensSaved event = 0 ∧ bytesSaved event = 0
  lost : tokensLost event = 0 ∧ bytesLost event = 0

theorem Booked.cons {ctx : RunContext} {trace : List TallyEvent}
    (idle : Idle event) (rest : Booked ctx ctx' trace) : Booked ctx ctx' (event :: trace) := by
  obtain ⟨spent, written, saved, lost⟩ := idle
  constructor
  · rw [rest.tokens, total_cons, spent, Nat.zero_add]
  · rw [rest.bytes, total_cons, written, Nat.zero_add]
  · simp only [total_cons, spent, saved.1, lost.1, rest.tokensKept]
    omega
  · simp only [total_cons, written, saved.2, lost.2, rest.bytesKept]
    omega

/-! ### The dispatch -/

def persistedId : TallyEvent → Option String
  | ⟨.persistStepMeta stepId _ _, _⟩ => some stepId
  | _ => none

def persistedIds (trace : List TallyEvent) : List String := trace.filterMap persistedId

theorem persistedIds_append (before after : List TallyEvent) :
    persistedIds (before ++ after) = persistedIds before ++ persistedIds after :=
  List.filterMap_append

/-- **The account of a dispatch**, which saves nothing itself. -/
structure Worked (tokens sizeBytes lost : Nat) (trace : List TallyEvent) : Prop where
  spent : total tokensSpent trace = tokens
  written : total bytesWritten trace = sizeBytes
  saved : total tokensSaved trace = 0 ∧ total bytesSaved trace = 0
  lost : total tokensLost trace = lost ∧ total bytesLost trace = 0
  persisted : persistedIds trace = []

def Dispatched (ctx : RunContext) (step : StepDef) (trace : List TallyEvent) :
    StepResult × RunContext → Prop
  | (.completed tokens, ctx') => ∃ sizeBytes,
      ctx' = ctx.wrote step sizeBytes tokens ∧ Worked tokens sizeBytes 0 trace
  | (.suspended, ctx') => ∃ tokens, ctx' = ctx.spent tokens ∧ Worked tokens 0 tokens trace
  | _ => True

section Dispatch

variable {ctx : RunContext} {step : StepDef} {trace : List TallyEvent}
  {result : StepResult × RunContext}

theorem dispatched_at_once {value : StepResult × RunContext}
    (rest : Runs (pure value : TallyM _) trace (.ok result))
    (account : Dispatched ctx step [event] value) :
    Dispatched ctx step (event :: trace) result := by
  obtain ⟨rfl, same⟩ := runs_pure_iff.mp rest
  cases same
  exact account

theorem runMockStep_dispatched (run : Runs (runMockStep ctx step) trace (.ok result)) :
    Dispatched ctx step trace result := by
  obtain ⟨written, tail, rfl, rest⟩ := runs_perform_bind_iff.mp run
  cases written with
  | error error => exact dispatched_at_once rest trivial
  | ok sizeBytes =>
    exact dispatched_at_once rest ⟨sizeBytes, rfl, rfl, rfl, ⟨rfl, rfl⟩, ⟨rfl, rfl⟩, rfl⟩

theorem dispatchModel_dispatched (run : Runs (dispatchModel ctx step) trace (.ok result)) :
    Dispatched ctx step trace result := by
  obtain ⟨worked, tail, rfl, rest⟩ := runs_perform_bind_iff.mp run
  cases worked with
  | done used =>
    obtain ⟨tokens, sizeBytes⟩ := used
    exact dispatched_at_once rest ⟨sizeBytes, rfl, rfl, rfl, ⟨rfl, rfl⟩, ⟨rfl, rfl⟩, rfl⟩
  | _ => exact dispatched_at_once rest trivial

theorem dispatchExecution_dispatched (run : Runs (dispatchExecution ctx step) trace (.ok result)) :
    Dispatched ctx step trace result := by
  obtain ⟨worked, tail, rfl, rest⟩ := runs_perform_bind_iff.mp run
  cases worked with
  | done sizeBytes =>
    exact dispatched_at_once rest ⟨sizeBytes, rfl, rfl, rfl, ⟨rfl, rfl⟩, ⟨rfl, rfl⟩, rfl⟩
  | _ => exact dispatched_at_once rest trivial

theorem dispatchElicit_dispatched (run : Runs (dispatchElicit ctx step) trace (.ok result)) :
    Dispatched ctx step trace result := by
  obtain ⟨worked, tail, rfl, rest⟩ := runs_perform_bind_iff.mp run
  cases worked with
  | done response =>
    cases response with
    | none => exact dispatched_at_once rest ⟨0, rfl, rfl, rfl, ⟨rfl, rfl⟩, ⟨rfl, rfl⟩, rfl⟩
    | some sizeBytes =>
      exact dispatched_at_once rest ⟨sizeBytes, rfl, rfl, rfl, ⟨rfl, rfl⟩, ⟨rfl, rfl⟩, rfl⟩
  | _ => exact dispatched_at_once rest trivial

theorem dispatchAgent_dispatched (run : Runs (dispatchAgent ctx step) trace (.ok result)) :
    Dispatched ctx step trace result := by
  obtain ⟨ran, tail, rfl, rest⟩ := runs_perform_bind_iff.mp run
  cases ran with
  | done events =>
    dsimp only at rest
    split at rest
    · rename_i opened
      exact dispatched_at_once rest
        ⟨foldUsage events, rfl, rfl, rfl, ⟨rfl, rfl⟩, ⟨if_pos opened, rfl⟩, rfl⟩
    · rename_i closed
      split at rest
      · exact dispatched_at_once rest trivial
      · obtain ⟨written, tail, rfl, wrote⟩ := runs_perform_bind_iff.mp rest
        cases written with
        | error error =>
          obtain ⟨rfl, same⟩ := runs_pure_iff.mp wrote
          cases same
          trivial
        | ok sizeBytes =>
          obtain ⟨rfl, same⟩ := runs_pure_iff.mp wrote
          cases same
          refine ⟨sizeBytes, rfl, rfl, Nat.zero_add _, ⟨rfl, rfl⟩, ⟨?_, rfl⟩, rfl⟩
          exact if_neg closed
  | _ => exact dispatched_at_once rest trivial

theorem dispatch_dispatched (run : Runs (dispatch ctx step) trace (.ok result)) :
    Dispatched ctx step trace result := by
  unfold dispatch at run
  split at run
  · exact runMockStep_dispatched run
  · split at run
    · exact dispatchModel_dispatched run
    · exact dispatchModel_dispatched run
    · exact dispatchExecution_dispatched run
    · exact dispatchExecution_dispatched run
    · exact dispatchElicit_dispatched run
    · exact dispatchAgent_dispatched run

end Dispatch

/-! ### A completed step -/

theorem collectStepArtifacts_ok {running : Nat} {entries : List WalkEntry} {sizes : List Nat}
    (collected : collectStepArtifacts running entries = .ok sizes) :
    sizes = entries.filterMap keptSize := by
  induction entries generalizing running sizes with
  | nil =>
    cases collected
    rfl
  | cons entry rest ih =>
    cases entry with
    | failed error => cases collected
    | file filename sizeBytes read =>
      unfold collectStepArtifacts at collected
      by_cases oversize : perFileArtifactCapBytes < sizeBytes
      · rw [if_pos oversize] at collected
        have skipped : keptSize (.file filename sizeBytes read) = none := if_pos oversize
        rw [List.filterMap_cons_none skipped]
        exact ih collected
      · rw [if_neg oversize] at collected
        have kept : keptSize (.file filename sizeBytes read) = some sizeBytes := if_neg oversize
        rw [List.filterMap_cons_some kept]
        split at collected
        · cases collected
        · split at collected
          · cases collected
          · split at collected
            · cases collected
            · rename_i later
              cases collected
              rw [ih later]

theorem tallyArtifacts_ok {ctx : RunContext} {step : StepDef} {trace : List TallyEvent}
    (fits : ctx.totalOutputBytes ≤ u64Max)
    (run : Runs (tallyArtifacts ctx step) trace (.ok (.ok ctx'))) : ∃ sizeBytes,
      ctx' = { ctx with totalOutputBytes := saturatingAdd ctx.totalOutputBytes sizeBytes } ∧
      total tokensSpent trace = 0 ∧ total bytesWritten trace = sizeBytes ∧
      (total tokensSaved trace = 0 ∧ total bytesSaved trace = 0) ∧
      (total tokensLost trace = 0 ∧ total bytesLost trace = sizeBytes) ∧
      persistedIds trace = [] := by
  unfold tallyArtifacts at run
  split at run
  · obtain ⟨entries, tail, rfl, rest⟩ := runs_perform_bind_iff.mp run
    cases collected : collectStepArtifacts ctx.totalOutputBytes entries with
    | error error =>
      rw [collected] at rest
      obtain ⟨-, impossible⟩ := runs_pure_iff.mp rest
      cases impossible
    | ok sizes =>
      rw [collected] at rest
      have kept : artifactBytes entries = sizes.sum := by
        rw [artifactBytes, ← collectStepArtifacts_ok collected]
      dsimp only at rest
      split at rest
      · rename_i none
        obtain ⟨rfl, same⟩ := runs_pure_iff.mp rest
        cases same
        rw [List.isEmpty_iff.mp none] at kept
        refine ⟨0, ?_, rfl, kept, ⟨rfl, rfl⟩, ⟨rfl, kept⟩, rfl⟩
        rw [saturatingAdd_zero fits]
      · obtain ⟨answer, tail, rfl, last⟩ := runs_perform_bind_iff.mp rest
        obtain ⟨rfl, same⟩ := runs_pure_iff.mp last
        cases same
        exact ⟨sizes.sum, rfl, rfl, kept, ⟨rfl, rfl⟩, ⟨rfl, kept⟩, rfl⟩
  · obtain ⟨rfl, same⟩ := runs_pure_iff.mp run
    cases same
    refine ⟨0, ?_, rfl, rfl, ⟨rfl, rfl⟩, ⟨rfl, rfl⟩, rfl⟩
    rw [saturatingAdd_zero fits]

theorem checkStepCaps_ok {stepId : String} {stepTokens runTokens runBytes : Nat}
    (within : checkStepCaps stepId stepTokens runTokens runBytes = .ok ()) :
    stepTokens ≤ perStepTokenCap ∧ runTokens ≤ perRunTokenCap ∧
      runBytes ≤ perRunOutputArtifactCapBytes := by
  unfold checkStepCaps at within
  split at within
  · cases within
  · split at within
    · cases within
    · split at within
      · cases within
      · exact ⟨by omega, by omega, by omega⟩

theorem persisted_kept (stepId : String) (info : OutputMeta)
    (fits : tokens ≤ i64Max) (answer : Except AppError Unit) :
    tokensSaved ⟨.persistStepMeta stepId info tokens, answer⟩ +
        tokensLost ⟨.persistStepMeta stepId info tokens, answer⟩ = tokens ∧
      bytesSaved ⟨.persistStepMeta stepId info tokens, answer⟩ +
        bytesLost ⟨.persistStepMeta stepId info tokens, answer⟩ = info.sizeBytes := by
  cases answer with
  | ok => exact ⟨Nat.min_eq_left fits, rfl⟩
  | error => exact ⟨Nat.zero_add _, Nat.zero_add _⟩

structure WithinCaps (ctx : RunContext) : Prop where
  tokens : ctx.totalTokens ≤ perRunTokenCap
  bytes : ctx.totalOutputBytes ≤ perRunOutputArtifactCapBytes

/-- **A step that has written its output is completed**: what it has spent and written is
persisted, or lost with the persisting, and the artifacts are lost. -/
theorem completeStep_ok {ctx : RunContext} {step : StepDef} {sizeBytes : Nat}
    {trace : List TallyEvent}
    (run : Runs (completeStep (ctx.wrote step sizeBytes tokens) step tokens) trace
      (.ok (.ok ctx'))) :
    (ctx'.totalTokens = ctx.totalTokens + tokens ∧ ctx'.totalOutputBytes =
        saturatingAdd ctx.totalOutputBytes (sizeBytes + total bytesWritten trace) ∧
      ctx'.stepOutputs = ctx.stepOutputs.insert step.id ⟨sizeBytes⟩) ∧
    total tokensSpent trace = 0 ∧
    total tokensSaved trace + total tokensLost trace = tokens ∧
    total bytesSaved trace + total bytesLost trace = sizeBytes + total bytesWritten trace ∧
    persistedIds trace = [step.id] ∧ WithinCaps ctx' := by
  unfold completeStep tallyOutput at run
  rw [show (ctx.wrote step sizeBytes tokens).stepOutputs.lookup step.id = some ⟨sizeBytes⟩ from
    AList.lookup_insert _] at run
  obtain ⟨tallied, before, after, rfl, first, rest⟩ := runs_bind_ok_iff.mp run
  obtain ⟨answer, tail, rfl, ends⟩ := runs_perform_bind_iff.mp first
  obtain ⟨rfl, same⟩ := runs_pure_iff.mp ends
  cases same
  obtain ⟨artifacts, middle, last, rfl, second, checked⟩ := runs_bind_ok_iff.mp rest
  cases artifacts with
  | error error =>
    obtain ⟨-, impossible⟩ := runs_pure_iff.mp checked
    cases impossible
  | ok tallied =>
    obtain ⟨bytes, rfl, spent, written, saved, lost, persisted⟩ :=
      tallyArtifacts_ok (saturatingAdd_le _ _) second
    dsimp only at checked
    split at checked
    · obtain ⟨-, impossible⟩ := runs_pure_iff.mp checked
      cases impossible
    · rename_i within
      obtain ⟨rfl, same⟩ := runs_pure_iff.mp checked
      cases same
      obtain ⟨perStep, perRun, perBytes⟩ := checkStepCaps_ok within
      have fits : tokens ≤ i64Max := Nat.le_trans perStep (by decide)
      obtain ⟨keptTokens, keptBytes⟩ := persisted_kept step.id ⟨sizeBytes⟩ fits answer
      have writes : total bytesWritten
          ([⟨.persistStepMeta step.id ⟨sizeBytes⟩ tokens, answer⟩] ++ (middle ++ [])) = bytes := by
        rw [List.append_nil, total_append, written]
        exact Nat.zero_add _
      refine ⟨⟨rfl, ?_, rfl⟩, ?_, ?_, ?_, ?_, ⟨perRun, perBytes⟩⟩
      · rw [writes]
        exact saturatingAdd_assoc _ _ _
      · rw [List.append_nil, total_append, spent]
        rfl
      · rw [List.append_nil, total_append, total_append, saved.1, lost.1]
        exact keptTokens
      · rw [writes, List.append_nil, total_append, total_append, saved.2, lost.2]
        simp only [total_cons, total_nil]
        dsimp only at keptBytes
        omega
      · rw [List.append_nil, persistedIds_append, persisted]
        rfl

theorem completeStep_error {ctx : RunContext} {step : StepDef}
    {trace : List TallyEvent} {outcome : RunInnerOutcome}
    (run : Runs (completeStep ctx step tokens) trace (.ok (.error outcome))) :
    ∃ error, outcome = .failed error (some step.id) := by
  obtain ⟨tallied, before, after, rfl, -, rest⟩ := runs_bind_ok_iff.mp run
  obtain ⟨artifacts, middle, last, rfl, -, checked⟩ := runs_bind_ok_iff.mp rest
  cases artifacts with
  | error error =>
    obtain ⟨-, same⟩ := runs_pure_iff.mp checked
    cases same
    exact ⟨error, rfl⟩
  | ok tallied =>
    dsimp only at checked
    split at checked
    · rename_i reason _
      obtain ⟨-, same⟩ := runs_pure_iff.mp checked
      cases same
      exact ⟨reason, rfl⟩
    · obtain ⟨-, impossible⟩ := runs_pure_iff.mp checked
      cases impossible

/-! ### The loop -/

/-- **What one step of the loop does**, from its dispatch to the caps. -/
theorem step_booked {ctx worked : RunContext} {step : StepDef}
    (dispatched : Dispatched ctx step before (.completed tokens, worked))
    (completed : Runs (completeStep worked step tokens) after (.ok (.ok ctx'))) :
    Booked ctx ctx' (before ++ after) ∧ WithinCaps ctx' ∧
      persistedIds (before ++ after) = [step.id] ∧
      ∃ info, ctx'.stepOutputs = ctx.stepOutputs.insert step.id info := by
  obtain ⟨sizeBytes, rfl, spent, written, saved, lost, none⟩ := dispatched
  obtain ⟨⟨runTokens, runBytes, outputs⟩, nothing, keptTokens, keptBytes, persisted, within⟩ :=
    completeStep_ok completed
  refine ⟨⟨?_, ?_, ?_, ?_⟩, within, ?_, _, outputs⟩
  · rw [runTokens, total_append, spent, nothing, Nat.add_zero]
  · rw [runBytes, total_append, written]
  · simp only [total_append, spent, nothing, saved.1, lost.1]
    omega
  · simp only [total_append, written, saved.2, lost.2]
    omega
  · rw [persistedIds_append, none, persisted]
    rfl

theorem idle_isCancelled (answer : Bool) : Idle ⟨.isCancelled, answer⟩ :=
  ⟨rfl, rfl, ⟨rfl, rfl⟩, ⟨rfl, rfl⟩⟩

theorem cancelledInDatabase_runs {trace : List TallyEvent} {flipped : Bool}
    (run : Runs cancelledInDatabase trace (.ok flipped)) :
    ∃ event, trace = [event] ∧ Idle event ∧ persistedId event = none := by
  obtain ⟨found, tail, rfl, rest⟩ := runs_perform_bind_iff.mp run
  refine ⟨⟨.findRun, found⟩, ?_, ⟨rfl, rfl, ⟨rfl, rfl⟩, ⟨rfl, rfl⟩⟩, rfl⟩
  split at rest
  · obtain ⟨rfl, -⟩ := runs_pure_iff.mp rest
    rfl
  · obtain ⟨rfl, -⟩ := runs_pure_iff.mp rest
    rfl

/-- **The account of a parked segment.** -/
structure Parked (ctx ctx' : RunContext) (trace : List TallyEvent) : Prop where
  booked : Booked ctx ctx' trace
  /-- Where something has been written, the caps have passed. -/
  bytes : total bytesWritten trace = 0 ∨ ctx'.totalOutputBytes ≤ perRunOutputArtifactCapBytes
  /-- What has passed the caps, and what the open gate has spent. -/
  tokens : ctx.totalTokens ≤ perRunTokenCap →
    ctx'.totalTokens ≤ perRunTokenCap + total tokensLost trace

theorem Parked.cons {ctx : RunContext} {trace : List TallyEvent}
    (idle : Idle event) (rest : Parked ctx ctx' trace) : Parked ctx ctx' (event :: trace) := by
  obtain ⟨booked, bytes, tokens⟩ := rest
  refine ⟨booked.cons idle, ?_, ?_⟩
  · rwa [total_cons, idle.written, Nat.zero_add]
  · rwa [total_cons, idle.lost.1, Nat.zero_add]

theorem Parked.prepend {ctx middle : RunContext}
    (first : Booked ctx middle before) (within : WithinCaps middle)
    (rest : Parked middle ctx' after) : Parked ctx ctx' (before ++ after) := by
  obtain ⟨booked, bytes, tokens⟩ := rest
  refine ⟨first.append booked, Or.inr ?_, fun _ => ?_⟩
  · rcases bytes with nothing | capped
    · rw [booked.bytes, nothing]
      exact Nat.le_trans (Nat.min_le_left _ _) within.bytes
    · exact capped
  · have bound := tokens within.tokens
    rw [total_append]
    omega

theorem Worked.parked {ctx : RunContext} {trace : List TallyEvent}
    (worked : Worked tokens 0 tokens trace) (fits : ctx.totalOutputBytes ≤ u64Max) :
    Parked ctx (ctx.spent tokens) trace := by
  obtain ⟨spent, written, saved, lost, -⟩ := worked
  refine ⟨⟨?_, ?_, ?_, ?_⟩, Or.inl written, fun bound => ?_⟩
  · rw [spent]
    rfl
  · rw [written, saturatingAdd_zero fits]
    rfl
  · rw [spent, saved.1, lost.1, Nat.zero_add]
  · rw [written, saved.2, lost.2]
  · rw [lost.1]
    exact Nat.add_le_add_right bound tokens

theorem capBytes_lt_u64Max : perRunOutputArtifactCapBytes < u64Max := by decide

theorem runSteps_parked {isResume : Bool} {steps : List StepDef} {ctx : RunContext}
    {trace : List TallyEvent} {atStep : String} (fits : ctx.totalOutputBytes ≤ u64Max)
    (run : Runs (runSteps isResume steps ctx) trace (.ok (.suspended atStep, ctx'))) :
    Parked ctx ctx' trace ∧ (persistedIds trace).Sublist (steps.map (·.id)) ∧
      ∀ id ∈ persistedIds trace, isResume = true → id ∉ ctx.stepOutputs := by
  induction steps generalizing ctx trace with
  | nil =>
    obtain ⟨resolved, tail, rfl, rest⟩ := runs_perform_bind_iff.mp run
    cases resolved with
    | _ =>
      obtain ⟨-, impossible⟩ := runs_pure_iff.mp rest
      cases impossible
  | cons step rest ih =>
    obtain ⟨cancelled, tail, rfl, more⟩ := runs_perform_bind_iff.mp run
    split at more
    · obtain ⟨-, impossible⟩ := runs_pure_iff.mp more
      cases impossible
    split at more
    · obtain ⟨parked, sub, fresh⟩ := ih fits more
      exact ⟨parked.cons (idle_isCancelled _), sub.cons _, fresh⟩
    rename_i dispatches
    obtain ⟨⟨result, worked⟩, before, after, rfl, first, second⟩ := runs_bind_ok_iff.mp more
    have dispatched := dispatch_dispatched first
    cases result with
    | failed error =>
      obtain ⟨-, impossible⟩ := runs_pure_iff.mp second
      cases impossible
    | cancelled =>
      obtain ⟨-, impossible⟩ := runs_pure_iff.mp second
      cases impossible
    | suspended =>
      obtain ⟨rfl, same⟩ := runs_pure_iff.mp second
      cases same
      obtain ⟨tokens, rfl, gate⟩ := dispatched
      have none : persistedIds (⟨.isCancelled, cancelled⟩ :: (before ++ [])) = [] := by
        rw [List.append_nil]
        exact gate.persisted
      rw [none, List.append_nil]
      exact ⟨(gate.parked fits).cons (idle_isCancelled _), List.nil_sublist _, by simp⟩
    | completed tokens =>
      obtain ⟨completed, middle, last, rfl, third, continues⟩ := runs_bind_ok_iff.mp second
      cases completed with
      | error outcome =>
        obtain ⟨error, rfl⟩ := completeStep_error third
        obtain ⟨-, impossible⟩ := runs_pure_iff.mp continues
        cases impossible
      | ok advanced =>
        obtain ⟨booked, within, persisted, info, outputs⟩ := step_booked dispatched third
        obtain ⟨flipped, looks, later, rfl, fourth, follows⟩ := runs_bind_ok_iff.mp continues
        obtain ⟨event, rfl, idle, silent⟩ := cancelledInDatabase_runs fourth
        split at follows
        · obtain ⟨-, impossible⟩ := runs_pure_iff.mp follows
          cases impossible
        obtain ⟨parked, sub, fresh⟩ :=
          ih (Nat.le_trans within.bytes (Nat.le_of_lt capBytes_lt_u64Max)) follows
        have ids : persistedIds (⟨.isCancelled, cancelled⟩ ::
          (before ++ (middle ++ ([event] ++ later)))) = step.id :: persistedIds later := by
          rw [← List.append_assoc]
          show persistedIds (before ++ middle ++ _) = _
          rw [persistedIds_append, persisted]
          show step.id :: persistedIds (event :: later) = _
          rw [persistedIds, List.filterMap_cons_none silent, persistedIds]
        refine ⟨?_, ?_, ?_⟩
        · rw [← List.append_assoc]
          exact ((parked.cons idle).prepend booked within).cons (idle_isCancelled _)
        · rw [ids]
          exact sub.cons_cons _
        · rw [ids]
          rintro id member resumed present
          rcases List.mem_cons.mp member with rfl | later
          · rw [resumed, AList.lookup_isSome.mpr present] at dispatches
            exact dispatches rfl
          · refine fresh id later resumed ?_
            rw [outputs]
            exact (AList.mem_insert _).mpr (Or.inr present)

/-! ### The row after a segment -/

theorem record_totalTokens (row : RunRow) (event : TallyEvent) :
    (row.record event).totalTokens = row.totalTokens + tokensSaved event := by
  obtain ⟨query, answer⟩ := event
  cases query with
  | persistStepMeta stepId info tokensDelta =>
    cases answer with
    | ok => rfl
    | error => exact (Int.add_zero _).symm
  | _ => exact (Int.add_zero _).symm

theorem rowAfter_totalTokens (row : RunRow) (trace : List TallyEvent) :
    (rowAfter row trace).totalTokens = row.totalTokens + total tokensSaved trace := by
  induction trace generalizing row with
  | nil => exact (Int.add_zero _).symm
  | cons event trace ih =>
    show (rowAfter (row.record event) trace).totalTokens = _
    rw [ih, record_totalTokens, total_cons, Int.natCast_add, Int.add_assoc]

theorem outputBytes_insert {outputs : StepOutputs} {stepId : String} {info : OutputMeta}
    (fresh : stepId ∉ outputs) :
    outputBytes (outputs.insert stepId info) = outputBytes outputs + info.sizeBytes := by
  rw [outputBytes, AList.entries_insert_of_notMem fresh, List.map_cons, List.sum_cons, Nat.add_comm]
  rfl

theorem mem_record {row : RunRow} (member : id ∈ (row.record event).stepOutputs) :
    id ∈ row.stepOutputs ∨ persistedId event = some id := by
  obtain ⟨query, answer⟩ := event
  cases query with
  | persistStepMeta stepId info tokensDelta =>
    cases answer with
    | ok =>
      rcases (AList.mem_insert _).mp member with rfl | before
      · exact Or.inr rfl
      · exact Or.inl before
    | error => exact Or.inl member
  | _ => exact Or.inl member

theorem record_outputBytes {row : RunRow}
    (fresh : ∀ id, persistedId event = some id → id ∉ row.stepOutputs) :
    outputBytes (row.record event).stepOutputs =
      outputBytes row.stepOutputs + bytesSaved event := by
  obtain ⟨query, answer⟩ := event
  cases query with
  | persistStepMeta stepId info tokensDelta =>
    cases answer with
    | ok => exact outputBytes_insert (fresh stepId rfl)
    | error => rfl
  | _ => rfl

/-- **The row keeps the sizes**, where no meta replaces another. -/
theorem rowAfter_outputBytes {row : RunRow} {trace : List TallyEvent}
    (distinct : (persistedIds trace).Nodup)
    (fresh : ∀ id ∈ persistedIds trace, id ∉ row.stepOutputs) :
    outputBytes (rowAfter row trace).stepOutputs =
      outputBytes row.stepOutputs + total bytesSaved trace := by
  induction trace generalizing row with
  | nil => rfl
  | cons event trace ih =>
    have split : persistedIds (event :: trace) =
        (persistedId event).toList ++ persistedIds trace := by
      cases named : persistedId event with
      | none => exact List.filterMap_cons_none named
      | some id => exact List.filterMap_cons_some named
    rw [split] at distinct fresh
    have here : ∀ id, persistedId event = some id → id ∉ row.stepOutputs := fun id named =>
      fresh id (List.mem_append_left _ (named ▸ List.mem_singleton.mpr rfl))
    show outputBytes (rowAfter (row.record event) trace).stepOutputs = _
    rw [ih (List.nodup_append.mp distinct).2.1 ?_, record_outputBytes here, total_cons,
      Nat.add_assoc]
    intro id member present
    rcases mem_record present with before | named
    · exact fresh id (List.mem_append_right _ member) before
    · exact (List.nodup_append.mp distinct).2.2 id
        (named ▸ List.mem_singleton.mpr rfl) id member rfl

/-! ### What comes back -/

theorem foldl_restore_bytes (outputs : List (Sigma fun _ : String => OutputMeta))
    {ctx : RunContext} (fits : ctx.totalOutputBytes ≤ u64Max) :
    (outputs.foldl RunContext.restore ctx).totalOutputBytes =
      saturatingAdd ctx.totalOutputBytes (outputs.map (·.2.sizeBytes)).sum := by
  induction outputs generalizing ctx with
  | nil => exact (saturatingAdd_zero fits).symm
  | cons output outputs ih =>
    rw [List.foldl_cons, ih (saturatingAdd_le _ _), List.map_cons, List.sum_cons]
    exact saturatingAdd_assoc _ _ _

theorem mem_foldl_restore {outputs : List (Sigma fun _ : String => OutputMeta)} {ctx : RunContext}
    (member : id ∈ ctx.stepOutputs ∨ id ∈ outputs.map (·.1)) :
    id ∈ (outputs.foldl RunContext.restore ctx).stepOutputs := by
  induction outputs generalizing ctx with
  | nil => simpa using member
  | cons output outputs ih =>
    refine ih ?_
    rcases member with present | listed
    · exact Or.inl ((AList.mem_insert _).mpr (Or.inr present))
    · rcases List.mem_cons.mp listed with rfl | later
      · exact Or.inl ((AList.mem_insert _).mpr (Or.inl rfl))
      · exact Or.inr later

section Resumed

variable (setup : RunSetup) (row : RunRow)

theorem resumed_inserted : setup.resumed .inserted = setup.preflight := rfl

theorem resumed_totalTokens : (setup.resumed row).totalTokens = row.totalTokens.toNat := rfl

theorem resumed_totalOutputBytes :
    (setup.resumed row).totalOutputBytes = min (outputBytes row.stepOutputs) u64Max := by
  have fits : setup.preflight.totalOutputBytes ≤ u64Max := Nat.zero_le _
  have restored := foldl_restore_bytes row.stepOutputs.entries fits
  rw [saturatingAdd, show setup.preflight.totalOutputBytes = 0 from rfl, Nat.zero_add] at restored
  exact restored

variable {setup row} in
theorem mem_resumed (persisted : id ∈ row.stepOutputs) : id ∈ (setup.resumed row).stepOutputs :=
  mem_foldl_restore (Or.inr persisted)

end Resumed

/-! ### The segments of a run -/

/-- A stretch of the run in one process. -/
structure Segment where
  setup : RunSetup
  trace : List TallyEvent
  /-- The context it parked with; a crash leaves none. -/
  parked : Option RunContext

inductive SegmentStep (row : RunRow) : Segment → RunRow → Prop
  | parks (setup : RunSetup) (trace : List TallyEvent) (atStep : String) (ctx : RunContext) :
      Runs (runInner setup.order (setup.resumed row)) trace (.ok (.suspended atStep, ctx)) →
      SegmentStep row ⟨setup, trace, some ctx⟩ (rowAfter row trace)
  | crashes (setup : RunSetup) (trace : List TallyEvent) :
      RunsPartly (runInner setup.order (setup.resumed row)) trace →
      SegmentStep row ⟨setup, trace, none⟩ (rowAfter row trace)

abbrev History (segments : List Segment) (row : RunRow) : Prop :=
  Follows SegmentStep .inserted segments row

theorem history_nonneg {row : RunRow} (history : History segments row) : 0 ≤ row.totalTokens := by
  refine history.preserves (fun row => 0 ≤ row.totalTokens) ?_ (Int.le_refl 0)
  intro row segment row' nonneg step
  cases step with
  | parks | crashes =>
    rw [rowAfter_totalTokens]
    omega

section Parks

variable {setup : RunSetup} {row : RunRow} {trace : List TallyEvent} {atStep : String}
  {ctx : RunContext}

/-- **The two accounts of a parked segment**, the context's and the row's. -/
theorem runInner_parked
    (run : Runs (runInner setup.order (setup.resumed row)) trace (.ok (.suspended atStep, ctx))) :
    Parked (setup.resumed row) ctx trace ∧ outputBytes (rowAfter row trace).stepOutputs =
        outputBytes row.stepOutputs + total bytesSaved trace := by
  have fits : (setup.resumed row).totalOutputBytes ≤ u64Max := by
    rw [resumed_totalOutputBytes]
    exact Nat.min_le_right _ _
  obtain ⟨parked, sub, fresh⟩ := runSteps_parked fits run
  refine ⟨parked, rowAfter_outputBytes (sub.nodup setup.order.distinct) fun id member present => ?_⟩
  have restored : id ∈ (setup.resumed row).stepOutputs := mem_resumed present
  have some : (setup.resumed row).stepOutputs.entries ≠ [] := by
    intro none
    have listed : id ∈ (setup.resumed row).stepOutputs.entries.keys := restored
    rw [none] at listed
    exact List.not_mem_nil listed
  exact fresh id member (by simpa using some) restored

theorem tokens_restored_iff (next : RunSetup) (nonneg : 0 ≤ row.totalTokens)
    (booked : Booked (setup.resumed row) ctx trace) :
    (next.resumed (rowAfter row trace)).totalTokens = ctx.totalTokens ↔
      total tokensLost trace = 0 := by
  rw [resumed_totalTokens, rowAfter_totalTokens, booked.tokens, resumed_totalTokens,
    booked.tokensKept]
  omega

/-- The bytes come back exactly when none were lost: the caps leave the tally no room to
saturate. -/
theorem bytes_restored_iff (next : RunSetup) (parked : Parked (setup.resumed row) ctx trace)
    (kept : outputBytes (rowAfter row trace).stepOutputs =
      outputBytes row.stepOutputs + total bytesSaved trace) :
    (next.resumed (rowAfter row trace)).totalOutputBytes = ctx.totalOutputBytes ↔
      total bytesLost trace = 0 := by
  obtain ⟨booked, bytes, -⟩ := parked
  have room := capBytes_lt_u64Max
  have split := booked.bytesKept
  rw [resumed_totalOutputBytes, kept]
  rw [booked.bytes, resumed_totalOutputBytes] at bytes ⊢
  unfold saturatingAdd at bytes ⊢
  omega

/-- **The row accounts for the run so far**, and the caps hold for it. -/
structure Tallied (row : RunRow) (log : List TallyEvent) : Prop where
  tokens : row.totalTokens = total tokensSpent log
  bytes : outputBytes row.stepOutputs = total bytesWritten log
  tokensCap : total tokensSpent log ≤ perRunTokenCap
  bytesCap : total bytesWritten log ≤ perRunOutputArtifactCapBytes

theorem Tallied.parks {log : List TallyEvent} (tallied : Tallied row log)
    (run : Runs (runInner setup.order (setup.resumed row)) trace (.ok (.suspended atStep, ctx)))
    (counterparts : ∀ event ∈ trace, HasCounterpart event) :
    Tallied (rowAfter row trace) (log ++ trace) ∧
      ctx.totalTokens = total tokensSpent (log ++ trace) ∧
      ctx.totalOutputBytes = total bytesWritten (log ++ trace) := by
  obtain ⟨⟨booked, bytes, tokens⟩, kept⟩ := runInner_parked run
  obtain ⟨noTokens, noBytes⟩ := counterparts_iff.mp counterparts
  obtain ⟨rowTokens, rowBytes, tokensCap, bytesCap⟩ := tallied
  obtain ⟨spent, written, tokensKept, bytesKept⟩ := booked
  have room := capBytes_lt_u64Max
  rw [resumed_totalTokens] at tokens
  rw [resumed_totalOutputBytes] at written
  rw [resumed_totalTokens] at spent
  unfold saturatingAdd at written
  refine ⟨⟨?_, ?_, ?_, ?_⟩, ?_, ?_⟩
  · rw [rowAfter_totalTokens, total_append]
    omega
  · rw [kept, total_append]
    omega
  · rw [total_append]
    omega
  · rw [total_append]
    omega
  · rw [total_append]
    omega
  · rw [total_append]
    omega

end Parks

/-- **Over a history that loses nothing, the row accounts for every segment.** -/
theorem history_tallied {row : RunRow} (history : History segments row)
    (kept : ∀ segment ∈ segments,
      segment.parked.isSome ∧ ∀ event ∈ segment.trace, HasCounterpart event) :
    Tallied row (segments.flatMap (·.trace)) := by
  have start : Tallied .inserted (([] : List Segment).flatMap (·.trace)) :=
    ⟨rfl, rfl, Nat.zero_le _, Nat.zero_le _⟩
  refine history.preserves_log (fun log row => (∀ segment ∈ log,
      segment.parked.isSome ∧ ∀ event ∈ segment.trace, HasCounterpart event) →
      Tallied row (log.flatMap (·.trace))) ?_ (fun _ => start) kept
  intro log row segment row' earlier step all
  have here := all segment (List.mem_append_right _ (List.mem_singleton.mpr rfl))
  have before := earlier fun other member => all other (List.mem_append_left _ member)
  rw [List.flatMap_append, List.flatMap_singleton]
  cases step with
  | parks setup trace atStep ctx run => exact (before.parks run here.2).1
  | crashes => exact absurd here.1 (by simp)

/-- **What a resume restores.** However the run came to where it parks, the resumed runner starts
from the totals it parked with exactly when every event of the segment has its counterpart in the
row: no gate had opened on an agent step that had spent tokens, no artifact bytes had been
collected, and no meta that held tokens or bytes had failed to persist. Where this is so of every
segment, the totals are the sums over all of them, and the caps bind these. -/
theorem totals_restored_iff {segments : List Segment} {row : RunRow} {setup : RunSetup}
    {trace : List TallyEvent} {atStep : String} {ctx : RunContext} (next : RunSetup)
    (history : History segments row)
    (run : Runs (runInner setup.order (setup.resumed row)) trace (.ok (.suspended atStep, ctx))) :
    ((next.resumed (rowAfter row trace)).totalTokens = ctx.totalTokens ∧
      (next.resumed (rowAfter row trace)).totalOutputBytes = ctx.totalOutputBytes ↔
        ∀ event ∈ trace, HasCounterpart event) ∧
    ((∀ segment ∈ segments, segment.parked.isSome ∧ ∀ event ∈ segment.trace, HasCounterpart event) →
      (∀ event ∈ trace, HasCounterpart event) →
      ctx.totalTokens = total tokensSpent (segments.flatMap (·.trace) ++ trace) ∧
        ctx.totalOutputBytes = total bytesWritten (segments.flatMap (·.trace) ++ trace) ∧
        WithinCaps ctx) := by
  obtain ⟨parked, kept⟩ := runInner_parked run
  constructor
  · rw [tokens_restored_iff next (history_nonneg history) parked.booked,
      bytes_restored_iff next parked kept]
    exact counterparts_iff.symm
  · intro earlier here
    obtain ⟨tallied, tokens, bytes⟩ := (history_tallied history earlier).parks run here
    exact ⟨tokens, bytes, tokens ▸ tallied.tokensCap, bytes ▸ tallied.bytesCap⟩

/-! ### A gate after a model call, and a gate inside an agent step -/

/-- Every step does its work and every statement runs; both gates park. -/
def quietAnswer : (query : TallyQuery) → query.Answer
  | .isCancelled => false
  | .writeMock _ => .ok 4
  | .callModel _ => .done (40, 12)
  | .execute _ => .done 12
  | .elicit _ => .done none
  | .runAgent _ => .done [.usage ⟨8, 2, 10⟩, .gateOpened ⟨7⟩]
  | .writeStepOutput _ => .ok 12
  | .persistStepMeta _ _ _ => .ok ()
  | .walkArtifacts _ => []
  | .persistStepArtifacts _ => .ok ()
  | .findRun => .ok (some .running)
  | .resolveOutputs => .ok ()

/-- A draft, and the gate it is shown at. -/
def gatedSetup : RunSetup where
  order := ⟨[⟨"draft", .llm, false⟩, ⟨"approve", .elicit, false⟩], by decide⟩
  isDev := false
  forceMocks := false
  mocks := []

def gatedTrace : List TallyEvent :=
  [⟨.isCancelled, false⟩, ⟨.callModel ⟨"draft", .llm, false⟩, .done (40, 12)⟩,
    ⟨.persistStepMeta "draft" ⟨12⟩ 40, .ok ()⟩, ⟨.findRun, .ok (some .running)⟩,
    ⟨.isCancelled, false⟩, ⟨.elicit ⟨"approve", .elicit, false⟩, .done none⟩]

/-- The draft is skipped, and the gate parks again. -/
def regatedTrace : List TallyEvent :=
  [⟨.isCancelled, false⟩, ⟨.isCancelled, false⟩, ⟨.elicit ⟨"approve", .elicit, false⟩, .done none⟩]

def gatedContext : RunContext := gatedSetup.preflight.wrote ⟨"draft", .llm, false⟩ 12 40

def gatedRow : RunRow := rowAfter .inserted gatedTrace

theorem gated_runs : Runs (runInner gatedSetup.order (gatedSetup.resumed .inserted)) gatedTrace
    (.ok (.suspended "approve", { gatedContext with totalOutputBytes := 12 })) := by
  have run := runs_simulate (I := tallyPorts) (fun _ => quietAnswer)
    (runInner gatedSetup.order (gatedSetup.resumed .inserted)) []
  exact run

theorem regated_runs : Runs (runInner gatedSetup.order (gatedSetup.resumed gatedRow)) regatedTrace
    (.ok (.suspended "approve", { gatedContext with totalOutputBytes := 12 })) := by
  have run := runs_simulate (I := tallyPorts) (fun _ => quietAnswer)
    (runInner gatedSetup.order (gatedSetup.resumed gatedRow)) []
  exact run

theorem gated_totals_restored :
    (gatedSetup.resumed (rowAfter gatedRow regatedTrace)).totalTokens = 40 ∧
      (gatedSetup.resumed (rowAfter gatedRow regatedTrace)).totalOutputBytes = 12 :=
  (totals_restored_iff gatedSetup
    (.cons (.parks gatedSetup gatedTrace "approve" _ gated_runs) (.nil _)) regated_runs).1.mpr
    (by simp [regatedTrace, HasCounterpart])

def agentSetup : RunSetup where
  order := ⟨[⟨"research", .agent, false⟩], by decide⟩
  isDev := false
  forceMocks := false
  mocks := []

/-- **The tokens of a parked agent step are forgotten**: it calls its model, a tool call of the
reply needs an answer, and the resumed runner starts from zero. -/
theorem parked_tokens_forgotten :
    ¬∀ (segments : List Segment) (row : RunRow) (setup next : RunSetup) (trace : List TallyEvent)
      (atStep : String) (ctx : RunContext), History segments row →
      Runs (runInner setup.order (setup.resumed row)) trace (.ok (.suspended atStep, ctx)) →
      (next.resumed (rowAfter row trace)).totalTokens = ctx.totalTokens ∧
        (next.resumed (rowAfter row trace)).totalOutputBytes = ctx.totalOutputBytes := by
  intro restores
  have run : Runs (runInner agentSetup.order (agentSetup.resumed .inserted))
      [⟨.isCancelled, false⟩, ⟨.runAgent ⟨"research", .agent, false⟩,
        .done [.usage ⟨8, 2, 10⟩, .gateOpened ⟨7⟩]⟩]
      (.ok (.suspended "research", agentSetup.preflight.spent 10)) := by
    have simulated := runs_simulate (I := tallyPorts) (fun _ => quietAnswer)
      (runInner agentSetup.order (agentSetup.resumed .inserted)) []
    exact simulated
  have same := (restores [] .inserted agentSetup agentSetup _ _ _ (.nil _) run).1
  exact absurd same (by decide)

end Ziee.Workflow.Tallies
