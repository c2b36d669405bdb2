/-
**The status of a run settles.**

Every statement that writes the status looks at it in its `WHERE`. `Statement.update_status` says
what each of them may do; from it, no statement changes a terminal status, and so no interleaving of
any threads does (`status_settles`). A cancel that landed has made the status terminal, so nothing
that comes later overwrites it.
-/

import Ziee.Workflow.RunControl

namespace Ziee.Workflow

open PortProgram Threads Ziee.Providers Ziee.Agent

def Shared.HasStatus (shared : Shared) (status : WorkflowRunStatus) : Prop :=
  shared.record.map (·.status) = some status

section Status

variable {shared shared' : Shared} {status : WorkflowRunStatus} {row row' : RunRecord}
  {statement : Statement} {event : ControlEvent}

theorem WorkflowRunStatus.not_inFlight (terminal : status.isTerminal = true) :
    status.isInFlight = false := by
  cases status <;> first | rfl | cases terminal

theorem Statement.update_status (terminal : row.status.isTerminal = true)
    (written : statement.update row = some row') : row'.status = row.status := by
  have landed := WorkflowRunStatus.not_inFlight terminal
  have other : ∀ {status}, row.status = status → status.isTerminal = true := fun same =>
    same ▸ terminal
  cases statement with
  | markStatus status message =>
    obtain ⟨either, same⟩ := Option.ite_none_right_eq_some.mp written
    cases same
    rcases either with running | ⟨rfl, cancelled⟩
    · rw [terminal] at running
      cases running
    · exact cancelled.symm
  | markRunning =>
    obtain ⟨pending, -⟩ := Option.ite_none_right_eq_some.mp written
    cases other pending
  | heartbeat =>
    obtain ⟨-, same⟩ := Option.ite_none_right_eq_some.mp written
    cases same
    rfl
  | cancelCas =>
    obtain ⟨either, -⟩ := Option.ite_none_right_eq_some.mp written
    rcases either with inFlight | waiting | resumable
    · rw [landed] at inFlight
      cases inFlight
    · cases other waiting
    · cases other resumable
  | sweepAgentRuns cutoff =>
    obtain ⟨⟨running, -⟩, -⟩ := Option.ite_none_right_eq_some.mp written
    cases other running
  | sweepKind jobKind cutoff =>
    obtain ⟨⟨inFlight, -⟩, -⟩ := Option.ite_none_right_eq_some.mp written
    rw [landed] at inFlight
    cases inFlight
  | setPendingElicitation pending =>
    cases written
    rfl
  | setElicitResponse response =>
    cases written
    rfl

theorem Shared.HasStatus.write (has : shared.HasStatus status) (terminal : status.isTerminal = true)
    (statement : Statement) : (shared.write statement).HasStatus status := by
  obtain ⟨row, found, rfl⟩ := Option.map_eq_some_iff.mp has
  show Option.map _ (Option.map _ shared.record) = _
  rw [found]
  cases written : statement.update row with
  | none => simp [written]
  | some row' => simp [written, Statement.update_status terminal written]

theorem Answers.hasStatus (answers : Answers shared event shared')
    (terminal : status.isTerminal = true) (has : shared.HasStatus status) :
    shared'.HasStatus status := by
  cases answers with
  | executes statement => exact has.write terminal statement
  | sweeps cutoff limit swept row found inFlight =>
    obtain ⟨row', found', rfl⟩ := Option.map_eq_some_iff.mp has
    cases found.symm.trans found'
    rw [WorkflowRunStatus.not_inFlight terminal] at inFlight
    cases inFlight
  | _ => exact has

theorem Answers.cancelled {answer : Except AppError (Option RunRecord)}
    (answers : Answers shared ⟨.execute .cancelCas, answer⟩ shared')
    (landed : answer = .ok (some row)) : shared'.HasStatus .cancelled := by
  cases answers with
  | executes statement =>
    obtain ⟨before, found, written⟩ := Option.bind_eq_some_iff.mp (Except.ok.inj landed)
    obtain ⟨-, same⟩ := Option.ite_none_right_eq_some.mp written
    show Option.map _ (Option.map _ shared.record) = _
    rw [found, Option.map_some, written, ← Option.some.inj same]
    rfl
  | executeFails => cases landed
  | outside query answer out => cases out

end Status

/-- **The status of a run settles.** In every interleaving of any threads, a run that is completed,
failed or cancelled keeps that status, and a run that a cancel has landed on is cancelled. -/
theorem status_settles (steps : List RunStep)
    {config last : Config controlPorts AppError Unit Shared}
    {log : List (Nat × ControlEvent)} (follows : Follows (control steps).Step config log last) :
    (∀ status : WorkflowRunStatus, status.isTerminal = true → config.shared.HasStatus status →
      last.shared.HasStatus status) ∧
    ∀ thread row, (thread, ⟨.execute .cancelCas, (.ok (some row) :
      Except AppError (Option RunRecord))⟩) ∈ log → last.shared.HasStatus .cancelled := by
  have settles : ∀ {config : Config controlPorts AppError Unit Shared} {log} (status),
      WorkflowRunStatus.isTerminal status = true → Follows (control steps).Step config log last →
      config.shared.HasStatus status → last.shared.HasStatus status := by
    intro config log status terminal follows has
    have one : ∀ {shared : Shared} {event shared'}, shared.HasStatus status →
        (control steps).answers shared event shared' → shared'.HasStatus status :=
      fun has answers => Answers.hasStatus answers terminal has
    exact Machine.shared_preserves _ one follows has
  refine ⟨fun status terminal has => settles status terminal follows has, fun thread row member =>
    ?_⟩
  obtain ⟨before, after, rfl⟩ := List.append_of_mem member
  obtain ⟨middle, -, rest⟩ := Follows.append_iff.mp follows
  cases rest with
  | cons step later =>
    refine settles .cancelled rfl later ?_
    cases step with
    | act found answers => exact answers.cancelled rfl

/-- A run with one step, waiting for its runner. -/
def pendingRun : Shared :=
  ⟨some ⟨7, some 3, "workflow", .pending, none, false, 0, none, none⟩, some true⟩

/-- A cancel that lands after the step: the runner completes the run after it, and the boot sweep
goes over it. -/
def lateCompletion : List (Nat × ControlEvent) × Config controlPorts AppError Unit Shared :=
  (control [⟨"draft", false⟩]).execute Shared.answer
    ⟨pendingRun, [runWorkflow [⟨"draft", false⟩], do let _ ← cancelRun 7; pure (),
      do let _ ← failOrphanedRuns jobKindPolicies 1 1; pure ()]⟩
    [0, 0, 0, 0, 0, 0, 1, 1, 1, 0, 0, 0, 2, 2]

/-- The runner's `completed` and the sweep come after the cancel, and the run stays cancelled. -/
theorem lateCompletion_cancelled : lateCompletion.2.shared.HasStatus .cancelled :=
  (status_settles _ ((control _).follows_execute Shared.answers_answer _ _)).2 1
    { userId := 7, workflowId := some 3, jobKind := "workflow", status := .cancelled,
      errorMessage := some "cancelled by user", resumableAgent := false, createdAt := 0,
      pendingElicitation := none, elicitResponse := none }
    (List.mem_of_getElem? (i := 7) rfl)

end Ziee.Workflow
