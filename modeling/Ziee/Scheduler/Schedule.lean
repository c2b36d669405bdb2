/-
**When a task fires next** (`schedule.rs`, `goal_eval.rs`, `failure.rs`).

Three kinds of schedule: one instant, a cron expression in a time zone, and a cadence the model
proposes turn by turn. The cron expression and the time zone are read by a library, which is a
parameter here.

* `GoalEval.decide` — what the verdict on a goal-seeking turn makes of the task.
* `classify`, `shouldAutopause` — what kind of failure a firing ended with, and when it pauses.
-/

import Ziee.Agent.Types

namespace Ziee.Scheduler

open Ziee.Providers Ziee.Agent

/-- An instant in UTC: microseconds since the epoch, the resolution of the columns. -/
abbrev Instant : Type := Int

def seconds (count : Int) : Int := count * 1000000

def days (count : Int) : Int := seconds (count * 86400)

/-- `num_seconds`: the whole seconds of a duration, cut towards zero. -/
def numSeconds (duration : Int) : Int := duration.tdiv 1000000

/-- The instant fits a signed 64-bit count of nanoseconds (21 September 1677 to 11 April 2262). -/
def Instant.Representable (instant : Instant) : Prop :=
  -9223372036854775808 ≤ instant * 1000 ∧ instant * 1000 ≤ 9223372036854775807

instance (instant : Instant) : Decidable (Instant.Representable instant) :=
  inferInstanceAs (Decidable (_ ∧ _))

/-- **`to_offset`**: what is bound to a statement; an instant that does not fit becomes the epoch
(`timestamp_nanos_opt().unwrap_or(0)`). -/
def toOffset (instant : Instant) : Instant :=
  if Instant.Representable instant then instant else 0

theorem toOffset_of_representable {instant : Instant} (fits : Instant.Representable instant) :
    toOffset instant = instant := if_pos fits

/-! ### Errors -/

structure AppError where
  statusCode : Nat
  errorCode : String
  message : String
  deriving DecidableEq, Repr

namespace AppError

def badRequest (errorCode message : String) : AppError := ⟨400, errorCode, message⟩

def forbidden (errorCode message : String) : AppError := ⟨403, errorCode, message⟩

def unprocessableEntity (errorCode message : String) : AppError := ⟨422, errorCode, message⟩

def notFound (resource : String) : AppError := ⟨404, "NOT_FOUND", resource ++ " not found"⟩

def internalError (message : String) : AppError := ⟨500, "INTERNAL_ERROR", message⟩

end AppError

/-! ### Schedules -/

inductive ScheduleKind
  | once
  | recurring
  | selfPaced
  deriving DecidableEq, Repr

structure SelfPacedProposal where
  delaySeconds : Int
  stop : Bool

/-- The clamped result: re-arm at an instant, or stop the loop. -/
inductive SelfPacedOutcome
  | fire (instant : Instant)
  | disable
  deriving DecidableEq

/-- **`next_self_paced_fire`**: the proposal clamped between the admin's interval and the horizon,
and capped at the task's expiry. -/
def nextSelfPacedFire (proposal : SelfPacedProposal) (minIntervalSeconds maxHorizonDays : Int)
    (createdAt now : Instant) : SelfPacedOutcome :=
  if proposal.stop then .disable
  else
    let expiry := createdAt + days (max maxHorizonDays 1)
    if expiry ≤ now then .disable
    else
      let horizonSeconds := max maxHorizonDays 1 * 86400
      let low := min (max minIntervalSeconds 0) horizonSeconds
      let clamped := min (max proposal.delaySeconds low) horizonSeconds
      .fire (min (now + seconds clamped) expiry)

inductive ScheduleError
  | badCron (error : String)
  | badTimezone (timezone : String)
  | runAtInPast
  | tooFrequent (minIntervalSeconds : Int)
  | noOccurrence
  | missingField (field : String)
  deriving DecidableEq

def ScheduleError.display : ScheduleError → String
  | .badCron error => "invalid cron expression: " ++ error
  | .badTimezone timezone => "unknown timezone: " ++ timezone
  | .runAtInPast => "run_at is in the past"
  | .tooFrequent minIntervalSeconds =>
    "schedule fires more often than the minimum interval of " ++ toString minIntervalSeconds ++ "s"
  | .noOccurrence => "cron expression has no upcoming occurrence"
  | .missingField field => "missing required field: " ++ field

/-- The cron and time-zone libraries: how an expression and a zone are read, and the next match of
an expression in a zone after an instant, in UTC (`find_next_occurrence(after, false)`). -/
structure CronLibrary where
  Pattern : Type
  Zone : Type
  fromStr : String → Except String Pattern
  zone : String → Option Zone
  findNextOccurrence : Pattern → Zone → Instant → Option Instant

def CronLibrary.Advances (cron : CronLibrary) : Prop :=
  ∀ pattern zone after next, cron.findNextOccurrence pattern zone after = some next → after < next

/-- The library on the expression `0 0 * * *` in UTC, which matches at every midnight. -/
def midnights : CronLibrary where
  Pattern := Unit
  Zone := Unit
  fromStr expr := if expr = "0 0 * * *" then .ok () else .error "invalid pattern"
  zone timezone := if timezone = "UTC" then some () else none
  findNextOccurrence _ _ after := some ((after / days 1 + 1) * days 1)

theorem midnights_advances : midnights.Advances := by
  intro pattern zone after next found
  cases found
  dsimp only [Instant, days, seconds] at *
  omega

section Engine

variable (cron : CronLibrary)

def parseTz (timezone : String) : Except ScheduleError cron.Zone :=
  match cron.zone timezone with
  | some zone => .ok zone
  | none => .error (.badTimezone timezone)

def parseCron (cronExpr : String) : Except ScheduleError cron.Pattern :=
  match cron.fromStr cronExpr with
  | .ok pattern => .ok pattern
  | .error error => .error (.badCron error)

/-- `ok_or(MissingField(field))`. -/
def required {α : Type} (field : String) : Option α → Except ScheduleError α
  | some value => .ok value
  | none => .error (.missingField field)

/-- **`next_occurrence`**: the next instant strictly after `after`; a self-paced task is armed at
once. -/
def nextOccurrence (kind : ScheduleKind) (runAt : Option Instant) (cronExpr : Option String)
    (timezone : String) (after : Instant) : Except ScheduleError (Option Instant) :=
  match kind with
  | .once => do
    let instant ← required "run_at" runAt
    pure (if after < instant then some instant else none)
  | .recurring => do
    let expr ← required "cron_expr" cronExpr
    let pattern ← parseCron cron expr
    let zone ← parseTz cron timezone
    pure (cron.findNextOccurrence pattern zone after)
  | .selfPaced => pure (some after)

/-- Consecutive occurrences are walked, and each gap must reach the floor. -/
def checkGaps (pattern : cron.Pattern) (zone : cron.Zone) (minIntervalSeconds : Int) :
    Nat → Instant → Except ScheduleError Unit
  | 0, _ => .ok ()
  | gaps + 1, previous =>
    match cron.findNextOccurrence pattern zone previous with
    | none => .error .noOccurrence
    | some next =>
      if numSeconds (next - previous) < minIntervalSeconds then
        .error (.tooFrequent minIntervalSeconds)
      else checkGaps pattern zone minIntervalSeconds gaps next

/-- **`validate_schedule`**: a future instant, or a cron expression that is not too frequent. -/
def validateSchedule (kind : ScheduleKind) (runAt : Option Instant) (cronExpr : Option String)
    (timezone : String) (minIntervalSeconds : Int) (now : Instant) : Except ScheduleError Unit :=
  match kind with
  | .once => do
    let instant ← required "run_at" runAt
    if instant ≤ now then .error .runAtInPast else pure ()
  | .selfPaced => pure ()
  | .recurring => do
    let expr ← required "cron_expr" cronExpr
    let pattern ← parseCron cron expr
    let zone ← parseTz cron timezone
    match cron.findNextOccurrence pattern zone now with
    | none => .error .noOccurrence
    | some first => checkGaps cron pattern zone minIntervalSeconds 24 first

end Engine

section EngineFacts

variable {cron : CronLibrary} {kind : ScheduleKind} {runAt : Option Instant}
  {cronExpr : Option String} {timezone : String}

theorem nextOccurrence_after (advances : cron.Advances) {after next : Instant}
    (found : nextOccurrence cron kind runAt cronExpr timezone after = .ok (some next)) :
    after ≤ next ∧ (kind ≠ .selfPaced → after < next) := by
  cases kind with
  | once =>
    cases runAt with
    | none => cases found
    | some instant =>
      have arms : (if after < instant then some instant else none) = some next :=
        Except.ok.inj found
      obtain ⟨later, same⟩ := Option.ite_none_right_eq_some.mp arms
      cases same
      exact ⟨Int.le_of_lt later, fun _ => later⟩
  | recurring =>
    cases cronExpr with
    | none => cases found
    | some expr =>
      simp only [nextOccurrence, required, bind, Except.bind, pure, Except.pure] at found
      split at found
      · cases found
      · split at found
        · cases found
        · have later := advances _ _ _ _ (Except.ok.inj found)
          exact ⟨Int.le_of_lt later, fun _ => later⟩
  | selfPaced =>
    have same : some after = some next := Except.ok.inj found
    cases same
    exact ⟨Int.le_refl after, fun paced => absurd rfl paced⟩

theorem nextOccurrence_of_valid {minIntervalSeconds : Int} {now : Instant}
    (valid : validateSchedule cron kind runAt cronExpr timezone minIntervalSeconds now = .ok ()) :
    ∃ next, nextOccurrence cron kind runAt cronExpr timezone now = .ok (some next) := by
  cases kind with
  | once =>
    cases runAt with
    | none => cases valid
    | some instant =>
      simp only [validateSchedule, required, bind, Except.bind] at valid
      split at valid
      · cases valid
      · rename_i past
        exact ⟨instant, by
          simp [nextOccurrence, required, bind, Except.bind, pure, Except.pure, Int.not_le.mp past]⟩
  | selfPaced => exact ⟨now, rfl⟩
  | recurring =>
    cases cronExpr with
    | none => cases valid
    | some expr =>
      simp only [validateSchedule, required, bind, Except.bind] at valid
      split at valid
      · cases valid
      · rename_i pattern parsed
        split at valid
        · cases valid
        · rename_i zone read
          cases first : cron.findNextOccurrence pattern zone now with
          | none =>
            rw [first] at valid
            cases valid
          | some next =>
            exact ⟨next, by
              simp [nextOccurrence, required, bind, Except.bind, pure, Except.pure, parsed, read,
                first]⟩

end EngineFacts

/-! ### The bounds of a self-paced cadence -/

section SelfPaced

variable {proposal : SelfPacedProposal} {minIntervalSeconds maxHorizonDays : Int}
  {createdAt now instant : Instant}

end SelfPaced

/-! ### Goal-seeking turns -/

inductive GoalVerdict
  | done
  | notDone
  deriving DecidableEq

inductive GoalOutcome
  | done
  | again (instant : Instant)
  | incomplete

/-- **`goal_eval::decide`**: stop on a confirmed goal, at the turn cap or at the horizon; else one
more turn after the shortest interval. -/
def GoalEval.decide (verdict : GoalVerdict)
    (turnsSoFar maxTurns minIntervalSeconds maxHorizonDays : Int)
    (createdAt now : Instant) : GoalOutcome :=
  if verdict = .done then .done
  else if max maxTurns 1 ≤ turnsSoFar then .incomplete
  else
    match nextSelfPacedFire ⟨minIntervalSeconds, false⟩ minIntervalSeconds maxHorizonDays createdAt
      now with
    | .fire instant => .again instant
    | .disable => .incomplete

/-! ### Failures -/

inductive FailureClass
  | transient
  | auth
  | permission
  | validation
  | targetMissing
  | internal
  deriving DecidableEq

def FailureClass.asStr : FailureClass → String
  | .transient => "transient"
  | .auth => "auth"
  | .permission => "permission"
  | .validation => "validation"
  | .targetMissing => "target_missing"
  | .internal => "internal"

/-- **`classify`**: the bucket of an HTTP status. -/
def classify (status : Nat) (isTimeout : Bool) : FailureClass :=
  if isTimeout then .transient
  else if status = 401 then .auth
  else if status = 403 then .permission
  else if status = 400 ∨ status = 422 then .validation
  else if status = 404 then .targetMissing
  else if 500 ≤ status ∧ status < 600 then .transient
  -- A generation is already in flight in the bound conversation: retryable, "not a real failure —
  -- don't count it toward auto-pause".
  else if status = 409 then .transient
  else if status = 429 ∨ status = 408 then .transient
  else .internal

/-- The count includes the firing just recorded. -/
def shouldAutopause (consecutiveFailures maxConsecutiveFailures : Int) : Bool :=
  max maxConsecutiveFailures 1 ≤ consecutiveFailures

end Ziee.Scheduler
