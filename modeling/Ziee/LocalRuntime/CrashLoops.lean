/-
**Crash loops.**

A crash is answered with the time of the next attempt, and more than five within a minute end the
attempts until an admin clears the failure. The deadline is asked for only in the call that finds
the crash; a stopped machine, which is what an eviction or an admin leaves, counts nothing; and what
was counted is kept in memory.

* `Meets` — a call does not come too early, finds a crash before an earlier one expires, and tells
  of it a machine that counts; no memory is dropped while it is needed.
* `crash_loops_held` — **the two properties in every history whose steps meet the condition**.
-/

import Ziee.Library.PortProgram
import Ziee.LocalRuntime.EngineLife

namespace Ziee.LocalRuntime

open PortProgram

variable {deeds : List Deed} {deed : Deed} {time now : Nat} {chronicle : Chronicle}

def Waits : Deed → Deed → Prop
  | .restartAnswered nextAt, .startAttempted time => nextAt ≤ time
  | _, _ => True

/-- **No start between the answer to a crash and its deadline.** -/
def Spaced (deeds : List Deed) : Prop := deeds.Pairwise Waits

def isReset : Deed → Bool
  | .cleared | .stopped | .evicted | .serverRestarted => true
  | _ => false

def down : Deed → Option Nat
  | .crashed time | .startFailed time => some time
  | _ => none

/-- The last deeds are more than five crashes or failed starts within a minute, with no reset among
them. -/
def Flaps (deeds : List Deed) : Prop :=
  ∃ before spell, deeds = before ++ spell ∧ 5 < (spell.filterMap down).length ∧
    (∀ deed ∈ spell, isReset deed = false) ∧
    ∀ first ∈ spell.filterMap down, ∀ last ∈ spell.filterMap down, last ≤ first + 60000

/-- **After too many crashes no start**, until an admin clears the failure. -/
def Protected (deeds : List Deed) : Prop :=
  ∀ early late time, early ++ late ++ [.startAttempted time] <+: deeds → Flaps early →
    .cleared ∈ late

/-! ### The condition -/

def EngineLife.unfound (life : EngineLife) : Option Nat :=
  if life.running then
    match life.engine with
    | .crashed time => some time
    | _ => none
  else none

/-- **The condition.** A call that finds a crash finds it before a crash that it is to be counted
with expires, and the machine counts it; a call that finds no running row comes after every
deadline, and if its start fails, the machine counts it. No memory is dropped before a crash is
found, or while it alone knows of the failure. -/
def Meets (chronicle : Chronicle) : Happening → Prop
  | .call found proceeds _ started =>
    (chronicle.life.running = true → chronicle.life.engine ≠ .answering →
      chronicle.life.machine.state ≠ .stopped ∧ ∀ time ∈ chronicle.life.unfound,
        ∀ event ∈ chronicle.life.machine.flapWindow.events, time ≤ event + 60000 →
          found ≤ event + 60000) ∧
    (chronicle.life.running = false → chronicle.life.machine.state.isFailed = false →
      (∀ deed ∈ chronicle.deeds, Waits deed (.startAttempted proceeds)) ∧
        (started = false → chronicle.life.machine.state ≠ .stopped))
  | .evict _ | .adminStop _ _ => chronicle.life.unfound = none
  | .serverRestart _ => chronicle.life.unfound = none ∧
      (chronicle.life.machine.state.isFailed = true → chronicle.life.row ≠ none)
  | _ => True

instance (earlier : Deed) (time : Nat) : Decidable (Waits earlier (.startAttempted time)) :=
  match earlier with
  | .restartAnswered nextAt => inferInstanceAs (Decidable (nextAt ≤ time))
  | .crashed _ | .startAttempted _ | .startFailed _ | .cleared | .stopped | .evicted
  | .serverRestarted => inferInstanceAs (Decidable True)

instance (chronicle : Chronicle) : ∀ happening, Decidable (Meets chronicle happening)
  | .call _ _ _ _ => inferInstanceAs (Decidable (_ ∧ _))
  | .evict _ | .adminStop _ _ => inferInstanceAs (Decidable (_ = _))
  | .serverRestart _ => inferInstanceAs (Decidable (_ ∧ _))
  | .crash _ | .probe _ | .adminClear _ => inferInstanceAs (Decidable True)

def Chronicle.Heeded (chronicle : Chronicle) (happening : Happening)
    (chronicle' : Chronicle) : Prop :=
  Meets chronicle happening ∧ chronicle.Step happening chronicle'

/-! ### Too many crashes, told step by step -/

/-- The crashes and failed starts since the last reset, and whether there were too many. -/
structure Tally where
  streak : List Nat
  tripped : Bool

def Tally.tell (tally : Tally) : Deed → Tally
  | .crashed time | .startFailed time =>
    ⟨tally.streak ++ [time], tally.tripped || decide (5 ≤ fresh tally.streak 60000 time)⟩
  | .cleared => ⟨[], false⟩
  | .evicted | .stopped | .serverRestarted => ⟨[], tally.tripped⟩
  | _ => tally

def tally (deeds : List Deed) : Tally := deeds.foldl Tally.tell ⟨[], false⟩

theorem tally_append (deeds more : List Deed) :
    tally (deeds ++ more) = more.foldl Tally.tell (tally deeds) := List.foldl_append

theorem tell_tripped (uncleared : .cleared ∉ deeds) {told : Tally}
    (tripped : told.tripped = true) : (deeds.foldl Tally.tell told).tripped = true := by
  induction deeds generalizing told with
  | nil => exact tripped
  | cons deed rest ih =>
    rw [List.mem_cons, not_or] at uncleared
    refine ih uncleared.2 ?_
    cases deed with
    | cleared => exact absurd rfl uncleared.1
    | crashed | startFailed => simp [Tally.tell, tripped]
    | _ => exact tripped

theorem tell_streak (unbroken : ∀ deed ∈ deeds, isReset deed = false) (told : Tally) :
    (deeds.foldl Tally.tell told).streak = told.streak ++ deeds.filterMap down := by
  induction deeds generalizing told with
  | nil => exact (List.append_nil _).symm
  | cons deed rest ih =>
    have later := ih (fun deed member => unbroken deed (List.mem_cons_of_mem _ member))
      (told.tell deed)
    rw [List.foldl_cons, later]
    have here := unbroken deed List.mem_cons_self
    cases deed with
    | crashed | startFailed => simp [Tally.tell, down]
    | startAttempted | restartAnswered => rfl
    | _ => cases here

theorem fresh_append (events more : List Nat) (window time : Nat) :
    fresh (events ++ more) window time = fresh events window time + fresh more window time :=
  List.countP_append

theorem fresh_singleton {first second : Nat} (before : first ≤ second) (window time : Nat) :
    fresh [first] window time ≤ fresh [second] window time := by
  rw [fresh, fresh, List.countP_singleton, List.countP_singleton]
  by_cases kept : time ≤ first + window
  · have kept' : time ≤ second + window := Nat.le_trans kept (Nat.add_le_add_right before _)
    simp [kept, kept']
  · simp [kept]

/-- **Too many crashes are told.** -/
theorem flaps_tripped {early late : List Deed} (flaps : Flaps early) (uncleared : .cleared ∉ late) :
    (tally (early ++ late)).tripped = true := by
  obtain ⟨before, spell, rfl, many, unbroken, within⟩ := flaps
  rw [tally_append]
  refine tell_tripped uncleared ?_
  -- The last of the crashes is the one that trips it.
  obtain ⟨times, last, split⟩ : ∃ times last, spell.filterMap down = times ++ [last] :=
    ⟨_, _, (List.dropLast_append_getLast (List.ne_nil_of_length_pos (by omega))).symm⟩
  rw [split, List.length_append, List.length_singleton] at many
  obtain ⟨front, back, rfl, fronts, backs⟩ := List.filterMap_eq_append_iff.mp split
  obtain ⟨idle, deed, rest, rfl, _, downs, _⟩ := List.filterMap_eq_cons_iff.mp backs
  have kept : ∀ deed ∈ front ++ idle, isReset deed = false := fun deed member =>
    unbroken deed (by simp only [List.mem_append, List.mem_cons] at member ⊢; tauto)
  have streak := tell_streak kept (tally before)
  have quiet : idle.filterMap down = [] := by
    rw [List.filterMap_eq_nil_iff]
    assumption
  rw [List.filterMap_append, quiet, List.append_nil, fronts] at streak
  have enough : 5 ≤ fresh ((front ++ idle).foldl Tally.tell (tally before)).streak 60000 last := by
    rw [streak, fresh_append]
    have all : fresh times 60000 last = times.length := by
      refine List.countP_eq_length.mpr fun first member => decide_eq_true ?_
      exact within first (by rw [split]; simp [member]) last (by rw [split]; simp)
    omega
  have trips : (((front ++ idle).foldl Tally.tell (tally before)).tell deed).tripped = true := by
    cases deed <;> cases downs <;>
      exact (Bool.or_eq_true _ _).mpr (.inr (decide_eq_true enough))
  rw [tally_append, show front ++ (idle ++ deed :: rest) = (front ++ idle) ++ deed :: rest by simp,
    List.foldl_append, List.foldl_cons]
  refine tell_tripped (fun member => ?_) trips
  have here := unbroken .cleared (by simp [member])
  cases here

/-- No start is attempted when too many crashes have been told. -/
def Shielded (deeds : List Deed) : Prop :=
  ∀ before time, before ++ [.startAttempted time] <+: deeds → (tally before).tripped = false

theorem Shielded.protects (shielded : Shielded deeds) : Protected deeds := by
  intro early late time before flaps
  by_contra uncleared
  have untripped := shielded _ time before
  rw [flaps_tripped flaps uncleared] at untripped
  cases untripped

theorem Shielded.concat (shielded : Shielded deeds)
    (guarded : ∀ time, deed = .startAttempted time → (tally deeds).tripped = false) :
    Shielded (deeds ++ [deed]) := by
  intro before time initial
  rcases List.prefix_concat_iff.mp initial with whole | earlier
  · obtain ⟨rfl, same⟩ := List.append_inj' whole rfl
    exact guarded time (List.cons.inj same).1.symm
  · exact shielded before time earlier

/-! ### Deadlines -/

theorem Waits.later {time' : Nat} (waits : Waits deed (.startAttempted time))
    (later : time ≤ time') : Waits deed (.startAttempted time') := by
  cases deed with
  | restartAnswered nextAt => exact Nat.le_trans waits later
  | _ => trivial

theorem Spaced.concat (spaced : Spaced deeds)
    (waits : ∀ earlier ∈ deeds, Waits earlier deed) : Spaced (deeds ++ [deed]) := by
  refine List.pairwise_append.mpr ⟨spaced, List.pairwise_singleton _ _,
    fun earlier member last same => ?_⟩
  obtain rfl := List.mem_singleton.mp same
  exact waits earlier member

theorem waits_of_idle (earlier deed : Deed) (idle : ∀ time, deed ≠ .startAttempted time) :
    Waits earlier deed := by
  cases deed with
  | startAttempted time => exact absurd rfl (idle time)
  | _ => cases earlier <;> trivial

/-! ### What the machine remembers -/

/-- **What the machine knows of the crashes** that were noted since the last reset: it is failed, or
has nothing to know, or its window counts all of them that are fresh when the next one happens. -/
structure Remembers (machine : HealthStateMachine) (clock : Nat) (unfound : Option Nat)
    (noted : List Nat) : Prop where
  window : machine.flapWindow.window = 60000
  maxEvents : machine.flapWindow.maxEvents = 5
  kind : machine.state.isFailed = true ∨ machine.state = .stopped ∨ machine.state.counts = true
  stopped : machine.state = .stopped → noted = []
  counted : machine.state.counts = true → ∃ heard ≤ clock, (∀ time ∈ unfound, heard ≤ time) ∧
    ∀ time, heard ≤ time → fresh noted 60000 time ≤ fresh machine.flapWindow.events 60000 time

section Remembers

variable {machine machine' : HealthStateMachine} {clock clock' : Nat} {unfound : Option Nat}
  {noted : List Nat}

theorem Remembers.steady (remembers : Remembers machine clock unfound noted)
    (steady : machine.Steady machine') (later : clock ≤ clock') :
    Remembers machine' clock' unfound noted := by
  obtain ⟨flapWindow, counts, isFailed, stopped⟩ := steady
  refine ⟨flapWindow ▸ remembers.window, flapWindow ▸ remembers.maxEvents, ?_,
    fun stops => remembers.stopped (stopped.mp stops), fun counting => ?_⟩
  · rw [isFailed, stopped, counts]
    exact remembers.kind
  · obtain ⟨heard, before, since, fewer⟩ := remembers.counted (counts ▸ counting)
    exact ⟨heard, Nat.le_trans before later, since, flapWindow ▸ fewer⟩

theorem Remembers.blank (window : machine.flapWindow = .new 60000 5)
    (kind : machine.state.isFailed = true ∨ machine.state = .stopped ∨
      machine.state.counts = true) :
    Remembers machine clock none [] := by
  refine ⟨window ▸ rfl, window ▸ rfl, kind, fun _ => rfl, fun _ => ⟨clock, Nat.le_refl _, ?_, ?_⟩⟩
  · exact nofun
  · exact fun time _ => Nat.zero_le _

theorem Remembers.forgets (remembers : Remembers machine clock unfound noted) :
    Remembers machine clock' none [] := by
  refine ⟨remembers.window, remembers.maxEvents, remembers.kind, fun _ => rfl, fun _ => ?_⟩
  exact ⟨clock', Nat.le_refl _, nofun, fun _ _ => Nat.zero_le _⟩

theorem Remembers.unfinds (remembers : Remembers machine clock none noted)
    (later : clock ≤ clock') : Remembers machine clock' (some clock') noted := by
  refine ⟨remembers.window, remembers.maxEvents, remembers.kind, remembers.stopped, fun counts =>
    ?_⟩
  obtain ⟨heard, before, _, fewer⟩ := remembers.counted counts
  refine ⟨heard, Nat.le_trans before later, fun time member => ?_, fewer⟩
  obtain rfl := Option.some.inj member
  exact Nat.le_trans before later

/-- **The window trips** on the sixth fresh crash. -/
theorem Remembers.trips (remembers : Remembers machine clock unfound noted)
    (counts : machine.state.counts = true)
    (heard : ∀ heard ≤ clock, (∀ time ∈ unfound, heard ≤ time) → heard ≤ time)
    (inTime : ∀ event ∈ machine.flapWindow.events, time ≤ event + 60000 → now ≤ event + 60000)
    (enough : 5 ≤ fresh noted 60000 time) : (machine.flapWindow.record now).1 = true := by
  obtain ⟨since, before, found, fewer⟩ := remembers.counted counts
  refine record_trips _ ?_
  rw [remembers.window, remembers.maxEvents]
  calc 5 ≤ fresh noted 60000 time := enough
    _ ≤ fresh machine.flapWindow.events 60000 time := fewer time (heard since before found)
    _ ≤ fresh machine.flapWindow.events 60000 now := List.countP_mono_left fun event member kept =>
        decide_eq_true (inTime event member (of_decide_eq_true kept))

/-- **A crash is noted**: the window counts it from now on. -/
theorem Remembers.notes (remembers : Remembers machine clock unfound noted)
    (counts : machine.state.counts = true) (later : clock ≤ now) {crashes : List Nat}
    (covered : ∀ time, now ≤ time → fresh crashes 60000 time ≤ fresh [now] 60000 time)
    (recorded : machine'.flapWindow = (machine.flapWindow.record now).2)
    (counting : machine'.state.counts = true) : Remembers machine' now none (noted ++ crashes) := by
  obtain ⟨since, before, _, fewer⟩ := remembers.counted counts
  refine ⟨recorded ▸ remembers.window, recorded ▸ remembers.maxEvents, .inr (.inr counting), ?_, ?_⟩
  · intro stops
    rw [stops] at counting
    cases counting
  · refine fun _ => ⟨now, Nat.le_refl _, nofun, fun time after => ?_⟩
    have window := recorded_fresh machine.flapWindow after
    rw [remembers.window] at window
    rw [recorded, window, fresh_append]
    exact Nat.add_le_add (fewer time (by omega)) (covered time after)

theorem Remembers.failed (window : machine'.flapWindow.window = 60000)
    (maxEvents : machine'.flapWindow.maxEvents = 5) {reason : String}
    (failed : machine'.state = .failed reason) : Remembers machine' clock unfound noted := by
  refine ⟨window, maxEvents, .inl (failed ▸ rfl), fun stops => ?_, fun counting => ?_⟩
  · rw [failed] at stops
    cases stops
  · rw [failed] at counting
    cases counting

end Remembers

/-! ### What a call does -/

namespace EngineLife

theorem noteEvent_eq {life : EngineLife} {event : HealthEvent} {transition : Transition}
    {before machine : HealthStateMachine} (cached : life.machine = before)
    (noted : before.onEvent event now = (transition, machine)) :
    life.noteEvent event now = (transition, { life with health := some machine }) := by
  rw [noteEvent, cached, noted]

theorem startOnce_cases {life : EngineLife} {machine : HealthStateMachine}
    (cached : life.health = some machine) (proceeds ended : Nat) (started : Bool)
    (counts : started = false → machine.state.counts = true) :
    (∃ machine', machine.Steady machine' ∧ (life.startOnce proceeds ended started).2 =
      ([.startAttempted proceeds], ⟨some machine', life.persistInstance.row, .answering⟩)) ∨
    (∃ machine' reason, machine'.state = .failed reason ∧
      machine'.flapWindow = (machine.flapWindow.record ended).2 ∧
      (life.startOnce proceeds ended started).2 = ([.startAttempted proceeds, .startFailed ended],
          ⟨some machine', (life.persistFailed reason).row, .absent⟩)) ∨
    (∃ machine' attempt nextAt, machine.state.counts = true ∧
      machine'.state = .restarting attempt nextAt ∧
      machine'.flapWindow = (machine.flapWindow.record ended).2 ∧
      (machine.flapWindow.record ended).1 = false ∧ (life.startOnce proceeds ended started).2 =
        ([.startAttempted proceeds, .startFailed ended, .restartAnswered nextAt],
          ⟨some machine', life.row, .absent⟩)) := by
  obtain ⟨health, row, engine⟩ := life
  obtain rfl : health = some machine := cached
  cases started with
  | true => exact .inl ⟨_, machine.onEvent_vital rfl ended, rfl⟩
  | false =>
    have cached : (⟨some machine, row, .absent⟩ : EngineLife).machine = machine := rfl
    have absent : doStart ⟨some machine, row, engine⟩ false =
        (.error .notStarted, ⟨some machine, row, .absent⟩) := rfl
    rcases machine.onEvent_crashed (counts rfl) none ended with
      ⟨reason, machine', noted, state, window⟩
        | ⟨attempt, nextAt, machine', noted, state, window, few⟩
    · refine .inr (.inl ⟨machine', reason, state, window, ?_⟩)
      simp only [startOnce, absent, noteEvent_eq cached noted]
      rfl
    · refine .inr (.inr ⟨machine', attempt, nextAt, counts rfl, state, window, few, ?_⟩)
      simp only [startOnce, absent, noteEvent_eq cached noted]
      rfl

def marked (life : EngineLife) : EngineLife :=
  { life with row := life.row.map fun instance' =>
    { instance' with running := false, state := "crashed" } }

/-- **What a call does**: it finds a running engine, a crash, or no running row. -/
theorem ensureRunning_cases (life : EngineLife) (found proceeds ended : Nat) (started : Bool) :
    (life.running = true ∧ life.engine = .answering ∧ ∃ machine', life.machine.Steady machine' ∧
      (life.ensureRunning found proceeds ended started).2 =
        ([], { life with health := some machine' })) ∨
    (life.running = true ∧ life.engine ≠ .answering ∧ (life.marked.machine.state.counts = true →
      (∃ machine' reason, machine'.state = .failed reason ∧
        (life.ensureRunning found proceeds ended started).2 =
          ([], ({ life.marked with health := some machine' }.persistFailed reason).forget)) ∨
      (∃ machine' attempt nextAt, machine'.state = .restarting attempt nextAt ∧
        machine'.flapWindow = (life.marked.machine.flapWindow.record found).2 ∧
        (life.marked.machine.flapWindow.record found).1 = false ∧
        (proceeds < nextAt ∧ (life.ensureRunning found proceeds ended started).2 =
            ([.restartAnswered nextAt], { life.marked with health := some machine' }) ∨
          nextAt ≤ proceeds ∧ (life.ensureRunning found proceeds ended started).2 =
            ([.restartAnswered nextAt] ++ ({ life.marked with health := some machine' }.startOnce
                proceeds ended started).2.1,
              ({ life.marked with health := some machine' }.startOnce
                proceeds ended started).2.2))))) ∨
    (life.running = false ∧ (life.machine.state.isFailed = true ∧
        (life.ensureRunning found proceeds ended started).2 = ([], life.ensureRestored) ∨
      life.machine.state.isFailed = false ∧ (life.ensureRunning found proceeds ended started).2 =
        (life.ensureRestored.startOnce proceeds ended started).2)) := by
  cases runs : life.running with
  | false =>
    have probed : life.probeLiveness = (.notRunning, life) := if_pos runs
    refine .inr (.inr ⟨rfl, ?_⟩)
    cases failed : life.machine.state.isFailed with
    | true =>
      refine .inl ⟨rfl, ?_⟩
      simp only [ensureRunning, probed, isFailed, failed, if_true]
    | false =>
      refine .inr ⟨rfl, ?_⟩
      simp only [ensureRunning, probed, isFailed, failed, Bool.false_eq_true, if_false]
  | true =>
    have runs' : ¬ life.running = false := by simp [runs]
    by_cases answers : life.engine = .answering
    · have probed : life.probeLiveness = (.running, life) := by
        rw [probeLiveness, if_neg runs', if_pos answers]
      have vital : HealthStateMachine.isVital .startedOk = true := rfl
      refine .inl ⟨rfl, answers, _, life.machine.onEvent_vital vital found, ?_⟩
      simp only [ensureRunning, probed]
      rfl
    · have probed : life.probeLiveness = (.crashed, life.marked) := by
        rw [probeLiveness, if_neg runs', if_neg answers]
        rfl
      refine .inr (.inl ⟨rfl, answers, fun counts => ?_⟩)
      rcases HealthStateMachine.onEvent_crashed counts none found with
        ⟨reason, machine', noted, state, _⟩ | ⟨attempt, nextAt, machine', noted, state, window, few⟩
      · refine .inl ⟨machine', reason, state, ?_⟩
        simp only [ensureRunning, probed, noteEvent_eq rfl noted]
      · refine .inr ⟨machine', attempt, nextAt, state, window, few, ?_⟩
        simp only [ensureRunning, probed, noteEvent_eq rfl noted]
        by_cases early : proceeds < nextAt
        · exact .inl ⟨early, by rw [if_pos early]⟩
        · exact .inr ⟨Nat.le_of_not_lt early, by rw [if_neg early]⟩

end EngineLife

/-! ### Every history -/

/-- **What is known of a chronicle**: the machine remembers what was noted of the last streak, and a
streak that is too long has failed it, or will when its last crash is found. -/
structure Tracks (chronicle : Chronicle) (noted : List Nat) : Prop where
  remembers : Remembers chronicle.life.machine chronicle.clock chronicle.life.unfound noted
  failed : chronicle.life.machine.state.isFailed = true → chronicle.life.running = false ∧
    ∀ instance' ∈ chronicle.life.row, instance'.state = "failed"
  row : ∀ instance' ∈ chronicle.life.row, instance'.running = true →
    instance'.state ≠ "failed" ∧ instance'.state ≠ "stopped"
  answering : chronicle.life.engine = .answering → chronicle.life.running = true
  streak : (tally chronicle.deeds).streak = noted ++ chronicle.life.unfound.toList
  found : ∀ time ∈ chronicle.life.unfound, time ≤ chronicle.clock
  tripped : (tally chronicle.deeds).tripped = true → chronicle.life.machine.state.isFailed = true ∨
    ∃ time ∈ chronicle.life.unfound, 5 ≤ fresh noted 60000 time
  shielded : Shielded chronicle.deeds
  spaced : Spaced chronicle.deeds
  due : chronicle.life.running = true →
    ∀ deed ∈ chronicle.deeds, Waits deed (.startAttempted chronicle.clock)

namespace EngineLife

variable {life : EngineLife}

theorem unfound_of_stopped (stopped : life.running = false) : life.unfound = none := by
  rw [unfound, if_neg (by simp [stopped])]

theorem unfound_of_absent (absent : life.engine = .absent) : life.unfound = none := by
  rw [unfound, absent]
  exact ite_self none

theorem unfound_of_answering (answers : life.engine = .answering) : life.unfound = none := by
  rw [unfound, answers]
  exact ite_self none

theorem marked_machine (row : ∀ instance' ∈ life.row, instance'.running = true →
    instance'.state ≠ "failed" ∧ instance'.state ≠ "stopped") (runs : life.running = true) :
    life.marked.machine = life.machine := by
  obtain ⟨health, instance', engine⟩ := life
  cases health with
  | some machine => rfl
  | none =>
    cases instance' with
    | none => rfl
    | some instance' =>
      obtain ⟨unfailed, unstopped⟩ := row instance' rfl runs
      have same : HealthStateMachine.fromPersisted maxRestartAttempts "crashed"
          instance'.restartAttempts instance'.lastFailureReason =
          .fromPersisted maxRestartAttempts instance'.state instance'.restartAttempts
            instance'.lastFailureReason := by
        simp only [HealthStateMachine.fromPersisted, if_neg unfailed, if_neg unstopped]
        rfl
      exact same

theorem marked_stopped : life.marked.running = false := by
  obtain ⟨health, instance', engine⟩ := life
  cases instance' <;> rfl

end EngineLife

theorem start_tracks {life : EngineLife} {machine : HealthStateMachine} {clock proceeds ended : Nat}
    {noted : List Nat} (tracks : Tracks ⟨life, clock, deeds⟩ noted)
    (cached : life.health = some machine) (stopped : life.running = false)
    (unfailed : machine.state.isFailed = false) (later : clock ≤ proceeds ∧ proceeds ≤ ended)
    (waits : ∀ deed ∈ deeds, Waits deed (.startAttempted proceeds)) (started : Bool)
    (heard : started = false → machine.state ≠ .stopped) :
    ∃ noted', Tracks ⟨(life.startOnce proceeds ended started).2.2, ended,
      deeds ++ (life.startOnce proceeds ended started).2.1⟩ noted' := by
  obtain ⟨remembers, failed, row, answering, streak, found, tripped, shielded, spaced, _⟩ := tracks
  have onward : clock ≤ ended := Nat.le_trans later.1 later.2
  have unfound := EngineLife.unfound_of_stopped stopped
  simp only [unfound] at remembers streak found tripped
  have known : life.machine = machine := by rw [EngineLife.machine, cached]; rfl
  rw [known] at remembers failed tripped
  have untripped : (tally deeds).tripped = false := by
    by_contra trips
    rcases tripped (by simpa using trips) with fails | ⟨time, member, _⟩
    · rw [unfailed] at fails
      cases fails
    · cases member
  have counts : started = false → machine.state.counts = true := fun failing => by
    rcases remembers.kind with fails | stops | counts
    · rw [unfailed] at fails
      cases fails
    · exact absurd stops (heard failing)
    · exact counts
  have attempted : Shielded (deeds ++ [.startAttempted proceeds]) :=
    shielded.concat fun _ _ => untripped
  have spaced := spaced.concat waits
  have spaced' := spaced.concat fun earlier _ =>
    waits_of_idle earlier (.startFailed ended) fun _ => by simp
  rw [List.append_assoc] at spaced'
  have tried : Shielded (deeds ++ [.startAttempted proceeds, .startFailed ended]) := by
    have concat := attempted.concat (fun time (same : Deed.startFailed ended = _) => by cases same)
    rwa [List.append_assoc] at concat
  rcases EngineLife.startOnce_cases cached proceeds ended started counts with
    ⟨machine', steady, done⟩ | ⟨machine', reason, state, window, done⟩ |
    ⟨machine', attempt, nextAt, counts, state, window, few, done⟩
  · rw [done]
    have none' : (⟨some machine', life.persistInstance.row, .answering⟩ : EngineLife).unfound =
      none :=
      EngineLife.unfound_of_answering rfl
    refine ⟨noted, ?_, ?_, ?_, fun _ => rfl, ?_, ?_, ?_, attempted, spaced, fun _ => ?_⟩
    · rw [none']
      exact remembers.steady steady onward
    · intro fails
      have fails : machine'.state.isFailed = true := fails
      rw [steady.isFailed, unfailed] at fails
      cases fails
    · rintro instance' member -
      obtain rfl := Option.some.inj member
      exact ⟨by simp, by simp⟩
    · rw [none', tally_append]
      exact streak
    · rw [none']
      exact nofun
    · rw [tally_append]
      exact fun trips => absurd (trips.symm.trans untripped) (by decide)
    · intro deed member
      rcases List.mem_append.mp member with member | member
      · exact (waits deed member).later later.2
      · obtain rfl := List.mem_singleton.mp member
        trivial
  · rw [done]
    have stays : EngineLife.running ⟨some machine', (life.persistFailed reason).row, .absent⟩ =
        false := by
      rw [EngineLife.running, EngineLife.persistFailed]
      cases life.row <;> rfl
    have none' := EngineLife.unfound_of_stopped stays
    have fails : machine'.state.isFailed = true := state ▸ rfl
    refine ⟨noted ++ [ended], ?_, fun _ => ⟨stays, ?_⟩, ?_, ?_, ?_, ?_, fun _ => .inl fails, tried,
      spaced', fun runs => absurd (runs.symm.trans stays) (by decide)⟩
    · rw [none']
      exact Remembers.failed (window ▸ remembers.window) (window ▸ remembers.maxEvents) state
    · rintro instance' member
      obtain ⟨before, _, rfl⟩ := Option.map_eq_some_iff.mp member
      rfl
    · intro instance' member runs
      obtain ⟨before, _, rfl⟩ := Option.map_eq_some_iff.mp member
      cases runs
    · rintro ⟨⟩
    · rw [none', tally_append]
      have longer := congrArg (· ++ [ended]) streak
      simpa [Tally.tell] using longer
    · rw [none']
      exact nofun
  · rw [done]
    have none' : EngineLife.unfound ⟨some machine', life.row, .absent⟩ = none :=
      EngineLife.unfound_of_stopped stopped
    have counting : machine'.state.counts = true := state ▸ rfl
    have few' : ¬ 5 ≤ fresh noted 60000 ended := fun enough => by
      have trips := remembers.trips counts (fun heard before _ => Nat.le_trans before onward)
        (fun event _ kept => kept) enough
      rw [few] at trips
      cases trips
    have told : tally (deeds ++ [.startAttempted proceeds, .startFailed ended,
        .restartAnswered nextAt]) = ⟨noted ++ [ended], false⟩ := by
      rw [tally_append]
      have streak : (tally deeds).streak = noted := by simpa using streak
      simp [Tally.tell, streak, untripped, Nat.lt_of_not_le few']
    refine ⟨noted ++ [ended], ?_, ?_, row, ?_, ?_, ?_, ?_, ?_, ?_,
      fun runs => absurd (runs.symm.trans stopped) (by decide)⟩
    · rw [none']
      exact remembers.notes counts onward (fun _ _ => Nat.le_refl _) window counting
    · intro fails
      have fails : machine'.state.isFailed = true := fails
      rw [state] at fails
      cases fails
    · rintro ⟨⟩
    · rw [none', told]
      exact (List.append_nil _).symm
    · rw [none']
      exact nofun
    · rw [told]
      rintro ⟨⟩
    · have answered := tried.concat (fun time
        (same : Deed.restartAnswered nextAt = _) => by cases same)
      rwa [List.append_assoc] at answered
    · have answered := spaced'.concat fun earlier _ =>
        waits_of_idle earlier (.restartAnswered nextAt) fun _ => by simp
      rwa [List.append_assoc] at answered

theorem Tracks.later {life : EngineLife} {clock clock' : Nat} {noted : List Nat}
    (tracks : Tracks ⟨life, clock, deeds⟩ noted) (later : clock ≤ clock') :
    Tracks ⟨life, clock', deeds⟩ noted :=
  { tracks with
    remembers := tracks.remembers.steady (.refl _) later
    found := fun time member => Nat.le_trans (tracks.found time member) later
    due := fun runs deed member => (tracks.due runs deed member).later later }

theorem Tracks.waiting {noted : List Nat} (tracks : Tracks chronicle noted)
    (runs : chronicle.life.running = true) (trips : (tally chronicle.deeds).tripped = true) :
    ∃ time ∈ chronicle.life.unfound, 5 ≤ fresh noted 60000 time := by
  rcases tracks.tripped trips with fails | waiting
  · rw [(tracks.failed fails).1] at runs
    cases runs
  · exact waiting

/-- **A crash that is found keeps track**, when the machine waits for the next attempt. -/
theorem found_tracks {life : EngineLife} {machine : HealthStateMachine} {clock found : Nat}
    {noted : List Nat} {attempt nextAt : Nat}
    (tracks : Tracks ⟨life, clock, deeds⟩ noted) (runs : life.running = true)
    (dead : life.engine ≠ .answering) (counts : life.machine.state.counts = true)
    (later : clock ≤ found)
    (inTime : ∀ time ∈ life.unfound, ∀ event ∈ life.machine.flapWindow.events,
      time ≤ event + 60000 → found ≤ event + 60000)
    (state : machine.state = .restarting attempt nextAt)
    (window : machine.flapWindow = (life.machine.flapWindow.record found).2)
    (few : (life.machine.flapWindow.record found).1 = false) :
    Tracks ⟨{ life.marked with health := some machine }, found, deeds ++ [.restartAnswered nextAt]⟩
      (noted ++ life.unfound.toList) := by
  have remembers := tracks.remembers
  have stays : EngineLife.running { life.marked with health := some machine } = false :=
    life.marked_stopped
  have none' := EngineLife.unfound_of_stopped stays
  have counting : machine.state.counts = true := state ▸ rfl
  have untripped : (tally deeds).tripped = false := by
    by_contra trips
    obtain ⟨time, member, enough⟩ := tracks.waiting runs (by simpa using trips)
    have trips := remembers.trips counts (fun heard _ since => since time member)
      (inTime time member) enough
    rw [few] at trips
    cases trips
  refine ⟨?_, ?_, ?_, ?_, ?_, ?_, ?_, ?_, ?_, fun runs =>
    absurd (runs.symm.trans stays) (by decide)⟩
  · rw [none']
    refine remembers.notes counts later (fun time after => ?_) window counting
    cases unfound : life.unfound with
    | none => exact Nat.zero_le _
    | some crashed =>
      exact fresh_singleton (Nat.le_trans (tracks.found crashed unfound) later) 60000 time
  · intro fails
    have fails : machine.state.isFailed = true := fails
    rw [state] at fails
    cases fails
  · intro instance' member runs
    obtain ⟨before, _, rfl⟩ := Option.map_eq_some_iff.mp member
    cases runs
  · exact fun answers => absurd answers dead
  · rw [none', tally_append]
    exact tracks.streak.trans (List.append_nil _).symm
  · rw [none']
    exact nofun
  · rw [tally_append]
    exact fun trips => absurd (trips.symm.trans untripped) (by decide)
  · exact tracks.shielded.concat nofun
  · exact tracks.spaced.concat fun earlier _ => waits_of_idle earlier _ fun _ => by simp

theorem Tracks.caches {life : EngineLife} {machine : HealthStateMachine} {clock clock' : Nat}
    {noted : List Nat} (tracks : Tracks ⟨life, clock, deeds⟩ noted)
    (steady : life.machine.Steady machine) (later : clock ≤ clock') :
    Tracks ⟨{ life with health := some machine }, clock', deeds⟩ noted :=
  { tracks with
    remembers := tracks.remembers.steady steady later
    failed := fun fails => tracks.failed (steady.isFailed.symm.trans fails)
    found := fun time member => Nat.le_trans (tracks.found time member) later
    tripped := fun trips => (tracks.tripped trips).imp_left fun fails => steady.isFailed.trans fails
    due := fun runs deed member => (tracks.due runs deed member).later later }

theorem gaveUp_tracks {life : EngineLife} {machine : HealthStateMachine} {clock clock' : Nat}
    {noted : List Nat} (tracks : Tracks ⟨life, clock, deeds⟩ noted)
    (runs : life.running = true) (dead : life.engine ≠ .answering) (reason : String) :
    Tracks ⟨({ life.marked with health := some machine }.persistFailed reason).forget, clock',
      deeds⟩ (noted ++ life.unfound.toList) := by
  obtain ⟨health, row, engine⟩ := life
  cases row with
  | none => cases runs
  | some instance' =>
    have fails : HealthStateMachine.state (EngineLife.machine ⟨none, some { instance' with
          running := false, state := "failed", lastFailureReason := some reason }, engine⟩) =
        .failed reason := rfl
    refine ⟨Remembers.failed rfl rfl fails, fun _ => ⟨rfl, ?_⟩, ?_, fun answers =>
      absurd answers dead,
      ?_, ?_, fun _ => .inl rfl, tracks.shielded, tracks.spaced, nofun⟩
    · intro other member
      obtain rfl := Option.some.inj member
      rfl
    · intro other member runs
      obtain rfl := Option.some.inj member
      cases runs
    · exact tracks.streak.trans (List.append_nil _).symm
    · exact nofun

theorem call_tracks {life : EngineLife} {clock found proceeds ended : Nat}
    {noted : List Nat} {started : Bool} (tracks : Tracks ⟨life, clock, deeds⟩ noted)
    (later : clock ≤ found) (order : found ≤ proceeds ∧ proceeds ≤ ended)
    (meets : Meets ⟨life, clock, deeds⟩ (.call found proceeds ended started)) :
    ∃ noted', Tracks ⟨(life.ensureRunning found proceeds ended started).2.2, ended,
      deeds ++ (life.ensureRunning found proceeds ended started).2.1⟩ noted' := by
  have onward : found ≤ ended := Nat.le_trans order.1 order.2
  rcases life.ensureRunning_cases found proceeds ended started with
    ⟨runs, answers, machine, steady, done⟩ | ⟨runs, dead, crashes⟩ |
    ⟨stopped, ⟨fails, done⟩ | ⟨unfailed, done⟩⟩
  · -- The engine answers.
    rw [done, List.append_nil]
    exact ⟨noted, tracks.caches steady (Nat.le_trans later onward)⟩
  · -- The engine has crashed.
    have unstopped := (meets.1 runs dead).1
    have counts : life.machine.state.counts = true := by
      rcases tracks.remembers.kind with fails | stops | counts
      · rw [(tracks.failed fails).1] at runs
        cases runs
      · exact absurd stops unstopped
      · exact counts
    have same := life.marked_machine tracks.row runs
    rw [same] at crashes
    rcases crashes counts with ⟨machine, reason, state, done⟩ |
      ⟨machine, attempt, nextAt, state, window, few, ⟨early, done⟩ | ⟨due, done⟩⟩
    · rw [done, List.append_nil]
      exact ⟨_, gaveUp_tracks tracks runs dead reason⟩
    · rw [done]
      exact ⟨_, (found_tracks tracks runs dead counts later (meets.1 runs dead).2 state window
        few).later onward⟩
    · rw [done, ← List.append_assoc]
      refine start_tracks (found_tracks tracks runs dead counts later (meets.1 runs dead).2 state
        window few) rfl life.marked_stopped (state ▸ rfl) order ?_ started fun _ stops => ?_
      · intro deed member
        rcases List.mem_append.mp member with member | member
        · exact (tracks.due runs deed member).later (Nat.le_trans later order.1)
        · obtain rfl := List.mem_singleton.mp member
          exact due
      rw [state] at stops
      cases stops
  · -- The machine has given up.
    rw [done, List.append_nil]
    exact ⟨noted, tracks.caches (.refl _) (Nat.le_trans later onward)⟩
  · -- There is no running row.
    rw [done]
    exact start_tracks (tracks.caches (.refl _) (Nat.le_refl _)) rfl stopped unfailed
      ⟨Nat.le_trans later order.1, order.2⟩ (meets.2 stopped unfailed).1 started
      (meets.2 stopped unfailed).2

/-! ### What else happens -/

theorem crash_tracks {life : EngineLife} {clock : Nat} {noted : List Nat}
    (tracks : Tracks ⟨life, clock, deeds⟩ noted) (answers : life.engine = .answering)
    (later : clock ≤ time) :
    Tracks ⟨{ life with engine := .crashed time }, time, deeds ++ [.crashed time]⟩ noted := by
  have runs := tracks.answering answers
  have none' := EngineLife.unfound_of_answering answers
  have found : EngineLife.unfound { life with engine := .crashed time } = some time := if_pos runs
  have unfailed : life.machine.state.isFailed = false := by
    by_contra fails
    have stopped := (tracks.failed (by simpa using fails)).1
    rw [show life.running = true from runs] at stopped
    cases stopped
  have untripped : (tally deeds).tripped = false := by
    by_contra trips
    obtain ⟨time, member, _⟩ := tracks.waiting runs (by simpa using trips)
    rw [none'] at member
    cases member
  have remembers := tracks.remembers
  have streak := tracks.streak
  simp only [none'] at remembers streak
  refine ⟨?_, ?_, tracks.row, ?_, ?_, ?_, ?_, ?_, ?_, ?_⟩
  · rw [found]
    exact remembers.unfinds later
  · exact fun fails => absurd (fails.symm.trans unfailed) (by decide)
  · rintro ⟨⟩
  · rw [found, tally_append]
    exact congrArg (· ++ [time]) (streak.trans (List.append_nil noted))
  · rw [found]
    intro crashed member
    obtain rfl := Option.some.inj member
    exact Nat.le_refl _
  · rw [found, tally_append]
    intro trips
    have enough : 5 ≤ fresh (tally deeds).streak 60000 time := by
      have either : ((tally deeds).tripped || decide (5 ≤ fresh (tally deeds).streak 60000 time)) =
        true := trips
      rw [untripped, Bool.false_or] at either
      exact of_decide_eq_true either
    rw [streak, Option.toList_none, List.append_nil] at enough
    exact .inr ⟨time, rfl, enough⟩
  · exact tracks.shielded.concat nofun
  · exact tracks.spaced.concat fun earlier _ => waits_of_idle earlier _ fun _ => by simp
  · intro runs deed member
    rcases List.mem_append.mp member with member | member
    · exact (tracks.due runs deed member).later later
    · obtain rfl := List.mem_singleton.mp member
      trivial

theorem probe_tracks {life : EngineLife} {clock : Nat} {noted : List Nat}
    (tracks : Tracks ⟨life, clock, deeds⟩ noted) (later : clock ≤ time) :
    Tracks ⟨life.monitorHealth time, time, deeds⟩ noted := by
  cases runs : life.running with
  | false =>
    rw [EngineLife.monitorHealth, if_pos runs]
    exact tracks.later later
  | true =>
    rw [EngineLife.monitorHealth, if_neg (by simp [runs])]
    obtain ⟨event, vital, same⟩ : ∃ event, HealthStateMachine.isVital event = true ∧
        (if life.engine = .answering then HealthEvent.ok
          else .unhealthy "engine /health probe failed") = event := by
      by_cases answers : life.engine = .answering
      · exact ⟨_, rfl, if_pos answers⟩
      · exact ⟨_, rfl, if_neg answers⟩
    rw [same]
    have steady := life.machine.onEvent_vital vital time
    have cached := tracks.caches steady later
    cases noted' : life.machine.onEvent event time with
    | mk transition machine =>
      have kept : life.noteEvent event time = (transition, { life with health := some machine }) :=
        EngineLife.noteEvent_eq rfl noted'
      rw [noted'] at cached
      simp only [kept]
      cases transition with
      | stateChanged source target =>
        have named := HealthStateMachine.onEvent_vital_target vital (congrArg Prod.fst noted')
        obtain ⟨health, row, engine⟩ := life
        cases row with
        | none => cases runs
        | some instance' =>
          refine { cached with
            failed := fun fails => ?_
            row := ?_ }
          · have stopped := (cached.failed fails).1
            exact absurd (stopped.symm.trans runs) (by decide)
          · intro other member _
            obtain rfl := Option.some.inj member
            rcases named with rfl | rfl
            · exact ⟨by simp, by simp⟩
            · exact ⟨by simp, by simp⟩
      | _ => exact cached

/-- **A reset keeps track**, when it leaves no crash to be found. -/
theorem reset_tracks {life life' : EngineLife} {clock : Nat}
    {noted : List Nat} (tracks : Tracks ⟨life, clock, deeds⟩ noted) (later : clock ≤ time)
    (resets : isReset deed = true) (dead : life'.engine ≠ .answering) (none' : life'.unfound = none)
    (remembers : Remembers life'.machine time none [])
    (failed : life'.machine.state.isFailed = true → life'.running = false ∧
      ∀ instance' ∈ life'.row, instance'.state = "failed")
    (row : ∀ instance' ∈ life'.row, instance'.running = true →
      instance'.state ≠ "failed" ∧ instance'.state ≠ "stopped")
    (tripped : ((tally deeds).tell deed).tripped = true → life'.machine.state.isFailed = true)
    (due : life'.running = true → life.running = true) :
    Tracks ⟨life', time, deeds ++ [deed]⟩ [] := by
  have idle : ∀ time, deed ≠ .startAttempted time := by
    rintro time rfl
    cases resets
  refine ⟨none' ▸ remembers, failed, row, ?_, ?_, ?_, ?_, ?_, ?_, ?_⟩
  · exact fun answers => absurd answers dead
  · rw [none', tally_append]
    cases deed <;> first | rfl | cases resets
  · rw [none']
    exact nofun
  · rw [tally_append]
    exact fun trips => .inl (tripped trips)
  · exact tracks.shielded.concat fun time same => absurd same (idle time)
  · exact tracks.spaced.concat fun earlier _ => waits_of_idle earlier _ idle
  · intro runs other member
    rcases List.mem_append.mp member with member | member
    · exact (tracks.due (due runs) other member).later later
    · obtain rfl := List.mem_singleton.mp member
      cases other <;> trivial

theorem Tracks.fails {noted : List Nat} (tracks : Tracks chronicle noted)
    (found : chronicle.life.unfound = none) (trips : (tally chronicle.deeds).tripped = true) :
    chronicle.life.machine.state.isFailed = true := by
  rcases tracks.tripped trips with fails | ⟨time, member, _⟩
  · exact fails
  · rw [found] at member
    cases member

theorem restored_failed {row : Option RuntimeInstance} (present : row ≠ none)
    (failed : ∀ instance' ∈ row, instance'.state = "failed") (engine : Engine) :
    (EngineLife.machine ⟨none, row, engine⟩).state.isFailed = true := by
  cases row with
  | none => exact absurd rfl present
  | some instance' =>
    have named := failed instance' rfl
    simp only [EngineLife.machine, Option.map_some, Option.getD_none, Option.getD_some, named]
    rfl

theorem restored_remembers (row : Option RuntimeInstance) (engine : Engine) (clock : Nat) :
    Remembers (EngineLife.machine ⟨none, row, engine⟩) clock none [] := by
  cases row with
  | none => exact .blank rfl (.inr (.inr rfl))
  | some instance' =>
    refine .blank rfl ?_
    simp only [EngineLife.machine, Option.map_some, Option.getD_none, Option.getD_some,
      HealthStateMachine.fromPersisted]
    by_cases failed : instance'.state = "failed"
    · rw [if_pos failed]
      exact .inl rfl
    · by_cases stopped : instance'.state = "stopped"
      · rw [if_neg failed, if_pos stopped]
        exact .inr (.inl rfl)
      · rw [if_neg failed, if_neg stopped]
        exact .inr (.inr rfl)

theorem restored_named {row : Option RuntimeInstance} {engine : Engine}
    (failed : (EngineLife.machine ⟨none, row, engine⟩).state.isFailed = true) :
    ∀ instance' ∈ row, instance'.state = "failed" := by
  rintro instance' rfl
  by_contra unfailed
  simp only [EngineLife.machine, Option.map_some, Option.getD_none, Option.getD_some,
    HealthStateMachine.fromPersisted, if_neg unfailed] at failed
  split at failed <;> cases failed

theorem evict_tracks {life : EngineLife} {clock : Nat} {noted : List Nat}
    (tracks : Tracks ⟨life, clock, deeds⟩ noted) (runs : life.running = true)
    (found : life.unfound = none) (later : clock ≤ time) :
    Tracks ⟨life.evict, time, deeds ++ [.evicted]⟩ [] := by
  refine reset_tracks tracks later rfl nofun (EngineLife.unfound_of_absent rfl)
    (restored_remembers _ _ _) ?_ ?_ ?_ fun _ => runs
  · intro failed
    refine ⟨?_, restored_named failed⟩
    rw [EngineLife.evict, EngineLife.running]
    cases life.row <;> rfl
  · intro instance' member runs
    obtain ⟨before, _, rfl⟩ := Option.map_eq_some_iff.mp member
    cases runs
  · intro trips
    have stopped := (tracks.failed (tracks.fails found trips)).1
    exact absurd (stopped.symm.trans runs) (by decide)

theorem serverRestart_tracks {life : EngineLife} {clock : Nat}
    {noted : List Nat} (tracks : Tracks ⟨life, clock, deeds⟩ noted) (found : life.unfound = none)
    (stored : life.machine.state.isFailed = true → life.row ≠ none) (later : clock ≤ time) :
    Tracks ⟨⟨none, life.row, .absent⟩, time, deeds ++ [.serverRestarted]⟩ [] := by
  refine reset_tracks tracks later rfl nofun (EngineLife.unfound_of_absent rfl)
    (restored_remembers _ _ _) ?_ tracks.row ?_ id
  · intro failed
    have named := restored_named failed
    refine ⟨?_, named⟩
    by_contra runs
    cases present : life.row with
    | none => exact runs (by rw [present]; rfl)
    | some instance' =>
      have runs : instance'.running = true := by
        rw [present] at runs
        exact eq_true_of_ne_false runs
      exact (tracks.row instance' present runs).1 (named instance' present)
  · intro trips
    have fails := tracks.fails found trips
    exact restored_failed (stored fails) (tracks.failed fails).2 _

theorem adminStop_tracks {life : EngineLife} {clock : Nat}
    {noted : List Nat} (tracks : Tracks ⟨life, clock, deeds⟩ noted) (found : life.unfound = none)
    (known : Bool) (later : clock ≤ time) :
    ∃ noted', Tracks ⟨(life.stopModelInstance known).2, time,
      deeds ++ (life.stopModelInstance known).1⟩ noted' := by
  obtain ⟨health, row, engine⟩ := life
  cases row with
  | none =>
    rw [EngineLife.stopModelInstance, List.append_nil]
    exact ⟨noted, tracks.later later⟩
  | some instance' =>
    have idle : ∀ other ∈ some { instance' with running := false }, other.running = true →
        other.state ≠ "failed" ∧ other.state ≠ "stopped" := by
      intro other member runs
      obtain rfl := Option.some.inj member
      cases runs
    refine ⟨[], ?_⟩
    cases known with
    | true =>
      refine reset_tracks tracks later rfl nofun (EngineLife.unfound_of_absent rfl)
        (restored_remembers _ _ _) ?_ idle ?_ ?_
      · exact fun failed => ⟨rfl, restored_named failed⟩
      · intro trips
        have named := (tracks.failed (tracks.fails found trips)).2 instance' rfl
        refine restored_failed (by simp) (fun other member => ?_) _
        obtain rfl := Option.some.inj member
        exact named
      · rintro ⟨⟩
    | false =>
      refine reset_tracks tracks later rfl nofun (EngineLife.unfound_of_absent rfl)
        tracks.remembers.forgets ?_ idle ?_ ?_
      · intro failed
        refine ⟨rfl, fun other member => ?_⟩
        obtain rfl := Option.some.inj member
        exact (tracks.failed failed).2 instance' rfl
      · exact tracks.fails found
      · rintro ⟨⟩

theorem adminClear_tracks {life : EngineLife} {clock : Nat}
    {noted : List Nat} (tracks : Tracks ⟨life, clock, deeds⟩ noted) (later : clock ≤ time) :
    ∃ noted', Tracks ⟨(life.clearFailedInstance time).2, time,
      deeds ++ (life.clearFailedInstance time).1⟩ noted' := by
  have cached := tracks.caches (.refl _) later
  cases failed : life.machine.state.isFailed with
  | false =>
    have nothing : life.clearFailedInstance time = ([], life.ensureRestored) := by
      rw [EngineLife.clearFailedInstance]
      exact if_neg (by rw [show life.ensureRestored.machine = life.machine from rfl, failed]; simp)
    rw [nothing, List.append_nil]
    exact ⟨noted, cached⟩
  | true =>
    obtain ⟨transition, machine, noted', state, window⟩ :=
      HealthStateMachine.onEvent_clearFailed failed time
    have cleared : life.clearFailedInstance time = ([.cleared], ⟨some machine,
        life.row.map fun instance' => if instance'.state = "failed" then
          { instance' with state := "stopped", lastFailureReason := none } else instance',
        life.engine⟩) := by
      have kept : life.ensureRestored.noteEvent .clearFailed time =
          (transition, { life.ensureRestored with health := some machine }) :=
        EngineLife.noteEvent_eq rfl noted'
      rw [EngineLife.clearFailedInstance]
      simp only [show life.ensureRestored.machine = life.machine from rfl, failed, if_true, kept]
      rfl
    rw [cleared]
    have stopped := (tracks.failed failed).1
    have kept : EngineLife.running ⟨some machine, life.row.map fun instance' =>
        if instance'.state = "failed" then
          { instance' with state := "stopped", lastFailureReason := none } else instance',
        life.engine⟩ = false := by
      cases present : life.row with
      | none => rfl
      | some instance' =>
        have stopped : instance'.running = false := by
          rw [EngineLife.running, present] at stopped
          exact stopped
        by_cases named : instance'.state = "failed"
        · simp [EngineLife.running, named, stopped]
        · simp [EngineLife.running, named, stopped]
    refine ⟨[], reset_tracks tracks later rfl ?_
      (EngineLife.unfound_of_stopped kept) ?_ ?_ ?_ ?_ ?_⟩
    · intro answers
      have runs := tracks.answering answers
      exact absurd (stopped.symm.trans runs) (by decide)
    · refine ⟨?_, ?_, .inr (.inl state), fun _ => rfl, fun counts => ?_⟩
      · rw [show EngineLife.machine _ = machine from rfl, window]
        exact tracks.remembers.window
      · rw [show EngineLife.machine _ = machine from rfl, window]
        exact tracks.remembers.maxEvents
      · rw [show EngineLife.machine _ = machine from rfl, state] at counts
        cases counts
    · intro fails
      rw [show EngineLife.machine _ = machine from rfl, state] at fails
      cases fails
    · intro other member runs
      rw [EngineLife.running, show (_ : Option RuntimeInstance) = some other from member] at kept
      exact absurd (kept.symm.trans runs) (by decide)
    · rintro ⟨⟩
    · exact fun runs => absurd (kept.symm.trans runs) (by decide)

/-- **Every step keeps track.** -/
theorem heeded_tracks {chronicle' : Chronicle} {happening : Happening}
    (tracks : ∃ noted, Tracks chronicle noted) (heeded : chronicle.Heeded happening chronicle') :
    ∃ noted, Tracks chronicle' noted := by
  obtain ⟨noted, tracks⟩ := tracks
  obtain ⟨meets, step⟩ := heeded
  obtain ⟨life, clock, deeds⟩ := chronicle
  cases step with
  | happens possible later =>
    cases happening with
    | call found proceeds ended started => exact call_tracks tracks later possible meets
    | crash time => exact ⟨noted, crash_tracks tracks possible later⟩
    | probe time =>
      have probed : life.happen (.probe time) = ([], life.monitorHealth time) := rfl
      refine ⟨noted, ?_⟩
      rw [Chronicle.next, probed, List.append_nil]
      exact probe_tracks tracks later
    | evict time => exact ⟨[], evict_tracks tracks possible meets later⟩
    | serverRestart time => exact ⟨[], serverRestart_tracks tracks meets.1 meets.2 later⟩
    | adminStop time known => exact adminStop_tracks tracks meets known later
    | adminClear time => exact adminClear_tracks tracks later

theorem blank_tracks : Tracks .blank [] := by
  refine ⟨.blank rfl (.inr (.inr rfl)), ?_, ?_, ?_, rfl, ?_, ?_, ?_, List.Pairwise.nil, ?_⟩
  · rintro ⟨⟩
  · exact nofun
  · rintro ⟨⟩
  · exact nofun
  · rintro ⟨⟩
  · intro before time initial
    exact absurd (List.prefix_nil.mp initial) (by simp)
  · rintro ⟨⟩

/-! ### Histories -/

/-- All of these happen, one after the other. -/
def Chronicle.pass : Chronicle → List Happening → Chronicle
  | chronicle, [] => chronicle
  | chronicle, happening :: rest => (chronicle.next happening).pass rest

/-- They can happen, and meet the condition where it is asked for. -/
def Chronicle.allows (heeded : Bool) : Chronicle → List Happening → Bool
  | _, [] => true
  | chronicle, happening :: rest =>
    decide (happening.Possible chronicle.life) && decide (chronicle.clock ≤ happening.begins) &&
      (!heeded || decide (Meets chronicle happening)) &&
      (chronicle.next happening).allows heeded rest

theorem follows_pass {heeded : Bool} {log : List Happening} :
    ∀ {chronicle : Chronicle}, chronicle.allows heeded log = true →
      Follows (fun chronicle happening chronicle' => (heeded = true → Meets chronicle happening) ∧
        chronicle.Step happening chronicle') chronicle log (chronicle.pass log) := by
  induction log with
  | nil => exact fun _ => .nil _
  | cons happening rest ih =>
    intro chronicle allowed
    simp only [Chronicle.allows, Bool.and_eq_true, decide_eq_true_eq, Bool.or_eq_true,
      Bool.not_eq_true'] at allowed
    obtain ⟨⟨⟨possible, later⟩, meets⟩, rest⟩ := allowed
    refine .cons ⟨fun asked => ?_, .happens possible later⟩ (ih rest)
    rcases meets with unasked | meets
    · rw [asked] at unasked
      cases unasked
    · exact meets

/-- An engine that crashes, is found in backoff, and is started at the deadline. -/
def patientCalls : List Happening :=
  [.call 0 0 100 true, .crash 1000, .call 2000 2000 2000 true, .call 3500 3500 3600 true]

/-- A start fails, and the next one comes in its backoff. -/
def earlyCalls : List Happening := [.call 0 0 100 false, .call 200 200 300 false]

def failingCalls : List Happening :=
  [.call 0 0 100 true, .evict 3600000] ++ (List.range 7).map fun second =>
      .call (3600000 + 1000 * second) (3600000 + 1000 * second) (3600500 + 1000 * second) false

def sixFailures : List Deed :=
  (List.range 6).flatMap fun second =>
    [.startAttempted (3600000 + 1000 * second), .startFailed (3600500 + 1000 * second)]

/-! ### The result -/

/-- **Crash loops are held up**: in every history whose steps meet the condition, no start comes
before a deadline, and after too many crashes none comes until an admin clears the failure. -/
theorem crash_loops_held {chronicle : Chronicle} {log : List Happening}
    (follows : Follows Chronicle.Heeded .blank log chronicle) :
    Spaced chronicle.deeds ∧ Protected chronicle.deeds := by
  obtain ⟨noted, tracks⟩ := follows.preserves (fun chronicle => ∃ noted, Tracks chronicle noted)
    heeded_tracks ⟨[], blank_tracks⟩
  exact ⟨tracks.spaced, tracks.shielded.protects⟩

theorem patient_protected : Spaced (Chronicle.blank.pass patientCalls).deeds ∧
    Protected (Chronicle.blank.pass patientCalls).deeds := by
  have follows := @follows_pass true patientCalls .blank (by decide +kernel)
  exact crash_loops_held (follows.mono fun step => ⟨step.1 rfl, step.2⟩)

/-- A start that does not wait for its deadline; and an engine that was evicted once, whose starts
fail without an end. -/
theorem crash_loops_run : (¬ ∀ {chronicle : Chronicle} {log : List Happening},
      Follows Chronicle.Step .blank log chronicle → Spaced chronicle.deeds) ∧
    ¬ ∀ {chronicle : Chronicle} {log : List Happening},
      Follows Chronicle.Step .blank log chronicle → Protected chronicle.deeds := by
  constructor
  · intro all
    have follows := @follows_pass false earlyCalls .blank (by decide +kernel)
    have spaced := all (follows.mono fun step => step.2)
    have seen : (Chronicle.blank.pass earlyCalls).deeds = [.startAttempted 0, .startFailed 100,
        .restartAnswered 1100, .startAttempted 200, .startFailed 300, .restartAnswered 2300] := by
      decide +kernel
    rw [seen] at spaced
    have waits : 1100 ≤ 200 := List.rel_of_pairwise_cons spaced.tail.tail List.mem_cons_self
    exact absurd waits (by decide)
  · intro all
    have follows := @follows_pass false failingCalls .blank (by decide +kernel)
    have protects := all (follows.mono fun step => step.2)
    have seen : (Chronicle.blank.pass failingCalls).deeds = [.startAttempted 0, .evicted] ++
        sixFailures ++ [.startAttempted 3606000, .startFailed 3606500] := by decide +kernel
    have cleared := protects ([.startAttempted 0, .evicted] ++ sixFailures) [] 3606000
      ⟨[.startFailed 3606500], by rw [seen]; rfl⟩
      ⟨_, sixFailures, rfl, by decide, by decide, by decide⟩
    cases cleared

end Ziee.LocalRuntime
