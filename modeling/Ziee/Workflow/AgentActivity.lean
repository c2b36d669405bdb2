/-
**The activity log of an agent step** (`agent_dispatch.rs`, `repository.rs`).

Each segment of an agent step, from its dispatch to its end or its suspension, has a sink of its
own, which numbers the entries it emits from 0. The entries are appended by tasks of their own, in
any order. An append keeps the 500 entries with the highest numbers, in ascending order of the
numbers; entries with equal numbers come out in any order.

* `emitted` — what the segments of a step emit, in order.
* `recorded_recent_iff` — exactly when the last segment outlasts the others is the log the most
  recent entries in the order of emission. Else an entry of the last segment has the number of an
  earlier one, and the two are taken for each other.
-/

import Ziee.Library.HighestRows

namespace Ziee.Workflow.Activity

open PortProgram Ziee.Library.HighestRows

inductive AgentActivityKind
  | thinking
  | toolCall
  | toolResult
  | message
  | gate
  | compaction
  deriving DecidableEq, Repr

inductive AgentActivityStatus
  | running
  | ok
  | error
  deriving DecidableEq, Repr

/-- What a sink is asked to push. -/
structure AgentActivity where
  kind : AgentActivityKind
  tool : Option String
  title : String
  detail : Option String
  status : AgentActivityStatus
  deriving DecidableEq, Repr

/-- An emitted entry. The log's JSON has the number and the activity; the segment is ours, to tell
apart what the log cannot. -/
structure Entry where
  segment : Nat
  seq : Nat
  activity : AgentActivity
  deriving DecidableEq, Repr

/-- The entries a sink pushes, from a number on (`seq.fetch_add(1)`). -/
def pushAll (segment : Nat) : Nat → List AgentActivity → List Entry
  | _, [] => []
  | seq, activity :: rest => ⟨segment, seq, activity⟩ :: pushAll segment (seq + 1) rest

/-- What segments emit, from a segment on; each has a new sink (`seq: AtomicU64::new(0)`). -/
def emittedFrom : Nat → List (List AgentActivity) → List Entry
  | _, [] => []
  | segment, activities :: rest => pushAll segment 0 activities ++ emittedFrom (segment + 1) rest

/-- **What a step emits**, in order. -/
def emitted (segments : List (List AgentActivity)) : List Entry := emittedFrom 0 segments

/-! ### What is stored -/

def agentActivityMaxEntries : Nat := 500

/-- **`append_agent_activity`**: `ORDER BY seq DESC LIMIT 500`, aggregated `ORDER BY seq`. -/
def AppendAgentActivity : List Entry → Entry → List Entry → Prop :=
  Appends Entry.seq agentActivityMaxEntries

/-- **A complete run**: the step's entries are appended, each once, in some order. -/
def Recorded (segments : List (List AgentActivity)) (stored : List Entry) : Prop :=
  ∃ arrival : List Entry, arrival.Perm (emitted segments) ∧
    Follows AppendAgentActivity [] arrival stored

/-- **The most recent entries**, in the order of emission. -/
def recent (entries : List Entry) : List Entry :=
  entries.drop (entries.length - agentActivityMaxEntries)

/-- Every segment before the last one that emitted anything emitted so much less that the last one's
500 highest numbers are above all of its own. -/
def LastOutlasts (segments : List (List AgentActivity)) : Prop :=
  ∀ earlier last later, segments = earlier ++ last :: later → last ≠ [] →
    (∀ segment ∈ later, segment = []) →
    ∀ segment ∈ earlier, segment.length ≤ last.length - agentActivityMaxEntries

/-! ### The entries of a step -/

section Entries

variable {segment first seq : Nat} {activities : List AgentActivity}
  {segments earlier later : List (List AgentActivity)} {entry : Entry}

theorem length_pushAll : (pushAll segment seq activities).length = activities.length := by
  induction activities generalizing seq with
  | nil => rfl
  | cons activity rest ih => simp [pushAll, ih]

theorem seq_pushAll (segment seq : Nat) (activities : List AgentActivity) :
    (pushAll segment seq activities).map Entry.seq = List.range' seq activities.length := by
  induction activities generalizing seq with
  | nil => rfl
  | cons activity rest ih => simp [pushAll, ih, List.range'_succ]

theorem segment_of_mem_pushAll (member : entry ∈ pushAll segment seq activities) :
    entry.segment = segment := by
  induction activities generalizing seq with
  | nil => exact absurd member List.not_mem_nil
  | cons activity rest ih =>
    obtain rfl | inside := List.mem_cons.mp member
    · rfl
    · exact ih inside

theorem seq_of_mem_pushAll (member : entry ∈ pushAll segment seq activities) :
    seq ≤ entry.seq ∧ entry.seq < seq + activities.length := by
  have listed : entry.seq ∈ List.range' seq activities.length :=
    seq_pushAll segment seq activities ▸ List.mem_map_of_mem member
  simpa using listed

theorem pushAll_nodup : (pushAll segment seq activities).Nodup := by
  refine List.Nodup.of_map Entry.seq ?_
  rw [seq_pushAll]
  exact List.nodup_range'

theorem emittedFrom_append : emittedFrom first (earlier ++ later) =
    emittedFrom first earlier ++ emittedFrom (first + earlier.length) later := by
  induction earlier generalizing first with
  | nil => rfl
  | cons activities rest ih =>
    rw [List.cons_append, emittedFrom, ih, emittedFrom, List.append_assoc, List.length_cons,
      Nat.add_assoc, Nat.add_comm 1]

theorem emittedFrom_silent (silent : ∀ activities ∈ segments, activities = []) :
    emittedFrom first segments = [] := by
  induction segments generalizing first with
  | nil => rfl
  | cons activities rest ih =>
    rw [emittedFrom, silent activities List.mem_cons_self,
      ih fun other member => silent other (List.mem_cons_of_mem _ member)]
    rfl

theorem mem_emittedFrom (member : entry ∈ emittedFrom first segments) :
    first ≤ entry.segment ∧ ∃ activities ∈ segments, entry.seq < activities.length := by
  induction segments generalizing first with
  | nil => exact absurd member List.not_mem_nil
  | cons activities rest ih =>
    obtain here | there := List.mem_append.mp member
    · have bounds := seq_of_mem_pushAll here
      exact ⟨(segment_of_mem_pushAll here).ge, activities, List.mem_cons_self, by omega⟩
    · obtain ⟨after, other, among, below⟩ := ih there
      exact ⟨by omega, other, List.mem_cons_of_mem _ among, below⟩

theorem exists_mem_emittedFrom (first : Nat) (among : activities ∈ segments)
    (below : seq < activities.length) : ∃ entry ∈ emittedFrom first segments, entry.seq = seq ∧
      entry.segment < first + segments.length := by
  induction segments generalizing first with
  | nil => exact absurd among List.not_mem_nil
  | cons head rest ih =>
    obtain rfl | inside := List.mem_cons.mp among
    · have listed : seq ∈ (pushAll first 0 activities).map Entry.seq := by
        rw [seq_pushAll]
        simpa using below
      obtain ⟨entry, member, number⟩ := List.mem_map.mp listed
      refine ⟨entry, List.mem_append_left _ member, number, ?_⟩
      rw [segment_of_mem_pushAll member, List.length_cons]
      omega
    · obtain ⟨entry, member, number, before⟩ := ih (first + 1) inside
      refine ⟨entry, List.mem_append_right _ member, number, ?_⟩
      rw [List.length_cons]
      omega

theorem emittedFrom_nodup : (emittedFrom first segments).Nodup := by
  induction segments generalizing first with
  | nil => exact List.nodup_nil
  | cons activities rest ih =>
    rw [emittedFrom, List.nodup_append]
    refine ⟨pushAll_nodup, ih, fun entry here other there same => ?_⟩
    have after := (mem_emittedFrom there).1
    rw [← same, segment_of_mem_pushAll here] at after
    exact absurd after (Nat.not_succ_le_self _)

end Entries

/-! ### The last segment that emitted anything -/

section Last

variable {earlier later : List (List AgentActivity)} {last : List AgentActivity}

theorem emitted_last (silent : ∀ segment ∈ later, segment = []) :
    emitted (earlier ++ last :: later) =
      emittedFrom 0 earlier ++ pushAll earlier.length 0 last := by
  rw [emitted, emittedFrom_append, emittedFrom, emittedFrom_silent silent, List.append_nil,
    Nat.zero_add]

theorem exists_last (segments : List (List AgentActivity)) :
    (∀ segment ∈ segments, segment = []) ∨ ∃ earlier last later,
      segments = earlier ++ last :: later ∧ last ≠ [] ∧ ∀ segment ∈ later, segment = [] := by
  induction segments with
  | nil => exact .inl fun _ member => absurd member List.not_mem_nil
  | cons head rest ih =>
    obtain silent | ⟨earlier, last, later, rfl, spoke, silent⟩ := ih
    · by_cases empty : head = []
      · exact .inl fun segment member => (List.mem_cons.mp member).elim (fun same => same ▸ empty)
          (silent segment)
      · exact .inr ⟨[], head, rest, rfl, empty, silent⟩
    · exact .inr ⟨head :: earlier, last, later, rfl, spoke, silent⟩

theorem recent_last (before : List Entry)
    (quiet : last.length ≤ agentActivityMaxEntries → before = []) :
    recent (before ++ pushAll earlier.length 0 last) =
      (pushAll earlier.length 0 last).drop (last.length - agentActivityMaxEntries) := by
  unfold recent
  rw [List.length_append, length_pushAll]
  by_cases short : last.length ≤ agentActivityMaxEntries
  · rw [quiet short, List.nil_append, List.length_nil, Nat.zero_add]
  · have count : before.length + last.length - agentActivityMaxEntries =
        before.length + (last.length - agentActivityMaxEntries) := by omega
    rw [count, List.drop_length_add_append]

end Last

/-! ### When the log is the most recent entries -/

section Numbers

variable {segment count : Nat} {activities : List AgentActivity} {entry : Entry}

theorem seq_of_mem_drop (member : entry ∈ (pushAll segment 0 activities).drop count) :
    count ≤ entry.seq := by
  have listed : entry.seq ∈ (List.range' 0 activities.length).drop count := by
    rw [← seq_pushAll segment, ← List.map_drop]
    exact List.mem_map_of_mem member
  rw [List.drop_range'] at listed
  have bounds := List.mem_range'_1.mp listed
  omega

theorem seq_of_mem_take (member : entry ∈ (pushAll segment 0 activities).take count) :
    entry.seq < count := by
  have listed : entry.seq ∈ (List.range' 0 activities.length).take count := by
    rw [← seq_pushAll segment, ← List.map_take]
    exact List.mem_map_of_mem member
  obtain ⟨place, below, there⟩ := List.mem_take_iff_getElem.mp listed
  rw [List.getElem_range'] at there
  omega

theorem ascending_drop :
    ((pushAll segment 0 activities).drop count).Pairwise fun a b => a.seq < b.seq := by
  have numbers : ((pushAll segment 0 activities).map Entry.seq).Pairwise (· < ·) := by
    rw [seq_pushAll]
    exact List.pairwise_lt_range'
  exact (List.pairwise_map.mp numbers).sublist (List.drop_sublist count _)

end Numbers

/-- **When the last segment outlasts the others, the log is the most recent entries.** -/
theorem recent_of_outlasts {segments : List (List AgentActivity)} {stored : List Entry}
    (outlasts : LastOutlasts segments) (recorded : Recorded segments stored) :
    stored = recent (emitted segments) := by
  obtain ⟨arrival, same, run⟩ := recorded
  have highest := (highest_of_run run).perm same
  obtain silent | ⟨earlier, last, later, rfl, spoke, silent⟩ := exists_last segments
  · have nothing : emitted segments = [] := emittedFrom_silent silent
    rw [nothing] at highest ⊢
    exact List.length_eq_zero_iff.mp (by simpa using highest.full)
  · have fewer := outlasts earlier last later rfl spoke silent
    have quiet : last.length ≤ agentActivityMaxEntries → emittedFrom 0 earlier = [] := fun short =>
      emittedFrom_silent fun segment member => List.length_eq_zero_iff.mp
        (by have bound := fewer segment member; omega)
    rw [emitted_last silent] at highest ⊢
    rw [recent_last _ quiet]
    have parts : ((pushAll earlier.length 0 last).drop (last.length - agentActivityMaxEntries) ++
        (emittedFrom 0 earlier ++ (pushAll earlier.length 0 last).take
          (last.length - agentActivityMaxEntries))).Perm
        (emittedFrom 0 earlier ++ pushAll earlier.length 0 last) := by
      refine List.perm_append_comm.trans ?_
      rw [List.append_assoc, List.take_append_drop]
    refine highest.eq ?_ parts ?_ ascending_drop ?_
    · rw [← emitted_last silent]
      exact emittedFrom_nodup
    · rw [List.length_drop, length_pushAll, List.length_append, length_pushAll]
      by_cases short : last.length ≤ agentActivityMaxEntries
      · rw [quiet short, List.length_nil]
        omega
      · omega
    · intro low lower high held
      have above := seq_of_mem_drop held
      obtain before | own := List.mem_append.mp lower
      · obtain ⟨-, segment, among, below⟩ := mem_emittedFrom before
        have bound := fewer segment among
        omega
      · have below := seq_of_mem_take own
        omega

theorem mem_recent {before : List Entry} {segment : Nat} {last : List AgentActivity} {entry : Entry}
    (member : entry ∈ pushAll segment 0 last)
    (high : last.length - agentActivityMaxEntries ≤ entry.seq) :
    entry ∈ recent (before ++ pushAll segment 0 last) := by
  have kept : entry ∈ (pushAll segment 0 last).drop (last.length - agentActivityMaxEntries) := by
    rw [← List.take_append_drop (last.length - agentActivityMaxEntries)
      (pushAll segment 0 last)] at member
    refine (List.mem_append.mp member).resolve_left fun low => ?_
    exact absurd (seq_of_mem_take low) (Nat.not_lt.mpr high)
  rw [← @List.drop_length_add_append _ before] at kept
  refine (List.drop_sublist_drop_left _ ?_).subset kept
  rw [List.length_append, length_pushAll]
  omega

section Exchange

variable {old new : Entry}

theorem swap_seq (tie : old.seq = new.seq) (entry : Entry) :
    (Equiv.swap old new entry).seq = entry.seq := by
  rw [Equiv.swap_apply_def]
  split
  · rename_i same
    rw [same, tie]
  · split
    · rename_i same
      rw [same, tie]
    · rfl

theorem map_swap_perm {entries : List Entry} (distinct : entries.Nodup) (first : old ∈ entries)
    (second : new ∈ entries) : (entries.map (Equiv.swap old new)).Perm entries := by
  have closed : ∀ entry ∈ entries, Equiv.swap old new entry ∈ entries := by
    intro entry member
    rw [Equiv.swap_apply_def]
    split
    · exact second
    · split
      · exact first
      · exact member
  refine (List.perm_ext_iff_of_nodup (distinct.map (Equiv.swap old new).injective) distinct).mpr
    fun entry => ?_
  rw [List.mem_map]
  constructor
  · rintro ⟨other, member, rfl⟩
    exact closed other member
  · exact fun member => ⟨_, closed entry member, Equiv.swap_apply_self old new entry⟩

end Exchange

/-- **When it does not, two entries have one number, and the log can hold either in the other's
place.** -/
theorem outlasts_of_recent {segments : List (List AgentActivity)}
    (always : ∀ stored, Recorded segments stored → stored = recent (emitted segments)) :
    LastOutlasts segments := by
  rintro earlier last later rfl spoke silent segment among
  by_contra longer
  rw [Nat.not_le] at longer
  have whole : emitted (earlier ++ last :: later) =
      emittedFrom 0 earlier ++ pushAll earlier.length 0 last := emitted_last silent
  -- The first of the last segment's 500 highest numbers was given before.
  obtain ⟨old, oldMember, oldSeq, oldSegment⟩ := exists_mem_emittedFrom 0 among longer
  obtain ⟨new, newMember, newSeq⟩ : ∃ new ∈ pushAll earlier.length 0 last,
      new.seq = last.length - agentActivityMaxEntries := by
    have positive := List.length_pos_of_ne_nil spoke
    have listed : last.length - agentActivityMaxEntries ∈
        (pushAll earlier.length 0 last).map Entry.seq := by
      rw [seq_pushAll]
      simp only [List.mem_range'_1, agentActivityMaxEntries]
      omega
    exact List.mem_map.mp listed
  have differ : old ≠ new := by
    rintro rfl
    rw [segment_of_mem_pushAll newMember] at oldSegment
    omega
  have newRecent : new ∈ recent (emitted (earlier ++ last :: later)) := by
    rw [whole]
    exact mem_recent newMember newSeq.ge
  have distinct : (emitted (earlier ++ last :: later)).Nodup := emittedFrom_nodup
  have oldEmitted : old ∈ emitted (earlier ++ last :: later) :=
    whole ▸ List.mem_append_left _ oldMember
  have newEmitted : new ∈ emitted (earlier ++ last :: later) :=
    whole ▸ List.mem_append_right _ newMember
  obtain ⟨stored, run⟩ :=
    run_exists Entry.seq agentActivityMaxEntries [] (emitted (earlier ++ last :: later))
  have right := always stored ⟨_, .refl _, run⟩
  have exchanged := always (stored.map (Equiv.swap old new)) ⟨_, map_swap_perm distinct oldEmitted
    newEmitted, run_map (swap_seq (oldSeq.trans newSeq.symm)) run⟩
  rw [right] at exchanged
  -- Where the newer entry stands, the older one would.
  obtain ⟨place, there⟩ := List.mem_iff_getElem?.mp newRecent
  have both := congrArg (·[place]?) exchanged
  simp only [List.getElem?_map, there, Option.map_some, Equiv.swap_apply_right,
    Option.some.injEq] at both
  exact differ both

/-- **The log of a step is its most recent entries in the order of emission, in every run, exactly
when the last segment that emitted anything outlasts the segments before it by 500 entries.** -/
theorem recorded_recent_iff (segments : List (List AgentActivity)) :
    (∀ stored, Recorded segments stored → stored = recent (emitted segments)) ↔
      LastOutlasts segments :=
  ⟨outlasts_of_recent, fun outlasts _ recorded => recent_of_outlasts outlasts recorded⟩

/-- A step that never suspended has a log of its most recent entries. -/
example (activities : List AgentActivity) : LastOutlasts [activities] := by
  intro earlier last later same _ _ segment among
  obtain rfl : earlier = [] := by
    cases earlier with
    | nil => rfl
    | cons head rest => exact absurd (congrArg List.length same) (by simp)
  exact absurd among List.not_mem_nil

theorem resumed_entry_sorted_early :
    let running : AgentActivity := ⟨.message, none, "", none, .ok⟩
    ¬ ∀ stored, Recorded [[running, running], [running]] stored →
      stored = recent (emitted [[running, running], [running]]) := by
  intro running always
  have first : AppendAgentActivity [] ⟨0, 0, running⟩ [⟨0, 0, running⟩] :=
    ⟨[⟨0, 0, running⟩], by decide, by decide, by decide, by decide⟩
  have second : AppendAgentActivity [⟨0, 0, running⟩] ⟨0, 1, running⟩
      [⟨0, 0, running⟩, ⟨0, 1, running⟩] :=
    ⟨[⟨0, 1, running⟩, ⟨0, 0, running⟩], by decide, by decide, by decide, by decide⟩
  have third : AppendAgentActivity [⟨0, 0, running⟩, ⟨0, 1, running⟩] ⟨1, 0, running⟩
      [⟨0, 0, running⟩, ⟨1, 0, running⟩, ⟨0, 1, running⟩] :=
    ⟨[⟨0, 1, running⟩, ⟨0, 0, running⟩, ⟨1, 0, running⟩], by decide, by decide, by decide,
      by decide⟩
  have run := Follows.cons first (.cons second (.cons third (.nil _)))
  have wrong := always _ ⟨_, .refl _, run⟩
  revert wrong
  decide

end Ziee.Workflow.Activity
