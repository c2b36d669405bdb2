/-
**A rolling summary covers a prefix of its branch** (`refresh_summary`).

Refreshes run beside each other and beside the messages that come in; the last one writes the row.
Each reads the history first and the row later, so the row it reads may be ahead of its history.

* `refreshSummary` — one refresh; `SummaryStore` — the branch and its row.
* `Covers` — the row's anchor is the last message it counts, and these transcripts make up the
  transcript of the messages up to there.
* `full_covers`, `incremental_covers` — what a decision adds to a row that covers a prefix.
* `summary_rolls` — **the row always covers a prefix, and a decision leaves the longest suffix.**
-/

import Ziee.Library.RelyGuarantee
import Ziee.Providers.Text
import Ziee.Summary.Summarizer

namespace Ziee.Summary

open PortProgram Threads
open PortProgram.Program (attempt)
open Ziee.Agent (Uuid)
open Ziee.Providers (isBlank)

/-- A row of the table. The transcripts are not stored: they are the history of the row. -/
structure Kept where
  row : ConversationSummary
  transcripts : List String

inductive RefreshError
  | database
  | modelNotFound
  | provider

/-- What a refresh asks for; messages are appended by others. -/
inductive SummaryQuery
  | getConversationHistory
  | getAdminSettings
  | fetchSummary
  | getModel
  | callSummarizationLlm (action : SummarizeAction)
  | upsertSummary (kept : Kept)
  | appendMessage (message : StoredMessage)

/-- The settings are read or defaulted; of a model it matters whether it can generate. -/
abbrev SummaryAnswer : SummaryQuery → Type
  | .getConversationHistory => Except RefreshError (List StoredMessage)
  | .getAdminSettings => Nat × Nat
  | .fetchSummary => Except RefreshError (Option Kept)
  | .getModel => Except RefreshError Bool
  | .callSummarizationLlm _ => Except RefreshError String
  | .upsertSummary _ => Except RefreshError Unit
  | .appendMessage _ => Except RefreshError Unit

abbrev SummaryPort : Interface := ⟨SummaryQuery, SummaryAnswer⟩

abbrev Refreshing : Type → Type := Program SummaryPort RefreshError

abbrev SummaryEvent : Type := Event SummaryPort

def summarizable (history : List StoredMessage) : List SummarizableMessage :=
  (counted history).map messageToSummarizable

def getAdminSettings : Refreshing (Nat × Nat) := .ask .getAdminSettings .pure

def writeSummary (action : SummarizeAction) (kept : String → Kept) : Refreshing Unit := do
  let usable ← attempt .getModel id
  if usable then
    let text ← attempt (.callSummarizationLlm action) id
    if isBlank text then pure () else attempt (.upsertSummary (kept text)) id
  else pure ()

def refreshSummary (triggerOverride : Option Nat) : Refreshing Unit := do
  let history ← attempt .getConversationHistory id
  let settings ← getAdminSettings
  let window := applyWindowOverride settings.1 settings.2 triggerOverride
  let existing ← attempt .fetchSummary id
  let action :=
    decideSummarizeAction (summarizable history) window.1 window.2 (existing.map Kept.row)
  match action with
  | .noop => pure ()
  | .full transcript upTo count =>
    writeSummary action fun text => ⟨⟨text, some upTo, count⟩, [transcript]⟩
  | .incremental _ transcript upTo count =>
    writeSummary action fun text =>
      ⟨⟨text, some upTo, count⟩, (existing.map Kept.transcripts).getD [] ++ [transcript]⟩

def appendMessage (message : StoredMessage) : Refreshing Unit :=
  attempt (.appendMessage message) id

/-! ### The branch -/

/-- The branch and its row; no two messages have one id. -/
structure SummaryStore where
  history : List StoredMessage
  distinct : (history.map StoredMessage.id).Nodup
  summary : Option Kept

/-- A statement reads or writes as a whole, or fails. -/
def summaryAnswers : SummaryStore → SummaryEvent → SummaryStore → Prop
  | store, ⟨.getConversationHistory, answer⟩, store' =>
    store' = store ∧ ∀ history, answer = .ok history → history = store.history
  | store, ⟨.getAdminSettings, _⟩, store' => store' = store
  | store, ⟨.fetchSummary, answer⟩, store' =>
    store' = store ∧ ∀ kept, answer = .ok kept → kept = store.summary
  | store, ⟨.getModel, _⟩, store' => store' = store
  | store, ⟨.callSummarizationLlm _, _⟩, store' => store' = store
  | store, ⟨.upsertSummary kept, .ok _⟩, store' => store' = { store with summary := some kept }
  | store, ⟨.upsertSummary _, .error _⟩, store' => store' = store
  | store, ⟨.appendMessage message, .ok _⟩, store' =>
    store'.history = store.history ++ [message] ∧ store'.summary = store.summary
  | store, ⟨.appendMessage _, .error _⟩, store' => store' = store

/-- Refreshes and appended messages, on one branch. -/
def summaryMachine : Machine SummaryPort RefreshError Unit SummaryStore :=
    ⟨summaryAnswers, fun _ => []⟩

def newBranch (refreshes : List (Option Nat)) (messages : List StoredMessage) :
    Threads.Config SummaryPort RefreshError Unit SummaryStore :=
  ⟨⟨[], List.nodup_nil, none⟩, refreshes.map refreshSummary ++ messages.map appendMessage⟩

/-! ### Coverage -/

/-- **The row covers a prefix of the branch.** -/
structure Covers (branch : List SummarizableMessage) (kept : Kept) : Prop where
  positive : 0 < kept.row.messageCount
  anchored : ∃ anchor, branch[kept.row.messageCount - 1]? = some anchor ∧
    kept.row.summarizedUpToId = some anchor.id
  transcripts : String.join kept.transcripts = buildTranscript (branch.take kept.row.messageCount)

/-- What a refresh would add to the row: the condensed messages after its anchor, where it can be
built upon. -/
def toAdd (messages : List SummarizableMessage) (keepRecent : Nat)
    (existing : Option ConversationSummary) : List SummarizableMessage :=
  let toSummarize := messages.take (cutoff messages keepRecent)
  toSummarize.drop ((existing.bind (anchorIndex toSummarize)).elim 0 (· + 1))

/-- **What a decision leaves for the request**: a suffix that is neither empty nor everything, that
fits or is the newest message, and that no other one exceeds; and nothing is done only where the row
ends right before it, or where messages without a text would be added. -/
structure LeavesSuffix (messages : List SummarizableMessage) (trigger keepRecent : Nat)
    (existing : Option ConversationSummary) : Prop where
  proper : 0 < cutoff messages keepRecent ∧ cutoff messages keepRecent < messages.length
  fits : cutoff messages keepRecent + 1 = messages.length ∨
    tokensOf (messages.drop (cutoff messages keepRecent)) ≤ keepRecent
  longest : ∀ earlier < cutoff messages keepRecent, keepRecent < tokensOf (messages.drop earlier)
  full : ∀ transcript upTo count,
    decideSummarizeAction messages trigger keepRecent existing = .full transcript upTo count →
      count = cutoff messages keepRecent
  incremental : ∀ previous transcript upTo count,
    decideSummarizeAction messages trigger keepRecent existing =
        .incremental previous transcript upTo count → count = cutoff messages keepRecent
  noop : decideSummarizeAction messages trigger keepRecent existing = .noop →
    (∃ previous anchor, existing = some previous ∧ previous.summarizedUpToId = some anchor.id ∧
        messages[cutoff messages keepRecent - 1]? = some anchor) ∨
      toAdd messages keepRecent existing ≠ [] ∧
        buildTranscript (toAdd messages keepRecent existing) = ""

/-! ### One decision -/

section Decision

variable {messages branch toSummarize : List SummarizableMessage} {trigger keepRecent : Nat}
  {existing : Option ConversationSummary} {previous : ConversationSummary}

variable {last : SummarizableMessage} {transcript : String} {upTo : Uuid} {count : Nat}

theorem buildTranscript_append (first second : List SummarizableMessage) :
    buildTranscript (first ++ second) = buildTranscript first ++ buildTranscript second := by
  unfold buildTranscript
  rw [List.map_append, String.join_append]

theorem join_single (text : String) : String.join [text] = text := by
  rw [String.join_cons, String.join_nil, String.append_empty]

/-- **What a decision can be**, when the trigger is passed and something is condensed. -/
theorem decide_cases (existing : Option ConversationSummary) (passed : trigger < tokensOf messages)
    (final : (messages.take (cutoff messages keepRecent)).getLast? = some last) :
    (existing.bind (anchorIndex (messages.take (cutoff messages keepRecent))) = none ∧
      decideSummarizeAction messages trigger keepRecent existing =
        fullAction (messages.take (cutoff messages keepRecent)) last) ∨
    ∃ previous index, existing = some previous ∧
      anchorIndex (messages.take (cutoff messages keepRecent)) previous = some index ∧
      (decideSummarizeAction messages trigger keepRecent existing = .noop ∧
          buildTranscript ((messages.take (cutoff messages keepRecent)).drop (index + 1)) = "" ∨
        decideSummarizeAction messages trigger keepRecent existing =
          .incremental previous.summaryText
            (buildTranscript ((messages.take (cutoff messages keepRecent)).drop (index + 1)))
              last.id
            (messages.take (cutoff messages keepRecent)).length) := by
  generalize condensed : messages.take (cutoff messages keepRecent) = toSummarize at final
  unfold decideSummarizeAction
  rw [if_neg (Nat.not_le.mpr passed)]
  simp only [condensed, final]
  cases existing with
  | none => exact .inl ⟨rfl, rfl⟩
  | some previous =>
    cases found : anchorIndex toSummarize previous with
    | none => exact .inl ⟨found, by simp only [found]⟩
    | some index =>
      refine .inr ⟨previous, index, rfl, found, ?_⟩
      simp only [found]
      by_cases empty : toSummarize.drop (index + 1) = []
      · exact .inl ⟨if_pos empty, by rw [empty]; rfl⟩
      · by_cases blank : buildTranscript (toSummarize.drop (index + 1)) = ""
        · exact .inl ⟨by rw [if_neg empty, if_pos blank], blank⟩
        · exact .inr (by rw [if_neg empty, if_neg blank])

theorem decide_passed (acts : decideSummarizeAction messages trigger keepRecent existing ≠ .noop) :
    trigger < tokensOf messages ∧
      ∃ last, (messages.take (cutoff messages keepRecent)).getLast? = some last := by
  have passed : trigger < tokensOf messages := by
    by_contra within
    exact acts (if_pos (Nat.le_of_not_lt within))
  refine ⟨passed, ?_⟩
  cases final : (messages.take (cutoff messages keepRecent)).getLast? with
  | some last => exact ⟨last, rfl⟩
  | none =>
    refine absurd ?_ acts
    unfold decideSummarizeAction
    rw [if_neg (Nat.not_le.mpr passed)]
    simp only [final]

theorem fullAction_eq (full : fullAction toSummarize last = .full transcript upTo count) :
    transcript = buildTranscript toSummarize ∧ upTo = last.id ∧ count = toSummarize.length := by
  unfold fullAction at full
  split at full
  · cases full
  · injection full with first second third
    exact ⟨first.symm, second.symm, third.symm⟩

theorem condensed_last (part : toSummarize <+: branch) (final : toSummarize.getLast? = some last) :
    0 < toSummarize.length ∧ branch[toSummarize.length - 1]? = some last ∧
      branch.take toSummarize.length = toSummarize := by
  obtain ⟨rest, rfl⟩ := part
  have nonempty : toSummarize ≠ [] := by
    rintro rfl
    cases final
  have positive := List.length_pos_iff.mpr nonempty
  refine ⟨positive, ?_, List.take_left⟩
  rw [List.getElem?_append_left (by omega), ← List.getLast?_eq_getElem?]
  exact final

theorem anchorIndex_found {index : Nat} (found : anchorIndex toSummarize previous = some index) :
    previous.messageCount ≤ toSummarize.length ∧ ∃ anchor, toSummarize[index]? = some anchor ∧
      previous.summarizedUpToId = some anchor.id := by
  unfold anchorIndex at found
  obtain ⟨id, upTo, found⟩ := Option.bind_eq_some_iff.mp found
  split at found
  · next within =>
    obtain ⟨inside, same, -⟩ := List.findIdx?_eq_some_iff_getElem.mp found
    refine ⟨within, toSummarize[index], List.getElem?_eq_getElem inside, ?_⟩
    rw [upTo, eq_of_beq same]
  · cases found

/-- **The anchor of a row is found where the row says**, since ids are distinct. -/
theorem anchorIndex_covers (part : toSummarize <+: branch)
    (distinct : (branch.map SummarizableMessage.id).Nodup) {kept : Kept}
    (covers : Covers branch kept) {index : Nat}
    (found : anchorIndex toSummarize kept.row = some index) :
    index + 1 = kept.row.messageCount ∧ kept.row.messageCount ≤ toSummarize.length := by
  obtain ⟨within, anchor, here, upTo⟩ := anchorIndex_found found
  obtain ⟨anchor', there, upTo'⟩ := covers.anchored
  rw [upTo'] at upTo
  obtain ⟨rest, rfl⟩ := part
  have inside := (List.getElem?_eq_some_iff.mp here).1
  have same : ((toSummarize ++ rest).map SummarizableMessage.id)[index]? =
      ((toSummarize ++ rest).map SummarizableMessage.id)[kept.row.messageCount - 1]? := by
    rw [List.getElem?_map, List.getElem?_map, there, List.getElem?_append_left inside, here,
      Option.map_some, Option.map_some, Option.some.inj upTo]
  have position : index = kept.row.messageCount - 1 := (List.getElem?_inj (by
    rw [List.length_map, List.length_append]
    omega) distinct).mp same
  have positive := covers.positive
  exact ⟨by omega, within⟩

theorem full_covers (part : messages <+: branch)
    (full : decideSummarizeAction messages trigger keepRecent existing =
      .full transcript upTo count)
    (text : String) : Covers branch ⟨⟨text, some upTo, count⟩, [transcript]⟩ := by
  obtain ⟨passed, last, final⟩ := decide_passed (by rw [full]; intro wrong; cases wrong)
  have condensed : messages.take (cutoff messages keepRecent) <+: branch :=
    (List.take_prefix _ _).trans part
  rcases decide_cases existing passed final with ⟨-, action⟩ | ⟨_, _, -, -, other⟩
  · rw [full] at action
    obtain ⟨rfl, rfl, rfl⟩ := fullAction_eq action.symm
    obtain ⟨positive, anchored, whole⟩ := condensed_last condensed final
    refine ⟨positive, ⟨last, anchored, rfl⟩, ?_⟩
    rw [whole, join_single]
  · rw [full] at other
    rcases other with ⟨wrong, -⟩ | wrong <;> cases wrong

/-- **So does a summary on top of one that does**, also of a row that is ahead of the history. -/
theorem incremental_covers (part : messages <+: branch)
    (distinct : (branch.map SummarizableMessage.id).Nodup) {kept : Option Kept}
    (covers : ∀ row, kept = some row → Covers branch row) {previous : String}
    (incremental : decideSummarizeAction messages trigger keepRecent
      (kept.map Kept.row) = .incremental previous transcript upTo count) (text : String) :
    Covers branch ⟨⟨text, some upTo, count⟩,
      (kept.map Kept.transcripts).getD [] ++ [transcript]⟩ := by
  obtain ⟨passed, last, final⟩ := decide_passed (by rw [incremental]; intro wrong; cases wrong)
  have condensed : messages.take (cutoff messages keepRecent) <+: branch :=
    (List.take_prefix _ _).trans part
  rcases decide_cases (kept.map Kept.row) passed final with
    ⟨-, action⟩ | ⟨row, index, there, found, ⟨other, -⟩ | action⟩
  · rw [incremental] at action
    unfold fullAction at action
    split at action <;> cases action
  · rw [incremental] at other
    cases other
  · rw [incremental] at action
    injection action with first second third fourth
    subst first second third fourth
    cases kept with
    | none => cases there
    | some kept =>
      injection there with there
      subst there
      have old := covers kept rfl
      obtain ⟨next, within⟩ := anchorIndex_covers condensed distinct old found
      obtain ⟨positive, anchored, whole⟩ := condensed_last condensed final
      refine ⟨positive, ⟨last, anchored, rfl⟩, ?_⟩
      have earlier : branch.take kept.row.messageCount =
          (messages.take (cutoff messages keepRecent)).take kept.row.messageCount := by
        rw [← whole, List.take_take, Nat.min_eq_left within]
      calc String.join (kept.transcripts ++ [_])
          = buildTranscript (branch.take kept.row.messageCount) ++ buildTranscript
              ((messages.take (cutoff messages keepRecent)).drop (index + 1)) := by
            rw [String.join_append, old.transcripts, join_single]
        _ = buildTranscript (messages.take (cutoff messages keepRecent)) := by
            rw [earlier, next, ← buildTranscript_append, List.take_append_drop]
        _ = _ := by rw [whole]

end Decision

/-! ### A branch that grows -/

section Growth

variable {history history' : List StoredMessage} {branch branch' : List SummarizableMessage}
  {kept : Kept} {store : SummaryStore}

theorem summarizable_grows (grows : history <+: history') :
    summarizable history <+: summarizable history' :=
  (grows.filter _).map _

theorem summarizable_distinct (distinct : (history.map StoredMessage.id).Nodup) :
    ((summarizable history).map SummarizableMessage.id).Nodup := by
  rw [summarizable, List.map_map]
  exact (List.filter_sublist.map StoredMessage.id).nodup distinct

theorem Covers.grows (covers : Covers branch kept) (grows : branch <+: branch') :
    Covers branch' kept := by
  obtain ⟨positive, ⟨anchor, there, upTo⟩, transcripts⟩ := covers
  obtain ⟨more, rfl⟩ := grows
  have inside := (List.getElem?_eq_some_iff.mp there).1
  refine ⟨positive, ⟨anchor, ?_, upTo⟩, ?_⟩
  · rw [List.getElem?_append_left inside]
    exact there
  · rw [List.take_append_of_le_length (by omega)]
    exact transcripts

/-- Messages are not taken away. -/
def Grows (store store' : SummaryStore) : Prop := store.history <+: store'.history

def RowCovers (store : SummaryStore) : Prop :=
  ∀ kept, store.summary = some kept → Covers (summarizable store.history) kept

abbrev Keeps (store : SummaryStore) (program : Refreshing Unit) : Prop :=
  Upholds summaryAnswers Grows RowCovers store program

theorem grows_refl (store : SummaryStore) : Grows store store := List.prefix_refl _

/-- **A row that covers a prefix may be written** at any later time. -/
theorem writeSummary_keeps {action : SummarizeAction} {kept : String → Kept}
    (covers : ∀ text, Covers (summarizable store.history) (kept text)) :
    Keeps store (writeSummary action kept) := by
  refine Upholds.read grows_refl (fun _ _ _ same => same) fun now since _ _ _ usable _ => ?_
  cases usable with
  | false => trivial
  | true =>
    rw [if_pos rfl]
    refine Upholds.read grows_refl (fun _ _ _ same => same) fun later more _ _ _ text _ => ?_
    split
    · trivial
    · intro last since' holds answer after answered
      cases answer with
      | error error =>
        obtain rfl : after = last := answered
        exact ⟨holds, grows_refl after, trivial⟩
      | ok _ =>
        obtain rfl : after = { last with summary := some (kept text) } := answered
        refine ⟨fun row same => ?_, List.prefix_refl _, trivial⟩
        rw [← Option.some.inj same]
        exact (covers text).grows (summarizable_grows (since.trans (more.trans since')))

/-- **A refresh** writes what covers a prefix, whatever is appended and written meanwhile. -/
theorem refreshSummary_keeps (triggerOverride : Option Nat) :
    Keeps store (refreshSummary triggerOverride) := by
  refine Upholds.read grows_refl (fun _ _ _ same => same.1) fun first _ _ read _ history same => ?_
  obtain rfl : history = first.history := read.2 history same
  intro second since holds settings _ same
  obtain rfl := same
  refine ⟨holds, grows_refl _, ?_⟩
  refine Upholds.read grows_refl (fun _ _ _ same => same.1) fun third more _ read old existing
    same => ?_
  obtain rfl : existing = third.summary := read.2 existing same
  have part : summarizable first.history <+: summarizable third.history :=
    summarizable_grows (since.trans more)
  simp only
  split
  · trivial
  · next full => exact writeSummary_keeps (full_covers part full)
  · next incremental =>
    exact writeSummary_keeps
      (incremental_covers part (summarizable_distinct third.distinct) old incremental)

theorem appendMessage_keeps (message : StoredMessage) : Keeps store (appendMessage message) := by
  intro now _ holds answer later answered
  cases answer with
  | error error =>
    obtain rfl : later = now := answered
    exact ⟨holds, grows_refl later, trivial⟩
  | ok _ =>
    obtain ⟨history, row⟩ := answered
    have grows : Grows now later := ⟨[message], history.symm⟩
    refine ⟨fun kept same => ?_, grows, trivial⟩
    rw [row] at same
    exact (holds kept same).grows (summarizable_grows grows)

/-- **In every state of a branch the row covers a prefix of it.** -/
theorem rowCovers {refreshes : List (Option Nat)} {messages : List StoredMessage}
    {last : Threads.Config SummaryPort RefreshError Unit SummaryStore}
    {log : List (Nat × SummaryEvent)}
    (follows : Follows summaryMachine.Step (newBranch refreshes messages) log last) :
    RowCovers last.shared := by
  refine Machine.upheld Grows RowCovers grows_refl
    (fun _ _ _ first second => first.trans second) (fun _ => rfl) follows
    nofun fun program member => ?_
  rcases List.mem_append.mp member with refresh | appended
  · obtain ⟨override, -, rfl⟩ := List.mem_map.mp refresh
    exact refreshSummary_keeps override
  · obtain ⟨message, -, rfl⟩ := List.mem_map.mp appended
    exact appendMessage_keeps message

end Growth

/-! ### What is left -/

section Suffix

variable {messages : List SummarizableMessage} {trigger keepRecent : Nat}
  {existing : Option ConversationSummary}

theorem length_condensed (keepRecent : Nat) (nonempty : messages ≠ []) :
    (messages.take (cutoff messages keepRecent)).length = cutoff messages keepRecent := by
  rw [List.length_take]
  exact Nat.min_eq_left (cutoff_spec keepRecent nonempty).1.le

/-- **A decision leaves the longest suffix that fits.** -/
theorem leavesSuffix (below : keepRecent < trigger) (passed : trigger < tokensOf messages)
    (two : 2 ≤ messages.length) : LeavesSuffix messages trigger keepRecent existing := by
  have nonempty : messages ≠ [] := by
    rintro rfl
    exact absurd two (by decide)
  obtain ⟨proper, fits, longest⟩ := cutoff_spec keepRecent nonempty
  have positive : 0 < cutoff messages keepRecent := by
    by_contra zero
    rw [Nat.eq_zero_of_not_pos zero, List.drop_zero] at fits
    omega
  have length := length_condensed keepRecent nonempty
  obtain ⟨last, final⟩ : ∃ last,
      (messages.take (cutoff messages keepRecent)).getLast? = some last := by
    cases found : (messages.take (cutoff messages keepRecent)).getLast? with
    | some last => exact ⟨last, rfl⟩
    | none =>
      rw [List.getLast?_eq_none_iff.mp found, List.length_nil] at length
      omega
  obtain ⟨-, anchored, -⟩ := condensed_last (List.take_prefix _ _) final
  rw [length] at anchored
  have cases' := decide_cases existing passed final
  refine ⟨⟨positive, proper⟩, fits, longest, fun transcript upTo count full => ?_,
    fun previous transcript upTo count incremental => ?_, fun noop => ?_⟩
  · rcases cases' with ⟨-, action⟩ | ⟨_, _, -, -, ⟨other, -⟩ | other⟩
    · rw [full] at action
      rw [(fullAction_eq action.symm).2.2, length]
    · rw [full] at other
      cases other
    · rw [full] at other
      cases other
  · rcases cases' with ⟨-, action⟩ | ⟨_, _, -, -, ⟨other, -⟩ | action⟩
    · rw [incremental] at action
      unfold fullAction at action
      split at action <;> cases action
    · rw [incremental] at other
      cases other
    · rw [incremental] at action
      injection action with _ _ _ same
      rw [same, length]
  · rcases cases' with ⟨fresh, action⟩ | ⟨previous, index, there, found, ⟨-, blank⟩ | action⟩
    · rw [noop] at action
      refine .inr ?_
      rw [toAdd, fresh]
      unfold fullAction at action
      split at action
      · next blank =>
        refine ⟨fun empty => ?_, blank⟩
        have empty : messages.take (cutoff messages keepRecent) = [] := empty
        rw [empty] at final
        cases final
      · cases action
    · have adds : toAdd messages keepRecent existing =
          (messages.take (cutoff messages keepRecent)).drop (index + 1) := by
        rw [toAdd, there, Option.bind_some, found]
        rfl
      rw [adds]
      by_cases empty : (messages.take (cutoff messages keepRecent)).drop (index + 1) = []
      · obtain ⟨-, anchor, here, upTo⟩ := anchorIndex_found found
        have inside := (List.getElem?_eq_some_iff.mp here).1
        have most := List.drop_eq_nil_iff.mp empty
        rw [length] at inside most
        obtain rfl : index = cutoff messages keepRecent - 1 := by omega
        rw [List.getElem?_take_of_lt inside] at here
        exact .inl ⟨previous, anchor, there, upTo, here⟩
      · exact .inr ⟨empty, blank⟩
    · rw [noop] at action
      cases action

/-- **The rolling summary**: in every state the row covers a prefix of the branch; and a decision
leaves the longest suffix, and does nothing only when there is nothing to add. -/
theorem summary_rolls : (∀ refreshes messages log last,
      Follows summaryMachine.Step (newBranch refreshes messages) log last → RowCovers last.shared) ∧
    ∀ messages trigger keepRecent existing, keepRecent < trigger → trigger < tokensOf messages →
      2 ≤ messages.length → LeavesSuffix messages trigger keepRecent existing :=
  ⟨fun _ _ _ _ follows => rowCovers follows, fun _ _ _ _ below passed two =>
    leavesSuffix below passed two⟩

end Suffix

/-! ### A refresh among messages -/

def shortly (store : SummaryStore) : ∀ query, SummaryAnswer query × SummaryStore
  | .getConversationHistory => (.ok store.history, store)
  | .getAdminSettings => ((2, 1), store)
  | .fetchSummary => (.ok store.summary, store)
  | .getModel => (.ok true, store)
  | .callSummarizationLlm _ => (.ok "Counting.", store)
  | .upsertSummary kept => (.ok (), { store with summary := some kept })
  | .appendMessage message =>
    if fresh : ((store.history ++ [message]).map StoredMessage.id).Nodup then
      (.ok (), ⟨store.history ++ [message], fresh, store.summary⟩)
    else (.error .database, store)

theorem summaryAnswers_shortly (store : SummaryStore) (query : SummaryQuery) :
    summaryAnswers store ⟨query, (shortly store query).1⟩ (shortly store query).2 := by
  cases query with
  | getConversationHistory => exact ⟨rfl, fun _ same => (Except.ok.inj same).symm⟩
  | getAdminSettings => rfl
  | fetchSummary => exact ⟨rfl, fun _ same => (Except.ok.inj same).symm⟩
  | getModel | callSummarizationLlm | upsertSummary => rfl
  | appendMessage message =>
    rw [shortly]
    split
    · exact ⟨rfl, rfl⟩
    · rfl

def counting : List StoredMessage :=
  [⟨1, .user, [⟨some "one", none⟩]⟩, ⟨2, .assistant, [⟨some "two", none⟩]⟩,
    ⟨3, .user, [⟨some "three", none⟩]⟩]

/-- The first message is condensed while the third comes in. -/
def countingRun : List (Nat × SummaryEvent) ×
    Threads.Config SummaryPort RefreshError Unit SummaryStore :=
  summaryMachine.execute shortly (newBranch [some 1] counting) [1, 2, 0, 3, 0, 0, 0, 0, 0]

theorem counting_covered : RowCovers countingRun.2.shared ∧
      countingRun.2.shared.summary.map Kept.row = some ⟨"Counting.", some 1, 1⟩ ∧
      countingRun.2.shared.history.length = 3 ∧ LeavesSuffix (summarizable counting) 3 1 none :=
  ⟨summary_rolls.1 [some 1] counting _ _ (summaryMachine.follows_execute summaryAnswers_shortly _
    _), by decide +kernel, by decide +kernel,
    summary_rolls.2 _ 3 1 none (by decide) (by decide +kernel) (by decide)⟩

end Ziee.Summary
