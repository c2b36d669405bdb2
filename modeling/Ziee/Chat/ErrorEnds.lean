/-
**An error ends the generation.**

Every arm of the loop that sends an error leaves the task, but one: the `break` behind a tool result
that cannot be appended leaves the loop over the results, and the next round begins.

* `*_quiet` — each part of the task asks its ports while it is quiet.
* **`error_ends`** — in every run whose tool results are all appended, nothing follows an error.
* `failed_append_goes_on` — a run with a tool result that is not.
-/

import Ziee.Chat.GenerationLoop
import Ziee.Library.Histories

namespace Ziee.Chat

open PortProgram Threads
open Ziee.Providers (ChatMessage Json StreamChatChunk)
open Ziee.Scheduler (AppError)

def IsError : StreamResult → Prop
  | .error _ => True
  | .ok chunk => chunk.error.isSome

/-- An error item is sent, whether anybody receives it or not. -/
def SendsError (event : GenerationEvent) : Prop :=
  ∃ item delivered, event = ⟨.send item, delivered⟩ ∧ IsError item

/-- **The generation goes on**: a delta, a provider call, or a tool round, whose tools run in the
hooks before the provider is called and when a reply is finalized. -/
def GoesOn : GenerationEvent → Prop
  | ⟨.send (.ok chunk), _⟩ => chunk.content ≠ []
  | ⟨.chatStream _, _⟩ | ⟨.callBeforeLlmCall .., _⟩ | ⟨.processChunk _, _⟩ | ⟨.finalize, _⟩ => True
  | _ => False

/-- **Once an error item is sent**, the generation does not go on. -/
def StopsAtError (events : List GenerationEvent) : Prop :=
  ∀ before error after, events = before ++ error :: after → SendsError error →
    ∀ event ∈ after, ¬GoesOn event

def FailsAppend (event : GenerationEvent) : Prop :=
  ∃ contentType content error, event = ⟨.appendContent .toolRound contentType content, .error error⟩

/-- **No error was sent**, unless a tool result could not be appended. -/
def Quiet (past : List GenerationEvent) : Prop :=
  (∀ event ∈ past, ¬FailsAppend event) → ∀ event ∈ past, ¬SendsError event

section Quiet

variable {past : List GenerationEvent} {event : GenerationEvent} {query : GenerationQuery}

theorem quiet_nil : Quiet [] := fun _ _ member => absurd member List.not_mem_nil

theorem Quiet.append (quiet : Quiet past) (harmless : ¬SendsError event) : Quiet
    (past ++ [event]) := by
  intro appended other member
  rcases List.mem_append.mp member with old | new
  · exact quiet (fun other there => appended other (List.mem_append_left _ there)) other old
  · exact List.mem_singleton.mp new ▸ harmless

theorem quiet_of_fails (fails : FailsAppend event) (member : event ∈ past) : Quiet past :=
  fun appended => absurd fails (appended event member)

end Quiet

/-! ### The parts of the task -/

/-- **The program asks its ports while the past is quiet**, and returns as `returns` says. -/
abbrev KeepsQuiet {α : Type} (returns : List GenerationEvent → α → Prop)
    (past : List GenerationEvent) (program : Generating α) : Prop :=
  Obeys (fun past _ => Quiet past) (fun _ _ => True) returns past program

abbrev whenTrue (past : List GenerationEvent) (goesOn : Bool) : Prop := goesOn = true → Quiet past

abbrev whenSome {α : Type} (past : List GenerationEvent) (result : Option α) : Prop :=
  result.isSome → Quiet past

section Parts

variable {past : List GenerationEvent} {settings : GenerationSettings}

theorem ask_quiet {query : GenerationQuery} (quiet : Quiet past)
    (harmless : ∀ item, query = .send item → ¬IsError item) :
    KeepsQuiet (fun later _ => Quiet later) past (ask query) := by
  refine fun answer => ⟨quiet, quiet.append ?_⟩
  rintro ⟨item, delivered, same, error⟩
  exact harmless item (congrArg Sigma.fst same) error

theorem sendItem_quiet {chunk : ChatStreamChunk} (quiet : Quiet past) (fine : chunk.error = none) :
    KeepsQuiet (fun later _ => Quiet later) past (sendItem (.ok chunk)) := by
  refine (ask_quiet quiet fun item same error => ?_).bind fun _ _ later => later
  cases same
  simp [IsError, fine] at error

theorem sendItem_last {α : Type} {returns : List GenerationEvent → α → Prop} {item : StreamResult}
    {value : α} (quiet : Quiet past) (ends : ∀ later, returns later value) :
    KeepsQuiet returns past (do sendItem item; pure value) :=
  fun _ => ⟨quiet, ends _⟩

theorem sendError_last {α : Type} {returns : List GenerationEvent → α → Prop} {error : AppError}
    {value : α} (quiet : Quiet past) (ends : ∀ later, returns later value) :
    KeepsQuiet returns past (do sendError error; pure value) :=
  sendItem_last quiet ends

theorem enrich_quiet (iteration : Nat) (contents : List MessageContent) (quiet : Quiet past) :
    KeepsQuiet whenTrue past (enrich iteration contents) := by
  induction contents generalizing past with
  | nil => exact fun _ => quiet
  | cons content contents ih =>
    refine (ask_quiet quiet (by simp)).bind fun past parsed quiet => ?_
    cases parsed with
    | error error => exact sendError_last quiet (by simp)
    | ok _ =>
      refine (ask_quiet quiet (by simp)).bind fun past processed quiet => ?_
      cases processed with
      | error error => exact sendError_last quiet (by simp)
      | ok _ => exact ih quiet

theorem enrichHistory_quiet (iteration : Nat) (history : List MessageWithContent)
    (quiet : Quiet past) : KeepsQuiet whenTrue past (enrichHistory settings iteration history) :=
  Obeys.ite (fun _ => enrich_quiet iteration _ quiet) fun _ _ => quiet

theorem seedFiles_quiet (quiet : Quiet past) :
    KeepsQuiet (fun later _ => Quiet later) past seedFiles := by
  refine (ask_quiet quiet (by simp)).bind fun past capable quiet => ?_
  exact Obeys.ite (fun _ => ask_quiet quiet (by simp)) fun _ => quiet

theorem streamText_quiet (text : String) (quiet : Quiet past) :
    KeepsQuiet whenTrue past (streamText settings text) := by
  refine (ask_quiet quiet (by simp)).bind fun past appended quiet => ?_
  cases appended with
  | error error => exact sendError_last quiet (by simp)
  | ok _ => exact (sendItem_quiet quiet rfl).bind fun _ _ quiet _ => quiet

theorem beforeLlmCall_quiet (iteration : Nat) (messages : List ChatMessage) (quiet : Quiet past) :
    KeepsQuiet whenSome past (beforeLlmCall settings iteration messages) := by
  refine Obeys.ite (fun _ _ => quiet) fun _ => ?_
  refine (ask_quiet quiet (by simp)).bind fun past action quiet => ?_
  rcases action with error | ⟨_ | _ | text, messages⟩
  · exact sendError_last quiet (by simp)
  · exact fun _ => quiet
  · refine (ask_quiet quiet (by simp)).bind fun past _ quiet => ?_
    exact sendItem_last quiet (by simp)
  · refine (streamText_quiet text quiet).bind fun past streamed quiet => ?_
    refine Obeys.ite (fun goesOn => ?_) nofun
    refine (ask_quiet (quiet goesOn) (by simp)).bind fun past _ quiet => ?_
    exact sendItem_last quiet (by simp)

theorem noticeDeparture_quiet (quiet : Quiet past) :
    KeepsQuiet (fun later _ => Quiet later) past noticeDeparture := by
  refine (ask_quiet quiet (by simp)).bind fun past closed quiet => ?_
  exact Obeys.ite (fun _ => ask_quiet quiet (by simp)) fun _ => quiet

theorem finalizeEarly_quiet (ended : TurnEnd) (quiet : Quiet past) :
    KeepsQuiet (fun later _ => Quiet later) past (finalizeEarly ended) := by
  refine (ask_quiet quiet (by simp)).bind fun past _ quiet => ?_
  exact (ask_quiet quiet (by simp)).bind fun _ _ quiet => quiet

theorem streamChunks_quiet (chunks : List (Except String StreamChatChunk)) (quiet : Quiet past) :
    KeepsQuiet whenTrue past (streamChunks settings chunks) := by
  induction chunks generalizing past with
  | nil => exact fun _ => quiet
  | cons chunk chunks ih =>
    cases chunk with
    | error cause =>
      refine (finalizeEarly_quiet .failed quiet).bind fun past _ quiet => ?_
      exact sendError_last quiet (by simp)
    | ok chunk =>
      refine (noticeDeparture_quiet quiet).bind fun past _ quiet => ?_
      refine (ask_quiet quiet (by simp)).bind fun past output quiet => ?_
      cases output with
      | error error =>
        refine (finalizeEarly_quiet .failed quiet).bind fun past _ quiet => ?_
        exact sendError_last quiet (by simp)
      | ok shown =>
        have fine : ∀ item, GenerationQuery.send (.ok (settings.contentChunk shown)) = .send item →
            ¬IsError item := by
          rintro item same error
          cases same
          cases error
        refine (ask_quiet quiet fine).bind fun past delivered quiet => ?_
        refine Obeys.ite (fun _ => ih quiet) fun _ => ?_
        exact (finalizeEarly_quiet .cancelled quiet).bind nofun

/-- **The tool results**: after an error one could not be appended, and the past counts as quiet. -/
theorem appendResults_quiet (contents : List (String × Json)) (quiet : Quiet past) :
    KeepsQuiet (fun later _ => Quiet later) past (appendResults contents) := by
  induction contents generalizing past with
  | nil => exact quiet
  | cons content contents ih =>
    obtain ⟨contentType, content⟩ := content
    refine (Obeys.perform fun _ => quiet).bind fun later appended same => ?_
    subst same
    cases appended with
    | error error =>
      refine fun delivered => ⟨quiet_of_fails ⟨contentType, content, error, rfl⟩ (by simp),
        quiet_of_fails ⟨contentType, content, error, rfl⟩ (by simp)⟩
    | ok created =>
      have grown : Quiet (past ++ [⟨.appendContent .toolRound contentType content, .ok created⟩]) :=
        quiet.append (by rintro ⟨_, _, same, _⟩; cases same)
      exact (ih grown).bind fun _ _ quiet => quiet

theorem continueRound_quiet (contents : List (String × Json)) (history : List MessageWithContent)
    (quiet : Quiet past) : KeepsQuiet whenSome past (continueRound settings contents history) := by
  refine (ask_quiet quiet (by simp)).bind fun past found quiet => ?_
  rcases found with error | _ | current
  · exact sendError_last quiet (by simp)
  · exact sendError_last quiet (by simp)
  · exact (appendResults_quiet contents quiet).bind fun _ _ quiet _ => quiet

theorem reply_quiet (iteration : Nat) (history : List MessageWithContent) (quiet : Quiet past) :
    KeepsQuiet whenSome past (reply settings iteration history) := by
  refine (enrichHistory_quiet iteration history quiet).bind fun past enriched quiet => ?_
  refine Obeys.ite nofun fun goesOn => ?_
  refine (seedFiles_quiet (quiet (by simpa using goesOn))).bind fun past _ quiet => ?_
  refine (ask_quiet quiet (by simp)).bind fun past converted quiet => ?_
  cases converted with
  | error error => exact sendError_last quiet (by simp)
  | ok messages =>
    refine (beforeLlmCall_quiet iteration messages quiet).bind fun past request quiet => ?_
    cases request with
    | none => exact nofun
    | some messages =>
      refine (ask_quiet (quiet rfl) (by simp)).bind fun past stream quiet => ?_
      cases stream with
      | error cause => exact sendError_last quiet (by simp)
      | ok chunks =>
        refine (streamChunks_quiet chunks quiet).bind fun past streamed quiet => ?_
        refine Obeys.ite nofun fun goesOn => ?_
        have quiet := quiet (by simpa using goesOn)
        refine (ask_quiet quiet (by simp)).bind fun past finalized quiet => ?_
        cases finalized with
        | error error => exact sendError_last quiet (by simp)
        | ok reply => exact fun _ => quiet

theorem rounds_quiet (left : Nat) (visible : Bool) (history : List MessageWithContent)
    (quiet : Quiet past) : KeepsQuiet (fun _ _ => True) past
    (rounds settings left visible history) := by
  induction left generalizing past visible history with
  | zero => exact sendItem_last quiet (by simp)
  | succ left ih =>
    refine (reply_quiet _ history quiet).bind fun past replied quiet => ?_
    cases replied with
    | none => exact trivial
    | some reply =>
      have quiet := quiet rfl
      dsimp only
      rcases reply.extensionAction with _ | _ | contents | text
      · exact sendItem_last quiet (by simp)
      · exact sendItem_last quiet (by simp)
      · refine (continueRound_quiet contents history quiet).bind fun past next quiet => ?_
        cases next with
        | none => exact trivial
        | some history => exact ih _ _ (quiet rfl)
      · refine (streamText_quiet text quiet).bind fun past streamed quiet => ?_
        exact Obeys.ite (fun goesOn => sendItem_last (quiet goesOn) (by simp)) fun _ => trivial

theorem generate_quiet : KeepsQuiet (fun _ _ => True) [] (generate settings) := by
  refine (ask_quiet quiet_nil (by simp)).bind fun past fetched quiet => ?_
  cases fetched with
  | error error => exact sendItem_last quiet (by simp)
  | ok history => exact rounds_quiet _ _ _ quiet

end Parts

/-! ### Runs -/

/-- **An error ends the generation**: in every run, finished or cut, whose tool results are all
appended, what follows an error item is no delta, no provider call and no tool round. -/
theorem error_ends (settings : GenerationSettings) {events : List GenerationEvent}
    (run : RunsPartly (generate settings) events)
    (appended : ∀ event ∈ events, ¬FailsAppend event) : StopsAtError events := by
  rintro before error after rfl sends event member
  obtain ⟨rest, outcome, whole⟩ := run
  obtain ⟨between, later, rfl⟩ := List.append_of_mem member
  have split : before ++ error :: (between ++ event :: later) ++ rest =
      (before ++ error :: between) ++ event :: (later ++ rest) := by simp
  rw [split] at whole
  have quiet : Quiet ([] ++ (before ++ error :: between)) := generate_quiet.runs whole
  -- nothing at all follows
  refine absurd sends (quiet (fun other inside => appended other ?_) error (by simp))
  rw [List.nil_append] at inside
  simp only [List.mem_append, List.mem_cons] at inside ⊢
  tauto

/-! ### Two runs -/

def plainSettings : GenerationSettings := ⟨5, 1, 10, true, id, id⟩

def storeDown : AppError := .internalError "database is down"

def assistantMessage : MessageWithContent := ⟨⟨10, "assistant", 10, 0, none, none, 0⟩, []⟩

/-- A provider that answers with no chunk, one tool result that cannot be appended, and then a
provider that cannot be reached. -/
def failingAppend (past : List GenerationEvent) : ∀ query : GenerationQuery, query.Answer
  | .getConversationHistory => .ok []
  | .parseContent _ => .ok ()
  | .processContentFromDb _ _ => .ok ()
  | .ensureModelToolsCapable => false
  | .seedAvailableFiles => ()
  | .convertHistory _ _ => .ok []
  | .callBeforeLlmCall messages _ => .ok (.goOn, messages)
  | .callAfterLlmSkipped => ()
  | .appendContent _ _ _ => .error storeDown
  | .chatStream _ => if past.length < 5 then .ok [] else .error "unreachable"
  | .isClosed => false
  | .markTurnEnd _ => ()
  | .processChunk _ => .ok []
  | .finalize => .ok ⟨true, some (.goOn [("tool_result", .null)]), none, none⟩
  | .getMessageWithContent => .ok (some assistantMessage)
  | .send _ => true

/-- **The loop goes on** after the error: the provider is called again. -/
theorem failed_append_goes_on : ¬∀ (settings : GenerationSettings) (events : List GenerationEvent),
      RunsPartly (generate settings) events → StopsAtError events := by
  intro claim
  have run := (runs_simulate failingAppend (generate plainSettings) []).partly
  have events : ((generate plainSettings).simulate failingAppend []).1 =
      [⟨.getConversationHistory, .ok []⟩, ⟨.ensureModelToolsCapable, false⟩,
        ⟨.convertHistory [] 1, .ok []⟩, ⟨.callBeforeLlmCall [] 1, .ok (.goOn, [])⟩,
        ⟨.chatStream [], .ok []⟩,
        ⟨.finalize, .ok ⟨true, some (.goOn [("tool_result", .null)]), none, none⟩⟩,
        ⟨.getMessageWithContent, .ok (some assistantMessage)⟩,
        ⟨.appendContent .toolRound "tool_result" .null, .error storeDown⟩] ++
      ⟨.send (.error storeDown), true⟩ ::
        [⟨.ensureModelToolsCapable, false⟩, ⟨.convertHistory [assistantMessage] 2, .ok []⟩,
          ⟨.callBeforeLlmCall [] 2, .ok (.goOn, [])⟩, ⟨.chatStream [], .error "unreachable"⟩,
          ⟨.send (.error (.internalError "AI provider error: unreachable")), true⟩] := rfl
  refine claim plainSettings _ run _ _ _ events ⟨_, true, rfl, trivial⟩
    ⟨.chatStream [], .error "unreachable"⟩ (by simp) trivial

def unreachableProvider : List GenerationEvent :=
  [⟨.getConversationHistory, .ok []⟩, ⟨.ensureModelToolsCapable, false⟩,
    ⟨.convertHistory [] 1, .ok []⟩, ⟨.callBeforeLlmCall [] 1, .ok (.goOn, [])⟩,
    ⟨.chatStream [], .error "unreachable"⟩,
    ⟨.send (.error (.internalError "AI provider error: unreachable")), true⟩]

theorem error_ends_unreachable : StopsAtError unreachableProvider := by
  have run : RunsPartly (generate plainSettings) unreachableProvider := by
    refine ⟨[], .ok (), ?_⟩
    exact .ask _ _ _ (.ask _ _ _ (.ask _ _ _ (.ask _ _ _ (.ask _ _ _ (.ask _ _ _ (.pure ()))))))
  refine error_ends plainSettings run fun event member fails => ?_
  obtain ⟨contentType, content, error, rfl⟩ := fails
  simp [unreachableProvider] at member

end Ziee.Chat
