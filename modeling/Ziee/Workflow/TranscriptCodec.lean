/-
**The transcript column** (`agent_dispatch.rs`, `WorkflowTranscriptStore`).

The transcript of a run is one JSON array in `workflow_runs.agent_transcript_json`. Every write
reads the whole array, changes it and writes it back, so a message that cannot be read back spoils
the column for every later write. `RunStore` keeps the messages themselves; `transcript_round_trip`
says when the column holds the same, after any sequence of writes.
-/

import Ziee.Providers.Codec
import Ziee.Workflow.RunStore

namespace Ziee.Workflow

open Ziee.Providers Ziee.Agent

/-- `WorkflowTranscriptStore::read`; the text of an error is what it is reported with. -/
def readTranscript (debug : String → String) (column : Option Json) :
    Except String (List ChatMessage) :=
  match column with
  | some value =>
    match decodeTranscript value with
    | .ok messages => .ok messages
    | .error error => .error ("agent transcript decode: " ++ error.display debug)
  | none => .ok []

/-- The two operations that change a transcript. -/
inductive TranscriptWrite
  | append (message : ChatMessage)
  | replaceHead (summary : ChatMessage) (upto : Nat)

namespace TranscriptWrite

def message : TranscriptWrite → ChatMessage
  | .append message => message
  | .replaceHead summary _ => summary

def apply (messages : List ChatMessage) : TranscriptWrite → List ChatMessage
  | .append message => messages ++ [message]
  | .replaceHead summary upto => Agent.replaceHead messages summary upto

/-- What it does to the column: read the whole array, change it, write it back. -/
def run (debug : String → String) (column : Option Json) (write : TranscriptWrite) :
    Except String (Option Json) := do
  let messages ← readTranscript debug column
  pure (some (encodeTranscript (write.apply messages)))

end TranscriptWrite

def runWrites (debug : String → String) (column : Option Json) (writes : List TranscriptWrite) :
    Except String (Option Json) :=
  writes.foldlM (TranscriptWrite.run debug) column

section Column

variable {debug : String → String} {column last : Option Json} {messages : List ChatMessage}
  {write : TranscriptWrite}

theorem readTranscript_encode (free : MediaFree messages) :
    readTranscript debug (some (encodeTranscript messages)) = .ok messages := by
  unfold readTranscript
  dsimp only
  rw [decodeTranscript_encode free]

theorem mediaFree_of_readTranscript {result : List ChatMessage}
    (read : readTranscript debug (some (encodeTranscript messages)) = .ok result) :
    MediaFree messages := by
  unfold readTranscript at read
  dsimp only at read
  cases decoded : decodeTranscript (encodeTranscript messages) with
  | ok result => exact mediaFree_of_decode decoded
  | error error =>
    rw [decoded] at read
    cases read

theorem mediaFree_apply (free : MediaFree messages) (one : anyMedia write.message.content = false) :
    MediaFree (write.apply messages) := by
  cases write with
  | append message => exact List.forall_mem_append.mpr ⟨free, List.forall_mem_singleton.mpr one⟩
  | replaceHead summary upto =>
    exact List.forall_mem_cons.mpr ⟨one, fun message member =>
      free message (List.mem_of_mem_drop member)⟩

theorem message_mem_apply : write.message ∈ write.apply messages := by
  cases write with
  | append message => exact List.mem_append_right _ List.mem_cons_self
  | replaceHead summary upto => exact List.mem_cons_self

theorem runWrites_of_mediaFree (writes : List TranscriptWrite) :
    ∀ {column messages}, readTranscript debug column = .ok messages → MediaFree messages →
      (∀ write ∈ writes, anyMedia write.message.content = false) →
      ∃ last, runWrites debug column writes = .ok last ∧
        readTranscript debug last = .ok (writes.foldl TranscriptWrite.apply messages) := by
  induction writes with
  | nil => exact fun {column _} read _ _ => ⟨column, rfl, read⟩
  | cons write rest ih =>
    intro column messages read free all
    obtain ⟨here, later⟩ := List.forall_mem_cons.mp all
    have changed := mediaFree_apply free here
    obtain ⟨last, ran, final⟩ := ih (readTranscript_encode changed) changed later
    refine ⟨last, ?_, final⟩
    unfold runWrites at ran ⊢
    rw [List.foldlM_cons, TranscriptWrite.run, read]
    exact ran

theorem mediaFree_of_runWrites (writes : List TranscriptWrite) :
    ∀ {column last result}, runWrites debug column writes = .ok last →
      readTranscript debug last = .ok result →
      ∀ write ∈ writes, anyMedia write.message.content = false := by
  induction writes with
  | nil => exact fun _ _ => List.forall_mem_nil _
  | cons write rest ih =>
    intro column last result ran read
    unfold runWrites at ran
    rw [List.foldlM_cons] at ran
    obtain ⟨changed, one, ran⟩ := bind_eq_ok ran
    obtain ⟨messages, -, written⟩ := bind_eq_ok one
    cases written
    -- the written column is read by the next write, or at the end
    have again : ∃ result, readTranscript debug (some (encodeTranscript (write.apply messages))) =
        .ok result := by
      cases rest with
      | nil =>
        cases ran
        exact ⟨result, read⟩
      | cons next others =>
        rw [List.foldlM_cons] at ran
        obtain ⟨_, second, -⟩ := bind_eq_ok ran
        obtain ⟨result, read, -⟩ := bind_eq_ok second
        exact ⟨result, read⟩
    obtain ⟨result, again⟩ := again
    have free := mediaFree_of_readTranscript again
    exact List.forall_mem_cons.mpr ⟨free _ message_mem_apply, ih ran read⟩

end Column

/-- **A transcript is read back, and the column loads what was written into it, exactly when no
message has an image or a document at any depth.** -/
theorem transcript_round_trip (debug : String → String) : (∀ messages : List ChatMessage,
      decodeTranscript (encodeTranscript messages) = .ok messages ↔ MediaFree messages) ∧
    ∀ writes : List TranscriptWrite, (∃ column, runWrites debug none writes = .ok column ∧
        readTranscript debug column = .ok (writes.foldl TranscriptWrite.apply [])) ↔
      ∀ write ∈ writes, anyMedia write.message.content = false := by
  refine ⟨fun messages => decodeTranscript_iff, fun writes => ⟨?_, fun free => ?_⟩⟩
  · rintro ⟨column, ran, read⟩
    exact mediaFree_of_runWrites writes ran read
  · exact runWrites_of_mediaFree writes rfl (List.forall_mem_nil _) free

/-- **A message with an image is not read back**: the tag of its source takes the place of the tag
of the block. -/
theorem image_lost : ¬∀ messages : List ChatMessage,
    decodeTranscript (encodeTranscript messages) = .ok messages := by
  intro trip
  have read := trip [⟨.user, [.image (.base64 "image/png" "iVBORw0KGgo=")]⟩]
  cases read

end Ziee.Workflow
