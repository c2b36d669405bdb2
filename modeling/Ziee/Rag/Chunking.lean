/-
**Chunks of a version of a file** (`file_rag/chunking.rs`, and the loop of `file_rag/ingest.rs`).

A page is cut into windows of characters that overlap and end at a blank where one is near. The
chunks of a version are those of its pages, up to a maximum.

* `chunkPage` — the windows of a page; offsets are bytes.
* `draftsOf` — the chunks of a version; a page that cannot be read is skipped.
-/

import Ziee.Agent.Types
import Ziee.Providers.Text

namespace Ziee.Rag

open Ziee.Agent (Uuid)
open Ziee.Providers (isBlank isWhitespace)

/-- `FileRagAdminSettings`, as far as ingestion reads it. -/
structure FileRagAdminSettings where
  enabled : Bool
  chunkChars : Int
  chunkOverlapChars : Int
  maxChunksPerFile : Int
  semanticEnabled : Bool
  embeddingModelId : Option Uuid
  embeddingDimensions : Int

structure ChunkParams where
  chunkChars : Nat
  overlapChars : Nat

/-- The overlap is below the window, also for a bad row. -/
def ChunkParams.fromSettings (settings : FileRagAdminSettings) : ChunkParams :=
  let chunkChars := (max settings.chunkChars 1).toNat
  ⟨chunkChars, min (max settings.chunkOverlapChars 0).toNat (chunkChars - 1)⟩

/-! ### Pages -/

structure ChunkDraft where
  pageNumber : Nat
  chunkIndex : Nat
  charStart : Nat
  charEnd : Nat
  content : String
  deriving DecidableEq

def byteAt (chars : List Char) (position : Nat) : Nat :=
  ((chars.take position).map Char.utf8Size).sum

/-- From the end of the window back to the position behind a blank, above the floor. -/
def softEnd (chars : List Char) (nominalEnd floor : Nat) : Nat → Nat
  | 0 => nominalEnd
  | w + 1 =>
    if floor < w + 1 then
      if (chars[w]?.map isWhitespace).getD false then w + 1 else softEnd chars nominalEnd floor w
    else nominalEnd

def windowEnd (params : ChunkParams) (chars : List Char) (start : Nat) : Nat :=
  let nominalEnd := min (start + params.chunkChars) chars.length
  let soft := max (params.chunkChars * 15 / 100) 1
  if nominalEnd < chars.length then
    softEnd chars nominalEnd (max (nominalEnd - soft) (start + 1)) nominalEnd
  else nominalEnd

def windowDraft (chars : List Char) (pageNumber index start stop : Nat) : List ChunkDraft :=
  let slice := String.ofList ((chars.drop start).take (stop - start))
  if isBlank slice then []
  else [⟨pageNumber, index, byteAt chars start, byteAt chars stop, slice⟩]

/-- The windows from a position on; there are at most as many as characters. -/
def chunkWindows (params : ChunkParams) (chars : List Char) (pageNumber : Nat) :
    Nat → Nat → Nat → List ChunkDraft
  | 0, _, _ => []
  | fuel + 1, start, index =>
    if start < chars.length then
      let stop := windowEnd params chars start
      let draft := windowDraft chars pageNumber index start stop
      if chars.length ≤ stop then draft
      else
        let advanceTo := stop - params.overlapChars
        draft ++ chunkWindows params chars pageNumber fuel
          (if start < advanceTo then advanceTo else stop) (index + draft.length)
    else []

def chunkPage (params : ChunkParams) (text : String) (pageNumber indexStart : Nat) :
    List ChunkDraft :=
  chunkWindows params text.toList pageNumber text.toList.length 0 indexStart

def maxPageBytes : Nat := 5000000

/-- The longest initial part within so many bytes. -/
def takeBytes : Nat → List Char → List Char
  | _, [] => []
  | bytes, c :: rest =>
    if c.utf8Size ≤ bytes then c :: takeBytes (bytes - c.utf8Size) rest else []

/-- `truncate_to_max_page_bytes`. -/
def truncatePage (text : String) : String := String.ofList (takeBytes maxPageBytes text.toList)

/-! ### Versions -/

structure FileVersion where
  version : Nat
  blobVersionId : Uuid
  textPageCount : Int
  deriving DecidableEq

/-- The settings and the text pages of all blobs, while they stay as they are. -/
structure Library where
  settings : FileRagAdminSettings
  loadTextPage : Uuid → Nat → Option String

/-- The loop over the pages: the number of chunks found so far, and those that are kept. -/
def collectDrafts (params : ChunkParams) (loadTextPage : Nat → Option String) (maxChunks : Nat) :
    List Nat → Nat → List ChunkDraft → List ChunkDraft
  | [], _, drafts => drafts
  | page :: pages, index, drafts =>
    match loadTextPage page with
    | none => collectDrafts params loadTextPage maxChunks pages index drafts
    | some text =>
      let found := chunkPage params (truncatePage text) page index
      if maxChunks < drafts.length + found.length then
        drafts ++ found.take (maxChunks - drafts.length)
      else
        collectDrafts params loadTextPage maxChunks pages (index + found.length) (drafts ++ found)

/-- **The chunks of a version.** -/
def draftsOf (library : Library) (version : FileVersion) : List ChunkDraft :=
  collectDrafts (.fromSettings library.settings) (library.loadTextPage version.blobVersionId)
    (max library.settings.maxChunksPerFile 1).toNat
    ((List.range version.textPageCount.toNat).map (· + 1)) 0 []

end Ziee.Rag
