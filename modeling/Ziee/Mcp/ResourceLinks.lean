/-
**The files behind the links of a tool result** (`mcp/resource_link.rs`).

A tool result carries links to files that the tool made. `persist_links` takes each one into the
file store: straight off the disk where a server of the house names a path of the host, over HTTP
otherwise. It then stamps the links, ties the new files to the workflow run that made them, and
blanks every path of the host that is left.

* `guardedPath` — the two guards before a file of the host is read.
* `saveLink`, `saveLinks` — the loop over the links.
* `stampLinks`, `tieToRun`, `blankHostPaths` — the three passes after it.
* `persistLinks` — the whole.
-/

import Ziee.Chat.ApprovalLadders
import Ziee.Providers.Text
import Ziee.Scheduler.Schedule

namespace Ziee.Mcp

open Ziee.Agent (Uuid)
open Ziee.Providers (Json)
open Ziee.Scheduler (AppError)

structure ResourceLink where
  uri : String
  name : Option String
  mimeType : Option String
  size : Option Int
  isSaved : Option Bool
  fileId : Option Uuid
  versionId : Option Uuid
  version : Option Int
  deriving DecidableEq

/-- A file that the call took in, and the place of its link. -/
structure PersistedArtifact where
  linkIdx : Nat
  fileId : Uuid
  version : Int
  versionId : Uuid
  filename : String
  mimeType : Option String
  size : Int
  deriving DecidableEq

/-- The new files, and the name and address of each file that was there before. -/
structure PersistOutcome where
  saved : List PersistedArtifact
  referenced : List (String × String)
  deriving DecidableEq

/-- `link.name.as_deref().unwrap_or("file")`. -/
def displayName (link : ResourceLink) : String := link.name.getD "file"

/-! ### Paths of the host -/

abbrev HostPath : Type := List String

abbrev Bytes : Type := List UInt8

/-- `uri.strip_prefix("ziee://")`. -/
def stripScheme (uri : String) : Option String :=
  if "ziee://".toList.isPrefixOf uri.toList then some (String.ofList (uri.toList.drop 7)) else none

/-- `Path::is_absolute`, as Unix has it. -/
def isAbsolute (path : String) : Bool := path.toList.head? == some '/'

def isZieeHostPath (uri : String) : Bool := (stripScheme uri).any isAbsolute

def workflowMcpServerId : Uuid := 0x5df3420c4a5a59c38f9937a47e7469d6#128

open Ziee.Chat.Approvals in
def trustedResourceEmitters : List Uuid :=
  [filesMcpServerId, memoryMcpServerId, elicitationMcpServerId, bioMcpServerId, webSearchServerId,
    toolResultMcpServerId, litSearchServerId, citationsServerId, codeSandboxServerId,
    skillMcpServerId, workflowMcpServerId]

def isTrustedResourceEmitter (serverId : Uuid) : Bool := trustedResourceEmitters.contains serverId

def underSomeRoot (canonicalize : String → Option HostPath) (path : HostPath)
    (allowedRoots : List String) : Bool :=
  allowedRoots.any fun root => (canonicalize root).any fun canonRoot => canonRoot.isPrefixOf path

def confineUnderRoots (canonicalize : String → Option HostPath) (path : String)
    (allowedRoots : List String) : Except AppError HostPath :=
  match canonicalize path with
  | none => .error (.notFound "resource file")
  | some canonPath =>
    if underSomeRoot canonicalize canonPath allowedRoots then .ok canonPath
    else .error (.forbidden "RESOURCE_LINK_PATH_ESCAPE"
      "resolved path escapes the allowed workspace root")

/-! ### The world around a call -/

inductive OutboundUrlPolicy
  | publicHttpOrHttps
  | mcpUser
  | devLocal
  deriving DecidableEq

/-- The arguments of `ingest_bytes`. -/
structure IngestRequest where
  userId : Uuid
  bytes : Bytes
  filename : String
  mimeHint : Option String
  createdBy : String
  sourceMessageId : Option Uuid

structure StoredFile where
  id : Uuid
  version : Int
  currentVersionId : Uuid
  mimeType : Option String
  fileSize : Int
  deriving DecidableEq

structure Response where
  success : Bool
  contentType : Option String
  body : Option Bytes

/-- What the call learns while it works on one link. Each answer may be a failure. -/
structure Answers where
  canonicalize : String → Option HostPath
  readFile : HostPath → Option Bytes
  /-- `Except.ok none` is a user that is not there. -/
  currentTokenVersion : Uuid → Except String (Option Int)
  generateShortLivedJwt : Uuid → String → String → String → Nat → Int → Option String
  isHeaderName : String → Bool
  isHeaderValue : String → Bool
  hostOf : String → Option String
  debugLoopback : Bool
  allowPrivateEnv : Bool
  validateOutboundUrl : String → OutboundUrlPolicy → Bool
  /-- Whether a client is built for the policy, if there is one, that follows redirects or not. -/
  buildClient : Option (OutboundUrlPolicy × Bool) → Bool
  send : String → List (String × String) → Option Response
  ingestBytes : IngestRequest → Option StoredFile
  /-- Whether the file of this link is tied to the run. -/
  linked : Bool
  /-- Whether the file of this link is deleted when the call asks for it. -/
  deleted : Bool

/-- **The answers of a call**: a new file has an id that no file in the store had, nor any other new
file. -/
structure World (files : List Uuid) where
  answers : Nat → Answers
  fresh : ∀ (index : Nat) (request : IngestRequest) (file : StoredFile),
    (answers index).ingestBytes request = some file → file.id ∉ files
  distinct : ∀ (first second : Nat) (request other : IngestRequest) (file another : StoredFile),
    (answers first).ingestBytes request = some file →
    (answers second).ingestBytes other = some another → file.id = another.id → first = second

/-- The other arguments of `persist_links`. -/
structure Call where
  userId : Uuid
  conversationId : Option Uuid
  messageId : Option Uuid
  createdBy : String
  workflowRunId : Option Uuid
  serverId : Uuid
  serverIsBuiltIn : Bool
  serverHeaders : Json
  trustedHosts : List String
  allowedRoots : List String
  jwtSecret : Option String
  jwtIssuer : Option String
  jwtAudience : Option String

/-! ### A link over HTTP -/

inductive FetchPolicyKind
  | publicHosts
  | privateScoped
  | privateGlobal
  | devLocal
  deriving DecidableEq

def chooseFetchPolicy (answers : Answers) (linkUri : String) (trustedHosts : List String) :
    FetchPolicyKind :=
  if answers.debugLoopback then .devLocal
  else if answers.allowPrivateEnv then .privateGlobal
  else if (answers.hostOf linkUri).any fun host => !host.isEmpty && trustedHosts.contains host then
    .privateScoped
  else .publicHosts

def fetchPolicyAndRedirects : FetchPolicyKind → OutboundUrlPolicy × Bool
  | .publicHosts => (.publicHttpOrHttps, true)
  | .privateScoped => (.mcpUser, false)
  | .privateGlobal => (.mcpUser, true)
  | .devLocal => (.devLocal, true)

/-- The headers, in the order in which the map takes them in; `none` where the link is skipped. -/
def fetchHeaders (call : Call) (answers : Answers) (secret : String) :
    Option (List (String × String)) :=
  if call.serverIsBuiltIn then
    match answers.currentTokenVersion call.userId with
    | .ok (some version) =>
      match answers.generateShortLivedJwt call.userId secret (call.jwtIssuer.getD "ziee")
          (call.jwtAudience.getD "ziee-api") 10 version with
      | none => some []
      | some token =>
        let bearer := "Bearer " ++ token
        some ((if answers.isHeaderValue bearer then [("authorization", bearer)] else []) ++
          (call.conversationId.toList.map fun conversation =>
            ("x-conversation-id", conversation.display)))
    | .ok none => none
    | .error _ => none
  else
    match call.serverHeaders with
    | .object members =>
      some (members.filterMap fun member =>
        match member.2 with
        | .string value =>
          if answers.isHeaderName member.1 && answers.isHeaderValue value then
            some (member.1, value)
          else none
        | _ => none)
    | _ => some []

/-- A client for the link, or `false` where its address is not allowed. -/
def clientReady (call : Call) (answers : Answers) (uri : String) : Bool :=
  if call.serverIsBuiltIn then answers.buildClient none
  else
    let policy := fetchPolicyAndRedirects (chooseFetchPolicy answers uri call.trustedHosts)
    answers.validateOutboundUrl uri policy.1 && answers.buildClient (some policy)

/-- The media type, up to the first semicolon. -/
def contentTypeMime (response : Response) : Option String :=
  response.contentType.map fun value =>
    String.ofList (Ziee.Providers.trim (value.toList.takeWhile (· != ';')))

/-- The bytes behind a link that is not a path of the host, and their media type. -/
def fetchLink (call : Call) (answers : Answers) (link : ResourceLink) :
    Option (Bytes × Option String) :=
  match call.jwtSecret with
  | none => none
  | some secret =>
    match fetchHeaders call answers secret with
    | none => none
    | some headers =>
      if clientReady call answers link.uri then
        match answers.send link.uri headers with
        | none => none
        | some response =>
          if response.success then
            response.body.map fun bytes => (bytes, contentTypeMime response)
          else none
      else none

/-! ### The loop -/

/-- What the loop has done so far; `files` is the store, and `reads` lists the host's files. -/
structure Progress where
  outcome : PersistOutcome
  files : List Uuid
  reads : List HostPath

def artifactOf (index : Nat) (link : ResourceLink) (file : StoredFile) : PersistedArtifact :=
  { linkIdx := index
    fileId := file.id
    version := file.version
    versionId := file.currentVersionId
    filename := displayName link
    mimeType := file.mimeType
    size := file.fileSize }

def saveBytesAsArtifact (call : Call) (answers : Answers) (link : ResourceLink) (bytes : Bytes)
    (contentTypeMime : Option String) : Option StoredFile :=
  answers.ingestBytes
    { userId := call.userId
      bytes := bytes
      filename := displayName link
      mimeHint := contentTypeMime
      createdBy := call.createdBy
      sourceMessageId := call.messageId }

def Progress.save (progress : Progress) (index : Nat) (link : ResourceLink) :
    Option StoredFile → Progress
  | none => progress
  | some file =>
    { progress with
      outcome := { progress.outcome with
        saved := progress.outcome.saved ++ [artifactOf index link file] }
      files := file.id :: progress.files }

def guardedPath (call : Call) (answers : Answers) (hostPath : String) : Option HostPath :=
  if isAbsolute hostPath then
    if isTrustedResourceEmitter call.serverId then
      match confineUnderRoots answers.canonicalize hostPath call.allowedRoots with
      | .ok path => some path
      | .error _ => none
    else none
  else none

def saveLink (call : Call) (answers : Answers) (index : Nat) (link : ResourceLink)
    (progress : Progress) : Progress :=
  if link.isSaved = some true then
    if isZieeHostPath link.uri then progress
    else { progress with
      outcome := { progress.outcome with
        referenced := progress.outcome.referenced ++ [(displayName link, link.uri)] } }
  else
    match stripScheme link.uri with
    | some hostPath =>
      match guardedPath call answers hostPath with
      | none => progress
      | some path =>
        let progress := { progress with reads := progress.reads ++ [path] }
        match answers.readFile path with
        | none => progress
        | some bytes =>
          progress.save index link (saveBytesAsArtifact call answers link bytes link.mimeType)
    | none =>
      match fetchLink call answers link with
      | none => progress
      | some (bytes, mime) =>
        progress.save index link (saveBytesAsArtifact call answers link bytes mime)

def saveLinks (call : Call) (answers : Nat → Answers) :
    Nat → List ResourceLink → Progress → Progress
  | _, [], progress => progress
  | index, link :: rest, progress =>
    saveLinks call answers (index + 1) rest
      (saveLink call (answers index) index link progress)

/-! ### After the loop -/

def fileUri (id : Uuid) : String := "/api/files/" ++ id.display

def stamp (artifact : PersistedArtifact) (link : ResourceLink) : ResourceLink :=
  { link with
    fileId := some artifact.fileId
    version := some artifact.version
    versionId := some artifact.versionId
    uri := if isZieeHostPath link.uri then fileUri artifact.fileId else link.uri }

def stampLinks (saved : List PersistedArtifact) (links : List ResourceLink) : List ResourceLink :=
  saved.foldl (fun links artifact => links.modify artifact.linkIdx (stamp artifact)) links

/-- The store and the orphans, after one more file is tied to the run or deleted. -/
def tieFile (answers : Nat → Answers) (state : List Uuid × List Uuid)
    (artifact : PersistedArtifact) : List Uuid × List Uuid :=
  if (answers artifact.linkIdx).linked then state
  else
    (if (answers artifact.linkIdx).deleted then state.1.filter (· ≠ artifact.fileId) else state.1,
      state.2 ++ [artifact.fileId])

def tieToRun (answers : Nat → Answers) (run : Option Uuid) (saved : List PersistedArtifact)
    (files : List Uuid) : List Uuid × List Uuid :=
  match run with
  | none => (files, [])
  | some _ => saved.foldl (tieFile answers) (files, [])

def blankHostPaths (links : List ResourceLink) : List ResourceLink :=
  links.map fun link => if isZieeHostPath link.uri then { link with uri := "" } else link

/-- What a call leaves behind. -/
structure Persisted where
  links : List ResourceLink
  outcome : PersistOutcome
  files : List Uuid
  reads : List HostPath

def started (files : List Uuid) : Progress :=
  { outcome := { saved := [], referenced := [] }, files := files, reads := [] }

/-- `persist_links`. It has no error to return. -/
def persistLinks (call : Call) {files : List Uuid} (world : World files)
    (links : List ResourceLink) : Persisted :=
  let progress := saveLinks call world.answers 0 links (started files)
  let stamped := stampLinks progress.outcome.saved links
  let tied := tieToRun world.answers call.workflowRunId progress.outcome.saved progress.files
  { links := blankHostPaths stamped
    outcome := { progress.outcome with
      saved := progress.outcome.saved.filter fun artifact => !tied.2.contains artifact.fileId }
    files := tied.1
    reads := progress.reads }

end Ziee.Mcp
