import PrdAgent.Runcontrol.Runtime

/-!
# The Feishu client

`client.go`: publishing a draft to a fixed wiki document, and reconciling by reading it back. A
`Provider` answers each request as it likes, given the requests sent so far; the functions of the
client return their result with the list of requests they sent.
-/

namespace PrdAgent.Feishu

open GoText PrdAgent.Runcontrol

structure Config where
  appID : String
  appSecret : String
  documentHost : String
  wikiNodeToken : String

structure Result where
  safeURL : String
  providerRevision : String

structure ProviderError where
  code : String
  retryable : Bool := false
  resultUnknown : Bool := false

inductive ClientError
  | provider (error : ProviderError)
  | other

inductive Method
  | get | post | delete
deriving DecidableEq

structure Request where
  token : String
  method : Method
  path : String
  payload : Option Json

def tokenPath : String := "/auth/v3/tenant_access_token/internal"

/-- The request changes the document. The request for an access token is a POST that does not. -/
def Request.mutates (request : Request) : Bool :=
  request.method != .get && request.path != tokenPath

/-- A decoded JSON object. Its numbers are integers: a number that is none is not told apart from
an integer other than those the client compares with. -/
abbrev Body := List (String × Json)

/-- What comes of a request: it cannot be built, it fails in transport (also while the answer is
read), or it is answered with a status and a body, which may be no JSON object. -/
inductive HttpReply
  | unsent
  | transport
  | response (status : Int) (body : Option Body)

/-- How the other side answers a request, given the requests before it. -/
abbrev Provider := List Request → Request → HttpReply

/-- A result, with all requests sent so far. -/
abbrev Exchange (α : Type) := Except ClientError α × List Request

def Exchange.andThen {α β : Type} (exchange : Exchange α)
    (next : α → List Request → Exchange β) : Exchange β :=
  match exchange with
  | (.error err, sent) => (.error err, sent)
  | (.ok value, sent) => next value sent

/-- `value.(string)` of a field, or the zero value. -/
def stringField (body : Body) (name : String) : String :=
  match body.lookup name with
  | some (.str text) => text
  | _ => ""

/-- `value.(map[string]any)` of a field, or the zero value. -/
def objectField (body : Body) (name : String) : Body :=
  match body.lookup name with
  | some (.obj fields) => fields
  | _ => []

/-- `value.(float64)` of a field, or the zero value. -/
def numberField (body : Body) (name : String) : Int :=
  match body.lookup name with
  | some (.int value) => value
  | _ => 0

def providerError (code : String) (retryable resultUnknown : Bool := false) : ClientError :=
  .provider { code, retryable, resultUnknown }

/-- The classification of an answer in `request`. -/
def classify (mutationStarted : Bool) (status : Int) (body : Option Body) :
    Except ClientError Body :=
  match body with
  | none => .error (providerError "INVALID_PROVIDER_RESPONSE" false mutationStarted)
  | some value =>
    let code := numberField value "code"
    if code = 99991663 ∨ code = 99991668 ∨ code = 99991672 ∨ status = 401 ∨ status = 403 then
      .error (providerError "UNAUTHORIZED")
    else if status = 429 then
      .error (providerError "RATE_LIMITED" (!mutationStarted) mutationStarted)
    else if status ≥ 500 then
      .error (providerError "PROVIDER_UNAVAILABLE" (!mutationStarted) mutationStarted)
    else if status < 200 ∨ status ≥ 300 ∨ code ≠ 0 then
      .error (providerError "PROVIDER_REJECTED" false mutationStarted)
    else .ok value

section Client

variable (rt : Runtime) (config : Config) (provider : Provider)

def request (token : String) (method : Method) (path : String) (payload : Option Json)
    (mutationStarted : Bool) (sent : List Request) : Exchange Body :=
  let next : Request := { token, method, path, payload }
  match provider sent next with
  | .unsent => (.error .other, sent)
  | .transport =>
    (.error (providerError "TRANSPORT" (!mutationStarted) mutationStarted), sent ++ [next])
  | .response status body => (classify mutationStarted status body, sent ++ [next])

def tenantToken (sent : List Request) : Exchange String :=
  (request provider "" .post tokenPath
    (some (.obj [("app_id", .str config.appID), ("app_secret", .str config.appSecret)])) false
    sent).andThen fun body sent =>
  let token := stringField body "tenant_access_token"
  if token = "" then (.error (providerError "INVALID_PROVIDER_RESPONSE"), sent)
  else (.ok token, sent)

def tokenChar (ch : Char) : Bool :=
  ('A' ≤ ch && ch ≤ 'Z') || ('a' ≤ ch && ch ≤ 'z') || ('0' ≤ ch && ch ≤ '9') || ch == '_' ||
    ch == '-'

/-- `tokenPattern.MatchString`. No character of a token is escaped in a path or a query. -/
def tokenPattern (text : String) : Bool :=
  decide (1 ≤ (chars text).length ∧ (chars text).length ≤ 200) && (chars text).all tokenChar

def documentID (token : String) (sent : List Request) : Exchange String :=
  (request provider token .get ("/wiki/v2/spaces/get_node?token=" ++ config.wikiNodeToken) none
    false sent).andThen fun body sent =>
  let node := objectField (objectField body "data") "node"
  let documentID := stringField node "obj_token"
  if stringField node "obj_type" ≠ "docx" ∨ tokenPattern documentID = false then
    (.error (providerError "INVALID_FIXED_WIKI_NODE"), sent)
  else (.ok documentID, sent)

def metadata (token documentID : String) (mutationStarted : Bool) (sent : List Request) :
    Exchange String :=
  (request provider token .get ("/docx/v1/documents/" ++ documentID) none mutationStarted
    sent).andThen fun body sent =>
  match (objectField (objectField body "data") "document").lookup "revision_id" with
  | some (.str value) => (.ok value, sent)
  | some (.int value) => (.ok (itoa value), sent)
  | _ => (.error (providerError "INVALID_PROVIDER_RESPONSE" false mutationStarted), sent)

def childrenPath (documentID : String) : String :=
  "/docx/v1/documents/" ++ documentID ++ "/blocks/" ++ documentID ++ "/children"

def children (token documentID : String) (mutationStarted : Bool) (sent : List Request) :
    Exchange Nat :=
  (request provider token .get (childrenPath documentID ++ "?page_size=500") none mutationStarted
    sent).andThen fun body sent =>
  match (objectField body "data").lookup "items" with
  | some (.arr items) => (.ok items.length, sent)
  | _ => (.error (providerError "INVALID_PROVIDER_RESPONSE" false mutationStarted), sent)

/-! ## Rendering -/

/-- `strings.Split(strings.ReplaceAll(text, "\r\n", "\n"), "\n")`, on characters. -/
def splitLines : List Char → List Char → List String
  | [], line => [ofChars line.reverse]
  | '\r' :: '\n' :: rest, line => ofChars line.reverse :: splitLines rest []
  | '\n' :: rest, line => ofChars line.reverse :: splitLines rest []
  | ch :: rest, line => splitLines rest (ch :: line)

def textBlock (blockType : Int) (key content : String) : Json := .obj [
  ("block_type", .int blockType),
  (key, .obj [
    ("elements", .arr [.obj [("text_run", .obj [
      ("content", .str content), ("text_element_style", .obj [])])]]),
    ("style", .obj [])])]

/-- The block of a line outside of code. -/
def lineBlock (trimmed : String) : Json :=
  if hasPrefix trimmed "### " then textBlock 5 "heading3" (trimPrefix trimmed "### ")
  else if hasPrefix trimmed "## " then textBlock 4 "heading2" (trimPrefix trimmed "## ")
  else if hasPrefix trimmed "# " then textBlock 3 "heading1" (trimPrefix trimmed "# ")
  else if hasPrefix trimmed "- " then textBlock 12 "bullet" (trimPrefix trimmed "- ")
  else textBlock 2 "text" trimmed

def joinLines : List String → String
  | [] => ""
  | [line] => line
  | line :: rest => line ++ "\n" ++ joinLines rest

/-- The blocks once the collected lines of code are flushed. -/
def flushCode (codeLines : List String) (blocks : List Json) : List Json :=
  if codeLines = [] then blocks else blocks ++ [textBlock 14 "code" (joinLines codeLines)]

/-- The loop of `renderMarkdown`. -/
def renderLines : List String → Bool → List String → List Json → Except ClientError (List Json)
  | [], inCode, codeLines, blocks => .ok (if inCode then flushCode codeLines blocks else blocks)
  | line :: rest, inCode, codeLines, blocks =>
    let trimmed := trimSpace line
    if hasPrefix trimmed "\x60\x60\x60" then
      if inCode then renderLines rest false [] (flushCode codeLines blocks)
      else renderLines rest true codeLines blocks
    else if inCode then renderLines rest inCode (codeLines ++ [line]) blocks
    else if trimmed = "" then renderLines rest inCode codeLines blocks
    else
      let extended := blocks ++ [lineBlock trimmed]
      if extended.length > 500 then .error (providerError "DOCUMENT_TOO_LARGE")
      else renderLines rest inCode codeLines extended

def renderMarkdown (markdown : String) : Except ClientError (List Json) :=
  renderLines (splitLines (chars markdown) []) false [] []

/-! ## Publishing -/

/-- How a draft is read: its `markdown` field when it is a JSON object with one, and its bytes as
text. -/
structure DraftReader where
  markdownField : ByteArray → Option String
  text : ByteArray → String

def draftMarkdown (reader : DraftReader) (draft : ByteArray) : Option String :=
  match reader.markdownField draft with
  | some markdown =>
    if trimSpace markdown ≠ "" then some markdown
    else if trimSpace (reader.text draft) ≠ "" ∧ rt.jsonValid draft = false then
      some (reader.text draft)
    else none
  | none =>
    if trimSpace (reader.text draft) ≠ "" ∧ rt.jsonValid draft = false then
      some (reader.text draft)
    else none

def asMutationUnknown {α : Type} (exchange : Exchange α) : Exchange α :=
  match exchange with
  | (.error _, sent) =>
    (.error (providerError "RESULT_UNKNOWN" false true), sent)
  | (.ok value, sent) => (.ok value, sent)

def safeURL : String := "https://" ++ config.documentHost ++ "/wiki/" ++ config.wikiNodeToken

/-- The first write of `Publish`: empty the document, when it has children. -/
def deleteChildren (token documentID : String) (count : Nat) (sent : List Request) :
    Exchange Unit :=
  if count > 0 then
    (asMutationUnknown (request provider token .delete (childrenPath documentID ++ "/batch_delete")
      (some (.obj [("start_index", .int 0), ("end_index", .int count)])) true sent)).andThen
      fun _ sent => (.ok (), sent)
  else (.ok (), sent)

/-- The second write of `Publish`: add the blocks, when there are any. -/
def postBlocks (token documentID : String) (blocks : List Json) (sent : List Request) :
    Exchange Unit :=
  if blocks.length > 0 then
    (asMutationUnknown (request provider token .post (childrenPath documentID)
      (some (.obj [("children", .arr blocks)])) true sent)).andThen fun _ sent => (.ok (), sent)
  else (.ok (), sent)

/-- `Publish` from the first write on. -/
def writeDocument (token documentID markdown : String) (count : Nat) (sent : List Request) :
    Exchange Result :=
  (deleteChildren provider token documentID count sent).andThen fun _ sent =>
  match renderMarkdown markdown with
  | .error err =>
    if count > 0 then (.error (providerError "RESULT_UNKNOWN" false true), sent)
    else (.error err, sent)
  | .ok blocks =>
    (postBlocks provider token documentID blocks sent).andThen fun _ sent =>
    (asMutationUnknown (metadata provider token documentID
      (decide (count > 0) || decide (blocks.length > 0)) sent)).andThen fun revision sent =>
    (.ok { safeURL := safeURL config, providerRevision := revision }, sent)

def publish (reader : DraftReader) (draft : ByteArray) : Exchange Result :=
  match draftMarkdown rt reader draft with
  | none => (.error (providerError "INVALID_DRAFT"), [])
  | some markdown =>
    (tenantToken config provider []).andThen fun token sent =>
    (documentID config provider token sent).andThen fun documentID sent =>
    (metadata provider token documentID false sent).andThen fun _ sent =>
    (children provider token documentID false sent).andThen fun count sent =>
    writeDocument config provider token documentID markdown count sent

/-! ## Reconciling -/

/-- `strings.Fields`, on characters. -/
def wordsOf : List Char → List Char → List String
  | [], word => if word = [] then [] else [ofChars word.reverse]
  | ch :: rest, word =>
    if isSpace ch then
      if word = [] then wordsOf rest [] else ofChars word.reverse :: wordsOf rest []
    else wordsOf rest (ch :: word)

def joinWords : List String → String
  | [] => ""
  | [word] => word
  | word :: rest => word ++ " " ++ joinWords rest

def normalizedHash (value : String) : String := rt.hashText (joinWords (wordsOf (chars value) []))

def reconcile (reader : DraftReader) (draft : ByteArray) : Exchange Result :=
  match draftMarkdown rt reader draft with
  | none => (.error (providerError "INVALID_DRAFT"), [])
  | some markdown =>
    (tenantToken config provider []).andThen fun token sent =>
    (documentID config provider token sent).andThen fun documentID sent =>
    (request provider token .get ("/docx/v1/documents/" ++ documentID ++ "/raw_content") none false
      sent).andThen fun body sent =>
    let content := stringField (objectField body "data") "content"
    if normalizedHash rt content ≠ normalizedHash rt markdown then
      (.error (providerError "MANUAL_REVIEW"), sent)
    else
      (metadata provider token documentID false sent).andThen fun revision sent =>
      (.ok { safeURL := safeURL config, providerRevision := revision }, sent)

end Client

/-! ## Which requests change the document -/

def ReadOnly (sent : List Request) : Prop := ∀ request ∈ sent, request.mutates = false

/-- The exchange succeeded, or failed with a result that is not known. -/
def Exchange.Unsure {α : Type} (exchange : Exchange α) : Prop :=
  (∃ value, exchange.1 = .ok value) ∨
    ∃ err, exchange.1 = .error (.provider err) ∧ err.resultUnknown = true

section Exchanges

variable {α β : Type} {exchange : Exchange α} {next : α → List Request → Exchange β}

theorem Exchange.readOnly_andThen (first : ReadOnly exchange.2)
    (rest : ∀ value sent, ReadOnly sent → ReadOnly (next value sent).2) :
    ReadOnly (exchange.andThen next).2 := by
  obtain ⟨result, sent⟩ := exchange
  cases result with
  | error err => exact first
  | ok value => exact rest value sent first

theorem Exchange.Unsure.andThen (first : exchange.Unsure)
    (rest : ∀ value sent, (next value sent).Unsure) : (exchange.andThen next).Unsure := by
  obtain ⟨result, sent⟩ := exchange
  cases result with
  | error err =>
    rcases first with ⟨value, ok⟩ | ⟨unknown, failed, is⟩
    · cases ok
    · cases failed
      exact .inr ⟨unknown, rfl, is⟩
  | ok value => exact rest value sent

theorem Exchange.readOnly_or_unsure_andThen (first : ReadOnly exchange.2)
    (rest : ∀ value sent, ReadOnly sent → ReadOnly (next value sent).2 ∨ (next value sent).Unsure) :
    ReadOnly (exchange.andThen next).2 ∨ (exchange.andThen next).Unsure := by
  obtain ⟨result, sent⟩ := exchange
  cases result with
  | error err => exact .inl first
  | ok value => exact rest value sent first

theorem asMutationUnknown_unsure (exchange : Exchange α) : (asMutationUnknown exchange).Unsure := by
  obtain ⟨result, sent⟩ := exchange
  cases result with
  | error err => exact .inr ⟨_, rfl, rfl⟩
  | ok value => exact .inl ⟨value, rfl⟩

end Exchanges

section Requests

variable {rt : Runtime} {config : Config} {provider : Provider} {sent : List Request}

variable {token : String} {mutationStarted : Bool}

theorem request_readOnly {path : String} {method : Method} {payload : Option Json}
    (before : ReadOnly sent)
    (reads : (Request.mk token method path payload).mutates = false) :
    ReadOnly (request provider token method path payload mutationStarted sent).2 := by
  have extended : ReadOnly (sent ++ [Request.mk token method path payload]) := by
    intro other mem
    rcases List.mem_append.mp mem with mem | mem
    · exact before other mem
    · rw [List.mem_singleton.mp mem]
      exact reads
  unfold request
  dsimp only
  split
  · exact before
  · exact extended
  · exact extended

theorem tenantToken_readOnly (before : ReadOnly sent) :
    ReadOnly (tenantToken config provider sent).2 := by
  refine Exchange.readOnly_andThen (request_readOnly before (by simp [Request.mutates])) ?_
  intro body sent reads
  dsimp only
  split <;> exact reads

theorem documentID_readOnly (before : ReadOnly sent) :
    ReadOnly (documentID config provider token sent).2 := by
  refine Exchange.readOnly_andThen (request_readOnly before rfl) ?_
  intro body sent reads
  dsimp only
  split <;> exact reads

variable {documentID : String}

theorem metadata_readOnly (before : ReadOnly sent) :
    ReadOnly (metadata provider token documentID mutationStarted sent).2 := by
  refine Exchange.readOnly_andThen (request_readOnly before rfl) ?_
  intro body sent reads
  split <;> exact reads

theorem children_readOnly (before : ReadOnly sent) :
    ReadOnly (children provider token documentID mutationStarted sent).2 := by
  refine Exchange.readOnly_andThen (request_readOnly before rfl) ?_
  intro body sent reads
  split <;> exact reads

theorem deleteChildren_unsure (token documentID : String) (count : Nat) (sent : List Request) :
    (deleteChildren provider token documentID count sent).Unsure := by
  unfold deleteChildren
  split
  · exact (asMutationUnknown_unsure _).andThen fun _ _ => .inl ⟨(), rfl⟩
  · exact .inl ⟨(), rfl⟩

theorem postBlocks_unsure (token documentID : String) (blocks : List Json) (sent : List Request) :
    (postBlocks provider token documentID blocks sent).Unsure := by
  unfold postBlocks
  split
  · exact (asMutationUnknown_unsure _).andThen fun _ _ => .inl ⟨(), rfl⟩
  · exact .inl ⟨(), rfl⟩

theorem writeDocument_unsure {markdown : String} {count : Nat} (before : ReadOnly sent) :
    ReadOnly (writeDocument config provider token documentID markdown count sent).2 ∨
      (writeDocument config provider token documentID markdown count sent).Unsure := by
  unfold writeDocument
  cases rendered : renderMarkdown markdown with
  | error err =>
    by_cases some : count > 0
    · refine .inr ((deleteChildren_unsure token documentID count sent).andThen fun _ sent => ?_)
      dsimp only
      rw [if_pos some]
      exact .inr ⟨_, rfl, rfl⟩
    · unfold deleteChildren
      rw [if_neg some]
      refine .inl ?_
      dsimp only [Exchange.andThen]
      rw [if_neg some]
      exact before
  | ok blocks =>
    refine .inr ((deleteChildren_unsure token documentID count sent).andThen fun _ sent => ?_)
    refine (postBlocks_unsure token documentID blocks sent).andThen fun _ sent => ?_
    exact (asMutationUnknown_unsure _).andThen fun revision sent => .inl ⟨_, rfl⟩

/-- Once a publish has sent a request that changes the document, it succeeds or fails with an
unknown result. -/
theorem publish_unknown_of_write (reader : DraftReader) (draft : ByteArray)
    (wrote : ∃ request ∈ (publish rt config provider reader draft).2, request.mutates = true) :
    (publish rt config provider reader draft).Unsure := by
  have settled : ReadOnly (publish rt config provider reader draft).2 ∨
      (publish rt config provider reader draft).Unsure := by
    unfold publish
    split
    · exact .inl nofun
    refine Exchange.readOnly_or_unsure_andThen (tenantToken_readOnly nofun)
      fun token sent reads => ?_
    refine Exchange.readOnly_or_unsure_andThen (documentID_readOnly reads)
      fun document sent reads => ?_
    refine Exchange.readOnly_or_unsure_andThen (metadata_readOnly reads)
      fun _ sent reads => ?_
    refine Exchange.readOnly_or_unsure_andThen (children_readOnly reads)
      fun count sent reads => ?_
    exact writeDocument_unsure reads
  rcases settled with reads | unsure
  · obtain ⟨request, mem, mutates⟩ := wrote
    rw [reads request mem] at mutates
    cases mutates
  · exact unsure

end Requests

end PrdAgent.Feishu
