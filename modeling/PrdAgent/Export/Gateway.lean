import PrdAgent.Export.Service

/-!
# Replacing a document at the provider

`FeishuDocumentGateway` (`export/feishu.py`) creates and overwrites a document by several requests. Each
of them may fail on its own, and the provider may have carried out a request whose answer is lost.

`FeishuWikiDocumentGateway`, which the application wires, is not modelled: it overwrites the document of
one node of a wiki, also where a document would be created.
-/

namespace PrdAgent.Export

open Transition

/-- The document at the provider, with its blocks as the renderer gives them. -/
structure ProviderDocument where
  children : List String
  revision : Nat

/-- How the provider counts revisions, and what its answers report of one. -/
structure Provider where
  next : Nat → Nat
  increases : ∀ revision, revision < next revision
  report : Nat → Option String

/-- What a request meets: `resolve` or the transport raises, or the provider answers with a status and
the `code` of the body, if that is an object and has one. -/
inductive Answer
  | unresolved | timedOut | unavailable | tooLarge | undecodable
  | response (status : Int) (body : Option (Option Int))

/-- A request that changes the document, and whether one that fails has been carried out. -/
structure Exchange where
  answer : Answer
  carriedOut : Bool := false

/-- What the requests of one call meet. -/
structure Exchanges where
  create : Answer
  /-- What the answer to the creation gives. -/
  documentID : Option String
  first : Nat
  metadata : Answer
  listing : Answer
  delete : Exchange
  append : Exchange
  refresh : Answer

def raiseForStatus (status : Int) : IntegrationError :=
  let failed (code : IntegrationErrorCode) (retryable : Bool) : IntegrationError :=
    ⟨code, "Feishu document operation failed", retryable⟩
  if status = 401 ∨ status = 403 then failed .unauthorized false
  else if status = 404 then failed .resourceNotFound false
  else if status = 429 then failed .rateLimited true
  else if 500 ≤ status then failed .providerUnavailable true
  else failed .invalidProviderResponse false

def invalid : IntegrationError := ⟨.invalidProviderResponse, "Feishu returned an invalid response", false⟩

def request : Answer → Except IntegrationError Unit
  | .unresolved => .error ⟨.unauthorized, "provider authorization is not available", false⟩
  | .timedOut => .error ⟨.timeout, "provider request timed out", true⟩
  | .unavailable => .error ⟨.providerUnavailable, "provider is unavailable", true⟩
  | .tooLarge => .error ⟨.payloadTooLarge, "provider response exceeded the allowed size", false⟩
  | .undecodable => .error ⟨.invalidProviderResponse, "provider returned an invalid response", false⟩
  | .response status body =>
    if body ∈ [99991663, 99991668, 99991672].map fun code => some (some code) then
      .error ⟨.unauthorized, "Feishu authorization is not available", false⟩
    else if ¬ (200 ≤ status ∧ status < 300) then .error (raiseForStatus status)
    else match body with
      | none => .error invalid
      | some code =>
        if code ≠ some 0 then
          .error ⟨.invalidProviderResponse, "Feishu rejected the document operation", false⟩
        else .ok ()

def validDocumentID (documentID : String) : Bool :=
  0 < documentID.length && documentID.length ≤ 200 &&
    documentID.toList.all fun char => char.isAlphanum || char == '_' || char == '-'

def invalidDocumentID : IntegrationError :=
  ⟨.invalidProviderResponse, "Feishu returned an invalid document identifier", false⟩

namespace Provider

variable (provider : Provider)

def edited (edit : List String → List String) (held : ProviderDocument) : ProviderDocument :=
  ⟨edit held.children, provider.next held.revision⟩

/-- A request that changes the children, unless there is nothing to do. The provider refuses one without
authorization; one that fails otherwise may have been carried out. -/
def change (idle : Bool) (edit : List String → List String) (exchange : Exchange)
    (raise : IntegrationError → IntegrationError) (held : ProviderDocument) :
    ProviderDocument × Except IntegrationError Unit :=
  if idle then (held, .ok ())
  else match request exchange.answer with
    | .ok () => (provider.edited edit held, .ok ())
    | .error error =>
      (if exchange.carriedOut ∧ error.code ≠ .unauthorized then provider.edited edit held else held,
        .error (raise error))

/-- `_append_blocks`, with the error that its callers raise. -/
def appendBlocks (exchange : Exchange) (document : ExportDocument) (message : String) :=
  provider.change document.blocks.isEmpty (· ++ document.blocks) exchange fun _ =>
    ⟨.resultUnknown, message, false⟩

def deleteChildren (exchange : Exchange) (message : String) (held : ProviderDocument) :=
  let items := held.children.take 500
  provider.change items.isEmpty (·.drop items.length) exchange
    (fun error => if error.code = .unauthorized then error else ⟨.resultUnknown, message, false⟩) held

def changed (expected : Option String) (held : ProviderDocument) : Prop :=
  expected.isSome ∧ (provider.report held.revision).isSome ∧ expected ≠ provider.report held.revision

instance (expected : Option String) (held : ProviderDocument) :
    Decidable (provider.changed expected held) :=
  inferInstanceAs (Decidable (_ ∧ _))

def overwriteDocument (exchanges : Exchanges) (externalID : String) (document : ExportDocument)
    (expected : Option String) (held : ProviderDocument) :
    ProviderDocument × Except IntegrationError ProviderDocumentResult :=
  let message := "bound document replacement requires manual review"
  if !validDocumentID externalID then (held, .error invalidDocumentID)
  else match request exchanges.metadata with
    | .error error => (held, .error error)
    | .ok () =>
      if provider.changed expected held then
        (held, .error ⟨.resourceChanged, "bound document changed after the last export", false⟩)
      else match request exchanges.listing with
        | .error error => (held, .error error)
        | .ok () =>
          match provider.deleteChildren exchanges.delete message held with
          | (held, .error error) => (held, .error error)
          | (held, .ok ()) =>
            match provider.appendBlocks exchanges.append document message held with
            | (held, .error error) => (held, .error error)
            | (held, .ok ()) =>
              (held, (request exchanges.refresh).map fun () =>
                ⟨externalID, document.title, provider.report held.revision⟩)

/-- A document whose creation fails is not bound to the task. -/
def createDocument (exchanges : Exchanges) (document : ExportDocument) :
    Except IntegrationError (ProviderDocument × ProviderDocumentResult) :=
  match request exchanges.create with
  | .error error => .error error
  | .ok () =>
    match exchanges.documentID with
    | none => .error invalid
    | some documentID =>
      if !validDocumentID documentID then .error invalidDocumentID
      else match provider.appendBlocks exchanges.append document
          "document was created but its final content could not be confirmed" ⟨[], exchanges.first⟩ with
        | (_, .error error) => .error error
        -- the revision is that of the answer to the creation
        | (held, .ok ()) => .ok (held, ⟨documentID, document.title, provider.report exchanges.first⟩)

/-! ## What is left of a document -/

/-- The requests up to the deletion and the appending are answered, and the document is the one expected. -/
structure Replaces (exchanges : Exchanges) (externalID : String) (document : ExportDocument)
    (expected : Option String) (held : ProviderDocument) : Prop where
  valid : validDocumentID externalID = true
  metadata : request exchanges.metadata = .ok ()
  same : ¬ provider.changed expected held
  listing : request exchanges.listing = .ok ()
  deleted : held.children = [] ∨ request exchanges.delete.answer = .ok ()
  appended : document.blocks = [] ∨ request exchanges.append.answer = .ok ()

def moved (idle : Bool) (edit : List String → List String) (held : ProviderDocument) :
    ProviderDocument :=
  if idle then held else provider.edited edit held

def replaced (document : ExportDocument) (held : ProviderDocument) : ProviderDocument :=
  let items := held.children.take 500
  provider.moved document.blocks.isEmpty (· ++ document.blocks)
    (provider.moved items.isEmpty (·.drop items.length) held)

variable {provider} {document : ExportDocument} {held : ProviderDocument}

theorem change_cases (provider : Provider) (idle : Bool) (edit : List String → List String)
    (exchange : Exchange) (raise : IntegrationError → IntegrationError) (held : ProviderDocument) :
    (idle = true ∨ request exchange.answer = .ok ()) ∧
      provider.change idle edit exchange raise held = (provider.moved idle edit held, .ok ()) ∨
    ∃ after error, ¬ (idle = true ∨ request exchange.answer = .ok ()) ∧
      provider.change idle edit exchange raise held = (after, .error (raise error)) ∧
      (error.code = .unauthorized → after = held) := by
  unfold change moved
  cases idle with
  | true => exact .inl ⟨.inl rfl, rfl⟩
  | false =>
    cases is : request exchange.answer with
    | ok _ => exact .inl ⟨.inr rfl, rfl⟩
    | error error => exact .inr ⟨_, error, by simp, rfl, fun refused => if_neg fun both => both.2 refused⟩

theorem moved_revision (provider : Provider) (idle : Bool) (edit : List String → List String)
    (held : ProviderDocument) : held.revision ≤ (provider.moved idle edit held).revision ∧
    (idle = false → held.revision < (provider.moved idle edit held).revision) := by
  have increases := provider.increases held.revision
  cases idle with
  | true => exact ⟨le_rfl, nofun⟩
  | false => exact ⟨increases.le, fun _ => increases⟩

theorem replaced_children : (provider.replaced document held).children =
    held.children.drop 500 ++ document.blocks := by
  unfold replaced moved
  cases blocks : document.blocks <;> cases children : held.children <;>
    simp_all [edited]

theorem replaced_eq_self :
    provider.replaced document held = held ↔ held.children = [] ∧ document.blocks = [] := by
  constructor
  · intro same
    have revision : (provider.replaced document held).revision = held.revision := by rw [same]
    have first := provider.moved_revision (held.children.take 500).isEmpty
      (·.drop (held.children.take 500).length) held
    have second := provider.moved_revision document.blocks.isEmpty (· ++ document.blocks)
      (provider.moved (held.children.take 500).isEmpty (·.drop (held.children.take 500).length) held)
    unfold replaced at revision
    dsimp only at revision
    constructor
    · by_contra some
      have := first.2 (by simpa using some)
      omega
    · by_contra some
      have := second.2 (by simpa using some)
      omega
  · rintro ⟨children, blocks⟩
    simp [replaced, moved, children, blocks]

theorem request_code {answer : Answer} {error : IntegrationError}
    (failed : request answer = .error error) : error.code ≠ .resourceChanged := by
  unfold request raiseForStatus at failed
  repeat' split at failed
  all_goals cases failed
  all_goals nofun

/-- An overwrite comes to its last request, or raises an error that is true of the document. -/
theorem overwrite_cases (provider : Provider) (exchanges : Exchanges) (externalID : String)
    (document : ExportDocument) (expected : Option String) (held : ProviderDocument) :
    provider.Replaces exchanges externalID document expected held ∧
      provider.overwriteDocument exchanges externalID document expected held =
        (provider.replaced document held, (request exchanges.refresh).map fun () =>
          ⟨externalID, document.title, provider.report (provider.replaced document held).revision⟩) ∨
    ∃ after error, ¬ provider.Replaces exchanges externalID document expected held ∧
      provider.overwriteDocument exchanges externalID document expected held = (after, .error error) ∧
      (error.retryable = true ∨ error.code = .unauthorized → after = held) ∧
      (error.code = .resourceChanged → provider.changed expected held) := by
  have empty : (held.children.take 500).isEmpty = true ↔ held.children = [] := by simp
  dsimp only [overwriteDocument]
  split
  · next invalid =>
    exact .inr ⟨_, _, fun replaces => by simp [replaces.valid] at invalid, rfl, fun _ => rfl,
      nofun⟩
  next valid =>
  split
  · next failed =>
    exact .inr ⟨_, _, fun replaces => (nomatch failed.symm.trans replaces.metadata), rfl, fun _ => rfl,
      fun is => absurd is (request_code failed)⟩
  next metadata =>
  split
  · next changed => exact .inr ⟨_, _, fun replaces => replaces.same changed, rfl, fun _ => rfl,
      fun _ => changed⟩
  next same =>
  split
  · next failed =>
    exact .inr ⟨_, _, fun replaces => (nomatch failed.symm.trans replaces.listing), rfl, fun _ => rfl,
      fun is => absurd is (request_code failed)⟩
  next listing =>
  unfold deleteChildren appendBlocks
  dsimp only
  rcases provider.change_cases (held.children.take 500).isEmpty (·.drop (held.children.take 500).length)
    exchanges.delete _ held with ⟨deleted, is⟩ | ⟨after, error, kept, is, refused⟩
  · rw [is]
    dsimp only
    rcases provider.change_cases document.blocks.isEmpty (· ++ document.blocks) exchanges.append _
      (provider.moved (held.children.take 500).isEmpty (·.drop (held.children.take 500).length) held)
      with ⟨appended, is⟩ | ⟨after, error, kept, is, -⟩
    · rw [is]
      exact .inl ⟨⟨by simpa using valid, metadata, same, listing, deleted.imp_left empty.mp,
        appended.imp_left List.isEmpty_iff.mp⟩, rfl⟩
    · rw [is]
      exact .inr ⟨_, _, fun replaces => kept (replaces.appended.imp_left List.isEmpty_iff.mpr), rfl, nofun,
        nofun⟩
  · rw [is]
    refine .inr ⟨_, _, fun replaces => kept (replaces.deleted.imp_left empty.mpr), rfl, ?_⟩
    split
    · next unauthorized => exact ⟨fun _ => refused unauthorized, by simp [unauthorized]⟩
    · exact ⟨nofun, nofun⟩

/-- An overwrite that returns has left the rendered blocks and nothing else, and one that raises an error
marked retryable or `UNAUTHORIZED` has left the document as it was, exactly if there were at most 500
children to delete and, when something was replaced, the last request did not fail with such an error. -/
theorem overwrite_honest_iff (provider : Provider) (exchanges : Exchanges) (externalID : String)
    (document : ExportDocument) (expected : Option String) (held : ProviderDocument) :
    let done := provider.overwriteDocument exchanges externalID document expected held
    ((∀ result, done.2 = .ok result → done.1.children = document.blocks) ∧
      ∀ error, done.2 = .error error → error.retryable = true ∨ error.code = .unauthorized →
        done.1 = held) ↔
    (provider.Replaces exchanges externalID document expected held →
      (request exchanges.refresh = .ok () → held.children.length ≤ 500) ∧
      ∀ error, request exchanges.refresh = .error error →
        error.retryable = true ∨ error.code = .unauthorized →
        held.children = [] ∧ document.blocks = []) := by
  dsimp only
  rcases provider.overwrite_cases exchanges externalID document expected held with
    ⟨replaces, is⟩ | ⟨after, error, not, is, honest, -⟩
  · rw [is]
    cases last : request exchanges.refresh with
    | ok _ => simp [Except.map, replaces, replaced_children]
    | error error => simp [Except.map, replaces, replaced_eq_self]
  · rw [is]
    refine iff_of_true ⟨nofun, ?_⟩ fun replaces => absurd replaces not
    rintro _ ⟨⟩
    exact honest

def tally (revision : Nat) : String := String.ofList (List.replicate revision '1')

/-- A provider that counts its revisions, and reports them by tallies. -/
def counting : Provider := ⟨(· + 1), fun _ => Nat.lt_succ_self _, fun revision => some (tally revision)⟩

def answered : Answer := .response 200 (some (some 0))

def answeredTo (status : Int) : Exchanges :=
  ⟨answered, some "doc", 1, answered, answered, ⟨answered, false⟩, ⟨answered, false⟩,
    .response status (some (some 0))⟩

def sampleDocument (blocks : List String) : ExportDocument := ⟨"PRD", 1, blocks, "hash"⟩

/-- The 501st child stays; and when the last request is refused with status 503, the error is marked
retryable although the document is replaced. -/
theorem overwrite_leaves_or_hides : (∃ result after,
      counting.overwriteDocument (answeredTo 200) "doc" (sampleDocument ["new"]) none
        ⟨List.replicate 501 "old", 1⟩ = (after, .ok result) ∧ after.children = ["old", "new"]) ∧
    ∃ error after, counting.overwriteDocument (answeredTo 503) "doc" (sampleDocument ["new"]) none
        ⟨["old"], 1⟩ = (after, .error error) ∧ error.retryable = true ∧ after.children = ["new"] :=
  ⟨⟨_, _, rfl, by decide +kernel⟩, _, _, rfl, rfl, rfl⟩

end Provider

/-! ## The revision in the binding -/

structure Bound where
  held : ProviderDocument
  binding : ExternalDocumentBinding

/-- What happens to the document of a task: an execution comes to the gateway, or somebody else edits
it. -/
inductive DocumentInput
  | exported (id : Nat) (ownerID : String) (checked : Checked) (exchanges : Exchanges)
  | edited (edit : List String → List String)

namespace Provider

/-- The accesses of an execution from `get_binding` to `save_binding`. -/
def step (provider : Provider) : DocumentInput → Option Bound →
    Option Bound × Except IntegrationError Unit
  | .exported id ownerID checked exchanges, found =>
    match checkBinding checked.intent.mode (found.map (·.binding)), found with
    | .error error, _ => (found, .error error)
    | .ok (), none =>
      match provider.createDocument exchanges checked.document with
      | .error error => (none, .error error)
      | .ok (held, result) => (some ⟨held, boundTo id ownerID checked result⟩, .ok ())
    | .ok (), some bound =>
      match provider.overwriteDocument exchanges bound.binding.externalID checked.document
          bound.binding.providerRevision bound.held with
      | (held, .error error) => (some { bound with held := held }, .error error)
      | (held, .ok result) =>
        (some ⟨held, boundTo id ownerID { checked with binding := some bound.binding } result⟩, .ok ())
  | .edited edit, found =>
    (found.map fun bound => { bound with held := provider.edited edit bound.held }, .ok ())

/-- The revision is of the document now, or of an earlier time. -/
structure Tracks (provider : Provider) (bound : Bound) (revision : Nat) : Prop where
  valid : validDocumentID bound.binding.externalID = true
  stored : bound.binding.providerRevision = provider.report revision
  passed : revision ≤ bound.held.revision

variable {provider : Provider} {found : Option Bound} {id : Nat} {ownerID : String} {checked : Checked}
  {exchanges : Exchanges}

theorem create_tracks {document : ExportDocument} {held : ProviderDocument}
    {result : ProviderDocumentResult}
    (ok : provider.createDocument exchanges document = .ok (held, result)) :
    validDocumentID result.externalID = true ∧ result.providerRevision = provider.report exchanges.first ∧
      exchanges.first ≤ held.revision ∧ (document.blocks = [] → exchanges.first = held.revision) := by
  unfold createDocument at ok
  repeat' split at ok
  all_goals cases ok
  next valid _ appended =>
  unfold appendBlocks at appended
  rcases provider.change_cases document.blocks.isEmpty (· ++ document.blocks) exchanges.append _
    ⟨[], exchanges.first⟩ with ⟨-, is⟩ | ⟨after, error, -, is, -⟩
  · cases is.symm.trans appended
    exact ⟨by simpa using valid, rfl, (provider.moved_revision _ _ ⟨[], _⟩).1,
      fun none => by rw [none]; rfl⟩
  · cases is.symm.trans appended

/-- An export that succeeds stores a revision that the document has had, which is the current one unless
the document was created with blocks. -/
theorem step_tracks (valid : ∀ bound, found = some bound →
      validDocumentID bound.binding.externalID = true)
    (ok : (provider.step (.exported id ownerID checked exchanges) found).2 = .ok ()) :
    ∃ bound revision, (provider.step (.exported id ownerID checked exchanges) found).1 = some bound ∧
      provider.Tracks bound revision ∧
      (found ≠ none ∨ checked.document.blocks = [] → revision = bound.held.revision) := by
  unfold step at ok ⊢
  cases found with
  | none =>
    cases mode : checked.intent.mode with
    | overwriteBound => simp [mode, checkBinding] at ok
    | create =>
      simp only [mode, checkBinding, Option.map_none] at ok ⊢
      split at ok
      · cases ok
      next held result created =>
      obtain ⟨valid, stored, passed, current⟩ := create_tracks created
      exact ⟨_, _, rfl, ⟨by simpa [boundTo, mode] using valid, stored, passed⟩,
        fun is => current (is.resolve_left (absurd rfl))⟩
  | some bound =>
    cases mode : checked.intent.mode with
    | create => simp [mode, checkBinding] at ok
    | overwriteBound =>
      simp only [mode, checkBinding, Option.map_some] at ok ⊢
      split at ok
      · cases ok
      next held result overwritten =>
      refine ⟨_, _, rfl, ⟨by simpa [boundTo, mode] using valid bound rfl, ?_, le_rfl⟩, fun _ => rfl⟩
      rcases provider.overwrite_cases exchanges bound.binding.externalID checked.document
        bound.binding.providerRevision bound.held with ⟨-, is⟩ | ⟨_, error, -, is, -⟩
      · cases last : request exchanges.refresh <;> rw [last] at is
        all_goals cases is.symm.trans overwritten
        rfl
      · cases is.symm.trans overwritten

def Succeeds (provider : Provider) (found : Option Bound) (input : DocumentInput) : Prop :=
  (∃ id ownerID checked exchanges, input = .exported id ownerID checked exchanges) ∧
    (provider.step input found).2 = .ok ()

def CreatesBlank (found : Option Bound) : DocumentInput → Prop
  | .exported _ _ checked _ => found = none → checked.document.blocks = []
  | .edited _ => True

/-- In every sequence of successful exports that creates no document with blocks, the stored revision is
the current one, so that no overwrite fails with `RESOURCE_CHANGED`. After any successful exports and an
edit by somebody else, an overwrite whose first request is answered does, and changes nothing. -/
theorem export_revision_tracked (provider : Provider) (write : Nat → String)
    (apart : Function.Injective write) (reports : ∀ revision, provider.report revision =
      some (write revision)) :
    (∀ events bound, Run provider.step (fun found input => Succeeds provider found input ∧
        CreatesBlank found input) none events (some bound) →
      bound.binding.providerRevision = provider.report bound.held.revision ∧
      ∀ id ownerID checked exchanges error,
        (provider.step (.exported id ownerID checked exchanges) (some bound)).2 = .error error →
        error.code ≠ .resourceChanged) ∧
    ∀ events bound edit id ownerID checked exchanges,
      Run provider.step (fun found input => Succeeds provider found input ∨
        ∃ edit, input = .edited edit) none events (some bound) →
      checked.intent.mode = .overwriteBound → request exchanges.metadata = .ok () →
      let edited := some { bound with held := provider.edited edit bound.held }
      provider.step (.edited edit) (some bound) = (edited, .ok ()) ∧
      provider.step (.exported id ownerID checked exchanges) edited =
        (edited, .error ⟨.resourceChanged, "bound document changed after the last export", false⟩) := by
  constructor
  · intro events bound run
    have tracks : ∀ bound', some bound = some bound' → provider.Tracks bound' bound'.held.revision := by
      refine run.invariant (I := fun found => ∀ bound, found = some bound →
        provider.Tracks bound bound.held.revision) ?_ nofun
      rintro found _ ⟨⟨⟨id, ownerID, checked, exchanges, rfl⟩, ok⟩, blank⟩ before bound' is'
      obtain ⟨bound, revision, is, tracks, current⟩ :=
        step_tracks (fun bound is => (before bound is).valid) ok
      cases is.symm.trans is'
      rw [current (or_iff_not_imp_left.mpr fun none => blank (not_not.mp none))] at tracks
      exact tracks
    have same := (tracks bound rfl).stored
    refine ⟨same, fun id ownerID checked exchanges error failed => ?_⟩
    cases mode : checked.intent.mode with
    | create =>
      simp only [step, mode, checkBinding, Option.map_some] at failed
      cases failed
      nofun
    | overwriteBound =>
      simp only [step, mode, checkBinding, Option.map_some] at failed
      rcases provider.overwrite_cases exchanges bound.binding.externalID checked.document
        bound.binding.providerRevision bound.held with ⟨-, is⟩ | ⟨_, _, -, is, -, changed⟩
      · rw [is] at failed
        cases last : request exchanges.refresh with
        | ok _ =>
          rw [last] at failed
          cases failed
        | error error =>
          rw [last] at failed
          cases failed
          exact request_code last
      · rw [is] at failed
        cases failed
        exact fun is => (changed is).2.2 same
  · intro events bound edit id ownerID checked exchanges run mode metadata
    have tracks : ∀ bound', some bound = some bound' → ∃ revision, provider.Tracks bound' revision := by
      refine run.invariant (I := fun found => ∀ bound, found = some bound →
        ∃ revision, provider.Tracks bound revision) ?_ nofun
      rintro found _ (⟨⟨id, ownerID, checked, exchanges, rfl⟩, ok⟩ | ⟨edit, rfl⟩) before bound' is'
      · obtain ⟨bound, revision, is, tracks, -⟩ :=
          step_tracks (fun bound is => (before bound is).elim fun _ tracks => tracks.valid) ok
        cases is.symm.trans is'
        exact ⟨revision, tracks⟩
      · obtain ⟨bound, is, rfl⟩ := Option.map_eq_some_iff.mp is'
        obtain ⟨revision, valid, stored, passed⟩ := before bound is
        exact ⟨revision, valid, stored, passed.trans (provider.increases _).le⟩
    obtain ⟨revision, valid, stored, passed⟩ := tracks bound rfl
    have later := provider.increases bound.held.revision
    have changed : provider.changed bound.binding.providerRevision (provider.edited edit bound.held) := by
      refine ⟨by simp [stored, reports], by simp [reports], fun same => ?_⟩
      rw [stored, reports, reports, Option.some.injEq] at same
      have := apart same
      dsimp only [edited] at this
      omega
    refine ⟨rfl, ?_⟩
    simp [step, mode, checkBinding, overwriteDocument, valid, metadata, changed]

def sampleExport (mode : ExportMode) (blocks : List String) : DocumentInput :=
  .exported 1 "ann" {
    intent := ⟨1, "task", "ann", mode, 1, "document", 1, "hash", 0, none⟩
    source := ⟨"COMPLETED", 1, "document", 1, "", []⟩
    document := sampleDocument blocks } (answeredTo 200)

/-- A blank document is created and overwritten with a block. Its revision is tracked, and after an edit
by somebody else the next overwrite is refused. -/
theorem blank_document_tracked : ∃ events bound,
    Run counting.step (fun found input => Succeeds counting found input ∧ CreatesBlank found input) none
        events (some bound) ∧
      events.map (·.input) = [sampleExport .create [], sampleExport .overwriteBound ["new"]] ∧
      bound.held = ⟨["new"], 2⟩ ∧
      bound.binding.providerRevision = counting.report bound.held.revision ∧
      (counting.step (sampleExport .overwriteBound ["newer"])
        (counting.step (.edited (· ++ ["other"])) (some bound)).1).2 =
          .error ⟨.resourceChanged, "bound document changed after the last export", false⟩ := by
  have apart : Function.Injective tally := fun left right same => by
    simpa [tally] using congrArg String.length same
  have tracked := export_revision_tracked counting tally apart fun _ => rfl
  have run : Run counting.step (fun found input => Succeeds counting found input ∧
      CreatesBlank found input) none _ (some _) :=
    .cons (sampleExport .create []) ⟨⟨⟨_, _, _, _, rfl⟩, rfl⟩, fun _ => rfl⟩
      (.cons (sampleExport .overwriteBound ["new"]) ⟨⟨⟨_, _, _, _, rfl⟩, rfl⟩, nofun⟩ (.nil _))
  refine ⟨_, _, run, rfl, rfl, (tracked.1 _ _ run).1, ?_⟩
  exact congrArg Prod.snd (tracked.2 _ _ (· ++ ["other"]) _ _ _ _
    (run.mono fun _ _ allowed => .inl allowed.1) rfl rfl).2

theorem created_document_rejected : ∃ bound error,
    counting.step (sampleExport .create ["new"]) none = (some bound, .ok ()) ∧
      bound.binding.providerRevision ≠ counting.report bound.held.revision ∧
      (counting.step (sampleExport .overwriteBound ["newer"]) (some bound)).2 = .error error ∧
      error.code = .resourceChanged :=
  ⟨_, _, rfl, by decide +kernel, rfl, rfl⟩

end Provider

end PrdAgent.Export
