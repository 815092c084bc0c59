import PrdAgent.Export.Executions

/-!
# Exports of one task

An execution checks the expiry of its intent and the binding of the task before it claims the intent, and
the claim looks at neither. So an expired claim can be taken over while its execution is still at the
gateway, and two intents of a task can both create a document (`two_documents_created`). With claims that
are made alone (`claimsAlone`), executions exclude each other.
-/

namespace PrdAgent.Export

open AssocMap Transition

variable {service : Service} {sources : Sources} {now : Int} {id : Nat} {reply : GatewayReply}
  {command : ExecuteCommand} {store store' : ExportStore} {phase phase' : Phase} {world : World}
  {past : List ExportEvent} {key : String × String}

def Phase.claimed : Phase → Option Checked
  | .callGateway checked _ | .saveBinding checked _ _ | .settle checked _ => some checked
  | _ => none

def Execution.creates (execution : Execution) : Option ((String × String) × Nat) :=
  match execution.phase with
  | .callGateway checked _ | .saveBinding checked _ _ =>
    if checked.intent.mode = .create then
      some ((execution.command.ownerID, checked.intent.taskID), checked.intent.intentID)
    else none
  | _ => none

def created (key : String × String) (event : ExportEvent) : Bool :=
  match event.input with
  | .access id (.returned _) =>
    match event.before.executions.get id with
    | some ⟨command, .callGateway checked _⟩ =>
      checked.intent.mode == .create && (command.ownerID, checked.intent.taskID) == key
    | _ => false
  | _ => false

/-- An intent is claimed only before it expires, and for a new document only while the task has no
document and no execution of another intent is creating one. -/
def claimsAlone (world : World) : Input → Bool
  | .access id _ =>
    match world.executions.get id with
    | some ⟨command, .claimIntent checked _ claimNow⟩ =>
      decide (claimNow < checked.intent.expiresAt) && (checked.intent.mode != .create ||
        (world.store.bindings.get (command.ownerID, checked.intent.taskID)).isNone &&
        world.executions.values.all fun other => other.creates.all fun making =>
          making.1 != (command.ownerID, checked.intent.taskID) ||
            making.2 == checked.intent.intentID)
    | _ => true
  | _ => true

/-! ## What an execution relies on -/

def SameIntent (intent intent' : ExportIntent) : Prop :=
  intent'.intentID = intent.intentID ∧ intent'.expiresAt = intent.expiresAt

theorem SameIntent.refl (intent : ExportIntent) : SameIntent intent intent := ⟨rfl, rfl⟩

def Stored (store : ExportStore) (intent : ExportIntent) : Prop :=
  ∃ stored, store.intents.get intent.intentID = some stored ∧ stored.expiresAt = intent.expiresAt

/-- An execution that overwrites has found a document. -/
def Suits (store : ExportStore) (command : ExecuteCommand) (checked : Checked) : Prop :=
  checked.intent.mode = .overwriteBound →
    (store.bindings.get (command.ownerID, checked.intent.taskID)).isSome

/-- The intent is claimed for the execution, until it expires at least. -/
structure Holds (store : ExportStore) (id : Nat) (command : ExecuteCommand) (checked : Checked)
    (run : ExportRun) : Prop where
  intent : Stored store checked.intent
  run : run.exportRunID = id
  claim : ∃ expires, store.intentClaims.get checked.intent.intentID =
    some (command.ownerID, id, expires) ∧ checked.intent.expiresAt ≤ expires

def Phase.Sound (service : Service) (store : ExportStore) (id : Nat) (command : ExecuteCommand) :
    Phase → Prop
  | .checkExpiry intent | .readSource intent => Stored store intent
  | .getBinding checked => Stored store checked.intent
  | .beginRun checked => Stored store checked.intent ∧ Suits store command checked
  | .readClock checked run =>
    Stored store checked.intent ∧ Suits store command checked ∧ run.exportRunID = id
  | .claimIntent checked run claimNow =>
    Stored store checked.intent ∧ Suits store command checked ∧ run.exportRunID = id ∧
      checked.intent.expiresAt ≤ claimNow + service.intentTTL
  | .callGateway checked run => Holds store id command checked run ∧ Suits store command checked
  | .saveBinding checked run binding => Holds store id command checked run ∧
      Suits store command checked ∧
      (binding.ownerID, binding.taskID) = (command.ownerID, checked.intent.taskID)
  | .settle checked run => Holds store id command checked run
  | .getReplay | .getIntent | .saveReplay .. | .done _ => True

variable {checked : Checked}

theorem Phase.Sound.claim (sound : phase.Sound service store id command)
    (claimed : phase.claimed = some checked) :
    ∃ expires, store.intentClaims.get checked.intent.intentID =
      some (command.ownerID, id, expires) := by
  cases phase with
  | callGateway | saveBinding =>
    cases claimed
    exact sound.1.claim.imp fun _ => And.left
  | settle =>
    cases claimed
    exact Holds.claim sound |>.imp fun _ => And.left
  | _ => cases claimed

variable {intentID : Nat}

theorem creates_claimed {execution : Execution}
    (creates : execution.creates = some (key, intentID)) :
    ∃ checked, execution.phase.claimed = some checked ∧ checked.intent.mode = .create ∧
      (execution.command.ownerID, checked.intent.taskID) = key ∧
      checked.intent.intentID = intentID := by
  obtain ⟨command, phase⟩ := execution
  cases phase with
  | callGateway checked | saveBinding checked =>
    unfold Execution.creates at creates
    dsimp only at creates
    split at creates
    · next create =>
      cases creates
      exact ⟨checked, rfl, create, rfl, rfl⟩
    · cases creates
  | _ => cases creates

theorem Phase.Sound.mono (sound : phase.Sound service store id command)
    (intents : Into SameIntent store.intents store'.intents)
    (bindings : ∀ key, (store.bindings.get key).isSome → (store'.bindings.get key).isSome)
    (claims : ∀ checked expires, phase.claimed = some checked → Stored store checked.intent →
      checked.intent.expiresAt ≤ expires →
      store.intentClaims.get checked.intent.intentID = some (command.ownerID, id, expires) →
      store'.intentClaims.get checked.intent.intentID = some (command.ownerID, id, expires)) :
    phase.Sound service store' id command := by
  have stored {intent : ExportIntent} (before : Stored store intent) : Stored store' intent := by
    obtain ⟨found, there, same⟩ := before
    obtain ⟨found', there', -, same'⟩ := intents _ _ there
    exact ⟨found', there', same'.trans same⟩
  have suits {checked : Checked} (before : Suits store command checked) :
      Suits store' command checked := fun overwrites => bindings _ (before overwrites)
  have holds {checked : Checked} {run : ExportRun} (is : phase.claimed = some checked)
      (before : Holds store id command checked run) : Holds store' id command checked run := by
    obtain ⟨intent, named, expires, claim, late⟩ := before
    exact ⟨stored intent, named, expires, claims checked expires is intent late claim, late⟩
  cases phase with
  | checkExpiry | readSource | getBinding => exact stored sound
  | beginRun => exact ⟨stored sound.1, suits sound.2⟩
  | readClock | claimIntent => exact ⟨stored sound.1, suits sound.2.1, sound.2.2⟩
  | callGateway => exact ⟨holds rfl sound.1, suits sound.2⟩
  | saveBinding => exact ⟨holds rfl sound.1, suits sound.2.1, sound.2.2⟩
  | settle => exact holds rfl sound
  | getReplay | getIntent | saveReplay | done => trivial

/-! ## What an access does to the others -/

section

variable (access : Access service sources now id reply command store phase store' phase')
include access

theorem Access.intents : Follows SameIntent store.intents store'.intents := by
  cases access with
  | consumed _ stored => exact .set .refl stored ⟨rfl, rfl⟩
  | _ => exact ⟨.refl .refl _, .refl .refl _⟩

theorem Access.bound_stays (stored : (store.bindings.get key).isSome) :
    (store'.bindings.get key).isSome := by
  cases access with
  | bound =>
    rw [get_set]
    split
    · rfl
    · exact stored
  | _ => exact stored

theorem Access.sound (intents : ∀ intentID intent, store.intents.get intentID = some intent →
      intent.intentID = intentID ∧ intent.expiresAt ≤ now + service.intentTTL)
    (sound : phase.Sound service store id command) : phase'.Sound service store' id command := by
  cases access with
  | confirmed stored => exact ⟨_, (intents _ _ stored).1 ▸ stored, rfl⟩
  | unexpired | sourced => exact sound
  | suited read suits =>
    refine ⟨sound, fun overwrites => ?_⟩
    rw [overwrites] at suits
    cases found : store.bindings.get (command.ownerID, _) with
    | none =>
      cases read.symm.trans found
      cases suits
    | some => rfl
  | begun | returned => exact ⟨sound.1, sound.2, rfl⟩
  | timed =>
    obtain ⟨stored, there, same⟩ := sound.1
    exact ⟨sound.1, sound.2.1, sound.2.2, same ▸ (intents _ _ there).2⟩
  | claimed =>
    obtain ⟨stored, suits, named, late⟩ := sound
    exact ⟨⟨stored, named, _, named ▸ get_set_self _ _ _, late⟩, suits⟩
  | failed | bound | unbound => exact ⟨sound.1.intent, sound.1.run, sound.1.claim⟩
  | ended | fresh | refused | released | consumed | lost | saved => trivial

end

theorem claimsAlone_claim {run : ExportRun} {claimNow : Int}
    (alone : claimsAlone world (.access id reply) = true)
    (stored : world.executions.get id = some ⟨command, .claimIntent checked run claimNow⟩) :
    claimNow < checked.intent.expiresAt ∧ (checked.intent.mode = .create →
      world.store.bindings.get (command.ownerID, checked.intent.taskID) = none ∧
      ∀ other execution intentID, world.executions.get other = some execution →
        execution.creates = some ((command.ownerID, checked.intent.taskID), intentID) →
        intentID = checked.intent.intentID) := by
  unfold claimsAlone at alone
  dsimp only at alone
  rw [stored] at alone
  simp only [Bool.and_eq_true, decide_eq_true_eq, Bool.or_eq_true, bne_iff_ne, ne_eq,
    Option.isNone_iff_eq_none, all_values] at alone
  refine ⟨alone.1, fun create => ?_⟩
  obtain ⟨free, others⟩ := alone.2.resolve_left (not_not.mpr create)
  refine ⟨free, fun other execution intentID there creates => ?_⟩
  have is := others other execution there
  rw [creates] at is
  simpa using is

/-! ## The invariant -/

structure Exclusive (service : Service) (world : World) : Prop where
  intents : ∀ intentID intent, world.store.intents.get intentID = some intent →
    intent.intentID = intentID ∧ intentID < world.next ∧
      intent.expiresAt ≤ world.now + service.intentTTL
  older : ∀ id execution, world.executions.get id = some execution → id < world.next
  sound : ∀ id execution, world.executions.get id = some execution →
    execution.phase.Sound service world.store id execution.command
  free : ∀ id execution key intentID, world.executions.get id = some execution →
    execution.creates = some (key, intentID) → world.store.bindings.get key = none
  one : ∀ id id' execution execution' key intentID intentID',
    world.executions.get id = some execution → world.executions.get id' = some execution' →
    execution.creates = some (key, intentID) → execution'.creates = some (key, intentID') →
    intentID = intentID'

namespace Exclusive

variable {execution execution' : Execution} {id' : Nat}

section

variable (exclusive : Exclusive service world)

include exclusive

theorem claimed_once {checked' : Checked}
    (stored : world.executions.get id = some execution)
    (stored' : world.executions.get id' = some execution')
    (claimed : execution.phase.claimed = some checked)
    (claimed' : execution'.phase.claimed = some checked')
    (same : checked.intent.intentID = checked'.intent.intentID) : id = id' := by
  obtain ⟨_, claim⟩ := (exclusive.sound id execution stored).claim claimed
  obtain ⟨_, claim'⟩ := (exclusive.sound id' execution' stored').claim claimed'
  rw [same, claim'] at claim
  exact (congrArg (·.2.1) (Option.some.inj claim)).symm

theorem creates_once {intentID' : Nat}
    (stored : world.executions.get id = some execution)
    (stored' : world.executions.get id' = some execution')
    (creates : execution.creates = some (key, intentID))
    (creates' : execution'.creates = some (key, intentID')) : id = id' := by
  have same := exclusive.one _ _ _ _ _ _ _ stored stored' creates creates'
  obtain ⟨_, claimed, -, -, is⟩ := creates_claimed creates
  obtain ⟨_, claimed', -, -, is'⟩ := creates_claimed creates'
  exact exclusive.claimed_once stored stored' claimed claimed' (is.trans (same.trans is'.symm))

theorem set {next : Nat} (newer : world.next ≤ next)
    (named : id < next) (intents : Follows SameIntent world.store.intents store'.intents)
    (others : ∀ {other found}, other ≠ id → world.executions.get other = some found →
      found.phase.Sound service store' other found.command ∧ ∀ {key intentID},
        found.creates = some (key, intentID) → store'.bindings.get key = none)
    (own : execution.phase.Sound service store' id execution.command)
    (creating : ∀ {key intentID}, execution.creates = some (key, intentID) →
      store'.bindings.get key = none ∧ ∀ {other found intentID'},
        world.executions.get other = some found → found.creates = some (key, intentID') →
        intentID' = intentID) : Exclusive service { world with
      store := store', executions := world.executions.set id execution, next := next } := by
  refine ⟨fun intentID intent there => ?_, fun other found there => ?_, fun other found there => ?_,
    fun other found key intentID there creates => ?_,
    fun other other' found found' key intentID intentID' there there' creates creates' => ?_⟩
  · obtain ⟨before, there, named, expires⟩ := intents.came intentID intent there
    obtain ⟨is, older, bound⟩ := exclusive.intents intentID before there
    exact ⟨named.trans is, older.trans_le newer, expires ▸ bound⟩
  all_goals rcases get_set_eq_some there with ⟨rfl, rfl⟩ | ⟨apart, before⟩
  · exact named
  · exact (exclusive.older other found before).trans_le newer
  · exact own
  · exact (others apart before).1
  · exact (creating creates).1
  · exact (others apart before).2 creates
  all_goals rcases get_set_eq_some there' with ⟨rfl, rfl⟩ | ⟨-, before'⟩
  · cases creates.symm.trans creates'
    rfl
  · exact ((creating creates).2 before' creates').symm
  · exact (creating creates').2 before creates
  · exact exclusive.one _ _ _ _ _ _ _ before before' creates creates'

theorem accessed
    (stored : world.executions.get id = some execution)
    (alone : claimsAlone world (.access id reply) = true)
    (access : Access service world.sources world.now id reply execution.command world.store
      execution.phase store' phase') : Exclusive service { world with
      store := store', executions := world.executions.set id ⟨execution.command, phase'⟩ } := by
  obtain ⟨command, phase⟩ := execution
  have own := exclusive.sound id _ stored
  refine exclusive.set le_rfl (exclusive.older id _ stored) access.intents
    (fun {other found} apart there => ⟨?_, fun {key intentID} creates => ?_⟩)
    (access.sound (fun intentID intent there => ?_) own) fun {key intentID} creates => ?_
  · refine (exclusive.sound other found there).mono access.intents.went
      (fun _ => access.bound_stays) fun checked expires _ intent late claim => ?_
    have kept {claimed runID : Nat} (named : runID = id)
        (held : world.store.holdsClaim claimed command.ownerID runID = true) :
        (world.store.intentClaims.del claimed).get checked.intent.intentID =
          some (found.command.ownerID, other, expires) := by
      refine (get_del_ne _ ?_).trans claim
      rintro rfl
      unfold ExportStore.holdsClaim at held
      rw [claim, Option.any_some, Bool.and_eq_true, beq_iff_eq, beq_iff_eq] at held
      exact apart (held.2.trans named)
    cases access with
    | @claimed checked' run claimNow _ _ _ free =>
      by_cases same : checked.intent.intentID = checked'.intent.intentID
      · rcases free _ (same ▸ claim) with mine | (expired : expires ≤ claimNow)
        · exact absurd (mine.trans own.2.2.1) apart
        · -- the claim would have expired after its intent
          have unexpired := (claimsAlone_claim alone stored).1
          obtain ⟨⟨intent', there', expires'⟩, -⟩ := own
          obtain ⟨intent, there, expires⟩ := intent
          rw [← same, there] at there'
          cases there'
          omega
      · exact (get_set_ne _ _ same).trans claim
    | released _ _ is =>
      rcases is with rfl | ⟨held, rfl⟩
      · exact claim
      · exact kept (Holds.run own) held
    | consumed _ _ held => exact kept (Holds.run own) held
    | _ => exact claim
  · have free := exclusive.free _ _ _ _ there creates
    cases access with
    | @bound checked run =>
      obtain ⟨-, suits, bound⟩ := own
      refine (get_set_ne _ _ ?_).trans free
      rintro rfl
      rw [bound] at free creates
      cases create : checked.intent.mode with
      | overwriteBound =>
        have found := suits create
        rw [free] at found
        cases found
      | create => exact apart (exclusive.creates_once there stored creates (if_pos create))
    | _ => exact free
  · have is := exclusive.intents intentID intent there
    exact ⟨is.1, is.2.2⟩
  · cases access with
    | claimed =>
      obtain ⟨_, is, create, rfl, rfl⟩ := creates_claimed creates
      cases is
      obtain ⟨free, others⟩ := (claimsAlone_claim alone stored).2 create
      exact ⟨free, fun there creates => others _ _ _ there creates⟩
    | returned =>
      exact ⟨exclusive.free _ _ _ _ stored creates, fun there creates' =>
        exclusive.one _ _ _ _ _ _ _ there stored creates' creates⟩
    | _ => cases creates

end

end Exclusive

variable {input : Input}

theorem WorldStep.exclusive {world' : World}
    (step : WorldStep service world input world') (alone : claimsAlone world input = true)
    (exclusive : Exclusive service world) : Exclusive service world' := by
  cases step with
  | quiet store executions next now =>
    obtain ⟨intents, older, sound, free, one⟩ := exclusive
    rw [← store, ← executions] at *
    refine ⟨fun intentID intent there => ?_, fun id execution there =>
      (older id execution there).trans_le next, sound, free, one⟩
    obtain ⟨named, before, bound⟩ := intents intentID intent there
    exact ⟨named, before.trans_le next, bound.trans (Int.add_le_add_right now _)⟩
  | @previewed _ intent replays named expires =>
    have unused : world.store.intents.get world.next = none := by
      by_contra used
      obtain ⟨intent, there⟩ := Option.ne_none_iff_exists'.mp used
      exact lt_irrefl _ (exclusive.intents _ _ there).2.1
    refine ⟨fun intentID found there => ?_, fun id execution there =>
      Nat.lt_succ_of_lt (exclusive.older id execution there), fun id execution there =>
      (exclusive.sound id execution there).mono (.insert .refl unused intent)
        (fun _ bound => bound)
        fun _ _ _ _ _ claim => claim, exclusive.free, exclusive.one⟩
    rcases get_set_eq_some there with ⟨rfl, rfl⟩ | ⟨-, there⟩
    · exact ⟨named, Nat.lt_succ_self _, expires.le⟩
    · obtain ⟨is, before, bound⟩ := exclusive.intents intentID found there
      exact ⟨is, Nat.lt_succ_of_lt before, bound⟩
  | started command =>
    exact exclusive.set (Nat.le_succ _) (Nat.lt_succ_self _) ⟨.refl .refl _, .refl .refl _⟩
      (fun _ there => ⟨exclusive.sound _ _ there, exclusive.free _ _ _ _ there⟩) trivial nofun
  | accessed stored is => exact exclusive.accessed stored alone (is ▸ step_access _)

/-! ## Whole runs -/

def Left (key : String × String) (world : World) : Prop :=
  (world.store.bindings.get key).isSome ∨ ∃ id command checked run binding,
    world.executions.get id = some ⟨command, .saveBinding checked run binding⟩ ∧
      checked.intent.mode = .create ∧ (command.ownerID, checked.intent.taskID) = key

theorem WorldStep.left {world' : World}
    (step : WorldStep service world input world') (exclusive : Exclusive service world)
    (left : Left key world) : Left key world' := by
  rcases left with bound | ⟨id, command, checked, run, binding, stored, create, rfl⟩
  · refine .inl ?_
    cases step with
    | quiet store => exact store ▸ bound
    | previewed | started => exact bound
    | accessed _ is => exact (is ▸ step_access _ : Access ..).bound_stays bound
  · cases step with
    | quiet _ executions => exact .inr ⟨_, _, _, _, _, executions ▸ stored, create, rfl⟩
    | previewed => exact .inr ⟨_, _, _, _, _, stored, create, rfl⟩
    | started =>
      have ne := (exclusive.older _ _ stored).ne
      exact .inr ⟨_, _, _, _, _, (get_set_ne _ _ ne).trans stored, create, rfl⟩
    | @accessed other _ _ _ found is =>
      by_cases own : id = other
      · subst own
        cases stored.symm.trans found
        have bound : _ = _ := (exclusive.sound _ _ stored).2.2
        rw [← bound, ← is]
        refine .inl ?_
        dsimp only [Export.step]
        cases saved : world.store.saveBinding binding with
        | error error =>
          obtain ⟨-, other, found⟩ := saveBinding_error saved
          exact Option.isSome_iff_exists.mpr ⟨other, found⟩
        | ok store' =>
          rw [saveBinding_ok saved]
          exact Option.isSome_iff_exists.mpr ⟨binding, get_set_self _ _ _⟩
      · exact .inr ⟨_, _, _, _, _, (get_set_ne _ _ own).trans stored, create, rfl⟩

theorem created_first (exclusive : Exclusive service world)
    (is : created key (Event.of (World.apply service) world input) = true) :
    ¬ Left key world ∧ Left key (World.apply service input world).1 := by
  cases input with
  | access id reply =>
    cases reply with
    | returned result =>
      change (match world.executions.get id with
        | some ⟨command, .callGateway checked _⟩ =>
          checked.intent.mode == .create && (command.ownerID, checked.intent.taskID) == key
        | _ => false) = true at is
      split at is
      · next command checked run stored =>
        obtain ⟨create, rfl⟩ : checked.intent.mode = .create ∧
            (command.ownerID, checked.intent.taskID) = key := by simpa using is
        have creates : Execution.creates ⟨command, .callGateway checked run⟩ = _ := if_pos create
        constructor
        · rintro (bound | ⟨other, command', checked', run', binding, stored', create', same⟩)
          · rw [exclusive.free _ _ _ _ stored creates] at bound
            cases bound
          · have once := exclusive.creates_once stored stored' (same ▸ creates) (if_pos create')
            subst once
            cases stored.symm.trans stored'
        · refine .inr ⟨id, command, checked, run, boundTo id command.ownerID checked result, ?_,
            create, rfl⟩
          change (world.access service id (.returned result)).executions.get id = _
          unfold World.access
          rw [stored]
          exact get_set_self _ _ _
      · cases is
    | _ => cases is
  | _ => cases is

/-- In every run whose claims are made alone: an intent is claimed by at most one execution at a time, and
at most one document is created for a task. -/
theorem exports_exclusive {start : World} (empty : start.store = {}) (idle : start.executions = ∅)
    (history : ExportHistory service (fun world input => claimsAlone world input = true) start past
      world) :
    (∀ id id' execution execution' checked checked', world.executions.get id = some execution →
      world.executions.get id' = some execution' → execution.phase.claimed = some checked →
      execution'.phase.claimed = some checked' →
      checked.intent.intentID = checked'.intent.intentID → id = id') ∧
    ∀ ownerID taskID, past.countP (created (ownerID, taskID)) ≤ 1 := by
  have initial : Exclusive service start ∧ ∀ key, ([] : List ExportEvent).countP (created key) ≤ 1 ∧
      (0 < ([] : List ExportEvent).countP (created key) → Left key start) := by
    have unused {id : Nat} {execution : Execution} : start.executions.get id ≠ some execution := by
      rw [idle, get_empty]
      exact Option.some_ne_none _ ∘ Eq.symm
    refine ⟨⟨fun intentID intent stored => ?_, fun _ _ stored => (unused stored).elim,
      fun _ _ stored => (unused stored).elim, fun _ _ _ _ stored => (unused stored).elim,
      fun _ _ _ _ _ _ _ stored => (unused stored).elim⟩, fun _ => ⟨Nat.zero_le _, nofun⟩⟩
    rw [empty] at stored
    cases stored
  obtain ⟨exclusive, once⟩ := history.invariant_events
    (I := fun past world => Exclusive service world ∧ ∀ key, past.countP (created key) ≤ 1 ∧
      (0 < past.countP (created key) → Left key world))
    (fun past world input alone before => by
      have step := apply_worldStep service world input
      refine ⟨step.exclusive alone before.1, fun key => ?_⟩
      obtain ⟨bound, left⟩ := before.2 key
      rw [List.countP_append, List.countP_singleton]
      split
      · next is =>
        obtain ⟨first, left'⟩ := created_first before.1 is
        have none : past.countP (created key) = 0 := by
          by_contra some
          exact first (left (Nat.pos_of_ne_zero some))
        rw [none]
        exact ⟨le_rfl, fun _ => left'⟩
      · exact ⟨bound, fun some => step.left before.1 (left some)⟩) initial
  exact ⟨fun _ _ _ _ _ _ => exclusive.claimed_once, fun _ _ => (once _).1⟩

/-! ## Two previews of a task -/

def returning (id count : Nat) : List Input :=
  List.replicate count (.access id (.returned ⟨"external", "title", none⟩))

/-- Both previews are executed, and both executions are past the check of the binding before one of them
calls the gateway. -/
theorem two_documents_created : ∃ past world,
    ExportHistory sampleService (fun _ _ => True) sampleWorld past world ∧
      past.countP (created ("owner", "task")) = 2 :=
  exists_run ([samplePreview, samplePreview, sampleExecution 0 "a", sampleExecution 1 "b"] ++
    returning 2 8 ++ returning 3 8 ++ returning 2 1 ++ returning 3 1) (by decide +kernel)

theorem exports_exclusive_in_turn : ∃ past world,
    ExportHistory sampleService (fun world input => claimsAlone world input = true) sampleWorld past
      world ∧ past.countP (created ("owner", "task")) = 1 := by
  obtain ⟨past, world, history, once⟩ : ∃ past world,
      ExportHistory sampleService (fun world input => claimsAlone world input = true) sampleWorld past
        world ∧ 1 ≤ past.countP (created ("owner", "task")) :=
    exists_run ([samplePreview, samplePreview, sampleExecution 0 "a"] ++ returning 2 12 ++
      sampleExecution 1 "b" :: returning 3 12) (by decide +kernel)
  exact ⟨past, world, history, le_antisymm ((exports_exclusive rfl rfl history).2 "owner" "task") once⟩

end PrdAgent.Export
