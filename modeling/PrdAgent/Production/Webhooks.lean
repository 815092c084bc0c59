import PrdAgent.Library.AssocMap
import PrdAgent.Library.Sha256
import PrdAgent.Library.Transition

/-!
# Signed webhooks

`WebhookVerifier.verify` of `production/integrations.py` recognises a repeated delivery by its provider and
delivery id, neither of which is signed. So each signed message is accepted at most once exactly if it only
ever comes under one provider and delivery id (`OneDelivery`).
-/

namespace PrdAgent.Production

open AssocMap Transition

/-- The arguments of a call, with the clock in microseconds. -/
structure Webhook where
  provider : String
  deliveryID : String
  timestamp : Int
  payload : List UInt8
  signature : String
  now : Int

def Webhook.delivery (call : Webhook) : String × String := (call.provider, call.deliveryID)

def Webhook.message (call : Webhook) : Int × List UInt8 := (call.timestamp, call.payload)

/-- The bytes of a message that are signed. -/
def signedBytes (message : Int × List UInt8) : List UInt8 :=
  (toString message.1 ++ ".").toUTF8.toList ++ message.2

structure WebhookVerifier where
  signingSecrets : AssocMap String (List UInt8)
  /-- In microseconds. -/
  tolerance : Int
  maxPayloadBytes : Int := 1000000

inductive WebhookFault
  | invalidWebhook
  | typeError
deriving DecidableEq

namespace WebhookVerifier

def check (v : WebhookVerifier) (call : Webhook) : Except WebhookFault Unit :=
  match v.signingSecrets.get call.provider with
  | none => .error .invalidWebhook
  | some secret =>
    if call.deliveryID = "" ∨ v.maxPayloadBytes < call.payload.length then .error .invalidWebhook
    else if v.tolerance < (call.now - call.timestamp * 1000000).natAbs then .error .invalidWebhook
    -- `compare_digest` takes no other texts
    else if call.signature.toList.any (128 ≤ ·.toNat) then .error .typeError
    else if Sha256.hmacHex secret (signedBytes call.message) ≠ call.signature then .error .invalidWebhook
    else .ok ()

def verify (v : WebhookVerifier) (call : Webhook) (deliveries : List (String × String)) :
    List (String × String) × Except WebhookFault Bool :=
  match v.check call with
  | .error fault => (deliveries, .error fault)
  | .ok () =>
    if call.delivery ∈ deliveries then (deliveries, .ok false)
    else (call.delivery :: deliveries, .ok true)

abbrev WebhookEvent := Event (List (String × String)) Webhook (Except WebhookFault Bool)

/-- Among the calls that are made, only those of signed messages come with a signature of the message. -/
def Unforged (v : WebhookVerifier) (signed : Int × List UInt8 → Prop) (made : Webhook → Prop) : Prop :=
  ∀ call, made call → ∀ secret, v.signingSecrets.get call.provider = some secret →
    Sha256.hmacHex secret (signedBytes call.message) = call.signature → signed call.message

/-- A message that passes the checks always comes under the same provider and delivery id. -/
def OneDelivery (v : WebhookVerifier) (made : Webhook → Prop) : Prop :=
  ∀ first second, made first → made second → v.check first = .ok () → v.check second = .ok () →
    first.message = second.message → first.delivery = second.delivery

def accepts (message : Int × List UInt8) (event : WebhookEvent) : Bool :=
  decide (event.reply = .ok true ∧ event.input.message = message)

variable {v : WebhookVerifier} {ok : List (String × String) → Webhook → Prop}
  {events early late : List WebhookEvent} {event : WebhookEvent} {deliveries : List (String × String)}

theorem mem_deliveries (run : Run v.verify ok [] events deliveries) (delivery : String × String) :
    delivery ∈ deliveries ↔
      ∃ event ∈ events, v.check event.input = .ok () ∧ event.input.delivery = delivery := by
  have start : ∀ delivery, delivery ∈ [] ↔ ∃ event ∈ ([] : List WebhookEvent),
    v.check event.input = .ok () ∧ event.input.delivery = delivery := by simp
  refine run.invariant_events (I := fun past deliveries => ∀ delivery, delivery ∈ deliveries ↔
    ∃ event ∈ past, v.check event.input = .ok () ∧ event.input.delivery = delivery) ?_ start delivery
  intro past deliveries call _ known delivery
  simp only [List.mem_append, List.mem_singleton, or_and_right, exists_or, exists_eq_left, ← known]
  change delivery ∈ (v.verify call deliveries).1 ↔
    delivery ∈ deliveries ∨ v.check call = .ok () ∧ call.delivery = delivery
  unfold verify
  split
  · next refused => simp [refused]
  · next passes =>
    split
    · next again => simpa [passes] using fun same => same ▸ again
    · simp [passes, or_comm, eq_comm]

theorem verify_true {call : Webhook} :
    (v.verify call deliveries).2 = .ok true ↔ v.check call = .ok () ∧ call.delivery ∉ deliveries := by
  unfold verify
  split
  · next refused => simp [refused]
  · next passes => split <;> simp_all

/-- An accepted call is the first of its provider and delivery id to pass the checks. -/
theorem accepted_opens (run : Run v.verify ok [] (early ++ event :: late) deliveries)
    (accepted : event.reply = .ok true) : v.check event.input = .ok () ∧
      ∀ past ∈ early, v.check past.input = .ok () → past.input.delivery ≠ event.input.delivery := by
  obtain ⟨deliveries, before, rest⟩ := run.split
  have reply : event.reply = (v.verify event.input deliveries).2 := congrArg (·.reply) rest.uncons.1
  obtain ⟨passes, new⟩ := verify_true.mp (reply.symm.trans accepted)
  exact ⟨passes, fun past mem passed same =>
    new ((mem_deliveries before _).mpr ⟨past, mem, passed, same⟩)⟩

theorem Unforged.signed {signed : Int × List UInt8 → Prop} {made : Webhook → Prop}
    (unforged : v.Unforged signed made) {call : Webhook} (mine : made call)
    (passes : v.check call = .ok ()) : signed call.message := by
  unfold check at passes
  repeat' split at passes
  all_goals cases passes
  next secret stored _ _ _ genuine => exact unforged call mine secret stored (not_not.mp genuine)

/-- Whatever sequence of the calls is made, each signed message is accepted at most once, exactly if a
message that passes the checks always comes under the same provider and delivery id. -/
theorem webhook_once_iff (signed : Int × List UInt8 → Prop) (made : Webhook → Prop)
    (unforged : v.Unforged signed made) :
    (∀ events deliveries, Run v.verify (fun _ call => made call) [] events deliveries →
      ∀ message, signed message → events.countP (accepts message) ≤ 1) ↔ v.OneDelivery made := by
  constructor
  · intro once first second mine also passes passes' same
    by_contra apart
    have run : Run v.verify (fun _ call => made call) [] _ _ := .cons first mine (.cons second also (.nil _))
    have few := once _ _ run first.message (unforged.signed mine passes)
    have opened : v.verify first [] = ([first.delivery], .ok true) := by simp [verify, passes]
    have accepted : (v.verify second [first.delivery]).2 = .ok true :=
      verify_true.mpr ⟨passes', by simpa using Ne.symm apart⟩
    simp [Event.of, accepts, opened, accepted, same] at few
  · intro one events deliveries run message _
    refine countP_le_one_of_once fun early first late cut is later mem again => ?_
    obtain ⟨between, rest, rfl⟩ := List.append_of_mem mem
    subst cut
    simp only [accepts, decide_eq_true_eq] at is again
    obtain ⟨-, -, -, mine, -⟩ := run.of_mem (e := first) (by simp)
    obtain ⟨-, -, -, also, -⟩ := run.of_mem (e := later) (by simp)
    obtain ⟨passes, -⟩ := accepted_opens run is.1
    rw [List.append_cons, ← List.append_assoc, ← List.append_cons] at run
    obtain ⟨passes', new⟩ := accepted_opens run again.1
    exact new first (by simp) passes
      (one _ _ mine also passes passes' (is.2.trans again.2.symm))

/-! ### One message under two delivery ids -/

def sampleVerifier : WebhookVerifier where
  signingSecrets := (∅ : AssocMap String (List UInt8)).set "provider" [1]
  tolerance := 300000000

def sampleWebhook (deliveryID : String) (payload : List UInt8) (now : Int) : Webhook where
  provider := "provider"
  deliveryID := deliveryID
  timestamp := 0
  payload := payload
  signature := Sha256.hmacHex [1] (signedBytes (0, payload))
  now := now

def sampleWebhooks : List Webhook :=
  [sampleWebhook "a" [] 0, sampleWebhook "b" [7] 1, sampleWebhook "a" [] 2]

theorem two_messages_accepted : ∃ events deliveries,
    Run sampleVerifier.verify (fun _ call => call ∈ sampleWebhooks) [] events deliveries ∧
      events.length = 3 ∧ ∀ message ∈ [(0, []), (0, [7])], events.countP (accepts message) = 1 := by
  have one : sampleVerifier.OneDelivery (· ∈ sampleWebhooks) := fun first second mine also _ _ =>
    (by decide : ∀ first ∈ sampleWebhooks, ∀ second ∈ sampleWebhooks,
      first.message = second.message → first.delivery = second.delivery) first mine second also
  have run : Run sampleVerifier.verify (fun _ call => call ∈ sampleWebhooks) [] _ _ :=
    .cons (sampleWebhook "a" [] 0) (by simp [sampleWebhooks]) <|
    .cons (sampleWebhook "b" [7] 1) (by simp [sampleWebhooks]) <|
    .cons (sampleWebhook "a" [] 2) (by simp [sampleWebhooks]) (.nil _)
  have unforged : sampleVerifier.Unforged (· ∈ [(0, []), (0, [7])]) (· ∈ sampleWebhooks) :=
    fun call mine _ _ _ => (by decide : ∀ call ∈ sampleWebhooks,
      call.message ∈ [(0, []), (0, [7])]) call mine
  have once := (webhook_once_iff _ _ unforged).mpr one _ _ run
  refine ⟨_, _, run, rfl, fun message mem => (once message mem).antisymm ?_⟩
  revert message
  decide +kernel

theorem two_deliveries_accepted : ∃ events deliveries,
    Run sampleVerifier.verify (fun _ call => call.message = (0, [])) [] events deliveries ∧
      events.countP (accepts (0, [])) = 2 :=
  ⟨_, _, .cons (sampleWebhook "a" [] 0) rfl (.cons (sampleWebhook "b" [] 1) rfl (.nil _)),
    by decide +kernel⟩

end WebhookVerifier

end PrdAgent.Production
