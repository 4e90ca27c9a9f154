import ProviderAws.Go.Runtime

/-!
# The SNS subscription client

`pkg/clients/sns/snssubscription.go`, function by function. Each definition keeps the name of
the Go function it models and reads as its body does:

* `generateSubscribeInput` builds the `Subscribe` request from the parameters;
* `generateSubscriptionObservation` reads the owner and the two confirmation flags out of the
  attributes AWS reports, through `strconv.ParseBool`;
* `lateInitializeSubscription` fills each of the four managed parameters the user left unset
  with the value AWS reports;
* `getSubAttributes` is the map literal of the four managed attributes, and
  `getChangedSubAttributes` the `range` loop over it that collects those AWS reports
  differently; the loop runs over any `RangeOrder` of the literal;
* `isSNSSubscriptionAttributesUpToDate` is the four-way conjunction `Observe` uses;
* `isSubscriptionNotFound` recognises the SNS NotFound error.

Go mutates `LateInitializeSubscription`'s argument in place; the model returns the updated
parameters. Two helpers of `pkg/clients`, which is not among the sources, are used here:
`awsclients.LateInitializeStringPtr` is `lateInitializeStringPtr`, and `awsclients.String` is
the parameter `toStringPtr` of `lateInitializeSubscription`, of which the results about it
assume only that it reads back as the string it was given.
-/

namespace ProviderAws
namespace Sns

open Go Go.StringMap

/-! ### Attribute names -/

/-- `SubscriptionDeliveryPolicy`. -/
def subscriptionDeliveryPolicy : String := "DeliveryPolicy"
/-- `SubscriptionFilterPolicy`. -/
def subscriptionFilterPolicy : String := "FilterPolicy"
/-- `SubscriptionRawMessageDelivery`. -/
def subscriptionRawMessageDelivery : String := "RawMessageDelivery"
/-- `SubscriptionRedrivePolicy`. -/
def subscriptionRedrivePolicy : String := "RedrivePolicy"
/-- `SubscriptionOwner`. -/
def subscriptionOwner : String := "Owner"
/-- `SubscriptionPendingConfirmation`. -/
def subscriptionPendingConfirmation : String := "PendingConfirmation"
/-- `SubscriptionConfirmationWasAuthenticated`. -/
def subscriptionConfirmationWasAuthenticated : String := "ConfirmationWasAuthenticated"

/-! ### Resource and request types -/

/-- `v1alpha1.SNSSubscriptionParameters`: the fields the client reads. -/
structure SNSSubscriptionParameters where
  endpoint : String
  protocol : String
  topicARN : String
  deliveryPolicy : Option String
  filterPolicy : Option String
  rawMessageDelivery : Option String
  redrivePolicy : Option String
  deriving DecidableEq, Repr

/-- `sns.SubscribeInput`: the fields `GenerateSubscribeInput` sets. -/
structure SubscribeInput where
  endpoint : Option String
  protocol : Option String
  topicArn : Option String
  returnSubscriptionArn : Option Bool
  deriving DecidableEq, Repr

/-- `v1alpha1.ConfirmationStatus`, a Go string type: its two named values and its zero value
`""`. -/
inductive ConfirmationStatus
  | empty
  | confirmationPending
  | confirmationSuccessful
  deriving DecidableEq, Repr

/-- `v1alpha1.SNSSubscriptionObservation`. -/
structure SNSSubscriptionObservation where
  owner : Option String
  status : Option ConfirmationStatus
  confirmationWasAuthenticated : Option Bool
  deriving DecidableEq, Repr

/-! ### The client functions -/

/-- `GenerateSubscribeInput`. -/
def generateSubscribeInput (p : SNSSubscriptionParameters) : SubscribeInput where
  endpoint := some p.endpoint
  protocol := some p.protocol
  topicArn := some p.topicARN
  returnSubscriptionArn := some true

/-- `GenerateSubscriptionObservation`. The status is left at its zero value when the
`PendingConfirmation` attribute does not parse, and the authentication flag stays `nil` when
`ConfirmationWasAuthenticated` does not. -/
def generateSubscriptionObservation (attr : StringMap) : SNSSubscriptionObservation :=
  let status : ConfirmationStatus :=
    match parseBool (attr.index subscriptionPendingConfirmation) with
    | some s => if s then .confirmationPending else .confirmationSuccessful
    | none => .empty
  { owner := some (attr.index subscriptionOwner)
    status := some status
    confirmationWasAuthenticated :=
      parseBool (attr.index subscriptionConfirmationWasAuthenticated) }

/-- Modelled from the spec: `awsclients.LateInitializeStringPtr`, in `pkg/clients` and not
among the sources, keeps `in` when it is set and otherwise takes `from`, the observed default. -/
def lateInitializeStringPtr (inPtr fromPtr : Option String) : Option String :=
  match inPtr with
  | some s => some s
  | none => fromPtr

/-- `LateInitializeSubscription`, with `awsclients.String` as `toStringPtr`. -/
def lateInitializeSubscription (toStringPtr : String → Option String)
    (p : SNSSubscriptionParameters) (subAttributes : StringMap) : SNSSubscriptionParameters :=
  { p with
    deliveryPolicy := lateInitializeStringPtr p.deliveryPolicy
      (toStringPtr (subAttributes.index subscriptionDeliveryPolicy))
    filterPolicy := lateInitializeStringPtr p.filterPolicy
      (toStringPtr (subAttributes.index subscriptionFilterPolicy))
    rawMessageDelivery := lateInitializeStringPtr p.rawMessageDelivery
      (toStringPtr (subAttributes.index subscriptionRawMessageDelivery))
    redrivePolicy := lateInitializeStringPtr p.redrivePolicy
      (toStringPtr (subAttributes.index subscriptionRedrivePolicy)) }

/-- The four managed attribute names, in the order `getSubAttributes` writes them. -/
def managedNames : List String :=
  [subscriptionDeliveryPolicy, subscriptionFilterPolicy, subscriptionRawMessageDelivery,
    subscriptionRedrivePolicy]

theorem managedNames_nodup : managedNames.Nodup := by decide

/-- The entries of the map literal in `getSubAttributes`. -/
def subAttributesLit (p : SNSSubscriptionParameters) : List (Σ _ : String, String) :=
  [⟨subscriptionDeliveryPolicy, stringValue p.deliveryPolicy⟩,
    ⟨subscriptionFilterPolicy, stringValue p.filterPolicy⟩,
    ⟨subscriptionRawMessageDelivery, stringValue p.rawMessageDelivery⟩,
    ⟨subscriptionRedrivePolicy, stringValue p.redrivePolicy⟩]

/-- `getSubAttributes`: the map literal of the four managed attributes. -/
def getSubAttributes (p : SNSSubscriptionParameters) : StringMap :=
  ofLit (subAttributesLit p) managedNames_nodup

/-- The literal's own order, one order in which `range` may visit `getSubAttributes p`. -/
def getSubAttributesOrder (p : SNSSubscriptionParameters) :
    RangeOrder (getSubAttributes p) :=
  RangeOrder.ofLit _ _

/-- The body of the loop in `GetChangedSubAttributes`:
`if v != attrs[k] { changedAttrs[k] = v }`. -/
def collectChanged (attrs changedAttrs : StringMap) (e : Σ _ : String, String) : StringMap :=
  if e.2 ≠ attrs.index e.1 then changedAttrs.insert e.1 e.2 else changedAttrs

/-- `GetChangedSubAttributes`: `for k, v := range subAttrs`, in the order `o`, starting from
`make(map[string]string)`. -/
def getChangedSubAttributes (p : SNSSubscriptionParameters) (attrs : StringMap)
    (o : RangeOrder (getSubAttributes p)) : StringMap :=
  o.entries.foldl (collectChanged attrs) ∅

/-- `IsSNSSubscriptionAttributesUpToDate`. -/
def isSNSSubscriptionAttributesUpToDate (p : SNSSubscriptionParameters)
    (subAttributes : StringMap) : Bool :=
  stringValue p.deliveryPolicy == subAttributes.index subscriptionDeliveryPolicy &&
    stringValue p.filterPolicy == subAttributes.index subscriptionFilterPolicy &&
    stringValue p.rawMessageDelivery == subAttributes.index subscriptionRawMessageDelivery &&
    stringValue p.redrivePolicy == subAttributes.index subscriptionRedrivePolicy

/-- Modelled from the spec: `sns.ErrCodeNotFoundException`, an SDK constant not among the
sources, is the NotFound error code. -/
def errCodeNotFoundException : String := "NotFound"

/-- `IsSubscriptionNotFound`. -/
def isSubscriptionNotFound (err : GoError) : Bool :=
  err.hasCode errCodeNotFoundException

example : isSubscriptionNotFound .nil = false ∧
    isSubscriptionNotFound (.awsErr errCodeNotFoundException "gone") = true := by
  decide

/-! ### What the observation reads -/

/-- The observation reads only `Owner`, `PendingConfirmation` and
`ConfirmationWasAuthenticated`, none of which is managed. -/
theorem generateSubscriptionObservation_congr {m m' : StringMap}
    (h : ∀ k, k ∉ managedNames → m.lookup k = m'.lookup k) :
    generateSubscriptionObservation m = generateSubscriptionObservation m' := by
  simp only [generateSubscriptionObservation, index_congr (h subscriptionOwner (by decide)),
    index_congr (h subscriptionPendingConfirmation (by decide)),
    index_congr (h subscriptionConfirmationWasAuthenticated (by decide))]

end Sns
end ProviderAws
