import ProviderAws.Sns.Diff

/-!
# Late initialization never asks for an update

`Observe` first late-initializes the parameters: each managed field the user left unset takes
the value AWS reports (`lateInitializeSubscription`). A field filled this way must not make the
subscription look out of date against the very observation it was filled from, or every
reconcile would send an update for defaults AWS always reports, such as
`RawMessageDelivery`.

The only thing assumed of `awsclients.String` is that `aws.StringValue` reads back the string
it was given (`StringValuePreserving`); it may return `nil` for `""` or not. Under it:

* `field_lateInitializeSubscription_of_set`: a field the user set keeps its value;
* `desired_lateInitializeSubscription_of_unset`: a field the user left unset reads as what AWS
  reports;
* `lateInitialize_no_spurious_update`: every entry of the diff after late initialization is an
  attribute the user set, and a user who set none of the four gets an up-to-date subscription.
-/

namespace ProviderAws
namespace Sns

open Go Go.StringMap ManagedAttribute

/-- What is assumed of `awsclients.String`: `aws.StringValue` reads back the string it was
given. -/
def StringValuePreserving (toStringPtr : String → Option String) : Prop :=
  ∀ s, stringValue (toStringPtr s) = s

section

variable (toStringPtr : String → Option String) (p : SNSSubscriptionParameters)
  (attrs : StringMap)

/-- Each managed field after late initialization, read through `ManagedAttribute.field`. -/
theorem field_lateInitializeSubscription (a : ManagedAttribute) :
    a.field (lateInitializeSubscription toStringPtr p attrs) =
      lateInitializeStringPtr (a.field p) (toStringPtr (attrs.index a.name)) := by
  cases a <;> rfl

/-- A field the user set keeps its value. -/
theorem field_lateInitializeSubscription_of_set {a : ManagedAttribute} {s : String}
    (h : a.field p = some s) :
    a.field (lateInitializeSubscription toStringPtr p attrs) = some s := by
  rw [field_lateInitializeSubscription, h, lateInitializeStringPtr]

variable {toStringPtr}

/-- A field the user left unset reads as what AWS reports. -/
theorem desired_lateInitializeSubscription_of_unset (hstr : StringValuePreserving toStringPtr)
    {a : ManagedAttribute} (h : a.field p = none) :
    desired (lateInitializeSubscription toStringPtr p attrs) a = attrs.index a.name := by
  rw [desired, field_lateInitializeSubscription, h, lateInitializeStringPtr, hstr]

/-- **Late initialization causes no update.** After `LateInitializeSubscription`, a field the
user set holds what it held, a field the user left unset reads as the observation, every entry
of the diff against that observation is an attribute the user set, and if the user set none of
the four the subscription is up to date. -/
theorem lateInitialize_no_spurious_update (hstr : StringValuePreserving toStringPtr) :
    let p' := lateInitializeSubscription toStringPtr p attrs
    (∀ (a : ManagedAttribute) (s : String), a.field p = some s → a.field p' = some s) ∧
      (∀ a : ManagedAttribute, a.field p = none → stringValue (a.field p') = attrs.index a.name) ∧
      (∀ (o : RangeOrder (getSubAttributes p')) (k v : String),
        (getChangedSubAttributes p' attrs o).lookup k = some v →
          ∃ a : ManagedAttribute, a.name = k ∧ a.field p ≠ none) ∧
      ((∀ a : ManagedAttribute, a.field p = none) →
        isSNSSubscriptionAttributesUpToDate p' attrs = true) := by
  intro p'
  refine ⟨fun a s => field_lateInitializeSubscription_of_set toStringPtr p attrs,
    fun a => desired_lateInitializeSubscription_of_unset p attrs hstr,
    fun o k v hv => ?_,
    fun h => (isSNSSubscriptionAttributesUpToDate_iff _ _).mpr fun a =>
      desired_lateInitializeSubscription_of_unset p attrs hstr (h a)⟩
  obtain ⟨a, rfl, rfl, hne⟩ := lookup_getChangedSubAttributes_eq_some hv
  exact ⟨a, rfl, fun h => hne (desired_lateInitializeSubscription_of_unset p attrs hstr h)⟩

/-- **Late initialization is idempotent** once AWS is in sync with its result: a second pass
over an observation in sync with the late-initialized parameters changes nothing. A field the
first pass left unset is one for which `awsclients.String` gave `nil`, and the second pass
reads the same attribute value. -/
theorem lateInitializeSubscription_idem (hstr : StringValuePreserving toStringPtr)
    {attrs' : StringMap} (h : InSync (lateInitializeSubscription toStringPtr p attrs) attrs') :
    lateInitializeSubscription toStringPtr (lateInitializeSubscription toStringPtr p attrs) attrs' =
      lateInitializeSubscription toStringPtr p attrs := by
  refine SNSSubscriptionParameters.ext_field rfl rfl rfl fun a => ?_
  cases hp : a.field p with
  | some v =>
    rw [field_lateInitializeSubscription_of_set _ _ _
      (field_lateInitializeSubscription_of_set _ _ _ hp),
      field_lateInitializeSubscription_of_set _ _ _ hp]
  | none =>
    have hx : attrs'.index a.name = attrs.index a.name :=
      (h a).symm.trans (desired_lateInitializeSubscription_of_unset p attrs hstr hp)
    rw [field_lateInitializeSubscription, hx, field_lateInitializeSubscription, hp,
      lateInitializeStringPtr]
    cases toStringPtr (attrs.index a.name) <;> rfl

end

/-- An instance, with `awsclients.String` as `pkg/clients` writes it, `nil` for `""`: a
subscription whose user set only a filter policy, against AWS's defaults. -/
theorem lateInitialize_no_spurious_update_nilOnEmpty :
    StringValuePreserving (fun s => if s = "" then none else some s) ∧
      let p : SNSSubscriptionParameters :=
        { endpoint := "https://example.org/hook", protocol := "https",
          topicARN := "arn:aws:sns:us-east-1:123456789012:topic", deliveryPolicy := none,
          filterPolicy := some "[]", rawMessageDelivery := none, redrivePolicy := none }
      let attrs := ofLit [⟨subscriptionRawMessageDelivery, "false"⟩, ⟨subscriptionOwner, "1"⟩]
        (by decide)
      let p' := lateInitializeSubscription (fun s => if s = "" then none else some s) p attrs
      (∀ (a : ManagedAttribute) (s : String), a.field p = some s → a.field p' = some s) ∧
        (∀ a : ManagedAttribute, a.field p = none →
          stringValue (a.field p') = attrs.index a.name) ∧
        (∀ (o : RangeOrder (getSubAttributes p')) (k v : String),
          (getChangedSubAttributes p' attrs o).lookup k = some v →
            ∃ a : ManagedAttribute, a.name = k ∧ a.field p ≠ none) ∧
        ((∀ a : ManagedAttribute, a.field p = none) →
          isSNSSubscriptionAttributesUpToDate p' attrs = true) :=
  have hstr : StringValuePreserving (fun s => if s = "" then none else some s) := fun s => by
    by_cases h : s = "" <;> simp [h]
  ⟨hstr, lateInitialize_no_spurious_update _ _ hstr⟩

end Sns
end ProviderAws
