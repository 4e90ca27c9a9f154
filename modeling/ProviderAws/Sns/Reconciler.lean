import ProviderAws.Sns.LateInitialize
import Mathlib.Logic.Relation

/-!
# The reconcile loop of an SNS subscription

The controller that drives the client is not among the sources. The spec describes the loop it
takes part in: an external reconciler calls `Observe`, then `Update` when the resource is not up
to date, and the user edits the desired state in between; each operation returns the error of
its first failing AWS call to the reconciler, which retries later (spec, section 7). This file
models that loop for one subscription from the spec, over the client functions of
`Subscription.lean`:

* `sendChanges` is `Update`'s loop: one `SetSubscriptionAttributes` per entry of
  `getChangedSubAttributes`, in the order `range` visits them, returning at the first call AWS
  rejects;
* `Reconcile s ok s'`: `GetSubscriptionAttributes` fails and nothing changes; or `Observe`
  late-initializes the parameters, records the observation and decides with
  `isSNSSubscriptionAttributesUpToDate`, and when that says no `Update` runs. `ok` says whether
  the pass ended without error. Both `range` loops may take any order and AWS may reject any
  call, so `Reconcile` is a relation;
* `Step s s'`: a reconcile, failed or not, or the user replacing the desired parameters.

`Create`, `Delete` and changes AWS makes on its own are not steps.

Everything below is derived from one characterisation, `reconcile_cases`: a failed `Observe`
changes nothing; otherwise the parameters and the observation are those of `reconciled s`, every
attribute holds what it held or what it holds in `reconciled s`, and a pass that succeeds leads
to `reconciled s`. From it:

* `reconcile_converges`: from any state a successful reconcile exists, and it reaches a state in
  sync with AWS that every further reconcile, failed or not, leaves unchanged;
* `reconcile_unique`: two successful reconciles of one state agree, whatever orders their loops
  take;
* `reconcile_after_failures`: failures only delay. After any run of failed and successful
  reconciles, a successful one leads where a reconcile without failure would have led from the
  start;
* `run_frame_unmanaged`: no run, failed passes included, changes an attribute other than the four
  managed ones;
* `run_observationCurrent`: once a reconcile has succeeded, the observation the resource records
  is the one the attributes AWS holds give, along every run.
-/

namespace ProviderAws
namespace Sns

open Go Go.StringMap ManagedAttribute Relation

/-- The state a reconcile reads and writes: the resource's desired parameters and its recorded
observation, and the attributes AWS holds for the subscription. -/
@[ext]
structure SubscriptionState where
  forProvider : SNSSubscriptionParameters
  atProvider : SNSSubscriptionObservation
  attributes : StringMap

/-- Modelled from the spec: what a `SetSubscriptionAttributes` call AWS accepts does, writing one
attribute. -/
def setSubscriptionAttributes (attrs : StringMap) (name value : String) : StringMap :=
  attrs.insert name value

/-- Modelled from the spec: `Update`'s loop over the diff. It sends one
`SetSubscriptionAttributes` per entry, in the order `range` visits them, and returns at the first
call AWS rejects; `accepts e` is AWS's answer to the call writing `e`. The result is the
attributes AWS then holds, and whether `Update` returned without error. -/
def sendChanges (accepts : (Σ _ : String, String) → Bool) (attrs : StringMap) :
    List (Σ _ : String, String) → StringMap × Bool
  | [] => (attrs, true)
  | e :: es =>
    if accepts e then sendChanges accepts (setSubscriptionAttributes attrs e.1 e.2) es
    else (attrs, false)

section

variable (toStringPtr : String → Option String)

/-- Modelled from the spec: one reconcile, and whether it ended without error. When `Observe`
succeeds, the late-initialized parameters and the observation are recorded, whether or not the
`Update` that follows fails. -/
inductive Reconcile : SubscriptionState → Bool → SubscriptionState → Prop
  /-- `GetSubscriptionAttributes` fails: `Observe` returns its error and nothing changes. -/
  | observeFailed (s : SubscriptionState) : Reconcile s false s
  /-- `Observe` finds the subscription up to date. -/
  | observe (s : SubscriptionState)
      (h : isSNSSubscriptionAttributesUpToDate
        (lateInitializeSubscription toStringPtr s.forProvider s.attributes) s.attributes = true) :
      Reconcile s true ⟨lateInitializeSubscription toStringPtr s.forProvider s.attributes,
        generateSubscriptionObservation s.attributes, s.attributes⟩
  /-- `Observe` finds it out of date, and `Update` sends the diff: `o` and `o'` are the orders
  the two `range` loops take, `accepts` AWS's answers to the calls. -/
  | update (s : SubscriptionState)
      (h : isSNSSubscriptionAttributesUpToDate
        (lateInitializeSubscription toStringPtr s.forProvider s.attributes) s.attributes = false)
      (o : RangeOrder
        (getSubAttributes (lateInitializeSubscription toStringPtr s.forProvider s.attributes)))
      (o' : RangeOrder (getChangedSubAttributes
        (lateInitializeSubscription toStringPtr s.forProvider s.attributes) s.attributes o))
      (accepts : (Σ _ : String, String) → Bool) :
      Reconcile s (sendChanges accepts s.attributes o'.entries).2
        ⟨lateInitializeSubscription toStringPtr s.forProvider s.attributes,
          generateSubscriptionObservation s.attributes,
          (sendChanges accepts s.attributes o'.entries).1⟩

/-- A step of the system: a reconcile, failed or not, or the user replacing the desired
parameters. -/
inductive Step : SubscriptionState → SubscriptionState → Prop
  | reconcile {s s' : SubscriptionState} {ok : Bool} (h : Reconcile toStringPtr s ok s') :
      Step s s'
  | edit (s : SubscriptionState) (p : SNSSubscriptionParameters) :
      Step s { s with forProvider := p }

/-- The state a reconcile of `s` that succeeds leads to. -/
def reconciled (s : SubscriptionState) : SubscriptionState where
  forProvider := lateInitializeSubscription toStringPtr s.forProvider s.attributes
  atProvider := generateSubscriptionObservation s.attributes
  attributes := applyChanges s.attributes
    (getChangedSubAttributes (lateInitializeSubscription toStringPtr s.forProvider s.attributes)
      s.attributes (getSubAttributesOrder _))

@[simp] theorem reconciled_forProvider (s : SubscriptionState) :
    (reconciled toStringPtr s).forProvider =
      lateInitializeSubscription toStringPtr s.forProvider s.attributes := rfl

@[simp] theorem reconciled_atProvider (s : SubscriptionState) :
    (reconciled toStringPtr s).atProvider = generateSubscriptionObservation s.attributes := rfl

end

/-- The observation the resource records is the one the attributes AWS holds give. -/
def ObservationCurrent (s : SubscriptionState) : Prop :=
  s.atProvider = generateSubscriptionObservation s.attributes

/-! ### The update loop -/

/-- **The loop invariant of `Update`.** After writing the entries `l`, each key once, a key
holds the written value if there was one, and what it held before otherwise. -/
theorem lookup_foldl_setSubscriptionAttributes (l : List (Σ _ : String, String))
    (acc : StringMap) (k : String) (hl : l.NodupKeys) :
    (l.foldl (fun m e => setSubscriptionAttributes m e.1 e.2) acc).lookup k =
      (l.dlookup k).or (acc.lookup k) := by
  induction l generalizing acc with
  | nil => simp
  | cons e l ih =>
    obtain ⟨k', v'⟩ := e
    rw [List.nodupKeys_cons] at hl
    rw [List.foldl_cons, ih _ hl.2, setSubscriptionAttributes]
    by_cases hk : k = k'
    · subst hk
      rw [List.dlookup_eq_none.mpr hl.1, List.dlookup_cons_eq, Finmap.lookup_insert]
      rfl
    · rw [List.dlookup_cons_ne _ _ hk, Finmap.lookup_insert_of_ne _ hk]

/-- A key holds the value the changes write there, if any, and what it held otherwise. -/
theorem lookup_applyChanges (attrs changes : StringMap) (k : String) :
    (applyChanges attrs changes).lookup k = (changes.lookup k).or (attrs.lookup k) := by
  by_cases hk : k ∈ changes
  · obtain ⟨v, hv⟩ := Finmap.mem_iff.mp hk
    rw [applyChanges, Finmap.lookup_union_left hk, hv]
    rfl
  · rw [applyChanges, Finmap.lookup_union_right hk, Finmap.lookup_eq_none.mpr hk]
    rfl

@[simp] theorem applyChanges_empty (attrs : StringMap) : applyChanges attrs ∅ = attrs :=
  Finmap.empty_union

/-- **The contract of `Update`'s loop.** It writes the entries before the first one AWS rejects,
and returns without error exactly when AWS accepts them all. -/
theorem sendChanges_eq (accepts : (Σ _ : String, String) → Bool) (attrs : StringMap)
    (l : List (Σ _ : String, String)) :
    sendChanges accepts attrs l =
      ((l.takeWhile accepts).foldl (fun m e => setSubscriptionAttributes m e.1 e.2) attrs,
        l.all accepts) := by
  induction l generalizing attrs with
  | nil => rfl
  | cons e l ih =>
    by_cases he : accepts e
    · simp only [sendChanges, he, if_true, ih, List.takeWhile_cons, List.foldl_cons,
        List.all_cons, Bool.true_and]
    · simp [sendChanges, he, List.takeWhile_cons]

variable {accepts : (Σ _ : String, String) → Bool} {attrs changes : StringMap}

/-- An entry `Update` wrote is an entry of the diff. -/
theorem dlookup_takeWhile (o : RangeOrder changes) {k v : String}
    (h : (o.entries.takeWhile accepts).dlookup k = some v) : changes.lookup k = some v := by
  rw [← o.dlookup_eq]
  exact (List.mem_dlookup_iff o.nodupKeys).mpr
    ((List.takeWhile_sublist _).subset (List.of_mem_dlookup h))

/-- **What `Update` leaves on AWS.** Whatever AWS answers, every key holds what it held or what
writing the whole diff gives it. -/
theorem lookup_sendChanges (o : RangeOrder changes) (k : String) :
    (sendChanges accepts attrs o.entries).1.lookup k = attrs.lookup k ∨
      (sendChanges accepts attrs o.entries).1.lookup k = (applyChanges attrs changes).lookup k := by
  rw [sendChanges_eq, lookup_foldl_setSubscriptionAttributes _ _ _
    (o.nodupKeys.sublist (List.takeWhile_sublist _)), lookup_applyChanges]
  cases hw : (o.entries.takeWhile accepts).dlookup k with
  | none => exact .inl rfl
  | some v => exact .inr (by rw [dlookup_takeWhile o hw])

/-- **An `Update` that succeeds writes the diff, in any order.** -/
theorem sendChanges_of_ok (o : RangeOrder changes)
    (hok : (sendChanges accepts attrs o.entries).2 = true) :
    (sendChanges accepts attrs o.entries).1 = applyChanges attrs changes := by
  rw [sendChanges_eq] at hok ⊢
  rw [List.takeWhile_eq_self_iff.mpr (List.all_eq_true.mp hok)]
  exact Finmap.ext_lookup fun k => by
    rw [lookup_foldl_setSubscriptionAttributes _ _ _ o.nodupKeys, o.dlookup_eq,
      lookup_applyChanges]

/-- Writing the same value over a key a second time, or over a key that already holds it,
changes nothing: the per-key form of writing a diff twice. -/
theorem or_filter_written (m old : Option String) :
    (m.filter fun v => v ≠ ((m.filter fun v => v ≠ old.getD "").or old).getD "").or
        ((m.filter fun v => v ≠ old.getD "").or old) =
      (m.filter fun v => v ≠ old.getD "").or old := by
  cases m with
  | none => rfl
  | some d => by_cases hd : d = old.getD "" <;> simp [hd, Option.filter_some]

/-! ### One reconcile -/

section

variable {toStringPtr : String → Option String} {s s' : SubscriptionState} {ok : Bool}

/-- The attributes a successful reconcile leaves, from the diff in any order. -/
theorem reconciled_attributes (s : SubscriptionState)
    (o : RangeOrder (getSubAttributes
      (lateInitializeSubscription toStringPtr s.forProvider s.attributes))) :
    (reconciled toStringPtr s).attributes = applyChanges s.attributes
      (getChangedSubAttributes (lateInitializeSubscription toStringPtr s.forProvider s.attributes)
        s.attributes o) := by
  rw [getChangedSubAttributes_order_irrel _ _ o (getSubAttributesOrder _)]
  rfl

/-- What a successful reconcile leaves under a key: the value the late-initialized parameters
ask for when the key names a managed attribute AWS reports differently, and what AWS held
otherwise. -/
theorem lookup_reconciled_attributes (s : SubscriptionState) (k : String) :
    (reconciled toStringPtr s).attributes.lookup k =
      (((ofName? k).map (desired (reconciled toStringPtr s).forProvider)).filter
        fun v => v ≠ s.attributes.index k).or (s.attributes.lookup k) := by
  rw [reconciled, lookup_applyChanges, lookup_getChangedSubAttributes, lookup_getSubAttributes]

/-- **What one reconcile can do.** A failed `Observe` changes nothing. Otherwise the reconcile
records the parameters and the observation of `reconciled s`, every attribute holds either what
it held or what it holds in `reconciled s`, and a pass that succeeds leads to `reconciled s`,
whatever orders its loops take. -/
theorem reconcile_cases (h : Reconcile toStringPtr s ok s') :
    s' = s ∧ ok = false ∨
      s'.forProvider = (reconciled toStringPtr s).forProvider ∧
        s'.atProvider = (reconciled toStringPtr s).atProvider ∧
        (∀ k, s'.attributes.lookup k = s.attributes.lookup k ∨
          s'.attributes.lookup k = (reconciled toStringPtr s).attributes.lookup k) ∧
        (ok = true → s' = reconciled toStringPtr s) := by
  cases h with
  | observeFailed => exact .inl ⟨rfl, rfl⟩
  | observe h =>
    have he := (getChangedSubAttributes_eq_empty_iff _ _ (getSubAttributesOrder _)).mpr
      ((isSNSSubscriptionAttributesUpToDate_iff _ _).mp h)
    refine .inr ⟨rfl, rfl, fun _ => .inl rfl, fun _ => ?_⟩
    simp only [reconciled, he, applyChanges_empty]
  | update h o o' accepts =>
    refine .inr ⟨rfl, rfl, fun k => ?_, fun hok => ?_⟩
    · rw [reconciled_attributes s o]
      exact lookup_sendChanges o' k
    · exact SubscriptionState.ext rfl rfl
        ((sendChanges_of_ok o' hok).trans (reconciled_attributes s o).symm)

/-- A reconcile that succeeds leads to `reconciled s`, whatever orders its loops take. -/
theorem reconcile_deterministic (h : Reconcile toStringPtr s true s') :
    s' = reconciled toStringPtr s := by
  rcases reconcile_cases h with ⟨-, h⟩ | ⟨-, -, -, h⟩
  · cases h
  · exact h rfl

/-- A reconcile, failed or not, leaves as it is every attribute a successful one leaves as it
is. -/
theorem Reconcile.lookup_of_reconciled (h : Reconcile toStringPtr s ok s') {k : String}
    (hk : (reconciled toStringPtr s).attributes.lookup k = s.attributes.lookup k) :
    s'.attributes.lookup k = s.attributes.lookup k := by
  rcases reconcile_cases h with ⟨rfl, -⟩ | ⟨-, -, hl, -⟩
  · rfl
  · exact (hl k).elim id (·.trans hk)

/-- A reconcile, failed or not, of a state a successful reconcile leaves as it is changes
nothing. -/
theorem Reconcile.eq_of_reconciled_eq (h : Reconcile toStringPtr s ok s')
    (hfix : reconciled toStringPtr s = s) : s' = s := by
  rcases reconcile_cases h with ⟨rfl, -⟩ | ⟨hp, ho, hl, -⟩
  · rfl
  · rw [hfix] at hp ho hl
    exact SubscriptionState.ext hp ho (Finmap.ext_lookup fun k => (hl k).elim id id)

variable (toStringPtr)

/-- AWS accepting every call, `Update` returns without error. -/
theorem sendChanges_accept_all (attrs : StringMap) (l : List (Σ _ : String, String)) :
    (sendChanges (fun _ => true) attrs l).2 = true := by
  rw [sendChanges_eq]
  exact List.all_eq_true.mpr fun _ _ => rfl

/-- A successful reconcile can always run. -/
theorem reconcile_reconciled (s : SubscriptionState) :
    Reconcile toStringPtr s true (reconciled toStringPtr s) := by
  cases h : isSNSSubscriptionAttributesUpToDate
    (lateInitializeSubscription toStringPtr s.forProvider s.attributes) s.attributes with
  | true =>
    have hr := Reconcile.observe s h
    exact reconcile_deterministic hr ▸ hr
  | false =>
    obtain ⟨o'⟩ := RangeOrder.nonempty
      (getChangedSubAttributes _ s.attributes (getSubAttributesOrder _))
    have hr := Reconcile.update s h _ o' fun _ => true
    rw [sendChanges_accept_all] at hr
    exact reconcile_deterministic hr ▸ hr

theorem reconciled_inSync (s : SubscriptionState) :
    InSync (reconciled toStringPtr s).forProvider (reconciled toStringPtr s).attributes :=
  inSync_applyChanges _ _ _

/-- A successful reconcile changes no attribute outside the managed four. -/
theorem lookup_reconciled_of_not_mem (s : SubscriptionState) {k : String}
    (hk : k ∉ managedNames) :
    (reconciled toStringPtr s).attributes.lookup k = s.attributes.lookup k :=
  lookup_applyChanges_of_not_mem fun hd => hk (mem_managedNames_of_mem_getChangedSubAttributes hd)

/-- The observation a successful reconcile records is still the one AWS's attributes give after
`Update`, which writes only managed attributes. -/
theorem reconciled_observationCurrent (s : SubscriptionState) :
    ObservationCurrent (reconciled toStringPtr s) :=
  generateSubscriptionObservation_congr fun _ hk => (lookup_reconciled_of_not_mem _ s hk).symm

/-- After a successful reconcile, a reconcile over attributes that agree with AWS's on the
managed four keeps the parameters and writes nothing: it only records the observation. -/
theorem reconciled_of_lookup_managed (hstr : StringValuePreserving toStringPtr)
    (s : SubscriptionState) (attrs : StringMap)
    (hd : ∀ a : ManagedAttribute,
      attrs.lookup a.name = (reconciled toStringPtr s).attributes.lookup a.name) :
    reconciled toStringPtr { reconciled toStringPtr s with attributes := attrs } =
      { reconciled toStringPtr s with
        atProvider := generateSubscriptionObservation attrs, attributes := attrs } := by
  have hsync : InSync (reconciled toStringPtr s).forProvider attrs := fun a =>
    (reconciled_inSync toStringPtr s a).trans (index_congr (hd a)).symm
  have hp : lateInitializeSubscription toStringPtr (reconciled toStringPtr s).forProvider attrs =
      (reconciled toStringPtr s).forProvider :=
    lateInitializeSubscription_idem s.forProvider s.attributes hstr hsync
  have he : getChangedSubAttributes _ attrs (getSubAttributesOrder _) = ∅ :=
    (getChangedSubAttributes_eq_empty_iff _ _ _).mpr (hp ▸ hsync)
  ext1
  · exact hp
  · rfl
  · exact (congrArg (applyChanges _) he).trans (applyChanges_empty _)

/-- A second successful reconcile right after a first changes nothing. -/
theorem reconciled_idem (hstr : StringValuePreserving toStringPtr) (s : SubscriptionState) :
    reconciled toStringPtr (reconciled toStringPtr s) = reconciled toStringPtr s :=
  (reconciled_of_lookup_managed toStringPtr hstr s _ fun _ => rfl).trans
    (SubscriptionState.ext rfl (reconciled_observationCurrent toStringPtr s).symm rfl)

/-- **One successful reconcile converges.** From any state a successful reconcile can run, and
every one leads to a state in sync with AWS that every further reconcile, failed or not, leaves
as it is. -/
theorem reconcile_converges (hstr : StringValuePreserving toStringPtr) (s : SubscriptionState) :
    (∃ s', Reconcile toStringPtr s true s') ∧
      ∀ s', Reconcile toStringPtr s true s' →
        InSync s'.forProvider s'.attributes ∧
          ∀ ok s'', Reconcile toStringPtr s' ok s'' → s'' = s' := by
  refine ⟨⟨_, reconcile_reconciled toStringPtr s⟩, fun s' h => ?_⟩
  obtain rfl := reconcile_deterministic h
  exact ⟨reconciled_inSync toStringPtr s, fun _ _ h' =>
    h'.eq_of_reconciled_eq (reconciled_idem toStringPtr hstr s)⟩

/-- An instance: a subscription with only a filter policy set, against AWS's defaults, with
`awsclients.String` taken as `aws.String`. -/
theorem reconcile_converges_filterPolicy :
    StringValuePreserving some ∧
      let s : SubscriptionState :=
        ⟨⟨"", "", "", none, some "[]", none, none⟩, ⟨none, none, none⟩,
          ofLit [⟨subscriptionRawMessageDelivery, "false"⟩, ⟨subscriptionOwner, "123"⟩]
            (by decide)⟩
      (∃ s', Reconcile some s true s') ∧
        ∀ s', Reconcile some s true s' →
          InSync s'.forProvider s'.attributes ∧
            ∀ ok s'', Reconcile some s' ok s'' → s'' = s' :=
  ⟨fun _ => rfl, reconcile_converges some (fun _ => rfl) _⟩

end

/-! ### Failures only delay -/

section

variable {toStringPtr : String → Option String} {s s' : SubscriptionState} {ok : Bool}

/-- After a reconcile, failed or not, late initialization gives the parameters a successful
reconcile records: a field the user set keeps its value, and the attribute of one the user left
unset is not in the diff, so no `Update` has written it. -/
theorem Reconcile.lateInitialize_eq (hstr : StringValuePreserving toStringPtr)
    (h : Reconcile toStringPtr s ok s') :
    lateInitializeSubscription toStringPtr s'.forProvider s'.attributes =
      (reconciled toStringPtr s).forProvider := by
  rcases reconcile_cases h with ⟨rfl, -⟩ | ⟨hp, -, -, -⟩
  · rfl
  rw [hp]
  refine SNSSubscriptionParameters.ext_field rfl rfl rfl fun a => ?_
  rw [field_lateInitializeSubscription, reconciled_forProvider]
  cases hu : a.field s.forProvider with
  | some v => rw [field_lateInitializeSubscription_of_set _ _ _ hu, lateInitializeStringPtr]
  | none =>
    have hk : s'.attributes.lookup a.name = s.attributes.lookup a.name :=
      h.lookup_of_reconciled (by
        rw [lookup_reconciled_attributes, ofName?_name, Option.map_some', reconciled_forProvider,
          desired_lateInitializeSubscription_of_unset _ _ hstr hu]
        simp [Option.filter_some])
    rw [index_congr hk, field_lateInitializeSubscription, hu]
    cases toStringPtr (s.attributes.index a.name) <;> rfl

/-- **A reconcile does not move the target.** Whatever a reconcile did, failed or not, a
successful reconcile from where it left off leads to the same state as one from where it
started. -/
theorem Reconcile.reconciled_eq (hstr : StringValuePreserving toStringPtr)
    (h : Reconcile toStringPtr s ok s') :
    reconciled toStringPtr s' = reconciled toStringPtr s := by
  have hp := h.lateInitialize_eq hstr
  rcases reconcile_cases h with ⟨rfl, -⟩ | ⟨-, -, hl, -⟩
  · rfl
  refine SubscriptionState.ext hp (generateSubscriptionObservation_congr fun k hk =>
    h.lookup_of_reconciled (lookup_reconciled_of_not_mem toStringPtr s hk)) ?_
  refine Finmap.ext_lookup fun k => ?_
  rw [lookup_reconciled_attributes, reconciled_forProvider, hp]
  rcases hl k with hk | hk
  · rw [index_congr hk, hk, lookup_reconciled_attributes]
  · rw [index_congr hk, hk, index, lookup_reconciled_attributes]
    exact or_filter_written _ _

/-- Along every run of reconciles, failed or not, a successful reconcile leads where it led from
the start. -/
theorem run_reconciled_eq (hstr : StringValuePreserving toStringPtr) {s₀ : SubscriptionState}
    (h : ReflTransGen (fun s s' => ∃ ok, Reconcile toStringPtr s ok s') s₀ s) :
    reconciled toStringPtr s = reconciled toStringPtr s₀ := by
  induction h with
  | refl => rfl
  | tail _ step ih =>
    obtain ⟨_, step⟩ := step
    exact (step.reconciled_eq hstr).trans ih

/-- **Failures only delay.** After any run of reconciles, whichever of their `Observe`s failed
and wherever AWS rejected a `SetSubscriptionAttributes`, a reconcile that succeeds leads to the
state a reconcile with no failure would have led to from the start. -/
theorem reconcile_after_failures (hstr : StringValuePreserving toStringPtr)
    {s₀ s₁ s₂ : SubscriptionState}
    (h : ReflTransGen (fun s s' => ∃ ok, Reconcile toStringPtr s ok s') s₀ s₁)
    (h' : Reconcile toStringPtr s₁ true s₂) : s₂ = reconciled toStringPtr s₀ :=
  (reconcile_deterministic h').trans (run_reconciled_eq hstr h)

/-- An instance: AWS rejects the second call of an `Update` that has two to send, and the next
reconcile succeeds. -/
theorem reconcile_after_failures_secondRejected :
    let s₀ : SubscriptionState :=
      ⟨⟨"", "", "", none, some "[]", none, some "r"⟩, ⟨none, none, none⟩,
        ofLit [⟨subscriptionRawMessageDelivery, "false"⟩] (by decide)⟩
    let p := lateInitializeSubscription some s₀.forProvider s₀.attributes
    let o' : RangeOrder (getChangedSubAttributes p s₀.attributes (getSubAttributesOrder p)) :=
      ⟨[⟨subscriptionFilterPolicy, "[]"⟩, ⟨subscriptionRedrivePolicy, "r"⟩], by decide⟩
    let accepts : (Σ _ : String, String) → Bool := fun e => e.1 = subscriptionFilterPolicy
    let s₁ : SubscriptionState := ⟨p, generateSubscriptionObservation s₀.attributes,
      (sendChanges accepts s₀.attributes o'.entries).1⟩
    StringValuePreserving some ∧
      ReflTransGen (fun s s' => ∃ ok, Reconcile some s ok s') s₀ s₁ ∧
      Reconcile some s₁ true (reconciled some s₁) ∧ reconciled some s₁ = reconciled some s₀ := by
  intro s₀ p o' accepts s₁
  have hstr : StringValuePreserving some := fun _ => rfl
  have h : ReflTransGen (fun s s' => ∃ ok, Reconcile some s ok s') s₀ s₁ :=
    ReflTransGen.single ⟨_, Reconcile.update s₀ (by decide) _ o' accepts⟩
  exact ⟨hstr, h, reconcile_reconciled some _,
    reconcile_after_failures hstr h (reconcile_reconciled some _)⟩

end

/-! ### Runs -/

section

variable {toStringPtr : String → Option String}

/-- No reconcile, failed or not, changes an attribute outside the managed four. -/
theorem Reconcile.lookup_of_not_mem {s s' : SubscriptionState} {ok : Bool}
    (h : Reconcile toStringPtr s ok s') {k : String} (hk : k ∉ managedNames) :
    s'.attributes.lookup k = s.attributes.lookup k :=
  h.lookup_of_reconciled (lookup_reconciled_of_not_mem toStringPtr s hk)

/-- No step changes an attribute outside the managed four. -/
theorem Step.lookup_of_not_mem {s s' : SubscriptionState} (h : Step toStringPtr s s') {k : String}
    (hk : k ∉ managedNames) : s'.attributes.lookup k = s.attributes.lookup k := by
  cases h with
  | reconcile h => exact h.lookup_of_not_mem hk
  | edit p => rfl

/-- **No run writes an unmanaged attribute.** Along every run of reconciles, failed or not, and
user edits, `Owner`, `PendingConfirmation`, `ConfirmationWasAuthenticated` and every unknown
attribute keep the value AWS held at the start. -/
theorem run_frame_unmanaged {s s' : SubscriptionState} (h : ReflTransGen (Step toStringPtr) s s')
    {k : String} (hk : k ∉ managedNames) : s'.attributes.lookup k = s.attributes.lookup k := by
  induction h with
  | refl => rfl
  | tail _ step ih => exact (step.lookup_of_not_mem hk).trans ih

/-- An instance: an `Update` whose second call AWS rejects, on a subscription whose owner AWS
reports. -/
theorem run_frame_unmanaged_owner :
    let s : SubscriptionState :=
      ⟨⟨"", "", "", none, some "[]", none, some "r"⟩, ⟨none, none, none⟩,
        ofLit [⟨subscriptionRawMessageDelivery, "false"⟩, ⟨subscriptionOwner, "123"⟩]
            (by decide)⟩
    let p := lateInitializeSubscription some s.forProvider s.attributes
    let o' : RangeOrder (getChangedSubAttributes p s.attributes (getSubAttributesOrder p)) :=
      ⟨[⟨subscriptionFilterPolicy, "[]"⟩, ⟨subscriptionRedrivePolicy, "r"⟩], by decide⟩
    let s' : SubscriptionState := ⟨p, generateSubscriptionObservation s.attributes,
      (sendChanges (fun e => e.1 = subscriptionFilterPolicy) s.attributes o'.entries).1⟩
    ReflTransGen (Step some) s s' ∧ subscriptionOwner ∉ managedNames ∧
      s'.attributes.lookup subscriptionOwner = s.attributes.lookup subscriptionOwner := by
  intro s p o' s'
  have h : ReflTransGen (Step some) s s' :=
    ReflTransGen.single (Step.reconcile (Reconcile.update s (by decide) _ o' _))
  exact ⟨h, by decide, run_frame_unmanaged h (by decide)⟩

/-- Every reconcile, failed or not, keeps the observation current. -/
theorem Reconcile.observationCurrent {s s' : SubscriptionState} {ok : Bool}
    (h : Reconcile toStringPtr s ok s') (hs : ObservationCurrent s) : ObservationCurrent s' := by
  rcases reconcile_cases h with ⟨rfl, -⟩ | ⟨-, ho, -, -⟩
  · exact hs
  · exact ho.trans (generateSubscriptionObservation_congr fun _ hk => (h.lookup_of_not_mem hk).symm)

/-- Every step keeps the observation current. -/
theorem Step.observationCurrent {s s' : SubscriptionState} (h : Step toStringPtr s s')
    (hs : ObservationCurrent s) : ObservationCurrent s' := by
  cases h with
  | reconcile h => exact h.observationCurrent hs
  | edit p => exact hs

/-- **The observation stays current.** Once a reconcile has succeeded, along every run of
reconciles, failed or not, and user edits the observation the resource records is the one AWS's
attributes give. -/
theorem run_observationCurrent {s₀ s₁ s : SubscriptionState}
    (h₀ : Reconcile toStringPtr s₀ true s₁) (h : ReflTransGen (Step toStringPtr) s₁ s) :
    ObservationCurrent s := by
  induction h with
  | refl =>
    rw [reconcile_deterministic h₀]
    exact reconciled_observationCurrent _ _
  | tail _ step ih => exact step.observationCurrent ih

/-- An instance: a reconcile, a user edit, then a reconcile whose `Observe` fails. -/
theorem run_observationCurrent_edit :
    let s : SubscriptionState :=
      ⟨⟨"", "", "", none, some "[]", none, none⟩, ⟨none, none, none⟩,
        ofLit [⟨subscriptionPendingConfirmation, "true"⟩] (by decide)⟩
    let p : SNSSubscriptionParameters := ⟨"", "", "", none, none, none, none⟩
    Reconcile some s true (reconciled some s) ∧
      ReflTransGen (Step some) (reconciled some s) { reconciled some s with forProvider := p } ∧
      ObservationCurrent { reconciled some s with forProvider := p } :=
  have h₀ := reconcile_reconciled some _
  have h := (ReflTransGen.single (@Step.edit some _ _)).tail
    (Step.reconcile (Reconcile.observeFailed _))
  ⟨h₀, h, run_observationCurrent h₀ h⟩

end

end Sns
end ProviderAws
