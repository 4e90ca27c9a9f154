import ProviderAws.Sns.Subscription
import Mathlib.Tactic.DeriveFintype

/-!
# What the subscription diff computes

`Observe` decides whether a subscription is up to date with the four-way conjunction
`isSNSSubscriptionAttributesUpToDate`; `Update` sends the map `getChangedSubAttributes`
computes by a `range` loop over the literal `getSubAttributes`. The two are written
independently, so this file gives both one meaning and proves that each code path refines it.

The abstract model is stated over `ManagedAttribute`, the four attributes the resource manages,
with `desired p a` the value the parameters ask for (`nil` read as `""`):

* `InSync p attrs`: AWS reports the desired value of every managed attribute, a missing
  attribute reading as `""`;
* `applyChanges attrs changes`: the attributes after each entry of `changes` has been written
  over them.

The loop is handled once, by its invariant `lookup_foldl_collectChanged`: since `range` visits
each key at most once, the value at `k` after the loop is the visited value when it differs
from `attrs[k]`. Over any `RangeOrder` this gives the characterisation
`lookup_getChangedSubAttributes`, and from it:

* `getChangedSubAttributes_order_irrel`: the result does not depend on the order `range` takes;
* `upToDate_iff_changed_eq_empty`: `Observe`'s decision and `Update`'s diff never disagree;
* `changes_converge_and_frame`: every entry of the diff is a managed attribute AWS reports
  differently, writing the diff touches no other attribute, and after it the subscription is in
  sync.
-/

namespace ProviderAws
namespace Sns

open Go Go.StringMap

/-! ### The managed attributes -/

/-- The subscription attributes the resource manages: the keys of `getSubAttributes`. -/
inductive ManagedAttribute
  | deliveryPolicy
  | filterPolicy
  | rawMessageDelivery
  | redrivePolicy
  deriving DecidableEq, Repr, Fintype

namespace ManagedAttribute

/-- The attributes in the order `getSubAttributes` lists them. -/
def all : List ManagedAttribute := [deliveryPolicy, filterPolicy, rawMessageDelivery, redrivePolicy]

/-- The attribute's name on the SNS side. -/
def name : ManagedAttribute → String
  | deliveryPolicy => subscriptionDeliveryPolicy
  | filterPolicy => subscriptionFilterPolicy
  | rawMessageDelivery => subscriptionRawMessageDelivery
  | redrivePolicy => subscriptionRedrivePolicy

/-- The parameter that holds the attribute's desired value. -/
def field : ManagedAttribute → SNSSubscriptionParameters → Option String
  | deliveryPolicy => SNSSubscriptionParameters.deliveryPolicy
  | filterPolicy => SNSSubscriptionParameters.filterPolicy
  | rawMessageDelivery => SNSSubscriptionParameters.rawMessageDelivery
  | redrivePolicy => SNSSubscriptionParameters.redrivePolicy

/-- The managed attribute a key names, if any. -/
def ofName? (k : String) : Option ManagedAttribute := all.find? (·.name = k)

theorem ofName?_name (a : ManagedAttribute) : ofName? a.name = some a := by
  cases a <;> decide

theorem ofName?_eq_some {k : String} {a : ManagedAttribute} :
    ofName? k = some a ↔ a.name = k :=
  ⟨fun h => by simpa using List.find?_some h, fun h => h ▸ ofName?_name a⟩

theorem name_mem_managedNames (a : ManagedAttribute) : a.name ∈ managedNames := by
  cases a <;> simp [name, managedNames]

/-- A statement about every managed attribute is one about each of the four. -/
theorem forall_iff {P : ManagedAttribute → Prop} :
    (∀ a, P a) ↔
      P deliveryPolicy ∧ P filterPolicy ∧ P rawMessageDelivery ∧ P redrivePolicy :=
  ⟨fun h => ⟨h _, h _, h _, h _⟩, fun ⟨_, _, _, _⟩ a => by cases a <;> assumption⟩

end ManagedAttribute

open ManagedAttribute

/-- Two parameter objects are equal when they agree on the three request fields and on every
managed field. -/
theorem SNSSubscriptionParameters.ext_field {p q : SNSSubscriptionParameters}
    (he : p.endpoint = q.endpoint) (hp : p.protocol = q.protocol) (ht : p.topicARN = q.topicARN)
    (hf : ∀ a : ManagedAttribute, a.field p = a.field q) : p = q := by
  obtain ⟨h₁, h₂, h₃, h₄⟩ := forall_iff.mp hf
  cases p
  cases q
  simp_all [field]

/-- The value the parameters ask for an attribute: `aws.StringValue` of its field. -/
def desired (p : SNSSubscriptionParameters) (a : ManagedAttribute) : String :=
  stringValue (a.field p)

/-! ### The abstract model -/

/-- **In sync.** AWS reports the desired value of every managed attribute, a missing attribute
reading as `""`. -/
def InSync (p : SNSSubscriptionParameters) (attrs : StringMap) : Prop :=
  ∀ a : ManagedAttribute, desired p a = attrs.index a.name

instance (p : SNSSubscriptionParameters) (attrs : StringMap) : Decidable (InSync p attrs) :=
  inferInstanceAs (Decidable (∀ a, desired p a = attrs.index a.name))

/-- The attributes once every entry of `changes` has been written over `attrs`. -/
def applyChanges (attrs changes : StringMap) : StringMap := changes ∪ attrs

/-! ### The literal and the loop -/

/-- A literal keyed by attribute names finds at `k` the value of the attribute named `k`. -/
theorem dlookup_map_name (f : ManagedAttribute → String) (k : String) :
    ∀ l : List ManagedAttribute,
      (l.map fun a => (⟨a.name, f a⟩ : Σ _ : String, String)).dlookup k =
        (l.find? (·.name = k)).map f
  | [] => rfl
  | a :: l => by
    by_cases h : a.name = k
    · subst h
      simp [List.dlookup_cons_eq]
    · rw [List.map_cons, List.dlookup_cons_ne _ _ (Ne.symm h),
        List.find?_cons_of_neg _ (by simpa using h), dlookup_map_name f k l]

/-- `getSubAttributes` holds the desired value of each managed attribute, and nothing else. -/
theorem lookup_getSubAttributes (p : SNSSubscriptionParameters) (k : String) :
    (getSubAttributes p).lookup k = (ofName? k).map (desired p) :=
  (lookup_ofLit _ _ k).trans (dlookup_map_name (desired p) k all)

theorem lookup_collectChanged_of_ne {attrs acc : StringMap} {e : Σ _ : String, String}
    {k : String} (h : k ≠ e.1) : (collectChanged attrs acc e).lookup k = acc.lookup k := by
  unfold collectChanged
  split_ifs
  · exact Finmap.lookup_insert_of_ne _ h
  · rfl

theorem lookup_collectChanged_self (attrs acc : StringMap) (k v : String) :
    (collectChanged attrs acc ⟨k, v⟩).lookup k =
      if v ≠ attrs.index k then some v else acc.lookup k := by
  unfold collectChanged
  split_ifs <;> simp [Finmap.lookup_insert]

/-- **The loop invariant of `GetChangedSubAttributes`.** After the loop has visited the entries
`l`, each key once, a key holds the visited value if that value differs from `attrs`, and what
it held before otherwise. -/
theorem lookup_foldl_collectChanged (attrs : StringMap) (k : String)
    (l : List (Σ _ : String, String)) (acc : StringMap) (hl : l.NodupKeys) :
    (l.foldl (collectChanged attrs) acc).lookup k =
      ((l.dlookup k).filter (fun v => v ≠ attrs.index k)).or (acc.lookup k) := by
  induction l generalizing acc with
  | nil => simp
  | cons e l ih =>
    obtain ⟨k', v'⟩ := e
    rw [List.nodupKeys_cons] at hl
    rw [List.foldl_cons, ih _ hl.2]
    by_cases hk : k = k'
    · subst hk
      rw [List.dlookup_eq_none.mpr hl.1, List.dlookup_cons_eq, lookup_collectChanged_self]
      split_ifs <;> simp_all [Option.filter_some]
    · rw [List.dlookup_cons_ne _ _ hk, lookup_collectChanged_of_ne hk]

/-- **What `GetChangedSubAttributes` computes**, in whatever order `range` visits the literal:
the entry of `getSubAttributes` at `k` when it differs from `attrs[k]`, and nothing otherwise. -/
theorem lookup_getChangedSubAttributes (p : SNSSubscriptionParameters) (attrs : StringMap)
    (o : RangeOrder (getSubAttributes p)) (k : String) :
    (getChangedSubAttributes p attrs o).lookup k =
      ((getSubAttributes p).lookup k).filter (fun v => v ≠ attrs.index k) := by
  rw [getChangedSubAttributes, lookup_foldl_collectChanged attrs k _ ∅ o.nodupKeys,
    o.dlookup_eq, Finmap.lookup_empty, Option.or_none]

/-- A user who sets a filter policy and raw delivery, against AWS reporting raw delivery on. -/
example :
    let p : SNSSubscriptionParameters := ⟨"", "", "", none, some "[]", some "true", none⟩
    let attrs := ofLit [⟨subscriptionRawMessageDelivery, "true"⟩, ⟨subscriptionOwner, "1"⟩]
      (by decide)
    getChangedSubAttributes p attrs (getSubAttributesOrder p) =
      ofLit [⟨subscriptionFilterPolicy, "[]"⟩] (by decide) := by
  decide

/-- The diff does not depend on the order in which `range` visits `getSubAttributes`. -/
theorem getChangedSubAttributes_order_irrel (p : SNSSubscriptionParameters) (attrs : StringMap)
    (o o' : RangeOrder (getSubAttributes p)) :
    getChangedSubAttributes p attrs o = getChangedSubAttributes p attrs o' :=
  Finmap.ext_lookup fun k => by
    rw [lookup_getChangedSubAttributes, lookup_getChangedSubAttributes]

/-- The diff at a managed attribute: its desired value when AWS reports another, and nothing
when AWS reports it. -/
theorem lookup_getChangedSubAttributes_name (p : SNSSubscriptionParameters) (attrs : StringMap)
    (o : RangeOrder (getSubAttributes p)) (a : ManagedAttribute) :
    (getChangedSubAttributes p attrs o).lookup a.name =
      if desired p a = attrs.index a.name then none else some (desired p a) := by
  rw [lookup_getChangedSubAttributes, lookup_getSubAttributes, ofName?_name, Option.map_some',
    Option.filter_some]
  split_ifs <;> simp_all

/-- Every entry of the diff is a managed attribute, holding its desired value, which AWS does
not report. -/
theorem lookup_getChangedSubAttributes_eq_some {p : SNSSubscriptionParameters}
    {attrs : StringMap} {o : RangeOrder (getSubAttributes p)} {k v : String}
    (h : (getChangedSubAttributes p attrs o).lookup k = some v) :
    ∃ a : ManagedAttribute, a.name = k ∧ desired p a = v ∧ v ≠ attrs.index k := by
  rw [lookup_getChangedSubAttributes, Option.filter_eq_some, lookup_getSubAttributes] at h
  obtain ⟨a, ha, rfl⟩ := Option.map_eq_some'.mp h.1
  exact ⟨a, ofName?_eq_some.mp ha, rfl, by simpa using h.2⟩

/-- The keys of the diff are managed attribute names. -/
theorem mem_managedNames_of_mem_getChangedSubAttributes {p : SNSSubscriptionParameters}
    {attrs : StringMap} {o : RangeOrder (getSubAttributes p)} {k : String}
    (h : k ∈ getChangedSubAttributes p attrs o) : k ∈ managedNames := by
  obtain ⟨v, hv⟩ := Finmap.mem_iff.mp h
  obtain ⟨a, rfl, -⟩ := lookup_getChangedSubAttributes_eq_some hv
  exact name_mem_managedNames a

/-! ### Both code paths refine `InSync` -/

/-- `Observe`'s four-way conjunction decides `InSync`. -/
theorem isSNSSubscriptionAttributesUpToDate_iff (p : SNSSubscriptionParameters)
    (attrs : StringMap) :
    isSNSSubscriptionAttributesUpToDate p attrs = true ↔ InSync p attrs := by
  simp [isSNSSubscriptionAttributesUpToDate, InSync, forall_iff, desired, field, name, and_assoc]

/-- `Update`'s diff is empty exactly when the subscription is in sync. -/
theorem getChangedSubAttributes_eq_empty_iff (p : SNSSubscriptionParameters) (attrs : StringMap)
    (o : RangeOrder (getSubAttributes p)) :
    getChangedSubAttributes p attrs o = ∅ ↔ InSync p attrs := by
  constructor
  · intro h a
    have ha := lookup_getChangedSubAttributes_name p attrs o a
    rw [h, Finmap.lookup_empty] at ha
    split_ifs at ha with heq
    exact heq
  · intro h
    refine Finmap.ext_lookup fun k => ?_
    rw [Finmap.lookup_empty, Option.eq_none_iff_forall_not_mem]
    intro v hv
    obtain ⟨a, rfl, rfl, hne⟩ := lookup_getChangedSubAttributes_eq_some hv
    exact hne (h a)

/-- **`Observe` and `Update` never disagree.** The subscription is up to date exactly when the
diff `Update` would send is empty, for every parameter object, every observation and every
order `range` takes. -/
theorem upToDate_iff_changed_eq_empty (p : SNSSubscriptionParameters) (attrs : StringMap)
    (o : RangeOrder (getSubAttributes p)) :
    isSNSSubscriptionAttributesUpToDate p attrs = true ↔ getChangedSubAttributes p attrs o = ∅ :=
  (isSNSSubscriptionAttributesUpToDate_iff p attrs).trans
    (getChangedSubAttributes_eq_empty_iff p attrs o).symm

/-- Writing the diff over the attributes it was computed from brings them in sync. -/
theorem inSync_applyChanges (p : SNSSubscriptionParameters) (attrs : StringMap)
    (o : RangeOrder (getSubAttributes p)) :
    InSync p (applyChanges attrs (getChangedSubAttributes p attrs o)) := by
  intro a
  have hd := lookup_getChangedSubAttributes_name p attrs o a
  split_ifs at hd with h
  · rw [applyChanges, index_congr (Finmap.lookup_union_right (Finmap.lookup_eq_none.mp hd)), h]
  · rw [applyChanges,
      index_of_lookup ((Finmap.lookup_union_left (Finmap.mem_of_lookup_eq_some hd)).trans hd)]

/-- Writing the diff leaves every attribute it has no entry for as it was. -/
theorem lookup_applyChanges_of_not_mem {attrs changes : StringMap} {k : String}
    (h : k ∉ changes) : (applyChanges attrs changes).lookup k = attrs.lookup k :=
  Finmap.lookup_union_right h

/-- **One update converges and touches nothing else.** Every entry of the diff is a managed
attribute AWS reports differently; writing it over the observation changes no other key, so
neither `Owner`, `PendingConfirmation`, `ConfirmationWasAuthenticated` nor an unknown key; and
afterwards the subscription is up to date and the diff is empty, in any order. -/
theorem changes_converge_and_frame (p : SNSSubscriptionParameters) (attrs : StringMap)
    (o : RangeOrder (getSubAttributes p)) :
    let d := getChangedSubAttributes p attrs o
    let attrs' := applyChanges attrs d
    (∀ k v, d.lookup k = some v → k ∈ managedNames ∧ v ≠ attrs.index k) ∧
      (∀ k, k ∉ d → attrs'.lookup k = attrs.lookup k) ∧
      (∀ k, k ∉ managedNames → attrs'.lookup k = attrs.lookup k) ∧
      isSNSSubscriptionAttributesUpToDate p attrs' = true ∧
      ∀ o' : RangeOrder (getSubAttributes p), getChangedSubAttributes p attrs' o' = ∅ := by
  intro d attrs'
  have hsync := inSync_applyChanges p attrs o
  refine ⟨fun k v hv => ?_, fun k => lookup_applyChanges_of_not_mem,
    fun k hk => lookup_applyChanges_of_not_mem fun hd =>
      hk (mem_managedNames_of_mem_getChangedSubAttributes hd),
    (isSNSSubscriptionAttributesUpToDate_iff p _).mpr hsync,
    fun o' => (getChangedSubAttributes_eq_empty_iff p _ o').mpr hsync⟩
  obtain ⟨a, rfl, -, hne⟩ := lookup_getChangedSubAttributes_eq_some hv
  exact ⟨name_mem_managedNames a, hne⟩

end Sns
end ProviderAws
