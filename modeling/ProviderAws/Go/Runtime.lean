import Mathlib.Data.Finmap

/-!
# The Go values the provider works on

The SNS subscription client and the API Gateway hooks read and build a few kinds of Go value.
This file fixes their meaning once, so that their functions can be read line by line against
the source:

* `map[string]string` is `StringMap`, Mathlib's `Finmap` over strings. A Go map has distinct
  keys and no order, which is what a finite map up to permutation of its entries is. The index
  expression `m[k]` reads the zero value `""` at a missing key (`StringMap.index`), and a map
  literal, whose constant keys Go requires to be distinct, is `StringMap.ofLit`.
* `for k, v := range m` visits the entries of `m` in an order the language leaves unspecified
  (and the runtime randomises). `RangeOrder m` is one such order: a list of the entries of `m`
  together with the proof that it enumerates them. A loop over a map is a fold over a
  `RangeOrder`, and what is proved of it is proved for every order.
* `*string` is `Option String`. `aws.StringValue` dereferences with `""` for `nil`
  (`stringValue`). The `aws.String` and `aws.Bool` of `aws-sdk-go-v2`, which the SNS client
  imports as `aws`, are `some`. The `String` of `pkg/clients`, which is not among the sources and
  returns `nil` for `""`, is a parameter `toStringPtr` of every function that calls it.
* A Go `error` is `GoError`: `nil`, an `awserr.Error` with its code, or an error of any other
  type.

`strconv.ParseBool` is `parseBool`: it accepts the six spellings of each truth value that the
Go standard library lists and fails on every other string.
-/

namespace ProviderAws
namespace Go

/-- A Go `map[string]string`. -/
abbrev StringMap := Finmap fun _ : String => String

namespace StringMap

/-- The index expression `m[k]`: the value stored at `k`, or the zero value `""` when `m` has
no entry for `k`. -/
def index (m : StringMap) (k : String) : String := (m.lookup k).getD ""

@[simp] theorem index_empty (k : String) : (∅ : StringMap).index k = "" := rfl

theorem index_of_lookup {m : StringMap} {k v : String} (h : m.lookup k = some v) :
    m.index k = v := by
  simp [index, h]

/-- Two maps with the same entry at `k` read the same at `k`. -/
theorem index_congr {m m' : StringMap} {k : String} (h : m.lookup k = m'.lookup k) :
    m.index k = m'.index k := by
  simp [index, h]

/-- A map literal `map[string]string{k₁: v₁, …}`. Go rejects a literal with two equal constant
keys, so the entries of a literal have distinct keys. -/
def ofLit (l : List (Σ _ : String, String)) (h : l.keys.Nodup) : StringMap :=
  AList.toFinmap ⟨l, h⟩

@[simp] theorem lookup_ofLit (l : List (Σ _ : String, String)) (h : l.keys.Nodup)
    (k : String) : (ofLit l h).lookup k = l.dlookup k :=
  Finmap.lookup_toFinmap k _

end StringMap

open StringMap

/-- **An iteration order of `range`.** An order in which `for k, v := range m` may visit the
entries of `m`: a list of entries that enumerates `m`, the enumeration carried as a field. -/
structure RangeOrder (m : StringMap) where
  /-- The entries in the order the loop visits them. -/
  entries : List (Σ _ : String, String)
  /-- The visited entries are exactly those of `m`, each once. -/
  perm : (entries : Multiset (Σ _ : String, String)) = m.entries

namespace RangeOrder

variable {m : StringMap}

/-- A literal's entries in the order they are written are one order `range` may take. -/
def ofLit (l : List (Σ _ : String, String)) (h : l.keys.Nodup) :
    RangeOrder (StringMap.ofLit l h) :=
  ⟨l, rfl⟩

/-- Every map can be ranged over: its entries have some enumeration. -/
theorem nonempty (m : StringMap) : Nonempty (RangeOrder m) := by
  obtain ⟨l, hl⟩ := Quot.exists_rep m.entries
  exact ⟨⟨l, hl⟩⟩

/-- A loop visits every key at most once. -/
theorem nodupKeys (o : RangeOrder m) : o.entries.NodupKeys :=
  Multiset.coe_nodupKeys.mp (o.perm ▸ m.nodupKeys)

/-- The entry a loop visits for `k` is the map's entry for `k`, whatever the order. -/
theorem dlookup_eq (o : RangeOrder m) (k : String) : o.entries.dlookup k = m.lookup k := by
  obtain ⟨e, he⟩ := m
  obtain ⟨l, hl⟩ := o
  change l.dlookup k = _
  subst hl
  rfl

end RangeOrder

/-- `aws.StringValue`: the string a `*string` points to, or `""` for `nil`. -/
def stringValue (p : Option String) : String := p.getD ""

@[simp] theorem stringValue_some (s : String) : stringValue (some s) = s := rfl

@[simp] theorem stringValue_none : stringValue none = "" := rfl

/-- A Go `error` as the provider inspects it: `nil`, an `awserr.Error`, which carries the
service's error code, or an error of any other type. -/
inductive GoError
  | nil
  | awsErr (code message : String)
  | other (message : String)
  deriving DecidableEq, Repr

/-- `subErr, ok := err.(awserr.Error); ok && subErr.Code() == code`. The type assertion fails on
`nil`. -/
def GoError.hasCode (code : String) : GoError → Bool
  | .nil => false
  | .awsErr c _ => c == code
  | .other _ => false

/-- An error has a code exactly when it is an AWS error carrying that code. -/
theorem GoError.hasCode_iff (code : String) (err : GoError) :
    err.hasCode code = true ↔ ∃ message, err = .awsErr code message := by
  cases err <;> simp [hasCode]

/-- `strconv.ParseBool`. `none` stands for the `*NumError` it returns on any other input; the
callers modelled here only compare that error with `nil`. -/
def parseBool (str : String) : Option Bool :=
  match str with
  | "1" | "t" | "T" | "TRUE" | "true" | "True" => some true
  | "0" | "f" | "F" | "FALSE" | "false" | "False" => some false
  | _ => none

example : parseBool "TRUE" = some true ∧ parseBool "yes" = none := by decide

end Go
end ProviderAws
