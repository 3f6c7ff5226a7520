import Stdlibx.Wrap

/-!
# `FakeStrategy`

The enum that `go-enum` generates: eight string constants, the list of their names, the map
from names to values, `ParseFakeStrategy` and the text marshallers built on it. A Go `[]byte`
converted from or to a `string` holds the same bytes, so text is kept as a `String`.
-/

/-- `type FakeStrategy string`. -/
structure Stdlibx.FakeStrategy where
  toString : String
  deriving DecidableEq, Repr

namespace Stdlibx.FakeStrategy

open Wrap

def fakeStrategyUnspecified : FakeStrategy := ⟨"unspecified"⟩
def fakeStrategyRandom : FakeStrategy := ⟨"random"⟩
def fakeStrategyRandomRange : FakeStrategy := ⟨"random_range"⟩
def fakeStrategyRandomPattern : FakeStrategy := ⟨"random_pattern"⟩
def fakeStrategyRandomSelect : FakeStrategy := ⟨"random_select"⟩
def fakeStrategyDistributionNormal : FakeStrategy := ⟨"distribution_normal"⟩
def fakeStrategyDistributionUniform : FakeStrategy := ⟨"distribution_uniform"⟩
def fakeStrategyStateful : FakeStrategy := ⟨"stateful"⟩

/-- `_FakeStrategyNames`; `FakeStrategyNames` returns a copy of it. -/
def fakeStrategyNames : List String :=
  [fakeStrategyUnspecified.toString, fakeStrategyRandom.toString,
    fakeStrategyRandomRange.toString, fakeStrategyRandomPattern.toString,
    fakeStrategyRandomSelect.toString, fakeStrategyDistributionNormal.toString,
    fakeStrategyDistributionUniform.toString, fakeStrategyStateful.toString]

def invalidFakeStrategyText : String :=
  "not a valid FakeStrategy, try [" ++ ", ".intercalate fakeStrategyNames ++ "]"

def errInvalidFakeStrategy : Err := fmtErrorf invalidFakeStrategyText []

/-- `_FakeStrategyValue`. -/
def fakeStrategyValue : List (String × FakeStrategy) :=
  [("unspecified", fakeStrategyUnspecified), ("random", fakeStrategyRandom),
    ("random_range", fakeStrategyRandomRange), ("random_pattern", fakeStrategyRandomPattern),
    ("random_select", fakeStrategyRandomSelect),
    ("distribution_normal", fakeStrategyDistributionNormal),
    ("distribution_uniform", fakeStrategyDistributionUniform), ("stateful", fakeStrategyStateful)]

/-- `ParseFakeStrategy`: the value and a nil error, or `FakeStrategy("")` and
`fmt.Errorf("%s is %w", name, ErrInvalidFakeStrategy)`. -/
def parseFakeStrategy (name : String) : FakeStrategy × Option Err :=
  match fakeStrategyValue.lookup name with
  | some x => (x, none)
  | none =>
    (⟨""⟩, some (fmtErrorf (name ++ " is " ++ invalidFakeStrategyText)
      [errInvalidFakeStrategy]))

def isValid (x : FakeStrategy) : Bool := (parseFakeStrategy x.toString).2.isNone

def marshalText (x : FakeStrategy) : String × Option Err := (x.toString, none)

/-- `UnmarshalText` on the receiver `x`: the new receiver and the error; on an error the receiver
is left as it was. -/
def unmarshalText (x : FakeStrategy) (text : String) : FakeStrategy × Option Err :=
  match parseFakeStrategy text with
  | (tmp, none) => (tmp, none)
  | (_, some err) => (x, some err)

theorem fakeStrategyValue_eq :
    fakeStrategyValue = fakeStrategyNames.map fun n => (n, ⟨n⟩) := rfl

theorem lookup_map_self (l : List String) (k : String) :
    (l.map fun n => (n, (⟨n⟩ : FakeStrategy))).lookup k =
      if k ∈ l then some ⟨k⟩ else none := by
  induction l with
  | nil => rfl
  | cons n l ih =>
    by_cases h : k = n
    · subst h; simp
    · simp [List.lookup_cons, beq_false_of_ne h, h, ih]

theorem parseFakeStrategy_eq (name : String) :
    parseFakeStrategy name = if name ∈ fakeStrategyNames then (⟨name⟩, none) else
      (⟨""⟩, some (fmtErrorf (name ++ " is " ++ invalidFakeStrategyText)
        [errInvalidFakeStrategy])) := by
  unfold parseFakeStrategy
  rw [fakeStrategyValue_eq, lookup_map_self]
  split_ifs <;> rfl

/-- `ParseFakeStrategy` accepts exactly the eight names, each as the value of that name, and
rejects any other text with an error that names it and wraps `ErrInvalidFakeStrategy`. -/
theorem parseFakeStrategy_spec (name : String) :
    parseFakeStrategy name = if name ∈ fakeStrategyNames then (⟨name⟩, none) else
      (⟨""⟩, some (fmtErrorf (name ++ (" is not a valid FakeStrategy, try [unspecified, random, " ++
        "random_range, random_pattern, random_select, distribution_normal, " ++
        "distribution_uniform, stateful]")) [errInvalidFakeStrategy])) := by
  have ht : " is " ++ invalidFakeStrategyText =
      " is not a valid FakeStrategy, try [unspecified, random, " ++
      "random_range, random_pattern, random_select, distribution_normal, " ++
      "distribution_uniform, stateful]" := by decide
  rw [parseFakeStrategy_eq, String.append_assoc, ht]

end Stdlibx.FakeStrategy
