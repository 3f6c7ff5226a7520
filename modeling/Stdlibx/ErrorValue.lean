import Mathlib.Data.List.Basic

/-!
# The `Error` value

The application error primitive of `errors.go`: its identity (`Namespace`, `Code`), message,
flags, extras and wrapped cause, and the operations that read or copy these fields.

A value of Go's `error` interface is an `ErrOf Error`: one of the dynamic types this package
meets, namely `Error`, a non-nil `*ErrorGroup`, the `errorChain` adapter, or a foreign error
known by its type name, the text its `Error()` returns and what its `Unwrap` returns.
A nil `error` is `none : Option Err`. Foreign errors here have no `As` or `Is` method of their
own, so `errors.As` and `errors.Is` meet only what their causes hold; `Stdlibx.ForeignAs` gives
them an `As` method and shows what that changes.
-/

namespace Stdlibx

/-- Modelled from the spec: `Bitmask` is declared in a file of the repository that is not
here. The spec describes a set of named boolean attributes packed into one integer and queried
by bit tests; `Has` tests that the flag's bits are set and `Set` sets them. -/
abbrev Bitmask := Nat

def Bitmask.has (b flag : Bitmask) : Bool := b &&& flag == flag

def Bitmask.set (b flag : Bitmask) : Bitmask := b ||| flag

def errorNamespaceDefault : String := "stdlibx-go"

/-- `1 << iota` in a constant block whose first entry is `ErrorNamespaceDefault`, so `iota`
is already 1 here. -/
def errorFlagUnknown : Bitmask := 1 <<< 1

def errorFlagRetryable : Bitmask := 1 <<< 2

def errorFlagTimeout : Bitmask := 1 <<< 3

structure DebugExtras where
  stackTrace : String := ""
  deriving DecidableEq

structure Link where
  url : String
  description : String
  deriving DecidableEq

structure HelpExtras where
  links : List Link := []
  deriving DecidableEq

structure RetryExtras where
  delay : Int := 0
  deriving DecidableEq

structure ErrorExtras where
  debug : DebugExtras := {}
  help : HelpExtras := {}
  retry : RetryExtras := {}
  tags : List String := []
  deriving DecidableEq

def DebugExtras.isZero (e : DebugExtras) : Bool := e.stackTrace == ""

def HelpExtras.isZero (e : HelpExtras) : Bool := e.links.length == 0

def RetryExtras.isZero (e : RetryExtras) : Bool := e.delay == 0

def ErrorExtras.isZero (e : ErrorExtras) : Bool :=
  e.debug.isZero && e.help.isZero && e.retry.isZero && e.tags.length == 0

def ErrorExtras.withDebugExtras (e : ErrorExtras) (extras : DebugExtras) : ErrorExtras :=
  { e with debug := extras }

def ErrorExtras.withHelpExtras (e : ErrorExtras) (extras : HelpExtras) : ErrorExtras :=
  { e with help := extras }

def ErrorExtras.withRetryExtras (e : ErrorExtras) (extras : RetryExtras) : ErrorExtras :=
  { e with retry := extras }

def ErrorExtras.withTag (e : ErrorExtras) (tags : List String) : ErrorExtras :=
  { e with tags := e.tags ++ tags }

/-- The `Formatter` of a group: `ErrorGroupFormatterDefault`, or a formatter the caller
installed, known by a name and rendered where groups are rendered. -/
inductive ErrorGroupFormatter
  | default
  | custom (name : String)
  deriving DecidableEq

/-- A non-nil `error`. The causes of a foreign error are empty without an `Unwrap` method,
one cause for `Unwrap() error` and the list for `Unwrap() []error`; it has no `As` or `Is`
method. -/
inductive ErrOf (α : Type) where
  | error (e : α)
  | group (errors : List α) (formatter : ErrorGroupFormatter)
  | chain (errors : List α)
  | foreign (type message : String) (causes : List (ErrOf α))

/-- `Error`; Go's `Error{}` is `{ wrapped := none }`. -/
structure Error where
  code : String := ""
  extras : ErrorExtras := {}
  flags : Bitmask := 0
  message : String := ""
  «namespace» : String := ""
  wrapped : Option (ErrOf Error)

abbrev Err := ErrOf Error

/-- A non-nil `*ErrorGroup`, by the value it points at. -/
structure ErrorGroup where
  errors : List Error
  formatter : ErrorGroupFormatter

def ErrorGroup.toErr (g : ErrorGroup) : Err := .group g.errors g.formatter

def errUndefined : Error where
  code := "undefined"
  flags := errorFlagUnknown
  message := "wrapped the following error which is not well-defined"
  «namespace» := errorNamespaceDefault
  wrapped := none

def errorKey («namespace» code : String) : String := «namespace» ++ "/" ++ code

def Error.key (e : Error) : String := errorKey e.«namespace» e.code

inductive Reflected
  | error
  | errorPtr
  | debugExtras
  | helpExtras
  | retryExtras
  deriving DecidableEq

/-- `reflect.DeepEqual(x, y)` for operands of dynamic types `tx` and `ty`: false as soon as
the types differ, and otherwise the comparison of the values, `sameValue`. -/
def deepEqual (tx ty : Reflected) (sameValue : Bool) : Bool := tx == ty && sameValue

def Error.equal (e e2 : Error) : Bool :=
  e.code == e2.code && e.message == e2.message && e.«namespace» == e2.«namespace» &&
    e.flags == e2.flags &&
    deepEqual .debugExtras .debugExtras (e.extras.debug == e2.extras.debug) &&
    deepEqual .helpExtras .helpExtras (e.extras.help == e2.extras.help) &&
    deepEqual .retryExtras .retryExtras (e.extras.retry == e2.extras.retry)

def Error.fieldsZero (e : Error) : Bool :=
  e.code == "" && e.extras == {} && e.flags == 0 && e.message == "" &&
    e.«namespace» == "" && e.wrapped.isNone

/-- `reflect.DeepEqual(e, new(Error))`: an `Error` against the `*Error` that `new(Error)`
returns. -/
def Error.isZero (e : Error) : Bool := deepEqual .error .errorPtr e.fieldsZero

def Error.isRetryable (e : Error) : Bool := e.flags.has errorFlagRetryable

def Error.isTimeout (e : Error) : Bool := e.flags.has errorFlagTimeout

def Error.isTransient (e : Error) : Bool := e.flags.has errorFlagUnknown

def Error.withFlag (e : Error) (flag : Bitmask) : Error :=
  { e with flags := e.flags.set flag }

def Error.withExtras (e : Error) (f : ErrorExtras → ErrorExtras) : Error :=
  { e with extras := f e.extras }

def Error.withDebugInfo (e : Error) (extras : DebugExtras) : Error :=
  e.withExtras (·.withDebugExtras extras)

def Error.withHelp (e : Error) (extras : HelpExtras) : Error :=
  e.withExtras (·.withHelpExtras extras)

def Error.withRetry (e : Error) (extras : RetryExtras) : Error :=
  e.withExtras (·.withRetryExtras extras)

def Error.withTag (e : Error) (tags : List String) : Error :=
  e.withExtras (·.withTag tags)

def Error.unwrap (e : Error) : Option Err := e.wrapped

end Stdlibx

namespace Stdlibx.ErrorValue

theorem Bitmask.has_one_shiftLeft (b : Bitmask) (k : Nat) : b.has (1 <<< k) = b.testBit k := by
  rw [Nat.one_shiftLeft]
  have h : b &&& 2 ^ k = if b.testBit k then 2 ^ k else 0 :=
    Nat.eq_of_testBit_eq fun i => by
      by_cases hb : b.testBit k <;> by_cases hi : k = i <;> simp_all [Nat.testBit_two_pow]
  unfold Bitmask.has
  rw [h]
  cases b.testBit k <;> simp [(Nat.two_pow_pos k).ne]

theorem Bitmask.has_set_one_shiftLeft (b flag : Bitmask) (k : Nat) :
    (b.set flag).has (1 <<< k) = (b.has (1 <<< k) || flag.has (1 <<< k)) := by
  simp only [has_one_shiftLeft, Bitmask.set, Nat.testBit_or]

/-- `WithFlag` turns on the named flags that `flag` has and keeps the others as they were. -/
theorem Error.withFlag_flags (e : Error) (flag : Bitmask) :
    (e.withFlag flag).isTransient = (e.isTransient || flag.has errorFlagUnknown) ∧
      (e.withFlag flag).isRetryable = (e.isRetryable || flag.has errorFlagRetryable) ∧
      (e.withFlag flag).isTimeout = (e.isTimeout || flag.has errorFlagTimeout) := by
  simp only [Error.isTransient, Error.isRetryable, Error.isTimeout, Error.withFlag,
    errorFlagUnknown, errorFlagRetryable, errorFlagTimeout, Bitmask.has_set_one_shiftLeft,
    and_self]

theorem Error.equal_iff {e e2 : Error} :
    e.equal e2 = true ↔ e.code = e2.code ∧ e.message = e2.message ∧
      e.«namespace» = e2.«namespace» ∧ e.flags = e2.flags ∧ e.extras.debug = e2.extras.debug ∧
      e.extras.help = e2.extras.help ∧ e.extras.retry = e2.extras.retry := by
  simp [Error.equal, deepEqual, and_assoc]

theorem Error.equal_refl (e : Error) : e.equal e = true := equal_iff.2 (by simp)

@[simp] theorem Error.isZero_eq_false (e : Error) : e.isZero = false := rfl

/-- Two `Error`s of different namespaces and codes share a `Key()` when a namespace or a code
holds the separator `/`. -/
theorem errorKey_collision :
    errorKey "a/b" "c" = errorKey "a" "b/c" ∧
      ({ «namespace» := "a/b", code := "c", wrapped := none } : Error).key =
        ({ «namespace» := "a", code := "b/c", wrapped := none } : Error).key ∧
      "a/b" ≠ "a" ∧ "c" ≠ "b/c" :=
  ⟨rfl, rfl, by decide, by decide⟩

private theorem append_cons_eq_of_not_mem {α : Type} {x₁ x₂ z₁ z₂ : List α} {a : α}
    (h₁ : a ∉ x₁) (h₂ : a ∉ x₂) (h : x₁ ++ a :: z₁ = x₂ ++ a :: z₂) :
    x₁ = x₂ ∧ z₁ = z₂ := by
  induction x₁ generalizing x₂ with
  | nil =>
    cases x₂ with
    | nil => simpa using h
    | cons b x₂ =>
      obtain ⟨rfl, -⟩ := List.cons.inj h
      exact absurd (List.mem_cons_self _ _) h₂
  | cons b x₁ ih =>
    cases x₂ with
    | nil =>
      obtain ⟨rfl, -⟩ := List.cons.inj h
      exact absurd (List.mem_cons_self _ _) h₁
    | cons c x₂ =>
      simp only [List.cons_append, List.cons.injEq] at h
      obtain ⟨rfl, h⟩ := h
      simpa using ih (fun m => h₁ (.tail _ m)) (fun m => h₂ (.tail _ m)) h

/-- `ErrorKey` tells identities apart when neither code, or neither namespace, holds the
separator `/`. -/
theorem errorKey_eq_iff {n₁ n₂ c₁ c₂ : String}
    (h : ('/' ∉ c₁.data ∧ '/' ∉ c₂.data) ∨ ('/' ∉ n₁.data ∧ '/' ∉ n₂.data)) :
    errorKey n₁ c₁ = errorKey n₂ c₂ ↔ n₁ = n₂ ∧ c₁ = c₂ := by
  refine ⟨fun hk => ?_, fun ⟨rfl, rfl⟩ => rfl⟩
  have hd : n₁.data ++ '/' :: c₁.data = n₂.data ++ '/' :: c₂.data := by
    simpa [errorKey] using congrArg String.data hk
  rcases h with ⟨hc₁, hc₂⟩ | ⟨hn₁, hn₂⟩
  · have hr := congrArg List.reverse hd
    simp only [List.reverse_append, List.reverse_cons, List.append_assoc, List.singleton_append]
      at hr
    obtain ⟨hc, hn⟩ := append_cons_eq_of_not_mem (by simpa using hc₁) (by simpa using hc₂) hr
    exact ⟨String.ext (by simpa using hn), String.ext (by simpa using hc)⟩
  · obtain ⟨hn, hc⟩ := append_cons_eq_of_not_mem hn₁ hn₂ hd
    exact ⟨String.ext hn, String.ext hc⟩

theorem errorKey_eq_iff_default :
    (errorKey errorNamespaceDefault "undefined" = errorKey errorNamespaceDefault "timeout" ↔
      errorNamespaceDefault = errorNamespaceDefault ∧ "undefined" = "timeout") :=
  errorKey_eq_iff (.inl ⟨by decide, by decide⟩)

end Stdlibx.ErrorValue
