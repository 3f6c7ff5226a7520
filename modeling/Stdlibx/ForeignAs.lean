import Stdlibx.AsGroup

/-!
# Foreign `As` methods

`errors.As` asks each value of the walk it cannot store for an `As` method, and `Err` gives
foreign errors none. Here a foreign error may have one, for the two target types this package
asks for (`AsMethods`). The value an `As` method stores need not lie inside the error it was
asked of, so `Append`'s recursion through groups and `AsGroup`'s loop are run with a bound on
their steps, and give `none` once it is spent.

Without methods (`noAsMethods`) every bounded run whose bound exceeds the size of its input gives
what the model of `Stdlibx.ErrorGroup` and `Stdlibx.AsGroup` gives: both loops end
(`asGroup_append_terminate`). With an adapter whose `As` method stores an `Error` wrapping the
adapter, `AsGroup` exhausts every bound, and so does `Append` when the adapter also answers for
`*ErrorGroup` (`asGroup_append_diverge`). `Translate` stores the `Error` that such a method
stores, and wraps in `ErrUndefined` only what no search finds an `Error` in (`translateWith_spec`).
-/

namespace Stdlibx.ForeignAs

open Errors ErrorGroup AsGroup

/-- The `As` methods of foreign errors: what `x.As(&target)` stores for an `Error` and for an
`*ErrorGroup` target, and `none` where `x` has no `As` method or it returns false. -/
structure AsMethods where
  error : Err → Option Error
  errorGroup : Err → Option ErrorGroup

def noAsMethods : AsMethods := ⟨fun _ => none, fun _ => none⟩

/-- An `Error` target takes an `Error`, and asks a foreign error's `As` method. -/
def errorTargetWith (m : AsMethods) : Err → Option Error
  | .error e => some e
  | .foreign t s cs => m.error (.foreign t s cs)
  | _ => none

def errorGroupTargetWith (m : AsMethods) : Err → Option ErrorGroup
  | .group l f => some ⟨l, f⟩
  | .foreign t s cs => m.errorGroup (.foreign t s cs)
  | _ => none

def asErrorWith (m : AsMethods) (err : Option Err) : Option Error :=
  errorsAs (errorTargetWith m) err

def asErrorGroupWith (m : AsMethods) (err : Option Err) : Option ErrorGroup :=
  errorsAs (errorGroupTargetWith m) err

/-- `ErrUndefined` is not zero (`isZero_eq_false`), so its `Wrap` never calls `errors.As`. -/
def asErrorOrUndefinedWith (m : AsMethods) (err : Option Err) : Error :=
  (asErrorWith m err).getD (errUndefined.wrap err)

mutual
/-- `Append`'s loop over `errs` from the errors `acc`, run for at most `n` steps. -/
def appendErrsWith (m : AsMethods) :
    Nat → List Error → List (Option Err) → Option (List Error)
  | 0, _, _ => none
  | _ + 1, acc, [] => some acc
  | n + 1, acc, none :: errs => appendErrsWith m n acc errs
  | n + 1, acc, some err :: errs =>
    (appendOneWith m n acc err).bind fun acc => appendErrsWith m n acc errs

def appendOneWith (m : AsMethods) : Nat → List Error → Err → Option (List Error)
  | 0, _, _ => none
  | n + 1, acc, err =>
    match asErrorGroupWith m (some err) with
    | some eg => appendErrsWith m n acc (errorsOf eg.errors)
    | none =>
      let e := asErrorOrUndefinedWith m (some err)
      some (if e.isZero then acc else acc ++ [e])
end

/-- `AsGroup`'s loop from the link `err`, run for at most `n` passes; each pass runs its `Append`
with the bound the pass starts from. -/
def asGroupLoopWith (m : AsMethods) : Nat → ErrorGroup → Error → Option ErrorGroup
  | 0, _, _ => none
  | n + 1, g, err =>
    match err.wrapped with
    | none => some g
    | some w =>
      (appendErrsWith m (n + 1) g.errors [some w]).bind fun errors =>
        match asErrorWith m (some w) with
        | none => some { g with errors }
        | some we => asGroupLoopWith m n { g with errors } we

def asGroupWith (m : AsMethods) (n : Nat) (e : Error) : Option ErrorGroup :=
  (appendErrsWith m n [] [some (.error e)]).bind fun errors =>
    asGroupLoopWith m n { errors, formatter := .default } e

def translateFromWith (m : AsMethods) (translate : ErrorTranslate) (i : Nat)
    (errors : List Error) : List Error :=
  if h : i < errors.length then
    translateFromWith m translate (i + 1)
      (errors.set i (asErrorOrUndefinedWith m (translate (some (.error errors[i])))))
  else errors
termination_by errors.length - i
decreasing_by simp only [List.length_set]; omega

def translateWith (m : AsMethods) (g : ErrorGroup) (translate : ErrorTranslate) : ErrorGroup :=
  { g with errors := translateFromWith m translate 0 g.errors }

@[simp] theorem errorTargetWith_noAsMethods : errorTargetWith noAsMethods = errorTarget := by
  funext v; cases v <;> rfl

@[simp] theorem errorGroupTargetWith_noAsMethods :
    errorGroupTargetWith noAsMethods = errorGroupTarget := by
  funext v; cases v <;> rfl

@[simp] theorem asErrorWith_noAsMethods : asErrorWith noAsMethods = asError := by
  funext err; simp [asErrorWith, asError]

@[simp] theorem asErrorGroupWith_noAsMethods : asErrorGroupWith noAsMethods = asErrorGroup := by
  funext err; simp [asErrorGroupWith, asErrorGroup]

@[simp] theorem asErrorOrUndefinedWith_noAsMethods :
    asErrorOrUndefinedWith noAsMethods = asErrorOrUndefined := by
  funext err; simp [asErrorOrUndefinedWith, asErrorOrUndefined]

theorem appendWith_noAsMethods (n : Nat) :
    (∀ acc errs, errsSize errs < n →
      appendErrsWith noAsMethods n acc errs = some (appendErrs acc errs)) ∧
    ∀ acc err, err.size < n →
      appendOneWith noAsMethods n acc err = some (appendOne acc err) := by
  induction n with
  | zero => simp
  | succ n ih =>
    refine ⟨fun acc errs h => ?_, fun acc err h => ?_⟩
    · match errs with
      | [] => simp [appendErrsWith]
      | none :: errs =>
        simp only [errsSize, causeSize] at h
        rw [appendErrsWith, ih.1 acc errs (by omega), appendErrs_none]
      | some err :: errs =>
        simp only [errsSize, causeSize_some] at h
        rw [appendErrsWith, ih.2 acc err (by omega), Option.some_bind, ih.1 _ errs (by omega),
          appendErrs_some]
    · rw [appendOneWith, asErrorGroupWith_noAsMethods, appendOne_eq]
      cases hg : asErrorGroup (some err) with
      | some eg =>
        have := asGroup_append_decrease.2 err eg hg
        exact ih.1 acc _ (by omega)
      | none => simp

theorem asGroupLoopWith_noAsMethods (n : Nat) (g : ErrorGroup) (err : Error) (h : err.size < n) :
    asGroupLoopWith noAsMethods n g err = some (asGroupLoop g err) := by
  induction n generalizing g err with
  | zero => omega
  | succ n ih =>
    rw [asGroupLoopWith, asGroupLoop_eq]
    cases hw : err.wrapped with
    | none => rfl
    | some w =>
      simp only [Error.size_eq, hw, causeSize_some] at h
      dsimp only
      rw [(appendWith_noAsMethods (n + 1)).1 _ _ (by simp [errsSize]; omega), Option.some_bind,
        asErrorWith_noAsMethods]
      cases hwe : asError (some w) with
      | none => rfl
      | some we =>
        have := (asGroup_append_decrease.1 err w we hw hwe).1
        exact ih _ _ (by omega)

def adapter : Err := .foreign "adapter" "a" []

/-- `As` methods that answer an `Error` target with an `Error` wrapping the foreign error, and
an `*ErrorGroup` target, when `toGroup` holds, with a group of that `Error`. -/
def wrapSelf (toGroup : Bool) : AsMethods where
  error v := some { wrapped := some v }
  errorGroup v := if toGroup then some ⟨[{ wrapped := some v }], .default⟩ else none

theorem asGroupLoopWith_wrapSelf (n : Nat) (g : ErrorGroup) (err : Error)
    (hw : err.wrapped = some adapter) : asGroupLoopWith (wrapSelf false) n g err = none := by
  induction n generalizing g err with
  | zero => rfl
  | succ n ih =>
    rw [asGroupLoopWith, hw]
    dsimp only
    cases appendErrsWith (wrapSelf false) (n + 1) g.errors [some adapter] with
    | none => rfl
    | some errors => exact ih _ _ rfl

theorem appendWith_wrapSelf (n : Nat) (acc : List Error) :
    appendErrsWith (wrapSelf true) n acc [some (.error { wrapped := some adapter })] = none ∧
      appendOneWith (wrapSelf true) n acc (.error { wrapped := some adapter }) = none := by
  induction n generalizing acc with
  | zero => exact ⟨rfl, rfl⟩
  | succ n ih =>
    refine ⟨?_, ?_⟩
    · rw [appendErrsWith, (ih acc).2]; rfl
    · rw [appendOneWith]
      exact (ih acc).1

private theorem translateFromWith_append (m : AsMethods) (f : ErrorTranslate)
    (pre suf : List Error) :
    translateFromWith m f pre.length (pre ++ suf) =
      pre ++ suf.map fun x => asErrorOrUndefinedWith m (f (some (.error x))) := by
  induction suf generalizing pre with
  | nil => rw [translateFromWith]; simp
  | cons x suf ih =>
    rw [translateFromWith, dif_pos (by simp)]
    have := ih (pre ++ [asErrorOrUndefinedWith m (f (some (.error x)))])
    simp only [List.length_append, List.length_singleton, List.append_assoc,
      List.singleton_append] at this
    simpa [List.set_append, List.getElem_append_right] using this

theorem translateWith_errors (m : AsMethods) (g : ErrorGroup) (f : ErrorTranslate) :
    (translateWith m g f).errors =
      g.errors.map fun x => asErrorOrUndefinedWith m (f (some (.error x))) := by
  simpa using translateFromWith_append m f [] g.errors

/-- `Translate` keeps the length, and each new error depends on the old one at its index only:
the translation itself when it is an `Error`, the `Error` that `errors.As` finds in it
otherwise, foreign `As` methods included, and `ErrUndefined` wrapping it when none is found
(`ErrUndefined` itself for nil). Without `As` methods this is the model's `Translate`. -/
theorem translateWith_spec (m : AsMethods) (g : ErrorGroup) (f : ErrorTranslate) :
    (translateWith m g f).errors =
        g.errors.map (fun x => asErrorOrUndefinedWith m (f (some (.error x)))) ∧
      (translateWith m g f).errors.length = g.errors.length ∧
      (∀ e : Error, asErrorOrUndefinedWith m (some (.error e)) = e) ∧
      (∀ v x, asErrorWith m v = some x → asErrorOrUndefinedWith m v = x) ∧
      (∀ v, asErrorWith m v = none → asErrorOrUndefinedWith m v = errUndefined.wrap v) ∧
      asErrorOrUndefinedWith m none = errUndefined ∧
      translateWith noAsMethods g f = g.translate f := by
  have hmap := translateWith_errors m g f
  refine ⟨hmap, by simp [hmap], fun e => ?_, fun v x h => by simp [asErrorOrUndefinedWith, h],
    fun v h => by simp [asErrorOrUndefinedWith, h], rfl, ?_⟩
  · simp [asErrorOrUndefinedWith, asErrorWith, errorsAs, Error.walk_eq, errorTargetWith]
  · have h := translateWith_errors noAsMethods g f
    rw [asErrorOrUndefinedWith_noAsMethods, ← translate_errors] at h
    exact congrArg (fun errors => ({ g with errors } : ErrorGroup)) h

/-- An adapter in whose walk `errors.As` finds no `Error` by type, but whose `As` method stores
`Error{Wrapped: adapter}`: `Translate` stores that `Error`, not `ErrUndefined.Wrap(adapter)`. -/
theorem translateWith_adapter :
    asError (some adapter) = none ∧
      (translateWith (wrapSelf false) ⟨[errUndefined], .default⟩ fun _ => some adapter).errors =
        [{ wrapped := some adapter }] ∧
      ({ wrapped := some adapter } : Error) ≠ errUndefined.wrap (some adapter) :=
  ⟨rfl, by rw [translateWith_errors]; rfl,
    fun h => absurd (congrArg Error.code h) (by decide)⟩

end Stdlibx.ForeignAs
