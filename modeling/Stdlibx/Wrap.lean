import Stdlibx.Errors

/-!
# `Copy`, `Wrap` and `Wrapf`

`Copy` recurses into the `Error` that `errors.As` finds in the wrapped cause, which lies
strictly inside the cause (`asError_size_le`); everything else about the copy is the value it
was made from. `Wrap` adopts the identity of the wrapped `Error` only behind `IsZero`, which
never holds (`isZero_eq_false`), so every non-nil cause is wrapped as it is. The `Error` that
`errors.As` finds is one the cause holds: foreign errors have no `As` method here.
-/

namespace Stdlibx

open Errors

def Error.copy (e : Error) : Error :=
  match hw : e.wrapped with
  | none => e
  | some w =>
    match hx : asError (some w) with
    | some x => { e with wrapped := some (.error x.copy) }
    | none => e
termination_by e.size
decreasing_by
  have := asError_size_le hx
  simp only [Error.size_eq, hw, causeSize_some] at this ⊢
  omega

def Error.wrap (e : Error) : Option Err → Error
  | none => e
  | some err =>
    match e.isZero, asError (some err) with
    | true, some e2 => e2.copy
    | _, _ => { e with wrapped := some err }

end Stdlibx

namespace Stdlibx.Wrap

/-- `fmt.Errorf`, given the text it formats to and the operands of its `%w` verbs: an
`*errors.errorString` without `%w`, a `*fmt.wrapError` with one and a `*fmt.wrapErrors` with
more. -/
def fmtErrorf (text : String) : List Err → Err
  | [] => .foreign "*errors.errorString" text []
  | [w] => .foreign "*fmt.wrapError" text [w]
  | ws@(_ :: _ :: _) => .foreign "*fmt.wrapErrors" text ws

end Stdlibx.Wrap

namespace Stdlibx

def Error.wrapf (e : Error) (text : String) (wrapped : List Err) : Error :=
  e.wrap (some (Wrap.fmtErrorf text wrapped))

end Stdlibx

namespace Stdlibx.Wrap

open ErrorValue Errors

theorem Error.copy_eq (e : Error) :
    e.copy = match asError e.wrapped with
      | some x => { e with wrapped := some (.error x.copy) }
      | none => e := by
  rw [Error.copy]
  split <;> rename_i hw
  · simp [hw]
  · split <;> simp_all

theorem Error.copy_of_asError_none {e : Error} (h : asError e.wrapped = none) : e.copy = e := by
  rw [copy_eq, h]

/-- `Copy` is idempotent: the copy of a copy is the copy. A copy links each `Error` to the next
directly, so a second `Copy` finds the same links and nothing left to drop. -/
theorem Error.copy_copy (e : Error) : e.copy.copy = e.copy := by
  induction e using Error.copy.induct with
  | case1 e hw | case3 e _ hw _ =>
    have h : e.copy = e := copy_of_asError_none (by simp [hw, *])
    rw [h, h]
  | case2 e w hw x hx ih =>
    rw [copy_eq e, hw, hx]
    dsimp only
    rw [copy_eq, asError_error]
    dsimp only
    rw [ih]

@[simp] theorem Error.wrap_some (e : Error) (err : Err) :
    e.wrap (some err) = { e with wrapped := some err } := by
  simp [Error.wrap]

/-- The zero `Error` wrapping a cause that is itself an `Error` keeps its own empty identity:
it is not `Equal` to the wrapped `Error`. -/
theorem Error.wrap_zero_keeps_empty_identity :
    (({ wrapped := none } : Error).wrap (some (.error { code := "a", wrapped := none }))).equal
      { code := "a", wrapped := none } = false :=
  rfl

theorem Error.copy_drops_wrapper :
    let inner : Error := { code := "b", wrapped := none }
    let e : Error := { code := "a", wrapped := some (fmtErrorf "ctx: [:b] " [.error inner]) }
    e.copy = { e with wrapped := some (.error inner) } := by
  intro inner e
  have hi : inner.copy = inner := Error.copy_of_asError_none rfl
  rw [Error.copy_eq]
  simp only [asError, errorsAs]
  rw [show List.findSome? errorTarget (causeWalk e.wrapped) = some inner from rfl]
  simp only [hi]

end Stdlibx.Wrap
