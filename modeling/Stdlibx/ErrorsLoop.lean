import Stdlibx.Errors

/-!
# The loops of `errors.As` and `errors.Is`

`asLoop` and `isLoop` are the loops of Go's `errors` package as they run over the package's
types: test the target at the value, run its `As` or `Is` method, then follow what
`Unwrap() error` returns until it is nil, or search each cause of `Unwrap() []error` in turn.
The methods are `Error.Is`, and `errorChain`'s `As` and `Is`, which run a nested
`errors.As`/`errors.Is` on the chain's head. Every call moves along `ErrOf.next`, so the loops
end by `ErrOf.rank`.

The search along the walk that the rest of the development calls `errors.As` and `errors.Is`
is the same function as these loops (`asLoop_eq_walk`, `isLoop_eq_walk`,
`errorsAs_errorsIs_loop`).
-/

namespace Stdlibx.ErrorsLoop

open Errors

/-- The loop of `errors.As` from a non-nil `err`, for the target that takes what `m` accepts. -/
def asLoop (m : Err → Option β) (err : Err) : Option β :=
  (m err).or <| match err with
    | .error e => match hw : e.unwrap with
      | none => none
      | some w => asLoop m w
    | .group l f => match hu : ErrorGroup.unwrap ⟨l, f⟩ with
      | none => none
      | some u => asLoop m u
    | .chain [] => none
    | .chain (x :: l) => (asLoop m (.error x)).or <| match hu : errorChainUnwrap (x :: l) with
      | none => none
      | some u => asLoop m u
    | .foreign _ _ cs => cs.attach.findSome? fun c => asLoop m c.1
termination_by err.rank
decreasing_by
  all_goals
    simp_wf
    apply ErrOf.rank_lt_of_mem_next
    first
    | exact Subtype.property _
    | simp [ErrOf.next, *]

/-- The loop of `errors.Is` from a non-nil `err`, for a target `t` of type `Error`, which is not
comparable, so that only `Is` methods are run. -/
def isLoop (t : Error) (err : Err) : Bool :=
  match err with
  | .error e => e.is (some (.error t)) || match hw : e.unwrap with
    | none => false
    | some w => isLoop t w
  | .group l f => match hu : ErrorGroup.unwrap ⟨l, f⟩ with
    | none => false
    | some u => isLoop t u
  | .chain [] => false
  | .chain (x :: l) => isLoop t (.error x) || match hu : errorChainUnwrap (x :: l) with
    | none => false
    | some u => isLoop t u
  | .foreign _ _ cs => cs.attach.any fun c => isLoop t c.1
termination_by err.rank
decreasing_by
  all_goals
    simp_wf
    apply ErrOf.rank_lt_of_mem_next
    first
    | exact Subtype.property _
    | simp [ErrOf.next, *]

private theorem findSome?_congr_mem {f g : α → Option β} {l : List α}
    (h : ∀ x ∈ l, f x = g x) : l.findSome? f = l.findSome? g := by
  induction l with
  | nil => rfl
  | cons x l ih =>
    rw [findSome?_cons_or, findSome?_cons_or, h x (List.mem_cons_self _ _),
      ih fun y hy => h y (List.mem_cons_of_mem _ hy)]

private theorem findSome?_flatten_map (f : α → List γ) (m : γ → Option β) (l : List α) :
    (l.map f).flatten.findSome? m = l.findSome? fun x => (f x).findSome? m := by
  induction l with
  | nil => rfl
  | cons x l ih =>
    rw [List.map_cons, List.flatten_cons, List.findSome?_append, ih, findSome?_cons_or]

private theorem any_map_eq (f : α → γ) (p : γ → Bool) (l : List α) :
    (l.map f).any p = l.any fun x => p (f x) := by
  induction l with
  | nil => rfl
  | cons x l ih => rw [List.map_cons, List.any_cons, ih, List.any_cons]

private theorem any_flatten_map (f : α → List γ) (p : γ → Bool) (l : List α) :
    (l.map f).flatten.any p = l.any fun x => (f x).any p := by
  induction l with
  | nil => rfl
  | cons x l ih => rw [List.map_cons, List.flatten_cons, List.any_append, ih, List.any_cons]

private theorem any_congr_mem {f g : α → Bool} {l : List α} (h : ∀ x ∈ l, f x = g x) :
    l.any f = l.any g := by
  induction l with
  | nil => rfl
  | cons x l ih =>
    rw [List.any_cons, List.any_cons, h x (List.mem_cons_self _ _),
      ih fun y hy => h y (List.mem_cons_of_mem _ hy)]

theorem asLoop_eq (m : Err → Option β) (v : Err) :
    asLoop m v = (m v).or (v.next.findSome? (asLoop m)) := by
  rw [asLoop.eq_def]
  congr 1
  match v with
  | .error _ | .group _ _ => dsimp only; split <;> simp_all [ErrOf.next, findSome?_cons_or]
  | .chain [] => rfl
  | .chain (x :: l) => dsimp only; split <;> simp_all [ErrOf.next, findSome?_cons_or]
  | .foreign _ _ cs =>
    conv_rhs => rw [ErrOf.next, ← List.attach_map_subtype_val cs, List.findSome?_map]
    rfl

theorem isLoop_eq (t : Error) (v : Err) :
    isLoop t v = (isMethod t v || v.next.any (isLoop t)) := by
  rw [isLoop.eq_def]
  match v with
  | .error _ | .group _ _ | .chain (_ :: _) =>
    dsimp only; split <;> simp_all [ErrOf.next, isMethod]
  | .chain [] => rfl
  | .foreign _ _ cs =>
    simp only [ErrOf.next, isMethod, Bool.false_or]
    conv_rhs => rw [← List.attach_map_subtype_val cs, any_map_eq]

theorem asLoop_eq_walk (m : Err → Option β) (v : Err) : asLoop m v = v.walk.findSome? m := by
  induction v using ErrOf.walk_induction with
  | step v ih =>
    rw [asLoop_eq, ErrOf.walk_eq_next, findSome?_cons_or, findSome?_flatten_map,
      findSome?_congr_mem ih]

theorem isLoop_eq_walk (t : Error) (v : Err) : isLoop t v = v.walk.any (isMethod t) := by
  induction v using ErrOf.walk_induction with
  | step v ih =>
    rw [isLoop_eq, ErrOf.walk_eq_next, List.any_cons, any_flatten_map, any_congr_mem ih]

/-- `errors.As` and `errors.Is` as the development states them, searches along the walk, are
the loops Go runs: nothing for a nil error, and the loop from any other. -/
theorem errorsAs_errorsIs_loop (m : Err → Option β) (t : Error) (err : Option Err) :
    errorsAs m err = err.bind (asLoop m) ∧ errorsIs err t = err.elim false (isLoop t) := by
  cases err with
  | none => exact ⟨rfl, rfl⟩
  | some v => exact ⟨(asLoop_eq_walk m v).symm, (isLoop_eq_walk t v).symm⟩

end Stdlibx.ErrorsLoop
