import Stdlibx.ErrorValue

/-!
# `errors.As` and `errors.Is` over the package's error values

Both functions of Go's `errors` package run one loop over a value: test the target at it
(its type for `As`, its `Is` method for `Is`), run its `As`/`Is` method, then continue with
what its `Unwrap` returns (every cause in turn for `Unwrap() []error`). Among the package's
types only `errorChain` has an `As` and an `Is` method, and both hand the chain's head to a
nested `errors.As`/`errors.Is`. `walk` lists the values the loop meets, in that order, so each
function is a search along the walk.

`ErrOf.walk` inlines the first step of the chain that `ErrorGroup.Unwrap` returns, which keeps
the recursion structural. `ErrOf.next` says where the loop goes from one value; the walk is the
depth-first search along it (`walk_eq_next`), and facts about whole walks are proved by
`walk_induction` along it. Foreign errors have no `As` or `Is` method here.
-/

namespace Stdlibx

/-- `ErrorGroup.Unwrap` on a non-nil group: nothing, the single error itself, or an
`errorChain` over a copy of the errors. -/
def ErrorGroup.unwrap (g : ErrorGroup) : Option Err :=
  match g.errors with
  | [] => none
  | [x] => some (.error x)
  | _ :: _ :: _ => some (.chain g.errors)

/-- `errorChain.Unwrap`: the chain shifted by one, or nothing once at most one error is left. -/
def errorChainUnwrap : List Error → Option Err
  | [] | [_] => none
  | _ :: l@(_ :: _) => some (.chain l)

mutual
/-- The values the loop of `errors.As`/`errors.Is` meets from `err`, in order. -/
def ErrOf.walk : Err → List Err
  | .error e => e.walk
  | .group [] f => [.group [] f]
  | .group (x :: l) f => .group (x :: l) f :: match l with
    | [] => x.walk
    | _ :: _ => .chain (x :: l) :: x.walk ++ chainWalk l
  | .chain c => chainWalk c
  | .foreign t s cs => .foreign t s cs :: causesWalk cs
termination_by structural err => err

def Error.walk : Error → List Err
  | ⟨c, x, f, m, n, w⟩ => .error ⟨c, x, f, m, n, w⟩ :: causeWalk w
termination_by structural e => e

def causeWalk : Option Err → List Err
  | none => []
  | some w => w.walk
termination_by structural w => w

def chainWalk : List Error → List Err
  | [] => [.chain []]
  | x :: l => .chain (x :: l) :: x.walk ++ match l with
    | [] => []
    | _ :: _ => chainWalk l
termination_by structural l => l

def causesWalk : List Err → List Err
  | [] => []
  | x :: l => x.walk ++ causesWalk l
termination_by structural l => l
end

mutual
def ErrOf.size : Err → Nat
  | .error e => e.size
  | .group l _ => errorsSize l + 1
  | .chain l => errorsSize l + 1
  | .foreign _ _ cs => causesSize cs + 1
termination_by structural err => err

def Error.size : Error → Nat
  | ⟨_, _, _, _, _, w⟩ => causeSize w + 1
termination_by structural e => e

def causeSize : Option Err → Nat
  | none => 0
  | some w => w.size
termination_by structural w => w

def errorsSize : List Error → Nat
  | [] => 0
  | x :: l => x.size + 1 + errorsSize l
termination_by structural l => l

def causesSize : List Err → Nat
  | [] => 0
  | x :: l => x.size + causesSize l
termination_by structural l => l
end

/-- Where the loop of `errors.As`/`errors.Is` goes from `v`: what `Unwrap` returns, after the
head that an `errorChain` hands to its nested search, and every cause of a foreign error. -/
def ErrOf.next : Err → List Err
  | .error e => e.unwrap.toList
  | .group l f => (ErrorGroup.unwrap ⟨l, f⟩).toList
  | .chain [] => []
  | .chain (x :: l) => .error x :: (errorChainUnwrap (x :: l)).toList
  | .foreign _ _ cs => cs

def ErrOf.rank (v : Err) : Nat :=
  2 * v.size + match v with
    | .group _ _ => 1
    | _ => 0

inductive GoType
  | error
  | errorGroup
  | errorChain
  | foreign (name : String)
  deriving DecidableEq

def ErrOf.goType : Err → GoType
  | .error _ => .error
  | .group _ _ => .errorGroup
  | .chain _ => .errorChain
  | .foreign t _ _ => .foreign t

def GoType.target (T : GoType) (v : Err) : Option Err :=
  if v.goType = T then some v else none

end Stdlibx

namespace Stdlibx.Errors

theorem Error.walk_eq (e : Error) : e.walk = .error e :: causeWalk e.wrapped := by
  cases e; rfl

@[simp] theorem Error.size_eq (e : Error) : e.size = causeSize e.wrapped + 1 := by
  cases e; rfl

@[simp] theorem ErrOf.walk_error (e : Error) : (ErrOf.error e).walk = e.walk := rfl

@[simp] theorem ErrOf.size_error (e : Error) : (ErrOf.error e).size = e.size := rfl

@[simp] theorem causeWalk_some (w : Err) : causeWalk (some w) = w.walk := rfl

@[simp] theorem causeSize_some (w : Err) : causeSize (some w) = w.size := rfl

theorem chainWalk_cons_cons (x y : Error) (l : List Error) :
    chainWalk (x :: y :: l) = .chain (x :: y :: l) :: x.walk ++ chainWalk (y :: l) := rfl

theorem causesWalk_eq (cs : List Err) : causesWalk cs = (cs.map ErrOf.walk).flatten := by
  induction cs with
  | nil => rfl
  | cons c cs ih => simp [causesWalk, ih]

theorem ErrOf.walk_eq_next : ∀ v : Err, v.walk = v :: (v.next.map ErrOf.walk).flatten
  | .error e => by
    cases h : e.wrapped <;> simp [Error.walk_eq, ErrOf.next, Error.unwrap, causeWalk, h]
  | .group [] _ | .group [_] _ | .group (_ :: _ :: _) _ | .chain [] | .chain [_]
  | .chain (_ :: _ :: _) => by
    simp [ErrOf.walk, ErrOf.next, ErrorGroup.unwrap, errorChainUnwrap, chainWalk, Error.walk_eq]
  | .foreign _ _ cs => by simp [ErrOf.walk, ErrOf.next, causesWalk_eq]

theorem ErrOf.mem_walk {u v : Err} : u ∈ v.walk ↔ u = v ∨ ∃ w ∈ v.next, u ∈ w.walk := by
  rw [walk_eq_next]
  simp

theorem ErrOf.rank_bounds (v : Err) : 2 * v.size ≤ v.rank ∧ v.rank ≤ 2 * v.size + 1 := by
  unfold ErrOf.rank
  split <;> omega

theorem size_le_causesSize {u : Err} {cs : List Err} (h : u ∈ cs) : u.size ≤ causesSize cs := by
  induction cs with
  | nil => simp at h
  | cons c cs ih =>
    rcases List.mem_cons.1 h with rfl | h
    · simp only [causesSize]; omega
    · have := ih h; simp only [causesSize]; omega

theorem ErrOf.rank_lt_of_mem_next {u v : Err} (h : u ∈ v.next) : u.rank < v.rank := by
  have hu := ErrOf.rank_bounds u
  have hv := ErrOf.rank_bounds v
  suffices u.size < v.size ∨ u.size = v.size ∧ v.rank = 2 * v.size + 1 ∧ u.rank = 2 * u.size by
    omega
  match v, h with
  | .error ⟨_, _, _, _, _, some w⟩, h =>
    obtain rfl : u = w := by simpa [ErrOf.next, Error.unwrap] using h
    simp
  | .group [x] f, h =>
    obtain rfl : u = .error x := by simpa [ErrOf.next, ErrorGroup.unwrap] using h
    simp [ErrOf.size, errorsSize]
  | .group (x :: y :: l) f, h =>
    obtain rfl : u = .chain (x :: y :: l) := by simpa [ErrOf.next, ErrorGroup.unwrap] using h
    simp [ErrOf.size, ErrOf.rank]
  | .chain (x :: l), h =>
    simp only [ErrOf.next, List.mem_cons] at h
    rcases h with rfl | h
    · simp only [ErrOf.size, errorsSize, size_error, Error.size_eq]; omega
    · obtain _ | ⟨y, l⟩ := l
      · simp [errorChainUnwrap] at h
      · obtain rfl : u = .chain (y :: l) := by simpa [errorChainUnwrap] using h
        simp only [ErrOf.size, errorsSize]
        omega
  | .foreign _ _ cs, h =>
    have := size_le_causesSize (by simpa only [ErrOf.next] using h)
    simp only [ErrOf.size]
    omega

theorem ErrOf.walk_induction {P : Err → Prop} (step : ∀ v, (∀ u ∈ v.next, P u) → P v)
    (v : Err) : P v :=
  (measure ErrOf.rank).wf.induction v fun v ih => step v fun u hu => ih u (rank_lt_of_mem_next hu)

theorem ErrOf.mem_walk_self (v : Err) : v ∈ v.walk := mem_walk.2 (.inl rfl)

theorem wrapped_mem_walk {err : Error} {w : Err} (hw : err.wrapped = some w) :
    w ∈ (ErrOf.error err).walk := by
  simp [Error.walk_eq, hw, ErrOf.mem_walk_self w]

theorem ErrOf.walk_trans {u t : Err} (v : Err) (hu : u ∈ v.walk) (ht : t ∈ u.walk) :
    t ∈ v.walk := by
  induction v using walk_induction with
  | step v ih =>
    rcases mem_walk.1 hu with rfl | ⟨w, hw, hu⟩
    · exact ht
    · exact mem_walk.2 (.inr ⟨w, hw, ih w hw hu⟩)

theorem ErrOf.size_le_of_mem_walk {u : Err} (v : Err) (h : u ∈ v.walk) : u.size ≤ v.size := by
  induction v using walk_induction with
  | step v ih =>
    rcases mem_walk.1 h with rfl | ⟨w, hw, h⟩
    · exact le_rfl
    · have := ih w hw h
      have := rank_lt_of_mem_next hw
      have := ErrOf.rank_bounds w
      have := ErrOf.rank_bounds v
      omega

theorem causeWalk_size_le {v : Err} {w : Option Err} (h : v ∈ causeWalk w) :
    v.size ≤ causeSize w := by
  cases w with
  | none => simp [causeWalk] at h
  | some w => exact ErrOf.size_le_of_mem_walk w h

/-- `errors.As(err, target)` for the target that takes what `m` accepts: the value the target
is set to, or nothing when `errors.As` returns false. -/
def errorsAs (m : Err → Option β) (err : Option Err) : Option β :=
  (causeWalk err).findSome? m

def errorTarget : Err → Option Error
  | .error e => some e
  | _ => none

def errorGroupTarget : Err → Option ErrorGroup
  | .group l f => some ⟨l, f⟩
  | _ => none

def asError (err : Option Err) : Option Error := errorsAs errorTarget err

def asErrorGroup (err : Option Err) : Option ErrorGroup := errorsAs errorGroupTarget err

end Stdlibx.Errors

namespace Stdlibx

open Errors

def Error.is (e : Error) (target : Option Err) : Bool :=
  match asError target with
  | none => false
  | some err => e.equal err

end Stdlibx

namespace Stdlibx.Errors

def isMethod (t : Error) : Err → Bool
  | .error e => e.is (some (.error t))
  | _ => false

/-- `errors.Is(err, target)` for a target of type `Error`. `Error` holds slices, so it is not
comparable and `errors.Is` compares through `Is` methods only. -/
def errorsIs (err : Option Err) (target : Error) : Bool :=
  (causeWalk err).any (isMethod target)

@[simp] theorem asError_error (e : Error) : asError (some (.error e)) = some e := by
  simp [asError, errorsAs, errorTarget, Error.walk_eq]

@[simp] theorem asError_none : asError none = none := rfl

@[simp] theorem isMethod_error (t e : Error) : isMethod t (.error e) = e.equal t := by
  simp [isMethod, Error.is]

theorem asError_size_le {err : Option Err} {x : Error} (h : asError err = some x) :
    x.size ≤ causeSize err := by
  obtain ⟨v, hv, hm⟩ := List.exists_of_findSome?_eq_some h
  cases v <;> simp only [errorTarget, Option.some.injEq, reduceCtorEq] at hm
  subst hm
  exact causeWalk_size_le hv

theorem asErrorGroup_size_lt {err : Option Err} {g : ErrorGroup} (h : asErrorGroup err = some g) :
    errorsSize g.errors < causeSize err := by
  obtain ⟨v, hv, hm⟩ := List.exists_of_findSome?_eq_some h
  cases v <;> simp only [errorGroupTarget, Option.some.injEq, reduceCtorEq] at hm
  subst hm
  have := causeWalk_size_le hv
  simp only [ErrOf.size] at this
  exact this

theorem ErrOf.error_mem_walk_group {x : Error} {l : List Error} (hx : x ∈ l)
    (f : ErrorGroupFormatter) : ErrOf.error x ∈ (ErrOf.group l f).walk := by
  have hc : ∀ l : List Error, x ∈ l → ErrOf.error x ∈ chainWalk l := by
    intro l hx
    induction l with
    | nil => simp at hx
    | cons y l ih =>
      rcases List.mem_cons.1 hx with rfl | hx
      · simp [chainWalk, Error.walk_eq]
      · cases l with
        | nil => simp at hx
        | cons z l => rw [chainWalk_cons_cons]; simp [ih hx]
  obtain _ | ⟨y, _ | ⟨z, l⟩⟩ := l
  · simp at hx
  · obtain rfl := List.mem_singleton.1 hx; simp [ErrOf.walk, Error.walk_eq]
  · exact List.mem_cons_of_mem _ (hc _ hx)

theorem asError_mem_walk {v : Err} {x : Error} (h : asError (some v) = some x) :
    ErrOf.error x ∈ v.walk := by
  obtain ⟨u, hu, hm⟩ := List.exists_of_findSome?_eq_some h
  cases u <;> simp only [errorTarget, Option.some.injEq, reduceCtorEq] at hm
  subst hm
  exact hu

theorem asErrorGroup_mem_walk {v : Err} {eg : ErrorGroup} (h : asErrorGroup (some v) = some eg)
    {x : Error} (hx : x ∈ eg.errors) : ErrOf.error x ∈ v.walk := by
  obtain ⟨u, hu, hm⟩ := List.exists_of_findSome?_eq_some h
  cases u <;> simp only [errorGroupTarget, Option.some.injEq, reduceCtorEq] at hm
  subst hm
  exact ErrOf.walk_trans v hu (ErrOf.error_mem_walk_group hx _)

theorem errorsIs_error (x t : Error) :
    errorsIs (some (.error x)) t = (x.equal t || errorsIs x.wrapped t) := by
  simp [errorsIs, Error.walk_eq]

theorem errorsIs_of_mem_walk {u v : Err} {t : Error} (hu : u ∈ v.walk)
    (h : errorsIs (some u) t = true) : errorsIs (some v) t = true := by
  obtain ⟨y, hy, hm⟩ := List.any_eq_true.1 h
  exact List.any_eq_true.2 ⟨y, ErrOf.walk_trans v hu hy, hm⟩

theorem errorsAs_eq_none_of_mem_walk {m : Err → Option β} {u v : Err} (hu : u ∈ v.walk)
    (h : errorsAs m (some v) = none) : errorsAs m (some u) = none := by
  simp only [errorsAs, causeWalk_some, List.findSome?_eq_none_iff] at h ⊢
  exact fun w hw => h w (ErrOf.walk_trans v hu hw)

theorem findSome?_cons_or {f : α → Option β} (a : α) (l : List α) :
    (a :: l).findSome? f = (f a).or (l.findSome? f) := by
  cases h : f a <;> simp [List.findSome?_cons, h]

theorem chainWalk_findSome? {m : Err → Option β} (hc : ∀ l, m (.chain l) = none)
    (l : List Error) : (chainWalk l).findSome? m = l.findSome? fun x => x.walk.findSome? m := by
  induction l with
  | nil => simp [chainWalk, hc]
  | cons x l ih =>
    cases l with
    | nil => simp [chainWalk, findSome?_cons_or, hc, Option.or_none]
    | cons y l =>
      simp only [chainWalk_cons_cons, List.findSome?_append, findSome?_cons_or, hc, ih,
        Option.none_or]

theorem chainWalk_any (t : Error) (l : List Error) :
    (chainWalk l).any (isMethod t) = l.any fun x => x.walk.any (isMethod t) := by
  induction l with
  | nil => simp [chainWalk, isMethod]
  | cons x l ih =>
    cases l with
    | nil => simp [chainWalk, isMethod]
    | cons y l => simp [chainWalk_cons_cons, isMethod, ih, Bool.or_assoc]

theorem ErrOf.walk_group (l : List Error) (f : ErrorGroupFormatter) :
    (ErrOf.group l f).walk = .group l f :: match l with
      | [] => []
      | [x] => x.walk
      | _ :: _ :: _ => chainWalk l := by
  obtain _ | ⟨x, _ | ⟨y, l⟩⟩ := l <;> rfl

theorem errorsIs_group (l : List Error) (f : ErrorGroupFormatter) (t : Error) :
    errorsIs (some (.group l f)) t = l.any fun x => errorsIs (some (.error x)) t := by
  simp only [errorsIs, causeWalk_some, ErrOf.walk_group, List.any_cons, isMethod, Bool.false_or]
  obtain _ | ⟨x, _ | ⟨y, l⟩⟩ := l
  · rfl
  · simp
  · rw [chainWalk_any]; rfl

/-- `errors.Is` and `errors.As` on a group, through `ErrorGroup.Unwrap` and the `errorChain`
adapters, search each error's own walk in group order, for any number of errors. -/
theorem errorsIs_errorsAs_group (l : List Error) (f : ErrorGroupFormatter) (t : Error)
    (T : GoType) (hg : T ≠ .errorGroup) (hc : T ≠ .errorChain) :
    (errorsIs (some (.group l f)) t = true ↔ ∃ x ∈ l, errorsIs (some (.error x)) t = true) ∧
      errorsAs T.target (some (.group l f)) =
        l.findSome? fun x => errorsAs T.target (some (.error x)) := by
  have hgc : ∀ c, T.target (.chain c) = none := fun c => if_neg (Ne.symm hc)
  have hgg : T.target (.group l f) = none := if_neg (Ne.symm hg)
  simp only [errorsIs, errorsAs, causeWalk_some, ErrOf.walk_group, ErrOf.walk_error,
    List.any_cons, isMethod, Bool.false_or, List.findSome?_cons, hgg]
  obtain _ | ⟨x, _ | ⟨y, l⟩⟩ := l
  · simp
  · simp [findSome?_cons_or, Option.or_none]
  · rw [chainWalk_any, chainWalk_findSome? hgc]
    simp

theorem errorsIs_errorsAs_group_error :
    let l : List Error := [errUndefined, { code := "b", wrapped := none }]
    GoType.error ≠ .errorGroup ∧ GoType.error ≠ .errorChain ∧
      ((errorsIs (some (.group l .default)) errUndefined = true ↔
          ∃ x ∈ l, errorsIs (some (.error x)) errUndefined = true) ∧
        errorsAs GoType.error.target (some (.group l .default)) =
          l.findSome? fun x => errorsAs GoType.error.target (some (.error x))) :=
  ⟨by decide, by decide, errorsIs_errorsAs_group _ .default errUndefined .error (by decide)
    (by decide)⟩

/-- With the target type `errorChain`, `errors.As` on a group of two errors stops at the chain
that `ErrorGroup.Unwrap` returns, though neither error holds a chain. -/
theorem errorsAs_errorChain_group :
    errorsAs GoType.errorChain.target
        (some (.group [{ code := "a", wrapped := none }, { code := "b", wrapped := none }]
          .default)) =
      some (.chain [{ code := "a", wrapped := none }, { code := "b", wrapped := none }]) ∧
    errorsAs GoType.errorChain.target (some (.error { code := "a", wrapped := none })) = none ∧
    errorsAs GoType.errorChain.target (some (.error { code := "b", wrapped := none })) = none :=
  ⟨rfl, rfl, rfl⟩

end Stdlibx.Errors
