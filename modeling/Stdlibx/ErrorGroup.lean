import Stdlibx.Wrap
import Stdlibx.Slices

/-!
# `ErrorGroup`: `Append`, `ErrorJoin` and `Translate`

`Append` recurses into the errors of the group that `errors.As` finds in an argument. That
group lies inside the argument, so the arguments of the nested call are smaller in all
(`errsSize`); the loop over the arguments only shortens them. A `*ErrorGroup` is taken by the
value it points at, so a group is appended to the errors it held when it was handed over: a
group handed to its own `Append`, and a nil `*ErrorGroup` argument (a panic in Go), are not
modelled, and `ErrorJoin` returns the appended group without changing the value of `err` that
holds it. Foreign errors have no `As` method here (`Stdlibx.ForeignAs` adds one).

Two `Append` calls are one over both argument lists (`appendErrs_append`). Each error `Append`
adds is `errors.As`, or `ErrUndefined`, of a value in an argument's walk where `errors.As` finds
no group (`appendErrs_mem`): the groups it meets are flattened at every depth.
-/

namespace Stdlibx.ErrorGroup

open ErrorValue Errors Wrap Slices

/-- `var e Error; if !errors.As(err, &e) { e = ErrUndefined.Wrap(err) }`, shared by `Append`
and `Translate`. -/
def asErrorOrUndefined (err : Option Err) : Error := (asError err).getD (errUndefined.wrap err)

/-- `SliceTypeAssert[Error, error]`: every `Error` is a non-nil `error`. -/
def errorsOf (l : List Error) : List (Option Err) :=
  sliceTypeAssert (fun x => some (some (.error x))) l

def errsSize : List (Option Err) → Nat
  | [] => 0
  | err :: errs => causeSize err + 1 + errsSize errs

theorem errsSize_errorsOf (l : List Error) : errsSize (errorsOf l) = errorsSize l := by
  induction l with
  | nil => rfl
  | cons x l ih =>
    simp only [errorsOf, sliceTypeAssert, List.filterMap_cons] at ih ⊢
    simp [ih, errorsSize, errsSize]

mutual
/-- `Append`'s loop over `errs`, from the errors `acc` the group holds so far. -/
def appendErrs (acc : List Error) : List (Option Err) → List Error
  | [] => acc
  | none :: errs => appendErrs acc errs
  | some err :: errs => appendErrs (appendOne acc err) errs
termination_by errs => errsSize errs
decreasing_by all_goals simp only [errsSize, causeSize_some]; omega

def appendOne (acc : List Error) (err : Err) : List Error :=
  match h : asErrorGroup (some err) with
  | some eg => appendErrs acc (errorsOf eg.errors)
  | none =>
    let e := asErrorOrUndefined (some err)
    if e.isZero then acc else acc ++ [e]
termination_by err.size
decreasing_by rw [errsSize_errorsOf]; simpa using asErrorGroup_size_lt h
end

def append (g : ErrorGroup) (errs : List (Option Err)) : ErrorGroup :=
  { g with errors := appendErrs g.errors errs }

def newErrorGroup (errs : List (Option Err)) : ErrorGroup :=
  ({ errors := [], formatter := .default } : ErrorGroup).append errs

def errorJoin (err : Option Err) (errs : List (Option Err)) : ErrorGroup :=
  match asErrorGroup err with
  | some eg => eg.append errs
  | none => (newErrorGroup []).append (sliceFlatten [[err], errs])

def slice (g : ErrorGroup) : List Error := g.errors

def errorOrNil : Option ErrorGroup → Option Err
  | none => none
  | some g => if g.errors.length = 0 then none else some g.toErr

def groupOrNil : Option ErrorGroup → Option ErrorGroup
  | none => none
  | some g => if g.errors.length = 0 then none else some g

def empty : Option ErrorGroup → Bool
  | none => true
  | some g => g.errors.length == 0

def len (g : ErrorGroup) : Nat := g.errors.length

/-- `Swap`; an index out of range panics. -/
def swap (g : ErrorGroup) (i j : Nat) : Option ErrorGroup :=
  if h : i < g.errors.length ∧ j < g.errors.length then
    some { g with errors := (g.errors.set i g.errors[j]).set j g.errors[i] }
  else none

abbrev ErrorTranslate := Option Err → Option Err

def translateFrom (translate : ErrorTranslate) (i : Nat) (errors : List Error) : List Error :=
  if h : i < errors.length then
    translateFrom translate (i + 1)
      (errors.set i (asErrorOrUndefined (translate (some (.error errors[i])))))
  else errors
termination_by errors.length - i
decreasing_by simp only [List.length_set]; omega

def translate (g : ErrorGroup) (translate : ErrorTranslate) : ErrorGroup :=
  { g with errors := translateFrom translate 0 g.errors }

def newTranslatedErrorGroup (translate : ErrorTranslate) (errs : List (Option Err)) :
    ErrorGroup :=
  (newErrorGroup errs).translate translate

@[simp] theorem appendErrs_nil (acc : List Error) : appendErrs acc [] = acc := by
  rw [appendErrs]

@[simp] theorem appendErrs_none (acc : List Error) (errs : List (Option Err)) :
    appendErrs acc (none :: errs) = appendErrs acc errs := by
  rw [appendErrs]

@[simp] theorem appendErrs_some (acc : List Error) (err : Err) (errs : List (Option Err)) :
    appendErrs acc (some err :: errs) = appendErrs (appendOne acc err) errs := by
  rw [appendErrs]

theorem appendOne_eq (acc : List Error) (err : Err) :
    appendOne acc err = match asErrorGroup (some err) with
      | some eg => appendErrs acc (errorsOf eg.errors)
      | none => acc ++ [asErrorOrUndefined (some err)] := by
  rw [appendOne]
  split <;> simp_all

theorem appendErrs_acc :
    (∀ acc errs, appendErrs acc errs = acc ++ appendErrs [] errs) ∧
      ∀ acc err, appendOne acc err = acc ++ appendOne [] err := by
  refine appendErrs.mutual_induct
    (fun _ errs => ∀ acc, appendErrs acc errs = acc ++ appendErrs [] errs)
    (fun _ err => ∀ acc, appendOne acc err = acc ++ appendOne [] err)
    ?_ ?_ ?_ ?_ ?_ ?_ |>.imp (fun h acc errs => h acc errs acc) (fun h acc err => h acc err acc)
  · simp
  · intro _ _ ih acc; simpa using ih acc
  · intro _ err errs hone hrest acc
    rw [appendErrs_some, appendErrs_some, hone acc, hrest (acc ++ appendOne [] err),
      hrest (appendOne [] err), List.append_assoc]
  · intro _ err eg h ih acc
    rw [appendOne_eq, appendOne_eq, h]
    exact ih acc
  · intro _ _ _ _ hz; simp at hz
  · intro _ err h _ _ acc
    simp [appendOne_eq, h]

theorem appendErrs_append (acc : List Error) (errs errs' : List (Option Err)) :
    appendErrs acc (errs ++ errs') = appendErrs (appendErrs acc errs) errs' := by
  induction errs generalizing acc with
  | nil => simp
  | cons err errs ih => cases err <;> simp [ih]

theorem append_append (g : ErrorGroup) (errs errs' : List (Option Err)) :
    (g.append errs).append errs' = g.append (errs ++ errs') := by
  simp [ErrorGroup.append, appendErrs_append]

theorem asErrorGroup_toErr (g : ErrorGroup) : asErrorGroup (some g.toErr) = some g := by
  obtain ⟨_ | ⟨x, _ | ⟨y, l⟩⟩, f⟩ := g <;> rfl

@[simp] theorem asErrorGroup_group (l : List Error) (f : ErrorGroupFormatter) :
    asErrorGroup (some (.group l f)) = some ⟨l, f⟩ :=
  asErrorGroup_toErr ⟨l, f⟩

theorem errorJoin_of_group {err : Option Err} {eg : ErrorGroup} (h : asErrorGroup err = some eg)
    (errs : List (Option Err)) : errorJoin err errs = eg.append errs := by
  rw [errorJoin, h]

theorem errorJoin_of_not_group {err : Option Err} (h : asErrorGroup err = none)
    (errs : List (Option Err)) : errorJoin err errs = newErrorGroup (err :: errs) := by
  simp [errorJoin, h, newErrorGroup, ErrorGroup.append, sliceFlatten]

/-- Two calls are one: `Append` of `errs` then of `errs'` is `Append` of `errs ++ errs'`, and
`ErrorJoin` onto the group `ErrorJoin` returned is one `ErrorJoin` with all the arguments. -/
theorem append_errorJoin_compose (g : ErrorGroup) (err : Option Err)
    (errs errs' : List (Option Err)) :
    (g.append errs).append errs' = g.append (errs ++ errs') ∧
      errorJoin (some (errorJoin err errs).toErr) errs' = errorJoin err (errs ++ errs') := by
  refine ⟨g.append_append errs errs', ?_⟩
  rw [errorJoin_of_group (asErrorGroup_toErr _)]
  cases h : asErrorGroup err with
  | some eg => rw [errorJoin_of_group h, errorJoin_of_group h, eg.append_append]
  | none =>
    rw [errorJoin_of_not_group h, errorJoin_of_not_group h, newErrorGroup, newErrorGroup,
      ErrorGroup.append_append, List.cons_append]

theorem asErrorOrUndefined_not_group {v : Err} (h : asErrorGroup (some v) = none) :
    asErrorGroup (some (.error (asErrorOrUndefined (some v)))) = none := by
  unfold asErrorOrUndefined
  cases hx : asError (some v) with
  | some x => exact errorsAs_eq_none_of_mem_walk (asError_mem_walk hx) h
  | none => simpa [asErrorGroup, errorsAs, Error.walk_eq, errorGroupTarget] using h

def AddedFrom (v : Err) (x : Error) : Prop :=
  ∃ u ∈ v.walk, asErrorGroup (some u) = none ∧ x = asErrorOrUndefined (some u)

theorem appendErrs_mem {x : Error} :
    (∀ acc errs, x ∈ appendErrs acc errs → x ∈ acc ∨ ∃ v, some v ∈ errs ∧ AddedFrom v x) ∧
      ∀ acc err, x ∈ appendOne acc err → x ∈ acc ∨ AddedFrom err x := by
  refine appendErrs.mutual_induct
    (fun acc errs => x ∈ appendErrs acc errs → x ∈ acc ∨ ∃ v, some v ∈ errs ∧ AddedFrom v x)
    (fun acc err => x ∈ appendOne acc err → x ∈ acc ∨ AddedFrom err x) ?_ ?_ ?_ ?_ ?_ ?_
  · simp +contextual
  · intro acc errs ih h
    simpa using ih (by simpa using h)
  · intro acc err errs hone hrest h
    rcases hrest (by simpa using h) with h | ⟨v, hv, hs⟩
    · exact (hone h).imp_right fun hs => ⟨err, by simp, hs⟩
    · exact .inr ⟨v, by simp [hv], hs⟩
  · intro acc err eg heg ih h
    rw [appendOne_eq, heg] at h
    refine (ih h).imp_right fun ⟨v, hv, u, hu, hs⟩ => ?_
    obtain ⟨y, hy, rfl⟩ : ∃ y ∈ eg.errors, ErrOf.error y = v := by
      simpa [errorsOf, sliceTypeAssert] using hv
    exact ⟨u, ErrOf.walk_trans _ (asErrorGroup_mem_walk heg hy) hu, hs⟩
  · intro _ _ _ _ hz; simp at hz
  · intro acc err heg _ _ h
    rw [appendOne_eq, heg, List.mem_append, List.mem_singleton] at h
    exact h.imp_right fun h => ⟨err, ErrOf.mem_walk_self err, heg, h⟩

theorem appendErrs_flat {acc : List Error} {errs : List (Option Err)} {x : Error}
    (h : x ∈ appendErrs acc errs) : x ∈ acc ∨ asErrorGroup (some (.error x)) = none :=
  (appendErrs_mem.1 acc errs h).imp_right fun ⟨_, _, _, _, hu, hx⟩ =>
    hx ▸ asErrorOrUndefined_not_group hu

/-- What `Append` makes of one argument in which nothing hides a group: nothing for nil, the
errors of a group, an `Error` as it is, and `ErrUndefined` wrapping any other error. -/
def appendSpec : Option Err → List Error
  | none => []
  | some (.group l _) => l
  | some (.error e) => [e]
  | some err => [errUndefined.wrap (some err)]

/-- The arguments of which `Append` makes `appendSpec`: no `Error` among them hides a group in
its cause chain, and no other error hides an `Error` or a group. -/
def Shallow : Option Err → Prop
  | none => True
  | some (.group l _) => ∀ x ∈ l, asErrorGroup (some (.error x)) = none
  | some (.error e) => asErrorGroup (some (.error e)) = none
  | some err => asError (some err) = none ∧ asErrorGroup (some err) = none

theorem appendErrs_errorsOf (acc l : List Error)
    (h : ∀ x ∈ l, asErrorGroup (some (.error x)) = none) :
    appendErrs acc (errorsOf l) = acc ++ l := by
  induction l generalizing acc with
  | nil => simp [errorsOf, sliceTypeAssert]
  | cons x l ih =>
    have hl : errorsOf (x :: l) = some (.error x) :: errorsOf l := rfl
    rw [hl, appendErrs_some, appendOne_eq, h x (List.mem_cons_self _ _),
      ih _ fun y hy => h y (List.mem_cons_of_mem _ hy)]
    simp [asErrorOrUndefined]

theorem appendOne_shallow (acc : List Error) (err : Err) (h : Shallow (some err)) :
    appendOne acc err = acc ++ appendSpec (some err) := by
  rw [appendOne_eq]
  cases err with
  | group l f => rw [asErrorGroup_group]; exact appendErrs_errorsOf acc l h
  | error _ | chain _ | foreign _ _ _ =>
    simp [Shallow.eq_def] at h; simp [h, asErrorOrUndefined, appendSpec]

theorem appendErrs_shallow (acc : List Error) (errs : List (Option Err))
    (h : ∀ err ∈ errs, Shallow err) :
    appendErrs acc errs = acc ++ (errs.map appendSpec).flatten := by
  induction errs generalizing acc with
  | nil => simp
  | cons err errs ih =>
    have hs := fun e he => h e (List.mem_cons_of_mem _ he)
    cases err with
    | none => simp [ih _ hs, appendSpec]
    | some err =>
      rw [appendErrs_some, appendOne_shallow _ _ (h _ (List.mem_cons_self _ _)), ih _ hs]
      simp

private theorem translateFrom_append (f : ErrorTranslate) (pre suf : List Error) :
    translateFrom f pre.length (pre ++ suf) =
      pre ++ suf.map fun x => asErrorOrUndefined (f (some (.error x))) := by
  induction suf generalizing pre with
  | nil => rw [translateFrom]; simp
  | cons x suf ih =>
    rw [translateFrom, dif_pos (by simp)]
    have := ih (pre ++ [asErrorOrUndefined (f (some (.error x)))])
    simp only [List.length_append, List.length_singleton, List.append_assoc,
      List.singleton_append] at this
    simpa [List.set_append, List.getElem_append_right] using this

theorem translate_errors (g : ErrorGroup) (f : ErrorTranslate) :
    (g.translate f).errors = g.errors.map fun x => asErrorOrUndefined (f (some (.error x))) := by
  simpa using translateFrom_append f [] g.errors

theorem swap_some {g g' : ErrorGroup} {i j : Nat} (hs : g.swap i j = some g') :
    ∃ h : i < g.errors.length ∧ j < g.errors.length,
      g' = { g with errors := (g.errors.set i g.errors[j]).set j g.errors[i] } := by
  unfold swap at hs
  split at hs
  · exact ⟨‹_›, (Option.some.inj hs).symm⟩
  · contradiction

theorem swap_perm {g g' : ErrorGroup} {i j : Nat} (hs : g.swap i j = some g') :
    g'.errors.Perm g.errors := by
  obtain ⟨h, rfl⟩ := swap_some hs
  classical
  rw [List.perm_iff_count]
  intro b
  have hl : j < (g.errors.set i g.errors[j]).length := by simpa using h.2
  have hj : (g.errors.set i g.errors[j])[j] = g.errors[j] := by
    rw [List.getElem_set]; split <;> simp_all
  rw [List.count_set _ _ _ _ hl, hj, List.count_set _ _ _ _ h.1]
  have := List.boole_getElem_le_countP (· == b) g.errors i h.1
  simp only [List.count_eq_countP] at *
  split_ifs at * <;> omega

theorem swap_swap {g g' : ErrorGroup} {i j : Nat} (hs : g.swap i j = some g') :
    g'.swap i j = some g := by
  obtain ⟨h, rfl⟩ := swap_some hs
  unfold swap
  rw [dif_pos (by simpa using h)]
  congr 1
  obtain ⟨l, f⟩ := g
  simp only [mk.injEq, and_true]
  apply List.ext_getElem (by simp)
  intro k _ hk
  simp only [List.getElem_set]
  by_cases hkj : j = k <;> by_cases hki : i = k <;> simp_all

/-- `Swap` only moves errors, as `sort.Interface` needs: the errors after it are a permutation
of those before, the formatter is kept, and swapping again restores the group. -/
theorem swap_spec {g g' : ErrorGroup} {i j : Nat} (hs : g.swap i j = some g') :
    g'.errors.Perm g.errors ∧ g'.formatter = g.formatter ∧ g'.swap i j = some g := by
  refine ⟨swap_perm hs, ?_, swap_swap hs⟩
  obtain ⟨h, rfl⟩ := swap_some hs
  rfl

theorem swap_spec_two :
    let a : Error := { code := "a", wrapped := none }
    let b : Error := { code := "b", wrapped := none }
    (ErrorGroup.mk [a, b] .default).swap 0 1 = some ⟨[b, a], .default⟩ ∧
      ((ErrorGroup.mk [b, a] .default).errors.Perm [a, b] ∧ ErrorGroupFormatter.default = .default ∧
        (ErrorGroup.mk [b, a] .default).swap 0 1 = some ⟨[a, b], .default⟩) := by
  intro a b
  exact ⟨rfl, @ErrorGroup.swap_spec ⟨[a, b], .default⟩ _ 0 1 rfl⟩

/-- An `Error` wrapping a group, handed to `NewErrorGroup`, is replaced by the group's
errors: `errors.As` finds the group in its cause. -/
theorem newErrorGroup_drops_wrapping_error :
    let a : Error := { code := "a", wrapped := none }
    (newErrorGroup [some (.error { code := "x", wrapped := some (.group [a] .default) })]).errors =
      [a] := by
  intro a
  simp only [newErrorGroup, ErrorGroup.append, appendErrs_some, appendErrs_nil, appendOne_eq]
  rw [show asErrorGroup (some (.error { code := "x", wrapped := some (.group [a] .default) })) =
    some ⟨[a], .default⟩ from rfl]
  simp only [errorsOf, sliceTypeAssert, List.filterMap_cons, List.filterMap_nil, appendErrs_some,
    appendErrs_nil, appendOne_eq]
  rw [show asErrorGroup (some (.error a)) = none from rfl]
  simp [asErrorOrUndefined]

/-- The zero `Error` handed to `NewErrorGroup` is kept. -/
theorem newErrorGroup_keeps_zero :
    (newErrorGroup [some (.error { wrapped := none })]).errors = [{ wrapped := none }] := by
  simp only [newErrorGroup, ErrorGroup.append, appendErrs_some, appendErrs_nil, appendOne_eq]
  rw [show asErrorGroup (some (.error { wrapped := none })) = none from rfl]
  simp [asErrorOrUndefined]

end Stdlibx.ErrorGroup
