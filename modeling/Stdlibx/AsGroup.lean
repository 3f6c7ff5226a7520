import Stdlibx.ErrorGroup

/-!
# `AsGroup`

The loop of `AsGroup` appends the current link's cause to the group and moves to the `Error`
that `errors.As` finds in that cause. Foreign errors have no `As` method here, so that `Error`
lies inside the cause and the loop ends (`asGroupLoop` recurses on `Error.size`); with one it
need not end (`Stdlibx.ForeignAs`). On a cause chain made of `Error` links only the group
lists the links from the root; an `Error` whose cause holds a group is itself replaced by the
group's errors, since `Append` flattens it. The loop's passes, one `Append` each, are one
`Append` of every cause the loop visits (`asGroupLoop_eq_append`).
-/

namespace Stdlibx.AsGroup

open Errors ErrorGroup

/-- `AsGroup`'s loop from the link `err`, with the group `g` built so far. -/
def asGroupLoop (g : ErrorGroup) (err : Error) : ErrorGroup :=
  match hw : err.wrapped with
  | none => g
  | some w =>
    let g := g.append [some w]
    match hwe : asError (some w) with
    | none => g
    | some we => asGroupLoop g we
termination_by err.size
decreasing_by
  have := asError_size_le hwe
  simp only [Error.size_eq, hw, causeSize_some] at this ⊢
  omega

end Stdlibx.AsGroup

namespace Stdlibx

open Errors ErrorGroup AsGroup

def Error.asGroup (e : Error) : ErrorGroup := asGroupLoop (newErrorGroup [some (.error e)]) e

/-- The causes `AsGroup`'s loop appends from the link `err`: its cause, then those from the
`Error` that `errors.As` finds in that cause. -/
def Error.asGroupCauses (err : Error) : List Err :=
  match hw : err.wrapped with
  | none => []
  | some w => w :: match hwe : asError (some w) with
    | none => []
    | some we => we.asGroupCauses
termination_by err.size
decreasing_by
  have := asError_size_le hwe
  simp only [Error.size_eq, hw, causeSize_some] at this ⊢
  omega

end Stdlibx

namespace Stdlibx.AsGroup

open ErrorValue Errors Wrap Slices ErrorGroup

theorem asGroupLoop_eq (g : ErrorGroup) (err : Error) :
    asGroupLoop g err = match err.wrapped with
      | none => g
      | some w => match asError (some w) with
        | none => g.append [some w]
        | some we => asGroupLoop (g.append [some w]) we := by
  rw [asGroupLoop]
  split <;> rename_i hw
  · simp [hw]
  · simp only [hw]; split <;> simp_all

theorem Error.asGroupCauses_eq (err : Error) :
    err.asGroupCauses = match err.wrapped with
      | none => []
      | some w => w :: match asError (some w) with
        | none => []
        | some we => we.asGroupCauses := by
  rw [Error.asGroupCauses]
  split <;> rename_i hw
  · simp [hw]
  · simp only [hw]; split <;> simp_all

theorem Error.asGroupCauses_mem_walk {v : Err} (err : Error) (h : v ∈ err.asGroupCauses) :
    v ∈ (ErrOf.error err).walk := by
  induction err using Error.asGroupCauses.induct with
  | case1 err hw => simp [Error.asGroupCauses_eq err, hw] at h
  | case2 err w hw ih =>
    rw [Error.asGroupCauses_eq err, hw, List.mem_cons] at h
    rcases h with rfl | h
    · exact wrapped_mem_walk hw
    cases hwe : asError (some w) with
    | none => simp [hwe] at h
    | some we =>
      simp only [hwe] at h
      exact ErrOf.walk_trans _ (wrapped_mem_walk hw)
        (ErrOf.walk_trans _ (asError_mem_walk hwe) (ih we hwe h))

theorem asGroupLoop_eq_append (g : ErrorGroup) (err : Error) :
    asGroupLoop g err = g.append (err.asGroupCauses.map some) := by
  induction g, err using asGroupLoop.induct with
  | case1 g err hw => simp [asGroupLoop_eq, Error.asGroupCauses_eq err, hw, ErrorGroup.append]
  | case2 g err w hw hwe => simp [asGroupLoop_eq, Error.asGroupCauses_eq err, hw, hwe]
  | case3 g err w hw g' we hwe ih =>
    rw [asGroupLoop_eq, Error.asGroupCauses_eq err]
    simp only [hw, hwe]
    rw [ih, ErrorGroup.append_append]
    rfl

/-- No error that `Append` adds, and no error of an `AsGroup`, leads `errors.As` to a group:
`Append` flattens the groups it meets at every depth. -/
theorem append_asGroup_flat :
    (∀ (g : ErrorGroup) errs, ∀ x ∈ (g.append errs).errors,
      x ∈ g.errors ∨ asErrorGroup (some (.error x)) = none) ∧
    ∀ e : Error, ∀ x ∈ e.asGroup.errors, asErrorGroup (some (.error x)) = none := by
  refine ⟨fun g errs x => appendErrs_flat, fun e x hx => ?_⟩
  rw [Error.asGroup, asGroupLoop_eq_append, newErrorGroup, ErrorGroup.append_append] at hx
  simpa using appendErrs_flat hx

theorem asGroup_append_decrease :
    (∀ (err : Error) (w : Err) (we : Error), err.wrapped = some w → asError (some w) = some we →
      we.size ≤ w.size ∧ w.size < err.size) ∧
    ∀ (err : Err) (eg : ErrorGroup), asErrorGroup (some err) = some eg →
      errsSize (errorsOf eg.errors) < err.size := by
  refine ⟨fun err w we hw hwe => ⟨by simpa using asError_size_le hwe, ?_⟩,
    fun err eg h => by simpa [errsSize_errorsOf] using asErrorGroup_size_lt h⟩
  simp [Error.size_eq, hw]

/-- An `Error` whose cause is a group is not the first error of its `AsGroup`: `NewErrorGroup`
replaces it by the group's error, and the loop appends that error once more. -/
theorem asGroup_wrapping_group :
    let a : Error := { code := "a", wrapped := none }
    ({ code := "x", wrapped := some (.group [a] .default) } : Error).asGroup.errors = [a, a] := by
  intro a
  have ha : asErrorGroup (some (.error a)) = none := rfl
  have hx : asErrorGroup (some (.error { code := "x", wrapped := some (.group [a] .default) })) =
      some ⟨[a], .default⟩ := rfl
  rw [Error.asGroup, asGroupLoop_eq]
  simp only [show asError (some (.group [a] .default)) = some a from rfl, asGroupLoop_eq]
  simp [newErrorGroup, ErrorGroup.append, appendOne_eq, hx, ha, errorsOf, sliceTypeAssert,
    asErrorOrUndefined]

/-- `links` is a cause chain of `Error`s: each wraps the next, and the last wraps nothing. -/
def Linked : List Error → Prop
  | [] => False
  | [e] => e.wrapped = none
  | e :: e' :: es => e.wrapped = some (.error e') ∧ Linked (e' :: es)

theorem Linked.walk {e : Error} {es : List Error} (h : Linked (e :: es)) :
    e.walk = (e :: es).map .error := by
  induction es generalizing e with
  | nil => simp [Error.walk_eq, show e.wrapped = none from h, causeWalk]
  | cons e' es ih =>
    rw [Error.walk_eq, h.1, causeWalk_some, ErrOf.walk_error, ih h.2]
    rfl

theorem Linked.asErrorGroup {e : Error} {es : List Error} (h : Linked (e :: es)) :
    asErrorGroup (some (.error e)) = none := by
  simp [Stdlibx.Errors.asErrorGroup, errorsAs, h.walk, errorGroupTarget]

theorem Linked.append (g : ErrorGroup) {e : Error} {es : List Error} (h : Linked (e :: es)) :
    (g.append [some (.error e)]).errors = g.errors ++ [e] := by
  simp [ErrorGroup.append, appendOne_eq, h.asErrorGroup, asErrorOrUndefined]

theorem asGroupLoop_linked (g : ErrorGroup) {e : Error} {es : List Error} (h : Linked (e :: es)) :
    (asGroupLoop g e).errors = g.errors ++ es := by
  induction es generalizing e g with
  | nil => rw [asGroupLoop_eq, show e.wrapped = none from h]; simp
  | cons e' es ih =>
    rw [asGroupLoop_eq, h.1]
    simp only [asError_error, ih _ h.2, h.2.append, List.append_assoc, List.singleton_append]

/-- On a cause chain of `Error` links, `AsGroup` lists each link once, from the root. -/
theorem Error.asGroup_linked {e : Error} {es : List Error} (h : Linked (e :: es)) :
    e.asGroup.errors = e :: es := by
  rw [Error.asGroup, asGroupLoop_linked _ h, newErrorGroup, h.append]
  rfl

theorem Error.asGroup_linked_example :
    Linked [{ code := "a", wrapped := some (.error { code := "b", wrapped := none }) },
        { code := "b", wrapped := none }] ∧
      ({ code := "a", wrapped := some (.error { code := "b", wrapped := none }) } :
        Error).asGroup.errors =
        [{ code := "a", wrapped := some (.error { code := "b", wrapped := none }) },
          { code := "b", wrapped := none }] :=
  ⟨⟨rfl, rfl⟩, Error.asGroup_linked ⟨rfl, rfl⟩⟩

/-- On a cause chain of `Error` links `Copy` changes nothing. -/
theorem Error.copy_linked {e : Error} {es : List Error} (h : Linked (e :: es)) : e.copy = e := by
  induction es generalizing e with
  | nil => exact Error.copy_of_asError_none (by rw [show e.wrapped = none from h]; rfl)
  | cons e' es ih =>
    rw [Error.copy_eq, h.1, asError_error]
    dsimp only
    rw [ih h.2, ← h.1]
    cases e; rfl

theorem Error.copy_linked_example :
    Linked [{ code := "a", wrapped := some (.error { code := "b", wrapped := none }) },
        { code := "b", wrapped := none }] ∧
      ({ code := "a", wrapped := some (.error { code := "b", wrapped := none }) } : Error).copy =
        { code := "a", wrapped := some (.error { code := "b", wrapped := none }) } :=
  ⟨⟨rfl, rfl⟩, @Error.copy_linked _ [{ code := "b", wrapped := none }] ⟨rfl, rfl⟩⟩

theorem Error.asGroup_formatter (e : Error) : e.asGroup.formatter = .default := by
  rw [Error.asGroup, asGroupLoop_eq_append]
  rfl

end Stdlibx.AsGroup
