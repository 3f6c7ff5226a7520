import Stdlibx.AsGroup

/-!
# Where the errors of a group come from

Every error a group holds, however it was built and then changed, is an `Error` met in the
cause walk of a value handed to the package, or `ErrUndefined` wrapping a value met there
(foreign errors have no `As` method here, so `errors.As` finds only what a walk holds):
`Append`, `ErrorJoin` and `AsGroup` invent no error, and `Swap` only moves them. Since
`IsZero` drops nothing, a group holds the zero `Error` only when it came in with an argument.
-/

namespace Stdlibx.Provenance

open ErrorValue Errors Wrap ErrorGroup AsGroup

/-- `x` comes from `v`: an `Error` met in the walk of `v`, or `ErrUndefined` wrapping a value
met there. -/
def SourcedIn (v : Err) (x : Error) : Prop :=
  ErrOf.error x ∈ v.walk ∨ ∃ u ∈ v.walk, x = errUndefined.wrap (some u)

theorem SourcedIn.of_mem_walk {u v : Err} {x : Error} (h : SourcedIn u x) (hu : u ∈ v.walk) :
    SourcedIn v x := by
  rcases h with h | ⟨t, ht, rfl⟩
  · exact .inl (ErrOf.walk_trans v hu h)
  · exact .inr ⟨t, ErrOf.walk_trans v hu ht, rfl⟩

theorem asErrorOrUndefined_sourced (v : Err) : SourcedIn v (asErrorOrUndefined (some v)) := by
  unfold asErrorOrUndefined
  cases h : asError (some v) with
  | some x => exact .inl (asError_mem_walk h)
  | none => exact .inr ⟨v, ErrOf.mem_walk_self v, rfl⟩

theorem appendErrs_sourced {acc : List Error} {errs : List (Option Err)} {x : Error}
    (h : x ∈ appendErrs acc errs) : x ∈ acc ∨ ∃ v, some v ∈ errs ∧ SourcedIn v x :=
  (appendErrs_mem.1 acc errs h).imp_right fun ⟨v, hv, u, hu, _, hx⟩ =>
    ⟨v, hv, hx ▸ (asErrorOrUndefined_sourced u).of_mem_walk hu⟩

section Built

variable (arg : Err → Prop)

/-- The groups built from values `arg` admits by the package's constructors and mutators, in
any order: `NewErrorGroup`, `ErrorJoin`, `AsGroup`, then `Append`, `ErrorJoin` onto a group,
`Translate` (whose translations `arg` admits) and `Swap`. -/
inductive Built : ErrorGroup → Prop
  | newGroup (errs : List (Option Err)) (h : ∀ v, some v ∈ errs → arg v) :
      Built (newErrorGroup errs)
  | join (err : Option Err) (errs : List (Option Err)) (h : ∀ v, some v ∈ err :: errs → arg v) :
      Built (errorJoin err errs)
  | asGroup (e : Error) (h : arg (.error e)) : Built e.asGroup
  | append {g : ErrorGroup} (hg : Built g) (errs : List (Option Err))
      (h : ∀ v, some v ∈ errs → arg v) : Built (g.append errs)
  | joinGroup {g : ErrorGroup} (hg : Built g) (errs : List (Option Err))
      (h : ∀ v, some v ∈ errs → arg v) : Built (errorJoin (some g.toErr) errs)
  | translate {g : ErrorGroup} (hg : Built g) (f : ErrorTranslate)
      (h : ∀ x ∈ g.errors, ∀ v, f (some (.error x)) = some v → arg v) : Built (g.translate f)
  | swap {g g' : ErrorGroup} (hg : Built g) (i j : Nat) (hs : g.swap i j = some g') : Built g'

def Origin (x : Error) : Prop := x = errUndefined ∨ ∃ v, arg v ∧ SourcedIn v x

variable {arg}

theorem Origin.of_appendErrs {acc : List Error} {errs : List (Option Err)} {x : Error}
    (hacc : ∀ y ∈ acc, Origin arg y) (herrs : ∀ v, some v ∈ errs → arg v)
    (hx : x ∈ appendErrs acc errs) : Origin arg x := by
  rcases appendErrs_sourced hx with hx | ⟨v, hv, hs⟩
  · exact hacc x hx
  · exact .inr ⟨v, herrs v hv, hs⟩

theorem Built.errors_origin {g : ErrorGroup} (hg : Built arg g) :
    ∀ x ∈ g.errors, Origin arg x := by
  induction hg with
  | newGroup errs h =>
    exact fun x => Origin.of_appendErrs (by simp) h
  | join err errs h =>
    cases heg : asErrorGroup err with
    | none =>
      rw [errorJoin_of_not_group heg]
      exact fun x => Origin.of_appendErrs (by simp) h
    | some eg =>
      rcases err with _ | w
      · cases heg
      rw [errorJoin_of_group heg]
      refine fun x => Origin.of_appendErrs (fun y hy => ?_) (fun v hv => h v (by simp [hv]))
      exact .inr ⟨w, h w (by simp), .inl (asErrorGroup_mem_walk heg hy)⟩
  | asGroup e h =>
    intro x hx
    rw [Error.asGroup, asGroupLoop_eq_append, newErrorGroup, ErrorGroup.append_append] at hx
    rcases appendErrs_sourced hx with hx | ⟨v, hv, hs⟩
    · cases hx
    · refine .inr ⟨_, h, hs.of_mem_walk ?_⟩
      simp only [List.singleton_append, List.mem_cons, List.mem_map] at hv
      rcases hv with hv | ⟨c, hc, hcv⟩
      · cases hv; exact ErrOf.mem_walk_self _
      · cases hcv; exact Error.asGroupCauses_mem_walk e hc
  | append _ errs h ih => exact fun x => Origin.of_appendErrs ih h
  | joinGroup _ errs h ih =>
    rw [errorJoin_of_group (asErrorGroup_toErr _)]
    exact fun x => Origin.of_appendErrs ih h
  | translate _ f h _ =>
    intro x hx
    rw [ErrorGroup.translate_errors, List.mem_map] at hx
    obtain ⟨y, hy, rfl⟩ := hx
    cases hf : f (some (.error y)) with
    | none => exact .inl rfl
    | some v => exact .inr ⟨v, h y hy v hf, asErrorOrUndefined_sourced v⟩
  | swap _ i j hs ih => exact fun x hx => ih x ((ErrorGroup.swap_perm hs).subset hx)

/-- Every error of a built group is `ErrUndefined` or comes from an admitted value, whatever
the run that built it (foreign errors without `As` methods). -/
theorem Built.origin {g : ErrorGroup} (hg : Built arg g) : ∀ x ∈ g.errors, Origin arg x :=
  hg.errors_origin

/-- `IsZero` drops nothing, but no step of a run makes a zero `Error` up: a built group holds
one only when an admitted value holds it. -/
theorem Built.zero_not_mem {g : ErrorGroup} (hg : Built arg g)
    (h : ∀ v, arg v → ErrOf.error { wrapped := none } ∉ v.walk) :
    ({ wrapped := none } : Error) ∉ g.errors := by
  intro hz
  rcases hg.errors_origin _ hz with h0 | ⟨v, hv, h0 | ⟨u, -, h0⟩⟩
  · exact absurd (congrArg Error.code h0) (by decide)
  · exact h v hv h0
  · exact absurd (congrArg Error.code h0) (by simp [errUndefined]; decide)

/-- No run makes `errors.Is` find in a built group a target that no admitted value leads it to,
apart from `ErrUndefined` (foreign errors without `As` methods). -/
theorem Built.errorsIs_origin {g : ErrorGroup} (hg : Built arg g) {t : Error}
    (h : errorsIs (some g.toErr) t = true) :
    errUndefined.equal t = true ∨ ∃ v, arg v ∧ errorsIs (some v) t = true := by
  rw [ErrorGroup.toErr, errorsIs_group, List.any_eq_true] at h
  obtain ⟨x, hx, hxt⟩ := h
  rcases hg.errors_origin x hx with rfl | ⟨v, hv, hs | ⟨u, hu, rfl⟩⟩
  · rw [errorsIs_error, show errorsIs errUndefined.wrapped t = false from rfl, Bool.or_false] at hxt
    exact .inl hxt
  · exact .inr ⟨v, hv, errorsIs_of_mem_walk hs hxt⟩
  · rw [errorsIs_error, Error.wrap_some, Bool.or_eq_true] at hxt
    exact hxt.imp id fun h => ⟨v, hv, errorsIs_of_mem_walk hu h⟩

end Built

theorem built_newGroup_append (a : Error) (x : Err) :
    Built (fun v => v = .error a ∨ v = x) ((newErrorGroup [some (.error a)]).append [some x]) :=
  .append (.newGroup _ (by simp)) _ (by simp)

theorem Built.origin_newGroup_append :
    let a : Error := { code := "a", wrapped := none }
    let g := (newErrorGroup [some (.error a)]).append [some (fmtErrorf "x" [])]
    Built (fun v => v = .error a ∨ v = fmtErrorf "x" []) g ∧
      ∀ x ∈ g.errors, Origin (fun v => v = .error a ∨ v = fmtErrorf "x" []) x :=
  ⟨built_newGroup_append _ _, Built.origin (built_newGroup_append _ _)⟩

theorem Built.zero_not_mem_newGroup_append :
    let a : Error := { code := "a", wrapped := none }
    let g := (newErrorGroup [some (.error a)]).append [some (fmtErrorf "x" [])]
    Built (fun v => v = .error a ∨ v = fmtErrorf "x" []) g ∧
      (∀ v, (v = .error a ∨ v = fmtErrorf "x" []) → ErrOf.error { wrapped := none } ∉ v.walk) ∧
      ({ wrapped := none } : Error) ∉ g.errors := by
  intro a g
  have h : ∀ v, (v = .error a ∨ v = fmtErrorf "x" []) →
      ErrOf.error { wrapped := none } ∉ v.walk := by
    rintro v (rfl | rfl)
    · simp only [ErrOf.walk_error, Error.walk_eq, a, causeWalk, List.mem_singleton,
        ErrOf.error.injEq, Error.mk.injEq]
      decide
    · simp [fmtErrorf, ErrOf.walk, causesWalk]
  exact ⟨built_newGroup_append _ _, h, Built.zero_not_mem (built_newGroup_append _ _) h⟩

theorem Built.errorsIs_origin_newGroup_append :
    let a : Error := { code := "a", wrapped := none }
    let g := (newErrorGroup [some (.error a)]).append [some (fmtErrorf "x" [])]
    Built (fun v => v = .error a ∨ v = fmtErrorf "x" []) g ∧ errorsIs (some g.toErr) a = true ∧
      (errUndefined.equal a = true ∨
        ∃ v, (v = .error a ∨ v = fmtErrorf "x" []) ∧ errorsIs (some v) a = true) := by
  intro a g
  have ha : a ∈ g.errors := by
    have h1 : (newErrorGroup [some (.error a)]).errors = [a] := by
      rw [newErrorGroup, Linked.append _ (show Linked [a] from rfl)]; rfl
    show a ∈ appendErrs _ _
    rw [appendErrs_acc.1, h1]
    exact List.mem_append_left _ (List.mem_singleton_self a)
  have h : errorsIs (some g.toErr) a = true := by
    rw [ErrorGroup.toErr, errorsIs_group, List.any_eq_true]
    exact ⟨a, ha, by rw [errorsIs_error, Error.equal_refl, Bool.true_or]⟩
  exact ⟨built_newGroup_append _ _, h, Built.errorsIs_origin (built_newGroup_append _ _) h⟩

end Stdlibx.Provenance
