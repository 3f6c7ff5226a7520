import Mathlib.Data.List.AList

/-!
# Collection helpers of `slices.go`

A Go slice is a list. A Go `map[K]V` is an association list with one entry per key, where
`AList.insert` is the assignment `m[k] = v`: it replaces the entry of `k`.
-/

namespace Stdlibx.Slices

def sliceFlatten (slices : List (List α)) : List α :=
  slices.foldl (fun flattened slice => flattened ++ slice) []

def sliceToMap [DecidableEq K] (input : List V) (key : V → K) : AList (fun _ : K => V) :=
  input.foldl (fun result item => result.insert (key item) item) ∅

/-- `Predicate[T]` is declared in a file of the repository that is not here; it is taken as a
boolean test of an element. -/
def sliceFilter (input : List α) (predicate : α → Bool) : List α :=
  input.foldl (fun filtered item => if predicate item then filtered ++ [item] else filtered) []

/-- Modelled from the spec: `SliceTypeAssert`, which `ErrorGroup.Append` calls, is defined in a
file of the repository that is not here. The spec describes it as narrowing each element of a
slice to a target type and leaving out the elements where the narrowing fails; `narrow` is the
type assertion. -/
def sliceTypeAssert (narrow : α → Option β) (input : List α) : List β :=
  input.filterMap narrow

private theorem foldl_append_flatten (acc : List α) (slices : List (List α)) :
    slices.foldl (fun flattened slice => flattened ++ slice) acc = acc ++ slices.flatten := by
  induction slices generalizing acc with
  | nil => simp
  | cons s slices ih => simp [ih]

theorem sliceFlatten_eq_flatten (slices : List (List α)) :
    sliceFlatten slices = slices.flatten := by
  simpa using foldl_append_flatten [] slices

theorem sliceFilter_eq_filter (input : List α) (predicate : α → Bool) :
    sliceFilter input predicate = input.filter predicate := by
  suffices ∀ acc, input.foldl (fun filtered item =>
      if predicate item then filtered ++ [item] else filtered) acc =
        acc ++ input.filter predicate by
    simpa using this []
  induction input with
  | nil => simp
  | cons x l ih => intro acc; by_cases h : predicate x <;> simp [h, ih]

private theorem foldl_insert_lookup [DecidableEq K] (key : V → K) (k : K) (input : List V)
    (m : AList (fun _ : K => V)) :
    (input.foldl (fun result item => result.insert (key item) item) m).lookup k =
      (input.reverse.find? fun v => key v = k).or (m.lookup k) := by
  induction input generalizing m with
  | nil => simp
  | cons v l ih =>
    rw [List.foldl_cons, ih, List.reverse_cons, List.find?_append, Option.or_assoc]
    congr 1
    by_cases h : key v = k
    · subst h; simp
    · simp [h, AList.lookup_insert_ne (Ne.symm h)]

/-- `SliceToMap` has exactly the keys of the items, and maps each key to the last item that
has it: later items overwrite earlier ones. -/
theorem sliceToMap_spec [DecidableEq K] (input : List V) (key : V → K) (k : K) :
    (k ∈ sliceToMap input key ↔ ∃ v ∈ input, key v = k) ∧
      (sliceToMap input key).lookup k = input.reverse.find? fun v => key v = k := by
  have hl : (sliceToMap input key).lookup k = input.reverse.find? fun v => key v = k := by
    simpa using foldl_insert_lookup key k input ∅
  refine ⟨?_, hl⟩
  rw [← AList.lookup_isSome, hl, List.find?_isSome]
  simp

end Stdlibx.Slices
