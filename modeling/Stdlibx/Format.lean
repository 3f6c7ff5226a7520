import Mathlib.Data.String.Basic
import Stdlibx.AsGroup

/-!
# `Error()` texts

The text of an `Error` is `[namespace:code] message`, followed by `\n-> ` and the text of its
cause when it has one. A group's text is its formatter applied to its errors; a formatter a
caller installed is rendered by `render`. A foreign error's text is the one it was built with.
-/

namespace Stdlibx.Format

/-- `ErrorGroupFormatterDefault`, given the text of each error: nothing, the one text, or a
bulleted list between blank lines. -/
def formatDefault : List String → String
  | [] => ""
  | [t] => t
  | texts@(_ :: _ :: _) => "\n" ++ "\n".intercalate (texts.map ("* " ++ ·)) ++ "\n\n"

end Stdlibx.Format

namespace Stdlibx

open Format

variable (render : String → List Error → String)

mutual
def ErrOf.text : Err → String
  | .error e => e.text
  | .group l .default => formatDefault (errorTexts l)
  | .group l (.custom name) => render name l
  | .chain [] => ""
  | .chain (x :: _) => x.text
  | .foreign _ s _ => s
termination_by structural err => err

def Error.text : Error → String
  | ⟨c, _, _, m, n, w⟩ => "[" ++ n ++ ":" ++ c ++ "] " ++ m ++ causeText w
termination_by structural e => e

def causeText : Option Err → String
  | none => ""
  | some w => "\n-> " ++ w.text
termination_by structural w => w

def errorTexts : List Error → List String
  | [] => []
  | x :: l => x.text :: errorTexts l
termination_by structural l => l
end

def ErrorGroup.text (g : ErrorGroup) : String := g.toErr.text render

/-- `Format` for the verb `verb`, with `plus` for the `+` flag: the text it writes. -/
def Error.format (e : Error) (plus : Bool) : Char → String
  | 'v' => if plus then e.asGroup.text render else e.text render
  | 's' => e.text render
  | 'q' => e.text render
  | _ => ""

/-- `Less`; an index out of range panics. -/
def ErrorGroup.less (g : ErrorGroup) (i j : Nat) : Option Bool :=
  if h : i < g.errors.length ∧ j < g.errors.length then
    some (decide (g.errors[i].text render < g.errors[j].text render))
  else none

end Stdlibx

namespace Stdlibx.Format

open Wrap AsGroup

variable (render : String → List Error → String)

def errorGroupFormatterDefault (errors : List Error) : String :=
  formatDefault (errors.map (Error.text render))

theorem errorTexts_eq (l : List Error) : errorTexts render l = l.map (Error.text render) := by
  induction l with
  | nil => rfl
  | cons x l ih => simp [errorTexts, ih]

theorem Error.text_eq (e : Error) :
    e.text render = "[" ++ e.«namespace» ++ ":" ++ e.code ++ "] " ++ e.message ++
      causeText render e.wrapped := by
  cases e; rfl

private theorem intercalate_go_append (s a b : String) (l : List String) :
    String.intercalate.go (a ++ b) s l = a ++ String.intercalate.go b s l := by
  induction l generalizing b with
  | nil => rfl
  | cons c l ih =>
    simp only [String.intercalate.go]
    rw [show a ++ b ++ s ++ c = a ++ (b ++ s ++ c) by simp only [String.append_assoc], ih]

private theorem intercalate_cons_cons (s a b : String) (l : List String) :
    s.intercalate (a :: b :: l) = a ++ s ++ s.intercalate (b :: l) :=
  intercalate_go_append s (a ++ s) b l

/-- `Error()` on a cause chain of `Error` links writes `[namespace:code] message` for each
link, root first, joined by `\n-> `. -/
theorem Error.text_linked {e : Error} {es : List Error} (h : Linked (e :: es)) :
    e.text render = "\n-> ".intercalate ((e :: es).map fun x =>
      "[" ++ x.«namespace» ++ ":" ++ x.code ++ "] " ++ x.message) := by
  induction es generalizing e with
  | nil =>
    rw [text_eq, show e.wrapped = none from h, causeText, String.append_empty]
    rfl
  | cons e' es ih =>
    rw [text_eq, h.1, causeText, ErrOf.text, ih h.2]
    simp only [List.map_cons, intercalate_cons_cons, String.append_assoc]

theorem Error.text_linked_example :
    let b : Error := { code := "b", wrapped := none }
    let a : Error := { code := "a", wrapped := some (.error b) }
    Linked [a, b] ∧ a.text (fun _ _ => "") = "[:a] \n-> [:b] " := by
  intro b a
  exact ⟨⟨rfl, rfl⟩, @Error.text_linked (fun _ _ => "") a [b] ⟨rfl, rfl⟩⟩

theorem ErrorGroup.text_default (l : List Error) :
    (ErrorGroup.mk l .default).text render = errorGroupFormatterDefault render l := by
  simp [ErrorGroup.text, ErrorGroup.toErr, ErrOf.text, errorGroupFormatterDefault, errorTexts_eq]

/-- `Copy` of an `Error` whose cause is a foreign wrapper around an `Error` changes its cause
and its text, whatever the formatters. -/
theorem Error.copy_changes_text :
    let inner : Error := { code := "b", wrapped := none }
    let e : Error := { code := "a", wrapped := some (fmtErrorf "ctx: [:b] " [.error inner]) }
    e.copy.wrapped ≠ e.wrapped ∧ e.copy.text render ≠ e.text render := by
  intro inner e
  rw [Error.copy_drops_wrapper]
  refine ⟨by simp [e, fmtErrorf], ?_⟩
  simp only [Error.text_eq, causeText, ErrOf.text, e, inner, fmtErrorf]
  decide

/-- `%+v` on a cause chain of `Error` links writes `ErrorGroupFormatterDefault` of the links,
root first. -/
theorem Error.format_plus_linked {e : Error} {es : List Error} (h : Linked (e :: es)) :
    e.format render true 'v' = errorGroupFormatterDefault render (e :: es) := by
  have he : e.asGroup.errors = e :: es := by
    rw [Error.asGroup, asGroupLoop_linked _ h, ErrorGroup.newErrorGroup, h.append]
    rfl
  have hg : e.asGroup = ⟨e :: es, .default⟩ := by
    rw [← he, ← Error.asGroup_formatter e]
  rw [Error.format, if_pos rfl, hg, ErrorGroup.text_default]

theorem Error.format_plus_linked_example :
    let b : Error := { code := "b", wrapped := none }
    let a : Error := { code := "a", wrapped := some (.error b) }
    Linked [a, b] ∧
      a.format (fun _ _ => "") true 'v' = errorGroupFormatterDefault (fun _ _ => "") [a, b] := by
  intro b a
  exact ⟨⟨rfl, rfl⟩, @Error.format_plus_linked (fun _ _ => "") a [b] ⟨rfl, rfl⟩⟩

end Stdlibx.Format
