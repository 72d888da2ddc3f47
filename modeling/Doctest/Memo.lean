/-
# A value computed once

A memo holds an action that supplies a value and, once it is known, the value.  Setting the value
replaces it, and the action is then never run.

| step | value before | value after | runs the action |
| --- | --- | --- | --- |
| `get` | none | the action's | yes |
| `get` | `v` | `v` | no |
| `set w` | any | `w` | no |
-/

import Doctest.Text.Quoted

namespace Doctest

/-- A value that an action supplies when it is first asked for. -/
structure Memo (m : Type → Type) (α : Type) where
  value : Option α
  supplier : m α

namespace Memo

variable {m : Type → Type} {α : Type}

/-- A memo whose value is not known yet. -/
def new (supplier : m α) : Memo m α := ⟨none, supplier⟩

/-- The value, and the memo that knows it. -/
def get [Monad m] (x : Memo m α) : m (α × Memo m α) :=
  match x.value with
  | some v => pure (v, x)
  | none => do
    let v ← x.supplier
    pure (v, { x with value := some v })

/-- The memo with the value `v`. -/
def set (x : Memo m α) (v : α) : Memo m α := { x with value := some v }

/-- Whether the value is known. -/
def isCached (x : Memo m α) : Bool := x.value.isSome

/-- The memo as text, given the text of its value. -/
def describe (render : α → Text) (x : Memo m α) : Text :=
  "Memo \x7b value: ".toList ++
    (match x.value with
      | some v => "Some(".toList ++ render v ++ ")".toList
      | none => "None".toList) ++ " \x7d".toList

end Memo
end Doctest
