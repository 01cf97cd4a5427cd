import Std.Data.ExtTreeMap

/-!
Variable scopes: finite maps from names to values. Two scopes are equal exactly when they bind the
same names to the same values, in whatever order that was done.
-/

namespace LineShell

/-- The variables of a session. -/
structure Scope where
  bindings : Std.ExtTreeMap String String
  deriving DecidableEq

namespace Scope

/-- No variable is bound. -/
def empty : Scope := ⟨∅⟩

instance : EmptyCollection Scope := ⟨empty⟩
instance : Inhabited Scope := ⟨empty⟩

/-- The value of `name`, if it is bound. -/
def get? (s : Scope) (name : String) : Option String := s.bindings[name]?

/-- Whether `name` is bound. -/
def contains (s : Scope) (name : String) : Bool := (s.get? name).isSome

/-- Binds `name` to `value` and forgets an earlier value of `name`. -/
def set (s : Scope) (name value : String) : Scope := ⟨s.bindings.insert name value⟩

/-- How many names are bound. -/
def size (s : Scope) : Nat := s.bindings.size

/-- Whether no name is bound. -/
def isEmpty (s : Scope) : Bool := s.bindings.isEmpty

/-- Binds the pairs in order, so the last value given for a name is the one that stays. -/
def setAll (s : Scope) (pairs : List (String × String)) : Scope :=
  pairs.foldl (fun s p => s.set p.1 p.2) s

/-- The scope that the pairs define. -/
def ofList (pairs : List (String × String)) : Scope := empty.setAll pairs

@[ext] theorem ext_get? {s t : Scope} (h : ∀ name, s.get? name = t.get? name) : s = t := by
  cases s; cases t
  congr 1
  exact Std.ExtTreeMap.ext_getElem? h

@[simp] theorem get?_empty (name : String) : empty.get? name = none := by
  simp [get?, empty]

theorem get?_set (s : Scope) (name value other : String) :
    (s.set name value).get? other = if name = other then some value else s.get? other := by
  simp [get?, set, Std.ExtTreeMap.getElem?_insert]

@[simp] theorem get?_set_self (s : Scope) (name value : String) :
    (s.set name value).get? name = some value := by
  simp [get?_set]

theorem get?_set_of_ne (s : Scope) {name other : String} (value : String) (h : name ≠ other) :
    (s.set name value).get? other = s.get? other := by
  simp [get?_set, h]

@[simp] theorem contains_eq_isSome (s : Scope) (name : String) :
    s.contains name = (s.get? name).isSome := rfl

end Scope

end LineShell
