import Mathlib.Tactic

/-!
# Accounts

How often a resource was taken and given back.

* `Account.Holds` — so many are held.
* `Account.Holds.record` — what is held behind taking and giving back some.
-/

namespace Library

/-- What was taken of a resource, and what was given back. -/
structure Account where
  taken : Nat
  returned : Nat
  deriving DecidableEq, Repr

namespace Account

variable {a : Account} {m n taken returned : Nat}

/-- Nothing was taken. -/
def empty : Account :=
  { taken := 0, returned := 0 }

/-- Some more are taken, and some given back. -/
def record (a : Account) (taken returned : Nat) : Account :=
  { taken := a.taken + taken, returned := a.returned + returned }

/-- So many have been taken and not given back. -/
def Holds (a : Account) (n : Nat) : Prop :=
  a.taken = a.returned + n

instance : Decidable (a.Holds n) := inferInstanceAs (Decidable (_ = _))

/-- One was taken and has not been given back. -/
def One (a : Account) : Prop :=
  a.taken = 1 ∧ a.returned = 0

instance : Decidable a.One := inferInstanceAs (Decidable (_ ∧ _))

/-- One was taken and given back, once. -/
def Once (a : Account) : Prop :=
  a.taken = 1 ∧ a.returned = 1

instance : Decidable a.Once := inferInstanceAs (Decidable (_ ∧ _))

theorem holds_empty : empty.Holds 0 := rfl

theorem Holds.record (h : a.Holds n) (heq : m + returned = n + taken) :
    (a.record taken returned).Holds m := by
  unfold Holds at h ⊢
  simp only [Account.record]
  omega

theorem one_of_empty : (empty.record 1 0).One := ⟨rfl, rfl⟩

/-- What is held once is given back once. -/
theorem One.return (h : a.One) : (a.record 0 1).Once := by
  obtain ⟨htaken, hreturned⟩ := h
  constructor
  · simp only [Account.record, htaken]
  · simp only [Account.record, hreturned]

end Account

end Library
