/-
Module: MandoForge.Foundation.Truth
Purpose: The truth values of SQL.  A comparison with NULL is unknown, and only what
  is true passes a condition.
Trusted boundary: none
Main exports: Truth, Truth.or
-/
import Mathlib.Logic.Basic

namespace MandoForge.Foundation

inductive Truth where
  | yes
  | no
  | unknown
deriving DecidableEq, Repr

namespace Truth

def ofBool : Bool → Truth
  | true => yes
  | false => no

/-- `AND`. -/
def and : Truth → Truth → Truth
  | no, _ | _, no => no
  | yes, yes => yes
  | _, _ => unknown

/-- `OR`. -/
def or : Truth → Truth → Truth
  | yes, _ | _, yes => yes
  | no, no => no
  | _, _ => unknown

/-- `NOT`. -/
def not : Truth → Truth
  | yes => no
  | no => yes
  | unknown => unknown

/-- Whether a `WHERE` or a `WHEN` lets it pass. -/
def holds : Truth → Bool
  | yes => true
  | _ => false

variable {Value : Type}

/-- A comparison of two columns or parameters. -/
def compare (relation : Value → Value → Bool) : Option Value → Option Value → Truth
  | some first, some second => ofBool (relation first second)
  | _, _ => unknown

/-- `=`. -/
def equal [DecidableEq Value] : Option Value → Option Value → Truth :=
  compare fun first second => decide (first = second)

/-- `IS NULL`. -/
def isNull (value : Option Value) : Truth := ofBool value.isNone

/-- `IS NOT NULL`. -/
def isNotNull (value : Option Value) : Truth := ofBool value.isSome

@[simp] theorem holds_ofBool (value : Bool) : (ofBool value).holds = value := by
  cases value <;> rfl

@[simp] theorem holds_and (first second : Truth) :
    (first.and second).holds = (first.holds && second.holds) := by
  cases first <;> cases second <;> rfl

@[simp] theorem holds_or (first second : Truth) :
    (first.or second).holds = (first.holds || second.holds) := by
  cases first <;> cases second <;> rfl

@[simp] theorem holds_not_ofBool (value : Bool) : (ofBool value).not.holds = !value := by
  cases value <;> rfl

@[simp] theorem holds_isNull (value : Option Value) : (isNull value).holds = value.isNone :=
  holds_ofBool _

@[simp] theorem holds_isNotNull (value : Option Value) :
    (isNotNull value).holds = value.isSome :=
  holds_ofBool _

@[simp] theorem holds_compare (relation : Value → Value → Bool) (first : Option Value)
    (second : Value) : (compare relation first (some second)).holds =
      first.any fun value => relation value second := by
  cases first with
  | none => rfl
  | some first => exact holds_ofBool _

@[simp] theorem holds_equal [DecidableEq Value] (first : Option Value) (second : Value) :
    (equal first (some second)).holds = decide (first = some second) := by
  rw [equal, holds_compare]
  cases first <;> simp

end Truth

end MandoForge.Foundation
