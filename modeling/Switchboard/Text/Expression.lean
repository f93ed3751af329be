import Switchboard.Text.Expression.Mode
import Switchboard.Text.Expression.Reader

/-!
Which texts are regular expressions.

A text is one if it can be read, if its parts are not nested too deep, if no two of its
groups have the same name and if each part has a meaning in the modes in which it stands
(`isExpression_iff`).
-/

namespace Switchboard.Text

/-- How deep the parts of an expression may be nested. -/
def Expression.maxDepth : Nat := 250

/-- The expression has a meaning. -/
def Expression.isMeaningful (e : Expression) : Bool :=
  decide (e.depth ≤ maxDepth) && decide e.names.Nodup && (Modes.initial.after e).isSome

/-- The text is a regular expression. -/
def isExpression (cs : List Char) : Bool :=
  (Expression.read cs).any Expression.isMeaningful

theorem isExpression_iff {cs : List Char} :
    isExpression cs ↔ ∃ e, Expression.read cs = some e ∧ e.depth ≤ Expression.maxDepth
      ∧ e.names.Nodup ∧ (Expression.Modes.initial.after e).isSome := by
  unfold isExpression
  cases Expression.read cs <;> simp [Expression.isMeaningful, and_assoc]

end Switchboard.Text
