import ConditionalForm.Pattern.Literals
import ConditionalForm.Pattern.Meaning
import ConditionalForm.Pattern.Reader
import ConditionalForm.Pattern.Search
import ConditionalForm.Pattern.Size

/-! # Patterns

A pattern is read from its text once and can then be searched in any text.
-/

namespace ConditionalForm

structure Pattern where
  expr : Pattern.CharExpr

namespace Pattern

def ofText (s : List Char) : Except PatternError Pattern := do
  let ast ← Ast.ofText s
  let (expr, _) ← ast.toExpr {}
  if Literals.suffice expr || Size.fits expr then return ⟨expr⟩ else throw .tooLarge

/-- Whether a text holds a match of the pattern somewhere. -/
def occursIn (p : Pattern) (text : List Char) : Bool := p.expr.occursIn text

end Pattern

end ConditionalForm
