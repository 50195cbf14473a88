import LinkSurvey.Html.Lexer

/-!
Documents read from markup. Any text is markup; what is out of order in it is recovered from and
counted.
-/

namespace LinkSurvey.Html

structure Document where
  tree : Tree
  /-- How many times something was out of order. -/
  errors : Nat

/-- A byte order mark in front is no part of the markup. -/
def withoutMark (markup : Text) : Text :=
  if markup.head? = some '\uFEFF' then markup.drop 1 else markup

def Document.parse (markup : Text) : Document :=
  let b := ((withoutMark markup).foldl Lexer.step {}).finish
  ⟨b.tree, b.errors⟩

end LinkSurvey.Html
