import LinkSurvey.Proofs.Html.Builder.Orderly
import LinkSurvey.Proofs.Html.Lexer.Feeding
import LinkSurvey.Proofs.Survey.Plan

/-!
Scripts are listed in the order in which their elements were made. That is document order for markup with nothing out
of order in it. Where elements have been moved, and where some were put in front of a table, it need not be.
-/

namespace LinkSurvey.Markup

open Html (Tree Element NodeId Document Builder)

/-- The script that an element stands for, if it refers to code or holds some. -/
def script? (t : Tree) (x : NodeId × Element) : Option Script :=
  match source? x.2 with
  | some source => some (.external source)
  | none => (solidText? t x.1).map .inline

/-- The scripts of a document as a walk through it comes to them. -/
def scriptsInOrder (t : Tree) : List Script :=
  (t.inOrder.filter fun x => x.2.name == "script").filterMap (script? t)

theorem scripts_eq_filterMap (t : Tree) :
    scripts t = (t.elements.filter fun x => x.2.name == "script").filterMap (script? t) :=
  rfl

theorem errors_of_clean {n : Nat} (h : ParseStatus.ofErrorCount n = .clean) : n = 0 := by
  rw [ParseStatus.ofErrorCount] at h
  split at h
  · assumption
  · cases h

/-- Markup without an error makes a tree whose elements were made in document order. -/
theorem inOrder_scan {markup : List Char} (h : (scan markup).status = .clean) : (scan markup).tree.InOrder := by
  obtain ⟨b, hsteps, hparse⟩ := Document.exists_steps markup
  have herrors : (Document.parse markup).errors = 0 := errors_of_clean h
  have htree : (scan markup).tree = b.tree := congrArg Document.tree hparse
  rw [hparse] at herrors
  rw [htree]
  exact (Builder.orderly_of_steps hsteps herrors).inOrder

/-- In markup without an error the scripts come in document order, and so are the inline ones numbered. -/
theorem scripts_scan {markup : List Char} (h : (scan markup).status = .clean) :
    scripts (scan markup).tree = scriptsInOrder (scan markup).tree
      ∧ ∀ base : Url, (Survey.plan base (scripts (scan markup).tree)).filterMap Survey.Job.inline?
        = ((scriptsInOrder (scan markup).tree).filterMap Script.text?).zipIdx := by
  have horder : scripts (scan markup).tree = scriptsInOrder (scan markup).tree := by
    rw [scripts_eq_filterMap, (inOrder_scan h).elements_eq, scriptsInOrder]
  refine ⟨horder, fun base => ?_⟩
  rw [Survey.plan, Survey.inline_planFrom, horder]

/-- A script in a template, one elsewhere and one in the page itself. -/
def nested : List Char :=
  "<!DOCTYPE html><template><script>a</script></template><p><script src=b></script><script>c</script>".toList

theorem scripts_scan_nested :
    (scan nested).status = .clean
      ∧ scriptsInOrder (scan nested).tree = [.inline ['a'], .external ['b'], .inline ['c']] := by
  have hclean : (scan nested).status = .clean := by decide +kernel
  refine ⟨hclean, ?_⟩
  rw [← (scripts_scan hclean).1]
  decide +kernel

/-- A script in a table, and one in a paragraph that the table has no place for. -/
def misplaced : List Char :=
  "<table><script>b</script><p><script>a</script>".toList

/-- The paragraph is put in front of the table, but the scripts stay in the order in which they were written. -/
theorem scripts_scan_misplaced :
    scripts (scan misplaced).tree = [.inline ['b'], .inline ['a']]
      ∧ scriptsInOrder (scan misplaced).tree = [.inline ['a'], .inline ['b']] := by
  decide +kernel

end LinkSurvey.Markup
