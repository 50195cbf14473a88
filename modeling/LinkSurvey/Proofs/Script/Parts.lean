import LinkSurvey.Script.Visitor
import Mathlib.Data.List.Basic

/-!
What syntax trees are made of. Apart from the walk, every construct is taken to pieces here: its children, its
literals and chunks, and what else it has. A construct and its pieces make up the tree, so none is missing from the
list. The walk meets the pieces one after another and once each, and those that are trees are smaller than the
whole, so what holds of a tree can be shown from what holds of its parts.
-/

namespace LinkSurvey.Script

/-- A piece of a syntax tree. -/
inductive Part where
  | tree (n : Node)
  | literal (s : StringLiteral)
  | chunk (q : Quasi)
  /-- A name, which a script does not use as a text. -/
  | word (text : String)
  | flag (isSet : Bool)

def trees (ns : List Node) : List Part :=
  ns.map .tree

/-- What a tree has for each field of its construct. -/
@[simp, grind =] def fieldsOf : Node → List (List Part)
  | .name text => [[.word text]]
  | .string s => [[.literal s]]
  | .template quasis holes => [quasis.map .chunk, trees holes]
  -- the script and its statements
  | .script directives statements => [directives.map .literal, trees statements]
  | .block statements => [trees statements]
  | .emptyStatement => []
  | .expressionStatement expression => [[.tree expression]]
  | .ifStatement test first other? => [[.tree test], [.tree first], trees other?.toList]
  | .doLoop body test => [[.tree body], [.tree test]]
  | .whileLoop test body => [[.tree test], [.tree body]]
  | .forLoop initial? test? step? body =>
    [trees initial?.toList, trees test?.toList, trees step?.toList, [.tree body]]
  | .forIn target source body => [[.tree target], [.tree source], [.tree body]]
  | .forOf target source body => [[.tree target], [.tree source], [.tree body]]
  | .continueStatement label? => [trees label?.toList]
  | .breakStatement label? => [trees label?.toList]
  | .returnStatement value? => [trees value?.toList]
  | .withStatement object body => [[.tree object], [.tree body]]
  | .switchStatement value branches => [[.tree value], trees branches]
  | .switchCase test? statements => [trees test?.toList, trees statements]
  | .labelled label body => [[.tree label], [.tree body]]
  | .throwStatement value => [[.tree value]]
  | .tryStatement body handler? last? => [[.tree body], trees handler?.toList, trees last?.toList]
  | .catchClause pattern? body => [trees pattern?.toList, [.tree body]]
  | .debugger => []
  -- declarations and patterns
  | .variableList isLexical declarators => [[.flag isLexical], trees declarators]
  | .using declarators => [trees declarators]
  | .declarator pattern value? => [[.tree pattern], trees value?.toList]
  | .arrayPattern elements rest? => [trees elements, trees rest?.toList]
  | .objectPattern properties rest? => [trees properties, trees rest?.toList]
  | .patternProperty key value => [[.tree key], [.tree value]]
  | .withDefault pattern value => [[.tree pattern], [.tree value]]
  | .rest pattern => [[.tree pattern]]
  -- functions and classes
  | .function isAsync isGenerator name? parameters body =>
    [[.flag isAsync], [.flag isGenerator], trees name?.toList, [.tree parameters], [.tree body]]
  | .arrow parameters body => [[.tree parameters], [.tree body]]
  | .parameters items rest? => [trees items, trees rest?.toList]
  | .parameter decorators pattern => [trees decorators, [.tree pattern]]
  | .body directives statements => [directives.map .literal, trees statements]
  | .classDefinition decorators name? parent? parentTypes interfaces members =>
    [trees decorators, trees name?.toList, trees parent?.toList, trees parentTypes, trees interfaces,
      trees members]
  | .method decorators key value => [trees decorators, [.tree key], [.tree value]]
  | .field decorators key value? => [trees decorators, [.tree key], trees value?.toList]
  | .staticBlock statements => [trees statements]
  | .decorator expression => [[.tree expression]]
  -- expressions
  | .this => []
  | .super => []
  | .literal => []
  | .regex => []
  | .privateName => []
  | .array elements endsWithComma => [trees elements, [.flag endsWithComma]]
  | .hole => []
  | .spread inner => [[.tree inner]]
  | .object properties => [trees properties]
  | .property key value => [[.tree key], [.tree value]]
  | .shorthand key value default? => [[.tree key], [.tree value], trees default?.toList]
  | .parenthesized inner => [[.tree inner]]
  | .sequence expressions => [trees expressions]
  | .member object property => [[.tree object], [.tree property]]
  | .chain operand => [[.tree operand]]
  | .call callee arguments => [[.tree callee], trees arguments]
  | .new callee arguments => [[.tree callee], trees arguments]
  | .importCall source options? => [[.tree source], trees options?.toList]
  | .metaProperty => []
  | .tagged tag template => [[.tree tag], [.tree template]]
  | .prefixOperation operand => [[.tree operand]]
  | .update operand => [[.tree operand]]
  | .binary left right => [[.tree left], [.tree right]]
  | .conditional condition first second => [[.tree condition], [.tree first], [.tree second]]
  | .assignment target value => [[.tree target], [.tree value]]
  | .awaitOperation operand => [[.tree operand]]
  | .yieldOperation operand? => [trees operand?.toList]
  | .typed value type => [[.tree value], [.tree type]]
  -- modules
  | .importDeclaration specifiers source attributes => [trees specifiers, [.literal source], trees attributes]
  | .importSpecifier exported? binding => [trees exported?.toList, [.tree binding]]
  | .exportDeclaration declaration => [[.tree declaration]]
  | .exportNames specifiers source? attributes =>
    [trees specifiers, source?.toList.map .literal, trees attributes]
  | .exportAll exported? source attributes => [trees exported?.toList, [.literal source], trees attributes]
  | .exportSpecifier inner exported => [[.tree inner], [.tree exported]]
  | .attributeEntry key value => [[.tree key], [.literal value]]
  -- markup
  | .element opening children => [[.tree opening], trees children]
  | .fragment children => [trees children]
  | .opening name attributes => [[.tree name], trees attributes]
  | .spacedName space text => [[.word space], [.word text]]
  | .namePath names => [names.map .word]
  | .markupAttribute name value? => [[.tree name], trees value?.toList]
  | .markupSpread inner => [[.tree inner]]
  | .container inner? => [trees inner?.toList]
  | .markupText => []
  -- types
  | .typeReference path arguments => [path.map .word, trees arguments]
  | .typeOperation operand => [[.tree operand]]
  | .tupleType elements => [trees elements]
  | .objectType members => [trees members]
  | .typeMember key type? => [[.tree key], trees type?.toList]
  | .arrayType element => [[.tree element]]
  | .indexedType object index => [[.tree object], [.tree index]]
  | .joinedType types => [trees types]

/-! ### Nothing is missing -/

theorem trees_inj {ns ms : List Node} : trees ns = trees ms ↔ ns = ms :=
  List.map_inj_right fun _ _ => Part.tree.inj

theorem map_literal_inj {l l' : List StringLiteral} : l.map Part.literal = l'.map Part.literal ↔ l = l' :=
  List.map_inj_right fun _ _ => Part.literal.inj

theorem map_chunk_inj {l l' : List Quasi} : l.map Part.chunk = l'.map Part.chunk ↔ l = l' :=
  List.map_inj_right fun _ _ => Part.chunk.inj

theorem map_word_inj {l l' : List String} : l.map Part.word = l'.map Part.word ↔ l = l' :=
  List.map_inj_right fun _ _ => Part.word.inj

theorem toList_inj {α : Type} {o o' : Option α} : o.toList = o'.toList ↔ o = o' := by
  cases o <;> cases o' <;> simp

/-- A construct and its fields make up the tree. -/
theorem eq_of_fieldsOf {n m : Node} (hconstruct : n.ctorIdx = m.ctorIdx) (hfields : fieldsOf n = fieldsOf m) :
    n = m := by
  cases n
  all_goals
    -- the other tree is of this construct too
    refine @Node.ctorElim (fun m => fieldsOf _ = fieldsOf m → _ = m) _ m hconstruct ⟨?_⟩ hfields
    simp [trees_inj, map_literal_inj, map_chunk_inj, map_word_inj, toList_inj]

/-! ### Nothing is met twice -/

/-- What the walk takes from a piece. -/
def Part.candidates : Part → List String
  | .tree n => visit n
  | .literal s => visitString s
  | .chunk q => addressIn q.text
  | .word _ | .flag _ => []

theorem visitAll_eq_flatMap (ns : List Node) : visitAll ns = (trees ns).flatMap Part.candidates := by
  induction ns with
  | nil => rfl
  | cons n ns ih =>
      rw [visitAll, ih]
      rfl

theorem visitAny_eq_flatMap (o : Option Node) : visitAny o = (trees o.toList).flatMap Part.candidates := by
  cases o with
  | none => rfl
  | some n => exact (List.append_nil (visit n)).symm

theorem flatMap_visitString (l : List StringLiteral) :
    l.flatMap visitString = (l.map Part.literal).flatMap Part.candidates := by
  rw [List.flatMap_map]
  rfl

theorem takeChunks_eq_flatMap (quasis : List Quasi) :
    takeChunks quasis = (quasis.map Part.chunk).flatMap Part.candidates := by
  rw [List.flatMap_map]
  rfl

theorem flatMap_visitChunk (quasis : List Quasi) : quasis.flatMap visitChunk = [] :=
  List.flatMap_eq_nil_iff.2 fun _ _ => rfl

theorem flatMap_map_word (l : List String) : (l.map Part.word).flatMap Part.candidates = [] := by
  rw [List.flatMap_map]
  exact List.flatMap_eq_nil_iff.2 fun _ _ => rfl

namespace Node

/-- The pieces of a tree, in the order of its fields. -/
def parts (n : Node) : List Part :=
  (fieldsOf n).flatten

/-- The walk over a tree is one over its pieces, whatever the construct. -/
theorem visit_eq_flatMap (n : Node) : visit n = n.parts.flatMap Part.candidates := by
  rw [parts]
  cases n <;> simp [visit, visitAll_eq_flatMap, visitAny_eq_flatMap, flatMap_visitString, takeChunks_eq_flatMap,
    flatMap_visitChunk, flatMap_map_word, Part.candidates]

@[grind =] theorem mem_trees {n : Node} {ns : List Node} : .tree n ∈ trees ns ↔ n ∈ ns :=
  List.mem_map_of_injective fun _ _ => Part.tree.inj

theorem sizeOf_lt_of_mem_parts {n m : Node} (h : .tree m ∈ n.parts) : sizeOf m < sizeOf n := by
  have hlist : ∀ ns : List Node, m ∈ ns → sizeOf m < sizeOf ns := fun ns => List.sizeOf_lt_of_mem
  revert h
  rw [parts]
  cases n <;> grind

end Node

end LinkSurvey.Script
