import LinkSurvey.Html.Token

/-!
Trees of nodes, kept in one list in the order in which the nodes were made. A node is known by its
place in that list, which never changes; a node without a parent is not part of the document.
-/

namespace LinkSurvey.Html

inductive Space where
  | html
  | svg
  | math
  deriving DecidableEq, Repr

structure Element where
  name : String
  space : Space := .html
  attributes : Attributes := []
  deriving DecidableEq, Repr

/-- The value of an attribute. -/
def Element.attribute? (e : Element) (name : String) : Option Text :=
  e.attributes.lookup name

inductive Content where
  | document
  | doctype
  /-- The root of what a template holds. -/
  | fragment
  | comment
  | text (text : Text)
  | element (e : Element)
  deriving DecidableEq, Repr

abbrev NodeId := Nat

structure Node where
  content : Content
  parent : Option NodeId := none
  children : List NodeId := []
  deriving Repr

structure Tree where
  nodes : Array Node := #[{ content := .document }]

namespace Tree

/-- The document. -/
def root : NodeId := 0

def node? (t : Tree) (i : NodeId) : Option Node :=
  t.nodes[i]?

def element? (t : Tree) (i : NodeId) : Option Element :=
  match t.node? i with
  | some { content := .element e, .. } => some e
  | _ => none

def parent? (t : Tree) (i : NodeId) : Option NodeId :=
  (t.node? i).bind (·.parent)

def children (t : Tree) (i : NodeId) : List NodeId :=
  ((t.node? i).map (·.children)).getD []

def update (t : Tree) (i : NodeId) (f : Node → Node) : Tree :=
  ⟨t.nodes.modify i f⟩

/-- Make a node that is not yet part of the document. -/
def add (t : Tree) (content : Content) : Tree × NodeId :=
  (⟨t.nodes.push { content }⟩, t.nodes.size)

/-- Make an element. What a template holds hangs from a fragment of its own. -/
def addElement (t : Tree) (e : Element) : Tree × NodeId :=
  let (t, i) := t.add (.element e)
  if e.space = .html && e.name == "template" then
    let (t, f) := t.add .fragment
    let t := t.update f fun n => { n with parent := some i }
    (t.update i fun n => { n with children := [f] }, i)
  else (t, i)

/-- Take a node from its parent. -/
def detach (t : Tree) (i : NodeId) : Tree :=
  match t.parent? i with
  | none => t
  | some p =>
    let t := t.update p fun n => { n with children := n.children.erase i }
    t.update i fun n => { n with parent := none }

/-- Make a node the last child. -/
def append (t : Tree) (p i : NodeId) : Tree :=
  let t := t.detach i
  let t := t.update i fun n => { n with parent := some p }
  t.update p fun n => { n with children := n.children ++ [i] }

/-- Insert a node in front of another one. -/
def insertBefore (t : Tree) (sibling i : NodeId) : Tree :=
  let t := t.detach i
  match t.parent? sibling with
  | none => t
  | some p =>
    let t := t.update i fun n => { n with parent := some p }
    t.update p fun n =>
      let (before, after) := n.children.span (· != sibling)
      { n with children := before ++ i :: after }

/-- Extend a text node; says whether the node is one. -/
def extendText (t : Tree) (i : Option NodeId) (text : Text) : Option Tree :=
  match i with
  | none => none
  | some i =>
    match t.node? i with
    | some { content := .text old, .. } =>
      some (t.update i fun n => { n with content := .text (old ++ text) })
    | _ => none

/-- Text at the end of an element continues the text node that is there. -/
def appendText (t : Tree) (p : NodeId) (text : Text) : Tree :=
  match t.extendText (t.children p).getLast? text with
  | some t => t
  | none =>
    let (t, i) := t.add (.text text)
    t.append p i

/-- Text in front of a node continues the text node before it. -/
def insertTextBefore (t : Tree) (sibling : NodeId) (text : Text) : Tree :=
  match t.parent? sibling with
  | none => t
  | some p =>
    match t.extendText ((t.children p).takeWhile (· != sibling)).getLast? text with
    | some t => t
    | none =>
      let (t, i) := t.add (.text text)
      t.insertBefore sibling i

/-- Move all children of a node to the end of another one. -/
def moveChildren (t : Tree) (source target : NodeId) : Tree :=
  (t.children source).foldl (fun t i => t.append target i) t

/-- The fragment of a template. -/
def templateContent (t : Tree) (i : NodeId) : NodeId :=
  (t.children i).headD i

/-- Text below a node, in document order, as far as `depth` levels down. -/
def textTo (t : Tree) (depth : Nat) (i : NodeId) : Text :=
  match depth with
  | 0 => []
  | depth + 1 =>
    match t.node? i with
    | none => []
    | some n =>
      match n.content with
      | .text text => text
      | _ => n.children.flatMap (t.textTo depth)

/-- All text below a node. No path is longer than there are nodes. -/
def textOf (t : Tree) (i : NodeId) : Text :=
  t.textTo (t.nodes.size + 1) i

/-- The elements that have a parent, in the order in which they were made. -/
def elements (t : Tree) : List (NodeId × Element) :=
  (List.range t.nodes.size).filterMap fun i =>
    match t.node? i with
    | some { content := .element e, parent := some _, .. } => some (i, e)
    | _ => none

end Tree

end LinkSurvey.Html
