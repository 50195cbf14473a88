import LinkSurvey.Markup
import LinkSurvey.Proofs.Html.Builder
import LinkSurvey.Proofs.Html.Lexer

/-!
Writing markup and scanning it are inverse. Whatever links, scripts and styles a page is written with, and
in whatever order, a scan finds all of them, each as it was before it was written.
-/

namespace LinkSurvey.Markup

open Html (Text Builder Lexer Element Tree Outcome startText endText)
open Html (IsPlainName IsValue IsRawText IsPlainAttribute isPlainAttribute_none)
open Html.Build (take Standing Reading)

/-- The elements that refer to something. -/
inductive Reference where
  | a
  | link
  | script
  | img
  | iframe
  deriving DecidableEq, Repr

def Reference.name : Reference → String
  | .a => "a"
  | .link => "link"
  | .script => "script"
  | .img => "img"
  | .iframe => "iframe"

/-- The attribute that says what an element refers to. -/
def Reference.key : Reference → String
  | .a | .link => "href"
  | .script | .img | .iframe => "src"

/-- Whether an element has an end tag. -/
def Reference.hasEnd : Reference → Bool
  | .link | .img => false
  | .a | .script | .iframe => true

/-- What a page is written with. -/
inductive Item where
  /-- An element without content that refers to something. -/
  | reference (kind : Reference) (value : Text)
  /-- A script in the page itself. -/
  | script (text : Text)
  | style (text : Text)

namespace Item

def markup : Item → Text
  | .reference kind value =>
    startText kind.name.toList (some (kind.key.toList, value))
      ++ if kind.hasEnd then endText kind.name.toList else []
  | .script text => startText "script".toList none ++ text ++ endText "script".toList
  | .style text => startText "style".toList none ++ text ++ endText "style".toList

/-- Items that are read as they are written. -/
def IsPlain : Item → Prop
  | .reference _ value => IsValue value
  | .script text | .style text => IsRawText text

instance : DecidablePred IsPlain
  | .reference _ value => inferInstanceAs (Decidable (IsValue value))
  | .script text | .style text => inferInstanceAs (Decidable (IsRawText text))

/-- What an item refers to, if it is an element of this kind. -/
def value? (kind : Reference) : Item → Option Text
  | .reference other value => if other = kind then some value else none
  | _ => none

/-- The script that an item is, if it is not blank. -/
def script? : Item → Option Script
  | .reference .script source => if Text.allBlank source then none else some (.external source)
  | .script text => if Text.allBlank text then none else some (.inline text)
  | _ => none

/-- The text of an item that is a style, if it is not blank. -/
def style? : Item → Option Text
  | .style text => if Text.allBlank text then none else some text
  | _ => none

/-- What an item is in the tree of a page. -/
def leaf : Item → Element × Text
  | .reference kind value => ({ name := kind.name, attributes := [(kind.key, value)] }, [])
  | .script text => ({ name := "script" }, text)
  | .style text => ({ name := "style" }, text)

end Item

def doctype : Text :=
  "<!DOCTYPE html>".toList

/-- The markup of a page with these items. -/
def page (items : List Item) : Text :=
  doctype ++ items.flatMap Item.markup

/-! ### The tree of a page -/

/-- A lexer between two items, whose builder has these elements in its tree. -/
def Between (m : Lexer) (leaves : List (Element × Text)) : Prop :=
  ∃ b, m.Ready .data b ∧ Standing b leaves

variable {m : Lexer} {b b' : Builder} {leaves : List (Element × Text)}

/-- The name of an element whose tags are read as they are written, and that is neither a frame nor a
template. -/
structure IsOrdinary (name : String) : Prop where
  isPlainName : IsPlainName name.toList
  ne_nil : name.toList ≠ []
  ne_template : name ≠ "template"
  isFrame_eq : Tree.isFrame { name } = false

theorem isOrdinary_name (kind : Reference) : IsOrdinary kind.name := by
  cases kind <;> exact ⟨by decide, by decide, by decide, rfl⟩

theorem isOrdinary_style : IsOrdinary "style" :=
  ⟨by decide, by decide, by decide, rfl⟩

theorem isPlainAttribute_key (kind : Reference) {value : Text} (hvalue : IsValue value) :
    IsPlainAttribute (some (kind.key.toList, value)) := by
  intro a ha
  obtain rfl := Option.mem_some.1 ha
  have hkey : IsPlainName kind.key.toList ∧ kind.key.toList ≠ [] := by
    cases kind <;> decide
  exact ⟨hkey.1, hkey.2, hvalue⟩

theorem attributesOf_key (kind : Reference) (value : Text) :
    Lexer.attributesOf (some (kind.key.toList, value)) = [(kind.key, value)] := by
  rw [Lexer.attributesOf, Option.map_some, String.ofList_toList]
  rfl

theorem foldl_startText (h : m.Ready .data b) {name : String} (hname : IsOrdinary name)
    {attr : Option (Text × Text)} (hattr : IsPlainAttribute attr) {outcome : Option Outcome}
    (htake : (take (.start ⟨name, Lexer.attributesOf attr, false⟩)).run b = (outcome, b')) :
    ((startText name.toList attr).foldl Lexer.step m).Ready (Lexer.textState outcome) b'
      ∧ ((startText name.toList attr).foldl Lexer.step m).lastStart = some name.toList.reverse := by
  refine h.foldl_startText hname.isPlainName hname.ne_nil hattr ?_
  rw [String.ofList_toList]
  exact htake

/-- An element that text can be in, with its end tag. -/
theorem between_of_rawText (h : m.Ready .data b) {name : String} (hname : IsOrdinary name)
    {attr : Option (Text × Text)} (hattr : IsPlainAttribute attr) {kind : Html.RawKind}
    (hkind : Lexer.IsPlainKind kind)
    (htake : (take (.start ⟨name, Lexer.attributesOf attr, false⟩)).run b = (some (.rawText kind), b'))
    (hreading : Reading b' ⟨name, .html, Lexer.attributesOf attr⟩ leaves []) {text : Text} (htext : IsRawText text) :
    Between ((text ++ endText name.toList).foldl Lexer.step ((startText name.toList attr).foldl Lexer.step m))
      (leaves ++ [(⟨name, .html, Lexer.attributesOf attr⟩, text)]) := by
  obtain ⟨hstart, hlast⟩ := foldl_startText h hname hattr htake
  obtain ⟨pieces, hflatten, hpieces, hready⟩ :=
    hstart.foldl_rawElement htext hkind hname.isPlainName hname.ne_nil hlast
  have hread := hreading.take_pieces rfl hname.ne_template hpieces
  rw [List.nil_append, hflatten] at hread
  exact ⟨_, hready, hread.take_stop rfl hname.ne_template hname.isFrame_eq _⟩

theorem Between.foldl_reference (h : Between m leaves) (kind : Reference) {value : Text} (hvalue : IsValue value) :
    Between ((Item.reference kind value).markup.foldl Lexer.step m)
      (leaves ++ [(Item.reference kind value).leaf]) := by
  obtain ⟨b, hready, hstanding⟩ := h
  have hname := isOrdinary_name kind
  have hattr := isPlainAttribute_key kind hvalue
  have hempty : IsRawText [] := fun _ hc => absurd hc List.not_mem_nil
  rw [Item.leaf, ← attributesOf_key, Item.markup, List.foldl_append]
  cases kind with
  | a =>
      obtain ⟨b', htake, hnext⟩ := hstanding.take_a (Lexer.attributesOf (some ("href".toList, value)))
      obtain ⟨hstart, -⟩ := foldl_startText hready hname hattr htake
      exact ⟨_, hstart.foldl_endText hname.isPlainName hname.ne_nil, hnext⟩
  | link =>
      obtain ⟨b', htake, hnext⟩ := hstanding.take_link (Lexer.attributesOf (some ("href".toList, value)))
      exact ⟨b', (foldl_startText hready hname hattr htake).1, hnext⟩
  | script =>
      obtain ⟨b', htake, hreading⟩ := hstanding.take_script (Lexer.attributesOf (some ("src".toList, value)))
      exact between_of_rawText hready hname hattr (.inr rfl) htake hreading hempty
  | img =>
      obtain ⟨b', htake, hnext⟩ := hstanding.take_img (Lexer.attributesOf (some ("src".toList, value)))
      exact ⟨b', (foldl_startText hready hname hattr htake).1, hnext⟩
  | iframe =>
      obtain ⟨b', htake, hreading⟩ := hstanding.take_iframe (Lexer.attributesOf (some ("src".toList, value)))
      exact between_of_rawText hready hname hattr (.inl rfl) htake hreading hempty

theorem Between.foldl_markup (h : Between m leaves) {item : Item} (hitem : item.IsPlain) :
    Between (item.markup.foldl Lexer.step m) (leaves ++ [item.leaf]) := by
  cases item with
  | reference kind value => exact h.foldl_reference kind hitem
  | script text =>
      obtain ⟨b, hready, hstanding⟩ := h
      obtain ⟨b', htake, hreading⟩ := hstanding.take_script []
      rw [Item.markup, List.append_assoc, List.foldl_append]
      exact between_of_rawText hready (isOrdinary_name .script) isPlainAttribute_none (.inr rfl) htake hreading hitem
  | style text =>
      obtain ⟨b, hready, hstanding⟩ := h
      obtain ⟨b', htake, hreading⟩ := hstanding.take_style []
      rw [Item.markup, List.append_assoc, List.foldl_append]
      exact between_of_rawText hready isOrdinary_style isPlainAttribute_none (.inl rfl) htake hreading hitem

/-- The document type is the first node of the document, and known to be in order. -/
theorem foldl_doctype : doctype.foldl Lexer.step {} = {
    builder := {
      tree := ⟨#[{ content := .document, children := [1] }, { content := .doctype, parent := some Tree.root }]⟩
      mode := .beforeHtml }
    declared := { name := some "lmth".toList } } :=
  rfl

theorem between_doctype : Between (doctype.foldl Lexer.step {}) [] := by
  rw [foldl_doctype]
  refine ⟨_, ⟨rfl, rfl, rfl, rfl, rfl, rfl, rfl⟩, .fresh ?_⟩
  exact ⟨⟨rfl, rfl, rfl⟩, rfl, rfl, rfl, Nat.zero_lt_two, rfl⟩

theorem Between.foldl_items (h : Between m leaves) {items : List Item} (hitems : ∀ item ∈ items, item.IsPlain) :
    Between ((items.flatMap Item.markup).foldl Lexer.step m) (leaves ++ items.map Item.leaf) := by
  induction items generalizing m leaves with
  | nil => rwa [List.map_nil, List.append_nil]
  | cons item items ih =>
      obtain ⟨hitem, hitems⟩ := List.forall_mem_cons.1 hitems
      rw [List.flatMap_cons, List.foldl_append, List.map_cons, ← List.singleton_append, ← List.append_assoc]
      exact ih (h.foldl_markup hitem) hitems

theorem withoutMark_page (items : List Item) : Html.withoutMark (page items) = page items := by
  have hfirst : (page items).head? = some '<' := rfl
  rw [Html.withoutMark, hfirst, if_neg (by decide)]

theorem bears_parse {items : List Item} (h : ∀ item ∈ items, item.IsPlain) :
    (Html.Document.parse (page items)).tree.Bears (items.map Item.leaf) := by
  obtain ⟨b, hready, hstanding⟩ := between_doctype.foldl_items h
  rw [Html.Document.parse, withoutMark_page, page, List.foldl_append, hready.finish_eq]
  exact hstanding.take_eof

/-! ### What is read off the tree -/

variable {t : Tree} {items : List Item}

/-- What is read off the elements of a name can be read off the items. -/
theorem filterMap_named (h : t.Bears (items.map Item.leaf)) (name : String)
    (hname : Tree.isFrame { name } = false) {α : Type} (f : Element → Text → Option α) {g : Item → Option α}
    (hg : ∀ item, g item = if item.leaf.1.name = name then f item.leaf.1 item.leaf.2 else none) :
    (named t name).filterMap (fun x => f x.2 (t.textOf x.1)) = items.filterMap g := by
  rw [named, h.filterMap_named hname f, List.filterMap_map]
  exact List.filterMap_congr fun item _ => (hg item).symm

theorem linkAttributes_eq :
    linkAttributes = [Reference.a, .link, .script, .img, .iframe].map fun kind => (kind.name, kind.key) :=
  rfl

/-- No two kinds of elements that refer to something have a name in common, and a style refers to nothing. -/
theorem value?_eq (kind : Reference) (item : Item) :
    item.value? kind = if item.leaf.1.name = kind.name then item.leaf.1.attribute? kind.key else none := by
  cases item with
  | reference other value => cases kind <;> cases other <;> rfl
  | script text => cases kind <;> rfl
  | style text => cases kind <;> rfl

theorem links_eq (h : t.Bears (items.map Item.leaf)) :
    links t = [Reference.a, .link, .script, .img, .iframe].flatMap fun kind => items.filterMap (Item.value? kind) := by
  rw [links, linkAttributes_eq, List.flatMap_map]
  refine List.flatMap_congr fun kind _ => ?_
  have hname : Tree.isFrame { name := kind.name } = false := by
    cases kind <;> rfl
  exact filterMap_named h kind.name hname (fun e _ => e.attribute? kind.key) (value?_eq kind)

theorem source?_src (source : Text) :
    source? { name := "script", attributes := [("src", source)] }
      = if Text.allBlank source then none else some source := by
  change (some source).filter (fun s => !Text.allBlank s) = _
  cases hblank : Text.allBlank source <;> simp [hblank]

/-- The script that an element is, if it is one. -/
def code? (e : Element) (text : Text) : Option Script :=
  match source? e with
  | some source => some (.external source)
  | none => (if Text.allBlank text then none else some text).map .inline

theorem script?_eq (item : Item) :
    item.script? = if item.leaf.1.name = "script" then code? item.leaf.1 item.leaf.2 else none := by
  cases item with
  | reference kind value =>
      cases kind with
      | script =>
          change _ = code? { name := "script", attributes := [("src", value)] } []
          have hempty : Text.allBlank [] = true := rfl
          rw [Item.script?, code?, source?_src, if_pos hempty]
          split_ifs <;> rfl
      | a | link | img | iframe => rfl
  | script text =>
      change _ = (if Text.allBlank text then none else some text).map Script.inline
      rw [Item.script?]
      split_ifs <;> rfl
  | style text => rfl

theorem scripts_eq (h : t.Bears (items.map Item.leaf)) : scripts t = items.filterMap Item.script? :=
  filterMap_named h "script" rfl code? script?_eq

theorem styles_eq (h : t.Bears (items.map Item.leaf)) : styles t = items.filterMap Item.style? := by
  refine filterMap_named h "style" rfl (fun _ text => if Text.allBlank text then none else some text)
    fun item => ?_
  cases item with
  | reference kind value => cases kind <;> rfl
  | script text => rfl
  | style text => rfl

/-- A scan of a page finds the values of its references, by the kinds of elements and then in the order of
the page, and in that order the scripts and the styles that are not blank. -/
theorem scan_page {items : List Item} (h : ∀ item ∈ items, item.IsPlain) :
    (scan (page items)).candidates
        = [Reference.a, .link, .script, .img, .iframe].flatMap (fun kind => items.filterMap (Item.value? kind))
      ∧ scripts (scan (page items)).tree = items.filterMap Item.script?
      ∧ styles (scan (page items)).tree = items.filterMap Item.style? :=
  ⟨links_eq (bears_parse h), scripts_eq (bears_parse h), styles_eq (bears_parse h)⟩

/-- A page that goes back and forth between the elements, with values that are empty, blank or full of
delimiters. -/
def mixed : List Item := [
  .style "\np { }".toList,
  .reference .script " ".toList,
  .reference .a "?a=1&b=\"2\"".toList,
  .script "f();\n".toList,
  .reference .link [],
  .style " ".toList,
  .reference .iframe "&quot;".toList,
  .reference .script "/app.js".toList,
  .reference .a "<a>".toList]

theorem scan_page_mixed :
    (∀ item ∈ mixed, item.IsPlain)
      ∧ (scan (page mixed)).candidates
        = ["?a=1&b=\"2\"", "<a>", "", " ", "/app.js", "&quot;"].map String.toList
      ∧ scripts (scan (page mixed)).tree = [.inline "f();\n".toList, .external "/app.js".toList]
      ∧ styles (scan (page mixed)).tree = ["\np { }".toList] := by
  have hplain : ∀ item ∈ mixed, item.IsPlain := by
    decide
  obtain ⟨hcandidates, hscripts, hstyles⟩ := scan_page hplain
  exact ⟨hplain, hcandidates.trans rfl, hscripts.trans rfl, hstyles.trans rfl⟩

example : page [.reference .a "?a=1&b=\"2\"".toList, .reference .img []]
    = "<!DOCTYPE html><a href=\"?a=1&amp;b=&quot;2&quot;\"></a><img src=\"\">".toList := by
  decide

end LinkSurvey.Markup
