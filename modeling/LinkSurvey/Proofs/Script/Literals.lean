import LinkSurvey.Proofs.Script.Parts
import LinkSurvey.Script
import Mathlib.Data.List.Nodup
import Mathlib.Data.Option.Basic

/-!
The literals of a script and the candidates among them. A tree holds text at sites: in its strings and in
the chunks of its templates, each reached by going from piece to piece. The walk over a tree passes every
site once, whatever the shape of the tree, so its candidates are the addresses at the sites, one for each.

Lists of sites are put together as trees are: those of a piece are seen from the whole by one more step, and
those of different pieces have nothing in common.
-/

namespace LinkSurvey.Script

/-- The way from a tree to one of its texts: the place of a piece of the tree, of a piece of that one, and so on. -/
abbrev Site := List Nat

/-- The text at a site: what a string stands for, or the text of a chunk. -/
def Node.textAt? (n : Node) : Site → Option String
  | [] => none
  | i :: site =>
    match n.parts[i]? with
    | some (.tree m) => m.textAt? site
    | some (.literal s) => if site.isEmpty then some s.value else none
    | some (.chunk q) => if site.isEmpty then some q.text else none
    | _ => none

theorem isWebAddress_iff (text : String) :
    isWebAddress text = true ↔ "http://".toList <+: text.toList ∨ "https://".toList <+: text.toList := by
  rw [isWebAddress, Bool.or_eq_true, List.isPrefixOf_iff_prefix, List.isPrefixOf_iff_prefix]

/-! ### Sites that are passed once -/

/-- The addresses at the sites of a kind are these texts: some list without repeats of the sites that hold
an address gives the texts one by one. -/
def PassedOnce {α : Type} (at? : α → Option String) (texts : List String) : Prop :=
  ∃ sites : List α, sites.Nodup ∧ (∀ s, s ∈ sites ↔ ∃ text, at? s = some text ∧ isWebAddress text = true)
    ∧ sites.map at? = texts.map some

theorem passedOnce_of_none {α : Type} {at? : α → Option String} (h : ∀ s, at? s = none) :
    PassedOnce at? [] := by
  refine ⟨[], List.nodup_nil, fun s => ?_, rfl⟩
  simp [h]

theorem PassedOnce.isWebAddress_of_mem {α : Type} {at? : α → Option String} {texts : List String}
    (h : PassedOnce at? texts) {text : String} (htext : text ∈ texts) : isWebAddress text = true := by
  obtain ⟨sites, -, hmem, htexts⟩ := h
  have hsome : some text ∈ sites.map at? := by
    rw [htexts]
    exact List.mem_map_of_mem htext
  obtain ⟨s, hs, hat⟩ := List.mem_map.1 hsome
  obtain ⟨other, hother, haddress⟩ := (hmem s).1 hs
  rw [hat] at hother
  rwa [Option.some.inj hother]

/-- A single site. -/
theorem passedOnce_unit (text : String) :
    PassedOnce (fun _ : Unit => some text) (addressIn text) := by
  rw [addressIn]
  cases haddress : isWebAddress text with
  | true =>
      refine ⟨[()], List.nodup_singleton (), fun s => ?_, rfl⟩
      simp [haddress]
  | false =>
      refine ⟨[], List.nodup_nil, fun s => ?_, rfl⟩
      simp [haddress]

/-- The sites that `place` leads to, seen from further off. -/
theorem PassedOnce.map {α β : Type} {at? : α → Option String} {texts : List String}
    (h : PassedOnce at? texts) (place : α → β) (hplace : Function.Injective place) {whole? : β → Option String}
    (hinside : ∀ s, whole? (place s) = at? s) (houtside : ∀ b text, whole? b = some text → ∃ s, place s = b) :
    PassedOnce whole? texts := by
  obtain ⟨sites, hnodup, hmem, htexts⟩ := h
  refine ⟨sites.map place, hnodup.map hplace, fun b => ?_, ?_⟩
  · rw [List.mem_map]
    constructor
    · rintro ⟨s, hs, rfl⟩
      rw [hinside]
      exact (hmem s).1 hs
    · rintro ⟨text, htext, haddress⟩
      obtain ⟨s, rfl⟩ := houtside b text htext
      rw [hinside] at htext
      exact ⟨s, (hmem s).2 ⟨text, htext, haddress⟩, rfl⟩
  · rw [List.map_map, ← htexts]
    exact List.map_congr_left fun s _ => hinside s

/-- Two views that do not see the same sites make up one. -/
theorem PassedOnce.append {α : Type} {first? second? whole? : α → Option String} {texts others : List String}
    (hfirst : PassedOnce first? texts) (hsecond : PassedOnce second? others)
    (hwhole : ∀ s, whole? s = (first? s).or (second? s))
    (hapart : ∀ s, first? s = none ∨ second? s = none) : PassedOnce whole? (texts ++ others) := by
  obtain ⟨sites, hnodup, hmem, htexts⟩ := hfirst
  obtain ⟨sites', hnodup', hmem', htexts'⟩ := hsecond
  have hleft : ∀ s ∈ sites, whole? s = first? s := by
    intro s hs
    obtain ⟨text, htext, -⟩ := (hmem s).1 hs
    rw [hwhole, htext, Option.some_or]
  have hright : ∀ s ∈ sites', first? s = none ∧ whole? s = second? s := by
    intro s hs
    obtain ⟨text, htext, -⟩ := (hmem' s).1 hs
    have hnone : first? s = none := (hapart s).resolve_right (by simp [htext])
    rw [hwhole, hnone, Option.none_or]
    exact ⟨rfl, rfl⟩
  refine ⟨sites ++ sites', List.nodup_append.2 ⟨hnodup, hnodup', ?_⟩, fun s => ?_, ?_⟩
  · rintro s hs _ hs' rfl
    obtain ⟨text, htext, -⟩ := (hmem s).1 hs
    rw [(hright s hs').1] at htext
    cases htext
  · rw [List.mem_append]
    constructor
    · rintro (hs | hs)
      · rw [hleft s hs]
        exact (hmem s).1 hs
      · rw [(hright s hs).2]
        exact (hmem' s).1 hs
    · rintro ⟨text, htext, haddress⟩
      rw [hwhole, Option.or_eq_some_iff] at htext
      rcases htext with htext | ⟨-, htext⟩
      · exact Or.inl ((hmem s).2 ⟨text, htext, haddress⟩)
      · exact Or.inr ((hmem' s).2 ⟨text, htext, haddress⟩)
  · rw [List.map_append, List.map_append, ← htexts, ← htexts', List.map_congr_left hleft,
      List.map_congr_left fun s hs => (hright s hs).2]

/-- The sites of the members of a list, seen from the list. -/
theorem passedOnce_flatMap {α β : Type} {at? : α → β → Option String} {texts : α → List String} {l : List α}
    (h : ∀ a ∈ l, PassedOnce (at? a) (texts a)) :
    PassedOnce (fun p : Nat × β => l[p.1]?.bind fun a => at? a p.2) (l.flatMap texts) := by
  induction l with
  | nil => exact passedOnce_of_none fun _ => rfl
  | cons a l ih =>
      obtain ⟨ha, hl⟩ := List.forall_mem_cons.1 h
      have hhead : PassedOnce (fun p : Nat × β => if p.1 = 0 then at? a p.2 else none) (texts a) := by
        refine ha.map (fun s => (0, s)) (fun s t hst => (Prod.mk.inj hst).2) (fun _ => rfl) ?_
        rintro ⟨i, s⟩ text hs
        cases i with
        | zero => exact ⟨s, rfl⟩
        | succ i => cases hs
      have htail : PassedOnce
          (fun p : Nat × β => if p.1 = 0 then none else l[p.1 - 1]?.bind fun a => at? a p.2)
          (l.flatMap texts) := by
        refine (ih hl).map (fun p => (p.1 + 1, p.2)) ?_ (fun _ => rfl) ?_
        · rintro ⟨i, s⟩ ⟨j, t⟩ hst
          obtain ⟨hij, hst⟩ := Prod.mk.inj hst
          exact Prod.ext (Nat.succ.inj hij) hst
        · rintro ⟨i, s⟩ text hs
          cases i with
          | zero => cases hs
          | succ i => exact ⟨(i, s), rfl⟩
      rw [List.flatMap_cons]
      refine hhead.append htail ?_ ?_
      · rintro ⟨i, s⟩
        cases i with
        | zero => exact (Option.or_none).symm
        | succ i => rfl
      · rintro ⟨i, s⟩
        cases i with
        | zero => exact Or.inr rfl
        | succ i => exact Or.inl rfl

/-! ### The walk -/

/-- The texts of a piece, by the site as seen from it. -/
def Part.textAt? : Part → Site → Option String
  | .tree n, site => n.textAt? site
  | .literal s, [] => some s.value
  | .chunk q, [] => some q.text
  | _, _ => none

theorem Node.textAt?_cons (n : Node) (i : Nat) (site : Site) :
    n.textAt? (i :: site) = n.parts[i]?.bind fun part => part.textAt? site := by
  rw [Node.textAt?]
  cases n.parts[i]? with
  | none => rfl
  | some part => cases part <;> cases site <;> rfl

/-- A piece that is a text has it at no distance. -/
theorem passedOnce_text {part : Part} {text : String} (hself : part.textAt? [] = some text)
    (hbelow : ∀ i site, part.textAt? (i :: site) = none) : PassedOnce part.textAt? (addressIn text) := by
  refine (passedOnce_unit text).map (fun _ => []) (fun _ _ _ => rfl) (fun _ => hself) ?_
  intro site found hfound
  cases site with
  | nil => exact ⟨(), rfl⟩
  | cons i site =>
      rw [hbelow] at hfound
      cases hfound

/-- The walk over a tree passes each of its sites once, by induction from the pieces to the whole. -/
theorem passedOnce_visit (n : Node) : PassedOnce n.textAt? (visit n) := by
  have hparts : ∀ part ∈ n.parts, PassedOnce part.textAt? part.candidates := by
    intro part hpart
    cases part with
    | tree m => exact passedOnce_visit m
    | literal s => exact passedOnce_text rfl fun _ _ => rfl
    | chunk q => exact passedOnce_text rfl fun _ _ => rfl
    | word text => exact passedOnce_of_none fun site => by cases site <;> rfl
    | flag isSet => exact passedOnce_of_none fun site => by cases site <;> rfl
  rw [n.visit_eq_flatMap]
  refine (passedOnce_flatMap hparts).map (fun p => p.1 :: p.2) ?_ (fun p => n.textAt?_cons p.1 p.2) ?_
  · rintro ⟨i, site⟩ ⟨j, site'⟩ h
    obtain ⟨rfl, rfl⟩ := List.cons.inj h
    rfl
  · intro site text hsite
    cases site with
    | nil => cases hsite
    | cons i site => exact ⟨(i, site), rfl⟩
termination_by sizeOf n
decreasing_by exact Node.sizeOf_lt_of_mem_parts hpart

/-! ### Scripts -/

/-- A script is read as a module, else as a classic script; only if neither can be parsed has it failed. -/
theorem scan_eq (source : List Char) :
    match Parser.parse .module source, Parser.parse .classic source with
    | .ok (tree, _), _ | .error _, .ok (tree, _) =>
      (scan source).candidates = visit tree ∧ (scan source).status ≠ .failed
    | .error _, .error _ => (scan source).candidates = [] ∧ (scan source).status = .failed := by
  rw [scan]
  cases Parser.parse .module source with
  | ok parsed => exact ⟨rfl, ParseStatus.ofErrorCount_ne_failed _⟩
  | error faults =>
      cases Parser.parse .classic source with
      | ok parsed => exact ⟨rfl, ParseStatus.ofErrorCount_ne_failed _⟩
      | error faults => exact ⟨rfl, rfl⟩

theorem isWebAddress_of_mem_scan {source : List Char} {c : String} (h : c ∈ (scan source).candidates) :
    isWebAddress c = true := by
  have hscan := scan_eq source
  split at hscan
  · rw [hscan.1] at h
    exact (passedOnce_visit _).isWebAddress_of_mem h
  · rw [hscan.1] at h
    exact (passedOnce_visit _).isWebAddress_of_mem h
  · rw [hscan.1] at h
    cases h

/-- The walk over any tree gives each address among its literals once: what is taken are the texts that start with
`http://` or `https://` of the strings and of the chunks of templates, one for each, and no others. All fields of every
construct count, since a tree has nothing else that tells it from others. The candidates of a script are those of the
tree that it is read as; if it can be read neither as a module nor as a classic script it has failed and has none. -/
theorem literals_once (source : List Char) :
    (∀ n m : Node, n.ctorIdx = m.ctorIdx → fieldsOf n = fieldsOf m → n = m)
      ∧ (∀ tree : Node, ∃ sites : List Site, sites.Nodup
        ∧ (∀ s, s ∈ sites ↔ ∃ text, tree.textAt? s = some text
            ∧ ("http://".toList <+: text.toList ∨ "https://".toList <+: text.toList))
        ∧ sites.map tree.textAt? = (visit tree).map some)
      ∧ (∀ c ∈ (scan source).candidates, "http://".toList <+: c.toList ∨ "https://".toList <+: c.toList)
      ∧ match Parser.parse .module source, Parser.parse .classic source with
        | .ok (tree, _), _ | .error _, .ok (tree, _) =>
          (scan source).candidates = visit tree ∧ (scan source).status ≠ .failed
        | .error _, .error _ => (scan source).candidates = [] ∧ (scan source).status = .failed := by
  simp only [← isWebAddress_iff]
  exact ⟨fun _ _ => eq_of_fieldsOf, passedOnce_visit, fun c hc => isWebAddress_of_mem_scan hc, scan_eq source⟩

example : visit (.importDeclaration [.importSpecifier (some (.string ⟨"http://a"⟩)) (.name "a")] ⟨"https://b"⟩ [])
    = ["http://a", "https://b"] := by decide

example : visit (.tagged (.name "f") (.template [.cooked "http://a", .raw "http://\\u"]
    [.template [.cooked "https://b"] []])) = ["http://a", "http://\\u", "https://b"] := by decide

end LinkSurvey.Script
