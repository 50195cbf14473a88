import LinkSurvey.Inline
import LinkSurvey.Proofs.Text.Pattern
import Mathlib.Data.List.Infix
import Mathlib.Data.List.TakeWhile

/-!
Addresses in script text, word by word. An address has no blank in it and takes all it can, so it goes on to the
end of its word; and of the places in a word where one could start the first is taken. So a word holds one
address or none, and the addresses of a text are those of its words.
-/

namespace LinkSurvey.Inline

open Text Text.Pattern

/-- What an address of the web starts with. -/
def webSchemes : List (List Char) :=
  ["http://".toList, "https://".toList]

/-- A scheme stands in front, and something comes after it. -/
def opensAddress (word : List Char) : Bool :=
  webSchemes.any fun scheme => scheme.isPrefixOf word && decide (scheme.length < word.length)

/-- The address in a word, if there is one: all that stands there from the first place on where one opens. -/
def address? (word : List Char) : Option (List Char) :=
  word.tails.find? opensAddress

/-- The words of a text: its longest stretches without a blank. -/
def words (text : List Char) : List (List Char) :=
  (text.splitOnP isBlank).filter (· ≠ [])

/-- A character of a word. -/
def isSolid (c : Char) : Bool :=
  !isBlank c

/-- An address from its scheme to the last character of its word. -/
structure IsAddress (address : List Char) : Prop where
  opens : opensAddress address = true
  solid : ∀ c ∈ address, isSolid c = true

/-- An address could start at the front of a text. -/
def AtFront (text : List Char) : Prop :=
  ∃ address rest, text = address ++ rest ∧ IsAddress address

/-- The addresses of a text, as they stand in it one after another: each is ended by a blank or by the end of the
text, and none could start before it or after the last one. -/
inductive Stand : List Char → List (List Char) → Prop where
  | none {text : List Char} (hnowhere : ∀ front back, text = front ++ back → ¬AtFront back) : Stand text []
  | next {before address rest : List Char} {addresses : List (List Char)} (haddress : IsAddress address)
      (hend : ∀ c ∈ rest.head?, isBlank c = true)
      (hfirst : ∀ front back, before = front ++ back → back ≠ [] → ¬AtFront (back ++ (address ++ rest)))
      (hrest : Stand rest addresses) : Stand (before ++ (address ++ rest)) (address :: addresses)

/-! ### Where an address opens -/

theorem opensAddress_iff {word : List Char} :
    opensAddress word = true ↔ ∃ scheme ∈ webSchemes, ∃ c rest, word = scheme ++ c :: rest := by
  simp only [opensAddress, List.any_eq_true, Bool.and_eq_true, List.isPrefixOf_iff_prefix, decide_eq_true_eq]
  refine exists_congr fun scheme => and_congr_right fun _ => ?_
  constructor
  · rintro ⟨⟨after, rfl⟩, hlength⟩
    cases after with
    | nil => simp at hlength
    | cons c rest => exact ⟨c, rest, rfl⟩
  · rintro ⟨c, rest, rfl⟩
    exact ⟨List.prefix_append _ _, by simp⟩

theorem isSolid_of_mem_scheme {scheme : List Char} (h : scheme ∈ webSchemes) : ∀ c ∈ scheme, isSolid c = true := by
  have hall : webSchemes.all (·.all isSolid) = true := by decide
  exact List.all_eq_true.1 (List.all_eq_true.1 hall scheme h)

theorem takeWhile_scheme {scheme : List Char} (hscheme : scheme ∈ webSchemes) {c : Char} (hc : isSolid c = true)
    (rest : List Char) :
    (scheme ++ c :: rest).takeWhile isSolid = scheme ++ c :: rest.takeWhile isSolid
      ∧ (scheme ++ c :: rest).dropWhile isSolid = rest.dropWhile isSolid := by
  have hsolid := isSolid_of_mem_scheme hscheme
  rw [List.takeWhile_append_of_pos hsolid, List.dropWhile_append_of_pos hsolid, List.takeWhile_cons_of_pos hc,
    List.dropWhile_cons_of_pos hc]
  exact ⟨rfl, rfl⟩

/-- The first word of a text opens an address exactly if a scheme stands in front and no blank after it. -/
theorem opensAddress_takeWhile_iff {text : List Char} :
    opensAddress (text.takeWhile isSolid) = true ↔
      ∃ scheme ∈ webSchemes, ∃ c rest, isSolid c = true ∧ text = scheme ++ c :: rest := by
  rw [opensAddress_iff]
  constructor
  · rintro ⟨scheme, hscheme, c, rest, hword⟩
    have hc : c ∈ text.takeWhile isSolid := by simp [hword]
    refine ⟨scheme, hscheme, c, rest ++ text.dropWhile isSolid, List.mem_takeWhile_imp hc, ?_⟩
    rw [← List.cons_append, ← List.append_assoc, ← hword, List.takeWhile_append_dropWhile]
  · rintro ⟨scheme, hscheme, c, rest, hc, rfl⟩
    exact ⟨scheme, hscheme, c, _, (takeWhile_scheme hscheme hc rest).1⟩

theorem atFront_iff {text : List Char} : AtFront text ↔ opensAddress (text.takeWhile isSolid) = true := by
  constructor
  · rintro ⟨address, rest, rfl, haddress⟩
    obtain ⟨scheme, hscheme, c, more, rfl⟩ := opensAddress_iff.1 haddress.opens
    have hc : isSolid c = true := haddress.solid c (by simp)
    exact opensAddress_takeWhile_iff.2 ⟨scheme, hscheme, c, more ++ rest, hc, by simp⟩
  · intro hopens
    exact ⟨_, _, List.takeWhile_append_dropWhile.symm, hopens, fun _ hc => List.mem_takeWhile_imp hc⟩

/-! ### The pattern -/

theorem addressPattern_eq :
    addressPattern = literal true "http" ++ (⟨(· == 's'), .atMostOnce, true⟩ ::
      (literal true "://" ++ [⟨isSolid, .once, true⟩, ⟨isSolid, .most, true⟩])) := by
  simp only [addressPattern, List.append_assoc, List.cons_append, List.nil_append]
  rfl

theorem matchFront_solid {c : Char} (hc : isSolid c = true) (rest : List Char) :
    matchFront [⟨isSolid, .once, true⟩, ⟨isSolid, .most, true⟩] (c :: rest)
      = some (c :: rest.takeWhile isSolid, rest.dropWhile isSolid) := by
  simp only [matchFront, Part.choose, hc, if_true]
  rw [Part.chooseMost_eq_some rfl]
  simp

theorem matchFront_scheme {scheme : List Char} (hscheme : scheme ∈ webSchemes) {c : Char}
    (hc : isSolid c = true) (rest : List Char) :
    addressPattern.matchFront (scheme ++ c :: rest)
      = some (scheme ++ c :: rest.takeWhile isSolid, rest.dropWhile isSolid) := by
  have hend : matchFront (literal true "://" ++ [⟨isSolid, .once, true⟩, ⟨isSolid, .most, true⟩])
      ("://".toList ++ c :: rest) = some ("://".toList ++ c :: rest.takeWhile isSolid, rest.dropWhile isSolid) := by
    rw [matchFront_literal, matchFront_solid hc]
    rfl
  simp only [webSchemes, List.mem_cons, List.not_mem_nil, or_false] at hscheme
  rw [addressPattern_eq]
  rcases hscheme with rfl | rfl
  · have hplain : matchFront (⟨(· == 's'), .atMostOnce, true⟩ ::
        (literal true "://" ++ [⟨isSolid, .once, true⟩, ⟨isSolid, .most, true⟩])) ("://".toList ++ c :: rest)
        = some ("://".toList ++ c :: rest.takeWhile isSolid, rest.dropWhile isSolid) := by
      have hcolon : (':' == 's') = false := by decide
      have hstart : "://".toList ++ c :: rest = ':' :: ("//".toList ++ c :: rest) := rfl
      rw [hstart] at hend ⊢
      simp only [matchFront, Part.choose, hcolon, Bool.false_eq_true, if_false, hend]
      rfl
    show matchFront _ ("http".toList ++ ("://".toList ++ c :: rest)) = _
    rw [matchFront_literal, hplain]
    rfl
  · have hsecure : matchFront (⟨(· == 's'), .atMostOnce, true⟩ ::
        (literal true "://" ++ [⟨isSolid, .once, true⟩, ⟨isSolid, .most, true⟩]))
        ('s' :: ("://".toList ++ c :: rest))
        = some ('s' :: ("://".toList ++ c :: rest.takeWhile isSolid), rest.dropWhile isSolid) := by
      simp only [matchFront, Part.choose, beq_self_eq_true, if_true, hend]
      rfl
    show matchFront _ ("http".toList ++ 's' :: ("://".toList ++ c :: rest)) = _
    rw [matchFront_literal, hsecure]
    rfl

/-- What the pattern reads is an address in any case. -/
theorem atFront_of_matchFront {text : List Char} {r : List Char × List Char}
    (h : addressPattern.matchFront text = some r) : AtFront text := by
  obtain ⟨address, rfl, hmatch⟩ := exists_of_matchFront h
  rw [addressPattern_eq] at hmatch
  obtain ⟨_, rfl, hafter⟩ := hmatch.of_literal
  obtain ⟨secure, _, rfl, hsecure, hend⟩ := hafter.of_cons
  obtain ⟨_, rfl, hsolid⟩ := hend.of_literal
  obtain ⟨_, more, rfl, hone, -⟩ := hsolid.of_cons
  obtain ⟨c, rfl⟩ := hone.once rfl
  have hc : isSolid c = true := hone.accepts c List.mem_cons_self
  have hscheme : "http".toList ++ (secure ++ "://".toList) ∈ webSchemes := by
    rcases hsecure.atMostOnce rfl with rfl | ⟨s, rfl⟩
    · decide
    · have hs : s = 's' := by simpa using hsecure.accepts s List.mem_cons_self
      rw [hs]
      decide
  refine atFront_iff.2 (opensAddress_takeWhile_iff.2 ⟨_, hscheme, c, more ++ r.2, hc, ?_⟩)
  simp only [List.append_assoc, List.cons_append, List.nil_append]

theorem matchFront_of_atFront {text : List Char} (h : AtFront text) :
    addressPattern.matchFront text = some (text.takeWhile isSolid, text.dropWhile isSolid) := by
  obtain ⟨scheme, hscheme, c, rest, hc, rfl⟩ := opensAddress_takeWhile_iff.1 (atFront_iff.1 h)
  obtain ⟨htake, hdrop⟩ := takeWhile_scheme hscheme hc rest
  rw [htake, hdrop, matchFront_scheme hscheme hc]

theorem matchFront_of_not_atFront {text : List Char} (h : ¬AtFront text) : addressPattern.matchFront text = none := by
  apply Option.eq_none_iff_forall_ne_some.2
  intro r hmatch
  exact h (atFront_of_matchFront hmatch)

/-! ### The addresses of a text -/

theorem not_atFront_nil : ¬AtFront [] := by
  rw [atFront_iff]
  decide

theorem scriptAddresses_nil : scriptAddresses [] = [] := by
  rw [scriptAddresses, findAll.eq_def, matchFront_of_not_atFront not_atFront_nil]

theorem length_dropWhile_lt {text : List Char} (h : AtFront text) :
    (text.dropWhile isSolid).length < text.length := by
  have hword : text.takeWhile isSolid ≠ [] := by
    intro hnil
    rw [atFront_iff, hnil] at h
    exact absurd h (by decide)
  have hlength := congrArg List.length (List.takeWhile_append_dropWhile (p := isSolid) (l := text))
  rw [List.length_append] at hlength
  have hpos := List.length_pos_iff.2 hword
  omega

theorem scriptAddresses_of_atFront {text : List Char} (h : AtFront text) :
    scriptAddresses text = text.takeWhile isSolid :: scriptAddresses (text.dropWhile isSolid) :=
  findAll_of_some (matchFront_of_atFront h) (length_dropWhile_lt h)

theorem scriptAddresses_cons_of_not {c : Char} {cs : List Char} (h : ¬AtFront (c :: cs)) :
    scriptAddresses (c :: cs) = scriptAddresses cs :=
  findAll_cons_of_none (matchFront_of_not_atFront h)

theorem isBlank_head?_dropWhile (text : List Char) : ∀ c ∈ (text.dropWhile isSolid).head?, isBlank c = true := by
  intro c hc
  have hhead := List.head?_dropWhile_not isSolid text
  rw [Option.mem_def] at hc
  rw [hc] at hhead
  simpa [isSolid] using hhead

theorem Stand.cons_of_not {c : Char} {text : List Char} {addresses : List (List Char)} (hc : ¬AtFront (c :: text))
    (h : Stand text addresses) : Stand (c :: text) addresses := by
  cases h with
  | none hnowhere =>
      refine .none fun front back hsplit => ?_
      cases front with
      | nil =>
          rw [List.nil_append] at hsplit
          rwa [← hsplit]
      | cons d front => exact hnowhere front back (List.cons.inj hsplit).2
  | @next before address rest addresses haddress hend hfirst hrest =>
      rw [← List.cons_append] at hc ⊢
      refine .next haddress hend (fun front back hsplit hback => ?_) hrest
      cases front with
      | nil =>
          rw [List.nil_append] at hsplit
          rwa [← hsplit]
      | cons d front => exact hfirst front back (List.cons.inj hsplit).2 hback

theorem stand_scriptAddresses (text : List Char) : Stand text (scriptAddresses text) := by
  induction hlength : text.length using Nat.strongRecOn generalizing text with
  | _ n ih =>
      cases text with
      | nil =>
          rw [scriptAddresses_nil]
          refine .none fun front back hsplit => ?_
          rw [(List.append_eq_nil_iff.1 hsplit.symm).2]
          exact not_atFront_nil
      | cons c cs =>
          by_cases hfront : AtFront (c :: cs)
          · have hstand : Stand ([] ++ ((c :: cs).takeWhile isSolid ++ (c :: cs).dropWhile isSolid))
                ((c :: cs).takeWhile isSolid :: scriptAddresses ((c :: cs).dropWhile isSolid)) := by
              refine .next ⟨atFront_iff.1 hfront, fun _ hd => List.mem_takeWhile_imp hd⟩
                (isBlank_head?_dropWhile _) (fun front back hsplit hback => ?_) ?_
              · exact absurd (List.append_eq_nil_iff.1 hsplit.symm).2 hback
              · exact ih _ (by rw [← hlength]; exact length_dropWhile_lt hfront) _ rfl
            rwa [List.nil_append, List.takeWhile_append_dropWhile, ← scriptAddresses_of_atFront hfront] at hstand
          · rw [scriptAddresses_cons_of_not hfront]
            exact (ih cs.length (by rw [← hlength]; simp) cs rfl).cons_of_not hfront

/-! ### Word by word -/

theorem words_append_blank {c : Char} (hc : isSolid c = false) (front back : List Char) :
    words (front ++ c :: back) = words front ++ words back := by
  rw [words, List.splitOnP_append_cons front back (by simpa [isSolid] using hc), List.filter_append]
  rfl

theorem filterMap_words_of_solid {word : List Char} (h : ∀ c ∈ word, isSolid c = true) :
    (words word).filterMap address? = (address? word).toList := by
  rw [words, List.splitOnP_eq_singleton fun c hc => by simpa [isSolid] using h c hc]
  by_cases hnil : word = []
  · rw [hnil]
    rfl
  · have hword : [word].filter (· ≠ []) = [word] := by simp [hnil]
    rw [hword, List.filterMap_cons]
    cases address? word <;> rfl

theorem address?_cons (c : Char) (word : List Char) :
    address? (c :: word) = if opensAddress (c :: word) then some (c :: word) else address? word := by
  rw [address?, List.tails_cons, List.find?_cons]
  cases opensAddress (c :: word) <;> rfl

/-- A word gives its own address, whatever comes after it. -/
theorem scriptAddresses_append {word rest : List Char} (hword : ∀ c ∈ word, isSolid c = true)
    (hrest : ∀ c ∈ rest.head?, isSolid c = false) :
    scriptAddresses (word ++ rest) = (address? word).toList ++ scriptAddresses rest := by
  have hnone : rest.takeWhile isSolid = [] ∧ rest.dropWhile isSolid = rest := by
    cases rest with
    | nil => exact ⟨rfl, rfl⟩
    | cons c rest =>
        have hc : ¬isSolid c = true := by simp [hrest c rfl]
        exact ⟨List.takeWhile_cons_of_neg hc, List.dropWhile_cons_of_neg hc⟩
  induction word with
  | nil => rfl
  | cons c word ih =>
      have htake : (c :: word ++ rest).takeWhile isSolid = c :: word := by
        rw [List.takeWhile_append_of_pos hword, hnone.1, List.append_nil]
      have hdrop : (c :: word ++ rest).dropWhile isSolid = rest := by
        rw [List.dropWhile_append_of_pos hword, hnone.2]
      rw [address?_cons]
      by_cases hopens : opensAddress (c :: word) = true
      · rw [scriptAddresses_of_atFront (atFront_iff.2 (by rwa [htake])), htake, hdrop, if_pos hopens]
        rfl
      · have hnot : ¬AtFront (c :: (word ++ rest)) := by
          rw [atFront_iff, ← List.cons_append, htake]
          exact hopens
        rw [List.cons_append, scriptAddresses_cons_of_not hnot, if_neg hopens]
        exact ih (List.forall_mem_cons.1 hword).2

theorem scriptAddresses_cons_blank {c : Char} (hc : isSolid c = false) (text : List Char) :
    scriptAddresses (c :: text) = scriptAddresses text := by
  apply scriptAddresses_cons_of_not
  rw [atFront_iff, List.takeWhile_cons_of_neg (by simp [hc])]
  decide

/-- The addresses of a text are those of its words, in order. So they stand in it one after another, each of them
from its scheme to the next blank or to the end of the text, and none is left out. -/
theorem scriptAddresses_words (text : List Char) :
    scriptAddresses text = (words text).filterMap address? ∧ Stand text (scriptAddresses text) := by
  refine ⟨?_, stand_scriptAddresses text⟩
  induction hlength : text.length using Nat.strongRecOn generalizing text with
  | _ n ih =>
      have hword : ∀ c ∈ text.takeWhile isSolid, isSolid c = true := fun _ hc => List.mem_takeWhile_imp hc
      have hsplit := List.takeWhile_append_dropWhile (p := isSolid) (l := text)
      have hend := isBlank_head?_dropWhile text
      generalize text.takeWhile isSolid = word at hword hsplit
      generalize text.dropWhile isSolid = rest at hsplit hend
      subst hsplit
      cases rest with
      | nil =>
          rw [scriptAddresses_append hword (by simp), scriptAddresses_nil, List.append_nil, List.append_nil,
            filterMap_words_of_solid hword]
      | cons c rest =>
          have hc : isSolid c = false := by simp [isSolid, hend c rfl]
          have hrest := ih rest.length (by rw [← hlength]; simp; omega) rest rfl
          rw [scriptAddresses_append hword (by simpa using hc), scriptAddresses_cons_blank hc,
            words_append_blank hc, List.filterMap_append, filterMap_words_of_solid hword, hrest]

end LinkSurvey.Inline
