import LinkSurvey.Script.Lexer

/-!
Texts written as strings. Between double quotes the quote itself, the backslash and the two ends of line have to be
escaped, and nothing else has. What is written so is read back character by character, whatever the text holds: marks
that open comments, templates or tags, and the line ends that a string may hold.
-/

namespace LinkSurvey.Script

/-- A character as it is written between double quotes. -/
def writtenChar (c : Char) : List Char :=
  if c == '\\' then ['\\', '\\']
  else if c == '"' then ['\\', '"']
  else if c == '\n' then ['\\', 'n']
  else if c == '\r' then ['\\', 'r']
  else [c]

/-- A text as it is written between double quotes. -/
def written (cs : List Char) : List Char :=
  cs.flatMap writtenChar

/-- Characters that stand between tokens and mean nothing. -/
def isGap (c : Char) : Bool :=
  isLineEnd c || isSpace c

namespace Lexer

theorem stringFrom_escape {e : Escape} {cs : List Char} (h : escape false cs = e) (hwellFormed : e.wellFormed = true)
    (text : List Char) (faults : List Fault) :
    stringFrom '"' text faults ('\\' :: cs) = stringFrom '"' (e.text.reverse ++ text) faults e.rest := by
  subst h
  rw [stringFrom, if_neg (by decide), if_pos (by decide)]
  dsimp only
  rw [if_pos hwellFormed]

theorem stringFrom_writtenChar (text : List Char) (faults : List Fault) (c : Char) (rest : List Char) :
    stringFrom '"' text faults (writtenChar c ++ rest) = stringFrom '"' (c :: text) faults rest := by
  fun_cases writtenChar c with
  | case1 h =>
      obtain rfl := eq_of_beq h
      exact stringFrom_escape (e := ⟨['\\'], rest, true⟩) rfl rfl text faults
  | case2 _ h =>
      obtain rfl := eq_of_beq h
      exact stringFrom_escape (e := ⟨['"'], rest, true⟩) rfl rfl text faults
  | case3 _ _ h =>
      obtain rfl := eq_of_beq h
      exact stringFrom_escape (e := ⟨['\n'], rest, true⟩) rfl rfl text faults
  | case4 _ _ _ h =>
      obtain rfl := eq_of_beq h
      exact stringFrom_escape (e := ⟨['\r'], rest, true⟩) rfl rfl text faults
  | case5 hbackslash hquote hfeed hreturn =>
      have hend : ¬(c == '\n' || c == '\r') = true := by
        rw [Bool.or_eq_true]
        exact not_or.2 ⟨hfeed, hreturn⟩
      rw [List.singleton_append, stringFrom, if_neg hquote, if_neg hbackslash, if_neg hend]

theorem stringFrom_written (text : List Char) (faults : List Fault) (cs rest : List Char) :
    stringFrom '"' text faults (written cs ++ '"' :: rest) = ⟨text.reverse ++ cs, rest, faults, true⟩ := by
  induction cs generalizing text with
  | nil => rw [written, List.flatMap_nil, List.nil_append, stringFrom, if_pos (by decide), List.append_nil]
  | cons c cs ih =>
      rw [written, List.flatMap_cons, List.append_assoc, stringFrom_writtenChar, ← written, ih, List.reverse_cons,
        List.append_assoc, List.singleton_append]

variable (d : Dialect) (lineBreak : Bool)

/-- A text that is written as a string is read as a string that stands for the text. -/
theorem next_written (cs rest : List Char) :
    next d lineBreak ('"' :: (written cs ++ '"' :: rest))
      = ⟨⟨.string, String.ofList cs, .cooked "", lineBreak, false, true⟩, rest, [], none⟩ := by
  have hgap : gap d .blank lineBreak none ('"' :: (written cs ++ '"' :: rest))
      = ⟨'"' :: (written cs ++ '"' :: rest), lineBreak, [], none⟩ := rfl
  rw [next, hgap]
  dsimp only
  rw [token, if_neg (by decide), if_pos (by decide), string, stringFrom_written]
  rfl

theorem gap_blank {c : Char} (h : isGap c = true) (cs : List Char) :
    gap d .blank lineBreak none (c :: cs) = gap d .blank (lineBreak || isLineEnd c) none cs := by
  have hslash : c ≠ '/' := by rintro rfl; exact absurd h (by decide)
  have hangle : c ≠ '<' := by rintro rfl; exact absurd h (by decide)
  have hdash : c ≠ '-' := by rintro rfl; exact absurd h (by decide)
  rw [gap]
  · cases hend : isLineEnd c with
    | true => rw [if_pos rfl, Bool.or_true]
    | false =>
        rw [isGap, hend, Bool.false_or] at h
        rw [if_neg Bool.false_ne_true, if_pos h, Bool.or_false]
  -- no comment opens here
  · exact fun _ hc _ => hslash hc
  · exact fun _ hc _ => hslash hc
  · exact fun _ hc _ => hangle hc
  · exact fun _ hc _ => hdash hc

/-- Blanks and line ends in front of a token matter only to whether it starts a line. -/
theorem next_gap {blanks : List Char} (h : blanks.all isGap = true) (cs : List Char) :
    next d lineBreak (blanks ++ cs) = next d (lineBreak || blanks.any isLineEnd) cs := by
  induction blanks generalizing lineBreak with
  | nil => rw [List.nil_append, List.any_nil, Bool.or_false]
  | cons c blanks ih =>
      rw [List.all_cons, Bool.and_eq_true] at h
      have hskip : next d lineBreak (c :: (blanks ++ cs)) = next d (lineBreak || isLineEnd c) (blanks ++ cs) := by
        rw [next, gap_blank d lineBreak h.1, ← next]
      rw [List.cons_append, hskip, ih _ h.2, List.any_cons, Bool.or_assoc]

end Lexer

end LinkSurvey.Script
