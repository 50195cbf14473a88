import LinkSurvey.Script
import LinkSurvey.Proofs.Script.Operand
import LinkSurvey.Proofs.Script.Written

/-!
Programs that do nothing but call a function with one string after another. Whatever the strings hold, each is read
back as it was before it was written, no matter how the calls are set apart, and so the addresses among the strings are
what the program holds for a survey.
-/

namespace LinkSurvey.Script

/-- A statement that calls a function with a string, and the blanks and line ends after it. -/
structure Call where
  argument : String
  after : List Char := []
  isGap_after : after.all isGap = true := by rfl

namespace Call

/-- The statement as it is written. -/
def source (c : Call) (rest : List Char) : List Char :=
  'f' :: '(' :: '"' :: (written c.argument.toList ++ '"' :: ')' :: ';' :: (c.after ++ rest))

/-- The statement as it is read. -/
def node (c : Call) : Node :=
  .expressionStatement (.call (.name "f") [.string ⟨c.argument⟩])

end Call

/-- The text of a program. -/
def program (calls : List Call) : List Char :=
  calls.foldr Call.source []

theorem length_le_program (calls : List Call) : calls.length ≤ (program calls).length := by
  induction calls with
  | nil => exact Nat.zero_le _
  | cons c calls ih =>
      rw [program, List.foldr_cons, ← program, Call.source]
      simp only [List.length_cons, List.length_append]
      omega

theorem visit_call (c : Call) : visit c.node = addressIn c.argument :=
  List.append_nil (addressIn c.argument)

theorem visit_calls (calls : List Call) :
    visit (.script [] (calls.map Call.node)) = (calls.map Call.argument).filter isWebAddress := by
  show visitAll (calls.map Call.node) = _
  induction calls with
  | nil => rfl
  | cons c calls ih =>
      rw [List.map_cons, visitAll, visit_call, ih, List.map_cons, List.filter_cons, addressIn]
      split <;> rfl

/-- A call is no directive, and no directives come before it. -/
theorem splitDirectives_calls (calls : List Call) :
    Node.splitDirectives (calls.map Call.node) = ([], calls.map Call.node) := by
  cases calls <;> rfl

namespace Lexer

variable (d : Dialect) (lineBreak : Bool)

theorem next_call (c : Call) (rest : List Char) :
    next d lineBreak (c.source rest)
      = ⟨⟨.word, "f", .cooked "", lineBreak, false, true⟩,
          '(' :: '"' :: (written c.argument.toList ++ '"' :: ')' :: ';' :: (c.after ++ rest)), [], none⟩ := by
  have hgap : gap d .blank lineBreak none (c.source rest) = ⟨c.source rest, lineBreak, [], none⟩ := rfl
  have hword : wordFrom [] [] false (c.source rest) = ⟨['f'], (c.source rest).drop 1, [], false⟩ := by
    rw [Call.source, wordFrom, if_neg (by decide), if_pos (by decide), wordFrom, if_neg (by decide),
      if_neg (by decide)]
    rfl
  rw [next, hgap, Call.source]
  dsimp only
  rw [token, if_pos (by decide), word, ← Call.source, hword]
  rfl

theorem faults_next_program (calls : List Call) : (next d lineBreak (program calls)).faults = [] := by
  cases calls with
  | nil => rfl
  | cons c calls => rw [program, List.foldr_cons, ← program, next_call]

/-- A lexeme is its token, what is behind it and a comment, if it has no faults. -/
theorem next_program_eq (calls : List Call) :
    next d lineBreak (program calls)
      = ⟨(next d lineBreak (program calls)).token, (next d lineBreak (program calls)).rest, [],
          (next d lineBreak (program calls)).comment⟩ := by
  rw [← faults_next_program d lineBreak calls]

end Lexer

namespace Parser

/-- A state within a text in which nothing is wrong so far: the token at hand and the text after it. -/
structure State.At (s : State) (t : Token) (rest : List Char) : Prop where
  token : s.token = t
  rest : s.rest = rest
  faults : s.faults = []
  inDecorator : s.context.inDecorator = false

variable {s : State}

theorem State.At.past {t t' : Token} {cs rest : List Char} {comment : Option Comment} (h : s.At t cs)
    (hnext : Lexer.next s.dialect false cs = ⟨t', rest, [], comment⟩) : s.past.At t' rest := by
  rw [← h.rest] at hnext
  exact {
    token := congrArg Lexeme.token hnext
    rest := congrArg Lexeme.rest hnext
    faults := by
      show (Lexer.next s.dialect false s.rest).faults ++ s.faults = []
      rw [hnext, h.faults]
      rfl
    inDecorator := h.inDecorator }

theorem State.At.isOneOf {spelling : String} {lineBreak : Bool} {rest : List Char}
    (h : s.At ⟨.mark, spelling, .cooked "", lineBreak, false, true⟩ rest) : s.token.IsOneOf [spelling] := by
  rw [h.token]
  exact ⟨rfl, List.mem_singleton_self spelling, rfl⟩

/-- A state in front of calls that are still to be read. -/
def State.Before (s : State) (calls : List Call) : Prop :=
  ∃ lineBreak, s.At (Lexer.next s.dialect lineBreak (program calls)).token
    (Lexer.next s.dialect lineBreak (program calls)).rest

theorem before_start (d : Dialect) (calls : List Call) : (start d (program calls)).Before calls := by
  have hinterpreter : withoutInterpreter (program calls) = program calls := by
    cases calls with
    | nil => rfl
    | cons c calls => rfl
  refine ⟨true, ?_, ?_, ?_, rfl⟩
  · rw [start, hinterpreter]
  · rw [start, hinterpreter]
  · show (Lexer.next d true (withoutInterpreter (program calls))).faults = []
    rw [hinterpreter, Lexer.faults_next_program]

/-- One call: its tokens are at hand, and behind them stand the calls after it. -/
theorem State.Before.step {c : Call} {calls : List Call} (h : s.Before (c :: calls)) :
    s.AtCall "f" c.argument ∧ s.past.past.past.past.past.Before calls := by
  obtain ⟨lineBreak, hname⟩ := h
  rw [program, List.foldr_cons, ← program, Lexer.next_call] at hname
  have hopening : s.past.At _ _ := hname.past rfl
  have hstring : s.past.past.At _ _ := hopening.past (Lexer.next_written _ _ _ _)
  have hclose : s.past.past.past.At _ _ := hstring.past rfl
  have hending : s.past.past.past.past.At _ _ := hclose.past rfl
  have hafter := Lexer.next_gap s.dialect false c.isGap_after (program calls)
  rw [Lexer.next_program_eq] at hafter
  constructor
  · exact {
      isPlainName := by rw [hname.token]; rfl
      name := by rw [hname.token]
      opening := hopening.isOneOf
      isString := by rw [hstring.token]
      unescaped := by rw [hstring.token]
      value := by rw [hstring.token, String.ofList_toList]
      close := hclose.isOneOf
      ending := hending.isOneOf
      inDecorator := hname.inDecorator }
  · exact ⟨_, hending.past hafter⟩

theorem State.Before.isDone {calls : List Call} (h : s.Before calls) : s.token.isDone = calls.isEmpty := by
  obtain ⟨lineBreak, hfirst⟩ := h
  rw [hfirst.token]
  cases calls with
  | nil => rfl
  | cons c calls =>
      rw [program, List.foldr_cons, ← program, Lexer.next_call]
      rfl

/-- A list of calls is read to its end, by induction on those that are still to be read. -/
theorem many_calls (n : Nat) {calls : List Call} (h : s.Before calls) {limit : Nat} (hlimit : calls.length < limit)
    (found : List Node) :
    ∃ s', s'.faults = [] ∧
      many (do if (← token).isDone then return none else some <$> descend (n + 5) (.statement .listed)) limit found s
        = .ok (found.reverse ++ calls.map Call.node) s' := by
  induction calls generalizing s limit found with
  | nil =>
      have hdone := h.isDone
      obtain ⟨lineBreak, hfirst⟩ := h
      refine ⟨s, hfirst.faults, ?_⟩
      rw [many_none ?_ hlimit, List.map_nil, List.append_nil]
      rw [bind_of_ok (token_run s), hdone]
      rfl
  | cons c calls ih =>
      obtain ⟨rest, rfl⟩ : ∃ n, limit = n + 1 := ⟨limit - 1, by omega⟩
      obtain ⟨hcall, hnext⟩ := h.step
      obtain ⟨s', hfaults, hrun⟩ := ih hnext (Nat.lt_of_succ_lt_succ hlimit) (c.node :: found)
      refine ⟨s', hfaults, ?_⟩
      have hfirst : (do if (← token).isDone then return none else some <$> descend (n + 5) (.statement .listed)) s
          = .ok (some c.node) s.past.past.past.past.past := by
        rw [bind_of_ok (token_run s), h.isDone]
        exact map_of_ok (statement_call hcall n)
      rw [many_some hfirst, hrun, List.reverse_cons, List.append_assoc, List.singleton_append, List.map_cons]

theorem parse_program (d : Dialect) (calls : List Call) :
    parse d (program calls) = .ok (.script [] (calls.map Call.node), []) := by
  obtain ⟨n, hn⟩ : ∃ n, steps (program calls) = n + 5 := ⟨16 * ((program calls).length + 4) - 5, by rw [steps]; omega⟩
  have hlimit : calls.length < steps (program calls) := by
    have hlength := length_le_program calls
    rw [steps]
    omega
  obtain ⟨s', hfaults, hrun⟩ := many_calls n (before_start d calls) hlimit []
  have hscript : script ⟨descend (n + 5), n + 5⟩ (start d (program calls))
      = .ok (.script [] (calls.map Call.node)) s' := by
    rw [hn] at hrun
    rw [script, bind_of_ok hrun, List.reverse_nil, List.nil_append, splitDirectives_calls]
    rfl
  have hfinal : s'.finalFaults = [] := by
    rw [State.finalFaults, hfaults]
    rfl
  rw [parse, hn, hscript]
  dsimp only
  rw [hfinal]

end Parser

/-- A program of calls is read without a fault, and its candidates are the addresses among the strings that the
function is called with, in their order and as often as they are there. -/
theorem scan_program (calls : List Call) :
    scan (program calls) = ⟨(calls.map Call.argument).filter isWebAddress, .clean, 0⟩ := by
  rw [scan, Parser.parse_program]
  dsimp only
  rw [Scan.ofParse, visit_calls]
  rfl

example : program [{ argument := "\\ \" \n", after := ['\n'] }, { argument := "//" }]
    = "f(\"\\\\ \\\" \\n\");\nf(\"//\");".toList := by decide

end LinkSurvey.Script
