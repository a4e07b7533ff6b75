import Scriptlet.Proofs.Token.Longest
import Scriptlet.Proofs.Token.Tokenize

/-!
# Where scanning stops

A scanner that is asked again and again hands out its tokens, then at most one error, and then
nothing for ever (`Scanner.answers_drainWithin`). The text in front of which it stops with an error
is described by its first character and, for a quote, by the rest of the line (`Scanner.Refused`).
-/

namespace Scriptlet

/-! ## The line of a text -/

namespace Text

/-- The line is what stands before the first line break of the text, or the whole text if it has
none. A carriage return before a line feed belongs to the line break. -/
def IsFirstLine (text line : List Char) : Prop :=
  '\n' ∉ line ∧
    (text = line ∨ (∃ behind, text = line ++ '\r' :: '\n' :: behind) ∨
      ∃ behind, text = line ++ '\n' :: behind ∧ line.getLast? ≠ some '\r')

variable {text line : List Char}

/-- A text without a line break is its first line. -/
lemma firstLine_of_clean (clean : '\n' ∉ line) : firstLine line = line := by
  have whole : line.takeWhile (· ≠ '\n') = line :=
    List.takeWhile_eq_self_iff.2 (all_ne_of_not_mem clean)
  rw [firstLine, whole, if_neg (by simp)]

/-- The first line ends before the line break, and before a carriage return in front of it. -/
lemma firstLine_append (clean : '\n' ∉ line) (behind : List Char) :
    firstLine (line ++ '\n' :: behind) =
      if line.getLast? = some '\r' then line.dropLast else line := by
  have cut : (line ++ '\n' :: behind).takeWhile (· ≠ '\n') = line :=
    takeWhile_of_free (all_ne_of_not_mem clean) (by simp [Free])
  have shorter : line.length < (line ++ '\n' :: behind).length := by simp
  simp only [firstLine, cut, shorter, true_and]

/-- The first line is one. -/
lemma isFirstLine_firstLine (text : List Char) : IsFirstLine text (firstLine text) := by
  by_cases breaks : '\n' ∈ text
  · obtain ⟨line, behind, rfl, clean⟩ := List.eq_append_cons_of_mem breaks
    rw [firstLine_append clean]
    split
    · rename_i ends
      obtain ⟨init, rfl⟩ := List.getLast?_eq_some_iff.1 ends
      rw [List.dropLast_concat]
      exact ⟨fun member => clean (by simp [member]), .inr (.inl ⟨behind, by simp⟩)⟩
    · rename_i ends
      exact ⟨clean, .inr (.inr ⟨behind, rfl, ends⟩)⟩
  · rw [firstLine_of_clean breaks]
    exact ⟨breaks, .inl rfl⟩

/-- There is only one first line. -/
lemma isFirstLine_iff : IsFirstLine text line ↔ line = firstLine text := by
  constructor
  · rintro ⟨clean, rfl | ⟨behind, rfl⟩ | ⟨behind, rfl, ends⟩⟩
    · exact (firstLine_of_clean clean).symm
    · have clean' : '\n' ∉ line ++ ['\r'] := by simp [clean]
      have cut := firstLine_append clean' behind
      simpa using cut.symm
    · rw [firstLine_append clean, if_neg ends]
  · rintro rfl
    exact isFirstLine_firstLine text

/-- A line of a text that starts with another character than a line break starts with it too. -/
lemma IsFirstLine.head? {c : Char} {tail : List Char} (first : IsFirstLine (c :: tail) line)
    (feed : c ≠ '\n') (carriage : c ≠ '\r') : line.head? = some c := by
  obtain ⟨-, whole | ⟨behind, cut⟩ | ⟨behind, cut, -⟩⟩ := first
  · rw [← whole]
    rfl
  · cases line with
    | nil => exact absurd (List.cons.inj cut).1 carriage
    | cons d line => exact congrArg some (List.cons.inj cut).1.symm
  · cases line with
    | nil => exact absurd (List.cons.inj cut).1 feed
    | cons d line => exact congrArg some (List.cons.inj cut).1.symm

/-- A quote is ahead, perhaps behind an at-sign, and the line goes on to another quote. -/
def OpensString (text : List Char) : Prop :=
  ∃ sign ∈ Token.Rule.signs, ∃ body, text = sign ++ '"' :: body ∧ '"' ∈ body.takeWhile (· ≠ '\n')

end Text

/-- A string is taken exactly if one is opened and closed on the line. -/
lemma Token.Rule.string_isSome_iff {r : Reader} :
    (string r).isSome ↔ Text.OpensString r.rest := by
  rw [Option.isSome_iff_exists]
  constructor
  · rintro ⟨next, taken⟩
    obtain ⟨sign, member, inner, clean, -, passes⟩ := string_iff.1 taken
    refine ⟨sign, member, inner ++ '"' :: next.rest, by simpa using passes.1, ?_⟩
    rw [List.takeWhile_append_of_pos (Text.all_ne_of_not_mem clean)]
    simp
  · rintro ⟨sign, member, body, ahead, closes⟩
    obtain ⟨inner, behind, split⟩ := List.append_of_mem closes
    have clean : '\n' ∉ inner := by
      intro among
      have inside : '\n' ∈ body.takeWhile (· ≠ '\n') := split ▸ List.mem_append_left _ among
      simpa using List.mem_takeWhile_imp inside
    refine matches_string.accepts (Kind.mem_language_string.2 ⟨sign, member, inner, clean, rfl⟩) ?_
    have front : inner ++ '"' :: behind <+: body := split ▸ List.takeWhile_prefix _
    obtain ⟨more, whole⟩ := front
    exact ⟨behind ++ more, by simp [ahead, ← whole]⟩

namespace Scanner
open Token

/-! ## The texts that are refused -/

/-- Something is ahead, its first character starts no lexeme of one of the classes, and it is not a
string either. -/
def Refused (rest : List Char) : Prop :=
  ∃ c tail, rest = c :: tail ∧ Text.isBlank c = false ∧ c.isDigit = false ∧ c ∉ Rule.singles ∧
    Text.isWord c = false ∧ ¬ Text.OpensString rest

/-- There is no next token exactly if every rule refuses. -/
lemma token?_eq_none_iff_rule {r : Reader} :
    token? r = none ↔ ∀ kind ∈ Kind.byPriority, kind.rule r = none := by
  simp [token?, Kind.split?]

/-- A text is refused exactly if it is stuck and not empty. -/
lemma refused_iff {rest : List Char} : Refused rest ↔ Stuck rest ∧ rest ≠ [] := by
  let r : Reader := ⟨0, rest⟩
  have stuck_iff : Stuck rest ↔ ∀ kind ∈ Kind.byPriority, kind.rule r = none :=
    (token?_eq_none_iff (r := r)).symm.trans token?_eq_none_iff_rule
  rw [stuck_iff]
  constructor
  · rintro ⟨c, tail, ahead, blank, digit, symbol, word, closed⟩
    refine ⟨?_, by simp [ahead]⟩
    intro kind _
    cases accepted : kind.rule r with
    | none => rfl
    | some next =>
      obtain ⟨d, behind, ahead', opens⟩ := Kind.opens_of_rule accepted
      obtain ⟨rfl, -⟩ := List.cons.inj (ahead'.symm.trans ahead)
      exfalso
      cases kind with
      | comment => exact symbol (by rw [show d = '/' from opens]; decide)
      | number => exact Bool.false_ne_true (digit.symm.trans opens)
      | whitespace => exact Bool.false_ne_true (blank.symm.trans opens)
      | punctuation => exact symbol opens
      | identifier => exact Bool.false_ne_true (word.symm.trans opens)
      | string => exact closed (Rule.string_isSome_iff.1 (Option.isSome_of_eq_some accepted))
      | forClause =>
        rw [show d = 'f' from opens] at word
        exact absurd word (by decide)
      | sentinel => exact opens
  · rintro ⟨none_accepts, solid⟩
    obtain ⟨c, tail, ahead⟩ := List.exists_cons_of_ne_nil solid
    -- a rule for the runs of a class refuses only what does not start with the class
    have free : ∀ {condition : Char → Bool}, r.takeSome? condition = none → condition c = false :=
      fun refuses => Rule.takeSome?_eq_none_iff.1 refuses c (by simp [r, ahead])
    refine ⟨c, tail, ahead, free (none_accepts .whitespace (by decide)),
      free (none_accepts .number (by decide)), ?_, free (none_accepts .identifier (by decide)), ?_⟩
    · intro single
      have refuses := none_accepts .punctuation (by decide)
      have inside := Kind.mem_language_punctuation.2 (.inr ⟨c, single, rfl⟩)
      exact Rule.matches_punctuation.eq_none_iff.1 refuses [c] inside ⟨tail, ahead.symm⟩
    · intro opens
      have accepts := Rule.string_isSome_iff.2 (show Text.OpensString r.rest from opens)
      have refuses := none_accepts .string (by decide)
      rw [Kind.rule] at refuses
      simp [refuses] at accepts

/-- The character that stops a scanner is not a part of a line break, and it is not a slash. -/
lemma Refused.exists_head {rest : List Char} (refused : Refused rest) :
    ∃ c tail, rest = c :: tail ∧ c ≠ '\n' ∧ c ≠ '\r' ∧ c ≠ '/' := by
  obtain ⟨c, tail, ahead, blank, -, symbol, -⟩ := refused
  refine ⟨c, tail, ahead, ?_, ?_, ?_⟩
  · rintro rfl
    exact absurd blank (by decide)
  · rintro rfl
    exact absurd blank (by decide)
  · rintro rfl
    exact symbol (by decide)

/-! ## Asking again and again -/

/-- The answers that a scanner gives if it is asked so many times. One that has nothing more stays
as it is. -/
def answers : Nat → Scanner → List (Option (Except LexError Token))
  | 0, _ => []
  | times + 1, s =>
    match s.next? with
    | none => none :: answers times s
    | some (item, next) => some item :: answers times next

/-- The tokens and then the error, if there is one. -/
def Yield.items (yield : Yield) : List (Except LexError Token) :=
  yield.tokens.map .ok ++ yield.failure.toList.map .error

/-- What one question does: a token leaves a scanner with less ahead, and an error leaves one that
has nothing more. -/
lemma next?_eq_some {s next : Scanner} {item : Except LexError Token}
    (asked : s.next? = some (item, next)) :
    (∃ token, item = .ok token ∧ next.reader.rest.length < s.reader.rest.length) ∨
      ∃ e, item = .error e ∧ next.next? = none := by
  rw [next?, Option.ite_none_left_eq_some] at asked
  obtain ⟨-, asked⟩ := asked
  cases accepted : token? s.reader with
  | none =>
    rw [accepted] at asked
    obtain ⟨rfl, rfl⟩ := Prod.mk.inj (Option.some.inj asked)
    exact .inr ⟨_, rfl, rfl⟩
  | some found =>
    obtain ⟨token, reader⟩ := found
    rw [accepted] at asked
    obtain ⟨rfl, rfl⟩ := Prod.mk.inj (Option.some.inj asked)
    obtain ⟨formed, -, passes⟩ := token?_eq_some_iff.1 accepted
    obtain ⟨c, tail, spelled, -⟩ := formed.exists_opens
    refine .inl ⟨token, rfl, ?_⟩
    rw [passes.1, spelled]
    simp only [List.length_append, List.length_cons]
    omega

/-- A scanner that is finished stays finished. -/
lemma answers_of_none {s : Scanner} (finished : s.next? = none) (times : Nat) :
    s.answers times = List.replicate times none := by
  induction times with
  | zero => rfl
  | succ times ih => rw [answers, finished, List.replicate_succ, ← ih]

/-- A scanner hands out what it yields and then nothing more, however often it is asked. -/
lemma answers_drainWithin {rounds times silent : Nat} {s : Scanner}
    (enough : s.reader.rest.length < rounds) (often : times ≤ silent) :
    s.answers times =
      ((s.drainWithin rounds).items.map some ++ List.replicate silent none).take times := by
  induction rounds generalizing s times with
  | zero => exact absurd enough (Nat.not_lt_zero _)
  | succ rounds ih =>
    cases asked : s.next? with
    | none =>
      have stops : s.drainWithin (rounds + 1) = ⟨[], none, s⟩ := by simp only [drainWithin, asked]
      rw [answers_of_none asked, stops]
      simp [Yield.items, List.take_replicate, often]
    | some reply =>
      obtain ⟨item, next⟩ := reply
      cases times with
      | zero => rfl
      | succ times =>
        rw [answers, asked]
        obtain ⟨token, rfl, shorter⟩ | ⟨e, rfl, finished⟩ := next?_eq_some asked
        · have goes : (s.drainWithin (rounds + 1)).items =
              .ok token :: (next.drainWithin rounds).items := by
            simp only [drainWithin, asked, Yield.items, List.map_cons, List.cons_append]
          rw [goes, List.map_cons, List.cons_append, List.take_succ_cons,
            ← ih (by omega) (by omega)]
        · have stops : s.drainWithin (rounds + 1) = ⟨[], some e, next⟩ := by
            simp only [drainWithin, asked]
          -- behind the error there is nothing but silence
          have quiet : min times silent = times := by omega
          simp [stops, answers_of_none finished, Yield.items, List.take_replicate, quiet]

end Scanner

open Scanner

/-- There is an error exactly where the tokens leave something that is refused. -/
lemma drain_failure_iff {source : String} {e : LexError} :
    (ofText source).drain.failure = some e ↔
      ∃ rest, source.toList = Token.spelling (ofText source).drain.tokens ++ rest ∧
        Text.byteLength (Token.spelling (ofText source).drain.tokens) = e.position ∧
        Refused rest ∧ Text.IsFirstLine rest e.snippet.toList := by
  obtain ⟨rest, stuck, lexes, failure⟩ :=
    drainWithin_lexes (Nat.lt_succ_self (Reader.ofText source).rest.length)
  have start : (Reader.ofText source).offset = 0 := rfl
  have whole := lexes.spelling_append
  rw [start, Nat.zero_add] at failure
  constructor
  · intro failed
    rw [drain, ofText, failure, failureAt, Option.ite_none_left_eq_some] at failed
    obtain ⟨left, named⟩ := failed
    obtain rfl := Option.some.inj named
    refine ⟨rest, whole, rfl, refused_iff.2 ⟨stuck, left⟩, ?_⟩
    rw [String.toList_ofList]
    exact Text.isFirstLine_firstLine rest
  · rintro ⟨rest', whole', position, refused, line⟩
    obtain rfl : rest = rest' := List.append_cancel_left (whole.symm.trans whole')
    rw [drain, ofText, failure, failureAt, if_neg (refused_iff.1 refused).2]
    obtain ⟨_, snippet⟩ := e
    rw [Text.isFirstLine_iff] at line
    rw [← line, String.ofList_toList]
    exact congrArg (fun place => some (LexError.mk place snippet)) position

/-- A scanner of a text hands out finitely many tokens, then an error if there is one, and then
nothing. There is an error exactly if the tokens spell the text up to a place where no lexeme can
start, and it names that place and the rest of the line. It never comes at two slashes. -/
theorem tokenize_fails_exactly_and_finally (source : String) :
    ∃ (tokens : List Token) (failure : Option LexError),
      (∀ times, (ofText source).answers times =
        ((tokens.map Except.ok ++ failure.toList.map Except.error).map some ++
          List.replicate times none).take times) ∧
      (∀ e, failure = some e ↔
        ∃ rest, source.toList = Token.spelling tokens ++ rest ∧
          Text.byteLength (Token.spelling tokens) = e.position ∧ Refused rest ∧
          Text.IsFirstLine rest e.snippet.toList) ∧
      (∀ e rest, failure = some e → source.toList = Token.spelling tokens ++ rest →
        (∃ c, rest.head? = some c ∧ e.snippet.toList.head? = some c) ∧ ¬ ['/', '/'] <+: rest) ∧
      tokenize source =
        (match failure with
        | some e => .error e
        | none => .ok tokens) := by
  refine ⟨(ofText source).drain.tokens, (ofText source).drain.failure, ?_,
    fun e => drain_failure_iff, ?_, rfl⟩
  · intro times
    exact answers_drainWithin (Nat.lt_succ_self _) le_rfl
  · intro e rest failed whole
    obtain ⟨rest', whole', -, refused, line⟩ := drain_failure_iff.1 failed
    obtain rfl : rest = rest' := List.append_cancel_left (whole.symm.trans whole')
    obtain ⟨c, tail, rfl, feed, carriage, slash⟩ := refused.exists_head
    refine ⟨⟨c, rfl, line.head? feed carriage⟩, ?_⟩
    rintro ⟨behind, comment⟩
    exact slash (List.cons.inj comment).1.symm

/-- A quote that the line does not close stops the scanner behind the tokens before it. -/
example : tokenize "é = @\"x\r\ny" = .error ⟨5, "@\"x"⟩ := rfl

end Scriptlet
