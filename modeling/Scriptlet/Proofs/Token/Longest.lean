import Mathlib.Computability.Language
import Scriptlet.Proofs.Token.Lexeme

/-!
# Longest matches

Every lexical kind has a language, written as a regular expression (`Token.Kind.language`). The rule
of a kind takes the longest beginning of the text ahead that is in the language, and it refuses
exactly if there is none (`Token.Rule.Matches`). Two of the rules search for a closing mark from the
end of the text and go by the byte at which they find it. That byte never lies inside a character,
and for the head of a counting loop the search does not go on behind the last parenthesis.
-/

namespace Scriptlet
open Computability

/-! ## Languages -/

namespace Text

/-- The texts of one character of the class. -/
def oneOf (condition : Char → Bool) : Language Char :=
  {text | ∃ c, condition c = true ∧ text = [c]}

/-- The given texts. -/
def anyOf (texts : List String) : Language Char :=
  {text | String.ofList text ∈ texts}

/-- The texts in which the mark comes up at least so many times. -/
def atLeast (times : Nat) (mark : Char) : Language Char :=
  {text | times ≤ text.count mark}

variable {condition : Char → Bool} {text : List Char}

/-- The words over a class are the texts of its characters. -/
lemma mem_kstar_oneOf : text ∈ (oneOf condition)∗ ↔ ∀ c ∈ text, condition c = true := by
  rw [Language.mem_kstar]
  constructor
  · rintro ⟨pieces, rfl, each⟩ c member
    obtain ⟨piece, among, inside⟩ := List.mem_flatten.1 member
    obtain ⟨d, holds, rfl⟩ := each piece among
    rwa [List.mem_singleton.1 inside]
  · intro all
    refine ⟨text.map fun c => [c], (List.flatMap_singleton' text).symm, ?_⟩
    intro piece member
    obtain ⟨c, among, rfl⟩ := List.mem_map.1 member
    exact ⟨c, all c among, rfl⟩

/-- A text without the mark has other characters only. -/
lemma all_ne_of_not_mem {mark : Char} (clean : mark ∉ text) :
    ∀ c ∈ text, decide (c ≠ mark) = true := by
  intro c member
  simpa using fun same : c = mark => clean (same ▸ member)

/-- The words without a mark are the texts in which it does not occur. -/
lemma mem_kstar_oneOf_ne {mark : Char} : text ∈ (oneOf (· ≠ mark))∗ ↔ mark ∉ text := by
  rw [mem_kstar_oneOf]
  constructor
  · intro all member
    simpa using all mark member
  · exact all_ne_of_not_mem

/-- One character of the class and any number more are a run that is not empty. -/
lemma mem_run_iff :
    text ∈ oneOf condition * (oneOf condition)∗ ↔ text ≠ [] ∧ ∀ c ∈ text, condition c = true := by
  rw [Language.mem_mul]
  constructor
  · rintro ⟨_, ⟨c, holds, rfl⟩, more, all, rfl⟩
    exact ⟨by simp, List.forall_mem_cons.2 ⟨holds, mem_kstar_oneOf.1 all⟩⟩
  · rintro ⟨solid, all⟩
    obtain ⟨c, more, rfl⟩ := List.exists_cons_of_ne_nil solid
    obtain ⟨holds, all⟩ := List.forall_mem_cons.1 all
    exact ⟨[c], ⟨c, holds, rfl⟩, more, mem_kstar_oneOf.2 all, rfl⟩

/-- A word with a fixed end is a word of the language before it. -/
lemma mem_mul_singleton {first : Language Char} {last : List Char} :
    text ∈ first * {last} ↔ ∃ init ∈ first, text = init ++ last := by
  rw [Language.mem_mul]
  constructor
  · rintro ⟨init, member, _, rfl, rfl⟩
    exact ⟨init, member, rfl⟩
  · rintro ⟨init, member, rfl⟩
    exact ⟨init, member, last, rfl, rfl⟩

/-- A word with a fixed beginning is a word of the language behind it. -/
lemma mem_singleton_mul {first : List Char} {last : Language Char} :
    text ∈ {first} * last ↔ ∃ tail ∈ last, text = first ++ tail := by
  rw [Language.mem_mul]
  constructor
  · rintro ⟨_, rfl, tail, member, rfl⟩
    exact ⟨tail, member, rfl⟩
  · rintro ⟨tail, member, rfl⟩
    exact ⟨first, rfl, tail, member, rfl⟩

end Text

namespace Token.Kind
open Text

/-- The texts that the rule of a kind looks for. -/
def language : Kind → Language Char
  | .comment => {['/', '/']} * (oneOf (· ≠ '\n'))∗ * {['\n']}
  | .number => oneOf Char.isDigit * (oneOf Char.isDigit)∗
  | .whitespace => oneOf isBlank * (oneOf isBlank)∗
  | .punctuation => anyOf doubleSymbols + anyOf singleSymbols
  | .identifier => oneOf isWord * (oneOf isWord)∗
  | .string => (1 + {['@']}) * {['"']} * (oneOf (· ≠ '\n'))∗ * {['"']}
  | .forClause => {['f', 'o', 'r']} * (oneOf (· = ' '))∗ * {['(']} * atLeast 2 ';' * {[')']}
  | .sentinel => 0

variable {text : List Char}

/-- A comment is two slashes and the rest of the line with its line break. -/
lemma mem_language_comment :
    text ∈ language .comment ↔ ∃ line, '\n' ∉ line ∧ text = '/' :: '/' :: line ++ ['\n'] := by
  rw [language, mem_mul_singleton]
  constructor
  · rintro ⟨init, member, rfl⟩
    obtain ⟨line, clean, rfl⟩ := mem_singleton_mul.1 member
    exact ⟨line, mem_kstar_oneOf_ne.1 clean, rfl⟩
  · rintro ⟨line, clean, rfl⟩
    exact ⟨_, mem_singleton_mul.2 ⟨line, mem_kstar_oneOf_ne.2 clean, rfl⟩, rfl⟩

/-- A symbol is a pair or a single character of the tables. -/
lemma mem_language_punctuation :
    text ∈ language .punctuation ↔
      (∃ pair ∈ Rule.pairs, text = pair.toList) ∨ ∃ c ∈ Rule.singles, text = [c] := by
  rw [language, Language.mem_add]
  refine or_congr ?_ ?_
  · constructor
    · intro member
      exact ⟨_, member, String.toList_ofList.symm⟩
    · rintro ⟨pair, member, rfl⟩
      show String.ofList pair.toList ∈ doubleSymbols
      rwa [String.ofList_toList]
  · show String.ofList text ∈ singleSymbols ↔ _
    rw [mem_singleSymbols_iff, String.toList_ofList]

/-- A string is a sign, a quote, some characters of one line, and a quote. -/
lemma mem_language_string :
    text ∈ language .string ↔
      ∃ sign ∈ Rule.signs, ∃ inner, '\n' ∉ inner ∧ text = sign ++ '"' :: inner ++ ['"'] := by
  have sign_iff : ∀ sign, sign ∈ (1 + {['@']} : Language Char) ↔ sign ∈ Rule.signs := by
    intro sign
    rw [Rule.mem_signs_iff]
    exact Iff.rfl
  rw [language, mem_mul_singleton]
  constructor
  · rintro ⟨init, member, rfl⟩
    obtain ⟨opening, opens, inner, clean, rfl⟩ := Language.mem_mul.1 member
    obtain ⟨sign, signs, rfl⟩ := mem_mul_singleton.1 opens
    exact ⟨sign, (sign_iff sign).1 signs, inner, mem_kstar_oneOf_ne.1 clean, by simp⟩
  · rintro ⟨sign, member, inner, clean, rfl⟩
    have opening : sign ++ ['"'] ∈ (1 + {['@']} : Language Char) * {['"']} :=
      mem_mul_singleton.2 ⟨sign, (sign_iff sign).2 member, rfl⟩
    exact ⟨_, Language.append_mem_mul opening (mem_kstar_oneOf_ne.2 clean), by simp⟩

/-- A counting loop is its keyword, blanks, and a parenthesis with at least two semicolons inside.
-/
lemma mem_language_forClause :
    text ∈ language .forClause ↔
      ∃ spaces inner, (∀ c ∈ spaces, c = ' ') ∧ 2 ≤ inner.count ';' ∧
        text = ['f', 'o', 'r'] ++ spaces ++ '(' :: inner ++ [')'] := by
  have spaces_iff : ∀ spaces, spaces ∈ (oneOf (· = ' '))∗ ↔ ∀ c ∈ spaces, c = ' ' := by
    intro spaces
    simp [mem_kstar_oneOf]
  rw [language, mem_mul_singleton]
  constructor
  · rintro ⟨init, member, rfl⟩
    obtain ⟨opening, opens, inner, enough, rfl⟩ := Language.mem_mul.1 member
    obtain ⟨keyword, starts, rfl⟩ := mem_mul_singleton.1 opens
    obtain ⟨spaces, all, rfl⟩ := mem_singleton_mul.1 starts
    exact ⟨spaces, inner, (spaces_iff spaces).1 all, enough, by simp⟩
  · rintro ⟨spaces, inner, all, enough, rfl⟩
    have keyword : ['f', 'o', 'r'] ++ spaces ∈ {['f', 'o', 'r']} * (oneOf (· = ' '))∗ :=
      mem_singleton_mul.2 ⟨spaces, (spaces_iff spaces).2 all, rfl⟩
    have opening : ['f', 'o', 'r'] ++ spaces ++ ['('] ∈
        {['f', 'o', 'r']} * (oneOf (· = ' '))∗ * {['(']} :=
      mem_mul_singleton.2 ⟨_, keyword, rfl⟩
    have head := Language.append_mem_mul opening (show inner ∈ atLeast 2 ';' from enough)
    exact ⟨_, head, by simp⟩

end Token.Kind

/-! ## Longest beginnings -/

namespace Text

/-- Of the beginnings of the text that are in the language, this one is the longest. -/
structure Longest (language : Language Char) (text taken : List Char) : Prop where
  inside : taken ∈ language
  ahead : taken <+: text
  longest : ∀ other ∈ language, other <+: text → other.length ≤ taken.length

/-- There is only one longest beginning. -/
lemma Longest.unique {language : Language Char} {text taken taken' : List Char}
    (first : Longest language text taken) (second : Longest language text taken') :
    taken = taken' := by
  have le := second.longest taken first.inside first.ahead
  have ge := first.longest taken' second.inside second.ahead
  exact (List.prefix_of_prefix_length_le first.ahead second.ahead le).eq_of_length (by omega)

/-- A beginning that goes on behind another one and ends in a mark has the mark behind the other. -/
lemma exists_extra {taken init rest : List Char} {mark : Char}
    (ahead : init ++ [mark] <+: taken ++ rest) (longer : taken.length < (init ++ [mark]).length) :
    ∃ extra, init = taken ++ extra ∧ extra ++ [mark] <+: rest := by
  have inside : taken <+: init := by
    refine List.prefix_of_prefix_length_le (List.prefix_append taken rest)
      ((List.prefix_append init [mark]).trans ahead) ?_
    simpa [Nat.lt_succ_iff] using longer
  obtain ⟨extra, rfl⟩ := inside
  rw [List.append_assoc, List.prefix_append_right_inj] at ahead
  exact ⟨extra, rfl, ahead⟩

/-- A run that no character of its class follows is longest. -/
lemma length_le_of_free {condition : Char → Bool} {run rest other : List Char}
    (free : Free condition rest) (all : ∀ c ∈ other, condition c = true)
    (ahead : other <+: run ++ rest) : other.length ≤ run.length := by
  by_contra longer
  have inside : run <+: other :=
    List.prefix_of_prefix_length_le (List.prefix_append run rest) ahead (by omega)
  obtain ⟨extra, rfl⟩ := inside
  rw [List.prefix_append_right_inj] at ahead
  cases extra with
  | nil => simp at longer
  | cons c extra =>
    obtain ⟨behind, rfl⟩ := ahead
    have holds := all c (by simp)
    exact Bool.false_ne_true ((free_cons.1 free).symm.trans holds)

/-- The search for the last mark fails only if no mark is admitted. -/
lemma beforeLast?_ne_none {mark : Char} {admits : List Char → Bool} {before behind : List Char}
    (admitted : admits before = true) :
    beforeLast? mark admits (before ++ mark :: behind) ≠ none := by
  induction behind using List.reverseRecOn with
  | nil => simp [beforeLast?_concat, admitted]
  | append_singleton behind c ih =>
    rw [← List.cons_append, ← List.append_assoc, beforeLast?_concat]
    split
    · simp
    · exact ih

/-- If what is admitted stays so in longer texts, the search does not go past the last mark. -/
lemma beforeLast?_iff_of_stays {mark : Char} {admits : List Char → Bool} {text inner : List Char}
    (stays : ∀ before more, admits before = true → admits (before ++ more) = true) :
    beforeLast? mark admits text = some inner ↔
      admits inner = true ∧ ∃ behind, text = inner ++ mark :: behind ∧ mark ∉ behind := by
  rw [beforeLast?_eq_some_iff]
  refine and_congr_right fun admitted => exists_congr fun behind => and_congr_right fun _ => ?_
  constructor
  · intro none_later member
    obtain ⟨between, after, split⟩ := List.append_of_mem member
    have refused := none_later between after split
    rw [stays inner _ admitted] at refused
    cases refused
  · rintro clean between after rfl
    simp at clean

end Text

/-! ## Rules -/

namespace Token.Rule

variable {r next : Reader}

/-- The rule takes the longest beginning in the language, if there is one. -/
structure Matches (rule : Rule) (language : Language Char) : Prop where
  takes : ∀ {r next : Reader}, rule r = some next →
    ∃ taken, r.Passes taken next ∧ Text.Longest language r.rest taken
  accepts : ∀ {r : Reader} {taken : List Char}, taken ∈ language → taken <+: r.rest →
    ∃ next, rule r = some next

namespace Matches

variable {rule : Rule} {language : Language Char}

/-- A rule that matches refuses a text exactly if no beginning of it is in the language. -/
lemma eq_none_iff (found : Matches rule language) :
    rule r = none ↔ ∀ taken ∈ language, ¬ taken <+: r.rest := by
  constructor
  · intro refused taken member ahead
    obtain ⟨next, accepted⟩ := found.accepts member ahead
    cases refused.symm.trans accepted
  · intro missing
    cases accepted : rule r with
    | none => rfl
    | some next =>
      obtain ⟨taken, -, longest⟩ := found.takes accepted
      exact absurd longest.ahead (missing taken longest.inside)

/-- A rule that matches passes exactly the longest beginning in the language. -/
lemma eq_some_iff (found : Matches rule language) :
    rule r = some next ↔ ∃ taken, r.Passes taken next ∧ Text.Longest language r.rest taken := by
  constructor
  · exact found.takes
  · rintro ⟨taken, passes, longest⟩
    obtain ⟨next', accepted⟩ := found.accepts longest.inside longest.ahead
    obtain ⟨taken', passes', longest'⟩ := found.takes accepted
    obtain rfl := longest.unique longest'
    rw [accepted, passes.unique passes']

end Matches

/-- Taking all characters of a class takes the longest run of them. -/
lemma matches_takeSome? (condition : Char → Bool) :
    Matches (Reader.takeSome? condition) (Text.oneOf condition * (Text.oneOf condition)∗) where
  takes taken := by
    obtain ⟨run, passes, solid, all, free⟩ := takeSome?_iff.1 taken
    refine ⟨run, passes, Text.mem_run_iff.2 ⟨solid, all⟩, ⟨_, passes.1.symm⟩, ?_⟩
    intro other member ahead
    rw [passes.1] at ahead
    exact Text.length_le_of_free free (Text.mem_run_iff.1 member).2 ahead
  accepts {r taken} member ahead := by
    obtain ⟨solid, all⟩ := Text.mem_run_iff.1 member
    obtain ⟨c, more, rfl⟩ := List.exists_cons_of_ne_nil solid
    obtain ⟨behind, split⟩ := ahead
    cases refused : r.takeSome? condition with
    | some next => exact ⟨next, rfl⟩
    | none =>
      have free := takeSome?_eq_none_iff.1 refused c (by simp [← split])
      rw [all c (by simp)] at free
      cases free

/-- The rule for comments takes the longest comment. -/
lemma matches_comment : Matches comment (Kind.language .comment) where
  takes taken := by
    obtain ⟨line, clean, passes⟩ := comment_iff.1 taken
    refine ⟨_, passes, Kind.mem_language_comment.2 ⟨line, clean, rfl⟩, ⟨_, passes.1.symm⟩, ?_⟩
    intro other member ahead
    obtain ⟨line', clean', rfl⟩ := Kind.mem_language_comment.1 member
    by_contra longer
    rw [passes.1] at ahead
    -- the line break of the first comment would stand inside the second
    obtain ⟨extra, split, -⟩ := Text.exists_extra ahead (Nat.lt_of_not_le longer)
    have inside : '\n' ∈ '/' :: '/' :: line' := by simp [split]
    simp [clean'] at inside
  accepts {r taken} member ahead := by
    obtain ⟨line, clean, rfl⟩ := Kind.mem_language_comment.1 member
    obtain ⟨behind, split⟩ := ahead
    obtain ⟨next, passes, -⟩ := Reader.exists_passes split.symm
    exact ⟨next, comment_iff.2 ⟨line, clean, passes⟩⟩

/-- The rule for symbols takes the longest symbol. -/
lemma matches_punctuation : Matches punctuation (Kind.language .punctuation) where
  takes {r next} taken := by
    have pair_length : ∀ pair ∈ pairs, pair.toList.length = 2 := by decide
    rcases punctuation_iff.1 taken with ⟨pair, member, passes⟩ | ⟨no_pair, c, member, passes⟩
    · have inside := Kind.mem_language_punctuation.2 (.inl ⟨pair, member, rfl⟩)
      refine ⟨_, passes, inside, ⟨_, passes.1.symm⟩, ?_⟩
      intro other member' ahead
      rw [pair_length pair member]
      rcases Kind.mem_language_punctuation.1 member' with ⟨pair', among, rfl⟩ | ⟨d, -, rfl⟩
      · exact (pair_length pair' among).le
      · exact Nat.le_succ 1
    · have inside := Kind.mem_language_punctuation.2 (.inr ⟨c, member, rfl⟩)
      refine ⟨_, passes, inside, ⟨_, passes.1.symm⟩, ?_⟩
      intro other member' ahead
      rcases Kind.mem_language_punctuation.1 member' with ⟨pair', among, rfl⟩ | ⟨d, -, rfl⟩
      · exact absurd ahead (no_pair pair' among)
      · exact Nat.le_refl 1
  accepts {r taken} member ahead := by
    obtain ⟨behind, split⟩ := ahead
    obtain ⟨next, passes, -⟩ := Reader.exists_passes split.symm
    by_cases pair_ahead : ∃ pair ∈ pairs, pair.toList <+: r.rest
    · obtain ⟨pair, among, behind', split'⟩ := pair_ahead
      obtain ⟨next', passes', -⟩ := Reader.exists_passes split'.symm
      exact ⟨next', punctuation_iff.2 (.inl ⟨pair, among, passes'⟩)⟩
    · have no_pair : ∀ pair ∈ pairs, ¬ pair.toList <+: r.rest :=
        fun pair among ahead => pair_ahead ⟨pair, among, ahead⟩
      rcases Kind.mem_language_punctuation.1 member with ⟨pair, among, rfl⟩ | ⟨c, among, rfl⟩
      · exact absurd ⟨behind, split⟩ (no_pair pair among)
      · exact ⟨next, punctuation_iff.2 (.inr ⟨no_pair, c, among, passes⟩)⟩

/-- The rule for strings takes the longest string, up to the last quote of the line. -/
lemma matches_string : Matches string (Kind.language .string) where
  takes {r next} taken := by
    obtain ⟨sign, member, inner, clean, last, passes⟩ := string_iff.1 taken
    refine ⟨_, passes, Kind.mem_language_string.2 ⟨sign, member, inner, clean, rfl⟩,
      ⟨_, passes.1.symm⟩, ?_⟩
    intro other member' ahead
    obtain ⟨sign', signs, inner', clean', rfl⟩ := Kind.mem_language_string.1 member'
    by_contra longer
    rw [passes.1] at ahead
    -- the last quote of the longer text would stand on the same line behind the shorter one
    obtain ⟨extra, split, behind, rest⟩ := Text.exists_extra ahead (Nat.lt_of_not_le longer)
    have one_line : '\n' ∉ sign' ++ '"' :: inner' := by
      obtain rfl | rfl := mem_signs_iff.1 signs <;> simp [clean']
    rw [split] at one_line
    apply last
    rw [← rest, List.append_assoc, List.takeWhile_append_of_pos]
    · simp
    · exact Text.all_ne_of_not_mem fun among => one_line (List.mem_append_right _ among)
  accepts {r taken} member ahead := by
    obtain ⟨sign, signs, inner, clean, rfl⟩ := Kind.mem_language_string.1 member
    obtain ⟨behind, split⟩ := ahead
    have parts : r.rest = (sign ++ ['"']) ++ (inner ++ '"' :: behind) := by simp [← split]
    obtain ⟨body, passes, rest⟩ := Reader.exists_passes parts
    have line : body.rest.takeWhile (· ≠ '\n') = inner ++ '"' :: behind.takeWhile (· ≠ '\n') := by
      rw [rest, List.takeWhile_append_of_pos (Text.all_ne_of_not_mem clean)]
      simp
    have found : Text.beforeLast? '"' (fun _ => true) (body.rest.takeWhile (· ≠ '\n')) ≠ none := by
      rw [line]
      exact Text.beforeLast?_ne_none rfl
    obtain ⟨before, found⟩ := Option.ne_none_iff_exists'.1 found
    rw [string, optional_sign_iff.2 ⟨sign, signs, passes⟩]
    exact ⟨_, congrArg (Option.bind · _) found⟩

/-- The keyword of a counting loop, its spaces and its parenthesis. -/
lemma opening_iff {body : Reader} :
    ((r.takeText? "for").bind fun keyword => (keyword.skipWhile (· = ' ')).takeChar? '(') =
        some body ↔
      ∃ spaces, (∀ c ∈ spaces, c = ' ') ∧ r.Passes (['f', 'o', 'r'] ++ spaces ++ ['(']) body := by
  rw [Option.bind_eq_some_iff]
  constructor
  · rintro ⟨keyword, first, last⟩
    have first := Reader.takeText?_eq_some_iff.1 first
    have last := Reader.takeChar?_eq_some_iff.1 last
    refine ⟨keyword.rest.takeWhile (· = ' '), ?_, ?_⟩
    · intro c member
      simpa using List.mem_takeWhile_imp member
    · exact (first.trans (Reader.passes_skipWhile _)).trans last
  · rintro ⟨spaces, all, passes⟩
    obtain ⟨middle, whole, last⟩ := passes.of_append
    obtain ⟨keyword, first, inner⟩ := whole.of_append
    have run : keyword.rest.takeWhile (· = ' ') = spaces := by
      rw [inner.1, last.1]
      refine Text.takeWhile_of_free ?_ ?_
      · simpa using all
      · simp [Text.Free]
    have reached := Reader.passes_skipWhile (r := keyword) (· = ' ')
    rw [run] at reached
    refine ⟨keyword, Reader.takeText?_eq_some_iff.2 first, ?_⟩
    rw [reached.unique inner]
    exact Reader.takeChar?_eq_some_iff.2 last

/-- More text does not take a semicolon away, so that only the last parenthesis counts. -/
lemma beforeLast?_clause_iff {text inner : List Char} :
    Text.beforeLast? ')' (fun before => 2 ≤ before.count ';') text = some inner ↔
      2 ≤ inner.count ';' ∧ ∃ behind, text = inner ++ ')' :: behind ∧ ')' ∉ behind := by
  rw [Text.beforeLast?_iff_of_stays]
  · simp
  · intro before more enough
    rw [decide_eq_true_eq] at enough ⊢
    rw [List.count_append]
    omega

/-- The head of a counting loop goes to the last parenthesis of the text. -/
lemma forClause_iff :
    forClause r = some next ↔
      ∃ spaces inner, (∀ c ∈ spaces, c = ' ') ∧ 2 ≤ inner.count ';' ∧ ')' ∉ next.rest ∧
        r.Passes (['f', 'o', 'r'] ++ spaces ++ '(' :: inner ++ [')']) next := by
  rw [forClause, Option.bind_eq_bind, ← Option.bind_assoc, Option.bind_eq_some_iff]
  constructor
  · rintro ⟨body, opens, closes⟩
    obtain ⟨spaces, all, first⟩ := opening_iff.1 opens
    obtain ⟨inner, found, reached⟩ := Option.bind_eq_some_iff.1 closes
    obtain rfl := Option.some.inj reached
    obtain ⟨enough, behind, ahead, last_mark⟩ := beforeLast?_clause_iff.1 found
    have last := passes_advanceTo (by decide : ')'.utf8Size = 1) ahead
    have behind_eq := List.append_cancel_left ((last.1.symm.trans ahead).trans
      (List.append_cons ..))
    refine ⟨spaces, inner, all, enough, ?_, ?_⟩
    · rwa [behind_eq]
    · simpa using first.trans last
  · rintro ⟨spaces, inner, all, enough, last_mark, passes⟩
    have parts : r.Passes ((['f', 'o', 'r'] ++ spaces ++ ['(']) ++ (inner ++ [')'])) next := by
      simpa using passes
    obtain ⟨body, first, last⟩ := parts.of_append
    have ahead : body.rest = inner ++ ')' :: next.rest := by simpa using last.1
    have found := beforeLast?_clause_iff.2 ⟨enough, next.rest, ahead, last_mark⟩
    have reached := passes_advanceTo (by decide : ')'.utf8Size = 1) ahead
    refine ⟨body, opening_iff.2 ⟨spaces, all, first⟩, ?_⟩
    rw [Option.bind_eq_bind, found]
    exact congrArg some (reached.unique last)

/-- The rule for counting loops takes the longest one. -/
lemma matches_forClause : Matches forClause (Kind.language .forClause) where
  takes {r next} taken := by
    obtain ⟨spaces, inner, all, enough, last, passes⟩ := forClause_iff.1 taken
    refine ⟨_, passes, Kind.mem_language_forClause.2 ⟨spaces, inner, all, enough, rfl⟩,
      ⟨_, passes.1.symm⟩, ?_⟩
    intro other member ahead
    obtain ⟨spaces', inner', -, -, rfl⟩ := Kind.mem_language_forClause.1 member
    by_contra longer
    rw [passes.1] at ahead
    obtain ⟨extra, -, behind, rest⟩ := Text.exists_extra ahead (Nat.lt_of_not_le longer)
    exact last (by simp [← rest])
  accepts {r taken} member ahead := by
    obtain ⟨spaces, inner, all, enough, rfl⟩ := Kind.mem_language_forClause.1 member
    obtain ⟨behind, split⟩ := ahead
    have parts : r.rest = (['f', 'o', 'r'] ++ spaces ++ ['(']) ++ (inner ++ ')' :: behind) := by
      simp [← split]
    obtain ⟨body, passes, rest⟩ := Reader.exists_passes parts
    have found :
        Text.beforeLast? ')' (fun before => 2 ≤ before.count ';') body.rest ≠ none := by
      rw [rest]
      exact Text.beforeLast?_ne_none (by simpa using enough)
    obtain ⟨before, found⟩ := Option.ne_none_iff_exists'.1 found
    rw [forClause, Option.bind_eq_bind, ← Option.bind_assoc, opening_iff.2 ⟨spaces, all, passes⟩]
    exact ⟨_, congrArg (Option.bind · _) found⟩

end Token.Rule

/-- The rule of every kind takes the longest beginning in the language of the kind. -/
lemma Token.Kind.matches_rule (kind : Kind) : Rule.Matches kind.rule kind.language := by
  cases kind with
  | comment => exact Rule.matches_comment
  | number => exact Rule.matches_takeSome? Char.isDigit
  | whitespace => exact Rule.matches_takeSome? Text.isBlank
  | punctuation => exact Rule.matches_punctuation
  | identifier => exact Rule.matches_takeSome? Text.isWord
  | string => exact Rule.matches_string
  | forClause => exact Rule.matches_forClause
  | sentinel =>
    constructor
    · intro r next taken
      cases taken
    · intro r taken member
      cases member

/-! ## Where the closing marks are -/

/-- The byte lies between two characters of the text ahead, or at one of its ends. -/
def Reader.AtBoundary (r : Reader) (goal : Nat) : Prop :=
  ∃ taken, taken <+: r.rest ∧ goal = r.offset + Text.byteLength taken

namespace Token.Rule

variable {r body : Reader} {goal : Nat}

/-- The reader behind the opening quote of a string, and the byte behind the last quote. -/
def stringGoal? (r : Reader) : Option (Reader × Nat) := do
  let body ← ((r.takeChar? '@').getD r).takeChar? '"'
  let inner ← Text.beforeLast? '"' (fun _ => true) (body.rest.takeWhile (· ≠ '\n'))
  return (body, body.offset + Text.byteLength inner + 1)

/-- The reader behind the opening parenthesis of a counting loop, and the byte behind the last
parenthesis with two semicolons before it. -/
def clauseGoal? (r : Reader) : Option (Reader × Nat) := do
  let keyword ← r.takeText? "for"
  let body ← (keyword.skipWhile (· = ' ')).takeChar? '('
  let inner ← Text.beforeLast? ')' (fun before => 2 ≤ before.count ';') body.rest
  return (body, body.offset + Text.byteLength inner + 1)

/-- A string is taken by going to the byte behind its last quote. -/
lemma string_eq_map_goal :
    string r = (stringGoal? r).map fun search => search.1.advanceTo search.2 := by
  simp [string, stringGoal?, Option.map_bind]

/-- A counting loop is taken by going to the byte behind its last parenthesis. -/
lemma forClause_eq_map_goal :
    forClause r = (clauseGoal? r).map fun search => search.1.advanceTo search.2 := by
  simp [forClause, clauseGoal?, Option.map_bind]

/-- The goal behind a mark that is found from a later place is a boundary, and it is reached. -/
lemma goal_atBoundary {mark : Char} {opening inner behind : List Char}
    (ascii : mark.utf8Size = 1) (passes : r.Passes opening body)
    (ahead : body.rest = inner ++ mark :: behind) :
    r.AtBoundary (body.offset + Text.byteLength inner + 1) ∧
      (body.advanceTo (body.offset + Text.byteLength inner + 1)).offset =
        body.offset + Text.byteLength inner + 1 := by
  have last := passes_advanceTo ascii ahead
  have goal : (body.advanceTo (body.offset + Text.byteLength inner + 1)).offset =
      body.offset + Text.byteLength inner + 1 := by
    rw [last.2, Text.byteLength_append]
    simp [Text.byteLength, ascii, Nat.add_assoc]
  have whole := passes.trans last
  refine ⟨⟨_, ⟨_, whole.1.symm⟩, ?_⟩, goal⟩
  rw [← goal, whole.2]

/-- The byte behind the last quote is no byte inside a character, and the reader stops there. -/
lemma stringGoal?_atBoundary (reaches : stringGoal? r = some (body, goal)) :
    r.AtBoundary goal ∧ (body.advanceTo goal).offset = goal := by
  obtain ⟨body', opens, closes⟩ := Option.bind_eq_some_iff.1 reaches
  obtain ⟨inner, found, reached⟩ := Option.bind_eq_some_iff.1 closes
  obtain ⟨rfl, rfl⟩ := Prod.mk.inj (Option.some.inj reached)
  obtain ⟨sign, -, passes⟩ := optional_sign_iff.1 opens
  obtain ⟨behind, ahead, -⟩ := (Text.beforeLast?_line_iff (by decide)).1 found
  exact goal_atBoundary (by decide) passes ahead

/-- The byte behind the last parenthesis is no byte inside a character, and the reader stops there.
-/
lemma clauseGoal?_atBoundary (reaches : clauseGoal? r = some (body, goal)) :
    r.AtBoundary goal ∧ (body.advanceTo goal).offset = goal := by
  rw [clauseGoal?, Option.bind_eq_bind, ← Option.bind_assoc] at reaches
  obtain ⟨body', opens, closes⟩ := Option.bind_eq_some_iff.1 reaches
  obtain ⟨inner, found, reached⟩ := Option.bind_eq_some_iff.1 closes
  obtain ⟨rfl, rfl⟩ := Prod.mk.inj (Option.some.inj reached)
  obtain ⟨spaces, -, passes⟩ := opening_iff.1 opens
  obtain ⟨-, behind, ahead, -⟩ := beforeLast?_clause_iff.1 found
  exact goal_atBoundary (by decide) passes ahead

/-- Behind its opening, the head of a counting loop is there exactly if the last parenthesis of the
text has two semicolons before it. -/
lemma forClause_isSome_iff {spaces text : List Char} (all : ∀ c ∈ spaces, c = ' ')
    (ahead : r.rest = ['f', 'o', 'r'] ++ spaces ++ '(' :: text) :
    (forClause r).isSome ↔
      ∃ before behind, text = before ++ ')' :: behind ∧ ')' ∉ behind ∧ 2 ≤ before.count ';' := by
  have parts : r.rest = (['f', 'o', 'r'] ++ spaces ++ ['(']) ++ text := by simpa using ahead
  obtain ⟨body, passes, rfl⟩ := Reader.exists_passes parts
  have search : forClause r =
      (Text.beforeLast? ')' (fun before => 2 ≤ before.count ';') body.rest).map fun inner =>
        body.advanceTo (body.offset + Text.byteLength inner + 1) := by
    rw [forClause, Option.bind_eq_bind, ← Option.bind_assoc,
      opening_iff.2 ⟨spaces, all, passes⟩, Option.bind_some, Option.map_eq_bind]
    rfl
  rw [search, Option.isSome_map, Option.isSome_iff_exists]
  constructor
  · rintro ⟨before, found⟩
    obtain ⟨enough, behind, split, last⟩ := beforeLast?_clause_iff.1 found
    exact ⟨before, behind, split, last, enough⟩
  · rintro ⟨before, behind, split, last, enough⟩
    exact ⟨before, beforeLast?_clause_iff.2 ⟨enough, behind, split, last⟩⟩

end Token.Rule

/-- Every rule takes the longest beginning in its language and refuses if there is none. The search
for the end of a counting loop does not go on behind the last parenthesis, and the bytes that the
two searches give are boundaries of characters, at which the reader then stands. -/
theorem Token.Kind.rule_takes_longest (r : Reader) :
    (∀ kind : Kind,
      (kind.rule r = none ↔ ∀ taken ∈ kind.language, ¬ taken <+: r.rest) ∧
      ∀ next, kind.rule r = some next ↔
        ∃ taken, r.Passes taken next ∧ Text.Longest kind.language r.rest taken) ∧
    (∀ spaces text, (∀ c ∈ spaces, c = ' ') →
      r.rest = ['f', 'o', 'r'] ++ spaces ++ '(' :: text →
      ((Rule.forClause r).isSome ↔
        ∃ before behind, text = before ++ ')' :: behind ∧ ')' ∉ behind ∧
          2 ≤ before.count ';')) ∧
    (Rule.string r = (Rule.stringGoal? r).map fun search => search.1.advanceTo search.2) ∧
    (Rule.forClause r = (Rule.clauseGoal? r).map fun search => search.1.advanceTo search.2) ∧
    ∀ body goal, Rule.stringGoal? r = some (body, goal) ∨ Rule.clauseGoal? r = some (body, goal) →
      r.AtBoundary goal ∧ (body.advanceTo goal).offset = goal := by
  refine ⟨?_, ?_, Rule.string_eq_map_goal, Rule.forClause_eq_map_goal, ?_⟩
  · intro kind
    exact ⟨kind.matches_rule.eq_none_iff, fun next => kind.matches_rule.eq_some_iff⟩
  · intro spaces text all ahead
    exact Rule.forClause_isSome_iff all ahead
  · rintro body goal (found | found)
    · exact Rule.stringGoal?_atBoundary found
    · exact Rule.clauseGoal?_atBoundary found

/-- A counting loop with characters of two bytes and a line break, and a parenthesis more behind it.
-/
theorem Token.Kind.rule_takes_longest_clause :
    (Rule.forClause (Reader.ofText "for (é;\n;)) é")).isSome := by
  refine ((rule_takes_longest _).2.1 [' '] "é;\n;)) é".toList (by simp) rfl).2 ?_
  exact ⟨"é;\n;)".toList, " é".toList, rfl, by decide, by decide⟩

end Scriptlet
