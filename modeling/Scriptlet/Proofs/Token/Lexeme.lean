import Mathlib.Data.List.Basic
import Scriptlet.Proofs.Token.Rule
import Scriptlet.Token.Scanner

/-!
# Lexemes

What the tokens of every kind look like (`Token.WellFormed`) and what must not come right behind
them (`Token.Fits`), without regard to the rules and their order. The scanner hands out a token
exactly if it stands before a lexeme that fits (`token?_eq_some_iff`): the order of the rules
decides between a comment and a slash, and between a number and a name, and nowhere else.
-/

namespace Scriptlet

/-! ## Character classes -/

namespace Text

/-- Digits are word characters. -/
lemma isWord_of_isDigit {c : Char} (digit : c.isDigit = true) : isWord c = true := by
  have below : c.toNat ≤ 57 := (Char.isDigit_iff_toNat.1 digit).2
  have ascii : c.toNat < 0x80 := by omega
  simp [isWord, ascii, Char.isAlphanum, digit]

/-- Up to the space no character is a word character. -/
lemma isWord_of_le_space {c : Char} (low : c.toNat ≤ 0x20) : isWord c = false := by
  have none : ∀ n < 0x21, isWord (Char.ofNat n) = false := by decide
  have found := none c.toNat (by omega)
  rwa [Char.ofNat_toNat] at found

/-- A character is in a table exactly if it is in one of its ranges. -/
lemma Ranges.holds_iff {ranges : Ranges} {c : Char} :
    ranges.holds c = true ↔ ∃ low high, (low, high) ∈ ranges ∧ low ≤ c.toNat ∧ c.toNat ≤ high := by
  simp [Ranges.holds]

/-- No range of blanks meets a range of word characters. -/
lemma ranges_apart :
    ∀ word ∈ wordRanges, ∀ blank ∈ blankRanges, word.2 < blank.1 ∨ blank.2 < word.1 := by
  decide +kernel

/-- Blanks are no word characters. -/
lemma isWord_of_isBlank {c : Char} (blank : isBlank c = true) : isWord c = false := by
  obtain ⟨low, high, member, above, below⟩ := Ranges.holds_iff.1 blank
  by_cases ascii : c.toNat < 0x80
  · have control : high ≤ 0x20 ∨ 0x80 ≤ low :=
      (by decide : ∀ range ∈ blankRanges, range.2 ≤ 0x20 ∨ 0x80 ≤ range.1) _ member
    exact isWord_of_le_space (by omega)
  · refine Bool.eq_false_iff.2 fun word => ?_
    rw [isWord, if_neg ascii] at word
    obtain ⟨low', high', member', above', below'⟩ := Ranges.holds_iff.1 word
    have apart := ranges_apart _ member' _ member
    dsimp only at apart
    omega

/-- What is neither a blank nor a word character keeps its own rules. -/
lemma symbols_apart :
    ∀ c ∈ '"' :: '@' :: Token.Rule.singles, isBlank c = false ∧ isWord c = false := by
  have all : ('"' :: '@' :: Token.Rule.singles).all fun c => !isBlank c && !isWord c := by
    decide +kernel
  intro c member
  simpa using List.all_eq_true.1 all c member

end Text

namespace Token

/-! ## The shape of lexemes -/

/-- The symbols of two characters. -/
def doubleSymbols : List String :=
  ["==", "!=", "<=", ">="]

/-- The symbols of one character. -/
def singleSymbols : List String :=
  ["<", ">", ".", ";", "=", "\x7b", "\x7d", ",", "+", "-", "*", "/", "!", "(", ")", ":", "[", "]",
   "|", "?"]

/-- The text of the token is one of its kind. -/
def WellFormed (token : Token) : Prop :=
  match token.kind with
  | .comment => ∃ line, '\n' ∉ line ∧ token.text.toList = '/' :: '/' :: line ++ ['\n']
  | .number => token.text ≠ "" ∧ ∀ c ∈ token.text.toList, c.isDigit = true
  | .whitespace => token.text ≠ "" ∧ ∀ c ∈ token.text.toList, Text.isBlank c = true
  | .punctuation => token.text ∈ doubleSymbols ∨ token.text ∈ singleSymbols
  | .identifier =>
    token.text ≠ "" ∧ (∀ c ∈ token.text.toList, Text.isWord c = true) ∧
      Text.Free Char.isDigit token.text.toList
  | .string =>
    ∃ inner, '\n' ∉ inner ∧
      (token.text.toList = '"' :: inner ++ ['"'] ∨ token.text.toList = '@' :: '"' :: inner ++ ['"'])
  | .forClause | .sentinel => False

/-- The text behind the token does not go on with it. -/
def Fits (token : Token) (behind : List Char) : Prop :=
  match token.kind with
  | .number => Text.Free Char.isDigit behind
  | .whitespace => Text.Free Text.isBlank behind
  | .identifier => Text.Free Text.isWord behind
  | .punctuation =>
    (token.text ∈ ["=", "!", "<", ">"] → behind.head? ≠ some '=') ∧
      (token.text = "/" → ¬ (behind.head? = some '/' ∧ '\n' ∈ behind))
  | .string => '"' ∉ behind.takeWhile (· ≠ '\n')
  | .comment | .forClause | .sentinel => True

/-- The symbols of one character are those that their rule looks for. -/
lemma mem_singleSymbols_iff {text : String} :
    text ∈ singleSymbols ↔ ∃ c ∈ Rule.singles, text.toList = [c] := by
  have same : singleSymbols = Rule.singles.map fun c => String.ofList [c] := by decide
  rw [same, List.mem_map]
  refine exists_congr fun c => and_congr_right fun _ => ?_
  rw [String.ext_iff, String.toList_ofList, eq_comm]

/-- A symbol of two characters adds an equals sign to one of these. -/
lemma mem_doubleSymbols_iff {text : String} :
    text ∈ doubleSymbols ↔ ∃ c ∈ ['=', '!', '<', '>'], text.toList = [c, '='] := by
  have same : doubleSymbols = ['=', '!', '<', '>'].map fun c => String.ofList [c, '='] := by decide
  rw [same, List.mem_map]
  refine exists_congr fun c => and_congr_right fun _ => ?_
  rw [String.ext_iff, String.toList_ofList, eq_comm]

/-- The symbols that can start a longer one are single characters. -/
lemma mem_leading_iff {text : String} :
    text ∈ ["=", "!", "<", ">"] ↔ ∃ c ∈ ['=', '!', '<', '>'], text.toList = [c] := by
  have same : ["=", "!", "<", ">"] = ['=', '!', '<', '>'].map fun c => String.ofList [c] := by
    decide
  rw [same, List.mem_map]
  refine exists_congr fun c => and_congr_right fun _ => ?_
  rw [String.ext_iff, String.toList_ofList, eq_comm]

/-- The characters that can start a longer symbol are symbols themselves. -/
lemma mem_singles_of_leading {c : Char} (leading : c ∈ ['=', '!', '<', '>']) :
    c ∈ Rule.singles := by
  have singles : ['=', '!', '<', '>'] ⊆ Rule.singles := by decide
  exact singles leading

/-- The characters that a token of the kind can start with. -/
def Kind.Opens : Kind → Char → Prop
  | .comment, c => c = '/'
  | .number, c => c.isDigit = true
  | .whitespace, c => Text.isBlank c = true
  | .punctuation, c => c ∈ Rule.singles
  | .identifier, c => Text.isWord c = true
  | .string, c => c = '"' ∨ c = '@'
  | .forClause, c => c = 'f'
  | .sentinel, _ => False

/-- A token is not empty and starts with a character that its kind can start with. -/
lemma WellFormed.exists_opens {token : Token} (formed : token.WellFormed) :
    ∃ c tail, token.text.toList = c :: tail ∧ token.kind.Opens c := by
  obtain ⟨kind, text⟩ := token
  -- a run of a class starts with a character of the class
  have run : ∀ {condition : Char → Bool}, text ≠ "" → (∀ c ∈ text.toList, condition c = true) →
      ∃ c tail, text.toList = c :: tail ∧ condition c = true := by
    intro condition solid all
    obtain ⟨c, tail, split⟩ := List.exists_cons_of_ne_nil (mt String.toList_eq_nil_iff.1 solid)
    exact ⟨c, tail, split, all c (by simp [split])⟩
  cases kind with
  | comment =>
    obtain ⟨line, -, spelled⟩ := formed
    exact ⟨'/', _, spelled, rfl⟩
  | number => exact run formed.1 formed.2
  | whitespace => exact run formed.1 formed.2
  | identifier => exact run formed.1 formed.2.1
  | punctuation =>
    rcases formed with double | single
    · obtain ⟨c, member, spelled⟩ := mem_doubleSymbols_iff.1 double
      exact ⟨c, ['='], spelled, mem_singles_of_leading member⟩
    · obtain ⟨c, member, spelled⟩ := mem_singleSymbols_iff.1 single
      exact ⟨c, [], spelled, member⟩
  | string =>
    obtain ⟨inner, -, spelled | spelled⟩ := formed
    · exact ⟨'"', _, spelled, .inl rfl⟩
    · exact ⟨'@', _, spelled, .inr rfl⟩
  | forClause => exact formed.elim
  | sentinel => exact formed.elim

/-! ## The rules and the lexemes -/

variable {r next : Reader}

/-- There is a comment ahead if there are two slashes and somewhere behind them a line break. -/
lemma Rule.comment_isSome_iff :
    (Rule.comment r).isSome ↔ ∃ rest, r.rest = '/' :: '/' :: rest ∧ '\n' ∈ rest := by
  rw [Option.isSome_iff_exists]
  constructor
  · rintro ⟨next, taken⟩
    obtain ⟨line, -, passes⟩ := Rule.comment_iff.1 taken
    exact ⟨line ++ '\n' :: next.rest, by simpa using passes.1, by simp⟩
  · rintro ⟨rest, ahead, breaks⟩
    obtain ⟨line, behind, split, clean⟩ := List.eq_append_cons_of_mem breaks
    have parts : r.rest = ('/' :: '/' :: line ++ ['\n']) ++ behind := by simp [ahead, split]
    obtain ⟨next, passes, -⟩ := Reader.exists_passes parts
    exact ⟨next, Rule.comment_iff.2 ⟨line, clean, passes⟩⟩

/-- A pair ahead starts with one of four characters and goes on with an equals sign. -/
lemma Rule.pair_ahead_iff {c : Char} {behind : List Char} :
    (∃ pair ∈ Rule.pairs, pair.toList <+: c :: behind) ↔
      c ∈ ['=', '!', '<', '>'] ∧ behind.head? = some '=' := by
  have pairs_eq : Rule.pairs = doubleSymbols := rfl
  constructor
  · rintro ⟨pair, member, ahead⟩
    obtain ⟨d, among, spelled⟩ := mem_doubleSymbols_iff.1 (pairs_eq ▸ member)
    obtain ⟨rest, split⟩ := spelled ▸ ahead
    obtain ⟨rfl, rfl⟩ : d = c ∧ '=' :: rest = behind := by simpa using split
    exact ⟨among, rfl⟩
  · rintro ⟨among, first⟩
    obtain ⟨rest, rfl⟩ := List.head?_eq_some_iff.1 first
    refine ⟨String.ofList [c, '='], ?_, ?_⟩
    · rw [pairs_eq, mem_doubleSymbols_iff]
      exact ⟨c, among, String.toList_ofList⟩
    · rw [String.toList_ofList]
      exact ⟨rest, rfl⟩

/-- A rule that takes something takes a character that its kind can start with. -/
lemma Kind.opens_of_rule {kind : Kind} (taken : kind.rule r = some next) :
    ∃ c rest, r.rest = c :: rest ∧ kind.Opens c := by
  have run : ∀ {condition : Char → Bool}, r.takeSome? condition = some next →
      ∃ c rest, r.rest = c :: rest ∧ condition c = true := by
    intro condition found
    obtain ⟨run, passes, solid, all, -⟩ := Rule.takeSome?_iff.1 found
    obtain ⟨c, tail, rfl⟩ := List.exists_cons_of_ne_nil solid
    exact ⟨c, tail ++ next.rest, passes.1, all c (by simp)⟩
  cases kind with
  | comment =>
    obtain ⟨line, -, passes⟩ := Rule.comment_iff.1 taken
    exact ⟨'/', _, passes.1, rfl⟩
  | number => exact run taken
  | whitespace => exact run taken
  | identifier => exact run taken
  | punctuation =>
    rcases Rule.punctuation_iff.1 taken with ⟨pair, member, passes⟩ | ⟨-, c, member, passes⟩
    · obtain ⟨c, among, spelled⟩ := mem_doubleSymbols_iff.1 member
      exact ⟨c, _, spelled ▸ passes.1, mem_singles_of_leading among⟩
    · exact ⟨c, _, passes.1, member⟩
  | string =>
    obtain ⟨sign, member, inner, -, -, passes⟩ := Rule.string_iff.1 taken
    obtain rfl | rfl := Rule.mem_signs_iff.1 member
    · exact ⟨'"', _, passes.1, .inl rfl⟩
    · exact ⟨'@', _, passes.1, .inr rfl⟩
  | forClause =>
    obtain ⟨rest, ahead⟩ := List.head?_eq_some_iff.1 (Rule.head?_of_forClause taken)
    exact ⟨'f', rest, ahead, rfl⟩
  | sentinel => cases taken

/-- What a rule for runs of a class takes, as a text. -/
lemma exists_run {condition : Char → Bool} (taken : r.takeSome? condition = some next) :
    ∃ text : String, r.Passes text.toList next ∧ text ≠ "" ∧
      (∀ c ∈ text.toList, condition c = true) ∧ Text.Free condition next.rest := by
  obtain ⟨run, passes, solid, all, free⟩ := Rule.takeSome?_iff.1 taken
  refine ⟨String.ofList run, ?_, ?_, ?_, free⟩
  · rwa [String.toList_ofList]
  · rwa [Ne, ← String.toList_eq_nil_iff, String.toList_ofList]
  · rwa [String.toList_ofList]

/-- The rule for symbols takes one that fits, if there is no comment ahead. -/
lemma exists_symbol (taken : Rule.punctuation r = some next) (comment : Rule.comment r = none) :
    ∃ text : String, r.Passes text.toList next ∧ WellFormed ⟨.punctuation, text⟩ ∧
      Fits ⟨.punctuation, text⟩ next.rest := by
  rcases Rule.punctuation_iff.1 taken with ⟨pair, member, passes⟩ | ⟨no_pair, c, member, passes⟩
  · obtain ⟨c, -, spelled⟩ := mem_doubleSymbols_iff.1 member
    refine ⟨pair, passes, .inl member, ?_, ?_⟩
    · intro leading
      obtain ⟨d, -, spelled'⟩ := mem_leading_iff.1 leading
      simp [spelled] at spelled'
    · rintro rfl
      simp at spelled
  · have spelled : (String.ofList [c]).toList = [c] := String.toList_ofList
    refine ⟨String.ofList [c], spelled.symm ▸ passes,
      .inr (mem_singleSymbols_iff.2 ⟨c, member, spelled⟩), ?_, ?_⟩
    · intro leading first
      obtain ⟨d, among, spelled'⟩ := mem_leading_iff.1 leading
      obtain rfl := List.singleton_inj.1 (spelled.symm.trans spelled')
      obtain ⟨pair, among', ahead⟩ := Rule.pair_ahead_iff.2 ⟨among, first⟩
      rw [← List.singleton_append, ← passes.1] at ahead
      exact no_pair pair among' ahead
    · rintro slash ⟨first, breaks⟩
      obtain rfl : c = '/' := List.singleton_inj.1 (spelled.symm.trans (congrArg _ slash))
      obtain ⟨rest, behind⟩ := List.head?_eq_some_iff.1 first
      have ahead : r.rest = '/' :: '/' :: rest := by rw [passes.1, behind]; rfl
      have newline : '\n' ∈ rest := by simpa [behind] using breaks
      have accepts := Rule.comment_isSome_iff.2 ⟨rest, ahead, newline⟩
      simp [comment] at accepts

/-- What a rule takes is a lexeme that fits, unless an earlier rule takes part of it: a number
before a name, or a comment before a slash. -/
lemma lexeme_of_rule {kind : Kind} (taken : kind.rule r = some next) (loop : kind ≠ .forClause)
    (number : kind = .identifier → Rule.number r = none)
    (comment : kind = .punctuation → Rule.comment r = none) :
    ∃ text : String, r.Passes text.toList next ∧ WellFormed ⟨kind, text⟩ ∧
      Fits ⟨kind, text⟩ next.rest := by
  cases kind with
  | comment =>
    obtain ⟨line, clean, passes⟩ := Rule.comment_iff.1 taken
    refine ⟨String.ofList ('/' :: '/' :: line ++ ['\n']), ?_, ⟨line, clean, ?_⟩, trivial⟩
    · rwa [String.toList_ofList]
    · rw [String.toList_ofList]
  | number =>
    obtain ⟨text, passes, solid, all, free⟩ := exists_run taken
    exact ⟨text, passes, ⟨solid, all⟩, free⟩
  | whitespace =>
    obtain ⟨text, passes, solid, all, free⟩ := exists_run taken
    exact ⟨text, passes, ⟨solid, all⟩, free⟩
  | identifier =>
    obtain ⟨text, passes, solid, all, free⟩ := exists_run taken
    have letter := Rule.takeSome?_eq_none_iff.1 (number rfl)
    refine ⟨text, passes, ⟨solid, all, ?_⟩, free⟩
    intro c first
    refine letter c ?_
    rw [passes.1]
    exact List.mem_head?_append_of_mem_head? first
  | punctuation => exact exists_symbol taken (comment rfl)
  | string =>
    obtain ⟨sign, member, inner, clean, last, passes⟩ := Rule.string_iff.1 taken
    refine ⟨String.ofList (sign ++ '"' :: inner ++ ['"']), ?_, ⟨inner, clean, ?_⟩, last⟩
    · rwa [String.toList_ofList]
    · rw [String.toList_ofList]
      exact (Rule.mem_signs_iff.1 member).imp (fun plain => by rw [plain]; rfl)
        fun signed => by rw [signed]; rfl
  | forClause => exact absurd rfl loop
  | sentinel => cases taken

/-- The rule of its kind takes a lexeme that fits. -/
lemma rule_of_lexeme {token : Token} (formed : token.WellFormed) (fits : token.Fits next.rest)
    (passes : r.Passes token.text.toList next) : token.kind.rule r = some next := by
  obtain ⟨kind, text⟩ := token
  have solid : text ≠ "" → text.toList ≠ [] := mt String.toList_eq_nil_iff.1
  cases kind with
  | comment =>
    obtain ⟨line, clean, spelled⟩ := formed
    exact Rule.comment_iff.2 ⟨line, clean, spelled ▸ passes⟩
  | number => exact Rule.takeSome?_iff.2 ⟨_, passes, solid formed.1, formed.2, fits⟩
  | whitespace => exact Rule.takeSome?_iff.2 ⟨_, passes, solid formed.1, formed.2, fits⟩
  | identifier => exact Rule.takeSome?_iff.2 ⟨_, passes, solid formed.1, formed.2.1, fits⟩
  | punctuation =>
    refine Rule.punctuation_iff.2 ?_
    rcases formed with double | single
    · exact .inl ⟨text, double, passes⟩
    · obtain ⟨c, member, spelled⟩ := mem_singleSymbols_iff.1 single
      have passes' : r.Passes [c] next := spelled ▸ passes
      refine .inr ⟨?_, c, member, passes'⟩
      intro pair among ahead
      rw [passes'.1] at ahead
      obtain ⟨leading, first⟩ := Rule.pair_ahead_iff.1 ⟨pair, among, ahead⟩
      exact fits.1 (mem_leading_iff.2 ⟨c, leading, spelled⟩) first
  | string =>
    obtain ⟨inner, clean, spelled | spelled⟩ := formed
    · exact Rule.string_iff.2
        ⟨[], Rule.mem_signs_iff.2 (.inl rfl), inner, clean, fits, spelled ▸ passes⟩
    · exact Rule.string_iff.2
        ⟨['@'], Rule.mem_signs_iff.2 (.inr rfl), inner, clean, fits, spelled ▸ passes⟩
  | forClause => exact formed.elim
  | sentinel => exact formed.elim

/-- The classes of characters that decide which rules can accept. -/
inductive Class where
  | blank
  | word
  | symbol
  | other
  deriving DecidableEq

/-- The class of a character. -/
def Class.of (c : Char) : Class :=
  if Text.isBlank c then .blank
  else if Text.isWord c then .word
  else if c ∈ Rule.singles then .symbol
  else .other

/-- The class of the characters that a token of the kind can start with. -/
def Kind.opening : Kind → Class
  | .whitespace => .blank
  | .number | .identifier | .forClause => .word
  | .comment | .punctuation => .symbol
  | .string | .sentinel => .other

/-- Word characters are in the class of words. -/
lemma Class.of_word {c : Char} (word : Text.isWord c = true) : Class.of c = .word := by
  have blank : Text.isBlank c = false := by
    refine Bool.eq_false_iff.2 fun blank => ?_
    simp [Text.isWord_of_isBlank blank] at word
  simp [Class.of, blank, word]

/-- A character that a kind can start with is in the class of that kind. -/
lemma Kind.Opens.class {kind : Kind} {c : Char} (opens : kind.Opens c) :
    Class.of c = kind.opening := by
  cases kind with
  | comment => rw [show c = '/' from opens]; decide
  | number => exact Class.of_word (Text.isWord_of_isDigit opens)
  | whitespace => exact if_pos opens
  | punctuation =>
    have single : c ∈ Rule.singles := opens
    obtain ⟨blank, word⟩ := Text.symbols_apart c (by simp [single])
    simp [Class.of, blank, word, single, opening]
  | identifier => exact Class.of_word opens
  | string => obtain rfl | rfl := opens <;> decide
  | forClause => rw [show c = 'f' from opens]; decide
  | sentinel => exact opens.elim

/-- A character that two kinds can start with is a slash before a symbol, a digit before a name, or
the start of what is a name before it can be a counting loop. -/
lemma Kind.opens_apart {earlier kind : Kind} {c : Char}
    (before : earlier ∈ byPriority.takeWhile (· ≠ kind)) (first : earlier.Opens c)
    (second : kind.Opens c) :
    earlier = .comment ∧ kind = .punctuation ∨ earlier = .number ∧ kind = .identifier ∨
      kind = .forClause := by
  have same : earlier.opening = kind.opening := first.class.symm.trans second.class
  have real : kind ≠ .sentinel := by
    rintro rfl
    exact second.elim
  revert before same real
  clear first second
  cases earlier <;> cases kind <;> decide

/-- A kind splits off the token of the characters that its rule passes. -/
lemma Kind.split?_eq_some_iff {kind : Kind} {token : Token} :
    kind.split? r = some (token, next) ↔
      token.kind = kind ∧ kind.rule r = some next ∧
        token.text = String.ofList (r.textUntil next) := by
  obtain ⟨kind', text⟩ := token
  simp only [split?, Option.map_eq_some_iff, Prod.mk.injEq, Token.mk.injEq]
  constructor
  · rintro ⟨reached, taken, ⟨rfl, rfl⟩, rfl⟩
    exact ⟨rfl, taken, rfl⟩
  · rintro ⟨rfl, taken, rfl⟩
    exact ⟨next, taken, ⟨rfl, rfl⟩, rfl⟩

/-- Of the symbols only the slash starts with a slash. -/
lemma WellFormed.slash {text : String} {tail : List Char} (formed : WellFormed ⟨.punctuation, text⟩)
    (spelled : text.toList = '/' :: tail) : text = "/" ∧ tail = [] := by
  rcases formed with double | single
  · obtain ⟨c, among, spelled'⟩ := mem_doubleSymbols_iff.1 double
    obtain rfl := (List.cons.inj (spelled.symm.trans spelled')).1
    exact absurd among (by decide)
  · obtain ⟨c, -, spelled'⟩ := mem_singleSymbols_iff.1 single
    obtain ⟨rfl, rfl⟩ := List.cons.inj (spelled.symm.trans spelled')
    exact ⟨String.toList_inj.1 spelled, rfl⟩

end Token

namespace Scanner
open Token (Rule)

variable {r next : Reader} {token : Token}

/-- The kinds before a new one are those up to it. -/
lemma takeWhile_ne_append {kind : Token.Kind} {before after : List Token.Kind}
    (new : kind ∉ before) : (before ++ kind :: after).takeWhile (· ≠ kind) = before := by
  rw [List.takeWhile_append_of_pos]
  · simp
  · intro earlier member
    simpa using fun same : earlier = kind => new (same ▸ member)

/-- The first kind whose rule accepts gives the token. -/
lemma token?_eq_some_iff_rule :
    token? r = some (token, next) ↔
      token.kind ∈ Token.Kind.byPriority ∧ token.kind.rule r = some next ∧
        token.text = String.ofList (r.textUntil next) ∧
        ∀ earlier ∈ Token.Kind.byPriority.takeWhile (· ≠ token.kind), earlier.rule r = none := by
  have refuses : ∀ kind : Token.Kind, kind.split? r = none ↔ kind.rule r = none := by
    simp [Token.Kind.split?]
  rw [token?, List.findSome?_eq_some_iff]
  constructor
  · rintro ⟨before, kind, after, order, taken, refused⟩
    obtain ⟨rfl, accepts, text⟩ := Token.Kind.split?_eq_some_iff.1 taken
    have new : token.kind ∉ before := by
      intro member
      simp [refused _ member] at taken
    refine ⟨by simp [order], accepts, text, ?_⟩
    rw [order, takeWhile_ne_append new]
    exact fun earlier member => (refuses earlier).1 (refused earlier member)
  · rintro ⟨member, accepts, text, refused⟩
    obtain ⟨before, after, order, new⟩ := List.eq_append_cons_of_mem member
    rw [order, takeWhile_ne_append new] at refused
    refine ⟨before, token.kind, after, order, ?_, ?_⟩
    · exact Token.Kind.split?_eq_some_iff.2 ⟨rfl, accepts, text⟩
    · exact fun earlier member => (refuses earlier).2 (refused earlier member)

/-- No earlier rule takes a part of a lexeme that fits. -/
lemma refuses_of_lexeme (formed : token.WellFormed) (fits : token.Fits next.rest)
    (passes : r.Passes token.text.toList next) {earlier : Token.Kind}
    (before : earlier ∈ Token.Kind.byPriority.takeWhile (· ≠ token.kind)) :
    earlier.rule r = none := by
  cases accepted : earlier.rule r with
  | none => rfl
  | some reached =>
    obtain ⟨c, tail, spelled, opens⟩ := formed.exists_opens
    obtain ⟨d, rest, ahead, opens'⟩ := Token.Kind.opens_of_rule accepted
    have split := passes.1
    rw [spelled, ahead, List.cons_append] at split
    obtain ⟨rfl, behind⟩ := List.cons.inj split
    exfalso
    obtain ⟨kind, text⟩ := token
    obtain ⟨rfl, rfl⟩ | ⟨rfl, rfl⟩ | rfl := Token.Kind.opens_apart before opens' opens
    · -- a comment would start with the slash, but no line break follows
      obtain rfl : d = '/' := opens'
      obtain ⟨rest', ahead', breaks⟩ :=
        Rule.comment_isSome_iff.1 (Option.isSome_of_eq_some accepted)
      obtain ⟨rfl, alone⟩ := formed.slash spelled
      rw [ahead, behind, alone, List.nil_append] at ahead'
      have follows := (List.cons.inj ahead').2
      exact fits.2 rfl ⟨by rw [follows]; rfl, by rw [follows]; exact List.mem_cons_of_mem _ breaks⟩
    · -- a number would start with the first letter
      have letter := formed.2.2 d (by simp [spelled])
      exact Bool.false_ne_true (letter.symm.trans opens')
    · exact formed

/-- The scanner stands before a token exactly if a lexeme is ahead that fits. -/
theorem token?_eq_some_iff :
    token? r = some (token, next) ↔
      token.WellFormed ∧ token.Fits next.rest ∧ r.Passes token.text.toList next := by
  rw [token?_eq_some_iff_rule]
  constructor
  · rintro ⟨member, accepts, text, refused⟩
    have loop : token.kind ≠ .forClause := by
      intro loop
      rw [loop] at accepts
      have first := Rule.head?_of_forClause accepts
      have name : Rule.identifier r = none := refused .identifier (by rw [loop]; decide)
      have letter := Rule.takeSome?_eq_none_iff.1 name 'f' first
      exact absurd letter (by decide)
    obtain ⟨text', passes, formed, fits⟩ := Token.lexeme_of_rule accepts loop
      (fun name => refused .number (by rw [name]; decide))
      (fun symbol => refused .comment (by rw [symbol]; decide))
    rw [passes.textUntil, String.ofList_toList] at text
    obtain ⟨kind, _⟩ := token
    obtain rfl : _ = text' := text
    exact ⟨formed, fits, passes⟩
  · rintro ⟨formed, fits, passes⟩
    refine ⟨?_, Token.rule_of_lexeme formed fits passes, ?_, ?_⟩
    · obtain ⟨kind, text⟩ := token
      cases kind with
      | sentinel => exact formed.elim
      | _ => simp [Token.Kind.byPriority]
    · rw [passes.textUntil, String.ofList_toList]
    · exact fun earlier before => refuses_of_lexeme formed fits passes before

end Scanner

end Scriptlet
