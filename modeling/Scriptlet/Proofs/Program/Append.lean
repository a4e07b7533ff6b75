import Scriptlet.Proofs.Grammar.Exact
import Scriptlet.Proofs.Grammar.Leaves
import Scriptlet.Proofs.Session.Fuel

/-!
# One source text behind another

A text that spells a program can have any text put behind it, without anything between them: what
follows is cut into tokens, parsed and run as if it stood alone. The tokens of the first text do not
depend on what follows, because the last of them closes a statement and none of them is a string, a
comment or a slash before another slash; only blanks at the border may grow together.
-/

namespace Scriptlet
open Scanner Grammar

/-! ## Tokens that do not look ahead -/

namespace Token

/-- Layout is dropped from both parts of a list. -/
lemma withoutLayout_append (first second : List Token) :
    withoutLayout (first ++ second) = withoutLayout first ++ withoutLayout second := by
  simp [withoutLayout]

/-- A layout token is dropped. -/
lemma withoutLayout_cons_of_layout {token : Token} (layout : token.isLayout = true)
    (tokens : List Token) : withoutLayout (token :: tokens) = withoutLayout tokens := by
  simp [withoutLayout, layout]

/-- A token that is no layout is kept. -/
lemma withoutLayout_cons {token : Token} (solid : token.isLayout = false) (tokens : List Token) :
    withoutLayout (token :: tokens) = token :: withoutLayout tokens := by
  simp [withoutLayout, solid]

variable {token : Token} {behind : List Char}

/-- Only comments and symbols start with the character of a symbol. -/
lemma WellFormed.kind_of_symbol {c : Char} {tail : List Char} (formed : token.WellFormed)
    (spelled : token.text.toList = c :: tail) (symbol : Class.of c = .symbol) :
    token.kind = .comment ∨ token.kind = .punctuation := by
  obtain ⟨d, _, spelled', opens⟩ := formed.exists_opens
  obtain rfl := (List.cons.inj (spelled.symm.trans spelled')).1
  have opening := opens.class.symm.trans symbol
  cases kind : token.kind <;> simp [kind, Kind.opening] at opening ⊢

/-- A semicolon and a closing brace fit before everything. -/
lemma WellFormed.fits_of_closes (formed : token.WellFormed)
    (closes : token.text = ";" ∨ token.text = "\x7d") : token.Fits behind := by
  have kind : token.kind = .comment ∨ token.kind = .punctuation := by
    rcases closes with closes | closes
    · exact formed.kind_of_symbol (congrArg String.toList closes) (by decide)
    · exact formed.kind_of_symbol (congrArg String.toList closes) (by decide)
  obtain ⟨_, text⟩ := token
  obtain rfl | rfl := kind
  · trivial
  · have other : text ∉ ["=", "!", "<", ">"] ∧ text ≠ "/" := by
      obtain rfl | rfl := closes <;> decide
    exact ⟨fun leading => absurd leading other.1, fun slash => absurd slash other.2⟩

/-- Symbols and keywords have no quote and no line break. -/
lemma not_mem_of_leaf (leaf : Leaf token) (number : token.kind ≠ .number)
    (name : token.kind ≠ .identifier) : '"' ∉ token.text.toList ∧ '\n' ∉ token.text.toList := by
  have texts : ∀ text ∈ reserved, '"' ∉ text.toList ∧ '\n' ∉ text.toList := by decide
  rcases leaf with kind | kind | symbol | ⟨keyword, spelled⟩
  · exact absurd kind number
  · exact absurd kind name
  · exact texts _ symbol
  · rw [spelled]
    cases keyword <;> decide

/-- A token of a derivation is no comment and no string. -/
lemma WellFormed.kind_of_leaf (formed : token.WellFormed) (leaf : Leaf token) :
    token.kind ≠ .comment ∧ token.kind ≠ .string := by
  obtain ⟨kind, text⟩ := token
  constructor
  · rintro rfl
    obtain ⟨line, -, spelled⟩ := formed
    have clean := (not_mem_of_leaf leaf (by simp) (by simp)).2
    rw [spelled] at clean
    simp at clean
  · rintro rfl
    obtain ⟨inner, -, spelled⟩ := formed
    have clean := (not_mem_of_leaf leaf (by simp) (by simp)).1
    rcases spelled with spelled | spelled
    · rw [spelled] at clean
      simp at clean
    · rw [spelled] at clean
      simp at clean

/-- A token of a derivation that fits before some token of the derivation fits before it whatever
comes later. -/
lemma Fits.change {next : Token} {later later' : List Char} (formed : token.WellFormed)
    (leaf : token.isLayout = false → Leaf token) (formedNext : next.WellFormed)
    (leafNext : next.isLayout = false → Leaf next)
    (spaced : token.text = "/" → next.text ≠ "/")
    (fits : token.Fits (next.text.toList ++ later)) : token.Fits (next.text.toList ++ later') := by
  obtain ⟨c, tail, spelled, opens⟩ := formedNext.exists_opens
  rw [spelled, List.cons_append] at fits ⊢
  obtain ⟨kind, text⟩ := token
  cases kind with
  | number => exact Text.free_cons.2 (Text.free_cons.1 fits)
  | whitespace => exact Text.free_cons.2 (Text.free_cons.1 fits)
  | identifier => exact Text.free_cons.2 (Text.free_cons.1 fits)
  | punctuation =>
    refine ⟨fun leading => fits.1 leading, ?_⟩
    rintro slash ⟨first, -⟩
    -- the next token would be a comment or a second slash
    obtain rfl : c = '/' := Option.some.inj first
    obtain ⟨kind, text'⟩ := next
    rcases formedNext.kind_of_symbol spelled (by decide) with rfl | rfl
    · exact (formedNext.kind_of_leaf (leafNext rfl)).1 rfl
    · exact spaced slash (formedNext.slash spelled).1
  | string => exact absurd rfl (formed.kind_of_leaf (leaf rfl)).2
  | comment => trivial
  | forClause => trivial
  | sentinel => trivial

end Token

/-! ## Cutting a text with another one behind it -/

/-- The layout token of some blanks. -/
def Token.ofBlanks (blanks : List Char) : Token :=
  ⟨.whitespace, String.ofList blanks⟩

/-- Some blanks make up a layout token. -/
lemma Token.wellFormed_ofBlanks {blanks : List Char} (some_blank : blanks ≠ [])
    (blank : ∀ c ∈ blanks, Text.isBlank c = true) : (Token.ofBlanks blanks).WellFormed := by
  constructor
  · exact mt (fun none => by simpa [ofBlanks] using congrArg String.toList none) some_blank
  · simpa [ofBlanks] using blank

/-- The characters of a layout token are blanks. -/
lemma Token.WellFormed.blank {token : Token} (formed : token.WellFormed)
    (layout : token.isLayout = true) : ∀ c ∈ token.text.toList, Text.isBlank c = true := by
  obtain ⟨kind, text⟩ := token
  obtain rfl : kind = .whitespace := by simpa [isLayout] using layout
  exact formed.2

/-- No blank follows a layout token. -/
lemma Token.Fits.free_isBlank {token : Token} {behind : List Char} (fits : token.Fits behind)
    (layout : token.isLayout = true) : Text.Free Text.isBlank behind := by
  obtain ⟨kind, text⟩ := token
  obtain rfl : kind = .whitespace := by simpa [isLayout] using layout
  exact fits

/-- A text that is stuck does not start with a blank. -/
lemma Scanner.Stuck.free_isBlank {rest : List Char} (stuck : Stuck rest) :
    Text.Free Text.isBlank rest := by
  intro c first
  refine Bool.eq_false_iff.2 fun blank => ?_
  -- otherwise the blanks ahead are a lexeme that fits
  let blanks := rest.takeWhile Text.isBlank
  have some_blank : blanks ≠ [] := by
    obtain ⟨tail, rfl⟩ := List.head?_eq_some_iff.1 first
    simp [blanks, blank]
  refine stuck (Token.ofBlanks blanks) (rest.dropWhile Text.isBlank) ?_
    (Token.wellFormed_ofBlanks some_blank fun c member => List.mem_takeWhile_imp member)
    Text.free_dropWhile
  simp [Token.ofBlanks, blanks, List.takeWhile_append_dropWhile]

namespace Scanner.Lexes

variable {text rest : List Char} {tokens : List Token}

/-- The tokens of a derivation are cut off in the same way whatever text is behind them. -/
lemma before {other : List Char} (lexes : Lexes text tokens rest)
    (leaves : ∀ token ∈ tokens, token.isLayout = false → Leaf token)
    (spaced : Spaced (Token.withoutLayout tokens))
    (closes : ∀ token ∈ tokens.getLast?, token.text = ";" ∨ token.text = "\x7d") :
    Lexes (Token.spelling tokens ++ other) tokens other := by
  obtain ⟨-, formed, fits⟩ := iff_spelling.1 lexes
  refine iff_spelling.2 ⟨rfl, formed, ?_⟩
  intro before token after parts
  have formedToken := formed token (by simp [parts])
  cases after with
  | nil => exact formedToken.fits_of_closes (closes token (by simp [parts]))
  | cons next after =>
    have fitsToken := fits before token (next :: after) parts
    rw [Token.spelling_cons, List.append_assoc] at fitsToken ⊢
    refine fitsToken.change formedToken (leaves token (by simp [parts]))
      (formed next (by simp [parts])) (leaves next (by simp [parts])) ?_
    intro slash both
    -- neither of two slashes is layout, so that they stay next to each other
    have solid : ∀ {token : Token}, token.WellFormed → token.text = "/" →
        token.isLayout = false := by
      intro token formed slash
      have kind := formed.kind_of_symbol (congrArg String.toList slash) (by decide)
      rcases kind with kind | kind <;> simp [Token.isLayout, kind]
    rw [parts, Token.withoutLayout_append, Token.withoutLayout_cons (solid formedToken slash),
      Token.withoutLayout_cons (solid (formed next (by simp [parts])) both)] at spaced
    exact spaced.not_both slash both

/-- Blanks before a text change its layout only. -/
lemma pad {blanks : List Char} (blank : ∀ c ∈ blanks, Text.isBlank c = true)
    (lexes : Lexes text tokens rest) (stuck : Stuck rest) :
    ∃ tokens', Lexes (blanks ++ text) tokens' rest ∧
      Token.withoutLayout tokens' = Token.withoutLayout tokens := by
  by_cases empty : blanks = []
  · subst empty
    exact ⟨tokens, lexes, rfl⟩
  have apart : Text.Free Text.isBlank text → ∃ tokens', Lexes (blanks ++ text) tokens' rest ∧
      Token.withoutLayout tokens' = Token.withoutLayout tokens := by
    intro free
    refine ⟨Token.ofBlanks blanks :: tokens, ?_, Token.withoutLayout_cons_of_layout rfl tokens⟩
    exact .next (by simp [Token.ofBlanks]) (Token.wellFormed_ofBlanks empty blank) free lexes
  cases lexes with
  | done _ => exact apart stuck.free_isBlank
  | @next _ behind _ token tokens split formed fits more =>
    by_cases layout : token.kind = .whitespace
    · -- the blanks and the layout behind them become one token
      obtain ⟨_, text'⟩ := token
      obtain rfl := layout
      refine ⟨Token.ofBlanks (blanks ++ text'.toList) :: tokens, ?_, ?_⟩
      · refine .next (by simp [Token.ofBlanks, split]) ?_ fits more
        refine Token.wellFormed_ofBlanks (by simp [empty]) ?_
        exact List.forall_mem_append.2 ⟨blank, formed.2⟩
      · rw [Token.withoutLayout_cons_of_layout rfl, Token.withoutLayout_cons_of_layout rfl]
    · refine apart ?_
      obtain ⟨c, tail, spelled, opens⟩ := formed.exists_opens
      rw [split, spelled, List.cons_append, Text.free_cons]
      refine Bool.eq_false_iff.2 fun blank => layout ?_
      have opening : token.kind.opening = .blank := opens.class.symm.trans (if_pos blank)
      cases kind : token.kind <;> simp [kind, Token.Kind.opening] at opening ⊢

/-- Blanks at the end of a text can be left uncut. -/
lemma trim (lexes : Lexes text tokens []) :
    ∃ body blanks, Lexes text body blanks ∧ (∀ c ∈ blanks, Text.isBlank c = true) ∧
      Token.withoutLayout body = Token.withoutLayout tokens ∧
      ∀ token ∈ body.getLast?, token.isLayout = false := by
  rcases List.eq_nil_or_concat tokens with rfl | ⟨body, last, rfl⟩
  · exact ⟨[], [], lexes, by simp, rfl, by simp⟩
  rw [List.concat_eq_append] at lexes ⊢
  by_cases layout : last.isLayout = true
  · obtain ⟨spelled, formed, fits⟩ := iff_spelling.1 lexes
    have blank := (formed last (by simp)).blank layout
    refine ⟨body, last.text.toList, ?_, blank, ?_, ?_⟩
    · refine iff_spelling.2 ⟨by simpa using spelled, ?_, ?_⟩
      · exact fun token member => formed token (by simp [member])
      · intro before token after parts
        simpa using fits before token (after ++ [last]) (by simp [parts])
    · rw [Token.withoutLayout_append, Token.withoutLayout_cons_of_layout layout]
      exact (List.append_nil _).symm
    · intro token final
      obtain ⟨before, rfl⟩ := List.getLast?_eq_some_iff.1 final
      -- two layouts in a row would have been cut off as one
      refine Bool.eq_false_iff.2 fun layout' => ?_
      have free := (fits before token [last] (by simp)).free_isBlank layout'
      obtain ⟨c, tail, spelled', -⟩ := (formed last (by simp)).exists_opens
      have first := blank c (by simp [spelled'])
      simp only [Token.spelling_cons, spelled', List.cons_append, Text.free_cons] at free
      exact Bool.false_ne_true (free.symm.trans first)
  · refine ⟨_, [], lexes, by simp, rfl, ?_⟩
    intro token final
    obtain rfl : last = token := by simpa [List.getLast?_append] using final
    simpa using layout

/-- Behind a text that spells a derivation every text is cut as if it stood alone. -/
lemma append_of_derivation {text' : List Char} {tokens' : List Token} (first : Lexes text tokens [])
    (derivation : Derivation) (taken : derivation.tokens = Token.withoutLayout tokens)
    (second : Lexes text' tokens' rest) (stuck : Stuck rest) :
    ∃ all, Lexes (text ++ text') all rest ∧
      Token.withoutLayout all = Token.withoutLayout tokens ++ Token.withoutLayout tokens' := by
  obtain ⟨body, blanks, lexes, blank, same, solid⟩ := first.trim
  obtain ⟨padded, lexes', same'⟩ := second.pad blank stuck
  rw [← same] at taken
  obtain ⟨-, formed, -⟩ := iff_spelling.1 lexes
  have leaves : ∀ token ∈ body, token.isLayout = false → Leaf token := by
    intro token member visible
    refine derivation.leaves token ?_
    rw [taken]
    simp [Token.withoutLayout, member, visible]
  have spaced : Spaced (Token.withoutLayout body) := by
    rw [← taken]
    refine derivation.spaced fun token member => ?_
    rw [taken] at member
    exact (formed token (List.mem_of_mem_filter member)).isPlain
  -- a program ends in a symbol that no text behind it goes on with
  have closes : ∀ token ∈ body.getLast?, token.text = ";" ∨ token.text = "\x7d" := by
    intro token final
    refine derivation.last_closes token ?_
    have visible := solid token final
    obtain ⟨before, rfl⟩ := List.getLast?_eq_some_iff.1 final
    rw [taken, Token.withoutLayout_append, Token.withoutLayout_cons visible]
    simp [Token.withoutLayout]
  refine ⟨body ++ padded, ?_, ?_⟩
  · rw [lexes.spelling_append, List.append_assoc]
    exact (lexes.before leaves spaced closes).trans lexes'
  · rw [Token.withoutLayout_append, same, same']

end Scanner.Lexes

/-! ## Programs -/

/-- The same error in a text with some bytes more before it. -/
def Error.shift (bytes : Nat) : Error → Error
  | .lex e => .lex { e with position := e.position + bytes }
  | e => e

/-- The tokens of a source text are those that it is cut into, without layout. -/
lemma sourceTokens_eq_ok_iff {source : String} {tokens : List Token} :
    sourceTokens source = .ok tokens ↔
      ∃ all, tokenize source = .ok all ∧ Token.withoutLayout all = tokens := by
  rw [sourceTokens]
  cases tokenize source with
  | ok all => simp
  | error e => simp

/-- The tokens of two texts, of which the first spells a derivation. -/
lemma sourceTokens_append {first second : String} {tokens : List Token}
    (handed : sourceTokens first = .ok tokens) (derivation : Derivation)
    (taken : derivation.tokens = tokens) :
    sourceTokens (first ++ second) =
      match sourceTokens second with
      | .ok more => .ok (tokens ++ more)
      | .error e => .error (e.shift first.utf8ByteSize) := by
  obtain ⟨all, cut, rfl⟩ := sourceTokens_eq_ok_iff.1 handed
  obtain ⟨more, rest, stuck, lexes, result⟩ := tokenize_lexes second
  have start := tokenize_eq_ok_iff_lexes.1 cut
  obtain ⟨both, lexes', visible⟩ := start.append_of_derivation derivation taken lexes stuck
  rw [← String.toList_append] at lexes'
  by_cases empty : rest = []
  · subst empty
    have whole := tokenize_eq_ok_iff_lexes.2 lexes'
    have alone := tokenize_eq_ok_iff_lexes.2 lexes
    simp only [sourceTokens, whole, alone, visible]
  · have spelled : Token.spelling both = first.toList ++ Token.spelling more := by
      have whole := lexes'.spelling_append
      rw [String.toList_append, lexes.spelling_append, ← List.append_assoc] at whole
      exact (List.append_cancel_right whole).symm
    have whole := tokenize_eq_error_iff_lexes.2 ⟨both, rest, lexes', stuck, empty, rfl⟩
    have alone := tokenize_eq_error_iff_lexes.2 ⟨more, rest, lexes, stuck, empty, rfl⟩
    simp only [sourceTokens, whole, alone, Error.shift, spelled, Text.byteLength_append,
      Text.byteLength_toList, Nat.add_comm]

/-- The tokens of a derivation are read before any others. -/
lemma Program.ofTokens_append (derivation : Derivation)
    (plain : ∀ token ∈ derivation.tokens, token.IsPlain) (rest : List Token) :
    Program.ofTokens (derivation.tokens ++ rest) =
      match Program.ofTokens rest with
      | .ok program => .ok (derivation.value ++ program)
      | .error e => .error e := by
  rw [Program.ofTokens, program_append derivation plain rest, Parser.bind_apply, Program.ofTokens]
  cases Parser.program rest <;> rfl

/-- A source text is a program exactly if its tokens are one. -/
lemma Program.ofSource_eq_ok_iff {source : String} {program : Program} :
    Program.ofSource source = .ok program ↔
      ∃ tokens, sourceTokens source = .ok tokens ∧ Program.ofTokens tokens = .ok program := by
  rw [Program.ofSource]
  cases sourceTokens source with
  | error e => simp [bind, Except.bind]
  | ok tokens => cases read : Program.ofTokens tokens <;> simp [bind, Except.bind, read]

/-- A text that spells a program spells a derivation. -/
lemma Program.exists_derivation_of_ofSource {source : String} {program : Program}
    (accepted : Program.ofSource source = .ok program) :
    ∃ derivation : Derivation, sourceTokens source = .ok derivation.tokens ∧
      derivation.value = program ∧ ∀ token ∈ derivation.tokens, token.IsPlain := by
  obtain ⟨tokens, handed, read⟩ := Program.ofSource_eq_ok_iff.1 accepted
  obtain ⟨all, cut, rfl⟩ := sourceTokens_eq_ok_iff.1 handed
  have plain : ∀ token ∈ Token.withoutLayout all, token.IsPlain := fun token member =>
    isPlain_of_tokenize cut token (List.mem_of_mem_filter member)
  obtain ⟨derivation, taken, builds⟩ := (Program.ofTokens_eq_ok_iff_derives plain).1 read
  exact ⟨derivation, taken ▸ handed, builds, taken ▸ plain⟩

/-- Behind a text that spells a program every text is read as if it stood alone. -/
lemma Program.ofSource_append_eq {first : String} {program : Program}
    (accepted : Program.ofSource first = .ok program) (second : String) :
    Program.ofSource (first ++ second) =
      match Program.ofSource second with
      | .ok more => .ok (program ++ more)
      | .error e => .error (e.shift first.utf8ByteSize) := by
  obtain ⟨derivation, handed, rfl, plain⟩ := Program.exists_derivation_of_ofSource accepted
  rw [Program.ofSource, sourceTokens_append handed derivation rfl, Program.ofSource]
  cases sourceTokens second with
  | error e => rfl
  | ok more =>
    simp only [bind, Except.bind, Program.ofTokens_append derivation plain]
    cases Program.ofTokens more <;> rfl

/-- Two texts that spell programs run one after the other. -/
lemma Session.run_append {first second : String} {program more : Program}
    (accepted : Program.ofSource first = .ok program)
    (accepted' : Program.ofSource second = .ok more) (fuel : Nat) (s : Session) :
    s.run fuel (first ++ second) = (s.run fuel first).andThen fun s => s.run fuel second := by
  have whole := Program.ofSource_append_eq accepted second
  rw [accepted'] at whole
  simp only [run, runBy, accepted, accepted', whole, Program.run, Stmt.execAll_append,
    Outcome.mapCause_andThen]

/-- A text that spells a program can have any text behind it. The whole is read as the two programs
one after the other, or refused for what is wrong with the second text, at the same place in it; and
it runs as the two texts do, the second from where the first is through. -/
theorem Program.ofSource_append (first second : String) (program : Program)
    (accepted : Program.ofSource first = .ok program) :
    (∀ more, Program.ofSource second = .ok more →
      Program.ofSource (first ++ second) = .ok (program ++ more)) ∧
    (∀ e, Program.ofSource second = .error (.parse e) →
      Program.ofSource (first ++ second) = .error (.parse e)) ∧
    (∀ e, Program.ofSource second = .error (.lex e) →
      Program.ofSource (first ++ second) =
        .error (.lex ⟨e.position + first.utf8ByteSize, e.snippet⟩)) ∧
    ((∃ more, Program.ofSource second = .ok more) → ∀ (s : Session) (outcome : Outcome Error),
      s.Ends (first ++ second) outcome ↔
        (∃ middle, s.Ends first (.done middle) ∧ middle.Ends second outcome) ∨
          ∃ e last, outcome = .failed e last ∧ s.Ends first (.failed e last)) := by
  have whole := Program.ofSource_append_eq accepted second
  refine ⟨?_, ?_, ?_, ?_⟩
  · intro more accepted'
    rw [whole, accepted']
  · intro e refused
    rw [whole, refused]
    rfl
  · intro e refused
    rw [whole, refused]
    rfl
  · rintro ⟨more, accepted'⟩ s outcome
    exact Session.ends_iff_of_sequence fun fuel s => Session.run_append accepted accepted' fuel s

/-- Texts with blanks at the border, and errors behind a character of two bytes. -/
theorem Program.ofSource_append_blanks :
    ∃ program more, Program.ofSource "a=b; " = .ok program ∧ Program.ofSource " f(a,);" = .ok more ∧
      Program.ofSource ("a=b; " ++ " f(a,);") = .ok (program ++ more) ∧
      Program.ofSource ("a=b; " ++ "=") = .error (.parse (.expectedPrimary (.token "="))) ∧
      Program.ofSource ("a=b; " ++ "é#") = .error (.lex ⟨7, "#"⟩) ∧
      ∀ (s : Session) (outcome : Outcome Error), s.Ends ("a=b; " ++ " f(a,);") outcome ↔
        (∃ middle, s.Ends "a=b; " (.done middle) ∧ middle.Ends " f(a,);" outcome) ∨
          ∃ e last, outcome = .failed e last ∧ s.Ends "a=b; " (.failed e last) := by
  have accepted : Program.ofSource "a=b; " =
      .ok [.assign (.variable "a") (some (.variable "b"))] := rfl
  have accepted' : Program.ofSource " f(a,);" =
      .ok [.expr (.call (.variable "f") [.variable "a"])] := rfl
  have good := Program.ofSource_append "a=b; " " f(a,);" _ accepted
  have unparsed := Program.ofSource_append "a=b; " "=" _ accepted
  have uncut := Program.ofSource_append "a=b; " "é#" _ accepted
  exact ⟨_, _, accepted, accepted', good.1 _ accepted', unparsed.2.1 _ rfl,
    uncut.2.2.1 ⟨2, "#"⟩ rfl, good.2.2.2 ⟨_, accepted'⟩⟩

end Scriptlet
