import Scriptlet.Proofs.Grammar.Soundness

/-!
# What is derived is read

A phrase is read back as what it builds, whatever follows it, as long as this does not extend the
phrase (`read_phrase`); a sentence is read back whatever follows it (`read_sentence`). The parsers
go by the text of a token alone, so that numbers and names have to be plain: none of them may be
written like a symbol.
-/

namespace Scriptlet

/-- The texts of the symbols of the grammar. -/
def Grammar.reserved : List String :=
  ["(", ")", "\x7b", "\x7d", ";", "=", ",", "+", "-", "*", "/", "<", ">", "<=", ">=", "==", "!="]

/-- If the token is a number or a name, it is not written like a symbol. -/
def Token.IsPlain (token : Token) : Prop :=
  token.kind = .number ∨ token.kind = .identifier → token.text ∉ Grammar.reserved

namespace Grammar
open Scriptlet.Parser
open Token (front?)

/-- A terminal is accepted. -/
lemma accept_terminal {text : String} (terminal : Terminal text) (rest : List Token) :
    accept text (terminal.token :: rest) = .ok true rest := by
  simp [accept_cons, terminal.spelled]

/-- Another token is not accepted and stays. -/
lemma accept_other {text : String} {tokens : List Token} (other : front? tokens ≠ some text) :
    accept text tokens = .ok false tokens := by
  rw [accept_eq, if_neg other]

/-- A terminal is what is expected. -/
lemma expect_terminal {text : String} (terminal : Terminal text) (rest : List Token) :
    expect text (terminal.token :: rest) = .ok () rest := by
  simp [expect_eq, terminal.spelled]

/-! ## The front of a phrase -/

/-- The categories whose phrases are not empty and start with an operand. -/
def Category.Solid : Category → Prop
  | .main | .primary | .operand _ | .level _ => True
  | _ => False

/-- The token can start an expression. -/
def Starts (token : Token) : Prop :=
  token.kind = .number ∨ token.kind = .identifier ∨ token.text = "("

/-- A phrase that is not empty starts with a token that can start an expression. -/
lemma Phrase.exists_start {category : Category} (phrase : Phrase category)
    (solid : category.Solid) : ∃ first rest, phrase.tokens = first :: rest ∧ Starts first := by
  induction phrase with
  | number token value kind reads => exact ⟨token, [], rfl, .inl kind⟩
  | name token kind => exact ⟨token, [], rfl, .inr (.inl kind)⟩
  | group opening inner closing ih => exact ⟨_, _, rfl, .inr (.inr opening.spelled)⟩
  | primary head lists ih _ =>
    obtain ⟨first, rest, taken, starts⟩ := ih trivial
    exact ⟨first, rest ++ lists.tokens, by simp [tokens, taken], starts⟩
  | ofPrimary phrase ih => exact ih trivial
  | ofProduct phrase ih => exact ih trivial
  | ofSum phrase ih => exact ih trivial
  | level first more ih _ =>
    obtain ⟨start, rest, taken, starts⟩ := ih trivial
    exact ⟨start, rest ++ more.tokens, by simp [tokens, taken], starts⟩
  | _ => exact solid.elim

/-- A plain token that starts an expression is no symbol but an opening parenthesis. -/
lemma Starts.text_ne {token : Token} (starts : Starts token) (plain : token.IsPlain)
    {text : String} (symbol : text ∈ reserved) (closing : text ≠ "(") : token.text ≠ text := by
  rintro rfl
  rcases starts with number | name | opening
  · exact plain (.inl number) symbol
  · exact plain (.inr name) symbol
  · exact closing opening

/-- An expression does not start with a symbol other than an opening parenthesis. -/
lemma front?_expr_ne {phrase : Phrase .expr} (plain : ∀ token ∈ phrase.tokens, token.IsPlain)
    (rest : List Token) (text : String) (symbol : text ∈ reserved) (closing : text ≠ "(") :
    front? (phrase.tokens ++ rest) ≠ some text := by
  obtain ⟨first, more, taken, starts⟩ := phrase.exists_start trivial
  rw [taken] at plain ⊢
  simpa using starts.text_ne (plain first (by simp)) symbol closing

/-- The symbols of a level do not extend its operands. -/
lemma not_mem_extending_operand {precedence : Precedence} {text : String}
    (symbol : text ∈ symbols precedence) : text ∉ (Category.operand precedence).extending := by
  have disjoint : ∀ text ∈ symbols precedence, text ∉ (Category.operand precedence).extending := by
    cases precedence <;> decide
  exact disjoint text symbol

/-- The operators of a level do not extend the operand before them. -/
lemma follow_links {precedence : Precedence} (more : Phrase (.links precedence))
    {rest : List Token} (follow : Follow (.level precedence) rest) :
    Follow (.operand precedence) (more.tokens ++ rest) := by
  intro text member
  cases more with
  | noLinks => exact follow text (mem_extending_level.2 (.inl member))
  | link op symbol right more =>
    intro front
    have same : op.text = text := Option.some.inj front
    exact not_mem_extending_operand symbol (same ▸ member)

/-! ## Phrases -/

/-- The parser of a category. -/
def reader : (category : Category) → Parser category.Meaning
  | .main => operand expression
  | .items => many (argument? expression)
  | .args => arguments expression
  | .calls => many (argumentList? expression)
  | .primary => primary expression
  | .operand precedence => operandAt expression precedence
  | .links precedence => do return spelled (← links precedence (operandAt expression precedence))
  | .level precedence => levelAt expression precedence

/-- The parser of the loosest level is that of expressions. -/
lemma reader_expr : reader .expr = expression :=
  expression_eq.symm

/-- A number is read as an operand. -/
lemma read_number {token : Token} {value : Float} (kind : token.kind = .number)
    (reads : Number.read? token.text = some value) (plain : token.IsPlain) (rest : List Token) :
    operand expression (token :: rest) = .ok (.number value) rest := by
  have noOpening : front? (token :: rest) ≠ some "(" := by
    intro front
    exact plain (.inl kind) (Option.some.inj front ▸ by decide)
  refine bind_eq_ok_iff.2 ⟨_, _, accept_other noOpening, ?_⟩
  obtain ⟨_, text⟩ := token
  cases kind
  have read : leaf (⟨.number, text⟩ :: rest) = .ok (.number value) rest := by
    simp only [leaf, reads]
  exact read

/-- A name is read as an operand. -/
lemma read_name {token : Token} (kind : token.kind = .identifier) (plain : token.IsPlain)
    (rest : List Token) : operand expression (token :: rest) = .ok (.variable token.text) rest := by
  have noOpening : front? (token :: rest) ≠ some "(" := by
    intro front
    exact plain (.inr kind) (Option.some.inj front ▸ by decide)
  refine bind_eq_ok_iff.2 ⟨_, _, accept_other noOpening, ?_⟩
  obtain ⟨_, text⟩ := token
  cases kind
  rfl

/-- An argument and its comma are read before what is left of the list. -/
lemma read_item {argument : Phrase .expr} (comma : Terminal ",")
    (plain : ∀ token ∈ argument.tokens, token.IsPlain) {more rest : List Token}
    {values : List Expr}
    (first : expression (argument.tokens ++ comma.token :: more) =
      .ok argument.value (comma.token :: more))
    (others : many (argument? expression) more = .ok values rest) :
    many (argument? expression) (argument.tokens ++ comma.token :: more) =
      .ok (argument.value :: values) rest := by
  have step : argument? expression (argument.tokens ++ comma.token :: more) =
      .ok (some argument.value) more := by
    have notClosed := front?_expr_ne plain (comma.token :: more) ")" (by decide) (by decide)
    refine bind_eq_ok_iff.2 ⟨_, _, accept_other notClosed, ?_⟩
    refine bind_eq_ok_iff.2 ⟨_, _, first, ?_⟩
    exact bind_eq_ok_iff.2 ⟨_, _, expect_terminal comma _, rfl⟩
  rw [many_of_some (stepAdvances_argument? advances_expression) step]
  exact bind_eq_ok_iff.2 ⟨_, _, others, rfl⟩

/-- The arguments end at a closing parenthesis. -/
lemma read_close (closing : Terminal ")") (rest : List Token) :
    many (argument? expression) (closing.token :: rest) = .ok [] rest :=
  many_of_none (bind_eq_ok_iff.2 ⟨_, _, accept_terminal closing rest, rfl⟩)

/-- An argument list starts with a parenthesis. -/
lemma front?_args (phrase : Phrase .args) (rest : List Token) :
    front? (phrase.tokens ++ rest) = some "(" := by
  cases phrase with
  | noArgs opening closing => simp [Phrase.tokens, opening.spelled]
  | args opening first comma more => simp [Phrase.tokens, opening.spelled]

/-- What nothing can extend may be followed by anything. -/
lemma Follow.trivial {category : Category} (free : category.extending = []) (rest : List Token) :
    Follow category rest := by
  intro text member
  simp [free] at member

/-- A token that no expression goes on with ends every phrase. -/
lemma follow_terminal {text : String} (terminal : Terminal text) (rest : List Token)
    (ends : text ∉ Category.expr.extending) : Follow .expr (terminal.token :: rest) := by
  intro other member front
  have same : terminal.token.text = other := Option.some.inj front
  exact ends (terminal.spelled ▸ same ▸ member)

/-- A phrase is read back as what it builds, unless what follows extends it. -/
theorem read_phrase {category : Category} (phrase : Phrase category)
    (plain : ∀ token ∈ phrase.tokens, token.IsPlain) {rest : List Token}
    (follow : Follow category rest) :
    reader category (phrase.tokens ++ rest) = .ok phrase.value rest := by
  induction phrase generalizing rest with
  | number token value kind reads =>
    exact read_number kind reads (plain _ (by simp [Phrase.tokens])) _
  | name token kind => exact read_name kind (plain _ (by simp [Phrase.tokens])) _
  | group opening inner closing ih =>
    simp only [Phrase.tokens, List.forall_mem_cons, List.forall_mem_append] at plain
    have inside := ih plain.2.1 (follow_terminal closing rest (by decide))
    rw [reader_expr] at inside
    refine bind_eq_ok_iff.2 ⟨_, _, accept_terminal opening _, ?_⟩
    refine bind_eq_ok_iff.2 ⟨_, _, ?_, bind_eq_ok_iff.2 ⟨_, _, accept_terminal closing rest, rfl⟩⟩
    simpa using inside
  | close closing => exact read_close closing rest
  | item argument comma more ihArgument ihMore =>
    simp only [Phrase.tokens, List.forall_mem_append, List.forall_mem_cons] at plain
    have first := ihArgument plain.1 (follow_terminal comma (more.tokens ++ rest) (by decide))
    rw [reader_expr] at first
    have others := ihMore plain.2.2 follow
    simp only [Phrase.tokens, List.append_assoc, List.cons_append]
    exact read_item comma plain.1 first others
  | noArgs opening closing =>
    refine bind_eq_ok_iff.2 ⟨_, _, accept_terminal opening _, ?_⟩
    exact bind_eq_ok_iff.2 ⟨_, _, read_close closing rest, rfl⟩
  | args opening argument comma more ihArgument ihMore =>
    simp only [Phrase.tokens, List.forall_mem_append, List.forall_mem_cons] at plain
    have first := ihArgument plain.2.1 (follow_terminal comma (more.tokens ++ rest) (by decide))
    rw [reader_expr] at first
    have others := ihMore plain.2.2.2 (.trivial rfl rest)
    simp only [Phrase.tokens, List.append_assoc, List.cons_append]
    refine bind_eq_ok_iff.2 ⟨_, _, accept_terminal opening _, ?_⟩
    exact bind_eq_ok_iff.2 ⟨_, _, read_item comma plain.2.1 first others, rfl⟩
  | noCalls =>
    -- no list follows the last one, since what stands behind the phrase does not extend it
    have noOpening : front? rest ≠ some "(" := follow "(" (by decide)
    have step : argumentList? expression rest = .ok none rest := by
      refine bind_eq_ok_iff.2 ⟨_, _, sees_eq _ _, ?_⟩
      rw [if_neg (by simpa using noOpening)]
      rfl
    exact many_of_none step
  | call list more ihList ihMore =>
    simp only [Phrase.tokens, List.forall_mem_append] at plain
    have first := ihList plain.1 (.trivial rfl (more.tokens ++ rest))
    have step : argumentList? expression (list.tokens ++ (more.tokens ++ rest)) =
        .ok (some list.value) (more.tokens ++ rest) := by
      refine bind_eq_ok_iff.2 ⟨_, _, sees_eq _ _, ?_⟩
      rw [if_pos (by simpa using front?_args list _)]
      exact bind_eq_ok_iff.2 ⟨_, _, first, rfl⟩
    simp only [Phrase.tokens, List.append_assoc, reader]
    rw [many_of_some (stepAdvances_argumentList? recedes_expression) step]
    exact bind_eq_ok_iff.2 ⟨_, _, ihMore plain.2 follow, rfl⟩
  | primary head lists ihHead ihLists =>
    simp only [Phrase.tokens, List.forall_mem_append] at plain
    have first := ihHead plain.1 (.trivial rfl (lists.tokens ++ rest))
    simp only [Phrase.tokens, List.append_assoc]
    refine bind_eq_ok_iff.2 ⟨_, _, first, ?_⟩
    exact bind_eq_ok_iff.2 ⟨_, _, ihLists plain.2 follow, rfl⟩
  | ofPrimary phrase ih => exact ih plain follow
  | ofProduct phrase ih => exact ih plain follow
  | ofSum phrase ih => exact ih plain follow
  | @noLinks precedence =>
    have noSymbol : ∀ text ∈ symbols precedence, front? rest ≠ some text :=
      fun text symbol => follow text (mem_extending_level.2 (.inr symbol))
    have step : link? precedence (operandAt expression precedence) rest = .ok none rest :=
      bind_eq_ok_iff.2 ⟨_, _, operator?_of_not_mem noSymbol, rfl⟩
    exact bind_eq_ok_iff.2 ⟨_, _, many_of_none step, rfl⟩
  | @link precedence op symbol right more ihRight ihMore =>
    simp only [Phrase.tokens, List.forall_mem_append, List.forall_mem_cons] at plain
    -- the operand ends at the next operator of the chain, or where the chain does
    have operand := ihRight plain.2.1 (follow_links more follow)
    obtain ⟨chain, last, others, finish⟩ := bind_eq_ok_iff.1 (ihMore plain.2.2 follow)
    obtain ⟨built, rfl⟩ := pure_eq_ok_iff.1 finish
    obtain ⟨oper, front, spelling⟩ :=
      operator?_of_mem (right.tokens ++ (more.tokens ++ last)) symbol
    have step : link? precedence (operandAt expression precedence)
        (op :: (right.tokens ++ (more.tokens ++ last))) =
        .ok (some (oper, right.value)) (more.tokens ++ last) :=
      bind_eq_ok_iff.2 ⟨_, _, front, bind_eq_ok_iff.2 ⟨_, _, operand, rfl⟩⟩
    have advances := advances_operandAt recedes_expression precedence
    simp only [Phrase.tokens, List.append_assoc, List.cons_append]
    have chained : links precedence (operandAt expression precedence)
        (op :: (right.tokens ++ (more.tokens ++ last))) =
        .ok ((oper, right.value) :: chain) last := by
      rw [links_eq, many_of_some (stepAdvances_link? advances precedence) step]
      exact bind_eq_ok_iff.2 ⟨_, _, others, rfl⟩
    refine bind_eq_ok_iff.2 ⟨_, _, chained, pure_eq_ok_iff.2 ⟨?_, rfl⟩⟩
    simp [Phrase.value, ← built, spelled, spelling]
  | @level precedence first more ihFirst ihMore =>
    simp only [Phrase.tokens, List.forall_mem_append] at plain
    have head := ihFirst plain.1 (follow_links more follow)
    obtain ⟨chain, _, others, finish⟩ := bind_eq_ok_iff.1 (ihMore plain.2 follow)
    obtain ⟨built, rfl⟩ := pure_eq_ok_iff.1 finish
    simp only [Phrase.tokens, List.append_assoc, reader]
    rw [levelAt_eq]
    refine bind_eq_ok_iff.2 ⟨_, _, head, bind_eq_ok_iff.2 ⟨_, _, others, ?_⟩⟩
    rw [join_eq_fold, built]
    rfl

/-- An expression in front of a symbol that it does not go on with is read back. -/
lemma read_expr (phrase : Phrase .expr) (plain : ∀ token ∈ phrase.tokens, token.IsPlain)
    {text : String} (terminal : Terminal text) (rest : List Token)
    (ends : text ∉ Category.expr.extending) :
    expression (phrase.tokens ++ terminal.token :: rest) =
      .ok phrase.value (terminal.token :: rest) := by
  rw [← reader_expr]
  exact read_phrase phrase plain (follow_terminal terminal rest ends)

/-! ## Sentences -/

/-- A name as an expression. -/
def Phrase.ofName (token : Token) (kind : token.kind = .identifier) : Phrase .expr :=
  .level (.ofSum (.level (.ofProduct (.level (.ofPrimary (.primary (.name token kind) .noCalls))
    .noLinks)) .noLinks)) .noLinks

/-- A statement starts with a token that does not close a block. -/
lemma Sentence.exists_start (sentence : Sentence .one)
    (plain : ∀ token ∈ sentence.tokens, token.IsPlain) :
    ∃ first rest, sentence.tokens = first :: rest ∧ first.text ≠ "\x7d" := by
  cases sentence with
  | clause keyword word opening condition closing brace body unbrace =>
    refine ⟨_, _, rfl, ?_⟩
    rw [word.spelled]
    cases keyword <;> decide
  | assignment target kind noKeyword sign source semicolon =>
    refine ⟨_, _, rfl, fun same => ?_⟩
    exact plain target (by simp [tokens]) (.inr kind) (same ▸ by decide)
  | effect action noKeyword semicolon =>
    obtain ⟨first, rest, taken, starts⟩ := action.exists_start trivial
    refine ⟨first, rest ++ [semicolon.token], by simp [tokens, taken], ?_⟩
    exact starts.text_ne (plain first (by simp [tokens, taken])) (by decide) (by decide)

/-- A statement that starts with no keyword is read as one without a block. -/
lemma statement_of_simple {tokens : List Token} {stmt : Stmt} (semicolon : Terminal ";")
    (rest : List Token) (noKeyword : ∀ keyword : Keyword, front? tokens ≠ some keyword.text)
    (read : simple tokens = .ok stmt (semicolon.token :: rest)) :
    statement tokens = .ok stmt rest := by
  rw [statement_eq]
  refine bind_eq_ok_iff.2 ⟨_, _, accept_other (noKeyword .ifThen), ?_⟩
  refine bind_eq_ok_iff.2 ⟨_, _, accept_other (noKeyword .whileDo), ?_⟩
  exact bind_eq_ok_iff.2 ⟨_, _, read, bind_eq_ok_iff.2 ⟨_, _, expect_terminal semicolon rest, rfl⟩⟩

/-- An assignment is read up to its semicolon. -/
lemma read_assignment {target : Token} (kind : target.kind = .identifier) (sign : Terminal "=")
    {source : Phrase .expr} (semicolon : Terminal ";") (named : target.IsPlain)
    (plain : ∀ token ∈ source.tokens, token.IsPlain) (rest : List Token) :
    simple (target :: sign.token :: (source.tokens ++ semicolon.token :: rest)) =
      .ok (.assign (.variable target.text) (some source.value)) (semicolon.token :: rest) := by
  have name : expression (target :: sign.token :: (source.tokens ++ semicolon.token :: rest)) =
      .ok (.variable target.text) (sign.token :: (source.tokens ++ semicolon.token :: rest)) :=
    read_expr (.ofName target kind) (by simpa [Phrase.ofName, Phrase.tokens] using named) sign _
      (by decide)
  refine bind_eq_ok_iff.2 ⟨_, _, name, bind_eq_ok_iff.2 ⟨_, _, sees_eq _ _, ?_⟩⟩
  rw [if_pos (by simp [sign.spelled])]
  refine bind_eq_ok_iff.2 ⟨_, _, rfl, ?_⟩
  exact bind_eq_ok_iff.2 ⟨_, _, read_expr _ plain semicolon rest (by decide), rfl⟩

/-- An expression alone is read up to its semicolon. -/
lemma read_effect {action : Phrase .expr} (semicolon : Terminal ";")
    (plain : ∀ token ∈ action.tokens, token.IsPlain) (rest : List Token) :
    simple (action.tokens ++ semicolon.token :: rest) =
      .ok (.expr action.value) (semicolon.token :: rest) := by
  refine bind_eq_ok_iff.2 ⟨_, _, read_expr _ plain semicolon rest (by decide), ?_⟩
  refine bind_eq_ok_iff.2 ⟨_, _, sees_eq _ _, ?_⟩
  rw [if_neg (by simp [semicolon.spelled])]
  refine bind_eq_ok_iff.2 ⟨_, _, sees_eq _ _, ?_⟩
  rw [if_neg (by simp [semicolon.spelled])]
  refine bind_eq_ok_iff.2 ⟨_, _, sees_eq _ _, ?_⟩
  rw [if_pos (by simp [semicolon.spelled])]
  rfl

/-- Behind a keyword, a condition and a block are read. -/
lemma read_clause {condition : Phrase .expr} {body : List Token} {stmts : List Stmt}
    (opening : Terminal "(") (closing : Terminal ")") (brace : Terminal "\x7b") (rest : List Token)
    (plain : ∀ token ∈ condition.tokens, token.IsPlain)
    (inside : block statement body = .ok stmts rest) :
    clause statement
        (opening.token :: (condition.tokens ++ closing.token :: brace.token :: body)) =
      .ok (condition.value, stmts) rest := by
  refine bind_eq_ok_iff.2 ⟨_, _, expect_terminal opening _, ?_⟩
  refine bind_eq_ok_iff.2 ⟨_, _, read_expr _ plain closing _ (by decide), ?_⟩
  refine bind_eq_ok_iff.2 ⟨_, _, expect_terminal closing _, ?_⟩
  refine bind_eq_ok_iff.2 ⟨_, _, expect_terminal brace _, ?_⟩
  exact bind_eq_ok_iff.2 ⟨_, _, inside, rfl⟩

/-- A keyword with its clause is read as a statement. -/
lemma statement_of_clause {keyword : Keyword} (word : Terminal keyword.text) {tokens : List Token}
    {condition : Expr} {body : List Stmt} {rest : List Token}
    (read : clause statement tokens = .ok (condition, body) rest) :
    statement (word.token :: tokens) = .ok (keyword.build condition body) rest := by
  rw [statement_eq]
  cases keyword with
  | ifThen =>
    refine bind_eq_ok_iff.2 ⟨_, _, accept_terminal word _, ?_⟩
    exact bind_eq_ok_iff.2 ⟨_, _, read, rfl⟩
  | whileDo =>
    have noIf : front? (word.token :: tokens) ≠ some "if" := by
      rw [Token.front?_cons, word.spelled]
      decide
    refine bind_eq_ok_iff.2 ⟨_, _, accept_other noIf, ?_⟩
    refine bind_eq_ok_iff.2 ⟨_, _, accept_terminal word _, ?_⟩
    exact bind_eq_ok_iff.2 ⟨_, _, read, rfl⟩

/-- The sentence is read back: a statement whatever follows it, a row of them up to the end of a
block. -/
def ReadBack : {extent : Extent} → Sentence extent → Prop
  | .one, sentence => ∀ rest, statement (sentence.tokens ++ rest) = .ok sentence.value rest
  | .row, row => ∀ (unbrace : Terminal "\x7d") (rest : List Token),
    block statement (row.tokens ++ unbrace.token :: rest) = .ok row.value rest

/-- A sentence is read back as what it builds. -/
theorem read_sentence {extent : Extent} (sentence : Sentence extent)
    (plain : ∀ token ∈ sentence.tokens, token.IsPlain) : ReadBack sentence := by
  induction sentence with
  | clause keyword word opening condition closing brace body unbrace ih =>
    simp only [Sentence.tokens, List.forall_mem_cons, List.forall_mem_append] at plain
    obtain ⟨-, -, conditionPlain, -, -, bodyPlain, -⟩ := plain
    intro rest
    have inside := ih bodyPlain unbrace rest
    have read := read_clause opening closing brace rest conditionPlain inside
    simpa [Sentence.tokens, Sentence.value] using statement_of_clause word read
  | assignment target kind noKeyword sign source semicolon =>
    simp only [Sentence.tokens, List.forall_mem_cons, List.forall_mem_append] at plain
    intro rest
    have read := read_assignment kind sign semicolon plain.1 plain.2.2.1 rest
    have front : ∀ keyword : Keyword, front? (target :: sign.token ::
        (source.tokens ++ semicolon.token :: rest)) ≠ some keyword.text := by
      intro keyword
      simpa using noKeyword keyword
    simpa [Sentence.tokens, Sentence.value] using statement_of_simple semicolon rest front read
  | effect action noKeyword semicolon =>
    simp only [Sentence.tokens, List.forall_mem_append] at plain
    intro rest
    have read := read_effect semicolon plain.1 rest
    have front : ∀ keyword : Keyword,
        front? (action.tokens ++ semicolon.token :: rest) ≠ some keyword.text := by
      intro keyword
      obtain ⟨first, more, taken, -⟩ := action.exists_start trivial
      simpa [taken] using noKeyword keyword
    simpa [Sentence.tokens, Sentence.value] using statement_of_simple semicolon rest front read
  | none =>
    intro unbrace rest
    exact many_of_none (bind_eq_ok_iff.2 ⟨_, _, accept_terminal unbrace rest, rfl⟩)
  | more first others ihFirst ihOthers =>
    simp only [Sentence.tokens, List.forall_mem_append] at plain
    intro unbrace rest
    have head := ihFirst plain.1 (others.tokens ++ unbrace.token :: rest)
    obtain ⟨start, left, taken, notClosed⟩ := first.exists_start plain.1
    have step : blockItem? statement (first.tokens ++ (others.tokens ++ unbrace.token :: rest)) =
        .ok (some first.value) (others.tokens ++ unbrace.token :: rest) := by
      refine bind_eq_ok_iff.2 ⟨_, _, accept_other (by simpa [taken] using notClosed), ?_⟩
      refine bind_eq_ok_iff.2 ⟨_, _, rfl, ?_⟩
      rw [if_neg (by simp [taken])]
      exact bind_eq_ok_iff.2 ⟨_, _, head, rfl⟩
    simp only [Sentence.tokens, List.append_assoc]
    rw [block_eq, many_of_some (stepAdvances_blockItem? advances_statement) step]
    exact bind_eq_ok_iff.2 ⟨_, _, ihOthers plain.2 unbrace rest, rfl⟩

end Grammar

end Scriptlet
