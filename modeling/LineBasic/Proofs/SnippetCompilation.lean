import LineBasic.Proofs.BracketedTokens
import LineBasic.Proofs.ExprRereading
import LineBasic.Proofs.LinePrinting
import LineBasic.Snippet

/-!
# How a snippet is compiled

The value of an expression is found by assigning it to a variable of its own: its text stands in
brackets behind the name, in a line like any other.  So the text is read twice over, once for what it
is on its own and once as a part of that line.  Both readings see the same tokens but for the end,
where the line has a closing bracket more.

A text that is one expression gives the assignment of that expression.  Any other text that is
accepted closes the bracket by itself, so that something of it stands behind the brackets.

## Main definitions

* `IsExpression`: a text is one complete expression.
* `QuotationsClosed`: no quotation of a text goes on to its end.
* `ClosesBracket`: a text begins with an expression and a closing bracket that nothing has opened.

## Main results

* `compileExpression_complete`: what the text of one expression is compiled to.
* `compileExpression_open`: an expression with a quotation that goes on to its end is refused.
* `complete_or_closes`, `accepted`: what is accepted is one expression, or closes the bracket.
-/

namespace LineBasic

/-! ## Words and blanks at the head of a text -/

section Words

variable {c : Char} {rest letters : List Char} {kind : TokenKind} {more : Nat}

namespace Lexeme

/-- Without a type mark a word is a keyword or a name. -/
theorem word_unmarked (hletters : ∀ d ∈ letters, isNameChar d = true) (hc : isNameChar c = false)
    (hmark : isTypeMark c = false) (rest : List Char) :
    word (letters ++ c :: rest) =
      match Keyword.ofWord? (Text.asciiLower (String.ofList letters)) with
      | some .rem => comment
      | some k => .token (.keyword k) (letters.length - 1)
      | none => .token (.name (String.ofList letters)) (letters.length - 1) := by
  have hnone : (c :: rest).head?.filter isTypeMark = none := by
    rw [List.head?_cons, Option.filter_some, hmark]
    rfl
  unfold word
  rw [takeWhile_stops hletters hc, dropWhile_stops hletters hc]
  dsimp only
  generalize Option.filter isTypeMark _ = mark at hnone ⊢
  subst hnone
  generalize Keyword.ofWord? _ = keyword
  cases keyword with
  | none => rfl
  | some k => cases k <;> rfl

/-- A type mark belongs to the name before it. -/
theorem word_marked (hletters : ∀ d ∈ letters, isNameChar d = true) (hc : isNameChar c = false)
    (hmark : isTypeMark c = true) (rest : List Char) :
    word (letters ++ c :: rest) =
      .token (.name (String.ofList (letters ++ [c]))) letters.length := by
  have hsome : (c :: rest).head?.filter isTypeMark = some c := by
    rw [List.head?_cons, Option.filter_some, hmark]
    rfl
  unfold word
  rw [takeWhile_stops hletters hc, dropWhile_stops hletters hc, hsome]

end Lexeme

end Words

namespace Snippet

/-! ## The line around a text -/

/-- The name of the variable that takes a value of a type. -/
def resultNameOf : ValueType → String
  | .number => resultName
  | .text => resultTextName

@[simp] theorem typeOfName_resultNameOf (type : ValueType) : typeOfName (resultNameOf type) = type := by
  cases type <;> decide

/-- The tokens before the text of an expression. -/
def opening (type : ValueType) : List Token :=
  [⟨.number 1, 0⟩, ⟨.keyword .let, 2⟩, ⟨.name (resultNameOf type), 6⟩,
    ⟨.sign .eq, 6 + (resultNameOf type).length⟩,
    ⟨.sign .leftParen, 6 + (resultNameOf type).length + 1⟩]

theorem ofText_one (rest : List Char) :
    Lexeme.ofText '1' (' ' :: rest) = .token (.number 1) 0 := by
  have hlex : Lexeme.ofText '1' (' ' :: rest) =
      .token (.number (Number.Numeral.value ⟨['1'], [], 0⟩)) 0 := by rfl
  have hvalue : Number.Numeral.value ⟨['1'], [], 0⟩ = 1 := by with_unfolding_all rfl
  rw [hlex, hvalue]

theorem ofText_let (rest : List Char) :
    Lexeme.ofText 'l' ('e' :: 't' :: ' ' :: rest) = .token (.keyword .let) 2 := by
  have hlex : ∀ tail, Lexeme.ofText 'l' tail = Lexeme.word ('l' :: tail) := fun _ => rfl
  have hletters : ∀ d ∈ ['l', 'e', 't'], Lexeme.isNameChar d = true := List.all_eq_true.1 rfl
  have hword := Lexeme.word_unmarked (c := ' ') hletters rfl rfl rest
  have hlet : Keyword.ofWord? (Text.asciiLower (String.ofList ['l', 'e', 't'])) = some .let := by
    decide
  rw [hlet] at hword
  rw [hlex]
  exact hword

theorem tokensFrom_resultName (type : ValueType) (pos : Nat) (rest : List Char) :
    tokensFrom pos ((resultNameOf type).toList ++ '=' :: rest) =
      (tokensFrom (pos + (resultNameOf type).length) ('=' :: rest)).map
        (⟨.name (resultNameOf type), pos⟩ :: ·) := by
  have hlex : ∀ tail, Lexeme.ofText 'e' tail = Lexeme.word ('e' :: tail) := fun _ => rfl
  have hletters : ∀ d ∈ resultName.toList, Lexeme.isNameChar d = true := List.all_eq_true.1 rfl
  cases type with
  | number =>
      have hword := Lexeme.word_unmarked (c := '=') hletters rfl rfl rest
      have hnone : Keyword.ofWord? (Text.asciiLower (String.ofList resultName.toList)) = none := by
        decide
      rw [hnone] at hword
      exact tokensFrom_token (c := 'e') ((hlex _).trans hword) pos
  | text =>
      have hword := Lexeme.word_marked (c := '$') hletters rfl rfl ('=' :: rest)
      exact tokensFrom_token (c := 'e') ((hlex _).trans hword) pos

theorem tokensFrom_opening (type : ValueType) (rest : List Char) :
    tokensFrom 0 ('1' :: ' ' :: 'l' :: 'e' :: 't' :: ' ' ::
        ((resultNameOf type).toList ++ '=' :: '(' :: rest)) =
      (tokensFrom (6 + (resultNameOf type).length + 2) rest).map (opening type ++ ·) := by
  have hparen : Lexeme.ofText '(' rest = .token (.sign .leftParen) 0 := by cases rest <;> rfl
  have heq : Lexeme.ofText '=' ('(' :: rest) = .token (.sign .eq) 0 := by rfl
  have hblank (cs : List Char) : Lexeme.ofText ' ' cs = .blank := by rfl
  rw [tokensFrom_token (ofText_one _), List.drop_zero, tokensFrom_blank (hblank _),
    tokensFrom_token (ofText_let _), List.drop_succ_cons, List.drop_succ_cons, List.drop_zero,
    tokensFrom_blank (hblank _), tokensFrom_resultName, tokensFrom_token heq, List.drop_zero,
    tokensFrom_token hparen, List.drop_zero]
  show Except.map _ (Except.map _ (Except.map _ (Except.map _ (Except.map _
    (tokensFrom (6 + (resultNameOf type).length + 2) rest))))) = _
  generalize tokensFrom (6 + (resultNameOf type).length + 2) rest = r
  cases r <;> rfl

/-- The tokens of the line around a text are those of the text with a bracket behind it. -/
theorem tokenize_assignment (type : ValueType) (text : String) :
    tokenize (assignment (resultNameOf type) text) =
      (tokensFrom (6 + (resultNameOf type).length + 2) (text.toList ++ [')'])).map
        (opening type ++ ·) := by
  have hline : (assignment (resultNameOf type) text).toList =
      '1' :: ' ' :: 'l' :: 'e' :: 't' :: ' ' ::
        ((resultNameOf type).toList ++ '=' :: '(' :: (text.toList ++ [')'])) := by
    unfold assignment
    rw [String.toList_append, String.toList_append, String.toList_append, String.toList_append,
      List.append_assoc, List.append_assoc, List.append_assoc]
    rfl
  unfold tokenize
  rw [hline, tokensFrom_opening]

/-! ## The line as an assignment -/

section Assignment

variable {type : ValueType} {eol : Nat} {e : Expr} {ts rest : List Token}

/-- The bracket that the line opens before a text. -/
abbrev openParen (type : ValueType) : Token :=
  ⟨.sign .leftParen, 6 + (resultNameOf type).length + 1⟩

/-- The line has the number one, and the statements behind that. -/
theorem ofTokens_opening (type : ValueType) (eol : Nat) (ts : List Token) :
    Line.ofTokens eol (opening type ++ ts) = (do
      let statements ← Stmt.parseList eol ((opening type).tail ++ ts)
      match statements.rest with
      | [] => return ⟨some 1, statements.value⟩
      | t :: _ => .error (.malformed (.unexpected t.kind) t.pos)) := by
  have hone : Reads (parseLineNumber eol (⟨.number 1, 0⟩ :: ((opening type).tail ++ ts))) 1
      ((opening type).tail ++ ts) :=
    parseLineNumber_numeral ⟨Nat.le_refl 1, by decide⟩ rfl _
  obtain ⟨shorter, hnumber⟩ := eq_of_reads hone
  have hfirst : Line.parseNumber eol (opening type ++ ts) =
      .ok ⟨some 1, (opening type).tail ++ ts, Nat.le_of_lt shorter⟩ := by
    unfold Line.parseNumber
    rw [if_pos (by rfl)]
    show (parseLineNumber eol (⟨.number 1, 0⟩ :: ((opening type).tail ++ ts)) >>= _) = _
    rw [hnumber]
    rfl
  unfold Line.ofTokens
  rw [hfirst]
  rfl

/-- The statements begin with the `LET`. -/
theorem skipColons_opening (type : ValueType) (ts : List Token) :
    Stmt.skipColons ((opening type).tail ++ ts) =
      ⟨.keyword .let, 2⟩ :: ((opening type).tail.tail ++ ts) := rfl

/-- The first statement is the assignment, if the types fit. -/
theorem parseOne_opening (type : ValueType) (eol : Nat) (ts : List Token) :
    Stmt.parseOne eol ((opening type).tail ++ ts) = (do
      let value ← Expr.parse eol (openParen type :: ts)
      if value.value.type = type then
        return ⟨.assign (Variable.ofName (resultNameOf type)) value.value, value.rest,
          Nat.lt_trans value.shorter (by simp [opening])⟩
      else .error (.typeMismatch (openParen type).pos)) := by
  show Stmt.parseOne eol (⟨.keyword .let, 2⟩ :: ⟨.name (resultNameOf type), 6⟩ ::
    ⟨.sign .eq, 6 + (resultNameOf type).length⟩ :: openParen type :: ts) = _
  have heq : expectSign eol .eq "'='" (⟨.sign .eq, 6 + (resultNameOf type).length⟩ ::
      openParen type :: ts) = .ok ⟨(), openParen type :: ts, Nat.lt_succ_self _⟩ :=
    expectSign_head eol rfl _ _
  have htype : (Variable.ofName (resultNameOf type)).type = type := typeOfName_resultNameOf type
  rw [Stmt.parseOne]
  dsimp only
  unfold Stmt.parseAssignment
  dsimp only
  rw [heq, htype]
  show (Expr.parse eol (openParen type :: ts) >>= _) >>= _ = _
  cases Expr.parse eol (openParen type :: ts) with
  | error err => rfl
  | ok value =>
      show (if value.value.type = type then _ else _) >>= _ =
        if value.value.type = type then _ else _
      by_cases fits : value.value.type = type
      · rw [if_pos fits]
        exact (if_pos fits).symm
      · rw [if_neg fits]
        exact (if_neg fits).symm

/-- If nothing stands behind the brackets, the line is the assignment alone. -/
theorem ofTokens_fits (he : Reads (Expr.parse eol (openParen type :: ts)) e [])
    (fits : e.type = type) :
    Line.ofTokens eol (opening type ++ ts) =
      .ok ⟨some 1, [.assign (Variable.ofName (resultNameOf type)) e]⟩ := by
  have hone : Reads (Stmt.parseOne eol ((opening type).tail ++ ts))
      (.assign (Variable.ofName (resultNameOf type)) e) [] := by
    rw [parseOne_opening]
    refine reads_bind he fun shorter => ?_
    dsimp only
    rw [if_pos fits]
    exact .ok ⟨rfl, rfl⟩
  have hlist := Stmt.parseList_last (skipColons_opening type ts) (by decide) hone (by nofun)
  rw [ofTokens_opening]
  generalize Stmt.parseList eol ((opening type).tail ++ ts) = r at hlist
  cases hlist with
  | @ok statements leaves =>
      show (match statements.rest with | [] => _ | t :: _ => _) = _
      rw [leaves.rest, leaves.value]
      rfl

/-- The types of the expression and of its variable are compared before anything is read behind the
brackets. -/
theorem ofTokens_unfit (he : Reads (Expr.parse eol (openParen type :: ts)) e rest)
    (unfit : e.type ≠ type) :
    Line.ofTokens eol (opening type ++ ts) = .error (.typeMismatch (openParen type).pos) := by
  obtain ⟨shorter, hparse⟩ := eq_of_reads he
  have hone : Stmt.parseOne eol ((opening type).tail ++ ts) =
      .error (.typeMismatch (openParen type).pos) := by
    rw [parseOne_opening, hparse]
    exact if_neg unfit
  have hlist : Stmt.parseList eol ((opening type).tail ++ ts) =
      .error (.typeMismatch (openParen type).pos) := by
    rw [Stmt.parseList]
    split
    · next hskip => cases hskip
    · next hskip =>
        cases hskip
        rw [if_neg (by decide)]
        show (Stmt.parseOne eol ((opening type).tail ++ ts) >>= _) = _
        rw [hone]
        rfl
  rw [ofTokens_opening, hlist]
  rfl

/-- A list of statements begins with the one that is read first. -/
theorem yields_parseList {P : Stmt → Prop} {t : Token} {tail : List Token}
    (hskip : Stmt.skipColons ts = t :: tail) (hhead : t.kind ≠ .keyword .else)
    (hs : Yields (fun s => P s.value) (Stmt.parseOne eol (t :: tail))) :
    Yields (fun r => ∃ s more, P s ∧ r.value = s :: more) (Stmt.parseList eol ts) := by
  rw [Stmt.parseList]
  split
  · next hskip' => cases hskip.symm.trans hskip'
  · next hskip' =>
      cases hskip.symm.trans hskip'
      rw [if_neg hhead]
      refine yields_bind hs fun s hs => ?_
      dsimp only
      split
      · exact yields_ok ⟨_, _, hs, rfl⟩
      · split
        · exact yields_ok ⟨_, _, hs, rfl⟩
        · split
          · exact yields_bind (yields_any _) fun more _ => yields_pure ⟨_, _, hs, rfl⟩
          · split
            · exact yields_ok ⟨_, _, hs, rfl⟩
            · split
              · exact yields_ok ⟨_, _, hs, rfl⟩
              · exact yields_error _

/-- The line is the assignment and what stands behind the brackets. -/
theorem yields_opening (type : ValueType) (eol : Nat) (ts : List Token) :
    Yields (fun line => ∃ e rest more, Reads (Expr.parse eol (openParen type :: ts)) e rest ∧
      e.type = type ∧ line = ⟨some 1, .assign (Variable.ofName (resultNameOf type)) e :: more⟩)
      (Line.ofTokens eol (opening type ++ ts)) := by
  have hlist : Yields (fun r => ∃ s more, (∃ e rest,
      Reads (Expr.parse eol (openParen type :: ts)) e rest ∧ e.type = type ∧
        s = .assign (Variable.ofName (resultNameOf type)) e) ∧ r.value = s :: more)
      (Stmt.parseList eol ((opening type).tail ++ ts)) := by
    refine yields_parseList (skipColons_opening type ts) (by decide) ?_
    show Yields _ (Stmt.parseOne eol ((opening type).tail ++ ts))
    rw [parseOne_opening]
    refine yields_bind (yields_reads _) fun value hvalue => ?_
    dsimp only
    split
    · next fits => exact yields_pure ⟨value.value, value.rest, hvalue, fits, rfl⟩
    · exact yields_error _
  rw [ofTokens_opening]
  refine yields_bind hlist fun statements hstatements => ?_
  obtain ⟨s, more, ⟨e, rest, he, fits, rfl⟩, hvalue⟩ := hstatements
  split
  · exact yields_pure ⟨e, rest, more, he, fits, by rw [hvalue]⟩
  · exact yields_error _

end Assignment

/-! ## What is accepted -/

variable {text : String} {e : Expr}

/-- A text is one complete expression. -/
def IsExpression (text : String) (e : Expr) : Prop :=
  ∃ ts, tokenize text = .ok ts ∧ Reads (Expr.parse text.length ts) e []

/-- All quotations of a text have their closing quotes. -/
def QuotationsClosed (text : String) : Prop :=
  ∀ ts, tokenize text = .ok ts → ∀ t ∈ ts, t.IsClosed text.toList

/-- A text begins with an expression, and a closing bracket that nothing has opened follows. -/
def ClosesBracket (text : String) : Prop :=
  ∃ ts e close rest, tokenize text = .ok ts ∧ close.kind = .sign .rightParen ∧
    Reads (Expr.parse text.length ts) e (close :: rest)

theorem not_closesBracket (complete : IsExpression text e) : ¬ ClosesBracket text := by
  obtain ⟨ts, htokens, hread⟩ := complete
  rintro ⟨ts', e', close, rest, htokens', -, hread'⟩
  cases htokens.symm.trans htokens'
  obtain ⟨shorter, hparse⟩ := eq_of_reads hread
  obtain ⟨shorter', hparse'⟩ := eq_of_reads hread'
  cases hparse.symm.trans hparse'

theorem compile_assignment (type : ValueType) (text : String) :
    Line.compile (assignment (resultNameOf type) text) = (do
      let ts ← tokensFrom (6 + (resultNameOf type).length + 2) (text.toList ++ [')'])
      Line.ofTokens (assignment (resultNameOf type) text).length (opening type ++ ts)) := by
  unfold Line.compile
  rw [tokenize_assignment]
  cases tokensFrom (6 + (resultNameOf type).length + 2) (text.toList ++ [')']) <;> rfl

/-- A closing bracket among the tokens of a text in brackets is the last one, or the text has it. -/
theorem kinds_of_bracketBehind {source : List Char} {own ts : List Token}
    {used behind : List TokenKind} (h : BracketBehind source (.ok own) (.ok ts))
    (hts : ts.map Token.kind = used ++ .sign .rightParen :: behind) :
    (own.map Token.kind = used ∧ ∀ t ∈ own, t.IsClosed source) ∨
      ∃ behind', own.map Token.kind = used ++ .sign .rightParen :: behind' := by
  cases h with
  | separate closed =>
      rw [List.map_append] at hts
      rcases List.eq_nil_or_concat behind with rfl | ⟨behind', kind, rfl⟩
      · exact .inl ⟨List.append_inj_left' hts rfl, closed⟩
      · rw [List.concat_eq_append, ← List.cons_append, ← List.append_assoc] at hts
        exact .inr ⟨behind', List.append_inj_left' hts rfl⟩
  | remark _ => exact .inr ⟨behind, hts⟩
  | @quoted us s pos _ =>
      rw [List.map_append] at hts
      rcases List.eq_nil_or_concat behind with rfl | ⟨behind', kind, rfl⟩
      · cases List.append_inj_right' hts rfl
      · rw [List.concat_eq_append, ← List.cons_append, ← List.append_assoc] at hts
        refine .inr ⟨behind' ++ [.text s], ?_⟩
        rw [List.map_append, List.append_inj_left' hts rfl, List.append_assoc]
        rfl

/-- What is read behind the bracket that the line opens is all of the text, or the text closes that
bracket by itself. -/
theorem complete_or_closes {pos eol : Nat} {ts rest : List Token} {close : Token}
    (hts : tokensFrom pos (text.toList ++ [')']) = .ok ts) (hclose : close.kind = .sign .rightParen)
    (hinner : Reads (Expr.parse eol ts) e (close :: rest)) :
    IsExpression text e ∧ QuotationsClosed text ∨ ClosesBracket text := by
  obtain ⟨used, rfl, -, again⟩ := Expr.parse_again hinner text.length
  obtain ⟨ts', hts', hkinds⟩ := tokensFrom_elsewhere hts 0
  rw [List.map_append, List.map_cons, hclose] at hkinds
  -- The tokens of the text alone have these kinds too, up to the closing bracket at the end.
  have hbehind := tokensFrom_bracket [] text.toList
  rw [List.nil_append, List.length_nil, hts'] at hbehind
  cases hown : tokensFrom 0 text.toList with
  | error err =>
      rw [hown] at hbehind
      cases hbehind
  | ok own =>
      rw [hown] at hbehind
      rcases kinds_of_bracketBehind hbehind hkinds with ⟨hall, closed⟩ | ⟨behind, hsome⟩
      · have hread := again hall (ends_nil _)
        rw [List.append_nil] at hread
        refine .inl ⟨⟨own, hown, hread⟩, fun own' hown' => ?_⟩
        cases hown.symm.trans hown'
        exact closed
      · obtain ⟨first, later, rfl, hfirst, hlater⟩ := List.map_eq_append_iff.1 hsome
        obtain ⟨close', later, rfl, hclose', -⟩ := List.map_eq_cons_iff.1 hlater
        exact .inr ⟨_, e, close', later, hown, hclose',
          again hfirst (Expr.ends_rightParen hclose')⟩

/-- A text that is accepted in brackets is an expression with all quotations closed, or it closes the
bracket by itself. -/
theorem accepted {type : ValueType} {line : Line}
    (compiled : Line.compile (assignment (resultNameOf type) text) = .ok line) :
    ((∃ e, IsExpression text e) ∧ QuotationsClosed text ∨ ClosesBracket text) ∧
      ∃ e more, e.type = type ∧
        line = ⟨some 1, .assign (Variable.ofName (resultNameOf type)) e :: more⟩ := by
  rw [compile_assignment] at compiled
  cases hts : tokensFrom (6 + (resultNameOf type).length + 2) (text.toList ++ [')']) with
  | error err =>
      rw [hts] at compiled
      cases compiled
  | ok ts =>
      rw [hts] at compiled
      obtain ⟨e, rest, more, hparse, fits, hline⟩ := yields_opening type _ ts _ compiled
      obtain ⟨shorter, hparse⟩ := eq_of_reads hparse
      obtain ⟨inner, close, behind, hclose, hinner⟩ := Expr.yields_openParen rfl _ _ hparse
      refine ⟨(complete_or_closes hts hclose hinner).imp_left fun own => ?_, e, more, fits, hline⟩
      exact ⟨⟨inner, own.1⟩, own.2⟩

/-- A text that is one expression, with all quotations closed, is read as that expression in the
brackets of the line. -/
theorem parse_complete (complete : IsExpression text e) (closed : QuotationsClosed text)
    (type : ValueType) (eol : Nat) :
    ∃ ts, tokensFrom (6 + (resultNameOf type).length + 2) (text.toList ++ [')']) = .ok ts ∧
      Reads (Expr.parse eol (openParen type :: ts)) e [] := by
  obtain ⟨own, hown, hread⟩ := complete
  obtain ⟨used, rfl, noRemark, again⟩ := Expr.parse_again hread eol
  have hclosed := closed _ hown
  have hbehind := tokensFrom_bracket [] text.toList
  rw [List.append_nil] at hown hclosed
  have hown' : tokensFrom 0 text.toList = .ok used := hown
  rw [List.nil_append, List.length_nil, hown'] at hbehind
  generalize hts : tokensFrom 0 (text.toList ++ [')']) = r at hbehind
  cases hbehind with
  | separate _ =>
      obtain ⟨ts, hts, hkinds⟩ := tokensFrom_elsewhere hts (6 + (resultNameOf type).length + 2)
      refine ⟨ts, hts, Expr.parse_bracketed again ?_⟩
      rw [List.map_cons, hkinds, List.map_append]
      rfl
  | @remark us t hrem =>
      exact absurd hrem (noRemark t (by simp))
  | @quoted us s pos hlast =>
      have hquote : text.toList[pos + 1 + s.length]? = some '"' :=
        hclosed ⟨.text s, pos⟩ (by simp)
      rw [hlast, List.getElem?_eq_none (Nat.le_refl _)] at hquote
      cases hquote

theorem compile_fits (complete : IsExpression text e) (closed : QuotationsClosed text) :
    Line.compile (assignment (resultNameOf e.type) text) =
      .ok ⟨some 1, [.assign (Variable.ofName (resultNameOf e.type)) e]⟩ := by
  obtain ⟨ts, hts, hread⟩ := parse_complete complete closed e.type
    (assignment (resultNameOf e.type) text).length
  rw [compile_assignment, hts]
  exact ofTokens_fits hread rfl

theorem compile_unfit (complete : IsExpression text e) (closed : QuotationsClosed text)
    {type : ValueType} (unfit : e.type ≠ type) :
    Line.compile (assignment (resultNameOf type) text) =
      .error (.typeMismatch (openParen type).pos) := by
  obtain ⟨ts, hts, hread⟩ := parse_complete complete closed type
    (assignment (resultNameOf type) text).length
  rw [compile_assignment, hts]
  exact ofTokens_unfit hread unfit

/-- A text that is one expression, with all quotations closed, gives the assignment of that
expression to the variable of its type. -/
theorem compileExpression_complete (complete : IsExpression text e)
    (closed : QuotationsClosed text) :
    compileExpression text = .ok (resultNameOf e.type,
      ⟨some 1, [.assign (Variable.ofName (resultNameOf e.type)) e]⟩) := by
  have hfits := compile_fits complete closed
  unfold compileExpression
  cases htype : e.type with
  | number =>
      have hnumber : Line.compile (assignment resultName text) = _ := htype ▸ hfits
      rw [hnumber]
      rfl
  | text =>
      have unfit : e.type ≠ .number := by
        rw [htype]
        decide
      have hunfit := compile_unfit complete closed unfit
      have hnumber : Line.compile (assignment resultName text) = _ := hunfit
      have htext : Line.compile (assignment resultTextName text) = _ := htype ▸ hfits
      rw [hnumber, htext]
      rfl

/-- The name and the line that an expression is compiled to belong together. -/
theorem compile_of_compileExpression {name : String} {line : Line}
    (compiled : compileExpression text = .ok (name, line)) :
    ∃ type, name = resultNameOf type ∧
      Line.compile (assignment (resultNameOf type) text) = .ok line := by
  unfold compileExpression at compiled
  split at compiled
  · next hnumber =>
      cases compiled
      exact ⟨.number, rfl, hnumber⟩
  · cases htext : Line.compile (assignment resultTextName text) with
    | error err =>
        rw [htext] at compiled
        cases compiled
    | ok line' =>
        rw [htext] at compiled
        cases compiled
        exact ⟨.text, rfl, htext⟩
  · cases compiled

/-- An expression with a quotation that is not closed takes the bracket of the line in. -/
theorem compileExpression_open (complete : IsExpression text e)
    (notClosed : ¬ QuotationsClosed text) : ∃ err, compileExpression text = .error err := by
  cases hcompiled : compileExpression text with
  | error err => exact ⟨err, rfl⟩
  | ok compiled =>
      obtain ⟨type, -, hline⟩ := compile_of_compileExpression hcompiled
      rcases (accepted hline).1 with ⟨-, closed⟩ | closes
      · exact absurd closed notClosed
      · exact absurd closes (not_closesBracket complete)

end Snippet

end LineBasic
