import LineBasic.Line
import LineBasic.Proofs.ExprPrinting
import LineBasic.Proofs.WholeDoubles

/-!
# Printed lines

Statements are printed with colons between them, and a branch that is a line number as its number.
Nothing closes an `IF`: a list of statements in it takes all statements up to the end of the line or
to an `ELSE`, and an `ELSE` goes to the innermost `IF` that has none.  A line whose statements nest
in another way cannot be written at all.  The normal form of a line is what can be: it says which
statements can stand before a colon, and which lists before an `ELSE`.

## Main definitions

* `Line.tokens`: the tokens of a line.
* `Stmt.isOpen`, `Stmt.endsInList`: whether an `ELSE` or a colon behind a statement would go to an
  `IF` in it.
* `Line.Normal`: the normal form.

## Main results

* `Stmt.readsBack`: a printed statement is read back, up to what can follow it.
* `Line.ofTokens_tokens`: the reader inverts printing.
-/

namespace LineBasic

/-! ## Line numbers -/

/-- A number that a line can have. -/
def IsLineNumber (n : Nat) : Prop := 1 ≤ n ∧ n ≤ 65535

theorem lineNumberOf?_ofNat {n : Nat} (h : IsLineNumber n) :
    lineNumberOf? (Float.ofNat n) = some n := by
  have hpos : 0 < n := h.1
  have hlog := Number.log2_le_of_lt (n := n) (by have := h.2; omega)
  have hrange : (1 : Int) ≤ n ∧ (n : Int) ≤ 65535 := by
    have := h.2
    omega
  rw [lineNumberOf?, Number.whole?_ofNat hpos hlog]
  exact if_pos hrange

/-- The token of a line number. -/
def numeral (n : Nat) : TokenKind := .number (Float.ofNat n)

/-! ## Printing -/

section Printing

variable (names : Variable → String) (everywhere : Bool)

/-- The tokens of an item. -/
def PrintItem.tokens : PrintItem → List TokenKind
  | .expr e => e.print names everywhere .whole
  | .joined => [.sign .semicolon]
  | .nextZone => [.sign .comma]

mutual

/-- The tokens of a statement. -/
def Stmt.tokens : Stmt → List TokenKind
  | .assign target value =>
      .name (names target) :: .sign .eq :: value.print names everywhere .whole
  | .print items => .keyword .print :: items.flatMap (PrintItem.tokens names everywhere)
  | .ifThen test yes =>
      .keyword .if :: (test.print names everywhere .whole ++ .keyword .then :: yes.tokens)
  | .ifThenElse test yes no =>
      .keyword .if :: (test.print names everywhere .whole ++
        .keyword .then :: (yes.tokens ++ .keyword .else :: no.tokens))
  | .goto line => [.keyword .goto, numeral line]
  | .gosub line => [.keyword .gosub, numeral line]
  | .return => [.keyword .return]
  | .end => [.keyword .end]
  | .stop => [.keyword .stop]
  | .raise code => .keyword .error :: code.print names everywhere .whole
  | .clear => [.keyword .clear]
  | .remark => [.keyword .rem]

/-- The tokens of a branch. -/
def Branch.tokens : Branch → List TokenKind
  | .line n => [numeral n]
  | .statements body => Stmt.listTokens body

/-- The tokens of statements with colons between them. -/
def Stmt.listTokens : List Stmt → List TokenKind
  | [] => []
  | [s] => s.tokens
  | s :: rest => s.tokens ++ .sign .colon :: Stmt.listTokens rest

end

/-- The tokens of a line. -/
def Line.tokens (line : Line) : List TokenKind :=
  (line.number.map numeral).toList ++ Stmt.listTokens names everywhere line.statements

end Printing

/-! ## Normal form -/

mutual

/-- Whether a statement is an `IF` that an `ELSE` behind it would go to, or ends in one. -/
def Stmt.isOpen : Stmt → Bool
  | .ifThen _ _ => true
  | .ifThenElse _ _ no => no.isOpen
  | _ => false

/-- Whether a branch ends in an `IF` that an `ELSE` behind it would go to. -/
def Branch.isOpen : Branch → Bool
  | .line _ => false
  | .statements body => Stmt.lastIsOpen body

/-- Whether the last of the statements is or ends in such an `IF`. -/
def Stmt.lastIsOpen : List Stmt → Bool
  | [] => false
  | [s] => s.isOpen
  | _ :: rest => Stmt.lastIsOpen rest

end

/-- Whether a branch is a list of statements. -/
def Branch.isList : Branch → Bool
  | .line _ => false
  | .statements _ => true

/-- Whether a statement is an `IF` whose last branch is a list, which a colon behind the statement
would go on with. -/
def Stmt.endsInList : Stmt → Bool
  | .ifThen _ yes => yes.isList
  | .ifThenElse _ _ no => no.isList
  | _ => false

/-- Whether items begin with an expression. -/
def PrintItem.opensWithExpr : List PrintItem → Bool
  | .expr _ :: _ => true
  | _ => false

/-- No two expressions are adjacent. -/
def PrintItem.Separated : List PrintItem → Prop
  | [] => True
  | .expr _ :: rest => opensWithExpr rest = false ∧ Separated rest
  | .joined :: rest => Separated rest
  | .nextZone :: rest => Separated rest

/-- An expression is well typed, and its variables are read back from their names. -/
structure Expr.Printable (names : Variable → String) (e : Expr) : Prop where
  typed : e.WellTyped
  named : ∀ v, Expr.PartOf (.var v) e → Variable.ofName (names v) = v

section Normal

variable (names : Variable → String)

mutual

/-- The normal form of a statement.  A remark has to be the last statement of the line, and `last`
says that this one is. -/
def Stmt.Normal (last : Bool) : Stmt → Prop
  | .assign target value =>
      Variable.ofName (names target) = target ∧ value.Printable names ∧ value.type = target.type
  | .print items => (∀ e, .expr e ∈ items → e.Printable names) ∧ PrintItem.Separated items
  | .ifThen test yes => test.Printable names ∧ test.type = .number ∧ yes.Normal last
  | .ifThenElse test yes no =>
      test.Printable names ∧ test.type = .number ∧ yes.Normal false ∧ yes.isOpen = false ∧
        no.Normal last
  | .goto line => IsLineNumber line
  | .gosub line => IsLineNumber line
  | .raise code => code.Printable names ∧ code.type = .number
  | .remark => last = true
  | .return | .end | .stop | .clear => True

/-- The normal form of a branch. -/
def Branch.Normal (last : Bool) : Branch → Prop
  | .line n => IsLineNumber n
  | .statements body => body ≠ [] ∧ Stmt.NormalList last body

/-- The normal form of a list of statements.  An `IF` whose last branch is a list has to be the last
of them. -/
def Stmt.NormalList (last : Bool) : List Stmt → Prop
  | [] => True
  | [s] => s.Normal last
  | s :: rest => s.Normal false ∧ s.endsInList = false ∧ Stmt.NormalList last rest

end

/-- The normal form of a line. -/
structure Line.Normal (line : Line) : Prop where
  number : ∀ n ∈ line.number, IsLineNumber n
  statements : Stmt.NormalList names true line.statements

end Normal

/-! ## What follows a statement -/

/-- What can follow a statement on its line: its end, a colon if the statement does not end in a
list, or an `ELSE` if no `IF` in it is open. -/
def CanFollow (isOpen inList : Bool) (rest : List Token) : Prop :=
  ∀ t ∈ rest.head?, (t.kind = .sign .colon ∧ inList = false) ∨
    (t.kind = .keyword .else ∧ isOpen = false)

section Follow

variable {isOpen inList isOpen' inList' : Bool} {rest : List Token}

theorem canFollow_nil (isOpen inList : Bool) : CanFollow isOpen inList [] := by
  rintro t ⟨⟩

theorem canFollow_colon {t : Token} (ht : t.kind = .sign .colon) (isOpen : Bool)
    (rest : List Token) : CanFollow isOpen false (t :: rest) := by
  rintro t' ⟨⟩
  exact .inl ⟨ht, rfl⟩

theorem canFollow_else {t : Token} (ht : t.kind = .keyword .else) (inList : Bool)
    (rest : List Token) : CanFollow false inList (t :: rest) := by
  rintro t' ⟨⟩
  exact .inr ⟨ht, rfl⟩

theorem CanFollow.mono (h : CanFollow isOpen inList rest) (hOpen : isOpen = false → isOpen' = false)
    (hList : inList = false → inList' = false) : CanFollow isOpen' inList' rest := by
  intro t ht
  rcases h t ht with ⟨hcolon, hlist⟩ | ⟨helse, hopen⟩
  · exact .inl ⟨hcolon, hList hlist⟩
  · exact .inr ⟨helse, hOpen hopen⟩

/-- An expression ends before what can follow a statement. -/
theorem CanFollow.ends (h : CanFollow isOpen inList rest) (level : Nat) : Ends level rest := by
  cases rest with
  | nil => exact ends_nil level
  | cons t rest =>
      rcases h t rfl with ⟨hcolon, -⟩ | ⟨helse, -⟩
      · exact ends_other hcolon (by decide) rfl rest
      · exact ends_other helse (by decide) rfl rest

/-- The items of a `PRINT` end before what can follow a statement. -/
theorem CanFollow.endsPrint (h : CanFollow isOpen inList rest) :
    ∀ t ∈ rest.head?, Stmt.endsPrint t.kind = true := by
  intro t ht
  rcases h t ht with ⟨hcolon, -⟩ | ⟨helse, -⟩
  · rw [hcolon]
    rfl
  · rw [helse]
    rfl

/-- No `ELSE` follows an open `IF`. -/
theorem CanFollow.eat?_else (h : CanFollow true inList rest) :
    eat? (.keyword .else) rest = none := by
  cases rest with
  | nil => rfl
  | cons t rest =>
      refine eat?_cons_of_ne (fun helse => ?_) rest
      rcases h t rfl with ⟨hcolon, -⟩ | ⟨-, hopen⟩
      · cases hcolon.symm.trans helse
      · cases hopen

/-- Behind a list there is the end of the line or an `ELSE`. -/
theorem CanFollow.else (h : CanFollow isOpen true rest) :
    ∀ t ∈ rest.head?, t.kind = .keyword .else := by
  intro t ht
  rcases h t ht with ⟨-, hlist⟩ | ⟨helse, -⟩
  · cases hlist
  · exact helse

end Follow

/-! ## How statements begin -/

/-- The tokens that a statement begins with. -/
def Stmt.opens : TokenKind → Bool
  | .name _ => true
  | .keyword k => k != .else
  | _ => false

section Openings

variable {names : Variable → String} {everywhere : Bool}

theorem opens_tokens (s : Stmt) : Expr.Opens Stmt.opens (s.tokens names everywhere) := by
  cases s <;> exact ⟨_, _, rfl, rfl⟩

theorem opens_listTokens {body : List Stmt} (hne : body ≠ []) :
    Expr.Opens Stmt.opens (Stmt.listTokens names everywhere body) := by
  cases body with
  | nil => exact absurd rfl hne
  | cons s rest =>
      cases rest with
      | nil => exact opens_tokens s
      | cons s' rest => exact (opens_tokens s).append

variable {ts : List Token}

theorem opens_append {kinds : List TokenKind} (hopens : Expr.Opens Stmt.opens kinds)
    (hts : ts.map Token.kind = kinds) (rest : List Token) :
    Expr.Opens Stmt.opens ((ts ++ rest).map Token.kind) := by
  rw [List.map_append, hts]
  exact hopens.append

theorem skipColons_of_opens (hopens : Expr.Opens Stmt.opens (ts.map Token.kind)) :
    Stmt.skipColons ts = ts := by
  obtain ⟨t, tail, rfl, ht⟩ := hopens.exists_head
  refine List.dropWhile_cons_of_neg fun hcolon => ?_
  exact Expr.ne_of_opens ht rfl (of_decide_eq_true hcolon)

theorem startsWithNumber_of_opens (hopens : Expr.Opens Stmt.opens (ts.map Token.kind)) :
    startsWithNumber ts = false := by
  obtain ⟨t, tail, rfl, ht⟩ := hopens.exists_head
  unfold startsWithNumber
  split
  · next hsame =>
      cases hsame
      cases ht
  · rfl

/-- No colon is skipped before printed statements. -/
theorem skipColons_of_listTokens {body : List Stmt}
    (hts : ts.map Token.kind = Stmt.listTokens names everywhere body) :
    Stmt.skipColons ts = ts := by
  cases body with
  | nil =>
      rw [List.map_eq_nil_iff.1 hts]
      rfl
  | cons s rest =>
      refine skipColons_of_opens ?_
      rw [hts]
      exact opens_listTokens (List.cons_ne_nil s rest)

theorem startsWithNumber_of_listTokens {body : List Stmt}
    (hts : ts.map Token.kind = Stmt.listTokens names everywhere body) :
    startsWithNumber ts = false := by
  cases body with
  | nil =>
      rw [List.map_eq_nil_iff.1 hts]
      rfl
  | cons s rest =>
      refine startsWithNumber_of_opens ?_
      rw [hts]
      exact opens_listTokens (List.cons_ne_nil s rest)

theorem startsWithNumber_numeral {t : Token} {n : Nat} (ht : t.kind = numeral n)
    (tail : List Token) : startsWithNumber (t :: tail) = true := by
  cases t
  cases ht
  rfl

end Openings

/-! ## Expressions and items -/

section Readers

variable {names : Variable → String} {everywhere : Bool} {eol : Nat} {ts tail rest : List Token}

theorem Expr.Printable.readsAt {e : Expr} (h : e.Printable names) :
    ReadsAt eol BinaryOp.topLevel e (e.print names everywhere .whole) :=
  readsAt_print h.typed h.named

theorem Expr.Printable.read {e : Expr} (h : e.Printable names)
    (hts : ts.map Token.kind = e.print names everywhere .whole)
    (hrest : Ends BinaryOp.topLevel rest) : Reads (Expr.parse eol (ts ++ rest)) e rest :=
  h.readsAt.read hts hrest

/-- An expression among the items ends before the next one, which is no expression, and before what
ends the items. -/
theorem ends_items {items : List PrintItem} (hnext : PrintItem.opensWithExpr items = false)
    (hts : ts.map Token.kind = items.flatMap (PrintItem.tokens names everywhere))
    (hrest : Ends BinaryOp.topLevel rest) : Ends BinaryOp.topLevel (ts ++ rest) := by
  cases items with
  | nil =>
      rw [List.map_eq_nil_iff.1 hts]
      exact hrest
  | cons item more =>
      cases item with
      | expr e => cases hnext
      | joined | nextZone =>
          obtain ⟨t, ts, rfl, ht, -⟩ := List.map_eq_cons_iff.1 hts
          exact ends_other ht (by decide) rfl _

theorem endsPrint_of_opens {kind : TokenKind}
    (h : Expr.opensLevel BinaryOp.topLevel kind = true) : Stmt.endsPrint kind = false := by
  unfold Stmt.endsPrint
  split
  · cases h
  · cases h
  · cases h
  · rfl

/-- An item is an expression if none of the other items, and nothing that ends them, is there. -/
theorem parseItems_expr {e : Expr} {items : List PrintItem} {rest' : List Token}
    (hopens : Expr.Opens (Expr.opensLevel BinaryOp.topLevel) (ts.map Token.kind))
    (hread : Reads (Expr.parse eol (ts ++ rest)) e rest)
    (hitems : ReadsUpTo (Stmt.parseItems eol rest) items rest') :
    ReadsUpTo (Stmt.parseItems eol (ts ++ rest)) (.expr e :: items) rest' := by
  obtain ⟨t, tail, rfl, ht⟩ := hopens.exists_head
  have hends : ¬ Stmt.endsPrint t.kind = true := by
    rw [endsPrint_of_opens ht]
    decide
  have hjoined : t.kind ≠ .sign .semicolon := Expr.ne_of_opens ht rfl
  have hzone : t.kind ≠ .sign .comma := Expr.ne_of_opens ht rfl
  rw [List.cons_append, Stmt.parseItems, if_neg hends, if_neg hjoined, if_neg hzone]
  refine reads_bind hread fun shorter => ?_
  exact readsUpTo_bind hitems fun noLonger => .ok ⟨rfl, rfl⟩

/-- Items are read up to what ends them. -/
theorem parseItems_tokens {items : List PrintItem}
    (printable : ∀ e, .expr e ∈ items → e.Printable names) (separated : PrintItem.Separated items)
    (hts : ts.map Token.kind = items.flatMap (PrintItem.tokens names everywhere))
    (hends : Ends BinaryOp.topLevel rest)
    (hrest : ∀ t ∈ rest.head?, Stmt.endsPrint t.kind = true) :
    ReadsUpTo (Stmt.parseItems eol (ts ++ rest)) items rest := by
  induction items generalizing ts with
  | nil =>
      rw [List.map_eq_nil_iff.1 hts, List.nil_append]
      cases rest with
      | nil =>
          rw [Stmt.parseItems]
          exact .ok ⟨rfl, rfl⟩
      | cons t rest =>
          rw [Stmt.parseItems, if_pos (hrest t rfl)]
          exact .ok ⟨rfl, rfl⟩
  | cons item more ih =>
      have hmore := fun e he => printable e (List.mem_cons_of_mem item he)
      cases item with
      | expr e =>
          have he : e.Printable names := printable e List.mem_cons_self
          obtain ⟨first, ts, rfl, hfirst, hts⟩ := List.map_eq_append_iff.1 hts
          rw [List.append_assoc]
          have hat : Expr.ReadsAt eol BinaryOp.topLevel e (first.map Token.kind) := by
            rw [PrintItem.tokens] at hfirst
            rw [hfirst]
            exact he.readsAt
          have hread : Reads (Expr.parse eol (first ++ (ts ++ rest))) e (ts ++ rest) :=
            hat.read rfl (ends_items separated.1 hts hends)
          exact parseItems_expr hat.opens hread (ih hmore separated.2 hts)
      | joined =>
          obtain ⟨t, ts, rfl, ht, hts⟩ := List.map_eq_cons_iff.1 hts
          rw [List.cons_append, Stmt.parseItems, ht, if_neg (by decide), if_pos rfl]
          exact readsUpTo_bind (ih hmore separated hts) fun noLonger => .ok ⟨rfl, rfl⟩
      | nextZone =>
          obtain ⟨t, ts, rfl, ht, hts⟩ := List.map_eq_cons_iff.1 hts
          rw [List.cons_append, Stmt.parseItems, ht, if_neg (by decide), if_neg (by decide),
            if_pos rfl]
          exact readsUpTo_bind (ih hmore separated hts) fun noLonger => .ok ⟨rfl, rfl⟩

theorem parseLineNumber_numeral {n : Nat} (h : IsLineNumber n) {t : Token}
    (ht : t.kind = numeral n) (tail : List Token) :
    Reads (parseLineNumber eol (t :: tail)) n tail := by
  rw [parseLineNumber, ht]
  dsimp only [numeral]
  rw [lineNumberOf?_ofNat h]
  exact .ok ⟨rfl, rfl⟩

end Readers

/-! ## Statements -/

section Statements

variable (names : Variable → String) (everywhere : Bool) (eol : Nat)

/-- A printed statement is read back, up to what can follow it. -/
structure Stmt.ReadsBack (s : Stmt) : Prop where
  reads : ∀ {ts rest : List Token}, ts.map Token.kind = s.tokens names everywhere →
    CanFollow s.isOpen s.endsInList rest → Reads (parseOne eol (ts ++ rest)) s rest

/-- A printed branch is read back. -/
structure Branch.ReadsBack (b : Branch) : Prop where
  reads : ∀ {ts rest : List Token}, ts.map Token.kind = b.tokens names everywhere →
    CanFollow b.isOpen b.isList rest → ReadsUpTo (Stmt.parseBranch eol (ts ++ rest)) b rest

/-- Printed statements are read back, behind any colons. -/
structure Stmt.ListReadsBack (body : List Stmt) : Prop where
  reads : ∀ {input ts rest : List Token},
    ts.map Token.kind = Stmt.listTokens names everywhere body → skipColons input = ts ++ rest →
    CanFollow (lastIsOpen body) true rest → ReadsUpTo (parseList eol input) body rest

end Statements

namespace Stmt

variable {names : Variable → String} {everywhere : Bool} {eol : Nat}

theorem readsBack_assign {target : Variable} {value : Expr}
    (named : Variable.ofName (names target) = target) (hvalue : value.Printable names)
    (same : value.type = target.type) : ReadsBack names everywhere eol (.assign target value) := by
  refine ⟨fun {ts rest} hts hrest => ?_⟩
  rw [Stmt.tokens] at hts
  obtain ⟨t, ts, rfl, ht, hts⟩ := List.map_eq_cons_iff.1 hts
  obtain ⟨u, ts, rfl, hu, hts⟩ := List.map_eq_cons_iff.1 hts
  rw [List.cons_append, List.cons_append, parseOne, ht]
  dsimp only
  rw [parseAssignment, ht]
  dsimp only
  rw [named]
  refine reads_bind (Expr.expectSign_of_kind hu _) fun shorter => ?_
  refine reads_bind (hvalue.read hts (hrest.ends _)) fun shorter' => ?_
  dsimp only
  rw [if_pos same]
  exact .ok ⟨rfl, rfl⟩

theorem readsBack_print {items : List PrintItem}
    (printable : ∀ e, .expr e ∈ items → e.Printable names)
    (separated : PrintItem.Separated items) : ReadsBack names everywhere eol (.print items) := by
  refine ⟨fun {ts rest} hts hrest => ?_⟩
  rw [Stmt.tokens] at hts
  obtain ⟨t, ts, rfl, ht, hts⟩ := List.map_eq_cons_iff.1 hts
  rw [List.cons_append, parseOne, ht]
  refine readsUpTo_bind (parseItems_tokens printable separated hts (hrest.ends _) hrest.endsPrint)
    fun noLonger => ?_
  exact .ok ⟨rfl, rfl⟩

/-- A jump is a keyword and a line number. -/
theorem readsBack_jump {s : Stmt} {k : Keyword} {line : Nat}
    (htokens : s.tokens names everywhere = [.keyword k, numeral line])
    (hparse : ∀ t tail, t.kind = .keyword k → Reads (parseLineNumber eol tail) line tail.tail →
      Reads (parseOne eol (t :: tail)) s tail.tail)
    (h : IsLineNumber line) : ReadsBack names everywhere eol s := by
  refine ⟨fun {ts rest} hts hrest => ?_⟩
  rw [htokens] at hts
  obtain ⟨t, ts, rfl, ht, hts⟩ := List.map_eq_cons_iff.1 hts
  obtain ⟨u, rfl, hu⟩ := List.map_eq_singleton_iff.1 hts
  rw [List.cons_append, List.singleton_append]
  exact hparse t (u :: rest) ht (parseLineNumber_numeral h hu rest)

theorem readsBack_goto {line : Nat} (h : IsLineNumber line) :
    ReadsBack names everywhere eol (.goto line) := by
  refine readsBack_jump rfl (fun t tail ht hread => ?_) h
  rw [parseOne, ht]
  exact reads_bind hread fun shorter => .ok ⟨rfl, rfl⟩

theorem readsBack_gosub {line : Nat} (h : IsLineNumber line) :
    ReadsBack names everywhere eol (.gosub line) := by
  refine readsBack_jump rfl (fun t tail ht hread => ?_) h
  rw [parseOne, ht]
  exact reads_bind hread fun shorter => .ok ⟨rfl, rfl⟩

/-- Some statements are a keyword alone. -/
theorem readsBack_keyword {s : Stmt} {k : Keyword}
    (htokens : s.tokens names everywhere = [.keyword k])
    (hparse : ∀ t tail, t.kind = .keyword k → parseOne eol (t :: tail) = .ok (.ofHead s t tail)) :
    ReadsBack names everywhere eol s := by
  refine ⟨fun {ts rest} hts hrest => ?_⟩
  rw [htokens] at hts
  obtain ⟨t, rfl, ht⟩ := List.map_eq_singleton_iff.1 hts
  rw [List.singleton_append, hparse t rest ht]
  exact .ok ⟨rfl, rfl⟩

theorem readsBack_raise {code : Expr} (hcode : code.Printable names)
    (number : code.type = .number) : ReadsBack names everywhere eol (.raise code) := by
  refine ⟨fun {ts rest} hts hrest => ?_⟩
  rw [Stmt.tokens] at hts
  obtain ⟨t, ts, rfl, ht, hts⟩ := List.map_eq_cons_iff.1 hts
  rw [List.cons_append, parseOne, ht]
  refine reads_bind (hcode.read hts (hrest.ends _)) fun shorter => ?_
  exact succeeds_bind (Expr.requireNumber_number number _) fun _ _ => .ok ⟨rfl, rfl⟩

/-! ### Branching -/

section Branching

variable {test : Expr} {yes no : Branch} {ts tail rest rest' : List Token} {t : Token}

theorem parseThen_then (ht : t.kind = .keyword .then)
    (hyes : ReadsUpTo (parseBranch eol tail) yes rest) :
    Reads (parseThen eol (t :: tail)) yes rest := by
  rw [parseThen, eat?_of_kind ht]
  exact readsUpTo_bind hyes fun noLonger => .ok ⟨rfl, rfl⟩

theorem parseIf_ifThen (htest : Reads (Expr.parse eol ts) test rest) (number : test.type = .number)
    (hyes : Reads (parseThen eol rest) yes rest') (hother : eat? (.keyword .else) rest' = none) :
    Reads (parseIf eol ts) (.ifThen test yes) rest' := by
  rw [parseIf]
  refine reads_bind htest fun shorter => ?_
  refine succeeds_bind (Expr.requireNumber_number number _) fun _ _ => ?_
  refine reads_bind hyes fun shorter' => ?_
  dsimp only
  rw [hother]
  exact .ok ⟨rfl, rfl⟩

theorem parseIf_ifThenElse (htest : Reads (Expr.parse eol ts) test rest)
    (number : test.type = .number) (hyes : Reads (parseThen eol rest) yes (t :: tail))
    (ht : t.kind = .keyword .else) (hno : ReadsUpTo (parseBranch eol tail) no rest') :
    Reads (parseIf eol ts) (.ifThenElse test yes no) rest' := by
  rw [parseIf]
  refine reads_bind htest fun shorter => ?_
  refine succeeds_bind (Expr.requireNumber_number number _) fun _ _ => ?_
  refine reads_bind hyes fun shorter' => ?_
  dsimp only
  rw [eat?_of_kind ht]
  exact readsUpTo_bind hno fun noLonger => .ok ⟨rfl, rfl⟩

theorem parseOne_if {s : Stmt} (ht : t.kind = .keyword .if)
    (hif : Reads (parseIf eol tail) s rest) : Reads (parseOne eol (t :: tail)) s rest := by
  rw [parseOne, ht]
  exact reads_bind hif fun shorter => .ok ⟨rfl, rfl⟩

/-- An `IF` without an `ELSE` ends where its branch ends. -/
theorem readsBack_ifThen (htest : test.Printable names) (number : test.type = .number)
    (hyes : yes.ReadsBack names everywhere eol) :
    ReadsBack names everywhere eol (.ifThen test yes) := by
  refine ⟨fun {ts rest} hts hrest => ?_⟩
  rw [Stmt.tokens] at hts
  obtain ⟨t, ts, rfl, ht, hts⟩ := List.map_eq_cons_iff.1 hts
  obtain ⟨tested, ts, rfl, htested, hts⟩ := List.map_eq_append_iff.1 hts
  obtain ⟨u, ts, rfl, hu, hts⟩ := List.map_eq_cons_iff.1 hts
  -- The `IF` itself is open, so no `ELSE` follows and the branch may be open as well.
  have hbranch : CanFollow yes.isOpen yes.isList rest :=
    hrest.mono (fun hopen => by cases hopen) id
  rw [List.cons_append, List.append_assoc, List.cons_append]
  have htested : Reads (Expr.parse eol (tested ++ u :: (ts ++ rest))) test (u :: (ts ++ rest)) :=
    htest.read htested (ends_other hu (by decide) rfl _)
  have hthen : Reads (parseThen eol (u :: (ts ++ rest))) yes rest :=
    parseThen_then hu (hyes.reads hts hbranch)
  exact parseOne_if ht (parseIf_ifThen htested number hthen hrest.eat?_else)

/-- The `ELSE` goes to this `IF`, if none in the first branch is open. -/
theorem readsBack_ifThenElse (htest : test.Printable names) (number : test.type = .number)
    (hyes : yes.ReadsBack names everywhere eol) (closed : yes.isOpen = false)
    (hno : no.ReadsBack names everywhere eol) :
    ReadsBack names everywhere eol (.ifThenElse test yes no) := by
  refine ⟨fun {ts rest} hts hrest => ?_⟩
  rw [Stmt.tokens] at hts
  obtain ⟨t, ts, rfl, ht, hts⟩ := List.map_eq_cons_iff.1 hts
  obtain ⟨tested, ts, rfl, htested, hts⟩ := List.map_eq_append_iff.1 hts
  obtain ⟨u, ts, rfl, hu, hts⟩ := List.map_eq_cons_iff.1 hts
  obtain ⟨first, ts, rfl, hfirst, hts⟩ := List.map_eq_append_iff.1 hts
  obtain ⟨v, ts, rfl, hv, hts⟩ := List.map_eq_cons_iff.1 hts
  -- Behind the first branch stands the `ELSE`, which an open `IF` in it would take.
  have hbranch : CanFollow yes.isOpen yes.isList (v :: (ts ++ rest)) :=
    (canFollow_else hv yes.isList _).mono (fun _ => closed) id
  rw [List.cons_append, List.append_assoc, List.cons_append, List.append_assoc, List.cons_append]
  have htested : Reads (Expr.parse eol (tested ++ u :: (first ++ v :: (ts ++ rest)))) test
      (u :: (first ++ v :: (ts ++ rest))) :=
    htest.read htested (ends_other hu (by decide) rfl _)
  have hthen : Reads (parseThen eol (u :: (first ++ v :: (ts ++ rest)))) yes (v :: (ts ++ rest)) :=
    parseThen_then hu (hyes.reads hfirst hbranch)
  exact parseOne_if ht (parseIf_ifThenElse htested number hthen hv (hno.reads hts hrest))

end Branching

/-! ### Lists -/

section Lists

variable {s : Stmt} {body : List Stmt} {input tail rest rest' : List Token} {t u : Token}

theorem parseList_nil (hskip : skipColons input = rest)
    (hrest : ∀ u ∈ rest.head?, u.kind = .keyword .else) :
    ReadsUpTo (parseList eol input) [] rest := by
  rw [parseList]
  split
  · next hskip' =>
      cases hskip.symm.trans hskip'
      exact .ok ⟨rfl, rfl⟩
  · next hskip' =>
      cases hskip.symm.trans hskip'
      rw [if_pos (hrest _ rfl)]
      exact .ok ⟨rfl, rfl⟩

/-- A list ends with a statement if nothing follows that, or an `ELSE`. -/
theorem parseList_last (hskip : skipColons input = t :: tail) (hhead : t.kind ≠ .keyword .else)
    (hs : Reads (parseOne eol (t :: tail)) s rest)
    (hrest : ∀ u ∈ rest.head?, u.kind = .keyword .else) :
    ReadsUpTo (parseList eol input) [s] rest := by
  rw [parseList]
  split
  · next hskip' => cases hskip.symm.trans hskip'
  · next hskip' =>
      cases hskip.symm.trans hskip'
      rw [if_neg hhead]
      refine reads_bind hs fun shorter => ?_
      dsimp only
      split
      · exact .ok ⟨rfl, rfl⟩
      · cases rest with
        | nil => exact .ok ⟨rfl, rfl⟩
        | cons u rest =>
            have hu : u.kind = .keyword .else := hrest u rfl
            dsimp only
            rw [if_neg (by rw [hu]; decide), if_pos hu]
            exact .ok ⟨rfl, rfl⟩

/-- A list goes on behind a colon, unless there is a remark before it. -/
theorem parseList_colon (hskip : skipColons input = t :: tail) (hhead : t.kind ≠ .keyword .else)
    (hs : Reads (parseOne eol (t :: tail)) s (u :: rest)) (hremark : s.isRemark = false)
    (hu : u.kind = .sign .colon) (hbody : ReadsUpTo (parseList eol (u :: rest)) body rest') :
    ReadsUpTo (parseList eol input) (s :: body) rest' := by
  rw [parseList]
  split
  · next hskip' => cases hskip.symm.trans hskip'
  · next hskip' =>
      cases hskip.symm.trans hskip'
      rw [if_neg hhead]
      refine reads_bind hs fun shorter => ?_
      dsimp only
      rw [if_neg (by rw [hremark]; decide), if_pos hu]
      exact readsUpTo_bind hbody fun noLonger => .ok ⟨rfl, rfl⟩

theorem isRemark_of_normal (h : s.Normal names false) : s.isRemark = false := by
  cases s with
  | remark => cases h
  | _ => rfl

@[simp] theorem skipColons_colon (hu : u.kind = .sign .colon) (rest : List Token) :
    skipColons (u :: rest) = skipColons rest := by
  simp [skipColons, hu]

theorem listReadsBack_nil (names : Variable → String) (everywhere : Bool) (eol : Nat) :
    ListReadsBack names everywhere eol [] := by
  refine ⟨fun {input ts rest} hts hskip hrest => ?_⟩
  rw [List.map_eq_nil_iff.1 hts] at hskip
  exact parseList_nil hskip hrest.else

theorem listReadsBack_last (hs : s.ReadsBack names everywhere eol) :
    ListReadsBack names everywhere eol [s] := by
  refine ⟨fun {input ts rest} hts hskip hrest => ?_⟩
  have hread : Reads (parseOne eol (ts ++ rest)) s rest :=
    hs.reads hts (hrest.mono id fun hlist => by cases hlist)
  obtain ⟨t, tail, heq, ht⟩ := (opens_append (opens_tokens s) hts rest).exists_head
  rw [heq] at hskip hread
  exact parseList_last hskip (Expr.ne_of_opens ht rfl) hread hrest.else

theorem listReadsBack_cons (hs : s.ReadsBack names everywhere eol) (hremark : s.isRemark = false)
    (hlist : s.endsInList = false) (hne : body ≠ [])
    (hbody : ListReadsBack names everywhere eol body) :
    ListReadsBack names everywhere eol (s :: body) := by
  refine ⟨fun {input ts rest} hts hskip hrest => ?_⟩
  have hopen : lastIsOpen (s :: body) = lastIsOpen body := by
    cases body with
    | nil => exact absurd rfl hne
    | cons s' body => rw [lastIsOpen]; simp
  have htokens : listTokens names everywhere (s :: body) =
      s.tokens names everywhere ++ .sign .colon :: listTokens names everywhere body := by
    cases body with
    | nil => exact absurd rfl hne
    | cons s' body => rw [listTokens]; simp
  rw [htokens] at hts
  rw [hopen] at hrest
  obtain ⟨first, ts, rfl, hfirst, hts⟩ := List.map_eq_append_iff.1 hts
  obtain ⟨u, ts, rfl, hu, hts⟩ := List.map_eq_cons_iff.1 hts
  have hread : Reads (parseOne eol (first ++ u :: (ts ++ rest))) s (u :: (ts ++ rest)) := by
    refine hs.reads hfirst ?_
    rw [hlist]
    exact canFollow_colon hu _ _
  -- The rest of the list is read from the colon on, which is skipped.
  have hmore : ReadsUpTo (parseList eol (u :: (ts ++ rest))) body rest := by
    refine hbody.reads hts ?_ hrest
    rw [skipColons_colon hu]
    exact skipColons_of_opens (opens_append (opens_listTokens hne) hts rest)
  obtain ⟨t, tail, heq, ht⟩ := (opens_append (opens_tokens s) hfirst _).exists_head
  rw [List.append_assoc, List.cons_append, heq] at hskip
  rw [heq] at hread
  exact parseList_colon hskip (Expr.ne_of_opens ht rfl) hread hremark hu hmore

end Lists

end Stmt

namespace Branch

variable {names : Variable → String} {everywhere : Bool} {eol : Nat}

theorem readsBack_line {n : Nat} (h : IsLineNumber n) :
    ReadsBack names everywhere eol (.line n) := by
  refine ⟨fun {ts rest} hts hrest => ?_⟩
  obtain ⟨t, rfl, ht⟩ := List.map_eq_singleton_iff.1 hts
  rw [List.singleton_append, Stmt.parseBranch, if_pos (startsWithNumber_numeral ht rest)]
  exact reads_bind (parseLineNumber_numeral h ht rest) fun shorter => .ok ⟨rfl, rfl⟩

theorem readsBack_statements {body : List Stmt} (hne : body ≠ [])
    (hbody : Stmt.ListReadsBack names everywhere eol body) :
    ReadsBack names everywhere eol (.statements body) := by
  refine ⟨fun {ts rest} hts hrest => ?_⟩
  have hopens : Expr.Opens Stmt.opens ((ts ++ rest).map Token.kind) :=
    opens_append (opens_listTokens hne) hts rest
  have hnumber : ¬ startsWithNumber (ts ++ rest) = true := by
    rw [startsWithNumber_of_opens hopens]
    decide
  rw [Stmt.parseBranch, if_neg hnumber]
  refine readsUpTo_bind (hbody.reads hts (skipColons_of_opens hopens) hrest) fun noLonger => ?_
  dsimp only
  rw [if_neg (by rw [List.isEmpty_iff]; exact hne)]
  exact .ok ⟨rfl, rfl⟩

end Branch

/-! ## Round trip -/

section RoundTrip

variable {names : Variable → String} {everywhere : Bool} {eol : Nat}

mutual

/-- A printed statement in normal form is read back. -/
theorem Stmt.readsBack {last : Bool} :
    (s : Stmt) → s.Normal names last → s.ReadsBack names everywhere eol
  | .assign _ _, ⟨named, hvalue, same⟩ => Stmt.readsBack_assign named hvalue same
  | .print _, ⟨printable, separated⟩ => Stmt.readsBack_print printable separated
  | .ifThen _ yes, ⟨htest, number, hyes⟩ =>
      Stmt.readsBack_ifThen htest number (Branch.readsBack yes hyes)
  | .ifThenElse _ yes no, ⟨htest, number, hyes, closed, hno⟩ =>
      Stmt.readsBack_ifThenElse htest number (Branch.readsBack yes hyes) closed
        (Branch.readsBack no hno)
  | .goto _, h => Stmt.readsBack_goto h
  | .gosub _, h => Stmt.readsBack_gosub h
  | .return, _ => Stmt.readsBack_keyword rfl fun t tail ht => by rw [Stmt.parseOne, ht]
  | .end, _ => Stmt.readsBack_keyword rfl fun t tail ht => by rw [Stmt.parseOne, ht]
  | .stop, _ => Stmt.readsBack_keyword rfl fun t tail ht => by rw [Stmt.parseOne, ht]
  | .raise _, ⟨hcode, number⟩ => Stmt.readsBack_raise hcode number
  | .clear, _ => Stmt.readsBack_keyword rfl fun t tail ht => by rw [Stmt.parseOne, ht]
  | .remark, _ => Stmt.readsBack_keyword rfl fun t tail ht => by rw [Stmt.parseOne, ht]

/-- A printed branch in normal form is read back. -/
theorem Branch.readsBack {last : Bool} :
    (b : Branch) → b.Normal names last → b.ReadsBack names everywhere eol
  | .line _, h => Branch.readsBack_line h
  | .statements body, ⟨hne, hbody⟩ =>
      Branch.readsBack_statements hne (Stmt.listReadsBack body hbody)

/-- Printed statements in normal form are read back. -/
theorem Stmt.listReadsBack {last : Bool} :
    (body : List Stmt) → Stmt.NormalList names last body →
      Stmt.ListReadsBack names everywhere eol body
  | [], _ => Stmt.listReadsBack_nil names everywhere eol
  | [s], hs => Stmt.listReadsBack_last (Stmt.readsBack s hs)
  | s :: s' :: body, ⟨hs, hlist, hbody⟩ =>
      Stmt.listReadsBack_cons (Stmt.readsBack s hs) (Stmt.isRemark_of_normal hs) hlist
        (List.cons_ne_nil _ _) (Stmt.listReadsBack (s' :: body) hbody)

end

theorem parseList_tokens {body : List Stmt} (normal : Stmt.NormalList names true body)
    {ts : List Token} (hts : ts.map Token.kind = Stmt.listTokens names everywhere body) :
    ReadsUpTo (Stmt.parseList eol ts) body [] := by
  refine (Stmt.listReadsBack body normal).reads hts ?_ (canFollow_nil _ _)
  rw [List.append_nil]
  exact skipColons_of_listTokens hts

theorem parseNumber_tokens {number : Option Nat} (hnumber : ∀ n ∈ number, IsLineNumber n)
    {body : List Stmt} {head ts : List Token}
    (hhead : head.map Token.kind = (number.map numeral).toList)
    (hts : ts.map Token.kind = Stmt.listTokens names everywhere body) :
    ReadsUpTo (Line.parseNumber eol (head ++ ts)) number ts := by
  unfold Line.parseNumber
  cases number with
  | none =>
      rw [List.map_eq_nil_iff.1 hhead, List.nil_append]
      rw [startsWithNumber_of_listTokens hts, if_neg (by decide)]
      exact .ok ⟨rfl, rfl⟩
  | some n =>
      obtain ⟨t, rfl, ht⟩ := List.map_eq_singleton_iff.1 hhead
      rw [List.singleton_append, if_pos (startsWithNumber_numeral ht ts)]
      exact reads_bind (parseLineNumber_numeral (hnumber n rfl) ht ts) fun shorter => .ok ⟨rfl, rfl⟩

end RoundTrip

/--
Reading inverts printing: the tokens of a line in normal form, with parentheses in its expressions
where they are needed or around every operation, are read as that line and nothing is left.
-/
theorem Line.ofTokens_tokens {line : Line} {names : Variable → String} (normal : line.Normal names)
    (everywhere : Bool) (eol : Nat) {ts : List Token}
    (printed : ts.map Token.kind = line.tokens names everywhere) :
    Line.ofTokens eol ts = .ok line := by
  obtain ⟨head, ts, rfl, hhead, hts⟩ := List.map_eq_append_iff.1 printed
  have hline : Succeeds (fun l => l = line) (Line.ofTokens eol (head ++ ts)) := by
    refine readsUpTo_bind (parseNumber_tokens normal.number hhead hts) fun noLonger => ?_
    exact readsUpTo_bind (parseList_tokens normal.statements hts) fun noLonger' => .ok rfl
  generalize Line.ofTokens eol (head ++ ts) = r at hline ⊢
  cases hline with
  | ok same => rw [same]

/-! ## A line that branches -/

/-- A line whose second `ELSE` goes to the first of its two `IF`s. -/
def Line.branching : Line :=
  ⟨some 10,
    [.print [.expr (.var ⟨"aR", .number⟩), .joined, .expr (.text "x")],
      .ifThenElse (.var ⟨"aR", .number⟩)
        (.statements [
          .ifThenElse (.binary .gt (.var ⟨"aR", .number⟩) (.var ⟨"bR", .number⟩)) (.line 20)
            (.line 30),
          .clear])
        (.statements [.remark])]⟩

/-- The tokens of `10 PRINT A;"x":IF A THEN IF (A>b!) THEN 20 ELSE 30:CLEAR ELSE REM`, each at the
place of its first character. -/
def branchingTokens : List Token := [
  ⟨.number 10, 0⟩, ⟨.keyword .print, 3⟩, ⟨.name "A", 9⟩, ⟨.sign .semicolon, 10⟩, ⟨.text "x", 11⟩,
  ⟨.sign .colon, 14⟩, ⟨.keyword .if, 15⟩, ⟨.name "A", 18⟩, ⟨.keyword .then, 20⟩, ⟨.keyword .if, 25⟩,
  ⟨.sign .leftParen, 28⟩, ⟨.name "A", 29⟩, ⟨.sign .gt, 30⟩, ⟨.name "b!", 31⟩,
  ⟨.sign .rightParen, 33⟩, ⟨.keyword .then, 35⟩, ⟨.number 20, 40⟩, ⟨.keyword .else, 43⟩,
  ⟨.number 30, 48⟩, ⟨.sign .colon, 50⟩, ⟨.keyword .clear, 51⟩, ⟨.keyword .else, 57⟩,
  ⟨.keyword .rem, 62⟩]

/-- Both `ELSE`s, the colons and the remark are where they were. -/
theorem Line.ofTokens_tokens_branching :
    Line.branching.Normal Variable.letter ∧
      branchingTokens.map Token.kind = Line.branching.tokens Variable.letter true ∧
      Line.ofTokens 65 branchingTokens = .ok .branching := by
  have ha : (Expr.var ⟨"aR", .number⟩).Printable Variable.letter := by
    refine ⟨.var rfl, fun v part => ?_⟩
    cases part with
    | self => rfl
  have hb : (Expr.var ⟨"bR", .number⟩).Printable Variable.letter := by
    refine ⟨.var rfl, fun v part => ?_⟩
    cases part with
    | self => rfl
  have hgreater : (Expr.binary .gt (.var ⟨"aR", .number⟩) (.var ⟨"bR", .number⟩)).Printable
      Variable.letter := by
    refine ⟨.binary ha.typed hb.typed rfl, fun v part => ?_⟩
    cases part with
    | left part => exact ha.named v part
    | right part => exact hb.named v part
  have hitems : ∀ e, PrintItem.expr e ∈ [.expr (.var ⟨"aR", .number⟩), .joined, .expr (.text "x")] →
      e.Printable Variable.letter := by
    intro e he
    rcases List.mem_cons.1 he with h | he
    · cases h
      exact ha
    · rcases List.mem_cons.1 he with h | he
      · cases h
      · cases List.mem_singleton.1 he
        exact ⟨.text "x", fun v part => by cases part⟩
  have hyes : Branch.Normal Variable.letter false (.statements [
      .ifThenElse (.binary .gt (.var ⟨"aR", .number⟩) (.var ⟨"bR", .number⟩)) (.line 20) (.line 30),
      .clear]) := by
    refine ⟨by simp, ⟨hgreater, rfl, ?_, rfl, ?_⟩, rfl, trivial⟩
    · exact ⟨by decide, by decide⟩
    · exact ⟨by decide, by decide⟩
  have hnormal : Line.branching.Normal Variable.letter := by
    refine ⟨?_, ⟨hitems, rfl, rfl, trivial⟩, rfl, ha, rfl, hyes, rfl, by simp, rfl⟩
    rintro n ⟨⟩
    exact ⟨by decide, by decide⟩
  have hprinted : branchingTokens.map Token.kind = Line.branching.tokens Variable.letter true := by
    rfl
  exact ⟨hnormal, hprinted, ofTokens_tokens hnormal true 65 hprinted⟩

end LineBasic
