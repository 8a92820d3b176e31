import LineBasic.Line

/-!
# Well-typed lines

The type of an expression is read off its tree, and the readers of expressions and statements refuse
an operand, an argument or a value of another type than the one that belongs in its place.  The
checks are spread over all levels of the expression reader.  This module says once what they add up
to, as a property of the finished tree.

## Main definitions

* `Expr.WellTyped`: every operator, call and variable of an expression has the types that it takes.
* `Expr.PartOf`: an expression stands in another one.
* `Stmt.WellTyped`: every expression of a statement is well typed and has the type of its place.
* `Stmt.Composes`: a property that statements have if the statements of their branches have it.

## Main results

* `Expr.parse_wellTyped`, `Stmt.composes_wellTyped`: the readers give nothing else.
* `Expr.readsTyped`, `Stmt.readsComposed`: what a reader keeps, it keeps in each function.
* `Line.compile_wellTyped`: the statements of a compiled line are well typed.
-/

namespace LineBasic

/-! ## Names and arguments -/

/-- The key of a variable ends in the suffix of its name. -/
theorem getLast?_storageKey (name : String) :
    (storageKey name).toList.getLast? = some (splitMark name.toList).2 := by
  simp [storageKey]

/-- The key of a variable ends in the mark of a text if its name does. -/
@[simp] theorem typeOfName_storageKey (name : String) : typeOfName (storageKey name) = typeOfName name := by
  unfold typeOfName
  rw [getLast?_storageKey]
  unfold splitMark
  split <;> simp_all

/-- The variable has the type that its key is for. -/
def Variable.WellTyped (v : Variable) : Prop := v.type = typeOfName v.key

theorem Variable.wellTyped_ofName (name : String) : (Variable.ofName name).WellTyped :=
  (typeOfName_storageKey name).symm

/-- A function takes arguments of these types. -/
structure Builtin.Takes (f : Builtin) (types : List ValueType) : Prop where
  count : f.accepts types.length = true
  type : ∀ i t, types[i]? = some t → t = f.paramType i

/-! ## Trees -/

/-- Every operator, call and variable of an expression has the types that it takes. -/
inductive Expr.WellTyped : Expr → Prop where
  | number (n : Float) : WellTyped (.number n)
  | text (s : String) : WellTyped (.text s)
  | var {v : Variable} (marked : v.WellTyped) : WellTyped (.var v)
  | unary (op : UnaryOp) {arg : Expr} (operand : WellTyped arg) (number : arg.type = .number) :
      WellTyped (.unary op arg)
  | binary {op : BinaryOp} {lhs rhs : Expr} (left : WellTyped lhs) (right : WellTyped rhs)
      (accepts : op.accepts lhs.type rhs.type = true) : WellTyped (.binary op lhs rhs)
  | call {f : Builtin} {args : List Expr} (each : ∀ e ∈ args, WellTyped e)
      (takes : f.Takes (args.map Expr.type)) : WellTyped (.call f args)

/-- An expression is another one or an operand or argument in it, at any depth. -/
inductive Expr.PartOf (e : Expr) : Expr → Prop where
  | self : PartOf e e
  | operand {op : UnaryOp} {arg : Expr} (part : PartOf e arg) : PartOf e (.unary op arg)
  | left {op : BinaryOp} {lhs rhs : Expr} (part : PartOf e lhs) : PartOf e (.binary op lhs rhs)
  | right {op : BinaryOp} {lhs rhs : Expr} (part : PartOf e rhs) : PartOf e (.binary op lhs rhs)
  | argument {f : Builtin} {args : List Expr} {arg : Expr} (mem : arg ∈ args)
      (part : PartOf e arg) : PartOf e (.call f args)

theorem Expr.WellTyped.part {e whole : Expr} (part : e.PartOf whole) (hw : whole.WellTyped) :
    e.WellTyped := by
  induction part with
  | self => exact hw
  | operand _ ih =>
      cases hw with
      | unary _ operand => exact ih operand
  | left _ ih =>
      cases hw with
      | binary left => exact ih left
  | right _ ih =>
      cases hw with
      | binary _ right => exact ih right
  | argument mem _ ih =>
      cases hw with
      | call each => exact ih (each _ mem)

/-- The statements of a branch.  A line number is a jump to it. -/
def Branch.body : Branch → List Stmt
  | .line n => [.goto n]
  | .statements body => body

/-- Every expression of a statement is well typed and has the type of its place. -/
inductive Stmt.WellTyped : Stmt → Prop where
  | assign {target : Variable} {value : Expr} (marked : target.WellTyped)
      (typed : value.WellTyped) (same : value.type = target.type) : WellTyped (.assign target value)
  | print {items : List PrintItem} (each : ∀ e, .expr e ∈ items → e.WellTyped) :
      WellTyped (.print items)
  | ifThen {test : Expr} {yes : Branch} (typed : test.WellTyped) (number : test.type = .number)
      (eachYes : ∀ s ∈ yes.body, WellTyped s) : WellTyped (.ifThen test yes)
  | ifThenElse {test : Expr} {yes no : Branch} (typed : test.WellTyped)
      (number : test.type = .number) (eachYes : ∀ s ∈ yes.body, WellTyped s)
      (eachNo : ∀ s ∈ no.body, WellTyped s) : WellTyped (.ifThenElse test yes no)
  | goto (line : Nat) : WellTyped (.goto line)
  | gosub (line : Nat) : WellTyped (.gosub line)
  | return : WellTyped .return
  | end : WellTyped .end
  | stop : WellTyped .stop
  | raise {code : Expr} (typed : code.WellTyped) (number : code.type = .number) :
      WellTyped (.raise code)
  | clear : WellTyped .clear
  | remark : WellTyped .remark

/-! ## Results of a reader -/

/-- What a reader gives has a property, if it gives anything. -/
def Yields {ε α : Type} (P : α → Prop) (r : Except ε α) : Prop := ∀ a, r = .ok a → P a

section Results

variable {ε α β : Type} {P : α → Prop} {Q : β → Prop}

theorem yields_ok {a : α} (ha : P a) : Yields P (.ok a : Except ε α) := by
  intro b h
  cases h
  exact ha

theorem yields_pure {a : α} (ha : P a) : Yields P (pure a : Except ε α) := yields_ok ha

theorem yields_error (e : ε) : Yields P (.error e) := by
  intro a h
  cases h

theorem yields_bind {r : Except ε α} {k : α → Except ε β} (hr : Yields P r)
    (hk : ∀ a, P a → Yields Q (k a)) : Yields Q (r >>= k) := by
  cases r with
  | ok a => exact hk a (hr a rfl)
  | error e => exact yields_error e

theorem yields_any (r : Except ε α) : Yields (fun _ => True) r := fun _ _ => trivial

end Results

namespace Expr

variable {eol : Nat} {ts : List Token}

/-! ## The expression reader -/

theorem yields_requireNumber (e : Expr) (pos : Nat) :
    Yields (fun _ => e.type = .number) (requireNumber e pos) := by
  unfold requireNumber
  split
  · next hnumber => exact yields_ok hnumber
  · exact yields_error _

theorem yields_combine {op : BinaryOp} {lhs rhs : Expr} (hl : lhs.WellTyped) (hr : rhs.WellTyped)
    (pos : Nat) : Yields WellTyped (combine op lhs rhs pos) := by
  unfold combine
  split
  · next haccepts => exact yields_ok (.binary hl hr haccepts)
  · exact yields_error _

/-- What is read as arguments from the one with `index` arguments before it on. -/
structure TypedFrom (f : Builtin) (index : Nat) (args : List Expr) : Prop where
  each : ∀ e ∈ args, e.WellTyped
  type : ∀ i t, (args.map Expr.type)[i]? = some t → t = f.paramType (index + i)

theorem typedFrom_nil (f : Builtin) (index : Nat) : TypedFrom f index [] := by
  refine ⟨fun e he => ?_, fun i t ht => ?_⟩
  · cases he
  · cases ht

theorem typedFrom_cons {f : Builtin} {index : Nat} {arg : Expr} {args : List Expr}
    (typed : arg.WellTyped) (type : arg.type = f.paramType index)
    (rest : TypedFrom f (index + 1) args) : TypedFrom f index (arg :: args) := by
  refine ⟨List.forall_mem_cons.2 ⟨typed, rest.each⟩, ?_⟩
  intro i t ht
  cases i with
  | zero =>
      cases ht
      exact type
  | succ i =>
      rw [rest.type i t ht]
      congr 1
      omega

theorem TypedFrom.tail {f : Builtin} {index : Nat} {arg : Expr} {args : List Expr}
    (h : TypedFrom f index (arg :: args)) : TypedFrom f (index + 1) args := by
  refine ⟨fun e he => h.each e (List.mem_cons_of_mem _ he), fun i t ht => ?_⟩
  rw [h.type (i + 1) t ht]
  congr 1
  omega

/-- The functions of the expression reader give well-typed expressions off fewer than `bound`
tokens. -/
structure ReadsTyped (eol bound : Nat) : Prop where
  level (n : Nat) (ts : List Token) (fewer : ts.length < bound) :
    Yields (fun r => r.value.WellTyped) (parseLevel eol n ts)
  chain (below : Nat) {lhs : Expr} (typed : lhs.WellTyped) (ts : List Token)
    (fewer : ts.length < bound) : Yields (fun r => r.value.WellTyped) (parseChain eol below lhs ts)
  signed (ts : List Token) (fewer : ts.length < bound) :
    Yields (fun r => r.value.WellTyped) (parseSigned eol ts)
  powers {lhs : Expr} (typed : lhs.WellTyped) (ts : List Token) (fewer : ts.length < bound) :
    Yields (fun r => r.value.WellTyped) (parsePowers eol lhs ts)
  exponent (ts : List Token) (fewer : ts.length < bound) :
    Yields (fun r => r.value.WellTyped) (parseExponent eol ts)
  arguments (f : Builtin) (ts : List Token) (fewer : ts.length < bound) :
    Yields (fun r => TypedFrom f 0 r.value) (parseArguments eol f ts)
  argumentsFrom (f : Builtin) (index : Nat) (ts : List Token) (fewer : ts.length < bound) :
    Yields (fun r => TypedFrom f index r.value) (parseArgumentsFrom eol f index ts)

/-- A name is a variable, or a call if a parenthesis follows. -/
theorem parseOperand_name_wellTyped {t : Token} {tail : List Token} {name : String}
    (behind : ReadsTyped eol (t :: tail).length) (hkind : t.kind = .name name) :
    Yields (fun r => r.value.WellTyped) (parseOperand eol (t :: tail)) := by
  rw [parseOperand, hkind]
  dsimp only
  cases hEat : eat? (.sign .leftParen) tail with
  | none => exact yields_ok (.var (Variable.wellTyped_ofName name))
  | some paren =>
      obtain ⟨_, inner, hInner⟩ := paren
      dsimp only
      cases hknown : Builtin.ofName? (Text.asciiLower name) with
      | none => exact yields_error _
      | some f =>
          refine yields_bind (behind.arguments f inner (Nat.lt_succ_of_lt hInner))
            fun args hargs => ?_
          refine yields_bind (yields_any _) fun _ _ => ?_
          split
          · next haccepts =>
              refine yields_pure (.call hargs.each ⟨?_, ?_⟩)
              · rw [List.length_map]
                exact haccepts
              · intro i t ht
                rw [hargs.type i t ht, Nat.zero_add]
          · exact yields_error _

theorem parseOperand_wellTyped (behind : ReadsTyped eol ts.length) :
    Yields (fun r => r.value.WellTyped) (parseOperand eol ts) := by
  cases ts with
  | nil =>
      rw [parseOperand]
      exact yields_error _
  | cons t tail =>
      cases hkind : t.kind with
      | number n =>
          rw [parseOperand, hkind]
          exact yields_ok (.number n)
      | text s =>
          rw [parseOperand, hkind]
          exact yields_ok (.text s)
      | name name => exact parseOperand_name_wellTyped behind hkind
      | keyword k =>
          rw [parseOperand, hkind]
          exact yields_error _
      | sign s =>
          rw [parseOperand, hkind]
          cases s with
          | leftParen =>
              refine yields_bind (behind.level BinaryOp.topLevel tail (Nat.lt_succ_self _))
                fun e he => ?_
              refine yields_bind (yields_any _) fun _ _ => ?_
              exact yields_pure he
          | _ => exact yields_error _

theorem parseExponent_wellTyped (behind : ReadsTyped eol ts.length) :
    Yields (fun r => r.value.WellTyped) (parseExponent eol ts) := by
  rw [parseExponent]
  cases eat? (.sign .minus) ts with
  | some minus =>
      refine yields_bind (behind.exponent minus.rest minus.shorter) fun arg harg => ?_
      refine yields_bind (yields_requireNumber _ _) fun _ hnumber => ?_
      exact yields_pure (.unary .neg harg hnumber)
  | none => exact parseOperand_wellTyped behind

theorem parsePowers_wellTyped {lhs : Expr} (behind : ReadsTyped eol ts.length)
    (typed : lhs.WellTyped) : Yields (fun r => r.value.WellTyped) (parsePowers eol lhs ts) := by
  rw [parsePowers]
  cases eat? (.sign .caret) ts with
  | some caret =>
      refine yields_bind (behind.exponent caret.rest caret.shorter) fun rhs hrhs => ?_
      refine yields_bind (yields_combine typed hrhs _) fun e he => ?_
      refine yields_bind (behind.powers he rhs.rest (Nat.lt_trans rhs.shorter caret.shorter))
        fun e' he' => ?_
      exact yields_pure he'
  | none => exact yields_ok typed

theorem parseSigned_wellTyped (behind : ReadsTyped eol ts.length) :
    Yields (fun r => r.value.WellTyped) (parseSigned eol ts) := by
  rw [parseSigned]
  cases eat? (.sign .minus) ts with
  | some minus =>
      refine yields_bind (behind.signed minus.rest minus.shorter) fun arg harg => ?_
      refine yields_bind (yields_requireNumber _ _) fun _ hnumber => ?_
      exact yields_pure (.unary .neg harg hnumber)
  | none =>
      cases eat? (.sign .plus) ts with
      | some plus =>
          refine yields_bind (behind.signed plus.rest plus.shorter) fun arg harg => ?_
          refine yields_bind (yields_requireNumber _ _) fun _ _ => ?_
          exact yields_pure harg
      | none =>
          refine yields_bind (parseOperand_wellTyped behind) fun lhs hlhs => ?_
          refine yields_bind (behind.powers hlhs lhs.rest lhs.shorter) fun e he => ?_
          exact yields_pure he

theorem parseChain_wellTyped {below : Nat} {lhs : Expr} (behind : ReadsTyped eol ts.length)
    (typed : lhs.WellTyped) :
    Yields (fun r => r.value.WellTyped) (parseChain eol below lhs ts) := by
  cases ts with
  | nil =>
      rw [parseChain]
      exact yields_ok typed
  | cons t tail =>
      rw [parseChain]
      cases BinaryOp.ofToken (below + 1) t.kind with
      | none => exact yields_ok typed
      | some op =>
          refine yields_bind (behind.level below tail (Nat.lt_succ_self _)) fun rhs hrhs => ?_
          refine yields_bind (yields_combine typed hrhs _) fun e he => ?_
          refine yields_bind (behind.chain below he rhs.rest (Nat.lt_succ_of_lt rhs.shorter))
            fun e' he' => ?_
          exact yields_pure he'

/-- A level is read off the same tokens as the level below it, down to the signs. -/
theorem parseLevel_wellTyped (n : Nat) (behind : ReadsTyped eol ts.length) :
    Yields (fun r => r.value.WellTyped) (parseLevel eol n ts) := by
  induction n with
  | zero =>
      rw [parseLevel]
      exact parseSigned_wellTyped behind
  | succ below ih =>
      rw [parseLevel]
      split
      · cases eat? (.keyword .not) ts with
        | some word =>
            refine yields_bind (behind.level (below + 1) word.rest word.shorter) fun arg harg => ?_
            refine yields_bind (yields_requireNumber _ _) fun _ hnumber => ?_
            exact yields_pure (.unary .not harg hnumber)
        | none => exact ih
      · refine yields_bind ih fun lhs hlhs => ?_
        refine yields_bind (behind.chain below hlhs lhs.rest lhs.shorter) fun e he => ?_
        exact yields_pure he

theorem parseArgumentsFrom_wellTyped (f : Builtin) (index : Nat)
    (behind : ReadsTyped eol ts.length) :
    Yields (fun r => TypedFrom f index r.value) (parseArgumentsFrom eol f index ts) := by
  rw [parseArgumentsFrom]
  refine yields_bind (parseLevel_wellTyped BinaryOp.topLevel behind) fun arg harg => ?_
  dsimp only
  split
  · exact yields_error _
  · next htype =>
      rw [ne_eq, Classical.not_not] at htype
      cases eat? (.sign .comma) arg.rest with
      | some comma =>
          refine yields_bind (behind.argumentsFrom f (index + 1) comma.rest
            (Nat.lt_trans comma.shorter arg.shorter)) fun args hargs => ?_
          exact yields_pure (typedFrom_cons harg htype hargs)
      | none => exact yields_ok (typedFrom_cons harg htype (typedFrom_nil f (index + 1)))

theorem parseArguments_wellTyped (f : Builtin) (behind : ReadsTyped eol ts.length) :
    Yields (fun r => TypedFrom f 0 r.value) (parseArguments eol f ts) := by
  rw [parseArguments]
  cases eat? (.sign .rightParen) ts with
  | some paren => exact yields_ok (typedFrom_nil f 0)
  | none =>
      refine yields_bind (parseArgumentsFrom_wellTyped f 0 behind) fun args hargs => ?_
      exact yields_pure hargs

/-- All functions of the expression reader give well-typed expressions, by induction on the number
of tokens. -/
theorem readsTyped (eol bound : Nat) : ReadsTyped eol bound := by
  induction bound using Nat.strongRecOn with
  | ind bound ih => exact {
      level := fun n ts fewer => parseLevel_wellTyped n (ih _ fewer)
      chain := fun _ _ typed ts fewer => parseChain_wellTyped (ih _ fewer) typed
      signed := fun ts fewer => parseSigned_wellTyped (ih _ fewer)
      powers := fun typed ts fewer => parsePowers_wellTyped (ih _ fewer) typed
      exponent := fun ts fewer => parseExponent_wellTyped (ih _ fewer)
      arguments := fun f ts fewer => parseArguments_wellTyped f (ih _ fewer)
      argumentsFrom := fun f index ts fewer => parseArgumentsFrom_wellTyped f index (ih _ fewer) }

/-- A parsed expression is well typed. -/
theorem parse_wellTyped (eol : Nat) (ts : List Token) :
    Yields (fun r => r.value.WellTyped) (parse eol ts) :=
  parseLevel_wellTyped BinaryOp.topLevel (readsTyped eol ts.length)

end Expr

/-! ## The statement reader -/

namespace Stmt

theorem parseAssignment_wellTyped (eol : Nat) (ts : List Token) :
    Yields (fun r => r.value.WellTyped) (parseAssignment eol ts) := by
  unfold parseAssignment
  split
  · exact yields_error _
  · split
    · next name _ =>
        refine yields_bind (yields_any _) fun equals _ => ?_
        refine yields_bind (Expr.parse_wellTyped eol _) fun value hvalue => ?_
        split
        · next hsame =>
            exact yields_pure (.assign (Variable.wellTyped_ofName name) hvalue hsame)
        · exact yields_error _
    · exact yields_error _

theorem parseItems_wellTyped (eol : Nat) (ts : List Token) :
    Yields (fun r => ∀ e, .expr e ∈ r.value → e.WellTyped) (parseItems eol ts) := by
  induction ts using parseItems_induction with
  | nil =>
      rw [parseItems]
      exact yields_ok fun e he => by cases he
  | ends t tail hends =>
      rw [parseItems, if_pos hends]
      exact yields_ok fun e he => by cases he
  | joined t tail hgoes hjoined ih =>
      rw [parseItems, if_neg hgoes, if_pos hjoined]
      refine yields_bind ih fun items hitems => ?_
      refine yields_pure fun e he => hitems e ?_
      simpa using he
  | nextZone t tail hgoes hother hzone ih =>
      rw [parseItems, if_neg hgoes, if_neg hother, if_pos hzone]
      refine yields_bind ih fun items hitems => ?_
      refine yields_pure fun e he => hitems e ?_
      simpa using he
  | expr t tail hgoes hother hother' ih =>
      rw [parseItems, if_neg hgoes, if_neg hother, if_neg hother']
      refine yields_bind (Expr.parse_wellTyped eol _) fun e he => ?_
      refine yields_bind (ih _ e.shorter) fun items hitems => ?_
      refine yields_pure fun e' he' => ?_
      rcases List.mem_cons.1 he' with hfirst | hrest
      · cases hfirst
        exact he
      · exact hitems e' hrest

/-- The statements without an expression or a branch. -/
def isPlain : Stmt → Bool
  | goto _ | gosub _ | «return» | «end» | stop | clear | remark => true
  | _ => false

/-- A property that statements have if the statements of their branches have it. -/
structure Composes (eol : Nat) (P : Stmt → Prop) : Prop where
  assignment (ts : List Token) : Yields (fun r => P r.value) (parseAssignment eol ts)
  print (ts : List Token) : Yields (fun r => P (.print r.value)) (parseItems eol ts)
  ifThen {test : Expr} {yes : Branch} (typed : test.WellTyped) (number : test.type = .number)
    (eachYes : ∀ s ∈ yes.body, P s) : P (.ifThen test yes)
  ifThenElse {test : Expr} {yes no : Branch} (typed : test.WellTyped) (number : test.type = .number)
    (eachYes : ∀ s ∈ yes.body, P s) (eachNo : ∀ s ∈ no.body, P s) : P (.ifThenElse test yes no)
  raise {code : Expr} (typed : code.WellTyped) (number : code.type = .number) : P (.raise code)
  plain (s : Stmt) (isPlain : s.isPlain = true) : P s

section Readers

variable {eol bound : Nat} {P : Stmt → Prop} {ts : List Token}

/-- The functions of the statement reader give statements with a property off fewer than `bound`
tokens. -/
structure ReadsComposed (eol : Nat) (P : Stmt → Prop) (bound : Nat) : Prop where
  list (ts : List Token) (fewer : ts.length < bound) :
    Yields (fun r => ∀ s ∈ r.value, P s) (parseList eol ts)
  conditional (ts : List Token) (fewer : ts.length < bound) :
    Yields (fun r => P r.value) (parseIf eol ts)
  thenBranch (ts : List Token) (fewer : ts.length < bound) :
    Yields (fun r => ∀ s ∈ r.value.body, P s) (parseThen eol ts)
  branch (ts : List Token) (fewer : ts.length < bound) :
    Yields (fun r => ∀ s ∈ r.value.body, P s) (parseBranch eol ts)

/-- A statement that opens with a keyword. -/
theorem parseOne_keyword_composed {t : Token} {tail : List Token} (composes : Composes eol P)
    (behind : ReadsComposed eol P bound) (within : tail.length < bound) {k : Keyword}
    (hkind : t.kind = .keyword k) : Yields (fun r => P r.value) (parseOne eol (t :: tail)) := by
  rw [parseOne, hkind]
  cases k with
  | «let» =>
      refine yields_bind (composes.assignment tail) fun s hs => ?_
      exact yields_pure hs
  | print =>
      refine yields_bind (composes.print tail) fun items hitems => ?_
      exact yields_pure hitems
  | «if» =>
      refine yields_bind (behind.conditional tail within) fun s hs => ?_
      exact yields_pure hs
  | goto =>
      refine yields_bind (yields_any _) fun n _ => ?_
      exact yields_pure (composes.plain (.goto n.value) rfl)
  | gosub =>
      refine yields_bind (yields_any _) fun n _ => ?_
      exact yields_pure (composes.plain (.gosub n.value) rfl)
  | «return» | «end» | stop | clear | rem => exact yields_ok (composes.plain _ rfl)
  | error =>
      refine yields_bind (Expr.parse_wellTyped eol tail) fun code hcode => ?_
      refine yields_bind (Expr.yields_requireNumber _ _) fun _ hnumber => ?_
      exact yields_pure (composes.raise hcode hnumber)
  | _ => exact yields_error _

theorem parseOne_composed (composes : Composes eol P) (behind : ReadsComposed eol P bound)
    (within : ts.length ≤ bound) : Yields (fun r => P r.value) (parseOne eol ts) := by
  cases ts with
  | nil =>
      rw [parseOne]
      exact yields_error _
  | cons t tail =>
      cases hkind : t.kind with
      | name name =>
          rw [parseOne, hkind]
          exact composes.assignment _
      | keyword k => exact parseOne_keyword_composed composes behind within hkind
      | number | text | sign =>
          rw [parseOne, hkind]
          exact yields_error _

/-- A list goes on behind a colon, and ends behind a remark. -/
theorem parseList_composed (composes : Composes eol P) (behind : ReadsComposed eol P ts.length) :
    Yields (fun r => ∀ s ∈ r.value, P s) (parseList eol ts) := by
  rw [parseList]
  split
  · exact yields_ok fun s hs => by cases hs
  · next t tail hskip =>
      have hwithin : (t :: tail).length ≤ ts.length := hskip ▸ length_skipColons_le ts
      split
      · exact yields_ok fun s hs => by cases hs
      · refine yields_bind (parseOne_composed composes behind hwithin) fun first hfirst => ?_
        dsimp only
        split
        · exact yields_ok (List.forall_mem_singleton.2 hfirst)
        · split
          · exact yields_ok (List.forall_mem_singleton.2 hfirst)
          · next u tail' hRest _ _ =>
              split
              · refine yields_bind (behind.list (u :: tail') hRest) fun more hmore => ?_
                exact yields_pure (List.forall_mem_cons.2 ⟨hfirst, hmore⟩)
              · split
                · exact yields_ok (List.forall_mem_singleton.2 hfirst)
                · split
                  · exact yields_ok (List.forall_mem_cons.2
                      ⟨hfirst, List.forall_mem_singleton.2 (composes.plain .remark rfl)⟩)
                  · exact yields_error _

theorem parseIf_composed (composes : Composes eol P) (behind : ReadsComposed eol P ts.length) :
    Yields (fun r => P r.value) (parseIf eol ts) := by
  rw [parseIf]
  refine yields_bind (Expr.parse_wellTyped eol ts) fun test htest => ?_
  refine yields_bind (Expr.yields_requireNumber _ _) fun _ hnumber => ?_
  refine yields_bind (behind.thenBranch test.rest test.shorter) fun yes hyes => ?_
  have hshorter : yes.rest.length < ts.length := Nat.lt_trans yes.shorter test.shorter
  dsimp only
  cases eat? (.keyword .else) yes.rest with
  | none => exact yields_pure (composes.ifThen htest hnumber hyes)
  | some word =>
      refine yields_bind (behind.branch word.rest (Nat.lt_trans word.shorter hshorter))
        fun no hno => ?_
      exact yields_pure (composes.ifThenElse htest hnumber hyes hno)

theorem parseBranch_composed (composes : Composes eol P) (behind : ReadsComposed eol P ts.length) :
    Yields (fun r => ∀ s ∈ r.value.body, P s) (parseBranch eol ts) := by
  rw [parseBranch]
  split
  · refine yields_bind (yields_any _) fun n _ => ?_
    exact yields_pure (List.forall_mem_singleton.2 (composes.plain (.goto n.value) rfl))
  · refine yields_bind (parseList_composed composes behind) fun body hbody => ?_
    dsimp only
    split
    · exact yields_error _
    · exact yields_pure hbody

theorem parseThen_composed (composes : Composes eol P) (behind : ReadsComposed eol P ts.length) :
    Yields (fun r => ∀ s ∈ r.value.body, P s) (parseThen eol ts) := by
  rw [parseThen]
  cases eat? (.keyword .then) ts with
  | some word =>
      refine yields_bind (behind.branch word.rest word.shorter) fun yes hyes => ?_
      exact yields_pure hyes
  | none =>
      cases eat? (.keyword .goto) ts with
      | some word =>
          refine yields_bind (yields_any _) fun n _ => ?_
          exact yields_pure (List.forall_mem_singleton.2 (composes.plain (.goto n.value) rfl))
      | none => exact yields_error _

/-- All functions of the statement reader give statements with such a property, by induction on the
number of tokens. -/
theorem readsComposed (composes : Composes eol P) (bound : Nat) : ReadsComposed eol P bound := by
  induction bound using Nat.strongRecOn with
  | ind bound ih => exact {
      list := fun ts fewer => parseList_composed composes (ih _ fewer)
      conditional := fun ts fewer => parseIf_composed composes (ih _ fewer)
      thenBranch := fun ts fewer => parseThen_composed composes (ih _ fewer)
      branch := fun ts fewer => parseBranch_composed composes (ih _ fewer) }

end Readers

/-- The statement reader gives well-typed statements. -/
theorem composes_wellTyped (eol : Nat) : Composes eol WellTyped where
  assignment := parseAssignment_wellTyped eol
  print ts := fun r hr => .print (parseItems_wellTyped eol ts r hr)
  ifThen := .ifThen
  ifThenElse := .ifThenElse
  raise := .raise
  plain s hs := by
    cases s with
    | goto | gosub | «return» | «end» | stop | clear | remark => constructor
    | assign | print | ifThen | ifThenElse | raise => cases hs

end Stmt

/-- The statements of a compiled line have every property that the reader composes. -/
theorem Line.compile_composed {source : String} {line : Line} {P : Stmt → Prop}
    (composes : Stmt.Composes source.length P) (compiled : compile source = .ok line) :
    ∀ s ∈ line.statements, P s := by
  have hyields : Yields (fun l => ∀ s ∈ l.statements, P s) (compile source) := by
    refine yields_bind (yields_any _) fun ts _ => ?_
    refine yields_bind (yields_any _) fun number _ => ?_
    have hbehind := Stmt.readsComposed composes number.rest.length
    refine yields_bind (Stmt.parseList_composed composes hbehind) fun body hbody => ?_
    split
    · exact yields_pure hbody
    · exact yields_error _
  exact hyields line compiled

/-- The statements of a compiled line are well typed. -/
theorem Line.compile_wellTyped {source : String} {line : Line}
    (compiled : compile source = .ok line) : ∀ s ∈ line.statements, s.WellTyped :=
  compile_composed (Stmt.composes_wellTyped source.length) compiled

end LineBasic
