import LineBasic.Proofs.FiniteDoubles
import LineBasic.Proofs.TypeSoundness

/-!
# The limits of values

A number is meant to be finite and a text to have at most 255 characters.  Each operator and function
sees to its own result: one that is beyond these limits is a fault.  Most of them do so whatever their
operands are, and the few that do not are listed here.

`VAL` takes the number that it reads off a text as it is, and a numeral can be as large as one likes.
`MIN` and `MAX` give one of their arguments, so they hand such a number on.  All other operations on it
are checked.  Of the functions that make texts, `STR$` writes a number with all its places, `UPPER$` and
`LOWER$` can make several characters of one, and these two hand on a text that is too long already.

## Main definitions

* `Value.WithinLimits`: a value is a finite number or a text that is not too long.
* `Builtin.isLimited`, `Expr.isChecked`: the functions and expressions that see to their result.
* `Expr.Computes`: the double that an operation computes, before it is checked.
* `Expr.Escapes`: how a number beyond the range becomes the value of an expression.
* `Expr.Outgrows`: how a text becomes longer than a sum of texts may be.

## Main results

* `yields_eval`: which values are within the limits, whatever the store holds.
* `finite_unless_escapes`: which numbers are beyond the range, and what is a fault instead.
* `short_unless_outgrows`: which texts are too long, and what is a fault instead.
-/

namespace LineBasic

/-! ## Results within the limits -/

/-- A value is a finite number or a text that is not too long. -/
inductive Value.WithinLimits : Value → Prop
  | number {n : Float} (finite : n.isFinite = true) : WithinLimits (.number n)
  | text {s : String} (short : s.length ≤ maxTextLength) : WithinLimits (.text s)

open Value (WithinLimits)

section Operations

variable {f : Builtin} {k : Int}

theorem within_ofInt (small : k.natAbs ≤ 65536) : WithinLimits (.ofInt k) := by
  have hlog := Number.log2_le_of_lt (n := k.natAbs) (by omega)
  exact .number (Number.isFinite_ofInt (by omega))

/-- Sixteen bits are within the limits. -/
theorem natAbs_toInt_le (x : Int16) : x.toInt.natAbs ≤ 65536 := by
  have hlow := x.le_toInt
  have hhigh := x.toInt_lt
  omega

theorem within_ofBool (b : Bool) : WithinLimits (.ofBool b) := by
  cases b with
  | true => exact .number (by with_unfolding_all rfl)
  | false => exact .number (by with_unfolding_all rfl)

theorem yields_finiteValue (n : Float) : Yields WithinLimits (finiteValue n) := by
  unfold finiteValue
  split
  · next hfinite => exact yields_ok (.number hfinite)
  · exact yields_error _

/-- A count is at most 255. -/
theorem yields_count (v : Value) : Yields (· ≤ maxTextLength) (count v) := by
  unfold count
  refine yields_bind (yields_any _) fun n _ => ?_
  split
  · split
    · next k _ hrange =>
        refine yields_ok ?_
        unfold maxTextLength
        omega
    · exact yields_error _
  · exact yields_error _

/-! ### Operators -/

theorem yields_words {a b : Float} {g : Int16 → Int16 → Evaluated Value}
    (hg : ∀ x y, Yields WithinLimits (g x y)) :
    Yields WithinLimits (do g (← word16 a) (← word16 b)) :=
  yields_bind (yields_any _) fun x _ => yields_bind (yields_any _) fun y _ => hg x y

theorem yields_applyNumbers (op : BinaryOp) (a b : Float) :
    Yields WithinLimits (op.applyNumbers a b) := by
  cases op with
  | add | sub | mul | pow => exact yields_finiteValue _
  | div =>
      unfold BinaryOp.applyNumbers
      dsimp only
      split
      · exact yields_error _
      · exact yields_finiteValue _
  | intDiv =>
      refine yields_words fun x y => ?_
      split
      · exact yields_error _
      · refine yields_ok (within_ofInt ?_)
        rw [Int.natAbs_tdiv]
        exact (Nat.div_le_self _ _).trans (natAbs_toInt_le x)
  | mod =>
      refine yields_words fun x y => ?_
      split
      · exact yields_error _
      · refine yields_ok (within_ofInt ?_)
        rw [Int.natAbs_tmod]
        exact (Nat.mod_le _ _).trans (natAbs_toInt_le x)
  | and | or | xor => exact yields_words fun x y => yields_pure (within_ofInt (natAbs_toInt_le _))
  | eq | ne | lt | gt | le | ge => exact yields_error _

theorem yields_joinTexts (a b : String) : Yields WithinLimits (joinTexts a b) := by
  unfold joinTexts
  split
  · exact yields_error _
  · next hshort =>
      refine yields_ok (.text ?_)
      rw [String.length_append]
      exact Nat.not_lt.1 hshort

/-- The result of an operator with two operands is within the limits. -/
theorem yields_binary (op : BinaryOp) (lhs rhs : Value) :
    Yields WithinLimits (op.apply lhs rhs) := by
  unfold BinaryOp.apply
  split
  · cases compareValues lhs rhs with
    | error e => exact yields_error _
    | ok o => exact yields_ok (within_ofBool _)
  · split
    · exact yields_joinTexts _ _
    · refine yields_bind (yields_any _) fun a _ => ?_
      exact yields_bind (yields_any _) fun b _ => yields_applyNumbers op a b

/-- The result of an operator with one operand is within the limits. -/
theorem yields_unary (op : UnaryOp) (arg : Value) : Yields WithinLimits (op.apply arg) := by
  refine yields_bind (yields_any _) fun n _ => ?_
  cases op with
  | neg => exact yields_finiteValue _
  | not => exact yields_bind (yields_any _) fun x _ => yields_pure (within_ofInt (natAbs_toInt_le _))

/-! ### Functions -/

/-- The functions that see to the limits of their results. -/
def Builtin.isLimited : Builtin → Bool
  | val | len | min | max | str | upper | lower => false
  | _ => true

theorem yields_applyNumber (limited : f.isLimited = true) (n : Float) :
    Yields WithinLimits (f.applyNumber n) := by
  cases f with
  | abs | int | fix | sin | cos | tan | atn | exp => exact yields_finiteValue _
  | sgn =>
      refine yields_ok (.number ?_)
      unfold signOf
      split
      · with_unfolding_all rfl
      · split
        · with_unfolding_all rfl
        · with_unfolding_all rfl
  | sqr | log =>
      unfold Builtin.applyNumber
      dsimp only
      split
      · exact yields_error _
      · exact yields_finiteValue _
  | asc | chr | left | right | mid => exact yields_error _
  | val | len | min | max | str | upper | lower => cases limited

theorem yields_applyText (limited : f.isLimited = true) (s : String) :
    Yields WithinLimits (f.applyText s) := by
  cases f with
  | asc =>
      unfold Builtin.applyText
      dsimp only
      split
      · next c _ _ =>
          have hcode : c.toNat < 1114112 := by
            rcases c.valid with hlow | ⟨-, hhigh⟩
            · exact Nat.lt_trans hlow (by decide)
            · exact hhigh
          have hlog := Number.log2_le_of_lt (n := c.toNat) (by omega)
          exact yields_ok (.number (Number.isFinite_ofNat (by omega)))
      · exact yields_error _
  | abs | int | fix | sgn | sqr | sin | cos | tan | atn | exp | log | chr | left | right | mid =>
      exact yields_error _
  | val | len | min | max | str | upper | lower => cases limited

theorem within_mapText {g : List Char → List Char} {s : String}
    (short : (g s.toList).length ≤ maxTextLength) : WithinLimits (mapText g s) :=
  .text (by rw [String.length_ofList]; exact short)

theorem within_middle {s : String} {start length : Nat} (short : length ≤ maxTextLength) :
    WithinLimits (middle s start length) := by
  refine within_mapText ?_
  rw [List.length_take]
  omega

/-- The result of these functions is within the limits. -/
theorem yields_apply (limited : f.isLimited = true) (args : List Value) :
    Yields WithinLimits (f.apply args) := by
  cases f with
  | abs | int | fix | sgn | sqr | sin | cos | tan | atn | exp | log =>
      match args with
      | [] => exact yields_error _
      | [arg] => exact yields_bind (yields_any _) fun n _ => yields_applyNumber rfl n
      | _ :: _ :: _ => exact yields_error _
  | asc =>
      match args with
      | [] => exact yields_error _
      | [arg] => exact yields_bind (yields_any _) fun s _ => yields_applyText rfl s
      | _ :: _ :: _ => exact yields_error _
  | chr =>
      match args with
      | [] => exact yields_error _
      | [code] => exact yields_bind (yields_any _) fun n _ => yields_pure (.text (by simp [maxTextLength]))
      | _ :: _ :: _ => exact yields_error _
  | left =>
      match args with
      | [] => exact yields_error _
      | [_] => exact yields_bind (yields_any _) fun s _ => yields_error _
      | [s, n] =>
          refine yields_bind (yields_count n) fun n hn => yields_bind (yields_any _) fun s _ => ?_
          refine yields_pure (within_mapText ?_)
          rw [List.length_take]
          omega
      | _ :: _ :: _ :: _ => exact yields_error _
  | right =>
      match args with
      | [] => exact yields_error _
      | [_] => exact yields_bind (yields_any _) fun s _ => yields_error _
      | [s, n] =>
          refine yields_bind (yields_any _) fun s _ => yields_bind (yields_count n) fun n hn => ?_
          refine yields_pure (within_mapText ?_)
          rw [List.length_drop]
          omega
      | _ :: _ :: _ :: _ => exact yields_error _
  | mid =>
      match args with
      | [] => exact yields_error _
      | [_] => exact yields_bind (yields_any _) fun s _ => yields_error _
      | s :: start :: rest =>
          refine yields_bind (yields_any _) fun s _ => yields_bind (yields_any _) fun start _ => ?_
          dsimp only
          split
          · exact yields_error _
          · cases rest with
            | nil => exact yields_pure (within_middle (Nat.le_refl _))
            | cons n rest =>
                exact yields_bind (yields_count n) fun n hn => yields_pure (within_middle hn)
  | val | len | min | max | str | upper | lower => cases limited

/-! ### Functions that hand on what they have -/

/-- A choice between two numbers, of which one may be none, gives one of them. -/
theorem chosen_eq (a b : Float) (first : Prop) [Decidable first] :
    (if a.isNaN then b else if b.isNaN then a else if first then a else b) = a ∨
      (if a.isNaN then b else if b.isNaN then a else if first then a else b) = b := by
  split
  · exact .inr rfl
  · split
    · exact .inl rfl
    · split
      · exact .inl rfl
      · exact .inr rfl

theorem smaller_eq (a b : Float) : smaller a b = a ∨ smaller a b = b := chosen_eq a b (a < b)

theorem larger_eq (a b : Float) : larger a b = a ∨ larger a b = b := chosen_eq a b (b < a)

/-- A fold that chooses between two numbers at each step gives one of them. -/
theorem mem_of_foldNumbers {g : Float → Float → Float} (choice : ∀ a b, g a b = a ∨ g a b = b)
    {first n : Float} {rest : List Value} (result : foldNumbers g first rest = .ok n) :
    .number n ∈ Value.number first :: rest := by
  unfold foldNumbers at result
  induction rest generalizing first with
  | nil =>
      cases result
      exact List.mem_cons_self
  | cons v rest ih =>
      rw [List.foldlM_cons] at result
      cases v with
      | text s => cases result
      | number b =>
          rcases List.mem_cons.1 (ih result) with hfirst | hrest
          · rcases choice first b with ha | hb
            · rw [hfirst, ha]
              exact List.mem_cons_self
            · rw [hfirst, hb]
              exact List.mem_cons_of_mem _ List.mem_cons_self
          · exact List.mem_cons_of_mem _ (List.mem_cons_of_mem _ hrest)

/-- `MIN` and `MAX` give one of their arguments. -/
theorem mem_of_extreme {vs : List Value} {n : Float} (extreme : f = .min ∨ f = .max)
    (result : f.apply vs = .ok (.number n)) : .number n ∈ vs := by
  have hfold : ∀ {g : Float → Float → Float} {first : Float} {rest : List Value},
      (∀ a b, g a b = a ∨ g a b = b) →
      (do return .number (← foldNumbers g first rest) : Evaluated Value) = .ok (.number n) →
      .number n ∈ Value.number first :: rest := by
    intro g first rest choice result
    cases hn : foldNumbers g first rest with
    | error e =>
        rw [hn] at result
        cases result
    | ok m =>
        rw [hn] at result
        cases result
        exact mem_of_foldNumbers choice hn
  rcases extreme with rfl | rfl
  · match vs, result with
    | .number first :: rest, result => exact hfold smaller_eq result
  · match vs, result with
    | .number first :: rest, result => exact hfold larger_eq result

/-- A function of one text has one argument, which is a text. -/
theorem exists_text {vs : List Value} {v : Value} (type : f.paramType 0 = .text)
    (one : f.required = 1) (result : f.apply vs = .ok v) :
    ∃ s, vs = [.text s] ∧ f.applyText s = .ok v := by
  cases f with
  | len | asc | val | upper | lower =>
      match vs, result with
      | [], result => cases result
      | [.number _], result => cases result
      | [.text s], result => exact ⟨s, rfl, result⟩
      | _ :: _ :: _, result => cases result
  | left | right | mid => cases one
  | abs | int | fix | sgn | sqr | sin | cos | tan | atn | exp | log | chr | str | min | max =>
      cases type

end Operations

/-! ## Values of arguments -/

section Arguments

variable {vars : Variables} {f : Builtin} {args : List Expr} {v : Value}

theorem forall₂_of_evalAll {vs : List Value} (values : Expr.evalAll vars args = .ok vs) :
    List.Forall₂ (fun e v => e.eval vars = .ok v) args vs := by
  induction args generalizing vs with
  | nil =>
      cases values
      exact .nil
  | cons e rest ih =>
      rw [Expr.evalAll] at values
      cases hfirst : e.eval vars with
      | error fault =>
          rw [hfirst] at values
          cases values
      | ok first =>
          cases hrest : Expr.evalAll vars rest with
          | error fault =>
              rw [hfirst, hrest] at values
              cases values
          | ok more =>
              rw [hfirst, hrest] at values
              cases values
              exact .cons hfirst (ih hrest)

/-- The value of a call is that of the function for the values of its arguments. -/
theorem exists_arguments (value : (Expr.call f args).eval vars = .ok v) :
    ∃ vs, List.Forall₂ (fun e v => e.eval vars = .ok v) args vs ∧ f.apply vs = .ok v := by
  rw [Expr.eval] at value
  cases hvalues : Expr.evalAll vars args with
  | error fault =>
      rw [hvalues] at value
      cases value
  | ok vs =>
      rw [hvalues] at value
      exact ⟨vs, forall₂_of_evalAll hvalues, value⟩

/-- The value of a call of a function of one text. -/
theorem exists_text_argument (type : f.paramType 0 = .text) (one : f.required = 1)
    (value : (Expr.call f args).eval vars = .ok v) :
    ∃ arg s, args = [arg] ∧ arg.eval vars = .ok (.text s) ∧ f.applyText s = .ok v := by
  obtain ⟨vs, hvalues, hresult⟩ := exists_arguments value
  obtain ⟨s, rfl, htext⟩ := exists_text type one hresult
  cases hvalues with
  | cons harg hnone =>
      cases hnone
      exact ⟨_, s, rfl, harg, htext⟩

/-- An argument has the value that `MIN` or `MAX` gives. -/
theorem exists_extreme_argument {n : Float} (extreme : f = .min ∨ f = .max)
    (value : (Expr.call f args).eval vars = .ok (.number n)) :
    ∃ arg ∈ args, arg.eval vars = .ok (.number n) := by
  obtain ⟨vs, hvalues, hresult⟩ := exists_arguments value
  have hmem := mem_of_extreme extreme hresult
  clear hresult value
  induction hvalues with
  | nil => cases hmem
  | cons harg _ ih =>
      rcases List.mem_cons.1 hmem with rfl | hrest
      · exact ⟨_, List.mem_cons_self, harg⟩
      · obtain ⟨arg, hmem, hvalue⟩ := ih hrest
        exact ⟨arg, List.mem_cons_of_mem _ hmem, hvalue⟩

/-- The value of a call of `STR$`. -/
theorem exists_number_argument (value : (Expr.call .str args).eval vars = .ok v) :
    ∃ arg n, args = [arg] ∧ arg.eval vars = .ok (.number n) ∧ v = .text (spacedNumber n) := by
  obtain ⟨vs, hvalues, hresult⟩ := exists_arguments value
  match vs, hvalues, hresult with
  | [], _, hresult => cases hresult
  | [.text _], _, hresult => cases hresult
  | [.number n], .cons harg .nil, hresult =>
      cases hresult
      exact ⟨_, n, rfl, harg, rfl⟩
  | _ :: _ :: _, _, hresult => cases hresult

/-- `MIN` and `MAX` give a number. -/
theorem not_text_of_extreme {s : String} (extreme : f = .min ∨ f = .max) :
    (Expr.call f args).eval vars ≠ .ok (.text s) := by
  intro value
  obtain ⟨vs, -, hresult⟩ := exists_arguments value
  have hfold : ∀ (g : Float → Float → Float) (first : Value) (rest : List Value),
      (do return .number (← foldNumbers g (← first.asNumber) rest) : Evaluated Value) ≠
        .ok (.text s) := by
    intro g first rest hfold
    have hnumber : Yields (fun v => v.type = .number)
        (do return .number (← foldNumbers g (← first.asNumber) rest) : Evaluated Value) :=
      yields_bind (yields_any _) fun n _ => yields_bind (yields_any _) fun m _ => yields_pure rfl
    cases hnumber _ hfold
  match vs, hresult with
  | [], hresult => rcases extreme with rfl | rfl <;> cases hresult
  | first :: rest, hresult =>
      rcases extreme with rfl | rfl
      · exact hfold smaller first rest hresult
      · exact hfold larger first rest hresult

end Arguments

/-- The expressions whose value is checked against the limits. -/
def Expr.isChecked : Expr → Bool
  | number _ | unary _ _ | binary _ _ _ => true
  | call f _ => f.isLimited
  | text _ | var _ => false

/-- A value that is checked is within the limits, whatever the store holds. -/
theorem yields_eval {vars : Variables} {e : Expr} (checked : e.isChecked = true) :
    Yields WithinLimits (e.eval vars) := by
  cases e with
  | number n => exact yields_finiteValue n
  | text s => cases checked
  | var v => cases checked
  | unary op arg =>
      rw [Expr.eval]
      exact yields_bind (yields_any _) fun a _ => yields_unary op a
  | binary op lhs rhs =>
      rw [Expr.eval]
      refine yields_bind (yields_any _) fun a _ => ?_
      exact yields_bind (yields_any _) fun b _ => yields_binary op a b
  | call f args =>
      rw [Expr.eval]
      exact yields_bind (yields_any _) fun vs _ => yields_apply checked vs

/-- A property that all values of a store have, and those of variables without a value, holds of what
is read from it. -/
theorem holds_valueOf {vars : Variables} {P : Value → Prop} (all : vars.All fun _ v => P v)
    (unset : ∀ type, P (.ofType type)) (key : String) (type : ValueType) :
    P (vars.valueOf key type) := by
  unfold Variables.valueOf
  cases hfound : vars.find? key with
  | none => exact unset type
  | some v => exact all key v hfound

/-- Induction over expressions, with the property for each argument of a call. -/
@[elab_as_elim]
theorem Expr.induction {motive : Expr → Prop} (number : ∀ n, motive (.number n))
    (text : ∀ s, motive (.text s)) (var : ∀ v, motive (.var v))
    (unary : ∀ op arg, motive arg → motive (.unary op arg))
    (binary : ∀ op lhs rhs, motive lhs → motive rhs → motive (.binary op lhs rhs))
    (call : ∀ f args, (∀ arg ∈ args, motive arg) → motive (.call f args)) (e : Expr) :
    motive e := by
  refine Expr.eval.induct motive (fun args => ∀ arg ∈ args, motive arg) number text var unary
    binary call ?_ ?_ e
  · intro arg hmem
    cases hmem
  · intro first rest hfirst hrest
    exact List.forall_mem_cons.2 ⟨hfirst, hrest⟩

/-! ## Numbers -/

/-- All numbers of a store are finite. -/
def Variables.Finite (vars : Variables) : Prop :=
  vars.All fun _ v => ∀ n, v = .number n → n.isFinite = true

/-- What an operator computes, if it computes a double. -/
def BinaryOp.arithmetic? : BinaryOp → Option (Float → Float → Float)
  | add => some (· + ·)
  | sub => some (· - ·)
  | mul => some (· * ·)
  | div => some (· / ·)
  | pow => some Float.pow
  | _ => none

/-- What a function computes, if it computes a double. -/
def Builtin.arithmetic? : Builtin → Option (Float → Float)
  | abs => some Float.abs
  | int => some Number.floor
  | fix => some Number.trunc
  | sqr => some Float.sqrt
  | sin => some Float.sin
  | cos => some Float.cos
  | tan => some Float.tan
  | atn => some Float.atan
  | exp => some Float.exp
  | log => some Float.log
  | _ => none

/-- The numbers that a function is for. -/
def Builtin.isDefinedFor (f : Builtin) (n : Float) : Prop :=
  match f with
  | sqr => ¬n < 0.0
  | log => ¬n ≤ 0.0
  | _ => True

/-- The double that a numeral or an operation computes, whatever its size. -/
inductive Expr.Computes (vars : Variables) : Expr → Float → Prop
  | numeral (n : Float) : Computes vars (.number n) n
  | negation {arg : Expr} {n : Float} (operand : arg.eval vars = .ok (.number n)) :
      Computes vars (.unary .neg arg) (-n)
  | operation {op : BinaryOp} {g : Float → Float → Float} {lhs rhs : Expr} {a b : Float}
      (computes : op.arithmetic? = some g) (left : lhs.eval vars = .ok (.number a))
      (right : rhs.eval vars = .ok (.number b)) (divisor : op = .div → (b == 0.0) = false) :
      Computes vars (.binary op lhs rhs) (g a b)
  | function {f : Builtin} {g : Float → Float} {arg : Expr} {n : Float}
      (computes : f.arithmetic? = some g) (argument : arg.eval vars = .ok (.number n))
      (defined : f.isDefinedFor n) : Computes vars (.call f [arg]) (g n)

/-- A number beyond the range is the value of an expression. -/
inductive Expr.Escapes (vars : Variables) (n : Float) : Expr → Prop
  /-- `VAL` reads it off a text. -/
  | read {arg : Expr} {s : String} (argument : arg.eval vars = .ok (.text s))
      (leading : Number.leading (Text.trimStart s.toList) = n) (beyond : n.isFinite = false) :
      Escapes vars n (.call .val [arg])
  /-- `LEN` counts the characters of a text that no memory has room for. -/
  | counted {arg : Expr} {s : String} (argument : arg.eval vars = .ok (.text s))
      (length : Float.ofNat s.length = n) (digits : 1022 < s.length.log2)
      (beyond : n.isFinite = false) : Escapes vars n (.call .len [arg])
  /-- `MIN` and `MAX` choose it among their arguments. -/
  | chosen {f : Builtin} {args : List Expr} {arg : Expr} (extreme : f = .min ∨ f = .max)
      (argument : arg ∈ args) (escapes : Escapes vars n arg)
      (value : (Expr.call f args).eval vars = .ok (.number n)) : Escapes vars n (.call f args)

section Numbers

variable {vars : Variables} {e : Expr} {n : Float}

theorem Expr.Escapes.beyond (escapes : e.Escapes vars n) : n.isFinite = false := by
  induction escapes with
  | read _ _ beyond => exact beyond
  | counted _ _ _ beyond => exact beyond
  | chosen _ _ _ _ ih => exact ih

theorem finite_valueOf (finite : vars.Finite) {v : Variable}
    (value : vars.valueOf v.key v.type = .number n) : n.isFinite = true := by
  refine holds_valueOf finite (fun type m hm => ?_) v.key v.type n value
  cases type with
  | number =>
      cases hm
      with_unfolding_all rfl
  | text => cases hm

theorem applyNumbers_of_arithmetic {op : BinaryOp} {g : Float → Float → Float} {a b : Float}
    (computes : op.arithmetic? = some g) (divisor : op = .div → (b == 0.0) = false) :
    op.apply (.number a) (.number b) = finiteValue (g a b) := by
  cases op with
  | add | sub | mul | pow =>
      cases computes
      rfl
  | div =>
      cases computes
      show (if b == 0.0 then _ else _) = _
      rw [divisor rfl]
      rfl
  | intDiv | mod | eq | ne | lt | gt | le | ge | and | or | xor => cases computes

theorem apply_of_arithmetic {f : Builtin} {g : Float → Float} (computes : f.arithmetic? = some g)
    (defined : f.isDefinedFor n) : f.apply [.number n] = finiteValue (g n) := by
  cases f with
  | abs | int | fix | sin | cos | tan | atn | exp =>
      cases computes
      rfl
  | sqr | log =>
      cases computes
      exact if_neg defined
  | sgn | len | asc | val | chr | str | left | right | mid | upper | lower | min | max =>
      cases computes

/-- A numeral or an operation has the double that it computes as its value, if that is finite. -/
theorem eval_of_computes {x : Float} (computes : e.Computes vars x) :
    e.eval vars = finiteValue x := by
  cases computes with
  | numeral => rw [Expr.eval]
  | negation operand =>
      rw [Expr.eval, operand]
      rfl
  | operation computes left right divisor =>
      rw [Expr.eval, left, right]
      exact applyNumbers_of_arithmetic computes divisor
  | function computes argument defined =>
      rw [Expr.eval, Expr.evalAll, argument]
      exact apply_of_arithmetic computes defined

/-- A number beyond the range is the value of an expression only in these ways. -/
theorem escapes_of_beyond (finite : vars.Finite) (value : e.eval vars = .ok (.number n))
    (beyond : n.isFinite = false) : e.Escapes vars n := by
  have hunchecked : ∀ {e : Expr}, e.eval vars = .ok (.number n) → e.isChecked = false := by
    intro e value
    refine Bool.eq_false_iff.2 fun checked => ?_
    cases yields_eval checked _ value with
    | number hfinite => cases hfinite.symm.trans beyond
  induction e using Expr.induction with
  | number | unary | binary => cases hunchecked value
  | text s =>
      rw [Expr.eval] at value
      cases value
  | var v =>
      rw [Expr.eval] at value
      cases (finite_valueOf finite (Except.ok.inj value)).symm.trans beyond
  | call f args ih =>
      have hunlimited : f.isLimited = false := hunchecked value
      cases f with
      | val =>
          obtain ⟨arg, s, rfl, hargument, hread⟩ := exists_text_argument rfl rfl value
          cases hread
          exact .read hargument rfl beyond
      | len =>
          obtain ⟨arg, s, rfl, hargument, hcount⟩ := exists_text_argument rfl rfl value
          cases hcount
          refine .counted hargument rfl (Nat.not_le.1 fun hdigits => ?_) beyond
          cases (Number.isFinite_ofNat hdigits).symm.trans beyond
      | min =>
          obtain ⟨arg, hmem, hargument⟩ := exists_extreme_argument (.inl rfl) value
          exact .chosen (.inl rfl) hmem (ih arg hmem hargument) value
      | max =>
          obtain ⟨arg, hmem, hargument⟩ := exists_extreme_argument (.inr rfl) value
          exact .chosen (.inr rfl) hmem (ih arg hmem hargument) value
      | str =>
          obtain ⟨arg, m, -, -, htext⟩ := exists_number_argument value
          cases htext
      | upper | lower =>
          obtain ⟨arg, s, -, -, htext⟩ := exists_text_argument rfl rfl value
          cases htext
      | abs | int | fix | sgn | sqr | sin | cos | tan | atn | exp | log | asc | chr | left
      | right | mid => cases hunlimited

/--
If all numbers of a store are finite, an expression has a finite number as its value, except where
`VAL` or `LEN` makes another one, with only `MIN` and `MAX` behind.  A numeral or an operation that
computes a double beyond the range is an overflow.
-/
theorem finite_unless_escapes (finite : vars.Finite) (e : Expr) :
    (∀ n, e.eval vars = .ok (.number n) → (n.isFinite = false ↔ e.Escapes vars n)) ∧
    (∀ x, e.Computes vars x → x.isFinite = false → e.eval vars = fault .overflow) := by
  refine ⟨fun n value => ?_, fun x computes beyond => ?_⟩
  · exact ⟨escapes_of_beyond finite value, fun escapes => escapes.beyond⟩
  · rw [eval_of_computes computes]
    exact if_neg (by rw [beyond]; exact Bool.false_ne_true)

/-- A store with a large number. -/
def Variables.large : Variables := Table.insert ∅ "aR" (.number (Float.ofScientific 1 false 200))

/-- `VAL` reads a number beyond the range and `MAX` hands it on, but a product that is beyond the range
is a fault. -/
theorem finite_unless_escapes_large :
    Variables.large.Finite ∧
    (Expr.call .max [.var ⟨"aR", .number⟩, .call .val [.text "1E999"]]).Escapes Variables.large
      (Float.ofScientific 1 false 999) ∧
    (Expr.binary .mul (.var ⟨"aR", .number⟩) (.var ⟨"aR", .number⟩)).eval Variables.large =
      fault .overflow := by
  have finite : Variables.large.Finite := by
    refine Variables.all_insert Variables.all_empty fun n hn => ?_
    rw [← Value.number.inj hn]
    decide +kernel
  have hvar : (Expr.var ⟨"aR", .number⟩).eval Variables.large =
      .ok (.number (Float.ofScientific 1 false 200)) := by
    decide +kernel
  refine ⟨finite, ?_, ?_⟩
  · exact ((finite_unless_escapes finite _).1 _ (by decide +kernel)).1 (by decide +kernel)
  · exact (finite_unless_escapes finite _).2
      (Float.ofScientific 1 false 200 * Float.ofScientific 1 false 200)
      (.operation rfl hvar hvar nofun) (by decide +kernel)

end Numbers

/-! ## Texts -/

/-- All texts of a store are at most 255 characters long. -/
def Variables.Short (vars : Variables) : Prop :=
  vars.All fun _ v => ∀ s, v = .text s → s.length ≤ maxTextLength

/-- The functions that change the case of a text. -/
def Builtin.casing? : Builtin → Option (List Char → List Char)
  | upper => some Text.upper
  | lower => some Text.lower
  | _ => none

/-- The text that a sum of texts is, whatever its length. -/
inductive Expr.Joins (vars : Variables) : Expr → String → Prop
  | sum {lhs rhs : Expr} {a b : String} (left : lhs.eval vars = .ok (.text a))
      (right : rhs.eval vars = .ok (.text b)) : Joins vars (.binary .add lhs rhs) (a ++ b)

/-- A text of more than 255 characters is the value of an expression. -/
inductive Expr.Outgrows (vars : Variables) : Expr → String → Prop
  /-- `STR$` writes a number with that many places. -/
  | written {arg : Expr} {n : Float} (argument : arg.eval vars = .ok (.number n))
      (long : maxTextLength < (spacedNumber n).length) :
      Outgrows vars (.call .str [arg]) (spacedNumber n)
  /-- `UPPER$` or `LOWER$` makes several characters of one. -/
  | widened {f : Builtin} {g : List Char → List Char} {arg : Expr} {s : String}
      (casing : f.casing? = some g) (argument : arg.eval vars = .ok (.text s))
      (wide : ∃ c ∈ s.toList, 1 < (g [c]).length)
      (long : maxTextLength < (g s.toList).length) :
      Outgrows vars (.call f [arg]) (String.ofList (g s.toList))
  /-- `UPPER$` or `LOWER$` changes the case of a text that is too long already. -/
  | recased {f : Builtin} {g : List Char → List Char} {arg : Expr} {s : String}
      (casing : f.casing? = some g) (argument : arg.eval vars = .ok (.text s))
      (outgrows : Outgrows vars arg s) (long : maxTextLength < (g s.toList).length) :
      Outgrows vars (.call f [arg]) (String.ofList (g s.toList))

section Texts

variable {vars : Variables} {e : Expr} {s : String}

theorem length_upper {cs : List Char} (narrow : ∀ c ∈ cs, (Text.upper [c]).length ≤ 1) :
    (Text.upper cs).length ≤ cs.length := by
  induction cs with
  | nil => exact Nat.le_refl _
  | cons c cs ih =>
      obtain ⟨hc, hcs⟩ := List.forall_mem_cons.1 narrow
      have hrest := ih hcs
      simp only [Text.upper, List.flatMap_cons, List.flatMap_nil, List.append_nil,
        List.length_append, List.length_cons] at *
      omega

theorem length_lowerAfter {cs : List Char} (narrow : ∀ c ∈ cs, (Text.lower [c]).length ≤ 1)
    (before : List Char) : (Text.lowerAfter before cs).length ≤ cs.length := by
  induction cs generalizing before with
  | nil => exact Nat.le_refl _
  | cons c cs ih =>
      obtain ⟨hc, hcs⟩ := List.forall_mem_cons.1 narrow
      have hrest := ih hcs (c :: before)
      simp only [Text.lower, Text.lowerAfter, List.append_nil, List.length_append,
        List.length_cons] at *
      split at hc
      · next hsigma =>
          rw [if_pos hsigma, List.length_singleton]
          omega
      · next hother =>
          rw [if_neg hother]
          omega

/-- A text does not grow if each of its characters becomes one. -/
theorem length_casing {f : Builtin} {g : List Char → List Char} (casing : f.casing? = some g)
    {cs : List Char} (narrow : ∀ c ∈ cs, (g [c]).length ≤ 1) : (g cs).length ≤ cs.length := by
  unfold Builtin.casing? at casing
  split at casing
  · cases casing
    exact length_upper narrow
  · cases casing
    exact length_lowerAfter narrow []
  · cases casing

theorem Expr.Outgrows.long (outgrows : e.Outgrows vars s) : maxTextLength < s.length := by
  cases outgrows with
  | written _ long => exact long
  | widened _ _ _ long => rwa [String.length_ofList]
  | recased _ _ _ long => rwa [String.length_ofList]

theorem short_valueOf (short : vars.Short) {v : Variable}
    (value : vars.valueOf v.key v.type = .text s) : s.length ≤ maxTextLength := by
  refine holds_valueOf short (fun type t ht => ?_) v.key v.type s value
  cases type with
  | number => cases ht
  | text =>
      cases ht
      exact Nat.zero_le _

theorem applyText_of_casing {f : Builtin} {g : List Char → List Char} (casing : f.casing? = some g)
    (t : String) : f.applyText t = .ok (.text (String.ofList (g t.toList))) := by
  unfold Builtin.casing? at casing
  split at casing
  · cases casing
    rfl
  · cases casing
    rfl
  · cases casing

/-- A call that changes the case of a text gives a long one only if it widens a character or the
text is long already. -/
theorem outgrows_of_casing {f : Builtin} {g : List Char → List Char} {args : List Expr}
    (casing : f.casing? = some g) (type : f.paramType 0 = .text) (one : f.required = 1)
    (value : (Expr.call f args).eval vars = .ok (.text s)) (long : maxTextLength < s.length)
    (ih : ∀ arg ∈ args, ∀ t, arg.eval vars = .ok (.text t) → maxTextLength < t.length →
      arg.Outgrows vars t) : (Expr.call f args).Outgrows vars s := by
  obtain ⟨arg, t, rfl, hargument, htext⟩ := exists_text_argument type one value
  rw [applyText_of_casing casing] at htext
  cases htext
  rw [String.length_ofList] at long
  by_cases hwide : ∃ c ∈ t.toList, 1 < (g [c]).length
  · exact .widened casing hargument hwide long
  · have hnarrow : ∀ c ∈ t.toList, (g [c]).length ≤ 1 := by
      intro c hc
      exact Nat.not_lt.1 fun hwidens => hwide ⟨c, hc, hwidens⟩
    have hlength := length_casing casing hnarrow
    have hargumentLong : maxTextLength < t.length := Nat.lt_of_lt_of_le long hlength
    exact .recased casing hargument (ih arg List.mem_cons_self t hargument hargumentLong) long

/-- A sum of texts that would be too long is a fault. -/
theorem eval_of_joins (joins : e.Joins vars s) (long : maxTextLength < s.length) :
    e.eval vars = fault .stringTooLong := by
  cases joins with
  | sum left right =>
      rw [String.length_append] at long
      rw [Expr.eval, left, right]
      exact if_pos long

/-- A text that is too long is the value of an expression only in these ways. -/
theorem outgrows_of_long (short : vars.Short)
    (literals : ∀ t, (Expr.text t).PartOf e → t.length ≤ maxTextLength)
    (value : e.eval vars = .ok (.text s)) (long : maxTextLength < s.length) :
    e.Outgrows vars s := by
  have hunchecked : ∀ {e : Expr} {t : String}, e.eval vars = .ok (.text t) →
      maxTextLength < t.length → e.isChecked = false := by
    intro e t value long
    refine Bool.eq_false_iff.2 fun checked => ?_
    cases yields_eval checked _ value with
    | text hshort => omega
  induction e using Expr.induction generalizing s with
  | number | unary | binary => cases hunchecked value long
  | text t =>
      rw [Expr.eval] at value
      cases value
      exact absurd long (Nat.not_lt.2 (literals t .self))
  | var v =>
      rw [Expr.eval] at value
      exact absurd long (Nat.not_lt.2 (short_valueOf short (Except.ok.inj value)))
  | call f args ih =>
      have hunlimited : f.isLimited = false := hunchecked value long
      have hargs : ∀ arg ∈ args, ∀ t, arg.eval vars = .ok (.text t) → maxTextLength < t.length →
          arg.Outgrows vars t :=
        fun arg hmem t => ih arg hmem fun u hpart => literals u (.argument hmem hpart)
      cases f with
      | val | len =>
          obtain ⟨arg, t, -, -, hnumber⟩ := exists_text_argument rfl rfl value
          cases hnumber
      | min => exact absurd value (not_text_of_extreme (.inl rfl))
      | max => exact absurd value (not_text_of_extreme (.inr rfl))
      | str =>
          obtain ⟨arg, m, rfl, hargument, htext⟩ := exists_number_argument value
          cases htext
          exact .written hargument long
      | upper | lower => exact outgrows_of_casing rfl rfl rfl value long hargs
      | abs | int | fix | sgn | sqr | sin | cos | tan | atn | exp | log | asc | chr | left
      | right | mid => cases hunlimited

/--
If all texts of a store and all literals of an expression have at most 255 characters, then so does
the text that is its value, except where `STR$`, `UPPER$` or `LOWER$` makes a longer one, with only
changes of case behind.  A sum of texts that would have more is a fault.
-/
theorem short_unless_outgrows (short : vars.Short) (e : Expr)
    (literals : ∀ t, (Expr.text t).PartOf e → t.length ≤ maxTextLength) :
    (∀ s, e.eval vars = .ok (.text s) → (maxTextLength < s.length ↔ e.Outgrows vars s)) ∧
    (∀ s, e.Joins vars s → maxTextLength < s.length → e.eval vars = fault .stringTooLong) := by
  refine ⟨fun s value => ?_, fun s joins long => ?_⟩
  · exact ⟨outgrows_of_long short literals value, fun outgrows => outgrows.long⟩
  · exact eval_of_joins joins long

/-- A store with a text of 200 characters. -/
def Variables.longText : Variables := Table.insert ∅ "a$" (.text (Number.zeros 200))

@[simp] theorem length_zeros (n : Nat) : (Number.zeros n).length = n := by
  rw [Number.zeros, String.length_ofList, List.length_replicate]

/-- A number with 301 digits is written with all of them, behind a blank. -/
theorem length_spacedNumber : (spacedNumber (Float.ofScientific 1 false 300)).length = 302 := by
  have hexact : Number.exact (Float.ofScientific 1 false 300) =
      .finite false 6724873095247260 944 := by
    decide +kernel
  have hdigits : Number.shortest .up 6724873095247260 944 = ⟨1, 300⟩ := by decide +kernel
  have hwritten : Number.Notation.plain.write (Float.ofScientific 1 false 300) =
      "" ++ (String.ofList ['1'] ++ Number.zeros 300 ++ "") := by
    rw [Number.Notation.write, hexact]
    dsimp only
    rw [show Number.Notation.plain.tie = .up from rfl, hdigits]
    rfl
  rw [spacedNumber, if_pos (by decide +kernel), hwritten]
  simp only [String.length_append, String.length_ofList, length_zeros]
  rfl

/-- `STR$` writes a number in 302 characters, but a sum of 400 characters is a fault. -/
theorem short_unless_outgrows_longText :
    Variables.longText.Short ∧
    (Expr.call .str [.number (Float.ofScientific 1 false 300)]).Outgrows Variables.longText
      (spacedNumber (Float.ofScientific 1 false 300)) ∧
    (Expr.binary .add (.var ⟨"a$", .text⟩) (.var ⟨"a$", .text⟩)).eval Variables.longText =
      fault .stringTooLong := by
  have short : Variables.longText.Short := by
    refine Variables.all_insert Variables.all_empty fun s hs => ?_
    rw [← Value.text.inj hs, length_zeros]
    decide
  refine ⟨short, ?_, ?_⟩
  · have hliterals : ∀ t, (Expr.text t).PartOf
        (.call .str [.number (Float.ofScientific 1 false 300)]) → t.length ≤ maxTextLength := by
      intro t hpart
      cases hpart with
      | argument hmem hpart =>
          obtain rfl := List.mem_singleton.1 hmem
          cases hpart
    have hvalue : (Expr.call .str [.number (Float.ofScientific 1 false 300)]).eval
        Variables.longText = .ok (.text (spacedNumber (Float.ofScientific 1 false 300))) := by
      rw [Expr.eval, Expr.evalAll, Expr.eval, finiteValue, if_pos (by decide +kernel)]
      rfl
    have hlong : maxTextLength < (spacedNumber (Float.ofScientific 1 false 300)).length := by
      rw [length_spacedNumber]
      decide
    exact ((short_unless_outgrows short _ hliterals).1 _ hvalue).1 hlong
  · have hliterals : ∀ t, (Expr.text t).PartOf
        (.binary .add (.var ⟨"a$", .text⟩) (.var ⟨"a$", .text⟩)) → t.length ≤ maxTextLength := by
      intro t hpart
      cases hpart with
      | left hpart => cases hpart
      | right hpart => cases hpart
    have hvar : (Expr.var ⟨"a$", .text⟩).eval Variables.longText =
        .ok (.text (Number.zeros 200)) := by
      rw [Expr.eval, Variables.valueOf, Variables.longText, Table.find?_insert_self]
      rfl
    have hlong : maxTextLength < (Number.zeros 200 ++ Number.zeros 200).length := by
      rw [String.length_append, length_zeros]
      decide
    exact (short_unless_outgrows short _ hliterals).2 _ (.sum hvar hvar) hlong

end Texts

end LineBasic
