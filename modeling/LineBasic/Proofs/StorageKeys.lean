import LineBasic.Proofs.IntegerVariables
import LineBasic.Proofs.TokenSpelling

/-!
# Every variable has a place of its own

Variables are stored by key, and nothing but the key tells them apart.  The key forgets the letter
case of a name, writes an underscore for a dot, and puts a suffix in the place of the type mark.  Two
different variables could meet under one key in each of these steps: a name with an underscore and one
with a dot, a name that ends in a letter of a suffix and one with that mark.

They do not, and the reason lies in the names.  A name that stands in a line consists of letters,
digits and dots, so that a key has an underscore only where its name has a dot.  In the key all letters
are small but the suffix, which is its last character and stands for one mark only.  The exclamation
mark alone is forgotten, as it says no more than that the variable holds a number.

## Main definitions

* `IsName`: a name stands in some source line.
* `withoutBang`: a name without the exclamation mark at its end.
* `SameVariable`: two names are the same but for letter case and that mark.

## Main results

* `isNameChar_of_isName`: before its mark, a name consists of letters, digits and dots.
* `storageKey_eq_iff_split`: what two names with the same key have in common.
* `storageKey_separates`: different variables have different keys, and keep out of each other's way.
-/

namespace LineBasic

open Lexeme (isNameChar isTypeMark)
open Number (isDigit)

/-! ## Characters of a name -/

section Characters

variable {c d : Char} {cs ds : List Char}

theorem toNat_toLower (c : Char) :
    c.toLower.toNat = if 65 ≤ c.toNat ∧ c.toNat ≤ 90 then c.toNat + 32 else c.toNat := by
  have hupper : (65 ≤ c.toNat ∧ c.toNat ≤ 90) ↔ (c.val ≥ 'A'.val ∧ c.val ≤ 'Z'.val) := Iff.rfl
  unfold Char.toLower
  split
  · next h =>
      have hle : c.toNat ≤ 90 := h.2
      rw [if_pos (hupper.2 h)]
      change (c.val + 32).toNat = _
      rw [UInt32.toNat_add]
      change (c.toNat + 32) % 2 ^ 32 = _
      omega
  · next h => rw [if_neg fun h' => h (hupper.1 h')]

/-- The small letters of the language are those of the character. -/
theorem asciiLowerChar_eq_toLower (c : Char) : Text.asciiLowerChar c = c.toLower := by
  have hupper : ('A' ≤ c ∧ c ≤ 'Z') ↔ (65 ≤ c.toNat ∧ c.toNat ≤ 90) := Iff.rfl
  apply Char.toNat_inj.1
  rw [toNat_toLower]
  unfold Text.asciiLowerChar
  split
  · next h =>
      have hrange := hupper.1 h
      rw [if_pos hrange, Char.toNat_ofNat, if_pos (Or.inl (by omega))]
  · next h => rw [if_neg fun h' => h (hupper.2 h')]

/-- In lower case, a character of a name is a digit, a small letter or the dot. -/
theorem toLower_range (h : isNameChar c = true) :
    (48 ≤ c.toLower.toNat ∧ c.toLower.toNat ≤ 57) ∨
      (97 ≤ c.toLower.toNat ∧ c.toLower.toNat ≤ 122) ∨ c = '.' := by
  rw [toNat_toLower]
  simp only [isNameChar, Bool.or_eq_true, decide_eq_true_eq] at h
  obtain (hletter | hdigit) | hdot := h
  · have hrange := Text.isLetter_range hletter
    split <;> omega
  · have hrange : 48 ≤ c.toNat ∧ c.toNat ≤ 57 := of_decide_eq_true hdigit
    split <;> omega
  · exact .inr (.inr hdot)

/-- A dot in the key of a name is an underscore, and no other character of a name becomes one. -/
theorem keyChar_eq_iff (hc : isNameChar c = true) (hd : isNameChar d = true) :
    keyChar c = keyChar d ↔ c.toLower = d.toLower := by
  have hapart : ∀ {e : Char}, isNameChar e = true → e ≠ '.' →
      '_' ≠ e.toLower ∧ '.'.toLower ≠ e.toLower := by
    intro e he hdot
    have hrange := toLower_range he
    constructor <;> intro heq
    · rw [← heq] at hrange
      exact absurd hrange (by simp [hdot])
    · rw [← heq] at hrange
      exact absurd hrange (by simp [hdot])
  unfold keyChar
  rw [asciiLowerChar_eq_toLower, asciiLowerChar_eq_toLower]
  by_cases hcdot : c = '.' <;> by_cases hddot : d = '.'
  · rw [hcdot, hddot]
    exact iff_of_true rfl rfl
  · rw [if_pos hcdot, if_neg hddot, hcdot]
    exact iff_of_false (hapart hd hddot).1 (hapart hd hddot).2
  · rw [if_neg hcdot, if_pos hddot, hddot]
    exact iff_of_false (hapart hc hcdot).1.symm (hapart hc hcdot).2.symm
  · rw [if_neg hcdot, if_neg hddot]

theorem map_keyChar_eq_iff (hcs : ∀ c ∈ cs, isNameChar c = true)
    (hds : ∀ d ∈ ds, isNameChar d = true) :
    cs.map keyChar = ds.map keyChar ↔ cs.map Char.toLower = ds.map Char.toLower := by
  induction cs generalizing ds with
  | nil =>
      rw [List.map_nil, List.map_nil, List.nil_eq, List.nil_eq, List.map_eq_nil_iff,
        List.map_eq_nil_iff]
  | cons c cs ih =>
      cases ds with
      | nil => exact iff_of_false nofun nofun
      | cons d ds =>
          obtain ⟨hc, hcs⟩ := List.forall_mem_cons.1 hcs
          obtain ⟨hd, hds⟩ := List.forall_mem_cons.1 hds
          rw [List.map_cons, List.map_cons, List.map_cons, List.map_cons, List.cons.injEq,
            List.cons.injEq, keyChar_eq_iff hc hd, ih hcs hds]

/-- A character of a name is no type mark, in either case. -/
theorem isTypeMark_toLower (h : isNameChar c = true) : isTypeMark c.toLower = false := by
  have hrange := toLower_range h
  rw [← Bool.not_eq_true]
  intro hmark
  simp only [isTypeMark, Bool.or_eq_true, decide_eq_true_eq] at hmark
  obtain (hmark | hmark) | hmark := hmark
  all_goals
    rw [hmark] at hrange
    obtain hdigit | hletter | rfl := hrange
    · exact absurd hdigit (by decide)
    · exact absurd hletter (by decide)
    · exact absurd hmark (by decide)

end Characters

/-! ## Type marks -/

section Marks

variable {cs : List Char}

/-- What a type mark makes of a name: what stands before it, and the suffix of the key. -/
inductive Marked : List Char → List Char × Char → Prop
  | integer (base : List Char) : Marked (base ++ ['%']) (base, 'I')
  | number (base : List Char) : Marked (base ++ ['!']) (base, 'R')
  | text (base : List Char) : Marked (base ++ ['$']) (base, '$')
  | unmarked {cs : List Char} (other : ∀ c ∈ cs.getLast?, isTypeMark c = false) :
      Marked cs (cs, 'R')

theorem marked (cs : List Char) : Marked cs (splitMark cs) := by
  have hsplit : ∀ {mark : Char}, cs.getLast? = some mark → cs.dropLast ++ [mark] = cs :=
    fun h => List.dropLast_append_getLast? _ h
  unfold splitMark
  split
  · next h =>
      conv => arg 1; rw [← hsplit h]
      exact .integer _
  · next h =>
      conv => arg 1; rw [← hsplit h]
      exact .number _
  · next h =>
      conv => arg 1; rw [← hsplit h]
      exact .text _
  · next hpercent hbang hdollar =>
      refine .unmarked fun c hc => ?_
      rw [← Bool.not_eq_true]
      intro hmark
      simp only [isTypeMark, Bool.or_eq_true, decide_eq_true_eq] at hmark
      obtain (rfl | rfl) | rfl := hmark
      · exact hpercent hc
      · exact hbang hc
      · exact hdollar hc

/-- The suffixes of keys. -/
inductive IsSuffix : Char → Prop
  | integer : IsSuffix 'I'
  | text : IsSuffix '$'
  | number : IsSuffix 'R'

/-- The mark that a suffix stands for, and none for that of numbers. -/
def markOf (suffix : Char) : List Char :=
  match suffix with
  | 'I' => ['%']
  | '$' => ['$']
  | _ => []

/-- A name without the exclamation mark at its end. -/
def withoutBang (name : String) : String :=
  if name.toList.getLast? = some '!' then String.ofList name.toList.dropLast else name

/-- Two names are the same but for letter case and an exclamation mark at the end. -/
def SameVariable (a b : String) : Prop := (withoutBang a).toLower = (withoutBang b).toLower

/-- Without an exclamation mark, a name ends in the mark that its suffix stands for. -/
theorem toList_withoutBang (name : String) :
    (withoutBang name).toList =
      (splitMark name.toList).1 ++ markOf (splitMark name.toList).2 := by
  have hmarked := marked name.toList
  unfold withoutBang
  generalize hcs : name.toList = cs at hmarked ⊢
  generalize splitMark cs = split at hmarked ⊢
  cases hmarked with
  | integer base => simp [hcs, markOf]
  | number base => simp [markOf]
  | text base => simp [hcs, markOf]
  | unmarked other =>
      have hbang : cs.getLast? ≠ some '!' := fun h => Bool.noConfusion (other '!' h)
      simp [hbang, hcs, markOf]

theorem isSuffix_splitMark (cs : List Char) : IsSuffix (splitMark cs).2 := by
  have hmarked := marked cs
  generalize splitMark cs = split at hmarked ⊢
  cases hmarked with
  | integer => exact .integer
  | number | unmarked => exact .number
  | text => exact .text

variable {s t : Char} {xs ys : List Char}

@[simp] theorem filter_markOf (hs : IsSuffix s) : (markOf s).filter isTypeMark = markOf s := by
  cases hs <;> rfl

theorem markOf_inj (hs : IsSuffix s) (ht : IsSuffix t) (h : markOf s = markOf t) : s = t := by
  cases hs <;> cases ht <;> first | rfl | cases h

/-- Behind characters that are no marks, a mark is found again. -/
theorem append_markOf_inj (hxs : ∀ c ∈ xs, isTypeMark c = false)
    (hys : ∀ c ∈ ys, isTypeMark c = false) (hs : IsSuffix s) (ht : IsSuffix t) :
    xs ++ markOf s = ys ++ markOf t ↔ xs = ys ∧ s = t := by
  have hfilter : ∀ {zs : List Char} {u : Char}, (∀ c ∈ zs, isTypeMark c = false) → IsSuffix u →
      (zs ++ markOf u).filter isTypeMark = markOf u := by
    intro zs u hzs hu
    have hnone : zs.filter isTypeMark = [] := by
      simpa [List.filter_eq_nil_iff] using hzs
    rw [List.filter_append, hnone, List.nil_append, filter_markOf hu]
  constructor
  · intro h
    have hmarks : markOf s = markOf t := by
      rw [← hfilter hxs hs, h, hfilter hys ht]
    rw [hmarks] at h
    exact ⟨List.append_cancel_right h, markOf_inj hs ht hmarks⟩
  · rintro ⟨rfl, rfl⟩
    rfl

end Marks

/-! ## Keys of names -/

section Keys

variable {a b : String}

/-- A name stands in some source line. -/
def IsName (name : String) : Prop :=
  ∃ source ts pos, tokenize source = .ok ts ∧ ⟨.name name, pos⟩ ∈ ts

theorem isNameChar_of_isWord {letters : List Char} (h : IsWord letters) :
    ∀ c ∈ letters, isNameChar c = true := by
  cases letters with
  | nil => cases h
  | cons c rest => exact List.forall_mem_cons.2 ⟨Lexeme.isNameChar_of_isLetter h.1, h.2⟩

/-- A word splits into all of it, and a word with a mark into the word. -/
theorem splitMark_word {letters : List Char} (hword : IsWord letters) :
    (splitMark letters).1 = letters ∧
      ∀ mark, isTypeMark mark = true → (splitMark (letters ++ [mark])).1 = letters := by
  constructor
  · have hmarked := marked letters
    generalize splitMark letters = split at hmarked ⊢
    cases hmarked with
    | unmarked => rfl
    | integer | number | text =>
        exact absurd (isNameChar_of_isWord hword _ List.mem_concat_self) (by decide)
  · intro mark hmark
    simp only [isTypeMark, Bool.or_eq_true, decide_eq_true_eq] at hmark
    obtain (rfl | rfl) | rfl := hmark <;> simp [splitMark]

/-- Before its type mark, a name consists of letters, digits and dots. -/
theorem isNameChar_of_isName {name : String} (h : IsName name) :
    ∀ c ∈ (splitMark name.toList).1, isNameChar c = true := by
  obtain ⟨source, ts, pos, tokens, hmem⟩ := h
  obtain ⟨before, w, tail, more, -, -, hletter, hread⟩ := name_stands tokens hmem
  have hspells := Lexeme.word_spells hletter hread
  generalize w :: tail.take more = own at hspells
  generalize hkind : TokenKind.name name = kind at hspells
  cases hspells with
  | name hword other =>
      cases hkind
      rw [String.toList_ofList, (splitMark_word hword).1]
      exact isNameChar_of_isWord hword
  | marked hword hmark =>
      cases hkind
      rw [String.toList_ofList, (splitMark_word hword).2 _ hmark]
      exact isNameChar_of_isWord hword
  | _ => cases hkind

/-- Two names have the same key if they are the same before their marks, but for letter case, and have
marks with the same suffix. -/
theorem storageKey_eq_iff_split (ha : IsName a) (hb : IsName b) :
    storageKey a = storageKey b ↔
      (splitMark a.toList).1.map Char.toLower = (splitMark b.toList).1.map Char.toLower ∧
        (splitMark a.toList).2 = (splitMark b.toList).2 := by
  rw [← map_keyChar_eq_iff (isNameChar_of_isName ha) (isNameChar_of_isName hb)]
  unfold storageKey
  rw [String.ofList_inj]
  constructor
  · intro h
    obtain ⟨hbase, hsuffix⟩ := List.append_inj' h rfl
    exact ⟨hbase, List.singleton_inj.1 hsuffix⟩
  · rintro ⟨hbase, hsuffix⟩
    rw [hbase, hsuffix]

theorem sameVariable_iff_split (ha : IsName a) (hb : IsName b) :
    SameVariable a b ↔
      (splitMark a.toList).1.map Char.toLower = (splitMark b.toList).1.map Char.toLower ∧
        (splitMark a.toList).2 = (splitMark b.toList).2 := by
  have hlower : ∀ name, (withoutBang name).toLower.toList =
      (splitMark name.toList).1.map Char.toLower ++ markOf (splitMark name.toList).2 := by
    intro name
    unfold String.toLower
    rw [String.toList_map, toList_withoutBang, List.map_append]
    congr 1
    have hsuffix := isSuffix_splitMark name.toList
    generalize (splitMark name.toList).2 = suffix at hsuffix ⊢
    cases hsuffix <;> rfl
  have hmarks : ∀ {name}, IsName name →
      ∀ c ∈ (splitMark name.toList).1.map Char.toLower, isTypeMark c = false := by
    intro name hname c hc
    obtain ⟨d, hd, rfl⟩ := List.mem_map.1 hc
    exact isTypeMark_toLower (isNameChar_of_isName hname d hd)
  unfold SameVariable
  rw [← String.toList_inj, hlower, hlower]
  exact append_markOf_inj (hmarks ha) (hmarks hb) (isSuffix_splitMark _) (isSuffix_splitMark _)

/-- An assignment under one key leaves what is stored under another one. -/
theorem Variables.yields_assign_elsewhere {key other : String} (h : key ≠ other)
    (vars : Variables) (v : Value) :
    Yields (fun after => after.find? other = vars.find? other) (vars.assign key v) := by
  rw [assign_eq_bind]
  refine yields_bind (yields_any _) fun w _ => ?_
  exact yields_pure (by simp [h.symm])

theorem typeOfName_eq_text_iff (name : String) :
    typeOfName name = .text ↔ ∃ base, (storageKey name).toList = base ++ ['$'] := by
  rw [← typeOfName_storageKey, ← List.getLast?_eq_some_iff]
  unfold typeOfName
  split
  · next h => exact iff_of_true rfl h
  · next h => exact iff_of_false nofun h

/--
Two names that can stand in a line have the same key exactly if they are the same, but for letter case
and an exclamation mark at the end.  An assignment to one variable therefore changes no other one.  The
key of a name tells texts from numbers as the name does.
-/
theorem storageKey_separates (ha : IsName a) (hb : IsName b) :
    (storageKey a = storageKey b ↔ SameVariable a b) ∧
    (¬ SameVariable a b → ∀ (vars : Variables) v,
      Yields (fun after => after.find? (storageKey b) = vars.find? (storageKey b))
        (vars.assign (storageKey a) v)) ∧
    ∀ name, typeOfName name = .text ↔ ∃ base, (storageKey name).toList = base ++ ['$'] := by
  have hkeys : storageKey a = storageKey b ↔ SameVariable a b := by
    rw [storageKey_eq_iff_split ha hb, sameVariable_iff_split ha hb]
  refine ⟨hkeys, fun hother vars v => ?_, typeOfName_eq_text_iff⟩
  exact Variables.yields_assign_elsewhere (fun h => hother (hkeys.1 h)) vars v

/-- Two spellings of one variable, and the integer variable beside it. -/
theorem storageKey_separates_dotted :
    IsName "A.b!" ∧ IsName "a.B" ∧ IsName "a.B%" ∧
      storageKey "A.b!" = storageKey "a.B" ∧ SameVariable "A.b!" "a.B" ∧
      storageKey "a.B" ≠ storageKey "a.B%" ∧ ¬ SameVariable "a.B" "a.B%" := by
  have tokens : tokenize "A.b!=a.B+a.B%" =
      .ok [⟨.name "A.b!", 0⟩, ⟨.sign .eq, 4⟩, ⟨.name "a.B", 5⟩, ⟨.sign .plus, 8⟩,
        ⟨.name "a.B%", 9⟩] := by
    with_unfolding_all rfl
  have hbang : IsName "A.b!" := ⟨_, _, 0, tokens, by simp⟩
  have hplain : IsName "a.B" := ⟨_, _, 5, tokens, by simp⟩
  have hpercent : IsName "a.B%" := ⟨_, _, 9, tokens, by simp⟩
  have hsame : storageKey "A.b!" = storageKey "a.B" := by decide
  have hother : storageKey "a.B" ≠ storageKey "a.B%" := by decide
  exact ⟨hbang, hplain, hpercent, hsame, (storageKey_separates hbang hplain).1.1 hsame, hother,
    fun h => hother ((storageKey_separates hplain hpercent).1.2 h)⟩

end Keys

end LineBasic
