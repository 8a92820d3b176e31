/-!
# Tables in key order

Variables are kept by name, breakpoints and program lines by number, and each of these collections
is listed in the order of its keys. A table is the ascending list of its entries. The order is part
of the type, so two tables with the same entries are equal, and listing a table needs no sorting.

## Main definitions

* `Table`: entries with strictly ascending keys.
* `find?`, `insert`, `erase`, `toList`: the operations.

## Main results

* `find?_insert`, `find?_erase`: what a lookup finds after a change.
* `erase_insert_self`, `erase_eq_self_iff`: what taking an entry out leaves.
* `find?_eq_some_iff`: a lookup finds what is listed.
-/

namespace LineBasic

/-- Entries whose keys ascend strictly. -/
structure Table (κ : Type) (α : Type) [Ord κ] where
  toList : List (κ × α)
  ascending : toList.Pairwise fun a b => compare a.1 b.1 = .lt

namespace Table

variable {κ α : Type} [Ord κ]

/-! ## Lists of entries -/

/-- The value under a key in a list of entries. -/
def lookup (k : κ) : List (κ × α) → Option α
  | [] => none
  | (k', v) :: rest => if compare k k' = .eq then some v else lookup k rest

/-- Puts an entry in its place in an ascending list, replacing one with the same key. -/
def place (k : κ) (v : α) : List (κ × α) → List (κ × α)
  | [] => [(k, v)]
  | (k', v') :: rest =>
      match compare k k' with
      | .lt => (k, v) :: (k', v') :: rest
      | .eq => (k, v) :: rest
      | .gt => (k', v') :: place k v rest

/-- Takes the entries under a key out of a list. -/
def drop (k : κ) (entries : List (κ × α)) : List (κ × α) :=
  entries.filter fun e => compare k e.1 != .eq

theorem mem_place {k : κ} {v : α} {e : κ × α} :
    ∀ {entries : List (κ × α)}, e ∈ place k v entries → e = (k, v) ∨ e ∈ entries := by
  intro entries
  induction entries with
  | nil => intro h; exact Or.inl (by simpa [place] using h)
  | cons head rest ih =>
      intro h
      unfold place at h
      split at h
      · rcases List.mem_cons.1 h with h | h
        · exact Or.inl h
        · exact Or.inr h
      · rcases List.mem_cons.1 h with h | h
        · exact Or.inl h
        · exact Or.inr (List.mem_cons_of_mem _ h)
      · rcases List.mem_cons.1 h with h | h
        · exact Or.inr (h ▸ List.mem_cons_self)
        · rcases ih h with h | h
          · exact Or.inl h
          · exact Or.inr (List.mem_cons_of_mem _ h)

theorem place_ascending [Std.TransOrd κ] {k : κ} {v : α} {entries : List (κ × α)}
    (h : entries.Pairwise fun a b => compare a.1 b.1 = .lt) :
    (place k v entries).Pairwise fun a b => compare a.1 b.1 = .lt := by
  induction entries with
  | nil => simp [place]
  | cons head rest ih =>
      obtain ⟨hHead, hRest⟩ := List.pairwise_cons.1 h
      unfold place
      split
      · next hlt =>
          refine List.pairwise_cons.2 ⟨?_, h⟩
          intro e he
          rcases List.mem_cons.1 he with rfl | he
          · exact hlt
          · exact Std.TransCmp.lt_trans hlt (hHead e he)
      · next heq =>
          refine List.pairwise_cons.2 ⟨?_, hRest⟩
          intro e he
          exact Std.TransCmp.lt_of_eq_of_lt heq (hHead e he)
      · next hgt =>
          refine List.pairwise_cons.2 ⟨?_, ih hRest⟩
          intro e he
          rcases mem_place he with rfl | he
          · exact Std.OrientedCmp.gt_iff_lt.1 hgt
          · exact hHead e he

/-! ## Tables -/

/-- The table without entries. -/
def empty : Table κ α := ⟨[], List.Pairwise.nil⟩

instance : EmptyCollection (Table κ α) := ⟨empty⟩

instance : Inhabited (Table κ α) := ⟨empty⟩

/-- The value under a key. -/
def find? (t : Table κ α) (k : κ) : Option α := lookup k t.toList

/-- Whether a key has an entry. -/
def contains (t : Table κ α) (k : κ) : Bool := (t.find? k).isSome

/-- Puts a value under a key, replacing the one that was there. -/
def insert [Std.TransOrd κ] (t : Table κ α) (k : κ) (v : α) : Table κ α :=
  ⟨place k v t.toList, place_ascending t.ascending⟩

/-- Takes the entry under a key out. -/
def erase (t : Table κ α) (k : κ) : Table κ α :=
  ⟨drop k t.toList, t.ascending.sublist List.filter_sublist⟩

/-- The number of entries. -/
def size (t : Table κ α) : Nat := t.toList.length

/-- Whether there is no entry. -/
def isEmpty (t : Table κ α) : Bool := t.toList.isEmpty

/-- The values in the order of their keys. -/
def values (t : Table κ α) : List α := t.toList.map (·.2)

/-! ## Lookups after a change -/

@[simp] theorem toList_empty : (∅ : Table κ α).toList = [] := rfl

@[simp] theorem find?_empty (k : κ) : (∅ : Table κ α).find? k = none := rfl

@[simp] theorem lookup_place_self [Std.TransOrd κ] (k : κ) (v : α) (entries : List (κ × α)) :
    lookup k (place k v entries) = some v := by
  induction entries with
  | nil => simp [place, lookup]
  | cons head rest ih =>
      unfold place
      split
      · simp [lookup]
      · simp [lookup]
      · next hgt => simp [lookup, hgt, ih]

theorem lookup_place_of_ne [Std.TransOrd κ] {k k' : κ} (h : compare k' k ≠ .eq) (v : α)
    (entries : List (κ × α)) : lookup k' (place k v entries) = lookup k' entries := by
  induction entries with
  | nil => simp [place, lookup, h]
  | cons head rest ih =>
      unfold place
      split
      · simp [lookup, h]
      · next heq =>
          have hne : compare k' head.1 ≠ .eq := fun hk =>
            h (Std.TransCmp.eq_trans hk (Std.OrientedCmp.eq_symm heq))
          simp [lookup, h, hne]
      · simp [lookup, ih]

@[simp] theorem find?_insert_self [Std.TransOrd κ] (t : Table κ α) (k : κ) (v : α) :
    (t.insert k v).find? k = some v :=
  lookup_place_self k v t.toList

theorem find?_insert_of_ne [Std.TransOrd κ] (t : Table κ α) {k k' : κ} (h : compare k' k ≠ .eq)
    (v : α) : (t.insert k v).find? k' = t.find? k' :=
  lookup_place_of_ne h v t.toList

@[simp] theorem lookup_drop_self [Std.OrientedOrd κ] (k : κ) (entries : List (κ × α)) :
    lookup k (drop k entries) = none := by
  induction entries with
  | nil => rfl
  | cons head rest ih =>
      unfold drop at ih ⊢
      by_cases h : compare k head.1 = .eq
      · simpa [List.filter_cons, h] using ih
      · simpa [List.filter_cons, h, lookup] using ih

theorem lookup_drop_of_ne [Std.TransOrd κ] {k k' : κ} (h : compare k' k ≠ .eq)
    (entries : List (κ × α)) : lookup k' (drop k entries) = lookup k' entries := by
  induction entries with
  | nil => rfl
  | cons head rest ih =>
      unfold drop at ih ⊢
      by_cases hk : compare k head.1 = .eq
      · have hne : compare k' head.1 ≠ .eq := fun hk' =>
          h (Std.TransCmp.eq_trans hk' (Std.OrientedCmp.eq_symm hk))
        simpa [List.filter_cons, hk, lookup, hne] using ih
      · by_cases hk' : compare k' head.1 = .eq
        · simp [hk, lookup, hk']
        · simpa [List.filter_cons, hk, lookup, hk'] using ih

@[simp] theorem find?_erase_self [Std.TransOrd κ] (t : Table κ α) (k : κ) :
    (t.erase k).find? k = none :=
  lookup_drop_self k t.toList

theorem find?_erase_of_ne [Std.TransOrd κ] (t : Table κ α) {k k' : κ} (h : compare k' k ≠ .eq) :
    (t.erase k).find? k' = t.find? k' :=
  lookup_drop_of_ne h t.toList

section

-- Keys that compare as equal are equal, so a lookup is decided by the keys themselves.
variable [Std.TransOrd κ] [Std.LawfulEqOrd κ] [DecidableEq κ]

@[simp] theorem find?_insert (t : Table κ α) (k k' : κ) (v : α) :
    (t.insert k v).find? k' = if k' = k then some v else t.find? k' := by
  split
  · next heq => rw [heq, find?_insert_self]
  · next hne => exact find?_insert_of_ne t (fun h => hne (Std.LawfulEqCmp.eq_of_compare h)) v

@[simp] theorem find?_erase (t : Table κ α) (k k' : κ) :
    (t.erase k).find? k' = if k' = k then none else t.find? k' := by
  split
  · next heq => rw [heq, find?_erase_self]
  · next hne => exact find?_erase_of_ne t fun h => hne (Std.LawfulEqCmp.eq_of_compare h)

end

/-! ## Changes undone -/

@[simp] theorem drop_place_self [Std.TransOrd κ] (k : κ) (v : α) (entries : List (κ × α)) :
    drop k (place k v entries) = drop k entries := by
  induction entries with
  | nil => simp [place, drop]
  | cons head rest ih =>
      unfold place
      split
      · simp [drop]
      · next heq => simp [drop, heq]
      · next hgt =>
          unfold drop at ih ⊢
          rw [List.filter_cons_of_pos (by simp [hgt]), List.filter_cons_of_pos (by simp [hgt]), ih]

theorem drop_of_lookup_eq_none {k : κ} {entries : List (κ × α)} (h : lookup k entries = none) :
    drop k entries = entries := by
  induction entries with
  | nil => rfl
  | cons head rest ih =>
      rw [lookup] at h
      split at h
      · cases h
      · next hne =>
          unfold drop at ih ⊢
          rw [List.filter_cons_of_pos (by simp [hne]), ih h]

@[simp] theorem erase_insert_self [Std.TransOrd κ] (t : Table κ α) (k : κ) (v : α) :
    (t.insert k v).erase k = t.erase k := by
  unfold erase insert
  congr 1
  exact drop_place_self k v t.toList

/-- Taking an entry out changes a table only if it is there. -/
@[simp] theorem erase_eq_self_iff [Std.TransOrd κ] {t : Table κ α} {k : κ} :
    t.erase k = t ↔ t.find? k = none := by
  constructor
  · intro h
    rw [← h]
    exact find?_erase_self t k
  · intro h
    cases t with
    | mk entries ascending =>
        unfold erase
        congr 1
        exact drop_of_lookup_eq_none h

/-! ## Lookups and the list -/

theorem lookup_eq_some_iff [Std.TransOrd κ] [Std.LawfulEqOrd κ] {k : κ} {v : α}
    {entries : List (κ × α)} (h : entries.Pairwise fun a b => compare a.1 b.1 = .lt) :
    lookup k entries = some v ↔ (k, v) ∈ entries := by
  induction entries with
  | nil => simp [lookup]
  | cons head rest ih =>
      obtain ⟨hHead, hRest⟩ := List.pairwise_cons.1 h
      rw [List.mem_cons]
      unfold lookup
      split
      · next heq =>
          -- No later entry has the key of the first.
          have hkey : k = head.1 := Std.LawfulEqCmp.eq_of_compare heq
          have hlater : (k, v) ∉ rest := by
            intro he
            have hlt := hHead _ he
            rw [hkey] at hlt
            simp at hlt
          constructor
          · intro hv
            rw [hkey, ← Option.some.inj hv]
            exact Or.inl rfl
          · rintro (he | he)
            · exact congrArg some (congrArg Prod.snd he).symm
            · exact absurd he hlater
      · next hne =>
          rw [ih hRest]
          constructor
          · exact Or.inr
          · rintro (he | he)
            · rw [← he] at hne
              simp at hne
            · exact he

/-- A lookup finds what is listed. -/
theorem find?_eq_some_iff [Std.TransOrd κ] [Std.LawfulEqOrd κ] {t : Table κ α} {k : κ} {v : α} :
    t.find? k = some v ↔ (k, v) ∈ t.toList :=
  lookup_eq_some_iff t.ascending

end Table

end LineBasic
