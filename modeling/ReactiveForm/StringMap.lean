/-!
# `ReactiveForm.StringMap` — finite maps in key order

Attributes of an element, values given for inputs and switch groups are all finite maps from strings,
and all are listed by key. A `StringMap` is its list of entries, strictly ascending in the key, so that
two maps with the same look-ups are equal and a listing is never a question of how a map was built.

## Contents
- `StringMap`, with `get?`, `contains`, `insert`, `keys`, `ofList`.
- `get?_insert` and `keys_sorted`, how the operations act.
- `mem_keys`, a key is listed when it is found, and `ofList_entries`, a map is that of its entries.
-/

namespace ReactiveForm

/-- A finite map from strings, as its entries in ascending order of the keys. -/
structure StringMap (α : Type) where
  entries : List (String × α)
  ascending : entries.Pairwise fun a b => a.1 < b.1
  deriving DecidableEq, Repr

namespace StringMap

variable {α : Type}

/-! ## Entries -/

/-- The entries with one more, which replaces an entry of the same key. -/
def insertEntry (key : String) (value : α) : List (String × α) → List (String × α)
  | [] => [(key, value)]
  | (k, v) :: rest =>
    if key < k then (key, value) :: (k, v) :: rest
    else if key = k then (key, value) :: rest
    else (k, v) :: insertEntry key value rest

theorem mem_insertEntry {key : String} {value : α} {e : String × α} {l : List (String × α)}
    (h : e ∈ insertEntry key value l) : e = (key, value) ∨ e ∈ l := by
  induction l with
  | nil => simpa [insertEntry] using h
  | cons hd tl ih =>
    rw [insertEntry] at h
    split at h
    · simpa using h
    · split at h
      · rcases List.mem_cons.mp h with he | he
        · exact .inl he
        · exact .inr (List.mem_cons_of_mem _ he)
      · rcases List.mem_cons.mp h with he | he
        · exact .inr (he ▸ List.mem_cons_self)
        · exact (ih he).imp id (List.mem_cons_of_mem _)

theorem ascending_insertEntry (key : String) (value : α) {l : List (String × α)}
    (h : l.Pairwise fun a b => a.1 < b.1) :
    (insertEntry key value l).Pairwise fun a b => a.1 < b.1 := by
  induction l with
  | nil => simp [insertEntry]
  | cons hd tl ih =>
    obtain ⟨hhd, htl⟩ := List.pairwise_cons.mp h
    rw [insertEntry]
    split
    · next hlt =>
      refine List.pairwise_cons.mpr ⟨fun b hb => ?_, h⟩
      rcases List.mem_cons.mp hb with he | he
      · exact he ▸ hlt
      · exact String.lt_trans hlt (hhd b he)
    · next hnlt =>
      split
      · next heq => exact List.pairwise_cons.mpr ⟨fun b hb => heq ▸ hhd b hb, htl⟩
      · next hne =>
        refine List.pairwise_cons.mpr ⟨fun b hb => ?_, ih htl⟩
        rcases mem_insertEntry hb with he | he
        · exact he ▸ Std.lt_of_le_of_ne (String.not_lt.mp hnlt) (Ne.symm hne)
        · exact hhd b he

/-- What is not looked at does not matter. -/
theorem filter_insertEntry {p : String → Bool} {key : String} (h : p key = false) (value : α)
    (l : List (String × α)) :
    (insertEntry key value l).filter (fun (name, _) => p name) = l.filter fun (name, _) => p name := by
  induction l with
  | nil => simp [insertEntry, h]
  | cons hd tl ih =>
    obtain ⟨k, v⟩ := hd
    rw [insertEntry]
    split
    · rw [List.filter_cons_of_neg (by simp [h])]
    · split
      · next heq =>
        rw [List.filter_cons_of_neg (by simp [h]), List.filter_cons_of_neg (by simp [← heq, h])]
      · rw [List.filter_cons, List.filter_cons, ih]

/-! ## Operations -/

/-- The map without entries. -/
def empty : StringMap α := ⟨[], List.Pairwise.nil⟩

instance : Inhabited (StringMap α) := ⟨empty⟩

/-- The value of a key. -/
def get? (m : StringMap α) (key : String) : Option α := m.entries.lookup key

/-- Whether a key has a value. -/
def contains (m : StringMap α) (key : String) : Bool := (m.get? key).isSome

/-- The map with the value of one key set. -/
def insert (m : StringMap α) (key : String) (value : α) : StringMap α :=
  ⟨insertEntry key value m.entries, ascending_insertEntry key value m.ascending⟩

/-- The keys, in ascending order. -/
def keys (m : StringMap α) : List String := m.entries.map Prod.fst

/-- The map of some entries; of two with the same key the later one counts. -/
def ofList (entries : List (String × α)) : StringMap α :=
  entries.foldl (fun m (key, value) => m.insert key value) empty

/-! ## Look-ups -/

theorem lookup_insertEntry (key : String) (value : α) (l : List (String × α)) (other : String) :
    (insertEntry key value l).lookup other = if other = key then some value else l.lookup other := by
  induction l with
  | nil =>
    by_cases h : other = key
    · simp [insertEntry, h]
    · simp [insertEntry, List.lookup_cons, beq_eq_false_iff_ne.mpr h, h]
  | cons hd tl ih =>
    obtain ⟨k, v⟩ := hd
    rw [insertEntry]
    split
    · by_cases h : other = key
      · simp [h]
      · simp [List.lookup_cons, beq_eq_false_iff_ne.mpr h, h]
    · split
      · next heq =>
        by_cases h : other = key
        · simp [h]
        · simp [List.lookup_cons, beq_eq_false_iff_ne.mpr h, ← heq, h]
      · next hne =>
        by_cases hk : other = k
        · have hok : ¬ other = key := fun he => hne (he.symm.trans hk)
          subst hk
          simp [hok]
        · simp [List.lookup_cons, beq_eq_false_iff_ne.mpr hk, ih]

theorem get?_insert (m : StringMap α) (key : String) (value : α) (other : String) :
    (m.insert key value).get? other = if other = key then some value else m.get? other :=
  lookup_insertEntry key value m.entries other

@[simp] theorem get?_insert_self (m : StringMap α) (key : String) (value : α) :
    (m.insert key value).get? key = some value := by
  rw [get?_insert, if_pos rfl]

/-- Of two values that are set for one key the later one counts. -/
theorem insertEntry_insertEntry (key : String) (value value' : α) (l : List (String × α)) :
    insertEntry key value' (insertEntry key value l) = insertEntry key value' l := by
  have hself : ∀ rest : List (String × α),
      insertEntry key value' ((key, value) :: rest) = (key, value') :: rest := by
    intro rest
    rw [insertEntry, if_neg (String.lt_irrefl key), if_pos rfl]
  induction l with
  | nil => exact hself []
  | cons hd tl ih =>
    obtain ⟨k, v⟩ := hd
    by_cases hlt : key < k
    · rw [insertEntry, if_pos hlt, hself, insertEntry, if_pos hlt]
    · by_cases heq : key = k
      · rw [insertEntry, if_neg hlt, if_pos heq, hself, insertEntry, if_neg hlt, if_pos heq]
      · rw [insertEntry, if_neg hlt, if_neg heq, insertEntry, if_neg hlt, if_neg heq, ih, insertEntry,
          if_neg hlt, if_neg heq]

theorem insert_insert (m : StringMap α) (key : String) (value value' : α) :
    (m.insert key value).insert key value' = m.insert key value' := by
  unfold insert
  simp only [insertEntry_insertEntry]

@[simp] theorem get?_empty (key : String) : (empty : StringMap α).get? key = none := rfl

theorem mem_keys {m : StringMap α} {key : String} : key ∈ m.keys ↔ (m.get? key).isSome = true := by
  unfold keys get?
  induction m.entries with
  | nil => simp
  | cons hd tl ih =>
    obtain ⟨k, v⟩ := hd
    by_cases h : key = k
    · simp [h]
    · simp [List.lookup_cons, beq_eq_false_iff_ne.mpr h, h, ← ih]

/-- A key above all others is put last. -/
theorem insertEntry_of_forall_lt {key : String} (value : α) {l : List (String × α)}
    (h : ∀ e ∈ l, e.1 < key) : insertEntry key value l = l ++ [(key, value)] := by
  induction l with
  | nil => rfl
  | cons hd tl ih =>
    have hlt : hd.1 < key := h hd List.mem_cons_self
    have hne : key ≠ hd.1 := fun heq => String.lt_irrefl hd.1 (heq ▸ hlt)
    rw [insertEntry, if_neg (String.lt_asymm hlt), if_neg hne,
      ih fun e he => h e (List.mem_cons_of_mem _ he), List.cons_append]

theorem eq_of_entries {m m' : StringMap α} (h : m.entries = m'.entries) : m = m' := by
  cases m
  cases m'
  cases h
  rfl

/-- **A map is that of its entries**, since they come in order: each is put after those before it. -/
theorem ofList_entries (m : StringMap α) : ofList m.entries = m := by
  have hfold : ∀ (l : List (String × α)) (m' : StringMap α),
      (m'.entries ++ l).Pairwise (fun a b => a.1 < b.1) →
        (l.foldl (fun m (key, value) => m.insert key value) m').entries = m'.entries ++ l := by
    intro l
    induction l with
    | nil => exact fun m' _ => (List.append_nil _).symm
    | cons e l ih =>
      intro m' hsorted
      have hlast : (m'.insert e.1 e.2).entries = m'.entries ++ [e] :=
        insertEntry_of_forall_lt e.2 fun e' he' =>
          (List.pairwise_append.mp hsorted).2.2 e' he' e List.mem_cons_self
      have happend : (m'.insert e.1 e.2).entries ++ l = m'.entries ++ e :: l := by
        rw [hlast, List.append_assoc, List.singleton_append]
      rw [List.foldl_cons, ih _ (by rwa [happend]), happend]
  exact eq_of_entries (hfold m.entries empty m.ascending)

theorem keys_sorted (m : StringMap α) : m.keys.Pairwise (· < ·) :=
  List.pairwise_map.mpr m.ascending

end StringMap

end ReactiveForm
