/-
  Values under names.

  * `Dict α`: values of type `α` under names, none of which comes twice, in the order in which the
    names first came;
  * `Dict.get?`: the view that counts: the value under a name, if there is one;
  * `Dict.insert`, `Dict.erase`, `Dict.keep`: one more value, one less, only some; `get?_insert`,
    `get?_erase` and `get?_keep` say what they do to the view.
-/

namespace FederatedQuery

/-- Values under names, none of which comes twice. -/
structure Dict (α : Type) where
  entries : List (String × α)
  nodup : (entries.map Prod.fst).Nodup := by simp

namespace Dict

variable {α : Type}

/-- No values. -/
def empty : Dict α where
  entries := []

/-- The names, in the order in which they came. -/
def names (d : Dict α) : List String := d.entries.map Prod.fst

/-- The value under a name. -/
def get? (d : Dict α) (name : String) : Option α := d.entries.lookup name

/-- Whether there is a value under the name. -/
def contains (d : Dict α) (name : String) : Bool := (d.get? name).isSome

/-! ## Changes -/

/-- The entries with a value under one more name, or with another value under one of theirs. -/
def insertEntry (name : String) (value : α) : List (String × α) → List (String × α)
  | [] => [(name, value)]
  | (n, v) :: rest => if n = name then (n, value) :: rest else (n, v) :: insertEntry name value rest

theorem names_insertEntry (name : String) (value : α) (entries : List (String × α)) :
    (insertEntry name value entries).map Prod.fst =
      if name ∈ entries.map Prod.fst then entries.map Prod.fst
      else entries.map Prod.fst ++ [name] := by
  induction entries with
  | nil => simp [insertEntry]
  | cons entry rest ih =>
    by_cases h : entry.1 = name
    · simp [insertEntry, h]
    · have h' : name ≠ entry.1 := fun e => h e.symm
      simp only [insertEntry, if_neg h, List.map_cons, ih, List.mem_cons, h', false_or]
      split <;> simp

/-- The dictionary with the value under the name. -/
def insert (d : Dict α) (name : String) (value : α) : Dict α where
  entries := insertEntry name value d.entries
  nodup := by
    rw [names_insertEntry]
    split
    · exact d.nodup
    · next h => simpa [List.nodup_append, d.nodup] using fun a b hab e => h (by simpa using ⟨b, e ▸ hab⟩)

/-- The dictionary with the names that `p` accepts. -/
def keep (p : String → Bool) (d : Dict α) : Dict α where
  entries := d.entries.filter fun entry => p entry.1
  nodup := d.nodup.sublist (List.filter_sublist.map Prod.fst)

/-- The dictionary without the name. -/
def erase (d : Dict α) (name : String) : Dict α := d.keep (· != name)

/-- The dictionary for pairs of names and values; of two values under a name the later one counts. -/
def ofPairs (pairs : List (String × α)) : Dict α :=
  pairs.foldl (fun d (name, value) => d.insert name value) empty

/-! ## What they do to the view -/

@[simp] theorem get?_empty (name : String) : (empty : Dict α).get? name = none := rfl

theorem lookup_cons_eq (name n : String) (v : α) (rest : List (String × α)) :
    List.lookup name ((n, v) :: rest) = if name = n then some v else List.lookup name rest := by
  rw [List.lookup_cons]
  by_cases h : name = n
  · simp [h]
  · simp [h, beq_false_of_ne h]

theorem get?_insert (d : Dict α) (name other : String) (value : α) :
    (d.insert name value).get? other = if other = name then some value else d.get? other := by
  simp only [get?, insert]
  induction d.entries with
  | nil => rw [insertEntry, lookup_cons_eq]
  | cons entry rest ih =>
    obtain ⟨n, v⟩ := entry
    by_cases hn : n = name
    · subst hn
      rw [insertEntry, if_pos rfl, lookup_cons_eq, lookup_cons_eq]
      split <;> rfl
    · rw [insertEntry, if_neg hn, lookup_cons_eq, lookup_cons_eq, ih]
      by_cases h : other = n
      · subst h
        rw [if_pos rfl, if_neg hn, if_pos rfl]
      · rw [if_neg h, if_neg h]

theorem get?_keep (p : String → Bool) (d : Dict α) (name : String) :
    (d.keep p).get? name = if p name then d.get? name else none := by
  simp only [get?, keep]
  induction d.entries with
  | nil => simp
  | cons entry rest ih =>
    obtain ⟨n, v⟩ := entry
    by_cases hp : p n
    · rw [List.filter_cons_of_pos (by exact hp), lookup_cons_eq, lookup_cons_eq, ih]
      by_cases h : name = n
      · subst h
        simp [hp]
      · simp [h]
    · rw [List.filter_cons_of_neg (by exact hp), lookup_cons_eq, ih]
      by_cases h : name = n
      · subst h
        simp [hp]
      · simp [h]

theorem get?_erase (d : Dict α) (name other : String) :
    (d.erase name).get? other = if other = name then none else d.get? other := by
  by_cases h : other = name <;> simp [erase, get?_keep, h]

end Dict

end FederatedQuery
