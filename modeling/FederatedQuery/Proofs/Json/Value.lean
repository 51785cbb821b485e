/-
  Reading written JSON values.

  * `Json.Whole v`: the numbers in `v` are natural numbers of 64 bits;
  * `bare_arrayBody`, `bare_objectBody`: a written array or object is read when its parts are;
  * `bare_value`: a written value is read back when it nests no deeper than it may, and refused when
    it does;
  * `document?_object`: the same of a text that holds an object, where only the values of wanted
    fields count.
-/
import FederatedQuery.Proofs.Json.Scalar

namespace FederatedQuery.Json

open CharReader (bare)

/-! ## Values -/

/-- The numbers in a value are natural numbers of 64 bits. -/
inductive Whole : Json → Prop
  | null : Whole .null
  | bool (b : Bool) : Whole (.bool b)
  | number {n : Nat} : n < Nat.pow 2 64 → Whole (.ofNat n)
  | string (s : String) : Whole (.string s)
  | array {items : List Json} : (∀ v ∈ items, Whole v) → Whole (.array items)
  | object {fields : List (String × Json)} : (∀ f ∈ fields, Whole f.2) → Whole (.object fields)

theorem depthOfItems_le_iff {items : List Json} {n : Nat} :
    depthOfItems items ≤ n ↔ ∀ v ∈ items, v.depth ≤ n := by
  induction items with
  | nil => simp [depthOfItems]
  | cons v vs ih => rw [depthOfItems, Nat.max_le, ih, List.forall_mem_cons]

theorem depthOfFields_le_iff {fields : List (String × Json)} {n : Nat} :
    depthOfFields fields ≤ n ↔ ∀ f ∈ fields, f.2.depth ≤ n := by
  induction fields with
  | nil => simp [depthOfFields]
  | cons f fs ih => rw [depthOfFields, Nat.max_le, ih, List.forall_mem_cons]

theorem isSpace_of_isDigit {d : Char} (h : d.isDigit = true) : isSpace d = false := by
  refine Bool.eq_false_iff.2 fun hspace => ?_
  simp only [isSpace, Bool.or_eq_true, decide_eq_true_eq] at hspace
  rcases hspace with ((rfl | rfl) | rfl) | rfl <;> cases h

/-- A written value begins with a character that neither is a blank nor ends an array. -/
theorem Whole.chars_eq_cons {v : Json} (h : v.Whole) :
    ∃ c cs, v.chars = c :: cs ∧ isSpace c = false ∧ c ≠ ']' := by
  cases h with
  | null => exact ⟨_, _, rfl, by decide, by decide⟩
  | bool b => cases b <;> exact ⟨_, _, rfl, by decide, by decide⟩
  | @number n _ =>
    cases hd : Nat.toDigits 10 n with
    | nil => exact absurd hd Nat.toDigits_ne_nil
    | cons d ds =>
      have hdigit : d.isDigit = true := Number.isDigit_toDigits (hd ▸ List.mem_cons_self)
      refine ⟨d, ds, by rw [ofNat, chars, Nat.toList_repr, hd], isSpace_of_isDigit hdigit, ?_⟩
      rintro rfl
      cases hdigit
  | string | array | object => exact ⟨_, _, rfl, by decide, by decide⟩

@[simp] theorem skipSpace_of_not_space {c : Char} {rest : List Char} (h : isSpace c = false) :
    skipSpace (c :: rest) = c :: rest := by simp [skipSpace, h]

/-! ## Arrays -/

section Items

variable {item : CharReader Json} {done : List Json} {input : List Char} {bound : Nat}
  (h : input.length ≤ bound) {v : Json}

theorem bare_itemsOnto_none (hv : bare (item input) = none) :
    bare (itemsOnto item done input bound h) = none := by
  rw [itemsOnto]
  simp [CharReader.bare_eq_none.1 hv]

theorem bare_itemsOnto_last {last : List Char} (hv : bare (item input) = some (v, ']' :: last)) :
    bare (itemsOnto item done input bound h) = some ((v :: done).reverse, last) := by
  obtain ⟨hlt, hv⟩ := CharReader.bare_eq_some.1 hv
  have hskip : skipSpace (']' :: last) = ']' :: last := rfl
  rw [itemsOnto]
  simp only [hv]
  split
  · next he => rw [hskip] at he; cases he; rfl
  · next he => rw [hskip] at he; cases he
  · next hne _ => exact absurd hskip (hne last)

theorem bare_itemsOnto_next {next : List Char} (hv : bare (item input) = some (v, ',' :: next))
    (hn : next.length ≤ bound) :
    bare (itemsOnto item done input bound h) = bare (itemsOnto item (v :: done) next bound hn) := by
  obtain ⟨hlt, hv⟩ := CharReader.bare_eq_some.1 hv
  have hskip : skipSpace (',' :: next) = ',' :: next := rfl
  rw [itemsOnto]
  simp only [hv]
  split
  · next he => rw [hskip] at he; cases he
  · next he => rw [hskip] at he; cases he; rfl
  · next _ hne => exact absurd hskip (hne next)

end Items

/-- Items are read back when every one of them is. -/
theorem bare_itemsOnto {item : CharReader Json} {p : Json → Prop} [DecidablePred p]
    {items : List Json} (hne : items ≠ [])
    (hitem : ∀ v ∈ items, ∀ rest, Ends rest →
      bare (item (v.chars ++ rest)) = if p v then some (v, rest) else none)
    (done : List Json) (rest : List Char) {bound : Nat}
    (h : (itemsChars items ++ ']' :: rest).length ≤ bound) :
    bare (itemsOnto item done (itemsChars items ++ ']' :: rest) bound h) =
      if ∀ v ∈ items, p v then some (done.reverse ++ items, rest) else none := by
  induction items generalizing done with
  | nil => exact absurd rfl hne
  | cons v vs ih =>
    obtain ⟨hv, hvs⟩ := List.forall_mem_cons.1 hitem
    cases vs with
    | nil =>
      have hread := hv (']' :: rest) (by simp [Ends])
      by_cases hp : p v
      · rw [if_pos hp] at hread
        rw [bare_itemsOnto_last h hread]
        simp [hp]
      · rw [if_neg hp] at hread
        rw [bare_itemsOnto_none h hread]
        simp [hp]
    | cons w ws =>
      have hchars : itemsChars (v :: w :: ws) ++ ']' :: rest =
          v.chars ++ ',' :: (itemsChars (w :: ws) ++ ']' :: rest) := by simp [itemsChars]
      simp only [hchars] at h ⊢
      have hread := hv (',' :: (itemsChars (w :: ws) ++ ']' :: rest)) (by simp [Ends])
      by_cases hp : p v
      · rw [if_pos hp] at hread
        have hle : (itemsChars (w :: ws) ++ ']' :: rest).length ≤ bound := by
          simp only [List.length_append, List.length_cons] at h ⊢
          omega
        rw [bare_itemsOnto_next h hread hle, ih (by simp) hvs (v :: done) hle]
        simp only [List.forall_mem_cons (a := v), hp, true_and, List.reverse_cons,
          List.append_assoc, List.singleton_append]
      · rw [if_neg hp] at hread
        rw [bare_itemsOnto_none h hread]
        simp [hp]


theorem bare_arrayBody_nil (item : CharReader Json) (rest : List Char) :
    bare (arrayBody item (']' :: rest)) = some (.array [], rest) := by
  have hskip : skipSpace (']' :: rest) = ']' :: rest := rfl
  unfold arrayBody
  split
  · next he => cases hskip.symm.trans he; rfl
  · next hne => exact absurd hskip (hne rest)

theorem bare_arrayBody_cons (item : CharReader Json) {input after : List Char} {c : Char}
    (hinput : input = c :: after) (hspace : isSpace c = false) (hc : c ≠ ']') :
    bare (arrayBody item input) =
      (bare (itemsOnto item [] input _ (Nat.le_refl _))).map fun (vs, rest) => (.array vs, rest) := by
  subst hinput
  unfold arrayBody
  split
  · next he => cases (skipSpace_of_not_space hspace).symm.trans he; exact absurd rfl hc
  · cases itemsOnto item [] (c :: after) (c :: after).length (Nat.le_refl _) <;> rfl

/-- **Arrays**: what follows the bracket is read back when every item is. -/
theorem bare_arrayBody {item : CharReader Json} {p : Json → Prop} [DecidablePred p]
    {items : List Json} (hw : ∀ v ∈ items, v.Whole)
    (hitem : ∀ v ∈ items, ∀ rest, Ends rest →
      bare (item (v.chars ++ rest)) = if p v then some (v, rest) else none) (rest : List Char) :
    bare (arrayBody item (itemsChars items ++ ']' :: rest)) =
      if ∀ v ∈ items, p v then some (.array items, rest) else none := by
  cases items with
  | nil => simpa [itemsChars] using bare_arrayBody_nil item rest
  | cons v vs =>
    obtain ⟨c, cs, hc, hspace, hbracket⟩ := (hw v List.mem_cons_self).chars_eq_cons
    obtain ⟨after, hafter⟩ : ∃ after, itemsChars (v :: vs) ++ ']' :: rest = c :: after := by
      cases vs <;> simp [itemsChars, hc]
    have hread := bare_itemsOnto (List.cons_ne_nil v vs) hitem [] rest (Nat.le_refl _)
    rw [bare_arrayBody_cons item hafter hspace hbracket, hread]
    split <;> rfl

/-! ## Objects -/

theorem bare_fieldName_string {care : Care} {name : String} {input rest : List Char}
    (hread : bare (stringOnto care [] input input.length (Nat.le_refl _)) = some (name, ':' :: rest)) :
    bare (fieldName care ('"' :: input)) = some (name, rest) := by
  have hskip : skipSpace ('"' :: input) = '"' :: input := rfl
  have hcolon : skipSpace (':' :: rest) = ':' :: rest := rfl
  obtain ⟨hlt, hread⟩ := CharReader.bare_eq_some.1 hread
  unfold fieldName
  split
  · next he =>
    cases hskip.symm.trans he
    simp only [hread]
    split
    · next he => cases hcolon.symm.trans he; rfl
    · next hne => exact absurd hcolon (hne rest)
  · next hne => exact absurd hskip (hne input)

theorem bare_fieldName (care : Care) (name : String) (rest : List Char) :
    bare (fieldName care (quote name ++ ':' :: rest)) = some (name, rest) := by
  have hread := bare_stringOnto care [] name.toList (':' :: rest) (Nat.le_refl _)
  rw [List.reverse_nil, List.nil_append, String.ofList_toList] at hread
  have hchars : quote name ++ ':' :: rest =
      '"' :: (name.toList.flatMap escape ++ '"' :: ':' :: rest) := by simp [quote]
  have hname := bare_fieldName_string hread
  rwa [← hchars] at hname

section Fields

variable {care : Care} {field : String → CharReader Json} {done : List (String × Json)}
  {input after : List Char} {bound : Nat} (h : input.length ≤ bound) {name : String} {v : Json}

theorem bare_fieldsOnto_none (hname : bare (fieldName care input) = some (name, after))
    (hv : bare (field name after) = none) :
    bare (fieldsOnto care field done input bound h) = none := by
  obtain ⟨hlt, hname⟩ := CharReader.bare_eq_some.1 hname
  rw [fieldsOnto]
  simp only [hname, CharReader.bare_eq_none.1 hv, CharReader.bare_none]

theorem bare_fieldsOnto_last {last : List Char}
    (hname : bare (fieldName care input) = some (name, after))
    (hv : bare (field name after) = some (v, '\x7d' :: last)) :
    bare (fieldsOnto care field done input bound h) = some (((name, v) :: done).reverse, last) := by
  obtain ⟨hlt, hname⟩ := CharReader.bare_eq_some.1 hname
  obtain ⟨hlt', hv⟩ := CharReader.bare_eq_some.1 hv
  have hskip : skipSpace ('\x7d' :: last) = '\x7d' :: last := rfl
  rw [fieldsOnto]
  simp only [hname, hv]
  split
  · next he => cases hskip.symm.trans he; rfl
  · next he => cases hskip.symm.trans he
  · next hne _ => exact absurd hskip (hne last)

theorem bare_fieldsOnto_next {next : List Char}
    (hname : bare (fieldName care input) = some (name, after))
    (hv : bare (field name after) = some (v, ',' :: next)) (hn : next.length ≤ bound) :
    bare (fieldsOnto care field done input bound h) =
      bare (fieldsOnto care field ((name, v) :: done) next bound hn) := by
  obtain ⟨hlt, hname⟩ := CharReader.bare_eq_some.1 hname
  obtain ⟨hlt', hv⟩ := CharReader.bare_eq_some.1 hv
  have hskip : skipSpace (',' :: next) = ',' :: next := rfl
  rw [fieldsOnto]
  simp only [hname, hv]
  split
  · next he => cases hskip.symm.trans he
  · next he => cases hskip.symm.trans he; rfl
  · next _ hne => exact absurd hskip (hne next)

end Fields

/-- Fields are read back when every one of them is. -/
theorem bare_fieldsOnto {care : Care} {field : String → CharReader Json} {p : String × Json → Prop}
    [DecidablePred p] {fields : List (String × Json)} (hne : fields ≠ [])
    (hfield : ∀ f ∈ fields, ∀ rest, Ends rest →
      bare (field f.1 (f.2.chars ++ rest)) = if p f then some (f.2, rest) else none)
    (done : List (String × Json)) (rest : List Char) {bound : Nat}
    (h : (fieldsChars fields ++ '\x7d' :: rest).length ≤ bound) :
    bare (fieldsOnto care field done (fieldsChars fields ++ '\x7d' :: rest) bound h) =
      if ∀ f ∈ fields, p f then some (done.reverse ++ fields, rest) else none := by
  induction fields generalizing done with
  | nil => exact absurd rfl hne
  | cons f fs ih =>
    obtain ⟨name, v⟩ := f
    obtain ⟨hv, hfs⟩ := List.forall_mem_cons.1 hfield
    cases fs with
    | nil =>
      have hchars : fieldsChars [(name, v)] ++ '\x7d' :: rest =
          quote name ++ ':' :: (v.chars ++ '\x7d' :: rest) := by simp [fieldsChars]
      have hname := bare_fieldName care name (v.chars ++ '\x7d' :: rest)
      rw [← hchars] at hname
      have hread := hv ('\x7d' :: rest) (by simp [Ends])
      by_cases hp : p (name, v)
      · rw [if_pos hp] at hread
        rw [bare_fieldsOnto_last h hname hread]
        simp [hp]
      · rw [if_neg hp] at hread
        rw [bare_fieldsOnto_none h hname hread]
        simp [hp]
    | cons g gs =>
      have hchars : fieldsChars ((name, v) :: g :: gs) ++ '\x7d' :: rest =
          quote name ++ ':' :: (v.chars ++ ',' :: (fieldsChars (g :: gs) ++ '\x7d' :: rest)) := by
        simp [fieldsChars]
      have hname := bare_fieldName care name (v.chars ++ ',' :: (fieldsChars (g :: gs) ++ '\x7d' :: rest))
      rw [← hchars] at hname
      have hread := hv (',' :: (fieldsChars (g :: gs) ++ '\x7d' :: rest)) (by simp [Ends])
      by_cases hp : p (name, v)
      · rw [if_pos hp] at hread
        have hle : (fieldsChars (g :: gs) ++ '\x7d' :: rest).length ≤ bound := by
          rw [hchars] at h
          simp only [List.length_append, List.length_cons] at h ⊢
          omega
        rw [bare_fieldsOnto_next h hname hread hle, ih (by simp) hfs ((name, v) :: done) hle]
        simp only [List.forall_mem_cons (a := (name, v)), hp, true_and, List.reverse_cons,
          List.append_assoc, List.singleton_append]
      · rw [if_neg hp] at hread
        rw [bare_fieldsOnto_none h hname hread]
        simp [hp]

theorem bare_objectBody_nil (care : Care) (field : String → CharReader Json) (rest : List Char) :
    bare (objectBody care field ('\x7d' :: rest)) = some (.object [], rest) := by
  have hskip : skipSpace ('\x7d' :: rest) = '\x7d' :: rest := rfl
  unfold objectBody
  split
  · next he => cases hskip.symm.trans he; rfl
  · next hne => exact absurd hskip (hne rest)

theorem bare_objectBody_cons (care : Care) (field : String → CharReader Json)
    {input after : List Char} (hinput : input = '"' :: after) :
    bare (objectBody care field input) =
      (bare (fieldsOnto care field [] input _ (Nat.le_refl _))).map fun (fs, rest) =>
        (.object fs, rest) := by
  subst hinput
  have hskip : skipSpace ('"' :: after) = '"' :: after := rfl
  unfold objectBody
  split
  · next he => cases hskip.symm.trans he
  · cases fieldsOnto care field [] ('"' :: after) ('"' :: after).length (Nat.le_refl _) <;> rfl

/-- **Objects**: what follows the brace is read back when the value of every field is. -/
theorem bare_objectBody {care : Care} {field : String → CharReader Json} {p : String × Json → Prop}
    [DecidablePred p] {fields : List (String × Json)}
    (hfield : ∀ f ∈ fields, ∀ rest, Ends rest →
      bare (field f.1 (f.2.chars ++ rest)) = if p f then some (f.2, rest) else none)
    (rest : List Char) :
    bare (objectBody care field (fieldsChars fields ++ '\x7d' :: rest)) =
      if ∀ f ∈ fields, p f then some (.object fields, rest) else none := by
  cases fields with
  | nil => simpa [fieldsChars] using bare_objectBody_nil care field rest
  | cons f fs =>
    obtain ⟨after, hafter⟩ : ∃ after, fieldsChars (f :: fs) ++ '\x7d' :: rest = '"' :: after := by
      cases fs <;> simp [fieldsChars, quote]
    have hread := @bare_fieldsOnto care field p _ _ (List.cons_ne_nil f fs) hfield [] rest _ (Nat.le_refl _)
    rw [bare_objectBody_cons care field hafter, hread]
    split <;> rfl

/-! ## Values -/

theorem bare_valueWith_array (care : Care) (array object : CharReader Json) (rest : List Char) :
    bare (valueWith care array object ('[' :: rest)) = bare (array rest) := by
  have hskip : skipSpace ('[' :: rest) = '[' :: rest := rfl
  unfold valueWith
  split
  · next he => cases hskip.symm.trans he; exact CharReader.bare_weaken _ _
  · next he => cases hskip.symm.trans he
  · next hne _ => exact absurd hskip (hne rest)

theorem bare_valueWith_object (care : Care) (array object : CharReader Json) (rest : List Char) :
    bare (valueWith care array object ('\x7b' :: rest)) = bare (object rest) := by
  have hskip : skipSpace ('\x7b' :: rest) = '\x7b' :: rest := rfl
  unfold valueWith
  split
  · next he => cases hskip.symm.trans he
  · next he => cases hskip.symm.trans he; exact CharReader.bare_weaken _ _
  · next _ hne => exact absurd hskip (hne rest)

theorem bare_valueWith_scalar (care : Care) (array object : CharReader Json) {input rest : List Char}
    {c : Char} (hinput : input = c :: rest) (hspace : isSpace c = false) (hbracket : c ≠ '[')
    (hbrace : c ≠ '\x7b') :
    bare (valueWith care array object input) = bare (scalar care input) := by
  subst hinput
  have hskip : skipSpace (c :: rest) = c :: rest := skipSpace_of_not_space hspace
  unfold valueWith
  split
  · next he => cases hskip.symm.trans he; exact absurd rfl hbracket
  · next he => cases hskip.symm.trans he; exact absurd rfl hbrace
  · refine (CharReader.bare_weaken _ _).trans ?_
    exact congrArg (fun i => bare (scalar care i)) hskip

theorem bare_scalar_string {care : Care} {input rest : List Char} {s : String}
    (hread : bare (stringOnto care [] input input.length (Nat.le_refl _)) = some (s, rest)) :
    bare (scalar care ('"' :: input)) = some (.string s, rest) := by
  obtain ⟨hlt, hread⟩ := CharReader.bare_eq_some.1 hread
  simp only [scalar, hread, Option.map_some, CharReader.bare_some]

theorem bare_scalar_number (care : Care) {d : Char} {after : List Char} (hd : d.isDigit = true) :
    bare (scalar care (d :: after)) = bare (numberValue care (d :: after)) := by
  rw [scalar] <;> intro rest he <;> cases he <;> cases hd

/-- Values other than arrays and objects are read back. -/
theorem bare_valueWith_chars (care : Care) (array object : CharReader Json) {v : Json}
    (h : v.Whole) (hv : v.depth = 0) {rest : List Char} (hr : Ends rest) :
    bare (valueWith care array object (v.chars ++ rest)) = some (v, rest) := by
  cases h with
  | null => exact bare_valueWith_scalar care array object rfl (by decide) (by decide) (by decide)
  | bool b =>
    cases b <;>
      exact bare_valueWith_scalar care array object rfl (by decide) (by decide) (by decide)
  | @number n hn =>
    have hread := bare_numberValue care hn hr
    rw [ofNat, chars]
    rw [Nat.toList_repr] at hread ⊢
    cases hd : Nat.toDigits 10 n with
    | nil => exact absurd hd Nat.toDigits_ne_nil
    | cons d ds =>
      have hdigit : d.isDigit = true := Number.isDigit_toDigits (hd ▸ List.mem_cons_self)
      rw [hd] at hread
      rw [List.cons_append] at hread ⊢
      rw [bare_valueWith_scalar care array object rfl (isSpace_of_isDigit hdigit) ?_ ?_,
        bare_scalar_number care hdigit, hread]
      · rfl
      · rintro rfl; cases hdigit
      · rintro rfl; cases hdigit
  | string s =>
    have hread := bare_stringOnto care [] s.toList rest (Nat.le_refl _)
    rw [List.reverse_nil, List.nil_append, String.ofList_toList] at hread
    have hchars : quote s ++ rest = '"' :: (s.toList.flatMap escape ++ '"' :: rest) := by
      simp [quote]
    have hscalar := bare_scalar_string hread
    rw [← hchars] at hscalar
    rw [chars, bare_valueWith_scalar care array object hchars (by decide) (by decide) (by decide),
      hscalar]
  | array => simp [depth] at hv
  | object => simp [depth] at hv

theorem bare_value_of_depth_eq_zero {v : Json} (h : v.Whole) (hv : v.depth = 0) (care : Care)
    (levels : Nat) {rest : List Char} (hr : Ends rest) :
    bare (value care levels (v.chars ++ rest)) = some (v, rest) := by
  cases levels <;> exact bare_valueWith_chars care _ _ h hv hr

/-- **Values**: a written value is read back, unless it nests too deeply. -/
theorem bare_value {v : Json} (h : v.Whole) (care : Care) (levels : Nat) {rest : List Char}
    (hr : Ends rest) :
    bare (value care levels (v.chars ++ rest)) = if v.depth ≤ levels then some (v, rest) else none := by
  induction h generalizing levels rest with
  | null => exact bare_value_of_depth_eq_zero .null rfl care levels hr
  | bool b => exact bare_value_of_depth_eq_zero (.bool b) rfl care levels hr
  | number hn => exact bare_value_of_depth_eq_zero (.number hn) rfl care levels hr
  | string s => exact bare_value_of_depth_eq_zero (.string s) rfl care levels hr
  | @array items hitems ih =>
    have hchars : (array items).chars ++ rest = '[' :: (itemsChars items ++ ']' :: rest) := by
      simp [chars]
    rw [hchars]
    cases levels with
    | zero => simp [value, bare_valueWith_array, depth]
    | succ levels =>
      rw [value, bare_valueWith_array, bare_arrayBody hitems fun v hv rest hr => ih v hv levels hr]
      simp only [depth, Nat.add_le_add_iff_right, depthOfItems_le_iff]
  | @object fields hfields ih =>
    have hchars : (object fields).chars ++ rest = '\x7b' :: (fieldsChars fields ++ '\x7d' :: rest) := by
      simp [chars]
    rw [hchars]
    cases levels with
    | zero => simp [value, bare_valueWith_object, depth]
    | succ levels =>
      rw [value, bare_valueWith_object, bare_objectBody fun f hf rest hr => ih f hf levels hr]
      simp only [depth, Nat.add_le_add_iff_right, depthOfFields_le_iff]

/-! ## Documents -/

theorem length_chars_le_of_mem {items : List Json} {v : Json} (h : v ∈ items) :
    v.chars.length ≤ (itemsChars items).length := by
  induction items with
  | nil => cases h
  | cons w ws ih =>
    rcases List.mem_cons.1 h with rfl | h
    · cases ws <;> simp [itemsChars]
    · have hle := ih h
      cases ws with
      | nil => cases h
      | cons => simp only [itemsChars, List.length_append, List.length_cons] at hle ⊢; omega

theorem length_chars_le_of_mem_fields {fields : List (String × Json)} {f : String × Json}
    (h : f ∈ fields) : f.2.chars.length ≤ (fieldsChars fields).length := by
  induction fields with
  | nil => cases h
  | cons g gs ih =>
    rcases List.mem_cons.1 h with rfl | h
    · cases gs <;> simp [fieldsChars] <;> omega
    · have hle := ih h
      cases gs with
      | nil => cases h
      | cons => simp only [fieldsChars, List.length_append, List.length_cons] at hle ⊢; omega

/-- Every level of a value takes at least one character. -/
theorem Whole.depth_le_length {v : Json} (h : v.Whole) : v.depth ≤ v.chars.length := by
  induction h with
  | null | bool | number | string => exact Nat.zero_le _
  | @array items _ ih =>
    have hdepth := depthOfItems_le_iff.2 fun v hv =>
      Nat.le_trans (ih v hv) (length_chars_le_of_mem hv)
    simp only [depth, chars, List.length_cons, List.length_append]
    omega
  | @object fields _ ih =>
    have hdepth := depthOfFields_le_iff.2 fun f hf =>
      Nat.le_trans (ih f hf) (length_chars_le_of_mem_fields hf)
    simp only [depth, chars, List.length_cons, List.length_append]
    omega

theorem bare_skip {v : Json} (h : v.Whole) {rest : List Char} (hr : Ends rest) :
    bare (skip (v.chars ++ rest)) = some (v, rest) := by
  have hdepth := h.depth_le_length
  rw [skip, bare_value h .skipped _ hr, if_pos]
  simp only [List.length_append]
  omega

/-- The reader for a field of a document: one that is wanted is used, another one is skipped. -/
def fieldReader (wanted : String → Bool) (name : String) : CharReader Json :=
  if wanted name then value .used (maxDepth - 1) else skip

theorem document?_eq (wanted : String → Bool) (text : String) :
    document? wanted text =
      (bare (valueWith .used (arrayBody (value .used (maxDepth - 1)))
        (objectBody .used (fieldReader wanted)) text.toList)).bind fun (v, rest) =>
          if atEnd rest then some v else none := by
  have hfield : (fun name => if wanted name = true then value .used (maxDepth - 1) else skip) =
      fieldReader wanted := rfl
  simp only [document?, hfield]
  rcases valueWith .used (arrayBody (value .used (maxDepth - 1)))
    (objectBody .used (fieldReader wanted)) text.toList with _ | ⟨v, rest, h⟩ <;> rfl

theorem bare_fieldReader (wanted : String → Bool) (name : String) {v : Json} (h : v.Whole)
    {rest : List Char} (hr : Ends rest) :
    bare (fieldReader wanted name (v.chars ++ rest)) =
      if wanted name = true → v.depth ≤ maxDepth - 1 then some (v, rest) else none := by
  unfold fieldReader
  by_cases hw : wanted name = true
  · simp only [hw, if_true, forall_const, bare_value h .used _ hr]
  · simp only [hw, Bool.false_eq_true, if_false, false_implies, if_true, bare_skip h hr]

/-- **Documents**: a written object is read back, unless a field that is wanted nests too deeply. -/
theorem document?_object (wanted : String → Bool) {fields : List (String × Json)}
    (h : ∀ f ∈ fields, f.2.Whole) :
    document? wanted (object fields).text =
      if ∀ f ∈ fields, wanted f.1 = true → f.2.depth ≤ maxDepth - 1 then some (.object fields)
      else none := by
  have hchars : (object fields).text.toList = '\x7b' :: (fieldsChars fields ++ ['\x7d']) := by
    simp [text, chars]
  have hread : bare (objectBody .used (fieldReader wanted) (fieldsChars fields ++ ['\x7d'])) = _ :=
    bare_objectBody (fun f hf rest hr => bare_fieldReader wanted f.1 (h f hf) hr) []
  rw [document?_eq, hchars, bare_valueWith_object, hread]
  split <;> rfl

end FederatedQuery.Json
