/-
  Where words end.

  Two scanners read words: one goes on with letters, digits, `_` and `.`, the other, which looks for
  `BY` behind `ORDER`, with letters only.

  * `Front input blanks w after`: the text begins with the word `w`, and the word ends there;
  * `By after rest`: the letters behind the blanks are `BY`;
  * `Reads w after t rest`: what is read of a word and of what follows it;
  * `answer_word_iff`: the calls that answer a keyword or a name.  All of these but `ORDER BY` take a
    whole word;
  * `answer_orderBy_digit`: `ORDER BY` may be half a word.
-/
import FederatedQuery.Proofs.Statement.Scanning

namespace FederatedQuery

/-- Keywords and names. -/
def Token.isWord : Token → Bool
  | .keyword _ | .ident _ => true
  | _ => false

namespace Scan

open Text (SameLetters)

/-- Behind the blanks, the text begins with a word that does not go on. -/
structure Front (input blanks w after : List Char) : Prop where
  input_eq : input = blanks ++ (w ++ after)
  blank : ∀ c ∈ blanks, Text.isBlank c = true
  word : isWord w = true
  stop : ∀ c ∈ after.head?, inWord c = false

/-- All the letters that come next are `BY`, after any blanks.  A digit, `_` or `.` may follow them. -/
def By (after rest : List Char) : Prop :=
  ∃ blanks letters, after = blanks ++ (letters ++ rest) ∧ (∀ c ∈ blanks, Text.isBlank c = true) ∧
    SameLetters letters "BY".toList ∧ ∀ c ∈ rest.head?, Text.isAlphabetic c = false

/-- What is read of a word and of the characters after it. -/
inductive Reads (w after : List Char) : Token → List Char → Prop
  /-- Nothing is taken of what follows. -/
  | own (h : SameLetters w "ORDER".toList → ∀ rest, ¬ By after rest) :
      Reads w after (wordToken w) after
  | orderBy {rest : List Char} (ho : SameLetters w "ORDER".toList) (hby : By after rest) :
      Reads w after (.keyword .orderBy) rest

variable {input blanks w after rest : List Char} {t : Token}

theorem afterBy?_eq_some_iff_by : afterBy? after = some rest ↔ By after rest := by
  have hby : ∀ letters, spells "BY" letters = true ↔ SameLetters letters "BY".toList :=
    fun _ => spells_iff (by decide)
  rw [afterBy?_eq_some_iff, By]
  simp only [hby]

theorem word_of_reads (h : Reads w after t rest) : word w after = (t, rest) := by
  cases h with
  | own h =>
    refine word_eq fun ho => Option.eq_none_iff_forall_ne_some.2 fun rest hby => ?_
    exact h ((spells_iff (by decide)).1 ho) rest (afterBy?_eq_some_iff_by.1 hby)
  | orderBy ho hby =>
    exact word_of_afterBy? ((spells_iff (by decide)).2 ho) (afterBy?_eq_some_iff_by.2 hby)

/-- Keywords and names are read where a word stands. -/
theorem Lexeme.reads {spelled : List Char} (h : Lexeme spelled t rest) (ht : t.isWord = true) :
    ∃ w after, Front (spelled ++ rest) [] w after ∧ Reads w after t rest := by
  cases h with
  | symbol hs _ =>
    have hall : (symbols.all fun s => !s.2.isWord) = true := by decide
    simpa [ht] using List.all_eq_true.1 hall _ hs
  | literal => cases ht
  | number _ _ _ hn =>
    obtain ⟨m, -, rfl⟩ := number_eq_ok hn
    cases ht
  | @orderBy order blanks letters _ ho hne hb hl hr =>
    refine ⟨order, blanks ++ (letters ++ rest), ⟨by simp, by simp, isWord_of_spells_order ho,
      blanks_stop hne hb⟩, .orderBy ((spells_iff (by decide)).1 ho) ?_⟩
    exact ⟨blanks, letters, rfl, hb, (spells_iff (by decide)).1 hl, hr⟩
  | word hw hr hb =>
    refine ⟨spelled, rest, ⟨rfl, by simp, hw, hr⟩, .own fun ho rest' hby => ?_⟩
    have hnone := hb ((spells_iff (by decide)).2 ho)
    rw [afterBy?_eq_some_iff_by.2 hby] at hnone
    cases hnone

theorem Reads.isWord (h : Reads w after t rest) : t.isWord = true := by
  cases h with
  | own => unfold wordToken; split <;> rfl
  | orderBy => rfl

theorem call_word_iff : call input = (some (.ok t), rest) ∧ t.isWord = true ↔
    ∃ blanks w after, Front input blanks w after ∧ Reads w after t rest := by
  rw [call_eq_some_iff, next_eq_some_iff]
  constructor
  · rintro ⟨⟨blanks, c, after, rfl, hb, -, htoken⟩, ht⟩
    obtain ⟨spelled, he, hl⟩ := token_eq_ok_iff.1 htoken
    obtain ⟨w, after', hfront, hreads⟩ := hl.reads ht
    exact ⟨blanks, w, after', ⟨by rw [he, hfront.input_eq]; rfl, hb, hfront.word, hfront.stop⟩, hreads⟩
  · rintro ⟨blanks, w, after, hfront, hreads⟩
    refine ⟨?_, hreads.isWord⟩
    obtain ⟨c, after', he, hc, htoken⟩ := token_of_isWord hfront.word hfront.stop
    refine ⟨blanks, c, after', by rw [hfront.input_eq, he], hfront.blank, hc, ?_⟩
    rw [htoken, word_of_reads hreads]
    rfl

/-- A word is read to its end unless it is `ORDER BY`. -/
theorem stop_of_reads (hfront : Front input blanks w after) (h : Reads w after t rest)
    (ht : t ≠ .keyword .orderBy) : ∀ c ∈ rest.head?, inWord c = false := by
  cases h with
  | own => exact hfront.stop
  | orderBy => exact absurd rfl ht

/-- **Keywords and names** are answered exactly for a word that is at the front and ends there.
    `ORDER` takes the letters `BY` with it when these are all of the letters that come next, and every
    other word takes nothing of what follows, so that only `ORDER BY` may leave the rest of a word. -/
theorem answer_word_iff (text : List Char) (n : Nat) (t : Token) (rest : List Char) :
    (answer text n = some (.ok t) ∧ left text (n + 1) = rest ∧ t.isWord = true ↔
      ∃ blanks w after, Front (left text n) blanks w after ∧ Reads w after t rest) ∧
    (answer text n = some (.ok t) → t.isWord = true → t ≠ .keyword .orderBy →
      ∀ c ∈ (left text (n + 1)).head?, inWord c = false) := by
  constructor
  · rw [← call_word_iff, Prod.ext_iff, and_assoc]
    rfl
  · intro ha hword ht
    obtain ⟨blanks, w, after, hfront, hreads⟩ := call_word_iff.1 ⟨Prod.ext ha rfl, hword⟩
    exact stop_of_reads hfront hreads ht

/-- **`ORDER BY`** takes two characters of the word `BY1` and leaves the third. -/
theorem answer_orderBy_digit :
    answer "ORDER BY1".toList 0 = some (.ok (.keyword .orderBy)) ∧
      left "ORDER BY1".toList 1 = ['1'] ∧ inWord '1' = true ∧ isWord "BY1".toList = true := by
  decide +kernel

end Scan

end FederatedQuery
