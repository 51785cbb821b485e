/-
  Statements that differ in the case of letters.

  * `Token.Alike same`, `Predicate.Alike same`, `Query.Alike same`: the same but for the case of
    letters in names, and for texts that resemble each other as `same` has it;
  * `Lexeme.alike`, `Spells.alike`: texts with the same letters spell tokens that are alike;
  * `Condition.alike`, `Body.alike`: tokens that are alike derive predicates and queries that are;
  * `Statement.parse_alike`: a text with the same letters as one that is read is read as well.
-/
import FederatedQuery.Proofs.Statement.Lexeme
import FederatedQuery.Proofs.Statement.Parsing
import Mathlib.Data.List.Forall2

namespace FederatedQuery

open Text (SameLetters)

/-! ## Alike -/

/-- Two tokens that only differ in the case of letters in names and in texts. -/
inductive Token.Alike (same : String → String → Prop) : Token → Token → Prop
  | ident {name name' : String} : SameLetters name.toList name'.toList →
      Alike same (.ident name) (.ident name')
  | literal {value value' : String} : same value value' →
      Alike same (.literal value) (.literal value')
  | refl (t : Token) : Alike same t t

/-- Where there is no quoted text, it does not matter which texts may stand for each other. -/
theorem Token.Alike.of_ne_literal {same same' : String → String → Prop} {t t' : Token}
    (h : t.Alike same t') (ht : ∀ value, t ≠ .literal value) : t.Alike same' t' := by
  cases h with
  | ident hname => exact .ident hname
  | literal => exact absurd rfl (ht _)
  | refl => exact .refl t

/-- Two predicates of the same shape with texts that resemble each other. -/
inductive Predicate.Alike (same : String → String → Prop) : Predicate → Predicate → Prop
  | compared {op : Comparator} (field : String) {value value' : String} : op ≠ .found →
      same value value' → Alike same (.comparison op field value) (.comparison op field value')
  | like (field : String) {pattern pattern' : String} : same pattern pattern' →
      Alike same (.like field pattern) (.like field pattern')
  | join (op : Connective) {p p' q q' : Predicate} : Alike same p p' → Alike same q q' →
      Alike same (.logical op [p, q]) (.logical op [p', q'])

/-- Two queries that only differ in the texts of their filters. -/
structure Query.Alike (same : String → String → Prop) (q q' : Query) : Prop where
  source : q'.source = q.source
  table : q'.table = q.table
  columns : q'.columns = q.columns
  limit : q'.limit = q.limit
  filters : List.Forall₂ (Predicate.Alike same) q.filters q'.filters

/-- Texts that may stand for each other in a statement. -/
structure Resembles (same : String → String → Prop) : Prop where
  refl : ∀ value, same value value
  ne_empty : ∀ {value value'}, same value value' → value ≠ "" → value' ≠ ""

theorem Predicate.Alike.height_eq {same : String → String → Prop} {p p' : Predicate}
    (h : p.Alike same p') : p'.height = p.height := by
  induction h with
  | compared | like => rfl
  | join _ _ _ ihp ihq => rw [height_pair, height_pair, ihp, ihq]

theorem forall_height_le {same : String → String → Prop} {ps ps' : List Predicate} {n : Nat}
    (h : List.Forall₂ (Predicate.Alike same) ps ps') (hps : ∀ p ∈ ps, p.height ≤ n) :
    ∀ p ∈ ps', p.height ≤ n := by
  induction h with
  | nil => exact hps
  | cons hp _ ih =>
    obtain ⟨hle, hps⟩ := List.forall_mem_cons.1 hps
    exact List.forall_mem_cons.2 ⟨hp.height_eq ▸ hle, ih hps⟩

theorem forall₂_append_left {α β : Type} {R : α → β → Prop} {l₁ l₂ : List α} {l : List β}
    (h : List.Forall₂ R (l₁ ++ l₂) l) :
    ∃ m₁ m₂, l = m₁ ++ m₂ ∧ List.Forall₂ R l₁ m₁ ∧ List.Forall₂ R l₂ m₂ := by
  have hflip : List.Forall₂ (flip R) l (l₁ ++ l₂) := h.flip
  refine ⟨l.take l₁.length, l.drop l₁.length, (List.take_append_drop _ _).symm, ?_, ?_⟩
  · exact (List.forall₂_take_append _ _ _ hflip).flip
  · exact (List.forall₂_drop_append _ _ _ hflip).flip

/-! ## Scanning -/

namespace Scan

open Text (IgnoresCase)

variable {spelled spelled' rest rest' : List Char} {t : Token}

theorem spells_eq {v w : List Char} (h : SameLetters v w) (text : String) :
    spells text v = spells text w := by
  rw [spells, spells, h]

theorem ofWord?_eq {v w : List Char} (h : SameLetters v w) : Keyword.ofWord? v = Keyword.ofWord? w := by
  simp only [Keyword.ofWord?, spells_eq h]

theorem afterBy?_eq_none_of_same {text text' : List Char} (h : SameLetters text text')
    (hb : afterBy? text = none) : afterBy? text' = none := by
  have hdrop := h.dropWhile Text.ignoresCase_isBlank
  have hletters := spells_eq (hdrop.takeWhile Text.ignoresCase_isAlphabetic) "BY"
  simp only [afterBy?] at hb ⊢
  split at hb
  · cases hb
  · next hby => rw [if_neg (hletters ▸ hby)]

theorem ignoresCase_prolongs (t : Token) : IgnoresCase fun c => prolongs c t := by
  intro c
  have hequals : c.toUpper = '=' ↔ c = '=' :=
    Text.eq_iff_of_not_alpha (by decide) (Text.ignoresCase_toUpper c)
  have hgreater : c.toUpper = '>' ↔ c = '>' :=
    Text.eq_iff_of_not_alpha (by decide) (Text.ignoresCase_toUpper c)
  cases t <;> simp [prolongs, hequals, hgreater]

/-- Quotes are no letters: a text between quotes stays between quotes. -/
theorem exists_doubleQuotes {value text : List Char} (h : SameLetters (Text.doubleQuotes value) text) :
    ∃ value', text = Text.doubleQuotes value' ∧ SameLetters value value' := by
  induction value generalizing text with
  | nil =>
    obtain rfl := SameLetters.nil_iff.1 h
    exact ⟨[], rfl, rfl⟩
  | cons c value ih =>
    by_cases hc : c = '\''
    · subst hc
      -- both quotes of the pair are there again
      obtain ⟨d, text, rfl, hd, h₁⟩ := SameLetters.cons_iff.1 h
      obtain ⟨e, text, rfl, he, h₂⟩ := SameLetters.cons_iff.1 h₁
      obtain rfl := Text.eq_of_toUpper_eq (by decide) hd
      obtain rfl := Text.eq_of_toUpper_eq (by decide) he
      obtain ⟨value', rfl, hvalue⟩ := ih h₂
      exact ⟨'\'' :: value', rfl, SameLetters.cons_cons.2 ⟨rfl, hvalue⟩⟩
    · rw [Text.doubleQuotes_cons_of_ne hc] at h
      obtain ⟨d, text, rfl, hd, h⟩ := SameLetters.cons_iff.1 h
      obtain ⟨value', rfl, hvalue⟩ := ih h
      have hd' : d ≠ '\'' := mt (Text.eq_iff_of_not_alpha (by decide) hd).2 hc
      exact ⟨d :: value', (Text.doubleQuotes_cons_of_ne hd' _).symm, SameLetters.cons_cons.2 ⟨hd, hvalue⟩⟩

theorem not_alpha_of_mem_symbols (h : (spelled, t) ∈ symbols) : ∀ c ∈ spelled, c.isAlpha = false := by
  have hall : (symbols.all fun s => s.1.all (!·.isAlpha)) = true := by decide
  simpa using List.all_eq_true.1 hall _ h

theorem not_alpha_of_signed {negative : Bool} {digits : List Char}
    (hd : ∀ c ∈ digits, c.isDigit = true) : ∀ c ∈ signed negative digits, c.isAlpha = false := by
  have hdigit : ∀ c ∈ digits, c.isAlpha = false := fun c hc => Text.isAlpha_of_isDigit (hd c hc)
  cases negative with
  | false => exact hdigit
  | true => exact List.forall_mem_cons.2 ⟨by decide, hdigit⟩

/-- **A token** is spelled alike with letters in the other case. -/
theorem Lexeme.alike {same : String → String → Prop}
    (hsame : ∀ v v' : List Char, SameLetters v v' → same (.ofList v) (.ofList v'))
    (h : Lexeme spelled t rest) (hs : SameLetters spelled spelled') (hr : SameLetters rest rest') :
    ∃ t', Lexeme spelled' t' rest' ∧ t.Alike same t' := by
  cases h with
  | symbol hsymbol hstop =>
    obtain rfl := hs.eq_of_not_alpha (not_alpha_of_mem_symbols hsymbol)
    exact ⟨t, .symbol hsymbol (hr.forall_head (ignoresCase_prolongs t) hstop), .refl t⟩
  | literal value hstop =>
    obtain ⟨q, text, rfl, hq, htext⟩ := SameLetters.cons_iff.1 hs
    obtain ⟨text, last, rfl, hquotes, hlast⟩ := SameLetters.append_iff.1 htext
    obtain ⟨value', rfl, hvalue⟩ := exists_doubleQuotes hquotes
    obtain rfl := Text.eq_of_toUpper_eq (by decide) hq
    obtain rfl := hlast.eq_of_not_alpha (List.forall_mem_singleton.2 (by decide))
    exact ⟨_, .literal value' (hr.head?_ne (by decide) hstop), .literal (hsame _ _ hvalue)⟩
  | number hne hd hstop hn =>
    obtain rfl := hs.eq_of_not_alpha (not_alpha_of_signed hd)
    exact ⟨t, .number hne hd (hr.forall_head Text.ignoresCase_isDigit hstop) hn, .refl t⟩
  | orderBy ho hne hb hl hstop =>
    obtain ⟨order', _, rfl, horder, hs⟩ := SameLetters.append_iff.1 hs
    obtain ⟨blanks', letters', rfl, hblanks, hletters⟩ := SameLetters.append_iff.1 hs
    refine ⟨_, .orderBy ?_ ?_ ?_ ?_ ?_, .refl _⟩
    · rwa [← spells_eq horder]
    · rintro rfl
      exact hne (SameLetters.nil_iff.1 hblanks.symm)
    · exact hblanks.forall_mem Text.ignoresCase_isBlank hb
    · rwa [← spells_eq hletters]
    · exact hr.forall_head Text.ignoresCase_isAlphabetic hstop
  | word hw hstop hb =>
    refine ⟨wordToken spelled', .word ?_ (hr.forall_head ignoresCase_inWord hstop) ?_, ?_⟩
    · rwa [← isWord_eq hs]
    · intro ho
      rw [← spells_eq hs] at ho
      exact afterBy?_eq_none_of_same hr (hb ho)
    · rw [wordToken, wordToken, ofWord?_eq hs]
      split
      · exact .refl _
      · exact .ident (by simpa using hs)

/-- **Texts with the same letters** spell tokens that are alike. -/
theorem Spells.alike {same : String → String → Prop}
    (hsame : ∀ v v' : List Char, SameLetters v v' → same (.ofList v) (.ofList v'))
    {text text' : List Char} {ts : List Token} (h : Spells text ts) (hs : SameLetters text text') :
    ∃ ts', Spells text' ts' ∧ List.Forall₂ (Token.Alike same) ts ts' := by
  induction ts generalizing text text' with
  | nil =>
    refine ⟨[], spells_nil_iff.2 ?_, .nil⟩
    exact hs.forall_mem Text.ignoresCase_isBlank (spells_nil_iff.1 h)
  | cons t ts ih =>
    obtain ⟨blanks, spelled, rest, rfl, hb, hl, hrest⟩ := spells_cons_iff.1 h
    obtain ⟨blanks', _, rfl, hblanks, hs⟩ := SameLetters.append_iff.1 hs
    obtain ⟨spelled', rest', rfl, hspelled, hs⟩ := SameLetters.append_iff.1 hs
    obtain ⟨t', hl', ht⟩ := hl.alike hsame hspelled hs
    obtain ⟨ts', hrest', hts⟩ := ih hrest hs
    refine ⟨t' :: ts', ?_, .cons ht hts⟩
    exact spells_cons_iff.2 ⟨blanks', spelled', rest', rfl,
      hblanks.forall_mem Text.ignoresCase_isBlank hb, hl', hrest'⟩

end Scan

/-! ## Deriving -/

namespace Grammar

variable {same : String → String → Prop} {ts ts' : List Token}

theorem lowerCase_eq_of_alike {name : String} {t : Token} (h : Token.Alike same (.ident name) t) :
    ∃ name', t = .ident name' ∧ Text.lowerCase name' = Text.lowerCase name := by
  cases h with
  | ident hn => exact ⟨_, rfl, hn.symm.lowerCase_eq⟩
  | refl => exact ⟨name, rfl, rfl⟩

theorem Literal.alike (hsame : Resembles same) {l l' : Token} {value : String}
    (h : Literal l value) (ha : l.Alike same l') : ∃ value', Literal l' value' ∧ same value value' := by
  cases h with
  | text value =>
    cases ha with
    | literal hv => exact ⟨_, .text _, hv⟩
    | refl => exact ⟨value, .text value, hsame.refl value⟩
  | number n =>
    cases ha with
    | refl => exact ⟨_, .number n, hsame.refl _⟩

theorem Operator.eq_of_alike {t t' : Token} {op : Comparator} (h : Operator t op)
    (ha : t.Alike same t') : t' = t ∧ op ≠ .found := by
  cases h <;> cases ha <;> exact ⟨rfl, nofun⟩

theorem Comparison.alike (hsame : Resembles same) {p : Predicate} (h : Comparison ts p)
    (ha : List.Forall₂ (Token.Alike same) ts ts') : ∃ p', Comparison ts' p' ∧ p.Alike same p' := by
  cases h with
  | columnFirst ho hl hv =>
    obtain _ | ⟨hname, _ | ⟨hop, _ | ⟨hlit, _ | _⟩⟩⟩ := ha
    obtain ⟨name', rfl, hlower⟩ := lowerCase_eq_of_alike hname
    obtain ⟨rfl, hfound⟩ := ho.eq_of_alike hop
    obtain ⟨value', hl', hv'⟩ := hl.alike hsame hlit
    refine ⟨_, .columnFirst ho hl' (hsame.ne_empty hv' hv), ?_⟩
    rw [hlower]
    exact .compared _ hfound hv'
  | literalFirst ho hl hv =>
    obtain _ | ⟨hlit, _ | ⟨hop, _ | ⟨hname, _ | _⟩⟩⟩ := ha
    obtain ⟨name', rfl, hlower⟩ := lowerCase_eq_of_alike hname
    obtain ⟨rfl, hfound⟩ := ho.eq_of_alike hop
    obtain ⟨value', hl', hv'⟩ := hl.alike hsame hlit
    refine ⟨_, .literalFirst ho hl' (hsame.ne_empty hv' hv), ?_⟩
    rw [hlower]
    exact .compared _ hfound hv'
  | like hl =>
    obtain _ | ⟨hname, _ | ⟨_ | _ | _, _ | ⟨hlit, _ | _⟩⟩⟩ := ha
    obtain ⟨name', rfl, hlower⟩ := lowerCase_eq_of_alike hname
    obtain ⟨pattern', hl', hv'⟩ := hl.alike hsame hlit
    refine ⟨_, .like hl', ?_⟩
    rw [hlower]
    exact .like _ hv'

theorem keyword_of_alike {op : Connective} {t : Token} (h : Token.Alike same (keyword op) t) :
    t = keyword op := by
  cases op <;> cases h <;> rfl

/-- **Conditions** of tokens that are alike. -/
theorem Condition.alike (hsame : Resembles same) {rank : Rank} {d : Nat} {p : Predicate}
    (h : Condition rank d ts p) (ha : List.Forall₂ (Token.Alike same) ts ts') :
    ∃ p', Condition rank d ts' p' ∧ p.Alike same p' := by
  induction h generalizing ts' with
  | comparison hc =>
    obtain ⟨p', hc', hp⟩ := hc.alike hsame ha
    exact ⟨p', .comparison hc', hp⟩
  | parentheses _ ih =>
    obtain ⟨front, back, rfl, hfront, hback⟩ := forall₂_append_left ha
    obtain _ | ⟨_ | _ | _, hinner⟩ := hfront
    obtain _ | ⟨_ | _ | _, _ | _⟩ := hback
    obtain ⟨p', hc', hp⟩ := ih hinner
    exact ⟨p', .parentheses hc', hp⟩
  | single _ ih =>
    obtain ⟨p', hc', hp⟩ := ih ha
    exact ⟨p', .single hc', hp⟩
  | join _ _ ihp ihq =>
    obtain ⟨left, right, rfl, hleft, hright⟩ := forall₂_append_left ha
    obtain _ | ⟨hk, hright⟩ := hright
    obtain rfl := keyword_of_alike hk
    obtain ⟨p', hcp, hp⟩ := ihp hleft
    obtain ⟨q', hcq, hq⟩ := ihq hright
    exact ⟨_, .join hcp hcq, .join _ hp hq⟩

theorem names_alike {names : List String}
    (ha : List.Forall₂ (Token.Alike same) ((names.map Token.ident).intersperse .comma) ts) :
    ∃ names' : List String, ts = (names'.map Token.ident).intersperse .comma ∧
      names'.map Text.lowerCase = names.map Text.lowerCase := by
  induction names generalizing ts with
  | nil =>
    cases ha
    exact ⟨[], rfl, rfl⟩
  | cons name names ih =>
    cases names with
    | nil =>
      obtain _ | ⟨hname, _ | _⟩ := ha
      obtain ⟨name', rfl, hlower⟩ := lowerCase_eq_of_alike hname
      exact ⟨[name'], rfl, by rw [List.map_singleton, List.map_singleton, hlower]⟩
    | cons n names =>
      obtain _ | ⟨hname, _ | ⟨_ | _ | _, hrest⟩⟩ := ha
      obtain ⟨name', rfl, hlower⟩ := lowerCase_eq_of_alike hname
      obtain ⟨names', rfl, hnames⟩ := ih hrest
      obtain ⟨n', names', rfl⟩ : ∃ n' ns, names' = n' :: ns := by
        cases names' with
        | nil => cases hnames
        | cons n' ns => exact ⟨n', ns, rfl⟩
      refine ⟨name' :: n' :: names', rfl, ?_⟩
      rw [List.map_cons, hlower, hnames]
      rfl

theorem Selection.alike {columns : List String} (h : Selection ts columns)
    (ha : List.Forall₂ (Token.Alike same) ts ts') : Selection ts' columns := by
  cases h with
  | all =>
    obtain _ | ⟨_ | _ | _, _ | _⟩ := ha
    exact .all
  | names hne =>
    obtain ⟨names', rfl, hlower⟩ := names_alike ha
    rw [← hlower]
    refine .names ?_
    rintro rfl
    exact hne (List.map_eq_nil_iff.1 hlower.symm)

theorem Filters.alike (hsame : Resembles same) {d : Nat} {filters : List Predicate}
    (h : Filters d ts filters) (ha : List.Forall₂ (Token.Alike same) ts ts') :
    ∃ filters', Filters d ts' filters' ∧ List.Forall₂ (Predicate.Alike same) filters filters' := by
  cases h with
  | none =>
    cases ha
    exact ⟨[], .none, .nil⟩
  | condition hc =>
    obtain _ | ⟨_ | _ | _, ha⟩ := ha
    obtain ⟨p', hc', hp⟩ := hc.alike hsame ha
    exact ⟨[p'], .condition hc', .cons hp .nil⟩

theorem Limit.alike {n : Nat} (h : Limit ts n) (ha : List.Forall₂ (Token.Alike same) ts ts') :
    Limit ts' n := by
  cases h with
  | none =>
    cases ha
    exact .none
  | rows hn =>
    obtain _ | ⟨_ | _ | _, _ | ⟨_ | _ | _, _ | _⟩⟩ := ha
    exact .rows hn

theorem Ending.alike (h : Ending ts) (ha : List.Forall₂ (Token.Alike same) ts ts') : Ending ts' := by
  cases h with
  | all =>
    cases ha
    exact .all
  | semicolon =>
    obtain _ | ⟨_ | _ | _, _⟩ := ha
    exact .semicolon _

/-- **Statements** of tokens that are alike. -/
theorem Body.alike (hsame : Resembles same) {d : Nat} {q : Query} (h : Body d ts q)
    (ha : List.Forall₂ (Token.Alike same) ts ts') : ∃ q', Body d ts' q' ∧ q.Alike same q' := by
  obtain @⟨selection, columns, name, source, table, d, condition, filters, rows, limit, hs, hn, hf,
    hl⟩ := h
  obtain ⟨front, rows', rfl, ha, hrows⟩ := forall₂_append_left ha
  obtain ⟨front, back, rfl, hfront, hback⟩ := forall₂_append_left ha
  obtain _ | ⟨_ | _ | _, hselection⟩ := hfront
  obtain _ | ⟨_ | _ | _, _ | ⟨hname, hcondition⟩⟩ := hback
  obtain ⟨name', rfl, hlower⟩ := lowerCase_eq_of_alike hname
  obtain ⟨filters', hf', hfilters⟩ := hf.alike hsame hcondition
  rw [← hlower] at hn
  exact ⟨_, .body (hs.alike hselection) hn hf' (hl.alike hrows), ⟨rfl, rfl, rfl, rfl, hfilters⟩⟩

end Grammar

namespace Statement

/-- A text that spells tokens like those of one that is read is read as a query that is alike. -/
theorem parse_alike_of_spells {same : String → String → Prop} (hsame : Resembles same)
    {text text' : String}
    (hs : ∀ ts, Scan.Spells text.toList ts →
      ∃ ts', Scan.Spells text'.toList ts' ∧ List.Forall₂ (Token.Alike same) ts ts') {q : Query}
    (h : (parse text).value = .ok q) : ∃ q', (parse text').value = .ok q' ∧ q.Alike same q' := by
  obtain ⟨d, body, ending, hspells, hb, he, hd, hh⟩ := parse_eq_ok_iff.1 h
  obtain ⟨ts', hspells', ha⟩ := hs _ hspells
  obtain ⟨body', ending', rfl, hbody, hending⟩ := forall₂_append_left ha
  obtain ⟨q', hb', hq⟩ := hb.alike hsame hbody
  refine ⟨q', parse_eq_ok_iff.2 ⟨d, body', ending', hspells', hb', he.alike hending, hd, ?_⟩, hq⟩
  exact forall_height_le hq.filters hh

/-- **A text with the same letters** as one that is read is read as a query that is alike. -/
theorem parse_alike {same : String → String → Prop} (hsame : Resembles same)
    (hletters : ∀ v v' : List Char, SameLetters v v' → same (.ofList v) (.ofList v'))
    {text text' : String} (hs : SameLetters text.toList text'.toList) {q : Query}
    (h : (parse text).value = .ok q) : ∃ q', (parse text').value = .ok q' ∧ q.Alike same q' :=
  parse_alike_of_spells hsame (fun _ hspells => hspells.alike hletters hs) h

end Statement

end FederatedQuery
