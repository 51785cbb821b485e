/-
  Reading patterns.

  A pattern is a choice between branches with `|` between them; a branch is a sequence of pieces; a
  piece is a character, a class, a boundary or a group in parentheses, perhaps with a repetition.

  * `Piece`: a form with its nesting, `Body`: what has been read of a group so far;
  * `PatternReader.repetition?`, `.opening?`, `.atom?`: the parts;
  * `PatternReader.body`, `PatternReader.group`: reading a group;
  * `Form.read?`: the form of the pattern that a text spells.  There is none for a text that breaks
    the rules or nests deeper than `maxNesting`;
  * `Pattern.read?`: the pattern that a text spells, unless it is too large to be looked for.
-/
import FederatedQuery.Pattern.Automaton.Size
import FederatedQuery.Pattern.Bracket

namespace FederatedQuery

/-! ## Pieces and bodies -/

/-- A form, with the number of groups, classes, repetitions, sequences and choices nested in it. -/
structure Piece where
  form : Form
  depth : Nat := 0
  /-- Changes of the settings stand among the pieces, but cannot be repeated. -/
  repeatable : Bool := true
  deriving DecidableEq, Repr

/-- A sequence of pieces. -/
def Piece.sequence (pieces : List Piece) : Piece :=
  match pieces with
  | [] => { form := .empty }
  | [p] => p
  | ps => {
      form := .catAll (ps.map Piece.form)
      depth := (ps.map Piece.depth).foldr max 0 + 1 }

/-- A choice between pieces. -/
def Piece.choice (pieces : List Piece) : Piece :=
  match pieces with
  | [p] => p
  | ps => {
      form := .altAll (ps.map Piece.form)
      depth := (ps.map Piece.depth).foldr max 0 + 1 }

/-- What has been read of a group. -/
structure Body where
  flags : PatternFlags
  /-- The names of all groups so far. -/
  names : List String
  /-- The finished branches, in reverse. -/
  branches : List Piece := []
  /-- The pieces of the current branch, in reverse. -/
  pieces : List Piece := []
  deriving Repr

namespace Body

/-- One more piece. -/
def add (b : Body) (p : Piece) : Body := { b with pieces := p :: b.pieces }

/-- Other settings from here on. -/
def change (b : Body) (flags : PatternFlags) : Body :=
  { b.add { form := .empty, repeatable := false } with flags }

/-- The current branch ends. -/
def endBranch (b : Body) : Body :=
  { b with branches := Piece.sequence b.pieces.reverse :: b.branches, pieces := [] }

/-- Everything that has been read. -/
def piece (b : Body) : Piece := Piece.choice b.endBranch.branches.reverse

/-- The last piece is repeated. -/
def repeat? (b : Body) (r : Repetition) : Option Body :=
  match b.pieces with
  | p :: pieces =>
    if p.repeatable then
      some { b with pieces := { form := .repeated r p.form, depth := p.depth + 1 } :: pieces }
    else none
  | [] => none

end Body

namespace PatternReader

/-! ## Repetitions -/

/-- A repetition and the text behind it.  A question mark there, which is not part of that text,
    changes whether fewer repetitions are preferred to more. -/
def preferred (f : PatternFlags) (least : Nat) (most : Option Nat) (input : List Char) :
    Repetition × List Char :=
  match input with
  | '?' :: rest => (⟨least, most, !f.shortest⟩, rest)
  | input => (⟨least, most, f.shortest⟩, input)

/-- Reads digits behind those of `done` (in reverse). -/
def digits (f : PatternFlags) (done : List Char) (input : List Char) : List Char × List Char :=
  match input with
  | c :: rest => if c.isDigit then digits f (c :: done) (f.skip rest) else (done.reverse, c :: rest)
  | [] => (done.reverse, [])
termination_by input.length
decreasing_by have := f.length_skip_le rest; simp; omega

/-- Reads a number of repetitions, with blanks around it; there is no number without digits. -/
def count? (f : PatternFlags) (input : List Char) : Option Nat × List Char :=
  let (ds, rest) := digits f [] (input.dropWhile Text.isBlank)
  (if ds.isEmpty then none else Decimal.read? (Nat.pow 2 32 - 1) ds, rest.dropWhile Text.isBlank)

/-- Reads one or two numbers of repetitions and the closing brace. -/
def counted? (f : PatternFlags) (input : List Char) : Option (Repetition × List Char) :=
  match count? f (f.skip input) with
  | (some n, '\x7d' :: rest) => some (preferred f n (some n) (f.skip rest))
  | (some least, ',' :: rest) =>
    match f.skip rest with
    | '\x7d' :: rest => some (preferred f least none (f.skip rest))
    | rest =>
      match count? f rest with
      | (some most, '\x7d' :: rest) =>
        if least ≤ most then some (preferred f least (some most) (f.skip rest)) else none
      | _ => none
  | _ => none

/-- Reads a repetition that begins with the given character. -/
def repetition? (f : PatternFlags) (c : Char) (rest : List Char) :
    Option (Repetition × List Char) :=
  match c with
  | '*' => some (preferred f 0 none rest)
  | '+' => some (preferred f 1 none rest)
  | '?' => some (preferred f 0 (some 1) rest)
  | _ => counted? f rest

/-- The characters with which a repetition begins. -/
def beginsRepetition (c : Char) : Bool := c = '*' || c = '+' || c = '?' || c = '\x7b'

theorem length_preferred_le (f : PatternFlags) (least : Nat) (most : Option Nat)
    (input : List Char) : (preferred f least most input).2.length ≤ input.length := by
  unfold preferred
  split <;> simp

theorem length_of_preferred {f : PatternFlags} {least : Nat} {most : Option Nat}
    {input rest : List Char} {r : Repetition}
    (h : some (preferred f least most input) = some (r, rest)) : rest.length ≤ input.length := by
  have := length_preferred_le f least most input
  rw [Option.some.inj h] at this
  exact this

theorem length_digits_le (f : PatternFlags) (done input : List Char) :
    (digits f done input).2.length ≤ input.length := by
  fun_induction digits f done input with
  | case1 _ _ rest _ ih => have := f.length_skip_le rest; simp; omega
  | case2 => exact Nat.le_refl _
  | case3 => exact Nat.le_refl _

theorem length_count?_le (f : PatternFlags) (input : List Char) :
    (count? f input).2.length ≤ input.length := by
  have blanks (cs : List Char) : (cs.dropWhile Text.isBlank).length ≤ cs.length :=
    (List.dropWhile_sublist _).length_le
  exact Nat.le_trans (blanks _) (Nat.le_trans (length_digits_le f [] _) (blanks input))

theorem length_of_counted? {f : PatternFlags} {input rest : List Char} {r : Repetition}
    (h : counted? f input = some (r, rest)) : rest.length ≤ input.length := by
  have le := Nat.le_trans (length_count?_le f (f.skip input)) (f.length_skip_le input)
  unfold counted? at h
  split at h
  · next after hc =>
    have := Nat.le_trans (length_of_preferred h) (f.length_skip_le after)
    simp [hc] at le
    omega
  · next after hc =>
    have skipped := f.length_skip_le after
    simp [hc] at le
    split at h
    · next after' hs =>
      have := Nat.le_trans (length_of_preferred h) (f.length_skip_le after')
      simp [hs] at skipped
      omega
    · have le' := length_count?_le f (f.skip after)
      split at h
      · next after' hc' =>
        split at h
        · have := Nat.le_trans (length_of_preferred h) (f.length_skip_le after')
          simp [hc'] at le'
          omega
        · cases h
      · cases h
  · cases h

theorem length_of_repetition? {f : PatternFlags} {c : Char} {input rest : List Char}
    {r : Repetition} (h : repetition? f c input = some (r, rest)) :
    rest.length ≤ input.length := by
  unfold repetition? at h
  split at h
  · exact length_of_preferred h
  · exact length_of_preferred h
  · exact length_of_preferred h
  · exact length_of_counted? h

/-! ## Groups -/

/-- What an opening parenthesis begins. -/
inductive Opening where
  /-- No group, but other settings for the rest of the one around it. -/
  | settings (flags : PatternFlags)
  /-- A group with settings of its own, and perhaps a name, and whether it keeps what it covers. -/
  | group (keeps : Bool) (flags : PatternFlags) (name : Option String)
  deriving DecidableEq, Repr

/-- The characters of which the name of a group consists, with fewer for the first one. -/
def inName (first : Bool) (c : Char) : Bool :=
  if first then c = '_' || Text.isAlphabetic c
  else c = '_' || c = '.' || c = '[' || c = ']' || Text.isAlphanumeric c

/-- Reads a name up to the bracket behind it, behind the characters of `done` (in reverse). -/
def name? (done : List Char) : List Char → Option (String × List Char)
  | [] => none
  | c :: rest =>
    if c = '>' then (if done.isEmpty then none else some (String.ofList done.reverse, rest))
    else if inName done.isEmpty c then name? (c :: done) rest
    else none

/-- Whether something is asked of the text around a place, which no pattern may do. -/
def looksAround : List Char → Bool
  | '?' :: '=' :: _ | '?' :: '!' :: _ | '?' :: '<' :: '=' :: _ | '?' :: '<' :: '!' :: _ => true
  | _ => false

/-- Reads what an opening parenthesis begins, behind it. -/
def opening? (f : PatternFlags) (input : List Char) : Option (Opening × List Char) :=
  let input := f.skip input
  if looksAround input then none
  else
    match input with
    | '?' :: 'P' :: '<' :: rest | '?' :: '<' :: rest =>
      (name? [] rest).map fun (name, rest) => (.group true f (some name), rest)
    | '?' :: rest =>
      match PatternFlags.read? rest with
      | some (changes, ':', rest) => some (.group false (f.change true changes) none, rest)
      | some (changes, _, rest) =>
        if changes.isEmpty then none else some (.settings (f.change true changes), rest)
      | none => none
    | rest => some (.group true f none, rest)

theorem length_of_name? {done input rest : List Char} {name : String}
    (h : name? done input = some (name, rest)) : rest.length < input.length := by
  induction input generalizing done with
  | nil => cases h
  | cons c input ih =>
    unfold name? at h
    split at h
    · split at h
      · cases h
      · cases h; exact Nat.lt_succ_self _
    · split at h
      · have := ih h; simp; omega
      · cases h

theorem length_of_opening? {f : PatternFlags} {input rest : List Char} {o : Opening}
    (h : opening? f input = some (o, rest)) : rest.length ≤ input.length := by
  have le := f.length_skip_le input
  unfold opening? at h
  simp only at h
  split at h
  · cases h
  · split at h
    · next hs =>
      obtain ⟨⟨name, after⟩, hn, h⟩ := Option.map_eq_some_iff.1 h
      cases h
      have := length_of_name? hn
      simp only [hs, List.length_cons] at le
      simp only at this ⊢
      omega
    · next hs =>
      obtain ⟨⟨name, after⟩, hn, h⟩ := Option.map_eq_some_iff.1 h
      cases h
      have := length_of_name? hn
      simp only [hs, List.length_cons] at le
      simp only at this ⊢
      omega
    · next hs =>
      simp [hs] at le
      split at h
      · next hr => cases h; have := PatternFlags.length_of_readOnto hr; omega
      · next hr =>
        have := PatternFlags.length_of_readOnto hr
        split at h
        · cases h
        · cases h; omega
      · cases h
    · cases h; exact le

/-! ## Single pieces -/

/-- The class for the full stop.  Without Unicode it would cover single bytes, so it is refused. -/
def dot? (f : PatternFlags) : Option CharClass :=
  if !f.unicode then none
  else if f.dotNewline then some .anything
  else if f.anyNewline then some (.complement (.union (.letter '\r') (.letter '\n')))
  else some (.complement (.letter '\n'))

/-- The boundary for the anchor at the beginning. -/
def startAnchor (f : PatternFlags) : Boundary :=
  if f.multiLine then (if f.anyNewline then .anyLineStart else .lineStart) else .textStart

/-- The boundary for the anchor at the end. -/
def endAnchor (f : PatternFlags) : Boundary :=
  if f.multiLine then (if f.anyNewline then .anyLineEnd else .lineEnd) else .textEnd

/-- A single character as a form. -/
def literal (f : PatternFlags) (c : Char) : Form := .one (f.letter c)

/-- What an escape stands for. -/
def escaped (f : PatternFlags) : Escape → Form
  | .letter c => literal f c
  | .class_ k => .one k
  | .boundary b => .boundary b

/-- Reads a piece that is neither a group nor a class in brackets. -/
def atom? (f : PatternFlags) : List Char → Option (Form × List Char)
  | [] => none
  | '\\' :: rest => (Escape.read? f rest).map fun (e, rest) => (escaped f e, rest)
  | '.' :: rest => (dot? f).map fun k => (.one k, rest)
  | '^' :: rest => some (.boundary (startAnchor f), rest)
  | '$' :: rest => some (.boundary (endAnchor f), rest)
  | c :: rest => some (literal f c, rest)

theorem length_of_atom? {f : PatternFlags} {input rest : List Char} {g : Form}
    (h : atom? f input = some (g, rest)) : rest.length < input.length := by
  unfold atom? at h
  split at h
  · cases h
  · obtain ⟨e, h⟩ := Escape.exists_of_map h
    have := Escape.length_of_read? h
    simp
    omega
  · obtain ⟨k, -, h⟩ := Option.map_eq_some_iff.1 h; cases h; exact Nat.lt_succ_self _
  · cases h; exact Nat.lt_succ_self _
  · cases h; exact Nat.lt_succ_self _
  · cases h; exact Nat.lt_succ_self _

/-! ## Groups and patterns -/

/-- The names with one more, which must be a new one. -/
def declare? (names : List String) : Option String → Option (List String)
  | none => some names
  | some name => if name ∈ names then none else some (name :: names)

/-- Reads on in a group, up to a closing parenthesis or the end of the text, given how a group in it
    is read behind its opening parenthesis. -/
def body (nested : PatternFlags → List String → CharReader (Piece × List String)) (b : Body)
    (input : List Char) (bound : Nat) (h : input.length ≤ bound) :
    Option (Body × { rest : List Char // rest.length ≤ bound }) :=
  match _h : b.flags.skip input with
  | [] => some (b, ⟨[], Nat.zero_le _⟩)
  | c :: rest =>
    have le : rest.length + 1 ≤ input.length := by
      have := b.flags.length_skip_le input
      simpa [_h] using this
    if c = ')' then some (b, ⟨c :: rest, by simp; omega⟩)
    else if c = '|' then body nested b.endBranch rest bound (by omega)
    else if c = '(' then
      match ho : opening? b.flags rest with
      | some (.settings flags, after) =>
        have := length_of_opening? ho
        body nested (b.change flags) after bound (by omega)
      | some (.group keeps flags name, after) =>
        have := length_of_opening? ho
        match declare? b.names name with
        | some names =>
          match nested flags names after with
          | some ((p, names), ⟨after', shorter⟩) =>
            let p : Piece := { form := .group keeps p.form, depth := p.depth + 1 }
            body nested ({ b with names }.add p) after' bound (by omega)
          | none => none
        | none => none
      | none => none
    else if c = '[' then
      match Bracket.read b.flags maxNesting rest with
      | some (part, ⟨after, shorter⟩) =>
        body nested (b.add { form := .one part.class_, depth := part.depth }) after bound
          (by omega)
      | none => none
    else if beginsRepetition c then
      match hr : repetition? b.flags c rest with
      | some (r, after) =>
        have := length_of_repetition? hr
        match b.repeat? r with
        | some b => body nested b after bound (by omega)
        | none => none
      | none => none
    else
      match ha : atom? b.flags (c :: rest) with
      | some (form, after) =>
        have : after.length < rest.length + 1 := length_of_atom? ha
        body nested (b.add { form }) after bound (by omega)
      | none => none
termination_by input.length
decreasing_by all_goals omega

/-- Reads a group behind its opening parenthesis, in which at most `levels` groups nest. -/
def group (levels : Nat) (flags : PatternFlags) (names : List String) :
    CharReader (Piece × List String) := fun input =>
  match levels with
  | 0 => none
  | levels + 1 =>
    match body (group levels) { flags, names } input input.length (Nat.le_refl _) with
    | some (b, ⟨')' :: rest, h⟩) => some ((b.piece, b.names), ⟨rest, by simp at h; omega⟩)
    | _ => none

end PatternReader

/-- The form of the pattern that a text spells. -/
def Form.read? (text : String) : Option Form :=
  match PatternReader.body (PatternReader.group maxNesting) { flags := {}, names := [] }
      text.toList text.toList.length (Nat.le_refl _) with
  | some (b, ⟨[], _⟩) => if b.piece.depth ≤ maxNesting then some b.piece.form else none
  | _ => none

/-- The pattern that a text spells, unless it is too large. -/
def Pattern.read? (text : String) : Option Pattern :=
  (Form.read? text).bind fun f => if f.fits then some f.pattern else none

end FederatedQuery
