/-
  Settings for the reading of a pattern.

  * `PatternFlags`: the settings, which a pattern may change as it goes, and
    `PatternFlags.set`: one of them by its letter;
  * `PatternFlags.skip`: a text without what the settings say to ignore at its front;
  * `PatternFlags.read?`: the changes at the front of a text.
-/
import FederatedQuery.Text.Blank

namespace FederatedQuery

/-- Settings for the reading of a pattern. -/
structure PatternFlags where
  /-- Letters stand for all their case variants. -/
  ignoreCase : Bool := true
  /-- Anchors mean the ends of lines. -/
  multiLine : Bool := false
  /-- The full stop stands for line feeds as well. -/
  dotNewline : Bool := false
  /-- Lines end with a carriage return, a line feed or both. -/
  anyNewline : Bool := false
  /-- Classes with a letter go beyond ASCII. -/
  unicode : Bool := true
  /-- Blanks and comments in the pattern mean nothing. -/
  verbose : Bool := false
  /-- Fewer repetitions are preferred to more. -/
  shortest : Bool := false
  deriving DecidableEq, Repr

namespace PatternFlags

/-- Switches the setting with the given letter on or off. -/
def set (f : PatternFlags) (letter : Char) (on : Bool) : PatternFlags :=
  match letter with
  | 'i' => { f with ignoreCase := on }
  | 'm' => { f with multiLine := on }
  | 's' => { f with dotNewline := on }
  | 'R' => { f with anyNewline := on }
  | 'u' => { f with unicode := on }
  | 'x' => { f with verbose := on }
  | 'U' => { f with shortest := on }
  | _ => f

/-- Applies changes in order: letters switch on, and off behind a minus sign. -/
def change (f : PatternFlags) (on : Bool) : List Char → PatternFlags
  | [] => f
  | '-' :: letters => change f false letters
  | letter :: letters => change (f.set letter on) on letters

/-- A text without blanks and comments at its front; a comment goes on to the end of its line. -/
def skipComments (inComment : Bool) : List Char → List Char
  | [] => []
  | c :: rest =>
    if inComment then skipComments (c ≠ '\n') rest
    else if Text.isBlank c then skipComments false rest
    else if c = '#' then skipComments true rest
    else c :: rest

/-- A text without what is ignored at its front. -/
def skip (f : PatternFlags) (input : List Char) : List Char :=
  if f.verbose then skipComments false input else input

theorem length_skipComments_le (inComment : Bool) (input : List Char) :
    (skipComments inComment input).length ≤ input.length := by
  fun_induction skipComments inComment input <;> simp_all <;> omega

theorem length_skip_le (f : PatternFlags) (input : List Char) :
    (f.skip input).length ≤ input.length := by
  unfold skip
  split
  · exact length_skipComments_le false input
  · exact Nat.le_refl _

/-- The letters of the settings. -/
def letters : List Char := ['i', 'm', 's', 'U', 'u', 'R', 'x']

/-- Reads letters and at most one minus sign up to a colon or a closing parenthesis, behind those of
    `seen` (in reverse).  No letter may come twice, and one has to follow the minus sign. -/
def readOnto (seen : List Char) : List Char → Option (List Char × Char × List Char)
  | [] => none
  | c :: rest =>
    if c = ':' ∨ c = ')' then
      if seen.head? = some '-' then none else some (seen.reverse, c, rest)
    else if (c = '-' ∨ c ∈ letters) ∧ c ∉ seen then readOnto (c :: seen) rest
    else none

/-- Reads changes of the settings, and the character that ends them. -/
def read? (input : List Char) : Option (List Char × Char × List Char) := readOnto [] input

theorem length_of_readOnto {seen input changes rest : List Char} {last : Char}
    (h : readOnto seen input = some (changes, last, rest)) : rest.length < input.length := by
  induction input generalizing seen with
  | nil => cases h
  | cons c input ih =>
    unfold readOnto at h
    repeat' split at h
    · cases h
    · simp at h; simp [h.2.2]
    · have := ih h; simp; omega
    · cases h

end PatternFlags

end FederatedQuery
