import OrderDesk.Text.Blank

/-!
# Modes of a pattern

A pattern begins in the standard mode, and letters in it switch the mode: `(?i)` from there
on to the end of the group, `(?i:…)` for a group of its own. In the verbose mode blanks
count for nothing, nor does what stands between `#` and the end of its line.
-/

namespace OrderDesk.Pattern

open OrderDesk.Text

/-- How the characters of a pattern are taken. -/
structure Mode where
  /-- The pattern is about characters, and not about bytes. -/
  unicode : Bool
  /-- Letters stand for both of their cases. -/
  ignoresCase : Bool
  /-- Blanks and comments may stand between the parts. -/
  verbose : Bool
  deriving DecidableEq

namespace Mode

/-- The mode in which a pattern begins. -/
def standard : Mode := ⟨true, false, false⟩

/-- The letters that switch something. Those that tell how lines and repetitions are matched
have no part in whether a pattern is sound. -/
def letters : List Char := ['i', 'm', 's', 'U', 'u', 'R', 'x']

/-- The mode after letters, of which those behind a hyphen switch off. Each of them stands
there once, and a hyphen is not the last of them. -/
def switched? (mode : Mode) (switches : List Char) : Option Mode :=
  let on := switches.takeWhile (· != '-')
  let off := switches.dropWhile (· != '-')
  let setting (letter : Char) (old : Bool) : Bool :=
    on.contains letter || old && !off.contains letter
  if switches.all ('-' :: letters).contains ∧ switches.Nodup ∧ switches.getLast? ≠ some '-' then
    some ⟨setting 'u' mode.unicode, setting 'i' mode.ignoresCase, setting 'x' mode.verbose⟩
  else none

/-! ### Blanks and comments -/

/-- What is left behind blanks and comments, at a place that may be inside of a comment. -/
def behindComments (inComment : Bool) : List Char → List Char
  | [] => []
  | c :: cs =>
    if inComment then behindComments (c != '\n') cs
    else if c == '#' then behindComments true cs
    else if isBlank c then behindComments false cs
    else c :: cs

/-- What is left behind that which counts for nothing. -/
def skip (mode : Mode) (cs : List Char) : List Char :=
  if mode.verbose then behindComments false cs else cs

/-- The character behind blanks and one sign of a comment. -/
def glimpse? (signPassed : Bool) : List Char → Option Char
  | [] => none
  | c :: cs =>
    if isBlank c then glimpse? signPassed cs
    else if c == '#' && !signPassed then glimpse? true cs
    else some c

/-- The character that comes next, as far as it is looked ahead. A comment is not passed, but
the sign at its start is. -/
def next? (mode : Mode) (cs : List Char) : Option Char :=
  if mode.verbose then (glimpse? false cs).or cs.head? else cs.head?

/-! ### Laws -/

theorem length_behindComments_le (inComment : Bool) (cs : List Char) :
    (behindComments inComment cs).length ≤ cs.length := by
  fun_induction behindComments inComment cs <;> grind

theorem length_skip_le (mode : Mode) (cs : List Char) : (mode.skip cs).length ≤ cs.length := by
  unfold skip
  split
  · exact length_behindComments_le false cs
  · exact Nat.le_refl _

end Mode

end OrderDesk.Pattern
