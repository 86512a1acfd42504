import OrderDesk.Log.Pattern.Mode
import OrderDesk.Text.Integer

/-!
# Items of a pattern

An item stands for one character or for a place between two. Most characters stand for
themselves; a backslash begins an escape. Which items are sound depends on the mode: there are
no tables of character classes and no pairs of cases beyond ASCII, and a pattern never
matches a part of a character.
-/

namespace OrderDesk.Pattern

open OrderDesk.Text

/-- The smallest part of a pattern. -/
inductive Item
  | char (c : Char)
  /-- A character by two hexadecimal digits: among bytes, a byte. -/
  | byte (c : Char)
  /-- Any character. -/
  | any
  /-- Digits, blanks or word characters, or all others. -/
  | shorthand (negated : Bool)
  /-- The start or the end of a line or of the text. -/
  | edge
  /-- The start or the end of a word, or neither. -/
  | wordEdge
  deriving DecidableEq

namespace Item

/-- The item can be matched in a mode. -/
def isSound (mode : Mode) : Item → Bool
  | .char _ => !(mode.unicode && mode.ignoresCase)
  | .byte c => if mode.unicode then !mode.ignoresCase else c.toNat < 0x80
  | .any => mode.unicode
  | .shorthand negated => !mode.unicode && !negated
  | .edge => true
  | .wordEdge => !mode.unicode

/-- The item can stand in brackets in a mode. -/
def isSoundMember (mode : Mode) : Item → Bool
  | .char c => if mode.unicode then !mode.ignoresCase else c.toNat < 0x80
  | .any | .edge | .wordEdge => false
  | item => item.isSound mode

/-- The character that the item stands for. -/
def literal? : Item → Option Char
  | .char c => some c
  | .byte c => some c
  | _ => none

/-! ### Reading -/

/-- Reads a number of hexadecimal digits. -/
def hexDigits? (mode : Mode) : Nat → List Char → Option (List Nat × List Char)
  | 0, cs => some ([], cs)
  | count + 1, cs =>
    match mode.skip cs with
    | [] => none
    | c :: rest => do
      let digit ← hexDigit? c
      let (digits, rest) ← hexDigits? mode count rest
      return (digit :: digits, rest)

/-- Reads a character by its hexadecimal digits. -/
def hexChar? (mode : Mode) (count : Nat) (cs : List Char) : Option (Char × List Char) := do
  let (digits, rest) ← hexDigits? mode count cs
  let n := digits.foldl (fun n digit => 16 * n + digit) 0
  if n.isValidChar then return (Char.ofNat n, rest) else none

/-- The item that a backslash and one character stand for. -/
def ofEscape? : Char → Option Item
  | 'a' => some (.char '\x07')
  | 't' => some (.char '\t')
  | 'n' => some (.char '\n')
  | 'v' => some (.char '\x0b')
  | 'f' => some (.char '\x0c')
  | 'r' => some (.char '\r')
  | 'd' | 's' | 'w' => some (.shorthand false)
  | 'D' | 'S' | 'W' => some (.shorthand true)
  | 'A' | 'z' => some .edge
  | 'b' | 'B' | '<' | '>' => some .wordEdge
  | c => if c.toNat < 0x80 && !c.isAlphanum then some (.char c) else none

/-- Reads what stands behind a backslash. -/
def escape? (mode : Mode) : List Char → Option (Item × List Char)
  | [] => none
  | 'x' :: rest => (hexChar? mode 2 rest).map fun (c, rest) => (.byte c, rest)
  | 'u' :: rest => (hexChar? mode 4 rest).map fun (c, rest) => (.char c, rest)
  | 'U' :: rest => (hexChar? mode 8 rest).map fun (c, rest) => (.char c, rest)
  | c :: rest => (ofEscape? c).map fun item => (item, rest)

/-- Reads an item in brackets, where only a backslash is special. -/
def member? (mode : Mode) : List Char → Option (Item × List Char)
  | [] => none
  | '\\' :: rest => escape? mode rest
  | c :: rest => some (.char c, rest)

/-! ### Laws -/

theorem length_hexDigits?_le {mode : Mode} {count : Nat} {cs rest : List Char}
    {digits : List Nat} (h : hexDigits? mode count cs = some (digits, rest)) :
    rest.length ≤ cs.length := by
  induction count generalizing cs digits with
  | zero => simp_all [hexDigits?]
  | succ count ih =>
    have := mode.length_skip_le cs
    unfold hexDigits? at h
    split at h
    · simp at h
    · next hc =>
      simp only [Option.bind_eq_bind, Option.bind_eq_some_iff, Prod.exists, Option.pure_def,
        Option.some.injEq, Prod.mk.injEq] at h
      obtain ⟨_, _, _, _, h, _, rfl⟩ := h
      have := ih h
      simp only [hc, List.length_cons] at *
      omega

theorem length_hexChar?_le {mode : Mode} {count : Nat} {c : Char} {cs rest : List Char}
    (h : hexChar? mode count cs = some (c, rest)) : rest.length ≤ cs.length := by
  simp only [hexChar?, Option.bind_eq_bind, Option.bind_eq_some_iff, Prod.exists] at h
  obtain ⟨_, _, h, h'⟩ := h
  have := length_hexDigits?_le h
  grind

theorem length_escape?_lt {mode : Mode} {item : Item} {cs rest : List Char}
    (h : escape? mode cs = some (item, rest)) : rest.length < cs.length := by
  unfold escape? at h
  split at h
  · simp at h
  all_goals
    simp only [Option.map_eq_some_iff, Prod.exists, Prod.mk.injEq] at h
  · obtain ⟨_, _, h, _, rfl⟩ := h
    have := length_hexChar?_le h
    simp only [List.length_cons]
    omega
  · obtain ⟨_, _, h, _, rfl⟩ := h
    have := length_hexChar?_le h
    simp only [List.length_cons]
    omega
  · obtain ⟨_, _, h, _, rfl⟩ := h
    have := length_hexChar?_le h
    simp only [List.length_cons]
    omega
  · obtain ⟨_, _, _, rfl⟩ := h
    simp

theorem length_member?_lt {mode : Mode} {item : Item} {cs rest : List Char}
    (h : member? mode cs = some (item, rest)) : rest.length < cs.length := by
  unfold member? at h
  split at h
  · simp at h
  · have := length_escape?_lt h
    simp only [List.length_cons]
    omega
  · simp_all

end Item

end OrderDesk.Pattern
