import OrderDesk.Log.Pattern.Item

/-!
# Brackets of a pattern

A bracket stands for one character out of a set: characters, ranges, named classes and other
brackets side by side, and such sets with `&&`, `--` or `~~` between them. The first hyphens
stand for themselves, and so does a closing bracket before which nothing stands.

A bracket is read sign by sign. The brackets that are still open stand on a list, the
innermost one apart.
-/

namespace OrderDesk.Pattern

/-- The depth of what stands side by side: two things or more lie within a whole. -/
def depthBeside : List Nat → Nat
  | [] => 0
  | [depth] => depth
  | depths => 1 + depths.foldl max 0

/-- A bracket that is still open. -/
structure Bracket where
  /-- The depths of the members behind the last operator, the last one first. -/
  members : List Nat
  /-- The depth of what stands before the last operator. -/
  left : Option Nat
  /-- Only hyphens have been read. -/
  fresh : Bool
  deriving DecidableEq

namespace Bracket

/-- A bracket of which nothing has been read. -/
def empty : Bracket := ⟨[], none, true⟩

/-- The bracket with a member more. -/
def push (bracket : Bracket) (depth : Nat) : Bracket :=
  { bracket with members := depth :: bracket.members, fresh := false }

/-- The depth of the set read so far. -/
def depth (bracket : Bracket) : Nat :=
  match bracket.left with
  | none => depthBeside bracket.members
  | some left => 1 + max left (depthBeside bracket.members)

/-- The bracket behind an operator. -/
def operate (bracket : Bracket) : Bracket := ⟨[], some bracket.depth, false⟩

/-! ### Signs -/

/-- What a bracket is made of. -/
inductive Sign
  /-- A character, a range or a class. -/
  | member
  /-- A hyphen at the start. -/
  | hyphen
  | operator
  | opening
  | closing
  deriving DecidableEq

/-- The names of classes. -/
def classNames : List String :=
  ["alnum", "alpha", "ascii", "blank", "cntrl", "digit", "graph", "lower", "print", "punct",
   "space", "upper", "word", "xdigit"]

/-- Reads the name of a class with the end of its bracket. -/
def className? (cs : List Char) : Option (List Char) :=
  match cs.dropWhile (· != ':') with
  | ':' :: ']' :: rest =>
    if classNames.contains (String.ofList (cs.takeWhile (· != ':'))) then some rest else none
  | _ => none

/-- Reads a class behind its first bracket; `true` stands for all that is not in it. -/
def class? : List Char → Option (Bool × List Char)
  | ':' :: '^' :: rest => (className? rest).map (true, ·)
  | ':' :: rest => (className? rest).map (false, ·)
  | _ => none

/-- What is left behind an opening bracket and the sign for all that is not in the set. Among
bytes no such set is sound. -/
def opening? (mode : Mode) (cs : List Char) : Option (List Char) :=
  match mode.skip cs with
  | '^' :: rest => if mode.unicode then some rest else none
  | rest => some rest

/-- A hyphen before these characters makes a range. -/
def makesRange (mode : Mode) (cs : List Char) : Bool :=
  match mode.next? cs with
  | some ']' | some '-' => false
  | _ => true

/-- Two items are the ends of a range. -/
def isRange (mode : Mode) (first last : Item) : Bool :=
  match first.literal?, last.literal? with
  | some c, some d => c ≤ d && first.isSoundMember mode && last.isSoundMember mode
  | _, _ => false

/-- Reads an item or a range. Something has to follow it. -/
def member? (mode : Mode) (cs : List Char) : Option (List Char) := do
  let (first, rest) ← Item.member? mode cs
  let alone := if first.isSoundMember mode then some (mode.skip rest) else none
  match mode.skip rest with
  | [] => none
  | '-' :: behind =>
    if makesRange mode behind then do
      let (last, rest) ← Item.member? mode (mode.skip behind)
      if isRange mode first last then return rest else none
    else alone
  | _ => alone

/-- Reads a sign in a bracket. -/
def sign? (mode : Mode) (bracket : Bracket) (cs : List Char) : Option (Sign × List Char) :=
  let member := (member? mode cs).map fun rest => (Sign.member, rest)
  match cs with
  | '[' :: rest =>
    match class? rest with
    | some (negated, rest) =>
      if (if mode.unicode then mode.ignoresCase else negated) then none else some (.member, rest)
    | none => (opening? mode rest).map fun rest => (.opening, rest)
  | ']' :: rest =>
    if bracket.fresh && bracket.members.isEmpty then some (.member, rest)
    else some (.closing, rest)
  | '-' :: rest =>
    if bracket.fresh then some (.hyphen, rest)
    else
      match rest with
      | '-' :: rest => some (.operator, rest)
      | _ => member
  | '&' :: '&' :: rest => some (.operator, rest)
  | '~' :: '~' :: rest => some (.operator, rest)
  | _ => member

/-! ### Laws of signs -/

theorem length_className?_le {cs rest : List Char} (h : className? cs = some rest) :
    rest.length ≤ cs.length := by
  have := (cs.dropWhile_suffix (· != ':')).length_le
  grind [className?]

theorem length_class?_le {cs rest : List Char} {negated : Bool}
    (h : class? cs = some (negated, rest)) : rest.length ≤ cs.length := by
  unfold class? at h
  split at h
  · simp only [Option.map_eq_some_iff, Prod.mk.injEq] at h
    obtain ⟨_, h, _, rfl⟩ := h
    have := length_className?_le h
    simp only [List.length_cons]
    omega
  · simp only [Option.map_eq_some_iff, Prod.mk.injEq] at h
    obtain ⟨_, h, _, rfl⟩ := h
    have := length_className?_le h
    simp only [List.length_cons]
    omega
  · simp at h

theorem length_opening?_le {mode : Mode} {cs rest : List Char}
    (h : opening? mode cs = some rest) : rest.length ≤ cs.length := by
  have := mode.length_skip_le cs
  grind [opening?]

theorem length_member?_lt {mode : Mode} {cs rest : List Char}
    (h : member? mode cs = some rest) : rest.length < cs.length := by
  simp only [member?, Option.bind_eq_bind, Option.bind_eq_some_iff, Prod.exists] at h
  obtain ⟨first, middle, hm, h⟩ := h
  have := Item.length_member?_lt hm
  have := mode.length_skip_le middle
  split at h
  · simp at h
  · next behind hb =>
    split at h
    · simp only [Option.bind_eq_some_iff, Prod.exists] at h
      obtain ⟨last, rest', hl, h⟩ := h
      have := Item.length_member?_lt hl
      have := mode.length_skip_le behind
      grind
    · grind
  · grind

theorem length_sign?_lt {mode : Mode} {bracket : Bracket} {cs rest : List Char} {sign : Sign}
    (h : sign? mode bracket cs = some (sign, rest)) : rest.length < cs.length := by
  have hm : ∀ {cs rest : List Char} {sign : Sign},
      (member? mode cs).map (fun rest => (Sign.member, rest)) = some (sign, rest) →
      rest.length < cs.length := by
    intro cs rest sign h
    simp only [Option.map_eq_some_iff, Prod.mk.injEq] at h
    obtain ⟨_, h, _, rfl⟩ := h
    exact length_member?_lt h
  unfold sign? at h
  split at h
  · split at h
    · next hc =>
      have := length_class?_le hc
      grind
    · simp only [Option.map_eq_some_iff, Prod.mk.injEq] at h
      obtain ⟨_, h, _, rfl⟩ := h
      have := length_opening?_le h
      simp only [List.length_cons]
      omega
  · grind
  · split at h
    · grind
    · split at h
      · grind
      · exact hm h
  · grind
  · grind
  · exact hm h

/-! ### Reading -/

/-- Reads a bracket to its end, with the depth of the whole. -/
def readOpen (mode : Mode) (outer : List Bracket) (inner : Bracket) (cs : List Char) :
    Option (Nat × List Char) :=
  match h : sign? mode inner (mode.skip cs) with
  | none => none
  | some (sign, rest) =>
    have : rest.length < cs.length :=
      Nat.lt_of_lt_of_le (length_sign?_lt h) (mode.length_skip_le cs)
    match sign with
    | .member => readOpen mode outer (inner.push 0) rest
    | .hyphen => readOpen mode outer { inner.push 0 with fresh := true } rest
    | .operator => readOpen mode outer inner.operate rest
    | .opening => readOpen mode (inner :: outer) empty rest
    | .closing =>
      match outer with
      | [] => some (1 + inner.depth, rest)
      | parent :: outer => readOpen mode outer (parent.push (1 + inner.depth)) rest
termination_by cs.length

/-- Reads a bracket behind its first character. -/
def read? (mode : Mode) (cs : List Char) : Option (Nat × List Char) := do
  let rest ← opening? mode cs
  readOpen mode [] empty rest

theorem length_readOpen_lt {mode : Mode} {outer : List Bracket} {inner : Bracket}
    {cs rest : List Char} {depth : Nat}
    (h : readOpen mode outer inner cs = some (depth, rest)) : rest.length < cs.length := by
  fun_induction readOpen mode outer inner cs <;> grind

theorem length_read?_le {mode : Mode} {cs rest : List Char} {depth : Nat}
    (h : read? mode cs = some (depth, rest)) : rest.length ≤ cs.length := by
  simp only [read?, Option.bind_eq_bind, Option.bind_eq_some_iff] at h
  obtain ⟨_, ho, h⟩ := h
  have := length_opening?_le ho
  have := length_readOpen_lt h
  omega

end Bracket

end OrderDesk.Pattern
