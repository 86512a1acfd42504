import OrderDesk.Log.Pattern.Bracket
import OrderDesk.Text.Alphabetic

/-!
# Patterns

A pattern describes texts: items and brackets stand side by side, `|` stands between
alternatives, `?`, `*` and `+` repeat what stands before them, and parentheses group. In a log
filter a closing brace ends the pattern, so that a repetition with a count in braces is
never complete.

`isSound` tells whether a text is a pattern that can be matched. A pattern is read part by
part. The groups that are still open stand on a list, the innermost one apart.
-/

namespace OrderDesk.Pattern

open OrderDesk.Text

/-- How deep the constructs of a pattern may lie within each other. -/
def maxDepth : Nat := 250

/-! ### Parts -/

/-- What a pattern is made of. -/
inductive Part
  /-- An item or a bracket. -/
  | piece (depth : Nat)
  | repetition
  | bar
  /-- The start of a group in a mode, perhaps with a name. -/
  | opening (mode : Mode) (name : Option String)
  | closing
  /-- A change of the mode. -/
  | switch (mode : Mode)
  deriving DecidableEq

namespace Part

/-- A name may begin with the character. -/
def startsName (c : Char) : Bool := c == '_' || isAlphabetic c

/-- A name may go on with the character. -/
def continuesName (c : Char) : Bool := ['_', '.', '[', ']'].contains c || isAlphanumeric c

/-- Reads the name of a group up to its end. -/
def name? (cs : List Char) : Option (String × List Char) :=
  match cs.takeWhile (· != '>'), cs.dropWhile (· != '>') with
  | first :: others, _ :: rest =>
    if startsName first && others.all continuesName then
      some (String.ofList (first :: others), rest)
    else none
  | _, _ => none

/-- Reads the start of a group with a name. -/
def named? (mode : Mode) (cs : List Char) : Option (Part × List Char) :=
  (name? cs).map fun (name, rest) => (.opening mode (some name), rest)

/-- Reads letters that switch the mode, for the rest of a group or for a group of its own. -/
def switch? (mode : Mode) (cs : List Char) : Option (Part × List Char) :=
  let isLetter (c : Char) : Bool := c != ':' && c != ')'
  let letters := cs.takeWhile isLetter
  match cs.dropWhile isLetter with
  | ':' :: rest => (mode.switched? letters).map fun mode => (.opening mode none, rest)
  | _ :: rest =>
    if letters.isEmpty then none
    else (mode.switched? letters).map fun mode => (.switch mode, rest)
  | [] => none

/-- Reads what stands behind an opening parenthesis. -/
def group? (mode : Mode) (cs : List Char) : Option (Part × List Char) :=
  match mode.skip cs with
  | '?' :: 'P' :: '<' :: rest => named? mode rest
  | '?' :: '<' :: rest => named? mode rest
  | '?' :: rest => switch? mode rest
  | rest => some (.opening mode none, rest)

/-- An item that stands outside of brackets, and what is left behind it. -/
def ofItem? (mode : Mode) (item : Item) (rest : List Char) : Option (Part × List Char) :=
  if item.isSound mode then some (.piece 0, rest) else none

/-- Reads a part. A question mark behind a repetition belongs to it. -/
def read? (mode : Mode) : List Char → Option (Part × List Char)
  | [] => none
  | c :: rest =>
    match c with
    | '(' => group? mode rest
    | ')' => some (.closing, rest)
    | '|' => some (.bar, rest)
    | '[' => (Bracket.read? mode rest).map fun (depth, rest) => (.piece depth, rest)
    | '?' | '*' | '+' =>
      match rest with
      | '?' :: rest => some (.repetition, rest)
      | _ => some (.repetition, rest)
    | '\x7b' => none
    | '\\' => do
      let (item, rest) ← Item.escape? mode rest
      ofItem? mode item rest
    | '.' => ofItem? mode .any rest
    | '^' | '$' => ofItem? mode .edge rest
    | c => ofItem? mode (.char c) rest

/-! ### Laws of parts -/

theorem length_named?_lt {mode : Mode} {cs rest : List Char} {part : Part}
    (h : named? mode cs = some (part, rest)) : rest.length < cs.length := by
  have := (cs.dropWhile_suffix (· != '>')).length_le
  simp only [named?, name?, Option.map_eq_some_iff, Prod.exists, Prod.mk.injEq] at h
  obtain ⟨_, _, h, _, rfl⟩ := h
  grind

theorem length_switch?_lt {mode : Mode} {cs rest : List Char} {part : Part}
    (h : switch? mode cs = some (part, rest)) : rest.length < cs.length := by
  have := (cs.dropWhile_suffix fun c => c != ':' && c != ')').length_le
  simp only [switch?] at h
  split at h
  · next hd =>
    simp only [Option.map_eq_some_iff, Prod.mk.injEq] at h
    obtain ⟨_, _, _, rfl⟩ := h
    simp only [hd, List.length_cons] at this
    omega
  · next hd =>
    split at h
    · simp at h
    · simp only [Option.map_eq_some_iff, Prod.mk.injEq] at h
      obtain ⟨_, _, _, rfl⟩ := h
      simp only [hd, List.length_cons] at this
      omega
  · simp at h

theorem length_group?_le {mode : Mode} {cs rest : List Char} {part : Part}
    (h : group? mode cs = some (part, rest)) : rest.length ≤ cs.length := by
  have := mode.length_skip_le cs
  unfold group? at h
  split at h
  · have := length_named?_lt h
    simp_all
    omega
  · have := length_named?_lt h
    simp_all
    omega
  · have := length_switch?_lt h
    simp_all
    omega
  · simp_all

theorem length_read?_lt {mode : Mode} {cs rest : List Char} {part : Part}
    (h : read? mode cs = some (part, rest)) : rest.length < cs.length := by
  unfold read? at h
  split at h
  · simp at h
  · split at h
    · have := length_group?_le h
      simp only [List.length_cons]
      omega
    · simp_all
    · simp_all
    · simp only [Option.map_eq_some_iff, Prod.exists, Prod.mk.injEq] at h
      obtain ⟨_, _, h, _, rfl⟩ := h
      have := Bracket.length_read?_le h
      simp only [List.length_cons]
      omega
    · grind
    · grind
    · grind
    · simp at h
    · simp only [Option.bind_eq_bind, Option.bind_eq_some_iff, Prod.exists] at h
      obtain ⟨_, _, h, h'⟩ := h
      have := Item.length_escape?_lt h
      grind [ofItem?]
    · grind [ofItem?]
    · grind [ofItem?]
    · grind [ofItem?]
    · grind [ofItem?]

end Part

/-! ### Groups -/

/-- A group that is still open. -/
structure Group where
  /-- The mode behind the last part. -/
  mode : Mode
  /-- The depths of the alternatives that are complete. -/
  alternatives : List Nat
  /-- The depths of the parts of the last alternative, the last part first. -/
  parts : List Nat
  /-- The last part can be repeated. -/
  repeats : Bool
  deriving DecidableEq

namespace Group

/-- A group of which nothing has been read. -/
def empty (mode : Mode) : Group := ⟨mode, [], [], false⟩

/-- The group with a part more. -/
def push (group : Group) (depth : Nat) : Group :=
  { group with parts := depth :: group.parts, repeats := true }

/-- The depth of what has been read. -/
def depth (group : Group) : Nat := depthBeside (depthBeside group.parts :: group.alternatives)

/-- Repeats the last part. -/
def repeated? (group : Group) : Option Group :=
  match group.parts with
  | [] => none
  | last :: parts =>
    if group.repeats then some { group with parts := (1 + last) :: parts } else none

/-- Begins an alternative. -/
def branch (group : Group) : Group :=
  { group with
    alternatives := depthBeside group.parts :: group.alternatives, parts := [], repeats := false }

/-- Changes the mode, which takes the place of a part. -/
def switch (group : Group) (mode : Mode) : Group :=
  { group with mode, parts := 0 :: group.parts, repeats := false }

end Group

/-- How far a pattern has been read. -/
structure Reading where
  outer : List Group
  inner : Group
  /-- The names of groups. -/
  names : List String

namespace Reading

/-- Nothing has been read. -/
def start : Reading := ⟨[], .empty .standard, []⟩

/-- Takes a part in. -/
def take (reading : Reading) : Part → Option Reading
  | .piece depth => some { reading with inner := reading.inner.push depth }
  | .repetition => reading.inner.repeated?.map fun inner => { reading with inner }
  | .bar => some { reading with inner := reading.inner.branch }
  | .switch mode => some { reading with inner := reading.inner.switch mode }
  | .opening mode none =>
    some { reading with outer := reading.inner :: reading.outer, inner := .empty mode }
  | .opening mode (some name) =>
    if reading.names.contains name then none
    else some ⟨reading.inner :: reading.outer, .empty mode, name :: reading.names⟩
  | .closing =>
    match reading.outer with
    | [] => none
    | parent :: outer =>
      some { reading with outer, inner := parent.push (1 + reading.inner.depth) }

/-- Takes all parts of a text in. -/
def finish? (reading : Reading) (cs : List Char) : Option Reading :=
  match h : reading.inner.mode.skip cs with
  | [] => some reading
  | c :: behind =>
    match h' : Part.read? reading.inner.mode (c :: behind) with
    | none => none
    | some (part, rest) =>
      have : rest.length < cs.length :=
        Nat.lt_of_lt_of_le (Part.length_read?_lt h') (h ▸ reading.inner.mode.length_skip_le cs)
      match reading.take part with
      | none => none
      | some reading => reading.finish? rest
termination_by cs.length

end Reading

/-- The text is a pattern that can be matched: all of its groups are closed, and it is not too
deep. -/
def isSound (cs : List Char) : Bool :=
  match Reading.start.finish? cs with
  | some ⟨[], inner, _⟩ => inner.depth ≤ maxDepth
  | _ => false

end OrderDesk.Pattern
