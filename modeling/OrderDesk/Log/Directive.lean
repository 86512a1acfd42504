import OrderDesk.Log.Pattern
import OrderDesk.Log.Threshold
import OrderDesk.Text.Bytes
import OrderDesk.Text.Numeral

/-!
# Log directives

A directive is for some records of the log, and lets them through up to a threshold:

* `warn` is for all records, up to the level `warn`;
* `desk=info` is for records whose target begins with `desk`;
* `desk` alone lets all of them through;
* `[{line}]=warn` is for records that have a field `line`;
* `[{line=4}]=warn` is for what has the value besides, which is a number or a pattern;
* `[span]=debug` is for what happens inside a span.

Blanks at its ends are no part of the text in which the marks of a directive are looked for.
But the parts are cut out of the whole text, at as many bytes from its start. So blanks at the
start shift all parts, and a part may be cut inside of a character, in which case there is no
way to go on.
-/

namespace OrderDesk

open OrderDesk.Text

/-- A field that a directive asks for. -/
structure LogField where
  name : String
  /-- The field has to have a certain value, which records outside of spans never have. -/
  isValued : Bool
  deriving DecidableEq

/-- One part of a filter. -/
structure LogDirective where
  /-- What the target of a record begins with. -/
  target : Option String
  /-- The span that a record is inside of. -/
  span : Option String
  field : Option LogField
  threshold : LogThreshold
  deriving DecidableEq

/-- Why a directive cannot be read. -/
inductive DirectiveFault
  /-- The text is no directive. -/
  | malformed
  /-- A part begins or ends inside of a character. -/
  | brokenCharacter
  deriving DecidableEq

namespace LogDirective

/-! ### Reading -/

/-- What is left of a text behind a place. -/
def behind (whole : List Char) (i : Nat) : Except DirectiveFault (List Char) :=
  match cutAt? whole i with
  | some (_, rest) => .ok rest
  | none => .error .brokenCharacter

/-- The part of a text from one place to another. -/
def between (whole : List Char) (i j : Nat) : Except DirectiveFault (List Char) := do
  let rest ← behind whole i
  match cutAt? rest (j - i) with
  | some (part, _) => .ok part
  | none => .error .brokenCharacter

/-- Reads the threshold from a place on. Nothing stands for the last one. -/
def thresholdAt (whole : List Char) (i : Nat) : Except DirectiveFault LogThreshold := do
  let text ← behind whole i
  if text.isEmpty then return some .trace
  match LogThreshold.ofChars? text with
  | some threshold => return threshold
  | none => .error .malformed

/-- The value of a field can be asked for. -/
def isValue (cs : List Char) : Bool := isNumeral cs || Pattern.isSound cs

/-- Reads a name, perhaps with a value behind `=`. What stands behind a second `=` counts for
nothing. -/
def fieldOf (cs : List Char) : Except DirectiveFault LogField :=
  let name := String.ofList (cs.takeWhile (· != '='))
  if cs.isEmpty then .error .malformed
  else
    match cs.dropWhile (· != '=') with
    | [] => .ok ⟨name, false⟩
    | _ :: value =>
      if isValue (value.takeWhile (· != '=')) then .ok ⟨name, true⟩ else .error .malformed

/-- Reads what follows the bracket behind a span, from place `i` on: a threshold or nothing. -/
def finish (directive : LogDirective) (whole : List Char) (i : Nat) :
    List Char → Except DirectiveFault LogDirective
  | [] => .ok directive
  | '=' :: _ => do
    let threshold ← thresholdAt whole (i + 1)
    return { directive with threshold }
  | _ => .error .malformed

/-- Reads a field in braces and what follows it, from place `i` on. -/
def fieldAt (target span : Option String) (whole : List Char) (i : Nat) (cs : List Char) :
    Except DirectiveFault LogDirective :=
  let j := i + byteSize (cs.takeWhile (· != '\x7d'))
  match cs.dropWhile (· != '\x7d') with
  | [] => .error .malformed
  | _ :: rest => do
    let field ← fieldOf (← between whole i j)
    match rest with
    | ']' :: rest => finish ⟨target, span, some field, some .trace⟩ whole (j + 2) rest
    | _ => .error .malformed

/-- Reads a span and what follows it, from place `i` on, which is behind a bracket. -/
def spanAt (target : Option String) (whole : List Char) (i : Nat) (cs : List Char) :
    Except DirectiveFault LogDirective :=
  let isMark (c : Char) : Bool := c == ']' || c == '\x7b'
  let j := i + byteSize (cs.takeWhile (!isMark ·))
  match cs.dropWhile (!isMark ·) with
  | [] => .error .malformed
  | mark :: rest => do
    let span := String.ofList (← between whole i j)
    if mark == ']' then finish ⟨target, some span, none, some .trace⟩ whole (j + 1) rest
    else fieldAt target (if span.isEmpty then none else some span) whole (j + 1) rest

/-- A target may begin with the character. -/
def startsTarget (c : Char) : Bool := c == '-' || c == ':' || c == '_' || isAlphanumeric c

/-- Reads a text that is a threshold, or else a target. -/
def ofWord (whole : List Char) : LogDirective :=
  match LogThreshold.ofChars? whole with
  | some threshold => ⟨none, none, none, threshold⟩
  | none => ⟨some (String.ofList whole), none, none, some .trace⟩

/-- Reads a target and what follows it. -/
def targetAt (whole cs : List Char) : Except DirectiveFault LogDirective :=
  let isMark (c : Char) : Bool := c == '=' || c == '['
  let i := byteSize (cs.takeWhile (!isMark ·))
  match cs.dropWhile (!isMark ·) with
  | [] => .ok (ofWord whole)
  | mark :: rest => do
    let target := String.ofList (← between whole 0 i)
    if mark == '=' then
      return ⟨some target, none, none, ← thresholdAt whole (i + 1)⟩
    else spanAt (some target) whole (i + 1) rest

/-- Reads a directive. -/
def ofChars (whole : List Char) : Except DirectiveFault LogDirective :=
  match trimChars whole with
  | [] => .error .malformed
  | '[' :: cs => spanAt none whole 1 cs
  | c :: cs => if startsTarget c then targetAt whole (c :: cs) else .error .malformed

/-! ### Deciding -/

/-- The names of the fields of a record. -/
def fieldNames (record : LogRecord) : List String := "message" :: record.fields.map Prod.fst

/-- The directive is for a record under a target. -/
def isFor (directive : LogDirective) (target : String) (record : LogRecord) : Bool :=
  let targetFits := match directive.target with
    | some start => start.toList.isPrefixOf target.toList
    | none => true
  let fieldFits := match directive.field with
    | some field => !field.isValued && (fieldNames record).contains field.name
    | none => true
  directive.span.isNone && targetFits && fieldFits

/-- How long the target is; one without a target comes before all others. -/
def targetSize (directive : LogDirective) : Nat :=
  match directive.target with
  | some start => start.length + 1
  | none => 0

/-- The first of two directives for a record decides, or they are equally narrow. -/
def outranks (a b : LogDirective) : Bool :=
  if a.targetSize != b.targetSize then b.targetSize < a.targetSize
  else
    match a.field, b.field with
    | some f, some g => g.name ≤ f.name
    | none, some _ => false
    | _, none => true

end LogDirective

end OrderDesk
