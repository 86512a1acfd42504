import OrderDesk.Log.Directive

/-!
# Log filters

A log filter lets some records of the log through. It is a list of directives with commas
between them.

Of the directives that are for a record, the one with the longest target decides, and of
these one that asks for a field. Records are written outside of all spans, so that a
directive for a span never decides. A record that no directive is for is left out.
-/

namespace OrderDesk

/-- Which records of the log are let through. -/
structure LogFilter where
  directives : List LogDirective
  deriving DecidableEq

namespace LogFilter

/-- The filter up to a level. -/
def upTo (level : LogLevel) : LogFilter := ⟨[⟨none, none, none, some level⟩]⟩

/-- Reads a filter. A text without directives lets errors through. The first directive that
cannot be read decides. -/
def ofText (s : String) : Except DirectiveFault LogFilter := do
  let parts := (s.splitOn ",").filter fun part => !part.isEmpty
  let directives ← parts.mapM fun part => LogDirective.ofChars part.toList
  return if directives.isEmpty then upTo .error else ⟨directives⟩

/-- The filter that a setting asks for. Without a setting, and where it is no filter, records
up to `info` are let through. Where a character of it is broken there is no filter at all. -/
def ofSetting? : Option String → Option LogFilter
  | none => some (upTo .info)
  | some s =>
    match ofText s with
    | .ok filter => some filter
    | .error .malformed => some (upTo .info)
    | .error .brokenCharacter => none

/-- The directive that decides about a record: of equally narrow ones the last. -/
def deciding? (filter : LogFilter) (target : String) (record : LogRecord) : Option LogDirective :=
  (filter.directives.filter fun d => d.isFor target record).foldl
    (fun best d =>
      match best with
      | some b => if d.outranks b then some d else some b
      | none => some d)
    none

/-- A record under a target is let through. -/
def admits (filter : LogFilter) (target : String) (record : LogRecord) : Bool :=
  match filter.deciding? target record with
  | some directive => directive.threshold.admits record.level
  | none => false

end LogFilter

end OrderDesk
