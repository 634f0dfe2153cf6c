/-
**Which notices are shown.**

A filter is a list of directives. Of those that concern the source of a notice the most specific
one decides, and of equally specific ones the last; the notice is shown if it is not more detailed
than that directive's level. Nothing is shown of a source that no directive concerns.
-/
import Playout.LogFilter.Directive

namespace Playout

/-- The rules by which notices are shown. -/
abbrev LogFilter := List Directive

namespace LogFilter

/-- The filter that shows notices up to a level. -/
def upTo (level : Level) : LogFilter := [{ detail := level.detail }]

/-- The filter of a program that is not told otherwise. -/
def standard : LogFilter :=
  [{ target := some "cadence", detail := Level.info.detail },
    { target := some "cadence_audio", detail := Level.info.detail }]

/-- Read a filter: directives with commas between them. Without any directive it shows errors. -/
def read (text : String) : Except Directive.Flaw LogFilter :=
  (((text.splitOn ",").filter (!·.isEmpty)).mapM fun part => Directive.read part.toList).map
    fun directives => if directives.isEmpty then upTo .error else directives

/-- The filter that a setting asks for. No setting, or one that is unreadable, asks for the standard
filter; one that cuts a character cannot be obeyed. -/
def ofSetting : Option String → Except Directive.Flaw LogFilter
  | none => .ok standard
  | some text =>
    match read text with
    | .error .unreadable => .ok standard
    | outcome => outcome

/-- The more specific of two directives, or the later one. -/
def prefer (best : Option Directive) (next : Directive) : Option Directive :=
  match best with
  | none => some next
  | some previous => if next.isAsSpecific previous then some next else some previous

/-- The directive that decides on a source. -/
def deciding (filter : LogFilter) (source : Source) : Option Directive :=
  (filter.filter (·.concerns source)).foldl prefer none

/-- The rank up to which a source is shown. -/
def detail (filter : LogFilter) (source : Source) : Nat :=
  (filter.deciding source).elim 0 Directive.detail

/-- Whether a notice is shown. -/
def shows (filter : LogFilter) (notice : Notice) : Bool :=
  notice.level.detail ≤ filter.detail notice.source

end LogFilter

end Playout
