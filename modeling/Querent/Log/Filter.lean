import Querent.Log.Event
import Querent.Text.Blank
import Querent.Text.Case
import Querent.Text.Digit

/-!
# Log filters

Which events are reported.  A filter is a list of directives: a level for all events, or for those
whose source starts with a given text.  Of the directives that fit an event the one with the longest
text decides; an event that no directive fits is not reported.
-/

namespace Querent.Log

/-- How much detail a name or a number stands for, zero standing for none at all. -/
def detailOfName (name : List Char) : Option Nat :=
  match String.ofList (Text.lowerAscii name) with
  | "off" | "0" => some 0
  | "error" | "1" => some 1
  | "warn" | "2" => some 2
  | "info" | "3" => some 3
  | "debug" | "4" => some 4
  | "trace" | "5" => some 5
  | _ => detailOfNumber name
where
  /-- A number may have a sign and leading zeros. -/
  detailOfNumber (name : List Char) : Option Nat :=
    let digits := if name.head? == some '+' then name.drop 1 else name
    let rest := digits.dropWhile (· == '0')
    if digits.isEmpty || !digits.all Text.isAsciiDigit then none
    else if rest.length > 1 then none
    else
      match rest with
      | [] => some 0
      | c :: _ => if Text.digitValue c ≤ 5 then some (Text.digitValue c) else none

/-- The detail that is reported of the events of a source. -/
structure Directive where
  /-- What the source has to start with, if anything. -/
  source : Option String
  detail : Nat
  /-- Whether the directive is for events within a span, of which there are none. -/
  spanned : Bool
  deriving DecidableEq, Repr

namespace Directive

/-- The largest detail. -/
def fullDetail : Nat := Level.trace.detail

/-- A directive without a level of its own: a level for all events, or a source with all detail. -/
def bare (text : List Char) : Directive :=
  match detailOfName text with
  | some detail => ⟨none, detail, false⟩
  | none => ⟨some (String.ofList text), fullDetail, false⟩

/-- The level after an equals sign, which may be left out. -/
def levelOf (text : List Char) : Option Nat :=
  if text.isEmpty then some fullDetail else detailOfName text

/-- Whether a directive may start with a character. -/
def startsDirective (c : Char) : Bool :=
  c == '-' || c == ':' || c == '_' || Text.isAlphanumeric c

/-- A directive for events within a span, after the opening bracket. -/
def spannedBy (source : Option String) (text : List Char) : Option Directive :=
  match (text.dropWhile (· != ']')).drop 1 with
  | [] => if text.contains ']' then some ⟨source, fullDetail, true⟩ else none
  | '=' :: level => (levelOf level).map fun detail => ⟨source, detail, true⟩
  | _ => none

/--
The directive that a text stands for.  Blanks around it are passed over when the text is searched
for its parts, and the parts are then cut out of the whole text.
-/
def read (text : List Char) : Option Directive :=
  let searched := Text.trim text
  match searched with
  | [] => none
  | c :: _ =>
    if c == '[' then spannedBy none (text.drop 1)
    else if !startsDirective c then none
    else
      let cut := (searched.takeWhile fun c => c != '=' && c != '[').length
      match searched.drop cut with
      | [] => some (bare text)
      | '=' :: _ =>
        (levelOf (text.drop (cut + 1))).map fun detail =>
          ⟨some (String.ofList (text.take cut)), detail, false⟩
      | _ => spannedBy (some (String.ofList (text.take cut))) (searched.drop (cut + 1))

/-- How long the text is that a source has to start with. -/
def specificity (directive : Directive) : Nat :=
  match directive.source with
  | some source => source.utf8ByteSize + 1
  | none => 0

/-- Whether a directive is about the events of a source. -/
def fits (directive : Directive) (source : String) : Bool :=
  !directive.spanned &&
    match directive.source with
    | some start => start.toList.isPrefixOf source.toList
    | none => true

end Directive

/-- Which events are reported. -/
structure Filter where
  directives : List Directive
  deriving DecidableEq, Repr

namespace Filter

/-- Reports all events up to a level. -/
def upTo (level : Level) : Filter :=
  ⟨[⟨none, level.detail, false⟩]⟩

/-- The filter that a text stands for; an empty text stands for errors alone. -/
def read? (text : String) : Option Filter :=
  let parts := (text.toList.splitOn ',').filter (!·.isEmpty)
  if parts.isEmpty then some (upTo .error)
  else (parts.mapM Directive.read).map Filter.mk

/-- The filter for a setting; without one, or if it cannot be read, all but details is reported. -/
def ofSetting (setting : Option String) : Filter :=
  ((setting.bind read?)).getD (upTo .info)

/-- The directive that decides about a source: the longest that fits, the last of several. -/
def deciding (filter : Filter) (source : String) : Option Directive :=
  filter.directives.foldl
    (fun best directive =>
      if !directive.fits source then best
      else
        match best with
        | some other => if directive.specificity < other.specificity then best else some directive
        | none => some directive)
    none

/-- Whether an event is reported. -/
def allows (filter : Filter) (event : Event) : Bool :=
  match filter.deciding event.source with
  | some directive => event.level.detail ≤ directive.detail
  | none => false

/-- The events that are reported, as entries of a format. -/
def entries (filter : Filter) (format : Format) (events : List Event) : List Json :=
  (events.filter filter.allows).map (Event.entry format)

/-- A filter without directives reports nothing. -/
@[simp]
theorem allows_nil (event : Event) : (Filter.mk []).allows event = false := rfl

end Filter

end Querent.Log
