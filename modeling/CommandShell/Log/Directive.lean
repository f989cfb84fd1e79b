import CommandShell.Log.Pattern
import CommandShell.Log.Record
import CommandShell.NameSet

/-!
Directives: what is wanted of some of the records, and how that is written.
-/

set_option autoImplicit false

namespace CommandShell

/-- What is wanted of the records whose targets begin in one way and that have certain fields. -/
structure Directive where
  target : Option Text
  fields : List Text
  threshold : Threshold
  deriving DecidableEq

namespace Directive

def concerns (directive : Directive) (record : Record) : Bool :=
  directive.target.all (·.isPrefixOf record.target) &&
    directive.fields.all fun name =>
      name = "message".toList || record.fields.any (·.name = name)

/-- Longer targets are more specific, among equally long ones more fields, and then later names of
fields. -/
def moreSpecific (a b : Directive) : Bool :=
  let length (directive : Directive) : Nat := (directive.target.map (Utf8.size · + 1)).getD 0
  if length a ≠ length b then length a > length b
  else if a.fields.length ≠ b.fields.length then a.fields.length > b.fields.length
  else Text.precedes b.fields.flatten a.fields.flatten

/-- Puts a directive behind those that are more specific. It takes the place of one with the same
target and fields. -/
def insert (directive : Directive) : List Directive → List Directive
  | [] => [directive]
  | first :: rest =>
    if first.target = directive.target && first.fields = directive.fields then directive :: rest
    else if moreSpecific directive first then directive :: first :: rest
    else first :: insert directive rest

def trim (t : Text) : Text :=
  ((t.dropWhile isBlank).reverse.dropWhile isBlank).reverse

/-- A part of the text of a directive, by the offsets of its bytes. Of an open part the end is that
of the text. -/
structure Extent where
  start : Nat
  stop : Option Nat

/-- The part of a text that an extent marks. -/
def Extent.cut (extent : Extent) (t : Text) : Option Text := do
  let inside ←
    match extent.stop with
    | some stop => (Utf8.splitAt stop t).map (·.1)
    | none => some t
  return (← Utf8.splitAt extent.start inside).2

/-- Where the parts of a directive stand. -/
structure Layout where
  /-- The word in front of the brackets or the equals sign. -/
  word : Option Extent
  span : Option Extent
  field : Option Extent
  level : Option Extent

/-- Whether a directive may begin with a character. -/
def canBegin (c : Char) : Bool :=
  c ∈ ['-', ':', '_', '['] || CharTable.alphanumeric.contains c

/-- What follows the brackets from an offset on: nothing, or a level. -/
def layoutAfter (layout : Layout) (offset : Nat) : Text → Option Layout
  | [] => some layout
  | '=' :: _ => some { layout with level := some ⟨offset + 1, none⟩ }
  | _ => none

/-- The brackets, after the opening one, and what follows. A field stands between braces. -/
def layoutBrackets (word : Option Extent) (offset : Nat) (t : Text) : Option Layout :=
  let name := t.takeWhile fun c => c ≠ ']' && c ≠ '\x7b'
  let nameEnd := offset + Utf8.size name
  let named : Layout := ⟨word, some ⟨offset, some nameEnd⟩, none, none⟩
  match t.drop name.length with
  | ']' :: rest => layoutAfter named (nameEnd + 1) rest
  | '\x7b' :: rest =>
    let field := rest.takeWhile (· ≠ '\x7d')
    let fieldEnd := nameEnd + 1 + Utf8.size field
    match rest.drop field.length with
    | '\x7d' :: ']' :: rest =>
      layoutAfter { named with field := some ⟨nameEnd + 1, some fieldEnd⟩ } (fieldEnd + 2) rest
    | _ => none
  | _ => none

/-- Finds the parts of a directive that has no blanks around it. -/
def layout (t : Text) : Option Layout :=
  if !(t.head?.any canBegin) then none
  else
    let word := t.takeWhile fun c => c ≠ '=' && c ≠ '['
    let wordEnd := Utf8.size word
    match t.drop word.length with
    | [] => some ⟨some ⟨0, none⟩, none, none, none⟩
    | '=' :: _ => some ⟨some ⟨0, some wordEnd⟩, none, none, some ⟨wordEnd + 1, none⟩⟩
    | _ :: rest =>
      layoutBrackets (if word.isEmpty then none else some ⟨0, some wordEnd⟩) (wordEnd + 1) rest

/-- The level after an equals sign; without one, everything is wanted. -/
def parseThreshold (t : Text) : Option Threshold :=
  if t.isEmpty then some (.upTo .trace) else Threshold.parse t

/-- A threshold for everything, or a target of which everything is wanted. -/
def ofWord (word : Text) : Directive :=
  match Threshold.parse word with
  | some threshold => ⟨none, [], threshold⟩
  | none => ⟨some word, [], .upTo .trace⟩

/-- A field by its name, and maybe the value it is to have. -/
def parseField (field : Text) : Option (Text × Option Text) :=
  match stretches (· == '=') field with
  | name :: value :: _ => if Pattern.isValue value then some (name, some value) else none
  | _ => if field.isEmpty then none else some (field, none)

/-- An extent's part of a text, if there is an extent. -/
def cutOption (t : Text) : Option Extent → Option (Option Text)
  | none => some none
  | some extent => (extent.cut t).map some

/-- One directive: a level, a target, or a target and a level with an equals sign between them;
brackets may follow the target. A directive that names a span, or a value for a field, concerns no
record: there are no spans, and values are compared in spans only. Parts are found without the
blanks in front of the text, but they are cut out of it as it is. -/
def parse (t : Text) : Option (Option Directive) := do
  let layout ← layout (trim t)
  let word ← cutOption t layout.word
  let span ← cutOption t layout.span
  let field ← cutOption t layout.field
  let level ← cutOption t layout.level
  let named ← match field with
    | some field => (parseField field).map some
    | none => some none
  match span, level, word with
  | none, none, some word => return some (ofWord word)
  | _, _, _ =>
    let threshold ← parseThreshold (level.getD [])
    match named with
    | none => return if span.isSome then none else some ⟨word, [], threshold⟩
    | some (name, value) =>
      return if span.any (!·.isEmpty) || value.isSome then none
        else some ⟨word, [name], threshold⟩

end Directive

end CommandShell
