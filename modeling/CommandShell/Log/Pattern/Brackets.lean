import CommandShell.Log.Pattern.Escape
import CommandShell.Log.Pattern.Nesting

/-!
Sets of characters in brackets. They are nested, and combined by operators; each is read up to its
closing bracket, and what matters of it is how deep it is nested.
-/

set_option autoImplicit false

namespace CommandShell.Pattern.Brackets

def asciiNames : List Text :=
  ["alnum", "alpha", "ascii", "blank", "cntrl", "digit", "graph", "lower", "print", "punct", "space",
    "upper", "word", "xdigit"].map String.toList

/-- Reads a named set of ASCII characters after its bracket, as in `[:alpha:]`, and tells whether
all but these are meant. -/
def readNamed : Text → Option (Bool × Text)
  | ':' :: t =>
    let negated := t.head? = some '^'
    let t := if negated then t.tail else t
    let name := t.takeWhile (· ≠ ':')
    match t.drop name.length with
    | ':' :: ']' :: rest => if asciiNames.contains name then some (negated, rest) else none
    | _ => none
  | _ => none

/-- A set of which the closing bracket is not yet read. -/
structure OpenSet where
  /-- How deep the left side of an operator is nested. -/
  left : Option Nat
  items : Row

namespace OpenSet

def depth (set : OpenSet) : Nat :=
  match set.left with
  | none => set.items.depth
  | some left => max left set.items.depth + 1

def add (set : OpenSet) (depth : Nat) : OpenSet := { set with items := set.items.add depth }

/-- Makes what was read the left side of an operator. -/
def operate (set : OpenSet) : OpenSet := ⟨some set.depth, .empty⟩

end OpenSet

/-- Counts the hyphens in front of a text. `fuel` bounds them. -/
def readHyphens (flags : Flags) (count : Nat) : Nat → Text → Nat × Text
  | fuel + 1, '-' :: rest => readHyphens flags (count + 1) fuel (flags.skip rest)
  | _, t => (count, t)

/-- Whether a character or a range of characters may stand in a set. -/
def admits (flags : Flags) (c : Char) : Bool :=
  !flags.foldsUnicode && (flags.unicode || c.toNat < 0x80)

/-- Reads what may follow an opening bracket: a negation, and then hyphens, or else a closing
bracket, that stand for themselves. -/
def readOpening (flags : Flags) (t : Text) : Option (OpenSet × Text) :=
  let t := flags.skip t
  let negated := t.head? = some '^'
  let t := if negated then flags.skip t.tail else t
  let (hyphens, t) := readHyphens flags 0 t.length t
  let closing := hyphens = 0 && t.head? = some ']'
  let t := if closing then flags.skip t.tail else t
  let count := if closing then 1 else hyphens
  if t.isEmpty || (negated && !flags.unicode) || (count > 0 && !admits flags '-') then none
  else some (⟨none, ⟨count, 0⟩⟩, t)

/-- Reads one character or a set of them: the character, if it is one. -/
def readItem (flags : Flags) : Text → Option (Option Char × Text)
  | [] => none
  | '\\' :: rest =>
    match Escape.read flags rest with
    | some (.char c byte, rest) =>
      if (Escape.char c byte).isKnown flags && admits flags c then some (some c, rest) else none
    | some (.characters negated, rest) =>
      if (Escape.characters negated).isKnown flags then some (none, rest) else none
    | _ => none
  | c :: rest => if admits flags c then some (some c, rest) else none

/-- Reads an item, or a range of characters. -/
def readRange (flags : Flags) (t : Text) : Option Text := do
  let (first, rest) ← readItem flags t
  let rest := flags.skip rest
  let after := flags.glance rest.tail
  if rest.head? ≠ some '-' || after = some ']' || after = some '-' then return rest
  let (last, rest) ← readItem flags (flags.skip rest.tail)
  match first, last with
  | some first, some last => if first ≤ last then return rest else none
  | _, _ => none

/-- Reads up to the closing bracket of the outermost set, and tells how deep it is nested. `fuel`
bounds the items. -/
def readItems (flags : Flags) (fuel : Nat) (outer : List OpenSet) (set : OpenSet) (t : Text) :
    Option (Nat × Text) :=
  match fuel with
  | 0 => none
  | fuel + 1 =>
    match flags.skip t with
    | [] => none
    | '[' :: rest =>
      match readNamed rest with
      | some (negated, rest) =>
        if flags.foldsUnicode || (negated && !flags.unicode) then none
        else readItems flags fuel outer (set.add 0) rest
      | none =>
        match readOpening flags rest with
        | some (inner, rest) => readItems flags fuel (set :: outer) inner rest
        | none => none
    | ']' :: rest =>
      match outer with
      | [] => some (set.depth + 1, rest)
      | around :: outer => readItems flags fuel outer (around.add (set.depth + 1)) rest
    | '&' :: '&' :: rest | '-' :: '-' :: rest | '~' :: '~' :: rest =>
      readItems flags fuel outer set.operate rest
    | t => (readRange flags t).bind (readItems flags fuel outer (set.add 0))

/-- Reads a set of characters after its opening bracket, and tells how deep it is nested. -/
def read (flags : Flags) (t : Text) : Option (Nat × Text) :=
  (readOpening flags t).bind fun (set, rest) => readItems flags (t.length + 1) [] set rest

end CommandShell.Pattern.Brackets
