import CommandShell.Text.Basic
import CommandShell.Text.ClusterTables
import CommandShell.Text.Extending

/-!
User-perceived characters: the extended grapheme clusters of a text.
-/

set_option autoImplicit false

namespace CommandShell.Cluster

/-- How a character behaves at the ends of a cluster. -/
inductive BreakClass
  | carriageReturn
  | lineFeed
  | control
  | extend
  | joiner
  | regional
  | prepend
  | spacing
  | leading
  | vowel
  | trailing
  | leadingVowel
  | leadingVowelTrailing
  | other
  deriving DecidableEq

def BreakClass.of (c : Char) : BreakClass :=
  let n := c.toNat
  if n = 0x0D then .carriageReturn
  else if n = 0x0A then .lineFeed
  else if CharTable.clusterControl.contains c then .control
  else if n = 0x200D then .joiner
  else if CharTable.extending.contains c || (0x1F3FB ≤ n && n ≤ 0x1F3FF) then .extend
  else if 0x1F1E6 ≤ n && n ≤ 0x1F1FF then .regional
  else if CharTable.clusterPrepend.contains c then .prepend
  else if CharTable.spacingMark.contains c then .spacing
  else if (0x1100 ≤ n && n ≤ 0x115F) || (0xA960 ≤ n && n ≤ 0xA97C) then .leading
  else if (0x1160 ≤ n && n ≤ 0x11A7) || (0xD7B0 ≤ n && n ≤ 0xD7C6) || n = 0x16D63
      || (0x16D67 ≤ n && n ≤ 0x16D6A) then .vowel
  else if (0x11A8 ≤ n && n ≤ 0x11FF) || (0xD7CB ≤ n && n ≤ 0xD7FB) then .trailing
  else if 0xAC00 ≤ n && n ≤ 0xD7A3 then
    if (n - 0xAC00) % 28 = 0 then .leadingVowel else .leadingVowelTrailing
  else .other

/-- How far an emoji sequence has come: a pictograph with what extends it, and then a joiner. -/
inductive Emoji
  | none
  | pictograph
  | joined
  deriving DecidableEq

/-- How far a conjunct has come: a consonant with what extends it, and then a linker. -/
inductive Conjunct
  | none
  | consonant
  | linked
  deriving DecidableEq

/-- What the characters read so far say about a break before the next one. -/
structure Context where
  previous : BreakClass
  /-- Whether an odd number of regional indicators stands at the end. -/
  halfFlag : Bool
  emoji : Emoji
  conjunct : Conjunct

/-- The context before the first character. -/
def Context.start : Context := ⟨.other, false, .none, .none⟩

def Context.advance (context : Context) (c : Char) : Context :=
  let here := BreakClass.of c
  { previous := here
    halfFlag := here = .regional && !context.halfFlag
    emoji :=
      if CharTable.pictographic.contains c then .pictograph
      else if context.emoji = .pictograph && here = .extend then .pictograph
      else if context.emoji = .pictograph && here = .joiner then .joined
      else .none
    conjunct :=
      if CharTable.conjunctConsonant.contains c then .consonant
      else if context.conjunct = .none then .none
      else if CharTable.conjunctLinker.contains c then .linked
      else if (here = .extend || here = .joiner) && c ≠ '\u200C' then context.conjunct
      else .none }

def BreakClass.isControl : BreakClass → Bool
  | .carriageReturn | .lineFeed | .control => true
  | _ => false

/-- Whether the next character stays in the cluster of the one before it. -/
def Context.joins (context : Context) (c : Char) : Bool :=
  let here := BreakClass.of c
  match context.previous, here with
  | .carriageReturn, .lineFeed => true
  | before, _ =>
    if before.isControl || here.isControl then false
    else match before, here with
      | .leading, .leading | .leading, .vowel | .leading, .leadingVowel
      | .leading, .leadingVowelTrailing => true
      | .leadingVowel, .vowel | .leadingVowel, .trailing
      | .vowel, .vowel | .vowel, .trailing => true
      | .leadingVowelTrailing, .trailing | .trailing, .trailing => true
      | _, .extend | _, .joiner | _, .spacing => true
      | .prepend, _ => true
      | .regional, .regional => context.halfFlag
      | _, _ =>
        (context.conjunct = .linked && CharTable.conjunctConsonant.contains c)
          || (context.emoji = .joined && CharTable.pictographic.contains c)

/-- Cuts the rest of a text into clusters: the cluster at hand is kept in reverse. -/
def collect (context : Context) (held : Text) : Text → List Text
  | [] => if held.isEmpty then [] else [held.reverse]
  | c :: rest =>
    if held.isEmpty || context.joins c then collect (context.advance c) (c :: held) rest
    else held.reverse :: collect (Context.start.advance c) [c] rest

/-- The clusters of a text, in order. -/
def split (t : Text) : List Text := collect .start [] t

end CommandShell.Cluster
