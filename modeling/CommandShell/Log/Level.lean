import CommandShell.Text.Decimal

/-!
How grave a log record is, and how much of the log is wanted.
-/

set_option autoImplicit false

namespace CommandShell

inductive Level
  | error
  | warn
  | info
  | debug
  | trace
  deriving DecidableEq

namespace Level

def all : List Level := [.error, .warn, .info, .debug, .trace]

def name : Level → Text
  | .error => "error".toList
  | .warn => "warn".toList
  | .info => "info".toList
  | .debug => "debug".toList
  | .trace => "trace".toList

/-- The place of a level on the scale from the gravest, which is one, to the finest. -/
def rank : Level → Nat
  | .error => 1
  | .warn => 2
  | .info => 3
  | .debug => 4
  | .trace => 5

/-- The name in capitals, right-aligned in five columns. -/
def label (level : Level) : Text :=
  let shown := level.name.map Char.toUpper
  List.replicate (5 - shown.length) ' ' ++ shown

end Level

/-- How much is wanted: nothing, or every record down to a level. -/
inductive Threshold
  | off
  | upTo (level : Level)
  deriving DecidableEq

namespace Threshold

def admits : Threshold → Level → Bool
  | .off, _ => false
  | .upTo finest, level => level.rank ≤ finest.rank

def ofRank (n : Nat) : Option Threshold :=
  if n = 0 then some .off else (Level.all.find? (·.rank = n)).map .upTo

/-- A number from zero to five, or a name in letters of either case. -/
def parse (t : Text) : Option Threshold :=
  let byNumber :=
    match Decimal.parse t with
    | .ok n => ofRank n
    | .error _ => none
  byNumber.orElse fun _ =>
    let folded := t.map Char.toLower
    if folded = "off".toList then some .off else (Level.all.find? (·.name = folded)).map .upTo

end Threshold

end CommandShell
