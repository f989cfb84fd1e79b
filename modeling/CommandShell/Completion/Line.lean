import CommandShell.Command
import CommandShell.Completion.FileName
import CommandShell.Resolver

/-!
Completing a line at the cursor: command names for the first word, file names after it.
-/

set_option autoImplicit false

namespace CommandShell

/-- What a completion offers: where the replaced word starts, in bytes, and the ways to go on. -/
structure Completion where
  start : Nat
  candidates : List Candidate
  deriving DecidableEq

namespace Completion

/-- The word before the cursor: what follows the last white space. -/
def lastWord (before : Text) : Text := (before.reverse.takeWhile (!isBlank ·)).reverse

/-- Whether only white space stands before the word at the cursor. -/
def atCommand (before : Text) : Bool :=
  Text.isBlank (before.take (before.length - (lastWord before).length))

/-- The start of a word that ends at the cursor. -/
def startOf (before word : Text) : Nat := Utf8.size before - Utf8.size word

/-- Completes the text before the cursor. -/
def complete (source : PathSource) (around : Surroundings) (home : Path) (before : Text) :
    Completion :=
  if atCommand before then
    let word := lastWord before
    ⟨startOf before word,
      (source.commandsStarting around word).map fun name => ⟨name, name⟩⟩
  else
    let (written, quoting, word) := FileName.wordAt before
    ⟨startOf before written, FileName.candidates around.files home quoting word⟩

/-- Completes a line at a byte offset, unless that is no place between two characters. -/
def completeAt (source : PathSource) (around : Surroundings) (home : Path) (line : Text)
    (cursor : Nat) : Option Completion :=
  (Utf8.splitAt cursor line).map fun (before, _) => complete source around home before

end Completion

end CommandShell
