import CommandShell.Log.Directive

/-!
Filters that choose the records to be shown, and the lists of directives they are written as.
-/

set_option autoImplicit false

namespace CommandShell

/-- The directives of a filter, the more specific ones first. -/
structure Filter where
  directives : List Directive

namespace Filter

/-- The first directive that concerns a record decides; without one it is not shown. -/
def admits (filter : Filter) (record : Record) : Bool :=
  match filter.directives.find? (·.concerns record) with
  | some directive => directive.threshold.admits record.level
  | none => false

/-- Everything down to a level. -/
def upTo (level : Level) : Filter := ⟨[⟨none, [], .upTo level⟩]⟩

/-- A list of directives with commas between them. An empty list asks for errors alone. -/
def parse (t : Text) : Option Filter := do
  let directives ← (pieces (· == ',') t).mapM Directive.parse
  if directives.isEmpty then return upTo .error
  return ⟨directives.reduceOption.foldl (fun sofar directive => directive.insert sofar) []⟩

end Filter

end CommandShell
