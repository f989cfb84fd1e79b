import CommandShell.Text.Basic

/-!
How alike two words are, for suggesting the option that was meant.
-/

set_option autoImplicit false

namespace CommandShell.Similar

/-- The place of the first free occurrence of a character between two places, counted from
`here`. -/
def firstFree (c : Char) (low high here : Nat) : List (Char × Bool) → Option Nat
  | [] => none
  | (d, taken) :: rest =>
    if low ≤ here && here < high && c = d && !taken then some here
    else firstFree c low high (here + 1) rest

/-- Pairs each character of `a`, which starts at place `here`, with the first free equal character
of `b` no further than `range` places off. Gives the paired characters of `a` in order, and `b`
with its paired places marked. -/
def pairUp (range here : Nat) (b : List (Char × Bool)) : Text → Text × List (Char × Bool)
  | [] => ([], b)
  | c :: rest =>
    match firstFree c (here - range) (here + range + 1) 0 b with
    | some place =>
      let (paired, marked) := pairUp range (here + 1) (b.set place (c, true)) rest
      (c :: paired, marked)
    | none => pairUp range (here + 1) b rest

/-- The Jaro similarity: the mean of the shares of paired characters in both words and of the pairs
that stand in order. -/
def jaro (a b : Text) : Float :=
  if a.isEmpty && b.isEmpty then 1.0
  else
    let range := max a.length b.length / 2 - 1
    let (fromA, marked) := pairUp range 0 (b.map fun c => (c, false)) a
    let fromB := (marked.filter (·.2)).map (·.1)
    let outOfOrder := ((fromA.zip fromB).filter fun (c, d) => c != d).length / 2
    let pairs := fromA.length
    if pairs = 0 then 0.0
    else
      (pairs.toFloat / a.length.toFloat + pairs.toFloat / b.length.toFloat
        + (pairs - outOfOrder).toFloat / pairs.toFloat) / 3.0

/-- The most alike of some choices, if it is alike enough; of equals the last. -/
def best {α : Type} (text : α → Text) (wanted : Text) (choices : List α) : Option α :=
  (choices.foldl (fun (sofar : Option (α × Float)) choice =>
    let score := jaro wanted (text choice)
    match sofar with
    | some (_, greatest) => if score ≥ greatest && score > 0.7 then some (choice, score) else sofar
    | none => if score > 0.7 then some (choice, score) else none) none).map (·.1)

end CommandShell.Similar
