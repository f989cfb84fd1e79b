import CommandShell.Text.Basic

/-!
Where a session writes to: each write and each flush may fail.
-/

set_option autoImplicit false

namespace CommandShell

/-- A message that was not taken whole: how many of its bytes were, and why no more. -/
structure Refusal where
  taken : Nat
  reason : Text
  deriving DecidableEq

/-- A sink with states in `σ`. Writing takes a whole message or refuses the rest of it. -/
structure Sink (σ : Type) where
  write : σ → Bytes → Option Refusal × σ
  flush : σ → Option Text × σ

namespace Sink

/-- A sink that takes everything. -/
def unlimited : Sink Unit where
  write := fun _ _ => (none, ())
  flush := fun _ => (none, ())

end Sink

/-- What a flawed sink has in store: writes and flushes that will fail, and the bytes there is room
for, if that is limited. -/
structure Flaws where
  failingWrites : Nat
  failingFlushes : Nat
  room : Option Nat
  deriving DecidableEq

namespace Flaws

def none : Flaws := ⟨0, 0, .none⟩

/-- Why a flawed sink refuses. -/
def reason : Text := "pipe closed".toList

/-- A failing write takes nothing; after those, what there is room for is taken. -/
def write (flaws : Flaws) (message : Bytes) : Option Refusal × Flaws :=
  if flaws.failingWrites > 0 then
    (some ⟨0, reason⟩, { flaws with failingWrites := flaws.failingWrites - 1 })
  else
    match flaws.room with
    | .none => (.none, flaws)
    | some room =>
      if message.length ≤ room then
        (.none, { flaws with room := some (room - message.length) })
      else (some ⟨room, reason⟩, { flaws with room := some 0 })

def flush (flaws : Flaws) : Option Text × Flaws :=
  if flaws.failingFlushes > 0 then
    (some reason, { flaws with failingFlushes := flaws.failingFlushes - 1 })
  else (.none, flaws)

/-- The sink that refuses as its flaws say. -/
def sink : Sink Flaws := ⟨write, flush⟩

end Flaws

end CommandShell
