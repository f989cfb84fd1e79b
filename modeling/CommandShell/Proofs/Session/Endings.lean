import CommandShell.Proofs.Lookup
import CommandShell.Proofs.Session.Reference

/-!
Which readings end a session whose sink takes everything, and that nothing is read behind them.
-/

set_option autoImplicit false

namespace CommandShell

theorem Errand.of_eq_leave_iff (source : PathSource) (around : Surroundings) (command : Command) :
    Errand.of source around command = .leave ↔ command.word = Builtin.exit.name := by
  rw [eq_comm (a := command.word), ← PathSource.resolve_eq_builtin_iff source around]
  cases resolved : source.resolve around command.word with
  | builtin builtin =>
    cases builtin with
    | echo | exit => simp [Errand.of, resolved]
    | type => cases arguments : command.arguments <;> simp [Errand.of, resolved, arguments]
  | executable path => simp [Errand.of, resolved]
  | notFound =>
    simp only [Errand.of, resolved]
    split <;> simp

/-- How a reading ends a session whose sink takes everything, if it does. What is around does not
matter. -/
def Reading.ending : Reading → Option (Except ShellError Nat)
  | .line text => if (Command.parse text).word = Builtin.exit.name then some (.ok 0) else none
  | .interrupted => none
  | .endOfInput => some (.ok 0)
  | .failed cause => some (.error (.input cause))

variable {ω σ : Type}

theorem Errand.ending_response (host : Host ω) (command : Command) (attempts : Nat) (world : ω)
    (errand : Errand) :
    (errand.response host command attempts world).ending =
      if errand = .leave then some (.ok 0) else none := by
  cases errand <;> rfl

theorem ending_respond (source : PathSource) (host : Host ω) (attempts : Nat) (world : ω)
    (reading : Reading) : (respond source host attempts world reading).ending = reading.ending := by
  cases reading with
  | line text =>
    cases blank : text.isBlank with
    | true =>
      have none_said := (Command.isBlank_parse text).trans blank
      have other : (Command.parse text).word ≠ Builtin.exit.name := by
        rw [List.isEmpty_iff.mp none_said]
        decide
      rw [respond, if_pos blank, Reading.ending, if_neg other]
    | false =>
      rw [respond, if_neg (by simp [blank]), Reading.ending]
      simp only [Errand.ending_response, Errand.of_eq_leave_iff]
  | interrupted => rfl
  | endOfInput => rfl
  | failed cause => rfl

namespace Session

section Endings

variable (setting : Setting ω σ) (reliable : setting.sink.NeverFails)
include reliable

theorem verdict_turn (item : Item ω σ) (before : State ω σ) :
    verdict (turn setting item before).result = item.reading.ending :=
  (turn_meets setting reliable item before).1.trans (ending_respond _ _ _ _ _)

/-- A script none of whose readings ends the session is read to its end. -/
theorem run_of_no_ending (items : List (Item ω σ))
    (goesOn : ∀ item ∈ items, item.reading.ending = none) (before : State ω σ) :
    (run setting items before).result = .ok 0 := by
  induction items generalizing before with
  | nil =>
    obtain ⟨result, ended, last⟩ := run_nil_ended setting before
    rw [verdict_turn setting reliable] at ended
    rw [last]
    exact (Option.some.inj ended).symm
  | cons item rest ih =>
    have next := (verdict_turn setting reliable item before).trans (goesOn item List.mem_cons_self)
    rw [run_cons_of_goOn _ _ _ _ ((verdict_eq_none_iff _).mp next)]
    exact ih (fun other member => goesOn other (List.mem_cons_of_mem item member)) _

/-- The first reading that ends the session is the last one that is read. -/
theorem run_of_ending (front back : List (Item ω σ)) (last : Item ω σ)
    (goesOn : ∀ item ∈ front, item.reading.ending = none) (result : Except ShellError Nat)
    (ends : last.reading.ending = some result) (before : State ω σ) :
    (run setting (front ++ last :: back) before).result = result ∧
      run setting (front ++ last :: back) before = run setting (front ++ [last]) before ∧
      (turns setting (front ++ last :: back) before).length = front.length + 1 := by
  induction front generalizing before with
  | nil =>
    have ended := (verdict_turn setting reliable last before).trans ends
    rw [List.nil_append, List.nil_append, run_cons_of_ended _ _ _ _ _ ended,
      run_cons_of_ended _ _ _ _ _ ended, turns_cons_of_ended _ _ _ _ _ ended]
    exact ⟨rfl, rfl, rfl⟩
  | cons item rest ih =>
    have next := (verdict_eq_none_iff _).mp
      ((verdict_turn setting reliable item before).trans (goesOn item List.mem_cons_self))
    obtain ⟨ended, same, taken⟩ := ih
      (fun other member => goesOn other (List.mem_cons_of_mem item member))
      (turn setting item before).after
    simp only [List.cons_append, run_cons_of_goOn _ _ _ _ next, turns_cons_of_goOn _ _ _ _ next]
    refine ⟨ended, ?_, ?_⟩
    · rw [same]
    · rw [List.length_cons, taken, List.length_cons]

end Endings

end Session

end CommandShell
