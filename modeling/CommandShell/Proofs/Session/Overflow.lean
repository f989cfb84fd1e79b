import CommandShell.Proofs.Session.Reference
import CommandShell.Proofs.Session.Sinks

/-!
A sink that fills up cuts a session off where it is full, and changes nothing before that.
-/

set_option autoImplicit false

namespace CommandShell

variable {ω σ τ ε α : Type}

/-- A sink that, in some states, has room for so many bytes and no more: it takes what there is room
for and refuses the rest, and no flush fails. -/
structure Sink.Fills (sink : Sink τ) (room : τ → Nat → Prop) : Prop where
  takes : ∀ state left message, room state left → message.length ≤ left →
    ∃ after, sink.write state message = (none, after) ∧ room after (left - message.length)
  refuses : ∀ state left message, room state left → left < message.length →
    ∃ reason after, sink.write state message = (some ⟨left, reason⟩, after) ∧ room after 0
  flushes : ∀ state left, room state left → ∃ after, sink.flush state = (none, after) ∧ room after left

/-- The same reading, during which nothing happens to the sink. -/
def Item.untouched (item : Item ω σ) : Item ω τ := ⟨item.world, id, item.reading⟩

/-- What a session has to do with others than its sink: who gives it lines, and the programs. -/
def Event.isOutward : Event → Bool
  | .prompt _ | .launch _ | .performed _ | .ended _ => true
  | _ => false

/-- The prompts, the launches and what is seen of the programs. -/
def Trace.outward (trace : Trace) : Trace := trace.filter (·.event.isOutward)

@[simp] theorem Trace.outward_append (first second : Trace) :
    outward (first ++ second) = outward first ++ outward second := by
  simp only [outward, List.filter_append]

/-- The sink has failed the session for a reason of its own. -/
def ShellError.IsIo (error : ShellError) : Prop := ∃ reason, error = .io reason

/-- A piece of a session on a sink with room for so many bytes, beside the same piece on a sink that
never fails: it is the same if there is room for all of its output, and else it fails, having written
what there was room for. The last condition is on what comes of the two in that case. -/
inductive Ran.CutTo (room : τ → Nat → Prop) (left : Nat) (known : Except ε α → ε → Prop)
    (whole : Ran ω σ ε α) : Ran ω τ ε α → Prop
  | fits (sink : τ) (rest : Nat) (enough : whole.trace.output.length + rest = left)
      (still : room sink rest) : CutTo room left known whole (whole.onto sink)
  | cut (error : ε) (after : State ω τ) (trace : Trace) (beyond : left < whole.trace.output.length)
      (ends : known whole.result error) (taken : trace.output = whole.trace.output.take left)
      (outward : trace.outward = whole.trace.outward) (full : room after.sink 0) :
      CutTo room left known whole ⟨.error error, after, trace⟩

theorem Ran.CutTo.prepend {room : τ → Nat → Prop} {left : Nat} {known : Except ε α → ε → Prop}
    {whole : Ran ω σ ε α} {ran : Ran ω τ ε α} (cut : whole.CutTo room left known ran) (front : Trace)
    (silent : front.output = []) :
    Ran.CutTo room left known ⟨whole.result, whole.after, front ++ whole.trace⟩
      ⟨ran.result, ran.after, front ++ ran.trace⟩ := by
  have output (trace : Trace) : Trace.output (front ++ trace) = trace.output := by
    rw [Trace.output_append, silent, List.nil_append]
  cases cut with
  | fits sink rest enough still => exact .fits sink rest (by rw [output]; exact enough) still
  | cut error after trace beyond ends taken outward full =>
    refine .cut error after _ (by rw [output]; exact beyond) ends ?_ ?_ full
    · rw [output, output, taken]
    · rw [Trace.outward_append, Trace.outward_append, outward]

namespace Session

variable {setting : Setting ω σ} {other : Sink τ} {room : τ → Nat → Prop}

theorem flushesWith_of_fills (reliable : setting.sink.NeverFails) (fills : other.Fills room)
    (left : Nat) : setting.sink.FlushesWith other fun _ beside => room beside left := by
  intro state beside has
  obtain ⟨after, done⟩ := flush_of_neverFails reliable state
  obtain ⟨rest, also, still⟩ := fills.flushes beside left has
  exact ⟨after, rest, done, also, still⟩

/-- Nothing was left to do but to say something. -/
def saidAll (result : Except ShellError Begun) (_ : ShellError) : Prop := result = .ok (.done .goOn)

theorem speak_cut (reliable : setting.sink.NeverFails) (fills : other.Fills room) (speaker : Speaker)
    (message : Text) (before : State ω σ) (beside : τ) (left : Nat) (has : room beside left) :
    (speak setting speaker message before).CutTo room left saidAll
      (speak (setting.onto other) speaker message (before.onto beside)) := by
  obtain ⟨after, taken⟩ := write_of_neverFails reliable before.sink (lineBytes message)
  have output : (speak setting speaker message before).trace.output = lineBytes message := by
    rw [speak_of_taken _ _ _ _ _ taken]
    exact List.append_nil _
  rcases Nat.lt_or_ge left (lineBytes message).length with beyond | enough
  · obtain ⟨reason, rest, refused, full⟩ := fills.refuses beside left _ has beyond
    rw [speak_of_refused (setting.onto other) speaker message (before.onto beside) _ rest refused]
    refine .cut _ _ _ (by rw [output]; exact beyond) ?_ ?_ ?_ full
    · rw [saidAll, speak_of_taken _ _ _ _ _ taken]
    · rw [output]
      exact List.append_nil _
    · rw [speak_of_taken _ _ _ _ _ taken]
      rfl
  · obtain ⟨rest, also, still⟩ := fills.takes beside left _ has enough
    rw [speak_onto_of_taken speaker message before beside taken also]
    exact .fits rest _ (by rw [output]; omega) still

theorem startExternal_cut (reliable : setting.sink.NeverFails) (fills : other.Fills room)
    (program : Path) (command : Command) (before : State ω σ) (beside : τ) (left : Nat)
    (has : room beside left) :
    (startExternal setting program command before).CutTo room left saidAll
      (startExternal (setting.onto other) program command (before.onto beside)) := by
  have flushes := flushesWith_of_fills reliable fills left
  rcases launched : launchOf setting program command before with ⟨error | process, written, world⟩
  · obtain ⟨flushed, rest, done, also, still⟩ := flushes before.sink beside has
    have told := speak_cut reliable fills .shell (notFoundMessage command.word)
      (before.launched world flushed) rest left still
    rw [startExternal_of_refused setting _ _ _ _ _ _ _ done launched,
      startExternal_of_refused (setting.onto other) program command (before.onto beside) error written
        world rest also launched]
    exact told.prepend (launching program command written before.phase ++
      [⟨before.phase, .noted (.launchFailed command.word error)⟩]) rfl
  · obtain ⟨rest, still, same⟩ := startExternal_onto_of_started flushes program command before beside
      has process written world launched
    rw [same]
    refine .fits rest left ?_ still
    obtain ⟨flushed, done⟩ := flush_of_neverFails reliable before.sink
    rw [startExternal_of_started _ _ _ _ _ _ _ _ done launched, Trace.output_append,
      Trace.output_ofNotes]
    exact Nat.zero_add left

theorem perform_cut (reliable : setting.sink.NeverFails) (fills : other.Fills room)
    (command : Command) (errand : Errand) (before : State ω σ) (beside : τ) (left : Nat)
    (has : room beside left) :
    (perform setting command errand before).CutTo room left saidAll
      (perform (setting.onto other) command errand (before.onto beside)) := by
  cases errand with
  | say speaker message => exact speak_cut reliable fills speaker message before beside left has
  | leave => exact .fits beside left (Nat.zero_add left) has
  | start program => exact startExternal_cut reliable fills program command before beside left has

/-- A line that was carried out writes nothing more when it is concluded. -/
theorem resume_silent (setting : Setting ω σ) (line : Text) (begun : Begun) (before : State ω σ) :
    (resume setting line (.ok begun) before).trace.output = [] := by
  have concluded := conclude_cases setting line (.ok begun.outcome) before
  rw [resume_ok]
  generalize conclude setting line (.ok begun.outcome) before = last at concluded ⊢
  have ending : (begun.ending before.phase).output = [] := by cases begun <;> rfl
  rw [Trace.output_append, ending]
  generalize begun.outcome = outcome at concluded
  cases concluded <;> rfl

/-- A sink that is full does not take the report of an error either. -/
theorem conclude_of_full (fills : other.Fills room) (setting : Setting ω σ) (line : Text)
    (error : ShellError) (before : State ω τ) (full : room before.sink 0) :
    ∃ reason after trace,
      conclude (setting.onto other) line (.error error) before = ⟨.error (.io reason), after, trace⟩ ∧
        room after.sink 0 ∧ trace.output = [] ∧ trace.outward = [] := by
  have filled : 0 < (reportBytes error).length := List.length_pos_iff.mpr (lineBytes_ne_nil _)
  obtain ⟨reason, after, refused, still⟩ := fills.refuses before.sink 0 _ full filled
  rw [conclude_error_of_refused (setting.onto other) line error before _ _ refused]
  exact ⟨reason, _, _, rfl, still, rfl, rfl⟩

/-- For want of room the turn has failed. -/
def failedAll (_ : Except ShellError α) (error : ShellError) : Prop := error.IsIo

theorem resume_cut (reliable : setting.sink.NeverFails) (fills : other.Fills room) (line : Text)
    (left : Nat) {whole : Ran ω σ ShellError Begun} {ran : Ran ω τ ShellError Begun} (begun : Begun)
    (success : whole.result = .ok begun) (performed : whole.CutTo room left saidAll ran) :
    let last := resume setting line whole.result whole.after
    let others := resume (setting.onto other) line ran.result ran.after
    Ran.CutTo room left failedAll ⟨last.result, last.after, whole.trace ++ last.trace⟩
      ⟨others.result, others.after, ran.trace ++ others.trace⟩ := by
  intro last others
  have silent : last.trace.output = [] := by
    unfold last
    rw [success]
    exact resume_silent setting line begun whole.after
  have output : (whole.trace ++ last.trace).output = whole.trace.output := by
    rw [Trace.output_append, silent, List.append_nil]
  cases performed with
  | fits sink rest enough still =>
    obtain ⟨kept, room_left, same⟩ := resume_onto (flushesWith_of_fills reliable fills rest) line begun
      whole.after sink still
    have others_eq : others = last.onto kept := by
      unfold others last Ran.onto
      rw [success]
      exact same
    rw [others_eq]
    exact .fits kept rest (by rw [output]; exact enough) room_left
  | cut error after trace beyond ends taken outward full =>
    obtain ⟨reason, final, more, reported, still, unwritten, unseen⟩ :=
      conclude_of_full fills setting line error after full
    have others_eq : others = ⟨.error (.io reason), final, more⟩ := reported
    have goesOn : last = ⟨.ok none, whole.after, []⟩ := by
      unfold last
      rw [ends]
      rfl
    rw [others_eq]
    refine .cut _ _ _ (by rw [output]; exact beyond) ⟨reason, rfl⟩ ?_ ?_ still
    · rw [output, Trace.output_append, unwritten, List.append_nil, taken]
    · rw [Trace.outward_append, Trace.outward_append, outward, unseen, goesOn]
      rfl

theorem obeyLine_cut (reliable : setting.sink.NeverFails) (fills : other.Fills room) (line : Text)
    (before : State ω σ) (beside : τ) (left : Nat) (has : room beside left) :
    (obeyLine setting line before).CutTo room left failedAll
      (obeyLine (setting.onto other) line (before.onto beside)) := by
  cases blank : (Command.parse line).isBlank with
  | true =>
    rw [obeyLine_of_blank _ _ _ blank, obeyLine_of_blank _ _ _ blank]
    exact .fits beside left (Nat.zero_add left) has
  | false =>
    have performed := perform_cut reliable fills (Command.parse line)
      (errandOf setting (Command.parse line) (State.dispatching before)) (State.dispatching before)
      beside left has
    obtain ⟨begun, success, -⟩ := perform_shows setting reliable _ _ _ _
      (perform_cases setting (Command.parse line)
        (errandOf setting (Command.parse line) (State.dispatching before)) (State.dispatching before))
    have resumed := resume_cut reliable fills line left begun success performed
    have silent : Trace.output (entering before.phase ++
        opening setting (Command.parse line) (State.dispatching before)) = [] := by
      rw [Trace.output_append, opening, Trace.output_ofNotes]
      rfl
    rw [obeyLine_of_command _ _ _ blank, obeyLine_onto_of_command _ _ _ _ _ blank _ rfl]
    simpa only [List.append_assoc] using resumed.prepend _ silent

theorem obey_endOfInput_cut (reliable : setting.sink.NeverFails) (fills : other.Fills room)
    (before : State ω σ) (beside : τ) (left : Nat) (has : room beside left) :
    (obey setting .endOfInput before).CutTo room left failedAll
      (obey (setting.onto other) .endOfInput (before.onto beside)) := by
  obtain ⟨written, taken⟩ := write_of_neverFails reliable before.sink (lineBytes [])
  obtain ⟨flushed, done⟩ := flush_of_neverFails reliable written
  rw [obey_endOfInput, obey_endOfInput, finish_of_done _ _ _ _ taken done]
  rcases Nat.lt_or_ge left (lineBytes []).length with beyond | enough
  · obtain ⟨reason, rest, refused, full⟩ := fills.refuses beside left _ has beyond
    rw [finish_of_refused (setting.onto other) (before.onto beside) _ rest refused]
    exact .cut _ _ _ beyond ⟨reason, rfl⟩ (List.append_nil _) rfl full
  · obtain ⟨rest, also, still⟩ := fills.takes beside left _ has enough
    obtain ⟨kept, flushes, stays⟩ := fills.flushes rest _ still
    rw [finish_of_done (setting.onto other) (before.onto beside) rest kept also flushes]
    exact .fits kept _ (Nat.add_sub_cancel' enough) stays

theorem obey_cut (reliable : setting.sink.NeverFails) (fills : other.Fills room) (reading : Reading)
    (before : State ω σ) (beside : τ) (left : Nat) (has : room beside left) :
    (obey setting reading before).CutTo room left failedAll
      (obey (setting.onto other) reading (before.onto beside)) := by
  cases reading with
  | line text => exact obeyLine_cut reliable fills text before beside left has
  | interrupted => exact .fits beside left (Nat.zero_add left) has
  | failed cause => exact .fits beside left (Nat.zero_add left) has
  | endOfInput => exact obey_endOfInput_cut reliable fills before beside left has

theorem turn_cut (reliable : setting.sink.NeverFails) (fills : other.Fills room) (item : Item ω σ)
    (before : State ω σ) (beside : τ) (left : Nat) (has : room beside left) :
    (turn setting item before).CutTo room left failedAll
      (turn (setting.onto other) item.untouched (before.onto beside)) := by
  obtain ⟨flushed, done⟩ := flush_of_neverFails reliable before.sink
  obtain ⟨rest, also, still⟩ := fills.flushes beside left has
  have obeyed := obey_cut reliable fills item.reading (arranged item before flushed) rest left still
  rw [turn_of_done _ _ _ _ done,
    turn_of_done (setting.onto other) item.untouched (before.onto beside) rest also]
  exact obeyed.prepend
    [resting before.phase, ⟨.idle, .flushed⟩, ⟨.idle, .prompt setting.prompt⟩] rfl

/-- All that happens in some turns. -/
def traced (taken : List (Turned ω σ)) : Trace := taken.flatMap fun turned => turned.ran.trace

/-- A session on a sink with room for so many bytes, beside the same session on a sink that never fails:
it is the same if there is room for all, and else it ends with the turn for whose output there is none. -/
inductive RunCut (room : τ → Nat → Prop) (left : Nat) (taken : List (Turned ω σ))
    (whole : Ran ω σ ShellError Nat) : Ran ω τ ShellError Nat → Prop
  | fits (sink : τ) (rest : Nat) (enough : whole.trace.output.length + rest = left)
      (still : room sink rest) : RunCut room left taken whole (whole.onto sink)
  | cut (front back : List (Turned ω σ)) (last : Turned ω σ) (reason : Text) (after : State ω τ)
      (trace : Trace) (split : taken = front ++ last :: back)
      (enough : (traced front).output.length ≤ left)
      (beyond : left < (traced (front ++ [last])).output.length)
      (written : trace.output = whole.trace.output.take left)
      (outward : trace.outward = (traced (front ++ [last])).outward) :
      RunCut room left taken whole ⟨.error (.io reason), after, trace⟩

theorem RunCut.prepend {room : τ → Nat → Prop} {left rest : Nat} {taken : List (Turned ω σ)}
    {whole : Ran ω σ ShellError Nat} {ran : Ran ω τ ShellError Nat} (later : RunCut room rest taken whole ran)
    (turned : Turned ω σ) (enough : turned.ran.trace.output.length + rest = left) :
    RunCut room left (turned :: taken)
      ⟨whole.result, whole.after, turned.ran.trace ++ whole.trace⟩
      ⟨ran.result, ran.after, turned.ran.trace ++ ran.trace⟩ := by
  have output (trace : Trace) : (Trace.output (turned.ran.trace ++ trace)).length =
      turned.ran.trace.output.length + trace.output.length := by
    rw [Trace.output_append, List.length_append]
  cases later with
  | fits sink more within still =>
    refine .fits sink more ?_ still
    rw [output]
    omega
  | cut front back last reason after trace split within beyond written outward =>
    have first (others : List (Turned ω σ)) :
        traced (turned :: others) = turned.ran.trace ++ traced others := rfl
    refine .cut (turned :: front) back last reason after _ (by rw [split]; rfl) ?_ ?_ ?_ ?_
    · rw [first, output]
      omega
    · rw [List.cons_append, first, output]
      omega
    · rw [Trace.output_append, Trace.output_append, written, ← enough, List.take_length_add_append]
    · rw [List.cons_append, first, Trace.outward_append, Trace.outward_append, outward]

theorem runCut_of_cut {room : τ → Nat → Prop} {left : Nat} (turned : Turned ω σ)
    (others : List (Turned ω σ)) {after : State ω τ} {trace more : Trace} {reason : Text}
    {whole : Ran ω σ ShellError Nat} (beyond : left < turned.ran.trace.output.length)
    (written : trace.output = turned.ran.trace.output.take left)
    (outward : trace.outward = turned.ran.trace.outward)
    (begins : whole.trace = turned.ran.trace ++ more) :
    RunCut room left (turned :: others) whole ⟨.error (.io reason), after, trace⟩ := by
  have alone : traced [turned] = turned.ran.trace := List.append_nil _
  refine .cut [] others turned reason after trace rfl (Nat.zero_le left) ?_ ?_ ?_
  · simpa only [List.nil_append, alone] using beyond
  · rw [begins, Trace.output_append, List.take_append_of_le_length (Nat.le_of_lt beyond), written]
  · simpa only [List.nil_append, alone] using outward

/-- With the turn that ends the session on a sink that never fails, it ends on the other. -/
theorem runCut_of_ended {room : τ → Nat → Prop} {left : Nat} (turned : Turned ω σ)
    {ran : Ran ω τ ShellError (Option Nat)} (cut : turned.ran.CutTo room left failedAll ran)
    {result : Except ShellError Nat} (ended : verdict turned.ran.result = some result) :
    ∃ final, verdict ran.result = some final ∧
      RunCut room left [turned] ⟨result, turned.ran.after, turned.ran.trace⟩
        ⟨final, ran.after, ran.trace⟩ := by
  cases cut with
  | fits sink rest enough still => exact ⟨result, ended, .fits sink rest enough still⟩
  | cut error after trace beyond ends taken outward full =>
    obtain ⟨reason, rfl⟩ := ends
    exact ⟨_, rfl, runCut_of_cut turned [] beyond taken outward (List.append_nil _).symm⟩

/-- Turn by turn, until there is no room for what a turn writes. -/
theorem run_cut (reliable : setting.sink.NeverFails) (fills : other.Fills room)
    (items : List (Item ω σ)) (before : State ω σ) (beside : τ) (left : Nat) (has : room beside left) :
    RunCut room left (turns setting items before) (run setting items before)
      (run (setting.onto other) (items.map Item.untouched) (before.onto beside)) := by
  induction items generalizing before beside left with
  | nil =>
    have cut := turn_cut reliable fills closing before beside left has
    obtain ⟨result, ended, whole⟩ := run_nil_ended setting before
    obtain ⟨final, ends, ran⟩ := run_nil_ended (setting.onto other) (before.onto beside)
    obtain ⟨_, same, beside_it⟩ := runCut_of_ended ⟨closing, before, _⟩ cut ended
    obtain rfl := Option.some.inj (ends.symm.trans same)
    rw [whole, List.map_nil, ran]
    exact beside_it
  | cons item rest ih =>
    have cut := turn_cut reliable fills item before beside left has
    rw [List.map_cons]
    cases ended : verdict (turn setting item before).result with
    | some result =>
      obtain ⟨final, ends, beside_it⟩ := runCut_of_ended ⟨item, before, _⟩ cut ended
      rw [turns_cons_of_ended _ _ _ _ _ ended, run_cons_of_ended _ _ _ _ _ ended,
        run_cons_of_ended _ _ _ _ _ ends]
      exact beside_it
    | none =>
      have next := (verdict_eq_none_iff _).mp ended
      rw [turns_cons_of_goOn _ _ _ _ next, run_cons_of_goOn _ _ _ _ next]
      generalize ran : turn (setting.onto other) item.untouched (before.onto beside) = beside_it at cut
      cases cut with
      | fits sink spare enough still =>
        have also : (turn (setting.onto other) item.untouched (before.onto beside)).result = .ok none := by
          rw [ran]
          exact next
        rw [run_cons_of_goOn _ _ _ _ also, ran]
        exact (ih _ sink spare still).prepend ⟨item, before, turn setting item before⟩ enough
      | cut error after trace beyond ends taken outward full =>
        obtain ⟨reason, rfl⟩ := ends
        have stops : verdict (turn (setting.onto other) item.untouched (before.onto beside)).result =
            some (.error (.io reason)) := by
          rw [ran]
          rfl
        rw [run_cons_of_ended _ _ _ _ _ stops, ran]
        exact runCut_of_cut ⟨item, before, turn setting item before⟩ _ beyond taken outward rfl

/-- A sink with room for `n` bytes takes the first `n` bytes of what a session writes to a sink that never
fails. If that is all, the two sessions are the same. Else the session on the full sink fails: it has seen
and launched what the other has up to the turn that overflows, and nothing after that turn. -/
theorem run_overflows (setting : Setting ω σ) (other : Sink τ) (room : τ → Nat → Prop)
    (reliable : setting.sink.NeverFails) (fills : other.Fills room) (items : List (Item ω σ))
    (world : ω) (sink : σ) (beside : τ) (n : Nat) (has : room beside n) :
    let whole := run setting items (start world sink)
    let ran := run (setting.onto other) (items.map Item.untouched) (start world beside)
    ran.trace.output = whole.trace.output.take n ∧
      (whole.trace.output.length ≤ n → ran.trace = whole.trace ∧ ran.result = whole.result) ∧
      (n < whole.trace.output.length →
        (∃ reason, ran.result = .error (.io reason)) ∧ ran.trace.outward <+: whole.trace.outward ∧
          ∃ front last back, turns setting items (start world sink) = front ++ last :: back ∧
            (traced front).output.length ≤ n ∧ n < (traced (front ++ [last])).output.length ∧
            ran.trace.outward = (traced (front ++ [last])).outward) := by
  intro whole ran
  obtain ⟨-, happened, -⟩ := run_eq_turns setting items (start world sink)
  have cut : RunCut room n (turns setting items (start world sink)) whole ran :=
    run_cut reliable fills items (start world sink) beside n has
  have traced_whole : whole.trace = traced (turns setting items (start world sink)) := happened
  generalize ran = ran at cut ⊢
  cases cut with
  | fits sink rest enough still =>
    have short : whole.trace.output.length ≤ n := by omega
    exact ⟨(List.take_of_length_le short).symm, fun _ => ⟨rfl, rfl⟩,
      fun beyond => absurd short (Nat.not_le.mpr beyond)⟩
  | cut front back last reason after trace split enough beyond written outward =>
    have parts : whole.trace = traced (front ++ [last]) ++ traced back := by
      rw [traced_whole, split, List.append_cons]
      exact List.flatMap_append
    have long : n < whole.trace.output.length := by
      rw [parts, Trace.output_append, List.length_append]
      omega
    refine ⟨written, fun short => absurd long (Nat.not_lt.mpr short), fun _ => ?_⟩
    refine ⟨⟨reason, rfl⟩, ?_, front, last, back, split, enough, beyond, outward⟩
    rw [outward, parts, Trace.outward_append]
    exact List.prefix_append _ _

/-- A flawed sink that has nothing against it but its size. -/
theorem flaws_fill : Flaws.sink.Fills fun flaws left => flaws = ⟨0, 0, some left⟩ := by
  refine ⟨?_, ?_, ?_⟩
  · rintro _ left message rfl enough
    exact ⟨_, by simp [Flaws.sink, Flaws.write, enough], rfl⟩
  · rintro _ left message rfl beyond
    exact ⟨Flaws.reason, _, by simp [Flaws.sink, Flaws.write, Nat.not_le.mpr beyond], rfl⟩
  · rintro _ left rfl
    exact ⟨_, rfl, rfl⟩

/-- There is room for the word, and not for the line feed behind it: the second program is not started. -/
theorem run_overflows_word :
    let setting : Setting Surroundings Unit :=
      ⟨.environment, .still fun _ _ => .ok ⟨none, .dropped⟩, .unlimited, "$ ".toList⟩
    let items : List (Item Surroundings Unit) :=
      [.plain (.line "/x".toList), .plain (.line "echo ab".toList), .plain (.line "/y".toList)]
    let whole := run setting items (start ⟨none, Files.none⟩ ())
    let ran := run (setting.onto Flaws.sink) (items.map Item.untouched)
      (start ⟨none, Files.none⟩ ⟨0, 0, some 2⟩)
    setting.sink.NeverFails ∧ 2 < whole.trace.output.length ∧
      ran.trace.output = Utf8.encode "ab".toList ∧ (∃ reason, ran.result = .error (.io reason)) ∧
      whole.trace.launches.length = 2 ∧ ran.trace.launches.length = 1 ∧
      ran.trace.outward <+: whole.trace.outward := by
  intro setting items whole ran
  have reliable : setting.sink.NeverFails := Sink.unlimited_neverFails
  obtain ⟨written, -, overflowed⟩ := run_overflows setting Flaws.sink _ reliable flaws_fill items
    ⟨none, Files.none⟩ () ⟨0, 0, some 2⟩ 2 rfl
  have beyond : 2 < whole.trace.output.length := by decide +kernel
  obtain ⟨failed, front, -⟩ := overflowed beyond
  refine ⟨reliable, beyond, written.trans ?_, failed, ?_, ?_, front⟩
  · decide +kernel
  · decide +kernel
  · decide +kernel

end Session

end CommandShell
