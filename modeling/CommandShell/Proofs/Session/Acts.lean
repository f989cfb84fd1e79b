import CommandShell.Session.Run

/-!
What single acts come to, given what the sink and the host answer.
-/

set_option autoImplicit false

namespace CommandShell

/-- A message on a line of its own, as the sink gets it. -/
def lineBytes (message : Text) : Bytes := Utf8.encode (message ++ ['\n'])

theorem lineBytes_ne_nil (message : Text) : lineBytes message ≠ [] := by
  simp [lineBytes, Utf8.encode_append, Utf8.encodeChar_ne_nil]

/-- Notes made one after another in one phase. -/
def Trace.ofNotes (phase : Phase) (notes : List Note) : Trace :=
  notes.map fun note => ⟨phase, .noted note⟩

@[simp] theorem Trace.ofNotes_nil (phase : Phase) : ofNotes phase [] = [] := rfl

@[simp] theorem Trace.ofNotes_cons (phase : Phase) (note : Note) (rest : List Note) :
    ofNotes phase (note :: rest) = ⟨phase, .noted note⟩ :: ofNotes phase rest := rfl

@[simp] theorem Trace.ofNotes_append (phase : Phase) (first second : List Note) :
    ofNotes phase (first ++ second) = ofNotes phase first ++ ofNotes phase second := by
  simp only [ofNotes, List.map_append]

@[simp] theorem Trace.output_ofNotes (phase : Phase) (notes : List Note) :
    output (ofNotes phase notes) = [] := by
  simp [output, ofNotes, List.flatMap_map, Event.written]

variable {ω σ ε δ α β : Type}

@[simp] theorem mapError_ok (tell : ε → δ) (value : α) :
    (Except.ok value : Except ε α).mapError tell = .ok value := rfl

@[simp] theorem mapError_error (tell : ε → δ) (error : ε) :
    (Except.error error : Except ε α).mapError tell = .error (tell error) := rfl

namespace Act

@[simp] theorem pure_apply (value : α) (before : State ω σ) :
    (Pure.pure value : Act ω σ ε α) before = ⟨.ok value, before, []⟩ := rfl

@[simp] theorem bind_apply (first : Act ω σ ε α) (next : α → Act ω σ ε β) (before : State ω σ) :
    (first >>= next) before =
      match (first before).result with
      | .error error => ⟨.error error, (first before).after, (first before).trace⟩
      | .ok value =>
        ⟨(next value (first before).after).result, (next value (first before).after).after,
          (first before).trace ++ (next value (first before).after).trace⟩ := rfl

theorem id_map_act (act : Act ω σ ε α) : id <$> act = act := by
  funext before
  change (act >>= Pure.pure) before = act before
  rcases ran : act before with ⟨_ | _, after, trace⟩ <;> simp [ran]

theorem bind_assoc_act {γ : Type} (first : Act ω σ ε α) (second : α → Act ω σ ε β)
    (third : β → Act ω σ ε γ) :
    first >>= second >>= third = first >>= fun value => second value >>= third := by
  funext before
  rcases ran : first before with ⟨_ | value, after, trace⟩
  · simp [ran]
  · rcases later : second value after with ⟨_ | _, last, others⟩ <;> simp [ran, later]

instance : LawfulMonad (Act ω σ ε) :=
  LawfulMonad.mk' _ id_map_act (fun _ _ => funext fun before => by simp) bind_assoc_act

@[simp] theorem fail_apply (error : ε) (before : State ω σ) :
    (fail error : Act ω σ ε α) before = ⟨.error error, before, []⟩ := rfl

@[simp] theorem mapError_apply (tell : ε → δ) (act : Act ω σ ε α) (before : State ω σ) :
    act.mapError tell before =
      ⟨(act before).result.mapError tell, (act before).after, (act before).trace⟩ := rfl

@[simp] theorem attempt_apply (act : Act ω σ ε α) (before : State ω σ) :
    (act.attempt : Act ω σ δ (Except ε α)) before =
      ⟨.ok (act before).result, (act before).after, (act before).trace⟩ := rfl

@[simp] theorem happen_apply (event : Event) (before : State ω σ) :
    (happen event : Act ω σ ε Unit) before = ⟨.ok (), before, [⟨before.phase, event⟩]⟩ := rfl

@[simp] theorem note_apply (note : Note) (before : State ω σ) :
    (Act.note note : Act ω σ ε Unit) before = ⟨.ok (), before, [⟨before.phase, .noted note⟩]⟩ := rfl

@[simp] theorem look_apply (host : Host ω) (before : State ω σ) :
    (look host : Act ω σ ε Surroundings) before = ⟨.ok (host.look before.world), before, []⟩ := rfl

@[simp] theorem enter_apply (next : Phase) (before : State ω σ) :
    (enter next : Act ω σ ε Unit) before =
      ⟨.ok (), { before with phase := next }, [⟨next, .noted (.moved before.phase next)⟩]⟩ := rfl

@[simp] theorem arrange_apply (changed : Option ω) (adjust : σ → σ) (before : State ω σ) :
    (arrange changed adjust : Act ω σ ε Unit) before =
      ⟨.ok (), { before with world := changed.getD before.world, sink := adjust before.sink }, []⟩ :=
  rfl

theorem writeLine_of_taken (sink : Sink σ) (message : Text) (before : State ω σ) (after : σ)
    (taken : sink.write before.sink (lineBytes message) = (none, after)) :
    writeLine sink message before =
      ⟨.ok (), { before with sink := after }, [⟨before.phase, .wrote (lineBytes message)⟩]⟩ := by
  unfold lineBytes at taken
  simp only [writeLine, write, taken, lineBytes]

theorem writeLine_of_refused (sink : Sink σ) (message : Text) (before : State ω σ)
    (refusal : Refusal) (after : σ)
    (refused : sink.write before.sink (lineBytes message) = (some refusal, after)) :
    writeLine sink message before =
      ⟨.error refusal.reason, { before with sink := after },
        [⟨before.phase, .wrote ((lineBytes message).take refusal.taken)⟩,
          ⟨before.phase, .writeFailed⟩]⟩ := by
  unfold lineBytes at refused
  simp only [writeLine, write, refused, lineBytes]

theorem flush_of_done (sink : Sink σ) (before : State ω σ) (after : σ)
    (done : sink.flush before.sink = (none, after)) :
    (flush sink : Act ω σ Text Unit) before =
      ⟨.ok (), { before with sink := after }, [⟨before.phase, .flushed⟩]⟩ := by
  simp only [flush, done]

theorem flush_of_failed (sink : Sink σ) (before : State ω σ) (reason : Text) (after : σ)
    (failed : sink.flush before.sink = (some reason, after)) :
    (flush sink : Act ω σ Text Unit) before =
      ⟨.error reason, { before with sink := after }, [⟨before.phase, .flushFailed⟩]⟩ := by
  simp only [flush, failed]

@[simp] theorem launch_apply (host : Host ω) (request : LaunchRequest) (before : State ω σ) :
    launch host request before =
      ⟨(host.launch before.attempts before.world request).outcome,
        { before with
          world := (host.launch before.attempts before.world request).world,
          attempts := before.attempts + 1 },
        [⟨before.phase, .launch request⟩,
          ⟨before.phase, .performed (host.launch before.attempts before.world request).written⟩]⟩ :=
  rfl

end Act

end CommandShell
