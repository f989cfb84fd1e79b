import CommandShell.Proofs.Pieces
import CommandShell.Proofs.Session.Reference

/-!
The words of a line, told without the parser: a line is those words with white space around them, and it
can be read in no other way. What `echo` prints reads back as its arguments.
-/

set_option autoImplicit false

namespace CommandShell

variable {ω σ : Type}

/-- A text that may be a word of a line. -/
def IsToken (t : Text) : Prop := t ≠ [] ∧ ∀ c ∈ t, c ∉ whiteSpace

/-- A line is written as tokens with gaps of white space: `lead` before the first token, and one gap
behind each token. Behind the last token the gap may be empty, as it may before the first, but between
two tokens there is always some white space. -/
structure Spaced (line : Text) (tokens : List Text) (lead : Text) (gaps : List Text) : Prop where
  paired : gaps.length = tokens.length
  written : line = lead ++ (List.zipWith (· ++ ·) tokens gaps).flatten
  blank : ∀ gap ∈ lead :: gaps, ∀ c ∈ gap, c ∈ whiteSpace
  apart : ∀ gap ∈ gaps.dropLast, gap ≠ []

theorem IsToken.whole {t : Text} (token : IsToken t) : ∀ c ∈ t, isBlank c = false := by
  intro c member
  exact (isBlank_eq_false_iff c).mpr (token.2 c member)

theorem isToken_of_mem_words {line word : Text} (member : word ∈ words line) : IsToken word := by
  have whole := whole_of_mem_pieces isBlank line word member
  refine ⟨ne_nil_of_mem_pieces isBlank line word member, ?_⟩
  intro c within
  exact (isBlank_eq_false_iff c).mp (whole c within)

/-- What stands behind the first token is spaced as well, its lead being the gap there. -/
theorem Spaced.tail {line token lead gap : Text} {tokens gaps : List Text}
    (spaced : Spaced line (token :: tokens) lead (gap :: gaps)) :
    Spaced (gap ++ (List.zipWith (· ++ ·) tokens gaps).flatten) tokens gap gaps where
  paired := Nat.succ.inj spaced.paired
  written := rfl
  blank := fun other member => spaced.blank other (List.mem_cons_of_mem lead member)
  apart := by
    intro other member
    apply spaced.apart other
    cases gaps with
    | nil => cases member
    | cons next later => exact List.mem_cons_of_mem gap member

/-- A token does not run on: behind it the line ends, or white space begins. -/
theorem Spaced.stops {line token lead gap : Text} {tokens gaps : List Text}
    (spaced : Spaced line (token :: tokens) lead (gap :: gaps)) :
    ∀ c, (gap ++ (List.zipWith (· ++ ·) tokens gaps).flatten).head? = some c → isBlank c = true := by
  intro c head
  cases gap with
  | cons first others =>
    obtain rfl := Option.some.inj head
    apply (isBlank_iff first).mpr
    exact spaced.blank (first :: others) (by simp) first List.mem_cons_self
  | nil =>
    -- Only the last gap may be empty, and behind it nothing is left.
    cases gaps with
    | nil => simp at head
    | cons next later => exact absurd rfl (spaced.apart [] (by simp))

theorem Spaced.cut {line lead : Text} {tokens gaps : List Text}
    (spaced : Spaced line tokens lead gaps) (solid : ∀ token ∈ tokens, IsToken token) :
    Cut isBlank line tokens := by
  have leads : lead.all isBlank = true :=
    (Text.isBlank_iff lead).mpr (spaced.blank lead List.mem_cons_self)
  induction tokens generalizing line lead gaps with
  | nil =>
    have bare : line = lead := by
      rw [spaced.written]
      simp
    rw [bare]
    exact .gap lead leads
  | cons token tokens ih =>
    cases gaps with
    | nil => cases spaced.paired
    | cons gap gaps =>
      have later : Cut isBlank (gap ++ (List.zipWith (· ++ ·) tokens gaps).flatten) tokens := by
        apply ih spaced.tail
        · intro other member
          exact solid other (List.mem_cons_of_mem token member)
        · exact (Text.isBlank_iff gap).mpr (spaced.tail.blank gap List.mem_cons_self)
      have written : line = lead ++ token ++ (gap ++ (List.zipWith (· ++ ·) tokens gaps).flatten) := by
        rw [spaced.written]
        simp
      have first := solid token List.mem_cons_self
      rw [written]
      exact .piece lead token _ tokens leads first.1 first.whole spaced.stops later

/-- Each gap of a cut becomes the gap behind the piece before it. -/
theorem exists_spaced_of_cut {line : Text} {tokens : List Text} (cut : Cut isBlank line tokens) :
    ∃ lead gaps, Spaced line tokens lead gaps := by
  induction cut with
  | gap gap cuts =>
    have blank := (Text.isBlank_iff gap).mp cuts
    exact ⟨gap, [], rfl, by simp, by simpa using blank, by simp⟩
  | piece gap piece rest others cuts filled whole apart later ih =>
    obtain ⟨lead, gaps, spaced⟩ := ih
    have blank := (Text.isBlank_iff gap).mp cuts
    have parted : gaps ≠ [] → lead ≠ [] := by
      rintro more rfl
      -- Without a gap the next token would go on from this one, where white space has to be.
      obtain ⟨next, tokens, rfl⟩ : ∃ next tokens, others = next :: tokens := by
        apply List.exists_cons_of_ne_nil
        rintro rfl
        exact more (List.length_eq_zero_iff.mp spaced.paired)
      obtain ⟨after, gaps, rfl⟩ := List.exists_cons_of_ne_nil more
      have member : next ∈ words rest := by
        rw [words, later.pieces_eq]
        exact List.mem_cons_self
      have token := isToken_of_mem_words member
      obtain ⟨c, letters, rfl⟩ := List.exists_cons_of_ne_nil token.1
      have head : rest.head? = some c := by
        rw [spaced.written]
        rfl
      have solid := token.whole c List.mem_cons_self
      rw [apart c head] at solid
      cases solid
    refine ⟨gap, lead :: gaps, ?_, ?_, ?_, ?_⟩
    · rw [List.length_cons, List.length_cons, spaced.paired]
    · rw [spaced.written]
      simp
    · exact List.forall_mem_cons.mpr ⟨blank, spaced.blank⟩
    · intro other member
      by_cases more : gaps = []
      · rw [more] at member
        cases member
      · rw [List.dropLast_cons_of_ne_nil more] at member
        rcases List.mem_cons.mp member with rfl | among
        · exact parted more
        · exact spaced.apart other among

/-- The words of a line are the one list of tokens that it is spaced from. -/
theorem words_eq_iff (line : Text) (tokens : List Text) :
    words line = tokens ↔
      (∀ token ∈ tokens, IsToken token) ∧ ∃ lead gaps, Spaced line tokens lead gaps := by
  constructor
  · rintro rfl
    have cut : Cut isBlank line (words line) := cut_pieces isBlank line
    exact ⟨fun token member => isToken_of_mem_words member, exists_spaced_of_cut cut⟩
  · rintro ⟨solid, lead, gaps, spaced⟩
    exact (spaced.cut solid).pieces_eq

theorem words_joined (tokens : List Text) (solid : ∀ token ∈ tokens, IsToken token) :
    words ([' '].intercalate tokens) = tokens := by
  have space : isBlank ' ' = true := by decide
  have whole : ∀ token ∈ tokens, ∀ c ∈ token, isBlank c = false :=
    fun token member => (solid token member).whole
  have filled : ∀ token ∈ tokens, (!token.isEmpty) = true := by
    intro token member
    simpa using (solid token member).1
  rw [words, pieces_joined isBlank ' ' space tokens whole, List.filter_eq_self.mpr filled]

namespace Command

/-- The words a command is made of. -/
def tokens (command : Command) : List Text :=
  if command.word = [] then command.arguments else command.word :: command.arguments

theorem tokens_parse (line : Text) : (parse line).tokens = words line := by
  cases found : words line with
  | nil =>
    rw [parse, found]
    rfl
  | cons word arguments =>
    have member : word ∈ words line := by
      rw [found]
      exact List.mem_cons_self
    have filled := (isToken_of_mem_words member).1
    rw [parse, found]
    exact if_neg filled

theorem arguments_of_word_eq_nil {line : Text} (empty : (parse line).word = []) :
    (parse line).arguments = [] := by
  have blank : words line = [] := by
    have silent : (parse line).isBlank = true := List.isEmpty_iff.mpr empty
    rw [isBlank_parse] at silent
    exact (pieces_eq_nil_iff CommandShell.isBlank line).mpr silent
  rw [parse, blank]
  rfl

end Command

/-- A sink that takes everything is given the arguments with single spaces between them. -/
theorem Session.echo_output (setting : Setting ω σ) (reliable : setting.sink.NeverFails)
    (arguments : List Text) (before : State ω σ) :
    (echo setting arguments before).trace.output = lineBytes ([' '].intercalate arguments) := by
  obtain ⟨after, taken⟩ :=
    write_of_neverFails reliable before.sink (lineBytes ([' '].intercalate arguments))
  rw [echo, Act.bind_apply, Act.mapError_apply, Act.writeLine_of_taken _ _ _ _ taken]
  exact List.append_nil _

namespace Command

/-- A line is read as tokens exactly if it is those tokens with white space around them: no token is empty
or holds white space, and between two tokens there is some. It has no command exactly if it is white space
throughout, and no arguments then. Tokens that `echo` prints with single spaces between them are read as
they were. -/
theorem tokens_parse_eq_iff (setting : Setting ω σ) (before : State ω σ) (line : Text)
    (tokens : List Text) :
    ((parse line).tokens = tokens ↔
        (∀ token ∈ tokens, IsToken token) ∧ ∃ lead gaps, Spaced line tokens lead gaps) ∧
      ((parse line).word = [] ↔ ∀ c ∈ line, c ∈ whiteSpace) ∧
      ((parse line).word = [] → (parse line).arguments = []) ∧
      ((∀ token ∈ tokens, IsToken token) →
        let printed := [' '].intercalate tokens
        (parse printed).tokens = tokens ∧
          (setting.sink.NeverFails →
            (Session.echo setting tokens before).trace.output = lineBytes printed)) := by
  refine ⟨?_, ?_, arguments_of_word_eq_nil, ?_⟩
  · rw [tokens_parse]
    exact words_eq_iff line tokens
  · have blank : (parse line).word = [] ↔ line.isBlank = true := by
      rw [← isBlank_parse]
      exact List.isEmpty_iff.symm
    rw [blank]
    exact Text.isBlank_iff line
  · intro solid printed
    refine ⟨?_, ?_⟩
    · rw [tokens_parse]
      exact words_joined tokens solid
    · intro reliable
      exact Session.echo_output setting reliable tokens before

/-- Quotes are kept, wide and narrow spaces cut alike, and what is printed for two words is read as those
two. -/
theorem tokens_parse_eq_iff_quoted :
    let line := "\u3000'a \u0085b'\u2029".toList
    let tokens := ["'a".toList, "b'".toList]
    let before : State Surroundings Unit := Session.start ⟨none, Files.none⟩ ()
    (∀ token ∈ tokens, IsToken token) ∧
      Spaced line tokens "\u3000".toList [" \u0085".toList, "\u2029".toList] ∧
      (parse line).tokens = tokens ∧
      (parse "\t\u00A0".toList).word = [] ∧ (parse "\t\u00A0".toList).arguments = [] ∧
      Session.refusing.sink.NeverFails ∧
      (parse "'a b'".toList).tokens = tokens ∧
      (Session.echo Session.refusing tokens before).trace.output = lineBytes "'a b'".toList := by
  intro line tokens before
  have solid : ∀ token ∈ tokens, IsToken token := by
    have read : words "'a b'".toList = tokens := by decide
    intro token member
    rw [← read] at member
    exact isToken_of_mem_words member
  have spaced : Spaced line tokens "\u3000".toList [" \u0085".toList, "\u2029".toList] := by
    refine ⟨rfl, by decide, ?_, by decide⟩
    have blank : ∀ gap ∈ ["\u3000".toList, " \u0085".toList, "\u2029".toList],
        Text.isBlank gap = true := by
      decide
    intro gap member
    exact (Text.isBlank_iff gap).mp (blank gap member)
  have reliable : Session.refusing.sink.NeverFails := Sink.unlimited_neverFails
  obtain ⟨tokenised, -, -, joined⟩ := tokens_parse_eq_iff Session.refusing before line tokens
  obtain ⟨-, unread, silent, -⟩ :=
    tokens_parse_eq_iff Session.refusing before "\t\u00A0".toList tokens
  have empty := unread.mpr ((Text.isBlank_iff _).mp (by decide))
  obtain ⟨back, printed⟩ := joined solid
  exact ⟨solid, spaced, tokenised.mpr ⟨solid, _, _, spaced⟩, empty, silent empty, reliable, back,
    printed reliable⟩

end Command

end CommandShell
