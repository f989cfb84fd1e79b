import CommandShell.Options.Parse
import CommandShell.Proofs.Numeral
import CommandShell.Proofs.Utf8
import Mathlib.Data.List.Nodup

/-!
Options in any order. Whatever order they are given in, and however they are spelled, options are read as
what they say, and the history size falls back on the environment.

A value that stands apart from its option is read late. What the arguments come to is told all the same by
reading one option after the other: before each, what is left of the one before is settled.
-/

set_option autoImplicit false

namespace CommandShell.Options

open Decimal (Numeral)

/-- An option as it is given: by its letter or in full, with its value apart or behind an equals sign. -/
inductive Given
  | quiet (short : Bool)
  | debug (short : Bool)
  | noCompletion
  | historySize (joined : Bool) (value : Numeral)
  deriving DecidableEq

namespace Given

def switch : Given → Switch
  | .quiet _ => .quiet
  | .debug _ => .debug
  | .noCompletion => .noCompletion
  | .historySize _ _ => .historySize

/-- The arguments that give an option. -/
def spelled : Given → List Text
  | .quiet short => [if short then "-q".toList else "--quiet".toList]
  | .debug short => [if short then "-d".toList else "--debug".toList]
  | .noCompletion => ["--no-completion".toList]
  | .historySize true value => ["--history-size=".toList ++ value.text]
  | .historySize false value => ["--history-size".toList, value.text]

def arguments (given : Given) : List Bytes := given.spelled.map Utf8.encode

def value? : Given → Option Bytes
  | .historySize _ value => some (Utf8.encode value.text)
  | _ => none

end Given

/-- The value that the history size goes by: the option's, else the environment's. -/
def applying (given : List Given) (inherited : Option Bytes) : Option Bytes :=
  (given.findSome? Given.value?).or inherited

/-- A value for the history size means a number if it is a numeral of it and the number fits in 64 bits.
Without a value the size is 1000. -/
def Means : Option Bytes → Nat → Prop
  | none, size => size = 1000
  | some value, size =>
    ∃ numeral : Numeral, Utf8.encode numeral.text = value ∧ numeral.value = size ∧ size < 2 ^ 64

/-- The history size changes to what a value means and stays as it was without a value. -/
def Resized : Option Bytes → Option Nat → Option Nat → Prop
  | none, before, after => after = before
  | some value, _, after => ∃ size, Means (some value) size ∧ after = some size

namespace Given

theorem switch_mem_settings (given : Given) : given.switch ∈ Switch.settings := by
  cases given <;> simp [switch, Switch.settings]

theorem value?_eq_none_iff (given : Given) : given.value? = none ↔ given.switch ≠ .historySize := by
  cases given <;> simp [value?, switch]

theorem switch_of_value? {given : Given} {bytes : Bytes} (value : given.value? = some bytes) :
    given.switch = .historySize := by
  by_contra other
  rw [(value?_eq_none_iff given).mpr other] at value
  cases value

theorem findSome?_eq_none_iff (given : List Given) :
    given.findSome? value? = none ↔ Switch.historySize ∉ given.map switch := by
  simp only [List.findSome?_eq_none_iff, value?_eq_none_iff, List.mem_map, not_exists, not_and]

end Given

/-- The history size is given once, so the value that counts is the only one that is read. -/
theorem resized_cons (first : Given) (others : List Given) (fresh : first.switch ∉ others.map Given.switch)
    (before after : Option Nat) :
    Resized ((first :: others).findSome? Given.value?) before after ↔
      ∃ size, Resized first.value? before size ∧ Resized (others.findSome? Given.value?) size after := by
  cases value : first.value? with
  | none =>
    rw [List.findSome?_cons, value]
    simp only [Resized, exists_eq_left]
  | some bytes =>
    have known := Given.switch_of_value? value
    rw [List.findSome?_cons, value, (Given.findSome?_eq_none_iff others).mpr (known ▸ fresh)]
    simp only [Resized, exists_eq_right']

namespace Progress

/-- Nothing is left to be dealt with. -/
def Settled (progress : Progress) : Prop := progress.pending = .none

/-- Reads an option when there is nothing left of the one before. -/
def read (progress : Progress) (given : Given) : Except UsageError Progress :=
  match given.value? with
  | some value => progress.takeOwnValue value
  | none => progress.takeFlag given.switch

end Progress

/-- What arguments that give these options come to: quiet and debug not both, a history size that the
applying value means, and the rest as given. -/
structure Meant (given : List Given) (inherited : Option Bytes) (options : Options) : Prop where
  compatible : ¬ (Switch.quiet ∈ given.map Given.switch ∧ Switch.debug ∈ given.map Given.switch)
  size : Means (applying given inherited) options.historySize
  quiet : options.quiet = true ↔ Switch.quiet ∈ given.map Given.switch
  debug : options.debug = true ↔ Switch.debug ∈ given.map Given.switch
  noCompletion : options.noCompletion = true ↔ Switch.noCompletion ∈ given.map Given.switch

section Bind

variable {ε α β : Type} {first : Except ε α}

theorem bind_eq_ok_iff {next : α → Except ε β} {last : β} :
    (first >>= next) = .ok last ↔ ∃ value, first = .ok value ∧ next value = .ok last := by
  cases first with
  | error fault =>
    show Except.error fault = _ ↔ _
    simp
  | ok value =>
    show next value = _ ↔ _
    simp

theorem bind_congr_of_ok {next following : α → Except ε β}
    (same : ∀ value, first = .ok value → next value = following value) :
    (first >>= next) = (first >>= following) := by
  cases first with
  | error _ => rfl
  | ok value => exact same value rfl

end Bind

/-- A numeral is no option: it does not begin with a dash. -/
theorem Argument.ofBytes_numeral (numeral : Numeral) :
    ofBytes (Utf8.encode numeral.text) = .word (Utf8.encode numeral.text) := by
  have noDash : (0x2D : UInt8) ∉ Utf8.encode numeral.text := by
    rw [Utf8.mem_encode_iff (by decide)]
    intro member
    rcases Numeral.eq_plus_or_digit member with sign | ⟨digit, same⟩
    · exact absurd sign (by decide)
    · exact Decimal.digitChar_ne (by decide) digit same
  cases written : Utf8.encode numeral.text with
  | nil => rfl
  | cons b others =>
    rw [written] at noDash
    have plain : b ≠ 0x2D := fun dash => noDash (dash ▸ List.mem_cons_self)
    unfold ofBytes
    split <;> simp_all

namespace Progress

variable {progress : Progress}

theorem settle_of_settled (settled : progress.Settled) : progress.settle = .ok progress := by
  rw [settle, settled]

/-- A value is taken if it means a size. -/
theorem takeValue_eq_ok_iff (progress after : Progress) (value : Bytes) :
    progress.takeValue value = .ok after ↔
      ∃ size, Means (some value) size ∧ after = ⟨progress.given ++ [.historySize], some size, .none⟩ := by
  rw [takeValue]
  cases decoded : Utf8.decode value with
  | none =>
    refine iff_of_false (by simp) ?_
    rintro ⟨size, ⟨numeral, spelled, -⟩, -⟩
    rw [(Utf8.decode_eq_some_iff _ _).mpr spelled] at decoded
    cases decoded
  | some text =>
    have spelled := (Utf8.decode_eq_some_iff _ _).mp decoded
    have means (size : Nat) : Means (some value) size ↔ Decimal.parse text = .ok size := by
      rw [Decimal.parse_eq_ok_iff]
      constructor
      · rintro ⟨numeral, written, total, fits⟩
        exact ⟨numeral, Utf8.encode_injective (written.trans spelled.symm), total, fits⟩
      · rintro ⟨numeral, rfl, total, fits⟩
        exact ⟨numeral, spelled, total, fits⟩
    simp only [means]
    cases Decimal.parse text with
    | error fault => simp
    | ok size => simp [eq_comm]

theorem settled_of_takeOwnValue {value : Bytes} {after : Progress}
    (taken : progress.takeOwnValue value = .ok after) : after.Settled := by
  unfold takeOwnValue at taken
  split at taken
  · cases taken
  · obtain ⟨size, -, rfl⟩ := (takeValue_eq_ok_iff _ _ _).mp taken
    rfl

theorem settled_of_settle {after : Progress} (dealt : progress.settle = .ok after) : after.Settled := by
  unfold settle at dealt
  split at dealt
  next nothing =>
    cases dealt
    exact nothing
  · cases dealt
  · exact settled_of_takeOwnValue dealt

/-- A flag of the session, taken when nothing is left of the option before. -/
theorem takeFlag_of_settled (settled : progress.Settled) {switch : Switch}
    (setting : switch ∈ Switch.settings) : progress.takeFlag switch =
      if switch ∈ progress.given then .error (.repeated switch)
      else .ok ⟨progress.given ++ [switch], progress.historySize, .none⟩ := by
  obtain ⟨given, size, pending⟩ := progress
  obtain rfl : pending = .none := settled
  cases switch with
  | help => exact absurd setting (by decide)
  | version => exact absurd setting (by decide)
  | _ => rfl

section Steps

variable {argument : Bytes} (rest : List Bytes)

theorem takeAll_long {name : Bytes} {value : Option Bytes}
    (written : Argument.ofBytes argument = .long name value) :
    progress.takeAll (argument :: rest) = progress.takeLong name value >>= (takeAll · rest) := by
  rw [takeAll.eq_def]
  simp only [written]

theorem takeAll_letters {pieces : List Utf8.Piece}
    (written : Argument.ofBytes argument = .letters pieces) :
    progress.takeAll (argument :: rest) = progress.takeLetters pieces >>= (takeAll · rest) := by
  rw [takeAll.eq_def]
  simp only [written]

theorem takeAll_word {word : Bytes} (written : Argument.ofBytes argument = .word word) :
    progress.takeAll (argument :: rest) = progress.takeWord word >>= (takeAll · rest) := by
  rw [takeAll.eq_def]
  simp only [written]

end Steps

theorem takeLong_flag (progress : Progress) {switch : Switch}
    (known : (Utf8.decode (Utf8.encode switch.long)).bind Switch.ofLong? = some switch)
    (plain : switch.takesValue = false) :
    progress.takeLong (Utf8.encode switch.long) none = progress.takeFlag switch := by
  simp [takeLong, known, plain]

theorem takeLetters_flag (progress : Progress) {switch : Switch} {c : Char}
    (known : Switch.ofShort? c = some switch) :
    progress.takeLetters [.char c] = progress.takeFlag switch := by
  simp only [takeLetters, known]
  cases progress.takeFlag switch <;> rfl

theorem takeAll_flag (progress : Progress) {given : Given} (plain : given.value? = none)
    (rest : List Bytes) :
    progress.takeAll (given.arguments ++ rest) = progress.takeFlag given.switch >>= (takeAll · rest) := by
  have long (switch : Switch)
      (known : (Utf8.decode (Utf8.encode switch.long)).bind Switch.ofLong? = some switch)
      (plain : switch.takesValue = false)
      (written : Argument.ofBytes (Utf8.encode switch.flag) = .long (Utf8.encode switch.long) none) :
      progress.takeAll (Utf8.encode switch.flag :: rest) =
        progress.takeFlag switch >>= (takeAll · rest) := by
    rw [takeAll_long rest written, takeLong_flag progress known plain]
  have short (switch : Switch) (c : Char) (known : Switch.ofShort? c = some switch)
      (written : Argument.ofBytes (Utf8.encode ['-', c]) = .letters [.char c]) :
      progress.takeAll (Utf8.encode ['-', c] :: rest) =
        progress.takeFlag switch >>= (takeAll · rest) := by
    rw [takeAll_letters rest written, takeLetters_flag progress known]
  cases given with
  | quiet letter =>
    cases letter with
    | true => exact short .quiet 'q' rfl rfl
    | false => exact long .quiet (by decide) rfl rfl
  | debug letter =>
    cases letter with
    | true => exact short .debug 'd' rfl rfl
    | false => exact long .debug (by decide) rfl rfl
  | noCompletion => exact long .noCompletion (by decide) rfl rfl
  | historySize joined value => cases plain

theorem takeFlag_eq_settle (progress : Progress) (switch : Switch) :
    progress.takeFlag switch = progress.settle >>= (takeFlag · switch) := by
  cases dealt : progress.settle with
  | error fault => rw [takeFlag, dealt]; rfl
  | ok settled =>
    show _ = settled.takeFlag switch
    rw [takeFlag, takeFlag, dealt, settle_of_settled (settled_of_settle dealt)]

/-- The name of the option that takes a value, with the value behind an equals sign or not. -/
theorem takeLong_historySize (progress : Progress) (value : Option Bytes) :
    progress.takeLong (Utf8.encode Switch.historySize.long) value =
      progress.settle >>= fun settled =>
        match value with
        | some value => settled.takeOwnValue value
        | none => .ok { settled with pending := .awaited } := by
  have known : (Utf8.decode (Utf8.encode Switch.historySize.long)).bind Switch.ofLong? =
      some .historySize := by decide
  rw [takeLong, known]
  rfl

theorem takeAll_joined (progress : Progress) (value : Numeral) (rest : List Bytes) :
    progress.takeAll ((Given.historySize true value).arguments ++ rest) =
      progress.settle >>= fun settled =>
        settled.takeOwnValue (Utf8.encode value.text) >>= (takeAll · rest) := by
  have written : Argument.ofBytes (Utf8.encode ("--history-size=".toList ++ value.text)) =
      .long (Utf8.encode Switch.historySize.long) (some (Utf8.encode value.text)) := rfl
  show progress.takeAll (Utf8.encode ("--history-size=".toList ++ value.text) :: rest) = _
  rw [takeAll_long rest written, takeLong_historySize, bind_assoc]

/-- A value that stands apart is held. -/
theorem takeAll_apart (progress : Progress) (value : Numeral) (rest : List Bytes) :
    progress.takeAll ((Given.historySize false value).arguments ++ rest) =
      progress.settle >>= fun settled =>
        takeAll { settled with pending := .held (Utf8.encode value.text) } rest := by
  have written : Argument.ofBytes (Utf8.encode Switch.historySize.flag) =
      .long (Utf8.encode Switch.historySize.long) none := rfl
  show progress.takeAll (Utf8.encode Switch.historySize.flag :: Utf8.encode value.text :: rest) = _
  rw [takeAll_long _ written, takeLong_historySize, bind_assoc]
  apply bind_congr_of_ok
  intro settled _
  show ({ settled with pending := .awaited } : Progress).takeAll _ = _
  rw [takeAll_word rest (Argument.ofBytes_numeral value)]
  rfl

/-- An option is read if it has not been read before and its value, if it has one, means a size. -/
theorem read_eq_ok_iff (settled : progress.Settled) (given : Given) (after : Progress) :
    progress.read given = .ok after ↔
      given.switch ∉ progress.given ∧ ∃ size, Resized given.value? progress.historySize size ∧
        after = ⟨progress.given ++ [given.switch], size, .none⟩ := by
  cases value : given.value? with
  | none =>
    simp only [read, value, takeFlag_of_settled settled given.switch_mem_settings, Resized, exists_eq_left]
    split_ifs with repeated <;> simp [repeated, eq_comm]
  | some bytes =>
    simp only [read, value, takeOwnValue, Given.switch_of_value? value, Resized]
    split_ifs with repeated
    · simp [repeated]
    · rw [takeValue_eq_ok_iff]
      constructor
      · rintro ⟨size, means, same⟩
        exact ⟨repeated, some size, ⟨size, means, rfl⟩, same⟩
      · rintro ⟨-, -, ⟨size, means, rfl⟩, same⟩
        exact ⟨size, means, same⟩

theorem settled_of_read (settled : progress.Settled) {given : Given} {after : Progress}
    (taken : progress.read given = .ok after) : after.Settled := by
  obtain ⟨-, size, -, rfl⟩ := (read_eq_ok_iff settled given after).mp taken
  rfl

/-- An option is read once what was left of the one before has been dealt with; a value that stands apart
is read when the next option is reached, or the end. -/
theorem takeAll_given (progress : Progress) (given : List Given) :
    progress.takeAll (given.flatMap Given.arguments) = progress.settle >>= given.foldlM read := by
  induction given generalizing progress with
  | nil =>
    show progress.settle = progress.settle >>= pure
    cases progress.settle <;> rfl
  | cons first others ih =>
    -- What follows the first option is read from where that option leaves off.
    have onward (settled : Progress) (nothing : settled.Settled) :
        settled.read first >>= (takeAll · (others.flatMap Given.arguments)) =
          settled.read first >>= others.foldlM read := by
      apply bind_congr_of_ok
      intro after taken
      show after.takeAll _ = _
      rw [ih, settle_of_settled (settled_of_read nothing taken)]
      rfl
    have begun (settled : Progress) : (first :: others).foldlM read settled =
        settled.read first >>= others.foldlM read := List.foldlM_cons
    rw [List.flatMap_cons]
    cases value : first.value? with
    | none =>
      rw [takeAll_flag progress value, takeFlag_eq_settle, bind_assoc]
      apply bind_congr_of_ok
      intro settled dealt
      rw [begun, ← onward settled (settled_of_settle dealt), read, value]
    | some bytes =>
      cases first with
      | historySize joined numeral =>
        cases joined with
        | true =>
          rw [takeAll_joined]
          apply bind_congr_of_ok
          intro settled dealt
          exact (onward settled (settled_of_settle dealt)).trans (begun settled).symm
        | false =>
          rw [takeAll_apart]
          apply bind_congr_of_ok
          intro settled dealt
          have nothing : settled = { settled with pending := .none } := by
            rw [← settled_of_settle dealt]
          -- The value is held, and what reads the others settles it first.
          rw [ih, begun]
          show ({ settled with pending := .none } : Progress).takeOwnValue _ >>= _ = _
          rw [← nothing]
          rfl
      | _ => cases value

/-- Options given once each are read one after the other: all are taken down, and the size is the one that
the value means. -/
theorem foldlM_read_eq_ok_iff (given : List Given) (settled : progress.Settled)
    (distinct : (progress.given ++ given.map Given.switch).Nodup) (after : Progress) :
    given.foldlM read progress = .ok after ↔
      ∃ size, Resized (given.findSome? Given.value?) progress.historySize size ∧
        after = ⟨progress.given ++ given.map Given.switch, size, .none⟩ := by
  induction given generalizing progress with
  | nil =>
    have same : progress = ⟨progress.given, progress.historySize, .none⟩ := by rw [← settled]
    show Except.ok progress = Except.ok after ↔ _
    simp [Resized, ← same, eq_comm]
  | cons first others ih =>
    have freshBefore : first.switch ∉ progress.given := fun member =>
      (List.nodup_append.mp distinct).2.2 _ member _ List.mem_cons_self rfl
    have freshBehind : first.switch ∉ others.map Given.switch :=
      (List.nodup_cons.mp (List.nodup_append.mp distinct).2.1).1
    have onward : progress.given ++ (first :: others).map Given.switch =
        progress.given ++ [first.switch] ++ others.map Given.switch := by simp
    rw [onward] at distinct
    simp only [List.foldlM_cons, bind_eq_ok_iff, read_eq_ok_iff settled,
      resized_cons first others freshBehind, onward]
    constructor
    · rintro ⟨mid, ⟨-, size, resized, rfl⟩, taken⟩
      obtain ⟨last, resizedLast, rfl⟩ := (ih (by rfl) distinct).mp taken
      exact ⟨last, ⟨size, resized, resizedLast⟩, rfl⟩
    · rintro ⟨last, ⟨size, resized, resizedLast⟩, rfl⟩
      exact ⟨_, ⟨freshBefore, size, resized, rfl⟩, (ih (by rfl) distinct).mpr ⟨last, resizedLast, rfl⟩⟩

/-- Quiet and debug exclude each other. -/
theorem checkConflict_eq_ok_iff (distinct : progress.given.Nodup) (after : Progress) :
    progress.checkConflict = .ok after ↔
      ¬ (.quiet ∈ progress.given ∧ .debug ∈ progress.given) ∧ after = progress := by
  have member (switch : Switch) :
      switch ∈ progress.given.filter (· ∈ [Switch.quiet, Switch.debug]) ↔
        switch ∈ progress.given ∧ (switch = .quiet ∨ switch = .debug) := by
    simp
  have apart := distinct.filter (· ∈ [Switch.quiet, Switch.debug])
  unfold checkConflict
  split
  next first second others found =>
    rw [found] at member apart
    have differ : first ≠ second := fun same =>
      (List.nodup_cons.mp apart).1 (same ▸ List.mem_cons_self)
    obtain ⟨inFirst, isFirst⟩ := (member first).mp List.mem_cons_self
    obtain ⟨inSecond, isSecond⟩ := (member second).mp (List.mem_cons_of_mem _ List.mem_cons_self)
    refine iff_of_false (by simp) (fun free => free.1 ?_)
    rcases isFirst with rfl | rfl <;> rcases isSecond with rfl | rfl
    · exact absurd rfl differ
    · exact ⟨inFirst, inSecond⟩
    · exact ⟨inSecond, inFirst⟩
    · exact absurd rfl differ
  next alone =>
    have free : ¬ (Switch.quiet ∈ progress.given ∧ Switch.debug ∈ progress.given) := by
      rintro ⟨quiet, debug⟩
      have inQuiet := (member .quiet).mpr ⟨quiet, .inl rfl⟩
      have inDebug := (member .debug).mpr ⟨debug, .inr rfl⟩
      match found : progress.given.filter (· ∈ [Switch.quiet, Switch.debug]) with
      | [] => rw [found] at inQuiet; cases inQuiet
      | [only] =>
        rw [found, List.mem_singleton] at inQuiet inDebug
        cases inQuiet.trans inDebug.symm
      | first :: second :: others => exact alone first second others found
    simp [free, eq_comm]

end Progress

/-- The options that count: the environment's value stands for the option at the end. -/
def counted (given : List Given) (inherited : Option Bytes) : List Switch :=
  if inherited.isSome then Progress.insertLast (given.map Given.switch) .historySize
  else given.map Given.switch

theorem mem_counted_iff (given : List Given) (inherited : Option Bytes) {switch : Switch}
    (other : switch ≠ .historySize) :
    switch ∈ counted given inherited ↔ switch ∈ given.map Given.switch := by
  unfold counted Progress.insertLast
  split_ifs <;> simp [other]

theorem nodup_counted {given : List Given} (distinct : (given.map Given.switch).Nodup)
    (inherited : Option Bytes) : (counted given inherited).Nodup := by
  unfold counted Progress.insertLast
  split_ifs with named known
  · exact distinct
  · exact List.Nodup.append distinct (List.nodup_singleton _) (List.disjoint_singleton.mpr known)
  · exact distinct

/-- What has been read once the environment has been asked. -/
theorem inherit_eq_ok_iff (given : List Given) (distinct : (given.map Given.switch).Nodup)
    (inherited : Option Bytes) (after : Progress) :
    (Progress.start.takeAll (given.flatMap Given.arguments) >>= (·.inherit inherited)) = .ok after ↔
      ∃ size, Means (applying given inherited) size ∧
        after = ⟨counted given inherited, (applying given inherited).map fun _ => size, .none⟩ := by
  have taken (read : Progress) :
      Progress.start.takeAll (given.flatMap Given.arguments) = .ok read ↔
        ∃ size, Resized (given.findSome? Given.value?) none size ∧
          read = ⟨given.map Given.switch, size, .none⟩ := by
    rw [Progress.takeAll_given]
    exact @Progress.foldlM_read_eq_ok_iff Progress.start given rfl distinct read
  simp only [bind_eq_ok_iff, taken]
  unfold applying counted Progress.insertLast
  cases value : given.findSome? Given.value? with
  | some bytes =>
    have present : Switch.historySize ∈ given.map Given.switch := by
      by_contra absent
      rw [(Given.findSome?_eq_none_iff given).mpr absent] at value
      cases value
    constructor
    · rintro ⟨_, ⟨_, ⟨size, means, rfl⟩, rfl⟩, stays⟩
      rw [Progress.inherit.eq_def, if_pos present] at stays
      cases stays
      exact ⟨size, means, by simp [present]⟩
    · rintro ⟨size, means, rfl⟩
      refine ⟨_, ⟨_, ⟨size, means, rfl⟩, rfl⟩, ?_⟩
      rw [Progress.inherit.eq_def, if_pos present]
      simp [present]
  | none =>
    have absent := (Given.findSome?_eq_none_iff given).mp value
    simp only [Resized, exists_eq_left, Progress.inherit, if_neg absent]
    cases inherited with
    | none => simp [Means, eq_comm]
    | some bytes => exact Progress.takeValue_eq_ok_iff _ _ _

theorem options_counted (given : List Given) {inherited : Option Bytes} {size : Nat}
    (means : Means (applying given inherited) size) :
    Progress.options ⟨counted given inherited, (applying given inherited).map fun _ => size, .none⟩ =
      ⟨.quiet ∈ given.map Given.switch, .debug ∈ given.map Given.switch, size,
        .noCompletion ∈ given.map Given.switch⟩ := by
  have sized : ((applying given inherited).map fun _ => size).getD defaultHistorySize = size := by
    cases applies : applying given inherited with
    | none =>
      rw [applies] at means
      exact means.symm
    | some _ => rfl
  rw [Progress.options]
  simp only [sized, @mem_counted_iff given inherited .quiet (by decide),
    @mem_counted_iff given inherited .debug (by decide),
    @mem_counted_iff given inherited .noCompletion (by decide)]

theorem parse_eq_ok_iff (given : List Given) (distinct : (given.map Given.switch).Nodup)
    (inherited : Option Bytes) (options : Options) :
    parse inherited (given.flatMap Given.arguments) = .ok options ↔ Meant given inherited options := by
  have whole : parse inherited (given.flatMap Given.arguments) =
      (Progress.start.takeAll (given.flatMap Given.arguments) >>= (·.inherit inherited)) >>=
        fun progress => progress.checkConflict >>= fun progress => .ok progress.options :=
    (bind_assoc _ _ _).symm
  have conflict (size : Option Nat) (after : Progress) :
      Progress.checkConflict ⟨counted given inherited, size, .none⟩ = .ok after ↔
        ¬ (.quiet ∈ given.map Given.switch ∧ .debug ∈ given.map Given.switch) ∧
          after = ⟨counted given inherited, size, .none⟩ := by
    rw [Progress.checkConflict_eq_ok_iff (nodup_counted distinct inherited),
      mem_counted_iff _ _ (by decide), mem_counted_iff _ _ (by decide)]
  rw [whole, bind_eq_ok_iff]
  simp only [inherit_eq_ok_iff given distinct, bind_eq_ok_iff]
  constructor
  · rintro ⟨_, ⟨size, means, rfl⟩, concluded, free, same⟩
    obtain ⟨compatible, rfl⟩ := (conflict _ _).mp free
    rw [options_counted given means] at same
    cases same
    exact ⟨compatible, means, decide_eq_true_iff, decide_eq_true_iff, decide_eq_true_iff⟩
  · rintro ⟨compatible, means, quiet, debug, noCompletion⟩
    refine ⟨_, ⟨options.historySize, means, rfl⟩, _, (conflict _ _).mpr ⟨compatible, rfl⟩, ?_⟩
    rw [options_counted given means]
    simp only [← quiet, ← debug, ← noCompletion, Bool.decide_eq_true]

/-- Options, each given once at most, are read in any order and however they are spelled as what they
mean, and it is an error only if they mean nothing. -/
theorem parse_given (given : List Given) (distinct : (given.map Given.switch).Nodup)
    (inherited : Option Bytes) :
    ((∃ options, parse inherited (given.flatMap Given.arguments) = .ok options) ↔
      ¬ (.quiet ∈ given.map Given.switch ∧ .debug ∈ given.map Given.switch) ∧
        ∃ size, Means (applying given inherited) size) ∧
    ∀ options, (parse inherited (given.flatMap Given.arguments) = .ok options ↔
        Meant given inherited options) ∧
      options.config = { Config.default with
        historySize := options.historySize, completion := !options.noCompletion } := by
  have read := parse_eq_ok_iff given distinct inherited
  refine ⟨?_, fun options => ⟨read options, rfl⟩⟩
  simp only [read]
  constructor
  · rintro ⟨options, meant⟩
    exact ⟨meant.compatible, options.historySize, meant.size⟩
  · rintro ⟨compatible, size, means⟩
    exact ⟨⟨decide (.quiet ∈ given.map Given.switch), decide (.debug ∈ given.map Given.switch), size,
      decide (.noCompletion ∈ given.map Given.switch)⟩, compatible, means, decide_eq_true_iff,
      decide_eq_true_iff, decide_eq_true_iff⟩

/-- The environment's value is not even UTF-8, and it does not matter. -/
theorem parse_given_unread_environment :
    parse (some [0xFF])
        (["-d".toList, "--history-size=+007".toList, "--no-completion".toList].map Utf8.encode) =
      .ok ⟨false, true, 7, true⟩ := by
  let given : List Given := [.debug true, .historySize true ⟨true, [0, 0, 7], by decide⟩, .noCompletion]
  have read := parse_given given (by decide) (some [0xFF])
  apply ((read.2 _).1).mpr
  constructor
  · decide
  · exact ⟨⟨true, [0, 0, 7], by decide⟩, by decide, by decide, by decide⟩
  all_goals decide

end CommandShell.Options
