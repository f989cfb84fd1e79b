import CommandShell.Process.Termination

/-!
Wait statuses bit by bit. The low seven bits tell how a process ended, bits 8 to 15 its exit code, and
no other bit counts.
-/

set_option autoImplicit false

namespace CommandShell.Termination

/-- The low seven bits of a wait status. -/
def lowBits (status : Int32) : BitVec 7 := status.toBitVec.extractLsb' 0 7

/-- Bits 8 to 15 of a wait status. -/
def codeBits (status : Int32) : BitVec 8 := status.toBitVec.extractLsb' 8 8

/-- The exit code, if the process exited. -/
def code? (status : Int32) : Option Int32 :=
  if status &&& 0x7F = 0 then some (status >>> 8 &&& 0xFF) else none

/-- The signal, if one ended the process. The low bits are then neither all clear nor all set: one more
than they are is at least two, and as a signed byte not yet negative. -/
def signal? (status : Int32) : Option Int32 :=
  if 2 ≤ ((status &&& 0x7F) + 1).toInt8 then some (status &&& 0x7F) else none

theorem toNat_lowBits (status : Int32) :
    (lowBits status).toNat = status.toUInt32.toNat % 128 := by
  rw [lowBits, BitVec.extractLsb'_toNat, Int32.toNat_toBitVec, Nat.shiftRight_zero]

theorem toNat_codeBits (status : Int32) :
    (codeBits status).toNat = status.toUInt32.toNat / 256 % 256 := by
  rw [codeBits, BitVec.extractLsb'_toNat, Int32.toNat_toBitVec, Nat.shiftRight_eq_div_pow]

theorem lowBits_lt (status : Int32) : (lowBits status).toNat < 128 := (lowBits status).isLt

theorem codeBits_lt (status : Int32) : (codeBits status).toNat < 256 := (codeBits status).isLt

/-- A word of at most 31 bits is not negative. -/
theorem toInt_of_toBitVec {width : Nat} {word : Int32} {bits : BitVec width} (narrow : width < 32)
    (same : word.toBitVec = bits.setWidth 32) : word.toInt = bits.toNat := by
  have small : bits.toNat < 2 ^ 31 :=
    Nat.lt_of_lt_of_le bits.isLt (Nat.pow_le_pow_right (by decide) (by omega))
  have kept : (bits.setWidth 32).toNat = bits.toNat := BitVec.toNat_setWidth_of_le (by omega)
  change word.toBitVec.toInt = bits.toNat
  rw [same, BitVec.toInt_eq_toNat_of_lt, kept]
  rw [kept]
  omega

theorem toInt_low (status : Int32) : (status &&& 0x7F).toInt = (lowBits status).toNat := by
  refine toInt_of_toBitVec (by decide) ?_
  rw [Int32.toBitVec_and, lowBits]
  change status.toBitVec &&& 127#32 = _
  apply BitVec.eq_of_toNat_eq
  rw [BitVec.toNat_and, BitVec.toNat_setWidth_of_le (by decide), BitVec.extractLsb'_toNat]
  exact Nat.and_two_pow_sub_one_eq_mod _ 7

theorem toInt_high (status : Int32) : (status >>> 8 &&& 0xFF).toInt = (codeBits status).toNat := by
  refine toInt_of_toBitVec (by decide) ?_
  rw [Int32.toBitVec_and, Int32.toBitVec_shiftRight, codeBits]
  change status.toBitVec.sshiftRight 8 &&& 255#32 = _
  ext i inside
  rw [BitVec.getElem_and, BitVec.getElem_sshiftRight, BitVec.getElem_setWidth,
    BitVec.getLsbD_extractLsb']
  have mask : (255#32)[i] = decide (i < 8) := by
    rw [BitVec.getElem_eq_testBit_toNat]
    exact Nat.testBit_two_pow_sub_one 8 i
  by_cases within : i < 8
  · have near : 8 + i < 32 := by omega
    rw [mask, dif_pos near, BitVec.getLsbD_eq_getElem near, decide_eq_true within, Bool.and_true,
      Bool.true_and]
  · rw [mask, decide_eq_false within, Bool.and_false, Bool.false_and]

theorem code?_eq (status : Int32) :
    code? status =
      if (lowBits status).toNat = 0 then some (status >>> 8 &&& 0xFF) else none := by
  have clear : status &&& 0x7F = 0 ↔ (lowBits status).toNat = 0 := by
    rw [← Int32.toInt_inj, toInt_low]
    exact Int.natCast_eq_zero
  simp only [code?, clear]

theorem signal?_eq (status : Int32) :
    signal? status =
      if 1 ≤ (lowBits status).toNat ∧ (lowBits status).toNat ≤ 126 then some (status &&& 0x7F)
      else none := by
  have small := lowBits_lt status
  have next : ((status &&& 0x7F) + 1).toInt8.toInt =
      (((lowBits status).toNat : Int) + 1).bmod 256 := by
    have same : ((status &&& 0x7F) + 1).toInt = (lowBits status).toNat + 1 := by
      rw [Int32.toInt_add, toInt_low]
      change (((lowBits status).toNat : Int) + 1).bmod (0x100000000) = _
      apply Int.bmod_eq_of_le <;> omega
    rw [Int32.toInt_toInt8, same]
  have ended : 2 ≤ ((status &&& 0x7F) + 1).toInt8 ↔
      1 ≤ (lowBits status).toNat ∧ (lowBits status).toNat ≤ 126 := by
    rw [Int8.le_iff_toInt_le, next]
    change (2 : Int) ≤ _ ↔ _
    by_cases last : (lowBits status).toNat = 127
    · rw [last]
      decide
    · rw [Int.bmod_eq_of_le (by omega) (by omega)]
      omega
  simp only [signal?, ended]

/-- The low bits tell which way a process ended. -/
theorem ofStatus_eq (status : Int32) :
    ofStatus status =
      if (lowBits status).toNat = 0 then .exited (codeBits status).toNat
      else if (lowBits status).toNat = 127 then .exited (-1)
      else .signaled (lowBits status).toNat := by
  rw [toNat_lowBits, toNat_codeBits]
  rfl

/-- An exit code goes before a signal, and a process that has neither has not ended. -/
theorem ofStatus_eq_match (status : Int32) :
    ofStatus status =
      match code? status, signal? status with
      | some code, _ => .exited code.toInt
      | none, some signal => .signaled signal.toInt
      | none, none => .exited (-1) := by
  have small := lowBits_lt status
  rw [ofStatus_eq, code?_eq, signal?_eq]
  split
  next clear => simp only [toInt_high]
  next filled =>
    split
    next last => simp [last]
    next fewer =>
      have ended : 1 ≤ (lowBits status).toNat ∧ (lowBits status).toNat ≤ 126 := by omega
      simp only [ended, and_self, ↓reduceIte, toInt_low]

/-- A process has exited, or a signal has ended it, or it has not ended. -/
theorem ofStatus_cases (status : Int32) :
    ((lowBits status).toNat = 0 ∧ ofStatus status = .exited (codeBits status).toNat) ∨
      (1 ≤ (lowBits status).toNat ∧ (lowBits status).toNat ≤ 126 ∧
        ofStatus status = .signaled (lowBits status).toNat) ∨
      ((lowBits status).toNat = 127 ∧ ofStatus status = .exited (-1)) := by
  have small := lowBits_lt status
  rw [ofStatus_eq]
  split
  next clear => exact .inl ⟨clear, rfl⟩
  next filled =>
    split
    next all => exact .inr (.inr ⟨all, rfl⟩)
    next fewer => exact .inr (.inl ⟨by omega, by omega, rfl⟩)

theorem exited_iff (status : Int32) :
    (∃ code : Int, ofStatus status = .exited code ∧ 0 ≤ code ∧ code ≤ 255 ∧
        code = (codeBits status).toNat) ↔ (lowBits status).toNat = 0 := by
  have byte := codeBits_lt status
  constructor
  · rintro ⟨code, found, atLeast, -, -⟩
    rcases ofStatus_cases status with ⟨clear, -⟩ | ⟨-, -, ended⟩ | ⟨-, alive⟩
    · exact clear
    · rw [ended] at found
      cases found
    · rw [alive] at found
      injection found with same
      omega
  · intro clear
    refine ⟨(codeBits status).toNat, ?_, by omega, by omega, rfl⟩
    rw [ofStatus_eq, if_pos clear]

theorem signaled_iff (status : Int32) :
    (∃ signal : Int, ofStatus status = .signaled signal ∧ 1 ≤ signal ∧ signal ≤ 126 ∧
        signal = (lowBits status).toNat) ↔
      1 ≤ (lowBits status).toNat ∧ (lowBits status).toNat ≤ 126 := by
  constructor
  · rintro ⟨signal, -, atLeast, atMost, same⟩
    omega
  · rintro ⟨atLeast, atMost⟩
    refine ⟨(lowBits status).toNat, ?_, by omega, by omega, rfl⟩
    rw [ofStatus_eq, if_neg (by omega), if_neg (by omega)]

theorem not_ended_iff (status : Int32) :
    ofStatus status = .exited (-1) ↔ (lowBits status).toNat = 127 := by
  constructor
  · intro found
    rcases ofStatus_cases status with ⟨-, exited⟩ | ⟨-, -, ended⟩ | ⟨all, -⟩
    · rw [exited] at found
      injection found with same
      omega
    · rw [ended] at found
      cases found
    · exact all
  · intro all
    rw [ofStatus_eq, if_neg (by omega), if_pos all]

theorem success_iff (status : Int32) :
    (ofStatus status).success = true ↔
      (lowBits status).toNat = 0 ∧ (codeBits status).toNat = 0 := by
  rw [success, beq_iff_eq]
  rcases ofStatus_cases status with ⟨clear, exited⟩ | ⟨atLeast, -, ended⟩ | ⟨all, alive⟩
  · rw [exited, Termination.exited.injEq]
    omega
  · rw [ended]
    exact iff_of_false (by simp) (by omega)
  · rw [alive]
    exact iff_of_false (by simp) (by omega)

theorem toNat_ofNat {n : Nat} (small : n < 0x100000000) : (Int32.ofNat n).toUInt32.toNat = n := by
  change (BitVec.ofNat 32 n).toNat = n
  rw [BitVec.toNat_ofNat, Nat.mod_eq_of_lt small]

theorem ofStatus_exit {code : Nat} (byte : code ≤ 255) :
    ofStatus (Int32.ofNat (code * 256)) = .exited code := by
  have word := toNat_ofNat (show code * 256 < 0x100000000 by omega)
  have clear : (lowBits (Int32.ofNat (code * 256))).toNat = 0 := by
    rw [toNat_lowBits, word]
    omega
  have kept : (codeBits (Int32.ofNat (code * 256))).toNat = code := by
    rw [toNat_codeBits, word]
    omega
  rw [ofStatus_eq, if_pos clear, kept]

/-- A signal is read off the low bits, whatever stands above them. -/
theorem ofStatus_signal (above : Nat) {signal : Nat} (some : 1 ≤ signal) (most : signal ≤ 126)
    (small : above * 128 + signal < 0x100000000) :
    ofStatus (Int32.ofNat (above * 128 + signal)) = .signaled signal := by
  have kept : (lowBits (Int32.ofNat (above * 128 + signal))).toNat = signal := by
    rw [toNat_lowBits, toNat_ofNat small]
    omega
  rw [ofStatus_eq, kept, if_neg (by omega), if_neg (by omega)]

theorem or_core_dump {signal : Nat} (most : signal ≤ 126) : signal ||| 0x80 = 1 * 128 + signal := by
  have disjoint := Nat.two_pow_add_eq_or_of_lt (show signal < 2 ^ 7 by omega) 1
  rw [Nat.or_comm]
  exact disjoint.symm

/-- A process that was only stopped or continued has not succeeded. -/
theorem not_success_of_low {status : Int32} (all : (lowBits status).toNat = 127) :
    (ofStatus status).success = false := by
  rw [ofStatus_eq, all]
  rfl

/-- A wait status is decoded by its exit code and its signal. The three ways are told apart by the low
seven bits alone: all clear, a signal, all set. So exit codes and signals are found again as they were
encoded, the latter with and without the bit for a core dump, and only a process that exits with 0 has
succeeded, never one that was signaled, stopped or continued. -/
theorem ofStatus_reads_bits (status : Int32) :
    (ofStatus status =
        match code? status, signal? status with
        | some code, _ => .exited code.toInt
        | none, some signal => .signaled signal.toInt
        | none, none => .exited (-1)) ∧
      ((∃ code : Int, ofStatus status = .exited code ∧ 0 ≤ code ∧ code ≤ 255 ∧
          code = (codeBits status).toNat) ↔ (lowBits status).toNat = 0) ∧
      ((∃ signal : Int, ofStatus status = .signaled signal ∧ 1 ≤ signal ∧ signal ≤ 126 ∧
          signal = (lowBits status).toNat) ↔
        1 ≤ (lowBits status).toNat ∧ (lowBits status).toNat ≤ 126) ∧
      (ofStatus status = .exited (-1) ↔ (lowBits status).toNat = 127) ∧
      (∀ code : Nat, code ≤ 255 → ofStatus (Int32.ofNat (code * 256)) = .exited code) ∧
      (∀ signal : Nat, 1 ≤ signal → signal ≤ 126 →
        ofStatus (Int32.ofNat signal) = .signaled signal ∧
          ofStatus (Int32.ofNat (signal ||| 0x80)) = .signaled signal) ∧
      ((ofStatus status).success = true ↔
        (lowBits status).toNat = 0 ∧ (codeBits status).toNat = 0) ∧
      (∀ signal, (Termination.signaled signal).success = false) ∧
      (∀ signal : Nat, signal ≤ 255 →
        (ofStatus (Int32.ofNat (signal * 256 + 0x7F))).success = false) ∧
      (ofStatus 0xFFFF).success = false := by
  refine ⟨ofStatus_eq_match status, exited_iff status, signaled_iff status, not_ended_iff status, ?_,
    ?_, success_iff status, fun _ => rfl, ?_, not_success_of_low (by decide)⟩
  · intro code most
    exact ofStatus_exit most
  · intro signal some most
    have plain := ofStatus_signal 0 some most (by omega)
    have dumped := ofStatus_signal 1 some most (by omega)
    rw [Nat.zero_mul, Nat.zero_add] at plain
    exact ⟨plain, by rw [or_core_dump most, dumped]⟩
  · intro signal most
    apply not_success_of_low
    rw [toNat_lowBits, toNat_ofNat (by omega)]
    omega

/-- The greatest exit code, the last signal with a core dump, the word with all bits set, and a process
that was stopped by signal 19. -/
theorem ofStatus_reads_bits_at_bounds :
    ofStatus 0xFF00 = .exited 255 ∧ ofStatus 0xFE = .signaled 126 ∧ ofStatus (-1) = .exited (-1) ∧
      (ofStatus 0x137F).success = false := by
  obtain ⟨-, -, -, last, exits, signals, -, -, stopped, -⟩ := ofStatus_reads_bits (-1)
  exact ⟨exits 255 (by decide), (signals 126 (by decide) (by decide)).2, last.mpr (by decide),
    stopped 0x13 (by decide)⟩

end CommandShell.Termination
