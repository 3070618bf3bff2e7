import Mathlib.Algebra.Group.Nat.Defs
import TestHarness.Proofs.Pass.Influence
import TestHarness.Proofs.Text.Ascii

/-!
# The code of a child

Of the 32 bits of a wait status, two fields make the code: bits 0 to 6 tell whether the child
exited, was killed by a signal or did not end at all, and bits 8 to 15 hold the status it exited
with. `toInt_code_cases` gives the code of each kind as a number without bounds, where a sum that
went over the bounds of the code would show. Zero is left to the child that exited with the status
zero: a child that could not be started has one of two other codes, and a call with a zero octet in
it is always of that kind.
-/

namespace TestHarness

namespace WaitStatus

/-! ## Fields of the word -/

/-- The `count` bits from bit `first` on, as a number. -/
def field (status : WaitStatus) (first count : Nat) : Nat :=
  status.word.toNat >>> first &&& (2 ^ count - 1)

variable (status : WaitStatus)

theorem field_eq (first count : Nat) :
    status.field first count = status.word.toNat / 2 ^ first % 2 ^ count := by
  rw [field, Nat.and_two_pow_sub_one_eq_mod, Nat.shiftRight_eq_div_pow]

theorem field_lt (first count : Nat) : status.field first count < 2 ^ count := by
  rw [field_eq]
  exact Nat.mod_lt _ (Nat.two_pow_pos count)

theorem testBit_field (first count i : Nat) :
    (status.field first count).testBit i =
      (decide (i < count) && status.word.toNat.testBit (first + i)) := by
  rw [field_eq, Nat.testBit_mod_two_pow, Nat.testBit_div_two_pow, Nat.add_comm i first]

/-- A field depends on its own bits only. -/
theorem field_congr {status other : WaitStatus} {first count : Nat}
    (hbits : ∀ i < count,
      other.word.toNat.testBit (first + i) = status.word.toNat.testBit (first + i)) :
    other.field first count = status.field first count := by
  apply Nat.eq_of_testBit_eq
  intro i
  rw [testBit_field, testBit_field]
  by_cases hlt : i < count
  · rw [hbits i hlt]
  · rw [decide_eq_false hlt, Bool.false_and, Bool.false_and]

theorem signal_eq_field : status.signal = status.field 0 7 := by
  rw [field_eq, Nat.pow_zero, Nat.div_one]
  rfl

theorem exitStatus_eq_field : status.exitStatus = status.field 8 8 := by
  rw [field_eq]
  rfl

/-! ## The three kinds of status -/

variable {status}

theorem toInt_code_of_exited (hexited : status.field 0 7 = 0) :
    status.code.toInt = status.field 8 8 := by
  have hlt := status.field_lt 8 8
  rw [code, signal_eq_field, if_pos hexited, exitStatus_eq_field]
  exact Int32.toInt_ofNat_of_lt (by omega)

/-- The sum is far from the bounds of the code, so nothing is lost. -/
theorem toInt_code_of_signaled (hsome : 1 ≤ status.field 0 7) (hfatal : status.field 0 7 ≤ 126) :
    status.code.toInt = 128 + status.field 0 7 := by
  have hsignal : (Int32.ofNat (status.field 0 7)).toInt = status.field 0 7 :=
    Int32.toInt_ofNat_of_lt (by omega)
  have hbase : (128 : Int32).toInt = 128 := by decide
  rw [code, signal_eq_field, if_neg (by omega), if_pos (by omega), Int32.toInt_add, hsignal, hbase]
  exact Int.bmod_eq_of_le (by omega) (by omega)

theorem toInt_code_of_stopped (hstopped : status.field 0 7 = 127) : status.code.toInt = -1 := by
  rw [code, signal_eq_field, if_neg (by omega), if_neg (by omega)]
  rfl

/-- The code, as a number, of each of the three kinds. -/
theorem toInt_code_cases (status : WaitStatus) :
    (status.field 0 7 = 0 ∧ status.code.toInt = status.field 8 8) ∨
    ((1 ≤ status.field 0 7 ∧ status.field 0 7 ≤ 126) ∧
      status.code.toInt = 128 + status.field 0 7) ∨
    (status.field 0 7 = 127 ∧ status.code.toInt = -1) := by
  have hlt := status.field_lt 0 7
  by_cases hexited : status.field 0 7 = 0
  · exact .inl ⟨hexited, toInt_code_of_exited hexited⟩
  by_cases hfatal : status.field 0 7 ≤ 126
  · have hsome : 1 ≤ status.field 0 7 := Nat.one_le_iff_ne_zero.mpr hexited
    exact .inr (.inl ⟨⟨hsome, hfatal⟩, toInt_code_of_signaled hsome hfatal⟩)
  · have hstopped : status.field 0 7 = 127 := by omega
    exact .inr (.inr ⟨hstopped, toInt_code_of_stopped hstopped⟩)

/-- What the code of a status is made of, and what can be told from it. -/
structure Coded (status : WaitStatus) : Prop where
  determined : ∀ other : WaitStatus,
    (∀ i, i ≤ 6 ∨ 8 ≤ i ∧ i ≤ 15 →
      other.word.toNat.testBit i = status.word.toNat.testBit i) → other.code = status.code
  zero_iff : status.code = 0 ↔ status.field 0 7 = 0 ∧ status.field 8 8 = 0
  exited : status.field 0 7 = 0 → status.code.toInt = status.field 8 8
  signaled : 1 ≤ status.field 0 7 → status.field 0 7 ≤ 126 →
    status.code.toInt = 128 + status.field 0 7 ∧
      129 ≤ status.code.toInt ∧ status.code.toInt ≤ 254
  stopped_iff : status.code = -1 ↔ status.field 0 7 = 127
  bounded : status.code = -1 ∨ 0 ≤ status.code.toInt ∧ status.code.toInt ≤ 255

theorem code_congr {other : WaitStatus} (hsignal : other.field 0 7 = status.field 0 7)
    (hexit : other.field 8 8 = status.field 8 8) : other.code = status.code := by
  rw [code, code, signal_eq_field, signal_eq_field, exitStatus_eq_field, exitStatus_eq_field,
    hsignal, hexit]

theorem code_eq_zero_iff : status.code = 0 ↔ status.field 0 7 = 0 ∧ status.field 8 8 = 0 := by
  have hzero : (0 : Int32).toInt = 0 := by decide
  rw [← Int32.toInt_inj, hzero]
  rcases toInt_code_cases status with ⟨_, hcode⟩ | ⟨_, hcode⟩ | ⟨_, hcode⟩ <;> omega

theorem code_eq_neg_one_iff : status.code = -1 ↔ status.field 0 7 = 127 := by
  have hneg : (-1 : Int32).toInt = -1 := by decide
  rw [← Int32.toInt_inj, hneg]
  rcases toInt_code_cases status with ⟨_, hcode⟩ | ⟨_, hcode⟩ | ⟨_, hcode⟩ <;> omega

theorem coded (status : WaitStatus) : status.Coded where
  determined := by
    intro other hbits
    apply code_congr
    · exact field_congr fun i hlt => hbits (0 + i) (.inl (by omega))
    · exact field_congr fun i hlt => hbits (8 + i) (.inr (by omega))
  zero_iff := code_eq_zero_iff
  exited := toInt_code_of_exited
  signaled := by
    intro hsome hfatal
    rw [toInt_code_of_signaled hsome hfatal]
    omega
  stopped_iff := code_eq_neg_one_iff
  bounded := by
    have hlt := status.field_lt 8 8
    rw [code_eq_neg_one_iff]
    rcases toInt_code_cases status with ⟨_, hcode⟩ | ⟨_, hcode⟩ | ⟨_, hcode⟩ <;> omega

end WaitStatus

/-! ## How a child ended -/

/-- The child exited by itself, with the status zero. -/
def Ending.IsClean : Ending → Prop
  | .ended status => status.field 0 7 = 0 ∧ status.field 8 8 = 0
  | .refused _ => False

namespace RunResult

theorem exitCode_ofFault (kind : Fault.Kind) :
    ((ofFault kind).exitCode = 127 ↔ kind = .notFound) ∧
      ((ofFault kind).exitCode = 126 ↔ kind ≠ .notFound) := by
  unfold ofFault
  by_cases hkind : kind = .notFound
  · rw [if_pos hkind]
    exact ⟨iff_of_true rfl hkind, iff_of_false (by decide) (not_not_intro hkind)⟩
  · rw [if_neg hkind]
    exact ⟨iff_of_false (by decide) hkind, iff_of_true rfl hkind⟩

/-- Only a child that exited with the status zero did not fail. -/
theorem isFailure_ofEnding_iff (ending : Ending) :
    (ofEnding ending).isFailure = true ↔ ¬ ending.IsClean := by
  rw [Tally.isFailure_iff]
  cases ending with
  | ended status => exact not_congr WaitStatus.code_eq_zero_iff
  | refused fault =>
      refine iff_of_true ?_ not_false
      rw [ofEnding, ofFault]
      split
      · decide
      · decide

end RunResult

/-! ## Calls with a zero octet -/

/-- The program, an argument or the file holds a zero. -/
def Invocation.HasNul (call : Invocation) : Prop :=
  '\x00' ∈ call.program.toList ∨ (∃ arg ∈ call.args, '\x00' ∈ arg.toList) ∨ 0 ∈ call.file.octets

theorem Utf8.zero_mem_encode_iff (text : List Char) : 0 ∈ encode text ↔ '\x00' ∈ text := by
  have hchar (c : Char) : 0 ∈ String.utf8EncodeChar c ↔ c = '\x00' := by
    constructor
    · intro hzero
      by_cases hascii : c.toNat < 0x80
      · rw [utf8EncodeChar_of_ascii hascii, List.mem_singleton] at hzero
        have hvalue : c.toNat = 0 := by
          rw [← UInt8.toNat_ofNat_of_lt' (show c.toNat < 256 by omega), ← hzero]
          rfl
        rw [← Char.ofNat_toNat c, hvalue]
      · exact absurd (high_utf8EncodeChar (Nat.not_lt.mp hascii) 0 hzero) (by decide)
    · rintro rfl
      decide
  unfold encode
  rw [List.mem_flatMap]
  simp only [hchar, exists_eq_right]

theorem Invocation.words_any_zero_iff (call : Invocation) :
    (call.words.any fun word => word.contains 0) = true ↔ call.HasNul := by
  simp [words, HasNul, Utf8.zero_mem_encode_iff]

/-- A call with a zero octet is refused, and the world is not asked. -/
theorem World.run_of_hasNul {σ : Type} (world : World σ) (state : σ) {call : Invocation}
    (hnul : call.HasNul) :
    world.run state call = (⟨.refused .nulInCommand, [], []⟩, state) := by
  rw [run, if_pos ((call.words_any_zero_iff).mpr hnul)]

/-- Any other call is handed to the world as it is. -/
theorem World.run_of_not_hasNul {σ : Type} (world : World σ) (state : σ) {call : Invocation}
    (hnul : ¬ call.HasNul) : world.run state call = world.spawn state call := by
  rw [run, if_neg fun hzero => hnul ((call.words_any_zero_iff).mp hzero)]

namespace Pass

/--
The result of running a program on a file, for every way in which its child can end. It is a failure
unless the child exited by itself with the status zero. The code of a wait status is made of two of
its fields; the code of a child that could not be started tells whether the program was not found.
A call with a zero octet in its words is such a child, and changes nothing; the child of any other
call is the one that the world runs.
-/
theorem runFile_code {σ : Type} (world : World σ) (style : Style) (call : Invocation) (state : σ) :
    (runFile world style call state).value = .ofEnding (world.run state call).1.ending ∧
    (∀ ending, (RunResult.ofEnding ending).isFailure = true ↔ ¬ ending.IsClean) ∧
    (∀ status, (RunResult.ofEnding (.ended status)).exitCode = status.code ∧ status.Coded) ∧
    (∀ fault,
      ((RunResult.ofEnding (.refused fault)).exitCode = 127 ↔ fault.kind = .notFound) ∧
      ((RunResult.ofEnding (.refused fault)).exitCode = 126 ↔ fault.kind ≠ .notFound)) ∧
    (call.HasNul →
      (runFile world style call state).value.exitCode = 126 ∧
      world.run state call = (⟨.refused .nulInCommand, [], []⟩, state)) ∧
    (¬ call.HasNul → world.run state call = world.spawn state call) := by
  have hvalue : (runFile world style call state).value =
      .ofEnding (world.run state call).1.ending := by
    rw [runFile_apply]
  refine ⟨hvalue, RunResult.isFailure_ofEnding_iff, fun status => ⟨rfl, status.coded⟩,
    fun fault => RunResult.exitCode_ofFault fault.kind, fun hnul => ?_,
    world.run_of_not_hasNul state⟩
  have hrun := world.run_of_hasNul state hnul
  rw [hvalue, hrun]
  exact ⟨rfl, rfl⟩

/--
A child that is killed and leaves a core, and a file with a zero octet in its name on which the
world would have run a child without fault.
-/
theorem runFile_code_killed :
    let call := (Command.mk "cargo" ["run"]).on (.ofString "./tests/a")
    let severed := (Command.mk "cargo" ["run"]).on ⟨[0x61, 0x00]⟩
    ¬ call.HasNul ∧ severed.HasNul ∧
    (runFile scripted .plain call [.ended ⟨0x8B⟩]).value.exitCode.toInt = 128 + 11 ∧
    (runFile scripted .plain severed [.ended (.exited 0)]).value.exitCode = 126 ∧
    (runFile scripted .plain severed [.ended (.exited 0)]).value.isFailure = true := by
  intro call severed
  have hcall : ¬ call.HasNul := by
    rw [← call.words_any_zero_iff]
    decide
  have hsevered : severed.HasNul := .inr (.inr (by decide))
  obtain ⟨hvalue, -, hcoded, -, -, hspawn⟩ := runFile_code scripted .plain call [.ended ⟨0x8B⟩]
  obtain ⟨hother, hfailure, -, -, hnul, -⟩ :=
    runFile_code scripted .plain severed [.ended (.exited 0)]
  obtain ⟨hcode, hrun⟩ := hnul hsevered
  refine ⟨hcall, hsevered, ?_, hcode, ?_⟩
  · rw [hvalue, hspawn hcall]
    exact ((hcoded ⟨0x8B⟩).2.signaled (by decide) (by decide)).1
  · rw [hother, hrun]
    exact (hfailure _).mpr not_false

/-- Bits outside the two fields count for nothing: that for a core dump, and the upper half. -/
example :
    ([⟨0x80⟩, ⟨0xFFFF0000⟩, ⟨0x8B⟩, ⟨0x137F⟩, ⟨0xFFFFFFFF⟩] : List WaitStatus).map WaitStatus.code =
      [0, 0, 139, -1, -1] := by
  decide

end Pass

end TestHarness
