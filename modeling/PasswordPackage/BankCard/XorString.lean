import PasswordPackage.BankCard.Lookup
import PasswordPackage.Common.Loop
import PasswordPackage.Common.Memory

/-!
# The loop of `xorString`

The loop has no length to stop at: it goes on until the byte it has just decoded is zero. Here it
runs on a memory, with a record of the bytes it touches, and is compared with the decoding of a
buffer.
-/

namespace PasswordPackage.InputCart

open Loop

/-! ## The loop -/

/-- The memory, the pointer, and the addresses read and written so far. -/
structure XorState where
  memory : ℕ → UInt8
  p : ℕ
  accesses : List ℕ

/-- One turn of `while( ((*p) ^= key) != '\0') p++`. -/
def xorTurn (key : UInt8) (s : XorState) : XorState ⊕ XorState :=
  let byte := s.memory s.p ^^^ key
  let s :=
    { s with
      memory := Function.update s.memory s.p byte
      accesses := s.accesses ++ [s.p] }
  if byte ≠ 0 then .inl { s with p := s.p + 1 } else .inr s

/-- The call `xorString(str, key)`. -/
def xorCall (memory : ℕ → UInt8) (str : ℕ) : XorState :=
  { memory := memory
    p := str
    accesses := [] }

/-! ## Turns -/

section

variable {key byte : UInt8} {memory : ℕ → UInt8} {p : ℕ} {accesses : List ℕ}

theorem xorTurn_zero (hbyte : memory p = byte) (hzero : byte ^^^ key = 0) :
    xorTurn key ⟨memory, p, accesses⟩ =
      .inr ⟨Function.update memory p 0, p, accesses ++ [p]⟩ := by
  subst hbyte
  rw [xorTurn]
  dsimp only
  rw [if_neg fun hne => hne hzero, hzero]

theorem xorTurn_ne_zero (hbyte : memory p = byte) (hzero : byte ^^^ key ≠ 0) :
    xorTurn key ⟨memory, p, accesses⟩ =
      .inl ⟨Function.update memory p (byte ^^^ key), p + 1, accesses ++ [p]⟩ := by
  subst hbyte
  rw [xorTurn]
  dsimp only
  rw [if_pos hzero]

end

/-- The number of turns that lead on: the position of the first byte that is the key. -/
def turns (key : UInt8) (buffer : List UInt8) : ℕ := (buffer.takeWhile (· ≠ key)).length

theorem turns_zero {key byte : UInt8} {rest : List UInt8} (hzero : byte ^^^ key = 0) :
    turns key (byte :: rest) = 0 := by
  rw [turns, List.takeWhile_cons_of_neg (by simpa using hzero)]
  rfl

theorem turns_ne_zero {key byte : UInt8} {rest : List UInt8} (hzero : byte ^^^ key ≠ 0) :
    turns key (byte :: rest) = turns key rest + 1 := by
  rw [turns, List.takeWhile_cons_of_pos (by simpa using hzero)]
  rfl

/-- On a buffer that is decoded without leaving it, the loop ends, with the decoded bytes in place
of the buffer. -/
theorem endsAfter_xorTurn {key : UInt8} {memory : ℕ → UInt8} {p : ℕ} (accesses : List ℕ)
    {buffer result : List UInt8} (hbuffer : Memory.read memory p buffer.length = buffer)
    (hresult : xorString key buffer = some result) :
    EndsAfter (xorTurn key) (turns key buffer) ⟨memory, p, accesses⟩
      { memory := Memory.write memory p result
        p := p + turns key buffer
        accesses := accesses ++ List.range' p (turns key buffer + 1) } := by
  induction buffer generalizing memory p accesses result with
  | nil => cases hresult
  | cons byte rest ih =>
      rw [List.length_cons, Memory.read_succ] at hbuffer
      obtain ⟨hbyte, hrest⟩ := List.cons.inj hbuffer
      -- the rest of the buffer is not touched by this turn
      have hread (a : UInt8) :
          Memory.read (Function.update memory p a) (p + 1) rest.length = rest := by
        rw [Memory.read_update a (Nat.lt_succ_self p), hrest]
      rw [xorString] at hresult
      by_cases hzero : byte ^^^ key = 0
      · rw [if_pos hzero, hzero] at hresult
        obtain rfl := Option.some.inj hresult
        have hwrite : Memory.write memory p (0 :: rest) = Function.update memory p 0 := by
          have hsame := Memory.write_read (Function.update memory p 0) (p + 1) rest.length
          rwa [hread] at hsame
        rw [turns_zero hzero, hwrite]
        exact endsAfter_zero (xorTurn_zero hbyte hzero)
      · rw [if_neg hzero] at hresult
        obtain ⟨result', hresult', rfl⟩ := Option.map_eq_some_iff.mp hresult
        have hend := (ih (accesses ++ [p]) (hread _) hresult').step (xorTurn_ne_zero hbyte hzero)
        have hp : p + 1 + turns key rest = p + (turns key rest + 1) := by omega
        rw [hp, List.append_assoc, List.singleton_append, ← List.range'_succ] at hend
        rw [turns_ne_zero hzero]
        exact hend

/-! ## Decoding -/

/-- Encoding with the key again decodes. -/
theorem xor_key_cancel (key byte : UInt8) : key ^^^ byte ^^^ key = byte := by
  rw [UInt8.xor_comm key byte, UInt8.xor_assoc, UInt8.xor_self, UInt8.xor_zero]

/-- The buffer of a string and its terminating zero, each encoded with the key. -/
def encoded (key : UInt8) (s : List UInt8) : List UInt8 := (s ++ [0]).map (key ^^^ ·)

theorem xorString_encoded (key : UInt8) {s : List UInt8} (hs : 0 ∉ s) :
    xorString key (encoded key s) = some (s ++ [0]) ∧ turns key (encoded key s) = s.length := by
  induction s with
  | nil =>
      have hzero : key ^^^ 0 ^^^ key = 0 := xor_key_cancel key 0
      constructor
      · show xorString key [key ^^^ 0] = some [0]
        rw [xorString, if_pos hzero, hzero]
      · exact turns_zero hzero
  | cons byte s ih =>
      obtain ⟨hresult, hturns⟩ := ih fun hmem => hs (List.mem_cons_of_mem byte hmem)
      have hzero : key ^^^ byte ^^^ key ≠ 0 := by
        rw [xor_key_cancel]
        rintro rfl
        exact hs List.mem_cons_self
      constructor
      · show xorString key ((key ^^^ byte) :: encoded key s) = some (byte :: (s ++ [0]))
        rw [xorString, if_neg hzero, hresult, xor_key_cancel]
        rfl
      · calc turns key (encoded key (byte :: s))
            = turns key (encoded key s) + 1 := turns_ne_zero hzero
          _ = (byte :: s).length := by rw [hturns, List.length_cons]

/-- The loop ends on every encoded string, decodes it in place, and touches the bytes of the string
and its terminating zero, each of them once, and no others. -/
theorem xorString_decodes (key : UInt8) (s : List UInt8) (hs : 0 ∉ s) (memory : ℕ → UInt8)
    (str : ℕ) (hbuffer : Memory.read memory str (s.length + 1) = encoded key s) :
    ∃ final : XorState,
      EndsAfter (xorTurn key) s.length (xorCall memory str) final ∧
        Memory.read final.memory str (s.length + 1) = s ++ [0] ∧
        (∀ address, address < str ∨ str + s.length < address →
          final.memory address = memory address) ∧
        final.accesses = List.range' str (s.length + 1) := by
  have hlength : (encoded key s).length = s.length + 1 := by
    rw [encoded, List.length_map, List.length_append, List.length_singleton]
  obtain ⟨hresult, hturns⟩ := xorString_encoded key hs
  have hend := endsAfter_xorTurn [] (hlength ▸ hbuffer) hresult
  rw [hturns] at hend
  have hdecoded : (s ++ [(0 : UInt8)]).length = s.length + 1 := by
    rw [List.length_append, List.length_singleton]
  refine ⟨_, hend, ?_, ?_, rfl⟩
  · rw [← hdecoded]
    exact Memory.read_write memory str (s ++ [0])
  · intro address houtside
    exact Memory.write_of_outside (by rw [hdecoded]; omega)

def alipay : List UInt8 := [0x61, 0x6C, 0x69, 0x70, 0x61, 0x79]

example : testBuffer = encoded xorKey alipay := by decide

/-- A memory with the buffer of `testFunction` in it. -/
def testMemory : ℕ → UInt8 := Memory.write (fun _ => 0) 4096 (encoded xorKey alipay)

theorem xorString_decodes_alipay :
    0 ∉ alipay ∧ Memory.read testMemory 4096 7 = encoded xorKey alipay ∧
      ∃ final : XorState,
        EndsAfter (xorTurn xorKey) 6 (xorCall testMemory 4096) final ∧
          Memory.read final.memory 4096 7 = alipay ++ [0] ∧
          (∀ address, address < 4096 ∨ 4096 + 6 < address →
            final.memory address = testMemory address) ∧
          final.accesses = List.range' 4096 7 := by
  have hbuffer : Memory.read testMemory 4096 7 = encoded xorKey alipay :=
    Memory.read_write (fun _ => 0) 4096 (encoded xorKey alipay)
  exact ⟨by decide, hbuffer, xorString_decodes xorKey alipay (by decide) testMemory 4096 hbuffer⟩

end PasswordPackage.InputCart
