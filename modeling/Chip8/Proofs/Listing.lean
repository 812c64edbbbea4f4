import Chip8.Disassembly
import Chip8.Proofs.Reachable

/-!
# Proofs/Listing — a program is listed as it will be fetched

Three pieces of arithmetic meet here: a program is laid over the cells from `0x200` on, a word is
fetched from the two cells at the program counter, and a listing takes the bytes of the program two
by two.  Both the fetch and the listing are read off the bytes of the program: `Engine.fetch_laid`
gives the word at an even distance from the start, `getElem?_disassemble` the line with the same
number.  What the listing leaves out is a last odd byte and nothing else
(`flatMap_toBytes_disassemble`).
-/

namespace Chip8

/-! ## Words and their bytes -/

/-- The two bytes of a word, the high one first. -/
def Word.toBytes (w : Word) : List UInt8 := [UInt8.ofNat (w.toNat / 256), w.nn]

theorem Word.toBytes_ofBytes (high low : UInt8) : (ofBytes high low).toBytes = [high, low] := by
  have hlow := low.toNat_lt
  have h := toNat_ofBytes high low
  have hhigh : UInt8.ofNat ((ofBytes high low).toNat / 256) = high := by
    rw [h, Nat.mul_add_div (by decide), Nat.div_eq_of_lt hlow, Nat.add_zero, UInt8.ofNat_toNat]
  have hnn : (ofBytes high low).nn = low := by
    refine UInt8.toNat_inj.1 ?_
    rw [nn, UInt8.toNat_ofNat']
    omega
  rw [toBytes, hhigh, hnn]

/-! ## The lines of a listing

Each of the three facts follows the recursion of `disassemble`: two bytes make a line, and fewer
make none. -/

theorem length_disassemble (start : Int) : ∀ program : List UInt8,
    (disassemble start program).length = program.length / 2
  | [] => rfl
  | [_] => by simp [disassemble]
  | high :: low :: rest => by
    rw [disassemble, List.length_cons, length_disassemble, List.length_cons, List.length_cons]
    omega

/-- **Each line has its address, its word and its text.** -/
theorem getElem?_disassemble (start : Int) : ∀ (program : List UInt8) (i : Nat)
    (hi : 2 * i + 1 < program.length), (disassemble start program)[i]? =
      let word := Word.ofBytes program[2 * i] program[2 * i + 1]
      some ⟨start + 2 * i, word, word.describe⟩
  | [], _, hi => by simp at hi
  | [_], _, hi => by simp at hi
  | high :: low :: rest, 0, _ => by simp [disassemble]
  | high :: low :: rest, i + 1, hi => by
    have hrest : 2 * i + 1 < rest.length := by
      simp only [List.length_cons] at hi
      omega
    have haddress : start + 2 + 2 * (i : Int) = start + 2 * ((i + 1 : Nat) : Int) := by omega
    rw [disassemble, List.getElem?_cons_succ, getElem?_disassemble _ rest i hrest, haddress]
    rfl

/-- **A listing loses a last odd byte and nothing else.** -/
theorem flatMap_toBytes_disassemble (start : Int) : ∀ program : List UInt8,
    (disassemble start program).flatMap (·.word.toBytes) = program.take (2 * (program.length / 2))
  | [] => rfl
  | [_] => by simp [disassemble]
  | high :: low :: rest => by
    have hlength : 2 * ((high :: low :: rest).length / 2) = 2 * (rest.length / 2) + 2 := by
      rw [List.length_cons, List.length_cons]
      omega
    rw [disassemble, List.flatMap_cons, flatMap_toBytes_disassemble, Word.toBytes_ofBytes, hlength]
    rfl

/-! ## Programs in memory -/

namespace Engine

variable {σ : Type} {e : Engine} {program : List UInt8}

/-- The engine with a program laid over its memory. -/
def laid (e : Engine) (program : List UInt8) : Engine :=
  { e with machine.memory := e.machine.memory.overlay programStart program }

/-- A program that fits is laid over the memory, and its size is announced. -/
theorem load_of_le (e : Engine) (s : σ) (h : program.length ≤ programLimit) :
    e.load program s =
      ⟨.ok (e.laid program), s, [⟨.engine, .info, Report.programLoaded program.length⟩]⟩ := by
  have hload : e.withProgram program = .ok (e.laid program) := by
    rw [withProgram, Machine.load, Memory.load, if_neg (by omega)]
    rfl
  simp only [load, Interaction.bind_apply, Interaction.liftFault_apply, hload]
  rfl

/-- A program that does not fit is refused, and nothing is said. -/
theorem load_of_lt (e : Engine) (s : σ) (h : programLimit < program.length) :
    e.load program s = ⟨.error (.fault (.programTooLarge program.length)), s, []⟩ := by
  have hload : e.withProgram program = .error (.programTooLarge program.length) := by
    rw [withProgram, Machine.load, Memory.load, if_pos h]
    rfl
  simp only [load, Interaction.bind_apply, Interaction.liftFault_apply, hload]
  rfl

/-- **A word of a loaded program is fetched** as the two bytes at its place. -/
theorem fetch_laid {i : Nat} (hi : 2 * i + 1 < program.length) (h : program.length ≤ programLimit) :
    { e.laid program with pc := UInt16.ofNat (programStart + 2 * i) }.fetch =
      .ok (.ofBytes program[2 * i] program[2 * i + 1]) := by
  have hlimit : programLimit = 3584 := rfl
  have hsize : memorySize = 4096 := rfl
  have hstart : programStart = 512 := rfl
  have hpc : (UInt16.ofNat (programStart + 2 * i)).toNat = programStart + 2 * i := by
    rw [UInt16.toNat_ofNat']
    omega
  rw [fetch, hpc]
  exact Memory.word_overlay hi (by omega)

/-- **A program is listed as it will be fetched.**  A program of at most 3584 bytes is loaded: its
bytes are read back from `0x200` on, the other cells and the rest of the engine are as before.  The
line `i` of its listing has the address `0x200 + 2 * i`, the word that the engine fetches there and
the text of that word.  There are half as many lines as bytes, and the words, written out with the
high byte first, are the program without a last odd byte.  A longer program is refused; nothing is
changed and nothing is said. -/
theorem listing_is_fetched (e : Engine) (s : σ) (program : List UInt8) :
    (program.length ≤ 3584 → ∃ memory : Memory,
      let loaded : Engine := { e with machine.memory := memory }
      e.load program s =
        ⟨.ok loaded, s, [⟨.engine, .info, Report.programLoaded program.length⟩]⟩ ∧
      (∀ a, a < 0x200 ∨ 0x200 + program.length ≤ a → memory[a]? = e.machine.memory[a]?) ∧
      loaded.machine.read 0x200 program.length = .ok program ∧
      ∀ i, i < program.length / 2 → ∃ line, (disassemble 0x200 program)[i]? = some line ∧
        line.address = 0x200 + 2 * i ∧
        { loaded with pc := UInt16.ofNat (0x200 + 2 * i) }.fetch = .ok line.word ∧
        line.text = line.word.describe) ∧
    (disassemble 0x200 program).length = program.length / 2 ∧
    (disassemble 0x200 program).flatMap (·.word.toBytes) =
      program.take (2 * (program.length / 2)) ∧
    (3584 < program.length →
      e.load program s = ⟨.error (.fault (.programTooLarge program.length)), s, []⟩) := by
  refine ⟨fun h => ?_, length_disassemble _ _, flatMap_toBytes_disassemble _ _, load_of_lt e s⟩
  have hfits : programStart + program.length ≤ memorySize := by
    have hsize : memorySize = 4096 := rfl
    have hstart : programStart = 512 := rfl
    omega
  refine ⟨_, load_of_le e s h, fun a ha => Memory.getElem?_overlay_of_outside ha,
    Memory.read_overlay hfits, fun i hi => ?_⟩
  have hbytes : 2 * i + 1 < program.length := by omega
  exact ⟨_, getElem?_disassemble _ program i hbytes, rfl, fetch_laid hbytes h, rfl⟩

/-- A program that fills all of its room, and one that is a byte longer. -/
theorem listing_is_fetched_of_full :
    let full : List UInt8 := .replicate 3584 0xAB
    (∃ memory : Memory,
      let loaded : Engine := { machine.memory := memory }
      ({} : Engine).load full () =
        ⟨.ok loaded, (), [⟨.engine, .info, Report.programLoaded full.length⟩]⟩ ∧
      memory[0x1FF]? = Memory.initial[0x1FF]? ∧
      loaded.machine.read 0x200 full.length = .ok full ∧
      ∃ line, (disassemble 0x200 full)[1791]? = some line ∧ line.address = 0x200 + 2 * 1791 ∧
        { loaded with pc := UInt16.ofNat (0x200 + 2 * 1791) }.fetch = .ok line.word ∧
        line.text = line.word.describe) ∧
    ({} : Engine).load (0xAB :: full) () =
      ⟨.error (.fault (.programTooLarge (0xAB :: full).length)), (), []⟩ := by
  intro full
  have hlength : full.length = 3584 := List.length_replicate
  obtain ⟨memory, hload, hcells, hread, hlines⟩ := (listing_is_fetched {} () full).1
    (Nat.le_of_eq hlength)
  refine ⟨⟨memory, hload, hcells 0x1FF (.inl (by decide)), hread, hlines 1791 ?_⟩, ?_⟩
  · rw [hlength]
    decide
  · refine (listing_is_fetched {} () (0xAB :: full)).2.2.2 ?_
    rw [List.length_cons, hlength]
    decide

end Engine

end Chip8
