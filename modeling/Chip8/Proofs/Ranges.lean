import Mathlib.Data.List.Basic
import Chip8.Proofs.Access

/-!
# Proofs/Ranges — memory is read as it was written last

Addresses are integers here, and so are lengths.  One check stands before every access, and what
passes it starts at a natural number, where `Proofs/Access` says which cells are meant.  A cell
holds what was laid over it, or what it held before (`Memory.getElem?_overlay`), and so does every
byte that is read back (`Memory.getElem?_of_read_overlay`).
-/

namespace Chip8

namespace Memory

variable {m : Memory} {a b n : Int} {bytes found : List UInt8}

/-- The check passes exactly for ranges inside the memory. -/
theorem exists_checkBounds_iff : (∃ u, checkBounds a n = .ok u) ↔ 0 ≤ a ∧ a + n ≤ memorySize := by
  have hinBounds : inBounds a n ↔ 0 ≤ a ∧ a + n ≤ memorySize := by simp [inBounds]
  rw [← hinBounds, checkBounds]
  split <;> simp_all

theorem exists_write_iff :
    (∃ m', m.write a bytes = .ok m') ↔ 0 ≤ a ∧ a + bytes.length ≤ memorySize := by
  rw [← exists_checkBounds_iff]
  simp [write, Except.bind_eq_ok_iff, pure, Except.pure]

theorem exists_read_iff : (∃ found, m.read a n = .ok found) ↔ 0 ≤ a ∧ a + n ≤ memorySize := by
  rw [← exists_checkBounds_iff]
  simp [read, Except.bind_eq_ok_iff, pure, Except.pure]

/-! ## Cells and the bytes read from them -/

/-- A cell holds what was laid over it, or what it held before. -/
theorem getElem?_overlay (m : Memory) {start cell : Nat} (hcell : cell < memorySize) :
    (m.overlay start bytes)[cell]? =
      if start ≤ cell ∧ cell < start + bytes.length then bytes[cell - start]? else m[cell]? := by
  by_cases hin : start ≤ cell ∧ cell < start + bytes.length
  · rw [if_pos hin, Vector.getElem?_eq_getElem hcell, getElem_overlay, dif_pos hin,
      List.getElem?_eq_getElem (by omega)]
  · rw [if_neg hin, getElem?_overlay_of_outside (by omega)]

theorem length_of_read (hn : 0 ≤ n) (h : m.read b n = .ok found) : found.length = n := by
  obtain ⟨hb, hfits⟩ := exists_read_iff.1 ⟨found, h⟩
  obtain ⟨b, rfl⟩ := Int.eq_ofNat_of_zero_le hb
  obtain ⟨n, rfl⟩ := Int.eq_ofNat_of_zero_le hn
  obtain ⟨_, rfl⟩ := read_eq_ok_iff.1 h
  rw [List.length_take, List.length_drop, Vector.length_toList]
  omega

/-- A byte that is read is the one in its cell. -/
theorem getElem?_of_read (h : m.read b n = .ok found) {i : Nat} (hi : i < n) :
    found[i]? = m[(b + i).toNat]? := by
  have hn : 0 ≤ n := by omega
  obtain ⟨hb, hfits⟩ := exists_read_iff.1 ⟨found, h⟩
  obtain ⟨b, rfl⟩ := Int.eq_ofNat_of_zero_le hb
  obtain ⟨n, rfl⟩ := Int.eq_ofNat_of_zero_le hn
  obtain ⟨_, rfl⟩ := read_eq_ok_iff.1 h
  rw [List.getElem?_take_of_lt (by omega), List.getElem?_drop, Vector.getElem?_toList]
  rfl

/-- **A byte that is read back** is the one that was written to its cell, or the old one. -/
theorem getElem?_of_read_overlay (ha : 0 ≤ a) (h : (m.overlay a.toNat bytes).read b n = .ok found)
    {i : Nat} (hi : i < n) :
    found[i]? = if a ≤ b + i ∧ b + i < a + bytes.length then bytes[(b + i - a).toNat]?
      else m[(b + i).toNat]? := by
  obtain ⟨hb, hfits⟩ := exists_read_iff.1 ⟨found, h⟩
  obtain ⟨a, rfl⟩ := Int.eq_ofNat_of_zero_le ha
  have hcell : a ≤ (b + i).toNat ∧ (b + i).toNat < a + bytes.length ↔
      (a : Int) ≤ b + i ∧ b + i < a + bytes.length := by omega
  have hplace : (b + i).toNat - a = (b + i - a).toNat := by omega
  rw [getElem?_of_read h hi, Int.toNat_natCast, getElem?_overlay m (by omega)]
  simp only [hcell, hplace]

/-- A word is made of the two bytes that are read in its place. -/
theorem exists_word (m : Memory) (hb : 0 ≤ b) (hfits : b + 2 ≤ memorySize) :
    ∃ high low, m.read b 2 = .ok [high, low] ∧ m.word b = .ok (.ofBytes high low) := by
  obtain ⟨found, hread⟩ := exists_read_iff.2 ⟨hb, hfits⟩
  have hlength : found.length = 2 := Int.natCast_inj.1 (length_of_read (by decide) hread)
  obtain ⟨high, low, rfl⟩ := List.length_eq_two.1 hlength
  have hhigh : some high = m[(b + (0 : Nat)).toNat]? := getElem?_of_read (i := 0) hread (by decide)
  have hlow : some low = m[(b + (1 : Nat)).toNat]? := getElem?_of_read (i := 1) hread (by decide)
  obtain ⟨b, rfl⟩ := Int.eq_ofNat_of_zero_le hb
  refine ⟨high, low, hread, word_eq_ok_iff.2 ⟨by omega, ?_⟩⟩
  rw [byteAt, byteAt, ← Int.toNat_natCast b]
  exact congrArg₂ Word.ofBytes (congrArg (·.getD 0) hhigh.symm) (congrArg (·.getD 0) hlow.symm)

end Memory

namespace Machine

/-- A write that succeeds lays its bytes over the memory and leaves the rest of the machine. -/
theorem eq_of_write {m m' : Machine} {a : Int} {bytes : List UInt8} (h : m.write a bytes = .ok m') :
    m' = { m with memory := m.memory.overlay a.toNat bytes } := by
  obtain ⟨memory, hmemory, rfl⟩ := Except.map_eq_ok_iff.1 h
  obtain ⟨ha, _⟩ := Memory.exists_write_iff.1 ⟨memory, hmemory⟩
  obtain ⟨a, rfl⟩ := Int.eq_ofNat_of_zero_le ha
  obtain ⟨_, rfl⟩ := Memory.write_eq_ok_iff.1 hmemory
  rfl

/-- **Memory is read as it was written last.**  A write succeeds exactly where all its cells
exist, and changes nothing but memory.  Afterwards a read succeeds exactly where all its cells
exist, and gives for each the byte that was written to it, or the old one where none was; a word
is read as the two bytes of its cells, the first of them counting 256 times. -/
theorem reads_what_was_written (m : Machine) (a : Int) (bytes : List UInt8) :
    ((∃ m', m.write a bytes = .ok m') ↔ 0 ≤ a ∧ a + bytes.length ≤ 4096) ∧
    ∀ m', m.write a bytes = .ok m' →
      (m'.stack = m.stack ∧ m'.picture = m.picture ∧ m'.dirty = m.dirty ∧
        m'.memory.toList.length = 4096) ∧
      (∀ b n : Int, 0 ≤ n →
        ((∃ found, m'.read b n = .ok found) ↔ 0 ≤ b ∧ b + n ≤ 4096) ∧
        ∀ found, m'.read b n = .ok found → found.length = n ∧
          ∀ i : Nat, i < n → found[i]? =
            if a ≤ b + i ∧ b + i < a + bytes.length then bytes[(b + i - a).toNat]?
            else m.memory[(b + i).toNat]?) ∧
      ∀ b : Int, 0 ≤ b → b ≤ 4094 → ∃ high low w,
        m'.read b 2 = .ok [high, low] ∧ m'.word b = .ok w ∧
          w.toNat = 256 * high.toNat + low.toNat := by
  have hsucceeds : (∃ m', m.write a bytes = .ok m') ↔ 0 ≤ a ∧ a + bytes.length ≤ 4096 := by
    simp [write, Except.map_eq_ok_iff, Memory.exists_write_iff, memorySize]
  refine ⟨hsucceeds, fun m' h => ?_⟩
  obtain ⟨ha, _⟩ := hsucceeds.1 ⟨m', h⟩
  obtain rfl := eq_of_write h
  refine ⟨⟨rfl, rfl, rfl, Vector.length_toList⟩, fun b n hn => ⟨Memory.exists_read_iff, ?_⟩, ?_⟩
  · intro found hread
    exact ⟨Memory.length_of_read hn hread, fun i hi => Memory.getElem?_of_read_overlay ha hread hi⟩
  · intro b hb hlast
    have hfits : b + 2 ≤ memorySize := by
      change b + 2 ≤ 4096
      omega
    obtain ⟨high, low, hread, hword⟩ := Memory.exists_word (m.memory.overlay a.toNat bytes) hb hfits
    exact ⟨high, low, _, hread, hword, Word.toNat_ofBytes high low⟩

/-- The last two cells, read with the one before them. -/
theorem reads_what_was_written_of_last_cells : ∃ m' : Machine,
    ({} : Machine).write 4094 [0x12, 0x34] = .ok m' ∧
      (∃ found, m'.read 4093 3 = .ok found ∧ found[0]? = some 0 ∧ found[2]? = some 0x34) ∧
      ¬ ∃ m'', m'.write 4095 [0x56, 0x78] = .ok m'' := by
  obtain ⟨hsucceeds, hafter⟩ := reads_what_was_written {} 4094 [0x12, 0x34]
  obtain ⟨m', hwrite⟩ := hsucceeds.2 (by decide)
  obtain ⟨_, hreads, _⟩ := hafter m' hwrite
  obtain ⟨hread, hbytes⟩ := hreads 4093 3 (by decide)
  obtain ⟨found, hfound⟩ := hread.2 (by decide)
  obtain ⟨_, hbyte⟩ := hbytes found hfound
  refine ⟨m', hwrite, ⟨found, hfound, ?_, hbyte 2 (by decide)⟩, ?_⟩
  · exact (hbyte 0 (by decide)).trans (by decide +kernel)
  · exact mt (reads_what_was_written m' 4095 [0x56, 0x78]).1.1 (by decide)

end Machine

end Chip8
