import Chip8.Proofs.Form
import Chip8.Proofs.Writes

/-!
# Proofs/Blocks — registers go to memory and come back

Two words move a block of registers, from `V0` on, between the register file and the memory at the
index; a third writes the decimal digits of a register there.  What one of them does is one equation
(`execute_storeRegisters`, `execute_loadRegisters`, `execute_storeDecimal`).  A block that is stored
and loaded again is laid over the registers it came from, a block that is loaded and stored again
over the cells it came from; both change nothing (`Registers.overlay_block`,
`Memory.overlay_eq_self_of_read`).
-/

namespace Chip8

namespace Registers

variable {v : Registers} {x : Register} {bytes : List UInt8}

theorem getElem?_toList (v : Registers) (k : Register) : v.toList[k.val]? = some v[k] := by
  rw [Vector.getElem?_toList, Vector.getElem?_eq_getElem k.isLt]
  rfl

/-- A block laid over the registers it was taken from. -/
theorem overlay_block (v : Registers) (x : Register) : v.overlay (v.block x) = v := by
  refine Vector.ext fun i hi => ?_
  let k : Register := ⟨i, hi⟩
  change (v.overlay (v.block x))[k] = v[k]
  rw [getElem_overlay, block, List.getElem?_take, getElem?_toList]
  split <;> rfl

/-- A block that was laid over registers. -/
theorem block_overlay (h : bytes.length = x.val + 1) : (v.overlay bytes).block x = bytes := by
  refine List.ext_getElem? fun i => ?_
  rw [block, List.getElem?_take]
  split
  · next hi =>
    let k : Register := ⟨i, by omega⟩
    have hk : bytes[k.val]? = some bytes[i] := List.getElem?_eq_getElem (h ▸ hi)
    change (v.overlay bytes).toList[k.val]? = bytes[k.val]?
    rw [getElem?_toList, getElem_overlay, hk]
    rfl
  · rw [List.getElem?_eq_none (by omega)]

/-- That the first three registers are the decimal digits of a number. -/
def SpellDecimal (v : Registers) (n : Nat) : Prop :=
  v[(0 : Register)].toNat ≤ 9 ∧ v[(1 : Register)].toNat ≤ 9 ∧ v[(2 : Register)].toNat ≤ 9 ∧
    100 * v[(0 : Register)].toNat + 10 * v[(1 : Register)].toNat + v[(2 : Register)].toNat = n

end Registers

/-- The three digits of a byte are its digits. -/
theorem toNat_decimalDigits (b : UInt8) : ∃ d₀ d₁ d₂, decimalDigits b = [d₀, d₁, d₂] ∧
    d₀.toNat ≤ 9 ∧ d₁.toNat ≤ 9 ∧ d₂.toNat ≤ 9 ∧
    100 * d₀.toNat + 10 * d₁.toNat + d₂.toNat = b.toNat := by
  have hb := b.toNat_lt
  refine ⟨_, _, _, rfl, ?_⟩
  simp only [UInt8.toNat_div, UInt8.toNat_mod, UInt8.reduceToNat]
  omega

/-! ## The three words -/

namespace Engine

variable {σ : Type} {kb : Keyboard σ} {s : σ} {e e' after : Engine} {w : Word} {i : Instruction}
  {x : Register} {flow : Flow}

/-- An instruction that asks for no key is executed as it is performed. -/
theorem execute_of_perform (hi : Instruction.ofWord? w = some i) (hkey : e.keyAsked i = none)
    (h : e.perform false i = .ok (after, flow)) :
    (e.execute kb w.toNat s).result = .ok (after.follow flow) := by
  have hanswer : e.answer kb s i = .ok false := by rw [answer, hkey]
  rw [result_execute_natCast]
  exact executeWord_eq_ok_iff.2 ⟨i, false, after, flow, hi, hanswer, h, rfl⟩

/-- An instruction that asks for no key is refused for its refusal. -/
theorem execute_of_refusal {fault : Fault} (hi : Instruction.ofWord? w = some i)
    (hkey : e.keyAsked i = none) (h : e.refusal i = some fault) :
    (e.execute kb w.toNat s).result = .error (.fault fault) := by
  have hanswer : e.answer kb s i = .ok false := by rw [answer, hkey]
  rw [result_execute_natCast]
  exact executeWord_eq_error_iff.2 (.inr ⟨i, hi, .inr ⟨false, fault, hanswer, h, rfl⟩⟩)

/-- The engine after a block of registers was stored. -/
def stored (e : Engine) (x : Register) : Engine :=
  (e.writeAtIndex (e.registers.block x)).passBlock x

/-- The engine after a block of registers was loaded. -/
def loaded (e : Engine) (x : Register) : Engine :=
  { e with registers := e.registers.overlay (e.bytesAtIndex (x.val + 1)) }.passBlock x

/-- The word `Fx55` writes the block of registers and goes on. -/
theorem execute_storeRegisters (hw : w.hasForm "Fx55")
    (hfits : e.index.toNat + (w.x.val + 1) ≤ memorySize) :
    (e.execute kb w.toNat s).result = .ok ((e.stored w.x).follow .next) :=
  execute_of_perform (i := .storeRegisters w.x) (Instruction.ofWord?_eq_some_iff.2 ⟨hw, rfl⟩) rfl
    (perform_storeRegisters_eq_ok_iff.2 ⟨hfits, rfl, rfl⟩)

/-- The word `Fx65` reads the block of registers and goes on. -/
theorem execute_loadRegisters (hw : w.hasForm "Fx65")
    (hfits : e.index.toNat + (w.x.val + 1) ≤ memorySize) :
    (e.execute kb w.toNat s).result = .ok ((e.loaded w.x).follow .next) :=
  execute_of_perform (i := .loadRegisters w.x) (Instruction.ofWord?_eq_some_iff.2 ⟨hw, rfl⟩) rfl
    (perform_loadRegisters_eq_ok_iff.2 ⟨hfits, rfl, rfl⟩)

/-- The word `Fx33` writes three digits and goes on. -/
theorem execute_storeDecimal (hw : w.hasForm "Fx33") (hfits : e.index.toNat + 3 ≤ memorySize) :
    (e.execute kb w.toNat s).result =
      .ok ((e.writeAtIndex (decimalDigits e.registers[w.x])).follow .next) :=
  execute_of_perform (i := .storeDecimal w.x) (Instruction.ofWord?_eq_some_iff.2 ⟨hw, rfl⟩) rfl
    (perform_storeDecimal_eq_ok_iff.2 ⟨hfits, rfl, rfl⟩)

/-! ## The index behind a block -/

/-- Where the index stands after a block of registers was stored or loaded. -/
def indexAfter (e : Engine) (x : Register) : Nat :=
  if e.config.dialect.loadStoreIncrementsI then e.index.toNat + x.val + 1 else e.index.toNat

theorem indexAfter_congr (hindex : e'.index = e.index) (hconfig : e'.config = e.config) :
    e'.indexAfter x = e.indexAfter x := by
  rw [indexAfter, indexAfter, hindex, hconfig]

@[simp] theorem registers_passBlock : (e.passBlock x).registers = e.registers := by
  unfold passBlock
  split <;> rfl

@[simp] theorem machine_passBlock : (e.passBlock x).machine = e.machine := by
  unfold passBlock
  split <;> rfl

@[simp] theorem config_passBlock : (e.passBlock x).config = e.config := by
  unfold passBlock
  split <;> rfl

/-- The index never comes round: a block that fits ends at 4096 at most. -/
theorem index_passBlock (hfits : e.index.toNat + (x.val + 1) ≤ memorySize) :
    (e.passBlock x).index.toNat = e.indexAfter x := by
  have hsize : memorySize = 4096 := rfl
  unfold passBlock indexAfter
  split
  · change (e.index + UInt16.ofNat (x.val + 1)).toNat = _
    rw [UInt16.toNat_add, UInt16.toNat_ofNat']
    omega
  · rfl

/-- After a store `I` is where the dialect leaves it. -/
theorem index_stored (hfits : e.index.toNat + (x.val + 1) ≤ memorySize) :
    (e.stored x).index.toNat = e.indexAfter x := by
  rw [stored, index_passBlock]
  · exact indexAfter_congr rfl rfl
  · exact hfits

theorem index_loaded (hfits : e.index.toNat + (x.val + 1) ≤ memorySize) :
    (e.loaded x).index.toNat = e.indexAfter x := by
  rw [loaded, index_passBlock]
  · exact indexAfter_congr rfl rfl
  · exact hfits

/-! ## There and back -/

/-- What was written at the index is what lies there. -/
theorem bytesAtIndex_writeAtIndex {bytes : List UInt8}
    (hfits : e.index.toNat + bytes.length ≤ memorySize) :
    (e.writeAtIndex bytes).bytesAtIndex bytes.length = bytes :=
  (Memory.read_eq_ok_iff.1 (Memory.read_overlay hfits)).2

/-- **A block that is stored and loaded again** leaves the registers as they were. -/
theorem registers_loaded_of_stored (hfits : e.index.toNat + (x.val + 1) ≤ memorySize)
    (he' : e' = { (e.stored x).follow .next with index := e.index }) :
    (e'.loaded x).registers = e.registers := by
  have hregisters : e'.registers = e.registers := by simp [he', follow, stored, writeAtIndex]
  have hbytes : e'.bytesAtIndex (x.val + 1) = e.registers.block x := by
    rw [← e.registers.length_block x] at hfits ⊢
    refine Eq.trans ?_ (bytesAtIndex_writeAtIndex hfits)
    simp [he', bytesAtIndex, follow, stored, writeAtIndex]
  rw [loaded, registers_passBlock, hregisters, hbytes, Registers.overlay_block]

/-- **A block that is loaded and stored again** leaves the memory as it was. -/
theorem memory_stored_of_loaded (hfits : e.index.toNat + (x.val + 1) ≤ memorySize)
    (he' : e' = { (e.loaded x).follow .next with index := e.index }) :
    (e'.stored x).machine.memory = e.machine.memory := by
  have hindex : e'.index = e.index := by rw [he']
  have hmachine : e'.machine = e.machine := by simp [he', follow, loaded]
  have hblock : e'.registers.block x = e.bytesAtIndex (x.val + 1) := by
    simp [he', follow, loaded, Registers.block_overlay (length_bytesAtIndex e hfits)]
  rw [stored, machine_passBlock, writeAtIndex, hindex, hmachine, hblock]
  exact Memory.overlay_eq_self_of_read (Memory.read_eq_ok_iff.2 ⟨hfits, rfl⟩)

/-- **Digits that are written and loaded** are in the first three registers. -/
theorem registers_loaded_of_digits {d₀ d₁ d₂ : UInt8} (hfits : e.index.toNat + 3 ≤ memorySize)
    (he' : e' = (e.writeAtIndex [d₀, d₁, d₂]).follow .next) :
    let v := (e'.loaded 2).registers
    v[(0 : Register)] = d₀ ∧ v[(1 : Register)] = d₁ ∧ v[(2 : Register)] = d₂ := by
  have hlength : e.index.toNat + [d₀, d₁, d₂].length ≤ memorySize := hfits
  have hbytes : e'.bytesAtIndex ((2 : Register).val + 1) = [d₀, d₁, d₂] := by
    refine Eq.trans ?_ (bytesAtIndex_writeAtIndex hlength)
    simp [he', bytesAtIndex, follow, writeAtIndex]
  have hloaded : (e'.loaded 2).registers = e'.registers.overlay [d₀, d₁, d₂] := by
    rw [loaded, registers_passBlock, hbytes]
  dsimp only
  rw [hloaded, Registers.getElem_overlay, Registers.getElem_overlay, Registers.getElem_overlay]
  exact ⟨rfl, rfl, rfl⟩

/-! ## Round trips -/

section

variable {store load : Word} {s' : σ}

/-- **A store, then a load** at the place of the store puts the registers back. -/
theorem exists_store_load (hstore : store.hasForm "Fx55") (hload : load.hasForm "Fx65")
    (hx : load.x = store.x) (hfits : e.index.toNat + (store.x.val + 1) ≤ memorySize) :
    ∃ e₁ e₂, (e.execute kb store.toNat s).result = .ok e₁ ∧
      ({ e₁ with index := e.index }.execute kb load.toNat s').result = .ok e₂ ∧
      e₁.index.toNat = e.indexAfter store.x ∧ e₂.index.toNat = e.indexAfter store.x ∧
      e₂.registers = e.registers := by
  have hfirst : (e.execute kb store.toNat s).result = _ := execute_storeRegisters hstore hfits
  rw [← hx] at hfits hfirst ⊢
  let between : Engine := { (e.stored load.x).follow .next with index := e.index }
  have hsecond : (between.execute kb load.toNat s').result = _ := execute_loadRegisters hload hfits
  have hindex : between.indexAfter load.x = e.indexAfter load.x :=
    indexAfter_congr rfl config_passBlock
  exact ⟨_, _, hfirst, hsecond, index_stored hfits,
    (index_loaded (e := between) hfits).trans hindex, registers_loaded_of_stored hfits rfl⟩

/-- **A load, then a store** at the place of the load puts the memory back. -/
theorem exists_load_store (hstore : store.hasForm "Fx55") (hload : load.hasForm "Fx65")
    (hx : load.x = store.x) (hfits : e.index.toNat + (store.x.val + 1) ≤ memorySize) :
    ∃ e₁ e₂, (e.execute kb load.toNat s).result = .ok e₁ ∧
      ({ e₁ with index := e.index }.execute kb store.toNat s').result = .ok e₂ ∧
      e₁.index.toNat = e.indexAfter store.x ∧ e₂.index.toNat = e.indexAfter store.x ∧
      e₂.machine.memory = e.machine.memory := by
  rw [← hx] at hfits
  have hfirst : (e.execute kb load.toNat s).result = _ := execute_loadRegisters hload hfits
  rw [hx] at hfits hfirst
  let between : Engine := { (e.loaded store.x).follow .next with index := e.index }
  have hsecond : (between.execute kb store.toNat s').result = _ :=
    execute_storeRegisters hstore hfits
  have hindex : between.indexAfter store.x = e.indexAfter store.x :=
    indexAfter_congr rfl config_passBlock
  exact ⟨_, _, hfirst, hsecond, index_loaded hfits,
    (index_stored (e := between) hfits).trans hindex, memory_stored_of_loaded hfits rfl⟩

/-- **The digits of a register**, loaded into the first three registers, spell its value. -/
theorem exists_digits_load (hw : w.hasForm "Fx33") (hfits : e.index.toNat + 3 ≤ memorySize) :
    ∃ e₁ e₂, (e.execute kb w.toNat s).result = .ok e₁ ∧ e₁.index = e.index ∧
      (e₁.execute kb 0xF265 s').result = .ok e₂ ∧
      e₂.registers.SpellDecimal e.registers[w.x].toNat ∧
      ∀ a, a < e.index.toNat ∨ e.index.toNat + 3 ≤ a →
        e₂.machine.memory[a]? = e.machine.memory[a]? := by
  obtain ⟨d₀, d₁, d₂, hdigits, hsum⟩ := toNat_decimalDigits e.registers[w.x]
  have hfirst : (e.execute kb w.toNat s).result = _ := execute_storeDecimal hw hfits
  rw [hdigits] at hfirst
  let between : Engine := (e.writeAtIndex [d₀, d₁, d₂]).follow .next
  have hload : (0xF265 : Word).hasForm "Fx65" := by decide
  have hsecond : (between.execute kb (0xF265 : Word).toNat s').result = _ :=
    execute_loadRegisters hload hfits
  have hbetween : between = (e.writeAtIndex [d₀, d₁, d₂]).follow .next := rfl
  obtain ⟨h₀, h₁, h₂⟩ := registers_loaded_of_digits hfits hbetween
  refine ⟨_, _, hfirst, rfl, hsecond, ?_, fun a ha => ?_⟩
  · change (between.loaded 2).registers.SpellDecimal _
    rw [Registers.SpellDecimal, h₀, h₁, h₂]
    exact hsum
  · have hmachine : (between.loaded 2).machine = between.machine := machine_passBlock
    change (between.loaded 2).machine.memory[a]? = _
    rw [hmachine]
    exact Memory.getElem?_overlay_of_outside ha

end

/-- A block that passes the end of memory is refused, whether it is stored or loaded. -/
theorem execute_of_long_block (hw : w.hasFormIn ["Fx55", "Fx65"])
    (hlong : memorySize < e.index.toNat + (w.x.val + 1)) :
    (e.execute kb w.toNat s).result =
      .error (.fault (.outOfBounds e.index.toNat (w.x.val + 1 : Nat))) := by
  have hfault : e.blockFault (w.x.val + 1) =
      some (.outOfBounds e.index.toNat (w.x.val + 1 : Nat)) := if_pos hlong
  obtain ⟨f, hf, hw⟩ := List.any_eq_true.1 hw
  obtain rfl | rfl : f = "Fx55" ∨ f = "Fx65" := by simpa using hf
  · exact execute_of_refusal (i := .storeRegisters w.x)
      (Instruction.ofWord?_eq_some_iff.2 ⟨hw, rfl⟩) rfl hfault
  · exact execute_of_refusal (i := .loadRegisters w.x)
      (Instruction.ofWord?_eq_some_iff.2 ⟨hw, rfl⟩) rfl hfault

/-- **Blocks make round trips.**  A block of registers that does not pass the end of memory is
stored and loaded; if the index is set back in between, storing and then loading leaves all
registers as they were, and loading and then storing leaves all of memory.  Each moves the index
behind the block, if the dialect asks for that, and otherwise not at all.  A block that passes the
end is refused both ways.  The digits that are written of a register are loaded as the three digits
of its byte, and no cell but theirs changes. -/
theorem blocks_make_round_trips (kb : Keyboard σ) (s s' : σ) (e : Engine) :
    (∀ store load : Word, store.hasForm "Fx55" → load.hasForm "Fx65" → load.x = store.x →
      e.index.toNat + store.x + 1 ≤ 4096 →
        (∃ e₁ e₂, (e.execute kb store.toNat s).result = .ok e₁ ∧
          ({ e₁ with index := e.index }.execute kb load.toNat s').result = .ok e₂ ∧
          e₁.index.toNat = e.indexAfter store.x ∧ e₂.index.toNat = e.indexAfter store.x ∧
          e₂.registers = e.registers) ∧
        ∃ e₁ e₂, (e.execute kb load.toNat s).result = .ok e₁ ∧
          ({ e₁ with index := e.index }.execute kb store.toNat s').result = .ok e₂ ∧
          e₁.index.toNat = e.indexAfter store.x ∧ e₂.index.toNat = e.indexAfter store.x ∧
          e₂.machine.memory = e.machine.memory) ∧
    (∀ w : Word, w.hasForm "Fx33" → e.index.toNat + 3 ≤ 4096 →
      ∃ e₁ e₂, (e.execute kb w.toNat s).result = .ok e₁ ∧ e₁.index = e.index ∧
        (e₁.execute kb 0xF265 s').result = .ok e₂ ∧
        e₂.registers.SpellDecimal e.registers[w.x].toNat ∧
        ∀ a, a < e.index.toNat ∨ e.index.toNat + 3 ≤ a →
          e₂.machine.memory[a]? = e.machine.memory[a]?) ∧
    ∀ w : Word, w.hasFormIn ["Fx55", "Fx65"] → 4096 < e.index.toNat + w.x + 1 →
      (e.execute kb w.toNat s).result =
        .error (.fault (.outOfBounds e.index.toNat (w.x + 1 : Nat))) :=
  ⟨fun _ _ hstore hload hx hfits =>
    ⟨exists_store_load hstore hload hx hfits, exists_load_store hstore hload hx hfits⟩,
    fun _ hw hfits => exists_digits_load hw hfits, fun _ hw hlong => execute_of_long_block hw hlong⟩

/-- All registers, up to the last cell and one cell further; a byte above it in decimal digits. -/
theorem blocks_make_round_trips_of_last_cell :
    let e : Engine := {
      index := 0xFF0, registers := Registers.put (.replicate 16 0) 1 0xFF
      config.dialect.loadStoreIncrementsI := true }
    let beyond : Engine := { e with index := 0xFF1 }
    (∃ e₁ e₂, (e.execute HeldKey.keyboard 0xFF55 { key := none }).result = .ok e₁ ∧
      ({ e₁ with index := e.index }.execute HeldKey.keyboard 0xFF65 { key := none }).result =
        .ok e₂ ∧
      e₁.index.toNat = 4096 ∧ e₂.registers = e.registers) ∧
    (∃ e₁ e₂, (e.execute HeldKey.keyboard 0xF133 { key := none }).result = .ok e₁ ∧
      (e₁.execute HeldKey.keyboard 0xF265 { key := none }).result = .ok e₂ ∧
      e₂.registers.SpellDecimal 255) ∧
    (beyond.execute HeldKey.keyboard 0xFF55 { key := none }).result =
      .error (.fault (.outOfBounds 0xFF1 16)) := by
  intro e beyond
  have hload : Word.hasForm 0xFF65 "Fx65" := by decide
  obtain ⟨htrips, hdigits, _⟩ :=
    blocks_make_round_trips HeldKey.keyboard { key := none } { key := none } e
  obtain ⟨⟨e₁, e₂, hstored, hloaded, hindex, _, hregisters⟩, _⟩ :=
    htrips 0xFF55 0xFF65 (by decide) hload rfl (by decide)
  obtain ⟨d₁, d₂, hwritten, _, hread, hspell, _⟩ := hdigits 0xF133 (by decide) (by decide)
  obtain ⟨_, _, hlong⟩ :=
    blocks_make_round_trips HeldKey.keyboard { key := none } { key := none } beyond
  exact ⟨⟨e₁, e₂, hstored, hloaded, hindex, hregisters⟩, ⟨d₁, d₂, hwritten, hread, hspell⟩,
    hlong 0xFF55 (by decide) (by decide)⟩

end Engine

end Chip8
