import Chip8.Proofs.Execution

/-!
# Proofs/Writes — which parts of the engine an instruction writes to

The state of an engine falls into components (`Location`): each memory cell and each register for
itself, the call stack, the picture, and so on.  `Engine.writes` lists the components that an
instruction writes to, and `executeWord_same` says that all others are the same afterwards.

The lemmas before it follow `Engine.perform`: each of its building blocks — `setRegister`,
`writeAtIndex`, `passBlock`, `drawSprite` — leaves the rest as it is.
-/

namespace Chip8

/-- A component of the engine's state.  The program counter is not among them: every instruction
moves it. -/
inductive Location
  | cell (address : Nat)
  | register (x : Register)
  | stack
  | picture
  | dirty
  | index
  | delay
  | sound
  | accumulator
  | random
  | waiting
  | keyRegister
  | halted
  | config
  deriving DecidableEq, Repr

namespace Location

variable {e e' e'' : Engine} {p : Location}

/-- That two engines agree on a component. -/
def Same (e e' : Engine) : Location → Prop
  | cell a => e'.machine.memory[a]? = e.machine.memory[a]?
  | register x => e'.registers[x] = e.registers[x]
  | stack => e'.machine.stack = e.machine.stack
  | picture => e'.machine.picture = e.machine.picture
  | dirty => e'.machine.dirty = e.machine.dirty
  | index => e'.index = e.index
  | delay => e'.timers.delay = e.timers.delay
  | sound => e'.timers.sound = e.timers.sound
  | accumulator => e'.timers.accumulator = e.timers.accumulator
  | random => e'.random = e.random
  | waiting => e'.waiting = e.waiting
  | keyRegister => e'.keyRegister = e.keyRegister
  | halted => e'.halted = e.halted
  | config => e'.config = e.config

theorem Same.refl (e : Engine) (p : Location) : p.Same e e := by
  cases p <;> rfl

theorem Same.trans (h : p.Same e e') (h' : p.Same e' e'') : p.Same e e'' := by
  cases p <;> exact Eq.trans h' h

/-- The cells of a block. -/
def block (start length : Nat) : List Location := (List.range' start length).map cell

/-- A block has the cells of its range. -/
@[simp] theorem mem_block {start length : Nat} :
    p ∈ block start length ↔ ∃ a, p = cell a ∧ start ≤ a ∧ a < start + length := by
  simp [block, List.mem_range'_1]
  grind

end Location

/-! ## Registers -/

/-- Whether an operation has a flag. -/
def Operation.setsFlag : Operation → Bool
  | copy | or | and | xor => false
  | _ => true

/-- An operation that gives a flag is one that sets it. -/
theorem Operation.setsFlag_of_apply {op : Operation} {a b result flag : UInt8}
    (h : op.apply a b = (result, some flag)) : op.setsFlag := by
  cases op <;> first | rfl | cases h

namespace Registers

variable {v : Registers} {d : Dialect} {op : Operation} {x y k : Register} {bytes : List UInt8}

theorem getElem_put_of_ne (hk : k ≠ x) (byte : UInt8) : (v.put x byte)[k] = v[k] := by
  rw [getElem_put, if_neg hk]

/-- An operation leaves all registers but its target, and the flag if it sets one. -/
theorem getElem_operate_of_ne (hx : k ≠ x) (hf : op.setsFlag → k ≠ flagRegister) :
    (v.operate d op x y)[k] = v[k] := by
  unfold operate
  dsimp only
  split
  · exact getElem_put_of_ne hx _
  · next result flag h =>
    have hf := hf (Operation.setsFlag_of_apply h)
    split
    · rw [getElem_put_of_ne hx, getElem_put_of_ne hf]
    · rw [getElem_put_of_ne hf, getElem_put_of_ne hx]

/-- A block that is loaded goes to the registers from the first on. -/
theorem getElem_overlay (v : Registers) (bytes : List UInt8) (k : Register) :
    (v.overlay bytes)[k] = bytes[k.val]?.getD v[k] :=
  Vector.getElem_ofFn k.isLt

theorem getElem_overlay_of_le (hk : bytes.length ≤ k.val) : (v.overlay bytes)[k] = v[k] := by
  rw [getElem_overlay, List.getElem?_eq_none hk, Option.getD_none]

end Registers

namespace Engine

variable {σ : Type} {kb : Keyboard σ} {s : σ} {e e' : Engine} {w : Word} {i : Instruction}
  {pressed : Bool} {flow : Flow} {p : Location} {x : Register}

/-! ## What is written to -/

/-- The index, where instructions on blocks of registers move it. -/
def movedIndex (e : Engine) : List Location :=
  if e.config.dialect.loadStoreIncrementsI then [.index] else []

/-- The components that an instruction writes to, whatever it writes there. -/
def writes (e : Engine) : Instruction → List Location
  | .halt => [.halted]
  | .clear => [.picture, .dirty]
  | .ret | .call _ => [.stack]
  | .setByte x _ | .addByte x _ | .readDelay x => [.register x]
  | .operate op x _ => .register x :: if op.setsFlag then [.register flagRegister] else []
  | .setIndex _ | .addIndex _ | .findGlyph _ => [.index]
  | .random x _ => [.register x, .random]
  | .draw _ _ _ => [.register flagRegister, .picture, .dirty]
  | .waitForKey _ => [.waiting, .keyRegister]
  | .setDelay _ => [.delay]
  | .setSound _ => [.sound]
  | .storeDecimal _ => Location.block e.index.toNat 3
  | .storeRegisters x => Location.block e.index.toNat (x.val + 1) ++ e.movedIndex
  | .loadRegisters x => ((List.finRange 16).filter (· ≤ x)).map .register ++ e.movedIndex
  | _ => []

/-! Which instructions write to a component, for the components that few instructions write to. -/

/-- Calls and returns write the stack. -/
theorem stack_mem_writes : .stack ∈ e.writes i ↔ i = .ret ∨ ∃ target, i = .call target := by
  cases i with
  | operate op x y => cases op <;> simp [writes, Operation.setsFlag]
  | _ => simp [writes, movedIndex]

/-- One instruction writes the register of the wait. -/
theorem keyRegister_mem_writes : .keyRegister ∈ e.writes i ↔ ∃ x, i = .waitForKey x := by
  cases i with
  | operate op x y => cases op <;> simp [writes, Operation.setsFlag]
  | _ => simp [writes, movedIndex]

/-- One instruction halts the engine. -/
theorem halted_mem_writes : .halted ∈ e.writes i ↔ i = .halt := by
  cases i with
  | operate op x y => cases op <;> simp [writes, Operation.setsFlag]
  | _ => simp [writes, movedIndex]

/-! ## Nothing else is written to -/

theorem same_setRegister (hp : p ≠ .register x) (byte : UInt8) :
    p.Same e (e.setRegister x byte) := by
  cases p with
  | register k => exact Registers.getElem_put_of_ne (fun h => hp (congrArg _ h)) byte
  | _ => rfl

/-- Bytes that are written leave all but their cells. -/
theorem same_writeAtIndex {bytes : List UInt8}
    (hp : p ∉ Location.block e.index.toNat bytes.length) : p.Same e (e.writeAtIndex bytes) := by
  cases p with
  | cell a =>
    have ha : ¬ (e.index.toNat ≤ a ∧ a < e.index.toNat + bytes.length) :=
      fun ha => hp (Location.mem_block.2 ⟨a, rfl, ha⟩)
    exact Memory.getElem?_overlay_of_outside (by omega)
  | _ => rfl

/-- Passing a block moves the index, and only in the dialects that move it. -/
theorem same_passBlock (hp : p ∉ e.movedIndex) : p.Same e (e.passBlock x) := by
  unfold passBlock
  split
  · next h =>
    cases p with
    | index => exact absurd (by simp [movedIndex, h]) hp
    | _ => rfl
  · cases p <;> rfl

/-- As many bytes are read as asked for, if they end inside the memory. -/
theorem length_bytesAtIndex (e : Engine) {n : Nat} (h : e.index.toNat + n ≤ memorySize) :
    (e.bytesAtIndex n).length = n := by
  rw [bytesAtIndex, List.length_take, List.length_drop, Vector.length_toList]
  omega

/-- A sprite changes the screen, its mark and the flag. -/
theorem same_drawSprite {y : Register} {sprite : Sprite}
    (hp : p ∉ [.register flagRegister, .picture, .dirty]) :
    p.Same e (e.drawSprite x y sprite) := by
  simp only [List.mem_cons, List.not_mem_nil, or_false, not_or] at hp
  obtain ⟨hflag, hpicture, hdirty⟩ := hp
  refine Location.Same.trans ?_ (same_setRegister hflag _)
  cases p with
  | picture => exact absurd rfl hpicture
  | dirty => exact absurd rfl hdirty
  | _ => rfl

/-- **An instruction writes to nothing else**: a component that is not among its `writes` is the
same after it. -/
theorem perform_same (h : e.perform pressed i = .ok (e', flow)) (hp : p ∉ e.writes i) :
    p.Same e e' := by
  cases i with
  | halt | jump _ | skipIfByte _ _ | skipUnlessByte _ _ | skipIfSame _ _ | skipUnlessSame _ _
  | jumpFrom _ _ | skipIfPressed _ | skipUnlessPressed _ =>
    cases h
    exact Location.Same.refl e p
  | setByte x _ | addByte x _ | readDelay x =>
    cases h
    exact same_setRegister (by simpa [writes] using hp) _
  | setIndex _ | addIndex _ | findGlyph _ =>
    cases h
    cases p with
    | index => exact absurd (by simp [writes]) hp
    | _ => rfl
  | setDelay _ =>
    cases h
    cases p with
    | delay => exact absurd (by simp [writes]) hp
    | _ => rfl
  | setSound _ =>
    cases h
    cases p with
    | sound => exact absurd (by simp [writes]) hp
    | _ => rfl
  | waitForKey _ =>
    cases h
    cases p with
    | waiting | keyRegister => exact absurd (by simp [writes]) hp
    | _ => rfl
  | clear =>
    cases h
    cases p with
    | picture | dirty => exact absurd (by simp [writes]) hp
    | _ => rfl
  | ret =>
    obtain ⟨stack, frame, _, rfl, _⟩ := perform_ret_eq_ok_iff.1 h
    cases p with
    | stack => exact absurd (by simp [writes]) hp
    | _ => rfl
  | call _ =>
    obtain ⟨stack, _, rfl, _⟩ := perform_call_eq_ok_iff.1 h
    cases p with
    | stack => exact absurd (by simp [writes]) hp
    | _ => rfl
  | operate op x y =>
    cases h
    cases p with
    | register k =>
      refine Registers.getElem_operate_of_ne (fun hk => hp ?_) (fun hop hk => hp ?_)
      · simp [writes, hk]
      · simp [writes, hop, hk]
    | _ => rfl
  | random x mask =>
    cases h
    have hx : p ≠ .register x := fun h => hp (by simp [writes, h])
    refine (same_setRegister hx (e.random.byte &&& mask)).trans ?_
    cases p with
    | random => exact absurd (by simp [writes]) hp
    | _ => rfl
  | draw x y height =>
    obtain ⟨_, rfl, _⟩ := perform_draw_eq_ok_iff.1 h
    exact same_drawSprite hp
  | storeDecimal x =>
    obtain ⟨_, rfl, _⟩ := perform_storeDecimal_eq_ok_iff.1 h
    exact same_writeAtIndex hp
  | storeRegisters x =>
    obtain ⟨_, rfl, _⟩ := perform_storeRegisters_eq_ok_iff.1 h
    obtain ⟨hblock, hindex⟩ := not_or.1 (fun h => hp (List.mem_append.2 h))
    rw [← Registers.length_block e.registers x] at hblock
    exact (same_writeAtIndex hblock).trans (same_passBlock hindex)
  | loadRegisters x =>
    obtain ⟨hfits, rfl, _⟩ := perform_loadRegisters_eq_ok_iff.1 h
    obtain ⟨hblock, hindex⟩ := not_or.1 (fun h => hp (List.mem_append.2 h))
    refine Location.Same.trans ?_ (same_passBlock hindex)
    cases p with
    | register k =>
      refine Registers.getElem_overlay_of_le ?_
      have hlength := e.length_bytesAtIndex hfits
      have hk : ¬ k.val ≤ x.val := fun hk => hblock (List.mem_map.2
        ⟨k, List.mem_filter.2 ⟨List.mem_finRange k, decide_eq_true hk⟩, rfl⟩)
      omega
    | _ => rfl

/-- Following a flow moves the program counter, and halts if the flow is to halt. -/
theorem same_follow (hp : p = .halted → flow ≠ .halt) : p.Same e (e.follow flow) := by
  cases flow with
  | halt =>
    cases p with
    | halted => exact absurd rfl (hp rfl)
    | _ => rfl
  | _ => cases p <;> rfl

/-- **A word writes to nothing else** than its instruction. -/
theorem executeWord_same (h : (e.executeWord kb w s).result = .ok e')
    (hi : Instruction.ofWord? w = some i) (hp : p ∉ e.writes i) : p.Same e e' := by
  obtain ⟨j, pressed, after, flow, hj, _, hperform, rfl⟩ := executeWord_eq_ok_iff.1 h
  obtain rfl := Option.some.inj (hi.symm.trans hj)
  refine (perform_same hperform hp).trans (same_follow fun hhalted hflow => hp ?_)
  obtain rfl := flowOf_eq_halt_iff.1 ((flow_of_perform hperform).symm.trans hflow)
  simp [writes, hhalted]

end Engine

end Chip8
