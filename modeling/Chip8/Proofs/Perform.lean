import Chip8.Engine.Perform
import Chip8.Proofs.Access

/-!
# Proofs/Perform — the instructions that can be refused

Six instructions ask the machine for something it may not have: a frame to return to, room for one
more frame, cells of memory.  All others always succeed.  `Engine.refusal` says what an instruction
is refused for, without performing it, and `Engine.perform_eq_error_iff` that it is refused for
nothing else; the lemmas before it give each of the six by its one outcome when it succeeds.
-/

namespace Chip8

theorem Registers.length_block (v : Registers) (x : Register) : (v.block x).length = x.val + 1 := by
  rw [block, List.length_take, Vector.length_toList]
  omega

namespace Engine

variable {e e' : Engine} {pressed : Bool} {flow : Flow} {x y : Register}

/-- The bytes from the index on. -/
def bytesAtIndex (e : Engine) (n : Nat) : List UInt8 :=
  (e.machine.memory.toList.drop e.index.toNat).take n

/-- The engine with bytes written from the index on. -/
def writeAtIndex (e : Engine) (bytes : List UInt8) : Engine :=
  { e with machine.memory := e.machine.memory.overlay e.index.toNat bytes }

/-- The engine with a sprite drawn and the collision, if there is one, noted. -/
def drawSprite (e : Engine) (x y : Register) (sprite : Sprite) : Engine :=
  let drawn := e.machine.draw e.registers[x].toNat e.registers[y].toNat sprite
  { e with machine := drawn.1 }.setRegister flagRegister
    (e.registers[flagRegister] ||| flagOf drawn.2)

theorem pc_passBlock (e : Engine) (x : Register) : (e.passBlock x).pc = e.pc := by
  unfold passBlock
  split <;> rfl

/-! ## What they do when they succeed -/

/-- A return takes a frame off the stack and goes on behind it. -/
theorem perform_ret_eq_ok_iff : e.perform pressed .ret = .ok (e', flow) ↔
    ∃ stack frame, e.machine.stack.pop = .ok (stack, frame) ∧
      { e with machine.stack := stack, pc := frame } = e' ∧ .next = flow := by
  simp only [perform, Except.bind_eq_ok_iff, Prod.exists, Machine.pop_eq_ok_iff, pure, Except.pure,
    Except.ok.injEq, Prod.mk.injEq]
  grind

/-- A call pushes where it was made from, and jumps. -/
theorem perform_call_eq_ok_iff {target : Address} :
    e.perform pressed (.call target) = .ok (e', flow) ↔
      ∃ stack, e.machine.stack.push e.pc.toNat = .ok stack ∧
        { e with machine.stack := stack } = e' ∧ .jump target.val = flow := by
  simp only [perform, Except.bind_eq_ok_iff, Machine.push_eq_ok_iff, pure, Except.pure,
    Except.ok.injEq, Prod.mk.injEq]
  grind

/-- A draw reads its sprite from the index on, if it ends inside the memory. -/
theorem perform_draw_eq_ok_iff {height : Fin 16} :
    e.perform pressed (.draw x y height) = .ok (e', flow) ↔
      e.index.toNat + height.val ≤ memorySize ∧
        e.drawSprite x y (e.bytesAtIndex height.val) = e' ∧ .next = flow := by
  simp only [perform, Except.bind_eq_ok_iff, Machine.read_eq_ok_iff, pure, Except.pure,
    Except.ok.injEq, Prod.mk.injEq, and_assoc, exists_and_left, exists_eq_left', drawSprite,
    bytesAtIndex]

/-- The digits of a register are written, if they end inside the memory. -/
theorem perform_storeDecimal_eq_ok_iff :
    e.perform pressed (.storeDecimal x) = .ok (e', flow) ↔
      e.index.toNat + 3 ≤ memorySize ∧
        e.writeAtIndex (decimalDigits e.registers[x]) = e' ∧ .next = flow := by
  simp only [perform, Except.bind_eq_ok_iff, Machine.write_eq_ok_iff, pure, Except.pure,
    Except.ok.injEq, Prod.mk.injEq, and_assoc, exists_and_left, exists_eq_left', writeAtIndex]
  rfl

theorem perform_storeRegisters_eq_ok_iff :
    e.perform pressed (.storeRegisters x) = .ok (e', flow) ↔
      e.index.toNat + (x.val + 1) ≤ memorySize ∧
        (e.writeAtIndex (e.registers.block x)).passBlock x = e' ∧ .next = flow := by
  simp only [perform, Except.bind_eq_ok_iff, Machine.write_eq_ok_iff, Registers.length_block, pure,
    Except.pure, Except.ok.injEq, Prod.mk.injEq, and_assoc, exists_and_left, exists_eq_left',
    writeAtIndex]

theorem perform_loadRegisters_eq_ok_iff :
    e.perform pressed (.loadRegisters x) = .ok (e', flow) ↔
      e.index.toNat + (x.val + 1) ≤ memorySize ∧
        { e with registers := e.registers.overlay (e.bytesAtIndex (x.val + 1)) }.passBlock x = e' ∧
        .next = flow := by
  simp only [perform, Except.bind_eq_ok_iff, Machine.read_eq_ok_iff, pure, Except.pure,
    Except.ok.injEq, Prod.mk.injEq, and_assoc, exists_and_left, exists_eq_left', bytesAtIndex]

/-! ## Where the program counter goes -/

/-- The flow of an instruction. -/
def flowOf (e : Engine) (pressed : Bool) : Instruction → Flow
  | .halt => .halt
  | .jump target | .call target => .jump target.val
  | .jumpFrom x target =>
    let register := if e.config.dialect.jumpUsesVx then x else 0
    .jump (target.val + e.registers[register].toNat)
  | .skipIfByte x byte => .skipIf (e.registers[x] == byte)
  | .skipUnlessByte x byte => .skipIf (e.registers[x] != byte)
  | .skipIfSame x y => .skipIf (e.registers[x] == e.registers[y])
  | .skipUnlessSame x y => .skipIf (e.registers[x] != e.registers[y])
  | .skipIfPressed _ => .skipIf pressed
  | .skipUnlessPressed _ => .skipIf !pressed
  | _ => .next

/-- An instruction that is performed has its flow, and only a return moves the program counter by
itself. -/
theorem flow_eq_and_pc_eq {i : Instruction} (h : e.perform pressed i = .ok (e', flow)) :
    flow = e.flowOf pressed i ∧ (i ≠ .ret → e'.pc = e.pc) := by
  cases i with
  | ret =>
    obtain ⟨_, _, _, _, rfl⟩ := perform_ret_eq_ok_iff.1 h
    exact ⟨rfl, fun hi => absurd rfl hi⟩
  | call target =>
    obtain ⟨_, _, rfl, rfl⟩ := perform_call_eq_ok_iff.1 h
    exact ⟨rfl, fun _ => rfl⟩
  | draw x y height =>
    obtain ⟨_, rfl, rfl⟩ := perform_draw_eq_ok_iff.1 h
    exact ⟨rfl, fun _ => rfl⟩
  | storeDecimal x =>
    obtain ⟨_, rfl, rfl⟩ := perform_storeDecimal_eq_ok_iff.1 h
    exact ⟨rfl, fun _ => rfl⟩
  | storeRegisters x =>
    obtain ⟨_, rfl, rfl⟩ := perform_storeRegisters_eq_ok_iff.1 h
    exact ⟨rfl, fun _ => pc_passBlock _ x⟩
  | loadRegisters x =>
    obtain ⟨_, rfl, rfl⟩ := perform_loadRegisters_eq_ok_iff.1 h
    exact ⟨rfl, fun _ => pc_passBlock _ x⟩
  | _ =>
    cases h
    exact ⟨rfl, fun _ => rfl⟩

/-- The flow of an instruction is known before it is performed. -/
theorem flow_of_perform {i : Instruction} (h : e.perform pressed i = .ok (e', flow)) :
    flow = e.flowOf pressed i := (flow_eq_and_pc_eq h).1

/-- Only a return touches the program counter before the engine follows the flow. -/
theorem pc_of_perform {i : Instruction} (h : e.perform pressed i = .ok (e', flow))
    (hi : i ≠ .ret) : e'.pc = e.pc := (flow_eq_and_pc_eq h).2 hi

/-- One instruction halts. -/
theorem flowOf_eq_halt_iff {i : Instruction} : e.flowOf pressed i = .halt ↔ i = .halt := by
  have hskip (condition : Bool) : Flow.skipIf condition ≠ .halt := by
    cases condition <;> simp [Flow.skipIf]
  cases i <;> simp [flowOf, hskip]

/-- A jump goes to an address, or to a byte beyond one. -/
theorem flowOf_eq_jump {i : Instruction} {target : Int} (h : e.flowOf pressed i = .jump target) :
    0 ≤ target ∧ target ≤ 0xFFF + 0xFF := by
  have hskip (condition : Bool) : Flow.skipIf condition ≠ .jump target := by
    cases condition <;> simp [Flow.skipIf]
  cases i with
  | jump address | call address =>
    obtain rfl := Flow.jump.inj h
    omega
  | jumpFrom x address =>
    obtain rfl := Flow.jump.inj h
    have hbyte := e.registers[if e.config.dialect.jumpUsesVx then x else 0].toNat_lt
    omega
  | _ => first | cases h | exact absurd h (hskip _)

/-! ## What they are refused for -/

/-- The fault of a block of cells at the index, if it passes the end of memory. -/
def blockFault (e : Engine) (length : Nat) : Option Fault :=
  if memorySize < e.index.toNat + length then some (.outOfBounds e.index.toNat length) else none

/-- What an instruction is refused for. -/
def refusal (e : Engine) : Instruction → Option Fault
  | .ret => if e.machine.stack.depth = 0 then some .stackUnderflow else none
  | .call _ =>
    if stackDepth ≤ e.machine.stack.depth then some (.stackOverflow e.pc.toNat) else none
  | .draw _ _ height => e.blockFault height.val
  | .storeDecimal _ => e.blockFault 3
  | .storeRegisters x | .loadRegisters x => e.blockFault (x.val + 1)
  | _ => none

/-- **An instruction is refused for its `refusal`** and for nothing else. -/
theorem perform_eq_error_iff {i : Instruction} {fault : Fault} :
    e.perform pressed i = .error fault ↔ e.refusal i = some fault := by
  cases i with
  | ret =>
    refine (Except.bind_pure_eq_error_iff.trans Machine.pop_eq_error_iff).trans ?_
    simp [refusal]
  | call target =>
    refine (Except.bind_pure_eq_error_iff.trans Machine.push_eq_error_iff).trans ?_
    simp [refusal]
  | draw x y height =>
    refine (Except.bind_pure_eq_error_iff.trans Machine.read_eq_error_iff).trans ?_
    simp [refusal, blockFault]
  | storeDecimal x =>
    refine (Except.bind_pure_eq_error_iff.trans Machine.write_eq_error_iff).trans ?_
    simp [refusal, blockFault, decimalDigits]
  | storeRegisters x =>
    refine (Except.bind_pure_eq_error_iff.trans Machine.write_eq_error_iff).trans ?_
    simp [refusal, blockFault, Registers.length_block]
  | loadRegisters x =>
    refine (Except.bind_pure_eq_error_iff.trans Machine.read_eq_error_iff).trans ?_
    simp [refusal, blockFault]
  | _ => simp [perform, refusal]

end Engine

end Chip8
