import Chip8.Engine.Basic
import Chip8.Instruction

/-!
# Engine/Perform — what each instruction does

`Engine.perform` gives the engine after an instruction, all but the program counter, together with
the `Flow` that moves the counter.  It needs to know whether the key that the instruction asks for
(`Instruction.keyAsked`) is down; nothing else comes from outside.  The flag register `VF` takes
carries, borrows, shifted bits and collisions, and when it is also the target of an operation the
order of the two writes decides.
-/

namespace Chip8

/-- The register that takes flags. -/
def flagRegister : Register := 15

/-- A truth value as a flag. -/
def flagOf (b : Bool) : UInt8 := if b then 1 else 0

namespace Operation

/-- The result of an operation on two bytes, and its flag if it has one. -/
def apply : Operation → UInt8 → UInt8 → UInt8 × Option UInt8
  | copy, _, b => (b, none)
  | or, a, b => (a ||| b, none)
  | and, a, b => (a &&& b, none)
  | xor, a, b => (a ^^^ b, none)
  | add, a, b => (a + b, some (flagOf (255 < a.toNat + b.toNat)))
  | subtract, a, b => (a - b, some (flagOf (b < a)))
  | shiftRight, a, _ => (a >>> 1, some (a &&& 1))
  | subtractFrom, a, b => (b - a, some (flagOf (a < b)))
  | shiftLeft, a, _ => (a <<< 1, some (a >>> 7))

/-- Whether an operation moves the bits of a single operand. -/
def isShift : Operation → Bool
  | shiftRight | shiftLeft => true
  | _ => false

/-- Whether the flag is written before the result. -/
def flagFirst : Operation → Bool
  | subtract | shiftRight | subtractFrom | shiftLeft => true
  | _ => false

end Operation

namespace Registers

/-- The registers after an operation on `Vx` and `Vy`. -/
def operate (v : Registers) (d : Dialect) (op : Operation) (x y : Register) : Registers :=
  let a := if op.isShift && d.shiftUsesVy then v[y] else v[x]
  match op.apply a v[y] with
  | (result, none) => v.put x result
  | (result, some flag) =>
    if op.flagFirst then (v.put flagRegister flag).put x result
    else (v.put x result).put flagRegister flag

/-- The registers from `V0` to `Vx`. -/
def block (v : Registers) (x : Register) : List UInt8 := v.toList.take (x.val + 1)

/-- The registers with bytes laid over them from `V0` on. -/
def overlay (v : Registers) (bytes : List UInt8) : Registers :=
  .ofFn fun i => bytes[i.val]?.getD v[i]

end Registers

/-- The three decimal digits of a byte. -/
def decimalDigits (b : UInt8) : List UInt8 := [b / 100, b / 10 % 10, b % 10]

namespace Engine

/-- The engine with a byte in a register. -/
def setRegister (e : Engine) (x : Register) (byte : UInt8) : Engine :=
  { e with registers := e.registers.put x byte }

/-- The engine with the index moved behind a block of registers, if its dialect asks for that. -/
def passBlock (e : Engine) (x : Register) : Engine :=
  if e.config.dialect.loadStoreIncrementsI then
    { e with index := e.index + UInt16.ofNat (x.val + 1) }
  else e

/-- The key that an instruction asks for. -/
def keyAsked (e : Engine) : Instruction → Option Int
  | .skipIfPressed x | .skipUnlessPressed x => some (e.registers[x].toNat % 16 : Nat)
  | _ => none

/-- The engine after an instruction, and where its program counter goes from there; `pressed` tells
whether the key asked for is down. -/
def perform (e : Engine) (pressed : Bool) : Instruction → Except Fault (Engine × Flow)
  | .halt => .ok (e, .halt)
  | .clear => .ok ({ e with machine := e.machine.clear }, .next)
  | .ret => do
    let (machine, frame) ← e.machine.pop
    return ({ e with machine, pc := frame }, .next)
  | .jump target => .ok (e, .jump target.val)
  | .call target => do
    let machine ← e.machine.push e.pc.toNat
    return ({ e with machine }, .jump target.val)
  | .skipIfByte x byte => .ok (e, .skipIf (e.registers[x] == byte))
  | .skipUnlessByte x byte => .ok (e, .skipIf (e.registers[x] != byte))
  | .skipIfSame x y => .ok (e, .skipIf (e.registers[x] == e.registers[y]))
  | .setByte x byte => .ok (e.setRegister x byte, .next)
  | .addByte x byte => .ok (e.setRegister x (e.registers[x] + byte), .next)
  | .operate op x y =>
    .ok ({ e with registers := e.registers.operate e.config.dialect op x y }, .next)
  | .skipUnlessSame x y => .ok (e, .skipIf (e.registers[x] != e.registers[y]))
  | .setIndex target => .ok ({ e with index := UInt16.ofNat target.val }, .next)
  | .jumpFrom x target =>
    let register := if e.config.dialect.jumpUsesVx then x else 0
    .ok (e, .jump (target.val + e.registers[register].toNat))
  | .random x mask =>
    .ok ({ e.setRegister x (e.random.byte &&& mask) with random := e.random.next }, .next)
  | .draw x y height => do
    let sprite ← e.machine.read e.index.toNat height.val
    let (machine, hit) := e.machine.draw e.registers[x].toNat e.registers[y].toNat sprite
    let flag := e.registers[flagRegister] ||| flagOf hit
    return ({ e with machine }.setRegister flagRegister flag, .next)
  | .skipIfPressed _ => .ok (e, .skipIf pressed)
  | .skipUnlessPressed _ => .ok (e, .skipIf !pressed)
  | .readDelay x => .ok (e.setRegister x e.timers.delay, .next)
  | .waitForKey x => .ok ({ e with waiting := true, keyRegister := x.val }, .next)
  | .setDelay x => .ok ({ e with timers := { e.timers with delay := e.registers[x] } }, .next)
  | .setSound x => .ok ({ e with timers := { e.timers with sound := e.registers[x] } }, .next)
  | .addIndex x => .ok ({ e with index := e.index + e.registers[x].toUInt16 }, .next)
  | .findGlyph x => .ok ({ e with index := 5 * e.registers[x].toUInt16 }, .next)
  | .storeDecimal x => do
    let machine ← e.machine.write e.index.toNat (decimalDigits e.registers[x])
    return ({ e with machine }, .next)
  | .storeRegisters x => do
    let machine ← e.machine.write e.index.toNat (e.registers.block x)
    return ({ e with machine }.passBlock x, .next)
  | .loadRegisters x => do
    let bytes ← e.machine.read e.index.toNat (x.val + 1 : Nat)
    return ({ e with registers := e.registers.overlay bytes }.passBlock x, .next)

end Engine

end Chip8
