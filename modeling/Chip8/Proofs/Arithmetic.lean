import Chip8.Proofs.Form
import Chip8.Proofs.Writes

/-!
# Proofs/Arithmetic — operations on two registers, as equations between numbers

The documentation speaks of numbers: a sum is the byte in `Vx` and, 256 times, the carry in `VF`.
`Operation.Leaves` says this for each of the nine operations where `Vx` and `VF` are two registers.
Where they are one, the later of two writes wins, and `Operation.LeavesInFlag` says what is left.

Bytes come first: each operation on them satisfies its equation.  Then `Registers.operate` is read
register by register, and `Engine.execute_operation` puts the two together.
-/

namespace Chip8

theorem toNat_flagOf (c : Bool) : (flagOf c).toNat = c.toNat := by
  cases c <;> rfl

namespace Operation

/-! ## What the documentation says

The bytes of `Vx` and `Vy` before the operation are `a` and `b`, the operand of a shift is `s`. -/

/-- What an operation leaves in `Vx` and in `VF`, which had `old` in it, where these are two
registers. -/
def Leaves (a b s old result flag : Nat) : Operation → Prop
  | copy => result = b ∧ flag = old
  | or => result = a ||| b ∧ flag = old
  | and => result = a &&& b ∧ flag = old
  | xor => result = a ^^^ b ∧ flag = old
  | add => 256 * flag + result = a + b
  | subtract => (result : Int) = (a - b : Int) % 256 ∧ flag = if b < a then 1 else 0
  | shiftRight => 2 * result + flag = s ∧ flag ≤ 1
  | subtractFrom => (result : Int) = (b - a : Int) % 256 ∧ flag = if a < b then 1 else 0
  | shiftLeft => 256 * flag + result = 2 * s

/-- What an operation on `VF` itself leaves there: a carry, but otherwise the result. -/
def LeavesInFlag (a b s left : Nat) : Operation → Prop
  | copy => left = b
  | or => left = a ||| b
  | and => left = a &&& b
  | xor => left = a ^^^ b
  | add => left = (a + b) / 256
  | subtract => (left : Int) = (a - b : Int) % 256
  | shiftRight => left = s / 2
  | subtractFrom => (left : Int) = (b - a : Int) % 256
  | shiftLeft => left = 2 * s % 256

/-! ## Bytes -/

/-- The carry and the sum of two bytes, as one weighted equation. -/
theorem toNat_add_carry (a b : UInt8) :
    256 * (flagOf (255 < a.toNat + b.toNat)).toNat + (a + b).toNat = a.toNat + b.toNat := by
  have ha := a.toNat_lt
  have hb := b.toNat_lt
  rw [toNat_flagOf, UInt8.toNat_add]
  by_cases h : 255 < a.toNat + b.toNat
  · simp only [h, decide_true, Bool.toNat_true]
    omega
  · simp only [h, decide_false, Bool.toNat_false]
    omega

/-- A difference of bytes is the difference of their values, modulo 256. -/
theorem toNat_sub_emod (a b : UInt8) :
    ((a - b).toNat : Int) = (a.toNat - b.toNat : Int) % 256 := by
  have ha := a.toNat_lt
  have hb := b.toNat_lt
  rw [UInt8.toNat_sub]
  omega

/-- The borrow is one when the first byte is the smaller one. -/
theorem toNat_flagOf_lt (a b : UInt8) :
    (flagOf (a < b)).toNat = if a.toNat < b.toNat then 1 else 0 := by
  by_cases h : a < b
  · simp [flagOf, h, UInt8.lt_iff_toNat_lt.1 h]
  · simp [flagOf, h, mt UInt8.lt_iff_toNat_lt.2 h]

theorem toNat_shiftRight_one (a : UInt8) : (a >>> 1).toNat = a.toNat / 2 := by
  rw [UInt8.toNat_shiftRight]
  exact Nat.shiftRight_eq_div_pow a.toNat 1

theorem toNat_and_one (a : UInt8) : (a &&& 1).toNat = a.toNat % 2 := by
  rw [UInt8.toNat_and]
  exact Nat.and_one_is_mod a.toNat

theorem toNat_shiftLeft_one (a : UInt8) : (a <<< 1).toNat = 2 * a.toNat % 256 := by
  rw [UInt8.toNat_shiftLeft, Nat.mul_comm]
  exact congrArg (· % 256) (Nat.shiftLeft_eq a.toNat 1)

theorem toNat_shiftRight_seven (a : UInt8) : (a >>> 7).toNat = a.toNat / 128 := by
  rw [UInt8.toNat_shiftRight]
  exact Nat.shiftRight_eq_div_pow a.toNat 7

variable {op : Operation}

/-- **An operation on bytes** leaves what the documentation says; a shift takes its own operand. -/
theorem apply_leaves (a b s old : UInt8) :
    let applied := op.apply (if op.isShift then s else a) b
    op.Leaves a.toNat b.toNat s.toNat old.toNat applied.1.toNat (applied.2.getD old).toNat := by
  cases op with
  | copy => exact ⟨rfl, rfl⟩
  | or => exact ⟨UInt8.toNat_or a b, rfl⟩
  | and => exact ⟨UInt8.toNat_and a b, rfl⟩
  | xor => exact ⟨UInt8.toNat_xor a b, rfl⟩
  | add => exact toNat_add_carry a b
  | subtract => exact ⟨toNat_sub_emod a b, toNat_flagOf_lt b a⟩
  | shiftRight =>
    change 2 * (s >>> 1).toNat + (s &&& 1).toNat = s.toNat ∧ (s &&& 1).toNat ≤ 1
    rw [toNat_shiftRight_one, toNat_and_one]
    omega
  | subtractFrom => exact ⟨toNat_sub_emod b a, toNat_flagOf_lt a b⟩
  | shiftLeft =>
    have hs := s.toNat_lt
    change 256 * (s >>> 7).toNat + (s <<< 1).toNat = 2 * s.toNat
    rw [toNat_shiftRight_seven, toNat_shiftLeft_one]
    omega

/-- If its two writes go to one register, the later one counts. -/
theorem apply_leavesInFlag (a b s : UInt8) :
    let applied := op.apply (if op.isShift then s else a) b
    op.LeavesInFlag a.toNat b.toNat s.toNat
      (if op.flagFirst then applied.1 else applied.2.getD applied.1).toNat := by
  cases op with
  | copy => rfl
  | or => exact UInt8.toNat_or a b
  | and => exact UInt8.toNat_and a b
  | xor => exact UInt8.toNat_xor a b
  | add =>
    have hsum := toNat_add_carry a b
    have hbyte := (a + b).toNat_lt
    change (flagOf (255 < a.toNat + b.toNat)).toNat = (a.toNat + b.toNat) / 256
    omega
  | subtract => exact toNat_sub_emod a b
  | shiftRight => exact toNat_shiftRight_one s
  | subtractFrom => exact toNat_sub_emod b a
  | shiftLeft => exact toNat_shiftLeft_one s

end Operation

/-! ## Registers -/

namespace Registers

variable {v : Registers} {d : Dialect} {op : Operation} {x y : Register}

/-- The operand of a shift. -/
def shiftOperand (v : Registers) (d : Dialect) (x y : Register) : UInt8 :=
  if d.shiftUsesVy then v[y] else v[x]

/-- What an operation comes to on two registers. -/
def applied (v : Registers) (d : Dialect) (op : Operation) (x y : Register) :
    UInt8 × Option UInt8 :=
  op.apply (if op.isShift then v.shiftOperand d x y else v[x]) v[y]

/-- An operation writes its result and its flag, if it has one, in the order that the operation
says. -/
theorem operate_eq : v.operate d op x y =
    match v.applied d op x y with
    | (result, none) => v.put x result
    | (result, some flag) =>
      if op.flagFirst then (v.put flagRegister flag).put x result
      else (v.put x result).put flagRegister flag := by
  unfold operate applied shiftOperand
  cases op.isShift <;> rfl

/-- Unless the result goes to the flag register, the target holds it. -/
theorem getElem_operate_target (hx : x ≠ flagRegister) :
    (v.operate d op x y)[x] = (v.applied d op x y).1 := by
  rw [operate_eq]
  rcases v.applied d op x y with ⟨result, _ | flag⟩
  · simp
  · cases op.flagFirst <;> simp [hx]

/-- Unless the result goes to the flag register, that register holds the flag, or what it held if
there is none. -/
theorem getElem_operate_flag (hx : x ≠ flagRegister) :
    (v.operate d op x y)[flagRegister] = (v.applied d op x y).2.getD v[flagRegister] := by
  rw [operate_eq]
  rcases v.applied d op x y with ⟨result, _ | flag⟩
  · simp [hx.symm]
  · cases op.flagFirst <;> simp [hx.symm]

/-- In the flag register the last of the two writes stays. -/
theorem getElem_operate_flag_self : (v.operate d op flagRegister y)[flagRegister] =
    let applied := v.applied d op flagRegister y
    if op.flagFirst then applied.1 else applied.2.getD applied.1 := by
  rw [operate_eq]
  rcases v.applied d op flagRegister y with ⟨result, _ | flag⟩
  · cases op.flagFirst <;> simp
  · cases op.flagFirst <;> simp

end Registers

namespace Engine

variable {σ : Type}

/-- **An operation on two registers** always succeeds, moves to the next word and changes nothing
but registers: of these only `Vx` and `VF`, which are left as the documentation says.  Both operands
are the bytes before the operation, whichever registers they are in. -/
theorem execute_operation (kb : Keyboard σ) (host : σ) (e : Engine) {w : Word} {op : Operation}
    (hw : w.hasForm op.form) : ∃ v : Registers,
      (e.execute kb w.toNat host).result = .ok { e with registers := v, pc := e.pc + 2 } ∧
      (∀ k, k ≠ w.x → k ≠ flagRegister → v[k] = e.registers[k]) ∧
      let a := e.registers[w.x].toNat
      let b := e.registers[w.y].toNat
      let s := if e.config.dialect.shiftUsesVy then b else a
      (w.x ≠ flagRegister → op.Leaves a b s e.registers[flagRegister].toNat
        v[w.x].toNat v[flagRegister].toNat) ∧
      (w.x = flagRegister → op.LeavesInFlag a b s v[flagRegister].toNat) := by
  have hs : (e.registers.shiftOperand e.config.dialect w.x w.y).toNat =
      if e.config.dialect.shiftUsesVy then e.registers[w.y].toNat else e.registers[w.x].toNat :=
    apply_ite UInt8.toNat ..
  refine ⟨e.registers.operate e.config.dialect op w.x w.y, ?_, fun k hx hf => ?_, fun hx => ?_,
    fun hx => ?_⟩
  · have hi : Instruction.ofWord? w = some (.operate op w.x w.y) :=
      Instruction.ofWord?_eq_some_iff.2 ⟨hw, rfl, rfl⟩
    rw [result_execute_natCast]
    exact executeWord_eq_ok_iff.2 ⟨_, false, _, .next, hi, rfl, rfl, rfl⟩
  · exact Registers.getElem_operate_of_ne hx fun _ => hf
  · rw [Registers.getElem_operate_target hx, Registers.getElem_operate_flag hx, ← hs]
    exact Operation.apply_leaves _ _ _ _
  · rw [hx] at hs ⊢
    rw [Registers.getElem_operate_flag_self, ← hs]
    exact Operation.apply_leavesInFlag _ _ _

/-- The carry of a sum in `VF` wins over the sum. -/
theorem execute_operation_of_carry :
    let e : Engine := { registers := (Registers.put (.replicate 16 0) 1 1).put 15 0xFF }
    Word.hasForm 0x8F14 "8xy4" ∧ ∃ v : Registers,
      (e.execute HeldKey.keyboard 0x8F14 { key := none }).result =
        .ok { e with registers := v, pc := 0x202 } ∧
      v[flagRegister] = 1 := by
  intro e
  have hw : Word.hasForm 0x8F14 (Operation.form .add) := by decide
  obtain ⟨v, hv, _, _, hflag⟩ := execute_operation HeldKey.keyboard { key := none } e hw
  have hcarry : v[flagRegister].toNat = (255 + 1) / 256 := hflag (by decide)
  exact ⟨hw, v, hv, UInt8.toNat_inj.1 hcarry⟩

end Engine

end Chip8
