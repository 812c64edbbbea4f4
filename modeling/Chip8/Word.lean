/-!
# Word — sixteen-bit instruction words and their operand fields

A word is read in four hexadecimal digits.  The first, its `family`, chooses the kind of
instruction; the others are the operands `x`, `y` and `n`, or — taken together — the byte `nn` and
the address `nnn`.
-/

namespace Chip8

/-- A sixteen-bit word. -/
abbrev Word := UInt16

/-- The number of one of the sixteen registers `V0` … `VF`. -/
abbrev Register := Fin 16

/-- There are registers, so that numerals name them. -/
instance Register.neZero : @NeZero Nat Zero.ofOfNat0 16 := Nat.instNeZeroSucc

/-- The address of one of the 4096 memory cells. -/
abbrev Address := Fin 4096

namespace Word

/-- The hexadecimal digit of weight `16 ^ place`. -/
def digit (w : Word) (place : Nat) : Fin 16 :=
  ⟨(w.toNat >>> (4 * place)) % 16, Nat.mod_lt _ (by decide)⟩

/-- The leading digit. -/
def family (w : Word) : Fin 16 := w.digit 3

/-- The second digit, which names a register. -/
def x (w : Word) : Register := w.digit 2

/-- The third digit, which names a register. -/
def y (w : Word) : Register := w.digit 1

/-- The last digit. -/
def n (w : Word) : Fin 16 := w.digit 0

/-- The low byte. -/
def nn (w : Word) : UInt8 := UInt8.ofNat w.toNat

/-- The low twelve bits. -/
def nnn (w : Word) : Address := ⟨w.toNat % 4096, Nat.mod_lt _ (by decide)⟩

/-- The word that an integer stands for, `none` outside sixteen bits. -/
def ofInt? (n : Int) : Option Word :=
  if 0 ≤ n ∧ n ≤ 0xFFFF then some (UInt16.ofNat n.toNat) else none

/-- The word of two bytes, the first one being the high one. -/
def ofBytes (high low : UInt8) : Word := UInt16.ofNat (256 * high.toNat + low.toNat)

theorem ofInt?_toNat (w : Word) : ofInt? w.toNat = some w := by
  have h := w.toNat_lt
  rw [ofInt?, if_pos (by omega)]
  simp

/-- The high byte counts 256. -/
theorem toNat_ofBytes (high low : UInt8) :
    (ofBytes high low).toNat = 256 * high.toNat + low.toNat := by
  have hh := high.toNat_lt
  have hl := low.toNat_lt
  simp only [ofBytes, UInt16.toNat_ofNat']
  omega

end Word

/-- The bitwise "or" of two integers in two's complement. -/
def orBits : Int → Int → Int
  | .ofNat a, .ofNat b => .ofNat (a ||| b)
  | .ofNat a, .negSucc b => .negSucc (b - (b &&& a))
  | .negSucc a, .ofNat b => .negSucc (a - (a &&& b))
  | .negSucc a, .negSucc b => .negSucc (a &&& b)

/-- Two integers joined as high and low byte, without a check that they are bytes. -/
def joinBytes (high low : Int) : Int := orBits (256 * high) low

end Chip8
