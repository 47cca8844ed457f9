import Mathlib.Tactic.Common

/-!
# Machine words

Unsigned arithmetic of the C code on natural numbers: a result that does not fit is reduced
modulo the word size. The reductions are stated with the modulus first, so that a concrete
term evaluates without unary numbers.
-/

namespace VioGpu.Lib

/-- `PAGE_SIZE` -/
def pageSize : Nat := 4096

def u16 (n : Nat) : Nat := n % 65536

def u32 (n : Nat) : Nat := n % 4294967296

/-- 16-bit subtraction. -/
def sub16 (a b : Nat) : Nat := (65536 - b % 65536 + a) % 65536

/-- 32-bit subtraction. -/
def sub32 (a b : Nat) : Nat := (4294967296 - b % 4294967296 + a) % 4294967296

/-- A signed value as a 32-bit unsigned one. -/
def uint (i : Int) : Nat := (i % 4294967296).toNat

theorem u32_le (n : Nat) : u32 n ≤ n := Nat.mod_le n _

end VioGpu.Lib
