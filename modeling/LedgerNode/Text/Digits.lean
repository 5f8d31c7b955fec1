import LedgerNode.Text.Bytes

set_option autoImplicit false

namespace LedgerNode.Digits

def value? (base : Nat) (digit : Char) : Option Nat :=
  let value :=
    if '0' ≤ digit && digit ≤ '9' then some (digit.toNat - '0'.toNat)
    else if 'a' ≤ digit && digit ≤ 'f' then some (digit.toNat - 'a'.toNat + 10)
    else if 'A' ≤ digit && digit ≤ 'F' then some (digit.toNat - 'A'.toNat + 10)
    else none
  value.filter (· < base)

theorem value?_digitChar {base value : Nat} (small : base ≤ 16) (within : value < base) :
    value? base (Nat.digitChar value) = some value := by
  have bound : value < 16 := by omega
  have all : ∀ number, number < 16 → ∀ radix, radix ≤ 16 → number < radix →
      value? radix (Nat.digitChar number) = some number := by decide
  exact all value bound base small within

def write (base value : Nat) : List Char :=
  Nat.toDigits base value

def number? (base : Nat) : List Char → Option Nat :=
  go 0
where
  go (value : Nat) : List Char → Option Nat
    | [] => some value
    | digit :: rest =>
      match value? base digit with
      | some next => go (value * base + next) rest
      | none => none

def hexPair (byte : UInt8) : List Char :=
  [Nat.digitChar (byte.toNat / 16), Nat.digitChar (byte.toNat % 16)]

def hex (bytes : Bytes) : List Char :=
  bytes.flatMap hexPair

def ofHex? : List Char → Option Bytes
  | [] => some []
  | high :: low :: rest =>
    match value? 16 high, value? 16 low, ofHex? rest with
    | some high, some low, some bytes => some (UInt8.ofNat (16 * high + low) :: bytes)
    | _, _, _ => none
  | [_] => none

theorem ofHex?_hex (bytes : Bytes) : ofHex? (hex bytes) = some bytes := by
  induction bytes with
  | nil => rfl
  | cons byte rest ih =>
    have bound := byte.toNat_lt
    have high := value?_digitChar (Nat.le_refl 16) (show byte.toNat / 16 < 16 by omega)
    have low := value?_digitChar (Nat.le_refl 16) (show byte.toNat % 16 < 16 by omega)
    have whole : 16 * (byte.toNat / 16) + byte.toNat % 16 = byte.toNat := by omega
    simp only [hex, List.flatMap_cons, hexPair, List.cons_append, List.nil_append, ofHex?, high,
      low]
    rw [show List.flatMap hexPair rest = hex rest from rfl, ih]
    simp [whole]

@[simp]
theorem length_hex (bytes : Bytes) : (hex bytes).length = 2 * bytes.length := by
  induction bytes with
  | nil => rfl
  | cons byte rest ih =>
    simp only [hex, List.flatMap_cons, hexPair, List.length_append, List.length_cons,
      List.length_nil] at ih ⊢
    omega

theorem length_of_ofHex? {digits : List Char} {bytes : Bytes} (read : ofHex? digits = some bytes) :
    digits.length = 2 * bytes.length := by
  fun_induction ofHex? digits generalizing bytes with
  | case1 => cases read; rfl
  | case2 high low rest _ _ tail found _ _ ih =>
    cases read
    have := ih found
    simp only [List.length_cons]
    omega
  | case3 => cases read
  | case4 => cases read

end LedgerNode.Digits
