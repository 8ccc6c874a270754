import Mathlib.Data.List.Basic
import Mathlib.Tactic.Common

namespace P3Portal.Foundation.Base64

def alphabet : List Char := "ABCDEFGHIJKLMNOPQRSTUVWXYZabcdefghijklmnopqrstuvwxyz0123456789+/".toList

def symbol (value : Nat) : Char := alphabet.getD value 'A'

def valueOf (character : Char) : Option Nat := alphabet.idxOf? character

/-- Three bytes are four symbols of six bits, and a rest is padded. -/
def encode : List UInt8 → List Char
  | first :: second :: third :: rest =>
      symbol (first.toNat / 4) :: symbol (first.toNat % 4 * 16 + second.toNat / 16) ::
        symbol (second.toNat % 16 * 4 + third.toNat / 64) :: symbol (third.toNat % 64) :: encode rest
  | [first, second] =>
      [symbol (first.toNat / 4), symbol (first.toNat % 4 * 16 + second.toNat / 16), symbol (second.toNat % 16 * 4), '=']
  | [first] => [symbol (first.toNat / 4), symbol (first.toNat % 4 * 16), '=', '=']
  | [] => []

/-- Groups of four symbols are read; padding ends the text. -/
def decode : List Char → Option (List UInt8)
  | [] => some []
  | [first, second, '=', '='] => do
      let a ← valueOf first
      let b ← valueOf second
      return [UInt8.ofNat (a * 4 + b / 16)]
  | [first, second, third, '='] => do
      let a ← valueOf first
      let b ← valueOf second
      let c ← valueOf third
      return [UInt8.ofNat (a * 4 + b / 16), UInt8.ofNat (b % 16 * 16 + c / 4)]
  | first :: second :: third :: fourth :: rest => do
      let a ← valueOf first
      let b ← valueOf second
      let c ← valueOf third
      let d ← valueOf fourth
      let bytes ← decode rest
      return UInt8.ofNat (a * 4 + b / 16) :: UInt8.ofNat (b % 16 * 16 + c / 4) :: UInt8.ofNat (c % 4 * 64 + d) :: bytes
  | _ => none

theorem symbol_spec {value : Nat} (small : value < 64) :
    valueOf (symbol value) = some value ∧ symbol value ≠ '=' ∧ symbol value ≠ '\n' := by
  have all : (List.range 64).all fun value =>
      valueOf (symbol value) = some value && symbol value ≠ '=' && symbol value ≠ '\n' := by decide +kernel
  have here := List.all_eq_true.mp all value (List.mem_range.mpr small)
  simp only [Bool.and_eq_true, decide_eq_true_eq, ne_eq] at here
  exact ⟨here.1.1, here.1.2, here.2⟩

theorem valueOf_symbol {value : Nat} (small : value < 64) : valueOf (symbol value) = some value :=
  (symbol_spec small).1

/-- The bits of a byte are put together again. -/
theorem ofNat_toNat_eq {value : Nat} (byte : UInt8) (same : value = byte.toNat) : UInt8.ofNat value = byte := by
  rw [same]
  exact UInt8.ofNat_toNat

/-- Decoding undoes encoding. -/
theorem decode_encode (bytes : List UInt8) : decode (encode bytes) = some bytes := by
  induction bytes using encode.induct with
  | case1 first second third rest ih =>
      have a := first.toNat_lt
      have b := second.toNat_lt
      have c := third.toNat_lt
      have last : symbol (third.toNat % 64) ≠ '=' := (symbol_spec (by omega)).2.1
      rw [encode, decode]
      · rw [valueOf_symbol (by omega), valueOf_symbol (by omega), valueOf_symbol (by omega), valueOf_symbol (by omega), ih]
        simp only [Option.bind_eq_bind, Option.bind_some, Option.pure_def]
        rw [ofNat_toNat_eq first (by omega), ofNat_toNat_eq second (by omega),
          ofNat_toNat_eq third (by omega)]
      · intro _ padding _
        exact absurd padding last
      · intro padding _
        exact absurd padding last
  | case2 first second =>
      have a := first.toNat_lt
      have b := second.toNat_lt
      have third : symbol (second.toNat % 16 * 4) ≠ '=' := (symbol_spec (by omega)).2.1
      rw [encode, decode]
      · rw [valueOf_symbol (by omega), valueOf_symbol (by omega), valueOf_symbol (by omega)]
        simp only [Option.bind_eq_bind, Option.bind_some, Option.pure_def]
        rw [ofNat_toNat_eq first (by omega), ofNat_toNat_eq second (by omega)]
      · intro padding
        exact absurd padding third
  | case3 first =>
      have a := first.toNat_lt
      rw [encode, decode, valueOf_symbol (by omega), valueOf_symbol (by omega)]
      simp only [Option.bind_eq_bind, Option.bind_some, Option.pure_def]
      rw [ofNat_toNat_eq first (by omega)]
  | case4 => rfl

/-- The encoded text is one line. -/
theorem encode_one_line (bytes : List UInt8) : '\n' ∉ encode bytes := by
  induction bytes using encode.induct with
  | case1 first second third rest ih =>
      have a := first.toNat_lt
      have b := second.toNat_lt
      have c := third.toNat_lt
      rw [encode]
      simp only [List.mem_cons, not_or]
      exact ⟨(symbol_spec (by omega)).2.2.symm, (symbol_spec (by omega)).2.2.symm, (symbol_spec (by omega)).2.2.symm,
        (symbol_spec (by omega)).2.2.symm, ih⟩
  | case2 first second =>
      have a := first.toNat_lt
      have b := second.toNat_lt
      rw [encode]
      simp only [List.mem_cons, not_or]
      exact ⟨(symbol_spec (by omega)).2.2.symm, (symbol_spec (by omega)).2.2.symm, (symbol_spec (by omega)).2.2.symm,
        by decide, List.not_mem_nil⟩
  | case3 first =>
      have a := first.toNat_lt
      rw [encode]
      simp only [List.mem_cons, not_or]
      exact ⟨(symbol_spec (by omega)).2.2.symm, (symbol_spec (by omega)).2.2.symm, by decide, by decide,
        List.not_mem_nil⟩
  | case4 => exact List.not_mem_nil

end P3Portal.Foundation.Base64
