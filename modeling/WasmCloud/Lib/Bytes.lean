import Mathlib.Data.List.Basic
import Mathlib.Data.String.Basic
import Mathlib.Logic.Function.Basic

/-!
# Byte Encodings

Numbers as bytes, least significant first, and bytes as hexadecimal text.

A number is written in a fixed number of bytes, so a string of bytes that
starts or ends with one can be cut there without a separator. `leBytes_inj` says
that nothing is lost below the bound that many bytes can hold.

Hexadecimal text has two digits a byte, lowercase, and loses nothing either. It is read
back in both cases.
-/

namespace WasmCloud

open List

namespace Bytes

/-- The low `width` bytes of a number, least significant first. -/
def leBytes : Nat → Nat → List UInt8
  | 0, _ => []
  | width + 1, n => UInt8.ofNat (n % 256) :: leBytes width (n / 256)

@[simp] theorem length_leBytes (width n : Nat) : (leBytes width n).length = width := by
  induction width generalizing n with
  | zero => rfl
  | succ width ih => rw [leBytes, length_cons, ih]

variable {m n : Nat}

theorem ofNat_mod_inj (h : UInt8.ofNat (m % 256) = UInt8.ofNat (n % 256)) : m % 256 = n % 256 := by
  have hnat := congrArg UInt8.toNat h
  simp only [UInt8.toNat_ofNat', Nat.reducePow, Nat.mod_mod] at hnat
  exact hnat

/-- The bytes determine a number that fits them. -/
theorem leBytes_inj {width : Nat} (hm : m < 256 ^ width) (hn : n < 256 ^ width)
    (h : leBytes width m = leBytes width n) : m = n := by
  induction width generalizing m n with
  | zero =>
    rw [pow_zero] at hm hn
    omega
  | succ width ih =>
    rw [leBytes, leBytes, List.cons.injEq] at h
    rw [pow_succ] at hm hn
    -- The low byte agrees, and the rest by induction.
    have hlow : m % 256 = n % 256 := ofNat_mod_inj h.1
    have hhigh : m / 256 = n / 256 :=
      ih (Nat.div_lt_of_lt_mul (by omega)) (Nat.div_lt_of_lt_mul (by omega)) h.2
    omega

/-- A hexadecimal digit. -/
def hexDigit (n : Nat) : Char :=
  if n < 10 then Char.ofNat (48 + n) else Char.ofNat (87 + n)

/-- `hex::encode`. -/
def hexEncode (bytes : List UInt8) : String :=
  String.ofList (bytes.flatMap (fun b => [hexDigit (b.toNat / 16), hexDigit (b.toNat % 16)]))

theorem hexDigit_inj (hm : m < 16) (hn : n < 16) (h : hexDigit m = hexDigit n) : m = n := by
  have hall : ∀ m < 16, ∀ n < 16, hexDigit m = hexDigit n → m = n := by decide
  exact hall m hm n hn h

theorem hexEncode_injective : Function.Injective hexEncode := by
  intro as bs h
  have hlist : as.flatMap (fun b => [hexDigit (b.toNat / 16), hexDigit (b.toNat % 16)]) =
      bs.flatMap (fun b => [hexDigit (b.toNat / 16), hexDigit (b.toNat % 16)]) :=
    String.ofList_injective h
  clear h
  induction as generalizing bs with
  | nil =>
    cases bs with
    | nil => rfl
    | cons b bs => nomatch hlist
  | cons a as ih =>
    cases bs with
    | nil => nomatch hlist
    | cons b bs =>
      simp only [flatMap_cons, cons_append, nil_append, List.cons.injEq] at hlist
      rcases hlist with ⟨hhigh, hlow, hrest⟩
      have ha := a.toNat_lt
      have hb := b.toNat_lt
      have hdiv := hexDigit_inj (by omega) (by omega) hhigh
      have hmod := hexDigit_inj (by omega) (by omega) hlow
      have hab : a = b := UInt8.toNat_inj.mp (by omega)
      rw [hab, ih hrest]

/-- The characters of hexadecimal text are digits. -/
theorem hexDigit_of_mem_hexEncode {bytes : List UInt8} {c : Char}
    (h : c ∈ (hexEncode bytes).toList) : ∃ n < 16, c = hexDigit n := by
  rw [hexEncode, String.toList_ofList, mem_flatMap] at h
  rcases h with ⟨b, -, hc⟩
  have hb := b.toNat_lt
  grind

theorem length_hexEncode (bytes : List UInt8) :
    (hexEncode bytes).toList.length = 2 * bytes.length := by
  rw [hexEncode, String.toList_ofList]
  induction bytes with
  | nil => rfl
  | cons b bs ih =>
    simp only [flatMap_cons, length_append, ih, length_cons, length_nil]
    omega

/-- The value of a hexadecimal digit. -/
def hexValue (c : Char) : Option Nat :=
  if '0' ≤ c ∧ c ≤ '9' then some (c.toNat - 48)
  else if 'a' ≤ c ∧ c ≤ 'f' then some (c.toNat - 87)
  else if 'A' ≤ c ∧ c ≤ 'F' then some (c.toNat - 55)
  else none

/-- The bytes of pairs of digits. -/
def decodePairs : List Char → Option (List UInt8)
  | [] => some []
  | [_] => none
  | high :: low :: rest =>
    match hexValue high, hexValue low, decodePairs rest with
    | some h, some l, some bytes => some (UInt8.ofNat (16 * h + l) :: bytes)
    | _, _, _ => none

/-- `hex::decode`. -/
def hexDecode (s : String) : Option (List UInt8) := decodePairs s.toList

theorem hexValue_hexDigit (hn : n < 16) : hexValue (hexDigit n) = some n := by
  have hall : ∀ n < 16, hexValue (hexDigit n) = some n := by decide
  exact hall n hn

/-- Decoding inverts encoding. -/
theorem hexDecode_hexEncode (bytes : List UInt8) : hexDecode (hexEncode bytes) = some bytes := by
  rw [hexDecode, hexEncode, String.toList_ofList]
  induction bytes with
  | nil => rfl
  | cons b bs ih =>
    have hb := b.toNat_lt
    have hbyte : UInt8.ofNat (16 * (b.toNat / 16) + b.toNat % 16) = b := by
      rw [Nat.div_add_mod, UInt8.ofNat_toNat]
    simp only [flatMap_cons, cons_append, nil_append, decodePairs,
      hexValue_hexDigit (show b.toNat / 16 < 16 by omega),
      hexValue_hexDigit (show b.toNat % 16 < 16 by omega), ih, hbyte]

end Bytes

end WasmCloud
