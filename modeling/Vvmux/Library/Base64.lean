import Mathlib.Data.List.Basic

/-!
# Base64

The standard alphabet with padding.  Three bytes become four characters; the
rest of one or two bytes is padded to four.  Decoding is strict: the padding
must be there, and the bits that it leaves over must be zero.
-/

namespace Vvmux
namespace Library
namespace Base64

/-- The digits in the order of their values. -/
def alphabet : List Char :=
  "ABCDEFGHIJKLMNOPQRSTUVWXYZabcdefghijklmnopqrstuvwxyz0123456789+/".toList

def digit (value : Nat) : Char :=
  alphabet.getD value 'A'

/-- The value of a digit. -/
def value (character : Char) : Option Nat :=
  alphabet.idxOf? character

def encode : List UInt8 → List Char
  | [] => []
  | [first] =>
      [digit (first.toNat / 4), digit (first.toNat % 4 * 16), '=', '=']
  | [first, second] =>
      [digit (first.toNat / 4),
        digit (first.toNat % 4 * 16 + second.toNat / 16),
        digit (second.toNat % 16 * 4), '=']
  | first :: second :: third :: rest =>
      digit (first.toNat / 4) ::
        digit (first.toNat % 4 * 16 + second.toNat / 16) ::
        digit (second.toNat % 16 * 4 + third.toNat / 64) ::
        digit (third.toNat % 64) :: encode rest

/-- The byte of two digits, and of the next two if they are there. -/
def decodePadded (first second third : Char) : Option (List UInt8) :=
  (value first).bind fun high =>
    (value second).bind fun middle =>
      if third = '=' then
        if middle % 16 = 0 then
          some [UInt8.ofNat (high * 4 + middle / 16)]
        else none
      else
        (value third).bind fun low =>
          if low % 4 = 0 then
            some [UInt8.ofNat (high * 4 + middle / 16),
              UInt8.ofNat (middle % 16 * 16 + low / 4)]
          else none

/-- The bytes of four digits. -/
def decodeFour (first second third fourth : Char) : Option (List UInt8) :=
  (value first).bind fun one =>
    (value second).bind fun two =>
      (value third).bind fun three =>
        (value fourth).map fun four =>
          [UInt8.ofNat (one * 4 + two / 16),
            UInt8.ofNat (two % 16 * 16 + three / 4),
            UInt8.ofNat (three % 4 * 64 + four)]

def decode : List Char → Option (List UInt8)
  | [] => some []
  | first :: second :: third :: fourth :: rest =>
      if fourth = '=' ∧ rest = [] then decodePadded first second third
      else
        (decodeFour first second third fourth).bind fun bytes =>
          (decode rest).map fun further => bytes ++ further
  | _ => none

variable {number : Nat}

theorem value_digit
    (small : number < 64) : value (digit number) = some number := by
  have all : ∀ number : Fin 64, value (digit number) = some number.val := by
    decide +kernel
  exact all ⟨number, small⟩

theorem digit_mem (small : number < 64) : digit number ∈ alphabet := by
  have inside : number < alphabet.length := small
  rw [digit, List.getD_eq_getElem?_getD, List.getElem?_eq_getElem inside]
  exact List.getElem_mem inside

theorem digit_ne_padding (small : number < 64) : digit number ≠ '=' := by
  have absent : '=' ∉ alphabet := by
    decide
  exact fun same => absent (same ▸ digit_mem small)

/-- A byte is put together from its parts. -/
theorem ofNat_parts
    (byte : UInt8)
    {parts : Nat}
    (whole : parts = byte.toNat) : UInt8.ofNat parts = byte := by
  rw [whole, UInt8.ofNat_toNat]

/-- What is encoded is decoded. -/
theorem decode_encode
    (bytes : List UInt8) : decode (encode bytes) = some bytes := by
  fun_induction encode bytes with
  | case1 => rfl
  | case2 first =>
      have bound := first.toNat_lt
      have high : first.toNat / 4 < 64 := by omega
      have low : first.toNat % 4 * 16 < 64 := by omega
      simp only [decode, decodePadded, value_digit high, value_digit low,
        Option.bind_some, and_self, if_true]
      rw [if_pos (by omega), ofNat_parts first (by omega)]
  | case3 first second =>
      have bound := first.toNat_lt
      have bound' := second.toNat_lt
      have high : first.toNat / 4 < 64 := by omega
      have middle : first.toNat % 4 * 16 + second.toNat / 16 < 64 := by omega
      have low : second.toNat % 16 * 4 < 64 := by omega
      simp only [decode, decodePadded, value_digit high, value_digit middle,
        value_digit low, digit_ne_padding low, Option.bind_some, and_self,
        if_true, if_false]
      rw [if_pos (by omega), ofNat_parts first (by omega),
        ofNat_parts second (by omega)]
  | case4 first second third rest ih =>
      have bound := first.toNat_lt
      have bound' := second.toNat_lt
      have bound'' := third.toNat_lt
      have one : first.toNat / 4 < 64 := by omega
      have two : first.toNat % 4 * 16 + second.toNat / 16 < 64 := by omega
      have three : second.toNat % 16 * 4 + third.toNat / 64 < 64 := by omega
      have four : third.toNat % 64 < 64 := Nat.mod_lt _ (by decide)
      simp only [decode, decodeFour, value_digit one, value_digit two,
        value_digit three, value_digit four, digit_ne_padding four,
        ih, false_and, if_false, Option.bind_some,
        Option.map_some]
      rw [ofNat_parts first (by omega), ofNat_parts second (by omega),
        ofNat_parts third (by omega)]
      rfl

theorem length_encode
    (bytes : List UInt8) :
    (encode bytes).length = (bytes.length + 2) / 3 * 4 := by
  fun_induction encode bytes with
  | case1 => rfl
  | case2 first => simp
  | case3 first second => simp
  | case4 first second third rest ih =>
      simp only [List.length_cons, ih]
      omega

/-- An encoded text has digits and padding only. -/
theorem mem_of_mem_encode
    {bytes : List UInt8}
    {character : Char}
    (here : character ∈ encode bytes) :
    character ∈ alphabet ∨ character = '=' := by
  fun_induction encode bytes with
  | case1 => cases here
  | case2 first =>
      have bound := first.toNat_lt
      simp only [List.mem_cons, List.not_mem_nil, or_false] at here
      rcases here with rfl | rfl | rfl | rfl
      · exact .inl (digit_mem (by omega))
      · exact .inl (digit_mem (by omega))
      · exact .inr rfl
      · exact .inr rfl
  | case3 first second =>
      have bound := first.toNat_lt
      have bound' := second.toNat_lt
      simp only [List.mem_cons, List.not_mem_nil, or_false] at here
      rcases here with rfl | rfl | rfl | rfl
      · exact .inl (digit_mem (by omega))
      · exact .inl (digit_mem (by omega))
      · exact .inl (digit_mem (by omega))
      · exact .inr rfl
  | case4 first second third rest ih =>
      have bound := first.toNat_lt
      have bound' := second.toNat_lt
      have bound'' := third.toNat_lt
      simp only [List.mem_cons] at here
      rcases here with rfl | rfl | rfl | rfl | here
      · exact .inl (digit_mem (by omega))
      · exact .inl (digit_mem (by omega))
      · exact .inl (digit_mem (by omega))
      · exact .inl (digit_mem (by omega))
      · exact ih here

end Base64
end Library
end Vvmux
