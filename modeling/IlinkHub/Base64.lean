/-
Base64 with canonical padding: the decoder takes the renderings of byte strings and
nothing else.
-/
import Mathlib.Data.List.Basic

namespace Base64

def alphabet : List Char :=
  "ABCDEFGHIJKLMNOPQRSTUVWXYZabcdefghijklmnopqrstuvwxyz0123456789+/".toList

def char (n : Nat) : Char :=
  alphabet.getD n 'A'

def sextet (c : Char) : Option Nat :=
  alphabet.idxOf? c

def encode : List UInt8 → List Char
  | [] => []
  | [x] => [char (x.toNat / 4), char (x.toNat % 4 * 16), '=', '=']
  | [x, y] => [char (x.toNat / 4), char (x.toNat % 4 * 16 + y.toNat / 16),
      char (y.toNat % 16 * 4), '=']
  | x :: y :: z :: rest => char (x.toNat / 4) :: char (x.toNat % 4 * 16 + y.toNat / 16) ::
      char (y.toNat % 16 * 4 + z.toNat / 64) :: char (z.toNat % 64) :: encode rest

/-- A group that ends in padding.  The bits that it stands for have to be zero. -/
def decodePadded (a b c : Char) : Option (List UInt8) :=
  if c = '=' then
    match sextet a, sextet b with
    | some a, some b => if b % 16 = 0 then some [.ofNat (a * 4 + b / 16)] else none
    | _, _ => none
  else
    match sextet a, sextet b, sextet c with
    | some a, some b, some c =>
      if c % 4 = 0 then some [.ofNat (a * 4 + b / 16), .ofNat (b % 16 * 16 + c / 4)] else none
    | _, _, _ => none

def decode : List Char → Option (List UInt8)
  | [] => some []
  | a :: b :: c :: d :: rest =>
    if d = '=' ∧ rest = [] then decodePadded a b c
    else
      match sextet a, sextet b, sextet c, sextet d, decode rest with
      | some a, some b, some c, some d, some bytes =>
        some (.ofNat (a * 4 + b / 16) :: .ofNat (b % 16 * 16 + c / 4) :: .ofNat (c % 4 * 64 + d) ::
          bytes)
      | _, _, _, _, _ => none
  | _ => none

variable {n : Nat}

lemma sextet_char (hn : n < 64) : sextet (char n) = some n := by
  have hall : ∀ n < 64, sextet (char n) = some n := by decide +kernel
  exact hall n hn

lemma char_of_sextet {c : Char} (hsextet : sextet c = some n) : n < 64 ∧ char n = c := by
  obtain ⟨hlt, hget, -⟩ := List.idxOf?_eq_some_iff.mp hsextet
  refine ⟨hlt, ?_⟩
  rw [char, List.getD_eq_getElem?_getD, List.getElem?_eq_getElem hlt]
  exact hget

lemma char_ne_pad (hn : n < 64) : char n ≠ '=' := by
  intro heq
  have hnone : sextet '=' = none := by decide +kernel
  have hsome := sextet_char hn
  simp [heq, hnone] at hsome

lemma ofNat_eq (byte : UInt8) (hn : n = byte.toNat) : .ofNat n = byte := by
  rw [hn, UInt8.ofNat_toNat]

lemma decode_encode (bytes : List UInt8) : decode (encode bytes) = some bytes := by
  induction bytes using encode.induct with
  | case1 => rfl
  | case2 x =>
    have hx := x.toNat_lt
    rw [encode, decode, if_pos ⟨rfl, rfl⟩, decodePadded, if_pos rfl, sextet_char (by omega),
      sextet_char (by omega)]
    dsimp only
    rw [if_pos (by omega), ofNat_eq x (by omega)]
  | case3 x y =>
    have hx := x.toNat_lt
    have hy := y.toNat_lt
    rw [encode, decode, if_pos ⟨rfl, rfl⟩, decodePadded, if_neg (char_ne_pad (by omega)),
      sextet_char (by omega), sextet_char (by omega), sextet_char (by omega)]
    dsimp only
    rw [if_pos (by omega), ofNat_eq x (by omega), ofNat_eq y (by omega)]
  | case4 x y z rest ih =>
    have hx := x.toNat_lt
    have hy := y.toNat_lt
    have hz := z.toNat_lt
    rw [encode, decode, if_neg fun h => char_ne_pad (by omega) h.1, sextet_char (by omega),
      sextet_char (by omega), sextet_char (by omega), sextet_char (by omega), ih]
    dsimp only
    rw [ofNat_eq x (by omega), ofNat_eq y (by omega), ofNat_eq z (by omega)]

lemma toNat_byte (hn : n < 256) : (UInt8.ofNat n).toNat = n :=
  UInt8.toNat_ofNat_of_lt' hn

lemma encode_of_decodePadded {a b c : Char} {bytes : List UInt8}
    (hdecode : decodePadded a b c = some bytes) : encode bytes = [a, b, c, '='] := by
  unfold decodePadded at hdecode
  split at hdecode
  · next hc =>
    split at hdecode
    · next a b ha hb =>
      obtain ⟨ha, rfl⟩ := char_of_sextet ha
      obtain ⟨hb, rfl⟩ := char_of_sextet hb
      split at hdecode
      · cases hdecode
        have hfirst : (a * 4 + b / 16) / 4 = a := by omega
        have hsecond : (a * 4 + b / 16) % 4 * 16 = b := by omega
        rw [encode, toNat_byte (by omega), hc, hfirst, hsecond]
      · cases hdecode
    · cases hdecode
  · split at hdecode
    · next a b c ha hb hc =>
      obtain ⟨ha, rfl⟩ := char_of_sextet ha
      obtain ⟨hb, rfl⟩ := char_of_sextet hb
      obtain ⟨hc, rfl⟩ := char_of_sextet hc
      split at hdecode
      · cases hdecode
        have hfirst : (a * 4 + b / 16) / 4 = a := by omega
        have hsecond : (a * 4 + b / 16) % 4 * 16 + (b % 16 * 16 + c / 4) / 16 = b := by omega
        have hthird : (b % 16 * 16 + c / 4) % 16 * 4 = c := by omega
        rw [encode, toNat_byte (by omega), toNat_byte (by omega), hfirst, hsecond, hthird]
      · cases hdecode
    · cases hdecode

lemma encode_of_decode {text : List Char} {bytes : List UInt8}
    (hdecode : decode text = some bytes) : encode bytes = text := by
  match text, hdecode with
  | [], hdecode =>
    cases hdecode
    rfl
  | a :: b :: c :: d :: rest, hdecode =>
    rw [decode] at hdecode
    split at hdecode
    · next hlast => rw [encode_of_decodePadded hdecode, hlast.1, hlast.2]
    · split at hdecode
      · next a b c d tail ha hb hc hd htail =>
        obtain ⟨ha, rfl⟩ := char_of_sextet ha
        obtain ⟨hb, rfl⟩ := char_of_sextet hb
        obtain ⟨hc, rfl⟩ := char_of_sextet hc
        obtain ⟨hd, rfl⟩ := char_of_sextet hd
        cases hdecode
        have hfirst : (a * 4 + b / 16) / 4 = a := by omega
        have hsecond : (a * 4 + b / 16) % 4 * 16 + (b % 16 * 16 + c / 4) / 16 = b := by omega
        have hthird : (b % 16 * 16 + c / 4) % 16 * 4 + (c % 4 * 64 + d) / 64 = c := by omega
        have hfourth : (c % 4 * 64 + d) % 64 = d := by omega
        rw [encode, toNat_byte (by omega), toNat_byte (by omega), toNat_byte (by omega), hfirst,
          hsecond, hthird, hfourth, encode_of_decode htail]
      · cases hdecode

lemma length_encode (bytes : List UInt8) : (encode bytes).length = (bytes.length + 2) / 3 * 4 := by
  induction bytes using encode.induct with
  | case1 => rfl
  | case2 x => simp [encode]
  | case3 x y => simp [encode]
  | case4 x y z rest ih =>
    simp only [encode, List.length_cons]
    omega

lemma char_mem (n : Nat) : char n ∈ alphabet := by
  rw [char, List.getD_eq_getElem?_getD]
  cases hget : alphabet[n]? with
  | none => decide +kernel
  | some c => exact List.mem_of_getElem? hget

lemma mem_encode {bytes : List UInt8} {c : Char} (hc : c ∈ encode bytes) :
    c = '=' ∨ c ∈ alphabet := by
  induction bytes using encode.induct with
  | case1 => cases hc
  | case2 x =>
    simp only [encode, List.mem_cons, List.not_mem_nil, or_false] at hc
    rcases hc with rfl | rfl | rfl | rfl <;> simp [char_mem]
  | case3 x y =>
    simp only [encode, List.mem_cons, List.not_mem_nil, or_false] at hc
    rcases hc with rfl | rfl | rfl | rfl <;> simp [char_mem]
  | case4 x y z rest ih =>
    simp only [encode, List.mem_cons] at hc
    rcases hc with rfl | rfl | rfl | rfl | hc
    iterate 4 exact .inr (char_mem _)
    exact ih hc

end Base64
