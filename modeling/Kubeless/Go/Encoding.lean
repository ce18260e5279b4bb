import Mathlib.Data.List.Basic
import Mathlib.Tactic.Ring

/-!
# Byte Strings, Base64 and the JSON String Coercion

A function's source travels from the user's file to the Function resource as a byte string:
`uploadFunction` reads it, keeps it verbatim or base64-encodes it, and the Function resource
stores it as a JSON string. This module models the encodings on that path:

* `hexEncodeToString`, Go's `hex.EncodeToString`, which renders a digest;
* `base64Encode`, Go's `base64.StdEncoding.EncodeToString`;
* `jsonString`, what `encoding/json` makes of a Go string: every byte that does not start a
  well-formed UTF-8 sequence (as `utf8.DecodeRune` reads it) becomes U+FFFD.

## Main results

* `length_base64Encode`: the encoding has length `4 * ((n + 2) / 3)`.
* `jsonString_of_utf8Valid`: the JSON coercion is the identity on valid UTF-8, and
  `jsonString_of_ascii` on ASCII, so in particular on every base64 text
  (`base64Encode_ascii`).
-/

namespace Kubeless.Go

/-- A Go byte string. -/
abbrev Bytes := List UInt8

/-! ### Hexadecimal -/

/-- The lower-case hexadecimal digit of a value below 16. -/
def hexDigit (n : Nat) : Char :=
  if n < 10 then Char.ofNat (48 + n) else Char.ofNat (87 + n)

/-- `hex.EncodeToString(b)`: two lower-case hexadecimal digits per byte. -/
def hexEncodeToString (b : Bytes) : String :=
  String.mk (b.flatMap fun x => [hexDigit (x.toNat / 16), hexDigit (x.toNat % 16)])

/-! ### Base64 -/

/-- The character of `base64.StdEncoding` for a six-bit value, as a byte. -/
def encodeSextet (i : Nat) : UInt8 :=
  UInt8.ofNat <|
    if i < 26 then 65 + i else if i < 52 then 71 + i else if i < 62 then i - 4
    else if i = 62 then 43 else 47

/-- The padding character `=`. -/
def padChar : UInt8 := 61

/-- `base64.StdEncoding.EncodeToString(b)`: each group of three bytes becomes four
characters; a final group of one or two bytes is padded with `=`. -/
def base64Encode : Bytes → Bytes
  | [] => []
  | [a] => [encodeSextet (a.toNat / 4), encodeSextet (a.toNat % 4 * 16), padChar, padChar]
  | [a, b] =>
      [encodeSextet (a.toNat / 4), encodeSextet (a.toNat % 4 * 16 + b.toNat / 16),
        encodeSextet (b.toNat % 16 * 4), padChar]
  | a :: b :: c :: rest =>
      [encodeSextet (a.toNat / 4), encodeSextet (a.toNat % 4 * 16 + b.toNat / 16),
        encodeSextet (b.toNat % 16 * 4 + c.toNat / 64), encodeSextet (c.toNat % 64)]
        ++ base64Encode rest

/-- Four characters for every group of three bytes, the last group padded. -/
theorem length_base64Encode (b : Bytes) : (base64Encode b).length = 4 * ((b.length + 2) / 3) := by
  induction b using base64Encode.induct with
  | case4 a b c rest ih => simp [base64Encode, ih]; omega
  | _ => simp [base64Encode]

theorem encodeSextet_lt (i : Nat) : (encodeSextet i).toNat < 128 := by
  unfold encodeSextet
  rw [UInt8.toNat_ofNat_of_lt (by split_ifs <;> simp [UInt8.size] <;> omega)]
  split_ifs <;> omega

/-- Base64 text is ASCII. -/
theorem base64Encode_ascii (b : Bytes) : ∀ x ∈ base64Encode b, x.toNat < 128 := by
  induction b using base64Encode.induct with
  | case1 => simp [base64Encode]
  | case4 a b c rest ih =>
      simp only [base64Encode, List.mem_append, List.mem_cons, List.mem_nil_iff, or_false]
      rintro x ((rfl | rfl | rfl | rfl) | hx) <;> first | exact encodeSextet_lt _ | exact ih x hx
  | _ =>
      simp only [base64Encode, List.mem_cons, List.mem_nil_iff, or_false]
      rintro x (rfl | rfl | rfl | rfl) <;> first | decide | exact encodeSextet_lt _

/-! ### UTF-8 and the JSON string coercion -/

/-- The leading-byte table of `utf8.DecodeRune`: for a byte that starts a multi-byte
sequence, the length of the sequence and the range allowed for the byte after it. -/
def leadRange (b : Nat) : Option (Nat × Nat × Nat) :=
  if 0xC2 ≤ b ∧ b ≤ 0xDF then some (2, 0x80, 0xBF)
  else if b = 0xE0 then some (3, 0xA0, 0xBF)
  else if 0xE1 ≤ b ∧ b ≤ 0xEC ∨ 0xEE ≤ b ∧ b ≤ 0xEF then some (3, 0x80, 0xBF)
  else if b = 0xED then some (3, 0x80, 0x9F)
  else if b = 0xF0 then some (4, 0x90, 0xBF)
  else if 0xF1 ≤ b ∧ b ≤ 0xF3 then some (4, 0x80, 0xBF)
  else if b = 0xF4 then some (4, 0x80, 0x8F)
  else none

/-- A continuation byte, `10xxxxxx`. -/
def isCont (b : UInt8) : Bool := 0x80 ≤ b.toNat ∧ b.toNat ≤ 0xBF

/-- The width of the rune `utf8.DecodeRune` reads at the head of `bs`, or `0` where it
reads `RuneError` of width one: a byte that starts no sequence, or a sequence cut short
or continued out of range. -/
def runeLen : Bytes → Nat
  | [] => 0
  | b :: rest =>
      if b.toNat < 0x80 then 1
      else
        match leadRange b.toNat, rest with
        | some (n, lo, hi), c :: more =>
            if lo ≤ c.toNat ∧ c.toNat ≤ hi ∧ n - 2 ≤ more.length ∧ (more.take (n - 2)).all isCont
            then n else 0
        | _, _ => 0

/-- `utf8.Valid(p)`: the whole of `p` reads as runes, with no `RuneError` of width one. -/
def utf8Valid : Bytes → Bool
  | [] => true
  | b :: rest =>
      runeLen (b :: rest) ≠ 0 && utf8Valid (rest.drop (runeLen (b :: rest) - 1))
termination_by bs => bs.length
decreasing_by simp; omega

/-- The value `encoding/json` stores for a Go string: each byte at which `utf8.DecodeRune`
reads `RuneError` of width one is replaced by U+FFFD, encoded `EF BF BD`; every rune it
reads is kept. -/
def jsonString : Bytes → Bytes
  | [] => []
  | b :: rest =>
      if runeLen (b :: rest) = 0 then 0xEF :: 0xBF :: 0xBD :: jsonString rest
      else b :: rest.take (runeLen (b :: rest) - 1) ++
        jsonString (rest.drop (runeLen (b :: rest) - 1))
termination_by bs => bs.length
decreasing_by all_goals simp <;> omega

/-- **The JSON coercion keeps valid UTF-8.** -/
theorem jsonString_of_utf8Valid {bs : Bytes} (h : utf8Valid bs = true) : jsonString bs = bs := by
  induction bs using jsonString.induct with
  | case1 => simp [jsonString]
  | case2 b rest h0 _ => simp [utf8Valid, h0] at h
  | case3 b rest h0 ih =>
      rw [utf8Valid] at h
      simp only [h0, ne_eq, not_false_eq_true, decide_True, Bool.true_and] at h
      rw [jsonString, if_neg h0, ih h, List.cons_append, List.take_append_drop]

/-- ASCII text is valid UTF-8. -/
theorem utf8Valid_of_ascii {bs : Bytes} (h : ∀ x ∈ bs, x.toNat < 128) : utf8Valid bs = true := by
  induction bs with
  | nil => simp [utf8Valid]
  | cons b rest ih =>
      have hb := h b (List.mem_cons_self _ _)
      have hl : runeLen (b :: rest) = 1 := by simp [runeLen, hb]
      rw [utf8Valid, hl]
      simpa using ih fun x hx => h x (List.mem_cons_of_mem _ hx)

/-- The JSON coercion keeps ASCII text. -/
theorem jsonString_of_ascii {bs : Bytes} (h : ∀ x ∈ bs, x.toNat < 128) : jsonString bs = bs :=
  jsonString_of_utf8Valid (utf8Valid_of_ascii h)

example : jsonString [0xFF] = [0xEF, 0xBF, 0xBD] := by simp [jsonString, runeLen, leadRange]

end Kubeless.Go
