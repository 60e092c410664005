import BlobVault.Bytes
import BlobVault.Text.Basic

/-! UTF-8. Encoding is partial, since a surrogate has no encoding; reading is total and puts U+FFFD
for each longest run of octets that begins a character and is not one. -/
namespace BlobVault

namespace CodePoint

/-- The octets of a code point: seven bits in one octet, else a lead octet that tells the length and
six bits in each further octet. -/
def utf8 (c : CodePoint) : Bytes :=
  let n := c.val
  let tail (m : Nat) : UInt8 := .ofNat (0x80 + m % 64)
  if n < 0x80 then [.ofNat n]
  else if n < 0x800 then [.ofNat (0xC0 + n / 64), tail n]
  else if n < 0x10000 then [.ofNat (0xE0 + n / 4096), tail (n / 64), tail n]
  else [.ofNat (0xF0 + n / 262144), tail (n / 4096), tail (n / 64), tail n]

end CodePoint

/-- Why a text has no encoding: the positions of its first run of surrogates. -/
structure EncodingFault where
  text : Text
  first : Nat
  last : Nat

namespace Text

def utf8 (t : Text) : Bytes := t.flatMap CodePoint.utf8

/-- The first longest run of surrogates, where encoding stops. -/
def encodingFault? (t : Text) : Option EncodingFault :=
  let before := t.takeWhile (!CodePoint.isSurrogate ·)
  match (t.drop before.length).takeWhile CodePoint.isSurrogate with
  | [] => none
  | run => some ⟨t, before.length, before.length + run.length - 1⟩

end Text

namespace Utf8

def isTail (b : UInt8) : Bool := 0x80 ≤ b && b ≤ 0xBF

/-- A second octet after the lead of three: it excludes overlong forms and surrogates. -/
def isSecondOfThree (lead b : UInt8) : Bool :=
  if lead = 0xE0 then 0xA0 ≤ b && b ≤ 0xBF
  else if lead = 0xED then 0x80 ≤ b && b ≤ 0x9F
  else isTail b

/-- A second octet after the lead of four: it excludes overlong forms and values above U+10FFFF. -/
def isSecondOfFour (lead b : UInt8) : Bool :=
  if lead = 0xF0 then 0x90 ≤ b && b ≤ 0xBF
  else if lead = 0xF4 then 0x80 ≤ b && b ≤ 0x8F
  else isTail b

def bits (b : UInt8) : Nat := b.toNat % 64

/-- What stands for octets that are no character. -/
def replacement : CodePoint := 0xFFFD

/-- Every octet string read as text. An octet that cannot continue the character before it begins
anew, so a replacement stands for the longest beginning of a character. -/
def decodeLossy : Bytes → Text
  | [] => []
  | a :: rest =>
    if a < 0x80 then .ofNat a.toNat :: decodeLossy rest
    else if 0xC2 ≤ a && a ≤ 0xDF then
      match rest with
      | [] => [replacement]
      | b :: rest₁ =>
        if isTail b then .ofNat (a.toNat % 32 * 64 + bits b) :: decodeLossy rest₁
        else replacement :: decodeLossy (b :: rest₁)
    else if 0xE0 ≤ a && a ≤ 0xEF then
      match rest with
      | [] => [replacement]
      | b :: rest₁ =>
        if isSecondOfThree a b then
          match rest₁ with
          | [] => [replacement]
          | c :: rest₂ =>
            if isTail c then
              .ofNat (a.toNat % 16 * 4096 + bits b * 64 + bits c) :: decodeLossy rest₂
            else replacement :: decodeLossy (c :: rest₂)
        else replacement :: decodeLossy (b :: rest₁)
    else if 0xF0 ≤ a && a ≤ 0xF4 then
      match rest with
      | [] => [replacement]
      | b :: rest₁ =>
        if isSecondOfFour a b then
          match rest₁ with
          | [] => [replacement]
          | c :: rest₂ =>
            if isTail c then
              match rest₂ with
              | [] => [replacement]
              | d :: rest₃ =>
                if isTail d then
                  .ofNat (a.toNat % 8 * 262144 + bits b * 4096 + bits c * 64 + bits d) ::
                    decodeLossy rest₃
                else replacement :: decodeLossy (d :: rest₃)
            else replacement :: decodeLossy (c :: rest₂)
        else replacement :: decodeLossy (b :: rest₁)
    else replacement :: decodeLossy rest

end Utf8
end BlobVault
