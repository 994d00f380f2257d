import Gpgme.Lib.CInt

/-! C strings as byte lists without their terminator.
A pointer into a string is the suffix that starts there, so that two pointers into one
string are equal exactly when their suffixes are.
-/

abbrev Str := List UInt8

/-- What holds of the members of a string is decided along it, not by trying every byte. -/
instance Str.decidableForallMem (s : Str) (p : UInt8 → Prop) [DecidablePred p]
    : Decidable (∀ c ∈ s, p c) :=
  List.decidableBAll p s

instance Str.decidableForallByte (c : Option UInt8) (p : UInt8 → Prop) [DecidablePred p]
    : Decidable (∀ byte ∈ c, p byte) :=
  c.decidableForallMem

namespace CString

/-- The bytes of a string literal. -/
def str (literal : String) : Str := literal.toList.map (fun c => UInt8.ofNat c.toNat)

-----------------------------------------------------------------------------------------
-- Searching
-----------------------------------------------------------------------------------------

/-- The character code of a blank. -/
def blank : UInt8 := 32

/-- `while (*s == ' ') s++;` -/
def skipBlanks (s : Str) : Str := s.dropWhile (· == blank)

/-- `while (*s && *s != ' ') s++;` -/
def skipWord (s : Str) : Str := s.dropWhile (· != blank)

/-- The bytes in front of the first blank. -/
def word (s : Str) : Str := s.takeWhile (· != blank)

/-- `strchr (s, ' ')`: the suffix that starts with the first blank. -/
def strchrBlank (s : Str) : Option Str :=
  match skipWord s with
  | [] => none
  | found => some found

/-- `strncmp (s, start, strlen (start)) == 0`. -/
def startsWith (s start : Str) : Bool := s.take start.length == start

-----------------------------------------------------------------------------------------
-- Numbers
-----------------------------------------------------------------------------------------

/-- `isspace` in the C locale. -/
def isspace (c : UInt8) : Bool := c == 32 || (9 ≤ c && c ≤ 13)

/-- The value of a digit; every other byte gives a value that no base reaches. -/
def digitValue (c : UInt8) : Nat :=
  if 48 ≤ c ∧ c ≤ 57 then c.toNat - 48
  else if 97 ≤ c ∧ c ≤ 122 then c.toNat - 87
  else if 65 ≤ c ∧ c ≤ 90 then c.toNat - 55
  else 255

/-- The number that the leading digits of a string stand for, and what follows them. -/
def scanDigits (base : Nat) : Nat → Str → Nat × Str
  | value, [] => (value, [])
  | value, c :: rest =>
      if digitValue c < base then scanDigits base (value * base + digitValue c) rest
      else (value, c :: rest)

/-- The base that a prefix selects where the caller gives base 0, and the digits behind it.
A `0x` without a digit is the number 0 in front of an `x`.
-/
def selectBase (base : Nat) (s : Str) : Nat × Str :=
  match base, s with
  | 0, 48 :: x :: c :: rest =>
      if (x == 120 || x == 88) && digitValue c < 16 then (16, c :: rest)
      else (8, 48 :: x :: c :: rest)
  | 0, 48 :: rest => (8, 48 :: rest)
  | 0, s => (10, s)
  | base, s => (base, s)

def takeSign : Str → Bool × Str
  | 45 :: rest => (true, rest)
  | 43 :: rest => (false, rest)
  | s => (false, s)

/-- Sign, magnitude and end of the number at the start of a string, if there is one. -/
def scanNumber (base : Nat) (s : Str) : Option (Bool × Nat × Str) :=
  let (negative, afterSign) := takeSign (s.dropWhile isspace)
  let (base, digits) := selectBase base afterSign
  match digits with
  | [] => none
  | c :: _ =>
      if digitValue c < base then
        let (value, tail) := scanDigits base 0 digits
        some (negative, value, tail)
      else
        none

/-- The value a conversion returns, the end it stores and whether it sets `errno`. -/
structure Conversion (α : Type) where
  value : α
  tail : Str
  errno : Bool := false

def maxLong : Int := 9223372036854775807
def minLong : Int := -9223372036854775808
def maxUlong : Nat := 18446744073709551615

/-- `strtol`: out of range values are clamped. -/
def strtol (base : Nat) (s : Str) : Conversion Int :=
  match scanNumber base s with
  | none => { value := 0, tail := s }
  | some (negative, magnitude, tail) =>
      let value : Int := if negative then -magnitude else magnitude
      if value < minLong then { value := minLong, tail, errno := true }
      else if maxLong < value then { value := maxLong, tail, errno := true }
      else { value, tail }

/-- `strtoul`: out of range values are clamped and a sign negates in the unsigned type. -/
def strtoul (base : Nat) (s : Str) : Conversion Nat :=
  match scanNumber base s with
  | none => { value := 0, tail := s }
  | some (negative, magnitude, tail) =>
      if maxUlong < magnitude then { value := maxUlong, tail, errno := true }
      else if negative then { value := CInt.toSize (-magnitude), tail }
      else { value := magnitude, tail }

/-- `atoi`, the low half of what `strtol` returns. -/
def atoi (s : Str) : Int := CInt.toInt (strtol 10 s).value

end CString
