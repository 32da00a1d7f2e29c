import NuxAuth.Lib.Bincode

/-!
# Text functions of the standard library

Parsing of IP addresses, trimming of white space and hexadecimal decoding, as
Rust's `core::net` parser, `str::trim` and `hex::decode` do them.  The address
parser reads its input from the left, gives back what a failed attempt
consumed, and accepts only if nothing is left.
-/

namespace NuxAuth.Lib.StdText

open NuxAuth.Lib.Bincode

/-! ## IP addresses -/

/-- An address, by its octets or by its groups. -/
inductive IpAddr where
  | v4 (octets : List Nat)
  | v6 (segments : List Nat)
deriving DecidableEq

/-- `char::to_digit`. -/
def toDigit (radix : Nat) (letter : Char) : Option Nat :=
  let value :=
    if '0' ≤ letter ∧ letter ≤ '9' then
      letter.toNat - '0'.toNat
    else if 'a' ≤ letter ∧ letter ≤ 'z' then
      letter.toNat - 'a'.toNat + 10
    else if 'A' ≤ letter ∧ letter ≤ 'Z' then
      letter.toNat - 'A'.toNat + 10
    else
      radix
  if value < radix then some value else none

/-- A number of at most `maxDigits` digits, not above `bound`. -/
def readNumber (radix maxDigits : Nat) (allowZeroPrefix : Bool)
    (bound : Nat) (input : List Char) : Option (Nat × List Char) :=
  let digits := input.takeWhile fun letter => (toDigit radix letter).isSome
  let value := digits.foldl
    (fun value letter => value * radix + (toDigit radix letter).getD 0) 0
  if digits.isEmpty ∨ maxDigits < digits.length ∨ bound < value then
    none
  else if ¬ allowZeroPrefix ∧ digits.head? = some '0' ∧ 1 < digits.length then
    none
  else
    some (value, input.drop digits.length)

/-- The separator in front of every element but the first. -/
def readSeparator (separator : Char) (index : Nat) (input : List Char) :
    Option (List Char) :=
  if index = 0 then
    some input
  else
    match input with
    | letter :: rest => if letter = separator then some rest else none
    | [] => none

/-- So many octets, with dots in between. -/
def readOctets : Nat → Nat → List Char → Option (List Nat × List Char)
  | 0, _, input => some ([], input)
  | remaining + 1, index, input => do
      let start ← readSeparator '.' index input
      let (octet, rest) ← readNumber 10 3 false 255 start
      let (octets, final) ← readOctets remaining (index + 1) rest
      return (octet :: octets, final)

/-- Four octets. -/
def readIpv4Addr (input : List Char) : Option (List Nat × List Char) :=
  readOctets 4 0 input

/-- Groups up to the limit, and whether the last two came as IPv4. -/
def readGroups : Nat → Nat → List Char → List Nat × Bool × List Char
  | 0, _, input => ([], false, input)
  | remaining + 1, index, input =>
      let embedded :=
        if 0 < remaining then
          (readSeparator ':' index input).bind readIpv4Addr
        else
          none
      match embedded with
      | some ([a, b, c, d], rest) => ([a * 256 + b, c * 256 + d], true, rest)
      | _ =>
          match (readSeparator ':' index input).bind
              (readNumber 16 4 true 65535) with
          | some (group, rest) =>
              let (groups, ipv4, final) :=
                readGroups remaining (index + 1) rest
              (group :: groups, ipv4, final)
          | none => ([], false, input)

/-- Eight groups; `::` stands for zeros, and an address of the other kind for
the last two. -/
def readIpv6Addr (input : List Char) : Option (List Nat × List Char) :=
  match readGroups 8 0 input with
  | (head, ipv4, rest) =>
      if head.length = 8 then
        some (head, rest)
      else if ipv4 then
        none
      else
        match rest with
        | ':' :: ':' :: rest =>
            let (tail, _, final) :=
              readGroups (8 - (head.length + 1)) 0 rest
            let zeros := List.replicate (8 - head.length - tail.length) 0
            some (head ++ zeros ++ tail, final)
        | _ => none

/-- `str::parse::<IpAddr>`. -/
def parseIpAddr (text : String) : Option IpAddr :=
  match readIpv4Addr text.toList with
  | some (octets, rest) => if rest.isEmpty then some (.v4 octets) else none
  | none =>
      match readIpv6Addr text.toList with
      | some (segments, rest) =>
          if rest.isEmpty then some (.v6 segments) else none
      | none => none

example : parseIpAddr "10.0.0.255" = some (.v4 [10, 0, 0, 255]) := by
  decide +kernel

example : parseIpAddr "fe80::1.2.3.4" =
    some (.v6 [0xfe80, 0, 0, 0, 0, 0, 0x102, 0x304]) := by
  decide +kernel

example : parseIpAddr "10.0.0.01" = none := by
  decide +kernel

/-! ## White space and hexadecimal digits -/

/-- `char::is_whitespace`: the Unicode property `White_Space`. -/
def isWhitespace (letter : Char) : Bool :=
  let code := letter.toNat
  (0x09 ≤ code && code ≤ 0x0d) || code = 0x20 || code = 0x85 ||
    code = 0xa0 || code = 0x1680 || (0x2000 ≤ code && code ≤ 0x200a) ||
    code = 0x2028 || code = 0x2029 || code = 0x202f || code = 0x205f ||
    code = 0x3000

/-- `str::trim`. -/
def trim (text : String) : String :=
  String.ofList
    (((text.toList.dropWhile isWhitespace).reverse.dropWhile
      isWhitespace).reverse)

/-- A hexadecimal digit, in either case. -/
def hexDigit (byte : UInt8) : Option UInt8 :=
  if 0x30 ≤ byte ∧ byte ≤ 0x39 then
    some (byte - 0x30)
  else if 0x41 ≤ byte ∧ byte ≤ 0x46 then
    some (byte - 0x41 + 10)
  else if 0x61 ≤ byte ∧ byte ≤ 0x66 then
    some (byte - 0x61 + 10)
  else
    none

/-- Two digits a byte. -/
def hexBytes : List UInt8 → Option (List UInt8)
  | [] => some []
  | [_] => none
  | high :: low :: rest => do
      let high ← hexDigit high
      let low ← hexDigit low
      let bytes ← hexBytes rest
      return (high * 16 + low) :: bytes

/-- `hex::decode`. -/
def hexDecode (text : String) : Option (List UInt8) :=
  hexBytes (utf8Bytes text)

/-- `percent_decode`: a percent sign without two digits stands for itself. -/
def percentDecode : List UInt8 → List UInt8
  | 0x25 :: high :: low :: rest =>
      match hexDigit high, hexDigit low with
      | some upper, some lower => (upper * 16 + lower) :: percentDecode rest
      | _, _ => 0x25 :: percentDecode (high :: low :: rest)
  | byte :: rest => byte :: percentDecode rest
  | [] => []

example : percentDecode (utf8Bytes "a%2Fb%zz%4") = utf8Bytes "a/b%zz%4" := by
  decide +kernel

/-! ## Numbers and ends -/

/-- `str::parse::<u16>`, with the texts of `ParseIntError`. -/
def parseU16 (text : String) : Except String UInt16 :=
  let invalid := "invalid digit found in string"
  let read (digits : List Char) : Except String UInt16 := do
    let value ← digits.foldlM
      (fun value letter =>
        match toDigit 10 letter with
        | none => .error invalid
        | some digit =>
            if value * 10 + digit < 2 ^ 16 then .ok (value * 10 + digit)
            else .error "number too large to fit in target type")
      0
    return UInt16.ofNat value
  match text.toList with
  | [] => .error "cannot parse integer from empty string"
  | ['+'] => .error invalid
  | ['-'] => .error invalid
  | '+' :: digits => read digits
  | digits => read digits

example : parseU16 "+08089" = .ok 8089 := by decide +kernel

/-- `str::trim_end_matches` with one letter. -/
def trimEndMatches (letter : Char) (text : String) : String :=
  String.ofList ((text.toList.reverse.dropWhile (· = letter)).reverse)

end NuxAuth.Lib.StdText
