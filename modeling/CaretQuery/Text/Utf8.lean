import CaretQuery.Text.Quoted

/-!
# UTF-8

Characters to bytes and back. A text with a lone surrogate cannot be encoded. Decoding stops at the
first fault and tells where it is, which bytes it covers, and whether they cannot start a character,
do not continue one, or end too early.
-/
namespace CaretQuery.Text.Utf8

def encodeChar (c : Char) : List UInt8 :=
  let n := c.toNat
  if n < 0x80 then [n.toUInt8]
  else if n < 0x800 then [(0xC0 + n / 0x40).toUInt8, (0x80 + n % 0x40).toUInt8]
  else if n < 0x10000 then
    [(0xE0 + n / 0x1000).toUInt8, (0x80 + n / 0x40 % 0x40).toUInt8, (0x80 + n % 0x40).toUInt8]
  else
    [(0xF0 + n / 0x40000).toUInt8, (0x80 + n / 0x1000 % 0x40).toUInt8,
      (0x80 + n / 0x40 % 0x40).toUInt8, (0x80 + n % 0x40).toUInt8]

def encode (s : String) : List UInt8 := s.toList.flatMap encodeChar

/-- What cannot be encoded: the position of the first lone surrogate, and the surrogates from there
up to the next character. -/
structure EncodeFault where
  position : Nat
  surrogates : List Char
  deriving DecidableEq, Repr

def EncodeFault.message (fault : EncodeFault) : String :=
  let place := match fault.surrogates with
    | [c] =>
      "character '\\u" ++ String.ofList (hexDigits 4 (codePoint c)) ++
        s!"' in position {fault.position}"
    | cs => s!"characters in position {fault.position}-{fault.position + cs.length - 1}"
  "'utf-8' codec can't encode " ++ place ++ ": surrogates not allowed"

/-- The first fault of a text that is to be encoded. -/
def encodeFault? (s : String) : Option EncodeFault :=
  let position := (s.toList.takeWhile fun c => !isLone c).length
  match (s.toList.dropWhile fun c => !isLone c).takeWhile isLone with
  | [] => none
  | surrogates => some ⟨position, surrogates⟩

inductive Reason where
  | invalidStart
  | invalidContinuation
  | unexpectedEnd
  deriving DecidableEq, Repr

/-- The first fault of a byte sequence: the position of its first byte, its bytes, the reason. -/
structure Fault where
  position : Nat
  bytes : List UInt8
  reason : Reason
  deriving DecidableEq, Repr

def Reason.message : Reason → String
  | .invalidStart => "invalid start byte"
  | .invalidContinuation => "invalid continuation byte"
  | .unexpectedEnd => "unexpected end of data"

def Fault.message (fault : Fault) : String :=
  let place := match fault.bytes with
    | [b] => "byte 0x" ++ String.ofList (hexDigits 2 b.toNat) ++ s!" in position {fault.position}"
    | bs => s!"bytes in position {fault.position}-{fault.position + bs.length - 1}"
  "'utf-8' codec can't decode " ++ place ++ ": " ++ fault.reason.message

/-- Bytes `0x80` to `0xBF`, which stand only after a first byte. -/
def isTail (b : UInt8) : Bool := 0x80 ≤ b.toNat && b.toNat < 0xC0

/-- The second byte of a longer character is restricted further after some first bytes, so that
nothing is written longer than needed, no surrogate is written, and U+10FFFF is the last. -/
def isSecond (a b : UInt8) : Bool :=
  isTail b &&
    (if a.toNat = 0xE0 then 0xA0 ≤ b.toNat
     else if a.toNat = 0xED then b.toNat < 0xA0
     else if a.toNat = 0xF0 then 0x90 ≤ b.toNat
     else if a.toNat = 0xF4 then b.toNat < 0x90
     else true)

/-- The number that the payload bits of a character's bytes spell. -/
def payload (lead : Nat) (tails : List UInt8) : Nat :=
  tails.foldl (fun n b => n * 0x40 + b.toNat % 0x40) lead

def consChar (n : Nat) : Except Fault (List Char) → Except Fault (List Char) :=
  Except.map (Char.ofNat n :: ·)

def decodeFrom (position : Nat) : List UInt8 → Except Fault (List Char)
  | [] => .ok []
  | a :: rest =>
    if a.toNat < 0x80 then consChar a.toNat (decodeFrom (position + 1) rest)
    else if a.toNat < 0xC2 ∨ 0xF5 ≤ a.toNat then .error ⟨position, [a], .invalidStart⟩
    else if a.toNat < 0xE0 then
      match rest with
      | [] => .error ⟨position, [a], .unexpectedEnd⟩
      | b :: rest =>
        if !isTail b then .error ⟨position, [a], .invalidContinuation⟩
        else consChar (payload (a.toNat % 0x20) [b]) (decodeFrom (position + 2) rest)
    else if a.toNat < 0xF0 then
      match rest with
      | [] => .error ⟨position, [a], .unexpectedEnd⟩
      | b :: rest =>
        if !isSecond a b then .error ⟨position, [a], .invalidContinuation⟩
        else match rest with
          | [] => .error ⟨position, [a, b], .unexpectedEnd⟩
          | c :: rest =>
            if !isTail c then .error ⟨position, [a, b], .invalidContinuation⟩
            else consChar (payload (a.toNat % 0x10) [b, c]) (decodeFrom (position + 3) rest)
    else
      match rest with
      | [] => .error ⟨position, [a], .unexpectedEnd⟩
      | b :: rest =>
        if !isSecond a b then .error ⟨position, [a], .invalidContinuation⟩
        else match rest with
          | [] => .error ⟨position, [a, b], .unexpectedEnd⟩
          | c :: rest =>
            if !isTail c then .error ⟨position, [a, b], .invalidContinuation⟩
            else match rest with
              | [] => .error ⟨position, [a, b, c], .unexpectedEnd⟩
              | d :: rest =>
                if !isTail d then .error ⟨position, [a, b, c], .invalidContinuation⟩
                else consChar (payload (a.toNat % 8) [b, c, d]) (decodeFrom (position + 4) rest)

/-- The characters of a byte sequence, or its first fault. -/
def decode (bytes : List UInt8) : Except Fault (List Char) := decodeFrom 0 bytes

end CaretQuery.Text.Utf8
