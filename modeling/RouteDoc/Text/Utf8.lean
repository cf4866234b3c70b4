/-
UTF-8: bytes to characters and back.

`readChar` looks at the bytes in front and finds a character or a fault; the
two ways of reading a whole text differ only in what they do with a fault.
`decode` refuses the text and says where and why, `decodeLossy` puts the
replacement character in place of the faulty bytes and goes on behind them.

A fault covers the bytes that could still have begun a character: the lead byte
and the continuation bytes that fit it.
-/

namespace RouteDoc.Text

/-- Why bytes are no character. -/
inductive Utf8Reason where
  | startByte
  | continuationByte
  | endOfData
  deriving DecidableEq, Repr

def Utf8Reason.message : Utf8Reason → String
  | .startByte => "invalid start byte"
  | .continuationByte => "invalid continuation byte"
  | .endOfData => "unexpected end of data"

/-- A fault: the first byte and the offsets `start` to `stop` of the bytes concerned. -/
structure Utf8Fault where
  start : Nat
  stop : Nat
  byte : UInt8
  reason : Utf8Reason
  deriving DecidableEq, Repr

/-- What the bytes in front are, and how many bytes after the first belong to it. -/
inductive Utf8Step where
  | char (c : Char) (more : Nat)
  | fault (reason : Utf8Reason) (more : Nat)

def isContinuation (b : UInt8) : Bool := decide (0x80 ≤ b) && decide (b ≤ 0xBF)

/-- Whether `b` may follow the lead byte `lead` of a sequence of three or four bytes: sequences
that are longer than needed, surrogates and code points past the last one are cut off here. -/
def fitsSecond (lead b : UInt8) : Bool :=
  isContinuation b &&
    (if lead == 0xE0 then decide (0xA0 ≤ b)
     else if lead == 0xED then decide (b ≤ 0x9F)
     else if lead == 0xF0 then decide (0x90 ≤ b)
     else if lead == 0xF4 then decide (b ≤ 0x8F)
     else true)

def low6 (b : UInt8) : Nat := b.toNat % 64

/-- The character or fault that starts with `b`. -/
def readChar (b : UInt8) (rest : List UInt8) : Utf8Step :=
  if b < 0x80 then .char (Char.ofNat b.toNat) 0
  else if b < 0xC2 then .fault .startByte 0
  else if b < 0xE0 then
    match rest with
    | [] => .fault .endOfData 0
    | b2 :: _ =>
      if isContinuation b2 then .char (Char.ofNat (b.toNat % 32 * 64 + low6 b2)) 1
      else .fault .continuationByte 0
  else if b < 0xF0 then
    match rest with
    | [] => .fault .endOfData 0
    | b2 :: rest2 =>
      if !fitsSecond b b2 then .fault .continuationByte 0
      else match rest2 with
        | [] => .fault .endOfData 1
        | b3 :: _ =>
          if isContinuation b3 then
            .char (Char.ofNat (b.toNat % 16 * 4096 + low6 b2 * 64 + low6 b3)) 2
          else .fault .continuationByte 1
  else if b < 0xF5 then
    match rest with
    | [] => .fault .endOfData 0
    | b2 :: rest2 =>
      if !fitsSecond b b2 then .fault .continuationByte 0
      else match rest2 with
        | [] => .fault .endOfData 1
        | b3 :: rest3 =>
          if !isContinuation b3 then .fault .continuationByte 1
          else match rest3 with
            | [] => .fault .endOfData 2
            | b4 :: _ =>
              if isContinuation b4 then
                .char (Char.ofNat
                  (b.toNat % 8 * 262144 + low6 b2 * 4096 + low6 b3 * 64 + low6 b4)) 3
              else .fault .continuationByte 2
  else .fault .startByte 0

/-- Reads on at offset `pos`, where the next `skip` bytes belong to what was read last. -/
def decodeFrom (pos : Nat) (read : List Char) : Nat → List UInt8 → Except Utf8Fault (List Char)
  | _, [] => .ok read.reverse
  | skip + 1, _ :: rest => decodeFrom (pos + 1) read skip rest
  | 0, b :: rest =>
    match readChar b rest with
    | .char c more => decodeFrom (pos + 1) (c :: read) more rest
    | .fault reason more => .error ⟨pos, pos + more + 1, b, reason⟩

/-- The characters of `bytes`, or the first fault. -/
def decode (bytes : List UInt8) : Except Utf8Fault (List Char) := decodeFrom 0 [] 0 bytes

def decodeLossyFrom (read : List Char) : Nat → List UInt8 → List Char
  | _, [] => read.reverse
  | skip + 1, _ :: rest => decodeLossyFrom read skip rest
  | 0, b :: rest =>
    match readChar b rest with
    | .char c more => decodeLossyFrom (c :: read) more rest
    | .fault _ more => decodeLossyFrom (Char.ofNat 0xFFFD :: read) more rest

/-- The characters of `bytes`, with a replacement character for each fault. -/
def decodeLossy (bytes : List UInt8) : List Char := decodeLossyFrom [] 0 bytes

/-- The characters of a text that is read in blocks. A character that a block cuts in two is read
with the next block, and a fault is placed by its distance from the start of what was read at
once: the bytes left over and the block behind them. -/
def decodeBlocks (read : List Char) (left : List UInt8) :
    List (List UInt8) → Except Utf8Fault (List Char)
  | [] =>
    match decode left with
    | .ok cs => .ok (read ++ cs)
    | .error fault => .error fault
  | block :: rest =>
    let data := left ++ block
    match decode data with
    | .ok cs => decodeBlocks (read ++ cs) [] rest
    | .error fault =>
      if fault.reason == .endOfData then
        match decode (data.take fault.start) with
        | .ok cs => decodeBlocks (read ++ cs) (data.drop fault.start) rest
        | .error fault => .error fault
      else .error fault

/-- A text in blocks of a size, with fuel for their number. -/
def blocks (size : Nat) : Nat → List UInt8 → List (List UInt8)
  | 0, _ => []
  | _, [] => []
  | fuel + 1, b :: rest => (b :: rest).take size :: blocks size fuel ((b :: rest).drop size)

/-- The size of the blocks in which a text file is read. -/
def blockSize : Nat := 8192

/-- The characters of a text file that is read block by block, or the first fault. -/
def decodeByBlocks (bytes : List UInt8) : Except Utf8Fault (List Char) :=
  decodeBlocks [] [] (blocks blockSize bytes.length bytes)

/-- The bytes of a text. -/
def utf8 (s : String) : List UInt8 := s.toList.flatMap String.utf8EncodeChar

/-- Line endings as they are read from a text file: a carriage return, with or without a line
feed behind it, is a line feed. -/
def unifyLinesFrom (read : List Char) : List Char → List Char
  | [] => read.reverse
  | '\r' :: '\n' :: rest => unifyLinesFrom ('\n' :: read) rest
  | '\r' :: rest => unifyLinesFrom ('\n' :: read) rest
  | c :: rest => unifyLinesFrom (c :: read) rest

def unifyLines (s : List Char) : List Char := unifyLinesFrom [] s

end RouteDoc.Text
