/-!
# Text — reading bytes as UTF-8

A byte sequence is read from the left as a row of encoded characters and of faulty parts. A faulty
part is the longest start of an encoding that cannot be continued, or one byte.

* `decodeStep`: the first character or the length of the first faulty part.
* `decodeLossy`: every faulty part becomes one replacement character.
* `decodeStrict`: the text, or where and how the first faulty part begins.
-/

namespace MeshDoctor.Text

/-- What stands at the front of a byte sequence. -/
inductive Front where
  /-- An encoded character of this many bytes. -/
  | char (c : Char) (length : Nat)
  /-- Bytes that no further byte can repair. -/
  | faulty (length : Nat)
  /-- The start of an encoding that the sequence breaks off. -/
  | truncated
  deriving Repr

/-- Is this byte a continuation, within the stated limits? -/
def inRange (low high : Nat) (b : UInt8) : Bool :=
  low ≤ b.toNat && b.toNat ≤ high

/-- The limits on the second byte of an encoding that starts with `lead`. -/
def secondRange (lead : Nat) : Nat × Nat :=
  if lead = 0xE0 then (0xA0, 0xBF)
  else if lead = 0xED then (0x80, 0x9F)
  else if lead = 0xF0 then (0x90, 0xBF)
  else if lead = 0xF4 then (0x80, 0x8F)
  else (0x80, 0xBF)

/-- How many bytes an encoding has that starts with `lead`, `0` if none does. -/
def sequenceLength (lead : Nat) : Nat :=
  if lead < 0x80 then 1
  else if 0xC2 ≤ lead && lead ≤ 0xDF then 2
  else if 0xE0 ≤ lead && lead ≤ 0xEF then 3
  else if 0xF0 ≤ lead && lead ≤ 0xF4 then 4
  else 0

/-- The front of a sequence that starts with `b`, followed by `rest`. -/
def decodeStep (b : UInt8) (rest : List UInt8) : Front :=
  let lead := b.toNat
  let (low, high) := secondRange lead
  let cont (x : UInt8) : Nat := x.toNat % 64
  match sequenceLength lead with
  | 0 => .faulty 1
  | 1 => .char (Char.ofNat lead) 1
  | 2 =>
    match rest with
    | [] => .truncated
    | x :: _ => if inRange low high x then .char (Char.ofNat (lead % 32 * 64 + cont x)) 2 else .faulty 1
  | 3 =>
    match rest with
    | [] => .truncated
    | [x] => if inRange low high x then .truncated else .faulty 1
    | x :: y :: _ =>
      if !inRange low high x then .faulty 1
      else if !inRange 0x80 0xBF y then .faulty 2
      else .char (Char.ofNat (lead % 16 * 4096 + cont x * 64 + cont y)) 3
  | _ =>
    match rest with
    | [] => .truncated
    | [x] => if inRange low high x then .truncated else .faulty 1
    | [x, y] =>
      if !inRange low high x then .faulty 1
      else if !inRange 0x80 0xBF y then .faulty 2
      else .truncated
    | x :: y :: z :: _ =>
      if !inRange low high x then .faulty 1
      else if !inRange 0x80 0xBF y then .faulty 2
      else if !inRange 0x80 0xBF z then .faulty 3
      else .char (Char.ofNat (lead % 8 * 262144 + cont x * 4096 + cont y * 64 + cont z)) 4

/-- Reads a byte sequence with a replacement character for every faulty part. -/
def decodeLossy : List UInt8 → List Char
  | [] => []
  | b :: rest =>
    match decodeStep b rest with
    | .char c n => c :: decodeLossy (rest.drop (n - 1))
    | .faulty n => '\uFFFD' :: decodeLossy (rest.drop (n - 1))
    | .truncated => ['\uFFFD']
  termination_by bytes => bytes.length
  decreasing_by all_goals simp only [List.length_drop, List.length_cons]; omega

/-- Where a byte sequence stops being UTF-8. -/
structure Utf8Error where
  /-- The number of well-formed bytes before the fault. -/
  offset : Nat
  /-- The length of the faulty part, none when the sequence breaks off. -/
  length : Option Nat
  deriving DecidableEq, Repr

/-- The wording of a fault. -/
def Utf8Error.message (e : Utf8Error) : String :=
  match e.length with
  | some n => "invalid utf-8 sequence of " ++ toString n ++ " bytes from index " ++ toString e.offset
  | none => "incomplete utf-8 byte sequence from index " ++ toString e.offset

/-- Reads a byte sequence that starts `offset` bytes into its text. -/
def decodeStrictFrom (offset : Nat) : List UInt8 → Except Utf8Error (List Char)
  | [] => .ok []
  | b :: rest =>
    match decodeStep b rest with
    | .char c n => (decodeStrictFrom (offset + n) (rest.drop (n - 1))).map (c :: ·)
    | .faulty n => .error ⟨offset, some n⟩
    | .truncated => .error ⟨offset, none⟩
  termination_by bytes => bytes.length
  decreasing_by all_goals simp only [List.length_drop, List.length_cons]; omega

/-- The text that a byte sequence encodes. -/
def decodeStrict (bytes : List UInt8) : Except Utf8Error String :=
  (decodeStrictFrom 0 bytes).map String.ofList

/-- The bytes that encode a text. -/
def encode (text : String) : List UInt8 :=
  text.toUTF8.toList

end MeshDoctor.Text
