import Keyring.Text.Basic

/-!
# UTF-8

`encode` writes text as octets and refuses text that holds a surrogate. `decode` reads octets back
and is strict: no longer form than needed, no surrogate, nothing above `0x10FFFF`. A refusal says
which run of code points or octets is at fault, since messages name the place.

`decodeBlocks` reads octets that arrive in blocks of limited size, as a file is read. It accepts the
same octets; only the place that it names counts from the start of the block at fault.
-/

namespace Keyring.Utf8

/-- A run of adjacent surrogates that keeps a text from being encoded. -/
structure Unencodable where
  /-- The first surrogate of the run. -/
  point : CodePoint
  /-- The index of the first surrogate. -/
  start : Nat
  /-- The index after the last surrogate. -/
  stop : Nat
  deriving DecidableEq, Repr

/-- The octets of one code point. -/
def encodePoint (point : CodePoint) : Bytes :=
  let value := point.val
  if value < 0x80 then [UInt8.ofNat value]
  else if value < 0x800 then
    [UInt8.ofNat (0xC0 + value / 64), UInt8.ofNat (0x80 + value % 64)]
  else if value < 0x10000 then
    [UInt8.ofNat (0xE0 + value / 4096), UInt8.ofNat (0x80 + value / 64 % 64),
      UInt8.ofNat (0x80 + value % 64)]
  else
    [UInt8.ofNat (0xF0 + value / 262144), UInt8.ofNat (0x80 + value / 4096 % 64),
      UInt8.ofNat (0x80 + value / 64 % 64), UInt8.ofNat (0x80 + value % 64)]

/-- The octets of a text, taking every code point by the same rule. -/
def octets (text : Text) : Bytes :=
  text.flatMap encodePoint

/-- Text without surrogates. -/
def isEncodable (text : Text) : Bool :=
  text.all fun point => !point.isSurrogate

/-- The first run of surrogates, counting from `start`. -/
def firstSurrogates (start : Nat) : Text → Option Unencodable
  | [] => none
  | point :: rest =>
    if point.isSurrogate then
      some ⟨point, start, start + 1 + (rest.takeWhile CodePoint.isSurrogate).length⟩
    else firstSurrogates (start + 1) rest

/-- The octets of a text, or the first run of surrogates in it. -/
def encode (text : Text) : Except Unencodable Bytes :=
  match firstSurrogates 0 text with
  | none => .ok (octets text)
  | some run => .error run

/-- Why octets are no UTF-8. -/
inductive Reason where
  /-- No character starts with this octet. -/
  | invalidStart
  /-- The octet after these does not continue their character. -/
  | invalidContinuation
  /-- The octets end inside a character. -/
  | truncated
  deriving DecidableEq, Repr

/-- A run of octets that keeps the whole from being decoded. -/
structure Undecodable where
  /-- The index of the first octet of the run. -/
  start : Nat
  /-- The index after the last octet of the run. -/
  stop : Nat
  /-- The first octet of the run. -/
  octet : UInt8
  /-- What is wrong with the run. -/
  reason : Reason
  deriving DecidableEq, Repr

/-- The same fault, seen from some octets earlier. -/
def Undecodable.later (count : Nat) (fault : Undecodable) : Undecodable :=
  { fault with start := fault.start + count, stop := fault.stop + count }

/-- The octets that continue a character. -/
def isContinuation (octet : UInt8) : Bool :=
  0x80 ≤ octet && octet ≤ 0xBF

/-- The octets that may follow the first octet of a character of three or four octets. -/
def isSecond (lead octet : UInt8) : Bool :=
  if lead = 0xE0 then 0xA0 ≤ octet && octet ≤ 0xBF
  else if lead = 0xED then 0x80 ≤ octet && octet ≤ 0x9F
  else if lead = 0xF0 then 0x90 ≤ octet && octet ≤ 0xBF
  else if lead = 0xF4 then 0x80 ≤ octet && octet ≤ 0x8F
  else isContinuation octet

/-- The six bits that a continuing octet carries. -/
def payload (octet : UInt8) : Nat :=
  octet.toNat % 64

/-- A decoded code point before the decoded rest, or the rest's fault `width` octets later. -/
def prepend (value width : Nat) :
    Except Undecodable Text → Except Undecodable Text
  | .ok text => .ok (CodePoint.ofNat value :: text)
  | .error fault => .error (fault.later width)

/-- The text that some octets encode, or the first run of octets that belongs to no character. -/
def decode : Bytes → Except Undecodable Text
  | [] => .ok []
  | lead :: rest =>
    if lead < 0x80 then prepend lead.toNat 1 (decode rest)
    else if lead < 0xC2 then .error ⟨0, 1, lead, .invalidStart⟩
    else if lead < 0xE0 then
      match rest with
      | [] => .error ⟨0, 1, lead, .truncated⟩
      | second :: rest =>
        if isContinuation second then
          prepend (lead.toNat % 32 * 64 + payload second) 2 (decode rest)
        else .error ⟨0, 1, lead, .invalidContinuation⟩
    else if lead < 0xF0 then
      match rest with
      | [] => .error ⟨0, 1, lead, .truncated⟩
      | second :: rest =>
        if isSecond lead second then
          match rest with
          | [] => .error ⟨0, 2, lead, .truncated⟩
          | third :: rest =>
            if isContinuation third then
              prepend (lead.toNat % 16 * 4096 + payload second * 64 + payload third) 3
                (decode rest)
            else .error ⟨0, 2, lead, .invalidContinuation⟩
        else .error ⟨0, 1, lead, .invalidContinuation⟩
    else if lead < 0xF5 then
      match rest with
      | [] => .error ⟨0, 1, lead, .truncated⟩
      | second :: rest =>
        if isSecond lead second then
          match rest with
          | [] => .error ⟨0, 2, lead, .truncated⟩
          | third :: rest =>
            if isContinuation third then
              match rest with
              | [] => .error ⟨0, 3, lead, .truncated⟩
              | fourth :: rest =>
                if isContinuation fourth then
                  prepend (lead.toNat % 8 * 262144 + payload second * 4096 + payload third * 64
                    + payload fourth) 4 (decode rest)
                else .error ⟨0, 3, lead, .invalidContinuation⟩
            else .error ⟨0, 2, lead, .invalidContinuation⟩
        else .error ⟨0, 1, lead, .invalidContinuation⟩
    else .error ⟨0, 1, lead, .invalidStart⟩

/-- The octets in blocks of `size`, the last one shorter. -/
def blocks (size : Nat) (bytes : Bytes) : List Bytes :=
  (List.range ((bytes.length + size - 1) / size)).map fun index =>
    (bytes.drop (index * size)).take size

/-- Octets stop where the next block may go on with their character. A block that stops after the
first two octets of a surrogate is not refused before the next one is there. -/
def isUnfinished (bytes : Bytes) (fault : Undecodable) : Bool :=
  match fault.reason, bytes.drop fault.start with
  | .truncated, _ => true
  | .invalidContinuation, [0xED, second] => 0xA0 ≤ second && second ≤ 0xBF
  | _, _ => false

/-- The text of octets that arrive block by block. Octets that are unfinished at the end of a block
wait in `pending` for the next one, and are a fault when there is none. -/
def decodeBlocks (pending : Bytes) : List Bytes → Except Undecodable Text
  | [] => decode pending
  | block :: later =>
    let present := pending ++ block
    match decode present with
    | .ok text => (decodeBlocks [] later).map (text ++ ·)
    | .error fault =>
      if isUnfinished present fault then
        match decode (present.take fault.start) with
        | .ok text => (decodeBlocks (present.drop fault.start) later).map (text ++ ·)
        | .error earlier => .error earlier
      else .error fault

end Keyring.Utf8
