import Phux.ByteReader

/-! JSON values as the agent stream carries them, and the codec that reads and
writes their text. -/

namespace Phux

open ByteReader

inductive JsonNumber where
  | posInt (n : UInt64)
  | negInt (n : Int64)
  | float (bits : UInt64)
deriving DecidableEq

inductive JsonValue where
  | null
  | bool (b : Bool)
  | number (n : JsonNumber)
  | string (s : String)
  | array (items : List JsonValue)
  | object (members : List (String × JsonValue))

namespace JsonValue

def get (key : String) : JsonValue → Option JsonValue
  | object members => members.lookup key
  | _ => none

def asU64 : JsonValue → Option UInt64
  | number (.posInt n) => some n
  | _ => none

def asStr : JsonValue → Option String
  | string s => some s
  | _ => none

def asArray : JsonValue → Option (List JsonValue)
  | array items => some items
  | _ => none

end JsonValue

/-- The JSON library: what a text parses to, and the compact text of a value. -/
structure JsonCodec where
  parse : Bytes → Except String JsonValue
  print : JsonValue → Bytes

def decimal (n : UInt64) : Bytes := (Nat.toDigits 10 n.toNat).map Char.toUInt8

def isAsciiWhitespace (b : UInt8) : Bool :=
  b = 9 || b = 10 || b = 12 || b = 13 || b = 32

def trimMatches (p : UInt8 → Bool) (line : Bytes) : Bytes :=
  ((line.dropWhile p).reverse.dropWhile p).reverse

def trimAscii (line : Bytes) : Bytes := trimMatches isAsciiWhitespace line

end Phux
