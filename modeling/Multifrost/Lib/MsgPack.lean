import Multifrost.Lib.Binary

/-!
# MessagePack values and their byte format

`MsgPack.Value` is the data model of the format.  `encode` writes the shortest form of each value
(fixed forms first, then the 8, 16 and 32 bit lengths) and doubles as `float 64`; `decode` reads
one value from the front of a byte string, in any of the forms of the format except `float 32`.
-/

namespace MsgPack

/-- The values a MessagePack document denotes. -/
inductive Value
  | nil
  | bool (b : Bool)
  | int (i : Int)
  | float (x : Float64)
  | str (s : String)
  | bin (bs : Bytes)
  | array (vs : List Value)
  | map (kvs : List (Value × Value))
  /-- a value of an extension type -/
  | ext (type : UInt8) (data : Bytes)

/-! ### Writing -/

/-- A header byte followed by a length or number of `k` bytes. -/
def header (tag : UInt8) (k n : Nat) : Bytes := tag :: Bytes.toBE k n

def encodeInt (i : Int) : Bytes :=
  if 0 ≤ i then
    if i < 0x80 then [UInt8.ofNat i.toNat]
    else if i < 2 ^ 8 then header 0xcc 1 i.toNat
    else if i < 2 ^ 16 then header 0xcd 2 i.toNat
    else if i < 2 ^ 32 then header 0xce 4 i.toNat
    else header 0xcf 8 i.toNat
  else
    if -0x20 ≤ i then [UInt8.ofNat (i + 0x100).toNat]
    else if -2 ^ 7 ≤ i then header 0xd0 1 (i + 2 ^ 8).toNat
    else if -2 ^ 15 ≤ i then header 0xd1 2 (i + 2 ^ 16).toNat
    else if -2 ^ 31 ≤ i then header 0xd2 4 (i + 2 ^ 32).toNat
    else header 0xd3 8 (i + 2 ^ 64).toNat

def encodeStr (s : String) : Bytes :=
  let bs := s.toUTF8.toList
  let n := bs.length
  (if n < 0x20 then [UInt8.ofNat (0xa0 + n)]
    else if n < 2 ^ 8 then header 0xd9 1 n
    else if n < 2 ^ 16 then header 0xda 2 n
    else header 0xdb 4 n) ++ bs

def encodeBin (bs : Bytes) : Bytes :=
  let n := bs.length
  (if n < 2 ^ 8 then header 0xc4 1 n
    else if n < 2 ^ 16 then header 0xc5 2 n
    else header 0xc6 4 n) ++ bs

def encodeArrayHeader (n : Nat) : Bytes :=
  if n < 0x10 then [UInt8.ofNat (0x90 + n)]
  else if n < 2 ^ 16 then header 0xdc 2 n
  else header 0xdd 4 n

def encodeMapHeader (n : Nat) : Bytes :=
  if n < 0x10 then [UInt8.ofNat (0x80 + n)]
  else if n < 2 ^ 16 then header 0xde 2 n
  else header 0xdf 4 n

def encodeExt (type : UInt8) (data : Bytes) : Bytes :=
  let n := data.length
  (if n = 1 then [0xd4]
    else if n = 2 then [0xd5]
    else if n = 4 then [0xd6]
    else if n = 8 then [0xd7]
    else if n = 16 then [0xd8]
    else if n < 2 ^ 8 then header 0xc7 1 n
    else if n < 2 ^ 16 then header 0xc8 2 n
    else header 0xc9 4 n) ++ type :: data

mutual

def encode : Value → Bytes
  | .nil => [0xc0]
  | .bool b => [if b then 0xc3 else 0xc2]
  | .int i => encodeInt i
  | .float x => 0xcb :: x.toBE
  | .str s => encodeStr s
  | .bin bs => encodeBin bs
  | .array vs => encodeArrayHeader vs.length ++ encodeArray vs
  | .map kvs => encodeMapHeader kvs.length ++ encodeMap kvs
  | .ext type data => encodeExt type data

def encodeArray : List Value → Bytes
  | [] => []
  | v :: vs => encode v ++ encodeArray vs

def encodeMap : List (Value × Value) → Bytes
  | [] => []
  | (k, v) :: kvs => encode k ++ encode v ++ encodeMap kvs

end

/-! ### Reading -/

/-- Split off the first `n` bytes. -/
def takeBytes (n : Nat) (bs : Bytes) : Option (Bytes × Bytes) :=
  if bs.length < n then none else some (bs.take n, bs.drop n)

/-- Read a number of `k` bytes. -/
def takeNat (k : Nat) (bs : Bytes) : Option (Nat × Bytes) :=
  (takeBytes k bs).map fun r => (Bytes.ofBE r.1, r.2)

/-- Read a two's complement number of `k` bytes. -/
def takeInt (k : Nat) (bs : Bytes) : Option (Value × Bytes) :=
  (takeNat k bs).map fun r =>
    (.int (if r.1 < 2 ^ (8 * k - 1) then (r.1 : Int) else (r.1 : Int) - 2 ^ (8 * k)), r.2)

def takeStr (n : Nat) (bs : Bytes) : Option (Value × Bytes) := do
  let (text, rest) ← takeBytes n bs
  let s ← String.fromUTF8? ⟨text.toArray⟩
  pure (.str s, rest)

def takeBin (n : Nat) (bs : Bytes) : Option (Value × Bytes) :=
  (takeBytes n bs).map fun r => (.bin r.1, r.2)

/-- Read the type of an extension, and its data. -/
def takeExt (n : Nat) : Bytes → Option (Value × Bytes)
  | [] => none
  | type :: bs => (takeBytes n bs).map fun r => (.ext type r.1, r.2)

mutual

/-- Read one value; `fuel` bounds the nesting and the number of elements. -/
def decode : Nat → Bytes → Option (Value × Bytes)
  | 0, _ => none
  | _ + 1, [] => none
  | fuel + 1, tag :: bs =>
    let t := tag.toNat
    if t < 0x80 then some (.int t, bs)
    else if t < 0x90 then decodeMap fuel (t - 0x80) bs
    else if t < 0xa0 then decodeArray fuel (t - 0x90) bs
    else if t < 0xc0 then takeStr (t - 0xa0) bs
    else if 0xe0 ≤ t then some (.int ((t : Int) - 0x100), bs)
    else match t with
      | 0xc0 => some (.nil, bs)
      | 0xc2 => some (.bool false, bs)
      | 0xc3 => some (.bool true, bs)
      | 0xc4 => (takeNat 1 bs).bind fun r => takeBin r.1 r.2
      | 0xc5 => (takeNat 2 bs).bind fun r => takeBin r.1 r.2
      | 0xc6 => (takeNat 4 bs).bind fun r => takeBin r.1 r.2
      | 0xc7 => (takeNat 1 bs).bind fun r => takeExt r.1 r.2
      | 0xc8 => (takeNat 2 bs).bind fun r => takeExt r.1 r.2
      | 0xc9 => (takeNat 4 bs).bind fun r => takeExt r.1 r.2
      | 0xcb => (takeBytes 8 bs).map fun r => (.float (Float64.ofBE r.1), r.2)
      | 0xcc => (takeNat 1 bs).map fun r => (.int r.1, r.2)
      | 0xcd => (takeNat 2 bs).map fun r => (.int r.1, r.2)
      | 0xce => (takeNat 4 bs).map fun r => (.int r.1, r.2)
      | 0xcf => (takeNat 8 bs).map fun r => (.int r.1, r.2)
      | 0xd0 => takeInt 1 bs
      | 0xd1 => takeInt 2 bs
      | 0xd2 => takeInt 4 bs
      | 0xd3 => takeInt 8 bs
      | 0xd4 => takeExt 1 bs
      | 0xd5 => takeExt 2 bs
      | 0xd6 => takeExt 4 bs
      | 0xd7 => takeExt 8 bs
      | 0xd8 => takeExt 16 bs
      | 0xd9 => (takeNat 1 bs).bind fun r => takeStr r.1 r.2
      | 0xda => (takeNat 2 bs).bind fun r => takeStr r.1 r.2
      | 0xdb => (takeNat 4 bs).bind fun r => takeStr r.1 r.2
      | 0xdc => (takeNat 2 bs).bind fun r => decodeArray fuel r.1 r.2
      | 0xdd => (takeNat 4 bs).bind fun r => decodeArray fuel r.1 r.2
      | 0xde => (takeNat 2 bs).bind fun r => decodeMap fuel r.1 r.2
      | 0xdf => (takeNat 4 bs).bind fun r => decodeMap fuel r.1 r.2
      | _ => none

def decodeArray : Nat → Nat → Bytes → Option (Value × Bytes)
  | 0, _, _ => none
  | _ + 1, 0, bs => some (.array [], bs)
  | fuel + 1, n + 1, bs => do
    let (v, bs) ← decode fuel bs
    match ← decodeArray fuel n bs with
    | (.array vs, bs) => pure (.array (v :: vs), bs)
    | _ => none

def decodeMap : Nat → Nat → Bytes → Option (Value × Bytes)
  | 0, _, _ => none
  | _ + 1, 0, bs => some (.map [], bs)
  | fuel + 1, n + 1, bs => do
    let (k, bs) ← decode fuel bs
    let (v, bs) ← decode fuel bs
    match ← decodeMap fuel n bs with
    | (.map kvs, bs) => pure (.map ((k, v) :: kvs), bs)
    | _ => none

end

/-- Read a document that is exactly one value; its length bounds the work: a byte may open a container
and be an element of another one. -/
def fromSlice (bs : Bytes) : Option Value :=
  match decode (2 * bs.length) bs with
  | some (v, []) => some v
  | _ => none

/-! ### Shapes of values -/

mutual

/-- No map occurs, at any depth. -/
def Value.mapFree : Value → Bool
  | .array vs => mapFreeAll vs
  | .map _ => false
  | _ => true

def mapFreeAll : List Value → Bool
  | [] => true
  | v :: vs => v.mapFree && mapFreeAll vs

end

mutual

/-- Built of nil, booleans, 64-bit integers, finite doubles, strings, arrays, and maps from
strings. -/
def Value.portable : Value → Bool
  | .nil => true
  | .bool _ => true
  | .int i => decide (-2 ^ 63 ≤ i ∧ i < 2 ^ 63)
  | .float x => x.isFinite
  | .str _ => true
  | .bin _ => false
  | .array vs => portableAll vs
  | .map kvs => portableEntries kvs
  | .ext .. => false

def portableAll : List Value → Bool
  | [] => true
  | v :: vs => v.portable && portableAll vs

def portableEntries : List (Value × Value) → Bool
  | [] => true
  | (.str _, v) :: kvs => v.portable && portableEntries kvs
  | _ :: _ => false

end

/-- The map with the given entries. -/
def Value.ofEntries (kvs : List (String × Value)) : Value :=
  .map (kvs.map fun kv => (.str kv.1, kv.2))

/-- The value stored under a string key. -/
def Value.field (name : String) : Value → Option Value
  | .map kvs => kvs.findSome? fun kv =>
    match kv.1 with
    | .str s => if s = name then some kv.2 else none
    | _ => none
  | _ => none

end MsgPack
