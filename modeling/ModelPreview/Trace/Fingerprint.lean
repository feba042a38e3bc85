import ModelPreview.Json.Render

/-!
# Numbers and buffers in traces

Traces show floating-point numbers by their bits and buffers by their length, a hash and, if they
are short, their bytes.
-/

namespace ModelPreview
namespace Trace

/-- A number with the given count of hexadecimal digits. -/
def hex (digits n : Nat) : Json := .text (String.ofList (Json.hexChars digits n))

/-- A 32-bit number; both zeros look alike, and so do all NaNs. -/
def single (x : Float32) : Json :=
  if x.isNaN then .text "nan" else if x == 0 then hex 8 0 else hex 8 x.toBits.toNat

/-- A 64-bit number with the sign of its zero. -/
def double (x : Float) : Json := if x.isNaN then .text "nan" else hex 16 x.toBits.toNat

/-- A list of 32-bit numbers. -/
def singles (xs : List Float32) : Json := .list (xs.map single)

/-- The 64-bit FNV-1a hash. -/
def fnv (bytes : ByteArray) : UInt64 :=
  bytes.foldl (fun h b => (h ^^^ b.toUInt64) * 0x100000001b3) 0xcbf29ce484222325

/-- All bytes in hexadecimal. -/
def hexBytes (bytes : ByteArray) : String :=
  String.ofList (bytes.toList.flatMap fun b => Json.hexChars 2 b.toNat)

/-- Length, hash and, up to 256 bytes, the contents of a buffer. -/
def buffer (bytes : ByteArray) : Json :=
  .record [("len", .nat bytes.size), ("fnv", hex 16 (fnv bytes).toNat),
    ("hex", if 256 < bytes.size then .null else .text (hexBytes bytes))]

/-- The bytes of a 16-bit number, the low one first. -/
def bytes16 (n : UInt16) : List UInt8 := [n.toUInt8, (n >>> 8).toUInt8]

/-- The bytes of a 32-bit number, the low one first. -/
def bytes32 (n : UInt32) : List UInt8 :=
  [n.toUInt8, (n >>> 8).toUInt8, (n >>> 16).toUInt8, (n >>> 24).toUInt8]

/-- The bytes of a list of indices. -/
def indexBytes (xs : Array UInt16) : ByteArray :=
  xs.foldl (fun bytes x => (bytes16 x).foldl ByteArray.push bytes) .empty

/-- The bytes of a list of numbers, with one zero and one NaN. -/
def singleBytes (xs : List Float32) : ByteArray :=
  xs.foldl (fun bytes x =>
    let n : UInt32 := if x.isNaN then 0x7fc00000 else if x == 0 then 0 else x.toBits
    (bytes32 n).foldl ByteArray.push bytes) .empty

end Trace
end ModelPreview
