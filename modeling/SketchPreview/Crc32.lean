/-!
# CRC-32

The cyclic redundancy check of the IEEE 802.3 standard, in its reflected form, over the bytes of an
array. A table holds the effect of each byte value.

* `crcBit`, `crcTable`, `crcByte`: one bit, all byte values, one byte;
* `crc32`.
-/

namespace SketchPreview

/-- The check after one more bit. -/
def crcBit (c : UInt32) : UInt32 :=
  if c &&& 1 = 1 then (0xEDB88320 : UInt32) ^^^ (c >>> 1) else c >>> 1

/-- The check after eight more bits. -/
def crcBits (c : UInt32) : UInt32 := crcBit (crcBit (crcBit (crcBit (crcBit (crcBit (crcBit
  (crcBit c)))))))

/-- The effect of each byte value. -/
def crcTable : Array UInt32 := Array.ofFn fun (i : Fin 256) => crcBits (UInt32.ofNat i)

/-- The check after one more byte. -/
def crcByte (c : UInt32) (b : UInt8) : UInt32 :=
  crcTable.getD ((c ^^^ b.toUInt32) &&& 0xFF).toNat 0 ^^^ (c >>> 8)

/-- The CRC-32 of an array of bytes. -/
def crc32 (bytes : ByteArray) : UInt32 := bytes.foldl crcByte 0xFFFFFFFF ^^^ 0xFFFFFFFF

/-- A number as eight upper-case hexadecimal digits. -/
def hex8 (n : UInt32) : String :=
  let digits := (Nat.toDigits 16 n.toNat).map Char.toUpper
  String.ofList (List.replicate (8 - digits.length) '0' ++ digits)

end SketchPreview
