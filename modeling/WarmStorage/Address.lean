import WarmStorage.Hash.Keccak
import WarmStorage.Text.Hex

/-!
Texts of addresses. In data they are written in lower case; in messages the case of the letters
carries a checksum: a letter is a capital where the hash of the text has a digit of at least eight.
-/

namespace WarmStorage.Address

def toBytes (a : Address) : List UInt8 :=
  Bytes.ofNat 20 a.toNat

def ofBytes? (bs : List UInt8) : Option Address :=
  if bs.length = 20 then some (BitVec.ofNat 160 (Bytes.toNat bs)) else none

def hex (a : Address) : String :=
  Text.Hex.marked a.toBytes

def read? (s : String) : Option Address :=
  (Text.Hex.read? s).bind ofBytes?

def capitalize (digits hash : List Char) : List Char :=
  digits.zipWith (fun c h => if '8' ≤ h then c.toUpper else c) hash

def checksummed (a : Address) : String :=
  let digits := Text.Hex.encode a.toBytes
  let hash := Hash.Keccak.hashBytes (digits.map fun c => UInt8.ofNat c.toNat)
  String.ofList ('0' :: 'x' :: capitalize digits (Text.Hex.encode hash))

@[simp]
theorem ofBytes?_toBytes (a : Address) : ofBytes? a.toBytes = some a := by
  have small : a.toNat % Bytes.capacity 20 = a.toNat := Nat.mod_eq_of_lt a.isLt
  rw [ofBytes?, toBytes, Bytes.length_ofNat, if_pos rfl, Bytes.toNat_ofNat, small,
    BitVec.ofNat_toNat, BitVec.setWidth_eq]

@[simp]
theorem read?_hex (a : Address) : read? a.hex = some a := by
  simp [read?, hex]

end WarmStorage.Address

namespace WarmStorage.Digest

def toBytes (d : Digest) : List UInt8 :=
  Bytes.ofNat 32 d.toNat

def ofBytes? (bs : List UInt8) : Option Digest :=
  if bs.length = 32 then some (BitVec.ofNat 256 (Bytes.toNat bs)) else none

def hex (d : Digest) : String :=
  Text.Hex.marked d.toBytes

def read? (s : String) : Option Digest :=
  (Text.Hex.read? s).bind ofBytes?

end WarmStorage.Digest
