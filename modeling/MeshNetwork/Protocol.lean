import MeshNetwork.Framework.Bytes

namespace MeshNetwork

def tagI : UInt8 := 0x49
def tagD : UInt8 := 0x44

theorem tagI_ne_tagD : tagI ≠ tagD := by decide

/-- 808464432, four `'0'` characters: a frame for this destination goes to every node. -/
def broadcastID : UInt32 := 0x30303030

/-- The ID of the first node; entry `k` of the mask is about `baseID + k`. -/
def baseID : UInt32 := 0x20202020

/-- `"IDXXXX"`: the tag and the four bytes of an ID, as the swarm header and the handshake of the
driver both write it. -/
def idEntry (ID : UInt32) : List UInt8 :=
  [tagI, tagD, ((ID >>> 24) &&& 0xFF).toUInt8, ((ID >>> 16) &&& 0xFF).toUInt8,
    ((ID >>> 8) &&& 0xFF).toUInt8, ((ID >>> 0) &&& 0xFF).toUInt8]

theorem byte_and_mask (w : UInt32) : (w &&& 0xFF).toUInt8 = w.toUInt8 := by
  apply UInt8.toNat_inj.mp
  simp only [UInt32.toNat_toUInt8, UInt32.toNat_and]
  have h := Nat.and_two_pow_sub_one_eq_mod w.toNat 8
  change (w.toNat &&& 255) % 256 = w.toNat % 256
  rw [show (255 : Nat) = 2 ^ 8 - 1 from rfl, h]
  omega

theorem idEntry_eq (ID : UInt32) : idEntry ID = tagI :: tagD :: bigEndian ID := by
  simp only [idEntry, bigEndian, byte_and_mask]
  rfl

@[simp] theorem idEntry_length (ID : UInt32) : (idEntry ID).length = 6 := rfl

/-- The four ID bytes of a message that is long enough to hold an entry. -/
def announced : List UInt8 → Option UInt32
  | _ :: _ :: a :: b :: c :: e :: _ => some (ofBigEndian a b c e)
  | _ => none

theorem announced_idEntry (ID : UInt32) (rest : List UInt8) :
    announced (idEntry ID ++ rest) = some ID := by
  simp [idEntry_eq, bigEndian, announced, ofBigEndian_bigEndian]

end MeshNetwork
