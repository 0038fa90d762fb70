import SpiWifi.Wire.Endian

/-!
Internet addresses and the sixteen bytes in which the chip takes an address with
a port: the family in little-endian order, the port in big-endian order, the
octets, and zeros.
-/

set_option autoImplicit false
set_option relaxedAutoImplicit false

namespace SpiWifi.Net

structure Ipv4 where
  a : UInt8
  b : UInt8
  c : UInt8
  d : UInt8
  deriving DecidableEq

namespace Ipv4

/-- The address of nobody; for a listener it stands for any address. -/
def unspecified : Ipv4 := ⟨0, 0, 0, 0⟩

def octets (address : Ipv4) : List UInt8 := [address.a, address.b, address.c, address.d]

/-- The address as the host counts it: the first octet is the highest byte. -/
def word (address : Ipv4) : UInt32 := UInt32.ofNat (Wire.ofLittle address.octets.reverse)

/-- The address as the chip counts it: the first octet is the lowest byte. -/
def reversedWord (address : Ipv4) : UInt32 := UInt32.ofNat (Wire.ofLittle address.octets)

def ofReversedWord (word : UInt32) : Ipv4 :=
  ⟨UInt8.ofNat word.toNat, UInt8.ofNat (word.toNat / 256), UInt8.ofNat (word.toNat / 65536),
    UInt8.ofNat (word.toNat / 16777216)⟩

theorem ofReversedWord_reversedWord (address : Ipv4) :
    ofReversedWord address.reversedWord = address := by
  obtain ⟨a, b, c, d⟩ := address
  have ha := a.toNat_lt
  have hb := b.toNat_lt
  have hc := c.toNat_lt
  have hd := d.toNat_lt
  simp only [ofReversedWord, reversedWord, octets, Wire.ofLittle, UInt32.toNat_ofNat',
    Ipv4.mk.injEq, ← UInt8.toNat_inj, UInt8.toNat_ofNat']
  omega

theorem toLittle_word (address : Ipv4) :
    Wire.toLittle 4 address.word.toNat = address.octets.reverse :=
  Wire.toLittle_ofNat_ofLittle rfl

/-- The chip's order of the bytes is the host's the other way round. -/
theorem swapBytes_word (address : Ipv4) : Wire.swapBytes address.word = address.reversedWord := by
  rw [Wire.swapBytes, toLittle_word, List.reverse_reverse]
  rfl

end Ipv4

structure SocketAddress where
  family : UInt16
  port : UInt16
  ip : Ipv4
  deriving DecidableEq

namespace SocketAddress

/-- The family of internet addresses. -/
def internetFamily : UInt16 := 2

def internet (ip : Ipv4) (port : UInt16) : SocketAddress := ⟨internetFamily, port, ip⟩

/-- Any address of the host, for listeners. -/
def any (port : UInt16) : SocketAddress := internet .unspecified port

def encode (address : SocketAddress) : List UInt8 :=
  Wire.toLittle 2 address.family.toNat ++ (Wire.toLittle 2 address.port.toNat).reverse ++
    address.ip.octets ++ List.replicate 8 0

/-- Reads the fields back; the trailing bytes are not looked at. -/
def decode? : List UInt8 → Option SocketAddress
  | f0 :: f1 :: p1 :: p0 :: a :: b :: c :: d :: _ =>
    some ⟨UInt16.ofNat (Wire.ofLittle [f0, f1]), UInt16.ofNat (Wire.ofLittle [p0, p1]),
      ⟨a, b, c, d⟩⟩
  | _ => none

theorem decode?_encode (address : SocketAddress) : decode? address.encode = some address := by
  obtain ⟨family, port, ip⟩ := address
  have hf := Wire.ofLittle_toLittle_word family
  have hp := Wire.ofLittle_toLittle_word port
  simp only [Wire.toLittle] at hf hp
  simp only [encode, Ipv4.octets, Wire.toLittle, List.reverse_cons, List.reverse_nil,
    List.nil_append, List.cons_append, decode?, hf, hp]

end SocketAddress

end SpiWifi.Net
