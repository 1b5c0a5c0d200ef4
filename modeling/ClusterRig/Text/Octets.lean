/-!
# Octets

Programs exchange bytes. Where these are looked at one by one, each byte is the
character with its number, so that all characters are below 256.
-/

namespace ClusterRig
namespace Text

def ofOctets (bytes : List UInt8) : List Char := bytes.map fun b => Char.ofNat b.toNat

def toOctets (s : List Char) : List UInt8 := s.map fun c => UInt8.ofNat c.toNat

/-- The octets of a string. -/
def octets (s : String) : List Char := ofOctets s.toUTF8.toList

end Text
end ClusterRig
