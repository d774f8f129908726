import PeerPost.Hash.Sha256
import PeerPost.Identifier

/-!
# Authors

An author is the public half of a peer: a name bound to a public key. The identifier of an author is
the hash of both, so authors with the same name and different keys stay apart.
-/

namespace PeerPost

/-- The public identity of a peer. -/
structure Author where
  id : AuthorId
  formatVersion : Int32
  name : String
  publicKey : Bytes
deriving DecidableEq

def bigEndian32 (w : UInt32) : Bytes :=
  Sha256.wordBytes w

def bigEndian64 (w : UInt64) : Bytes :=
  [(w >>> 56).toUInt8, (w >>> 48).toUInt8, (w >>> 40).toUInt8, (w >>> 32).toUInt8,
   (w >>> 24).toUInt8, (w >>> 16).toUInt8, (w >>> 8).toUInt8, w.toUInt8]

namespace Author

/-- The version of the form in which an author is hashed. -/
def currentVersion : Int32 := 1

/-- The greatest size of a name in bytes. -/
def maxNameSize : Nat := 50

/-- The greatest size of a public key in bytes. -/
def maxKeySize : Nat := 32

/-- What is hashed for the identifier of an author: a label, the version, the size of the name, the
name and the key. -/
def hashedBytes (version : Int32) (name : String) (key : Bytes) : Bytes :=
  Text.utf8 "courier/AUTHOR_ID" ++ bigEndian32 version.toUInt32 ++ bigEndian32 (UInt32.ofNat (Text.size name)) ++
    Text.utf8 name ++ key

/-- The identifier of the author with this name and key. -/
def deriveId (version : Int32) (name : String) (key : Bytes) : AuthorId :=
  ⟨⟨Sha256.digest (hashedBytes version name key)⟩⟩

/-- The author with this name and key. The name has 1 to 50 bytes and the key 1 to 32. -/
def create (name : String) (key : Bytes) : Except ValidationError Author := do
  checkSize "name" maxNameSize (Text.size name)
  checkSize "publicKey" maxKeySize key.length
  return ⟨deriveId currentVersion name key, currentVersion, name, key⟩

end Author

end PeerPost
