/-
# Fingerprints of credentials

A fingerprint is a short code for a url with the user name and the password that
go with it. The pool compares fingerprints to see whether a connection that
comes back was checked out under the credentials it would use today. The three
texts are first written as one byte string in which every field carries a tag
and its length, so that different triples are written differently; the code is
the beginning of the SHA-256 digest of that string.
-/

import ConnectionPooling.Digest.Sha256

namespace ConnectionPooling

/-- A user name and a password, either of which may be missing. -/
structure Credentials where
  /-- The user name. -/
  user : Option String := none
  /-- The password. -/
  password : Option String := none
  deriving DecidableEq

/-- A 64-bit code for a url with its credentials. -/
structure Fingerprint where
  /-- The code as a number. -/
  value : UInt64
  deriving DecidableEq

namespace Fingerprint

/-- One field as bytes: a missing text is a single zero; any other text is a
one, its length in bytes as eight bytes, and its UTF-8 bytes. -/
def encodeField : Option String → List UInt8
  | none => [0]
  | some text =>
      1 :: Digest.Sha256.bytesOfNat 8 text.utf8ByteSize ++ text.toUTF8.toList

/-- The byte string that stands for a url with its credentials. -/
def encode (url : String) (who : Credentials) : List UInt8 :=
  encodeField (some url) ++ encodeField who.user ++ encodeField who.password

/-- The number whose bytes these are, the most significant byte first. -/
def natOfBytes (bytes : List UInt8) : Nat :=
  bytes.foldl (fun n byte => 256 * n + byte.toNat) 0

/-- The fingerprint of a url with its credentials: the first eight bytes of the
digest of their byte string. -/
def of (url : String) (who : Credentials) : Fingerprint :=
  ⟨UInt64.ofNat (natOfBytes ((Digest.Sha256.digest (encode url who)).take 8))⟩

/-- The two hexadecimal digits of a byte. -/
def hexByte (byte : UInt8) : List Char :=
  [Nat.digitChar (byte.toNat / 16), Nat.digitChar (byte.toNat % 16)]

/-- The code as sixteen hexadecimal digits. -/
def hex (code : Fingerprint) : String :=
  String.ofList ((Digest.Sha256.bytesOfNat 8 code.value.toNat).flatMap hexByte)

end Fingerprint

end ConnectionPooling
