import WireSql.Digest.Sha256

/-!
# `WireSql.Auth`: proving and verifying a password

A client proves that it knows the password without sending it: it sends the digest of the password
under a mask that both sides can compute from the challenge. There are two schemes. In the first
the mask comes from SHA-1 and the server computes the whole proof again; in the second it comes
from SHA-256, and the server takes the mask off and digests what is left.

The empty password has proofs of its own: nothing in the first scheme, a single zero byte in the
second.
-/

namespace WireSql

/-- A scheme of proving a password. -/
inductive AuthPlugin where
  /-- Proofs under a mask of SHA-1. -/
  | nativePassword
  /-- Proofs under a mask of SHA-256. -/
  | cachingSha2
deriving DecidableEq, Repr

namespace AuthPlugin

/-- The name of a scheme on the wire. -/
def name : AuthPlugin → String
  | nativePassword => "mysql_native_password"
  | cachingSha2 => "caching_sha2_password"

/-- The scheme of a name. -/
def ofName? (name : String) : Option AuthPlugin :=
  if name == nativePassword.name then some nativePassword
  else if name == cachingSha2.name then some cachingSha2
  else none

end AuthPlugin

namespace Auth

open Digest

/-- Two sequences of bytes combined bit by bit, as far as the shorter one reaches. -/
def xor (a b : Bytes) : Bytes := List.zipWith (· ^^^ ·) a b

/-- Are two sequences of bytes the same? The bits in which they differ are collected over their whole
length, so that the time this takes does not tell where the first difference lies. -/
def sameBytes (a b : Bytes) : Bool :=
  a.length == b.length && (xor a b).foldl (· ||| ·) 0 == 0

/-- The proof of a password in the scheme of SHA-1. -/
def nativeProof (password : String) (challenge : Bytes) : Bytes :=
  if password.isEmpty then []
  else
    let secret := sha1 (Text.encode password)
    xor secret (sha1 (challenge ++ sha1 secret))

/-- The mask of a digested password under a challenge, in the scheme of SHA-256. -/
def sha2Mask (secret challenge : Bytes) : Bytes := sha256 (sha256 secret ++ challenge)

/-- The proof of a password in the scheme of SHA-256. -/
def sha2Proof (password : String) (challenge : Bytes) : Bytes :=
  if password.isEmpty then [0]
  else
    let secret := sha256 (Text.encode password)
    xor secret (sha2Mask secret challenge)

/-- Is this the proof of the password in the scheme of SHA-1? -/
def verifyNative (password : String) (challenge response : Bytes) : Bool :=
  if password.isEmpty then response.isEmpty
  else
    let expected := nativeProof password challenge
    expected.length == response.length && sameBytes expected response

/-- Is this a proof of the password in the scheme of SHA-256? -/
def verifySha2 (password : String) (challenge response : Bytes) : Bool :=
  if password.isEmpty then response == [0]
  else if response.length != 32 then false
  else
    let secret := sha256 (Text.encode password)
    sameBytes (sha256 (xor (sha2Mask secret challenge) response)) (sha256 secret)

end Auth

/-- Does the response prove the password under the challenge? -/
def AuthPlugin.verify (plugin : AuthPlugin) (password : String) (challenge response : Bytes) :
    Bool :=
  match plugin with
  | nativePassword => Auth.verifyNative password challenge response
  | cachingSha2 => Auth.verifySha2 password challenge response

/-- The proof of the password under the challenge. -/
def AuthPlugin.proof (plugin : AuthPlugin) (password : String) (challenge : Bytes) : Bytes :=
  match plugin with
  | nativePassword => Auth.nativeProof password challenge
  | cachingSha2 => Auth.sha2Proof password challenge

end WireSql
