import Ovpnlane.Construction.Connect

/-!
# Saved passwords of OpenVPN Connect

`src/connect/password.rs` on macOS, and the part of `Profile` that calls it.  A credential is the
base64 of a salt of 16 bytes, a nonce of 12, the ciphertext and a tag of 16; the key comes from the
profile ID and the salt, and the plaintext is used only after the tag has been checked.

`Primitives` is PBKDF2-HMAC-SHA1 with 32767 iterations, AES-128-GCM without associated data, and the
decoder of `base64`.  The slicing functions that panic on a slice of another length are here the
partial functions they are.
-/

namespace Ovpnlane

namespace Connect

/-- The `base64`, `pbkdf2` and `aes_gcm` crates; a key is a `[u8; 16]`. -/
structure Primitives where
  base64Decode : List UInt8 → Option (List UInt8)
  Key : Type
  /-- `pbkdf2_hmac`, for a password and a salt. -/
  pbkdf2 : List UInt8 → List UInt8 → Key
  /-- `decrypt_in_place_detached`, for a nonce, a ciphertext and a tag. -/
  decrypt : Key → List UInt8 → List UInt8 → List UInt8 → Option (List UInt8)

/-- A panic of the slicing in `decode`. -/
inductive SliceFault
  | split
  | length
  /-- `Nonce::from_slice` or `Tag::from_slice` of another length. -/
  | size
  deriving DecidableEq

def splitAt (n : ℕ) (bytes : List UInt8) : Except SliceFault (List UInt8 × List UInt8) :=
  if n ≤ bytes.length then .ok (bytes.take n, bytes.drop n) else .error .split

def lengthMinus (bytes : List UInt8) (n : ℕ) : Except SliceFault ℕ :=
  if n ≤ bytes.length then .ok (bytes.length - n) else .error .length

/-- `GenericArray::from_slice`, for an array of `n` bytes. -/
def fromSlice (n : ℕ) (bytes : List UInt8) : Except SliceFault (List UInt8) :=
  if bytes.length = n then .ok bytes else .error .size

def maxCredential : ℕ := 64 * 1024

/-- `password_account`: the keychain account whose password may be used for this user. -/
def Profile.passwordAccount (profile : Profile) (username : String) : Option String :=
  if profile.savedPassword && profile.username == some username then some profile.id else none

namespace Primitives

variable (P : Primitives)

/-- `decode` from the decoded bytes on. -/
def openSealed (bytes : List UInt8) (profileId : String) :
    Except SliceFault (Except String String) := do
  let (salt, rest) ← splitAt 16 bytes
  let (nonce, rest) ← splitAt 12 rest
  let middle ← lengthMinus rest 16
  let (ciphertext, tag) ← splitAt middle rest
  let key := P.pbkdf2 (osString profileId) salt
  let nonce ← fromSlice 12 nonce
  let tag ← fromSlice 16 tag
  match P.decrypt key nonce ciphertext tag with
  | none => return .error "could not authenticate OpenVPN Connect credential"
  | some plaintext =>
    return context (toStr plaintext) "OpenVPN Connect credential is not UTF-8"

/-- `decode`: the outer error is a panic. -/
def decode (encoded : List UInt8) (profileId : String) : Except SliceFault (Except String String) :=
  if maxCredential < encoded.length then
    .ok (.error "OpenVPN Connect credential is too large")
  else
    match P.base64Decode encoded with
    | none => .ok (.error "invalid OpenVPN Connect credential encoding")
    | some bytes =>
      if bytes.length < 44 then .ok (.error "truncated OpenVPN Connect credential")
      else P.openSealed bytes profileId

/-- `read`, where `find` is `find_generic_password` for a service and an account, whose error is an
`OSStatus`. -/
def read (find : String → String → Except ℤ (List UInt8)) (profileId : String) :
    Except SliceFault (Except String (Option String)) :=
  match find "org.openvpn.client." profileId with
  | .ok encoded => (P.decode encoded profileId).map fun password => password.map some
  | .error status =>
    if status = -25300 then .ok (.ok none)
    else .ok (.error "OpenVPN Connect Keychain access failed or was denied")

end Primitives

end Connect

end Ovpnlane
