import Ovpnlane.Construction.Password
import Ovpnlane.Framework.Base64

/-!
# The stored credential

`Sealed` is what a credential consists of; its parts have the lengths of the format, so every run of
at least 44 bytes is one, in one way (`exists_sealed`).  `openSealed_bytes` is the whole of the
slicing: it never panics, and hands each part to the primitive it is for.
`credential_decode` says which inputs decode, and that decoding undoes the storing.
-/

namespace Ovpnlane

namespace Connect

/-! ## The format -/

/-- The parts of a credential. -/
structure Sealed where
  salt : List UInt8
  nonce : List UInt8
  ciphertext : List UInt8
  tag : List UInt8
  length_salt : salt.length = 16
  length_nonce : nonce.length = 12
  length_tag : tag.length = 16

namespace Sealed

variable (s : Sealed)

def bytes : List UInt8 := s.salt ++ (s.nonce ++ (s.ciphertext ++ s.tag))

/-- What is stored. -/
def encoded : List UInt8 := Base64.encode s.bytes

lemma length_bytes : s.bytes.length = 44 + s.ciphertext.length := by
  simp only [bytes, List.length_append, s.length_salt, s.length_nonce, s.length_tag]
  omega

lemma bytes_injective : Function.Injective bytes := by
  rintro ⟨salt, nonce, ciphertext, tag, hsalt, hnonce, htag⟩
    ⟨salt', nonce', ciphertext', tag', hsalt', hnonce', htag'⟩ h
  obtain ⟨rfl, h⟩ := List.append_inj h (hsalt.trans hsalt'.symm)
  obtain ⟨rfl, h⟩ := List.append_inj h (hnonce.trans hnonce'.symm)
  obtain ⟨rfl, rfl⟩ := List.append_inj' h (htag.trans htag'.symm)
  rfl

/-- A credential is determined by what is stored for it. -/
lemma encoded_injective : Function.Injective encoded := by
  intro s s' h
  have hdecode : Base64.decode s.encoded = some s.bytes := Base64.decode_eq_some.mpr rfl
  have hdecode' : Base64.decode s.encoded = some s'.bytes := Base64.decode_eq_some.mpr h
  exact bytes_injective (Option.some.inj (hdecode.symm.trans hdecode'))

end Sealed

/-- The first 16 bytes, the next 12, the last 16, and what lies between. -/
lemma exists_sealed {bytes : List UInt8} (h : 44 ≤ bytes.length) :
    ∃ s : Sealed, s.bytes = bytes := by
  let rest := (bytes.drop 16).drop 12
  have hrest : rest.length = bytes.length - 28 := by
    simp only [rest, List.length_drop]
    omega
  let s : Sealed :=
    { salt := bytes.take 16
      nonce := (bytes.drop 16).take 12
      ciphertext := rest.take (rest.length - 16)
      tag := rest.drop (rest.length - 16)
      length_salt := by rw [List.length_take]; omega
      length_nonce := by rw [List.length_take, List.length_drop]; omega
      length_tag := by rw [List.length_drop]; omega }
  refine ⟨s, ?_⟩
  change bytes.take 16 ++ ((bytes.drop 16).take 12 ++
    (rest.take (rest.length - 16) ++ rest.drop (rest.length - 16))) = bytes
  rw [List.take_append_drop, List.take_append_drop, List.take_append_drop]

/-! ## The slicing -/

lemma splitAt_append (front back : List UInt8) :
    splitAt front.length (front ++ back) = .ok (front, back) := by
  rw [splitAt, if_pos (by simp), List.take_left, List.drop_left]

lemma fromSlice_of_length {n : ℕ} {bytes : List UInt8} (h : bytes.length = n) :
    fromSlice n bytes = .ok bytes := if_pos h

namespace Primitives

variable (P : Primitives)

/-- The plaintext of a credential, if it is authentic. -/
def plaintext (s : Sealed) (profileId : String) : Option (List UInt8) :=
  P.decrypt (P.pbkdf2 (osString profileId) s.salt) s.nonce s.ciphertext s.tag

/-- The password of a credential. -/
def opened (s : Sealed) (profileId : String) : Except String String := do
  let plaintext ← context (P.plaintext s profileId)
    "could not authenticate OpenVPN Connect credential"
  context (toStr plaintext) "OpenVPN Connect credential is not UTF-8"

lemma opened_eq_ok {s : Sealed} {profileId password : String} :
    P.opened s profileId = .ok password ↔ P.plaintext s profileId = some (osString password) := by
  rw [opened, bind_eq_ok]
  simp only [context_eq_ok, toStr_eq_some]
  exact exists_eq_right

/-- The slicing finds the parts of a credential, and panics nowhere. -/
lemma openSealed_bytes (s : Sealed) (profileId : String) :
    P.openSealed s.bytes profileId = .ok (P.opened s profileId) := by
  have hsalt : splitAt 16 s.bytes = .ok (s.salt, s.nonce ++ (s.ciphertext ++ s.tag)) := by
    rw [← s.length_salt]
    exact splitAt_append ..
  have hnonce : splitAt 12 (s.nonce ++ (s.ciphertext ++ s.tag)) =
      .ok (s.nonce, s.ciphertext ++ s.tag) := by
    rw [← s.length_nonce]
    exact splitAt_append ..
  have hmiddle : lengthMinus (s.ciphertext ++ s.tag) 16 = .ok s.ciphertext.length := by
    rw [lengthMinus, List.length_append, s.length_tag, if_pos (by omega), Nat.add_sub_cancel]
  simp only [openSealed, hsalt, hnonce, hmiddle, splitAt_append, except_ok_bind,
    fromSlice_of_length s.length_nonce, fromSlice_of_length s.length_tag]
  rw [opened, plaintext]
  cases P.decrypt (P.pbkdf2 (osString profileId) s.salt) s.nonce s.ciphertext s.tag <;> rfl

lemma decode_encoded (hbase64 : ∀ encoded, P.base64Decode encoded = Base64.decode encoded)
    {s : Sealed} (hfits : s.encoded.length ≤ maxCredential) (profileId : String) :
    P.decode s.encoded profileId = P.openSealed s.bytes profileId := by
  rw [decode, if_neg (by omega), hbase64, Sealed.encoded, Base64.decode_eq_some.mpr rfl]
  exact if_neg (by rw [s.length_bytes]; omega)

/-- What is not a credential that fits is refused. -/
lemma decode_of_not_encoded (hbase64 : ∀ encoded, P.base64Decode encoded = Base64.decode encoded)
    {encoded : List UInt8}
    (h : ¬ (encoded.length ≤ maxCredential ∧ ∃ s : Sealed, encoded = s.encoded))
    (profileId : String) : ∃ text, P.decode encoded profileId = .ok (.error text) := by
  rw [decode]
  split_ifs with hlarge
  · exact ⟨_, rfl⟩
  · rw [hbase64]
    cases hbytes : Base64.decode encoded with
    | none => exact ⟨_, rfl⟩
    | some bytes =>
      refine ⟨_, if_pos (Nat.lt_of_not_le fun hlong => h ⟨by omega, ?_⟩)⟩
      obtain ⟨s, rfl⟩ := exists_sealed hlong
      exact ⟨s, Base64.decode_eq_some.mp hbytes⟩

/-- **Which inputs decode, and to what**: the base64 of a credential that fits the limit and is
authentic under the key of the profile, to its plaintext; nothing panics.  So what was stored for a
password is decoded to that password. -/
theorem credential_decode
    (hbase64 : ∀ encoded, P.base64Decode encoded = Base64.decode encoded) (profileId : String) :
    (∀ encoded, ∃ result, P.decode encoded profileId = .ok result ∧
      ∀ password, result = .ok password ↔ encoded.length ≤ 65536 ∧
        ∃ s : Sealed, encoded = Base64.encode s.bytes ∧
          P.decrypt (P.pbkdf2 (osString profileId) s.salt) s.nonce s.ciphertext s.tag =
            some (osString password)) ∧
      ∀ encrypt : P.Key → List UInt8 → List UInt8 → List UInt8 × List UInt8,
        (∀ key nonce plaintext, (encrypt key nonce plaintext).2.length = 16 ∧
          P.decrypt key nonce (encrypt key nonce plaintext).1 (encrypt key nonce plaintext).2 =
            some plaintext) →
        ∀ (password : String) (salt nonce ciphertext tag : List UInt8),
          salt.length = 16 → nonce.length = 12 →
          encrypt (P.pbkdf2 (osString profileId) salt) nonce (osString password) =
            (ciphertext, tag) →
          (Base64.encode (salt ++ (nonce ++ (ciphertext ++ tag)))).length ≤ 65536 →
          P.decode (Base64.encode (salt ++ (nonce ++ (ciphertext ++ tag)))) profileId =
            .ok (.ok password) := by
  refine ⟨fun encoded => ?_, ?_⟩
  · by_cases hencoded : encoded.length ≤ maxCredential ∧ ∃ s : Sealed, encoded = s.encoded
    · obtain ⟨hfits, s, rfl⟩ := hencoded
      refine ⟨_, (P.decode_encoded hbase64 hfits profileId).trans (P.openSealed_bytes s profileId),
        fun password => ?_⟩
      rw [P.opened_eq_ok]
      constructor
      · exact fun h => ⟨hfits, s, rfl, h⟩
      · rintro ⟨-, s', heq, h⟩
        obtain rfl := Sealed.encoded_injective heq
        exact h
    · obtain ⟨text, htext⟩ := P.decode_of_not_encoded hbase64 hencoded profileId
      refine ⟨_, htext, fun password => ⟨nofun, ?_⟩⟩
      rintro ⟨hfits, s, hs, -⟩
      exact absurd ⟨hfits, s, hs⟩ hencoded
  · intro encrypt hcipher password salt nonce ciphertext tag hsalt hnonce hencrypt hfits
    obtain ⟨htag, hdecrypt⟩ :=
      hcipher (P.pbkdf2 (osString profileId) salt) nonce (osString password)
    rw [hencrypt] at htag hdecrypt
    let s : Sealed := ⟨salt, nonce, ciphertext, tag, hsalt, hnonce, htag⟩
    have hopened : P.opened s profileId = .ok password := P.opened_eq_ok.mpr hdecrypt
    apply (P.decode_encoded hbase64 (s := s) hfits profileId).trans
    rw [P.openSealed_bytes, hopened]

/-- A password that `read` returns is in the item under the ID. -/
lemma read_eq_some {find : String → String → Except ℤ (List UInt8)} {profileId password : String} :
    P.read find profileId = .ok (.ok (some password)) ↔
      ∃ encoded, find "org.openvpn.client." profileId = .ok encoded ∧
        P.decode encoded profileId = .ok (.ok password) := by
  rw [read]
  cases find "org.openvpn.client." profileId with
  | ok encoded => simp [except_map_eq_ok]
  | error status =>
    simp only [reduceCtorEq, false_and, exists_false, iff_false]
    split_ifs <;> simp

end Primitives

/-! ## A credential of the test vectors -/

def vectorSalt : List UInt8 := [0, 1, 2, 3, 4, 5, 6, 7, 8, 9, 10, 11, 12, 13, 14, 15]

def vectorNonce : List UInt8 := [16, 17, 18, 19, 20, 21, 22, 23, 24, 25, 26, 27]

def vectorCiphertext : List UInt8 :=
  [135, 63, 149, 18, 54, 14, 253, 147, 74, 166, 35, 47, 12, 104, 55, 112, 229, 240, 207, 167, 43,
    115, 100, 103, 249, 48]

def vectorTag : List UInt8 :=
  [48, 95, 225, 74, 199, 182, 158, 7, 164, 223, 77, 249, 98, 137, 195, 34]

/-- The ID of the profile and the salt. -/
def vectorKey : List UInt8 × List UInt8 := (osString "1700000000123", vectorSalt)

def vectorPlaintext : List UInt8 := osString "synthetic-password-è-🔐"

/-- The cipher of the vector; other plaintexts are stored as they are, under a tag of zeros. -/
def vectorEncrypt (key : List UInt8 × List UInt8) (nonce plaintext : List UInt8) :
    List UInt8 × List UInt8 :=
  if key = vectorKey ∧ nonce = vectorNonce ∧ plaintext = vectorPlaintext then
    (vectorCiphertext, vectorTag)
  else (plaintext, List.replicate 16 0)

def vectorDecrypt (key : List UInt8 × List UInt8) (nonce ciphertext tag : List UInt8) :
    Option (List UInt8) :=
  if key = vectorKey ∧ nonce = vectorNonce ∧ ciphertext = vectorCiphertext ∧ tag = vectorTag then
    some vectorPlaintext
  else if tag = List.replicate 16 0 then some ciphertext
  else none

def vectorPrimitives : Primitives :=
  ⟨Base64.decode, List UInt8 × List UInt8, Prod.mk, vectorDecrypt⟩

lemma vectorDecrypt_encrypt (key : List UInt8 × List UInt8) (nonce plaintext : List UInt8) :
    (vectorEncrypt key nonce plaintext).2.length = 16 ∧
      vectorDecrypt key nonce (vectorEncrypt key nonce plaintext).1
        (vectorEncrypt key nonce plaintext).2 = some plaintext := by
  have hzeros : List.replicate 16 0 ≠ vectorTag := by decide
  by_cases hvector : key = vectorKey ∧ nonce = vectorNonce ∧ plaintext = vectorPlaintext
  · obtain ⟨rfl, rfl, rfl⟩ := hvector
    exact ⟨rfl, if_pos ⟨rfl, rfl, rfl, rfl⟩⟩
  · rw [vectorEncrypt, if_neg hvector, vectorDecrypt, if_neg (fun h => hzeros h.2.2.2), if_pos rfl]
    exact ⟨List.length_replicate, rfl⟩

/-- The credential as it is stored. -/
def vectorEncoded : String :=
  "AAECAwQFBgcICQoLDA0ODxAREhMUFRYXGBkaG4c/lRI2Dv2TSqYjLwxo" ++
    "N3Dl8M+nK3NkZ/kwMF/hSse2ngek3035YonDIg=="

theorem credential_vector :
    vectorPrimitives.decode (osString vectorEncoded) "1700000000123" =
      .ok (.ok "synthetic-password-è-🔐") := by
  have hencoded : osString vectorEncoded =
      Base64.encode (vectorSalt ++ (vectorNonce ++ (vectorCiphertext ++ vectorTag))) := by
    decide +kernel
  rw [hencoded]
  exact (vectorPrimitives.credential_decode (fun _ => rfl) "1700000000123").2 vectorEncrypt
    vectorDecrypt_encrypt "synthetic-password-è-🔐" vectorSalt vectorNonce vectorCiphertext
    vectorTag rfl rfl (by decide +kernel) (by decide +kernel)

end Connect

end Ovpnlane
