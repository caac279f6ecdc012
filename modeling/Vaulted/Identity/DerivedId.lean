import Vaulted.Crypto.Envelope
import Vaulted.Oracle.Identity

/-!
# The id of an identity

Client and Oracle derive it from the two public keys, the client from their bytes and the Oracle
from their hexadecimal texts.

* `Presented` — the two texts are those of the keys, in any letter case, and are accepted.
* `derivesOther` — the ids are never the same.
-/

namespace Vaulted.Identity

/-- The texts of the public keys of an identity, as `register_identity` accepts them. -/
structure Presented (c : EnvelopeCrypto) (identity : VaultedIdentityKeys)
    (signingPublicKey encryptionPublicKey : String) : Prop where
  signing : Text.hexDecode signingPublicKey = .ok identity.signingPublic
  encryption : Text.hexDecode encryptionPublicKey = .ok (identity.encryptionPublicKey c)
  signingAccepted : validateHexKey signingPublicKey 32 "signing_public_key" = .ok ()
  encryptionAccepted : validateHexKey encryptionPublicKey 32 "encryption_public_key" = .ok ()

/-- What is accepted is a key of its length. -/
lemma length_of_validateHexKey {value field : String} {n : Nat} {bytes : List UInt8}
    (h : validateHexKey value n field = .ok ()) (hbytes : Text.hexDecode value = .ok bytes) :
    bytes.length = n := by
  rw [validateHexKey, hbytes] at h
  exact of_decide_eq_true (ensure_eq_ok h)

/-- **Client and Oracle never derive the same id.** Both hash one label and the two public keys, but
the client takes their bytes and the Oracle their hexadecimal texts, which are twice as long. -/
theorem derivesOther {state : AppState} {c : EnvelopeCrypto} (hsame : c.sha256 = state.sha256)
    (hsha : ∀ bytes bytes', state.sha256 bytes = state.sha256 bytes' → bytes = bytes')
    (identity : VaultedIdentityKeys) {signingPublicKey encryptionPublicKey : String}
    (h : Presented c identity signingPublicKey encryptionPublicKey) :
    deriveIdentityId state signingPublicKey encryptionPublicKey ≠ identity.identityIdHex c := by
  intro heq
  rw [deriveIdentityId, VaultedIdentityKeys.identityIdHex, hsame] at heq
  have hbytes := hsha _ _ (Text.hexEncode_injective heq)
  rw [Text.utf8_append, Text.utf8_append, List.append_assoc, List.append_assoc] at hbytes
  -- two digits for each byte, and there are bytes
  have hlength := congrArg List.length (List.append_cancel_left hbytes)
  rw [List.length_append, List.length_append, Text.length_of_hexDecode h.signing,
    Text.length_of_hexDecode h.encryption, length_of_validateHexKey h.signingAccepted h.signing,
    length_of_validateHexKey h.encryptionAccepted h.encryption] at hlength
  omega

namespace Sample

def signingPublic : List UInt8 := List.replicate 32 1

def encryptionPublic : List UInt8 := List.replicate 32 2

/-- The digests of what client and Oracle hash for one identity, and something else for everything
else. -/
def sha256 (bytes : List UInt8) : List UInt8 :=
  if bytes = Text.utf8 ("Vaulted v1 identity id" ++ Text.hexEncode signingPublic
      ++ Text.hexEncode encryptionPublic) then
    [64, 199, 79, 69, 150, 148, 245, 94, 69, 71, 48, 69, 24, 37, 67, 72, 31, 18, 234, 27, 110, 133,
      231, 139, 5, 252, 52, 16, 113, 93, 122, 125]
  else if bytes = Text.utf8 "Vaulted v1 identity id" ++ signingPublic ++ encryptionPublic then
    [231, 98, 166, 43, 217, 43, 199, 141, 237, 183, 64, 247, 119, 119, 249, 35, 52, 106, 83, 161, 65,
      203, 3, 160, 6, 141, 236, 55, 37, 136, 12, 16]
  else 0 :: bytes

def oracle : AppState where
  host := "127.0.0.1"
  port := 8080
  publicUrl := none
  jwtExpirationHours := 24
  dbEncryptionKey := none
  storageNodeUrl := none
  oracleAddress := none
  sha256 := sha256

def oneKey : EnvelopeCrypto where
  publicKey _ := encryptionPublic
  diffieHellman secret _ := secret
  hkdf _ ikm _ := ikm
  encrypt _ _ _ msg := msg
  decrypt _ _ _ ciphertext := some ciphertext
  sha256 := sha256

def identity : VaultedIdentityKeys := ⟨signingPublic, List.replicate 32 3⟩

lemma presented : Presented oneKey identity (Text.hexEncode signingPublic)
    (Text.hexEncode encryptionPublic) where
  signing := Text.hexDecode_hexEncode _
  encryption := Text.hexDecode_hexEncode _
  signingAccepted := by decide +kernel
  encryptionAccepted := by decide +kernel

lemma digest_injective (bytes bytes' : List UInt8) (h : sha256 bytes = sha256 bytes') :
    bytes = bytes' := by
  unfold sha256 at h
  split_ifs at h with h1 h2 h3 h4 h5 h6 h7
  all_goals simp_all

theorem derivesOther_identity : deriveIdentityId oracle (Text.hexEncode signingPublic)
    (Text.hexEncode encryptionPublic) ≠ identity.identityIdHex oneKey :=
  derivesOther rfl digest_injective identity presented

/-- **Two ids for one identity.** -/
theorem not_derivesSame : ¬∀ (identity : VaultedIdentityKeys) (signingPublicKey encryptionPublicKey),
    Presented oneKey identity signingPublicKey encryptionPublicKey →
      deriveIdentityId oracle signingPublicKey encryptionPublicKey
        = identity.identityIdHex oneKey := by
  intro h
  have hsame := h identity _ _ presented
  exact absurd hsame (by decide +kernel)

end Sample

end Vaulted.Identity
