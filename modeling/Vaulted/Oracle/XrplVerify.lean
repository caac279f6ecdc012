import Vaulted.Oracle.Auth

/-!
# Signatures of XRPL wallets

`xrpl_verify.rs`: whether a public key, of either of the two kinds that XRPL knows, has signed a
message, and the address that belongs to a key.

* `XrplCrypto` — the signature schemes and hash functions, as parameters.
* `verifyXrplSignature` — the key is the one that the request brings.
* `deriveAddressFromPublicKey` — the wallet of a key.
-/

namespace Vaulted

/-- The k256, ed25519 and hash crates; a parser answers with the text of its error. -/
structure XrplCrypto where
  secpKey : List UInt8 → Except String Unit
  secpDer : List UInt8 → Except String Unit
  secpVerify : List UInt8 → List UInt8 → List UInt8 → Bool
  ed : Ed25519
  edKeyError : String
  sha512 : List UInt8 → List UInt8
  ripemd160 : List UInt8 → List UInt8

/-- A crypto to try things out with. -/
def XrplCrypto.transparent : XrplCrypto where
  secpKey _ := .ok ()
  secpDer _ := .ok ()
  secpVerify pk message sig := decide (sig = pk ++ message)
  ed := Ed25519.transparent
  edKeyError := ""
  sha512 message := message
  ripemd160 message := message

inductive SignatureError
  | InvalidPublicKey (message : String)
  | InvalidSignature (message : String)
  deriving DecidableEq, Repr

namespace SignatureError

/-- The text of an error (`Display`). -/
def display : SignatureError → String
  | InvalidPublicKey message => "Invalid public key: " ++ message
  | InvalidSignature message => "Invalid signature: " ++ message

end SignatureError

namespace XrplVerify

variable (x : XrplCrypto)

/-- Go on if `c` holds, or stop with `e`. -/
def check (c : Bool) (e : SignatureError) : Except SignatureError Unit :=
  if c then .ok () else .error e

def sha512FirstHalf (data : List UInt8) : List UInt8 := (x.sha512 data).take 32

/-- The key without its prefix. -/
def verifyEd25519Signature (publicKey : List UInt8) (message signatureHex : String) :
    Except SignatureError Bool := do
  check (decide (publicKey.length = 32))
    (.InvalidPublicKey ("Invalid Ed25519 key length: " ++ toString publicKey.length))
  check (x.ed.isKey publicKey) (.InvalidPublicKey x.edKeyError)
  let sig ← Pre.mapErr (fun _ => .InvalidSignature "Invalid hex encoding")
    (Text.hexDecode signatureHex)
  check (decide (sig.length = 64))
    (.InvalidSignature ("Invalid Ed25519 signature length: " ++ toString sig.length))
  .ok (x.ed.verify publicKey (sha512FirstHalf x (Text.utf8 message)) sig)

def verifyXrplSignature (publicKeyHex message signatureHex : String) :
    Except SignatureError Bool := do
  let pubkey ← Pre.mapErr (fun _ => .InvalidPublicKey "Invalid hex encoding")
    (Text.hexDecode publicKeyHex)
  check (decide (pubkey.length = 33)) (.InvalidPublicKey
    ("Invalid public key length: " ++ toString pubkey.length ++ " (expected 33)"))
  if pubkey.head? = some 0xED then
    verifyEd25519Signature x pubkey.tail message signatureHex
  else do
    Pre.mapErr .InvalidPublicKey (x.secpKey pubkey)
    let sig ← Pre.mapErr (fun _ => .InvalidSignature "Invalid hex encoding")
      (Text.hexDecode signatureHex)
    Pre.mapErr .InvalidSignature (x.secpDer sig)
    .ok (x.secpVerify pubkey (sha512FirstHalf x (Text.utf8 message)) sig)

/-! ## Addresses -/

def alphabet : List Char := "rpshnaf39wBUDNEGHJKLM4PQRST7VWXYZ2bcdeCg65jkm8oFqi1tuvAxyz".toList

/-- The digits of a number to the base 58, most significant first; two digits hold a byte. -/
def base58Digits : Nat → Nat → List Nat
  | 0, _ => []
  | _, 0 => []
  | fuel + 1, n => base58Digits fuel (n / 58) ++ [n % 58]

/-- Base 58; a leading zero byte is a digit of its own. -/
def base58Encode (bytes : List UInt8) : String :=
  let zeros := bytes.takeWhile (· == 0)
  let value := bytes.foldl (fun n b => n * 256 + b.toNat) 0
  String.ofList ((zeros.map fun _ => 0) ++ base58Digits (2 * bytes.length) value |>.map
    fun d => alphabet.getD d 'r')

def deriveAddressFromPublicKey (sha256 : List UInt8 → List UInt8) (publicKeyHex : String) :
    Except SignatureError String := do
  let pubkey ← Pre.mapErr (fun _ => .InvalidPublicKey "Invalid hex encoding")
    (Text.hexDecode publicKeyHex)
  check (decide (pubkey.length = 33)) (.InvalidPublicKey
    ("Invalid public key length: " ++ toString pubkey.length ++ " (expected 33)"))
  let payload := 0 :: x.ripemd160 (sha256 pubkey)
  let checksum := (sha256 (sha256 payload)).take 4
  .ok (base58Encode (payload ++ checksum))

end XrplVerify

end Vaulted
