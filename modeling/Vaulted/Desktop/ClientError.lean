import Vaulted.Crypto.Pre

/-!
# Errors of the desktop client

`ClientError` as `error.rs` declares it, less the variants that no modelled command builds.
-/

namespace Vaulted

inductive ClientError
  | Auth (message : String)
  | Validation (message : String)
  | NoSession
  | SessionExpired
  | Crypto (e : CryptoError)
  | Xrpl (message : String)
  | NftNotFound (id : String)
  | NotNftOwner
  | Oracle (message : String)
  | Http (message : String)
  | WebSocket (message : String)
  | FileSystem (message : String)
  | Keystore (message : String)
  | Serialization (message : String)
  | Config (message : String)
  | InvalidData (message : String)
  deriving DecidableEq, Repr

def ClientError.display : ClientError → String
  | Auth message => "Authentication failed: " ++ message
  | Validation message => "Validation error: " ++ message
  | NoSession => "No active session. Please login first."
  | SessionExpired => "Session expired. Please login again."
  | Crypto e => "Crypto error: " ++ e.display
  | Xrpl message => "XRPL error: " ++ message
  | NftNotFound id => "NFT not found: " ++ id
  | NotNftOwner => "You are not the owner of this NFT"
  | Oracle message => "Oracle API error: " ++ message
  | Http message => "HTTP error: " ++ message
  | WebSocket message => "WebSocket error: " ++ message
  | FileSystem message => "File system error: " ++ message
  | Keystore message => "Keystore error: " ++ message
  | Serialization message => "Serialization error: " ++ message
  | Config message => "Configuration error: " ++ message
  | InvalidData message => "Invalid data: " ++ message

end Vaulted
