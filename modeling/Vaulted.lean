import Vaulted.Library.Autocommit
import Vaulted.Library.Base58
import Vaulted.Library.Base64
import Vaulted.Library.Base64Url
import Vaulted.Library.BigEndian
import Vaulted.Library.ByteSlices
import Vaulted.Library.Checks
import Vaulted.Library.Decimal
import Vaulted.Library.FixedWindow
import Vaulted.Library.Grid
import Vaulted.Library.Handover
import Vaulted.Library.Interleaving
import Vaulted.Library.IpAddr
import Vaulted.Library.IpValue
import Vaulted.Library.JavaScript
import Vaulted.Library.Json
import Vaulted.Library.JsonInjective
import Vaulted.Library.JsonText
import Vaulted.Library.JsonValue
import Vaulted.Library.Labels
import Vaulted.Library.Masking
import Vaulted.Library.OneTime
import Vaulted.Library.Passes
import Vaulted.Library.ReplayCache
import Vaulted.Library.RoundRobin
import Vaulted.Library.Runs
import Vaulted.Library.Table
import Vaulted.Library.Text
import Vaulted.Library.TextCodec
import Vaulted.Library.Turns
import Vaulted.Library.UnixPath
import Vaulted.Library.WriteOnce
import Vaulted.Crypto.Addresses
import Vaulted.Crypto.AesStream
import Vaulted.Crypto.ChildKeys
import Vaulted.Crypto.Commitment
import Vaulted.Crypto.Envelope
import Vaulted.Crypto.Manifest
import Vaulted.Crypto.Pre
import Vaulted.Crypto.QrPayload
import Vaulted.Crypto.SigningIntent
import Vaulted.Crypto.Symbolic
import Vaulted.Crypto.WalletSignatures
import Vaulted.Crypto.XrplWallet
import Vaulted.Oracle.Auth
import Vaulted.Oracle.ChallengeStore
import Vaulted.Oracle.Claims
import Vaulted.Oracle.Error
import Vaulted.Oracle.FileAccess
import Vaulted.Oracle.FileProxy
import Vaulted.Oracle.Files
import Vaulted.Oracle.Identity
import Vaulted.Oracle.Middleware
import Vaulted.Oracle.MigrationRunners
import Vaulted.Oracle.Migrations
import Vaulted.Oracle.NftImage
import Vaulted.Oracle.NftPublic
import Vaulted.Oracle.NodeRegistry
import Vaulted.Oracle.Ownership
import Vaulted.Oracle.ProxyHeaders
import Vaulted.Oracle.PublicMetadata
import Vaulted.Oracle.QrApproval
import Vaulted.Oracle.QrAuth
import Vaulted.Oracle.QrLogin
import Vaulted.Oracle.RecipientTrust
import Vaulted.Oracle.RefreshToken
import Vaulted.Oracle.Replication
import Vaulted.Oracle.Request
import Vaulted.Oracle.Schema
import Vaulted.Oracle.SessionToken
import Vaulted.Oracle.StorageToken
import Vaulted.Oracle.StorageUrls
import Vaulted.Oracle.Sync
import Vaulted.Oracle.TokenStores
import Vaulted.Oracle.Tokens
import Vaulted.Oracle.Transfers
import Vaulted.Oracle.Users
import Vaulted.Oracle.Vault
import Vaulted.Oracle.VaultMint
import Vaulted.Oracle.VaultObjects
import Vaulted.Oracle.Xrpl
import Vaulted.Oracle.XrplVerify
import Vaulted.Transfer.Cancellation
import Vaulted.Transfer.HonestRequest
import Vaulted.Transfer.IncomingOffers
import Vaulted.Transfer.OfferNames
import Vaulted.Transfer.ReEncryptionChain
import Vaulted.Transfer.ReKeyCodec
import Vaulted.Transfer.System
import Vaulted.Transfer.TransferOnce
import Vaulted.Transfer.TransferProof
import Vaulted.Vault.CanonicalJson
import Vaulted.Vault.ForgottenReplicas
import Vaulted.Vault.GrantBinding
import Vaulted.Vault.KeyMismatch
import Vaulted.Vault.LedgerFollows
import Vaulted.Vault.MetadataFilter
import Vaulted.Vault.MintBinding
import Vaulted.Vault.MissingReplicas
import Vaulted.Vault.ObjectOwnership
import Vaulted.Vault.OneVault
import Vaulted.Vault.OwnerPages
import Vaulted.Vault.OwnerSearch
import Vaulted.Vault.PrivateEndpoints
import Vaulted.Vault.RecordedPlaces
import Vaulted.Vault.ReplicasAgree
import Vaulted.Vault.RevokedGrants
import Vaulted.Vault.SelectedNodes
import Vaulted.Vault.SignedManifest
import Vaulted.Vault.StorageConfinement
import Vaulted.Vault.SyncRounds
import Vaulted.Vault.Tombstone
import Vaulted.Identity.CallerResolution
import Vaulted.Identity.ClientAddress
import Vaulted.Identity.DerivedId
import Vaulted.Identity.KeyBinding
import Vaulted.Identity.LoginChallenge
import Vaulted.Identity.RateWindows
import Vaulted.Identity.RecipientKey
import Vaulted.Identity.TrustHistory
import Vaulted.Token.ChallengeOnce
import Vaulted.Token.ChallengesInTurn
import Vaulted.Token.LoggedOut
import Vaulted.Token.RefreshInTurn
import Vaulted.Token.RefreshRotation
import Vaulted.Token.Revocation
import Vaulted.Token.SessionTokens
import Vaulted.Token.WalletLogin
import Vaulted.Qr.ApprovalMessages
import Vaulted.Qr.DecidedOnce
import Vaulted.Qr.EnvelopePaths
import Vaulted.Qr.GrantRoundTrip
import Vaulted.Qr.LoginOnce
import Vaulted.Qr.RequesterToken
import Vaulted.Qr.SignedPayload
import Vaulted.Node.FragmentFlow
import Vaulted.Node.GrantedAuthority
import Vaulted.Node.HandedOutUrls
import Vaulted.Node.HexDecode
import Vaulted.Node.IndexMatches
import Vaulted.Node.KeyPaths
import Vaulted.Node.Server
import Vaulted.Node.SingleUse
import Vaulted.Node.Token
import Vaulted.Node.WriteOnce
import Vaulted.Desktop.Archive
import Vaulted.Desktop.ArchivedFiles
import Vaulted.Desktop.BlobRegistry
import Vaulted.Desktop.ClaimPaysNothing
import Vaulted.Desktop.ClientError
import Vaulted.Desktop.Commands
import Vaulted.Desktop.GrantCommands
import Vaulted.Desktop.GrantDownload
import Vaulted.Desktop.GrantEnvelopes
import Vaulted.Desktop.Keystore
import Vaulted.Desktop.MintedToken
import Vaulted.Desktop.NftImage
import Vaulted.Desktop.NftOffers
import Vaulted.Desktop.OracleClient
import Vaulted.Desktop.Payments
import Vaulted.Desktop.ResumeDeletion
import Vaulted.Desktop.SavedSeed
import Vaulted.Desktop.StaysLoggedIn
import Vaulted.Desktop.SubmitOnce
import Vaulted.Desktop.TransportErrors
import Vaulted.Desktop.TrustedRecipient
import Vaulted.Image.ContourChains
import Vaulted.Image.ContourLines
import Vaulted.Image.IsoLines
import Vaulted.Image.SamePicture
