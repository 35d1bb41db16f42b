import CryptoService.Common.Result
import CryptoService.Common.Strings
import CryptoService.Common.Bytes
import CryptoService.Common.StdMap
import CryptoService.Keys.KeyTypes
import CryptoService.Engine.AesGcm
import CryptoService.Engine.AesCbc
import CryptoService.Engine.Rsa
import CryptoService.Keys.KeyStore
import CryptoService.Clients.CacheClient
import CryptoService.Clients.LruRefinement
import CryptoService.Clients.CacheRuns
import CryptoService.Clients.LoggingClient
import CryptoService.Keys.KeyService
import CryptoService.Keys.MemoryService
import CryptoService.Keys.Coherence
import CryptoService.Keys.Lifecycle
import CryptoService.Keys.Rotation
import CryptoService.Keys.Identifiers
import CryptoService.Keys.StoreRefinement
import CryptoService.Keys.LocalKeyStore
import CryptoService.Keys.LocalService
import CryptoService.Resilience.Shutdown
import CryptoService.Services.FileEnvelope
import CryptoService.Services.FileEncryption
import CryptoService.Metrics.Tracing
import CryptoService.Metrics.Prometheus
import CryptoService.Metrics.Histogram
import CryptoService.Audit.AuditLogger
import CryptoService.Audit.JsonReader
import CryptoService.Audit.AuditJson
import CryptoService.Common.Base64
import CryptoService.Api.RestBase64
import CryptoService.Auth.JwtBase64
import CryptoService.Auth.JwtValidator
import CryptoService.Auth.Rbac
import CryptoService.Config.ConfigLoader
import CryptoService.Api.Health
import CryptoService.Common.Uuid
import CryptoService.Engine.Hybrid
import CryptoService.Audit.FileAuditLogger
import CryptoService.Audit.Export
