import YasinMcp.Approval.Runs
import YasinMcp.Governance.Admission
import YasinMcp.Governance.Authentication
import YasinMcp.Governance.Bindings
import YasinMcp.Governance.Escalation
import YasinMcp.Governance.Interleaving
import YasinMcp.Governance.Evidence
import YasinMcp.Governance.Lossless
import YasinMcp.Governance.Spending
import YasinMcp.Governance.Containment
import YasinMcp.Governance.Indistinguishable
import YasinMcp.Governance.Concurrency
import YasinMcp.Governance.FailureCodes
import YasinMcp.Transport.Context
import YasinMcp.Transport.SecretUse
import YasinMcp.Capabilities.Registry
import YasinMcp.Compat.AuthorizationHeader
import YasinMcp.Providers.Runflare
import YasinMcp.Adapters.Fetchers
import YasinMcp.Adapters.OperationsResponse
import YasinMcp.Adapters.AdrLookup
import YasinMcp.Adapters.DocsSearch
import YasinMcp.Adapters.DocsReading
import YasinMcp.Adapters.DocsShapes
import YasinMcp.Adapters.RegistryRows
import YasinMcp.Capabilities.Discovery
import YasinMcp.Security.MarkerCoverage
import YasinMcp.Capabilities.Registration
import YasinMcp.Providers.RunflareCommands
import YasinMcp.Config.Loading
import YasinMcp.Server.Governed
import YasinMcp.Errors.ClientReading
import YasinMcp.Audit.AuditReading
import YasinMcp.Transport.ContextWire
import YasinMcp.Transport.Bearer
import YasinMcp.Adapters.DocsArchitecture
import YasinMcp.Tools.Labelling
import YasinMcp.Adapters.GitHubSearch
import YasinMcp.Audit.TraceReading
import YasinMcp.Compat.CoreReports
