import BearerTokens.Deployment.Startup
import BearerTokens.Proofs.Filter.Carriage
import BearerTokens.Proofs.Lifecycle.Linearizability
import BearerTokens.Proofs.Lifecycle.Traceless
import BearerTokens.Proofs.Management.RequestDocuments
import BearerTokens.Proofs.Service.Accounting
import BearerTokens.Proofs.Service.Bootstrap
import BearerTokens.Proofs.Service.Challenges
import BearerTokens.Proofs.Service.Concealment
import BearerTokens.Proofs.Service.Creation
import BearerTokens.Proofs.Service.Documents
import BearerTokens.Proofs.Service.FailClosed
import BearerTokens.Proofs.Service.Identification
import BearerTokens.Proofs.Service.Isolation
import BearerTokens.Proofs.Service.SecretLife
import BearerTokens.Proofs.Service.SeededRows
import BearerTokens.Proofs.Service.Transparency
import BearerTokens.Proofs.Service.Unauthenticated
import BearerTokens.Proofs.Settings.Recognition
import BearerTokens.Settings.EnvFile
