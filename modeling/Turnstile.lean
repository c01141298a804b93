import Turnstile.Address.Reader
import Turnstile.Diagnostics
import Turnstile.Environment.DotEnv
import Turnstile.Guard
import Turnstile.Json.Printer
import Turnstile.Json.Reader
import Turnstile.Proofs.Guard.Gates
import Turnstile.Proofs.Guard.UserDenial
import Turnstile.Proofs.Json.RoundTrip
import Turnstile.Proofs.Permission.Relevance
import Turnstile.Proofs.Permission.RoleEdits
import Turnstile.Proofs.Rate.Definitions
import Turnstile.Proofs.Rate.Intervals
import Turnstile.Proofs.Rate.Isolation
import Turnstile.Proofs.Rate.Retries
import Turnstile.Proofs.Rate.Slowmode
import Turnstile.Proofs.Rate.Waiting
import Turnstile.Proofs.Rate.Windows
import Turnstile.Proofs.Server.Records
import Turnstile.Proofs.Settings.Fields
import Turnstile.Proofs.Store.Ideal
import Turnstile.Proofs.Store.Reloading
import Turnstile.Server.Json
import Turnstile.Settings
import Turnstile.Store.Backend
import Turnstile.Proofs.Permission.Widening
import Turnstile.Proofs.Quota.Exactness
import Turnstile.Proofs.Address.Networks
import Turnstile.Proofs.Permission.Hierarchy
import Turnstile.Proofs.Guard.Notices
import Turnstile.Proofs.Rate.Budgets
import Turnstile.Proofs.Store.Replies
