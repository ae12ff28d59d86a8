import UblGate.Text
import UblGate.Json
import UblGate.Scope
import UblGate.Error
import UblGate.Access
import UblGate.Host
import UblGate.Store
import UblGate.Authorship
import UblGate.Session
import UblGate.Submit
import UblGate.Receipt
import UblGate.Adapter
import UblGate.RateLimiter
import UblGate.Mcp
import UblGate.Routes
import UblGate.EventHub
import UblGate.Knock
import UblGate.Advisor
import UblGate.BTreeMap
import UblGate.Registry
import UblGate.Snapshot
import UblGate.RegistryPages
import UblGate.Listings
import UblGate.LlmPanel
import UblGate.Config
import UblGate.Pipeline
