import ConnectorLifecycle.Bindings.Loading
import ConnectorLifecycle.Definition.Loading
import ConnectorLifecycle.Group
import ConnectorLifecycle.Proofs.Conduct
import ConnectorLifecycle.Proofs.Observers
import ConnectorLifecycle.Proofs.Renewal
import ConnectorLifecycle.Rehearsal
import ConnectorLifecycle.Proofs.Calm
import ConnectorLifecycle.Proofs.PhasePath
import ConnectorLifecycle.Proofs.Stages
import ConnectorLifecycle.Proofs.Stopping
import ConnectorLifecycle.Proofs.Standing
import ConnectorLifecycle.Proofs.Group.History
import ConnectorLifecycle.Proofs.Group.Census
import ConnectorLifecycle.Proofs.Group.Shutdown
import ConnectorLifecycle.Proofs.Group.StopOrder
import ConnectorLifecycle.Proofs.Group.StartAll
import ConnectorLifecycle.Proofs.Group.Building
import ConnectorLifecycle.Proofs.Group.Naming
import ConnectorLifecycle.Proofs.Directory
import ConnectorLifecycle.Proofs.Yaml.Holding
import ConnectorLifecycle.Proofs.Yaml.Looks
import ConnectorLifecycle.Proofs.Yaml.Agreement
import ConnectorLifecycle.Proofs.Yaml.AddedKind
import ConnectorLifecycle.Proofs.Yaml.Legible
import ConnectorLifecycle.Proofs.Numerals
import ConnectorLifecycle.Proofs.Address.Form
import ConnectorLifecycle.Proofs.Address.RoundTrip
import ConnectorLifecycle.Proofs.Bindings
import ConnectorLifecycle.Proofs.Address.Canonical
import ConnectorLifecycle.Proofs.Effective
import ConnectorLifecycle.Proofs.Listener
import ConnectorLifecycle.Proofs.Containers
import ConnectorLifecycle.Proofs.Bags
import ConnectorLifecycle.Proofs.Fields
import ConnectorLifecycle.Proofs.Typed
import ConnectorLifecycle.Proofs.Declared
import ConnectorLifecycle.Proofs.Factories
import ConnectorLifecycle.Proofs.Registries
import ConnectorLifecycle.Proofs.Causes
import ConnectorLifecycle.Proofs.FailedStarts
import ConnectorLifecycle.Proofs.Group.GivingUp
