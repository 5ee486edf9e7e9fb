import ApiBundle.Main
import ApiBundle.Proofs.Bundle.Definitions
import ApiBundle.Proofs.Bundle.Memory
import ApiBundle.Proofs.Bundle.Canonical
import ApiBundle.Proofs.Bundle.Hoisting
import ApiBundle.Proofs.Bundle.Adornments
import ApiBundle.Proofs.Scan.Balance
import ApiBundle.Proofs.Store.Cache
import ApiBundle.Proofs.Machine.Cursor
import ApiBundle.Proofs.Walk.Position
import ApiBundle.Proofs.Walk.Completions
import ApiBundle.Proofs.Scan.Reloading
import ApiBundle.Proofs.Bundle.Pointing
import ApiBundle.Proofs.Registry.ReadingBack
import ApiBundle.Proofs.Reference.RoundTrip
import ApiBundle.Proofs.Reference.Identity
import ApiBundle.Proofs.Store.Lens
import ApiBundle.Proofs.Machine.Building
import ApiBundle.Proofs.Dialect.Simulation
import ApiBundle.Proofs.Dialect.DefinitionNames
import ApiBundle.Proofs.Reference.BareNames
import ApiBundle.Proofs.Tree.InPlace
import ApiBundle.Proofs.Tree.Unresolved
import ApiBundle.Proofs.Yaml.Conversion
import ApiBundle.Proofs.Pointer.Addressing
import ApiBundle.Proofs.Pointer.Segments
