import XmlBinding.Main
import XmlBinding.Proofs.Agreement
import XmlBinding.Proofs.Generator.Abort
import XmlBinding.Proofs.Generator.Independence
import XmlBinding.Proofs.Generator.Registered
import XmlBinding.Proofs.Generator.Roots
import XmlBinding.Proofs.Generator.Sides
import XmlBinding.Proofs.Generator.Transient
import XmlBinding.Proofs.Handler.History
import XmlBinding.Proofs.Handler.Phase
import XmlBinding.Proofs.Identity
import XmlBinding.Proofs.Imports
import XmlBinding.Proofs.Marshalling
import XmlBinding.Proofs.Naming
import XmlBinding.Proofs.Resolution
import XmlBinding.Proofs.Command.Build
import XmlBinding.Proofs.Command.Check
import XmlBinding.Proofs.Client.Members
import XmlBinding.Proofs.Membership
import XmlBinding.Proofs.Package
import XmlBinding.Proofs.Plain
import XmlBinding.Proofs.Bracket
import XmlBinding.Proofs.Description
import XmlBinding.Proofs.TypeReference
import XmlBinding.Proofs.Values
import XmlBinding.Proofs.Catalog.Bracket
import XmlBinding.Proofs.Emission.Bracket
import XmlBinding.Proofs.Emission.Waves
import XmlBinding.Proofs.Server.Bracket
import XmlBinding.Proofs.Client.Bracket
import XmlBinding.Proofs.Balance
import XmlBinding.Proofs.Introspection
import XmlBinding.Proofs.Literal
import XmlBinding.Proofs.Rank
import XmlBinding.Proofs.Growth
import XmlBinding.Proofs.ClassPath
import XmlBinding.Proofs.Quoted
