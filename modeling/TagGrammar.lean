import TagGrammar.Binding
import TagGrammar.Collection.OrderedMap
import TagGrammar.Collection.OrderedSet
import TagGrammar.Collection.TagSet
import TagGrammar.Collection.TagTable
import TagGrammar.Collection.Unseen
import TagGrammar.Command
import TagGrammar.Main
import TagGrammar.Proofs.Accounts
import TagGrammar.Proofs.Additions
import TagGrammar.Proofs.Ancestry
import TagGrammar.Proofs.ClosingSinks
import TagGrammar.Proofs.Commands
import TagGrammar.Proofs.ContextSize
import TagGrammar.Proofs.Copies
import TagGrammar.Proofs.DerivedNames
import TagGrammar.Proofs.Disk
import TagGrammar.Proofs.DocumentValue
import TagGrammar.Proofs.Entries
import TagGrammar.Proofs.Growth
import TagGrammar.Proofs.Inheritance
import TagGrammar.Proofs.Json.Acceptance
import TagGrammar.Proofs.Json.Places
import TagGrammar.Proofs.Locality
import TagGrammar.Proofs.NestedVisits
import TagGrammar.Proofs.OpenValues
import TagGrammar.Proofs.Permanence
import TagGrammar.Proofs.PublishedNames
import TagGrammar.Proofs.References
import TagGrammar.Proofs.Refusals
import TagGrammar.Proofs.RegistrationOrder
import TagGrammar.Proofs.Schema.DeclaredKeys
import TagGrammar.Proofs.SchemaExtension
import TagGrammar.Proofs.Script
import TagGrammar.Proofs.SimpleNames
import TagGrammar.Proofs.Slots
import TagGrammar.Proofs.Subtyping
import TagGrammar.Proofs.ValueTables
