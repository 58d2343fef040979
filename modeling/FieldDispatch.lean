import FieldDispatch.Dispatch.Description
import FieldDispatch.Dispatch.Schema
import FieldDispatch.FileSystem.Tree
import FieldDispatch.Main
import FieldDispatch.Proofs.Arguments
import FieldDispatch.Proofs.Atomicity
import FieldDispatch.Proofs.Blanks
import FieldDispatch.Proofs.Cancellation
import FieldDispatch.Proofs.EffectiveSettings
import FieldDispatch.Proofs.EndToEnd
import FieldDispatch.Proofs.IndexedTable
import FieldDispatch.Proofs.JsonText
import FieldDispatch.Proofs.ManifestForm
import FieldDispatch.Proofs.ManifestJson
import FieldDispatch.Proofs.OutputModes
import FieldDispatch.Proofs.PolicyChange
import FieldDispatch.Proofs.SchemaRegistration
import FieldDispatch.Proofs.SlotNumbering
import FieldDispatch.Script.Codec
import FieldDispatch.Proofs.TypeGrammar
import FieldDispatch.Proofs.StructuralConformance
import FieldDispatch.Proofs.Inquiries
import FieldDispatch.Proofs.ResolverForm
import FieldDispatch.Proofs.Appending
import FieldDispatch.Proofs.DeclaredFields
import FieldDispatch.Proofs.ReceiverMismatch
import FieldDispatch.Proofs.RegistrationCalls
import FieldDispatch.Proofs.ManifestComposition
import FieldDispatch.Proofs.ParameterOrder
import FieldDispatch.Proofs.RequestBindings
import FieldDispatch.Proofs.NearestSettings
import FieldDispatch.Proofs.InstalledHooks
import FieldDispatch.Proofs.EqualArguments
import FieldDispatch.Proofs.JsonValue
