import LostProperty.Main
import LostProperty.Store
import LostProperty.Proofs.Listing.Pages
import LostProperty.Proofs.Listing.Envelopes
import LostProperty.Proofs.Migration.Accounting
import LostProperty.Proofs.Migration.Calls
import LostProperty.Proofs.Migration.Telling
import LostProperty.Proofs.Container.Encoding
import LostProperty.Proofs.Store.Retry
import LostProperty.Proofs.Store.History
import LostProperty.Proofs.Http.Answers
import LostProperty.Proofs.Http.Registry
import LostProperty.Proofs.Item.Payload
import LostProperty.Proofs.Item.NormalForm
import LostProperty.Proofs.Migration.Isolation
import LostProperty.Proofs.Store.Order
import LostProperty.Proofs.Program.Conclusion
import LostProperty.Proofs.Http.Explanations
import LostProperty.Proofs.Config.NormalForm
import LostProperty.Proofs.Config.Timeout
import LostProperty.Proofs.EnvFile.Lines
import LostProperty.Proofs.EnvFile.Loss
import LostProperty.Proofs.Http.Kinds
import LostProperty.Proofs.Http.Redirects
import LostProperty.Proofs.Precedence
