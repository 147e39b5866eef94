import StoreClient.Json.Parse
import StoreClient.Proofs.Client.CredentialHeader
import StoreClient.Proofs.Client.FormText
import StoreClient.Proofs.Client.HeaderSafety
import StoreClient.Proofs.Client.Refusal
import StoreClient.Proofs.Client.UserAddress
import StoreClient.Proofs.Credential.Reading
import StoreClient.Proofs.Credential.Secrecy
import StoreClient.Proofs.Media.Format
import StoreClient.Proofs.Model.JsonMeaning
import StoreClient.Proofs.Model.JsonRoundTrip
import StoreClient.Proofs.Model.XmlRoundTrip
import StoreClient.Proofs.Operation.Extras
import StoreClient.Proofs.Request.BindingOrder
import StoreClient.Proofs.Request.Delimiter
import StoreClient.Proofs.Request.Misfit
import StoreClient.Proofs.Request.Resolution
import StoreClient.Proofs.Request.Segment
import StoreClient.Proofs.Session
import StoreClient.Proofs.Text.Truncation
import StoreClient.Proofs.Client.Status
import StoreClient.Proofs.Param.Renderings
import StoreClient.Proofs.Client.PayloadFormat
import StoreClient.Proofs.Param.Building
import StoreClient.Proofs.Client.Warnings
import StoreClient.Proofs.Operation.Request
import StoreClient.Proofs.Client.BasePath
import StoreClient.Proofs.Url.Origin
import StoreClient.Proofs.Operation.Written
import StoreClient.Proofs.Model.JsonMembers
import StoreClient.Proofs.Model.JsonMisfit
