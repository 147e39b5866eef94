import StoreClient.Client.Exchange
import StoreClient.Proofs.Logged

/-!
How decoding fails. Whatever a body is decoded into, it fails for the body, its type or the declared
type (`Error.OfDecoding`), and so never for an argument of the call or for the status of the
response.
-/

namespace StoreClient

/-- The failures of decoding. -/
inductive Error.OfDecoding : Error → Prop where
  | wrongValue (found : Json.Found) (expected : String) : OfDecoding (.wrongValue found expected)
  | json (cause : Json.Error) (body : String) : OfDecoding (.json cause body)
  | xml (cause : Xml.Error) (body : String) : OfDecoding (.xml cause body)
  | text (cause : Utf8.Error) : OfDecoding (.text cause)
  | unsupportedResponse (contentType : Option String) (returnType : ReturnType) :
      OfDecoding (.unsupportedResponse contentType returnType)

namespace Error.OfDecoding

theorem isMissingArgument {e : Error} (h : e.OfDecoding) : e.isMissingArgument = false := by
  cases h <;> rfl

theorem ne_unexpectedStatus {e : Error} (h : e.OfDecoding) (status : Nat) (text : String) :
    e ≠ .unexpectedStatus status text := by
  rintro rfl
  cases h

end Error.OfDecoding

theorem ofDecoding_of_decodeBody {α : Type} [Decodable α] {returnType : ReturnType}
    {contentType : Option String} {body : Bytes} {e : Error}
    (h : decodeBody (α := α) returnType contentType body = .error e) : e.OfDecoding := by
  rw [decodeBody] at h
  split at h
  · rw [Decodable.ofNothing] at h
    split at h <;> cases h
    exact .wrongValue _ _
  split at h
  · obtain ⟨_, -, rfl⟩ := mapError_eq_error.mp h
    exact .json _ _
  split at h
  · obtain ⟨_, -, rfl⟩ := mapError_eq_error.mp h
    exact .xml _ _
  split at h
  · rcases bind_eq_error.mp h with h | ⟨text, -, h⟩
    · obtain ⟨_, -, rfl⟩ := mapError_eq_error.mp h
      exact .text _
    · rw [Decodable.ofText] at h
      split at h <;> cases h
      exact .wrongValue _ _
  · cases h
    exact .unsupportedResponse _ _

theorem Call.ofDecoding_of_decodeAnswer {call : Call} {returnType : ReturnType}
    {contentType : Option String} {body : Bytes} {e : Error}
    (h : call.decodeAnswer returnType contentType body = .error e) : e.OfDecoding := by
  cases call <;> exact ofDecoding_of_decodeBody (map_eq_error.mp h)

theorem Call.ofDecoding_of_decodeResponse {call : Call} {returnType : ReturnType} {status : Nat}
    {headers : Headers} {body : Bytes} {e : Error}
    (h : call.decodeResponse returnType status headers body = .error e) : e.OfDecoding := by
  rcases bind_eq_error.mp h with h | ⟨_, -, h⟩
  · exact call.ofDecoding_of_decodeAnswer h
  · cases h

end StoreClient
