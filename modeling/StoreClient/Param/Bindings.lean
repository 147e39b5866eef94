import StoreClient.NameMap
import StoreClient.Param.Value
import StoreClient.Text.Form

/-!
Parameters bound to names, and the pairs of texts that they are sent as.
-/

namespace StoreClient

abbrev Bindings := NameMap Param

namespace Bindings

/-- Each name with each of the texts that its parameter has in a query. -/
def queryPairs (bindings : Bindings) : Except Param.Unsupported (List (String × String)) := do
  let groups ← bindings.entries.mapM fun (name, param) => do
    return (← param.queryTexts).map fun text => (name, text)
  return groups.flatten

/-- Each name with the one text of its parameter. -/
def textPairs (bindings : Bindings) : Except Param.Unsupported (List (String × String)) :=
  bindings.entries.mapM fun (name, param) => do
    return (name, ← param.text)

/-- The text of a query or of a form body. -/
def formText (bindings : Bindings) : Except Param.Unsupported String := do
  return String.ofList (Form.encode (← bindings.queryPairs))

end Bindings

end StoreClient
