import StoreClient.Model.Schema

/-!
The answer of the one operation that is not about users, and the record inside it.
-/

namespace StoreClient

/-- A record with one text, which has a default. -/
structure Foo where
  bar : String := "bar"
  deriving DecidableEq

def Foo.schema : Schema Foo where
  name := "Foo"
  blank := {}
  fields := [.always "bar" .text (·.bar) fun v foo => { foo with bar := v }]

instance : Record Foo := ⟨Foo.schema⟩

/-- An answer that may hold a record. -/
structure InlineResponseDefault where
  string : Option Foo := none
  deriving DecidableEq

def InlineResponseDefault.schema : Schema InlineResponseDefault where
  name := "InlineResponseDefault"
  blank := {}
  fields := [.optional "string" Foo.schema.codec (·.string) fun v answer =>
    { answer with string := v }]

instance : Record InlineResponseDefault := ⟨InlineResponseDefault.schema⟩

end StoreClient
