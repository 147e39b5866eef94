import StoreClient.Proofs.Json.RecognizeRecord
import StoreClient.Proofs.Media.Format

/-!
What JSON bodies are decoded to. Each of the types that responses are decoded into has its
documents, and a body is decoded exactly if such a document stands at its front, white space before
it aside (`DecodesFronts`). What follows the document is not looked at, so that the body is one
whole document exactly if only white space is left; else it is decoded as well
(`decodeBody_trailing`).
-/

namespace StoreClient

open Json (Blank Recognizes)

/-! ### Scalars -/

namespace Codec

/-- The documents of a number are what writes it as an integer. -/
def Int64Means (text : Bytes) (i : Int64) : Prop := Json.WritesInt text i.toInt

def Int32Means (text : Bytes) (i : Int32) : Prop := Json.WritesInt text i.toInt

theorem recognizes_int64 : Recognizes int64.readJson Int64Means := by
  refine ((Recognizes.int (by decide) (by decide) "i64").map Int64.ofInt).congr fun text i => ?_
  constructor
  · rintro ⟨n, ⟨hwrites, hlow, hhigh⟩, rfl⟩
    rwa [Int64Means, Int64.toInt_ofInt_of_le hlow (Int.lt_of_le_of_lt hhigh (by decide))]
  · intro hwrites
    exact ⟨i.toInt, ⟨hwrites, i.minValue_le_toInt, i.toInt_le⟩, Int64.ofInt_toInt i⟩

theorem recognizes_int32 : Recognizes int32.readJson Int32Means := by
  refine ((Recognizes.int (by decide) (by decide) "i32").map Int32.ofInt).congr fun text i => ?_
  constructor
  · rintro ⟨n, ⟨hwrites, hlow, hhigh⟩, rfl⟩
    rwa [Int32Means, Int32.toInt_ofInt_of_le hlow (Int.lt_of_le_of_lt hhigh (by decide))]
  · intro hwrites
    exact ⟨i.toInt, ⟨hwrites, i.minValue_le_toInt, i.toInt_le⟩, Int32.ofInt_toInt i⟩

end Codec

/-! ### Records -/

namespace Json

theorem TextMeans.ne_null {text : Bytes} {s : String} (h : TextMeans text s) :
    text ≠ Ascii.lowerN :: nullTail := by
  obtain ⟨raw, rfl, -⟩ := h
  intro heq
  cases (List.cons.inj heq).1

theorem WritesInt.ne_null {text : Bytes} {i : Int} (h : WritesInt text i) :
    text ≠ Ascii.lowerN :: nullTail := by
  obtain ⟨b, bs, rfl, hb⟩ := h.isNumber.exists_cons
  intro heq
  rw [(List.cons.inj heq).1] at hb
  cases hb

theorem RecordMeans.ne_null {α : Type} {blank : α} {known : List (MemberMeaning α)} {text : Bytes}
    {a : α} (h : RecordMeans blank known text a) : text ≠ Ascii.lowerN :: nullTail := by
  intro heq
  cases h with
  | object => cases (List.cons.inj heq).1
  | array => cases (List.cons.inj heq).1

namespace MemberMeaning

variable {α β : Type} (name : String) (Means : Bytes → β → Prop)

/-- A member that may be `null`. -/
def optional (set : Option β → α → α) : MemberMeaning α where
  name
  Means text change := ∃ o, OptionMeans Means text o ∧ set o = change

def always (set : β → α → α) : MemberMeaning α where
  name
  Means text change := ∃ b, Means text b ∧ set b = change

end MemberMeaning

end Json

namespace Field

variable {α β : Type} {name : String} {codec : Codec β} {Means : Bytes → β → Prop}
  (h : Recognizes codec.readJson Means)
include h

theorem recognizes_optional
    (hnull : ∀ {text b}, Means text b → text ≠ Ascii.lowerN :: Json.nullTail)
    (get : α → Option β) (set : Option β → α → α) :
    Json.Member.Recognizes
      ⟨(optional name codec get set).name, (optional name codec get set).readJson⟩
      (.optional name Means set) where
  name_eq := rfl
  read := (h.optional fun _ hmeans => hnull hmeans rfl).map set

theorem recognizes_always (get : α → β) (set : β → α → α) :
    Json.Member.Recognizes
      ⟨(always name codec get set).name, (always name codec get set).readJson⟩
      (.always name Means set) where
  name_eq := rfl
  read := h.map set

end Field

theorem Schema.recognizes {α : Type} {schema : Schema α} {known : List (Json.MemberMeaning α)}
    (h : List.Forall₂ (fun f m => Json.Member.Recognizes ⟨f.name, f.readJson⟩ m)
      schema.fields known) :
    Recognizes schema.codec.readJson (Json.RecordMeans schema.blank known) :=
  Recognizes.record (List.forall₂_map_left_iff.mpr h) schema.name schema.blank

namespace User

/-- The fields of a user, with what their values make of it. -/
def known : List (Json.MemberMeaning User) := [
  .optional "id" Codec.Int64Means fun v u => { u with id := v },
  .optional "username" Json.TextMeans fun v u => { u with username := v },
  .optional "firstName" Json.TextMeans fun v u => { u with firstName := v },
  .optional "lastName" Json.TextMeans fun v u => { u with lastName := v },
  .optional "email" Json.TextMeans fun v u => { u with email := v },
  .optional "password" Json.TextMeans fun v u => { u with password := v },
  .optional "phone" Json.TextMeans fun v u => { u with phone := v },
  .optional "userStatus" Codec.Int32Means fun v u => { u with userStatus := v }]

/-- The documents of a user: any of the fields in any order, each once at most, and anything else
under other names. -/
def Means : Bytes → User → Prop := Json.RecordMeans {} known

theorem recognizes_known : List.Forall₂ (fun f m => Json.Member.Recognizes ⟨f.name, f.readJson⟩ m)
    schema.fields known := by
  have htext : ∀ {name} (get : User → Option String) (set : Option String → User → User),
      Json.Member.Recognizes
        ⟨(Field.optional name .text get set).name, (Field.optional name .text get set).readJson⟩
        (.optional name Json.TextMeans set) :=
    Field.recognizes_optional Recognizes.text Json.TextMeans.ne_null
  exact .cons (Field.recognizes_optional Codec.recognizes_int64 Json.WritesInt.ne_null _ _) <|
    .cons (htext _ _) <| .cons (htext _ _) <| .cons (htext _ _) <| .cons (htext _ _) <|
    .cons (htext _ _) <| .cons (htext _ _) <|
    .cons (Field.recognizes_optional Codec.recognizes_int32 Json.WritesInt.ne_null _ _) .nil

theorem recognizes : Recognizes schema.codec.readJson Means := Schema.recognizes recognizes_known

end User

def Foo.Means : Bytes → Foo → Prop :=
  Json.RecordMeans {} [.always "bar" Json.TextMeans fun v foo => { foo with bar := v }]

theorem Foo.recognizes : Recognizes schema.codec.readJson Means :=
  Schema.recognizes (.cons (Field.recognizes_always Recognizes.text _ _) .nil)

def InlineResponseDefault.Means : Bytes → InlineResponseDefault → Prop :=
  Json.RecordMeans {} [.optional "string" Foo.Means fun v answer => { answer with string := v }]

theorem InlineResponseDefault.recognizes : Recognizes schema.codec.readJson Means :=
  Schema.recognizes
    (.cons (Field.recognizes_optional Foo.recognizes Json.RecordMeans.ne_null _ _) .nil)

/-! ### Bodies -/

section
variable {α : Type}

/-- A document that stands for the value is at the front of the body, behind white space, and the
rest is left of it. -/
def Front (Means : Bytes → α → Prop) (body : Bytes) (a : α) (rest : Bytes) : Prop :=
  ∃ l text, body = l ++ (text ++ rest) ∧ Blank l ∧ Means text a ∧ Json.Delimited text rest

/-- The body is one document that stands for the value, between white space. -/
def Whole (Means : Bytes → α → Prop) (body : Bytes) (a : α) : Prop :=
  ∃ l text m, body = l ++ (text ++ m) ∧ Blank l ∧ Means text a ∧ Blank m

variable {read : Json.Reader α} {Means : Bytes → α → Prop} {body rest : Bytes} {a : α}

theorem whole_iff_front : Whole Means body a ↔ ∃ m, Front Means body a m ∧ Blank m := by
  constructor
  · rintro ⟨l, text, m, hbody, hl, htext, hm⟩
    have hended := Json.ended_of_blank hm Json.ended_nil
    rw [List.append_nil] at hended
    exact ⟨m, ⟨l, text, hbody, hl, htext, Json.delimited_of_ended hended⟩, hm⟩
  · rintro ⟨m, ⟨l, text, hbody, hl, htext, -⟩, hm⟩
    exact ⟨l, text, m, hbody, hl, htext, hm⟩

/-- A reader reads what is at the front, so nothing else is there. -/
theorem read_eq_ok_iff (h : Recognizes read Means) :
    read body = .ok (a, rest) ↔ Front Means body a rest := by
  constructor
  · intro hread
    obtain ⟨l, text, hl, hbody, htext, hrest⟩ := h.sound hread
    exact ⟨l, text, hbody, hl, htext, hrest⟩
  · rintro ⟨l, text, rfl, hl, htext, hrest⟩
    exact h.complete hl htext hrest

theorem Front.whole_iff (h : Recognizes read Means) (hfront : Front Means body a rest) :
    Whole Means body a ↔ Blank rest := by
  rw [whole_iff_front]
  constructor
  · rintro ⟨m, hfront', hm⟩
    have hread := ((read_eq_ok_iff h).mpr hfront).symm.trans ((read_eq_ok_iff h).mpr hfront')
    rwa [(Prod.mk.inj (Except.ok.inj hread)).2]
  · intro hrest
    exact ⟨rest, hfront, hrest⟩

/-- How the bodies of one JSON type are decoded: exactly where a document is at the front, whatever
is left of it. So the body is one whole document exactly if white space is left, and everything that
is refused is refused as JSON. -/
structure DecodesFronts [Decodable α] (Means : Bytes → α → Prop) (returnType : ReturnType)
    (contentType : String) : Prop where
  document {text : Bytes} {a : α} (h : Means text a) : Json.Document text
  decodeBody_eq_ok_iff {body : Bytes} {a : α} (hbody : body ≠ []) :
    decodeBody returnType (some contentType) body = .ok a ↔ ∃ rest, Front Means body a rest
  whole_iff {body rest : Bytes} {a : α} (hfront : Front Means body a rest) :
    Whole Means body a ↔ Blank rest
  error {body : Bytes} {e : Error} (hbody : body ≠ [])
    (h : decodeBody (α := α) returnType (some contentType) body = .error e) :
    ∃ fault, e = .json fault (lossyText body)

theorem decodesFronts [Decodable α] {contentType : String} (hjson : Media.isOf .json contentType)
    {returnType : ReturnType} (hreturn : returnType ≠ .nothing)
    (h : Recognizes Decodable.readJson Means) : DecodesFronts Means returnType contentType := by
  have hdecode : ∀ {body : Bytes}, body ≠ [] →
      decodeBody (α := α) returnType (some contentType) body = decodeJson body :=
    fun hbody => Media.reads_json hjson α returnType _ hreturn hbody
  refine ⟨h.document, ?_, Front.whole_iff h, ?_⟩
  · intro body a hbody
    rw [hdecode hbody, decodeJson, mapError_eq_ok, Json.decodeFront]
    constructor
    · intro hfront
      split at hfront
      · next a' rest hread =>
        cases hfront
        exact ⟨rest, (read_eq_ok_iff h).mp hread⟩
      · cases hfront
    · rintro ⟨rest, hfront⟩
      rw [(read_eq_ok_iff h).mpr hfront]
  · intro body e hbody herror
    rw [hdecode hbody, decodeJson] at herror
    cases hfront : Json.decodeFront (Decodable.readJson (α := α)) body with
    | error fault =>
      rw [hfront] at herror
      cases herror
      exact ⟨fault, rfl⟩
    | ok a =>
      rw [hfront] at herror
      cases herror

end

section
variable {contentType : String} (hjson : Media.isOf .json contentType) {returnType : ReturnType}
  (hreturn : returnType ≠ .nothing)
include hjson hreturn

/-- JSON bodies are decoded by the document at their front; nothing asks whether more follows. -/
theorem decodeBody_front :
    DecodesFronts User.Means returnType contentType ∧
    DecodesFronts (Json.ListMeans User.Means) returnType contentType ∧
    DecodesFronts (Json.OptionMeans User.Means) returnType contentType ∧
    DecodesFronts Foo.Means returnType contentType ∧
    DecodesFronts InlineResponseDefault.Means returnType contentType ∧
    DecodesFronts Json.TextMeans returnType contentType ∧
    DecodesFronts Codec.Int64Means returnType contentType ∧
    DecodesFronts Json.BoolMeans returnType contentType ∧
    DecodesFronts (Json.ListMeans Json.TextMeans) returnType contentType := by
  have huser : Recognizes (Decodable.readJson (α := User)) User.Means := User.recognizes
  have hoption : Recognizes (Decodable.readJson (α := Option User)) (Json.OptionMeans User.Means) :=
    huser.optional fun _ hmeans => hmeans.ne_null rfl
  have htext : Recognizes (Decodable.readJson (α := String)) Json.TextMeans := Recognizes.text
  refine ⟨?_, ?_, ?_, ?_, ?_, ?_, ?_, ?_, ?_⟩
  · exact decodesFronts hjson hreturn huser
  · exact decodesFronts hjson hreturn huser.list
  · exact decodesFronts hjson hreturn hoption
  · exact decodesFronts hjson hreturn Foo.recognizes
  · exact decodesFronts hjson hreturn InlineResponseDefault.recognizes
  · exact decodesFronts hjson hreturn htext
  · exact decodesFronts hjson hreturn Codec.recognizes_int64
  · exact decodesFronts hjson hreturn Recognizes.bool
  · exact decodesFronts hjson hreturn htext.list

end

/-- A user at the front of a body of a structured type. -/
theorem decodeBody_front_vendor : Media.isOf .json "application/vnd.store+json" ∧
    DecodesFronts User.Means (.model "User") "application/vnd.store+json" :=
  ⟨by decide, (decodeBody_front (by decide) (by decide)).1⟩

/-- A user is decoded although a letter follows the document. -/
theorem decodeBody_trailing :
    decodeBody (.model "User") (some "application/json") (Utf8.ofString "\x7b\"id\":1\x7dx") =
        .ok ({ id := some 1 } : User) ∧
      ¬ Whole User.Means (Utf8.ofString "\x7b\"id\":1\x7dx") { id := some 1 } := by
  have hread : User.schema.codec.readJson (Utf8.ofString "\x7b\"id\":1\x7dx") =
      .ok ({ id := some 1 }, [0x78]) := rfl
  refine ⟨rfl, ?_⟩
  rw [((read_eq_ok_iff User.recognizes).mp hread).whole_iff User.recognizes]
  intro hblank
  exact absurd (hblank 0x78 List.mem_cons_self) (by decide)

end StoreClient
