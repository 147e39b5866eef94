import StoreClient.Proofs.Json.Number
import StoreClient.Proofs.Json.Record
import StoreClient.Proofs.Media.Format
import StoreClient.Proofs.NameMap

/-!
What is sent as JSON is read back. A codec restores a type if it reads what it writes; a field
restores a record as far as the field goes, where a field that is not written leaves the blank
record alone (`Field.Restores`); a schema restores its records if the changes of all fields make the
record out of the blank one (`Schema.reads_toJson`). So bodies are decoded to what they were encoded
from (`decodeBody_encode`).
-/

namespace StoreClient

/-! ### Codecs -/

/-- What the codec writes is read as the value it was written for. -/
def Codec.Restores {β : Type} (codec : Codec β) : Prop :=
  ∀ b, Json.Reads codec.readJson (Utf8.encode (codec.toJson b).render) b

namespace Codec

theorem restores_text : text.Restores := Json.reads_quote

theorem restores_int64 : int64.Restores := by
  intro i
  have hbounds := And.intro i.minValue_le_toInt i.toInt_le
  have h := (Json.reads_int (by decide) (by decide) hbounds "i64").map Int64.ofInt
  rw [Int64.ofInt_toInt] at h
  exact h

theorem restores_int32 : int32.Restores := by
  intro i
  have hbounds := And.intro i.minValue_le_toInt i.toInt_le
  have h := (Json.reads_int (by decide) (by decide) hbounds "i32").map Int32.ofInt
  rw [Int32.ofInt_toInt] at h
  exact h

end Codec

/-! ### Fields -/

namespace Field

variable {α β : Type} {name : String} {codec : Codec β}

/-- What a field of `v` makes of a record when it is read back: the change that its text stands for,
and none if it is not written. -/
inductive Restores (f : Field α) (v : α) (change : α → α) : Prop where
  | written {value : Json.Value} (hvalue : f.toJson? v = some value)
      (hread : Json.Reads f.readJson (Utf8.encode value.render) change)
  | absent (hvalue : f.toJson? v = none) (hid : ∀ a, change a = a)

theorem restores_optional (hcodec : codec.Restores) {get : α → Option β} {set : Option β → α → α}
    (hset : ∀ a, set (get a) a = a) (v : α) :
    (optional name codec get set).Restores v fun a => set ((get v).or (get a)) a := by
  cases hget : get v with
  | none => exact .absent (congrArg (Option.map codec.toJson) hget) hset
  | some b =>
    have hread := ((hcodec b).optional).map set
    exact .written (congrArg (Option.map codec.toJson) hget) hread

theorem restores_always (hcodec : codec.Restores) (get : α → β) (set : β → α → α) (v : α) :
    (always name codec get set).Restores v (set (get v)) :=
  .written rfl ((hcodec (get v)).map set)

end Field

/-! ### Records -/

namespace Schema

variable {α : Type} {v : α}

/-- The members that a record is written as. -/
def written (fields : List (Field α)) (v : α) : List (String × List Char) :=
  fields.filterMap fun f => (f.toJson? v).map fun value => (f.name, value.render)

theorem render_toJson (schema : Schema α) (v : α) :
    (schema.codec.toJson v).render = Json.renderObject (written schema.fields v) := by
  rw [codec, Json.Value.render, Json.renderMembers_eq_map, List.map_filterMap]
  apply congrArg Json.renderObject
  apply List.filterMap_congr
  intro f _
  rw [Option.map_map]
  rfl

/-- Reading what is written makes all the changes, since the others change nothing. -/
theorem exists_changes {fields : List (Field α)} {changes : List (α → α)}
    {members : List (Json.Member α)}
    (hmembers : ∀ f ∈ fields, members.find? (·.name = f.name) = some ⟨f.name, f.readJson⟩)
    (h : List.Forall₂ (fun f change => f.Restores v change) fields changes) :
    ∃ made, List.Forall₂ (Json.Changes members) (written fields v) made ∧ ∀ a,
      made.foldl (fun a change => change a) a = changes.foldl (fun a change => change a) a := by
  induction h with
  | nil => exact ⟨[], .nil, fun _ => rfl⟩
  | @cons f change fields changes hf _ ih =>
    obtain ⟨hmember, hmembers⟩ := List.forall_mem_cons.mp hmembers
    obtain ⟨made, hmade, hfold⟩ := ih hmembers
    cases hf with
    | @written value hvalue hread =>
      have hcons : written (f :: fields) v = (f.name, value.render) :: written fields v := by
        rw [written, List.filterMap_cons, hvalue]
        rfl
      rw [hcons]
      exact ⟨change :: made, .cons ⟨_, hmember, hread⟩ hmade, fun a => hfold (change a)⟩
    | absent hvalue hid =>
      have hcons : written (f :: fields) v = written fields v := by
        rw [written, List.filterMap_cons, hvalue]
        rfl
      rw [hcons]
      refine ⟨made, hmade, fun a => (hfold a).trans ?_⟩
      rw [List.foldl_cons, hid]

/-- The members that are written, in whatever form, have the names of the fields that are shown. -/
theorem names_written {β : Type} (form : Json.Value → β) (fields : List (Field α)) (v : α) :
    (fields.filterMap fun f => (f.toJson? v).map fun value => (f.name, form value)).map (·.1) =
      (fields.filter fun f => (f.toJson? v).isSome).map (·.name) := by
  induction fields with
  | nil => rfl
  | cons f fields ih => cases hvalue : f.toJson? v <;> simp [hvalue, ih]

theorem names_written_sublist (fields : List (Field α)) (v : α) :
    ((written fields v).map (·.1)).Sublist (fields.map (·.name)) := by
  rw [written, names_written]
  exact List.filter_sublist.map _

theorem find?_of_mem {fields : List (Field α)} (hdistinct : (fields.map (·.name)).Nodup)
    {f : Field α} (hf : f ∈ fields) :
    (fields.map fun f => (⟨f.name, f.readJson⟩ : Json.Member α)).find? (·.name = f.name) =
      some ⟨f.name, f.readJson⟩ := by
  rw [List.find?_map]
  exact congrArg (Option.map _) (find?_of_nodup hdistinct hf)

/-- A record is read back if the changes of its fields make it out of the blank record. -/
theorem reads_toJson {schema : Schema α} (hdistinct : (schema.fields.map (·.name)).Nodup)
    {changes : List (α → α)}
    (h : List.Forall₂ (fun f change => f.Restores v change) schema.fields changes)
    (hv : changes.foldl (fun a change => change a) schema.blank = v) :
    Json.Reads schema.codec.readJson (Utf8.encode (schema.codec.toJson v).render) v := by
  obtain ⟨made, hmade, hfold⟩ := exists_changes (fun f hf => find?_of_mem hdistinct hf) h
  have hnodup := hdistinct.sublist (names_written_sublist schema.fields v)
  have hread := Json.reads_record hmade hnodup schema.name schema.blank
  rw [hfold, hv] at hread
  rw [render_toJson]
  exact hread

end Schema

theorem User.restores : User.schema.codec.Restores := by
  intro user
  have htext : ∀ {name} {get : User → Option String} {set : Option String → User → User},
      (∀ u, set (get u) u = u) →
        (Field.optional name .text get set).Restores user fun u => set ((get user).or (get u)) u :=
    fun hset => Field.restores_optional Codec.restores_text hset user
  refine Schema.reads_toJson (by decide)
    (.cons (Field.restores_optional Codec.restores_int64 (fun _ => rfl) user) <|
      .cons (htext fun _ => rfl) <| .cons (htext fun _ => rfl) <| .cons (htext fun _ => rfl) <|
      .cons (htext fun _ => rfl) <| .cons (htext fun _ => rfl) <| .cons (htext fun _ => rfl) <|
      .cons (Field.restores_optional Codec.restores_int32 (fun _ => rfl) user) .nil) ?_
  simp [schema]

theorem Foo.restores : Foo.schema.codec.Restores := by
  intro foo
  exact Schema.reads_toJson (by decide)
    (.cons (Field.restores_always Codec.restores_text _ _ foo) .nil) rfl

theorem InlineResponseDefault.restores : InlineResponseDefault.schema.codec.Restores := by
  intro answer
  refine Schema.reads_toJson (by decide)
    (.cons (Field.restores_optional Foo.restores (fun _ => rfl) answer) .nil) ?_
  simp [schema]

/-! ### Bodies -/

/-- A JSON body is decoded to what its reader reads. -/
theorem decodeBody_of_reads {α : Type} [Decodable α] {contentType : String}
    (hjson : Media.isOf .json contentType) {returnType : ReturnType}
    (hreturn : returnType ≠ .nothing) {text : Bytes} {a : α}
    (h : Json.Reads Decodable.readJson text a) :
    decodeBody returnType (some contentType) text = .ok a := by
  have hbody : text ≠ [] := by
    obtain ⟨b, bs, rfl, -⟩ := h.exists_cons
    exact List.cons_ne_nil _ _
  have hread := h.reads [] Json.ended_nil
  rw [List.append_nil] at hread
  rw [Media.reads_json hjson α returnType text hreturn hbody, Media.Format.read, decodeJson,
    Json.decodeFront, hread]
  rfl

section
variable {contentType : String} (hjson : Media.isOf .json contentType)
  (hxml : Media.isOf .xml contentType = false) {returnType : ReturnType}
  (hreturn : returnType ≠ .nothing)
include hjson hxml hreturn

theorem decodeBody_entity {α : Type} [Record α] (h : (Record.schema (α := α)).codec.Restores)
    (a : α) : ∃ body, (Payload.entity a).encode contentType = .ok (some body) ∧
      decodeBody returnType (some contentType) (Utf8.ofString body) = .ok a := by
  refine ⟨String.ofList (Record.schema.codec.toJson a).render, ?_, ?_⟩
  · rw [Payload.encode, hxml]
    rfl
  · rw [Utf8.ofString, String.toList_ofList]
    exact decodeBody_of_reads hjson hreturn (h a)

theorem decodeBody_entities {α : Type} [Record α] (h : (Record.schema (α := α)).codec.Restores)
    (as : List α) : ∃ body, (Payload.entities as).encode contentType = .ok (some body) ∧
      decodeBody returnType (some contentType) (Utf8.ofString body) = .ok as := by
  have hitems : List.Forall₂ (fun t a => Json.Reads Record.schema.codec.readJson (Utf8.encode t) a)
      (Json.renderItems (as.map Record.schema.codec.toJson)) as := by
    rw [Json.renderItems_eq_map, List.map_map, List.forall₂_map_left_iff]
    exact List.forall₂_same.mpr fun a _ => h a
  refine ⟨String.ofList (Json.Value.array (as.map Record.schema.codec.toJson)).render, ?_, ?_⟩
  · rw [Payload.encode, hxml]
    rfl
  · rw [Utf8.ofString, String.toList_ofList, Json.Value.render]
    exact decodeBody_of_reads hjson hreturn (Json.reads_list hitems)

/-- Every body that is sent as JSON is decoded to what it was made from, whatever its texts and
numbers are and whichever fields it has; so is a list of users of any length. -/
theorem decodeBody_encode :
    (∀ user : User, ∃ body, (Payload.entity user).encode contentType = .ok (some body) ∧
      decodeBody returnType (some contentType) (Utf8.ofString body) = .ok user) ∧
    (∀ foo : Foo, ∃ body, (Payload.entity foo).encode contentType = .ok (some body) ∧
      decodeBody returnType (some contentType) (Utf8.ofString body) = .ok foo) ∧
    (∀ answer : InlineResponseDefault, ∃ body,
      (Payload.entity answer).encode contentType = .ok (some body) ∧
      decodeBody returnType (some contentType) (Utf8.ofString body) = .ok answer) ∧
    (∀ users : List User, ∃ body, (Payload.entities users).encode contentType = .ok (some body) ∧
      decodeBody returnType (some contentType) (Utf8.ofString body) = .ok users) := by
  refine ⟨?_, ?_, ?_, ?_⟩
  · exact decodeBody_entity hjson hxml hreturn User.restores
  · exact decodeBody_entity hjson hxml hreturn Foo.restores
  · exact decodeBody_entity hjson hxml hreturn InlineResponseDefault.restores
  · exact decodeBody_entities hjson hxml hreturn User.restores

end

/-- The smallest number of 64 bits, control characters, quotes and no fields at all. -/
theorem decodeBody_encode_extreme :
    ∃ body, (Payload.entities [{ id := some Int64.minValue, username := some "\"\u0001\n\\é😀" },
        ({} : User)]).encode "application/vnd.store+json; charset=utf-8" = .ok (some body) ∧
      decodeBody (.array (.model "User")) (some "application/vnd.store+json; charset=utf-8")
        (Utf8.ofString body) =
        .ok [{ id := some Int64.minValue, username := some "\"\u0001\n\\é😀" }, ({} : User)] :=
  (decodeBody_encode (by decide) (by decide) (by decide)).2.2.2 _

end StoreClient
