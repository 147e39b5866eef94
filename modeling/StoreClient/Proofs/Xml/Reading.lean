import StoreClient.Proofs.Text.Boundary
import StoreClient.Xml.Document
import StoreClient.Xml.Render

/-!
Reading a document of which the characters are known. The reader takes its characters one by one
from the bytes, and what it gets to see is the text with every line end made a line feed (`lines`).
So what a document leads to is told character by character (`Leads`): a run of characters that only
changes the draft is passed over at once (`Leads.of_take`), and the first character that does more
decides.
-/

namespace StoreClient.Xml

/-! ### Line ends -/

/-- A text in which every line end is one line feed. -/
def lines : List Char → List Char
  | [] => []
  | '\r' :: '\n' :: cs => '\n' :: lines cs
  | c :: cs => (if c = '\r' then '\n' else c) :: lines cs

theorem lines_cons {c : Char} (hc : c ≠ '\r') (cs : List Char) :
    lines (c :: cs) = c :: lines cs := by
  rw [lines.eq_3, if_neg hc]
  exact fun _ h => (hc h).elim

theorem lines_return {cs : List Char} (hcs : ∀ d ∈ cs.head?, d ≠ '\n') :
    lines ('\r' :: cs) = '\n' :: lines cs := by
  rw [lines.eq_3, if_pos rfl]
  rintro _ - rfl
  exact hcs '\n' rfl rfl

theorem lines_append {cs : List Char} (hcs : '\r' ∉ cs) (ds : List Char) :
    lines (cs ++ ds) = cs ++ lines ds := by
  induction cs with
  | nil => rfl
  | cons c cs ih =>
    have hc : c ≠ '\r' := fun hc => hcs (hc ▸ List.mem_cons_self)
    rw [List.cons_append, lines_cons hc, ih (fun h => hcs (List.mem_cons_of_mem c h)),
      List.cons_append]

theorem not_mem_lines (cs : List Char) : '\r' ∉ lines cs := by
  have hcons {c : Char} {cs : List Char} (hc : c ≠ '\r') (hcs : '\r' ∉ cs) : '\r' ∉ c :: cs := by
    intro h
    obtain h | h := List.mem_cons.mp h
    · exact hc h.symm
    · exact hcs h
  fun_induction lines cs with
  | case1 => exact List.not_mem_nil
  | case2 cs ih => exact hcons (by decide) ih
  | case3 c cs _ ih =>
    split
    · exact hcons (by decide) ih
    · next hc => exact hcons hc ih

theorem lines_eq_self_iff {cs : List Char} : lines cs = cs ↔ '\r' ∉ cs := by
  constructor
  · intro h
    rw [← h]
    exact not_mem_lines cs
  · intro h
    simpa [lines] using lines_append h []

theorem exists_escapeChar_eq (c : Char) :
    ∃ d ds, escapeChar c = d :: ds ∧ (d = c ∨ d = '&') ∧ '\r' ∉ ds := by
  rw [escapeChar]
  split
  · exact ⟨_, _, rfl, .inr rfl, by decide⟩
  split
  · exact ⟨_, _, rfl, .inr rfl, by decide⟩
  split
  · exact ⟨_, _, rfl, .inr rfl, by decide⟩
  · exact ⟨c, [], rfl, .inl rfl, List.not_mem_nil⟩

theorem escape_cons (c : Char) (cs : List Char) : escape (c :: cs) = escapeChar c ++ escape cs :=
  List.flatMap_cons

theorem head?_escape_append {cs rest : List Char} (hcs : ∀ d ∈ cs.head?, d ≠ '\n')
    (hrest : ∀ d ∈ rest.head?, d ≠ '\n') : ∀ d ∈ (escape cs ++ rest).head?, d ≠ '\n' := by
  cases cs with
  | nil => exact hrest
  | cons c cs =>
    obtain ⟨d, ds, hescape, hd, -⟩ := exists_escapeChar_eq c
    rw [escape_cons, hescape]
    intro e he
    obtain rfl : d = e := Option.some.inj he
    obtain rfl | rfl := hd
    · exact hcs d rfl
    · decide

/-- What is escaped has the line ends of the text. -/
theorem lines_escape_append {cs rest : List Char} (hrest : ∀ d ∈ rest.head?, d ≠ '\n') :
    lines (escape cs ++ rest) = escape (lines cs) ++ lines rest := by
  fun_induction lines cs with
  | case1 => rfl
  | case2 cs ih =>
    have hescape : escape ('\r' :: '\n' :: cs) ++ rest = '\r' :: '\n' :: (escape cs ++ rest) := rfl
    rw [hescape, lines, ih]
    rfl
  | case3 c cs hline ih =>
    rw [escape_cons, escape_cons, List.append_assoc, List.append_assoc]
    split
    · next hc =>
      subst hc
      have hhead : ∀ d ∈ cs.head?, d ≠ '\n' := by
        rintro d hd rfl
        obtain ⟨cs', rfl⟩ := List.head?_eq_some_iff.mp hd
        exact hline cs' rfl rfl
      exact (lines_return (head?_escape_append hhead hrest)).trans (congrArg ('\n' :: ·) ih)
    · next hc =>
      have hescape : '\r' ∉ escapeChar c := by
        obtain ⟨d, ds, hescape, hd, hds⟩ := exists_escapeChar_eq c
        rw [hescape, List.mem_cons, not_or]
        refine ⟨?_, hds⟩
        obtain rfl | rfl := hd
        · exact Ne.symm hc
        · decide
      rw [lines_append hescape, ih]

namespace Encoding

/-- Whether characters are read from the bytes of UTF-8. -/
def isUtf8 : Encoding → Bool
  | .assumed | .utf8 => true
  | _ => false

theorem takeChar_encode {encoding : Encoding} (h : encoding.isUtf8) (c : Char) (cs : List Char) :
    encoding.takeChar (Utf8.encode (c :: cs)) = some (c, Utf8.encode cs) := by
  cases encoding with
  | assumed | utf8 => exact Utf8.decodeFirst_encode c cs
  | latin1 | ascii | utf16 => cases h

theorem takeLineChar_of_ne {encoding : Encoding} {bytes rest : Bytes} {c : Char}
    (h : encoding.takeChar bytes = some (c, rest)) (hc : c ≠ '\r') :
    encoding.takeLineChar bytes = some (c, rest) := by
  rw [takeLineChar, h]
  split
  · next heq =>
    cases heq
    exact (hc rfl).elim
  · rfl

theorem takeLineChar_of_return {encoding : Encoding} {bytes rest : Bytes}
    (h : encoding.takeChar bytes = some ('\r', rest))
    (hrest : ∀ c rest', encoding.takeChar rest = some (c, rest') → c ≠ '\n') :
    encoding.takeLineChar bytes = some ('\n', rest) := by
  simp only [takeLineChar, h]
  split
  · next heq => exact (hrest _ _ heq rfl).elim
  · rfl

/-- The characters that are taken from the bytes of a text are those of its lines. -/
theorem takeLineChar_encode {encoding : Encoding} (h : encoding.isUtf8) {c : Char}
    {raw cs : List Char} (hraw : lines raw = c :: cs) : ∃ raw', raw'.length < raw.length ∧
      lines raw' = cs ∧
      encoding.takeLineChar (Utf8.encode raw) = some (c, Utf8.encode raw') := by
  fun_cases lines raw with
  | case1 => cases hraw
  | case2 raw =>
    obtain ⟨rfl, hcs⟩ := List.cons.inj hraw
    refine ⟨raw, ?_, hcs, ?_⟩
    · rw [List.length_cons, List.length_cons]
      omega
    · simp only [takeLineChar, takeChar_encode h]
  | case3 d raw hline =>
    rw [lines.eq_3 d raw hline] at hraw
    obtain ⟨hc, hcs⟩ := List.cons.inj hraw
    refine ⟨raw, Nat.lt_succ_self _, hcs, ?_⟩
    have hd := takeChar_encode h d raw
    split at hc
    · next hreturn =>
      subst hreturn hc
      refine takeLineChar_of_return hd fun e rest he hnewline => ?_
      cases raw with
      | nil => cases encoding <;> cases he
      | cons e' raw =>
        rw [takeChar_encode h] at he
        obtain ⟨rfl, -⟩ := Prod.mk.inj (Option.some.inj he)
        exact hline raw rfl (congrArg (· :: raw) hnewline)
    · next hne => exact hc ▸ takeLineChar_of_ne hd hne

end Encoding

namespace Draft

variable {document document' : Draft} {c : Char} {cs ds : List Char} {result : Option Node}

/-! ### One character after another -/

/-- What comes of a document that goes on with a text. -/
def Leads (document : Draft) (cs : List Char) (result : Option Node) : Prop :=
  ∀ raw, lines raw = cs → ∀ fuel, raw.length ≤ fuel →
    document.finish fuel (Utf8.encode raw) = result

/-- A round of the reader takes a character of the text. -/
theorem leads_cons (hutf8 : document.encoding.isUtf8)
    (h : ∀ raw, lines raw = cs → ∀ fuel, raw.length ≤ fuel →
      (match document.feedAll maxInsertions [c] with
        | some (.next document) => document.finish fuel (Utf8.encode raw)
        | some (.root node) => some node
        | _ => none) = result) : document.Leads (c :: cs) result := by
  intro raw hraw fuel hfuel
  obtain ⟨raw', hlength, hraw', htake⟩ := Encoding.takeLineChar_encode hutf8 hraw
  obtain ⟨fuel', rfl⟩ := Nat.exists_eq_add_one_of_ne_zero (Nat.ne_of_gt (by omega : 0 < fuel))
  rw [finish, htake]
  exact h raw' hraw' fuel' (by omega)

/-- What a character leads to by itself, unless it inserts a text. -/
theorem feedAll_singleton (h : ∀ text d, document.feed c ≠ some (.insert text d)) :
    document.feedAll maxInsertions [c] = document.feed c := by
  rw [maxInsertions, feedAll, feedText]
  cases hfeed : document.feed c with
  | none => rfl
  | some outcome =>
    cases outcome with
    | next d => rfl
    | insert text d => exact (h text d hfeed).elim
    | root node => rfl

theorem Leads.next (h : document'.Leads cs result) (hutf8 : document.encoding.isUtf8)
    (hfeed : document.feed c = some (.next document')) : document.Leads (c :: cs) result := by
  refine leads_cons hutf8 fun raw hraw fuel hfuel => ?_
  rw [feedAll_singleton (by simp [hfeed]), hfeed]
  exact h raw hraw fuel hfuel

theorem leads_root {node : Node} (hutf8 : document.encoding.isUtf8)
    (hfeed : document.feed c = some (.root node)) : document.Leads (c :: cs) (some node) := by
  refine leads_cons hutf8 fun _ _ _ _ => ?_
  rw [feedAll_singleton (by simp [hfeed]), hfeed]

theorem leads_none (hutf8 : document.encoding.isUtf8) (hfeed : document.feed c = none) :
    document.Leads (c :: cs) none := by
  refine leads_cons hutf8 fun _ _ _ _ => ?_
  rw [feedAll_singleton (by simp [hfeed]), hfeed]

/-! ### Runs of characters -/

/-- What a document has become after some characters that only change it. -/
def take : List Char → Draft → Option Draft
  | [], document => some document
  | c :: cs, document =>
    if document.encoding.isUtf8 then
      match document.feed c with
      | some (.next document) => document.take cs
      | _ => none
    else none

theorem take_cons (hutf8 : document.encoding.isUtf8)
    (hfeed : document.feed c = some (.next document')) :
    document.take (c :: cs) = document'.take cs := by
  rw [take, if_pos hutf8, hfeed]

theorem take_append : document.take (cs ++ ds) = (document.take cs).bind (take ds) := by
  induction cs generalizing document with
  | nil => rfl
  | cons c cs ih =>
    rw [List.cons_append, take, take]
    split
    · split
      · exact ih
      · rfl
    · rfl

theorem Leads.of_take (h : document'.Leads ds result) (htake : document.take cs = some document') :
    document.Leads (cs ++ ds) result := by
  induction cs generalizing document with
  | nil =>
    cases htake
    exact h
  | cons c cs ih =>
    rw [take] at htake
    split at htake
    · next hutf8 =>
      split at htake
      · next document₁ hfeed => exact (ih htake).next hutf8 hfeed
      · cases htake
    · cases htake

/-! ### Documents -/

/-- A document begins with its declaration. -/
theorem take_header : take header.toList { encoding := .assumed } =
    some { encoding := .utf8, stage := .prolog } := by
  rfl

end Draft

/-- The declaration is read, and the root comes next. -/
theorem parse?_header {cs : List Char} {result : Option Node}
    (h : Draft.Leads { encoding := .utf8, stage := .prolog } (lines cs) result) :
    parse? (Utf8.encode (header.toList ++ cs)) = result := by
  have hlines : lines (header.toList ++ cs) = header.toList ++ lines cs :=
    lines_append (by decide) cs
  have hdetect : Encoding.detect (Utf8.encode (header.toList ++ cs)) =
      (.assumed, Utf8.encode (header.toList ++ cs)) := by
    rw [Utf8.encode_append]
    rfl
  rw [parse?, hdetect]
  exact h.of_take Draft.take_header _ hlines _ (Utf8.length_le_size _)

end StoreClient.Xml
