import StoreClient.Json.Decode

/-!
Reading any JSON value. A parameter may hold any value, and who has it as a text reads it with this.
No call does: bodies are decoded into types, whose readers skip what no type asks for.
-/

namespace StoreClient.Json

mutual

/-- Reads a value of any kind; `fuel` bounds the nesting and the number of items together. -/
def readValue : Nat → Reader Value
  | 0, s => .error (.here .endInValue s)
  | fuel + 1, s =>
    match skipSpace s with
    | [] => .error (.next .endInValue [])
    | b :: rest =>
      match b with
      | Ascii.lowerN => (name nullTail rest).map fun rest => (.null, rest)
      | Ascii.lowerT => (name trueTail rest).map fun rest => (.bool true, rest)
      | Ascii.lowerF => (name falseTail rest).map fun rest => (.bool false, rest)
      | Ascii.quote => (stringTail rest).map fun (t, rest) => (.text t, rest)
      | Ascii.openBracket =>
        match readElements fuel true rest with
        | .error f => .error f
        | .ok (items, rest) => (closeArray rest).map fun rest => (.array items, rest)
      | Ascii.openBrace =>
        match readEntries fuel true rest with
        | .error f => .error f
        | .ok (entries, rest) => (closeObject rest).map fun rest => (.ofMembers entries, rest)
      | _ =>
        if startsNumber b then (number (b :: rest)).map fun (n, rest) => (.number n, rest)
        else .error (.next .valueExpected (b :: rest))

/-- Reads the items of an array up to its closing bracket. -/
def readElements : Nat → Bool → Reader (List Value)
  | 0, _, s => .error (.here .endInList s)
  | fuel + 1, first, s =>
    match nextItem first s with
    | .error f => .error f
    | .ok none => .ok ([], s)
    | .ok (some s) =>
      match readValue fuel s with
      | .error f => .error f
      | .ok (v, rest) => (readElements fuel false rest).map fun (vs, rest) => (v :: vs, rest)

/-- Reads the members of an object up to its closing brace. -/
def readEntries : Nat → Bool → Reader (List (String × Value))
  | 0, _, s => .error (.here .endInObject s)
  | fuel + 1, first, s =>
    match nextMember first s with
    | .error f => .error f
    | .ok none => .ok ([], s)
    | .ok (some s) =>
      match stringTail s with
      | .error f => .error f
      | .ok (key, s) =>
        match readColon s with
        | .error f => .error f
        | .ok s =>
          match readValue fuel s with
          | .error f => .error f
          | .ok (v, rest) =>
            (readEntries fuel false rest).map fun (ms, rest) => ((key, v) :: ms, rest)

end

def Reader.value : Reader Value := fun s => readValue (2 * s.length + 2) s

end StoreClient.Json
