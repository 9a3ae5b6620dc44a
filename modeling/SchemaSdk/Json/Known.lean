import SchemaSdk.Json.Read
import SchemaSdk.Json.Record

/-!
# Records in a text

A record is read from a text in which something may be no character. Only what is asked for has to
be text: a member with another key is passed over, however deep its value is nested and whatever
numbers it has, and its strings may hold what is no character and halves of pairs.
-/
namespace SchemaSdk.Json

/-- Characters, and nothing where there is none. -/
abbrev Scanned : Type := List (Option Char)

/-- Reads up to what is no character. -/
def reading {α : Type} (read : List Char → Option (α × List Char)) (s : Scanned) :
    Option (α × Scanned) :=
  (read ((s.takeWhile Option.isSome).filterMap id)).map fun (a, rest) =>
    (a, rest.map some ++ s.dropWhile Option.isSome)

/-- A text without leading blanks. -/
def passSpace (s : Scanned) : Scanned := s.dropWhile (·.any isSpace)

/-- What follows the closing quote of a string. -/
def passString : Scanned → Option Scanned
  | [] => none
  | some '"' :: r => some r
  | some '\\' :: some 'u' :: some a :: some b :: some c :: some d :: r =>
    if (unit? a b c d).isSome then passString r else none
  | some '\\' :: some e :: r => if (simpleEscape? e).isSome then passString r else none
  | some '\\' :: _ => none
  | some c :: r => if c.toNat < 0x20 then none else passString r
  | none :: r => passString r

mutual

/-- What follows a value. -/
def passValue : Nat → Scanned → Option Scanned
  | 0, _ => none
  | fuel + 1, s =>
    match passSpace s with
    | some 'n' :: some 'u' :: some 'l' :: some 'l' :: r => some r
    | some 't' :: some 'r' :: some 'u' :: some 'e' :: r => some r
    | some 'f' :: some 'a' :: some 'l' :: some 's' :: some 'e' :: r => some r
    | some '"' :: r => passString r
    | some '[' :: r =>
      match passSpace r with
      | some ']' :: rest => some rest
      | r => passItems fuel r
    | some '\x7b' :: r =>
      match passSpace r with
      | some '\x7d' :: rest => some rest
      | r => passMembers fuel r
    | s => (reading readNumber s).map (·.2)

/-- What follows the items of an array and its end. -/
def passItems : Nat → Scanned → Option Scanned
  | 0, _ => none
  | fuel + 1, s =>
    match (passValue fuel s).map passSpace with
    | some (some ',' :: r) => passItems fuel r
    | some (some ']' :: rest) => some rest
    | _ => none

/-- What follows the members of an object and its end. -/
def passMembers : Nat → Scanned → Option Scanned
  | 0, _ => none
  | fuel + 1, s =>
    match passSpace s with
    | some '"' :: r =>
      match (passString r).map passSpace with
      | some (some ':' :: r) =>
        match (passValue fuel r).map passSpace with
        | some (some ',' :: r) => passMembers fuel r
        | some (some '\x7d' :: rest) => some rest
        | _ => none
      | _ => none
    | _ => none

end

/-- The value of a key as a member if the key is known, and what follows the value. -/
def readKnownValue (keys : List String) (fuel : Nat) (k : String) (s : Scanned) :
    Option (List (String × Json) × Scanned) :=
  if keys.contains k then (reading (readValue fuel) s).map fun (v, rest) => ([(k, v)], rest)
  else (passValue fuel s).map ([], ·)

/-- The members of an object with known keys, and what follows its end. -/
def readKnown (keys : List String) : Nat → Scanned → Option (List (String × Json) × Scanned)
  | 0, _ => none
  | fuel + 1, s =>
    match passSpace s with
    | some '"' :: r =>
      match reading readString r with
      | none => none
      | some (k, r) =>
        match passSpace r with
        | some ':' :: r =>
          match readKnownValue keys fuel (String.ofList k) r with
          | none => none
          | some (known, r) =>
            match passSpace r with
            | some ',' :: r => (readKnown keys fuel r).map fun (ms, rest) => (known ++ ms, rest)
            | some '\x7d' :: rest => some (known, rest)
            | _ => none
        | _ => none
    | _ => none

/-- A record with known keys as its members, and what follows it. Each of the keys comes once at
most. In place of an object there may be an array of at least so many items, and no more than keys:
they stand in the order of the keys. -/
def readRecord (keys : List String) (least : Nat) (s : Scanned) :
    Option (List (String × Json) × Scanned) :=
  let fuel := 2 * s.length
  match passSpace s with
  | some '\x7b' :: r =>
    match passSpace r with
    | some '\x7d' :: rest => some ([], rest)
    | r => (readKnown keys fuel r).filter fun (ms, _) => (ms.map (·.1)).Nodup
  | s =>
    match reading (readValue (fuel + 1)) s with
    | some (array items, rest) =>
      if least ≤ items.length ∧ items.length ≤ keys.length then some (keys.zip items, rest)
      else none
    | _ => none

/-- The record at the start of a text; what follows it does not matter. -/
def leadingRecord? (keys : List String) (least : Nat) (s : Scanned) :
    Option (List (String × Json)) :=
  (readRecord keys least s).map (·.1)

/-- The record that a text is, apart from blanks around it. -/
def wholeRecord? (keys : List String) (least : Nat) (s : Scanned) :
    Option (List (String × Json)) :=
  match readRecord keys least s with
  | some (ms, rest) => if (passSpace rest).isEmpty then some ms else none
  | none => none

end SchemaSdk.Json
