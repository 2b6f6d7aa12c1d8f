/-
**Reading JSON text.**

`Json.read` reads one value that takes up the whole text, blanks around it aside. Containers may be
nested to a given depth. Of two entries of an object with one key the later one stays. What is not
JSON is refused without a reason.
-/

import WhenClause.Json.Number

namespace WhenClause.Json

/-! ### Blanks and words -/

/-- The characters allowed between the parts of a value. -/
def isJsonBlank (c : Char) : Bool := c == ' ' || c == '\t' || c == '\n' || c == '\r'

def skipJsonBlanks (text : List Char) : List Char := text.dropWhile isJsonBlank

/-- What follows a word, if the text begins with it. -/
def afterWord (word text : List Char) : Option (List Char) :=
  if word.isPrefixOf text then some (text.drop word.length) else none

/-! ### Strings -/

def hexDigit? (c : Char) : Option Nat :=
  if c.isDigit then some (c.toNat - '0'.toNat)
  else if 'a' ≤ c ∧ c ≤ 'f' then some (c.toNat - 'a'.toNat + 10)
  else if 'A' ≤ c ∧ c ≤ 'F' then some (c.toNat - 'A'.toNat + 10)
  else none

/-- The number of four hexadecimal digits. -/
def hexUnit? (first second third fourth : Char) : Option Nat := do
  let high := (← hexDigit? first) * 16 + (← hexDigit? second)
  return high * 256 + (← hexDigit? third) * 16 + (← hexDigit? fourth)

/-- The character that a one-letter escape writes. -/
def escapedChar? : Char → Option Char
  | '"' => some '"'
  | '\\' => some '\\'
  | '/' => some '/'
  | 'b' => some '\x08'
  | 'f' => some '\x0c'
  | 'n' => some '\n'
  | 'r' => some '\r'
  | 't' => some '\t'
  | _ => none

/-- The rest of a string behind the characters `before`, the last one first. A pair of escaped
surrogates is one character; a surrogate alone is refused, as is a control character. -/
def readStringFrom (before : List Char) : List Char → Option (String × List Char)
  | [] => none
  | '"' :: rest => some (String.ofList before.reverse, rest)
  | '\\' :: 'u' :: first :: second :: third :: fourth :: rest => do
    let unit ← hexUnit? first second third fourth
    if 0xdc00 ≤ unit ∧ unit ≤ 0xdfff then none
    else if 0xd800 ≤ unit ∧ unit ≤ 0xdbff then
      match rest with
      | '\\' :: 'u' :: first :: second :: third :: fourth :: rest =>
        let low ← hexUnit? first second third fourth
        if 0xdc00 ≤ low ∧ low ≤ 0xdfff then
          let code := 0x10000 + (unit - 0xd800) * 0x400 + (low - 0xdc00)
          readStringFrom (Char.ofNat code :: before) rest
        else none
      | _ => none
    else readStringFrom (Char.ofNat unit :: before) rest
  | '\\' :: letter :: rest => do
    let c ← escapedChar? letter
    readStringFrom (c :: before) rest
  | c :: rest => if c.toNat < 0x20 ∨ c = '\\' then none else readStringFrom (c :: before) rest

/-! ### Containers -/

/-- The items of an array behind the items `before`, the last one first. The text begins at an item;
`size` bounds the number of items. -/
def readItemsFrom (readItem : List Char → Option (Json × List Char)) (size : Nat)
    (before : List Json) (text : List Char) : Option (List Json × List Char) :=
  match size with
  | 0 => none
  | size + 1 => do
    let (item, rest) ← readItem (skipJsonBlanks text)
    match skipJsonBlanks rest with
    | ',' :: rest => readItemsFrom readItem size (item :: before) rest
    | ']' :: rest => some ((item :: before).reverse, rest)
    | _ => none

/-- The members of an object behind the members `before`, the last one first. The text begins at a
key; `readItem` reads the value of a key, and `size` bounds the number of members. -/
def readMembersFrom (readItem : String → List Char → Option (Json × List Char)) (size : Nat)
    (before : List (String × Json)) (text : List Char) :
    Option (List (String × Json) × List Char) :=
  match size with
  | 0 => none
  | size + 1 =>
    match skipJsonBlanks text with
    | '"' :: rest => do
      let (key, rest) ← readStringFrom [] rest
      match skipJsonBlanks rest with
      | ':' :: rest =>
        let (item, rest) ← readItem key (skipJsonBlanks rest)
        match skipJsonBlanks rest with
        | ',' :: rest => readMembersFrom readItem size ((key, item) :: before) rest
        | '}' :: rest => some (((key, item) :: before).reverse, rest)
        | _ => none
      | _ => none
    | _ => none

/-- The members of an object behind its opening brace. -/
def readMembers (readItem : String → List Char → Option (Json × List Char)) (size : Nat)
    (text : List Char) : Option (List (String × Json) × List Char) :=
  match skipJsonBlanks text with
  | '}' :: rest => some ([], rest)
  | rest => readMembersFrom readItem size [] rest

/-- A value without parts. -/
def readPlain (text : List Char) : Option (Json × List Char) :=
  match text with
  | '"' :: rest => (readStringFrom [] rest).map fun (value, rest) => (.string value, rest)
  | 'n' :: _ => (afterWord "null".toList text).map (.null, ·)
  | 't' :: _ => (afterWord "true".toList text).map (.boolean true, ·)
  | 'f' :: _ => (afterWord "false".toList text).map (.boolean false, ·)
  | _ => (JsonNumber.read text).map fun (value, rest) => (.number value, rest)

/-- The value in front of a text with containers nested at most `depth` deep, each of at most `size`
parts. -/
def readValue (size : Nat) : Nat → List Char → Option (Json × List Char)
  | 0, '[' :: _ => none
  | 0, '\x7b' :: _ => none
  | depth + 1, '[' :: rest =>
    match skipJsonBlanks rest with
    | ']' :: rest => some (.array [], rest)
    | rest => do
      let (items, rest) ← readItemsFrom (readValue size depth) size [] rest
      return (.array items, rest)
  | depth + 1, '\x7b' :: rest =>
    (readMembers (fun _ => readValue size depth) size rest).map fun (members, rest) =>
      (.object (Entries.ofMembers members), rest)
  | _, text => readPlain text

/-- The greatest depth of nested containers in a context. -/
def defaultDepth : Nat := 127

/-- The value that a whole text writes, with containers nested at most `depth` deep. -/
def readWithin (depth : Nat) (text : String) : Option Json := do
  let characters := text.toList
  let (value, rest) ← readValue characters.length depth (skipJsonBlanks characters)
  if (skipJsonBlanks rest).isEmpty then some value else none

/-- The value that a whole text writes. -/
def read (text : String) : Option Json := readWithin defaultDepth text

/-- The members of the object that a whole text writes, in order and with keys repeated as they are;
`readItem` reads the value of a key. -/
def readObjectBy (readItem : String → List Char → Option (Json × List Char)) (text : String) :
    Option (List (String × Json)) :=
  let characters := text.toList
  match skipJsonBlanks characters with
  | '\x7b' :: rest => do
    let (members, rest) ← readMembers readItem characters.length rest
    if (skipJsonBlanks rest).isEmpty then some members else none
  | _ => none

end WhenClause.Json
