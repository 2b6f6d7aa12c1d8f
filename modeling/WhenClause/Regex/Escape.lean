/-
**Spacing and escapes.**

Where spacing is on, blanks and comments mean nothing, also within an escape or a count.
`Options.skip` drops them from the front of a text. `readEscape` reads what stands behind a
backslash: a character, a class or an assertion.
-/

import WhenClause.Regex.Options
import WhenClause.Text.Blank

namespace WhenClause.Regex

/-- What a primitive part of a pattern stands for. -/
inductive Primitive where
  | character (c : Char)
  | members (set : CharSet)
  | assertion (condition : Assertion)

/-! ### Spacing -/

/-- What follows blanks and comments, which go from `#` to the end of the line. `size` bounds the
steps. -/
def skipSpacingWithin : Nat → List Char → List Char
  | 0, text => text
  | size + 1, text =>
    match text.dropWhile isBlank with
    | '#' :: rest => skipSpacingWithin size (rest.dropWhile (· != '\n'))
    | rest => rest

/-- A text without the blanks and comments at its front, where spacing is on. -/
def Options.skip (options : Options) (text : List Char) : List Char :=
  if options.spacing then skipSpacingWithin text.length text else text

/-- The longest run of characters at the front of a text that a condition allows, with spacing
behind each of them, and the rest. `size` bounds their number. -/
def takeSpaced (options : Options) (allowed : Char → Bool) :
    Nat → List Char → List Char × List Char
  | size + 1, c :: text =>
    if allowed c then
      let (taken, rest) := takeSpaced options allowed size (options.skip text)
      (c :: taken, rest)
    else ([], c :: text)
  | _, text => ([], text)

/-- The characters behind an opening brace up to the closing one, and what follows it. -/
def takeBraced (options : Options) (text : List Char) : Option (List Char × List Char) :=
  match takeSpaced options (· != '\x7d') text.length (options.skip text) with
  | (content, _ :: rest) => some (content, rest)
  | (_, []) => none

/-! ### Character codes -/

def isHexDigit (c : Char) : Bool :=
  c.isDigit || ('a' ≤ c && c ≤ 'f') || ('A' ≤ c && c ≤ 'F')

def hexValue (digit : Char) : Nat :=
  if digit.isDigit then digit.toNat - '0'.toNat
  else if 'a' ≤ digit then digit.toNat - 'a'.toNat + 10
  else digit.toNat - 'A'.toNat + 10

/-- The character with a code in hexadecimal digits. -/
def hexCharacter? (digits : List Char) : Option Char :=
  let code := digits.foldl (fun value digit => value * 16 + hexValue digit) 0
  if code.isValidChar then some (Char.ofNat code) else none

/-- A character code of some digits, or of any number of digits in braces. Without Unicode, a code
of two digits is a byte, and a byte beyond ASCII is no character. -/
def readCode (options : Options) (count : Nat) (text : List Char) : Option (Char × List Char) :=
  match options.skip text with
  | '\x7b' :: text => do
    let (digits, rest) ← takeBraced options text
    if digits.isEmpty ∨ !digits.all isHexDigit then none
    else return (← hexCharacter? digits, rest)
  | text => do
    let (digits, rest) := takeSpaced options isHexDigit count text
    let c ← hexCharacter? digits
    if digits.length < count ∨ (count = 2 ∧ !options.unicode ∧ 0x80 ≤ c.toNat) then none
    else return (c, rest)

/-! ### Properties -/

/-- The two parts of a text around the first occurrence of a separator; `before` holds what has been
passed, the last character first. -/
def splitAtText (separator before : List Char) : List Char → Option (List Char × List Char)
  | [] => none
  | c :: rest =>
    if separator.isPrefixOf (c :: rest) then
      some (before.reverse, (c :: rest).drop separator.length)
    else splitAtText separator (c :: before) rest

/-- The characters of a property expression: a name, or a name and a value. Behind `!=` stands what
they are not, and a negation in front of the expression turns that around once more. -/
def propertyMembers? (options : Options) (negated : Bool) (content : List Char) :
    Option CharSet :=
  match splitAtText ['!', '='] [] content with
  | some (property, value) => do
    options.propertyClass (← Options.valuedClass? property value) (!negated)
  | none =>
    match splitAtText [':'] [] content <|> splitAtText ['='] [] content with
    | some (property, value) => do
      options.propertyClass (← Options.valuedClass? property value) negated
    | none => do options.propertyClass (← Options.namedClass? content) negated

/-- A property class behind `\p` or `\P`: an expression in braces, or a single letter. -/
def readProperty (options : Options) (negated : Bool) (text : List Char) :
    Option (CharSet × List Char) :=
  match options.skip text with
  | [] => none
  | '\x7b' :: text => do
    let (content, rest) ← takeBraced options text
    return (← propertyMembers? options negated content, rest)
  | '\\' :: _ => none
  | c :: rest => do
    return (← options.propertyClass (← Options.namedClass? [c]) negated, rest)

/-! ### Assertions -/

/-- The word edge of a name in braces behind `\b`, if braces with a letter follow. -/
def readWordEdge (options : Options) (text : List Char) : Option (WordEdge × List Char) :=
  match text with
  | '\x7b' :: inner =>
    match options.skip inner with
    | [] => none
    | inner =>
      match takeSpaced options (fun c => c.isAlpha || c == '-') inner.length inner with
      | ([], _) => some (.boundary, text)
      | (name, '\x7d' :: rest) =>
        match String.ofList name with
        | "start" => some (.start, rest)
        | "end" => some (.stop, rest)
        | "start-half" => some (.startHalf, rest)
        | "end-half" => some (.stopHalf, rest)
        | _ => none
      | _ => none
  | _ => some (.boundary, text)

/-! ### All escapes -/

/-- Characters with a meaning in patterns. -/
def isMeta (c : Char) : Bool := "\\.+*?()|[]\x7b\x7d^$#&-~".toList.contains c

/-- Characters that a backslash may precede without changing them. -/
def isEscapable (c : Char) : Bool :=
  isMeta c || (c.toNat < 0x80 && !c.isAlphanum && c != '<' && c != '>')

/-- The control character of a letter escape. -/
def controlCharacter? : Char → Option Char
  | 'a' => some '\x07'
  | 'f' => some '\x0c'
  | 't' => some '\t'
  | 'n' => some '\n'
  | 'r' => some '\r'
  | 'v' => some '\x0b'
  | _ => none

/-- The escape whose text behind the backslash begins with `c`. Digits are refused: there are no
references to groups. -/
def readEscape (options : Options) (c : Char) (rest : List Char) :
    Option (Primitive × List Char) :=
  match c with
  | 'x' => (readCode options 2 rest).map fun (c, rest) => (.character c, rest)
  | 'u' => (readCode options 4 rest).map fun (c, rest) => (.character c, rest)
  | 'U' => (readCode options 8 rest).map fun (c, rest) => (.character c, rest)
  | 'p' => (readProperty options false rest).map fun (set, rest) => (.members set, rest)
  | 'P' => (readProperty options true rest).map fun (set, rest) => (.members set, rest)
  | 'A' => some (.assertion .textStart, rest)
  | 'z' => some (.assertion .textEnd, rest)
  | 'b' =>
    (readWordEdge options rest).map fun (edge, rest) => (.assertion (options.wordEdge edge), rest)
  | 'B' => some (.assertion (options.wordEdge .inside), rest)
  | '<' => some (.assertion (options.wordEdge .start), rest)
  | '>' => some (.assertion (options.wordEdge .stop), rest)
  | _ =>
    if ['d', 's', 'w', 'D', 'S', 'W'].contains c then
      (options.letterClass? c).map fun set => (.members set, rest)
    else if isEscapable c then some (.character c, rest)
    else (controlCharacter? c).map fun control => (.character control, rest)

end WhenClause.Regex
