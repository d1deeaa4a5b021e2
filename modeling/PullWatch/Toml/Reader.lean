import PullWatch.Toml.Scalar

/-!
# Reading TOML documents

A document is a series of lines. A line is empty, a header, or a key with its value; a comment may
end it. Arrays and inline tables may spread over several lines.

## Main definitions

* `Toml.key?`, `Toml.value?`: a key and a value at the front of a text.
* `Toml.parse?`: the root table of a document.
-/

namespace PullWatch.Toml

/-! ### Blanks, comments and line ends -/

/-- The text without the blanks at its front. -/
def skipBlank (cs : List Char) : List Char := cs.dropWhile fun c => c == ' ' || c == '\t'

/-- The text without the comment at its front. -/
def skipComment : List Char → List Char
  | '#' :: rest => rest.dropWhile fun c => !isLineEnd c
  | cs => cs

/-- The text without the blanks, comments and line ends at its front. `fuel` bounds the number of
lines. -/
def skipLines : Nat → List Char → List Char
  | 0, cs => cs
  | fuel + 1, cs =>
    match cs.dropWhile isSpace with
    | '#' :: rest => skipLines fuel (skipComment ('#' :: rest))
    | cs => cs

/-- The text without the blanks, comments and line ends at its front. -/
def skipSpace (cs : List Char) : List Char := skipLines (cs.length + 1) cs

/-- The text after the end of a line: nothing but blanks and a comment is left on it. -/
def endLine? (cs : List Char) : Option (List Char) :=
  match skipComment (skipBlank cs) with
  | [] => some []
  | c :: rest => if isLineEnd c then some (skipLineEnd (c :: rest)) else none

/-! ### Keys -/

/-- The characters of a name without quotes. -/
def isBare (c : Char) : Bool := c.isAlphanum || c == '-' || c == '_'

/-- One name at the front of a text. -/
def name? : List Char → Option (String × List Char)
  | '"' :: rest => (basicBody rest).map fun r => (String.ofList r.1, r.2)
  | '\'' :: rest => (literalBody rest).map fun r => (String.ofList r.1, r.2)
  | cs =>
    let bare := cs.takeWhile isBare
    if bare.isEmpty then none else some (String.ofList bare, cs.drop bare.length)

/-- The names of a dotted key after the first, and the text after the key. `fuel` bounds their
number. -/
def moreNames? : Nat → List Char → Option (List String × List Char)
  | 0, _ => none
  | fuel + 1, cs =>
    match skipBlank cs with
    | '.' :: rest => do
      let (name, rest) ← name? (skipBlank rest)
      let (names, rest) ← moreNames? fuel rest
      some (name :: names, rest)
    | cs => some ([], cs)

/-- A key: the names before its last one, the last one and the text after the key. -/
structure Key where
  path : List String
  name : String
  rest : List Char

/-- A key at the front of a text. -/
def key? (cs : List Char) : Option Key := do
  let (first, rest) ← name? (skipBlank cs)
  let (names, rest) ← moreNames? (rest.length + 1) rest
  match names.getLast? with
  | none => some { path := [], name := first, rest }
  | some last => some { path := first :: names.dropLast, name := last, rest }

/-! ### Values -/

mutual

/-- A value at the front of a text. `depth` is how many more arrays and inline tables may be opened;
`fuel` bounds the number of steps and never runs out while it exceeds twice the length of the
text. -/
def value? (depth : Nat) : Nat → List Char → Option (Toml × List Char)
  | 0, _ => none
  | fuel + 1, cs =>
    match cs with
    | '"' :: '"' :: '"' :: rest => (longBasic rest).map fun r => (text (String.ofList r.1), r.2)
    | '"' :: rest => (basicBody rest).map fun r => (text (String.ofList r.1), r.2)
    | '\'' :: '\'' :: '\'' :: rest =>
      (longLiteral rest).map fun r => (text (String.ofList r.1), r.2)
    | '\'' :: rest => (literalBody rest).map fun r => (text (String.ofList r.1), r.2)
    | '[' :: rest =>
      match depth with
      | 0 => none
      | depth + 1 => do
        let (items, rest) ← items? depth fuel rest
        some (array items, rest)
    | '{' :: rest =>
      match depth with
      | 0 => none
      | depth + 1 => do
        let (entries, rest) ← entries? depth fuel [] rest
        some (inline entries, rest)
    | cs => do
      let word := wordOf cs
      let v ← word? word
      some (v, cs.drop word.length)

/-- The items of an array, up to and with its closing bracket. -/
def items? (depth : Nat) : Nat → List Char → Option (List Toml × List Char)
  | 0, _ => none
  | fuel + 1, cs =>
    match skipSpace cs with
    | ']' :: rest => some ([], rest)
    | cs => do
      let (v, rest) ← value? depth fuel cs
      match skipSpace rest with
      | ']' :: rest => some ([v], rest)
      | ',' :: rest => do
        let (vs, rest) ← items? depth fuel rest
        some (v :: vs, rest)
      | _ => none

/-- The entries of an inline table, up to and with its closing brace; `found` are those before. -/
def entries? (depth : Nat) : Nat → Entries → List Char → Option (Entries × List Char)
  | 0, _, _ => none
  | fuel + 1, found, cs =>
    match skipSpace cs with
    | '}' :: rest => some (found, rest)
    | cs => do
      let key ← key? cs
      match key.rest with
      | '=' :: rest => do
        let (v, rest) ← value? depth fuel (skipBlank rest)
        let found ← assign? [] key.path key.name v found
        match skipSpace rest with
        | '}' :: rest => some (found, rest)
        | ',' :: rest => entries? depth fuel found rest
        | _ => none
      | _ => none

end

/-- The greatest number of nested arrays and inline tables. -/
def nestingLimit : Nat := 80

/-! ### Documents -/

/-- The part of a document that has been read: the root table, and the header in force. -/
structure Progress where
  header : List String := []
  root : Entries := []

/-- Reads a header after its first bracket. -/
def header? (p : Progress) : List Char → Option (Progress × List Char)
  | '[' :: rest => do
    let key ← key? rest
    match key.rest with
    | ']' :: ']' :: rest => do
      let root ← openItem? key.path key.name p.root
      some ({ header := key.path ++ [key.name], root }, rest)
    | _ => none
  | cs => do
    let key ← key? cs
    match key.rest with
    | ']' :: rest => do
      let root ← openTable? key.path key.name p.root
      some ({ header := key.path ++ [key.name], root }, rest)
    | _ => none

/-- Reads a key and its value. -/
def assignment? (p : Progress) (cs : List Char) : Option (Progress × List Char) := do
  let key ← key? cs
  match key.rest with
  | '=' :: rest => do
    let (v, rest) ← value? nestingLimit (2 * rest.length + 2) (skipBlank rest)
    let root ← assign? p.header key.path key.name v p.root
    some ({ p with root }, rest)
  | _ => none

/-- Reads the lines of a document. `fuel` bounds their number. -/
def lines? : Nat → Progress → List Char → Option Progress
  | 0, _, _ => none
  | fuel + 1, p, cs =>
    match skipSpace cs with
    | [] => some p
    | '[' :: rest => do
      let (p, rest) ← header? p rest
      lines? fuel p (← endLine? rest)
    | cs => do
      let (p, rest) ← assignment? p cs
      lines? fuel p (← endLine? rest)

/-- A control character that no document holds. -/
def isForbidden (c : Char) : Bool :=
  (c.toNat < 32 && !(c == '\t' || isLineEnd c)) || c.toNat == 127

/-- Every carriage return stands before a line feed. -/
def hasWholeLineEnds : List Char → Bool
  | [] => true
  | '\r' :: rest => rest.head? == some '\n' && hasWholeLineEnds rest
  | _ :: rest => hasWholeLineEnds rest

/-- The text without a byte order mark at its front. -/
def skipMark : List Char → List Char
  | c :: rest => if c.toNat = 0xFEFF then rest else c :: rest
  | [] => []

/-- The root table of a document; absent when the text is none. -/
def parse? (document : String) : Option Entries :=
  let cs := skipMark document.toList
  if cs.any isForbidden || !hasWholeLineEnds cs then none
  else (lines? (cs.length + 1) {} cs).map (·.root)

end PullWatch.Toml
