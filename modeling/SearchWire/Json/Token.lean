import SearchWire.Json.Numeral

/-!
# JSON tokens

Text is read character by character. A string keeps its content as code
numbers, since an escape may name half of a surrogate pair; only where the
string is used must the halves match.
-/

namespace SearchWire.Json

abbrev Codes := List Nat

/-- The text that codes spell; a half pair spells none. -/
def Codes.chars? : Codes → Option (List Char)
  | [] => some []
  | high :: low :: rest =>
    if 0xD800 ≤ high ∧ high < 0xDC00 then
      if 0xDC00 ≤ low ∧ low < 0xE000 then
        (chars? rest).map (Char.ofNat (0x10000 + (high - 0xD800) * 0x400 + (low - 0xDC00)) :: ·)
      else none
    else if 0xDC00 ≤ high ∧ high < 0xE000 then none
    else (chars? (low :: rest)).map (Char.ofNat high :: ·)
  | [code] => if 0xD800 ≤ code ∧ code < 0xE000 then none else some [Char.ofNat code]

def Codes.text? (codes : Codes) : Option String := (chars? codes).map String.ofList

inductive Token where
  | openArray
  | closeArray
  | openObject
  | closeObject
  | comma
  | colon
  | null
  | bool (value : Bool)
  | number (numeral : Numeral)
  | string (codes : Codes)

namespace Token

/-- What has been read of an unfinished token; codes, digits and letters
stand in reverse. -/
inductive Partial where
  | blank
  | number (read : List Char)
  | word (read : List Char)
  | string (read : Codes)
  | escape (read : Codes)
  | unicode (read : Codes) (digits : List Char)

def isBlank (c : Char) : Bool := c == ' ' || c == '\n' || c == '\t' || c == '\r'

def inNumber (c : Char) : Bool :=
  Decimal.isDigit c || c == '-' || c == '+' || c == '.' || c == 'e' || c == 'E'

def inWord (c : Char) : Bool := 'a' ≤ c && c ≤ 'z'

def ofWord? : List Char → Option Token
  | ['n', 'u', 'l', 'l'] => some .null
  | ['t', 'r', 'u', 'e'] => some (.bool true)
  | ['f', 'a', 'l', 's', 'e'] => some (.bool false)
  | _ => none

def hexDigit? (c : Char) : Option Nat :=
  if '0' ≤ c ∧ c ≤ '9' then some (c.toNat - '0'.toNat)
  else if 'a' ≤ c ∧ c ≤ 'f' then some (c.toNat - 'a'.toNat + 10)
  else if 'A' ≤ c ∧ c ≤ 'F' then some (c.toNat - 'A'.toNat + 10)
  else none

def escaped? : Char → Option Nat
  | '"' => some 0x22
  | '\\' => some 0x5C
  | '/' => some 0x2F
  | 'b' => some 0x08
  | 'f' => some 0x0C
  | 'n' => some 0x0A
  | 'r' => some 0x0D
  | 't' => some 0x09
  | _ => none

/-- Tokens read so far, the last one first, and the unfinished one. -/
structure Reader where
  tokens : List Token
  current : Partial

def start (tokens : List Token) (c : Char) : Option Reader :=
  if isBlank c then some ⟨tokens, .blank⟩
  else match c with
    | '[' => some ⟨.openArray :: tokens, .blank⟩
    | ']' => some ⟨.closeArray :: tokens, .blank⟩
    | '\x7b' => some ⟨.openObject :: tokens, .blank⟩
    | '\x7d' => some ⟨.closeObject :: tokens, .blank⟩
    | ',' => some ⟨.comma :: tokens, .blank⟩
    | ':' => some ⟨.colon :: tokens, .blank⟩
    | '"' => some ⟨tokens, .string []⟩
    | c =>
      if c = '-' ∨ Decimal.isDigit c then some ⟨tokens, .number [c]⟩
      else if inWord c then some ⟨tokens, .word [c]⟩
      else none

def finish (reader : Reader) : Option (List Token) :=
  match reader.current with
  | .blank => some reader.tokens
  | .number read => (Numeral.ofChars? read.reverse).map (.number · :: reader.tokens)
  | .word read => (ofWord? read.reverse).map (· :: reader.tokens)
  | _ => none

def step (reader : Reader) (c : Char) : Option Reader :=
  match reader.current with
  | .blank => start reader.tokens c
  | .number read =>
    if inNumber c then some ⟨reader.tokens, .number (c :: read)⟩
    else (finish reader).bind (start · c)
  | .word read =>
    if inWord c then some ⟨reader.tokens, .word (c :: read)⟩
    else (finish reader).bind (start · c)
  | .string read =>
    if c = '"' then some ⟨.string read.reverse :: reader.tokens, .blank⟩
    else if c = '\\' then some ⟨reader.tokens, .escape read⟩
    else if c.toNat < 0x20 then none
    else some ⟨reader.tokens, .string (c.toNat :: read)⟩
  | .escape read =>
    if c = 'u' then some ⟨reader.tokens, .unicode read []⟩
    else (escaped? c).map fun code => ⟨reader.tokens, .string (code :: read)⟩
  | .unicode read digits =>
    if (hexDigit? c).isNone then none
    else if digits.length < 3 then some ⟨reader.tokens, .unicode read (c :: digits)⟩
    else
      let code := (c :: digits).reverse.foldl (fun n d => 16 * n + (hexDigit? d).getD 0) 0
      some ⟨reader.tokens, .string (code :: read)⟩

def readAll (reader : Reader) : List Char → Option Reader
  | [] => some reader
  | c :: rest => (step reader c).bind (readAll · rest)

def scan? (text : String) : Option (List Token) :=
  ((readAll ⟨[], .blank⟩ text.toList).bind finish).map List.reverse

end Token

end SearchWire.Json
