import Dify.Python.Json.Encode
import Dify.Python.Dict

set_option autoImplicit false

/-! `json.loads` as CPython's C scanner reads a `str`. -/

namespace Dify.Python

def isWhitespace (c : Char) : Bool := c == ' ' || c == '\t' || c == '\n' || c == '\r'

def skipWhitespace (l : List Char) : List Char := l.dropWhile isWhitespace

@[simp] lemma skipWhitespace_nil : skipWhitespace [] = [] := rfl

lemma skipWhitespace_cons (c : Char) (l : List Char) :
    skipWhitespace (c :: l) = if isWhitespace c then skipWhitespace l else c :: l := by
  simp only [skipWhitespace, List.dropWhile_cons]

def hexValue (c : Char) : Option Nat :=
  if '0' ≤ c ∧ c ≤ '9' then some (c.toNat - '0'.toNat)
  else if 'a' ≤ c ∧ c ≤ 'f' then some (c.toNat - 'a'.toNat + 10)
  else if 'A' ≤ c ∧ c ≤ 'F' then some (c.toNat - 'A'.toNat + 10)
  else none

def decodeHex4 (a b c d : Char) : Option Nat := do
  let a ← hexValue a
  let b ← hexValue b
  let c ← hexValue c
  let d ← hexValue d
  pure (((a <<< 4 ||| b) <<< 4 ||| c) <<< 4 ||| d)

def escapeValue : Char → Option Char
  | '"' => some '"'
  | '\\' => some '\\'
  | '/' => some '/'
  | 'b' => some '\x08'
  | 'f' => some '\x0c'
  | 'n' => some '\n'
  | 'r' => some '\r'
  | 't' => some '\t'
  | _ => none

def consChar (c : Char) : Option (List Char × List Char) → Option (List Char × List Char) :=
  Option.map fun p => (c :: p.1, p.2)

def joinSurrogates (high low : Nat) : Nat :=
  ((high &&& 0x3FF) <<< 10 ||| (low &&& 0x3FF)) + 0x10000

mutual
def scanstring : List Char → Option (List Char × List Char)
  | [] => none
  | c :: r =>
    if c = '"' then some ([], r)
    else if c = '\\' then scanEscape r
    else if c.toNat ≤ 0x1F then none
    else consChar c (scanstring r)
def scanEscape : List Char → Option (List Char × List Char)
  | [] => none
  | e :: r =>
    if e = 'u' then scanUnicode r else (escapeValue e).bind fun ch => consChar ch (scanstring r)
def scanUnicode : List Char → Option (List Char × List Char)
  | a :: b :: c :: d :: r =>
    match decodeHex4 a b c d with
    | none => none
    | some u =>
      if 0xD800 ≤ u ∧ u ≤ 0xDBFF then scanLowSurrogate u r
      else if 0xDC00 ≤ u ∧ u ≤ 0xDFFF then none
      else consChar (Char.ofNat u) (scanstring r)
  | _ => none
def scanLowSurrogate (u : Nat) : List Char → Option (List Char × List Char)
  | b₁ :: b₂ :: e :: f :: g :: h :: r =>
    if b₁ = '\\' ∧ b₂ = 'u' then
      match decodeHex4 e f g h with
      | none => none
      | some u₂ =>
        if 0xDC00 ≤ u₂ ∧ u₂ ≤ 0xDFFF then
          consChar (Char.ofNat (joinSurrogates u u₂)) (scanstring r)
        else none
    else none
  | _ => none
end

def matchMinus : List Char → List Char × List Char
  | [] => ([], [])
  | c :: r => if c = '-' then ([c], r) else ([], c :: r)

def matchInt : List Char → Option (List Char × List Char)
  | [] => none
  | c :: r =>
    if '1' ≤ c ∧ c ≤ '9' then some (c :: r.takeWhile Char.isDigit, r.dropWhile Char.isDigit)
    else if c = '0' then some ([c], r)
    else none

def matchFrac : List Char → List Char × List Char
  | [] => ([], [])
  | [c] => ([], [c])
  | c₁ :: c₂ :: r =>
    if c₁ = '.' ∧ c₂.isDigit then (c₁ :: c₂ :: r.takeWhile Char.isDigit, r.dropWhile Char.isDigit)
    else ([], c₁ :: c₂ :: r)

def matchSign : List Char → List Char × List Char
  | [] => ([], [])
  | c :: r => if c = '-' ∨ c = '+' then ([c], r) else ([], c :: r)

def matchExp : List Char → List Char × List Char
  | [] => ([], [])
  | e :: r =>
    if e = 'e' ∨ e = 'E' then
      match matchSign r with
      | (sign, c :: r') =>
        if c.isDigit then (e :: sign ++ c :: r'.takeWhile Char.isDigit, r'.dropWhile Char.isDigit)
        else ([], e :: r)
      | (_, []) => ([], e :: r)
    else ([], e :: r)

def matchNumber (l : List Char) : Option (List Char × List Char) :=
  let m := matchMinus l
  (matchInt m.2).map fun i =>
    let f := matchFrac i.2
    let e := matchExp f.2
    (m.1 ++ i.1 ++ f.1 ++ e.1, e.2)

def afterWord : List Char → List Char → Option (List Char)
  | [], l => some l
  | c :: word, d :: l => if c = d then afterWord word l else none
  | _ :: _, [] => none

def constants : List (String × Json) :=
  [("null", .null), ("true", .bool true), ("false", .bool false), ("NaN", .num "NaN"),
    ("Infinity", .num "Infinity"), ("-Infinity", .num "-Infinity")]

def matchConstant (l : List Char) : Option (Json × List Char) :=
  constants.findSome? fun w => (afterWord w.1.data l).map (w.2, ·)

def intFits (lexeme : List Char) : Bool :=
  lexeme.any (fun c => c == '.' || isExponent c) || (lexeme.filter Char.isDigit).length ≤ 4300

mutual
def scanOnce : Nat → List Char → Option (Json × List Char)
  | 0, _ => none
  | _ + 1, [] => none
  | n + 1, c :: l =>
    if c = '"' then (scanstring l).map fun p => (.str ⟨p.1⟩, p.2)
    else if c = '{' then
      let l := skipWhitespace l
      if l.head? = some '}' then some (.obj [], l.tail) else parseObject n [] l
    else if c = '[' then
      let l := skipWhitespace l
      if l.head? = some ']' then some (.arr [], l.tail) else parseArray n [] l
    else (matchConstant (c :: l)).orElse fun _ =>
      (matchNumber (c :: l)).bind fun p => if intFits p.1 then some (.num ⟨p.1⟩, p.2) else none
def parseArray : Nat → List Json → List Char → Option (Json × List Char)
  | 0, _, _ => none
  | n + 1, acc, l =>
    (scanOnce n l).bind fun p =>
      let r := skipWhitespace p.2
      if r.head? = some ']' then some (.arr (acc ++ [p.1]), r.tail)
      else if r.head? = some ',' then parseArray n (acc ++ [p.1]) (skipWhitespace r.tail)
      else none
def parseObject : Nat → List (String × Json) → List Char → Option (Json × List Char)
  | 0, _, _ => none
  | n + 1, acc, l =>
    if l.head? = some '"' then
      (scanstring l.tail).bind fun k =>
        let r := skipWhitespace k.2
        if r.head? = some ':' then
          (scanOnce n (skipWhitespace r.tail)).bind fun p =>
            let r := skipWhitespace p.2
            if r.head? = some '}' then some (.obj (dictInsert acc ⟨k.1⟩ p.1), r.tail)
            else if r.head? = some ',' then
              parseObject n (dictInsert acc ⟨k.1⟩ p.1) (skipWhitespace r.tail)
            else none
        else none
    else none
end

section ScanOnce

variable (n : Nat) (l : List Char)

lemma scanOnce_quote :
    scanOnce (n + 1) ('"' :: l) = (scanstring l).map fun p => (.str ⟨p.1⟩, p.2) := by
  simp [scanOnce]

lemma scanOnce_brace : scanOnce (n + 1) ('{' :: l) =
    if (skipWhitespace l).head? = some '}' then some (.obj [], (skipWhitespace l).tail)
    else parseObject n [] (skipWhitespace l) := by
  simp [scanOnce]

lemma scanOnce_bracket : scanOnce (n + 1) ('[' :: l) =
    if (skipWhitespace l).head? = some ']' then some (.arr [], (skipWhitespace l).tail)
    else parseArray n [] (skipWhitespace l) := by
  simp [scanOnce]

lemma scanOnce_of_ne {c : Char} (h₁ : c ≠ '"') (h₂ : c ≠ '{') (h₃ : c ≠ '[') :
    scanOnce (n + 1) (c :: l) = (matchConstant (c :: l)).orElse fun _ =>
      (matchNumber (c :: l)).bind fun p =>
        if intFits p.1 then some (.num ⟨p.1⟩, p.2) else none := by
  simp [scanOnce, h₁, h₂, h₃]

end ScanOnce

def loads (s : String) : Option Json :=
  if s.data.head? = some '\uFEFF' then none
  else (scanOnce (s.length + 1) (skipWhitespace s.data)).bind fun p =>
    if skipWhitespace p.2 = [] then some p.1 else none

example : (loads " [1, \"\\ud83d\\ude00\\n\", true, null] ").map dumps =
    some "[1, \"\\ud83d\\ude00\\n\", true, null]" := by decide
example : loads "\x7b\"a\": 1, \"b\": [], \"a\": 0.0\x7d" =
    some (.obj [("a", .num "0.0"), ("b", .arr [])]) := rfl
set_option exponentiation.threshold 1100 in
example : ([loads "0.0", loads "1e-400", loads "-2.4703282292062327e-324"].map
    (Option.map Json.truthy)) = [some false, some false, some false] := by decide
example : [loads "[1, ]", loads "01", loads "\"\\udc00\""].all Option.isNone := by decide

end Dify.Python
