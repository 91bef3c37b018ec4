import Mathlib.Data.List.Basic

set_option autoImplicit false

/-! The values of CPython's `json` module and `json.dumps` with its defaults. -/

namespace Dify.Python

inductive PyError
  | jsonDecodeError
  | keyError (key : String)
  | typeError (msg : String)
  | attributeError (msg : String)
  | valueError (msg : String)
  deriving DecidableEq, Repr

def digitsValue (ds : List Char) : Nat := ds.foldl (fun n d => 10 * n + (d.toNat - '0'.toNat)) 0

def isExponent (c : Char) : Bool := c == 'e' || c == 'E'

-- `float(lexeme) == 0.0` rounds to nearest, ties to even: the value is zero exactly when it is at
-- most half the least subnormal, `2 ^ -1075`
def numberIsZero (lexeme : String) : Bool :=
  let mantissa := lexeme.data.takeWhile fun c => !isExponent c
  let exponent := (lexeme.data.dropWhile fun c => !isExponent c).drop 1
  let m := digitsValue (mantissa.filter Char.isDigit)
  let e := digitsValue (exponent.filter Char.isDigit)
  let k : Int := (if exponent.head? = some '-' then -(e : Int) else e) -
    ((mantissa.dropWhile (· != '.')).drop 1).length
  lexeme ∉ ["NaN", "Infinity", "-Infinity"] &&
    (m = 0 || k < 0 && m * Nat.pow 2 1075 ≤ Nat.pow 10 k.natAbs)

inductive Json
  | null
  | bool (b : Bool)
  | num (lexeme : String)
  | str (s : String)
  | arr (xs : List Json)
  | obj (kvs : List (String × Json))

namespace Json

def typeName : Json → String
  | null => "NoneType"
  | bool _ => "bool"
  | num lexeme => if lexeme.data.all fun c => c.isDigit || c == '-' then "int" else "float"
  | str _ => "str"
  | arr _ => "list"
  | obj _ => "dict"

def truthy : Json → Bool
  | null => false
  | bool b => b
  | num lexeme => !numberIsZero lexeme
  | str s => !s.data.isEmpty
  | arr xs => !xs.isEmpty
  | obj kvs => !kvs.isEmpty

def getItem (v : Json) (key : String) : Except PyError Json :=
  match v with
  | obj kvs =>
    match kvs.reverse.lookup key with
    | some x => .ok x
    | none => .error (.keyError key)
  | arr _ => .error (.typeError "list indices must be integers or slices, not str")
  | str _ => .error (.typeError "string indices must be integers, not 'str'")
  | v => .error (.typeError ("'" ++ v.typeName ++ "' object is not subscriptable"))

@[simp] lemma getItem_obj_cons (k : String) (x : Json) (key : String) :
    getItem (obj [(k, x)]) key = if k = key then .ok x else .error (.keyError key) := by
  by_cases h : k = key
  · simp [getItem, List.lookup_cons, h]
  · have hk : (key == k) = false := beq_false_of_ne (Ne.symm h)
    simp [getItem, List.lookup_cons, h, hk]

end Json

def dictGet (kvs : List (String × Json)) (key : String) (default : Json) : Json :=
  (kvs.reverse.lookup key).getD default

def sChar (c : Char) : Bool := ' ' ≤ c && c ≤ '~' && c != '\\' && c != '"'

def hexDigits (v : Nat) : List Char :=
  [12, 8, 4, 0].map fun k => Nat.digitChar (v >>> k &&& 0xf)

def asciiEscapeUnichar (c : Char) : List Char :=
  '\\' :: match c with
  | '\\' => ['\\']
  | '"' => ['"']
  | '\x08' => ['b']
  | '\x0c' => ['f']
  | '\n' => ['n']
  | '\r' => ['r']
  | '\t' => ['t']
  | c =>
    if c.toNat ≥ 0x10000 then
      'u' :: hexDigits (0xD800 - (0x10000 >>> 10) + (c.toNat >>> 10)) ++
        '\\' :: 'u' :: hexDigits (0xDC00 + (c.toNat &&& 0x3FF))
    else 'u' :: hexDigits c.toNat

def escapeChar (c : Char) : List Char := if sChar c then [c] else asciiEscapeUnichar c

def asciiEscapeUnicode (s : String) : List Char := '"' :: s.data.flatMap escapeChar ++ ['"']

mutual
def encode : Json → List Char
  | .null => "null".data
  | .bool true => "true".data
  | .bool false => "false".data
  | .num lexeme => lexeme.data
  | .str s => asciiEscapeUnicode s
  | .arr [] => "[]".data
  | .arr (x :: xs) => '[' :: encode x ++ encodeItems xs ++ [']']
  | .obj [] => "{}".data
  | .obj ((k, x) :: kvs) =>
    '{' :: asciiEscapeUnicode k ++ ':' :: ' ' :: encode x ++ encodeMembers kvs ++ ['}']
def encodeItems : List Json → List Char
  | [] => []
  | x :: xs => ',' :: ' ' :: encode x ++ encodeItems xs
def encodeMembers : List (String × Json) → List Char
  | [] => []
  | (k, x) :: kvs =>
    ',' :: ' ' :: asciiEscapeUnicode k ++ ':' :: ' ' :: encode x ++ encodeMembers kvs
end

def dumps (v : Json) : String := ⟨encode v⟩

example : dumps (.obj [("type", .str "chroma"), ("a", .arr [.null, .str "é\n"])]) =
    "\x7b\"type\": \"chroma\", \"a\": [null, \"\\u00e9\\n\"]\x7d" := by decide

end Dify.Python
