import Dify.Python.Json.Decode
import Mathlib.Data.List.Nodup

set_option autoImplicit false

/-! `json.loads` reads back what `json.dumps` writes. -/

namespace Dify.Python

def numberLexeme (lexeme : String) : Bool :=
  lexeme = "NaN" || lexeme = "Infinity" || lexeme = "-Infinity" ||
    matchNumber lexeme.data = some (lexeme.data, []) && intFits lexeme.data

mutual
def Json.wellFormed : Json → Bool
  | .num lexeme => numberLexeme lexeme
  | .arr xs => Json.wellFormedItems xs
  | .obj kvs => (kvs.map Prod.fst).Nodup && Json.wellFormedMembers kvs
  | _ => true
def Json.wellFormedItems : List Json → Bool
  | [] => true
  | x :: xs => x.wellFormed && Json.wellFormedItems xs
def Json.wellFormedMembers : List (String × Json) → Bool
  | [] => true
  | (_, x) :: kvs => x.wellFormed && Json.wellFormedMembers kvs
end

lemma isDigit_iff (c : Char) : c.isDigit = true ↔ 48 ≤ c.toNat ∧ c.toNat ≤ 57 := by
  unfold Char.isDigit
  simp only [Bool.and_eq_true, decide_eq_true_eq]
  exact Iff.rfl

lemma hexValue_digitChar : ∀ d < 16, hexValue (Nat.digitChar d) = some d := by decide

@[simp] lemma and_fifteen (x : Nat) : x &&& 0xf = x % 16 := by
  simpa using Nat.and_pow_two_sub_one_eq_mod x 4

@[simp] lemma and_3ff (x : Nat) : x &&& 0x3FF = x % 1024 := by
  simpa using Nat.and_pow_two_sub_one_eq_mod x 10

lemma shiftLeft_four_or (x y : Nat) : x <<< 4 ||| y % 16 = 16 * x + y % 16 := by
  rw [Nat.shiftLeft_eq, Nat.mul_comm]
  exact (Nat.mul_add_lt_is_or (Nat.mod_lt y (Nat.two_pow_pos 4)) x).symm

lemma shiftLeft_ten_or (x y : Nat) : x <<< 10 ||| y % 1024 = 1024 * x + y % 1024 := by
  rw [Nat.shiftLeft_eq, Nat.mul_comm]
  exact (Nat.mul_add_lt_is_or (Nat.mod_lt y (Nat.two_pow_pos 10)) x).symm

lemma decodeHex4_hexDigits {v : Nat} (hv : v < 0x10000) :
    ∃ a b c d, hexDigits v = [a, b, c, d] ∧ decodeHex4 a b c d = some v := by
  refine ⟨_, _, _, _, rfl, ?_⟩
  have hd : ∀ x, hexValue (Nat.digitChar (x % 16)) = some (x % 16) := fun x =>
    hexValue_digitChar _ (Nat.mod_lt _ (by decide))
  simp only [decodeHex4, and_fifteen, hd, Option.bind_eq_bind, Option.some_bind,
    shiftLeft_four_or, Nat.shiftRight_eq_div_pow, Nat.reducePow, Nat.div_one]
  -- the digits, from the highest, fold back to `v`
  have h₁ : v / 4096 % 16 = v / 4096 := Nat.mod_eq_of_lt (by omega)
  have h₂ := Nat.div_add_mod (v / 256) 16
  have h₃ := Nat.div_add_mod (v / 16) 16
  rw [Nat.div_div_eq_div_mul] at h₂ h₃
  rw [h₁, h₂, h₃, Nat.div_add_mod]
  rfl

lemma joinSurrogates_eq {n : Nat} (h : 0x10000 ≤ n) (h' : n < 0x110000) :
    joinSurrogates (0xD800 - (0x10000 >>> 10) + (n >>> 10)) (0xDC00 + (n &&& 0x3FF)) = n := by
  simp only [joinSurrogates, and_3ff, shiftLeft_ten_or, Nat.shiftRight_eq_div_pow]
  omega

lemma scanstring_u {v : Nat} (hv : v < 0x10000) (hs : ¬ (0xD800 ≤ v ∧ v ≤ 0xDFFF))
    (l : List Char) :
    scanstring ('\\' :: 'u' :: (hexDigits v ++ l)) = consChar (Char.ofNat v) (scanstring l) := by
  obtain ⟨a, b, c, d, h, hd⟩ := decodeHex4_hexDigits hv
  have h₁ : ¬ (0xD800 ≤ v ∧ v ≤ 0xDBFF) := by omega
  have h₂ : ¬ (0xDC00 ≤ v ∧ v ≤ 0xDFFF) := by omega
  simp [h, scanstring.eq_2, scanEscape.eq_2, scanUnicode.eq_1, hd, h₁, h₂]

lemma scanstring_u_pair {hi lo : Nat} (hh : 0xD800 ≤ hi ∧ hi ≤ 0xDBFF)
    (hl : 0xDC00 ≤ lo ∧ lo ≤ 0xDFFF) (l : List Char) :
    scanstring ('\\' :: 'u' :: (hexDigits hi ++ '\\' :: 'u' :: (hexDigits lo ++ l))) =
      consChar (Char.ofNat (joinSurrogates hi lo)) (scanstring l) := by
  obtain ⟨a, b, c, d, h, hd⟩ := decodeHex4_hexDigits (show hi < 0x10000 by omega)
  obtain ⟨e, f, g, k, h', he⟩ := decodeHex4_hexDigits (show lo < 0x10000 by omega)
  simp [h, h', scanstring.eq_2, scanEscape.eq_2, scanUnicode.eq_1, scanLowSurrogate.eq_1, hd, he,
    hh, hl]

lemma of_sChar {c : Char} (h : sChar c = true) : c ≠ '"' ∧ c ≠ '\\' ∧ ¬ c.toNat ≤ 0x1F := by
  simp only [sChar, Bool.and_eq_true, decide_eq_true_eq, bne_iff_ne, ne_eq] at h
  have : 32 ≤ c.toNat := h.1.1.1
  exact ⟨h.2, h.1.2, by omega⟩

lemma scanstring_escapeChar (c : Char) (l : List Char) :
    scanstring (escapeChar c ++ l) = consChar c (scanstring l) := by
  unfold escapeChar
  split
  · obtain ⟨h₁, h₂, h₃⟩ := of_sChar ‹_›
    simp [scanstring.eq_2, h₁, h₂, h₃]
  · unfold asciiEscapeUnichar
    split
    -- a character with no one-letter escape: one `\uXXXX`, or a surrogate pair above the basic
    -- plane
    case h_8 =>
      have hc : c.toNat < 0xD800 ∨ (0xDFFF < c.toNat ∧ c.toNat < 0x110000) := c.valid
      split_ifs with hbig
      · have hhi : 0xD800 ≤ 0xD800 - (0x10000 >>> 10) + (c.toNat >>> 10) ∧
            0xD800 - (0x10000 >>> 10) + (c.toNat >>> 10) ≤ 0xDBFF := by
          simp only [Nat.shiftRight_eq_div_pow]; omega
        have hlo : 0xDC00 ≤ 0xDC00 + (c.toNat &&& 0x3FF) ∧
            0xDC00 + (c.toNat &&& 0x3FF) ≤ 0xDFFF := by
          simp only [and_3ff]; omega
        simp only [List.cons_append, List.append_assoc]
        rw [scanstring_u_pair hhi hlo, joinSurrogates_eq hbig (by omega), Char.ofNat_toNat]
      · simp only [List.cons_append]
        rw [scanstring_u (by omega) (by omega), Char.ofNat_toNat]
    all_goals rfl

lemma scanstring_escaped (s l : List Char) :
    scanstring (s.flatMap escapeChar ++ '"' :: l) = some (s, l) := by
  induction s with
  | nil => simp [scanstring.eq_2]
  | cons c s ih =>
    rw [List.flatMap_cons, List.append_assoc, scanstring_escapeChar, ih]
    rfl

def NumberEnd (r : List Char) : Prop :=
  ∀ c ∈ r.head?, c.isDigit = false ∧ c ≠ '.' ∧ c ≠ 'e' ∧ c ≠ 'E' ∧ c ≠ '+' ∧ c ≠ '-'

lemma numberEnd_nil : NumberEnd [] := by simp [NumberEnd]

lemma numberEnd_of_delimiter {c : Char} (hc : c = ',' ∨ c = ']' ∨ c = '}') (l : List Char) :
    NumberEnd (c :: l) := by
  rcases hc with rfl | rfl | rfl <;> simp [NumberEnd]

section NumberEnd

variable {r : List Char} (hr : NumberEnd r)
include hr

lemma takeWhile_isDigit_append (t : List Char) :
    (t ++ r).takeWhile Char.isDigit = t.takeWhile Char.isDigit := by
  induction t with
  | nil =>
    cases r with
    | nil => rfl
    | cons c r => simp [List.takeWhile_cons, (hr c rfl).1]
  | cons c t ih => by_cases h : c.isDigit <;> simp [List.takeWhile_cons, h, ih]

lemma dropWhile_isDigit_append (t : List Char) :
    (t ++ r).dropWhile Char.isDigit = t.dropWhile Char.isDigit ++ r := by
  induction t with
  | nil =>
    cases r with
    | nil => rfl
    | cons c r => simp [List.dropWhile_cons, (hr c rfl).1]
  | cons c t ih => by_cases h : c.isDigit <;> simp [List.dropWhile_cons, h, ih]

lemma matchMinus_append (t : List Char) :
    matchMinus (t ++ r) = ((matchMinus t).1, (matchMinus t).2 ++ r) := by
  cases t with
  | nil =>
    cases r with
    | nil => rfl
    | cons c r => simp [matchMinus, (hr c rfl).2.2.2.2.2]
  | cons c t => by_cases h : c = '-' <;> simp [matchMinus, h]

lemma matchInt_append (t : List Char) :
    matchInt (t ++ r) = (matchInt t).map fun p => (p.1, p.2 ++ r) := by
  cases t with
  | nil =>
    cases r with
    | nil => rfl
    | cons c r =>
      have h := (hr c rfl).1
      have h₁ : ¬ ('1' ≤ c ∧ c ≤ '9') := fun h' => by
        have := (isDigit_iff c).mpr ⟨Nat.le_trans (by decide) h'.1, h'.2⟩
        simp [this] at h
      have h₂ : c ≠ '0' := by rintro rfl; simp at h
      simp [matchInt, h₁, h₂]
  | cons c t =>
    simp only [List.cons_append, matchInt, takeWhile_isDigit_append hr, dropWhile_isDigit_append hr]
    split_ifs <;> rfl

lemma matchFrac_append (t : List Char) :
    matchFrac (t ++ r) = ((matchFrac t).1, (matchFrac t).2 ++ r) := by
  match t, r, hr with
  | [], [], _ => rfl
  | [], [c], _ => rfl
  | [], c₁ :: c₂ :: r, hr => simp [matchFrac, (hr c₁ rfl).2.1]
  | [c], [], _ => rfl
  | [c], c₂ :: r, hr => simp [matchFrac, (hr c₂ rfl).1]
  | c₁ :: c₂ :: t, r, hr =>
    simp only [List.cons_append, matchFrac, takeWhile_isDigit_append hr,
      dropWhile_isDigit_append hr]
    split_ifs <;> rfl

lemma matchSign_append (t : List Char) :
    matchSign (t ++ r) = ((matchSign t).1, (matchSign t).2 ++ r) := by
  cases t with
  | nil =>
    cases r with
    | nil => rfl
    | cons c r => simp [matchSign, (hr c rfl).2.2.2.2]
  | cons c t => by_cases h : c = '-' ∨ c = '+' <;> simp [matchSign, h]

lemma matchExp_append (t : List Char) :
    matchExp (t ++ r) = ((matchExp t).1, (matchExp t).2 ++ r) := by
  cases t with
  | nil =>
    cases r with
    | nil => rfl
    | cons c r => simp [matchExp, (hr c rfl).2.2.1, (hr c rfl).2.2.2.1]
  | cons e t =>
    by_cases he : e = 'e' ∨ e = 'E'
    · simp only [List.cons_append, matchExp, if_pos he, matchSign_append hr]
      rcases hs : matchSign t with ⟨sign, _ | ⟨c, t'⟩⟩
      · cases r with
        | nil => rfl
        | cons c r => simp [(hr c rfl).1]
      · by_cases hc : c.isDigit
        · simp [hc, takeWhile_isDigit_append hr, dropWhile_isDigit_append hr]
        · simp [hc]
    · simp [matchExp, he]

lemma matchNumber_append (t : List Char) :
    matchNumber (t ++ r) = (matchNumber t).map fun p => (p.1, p.2 ++ r) := by
  simp only [matchNumber, matchMinus_append hr, matchInt_append hr, Option.map_map]
  congr 1
  funext i
  simp [matchFrac_append hr, matchExp_append hr]

end NumberEnd

lemma matchNumber_head {t : List Char} (h : (matchNumber t).isSome) :
    ∃ c t', t = c :: t' ∧ (c.isDigit ∨ c = '-' ∧ ∃ d t'', t' = d :: t'' ∧ d.isDigit) := by
  have hint : ∀ {l : List Char}, (matchInt l).isSome → ∃ d l', l = d :: l' ∧ d.isDigit := by
    intro l hl
    match l, hl with
    | d :: l', hl =>
      refine ⟨d, l', rfl, ?_⟩
      simp only [matchInt] at hl
      split_ifs at hl with h₁ h₂
      · exact (isDigit_iff d).mpr ⟨Nat.le_trans (by decide) h₁.1, h₁.2⟩
      · subst h₂; decide
      · simp at hl
  simp only [matchNumber, Option.isSome_map'] at h
  match t, h with
  | c :: t', h =>
    refine ⟨c, t', rfl, ?_⟩
    by_cases hc : c = '-'
    · simp only [matchMinus, if_pos hc] at h
      exact .inr ⟨hc, hint h⟩
    · simp only [matchMinus, if_neg hc] at h
      obtain ⟨d, l', hd, hdig⟩ := hint h
      injection hd with hd
      exact .inl (hd ▸ hdig)

lemma constants_head : ∀ w ∈ constants, ∀ c ∈ w.1.data.head?, c ≠ '"' ∧ c ≠ '{' ∧ c ≠ '[' := by
  decide

lemma matchConstant_constant {word : String} {v : Json} (hw : (word, v) ∈ constants)
    (r : List Char) : matchConstant (word.data ++ r) = some (v, r) := by
  simp only [constants, List.mem_cons, Prod.mk.injEq, List.mem_singleton, List.not_mem_nil,
    or_false] at hw
  rcases hw with ⟨rfl, rfl⟩ | ⟨rfl, rfl⟩ | ⟨rfl, rfl⟩ | ⟨rfl, rfl⟩ | ⟨rfl, rfl⟩ | ⟨rfl, rfl⟩ <;>
    simp [matchConstant, constants, afterWord]

lemma matchConstant_number {t : List Char} (h : (matchNumber t).isSome) (r : List Char) :
    matchConstant (t ++ r) = none := by
  obtain ⟨c, t', rfl, hc⟩ := matchNumber_head h
  rcases hc with hc | ⟨rfl, d, t'', rfl, hd⟩
  · simp [matchConstant, constants, afterWord]
    refine ⟨?_, ?_, ?_, ?_, ?_, ?_⟩ <;> rintro rfl <;> exact absurd hc (by decide)
  · simp [matchConstant, constants, afterWord]
    rintro rfl
    exact absurd hd (by decide)

lemma scanOnce_constant {word : String} {v : Json} (hw : (word, v) ∈ constants) (n : Nat)
    (r : List Char) : scanOnce (n + 1) (word.data ++ r) = some (v, r) := by
  obtain ⟨c, t, ht⟩ : ∃ c t, word.data = c :: t := by
    simp only [constants, List.mem_cons, Prod.mk.injEq, List.mem_singleton, List.not_mem_nil,
      or_false] at hw
    rcases hw with ⟨rfl, -⟩ | ⟨rfl, -⟩ | ⟨rfl, -⟩ | ⟨rfl, -⟩ | ⟨rfl, -⟩ | ⟨rfl, -⟩ <;>
      exact ⟨_, _, rfl⟩
  have hc := constants_head _ hw c (by simp [ht])
  rw [ht, List.cons_append, scanOnce_of_ne n _ hc.1 hc.2.1 hc.2.2, ← List.cons_append, ← ht,
    matchConstant_constant hw]
  rfl

lemma scanOnce_number {t : List Char} (ht : matchNumber t = some (t, [])) (hi : intFits t)
    {r : List Char} (hr : NumberEnd r) (n : Nat) :
    scanOnce (n + 1) (t ++ r) = some (.num ⟨t⟩, r) := by
  have hs : (matchNumber t).isSome := by simp [ht]
  obtain ⟨c, t', rfl, hc⟩ := matchNumber_head hs
  have hne : c ≠ '"' ∧ c ≠ '{' ∧ c ≠ '[' := by
    rcases hc with hc | ⟨rfl, -⟩
    · refine ⟨?_, ?_, ?_⟩ <;> rintro rfl <;> exact absurd hc (by decide)
    · decide
  rw [List.cons_append, scanOnce_of_ne n _ hne.1 hne.2.1 hne.2.2, ← List.cons_append,
    matchConstant_number hs, matchNumber_append hr, ht]
  simp [hi]

lemma encode_head {v : Json} (hv : v.wellFormed) :
    ∃ c t, encode v = c :: t ∧ isWhitespace c = false ∧ c ≠ ']' ∧ c ≠ '}' ∧ c ≠ '\uFEFF' := by
  match v, hv with
  | .null, _ | .bool true, _ | .bool false, _ | .str _, _ | .arr [], _ | .arr (_ :: _), _
  | .obj [], _ | .obj (_ :: _), _ => exact ⟨_, _, rfl, by decide⟩
  | .num lexeme, hv =>
    simp only [Json.wellFormed, numberLexeme, Bool.or_eq_true, Bool.and_eq_true,
      decide_eq_true_eq] at hv
    rcases hv with ((rfl | rfl) | rfl) | ⟨hv, -⟩
    any_goals exact ⟨_, _, rfl, by decide⟩
    · have hs : (matchNumber lexeme.data).isSome := by simp [hv]
      obtain ⟨c, t, ht, hc⟩ := matchNumber_head hs
      refine ⟨c, t, ht, ?_⟩
      rcases hc with hc | ⟨rfl, -⟩
      · have key : ∀ x : Char, x.isDigit = false → c ≠ x := fun x hx h => by
          subst h; simp [hc] at hx
        simp only [isWhitespace, Bool.or_eq_false_iff, beq_eq_false_iff_ne]
        refine ⟨⟨⟨⟨?_, ?_⟩, ?_⟩, ?_⟩, ?_, ?_, ?_⟩ <;> exact key _ (by decide)
      · decide

lemma skipWhitespace_encode {v : Json} (hv : v.wellFormed) (r : List Char) :
    skipWhitespace (encode v ++ r) = encode v ++ r := by
  obtain ⟨c, t, ht, hc, -⟩ := encode_head hv
  rw [ht, List.cons_append, skipWhitespace_cons, hc, if_neg Bool.false_ne_true]

@[simp] lemma head?_asciiEscapeUnicode (s : String) : (asciiEscapeUnicode s).head? = some '"' :=
  rfl

lemma tail_asciiEscapeUnicode (s : String) (l : List Char) :
    (asciiEscapeUnicode s ++ l).tail = s.data.flatMap escapeChar ++ '"' :: l := by
  simp [asciiEscapeUnicode]

lemma skipWhitespace_asciiEscapeUnicode (s : String) (l : List Char) :
    skipWhitespace (asciiEscapeUnicode s ++ l) = asciiEscapeUnicode s ++ l := by
  simp [asciiEscapeUnicode, skipWhitespace_cons, isWhitespace]

lemma encode_head_ne {v : Json} (hv : v.wellFormed) (r : List Char) :
    (encode v ++ r).head? ≠ some ']' ∧ (encode v ++ r).head? ≠ some '}' := by
  obtain ⟨c, t, ht, -, h₁, h₂, -⟩ := encode_head hv
  simp [ht, h₁, h₂]

lemma dictInsert_of_nodup_keys {acc kvs : List (String × Json)} {k : String} {x : Json}
    (h : ((acc ++ (k, x) :: kvs).map Prod.fst).Nodup) :
    dictInsert acc ⟨k.data⟩ x = acc ++ [(k, x)] := by
  rw [List.map_append] at h
  exact dictInsert_of_not_mem x fun hk =>
    List.disjoint_of_nodup_append h hk (List.mem_map_of_mem Prod.fst (List.mem_cons_self _ _))

mutual
theorem scanOnce_encode : ∀ (v : Json) (n : Nat) (r : List Char), v.wellFormed → NumberEnd r →
    (encode v).length < n → scanOnce n (encode v ++ r) = some (v, r)
  | _, 0, _, _, _, hn => absurd hn (Nat.not_lt_zero _)
  | .null, n + 1, r, _, _, _ | .bool true, n + 1, r, _, _, _ | .bool false, n + 1, r, _, _, _ =>
    scanOnce_constant (by simp [constants]) n r
  | .num lexeme, n + 1, r, hv, hr, _ => by
    simp only [Json.wellFormed, numberLexeme, Bool.or_eq_true, Bool.and_eq_true,
      decide_eq_true_eq] at hv
    rcases hv with h | ⟨hv, hi⟩
    · rcases h with (rfl | rfl) | rfl <;> exact scanOnce_constant (by simp [constants]) n r
    · exact scanOnce_number hv hi hr n
  | .str s, n + 1, r, _, _, _ => by
    simp only [encode, asciiEscapeUnicode, List.cons_append, List.append_assoc,
      List.singleton_append, scanOnce_quote, scanstring_escaped]
    rfl
  | .arr [], n + 1, r, _, _, _ => by
    simp [encode, scanOnce_bracket, skipWhitespace_cons, isWhitespace]
  | .arr (x :: xs), n + 1, r, hv, _, hn => by
    have hx : x.wellFormed := by
      simp only [Json.wellFormed, Json.wellFormedItems, Bool.and_eq_true] at hv; exact hv.1
    simp only [encode, List.cons_append, List.append_assoc, List.singleton_append,
      scanOnce_bracket, skipWhitespace_encode hx, if_neg (encode_head_ne hx _).1]
    simp only [encode, List.length_cons, List.length_append, List.length_singleton] at hn
    exact parseArray_encode x xs [] n r hv (by rw [List.length_append]; omega)
  | .obj [], n + 1, r, _, _, _ => by
    simp [encode, scanOnce_brace, skipWhitespace_cons, isWhitespace]
  | .obj ((k, x) :: kvs), n + 1, r, hv, _, hn => by
    simp only [encode, List.cons_append, List.append_assoc, List.singleton_append,
      List.nil_append, scanOnce_brace, skipWhitespace_asciiEscapeUnicode, List.head?_append,
      head?_asciiEscapeUnicode, Option.or_some]
    simp only [encode, List.length_cons, List.length_append, List.length_singleton] at hn
    have hlen : (asciiEscapeUnicode k ++ ':' :: ' ' :: (encode x ++ encodeMembers kvs)).length
        < n := by
      simp only [List.length_append, List.length_cons]; omega
    simp only [Json.wellFormed, Bool.and_eq_true, decide_eq_true_eq] at hv
    simpa using parseObject_encode k x kvs [] n r hv.2 hv.1 hlen
theorem parseArray_encode : ∀ (x : Json) (xs acc : List Json) (n : Nat) (r : List Char),
    Json.wellFormedItems (x :: xs) → (encode x ++ encodeItems xs).length + 1 < n →
    parseArray n acc (encode x ++ (encodeItems xs ++ ']' :: r)) = some (.arr (acc ++ x :: xs), r)
  | _, _, _, 0, _, _, hn => absurd hn (Nat.not_lt_zero _)
  | x, [], acc, n + 1, r, hw, hn => by
    simp only [Json.wellFormedItems, Bool.and_eq_true] at hw
    simp only [encodeItems, List.append_nil, List.nil_append] at hn ⊢
    rw [parseArray, scanOnce_encode x n (']' :: r) hw.1 (numberEnd_of_delimiter (by simp) r)
      (by omega)]
    simp [skipWhitespace_cons, isWhitespace]
  | x, y :: ys, acc, n + 1, r, hw, hn => by
    simp only [Json.wellFormedItems, Bool.and_eq_true] at hw
    simp only [encodeItems, List.length_append, List.length_cons] at hn
    have hy := parseArray_encode y ys (acc ++ [x]) n r
      (by simp only [Json.wellFormedItems, Bool.and_eq_true]; exact hw.2)
      (by rw [List.length_append]; omega)
    simp only [encodeItems, List.cons_append, List.append_assoc]
    rw [parseArray, scanOnce_encode x n _ hw.1 (numberEnd_of_delimiter (Or.inl rfl) _) (by omega)]
    simp [skipWhitespace_cons, isWhitespace, skipWhitespace_encode hw.2.1, hy]
theorem parseObject_encode : ∀ (k : String) (x : Json) (kvs acc : List (String × Json)) (n : Nat)
    (r : List Char), Json.wellFormedMembers ((k, x) :: kvs) →
    ((acc ++ (k, x) :: kvs).map Prod.fst).Nodup →
    (asciiEscapeUnicode k ++ ':' :: ' ' :: (encode x ++ encodeMembers kvs)).length < n →
    parseObject n acc (asciiEscapeUnicode k ++ ':' :: ' ' :: (encode x ++ (encodeMembers kvs ++
      '}' :: r))) = some (.obj (acc ++ (k, x) :: kvs), r)
  | _, _, _, _, 0, _, _, _, hn => absurd hn (Nat.not_lt_zero _)
  | k, x, [], acc, n + 1, r, hw, hd, hn => by
    simp only [Json.wellFormedMembers, Bool.and_eq_true] at hw
    simp only [encodeMembers, List.append_nil, List.nil_append, List.length_append,
      List.length_cons] at hn ⊢
    rw [parseObject]
    simp [tail_asciiEscapeUnicode, scanstring_escaped,
      skipWhitespace_cons, isWhitespace, skipWhitespace_encode hw.1, dictInsert_of_nodup_keys hd,
      scanOnce_encode x n ('}' :: r) hw.1 (numberEnd_of_delimiter (by simp) r) (by omega)]
  | k, x, (k', y) :: kvs, acc, n + 1, r, hw, hd, hn => by
    simp only [Json.wellFormedMembers, Bool.and_eq_true] at hw
    simp only [encodeMembers, List.length_append, List.length_cons] at hn
    have hy := parseObject_encode k' y kvs (acc ++ [(k, x)]) n r
      (by simp only [Json.wellFormedMembers, Bool.and_eq_true]; exact hw.2)
      (by rwa [List.append_assoc, List.singleton_append])
      (by simp only [List.length_append, List.length_cons]; omega)
    simp only [encodeMembers, List.cons_append, List.append_assoc]
    rw [parseObject]
    simp [tail_asciiEscapeUnicode, scanstring_escaped,
      skipWhitespace_cons, isWhitespace, skipWhitespace_encode hw.1,
      scanOnce_encode x n _ hw.1 (numberEnd_of_delimiter (Or.inl rfl) _) (by omega),
      skipWhitespace_asciiEscapeUnicode, dictInsert_of_nodup_keys hd, hy]
end

theorem loads_dumps (v : Json) (hv : v.wellFormed) : loads (dumps v) = some v := by
  obtain ⟨c, t, ht, -, -, -, hbom⟩ := encode_head hv
  have hs := skipWhitespace_encode hv []
  have hv' := scanOnce_encode v ((dumps v).length + 1) [] hv numberEnd_nil
    (by simp [dumps, String.length])
  rw [List.append_nil] at hs hv'
  simp [loads, dumps, ht, hbom] at hs hv' ⊢
  simp [hs, hv']

end Dify.Python
