import Mathlib.Data.List.Basic

/-!
# Mnemonic word lists (`Language::Base`)

A seed language holds a list of 1626 words, a unique prefix length, and two hash maps that
`populate_maps` fills. `word_map` takes a word to its index and `trimmed_word_map` takes the
word's first `unique_prefix_length` characters to its index. Both compare words through
`utf8canonical`, which lowers each code point with `towlower`.

A map filled by `m[k] = i` for each word in turn answers a key with the index last stored
under an equal key. The key it keeps is the first one inserted. The lookups here scan the list
in that order.

The words are the UTF-8 bytes of the C++ string literals. `towlower` is the one of the classic
locale, which lowers `A` to `Z` only. `simplewallet` sets `LC_CTYPE` from the environment; the
words the theorems look up are lowercase ASCII and CJK, which no locale changes.
-/

namespace Bittube.Mnemonics

/-- The UTF-8 bytes of a word list's string literal. -/
def wordBytes (w : String) : List UInt8 := w.toByteArray.data.toList

/-- A byte continues a UTF-8 sequence: `(c & 0xc0) == 0x80`. -/
def isContinuation (c : UInt8) : Bool := c &&& 0xc0 == 0x80

/-- `utf8prefix(s, count)`: the first `count` characters of `s`, each a byte and the
continuation bytes after it. -/
def utf8Prefix : List UInt8 → ℕ → List UInt8
  | [], _ => []
  | _ :: _, 0 => []
  | c :: s, count + 1 =>
    c :: s.takeWhile isContinuation ++ utf8Prefix (s.dropWhile isContinuation) count

/-- `std::towlower` in the classic locale. -/
def towlower (cp : ℕ) : ℕ := if 65 ≤ cp ∧ cp ≤ 90 then cp + 32 else cp

/-- `utf8canonical(s)`: each character decoded by its lead byte, lowered, and encoded again in as
many bytes; `none` where it throws (`Invalid UTF-8`). The continuation bytes are not checked. -/
def utf8canonical : List UInt8 → Option (List UInt8)
  | [] => some []
  | c :: s =>
    let c := c.toNat
    if c &&& 0x80 = 0 then
      (utf8canonical s).map ((towlower c).toUInt8 :: ·)
    else if c &&& 0xe0 = 0xc0 then
      match s with
      | c1 :: s =>
        let cp := towlower ((c &&& 0x1f) <<< 6 ||| c1.toNat &&& 0x3f)
        (utf8canonical s).map
          (fun r => (0xc0 ||| cp >>> 6).toUInt8 :: (0x80 ||| cp &&& 0x3f).toUInt8 :: r)
      | [] => none
    else if c &&& 0xf0 = 0xe0 then
      match s with
      | c1 :: c2 :: s =>
        let cp := towlower ((c &&& 0xf) <<< 12 ||| (c1.toNat &&& 0x3f) <<< 6 |||
          c2.toNat &&& 0x3f)
        (utf8canonical s).map fun r =>
          (0xe0 ||| cp >>> 12).toUInt8 :: (0x80 ||| cp >>> 6 &&& 0x3f).toUInt8 ::
            (0x80 ||| cp &&& 0x3f).toUInt8 :: r
      | _ => none
    else if c &&& 0xf8 = 0xf0 then
      match s with
      | c1 :: c2 :: c3 :: s =>
        let cp := towlower ((c &&& 0x7) <<< 18 ||| (c1.toNat &&& 0x3f) <<< 12 |||
          (c2.toNat &&& 0x3f) <<< 6 ||| c3.toNat &&& 0x3f)
        (utf8canonical s).map fun r =>
          (0xf0 ||| cp >>> 18).toUInt8 :: (0x80 ||| cp >>> 12 &&& 0x3f).toUInt8 ::
            (0x80 ||| cp >>> 6 &&& 0x3f).toUInt8 :: (0x80 ||| cp &&& 0x3f).toUInt8 :: r
      | _ => none
    else none

/-- `WordEqual()(s0, s1)`: the canonical forms are equal; `none` where one throws. -/
def wordEqual (s0 s1 : List UInt8) : Option Bool := do
  let s0c ← utf8canonical s0
  let s1c ← utf8canonical s1
  pure (s0c == s1c)

/-- `Language::Base`: the names, the word list and the unique prefix length. -/
structure Language where
  languageName : String
  englishLanguageName : String
  wordList : List String
  uniquePrefixLength : ℕ

namespace Language

/-- The key `populate_maps` stores a word under in `trimmed_word_map`: the word itself when it
has at most `unique_prefix_length` bytes, its prefix of that many characters otherwise. -/
def trimmed (L : Language) (w : List UInt8) : List UInt8 :=
  if w.length > L.uniquePrefixLength then utf8Prefix w L.uniquePrefixLength else w

/-- The entry of a map filled in list order that answers a key: the first stored key equal to
it, and the last index stored under such a key; `none` where `WordEqual` throws on the key
sought. The stored keys are valid UTF-8. -/
def mapFind (keys : List (List UInt8)) (w : List UInt8) : Option (Option (List UInt8 × ℕ)) := do
  let wc ← utf8canonical w
  let equal := fun k : List UInt8 => utf8canonical k == some wc
  pure <| match keys.find? equal, (keys.zipIdx.reverse.find? fun p => equal p.1) with
    | some k, some p => some (k, p.2)
    | _, _ => none

/-- `get_word_map().find(w)`. -/
def wordMapFind (L : Language) (w : List UInt8) : Option (Option (List UInt8 × ℕ)) :=
  mapFind (L.wordList.map wordBytes) w

/-- `get_trimmed_word_map().find(w)`. -/
def trimmedWordMapFind (L : Language) (w : List UInt8) :
    Option (Option (List UInt8 × ℕ)) :=
  mapFind (L.wordList.map fun s => L.trimmed (wordBytes s)) w

end Language

end Bittube.Mnemonics
