import Bittube.Mnemonics.WordLists
import Bittube.Lib.ChainedDigits

/-!
# Seeds as words (`crypto::ElectrumWords`)

`bytes_to_words` turns each little-endian 32-bit word of a secret into three words of a
language's list, as three chained base-1626 digits. It then appends a checksum word, chosen by
the CRC-32 of the words' unique prefixes. `words_to_bytes` splits the words and looks for the
language with `find_seed_language`. That function tries thirteen languages in a fixed order. With
a checksum it matches unique prefixes and takes the first language whose checksum also holds; a
language that matched only without the checksum is kept as a fallback. Each group of three
indices is then turned back into a 32-bit word. The result is refused when the group does not
reproduce its first index.

The three digits of any 32-bit word give it back. For a secret key `words_to_bytes` refuses
every seed of twelve words: the half-length branch compares the seed's size with
`len * 3 / 32 / 2`, which is 1 for 32 bytes, so it never duplicates the 16 bytes it read. And
since the languages are tried in order, a Dutch seed of a 4-byte secret is taken for English,
the second language tried, and gives back other bytes.
-/

namespace Bittube.Mnemonics

/-! ## The checksum -/

/-- One byte of `boost::crc_32_type`: the reflected CRC-32 of polynomial `0x04C11DB7`. -/
def crc32Byte (crc : UInt32) (b : UInt8) : UInt32 :=
  (List.range 8).foldl (fun c _ => if c &&& 1 = 1 then c >>> 1 ^^^ 0xEDB88320 else c >>> 1)
    (crc ^^^ b.toUInt32)

/-- `boost::crc_32_type::process_bytes` then `checksum()`: from `0xFFFFFFFF`, complemented at the
end. -/
def crc32 (bytes : List UInt8) : UInt32 := bytes.foldl crc32Byte 0xFFFFFFFF ^^^ 0xFFFFFFFF

example : crc32 [49, 50, 51, 52, 53, 54, 55, 56, 57] = 0xCBF43926 := by decide +kernel

/-- `create_checksum_index(word_list, language)`: the CRC-32 of the keys the trimmed word map
holds for the words' prefixes, modulo the number of words; `none` where a prefix is missing
(it throws) or there are no words. -/
def createChecksumIndex (wordList : List (List UInt8)) (language : Language) : Option ℕ := do
  let trimmedWords ← wordList.mapM fun w => do
    match ← language.trimmedWordMapFind (utf8Prefix w language.uniquePrefixLength) with
    | some (key, _) => pure key
    | none => none
  if wordList.length = 0 then none
  else pure ((crc32 trimmedWords.flatten).toNat % wordList.length)

/-- The prefix `checksum_test` compares: the word itself when it has at most
`unique_prefix_length` bytes. -/
def checksumPrefix (language : Language) (w : List UInt8) : List UInt8 :=
  if w.length > language.uniquePrefixLength then utf8Prefix w language.uniquePrefixLength else w

/-- `checksum_test(seed, language)`: the last word has the prefix of the word the other words'
checksum index names; `none` where it throws. -/
def checksumTest (seed : List (List UInt8)) (language : Language) : Option Bool :=
  match seed.getLast? with
  | none => some false
  | some lastWord => do
    let seed := seed.dropLast
    let idx ← createChecksumIndex seed language
    wordEqual (checksumPrefix language (seed.getD idx [])) (checksumPrefix language lastWord)

/-! ## Finding the language -/

/-- The inner loop of `find_seed_language` for one language: the indices of the words, through
their prefixes when the seed has a checksum; `some none` at the first word missing, and `none`
where a lookup throws. -/
def matchWords (language : Language) (hasChecksum : Bool) :
    List (List UInt8) → Option (Option (List ℕ))
  | [] => some (some [])
  | w :: ws => do
    let found ← if hasChecksum then
        language.trimmedWordMapFind (utf8Prefix w language.uniquePrefixLength)
      else language.wordMapFind w
    match found with
    | none => pure none
    | some (_, i) => (matchWords language hasChecksum ws).map (·.map (i :: ·))

/-- The languages `find_seed_language` tries, in its order. -/
def seedLanguageInstances : List Language :=
  [chineseSimplified, english, dutch, french, spanish, german, italian, portuguese, japanese,
    russian, esperanto, lojban, englishOld]

/-- The outer loop of `find_seed_language` over the languages left, with the fallback so far:
the first language all of whose words match and whose checksum holds (when the seed has one);
else the last language that matched all words, with no indices. -/
def findSeedLanguageLoop (seed : List (List UInt8)) (hasChecksum : Bool) :
    List Language → Option Language → Option (Option (Language × List ℕ))
  | [], fallback => some (fallback.map (·, []))
  | language :: languages, fallback => do
    match ← matchWords language hasChecksum seed with
    | none => findSeedLanguageLoop seed hasChecksum languages fallback
    | some matchedIndices =>
      if hasChecksum then
        if ← checksumTest seed language then some (some (language, matchedIndices))
        else findSeedLanguageLoop seed hasChecksum languages (some language)
      else some (some (language, matchedIndices))

/-- `find_seed_language(seed, has_checksum, matched_indices, &language)`: the language and the
indices it matched; `none` where it returns `false` or throws. -/
def findSeedLanguage (seed : List (List UInt8)) (hasChecksum : Bool) :
    Option (Language × List ℕ) :=
  (findSeedLanguageLoop seed hasChecksum seedLanguageInstances none).bind id

/-! ## From bytes to words -/

/-- The three digits `bytes_to_words` writes for the 32-bit word `w0`, in a list of `n` words. -/
def encodeGroup (n w0 : UInt32) : UInt32 × UInt32 × UInt32 :=
  let w1 := w0 % n
  let w2 := (w0 / n + w1) % n
  let w3 := (w0 / n / n + w2) % n
  (w1, w2, w3)

/-- The 32-bit word of four bytes read little-endian (`SWAP32LE` of a `uint32_t`). -/
def uint32Le (b0 b1 b2 b3 : UInt8) : UInt32 :=
  UInt32.ofNat (b0.toNat + 256 * b1.toNat + 65536 * b2.toNat + 16777216 * b3.toNat)

/-- The indices `bytes_to_words` writes for `src`: three for each 32-bit word, in its order. -/
def encodeWords (n : UInt32) : List UInt8 → List ℕ
  | b0 :: b1 :: b2 :: b3 :: rest =>
    let (w1, w2, w3) := encodeGroup n (uint32Le b0 b1 b2 b3)
    w1.toNat :: w2.toNat :: w3.toNat :: encodeWords n rest
  | _ => []

/-- `get_language_list()`: the languages `bytes_to_words` writes. -/
def getLanguageList : List Language :=
  [german, english, spanish, french, italian, dutch, portuguese, russian, japanese,
    chineseSimplified, esperanto, lojban]

/-- `bytes_to_words(src, len, words, language_name)` with `len` the length of `src`, from an
empty `words`: each word followed by a space, then the checksum word; `none` where it returns
`false` or throws. -/
def bytesToWords (src : List UInt8) (languageName : String) : Option (List UInt8) :=
  if src.length % 4 ≠ 0 ∨ src.length = 0 then none
  else
    -- the last language of the list whose name matches
    match (getLanguageList.filter fun l =>
        languageName = l.languageName ∨ languageName = l.englishLanguageName).getLast? with
    | none => none
    | some language =>
      let wordList := language.wordList.map wordBytes
      let wordsStore := (encodeWords wordList.length.toUInt32 src).map fun i => wordList.getD i []
      (createChecksumIndex wordsStore language).map fun idx =>
        wordsStore.flatMap (· ++ [32]) ++ wordsStore.getD idx []

/-! ## From words to bytes -/

/-- The 32-bit word `words_to_bytes` rebuilds from three indices, in `uint32_t` arithmetic;
`none` where it does not reproduce the first index (`mumble mumble`). -/
def decodeGroup (n w1 w2 w3 : UInt32) : Option UInt32 :=
  let w0 := w1 + n * ((n - w1 + w2) % n) + n * n * ((n - w2 + w3) % n)
  if w0 % n = w1 then some w0 else none

/-- The four bytes of a 32-bit word in memory, little-endian. -/
def leBytes (w : UInt32) : List UInt8 :=
  [w.toUInt8, (w >>> 8).toUInt8, (w >>> 16).toUInt8, (w >>> 24).toUInt8]

/-- The loop of `words_to_bytes` over `count` groups of three matched indices. -/
def decodeWords (n : UInt32) : List ℕ → ℕ → Option (List UInt8)
  | _, 0 => some []
  | w1 :: w2 :: w3 :: rest, count + 1 => do
    let w0 ← decodeGroup n w1.toUInt32 w2.toUInt32 w3.toUInt32
    let tail ← decodeWords n rest count
    pure (leBytes w0 ++ tail)
  | _, _ + 1 => none

/-- `wipeable_string::split`: the runs of characters other than `' '`, with `cur` the run being
read. -/
def splitLoop : List UInt8 → List UInt8 → List (List UInt8)
  | [], cur => if cur = [] then [] else [cur]
  | c :: s, cur =>
    if c = 32 then (if cur = [] then splitLoop s [] else cur :: splitLoop s [])
    else splitLoop s (cur ++ [c])

/-- `words.split(seed)`. -/
def split (words : List UInt8) : List (List UInt8) := splitLoop words []

/-- `words_to_bytes(words, dst, len, duplicate, language_name)`: `dst` with the bytes appended
and the language's name; `none` where it returns `false` or throws. -/
def wordsToBytes (words dst : List UInt8) (len : ℕ) (duplicate : Bool) :
    Option (List UInt8 × String) :=
  let seed := split words
  let expected := len * 8 * 3 / 32
  if len % 4 ≠ 0 then none
  else if len ≠ 0 ∧ seed.length ≠ expected / 2 ∧ seed.length ≠ expected ∧
      seed.length ≠ expected + 1 then none
  else
    let hasChecksum := len = 0 ∨ seed.length = expected + 1
    match findSeedLanguage seed hasChecksum with
    | none => none
    | some (language, matchedIndices) =>
      let wordListLength := language.wordList.length.toUInt32
      let seed? :=
        if hasChecksum then
          if checksumTest seed language = some true then some seed.dropLast else none
        else some seed
      match seed? with
      | none => none
      | some seed =>
        match decodeWords wordListLength matchedIndices (seed.length / 3) with
        | none => none
        | some bytes =>
          let dst := dst ++ bytes
          -- the half-length branch, with `expected` recomputed as `len * 3 / 32`
          let dst := if len > 0 ∧ duplicate ∧ seed.length = len * 3 / 32 / 2 then dst ++ dst else dst
          some (dst, language.languageName)

/-- `words_to_bytes(words, secret_key dst, language_name)`: the 32 bytes of the key. -/
def wordsToBytesSecretKey (words : List UInt8) : Option (List UInt8 × String) :=
  match wordsToBytes words [] 32 true with
  | none => none
  | some (s, languageName) => if s.length ≠ 32 then none else some (s, languageName)

/-! ## The digits of a group

For a list of 1626 words the three indices of a group are `ChainedDigits.encode` of the 32-bit
word. Every word is below `1626 ^ 3`, and `1626` does not divide `2 ^ 32`, so the check of the
first index refuses exactly the sums that wrapped.
-/

section Digits

open ChainedDigits

theorem encodeGroup_toNat (w0 : UInt32) :
    ((encodeGroup 1626 w0).1.toNat, (encodeGroup 1626 w0).2.1.toNat,
      (encodeGroup 1626 w0).2.2.toNat) = encode 1626 w0.toNat := by
  have ha := w0.toNat_lt_size
  have hn : (1626 : UInt32).toNat = 1626 := rfl
  have h1 : w0.toNat / 1626 + w0.toNat % 1626 < 2 ^ 32 := by simp [UInt32.size] at ha; omega
  have h2 : w0.toNat / 1626 / 1626 + (w0.toNat / 1626 + w0.toNat % 1626) % 1626 < 2 ^ 32 := by
    simp [UInt32.size] at ha; omega
  simp only [encodeGroup, encode, UInt32.toNat_add, UInt32.toNat_div, UInt32.toNat_mod, hn,
    Nat.mod_eq_of_lt h1, Nat.mod_eq_of_lt h2]

theorem toNat_decodeValue {w1 w2 w3 : UInt32} (h1 : w1.toNat < 1626) (h2 : w2.toNat < 1626)
    (h3 : w3.toNat < 1626) :
    (w1 + 1626 * ((1626 - w1 + w2) % 1626) + 1626 * 1626 * ((1626 - w2 + w3) % 1626)).toNat =
      decode 1626 w1.toNat w2.toNat w3.toNat % 2 ^ 32 := by
  have hn : (1626 : UInt32).toNat = 1626 := rfl
  have hs1 : (1626 - w1).toNat = 1626 - w1.toNat :=
    UInt32.toNat_sub_of_le _ _ (by rw [UInt32.le_iff_toNat_le, hn]; omega)
  have hs2 : (1626 - w2).toNat = 1626 - w2.toNat :=
    UInt32.toNat_sub_of_le _ _ (by rw [UInt32.le_iff_toNat_le, hn]; omega)
  simp only [UInt32.toNat_add, UInt32.toNat_mul, UInt32.toNat_mod, hn, hs1, hs2, decode]
  rw [Nat.mod_eq_of_lt (show 1626 - w1.toNat + w2.toNat < 2 ^ 32 by omega),
    Nat.mod_eq_of_lt (show 1626 - w2.toNat + w3.toNat < 2 ^ 32 by omega)]
  -- the second plain digit, and the number below it, do not wrap; the third may
  generalize hA : (1626 - w1.toNat + w2.toNat) % 1626 = A
  have hAlt : A < 1626 := hA ▸ Nat.mod_lt _ (by decide)
  rw [Nat.mod_eq_of_lt (show 1626 * A < 2 ^ 32 by omega),
    Nat.mod_eq_of_lt (show w1.toNat + 1626 * A < 2 ^ 32 by omega),
    Nat.mod_eq_of_lt (show 1626 * 1626 < 2 ^ 32 by decide), Nat.add_mod_mod]

theorem encodeGroup_eq_iff {w0 w1 w2 w3 : UInt32} :
    encodeGroup 1626 w0 = (w1, w2, w3) ↔
      encode 1626 w0.toNat = (w1.toNat, w2.toNat, w3.toNat) := by
  rw [← encodeGroup_toNat]
  simp only [Prod.ext_iff, UInt32.toNat_inj]

/-- For a list of 1626 words, `words_to_bytes` accepts three indices exactly when they are the
digits `bytes_to_words` writes for the word it rebuilds: the check of the first index refuses
every sum that wrapped. -/
theorem decodeGroup_eq_some_iff {w1 w2 w3 w0 : UInt32} (h1 : w1.toNat < 1626)
    (h2 : w2.toNat < 1626) (h3 : w3.toNat < 1626) :
    decodeGroup 1626 w1 w2 w3 = some w0 ↔ encodeGroup 1626 w0 = (w1, w2, w3) := by
  have hn : (1626 : UInt32).toNat = 1626 := rfl
  have hD := toNat_decodeValue h1 h2 h3
  have hcheck : (w1 + 1626 * ((1626 - w1 + w2) % 1626) + 1626 * 1626 * ((1626 - w2 + w3) % 1626))
      % 1626 = w1 ↔ decode 1626 w1.toNat w2.toNat w3.toNat < 2 ^ 32 := by
    have hbound : decode 1626 w1.toNat w2.toNat w3.toNat < 2 * 2 ^ 32 :=
      lt_trans (decode_lt h1 (by decide)) (by decide)
    have hwrap := mod_mod_eq_iff_lt (n := 1626) (by decide) hbound
    rw [decode_mod h1] at hwrap
    rw [← UInt32.toNat_inj, UInt32.toNat_mod, hD, hn, hwrap]
  rw [encodeGroup_eq_iff]
  dsimp only [decodeGroup]
  constructor
  · intro h
    split at h
    · rename_i hc
      have hlt := hcheck.mp hc
      cases h
      rw [hD, Nat.mod_eq_of_lt hlt, encode_decode h1 h2 h3]
    · cases h
  · intro h
    have hw0 : decode 1626 w1.toNat w2.toNat w3.toNat = w0.toNat := by
      have := decode_encode (n := 1626) (y := w0.toNat) (by decide)
        (lt_trans w0.toNat_lt_size (by decide))
      rwa [h] at this
    have hlt : decode 1626 w1.toNat w2.toNat w3.toNat < 2 ^ 32 := hw0 ▸ w0.toNat_lt_size
    rw [if_pos (hcheck.mpr hlt), Option.some.injEq, ← UInt32.toNat_inj, hD, Nat.mod_eq_of_lt hlt, hw0]

theorem encodeGroup_lt (w0 : UInt32) :
    (encodeGroup 1626 w0).1.toNat < 1626 ∧ (encodeGroup 1626 w0).2.1.toNat < 1626 ∧
      (encodeGroup 1626 w0).2.2.toNat < 1626 := by
  have h := encodeGroup_toNat w0
  simp only [encode, Prod.ext_iff] at h
  rw [h.1, h.2.1, h.2.2]
  exact ⟨Nat.mod_lt _ (by decide), Nat.mod_lt _ (by decide), Nat.mod_lt _ (by decide)⟩

theorem leBytes_uint32Le (b0 b1 b2 b3 : UInt8) :
    leBytes (uint32Le b0 b1 b2 b3) = [b0, b1, b2, b3] := by
  have h0 := b0.toNat_lt; have h1 := b1.toNat_lt; have h2 := b2.toNat_lt; have h3 := b3.toNat_lt
  have hw : (uint32Le b0 b1 b2 b3).toNat =
      b0.toNat + 256 * b1.toNat + 65536 * b2.toNat + 16777216 * b3.toNat :=
    UInt32.toNat_ofNat_of_lt' (by simp only [UInt32.size]; omega)
  have h8 : (8 : UInt32).toNat = 8 := rfl
  have h16 : (16 : UInt32).toNat = 16 := rfl
  have h24 : (24 : UInt32).toNat = 24 := rfl
  simp only [leBytes, List.cons.injEq, and_true, ← UInt8.toNat_inj, UInt32.toNat_toUInt8,
    UInt32.toNat_shiftRight, hw, h8, h16, h24, Nat.shiftRight_eq_div_pow, Nat.reduceMod,
    Nat.reducePow]
  omega


theorem toUInt32_toNat (w : UInt32) : w.toNat.toUInt32 = w := UInt32.ofNat_toNat

/-- For a list of 1626 words, the groups `words_to_bytes` rebuilds from the indices
`bytes_to_words` writes are the bytes it started from. -/
theorem decodeWords_encodeWords (src : List UInt8) (h : src.length % 4 = 0) :
    decodeWords 1626 (encodeWords 1626 src) (src.length / 4) = some src := by
  fun_induction encodeWords 1626 src with
  | case1 b0 b1 b2 b3 rest w1 w2 w3 hg ih =>
    have hcount : (b0 :: b1 :: b2 :: b3 :: rest).length / 4 = rest.length / 4 + 1 := by
      simp only [List.length_cons]
      omega
    have hrest : rest.length % 4 = 0 := by
      simp only [List.length_cons] at h
      omega
    have hlt := encodeGroup_lt (uint32Le b0 b1 b2 b3)
    rw [hg] at hlt
    obtain ⟨h1, h2, h3⟩ := hlt
    have hgroup : decodeGroup 1626 w1 w2 w3 = some (uint32Le b0 b1 b2 b3) :=
      (decodeGroup_eq_some_iff h1 h2 h3).mpr hg
    simp only [hcount, decodeWords, toUInt32_toNat, hgroup, ih hrest, Option.bind_eq_bind,
      Option.bind_some, Option.pure_def, leBytes_uint32Le, List.cons_append, List.nil_append]
  | case2 src hsrc =>
    -- fewer than four bytes are left, so none at all
    match src, hsrc, h with
    | [], _, _ => rfl
    | b0 :: b1 :: b2 :: b3 :: rest, hsrc, _ => exact absurd rfl (hsrc b0 b1 b2 b3 rest)
/-- Every language `bytes_to_words` writes has 1626 words. -/
theorem length_wordList_of_mem {language : Language} (h : language ∈ getLanguageList) :
    language.wordList.length = 1626 := by
  have hall : getLanguageList.all (fun l => l.wordList.length == 1626) = true := by
    decide +kernel
  simpa using List.all_eq_true.mp hall language h

/-- For every language of `get_language_list`, the groups `words_to_bytes` rebuilds from the
indices `bytes_to_words` writes for `src` are `src`. -/
theorem words_to_bytes_inverts_groups {language : Language} (hl : language ∈ getLanguageList)
    (src : List UInt8) (h : src.length % 4 = 0) :
    decodeWords language.wordList.length.toUInt32
      (encodeWords (language.wordList.map wordBytes).length.toUInt32 src) (src.length / 4) =
      some src := by
  rw [List.length_map, length_wordList_of_mem hl]
  exact decodeWords_encodeWords src h

theorem words_to_bytes_inverts_groups_english :
    english ∈ getLanguageList ∧ [0x44, 0x20, 0x82, 0x3c].length % 4 = 0 ∧
      decodeWords english.wordList.length.toUInt32
        (encodeWords (english.wordList.map wordBytes).length.toUInt32 [0x44, 0x20, 0x82, 0x3c])
        1 = some [0x44, 0x20, 0x82, 0x3c] :=
  ⟨List.mem_cons_of_mem _ List.mem_cons_self, by decide,
    words_to_bytes_inverts_groups (List.mem_cons_of_mem _ List.mem_cons_self) _ (by decide)⟩

end Digits

/-! ## Seeds of twelve words -/

theorem decodeWords_length {n : UInt32} {indices : List ℕ} {count : ℕ} {bytes : List UInt8}
    (h : decodeWords n indices count = some bytes) : bytes.length = 4 * count := by
  fun_induction decodeWords n indices count generalizing bytes with
  | case1 => cases h; rfl
  | case2 w1 w2 w3 rest count ih =>
    simp only [Option.bind_eq_bind, Option.bind_eq_some_iff, Option.pure_def,
      Option.some.injEq] at h
    obtain ⟨w0, -, tail, htail, rfl⟩ := h
    rw [List.length_append, ih htail]
    simp only [leBytes, List.length_cons, List.length_nil]
    omega
  | case3 => cases h

/-- The length of what `words_to_bytes` returns for a seed without a checksum word: four bytes for
each group of three words, doubled in the half-length branch. -/
theorem length_wordsToBytes {words dst out : List UInt8} {len : ℕ} {duplicate : Bool}
    {name : String} (hlen : 0 < len) (hsum : (split words).length ≠ len * 8 * 3 / 32 + 1)
    (h : wordsToBytes words dst len duplicate = some (out, name)) :
    out.length = (if duplicate ∧ (split words).length = len * 3 / 32 / 2 then 2 else 1) *
      (dst.length + 4 * ((split words).length / 3)) := by
  have hlen0 : len ≠ 0 := Nat.pos_iff_ne_zero.mp hlen
  simp only [wordsToBytes, hlen0, hsum, false_or, decide_false, if_false] at h
  -- the length and word-count checks, the language search, then the loop over the groups
  split at h
  · cases h
  split at h
  · cases h
  split at h
  · cases h
  split at h
  · cases h
  rename_i bytes hbytes
  simp only [Option.some.injEq, Prod.mk.injEq] at h
  obtain ⟨rfl, -⟩ := h
  rw [← decodeWords_length hbytes]
  simp only [hlen, true_and]
  split_ifs
  · simp only [List.length_append]
    omega
  · simp only [List.length_append]
    omega

/-- `words_to_bytes` for a secret key refuses every seed of twelve words: it reads 16 bytes and
compares the seed's size with `32 * 3 / 32 / 2 = 1` before duplicating them. -/
theorem words_to_bytes_refuses_twelve_words (words : List UInt8)
    (h : (split words).length = 12) : wordsToBytesSecretKey words = none := by
  unfold wordsToBytesSecretKey
  split
  · rfl
  · rename_i s name hs
    have hsum : (split words).length ≠ 32 * 8 * 3 / 32 + 1 := by omega
    have hout := length_wordsToBytes (by decide) hsum hs
    rw [h] at hout
    simp [hout]

/-- The twelve words `bytes_to_words` writes for sixteen zero bytes in English, before its
checksum word, are refused. -/
theorem words_to_bytes_refuses_zero_seed :
    let words : List UInt8 := (List.replicate 12 (wordBytes "abbey" ++ [32])).flatten
    bytesToWords (List.replicate 16 0) "English" = some (words ++ wordBytes "abbey") ∧
      (split words).length = 12 ∧ wordsToBytesSecretKey words = none :=
  ⟨by decide +kernel, by decide, words_to_bytes_refuses_twelve_words _ (by decide)⟩

/-! ## Finding the wrong language -/

/-- A Dutch seed of four bytes is read as English, the second language `find_seed_language`
tries: all four prefixes are English ones and the English checksum holds. -/
theorem dutch_seed_read_as_english :
    bytesToWords [0x44, 0x20, 0x82, 0x3c] "Nederlands" =
        some (wordBytes "dusdanig dambord inslaan dusdanig") ∧
      wordsToBytes (wordBytes "dusdanig dambord inslaan dusdanig") [] 4 false =
        some ([0x75, 0x07, 0x15, 0x3e], "English") := by
  refine ⟨by decide +kernel, ?_⟩
  -- `find_seed_language` step by step: no Chinese word has the first prefix, the English list
  -- holds all four and its checksum word matches
  have hlen : (split (wordBytes "dusdanig dambord inslaan dusdanig")).length = 4 := by
    decide +kernel
  have hzh : matchWords chineseSimplified true
      (split (wordBytes "dusdanig dambord inslaan dusdanig")) = some none := by
    decide +kernel
  have hen : matchWords english true (split (wordBytes "dusdanig dambord inslaan dusdanig")) =
      some (some [363, 288, 681, 363]) := by
    decide +kernel
  have hck : checksumTest (split (wordBytes "dusdanig dambord inslaan dusdanig")) english =
      some true := by
    decide +kernel
  have hfind : findSeedLanguage (split (wordBytes "dusdanig dambord inslaan dusdanig")) true =
      some (english, [363, 288, 681, 363]) := by
    simp [findSeedLanguage, findSeedLanguageLoop, seedLanguageInstances, hzh, hen, hck]
  have hn : english.wordList.length = 1626 :=
    length_wordList_of_mem (List.mem_cons_of_mem _ List.mem_cons_self)
  simp [wordsToBytes, hlen, hfind, hck, hn]
  decide

end Bittube.Mnemonics
