import FacetedSearch.Proofs.Base64Url
import FacetedSearch.Proofs.Bookmark.Binary
import FacetedSearch.Proofs.Text.Blank

/-!
Tokens give bookmarks back.

A token is made of symbols that are neither blanks nor padding, so that trimming and dropping the
padding take away exactly what was put around it.  What is left is decoded to the binary form, and
this to the bookmark.  The length is checked before the padding is dropped, but the limit is a
multiple of four: whatever is short enough stays so when it is padded.
-/

namespace FacetedSearch.Bookmark

/-- Padding of a given length. -/
def paddingText (count : Nat) : String :=
  String.ofList (List.replicate count '=')

@[simp]
theorem toList_token (bookmark : Bookmark) :
    bookmark.token.toList = Base64Url.encode bookmark.encode :=
  String.toList_ofList

theorem isSymbol_of_mem_token {bookmark : Bookmark} {c : Char}
    (membership : c ∈ bookmark.token.toList) : Base64Url.isSymbol c = true := by
  rw [toList_token] at membership
  obtain ⟨value, small, rfl⟩ := Base64Url.mem_encode membership
  exact Base64Url.isSymbol_symbol value small

/-- A token has at least as many characters as the binary form has bytes. -/
theorem length_encode_le_length_token (bookmark : Bookmark) :
    bookmark.encode.length ≤ bookmark.token.length := by
  rw [← String.length_toList, toList_token, Base64Url.encode_eq_map_symbol, List.length_map]
  exact Base64Url.length_le_length_sextets bookmark.encode

/-- A token is longer than the free text. -/
theorem length_freeText_lt_length_token (bookmark : Bookmark) :
    bookmark.freeText.length < bookmark.token.length := by
  have characters := Utf8.length_le_length_encode bookmark.freeText.toList
  have header := Cbor.length_writeHeader Cbor.mapKind 3
  have bytes := length_encode_le_length_token bookmark
  rw [String.length_toList] at characters
  simp only [encode, writeText, List.length_append] at bytes
  omega

@[simp]
theorem length_token_pos (bookmark : Bookmark) : 0 < bookmark.token.length :=
  Nat.zero_lt_of_lt (length_freeText_lt_length_token bookmark)

/-- Padding behind bytes that are none is dropped. -/
theorem dropPadding_append {symbols : List UInt8}
    (noPadding : ∀ byte ∈ symbols, byte ≠ Base64Url.padding) (count : Nat) :
    dropPadding (symbols ++ List.replicate count Base64Url.padding) = symbols := by
  have isPadding : ∀ byte ∈ List.replicate count Base64Url.padding,
      (byte == Base64Url.padding) = true := by
    intro byte membership
    rw [List.eq_of_mem_replicate membership]
    rfl
  have kept : symbols.reverse.dropWhile (· == Base64Url.padding) = symbols.reverse := by
    rw [List.dropWhile_eq_self_iff]
    intro nonempty same
    exact noPadding _ (List.mem_reverse.mp (List.getElem_mem nonempty)) (eq_of_beq same)
  unfold dropPadding
  rw [List.reverse_append, List.reverse_replicate, List.dropWhile_append_of_pos isPadding, kept,
    List.reverse_reverse]

theorem ne_padding_of_mem {bytes : List UInt8} {byte : UInt8}
    (membership : byte ∈ Utf8.encode (Base64Url.encode bytes)) : byte ≠ Base64Url.padding := by
  rintro rfl
  have isKnown := Base64Url.isSome_value?_of_mem membership
  rw [Base64Url.value?_padding] at isKnown
  cases isKnown

@[simp]
theorem encode_paddingText (count : Nat) :
    Utf8.encode (paddingText count).toList = List.replicate count Base64Url.padding := by
  have ascii : ∀ c ∈ List.replicate count '=', c.toNat < 0x80 := by
    intro c membership
    rw [List.eq_of_mem_replicate membership]
    decide
  rw [paddingText, String.toList_ofList, Utf8.encode_of_ascii ascii, List.map_replicate]
  rfl

/-- Only blanks are trimmed away around a token. -/
theorem trim_token (bookmark : Bookmark) {before after : String}
    (blankBefore : ∀ c ∈ before.toList, Text.isBlank c = true)
    (blankAfter : ∀ c ∈ after.toList, Text.isBlank c = true) (count : Nat) :
    Text.trim (before ++ (bookmark.token ++ paddingText count) ++ after).toList =
      bookmark.token.toList ++ (paddingText count).toList := by
  rw [String.toList_append, String.toList_append, String.toList_append]
  apply Text.trim_surrounded blankBefore blankAfter
  intro c membership
  rcases List.mem_append.mp membership with inToken | inPadding
  · rw [toList_token] at inToken
    obtain ⟨value, small, rfl⟩ := Base64Url.mem_encode inToken
    exact Base64Url.isBlank_symbol value small
  · rw [paddingText, String.toList_ofList] at inPadding
    rw [List.eq_of_mem_replicate inPadding]
    rfl

@[simp]
theorem length_utf8_token (bookmark : Bookmark) :
    (Utf8.encode bookmark.token.toList).length = bookmark.token.length := by
  rw [← String.length_toList, toList_token, Base64Url.utf8_encode_encode, List.length_map,
    Base64Url.encode_eq_map_symbol, List.length_map]

/-- Blanks around a token and padding behind it are lost; only the length with padding counts. -/
theorem ofToken_surrounded (bookmark : Bookmark) {before after : String}
    (blankBefore : ∀ c ∈ before.toList, Text.isBlank c = true)
    (blankAfter : ∀ c ∈ after.toList, Text.isBlank c = true) (count : Nat) :
    ofToken (before ++ (bookmark.token ++ paddingText count) ++ after) =
      if maxTokenLength < bookmark.token.length + count then
        .error (.tooLong (bookmark.token.length + count))
      else
        match decode bookmark.encode with
        | .error fault => .error (.notBookmark fault)
        | .ok bookmark => .ok bookmark := by
  have bytes : Utf8.encode (bookmark.token.toList ++ (paddingText count).toList) =
      Utf8.encode bookmark.token.toList ++ List.replicate count Base64Url.padding := by
    rw [← encode_paddingText]
    exact List.flatMap_append
  have symbols : dropPadding
      (Utf8.encode bookmark.token.toList ++ List.replicate count Base64Url.padding) =
        Utf8.encode (Base64Url.encode bookmark.encode) := by
    rw [toList_token]
    exact dropPadding_append (fun byte => ne_padding_of_mem) count
  have length : (Utf8.encode bookmark.token.toList ++
      List.replicate count Base64Url.padding).length = bookmark.token.length + count := by
    rw [List.length_append, length_utf8_token, List.length_replicate]
  have nonempty : (Utf8.encode bookmark.token.toList ++
      List.replicate count Base64Url.padding).isEmpty = false := by
    rw [List.isEmpty_eq_false_iff, ← List.length_pos_iff, length]
    exact Nat.add_pos_left (length_token_pos bookmark) count
  simp only [ofToken, trim_token bookmark blankBefore blankAfter, bytes, nonempty, length, symbols,
    Base64Url.decode_encode]
  rfl

theorem token_injective {bookmark other : Bookmark} (fits : bookmark.token.length < UInt64.size)
    (same : bookmark.token = other.token) : bookmark = other := by
  have symbols : Base64Url.encode bookmark.encode = Base64Url.encode other.encode := by
    rw [← toList_token, ← toList_token, same]
  have bytes : bookmark.encode = other.encode := by
    have decoded := Base64Url.decode_encode bookmark.encode
    rw [symbols, Base64Url.decode_encode] at decoded
    exact (Except.ok.inj decoded).symm
  have bound := Nat.lt_of_le_of_lt (length_encode_le_length_token bookmark) fits
  have decoded := decode_encode bound
  rw [bytes, decode_encode (bytes ▸ bound)] at decoded
  exact (Except.ok.inj decoded).symm

theorem ofToken_of_short {bookmark : Bookmark} {before after : String}
    (blankBefore : ∀ c ∈ before.toList, Text.isBlank c = true)
    (blankAfter : ∀ c ∈ after.toList, Text.isBlank c = true) (count : Nat)
    (short : bookmark.token.length + count ≤ maxTokenLength) :
    ofToken (before ++ (bookmark.token ++ paddingText count) ++ after) = .ok bookmark := by
  have limit : maxTokenLength < UInt64.size := by decide
  have bytes := length_encode_le_length_token bookmark
  have fits : bookmark.encode.length < UInt64.size := by omega
  rw [ofToken_surrounded bookmark blankBefore blankAfter, if_neg (Nat.not_lt_of_le short),
    decode_encode fits]

@[simp]
theorem append_paddingText_zero (text : String) : text ++ paddingText 0 = text :=
  String.append_empty

/-- A token that is short enough, in bytes, is read back as its bookmark. -/
theorem ofToken_of_utf8_short {bookmark : Bookmark}
    (short : (Utf8.encode bookmark.token.toList).length ≤ maxTokenLength) :
    ofToken bookmark.token = .ok bookmark := by
  have noBlanks : ∀ c ∈ "".toList, Text.isBlank c = true := fun _ membership => nomatch membership
  have enough : bookmark.token.length + 0 ≤ maxTokenLength := by
    rwa [Nat.add_zero, ← length_utf8_token]
  have found := ofToken_of_short noBlanks noBlanks 0 enough
  rwa [append_paddingText_zero, String.empty_append, String.append_empty] at found

/-- A token is a text in letters, digits, hyphens and underscores.  It stands for one bookmark only:
no token in memory reaches the bound, which keeps all lengths in the binary form within 64 bits.  It
is read back as that bookmark, with blanks around it and with padding, unless it is too long. -/
theorem ofToken_token (bookmark : Bookmark) :
    bookmark.token ≠ "" ∧
    (∀ c ∈ bookmark.token.toList, Base64Url.isSymbol c = true) ∧
    (∀ other : Bookmark, bookmark.token.length < UInt64.size →
      bookmark.token = other.token → bookmark = other) ∧
    ∀ before after : String, (∀ c ∈ before.toList, Text.isBlank c = true) →
      (∀ c ∈ after.toList, Text.isBlank c = true) →
      (bookmark.token.length ≤ maxTokenLength →
        ofToken (before ++ bookmark.token ++ after) = .ok bookmark ∧
        ∀ count < 4, (bookmark.token.length + count) % 4 = 0 →
          ofToken (before ++ (bookmark.token ++ paddingText count) ++ after) = .ok bookmark) ∧
      (maxTokenLength < bookmark.token.length →
        ofToken (before ++ bookmark.token ++ after) =
          .error (.tooLong bookmark.token.length)) := by
  refine ⟨?_, fun c => isSymbol_of_mem_token, ?_, ?_⟩
  · intro empty
    have positive := length_token_pos bookmark
    rw [empty] at positive
    exact absurd positive (by decide)
  · exact fun other fits same => token_injective fits same
  · intro before after blankBefore blankAfter
    have unpadded := append_paddingText_zero bookmark.token
    refine ⟨fun short => ⟨?_, ?_⟩, ?_⟩
    · have enough : bookmark.token.length + 0 ≤ maxTokenLength := by rwa [Nat.add_zero]
      have found := ofToken_of_short blankBefore blankAfter 0 enough
      rwa [unpadded] at found
    · intro count few multiple
      apply ofToken_of_short blankBefore blankAfter count
      -- The limit is a multiple of four itself, so that padding never leads beyond it.
      have limit : maxTokenLength = 4 * 4096 := rfl
      omega
    · intro long
      have padded := ofToken_surrounded bookmark blankBefore blankAfter 0
      rwa [unpadded, Nat.add_zero, if_pos long] at padded

/-- A bookmark with a field without values, a repeated value, and texts beyond ASCII. -/
def unusual : Bookmark :=
  ⟨"infração", ⟨[("órgão", ["2", "1", "2"]), ("ano", [])], by decide⟩, 0xFFFFFFFFFFFFFFFF⟩

/-- The same bookmark with its fields the other way round. -/
def reordered : Bookmark :=
  ⟨"infração", ⟨[("ano", []), ("órgão", ["2", "1", "2"])], by decide⟩, 0xFFFFFFFFFFFFFFFF⟩

/-- A bookmark that is too long for a token that is accepted. -/
def lengthy : Bookmark :=
  ⟨String.ofList (List.replicate maxTokenLength 'x'), .empty, 0⟩

theorem length_token_unusual : unusual.token.length = 86 := by
  rw [← String.length_toList, toList_token]
  decide +kernel

theorem lt_length_token_lengthy : maxTokenLength < lengthy.token.length := by
  have characters : lengthy.freeText.length = maxTokenLength := by
    unfold lengthy
    rw [String.length_ofList, List.length_replicate]
  rw [← characters]
  exact length_freeText_lt_length_token lengthy

theorem ofToken_token_unusual :
    unusual.token ≠ reordered.token ∧ ofToken (" " ++ unusual.token ++ "\n") = .ok unusual ∧
      ofToken (" " ++ (unusual.token ++ paddingText 2) ++ "\n") = .ok unusual ∧
      ofToken (" " ++ lengthy.token ++ "\n") = .error (.tooLong lengthy.token.length) := by
  have short : unusual.token.length ≤ maxTokenLength := by
    rw [length_token_unusual]
    decide
  have fits : unusual.token.length < UInt64.size := by
    rw [length_token_unusual]
    decide
  have multiple : (unusual.token.length + 2) % 4 = 0 := by
    rw [length_token_unusual]
  have blankBefore : ∀ c ∈ " ".toList, Text.isBlank c = true :=
    List.all_eq_true.mp (by decide)
  have blankAfter : ∀ c ∈ "\n".toList, Text.isBlank c = true :=
    List.all_eq_true.mp (by decide)
  obtain ⟨-, -, injective, readBack⟩ := ofToken_token unusual
  obtain ⟨found, foundPadded⟩ := (readBack " " "\n" blankBefore blankAfter).1 short
  obtain ⟨-, -, -, readLengthy⟩ := ofToken_token lengthy
  refine ⟨?_, found, foundPadded 2 (by decide) multiple, ?_⟩
  · intro same
    exact absurd (injective reordered fits same) (by decide)
  · exact (readLengthy " " "\n" blankBefore blankAfter).2 lt_length_token_lengthy

end FacetedSearch.Bookmark
