import FacetedSearch.Base64Url
import FacetedSearch.Proofs.Text.Utf8
import FacetedSearch.Text

/-!
Reading base 64 back.

The symbols of a byte string stand for its sextets, and the sextets give the bytes back, whether
zero, one or two bytes are left over behind whole groups of three.  All symbols are letters, digits,
hyphens and underscores.
-/

namespace FacetedSearch.Base64Url

/-- Whether a character is one of the symbols. -/
def isSymbol (c : Char) : Bool :=
  c.isAlphanum || c == '-' || c == '_'

/-- The values of the symbols of a byte string. -/
def sextets : List UInt8 → List Nat
  | [] => []
  | [b0] =>
      let n := b0.toNat * 0x10
      [n / 0x40, n % 0x40]
  | [b0, b1] =>
      let n := (b0.toNat * 0x100 + b1.toNat) * 0x4
      [n / 0x1000, n / 0x40 % 0x40, n % 0x40]
  | b0 :: b1 :: b2 :: rest =>
      let n := (b0.toNat * 0x100 + b1.toNat) * 0x100 + b2.toNat
      n / 0x40000 :: n / 0x1000 % 0x40 :: n / 0x40 % 0x40 :: n % 0x40 :: sextets rest

theorem encode_eq_map_symbol (bytes : List UInt8) : encode bytes = (sextets bytes).map symbol := by
  induction bytes using sextets.induct with
  | case1 => rfl
  | case2 b0 => rfl
  | case3 b0 b1 => rfl
  | case4 b0 b1 b2 rest inductionHypothesis =>
      rw [encode, sextets, inductionHypothesis]
      rfl

theorem sextets_lt (bytes : List UInt8) : ∀ value ∈ sextets bytes, value < 0x40 := by
  induction bytes using sextets.induct with
  | case1 => exact List.forall_mem_nil _
  | case2 b0 =>
      have bound := b0.toNat_lt
      simp only [sextets, List.forall_mem_cons]
      exact ⟨by omega, by omega, List.forall_mem_nil _⟩
  | case3 b0 b1 =>
      have bound0 := b0.toNat_lt
      have bound1 := b1.toNat_lt
      simp only [sextets, List.forall_mem_cons]
      exact ⟨by omega, by omega, by omega, List.forall_mem_nil _⟩
  | case4 b0 b1 b2 rest inductionHypothesis =>
      have bound0 := b0.toNat_lt
      have bound1 := b1.toNat_lt
      have bound2 := b2.toNat_lt
      simp only [sextets, List.forall_mem_cons]
      exact ⟨by omega, by omega, by omega, by omega, inductionHypothesis⟩

theorem length_le_length_sextets (bytes : List UInt8) : bytes.length ≤ (sextets bytes).length := by
  induction bytes using sextets.induct with
  | case1 => decide
  | case2 b0 => simp [sextets]
  | case3 b0 b1 => simp [sextets]
  | case4 b0 b1 b2 rest inductionHypothesis =>
      simp only [sextets, List.length_cons]
      omega

theorem ofNat_eq {number : Nat} {byte : UInt8} (same : number = byte.toNat) :
    UInt8.ofNat number = byte := by
  rw [same, UInt8.ofNat_toNat]

/-- The sextets of a byte string make its bytes. -/
@[simp]
theorem bytesOf_sextets (last : UInt8) (offset : Nat) (bytes : List UInt8) :
    bytesOf last offset (sextets bytes) = .ok bytes := by
  induction bytes using sextets.induct generalizing offset with
  | case1 => rfl
  | case2 b0 =>
      have first : UInt8.ofNat (b0.toNat * 0x10 / 0x40 * 4 + b0.toNat * 0x10 % 0x40 / 0x10) = b0 :=
        ofNat_eq (by omega)
      have unused : b0.toNat * 0x10 % 0x40 % 0x10 = 0 := by omega
      simp only [sextets, bytesOf]
      rw [if_pos unused, first]
  | case3 b0 b1 =>
      have bound := b1.toNat_lt
      generalize number : (b0.toNat * 0x100 + b1.toNat) * 0x4 = n
      have first : UInt8.ofNat (n / 0x1000 * 4 + n / 0x40 % 0x40 / 0x10) = b0 :=
        ofNat_eq (by omega)
      have second : UInt8.ofNat (n / 0x40 % 0x40 % 0x10 * 0x10 + n % 0x40 / 0x4) = b1 :=
        ofNat_eq (by omega)
      have unused : n % 0x40 % 0x4 = 0 := by omega
      simp only [sextets, bytesOf, number]
      rw [if_pos unused, first, second]
  | case4 b0 b1 b2 rest inductionHypothesis =>
      have bound1 := b1.toNat_lt
      have bound2 := b2.toNat_lt
      -- The bytes are the digits of `n` in base 256, and the sextets those in base 64.
      generalize number : (b0.toNat * 0x100 + b1.toNat) * 0x100 + b2.toNat = n
      have first : UInt8.ofNat (n / 0x40000 * 4 + n / 0x1000 % 0x40 / 0x10) = b0 :=
        ofNat_eq (by omega)
      have second : UInt8.ofNat (n / 0x1000 % 0x40 % 0x10 * 0x10 + n / 0x40 % 0x40 / 0x4) = b1 :=
        ofNat_eq (by omega)
      have third : UInt8.ofNat (n / 0x40 % 0x40 % 0x4 * 0x40 + n % 0x40) = b2 :=
        ofNat_eq (by omega)
      simp only [sextets, bytesOf, number, inductionHypothesis (offset + 4)]
      rw [first, second, third]

theorem isSymbol_symbol : ∀ value < 0x40, isSymbol (symbol value) = true := by
  decide +kernel

theorem toNat_symbol_lt : ∀ value < 0x40, (symbol value).toNat < 0x80 := by
  decide +kernel

theorem isBlank_symbol : ∀ value < 0x40, Text.isBlank (symbol value) = false := by
  decide +kernel

theorem value?_symbol :
    ∀ value < 0x40, value? (UInt8.ofNat (symbol value).toNat) = some value := by
  decide +kernel

@[simp]
theorem value?_padding : value? padding = none :=
  rfl

theorem mem_encode {bytes : List UInt8} {c : Char} (membership : c ∈ encode bytes) :
    ∃ value < 0x40, c = symbol value := by
  rw [encode_eq_map_symbol] at membership
  obtain ⟨value, isSextet, rfl⟩ := List.mem_map.mp membership
  exact ⟨value, sextets_lt bytes value isSextet, rfl⟩

theorem utf8_encode_encode (bytes : List UInt8) :
    Utf8.encode (encode bytes) =
      (sextets bytes).map fun value => UInt8.ofNat (symbol value).toNat := by
  have ascii : ∀ c ∈ encode bytes, c.toNat < 0x80 := by
    intro c membership
    obtain ⟨value, small, rfl⟩ := mem_encode membership
    exact toNat_symbol_lt value small
  rw [Utf8.encode_of_ascii ascii, encode_eq_map_symbol, List.map_map]
  rfl

/-- The symbols of values below 64 are read as these values. -/
theorem values_map {numbers : List Nat} (small : ∀ value ∈ numbers, value < 0x40) (offset : Nat) :
    values offset (numbers.map fun value => UInt8.ofNat (symbol value).toNat) = .ok numbers := by
  induction numbers generalizing offset with
  | nil => rfl
  | cons value numbers inductionHypothesis =>
      obtain ⟨first, later⟩ := List.forall_mem_cons.mp small
      have read := value?_symbol value first
      simp only [List.map_cons, values, read, inductionHypothesis later]

/-- All bytes of the symbols of a byte string are read as values. -/
theorem isSome_value?_of_mem {bytes : List UInt8} {byte : UInt8}
    (membership : byte ∈ Utf8.encode (encode bytes)) : (value? byte).isSome = true := by
  rw [utf8_encode_encode] at membership
  obtain ⟨value, isSextet, rfl⟩ := List.mem_map.mp membership
  rw [value?_symbol value (sextets_lt bytes value isSextet)]
  rfl

@[simp]
theorem strayEnd?_encode (bytes : List UInt8) : strayEnd? (Utf8.encode (encode bytes)) = none := by
  unfold strayEnd?
  split
  next byte found =>
    have isKnown := isSome_value?_of_mem (List.mem_of_getLast? found)
    apply if_neg
    rintro ⟨-, -, unknown⟩
    rw [Option.isNone_iff_eq_none.mp unknown] at isKnown
    cases isKnown
  next => rfl

/-- What was encoded is decoded to the bytes it was made of. -/
@[simp]
theorem decode_encode (bytes : List UInt8) : decode (Utf8.encode (encode bytes)) = .ok bytes := by
  have read : values 0 (Utf8.encode (encode bytes)) = .ok (sextets bytes) := by
    rw [utf8_encode_encode]
    exact values_map (sextets_lt bytes) 0
  simp only [decode, strayEnd?_encode, read]
  exact bytesOf_sextets _ 0 bytes

end FacetedSearch.Base64Url
