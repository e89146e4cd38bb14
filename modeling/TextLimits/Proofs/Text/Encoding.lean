import TextLimits.Proofs.Text.Decoding

/-! # Encoded text

Decoding gives encoded text back (`decodeLossy_encode`), also in front of any bytes, so that no
encoding runs into another (`encode_prefix_encode`), nor does one begin inside another
(`encode_suffix_encode`).  The order of encodings byte by byte is the order of texts character by
character (`encode_lt_encode`). -/

namespace TextLimits.Utf8

/-! ### Encodings of parts -/

@[simp] theorem encode_nil : encode [] = [] := rfl

theorem encode_cons (c : Char) (text : List Char) :
    encode (c :: text) = String.utf8EncodeChar c ++ encode text := List.flatMap_cons

theorem encode_append (a b : List Char) : encode (a ++ b) = encode a ++ encode b :=
  List.flatMap_append

/-! ### Decoding what was encoded -/

theorem toNat_ofNat_of_lt {n : Nat} (h : n < 256) : (UInt8.ofNat n).toNat = n := by
  rw [UInt8.toNat_ofNat']
  exact Nat.mod_eq_of_lt h

/-- A byte after the first one, for the six lowest bits of a number. -/
def continuation (n : Nat) : UInt8 := UInt8.ofNat (n % 64 + 128)

theorem toNat_continuation (n : Nat) : (continuation n).toNat = n % 64 + 128 :=
  toNat_ofNat_of_lt (by omega)

theorem Decoder.feed_last {w : List Char} {value n : Nat} :
    (Decoder.mk w (.inside value 1 0x80 0xBF)).feed (continuation n) =
      ⟨Char.ofNat (value * 64 + n % 64) :: w, .start⟩ := by
  have hb : 0x80 ≤ continuation n ∧ continuation n ≤ 0xBF := by
    simp only [UInt8.le_iff_toNat_le, toNat_continuation, UInt8.reduceToNat]
    omega
  simp [feed, hb, toNat_continuation]

theorem Decoder.feed_more {w : List Char} {value owed n : Nat} {low high : UInt8}
    (hlow : low.toNat ≤ n % 64 + 128) (hhigh : n % 64 + 128 ≤ high.toNat) :
    (Decoder.mk w (.inside value (owed + 2) low high)).feed (continuation n) =
      ⟨w, .inside (value * 64 + n % 64) (owed + 1) 0x80 0xBF⟩ := by
  rw [← toNat_continuation] at hlow hhigh
  have hb : low ≤ continuation n ∧ continuation n ≤ high :=
    ⟨UInt8.le_iff_toNat_le.mpr hlow, UInt8.le_iff_toNat_le.mpr hhigh⟩
  simp [feed, hb, toNat_continuation]

theorem first_two {w : List Char} {b : UInt8} (h1 : 0xC2 ≤ b.toNat) (h2 : b.toNat < 0xE0) :
    first w b = ⟨w, .inside (b.toNat - 0xC0) 1 0x80 0xBF⟩ := by
  unfold first
  simp only [UInt8.lt_iff_toNat_lt, UInt8.reduceToNat]
  rw [if_neg (by omega), if_neg (by omega), if_pos (by omega)]

theorem first_three {w : List Char} {b : UInt8} (h1 : 0xE0 ≤ b.toNat) (h2 : b.toNat < 0xF0) :
    ∃ low high : UInt8, first w b = ⟨w, .inside (b.toNat - 0xE0) 2 low high⟩ ∧
      low.toNat = (if b.toNat = 0xE0 then 0xA0 else 0x80) ∧
      high.toNat = (if b.toNat = 0xED then 0x9F else 0xBF) := by
  unfold first
  simp only [UInt8.lt_iff_toNat_lt, ← UInt8.toNat_inj, UInt8.reduceToNat]
  rw [if_neg (by omega), if_neg (by omega), if_neg (by omega)]
  by_cases he : b.toNat = 0xE0
  · exact ⟨0xA0, 0xBF, by rw [if_pos he, he], by rw [if_pos he]; rfl, by rw [if_neg (by omega)]; rfl⟩
  by_cases hd : b.toNat = 0xED
  · exact ⟨0x80, 0x9F, by rw [if_neg he, if_pos hd, hd], by rw [if_neg he]; rfl,
      by rw [if_pos hd]; rfl⟩
  · exact ⟨0x80, 0xBF, by rw [if_neg he, if_neg hd, if_pos h2], by rw [if_neg he]; rfl,
      by rw [if_neg hd]; rfl⟩

theorem first_four {w : List Char} {b : UInt8} (h1 : 0xF0 ≤ b.toNat) (h2 : b.toNat ≤ 0xF4) :
    ∃ low high : UInt8, first w b = ⟨w, .inside (b.toNat - 0xF0) 3 low high⟩ ∧
      low.toNat = (if b.toNat = 0xF0 then 0x90 else 0x80) ∧
      high.toNat = (if b.toNat = 0xF4 then 0x8F else 0xBF) := by
  unfold first
  simp only [UInt8.lt_iff_toNat_lt, ← UInt8.toNat_inj, UInt8.reduceToNat]
  rw [if_neg (by omega), if_neg (by omega), if_neg (by omega), if_neg (by omega),
    if_neg (by omega), if_neg (by omega)]
  by_cases h0 : b.toNat = 0xF0
  · exact ⟨0x90, 0xBF, by rw [if_pos h0, h0], by rw [if_pos h0]; rfl, by rw [if_neg (by omega)]; rfl⟩
  by_cases h4 : b.toNat = 0xF4
  · exact ⟨0x80, 0x8F, by rw [if_neg h0, if_neg (by omega), if_pos h4, h4], by rw [if_neg h0]; rfl,
      by rw [if_pos h4]; rfl⟩
  · exact ⟨0x80, 0xBF, by rw [if_neg h0, if_pos (by omega)], by rw [if_neg h0]; rfl,
      by rw [if_neg h4]; rfl⟩

theorem foldl_feed_two {w : List Char} {v : Nat} (h1 : 0x80 ≤ v) (h2 : v < 0x800) :
    [UInt8.ofNat (v / 64 + 192), continuation v].foldl Decoder.feed ⟨w, .start⟩ =
      ⟨Char.ofNat v :: w, .start⟩ := by
  have hb : (UInt8.ofNat (v / 64 + 192)).toNat = v / 64 + 192 := toNat_ofNat_of_lt (by omega)
  have hv : (v / 64 + 192 - 0xC0) * 64 + v % 64 = v := by omega
  have hfirst := first_two (w := w) (b := UInt8.ofNat (v / 64 + 192)) (by omega) (by omega)
  rw [List.foldl_cons, List.foldl_cons, List.foldl_nil]
  change (first w _).feed _ = _
  rw [hfirst, hb, Decoder.feed_last, hv]

theorem foldl_feed_three {w : List Char} {v : Nat} (h1 : 0x800 ≤ v) (h2 : v < 0x10000)
    (hvalid : v < 0xD800 ∨ 0xDFFF < v) :
    [UInt8.ofNat (v / 4096 + 224), continuation (v / 64), continuation v].foldl Decoder.feed
      ⟨w, .start⟩ = ⟨Char.ofNat v :: w, .start⟩ := by
  have hb : (UInt8.ofNat (v / 4096 + 224)).toNat = v / 4096 + 224 := toNat_ofNat_of_lt (by omega)
  have hv : ((v / 4096 + 224 - 0xE0) * 64 + v / 64 % 64) * 64 + v % 64 = v := by omega
  obtain ⟨low, high, hfirst, hlow, hhigh⟩ :=
    first_three (w := w) (b := UInt8.ofNat (v / 4096 + 224)) (by omega) (by omega)
  rw [hb] at hfirst hlow hhigh
  have hlow' : low.toNat ≤ v / 64 % 64 + 128 := by rw [hlow]; split_ifs <;> omega
  have hhigh' : v / 64 % 64 + 128 ≤ high.toNat := by rw [hhigh]; split_ifs <;> omega
  rw [List.foldl_cons, List.foldl_cons, List.foldl_cons, List.foldl_nil]
  change ((first w _).feed _).feed _ = _
  rw [hfirst, Decoder.feed_more hlow' hhigh', Decoder.feed_last, hv]

theorem foldl_feed_four {w : List Char} {v : Nat} (h1 : 0x10000 ≤ v) (h2 : v < 0x110000) :
    [UInt8.ofNat (v / 262144 + 240), continuation (v / 4096), continuation (v / 64),
      continuation v].foldl Decoder.feed ⟨w, .start⟩ = ⟨Char.ofNat v :: w, .start⟩ := by
  have hb : (UInt8.ofNat (v / 262144 + 240)).toNat = v / 262144 + 240 :=
    toNat_ofNat_of_lt (by omega)
  have hv : (((v / 262144 + 240 - 0xF0) * 64 + v / 4096 % 64) * 64 + v / 64 % 64) * 64 + v % 64 =
      v := by omega
  obtain ⟨low, high, hfirst, hlow, hhigh⟩ :=
    first_four (w := w) (b := UInt8.ofNat (v / 262144 + 240)) (by omega) (by omega)
  rw [hb] at hfirst hlow hhigh
  have hlow' : low.toNat ≤ v / 4096 % 64 + 128 := by rw [hlow]; split_ifs <;> omega
  have hhigh' : v / 4096 % 64 + 128 ≤ high.toNat := by rw [hhigh]; split_ifs <;> omega
  have hmiddle : (0x80 : UInt8).toNat ≤ v / 64 % 64 + 128 ∧
      v / 64 % 64 + 128 ≤ (0xBF : UInt8).toNat := by
    simp only [UInt8.reduceToNat]
    omega
  rw [List.foldl_cons, List.foldl_cons, List.foldl_cons, List.foldl_cons, List.foldl_nil]
  change (((first w _).feed _).feed _).feed _ = _
  rw [hfirst, Decoder.feed_more hlow' hhigh', Decoder.feed_more hmiddle.1 hmiddle.2,
    Decoder.feed_last, hv]

/-- The bytes of a character are decoded to it, whatever was written before. -/
theorem foldl_feed_encodeChar (w : List Char) (c : Char) :
    (String.utf8EncodeChar c).foldl Decoder.feed ⟨w, .start⟩ = ⟨c :: w, .start⟩ := by
  have hvalid : c.val.toNat < 0xD800 ∨ 0xDFFF < c.val.toNat ∧ c.val.toNat < 0x110000 := c.valid
  have hc : Char.ofNat c.val.toNat = c := c.ofNat_toNat
  unfold String.utf8EncodeChar
  generalize c.val.toNat = v at hvalid hc
  subst hc
  dsimp only
  split_ifs with h1 h2 h3
  · have hb : (UInt8.ofNat v).toNat = v := toNat_ofNat_of_lt (by omega)
    have hlt : UInt8.ofNat v < 0x80 := by
      rw [UInt8.lt_iff_toNat_lt, hb]
      exact Nat.lt_succ_of_le h1
    rw [List.foldl_cons, List.foldl_nil]
    change first w _ = _
    rw [first, if_pos hlt, hb]
  · have hlead : v / 64 % 32 + 192 = v / 64 + 192 := by omega
    rw [hlead]
    exact foldl_feed_two (by omega) (by omega)
  · have hlead : v / 4096 % 16 + 224 = v / 4096 + 224 := by omega
    rw [hlead]
    exact foldl_feed_three (by omega) (by omega) (by omega)
  · have hlead : v / 262144 % 8 + 240 = v / 262144 + 240 := by omega
    rw [hlead]
    exact foldl_feed_four (by omega) (by omega)

/-- Encoded text is decoded as it was, on its own and in front of any bytes. -/
theorem decodeLossy_encode_append (text : List Char) (bytes : List UInt8) :
    decodeLossy (encode text ++ bytes) = text ++ decodeLossy bytes := by
  have h : ∀ w, (encode text).foldl Decoder.feed ⟨w, .start⟩ = ⟨text.reverse ++ w, .start⟩ := by
    induction text with
    | nil => intro w; rfl
    | cons c text ih =>
        intro w
        rw [encode_cons, List.foldl_append, foldl_feed_encodeChar, ih]
        simp
  rw [decodeLossy, List.foldl_append, h, List.append_nil, finish_foldl_feed, List.reverse_reverse]

theorem decodeLossy_encode (text : List Char) : decodeLossy (encode text) = text := by
  have h := decodeLossy_encode_append text []
  rwa [List.append_nil, show decodeLossy [] = [] from rfl, List.append_nil] at h

theorem encode_injective : Function.Injective encode :=
  Function.LeftInverse.injective decodeLossy_encode

/-- No encoding runs into the one of another text. -/
theorem encode_prefix_encode {a b : List Char} : encode a <+: encode b ↔ a <+: b := by
  constructor
  · rintro ⟨bytes, h⟩
    refine ⟨decodeLossy bytes, ?_⟩
    rw [← decodeLossy_encode_append, h, decodeLossy_encode]
  · rintro ⟨rest, rfl⟩
    exact ⟨encode rest, (encode_append a rest).symm⟩

/-! ### Ends of encoded text -/

theorem eq_nil_of_encodeChar_eq {c : Char} {x y : List UInt8} {b : UInt8} (hb : b.IsUTF8FirstByte)
    (h : String.utf8EncodeChar c = x ++ b :: y) : x = [] := by
  have hlength : x.length < (String.utf8EncodeChar c).length := by simp [h]
  have hget : (String.utf8EncodeChar c)[x.length] = b := by simp [h]
  rw [← hget, UInt8.isUTF8FirstByte_getElem_utf8EncodeChar] at hb
  exact List.eq_nil_of_length_eq_zero hb

theorem exists_split_of_encode_eq {text : List Char} {v w : List UInt8} {b : UInt8}
    (hb : b.IsUTF8FirstByte) (h : encode text = v ++ b :: w) :
    ∃ x y, text = x ++ y ∧ v = encode x ∧ b :: w = encode y := by
  induction text generalizing v with
  | nil => simp at h
  | cons c text ih =>
      rw [encode_cons] at h
      rcases List.append_eq_append_iff.mp h with ⟨u, rfl, hrest⟩ | ⟨u, hc, hrest⟩
      · obtain ⟨x, y, rfl, rfl, hy⟩ := ih hrest
        exact ⟨c :: x, y, rfl, (encode_cons c x).symm, hy⟩
      · cases u with
        | nil =>
            rw [List.append_nil] at hc
            exact ⟨[c], text, rfl, by rw [encode_cons, hc, encode_nil, List.append_nil], hrest⟩
        | cons b' u =>
            obtain ⟨rfl, -⟩ := List.cons_eq_cons.mp hrest
            obtain rfl := eq_nil_of_encodeChar_eq hb hc
            exact ⟨[], c :: text, rfl, rfl, by rw [hrest, encode_cons, hc]; rfl⟩

theorem exists_encode_cons_eq (c : Char) (text : List Char) :
    ∃ b w, encode (c :: text) = b :: w ∧ b.IsUTF8FirstByte := by
  rw [encode_cons]
  cases hc : String.utf8EncodeChar c with
  | nil => exact absurd hc String.utf8EncodeChar_ne_nil
  | cons b w =>
      refine ⟨b, w ++ encode text, rfl, ?_⟩
      have hpos : 0 < (String.utf8EncodeChar c).length := by simp [hc]
      have hget : (String.utf8EncodeChar c)[0] = b := by simp [hc]
      rw [← hget, UInt8.isUTF8FirstByte_getElem_utf8EncodeChar]

theorem encode_suffix_encode {a b : List Char} : encode a <:+ encode b ↔ a <:+ b := by
  constructor
  · rintro ⟨v, h⟩
    cases a with
    | nil => exact List.nil_suffix
    | cons c a =>
        obtain ⟨first, w, hfirst, hb⟩ := exists_encode_cons_eq c a
        rw [hfirst] at h
        obtain ⟨x, y, rfl, -, hy⟩ := exists_split_of_encode_eq hb h.symm
        rw [← hfirst] at hy
        exact ⟨x, by rw [encode_injective hy]⟩
  · rintro ⟨x, rfl⟩
    exact ⟨encode x, (encode_append x a).symm⟩

/-! ### Order -/

/-- Of two characters the smaller one has the smaller bytes, whatever follows: the first byte that
differs decides, and no encoding is the beginning of another. -/
theorem encodeChar_append_lt {c d : Char} (h : c < d) (x y : List UInt8) :
    String.utf8EncodeChar c ++ x < String.utf8EncodeChar d ++ y := by
  have hlt : c.val.toNat < d.val.toNat := h
  have hd : d.val.toNat < 0x110000 := by
    have hvalid : d.val.toNat < 0xD800 ∨ 0xDFFF < d.val.toNat ∧ d.val.toNat < 0x110000 := d.valid
    omega
  unfold String.utf8EncodeChar
  generalize c.val.toNat = v at hlt
  generalize d.val.toNat = u at hlt hd
  dsimp only
  split_ifs <;> simp only [List.cons_append, List.nil_append, List.cons_lt_cons_iff,
    UInt8.lt_iff_toNat_lt, UInt8.toNat_ofNat', ← UInt8.toNat_inj, Nat.reducePow] <;>
    simp (disch := omega) only [Nat.mod_eq_of_lt] <;> omega

/-- Encoding keeps the order of texts. -/
theorem encode_lt_encode {a b : List Char} (h : a < b) : encode a < encode b := by
  induction a generalizing b with
  | nil =>
      cases b with
      | nil => exact absurd h (List.not_lt_nil _)
      | cons d b =>
          rw [encode_nil, encode_cons]
          cases hd : String.utf8EncodeChar d with
          | nil => exact absurd hd String.utf8EncodeChar_ne_nil
          | cons x xs => exact List.nil_lt_cons _ _
  | cons c a ih =>
      cases b with
      | nil => exact absurd h (List.not_lt_nil _)
      | cons d b =>
          rw [encode_cons, encode_cons]
          rcases List.cons_lt_cons_iff.mp h with hcd | ⟨rfl, hab⟩
          · exact encodeChar_append_lt hcd _ _
          · exact List.append_left_lt (ih hab)

end TextLimits.Utf8
