import ClusterOperator.Text.Utf8

namespace ClusterOperator.Text.Utf8

section Bytes

theorem toNat_byte {n : Nat} (h : n < 256) : (UInt8.ofNat n).toNat = n := by
  rw [UInt8.toNat_ofNat']
  exact Nat.mod_eq_of_lt h

theorem continuation?_byte (n : Nat) :
    continuation? (UInt8.ofNat (n % 64 + 0x80)) = some (n % 64) := by
  have hbyte : (UInt8.ofNat (n % 64 + 0x80)).toNat = n % 64 + 0x80 := toNat_byte (by omega)
  rw [continuation?, hbyte, if_pos (by omega), Nat.add_sub_cancel]

variable {v : Nat}

theorem pair?_bytes (hlow : 0x7f < v) (hhigh : v ≤ 0x7ff) :
    pair? (UInt8.ofNat (v / 64 % 0x20 + 0xc0)) (UInt8.ofNat (v % 0x40 + 0x80)) =
      some (Char.ofNat v) := by
  have hbyte : (UInt8.ofNat (v / 64 % 0x20 + 0xc0)).toNat = v / 64 % 0x20 + 0xc0 :=
    toNat_byte (by omega)
  have hvalue : (v / 64 % 0x20 + 0xc0 - 0xc0) * 64 + v % 64 = v := by omega
  simp only [pair?, continuation?_byte, hbyte, hvalue]
  rw [if_pos (by omega)]

theorem pair?_of_le {a b : UInt8} (h : 0xE0 ≤ a.toNat) : pair? a b = none := by
  rw [pair?]
  cases continuation? b with
  | none => rfl
  | some y => exact if_neg (by omega)

theorem triple?_bytes (hlow : 0x7ff < v) (hhigh : v ≤ 0xffff) (hvalid : v.isValidChar) :
    triple? (UInt8.ofNat (v / 4096 % 0x10 + 0xe0)) (UInt8.ofNat (v / 64 % 0x40 + 0x80))
      (UInt8.ofNat (v % 0x40 + 0x80)) = some (Char.ofNat v) := by
  have hbyte : (UInt8.ofNat (v / 4096 % 0x10 + 0xe0)).toNat = v / 4096 % 0x10 + 0xe0 :=
    toNat_byte (by omega)
  have hvalue : (v / 4096 % 0x10 + 0xe0 - 0xe0) * 4096 + v / 64 % 64 * 64 + v % 64 = v := by omega
  have hscalar : v < 0xD800 ∨ 0xDFFF < v := by
    rcases hvalid with h | h
    · exact .inl h
    · exact .inr h.1
  simp only [triple?, continuation?_byte, hbyte, hvalue]
  rw [if_pos ⟨by omega, by omega, by omega, hscalar⟩]

theorem triple?_of_le {a b c : UInt8} (h : 0xF0 ≤ a.toNat) : triple? a b c = none := by
  rw [triple?]
  cases continuation? b with
  | none => rfl
  | some y =>
      cases continuation? c with
      | none => rfl
      | some z => exact if_neg (by omega)

theorem quadruple?_bytes (hlow : 0xffff < v) (hvalid : v.isValidChar) :
    quadruple? (UInt8.ofNat (v / 262144 % 0x08 + 0xf0)) (UInt8.ofNat (v / 4096 % 0x40 + 0x80))
      (UInt8.ofNat (v / 64 % 0x40 + 0x80)) (UInt8.ofNat (v % 0x40 + 0x80)) =
        some (Char.ofNat v) := by
  have hhigh : v < 0x110000 := by
    rcases hvalid with h | h
    · omega
    · exact h.2
  have hbyte : (UInt8.ofNat (v / 262144 % 0x08 + 0xf0)).toNat = v / 262144 % 0x08 + 0xf0 :=
    toNat_byte (by omega)
  have hvalue : (v / 262144 % 0x08 + 0xf0 - 0xf0) * 262144 + v / 4096 % 64 * 4096 +
      v / 64 % 64 * 64 + v % 64 = v := by omega
  simp only [quadruple?, continuation?_byte, hbyte, hvalue]
  rw [if_pos (by omega)]

end Bytes

theorem first?_encodeChar (c : Char) (rest : List UInt8) :
    first? (String.utf8EncodeChar c ++ rest) = some (c, (String.utf8EncodeChar c).length) := by
  have hchar : Char.ofNat c.val.toNat = c := Char.ofNat_toNat c
  have hvalid : c.val.toNat.isValidChar := c.valid
  simp only [String.utf8EncodeChar]
  split
  · have hbyte : (UInt8.ofNat c.val.toNat).toNat = c.val.toNat := toNat_byte (by omega)
    simp only [List.cons_append, first?, hbyte, hchar]
    rw [if_pos (by omega)]
    rfl
  · split
    · have hbyte : (UInt8.ofNat (c.val.toNat / 64 % 0x20 + 0xc0)).toNat =
          c.val.toNat / 64 % 0x20 + 0xc0 := toNat_byte (by omega)
      simp only [List.cons_append, first?, hbyte]
      rw [if_neg (by omega), pair?_bytes (by omega) (by omega), hchar]
      rfl
    · split
      · have hbyte : (UInt8.ofNat (c.val.toNat / 4096 % 0x10 + 0xe0)).toNat =
            c.val.toNat / 4096 % 0x10 + 0xe0 := toNat_byte (by omega)
        simp only [List.cons_append, first?, hbyte]
        rw [if_neg (by omega), pair?_of_le (by omega), triple?_bytes (by omega) (by omega) hvalid,
          hchar]
        rfl
      · have hbyte : (UInt8.ofNat (c.val.toNat / 262144 % 0x08 + 0xf0)).toNat =
            c.val.toNat / 262144 % 0x08 + 0xf0 := toNat_byte (by omega)
        simp only [List.cons_append, first?, hbyte]
        rw [if_neg (by omega), pair?_of_le (by omega), triple?_of_le (by omega),
          quadruple?_bytes (by omega) hvalid, hchar]
        rfl

theorem decodeAfter_pending {skipped rest : List UInt8} {done : List Symbol} :
    decodeAfter (skipped ++ rest) skipped.length done = decodeAfter rest 0 done := by
  induction skipped with
  | nil => rfl
  | cons b skipped ih =>
      rw [List.cons_append, List.length_cons, decodeAfter]
      exact ih

theorem decodeAfter_encodeChar (c : Char) (rest : List UInt8) (done : List Symbol) :
    decodeAfter (String.utf8EncodeChar c ++ rest) 0 done = decodeAfter rest 0 (some c :: done) := by
  have hfirst := first?_encodeChar c rest
  cases hbytes : String.utf8EncodeChar c with
  | nil => exact absurd hbytes String.utf8EncodeChar_ne_nil
  | cons b bytes =>
      rw [hbytes, List.cons_append] at hfirst
      rw [List.cons_append, decodeAfter, hfirst]
      simp only [List.length_cons, Nat.add_sub_cancel]
      exact decodeAfter_pending

theorem decode_encode (text : String) : decode (encode text) = text.toList.map some := by
  have h : ∀ (chars : List Char) (done : List Symbol),
      decodeAfter (chars.flatMap String.utf8EncodeChar) 0 done = done.reverse ++ chars.map some := by
    intro chars
    induction chars with
    | nil =>
        intro done
        exact (List.append_nil _).symm
    | cons c rest ih =>
        intro done
        rw [List.flatMap_cons, decodeAfter_encodeChar, ih, List.reverse_cons, List.append_assoc]
        rfl
  exact h text.toList []

theorem decode?_encode (text : String) : decode? (encode text) = some text.toList := by
  rw [decode?, decode_encode, List.mapM_map]
  simpa using List.mapM_pure (m := Option) (l := text.toList) (f := id)

theorem encode_append (first second : String) :
    encode (first ++ second) = encode first ++ encode second := by
  simp only [encode, String.toList_append, List.flatMap_append]

section Ascii

@[elab_as_elim]
theorem of_ascii {motive : Char → Prop} {c : Char} (h : c.toNat < 128)
    (hall : ∀ n < 128, motive (Char.ofNat n)) : motive c := by
  have hc := hall c.toNat h
  rwa [Char.ofNat_toNat] at hc

theorem utf8EncodeChar_eq {c : Char} (h : c.toNat < 128) :
    String.utf8EncodeChar c = [UInt8.ofNat c.toNat] := by
  refine of_ascii h ?_
  decide

theorem encode_eq {text : String} (h : ∀ c ∈ text.toList, c.toNat < 128) :
    encode text = text.toList.map fun c => UInt8.ofNat c.toNat := by
  rw [encode]
  generalize text.toList = chars at h ⊢
  induction chars with
  | nil => rfl
  | cons c rest ih =>
      obtain ⟨hc, hrest⟩ := List.forall_mem_cons.mp h
      rw [List.flatMap_cons, utf8EncodeChar_eq hc, ih hrest]
      rfl

end Ascii

end ClusterOperator.Text.Utf8
