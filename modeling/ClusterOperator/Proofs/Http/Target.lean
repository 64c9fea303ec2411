import ClusterOperator.Cluster.Api
import ClusterOperator.Proofs.Text.Pieces
import ClusterOperator.Proofs.Text.Utf8
import ClusterOperator.Validation.Name

namespace ClusterOperator.Http

open Text.Utf8 (encode)

/-- The characters of DNS names and of the paths between them. -/
def isAddressChar (c : Char) : Bool :=
  isLabelChar c || c = '.' || c = '/'

theorem toNat_lt_of_isAddressChar {c : Char} (h : isAddressChar c) : c.toNat < 128 := by
  simp only [isAddressChar, isLabelChar, isLabelEnd, Bool.or_eq_true, decide_eq_true_eq] at h
  rcases h with (((h | h) | rfl) | rfl) | rfl
  · have hbounds : ('a'.toNat ≤ c.toNat && c.toNat ≤ 'z'.toNat) = true := h
    simp only [Bool.and_eq_true, decide_eq_true_eq] at hbounds
    exact Nat.lt_of_le_of_lt hbounds.2 (by decide)
  · have hbounds : ('0'.toNat ≤ c.toNat && c.toNat ≤ '9'.toNat) = true := h
    simp only [Bool.and_eq_true, decide_eq_true_eq] at hbounds
    exact Nat.lt_of_le_of_lt hbounds.2 (by decide)
  all_goals decide

theorem exists_byte {c : Char} (h : isAddressChar c) :
    ∃ b, String.utf8EncodeChar c = [b] ∧ isPathByte b ∧ endsPath b = false := by
  have hbyte : isAddressChar c → isPathByte (UInt8.ofNat c.toNat) ∧
      endsPath (UInt8.ofNat c.toNat) = false := by
    refine Text.Utf8.of_ascii (toNat_lt_of_isAddressChar h) ?_
    decide
  exact ⟨_, Text.Utf8.utf8EncodeChar_eq (toNat_lt_of_isAddressChar h), hbyte h⟩

theorem encode_address {text : String} (h : ∀ c ∈ text.toList, isAddressChar c) :
    (encode text).length = text.toList.length ∧
      ∀ b ∈ encode text, isPathByte b ∧ endsPath b = false := by
  rw [encode]
  generalize text.toList = chars at h ⊢
  induction chars with
  | nil =>
      refine ⟨rfl, ?_⟩
      intro b hb
      cases hb
  | cons c rest ih =>
      obtain ⟨b, hb, hpath⟩ := exists_byte (h c List.mem_cons_self)
      obtain ⟨hlength, hbytes⟩ := ih fun d hd => h d (List.mem_cons_of_mem c hd)
      rw [List.flatMap_cons, hb]
      refine ⟨by simp [hlength], ?_⟩
      intro b' hb'
      rcases List.mem_cons.mp hb' with rfl | hb'
      · exact hpath
      · exact hbytes b' hb'

theorem ofPath_address {bytes : List UInt8} (h : ∀ b ∈ bytes, isPathByte b ∧ endsPath b = false)
    {mark : List UInt8} (hmark : mark = [] ∨ mark = [questionMark]) :
    Target.ofPath (bytes ++ mark) = .ok ⟨bytes, []⟩ := by
  have htake : (bytes ++ mark).takeWhile (!endsPath ·) = bytes := by
    rw [List.takeWhile_append_of_pos (fun b hb => by simp [(h b hb).2])]
    rcases hmark with rfl | rfl <;> simp [endsPath]
  have hdrop : (bytes ++ mark).dropWhile (!endsPath ·) = mark := by
    rw [List.dropWhile_append_of_pos (fun b hb => by simp [(h b hb).2])]
    rcases hmark with rfl | rfl <;> simp [endsPath]
  have hall : bytes.all isPathByte = true := List.all_eq_true.mpr fun b hb => (h b hb).1
  simp only [Target.ofPath, htake, hdrop, hall]
  rcases hmark with rfl | rfl <;> rfl

theorem parse_address {text mark : String} (hslash : text.toList.head? = some '/')
    (h : ∀ c ∈ text.toList, isAddressChar c) (hlength : text.toList.length < longestTarget)
    (hmark : mark = "" ∨ mark = "?") : Target.parse (text ++ mark) = .ok ⟨encode text, []⟩ := by
  obtain ⟨hsize, hbytes⟩ := encode_address h
  have hencode : encode (text ++ mark) = encode text ++ encode mark := by
    simp only [encode, String.toList_append, List.flatMap_append]
  have hmarkBytes : encode mark = [] ∨ encode mark = [questionMark] := by
    rcases hmark with rfl | rfl
    · exact .inl rfl
    · exact .inr rfl
  have hmarkSize : (encode mark).length ≤ 1 := by
    rcases hmarkBytes with hbytes | hbytes <;> simp [hbytes]
  obtain ⟨rest, hrest⟩ : ∃ rest, encode text = 0x2F :: rest := by
    obtain ⟨chars, hchars⟩ := List.head?_eq_some_iff.mp hslash
    exact ⟨_, by rw [encode, hchars]; rfl⟩
  have hpath := ofPath_address hbytes hmarkBytes
  rw [Target.parse, hencode]
  simp only [List.length_append]
  rw [if_neg (by omega)]
  rw [hrest] at hpath ⊢
  exact hpath

/-- Whether a text is the name of an object or of a namespace. A namespace is named by a single
label of at most 63 bytes. -/
def IsObjectName (name : String) : Prop :=
  isDnsName name = true ∧ name.toList.length ≤ 253

theorem ne_empty_of_isDnsName {name : String} (h : isDnsName name) : name ≠ "" := by
  rintro rfl
  cases h

theorem IsObjectName.ne_empty {name : String} (h : IsObjectName name) : name ≠ "" :=
  ne_empty_of_isDnsName h.1

theorem eq_point_or_isLabelChar {name : String} (h : isDnsName name) {c : Char}
    (hc : c ∈ name.toList) : c = '.' ∨ isLabelChar c := by
  rcases Text.mem_of_mem_cutAt (· = '.') hc with hpoint | ⟨piece, hpiece, hc⟩
  · exact .inl (of_decide_eq_true hpoint)
  · have hlabel := List.all_eq_true.mp h piece hpiece
    simp only [isLabel, Bool.and_eq_true] at hlabel
    exact .inr (List.all_eq_true.mp hlabel.1.1 c hc)

theorem isAddressChar_of_isDnsName {name : String} (h : isDnsName name) :
    ∀ c ∈ name.toList, isAddressChar c := by
  intro c hc
  rcases eq_point_or_isLabelChar h hc with rfl | hchar
  · rfl
  · simp [Http.isAddressChar, hchar]

/-- Whether a text is a path of such characters and of bounded length. -/
structure IsAddress (text : String) (bound : Nat) : Prop where
  slash : text.toList.head? = some '/'
  chars : text.toList.all Http.isAddressChar
  length_le : text.toList.length ≤ bound

theorem IsAddress.append {text piece : String} {bound size : Nat} (h : IsAddress text bound)
    (hchars : piece.toList.all Http.isAddressChar) (hsize : piece.toList.length ≤ size) :
    IsAddress (text ++ piece) (bound + size) where
  slash := by rw [String.toList_append, List.head?_append, h.slash, Option.some_or]
  chars := by rw [String.toList_append, List.all_append, h.chars, hchars, Bool.and_self]
  length_le := by
    have hlength := h.length_le
    rw [String.toList_append, List.length_append]
    omega

theorem IsAddress.name {text name : String} {bound : Nat} (h : IsAddress text bound)
    (hname : IsObjectName name) : IsAddress (text ++ name) (bound + 253) :=
  h.append (List.all_eq_true.mpr (isAddressChar_of_isDnsName hname.1)) hname.2

theorem IsAddress.object {collection name : String} {bound : Nat} (h : IsAddress collection bound)
    (hname : IsObjectName name) : IsAddress (collection ++ "/" ++ name) (bound + 1 + 253) :=
  (h.append (by decide) (by decide)).name hname

/-- The length of the longest address of a collection. -/
def longestCollection : Nat := 60 + 12 + 253 + 1 + 60

theorem isAddress_collection {group space plural : String} (hgroup : IsAddress group 60)
    (hspace : IsObjectName space) (hchars : plural.toList.all Http.isAddressChar)
    (hsize : plural.toList.length ≤ 60) :
    IsAddress (Cluster.collectionAddress group space plural) longestCollection :=
  (((hgroup.append (by decide) (by decide)).name hspace).append (by decide) (by decide)).append
    hchars hsize

theorem IsAddress.parse_eq {text mark : String} {bound : Nat} (h : IsAddress text bound)
    (hbound : bound < longestTarget) (hmark : mark = "" ∨ mark = "?") :
    Target.parse (text ++ mark) = .ok ⟨encode text, []⟩ :=
  parse_address h.slash (List.all_eq_true.mp h.chars) (Nat.lt_of_le_of_lt h.length_le hbound) hmark

end ClusterOperator.Http
