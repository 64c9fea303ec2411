import ClusterOperator.Http.Route
import ClusterOperator.Proofs.Http.Target

namespace ClusterOperator

namespace Http

open Text.Utf8 (encode encode_append)

theorem percentDecode_eq {bytes : List UInt8} (h : percent ∉ bytes) : percentDecode bytes = bytes := by
  induction bytes with
  | nil => rfl
  | cons b rest ih =>
      rw [List.mem_cons, not_or] at h
      rw [percentDecode.eq_def]
      simp only [if_neg (Ne.symm h.1), ih h.2]

theorem byte_of_isAddressChar {c : Char} (h : isAddressChar c) (hc : c ≠ '/') :
    UInt8.ofNat c.toNat ≠ slash ∧ UInt8.ofNat c.toNat ≠ percent := by
  have hmarks : isAddressChar c → c ≠ '/' →
      UInt8.ofNat c.toNat ≠ slash ∧ UInt8.ofNat c.toNat ≠ percent := by
    refine Text.Utf8.of_ascii (toNat_lt_of_isAddressChar h) ?_
    decide
  exact hmarks h hc

theorem not_mem_toList_of_isDnsName {name : String} (h : isDnsName name) : '/' ∉ name.toList := by
  intro hmem
  rcases eq_point_or_isLabelChar h hmem with hpoint | hchar
  · exact absurd hpoint (by decide)
  · exact absurd hchar (by decide)

theorem not_mem_encode_of_isDnsName {name : String} (h : isDnsName name) :
    slash ∉ encode name ∧ percent ∉ encode name := by
  have hchars := isAddressChar_of_isDnsName h
  have hbytes : ∀ c ∈ name.toList,
      UInt8.ofNat c.toNat ≠ slash ∧ UInt8.ofNat c.toNat ≠ percent := by
    intro c hc
    apply byte_of_isAddressChar (hchars c hc)
    rintro rfl
    exact not_mem_toList_of_isDnsName h hc
  rw [Text.Utf8.encode_eq fun c hc => toNat_lt_of_isAddressChar (hchars c hc)]
  constructor
  · intro hmem
    obtain ⟨c, hc, hslash⟩ := List.mem_map.mp hmem
    exact (hbytes c hc).1 hslash
  · intro hmem
    obtain ⟨c, hc, hpercent⟩ := List.mem_map.mp hmem
    exact (hbytes c hc).2 hpercent

theorem segment_of_isDnsName {name : String} (h : isDnsName name) :
    encode name ≠ [] ∧ slash ∉ encode name ∧ segmentText? (encode name) = some name := by
  obtain ⟨hslash, hpercent⟩ := not_mem_encode_of_isDnsName h
  refine ⟨?_, hslash, ?_⟩
  · rw [Text.Utf8.encode_eq fun c hc => toNat_lt_of_isAddressChar (isAddressChar_of_isDnsName h c hc)]
    intro hempty
    apply ne_empty_of_isDnsName h
    exact String.toList_eq_nil_iff.mp (List.map_eq_nil_iff.mp hempty)
  · rw [segmentText?, percentDecode_eq hpercent, Text.Utf8.decode?_encode]
    exact congrArg some String.ofList_toList

section Paths

def collectionPath (k : Kind) : String :=
  basePath ++ "/" ++ k.plural

variable {k : Kind}

theorem stripped?_append (front : String) (rest : List UInt8) :
    stripped? front (encode front ++ rest) = some rest := by
  simp [stripped?]

theorem resourceOf?_of_ne {j : Kind} (h : j ≠ k) (rest : List UInt8) :
    resourceOf? j (encode ("/" ++ k.plural) ++ rest) = none := by
  cases j <;> cases k <;> first | rfl | exact absurd rfl h

theorem encode_basePath_ne (rest : List UInt8) :
    encode basePath ++ rest ≠ encode "/health" ∧ encode basePath ++ rest ≠ encode "/ready" := by
  constructor <;>
  · intro h
    injection h with _ h
    injection h with h _
    exact absurd h (by decide)

theorem findSome?_resourceOf? (k : Kind) (rest : List UInt8) :
    [Kind.storage, .backup, .restore, .schedule].findSome?
        (resourceOf? · (encode ("/" ++ k.plural) ++ rest)) =
      resourceOf? k (encode ("/" ++ k.plural) ++ rest) := by
  have hother : ∀ j, j ≠ k → resourceOf? j (encode ("/" ++ k.plural) ++ rest) = none :=
    fun _ h => resourceOf?_of_ne h rest
  simp only [List.findSome?_cons, List.findSome?_nil]
  cases k with
  | storage =>
      rw [hother .backup (by decide), hother .restore (by decide), hother .schedule (by decide)]
      cases resourceOf? .storage _ <;> rfl
  | backup =>
      rw [hother .storage (by decide), hother .restore (by decide), hother .schedule (by decide)]
      cases resourceOf? .backup _ <;> rfl
  | restore =>
      rw [hother .storage (by decide), hother .backup (by decide), hother .schedule (by decide)]
      cases resourceOf? .restore _ <;> rfl
  | schedule =>
      rw [hother .storage (by decide), hother .backup (by decide), hother .restore (by decide)]
      cases resourceOf? .schedule _ <;> rfl

/-- Behind the path of its collection, only one kind is looked at. -/
theorem resource?_collectionPath (k : Kind) (rest : List UInt8) :
    resource? (encode (collectionPath k) ++ rest) =
      resourceOf? k (encode ("/" ++ k.plural) ++ rest) := by
  have hpath : encode (collectionPath k) ++ rest =
      encode basePath ++ (encode ("/" ++ k.plural) ++ rest) := by
    simp only [collectionPath, encode_append, List.append_assoc]
  obtain ⟨hhealth, hready⟩ := encode_basePath_ne (encode ("/" ++ k.plural) ++ rest)
  rw [hpath, resource?, if_neg hhealth, if_neg hready, stripped?_append, Option.bind_some,
    findSome?_resourceOf?]

theorem resource?_collection (k : Kind) :
    resource? (encode (collectionPath k)) = some (.collection k) := by
  have hresource := resource?_collectionPath k []
  rw [List.append_nil, resourceOf?, stripped?_append] at hresource
  exact hresource

end Paths

end Http

end ClusterOperator
